import TranscriptSearch.Proofs.Service.Reachable
import TranscriptSearch.Proofs.Snapshot.Record
import TranscriptSearch.Snapshot.Fingerprint

/-!
# Service — the fingerprint that is written

A snapshot takes its fingerprint from the settings, and its rule for terms from the index that was
merged into.  The two agree: an index is merged into only if it was written with the fingerprint of
the settings, and what is read has the rule and the fingerprint that were written.

* `TermRule.fingerprint_eq`: the fingerprint of a rule is that of its least length.
* `Snapshot.IsStamped`: a snapshot has the fingerprint of its own rule.
* `Snapshot.IsStamped.ofOctets_eq`, `Snapshot.IsStamped.of_ofOctets`: what is read where such a
  snapshot was written.
* `Service.isStamped_of_construct`: a build leads to such a snapshot.
-/

namespace TranscriptSearch

/-- The fingerprint of a rule is that of its least length, at the current schema. -/
theorem TermRule.fingerprint_eq {rule : TermRule} (h : rule.minLength < UInt64.size) :
    rule.fingerprint =
      (IndexingSettings.mk IndexingSettings.currentSchema (.ofNat rule.minLength)).fingerprint := by
  rw [fingerprint, IndexingSettings.ofRule, Nat.min_eq_left (Nat.le_sub_one_of_lt h)]

/-- A record has the fingerprint of the current schema and of the least length that is written in
it. -/
structure SnapshotRecord.IsStamped (r : SnapshotRecord) : Prop where
  /-- The least length has 64 bits. -/
  minLength : r.content.minLength < UInt64.size
  /-- The fingerprint is that of the length. -/
  fingerprint : r.fingerprint = (IndexingSettings.mk IndexingSettings.currentSchema
    (.ofNat r.content.minLength)).fingerprint

namespace Snapshot

/-- A snapshot has the fingerprint of its own rule, and could be read if its counts are not too
large. -/
structure IsStamped (x : Snapshot) : Prop where
  /-- The index is linked. -/
  linked : x.index.Linked
  /-- Its timecodes are finite. -/
  timed : x.index.stored.IsTimed
  /-- The least length of a term has 64 bits. -/
  minLength : x.index.rule.minLength < UInt64.size
  /-- The fingerprint is that of the rule. -/
  fingerprint : x.fingerprint = x.index.rule.fingerprint

variable {x y : Snapshot} {s : Store}

/-- Such a snapshot can be read, unless its counts are too large. -/
theorem IsStamped.isReadable (hx : x.IsStamped) (hc : x.index.IsCountable) : x.IsReadable :=
  (isReadable_iff hx.timed hx.minLength).2
    ⟨hc.size, hx.linked.legible_stored hx.timed hc hx.minLength⟩

/-- **What can be read is read for its own fingerprint**, and is stale for any other one. -/
theorem IsStamped.ofOctets_eq (hx : x.IsStamped) (hr : x.IsReadable) (s : Store) :
    s.ofOctets x.octets =
      if x.fingerprint = s.fingerprint then .ok x.reread
      else .error (.error (.stale x.fingerprint s.fingerprint)) := by
  obtain ⟨hcount, hlegible⟩ := (isReadable_iff hx.timed hx.minLength).1 hr
  exact Store.ofOctets_octets_eq hx.linked hcount hlegible

/-- What is read has the fingerprint of its own rule again. -/
theorem IsStamped.reread (hx : x.IsStamped) : x.reread.IsStamped where
  linked := hx.linked.reread
  timed := by
    rw [Snapshot.reread, Index.stored_reread]
    exact hx.timed.reread
  minLength := hx.minLength
  fingerprint := hx.fingerprint

theorem IsStamped.record (hx : x.IsStamped) : (SnapshotRecord.ofSnapshot x).IsStamped :=
  ⟨hx.minLength, hx.fingerprint.trans (TermRule.fingerprint_eq hx.minLength)⟩

/-- **So has the record that is read of it.** -/
theorem IsStamped.of_read (hx : x.IsStamped) {r : SnapshotRecord}
    (h : SnapshotRecord.read x.octets = .ok r) : r.IsStamped := by
  obtain ⟨hcount, hlegible⟩ := (isReadable_iff hx.timed hx.minLength).1 ⟨r, h⟩
  have read := SnapshotRecord.read_encode (r := .ofSnapshot x) hcount hlegible
  obtain rfl := Except.ok.inj (read.symm.trans h)
  exact ⟨hx.record.minLength, hx.record.fingerprint⟩

/-- **Whatever is loaded of it** was written for the settings of the reader. -/
theorem IsStamped.of_ofOctets (hx : x.IsStamped) (h : s.ofOctets x.octets = .ok y) :
    x.fingerprint = s.fingerprint ∧ y = x.reread := by
  obtain ⟨r, hread, -⟩ := Store.of_ofOctets h
  rw [hx.ofOctets_eq ⟨r, hread⟩] at h
  split at h
  next hf => exact ⟨hf, (Except.ok.inj h).symm⟩
  next => cases h

/-- **What was written for the settings of the reader** is not told as stale. -/
theorem ofOctets_ne_stale (h : x.fingerprint = s.fingerprint) (stored expected : Text) :
    s.ofOctets x.octets ≠ .error (.error (.stale stored expected)) := by
  intro hstale
  rw [Store.ofOctets] at hstale
  split at hstale
  next fault _ => cases fault <;> cases hstale
  next r hread =>
    have fingerprint : r.fingerprint = s.fingerprint :=
      (SnapshotRecord.of_read_encode hread).1.trans h
    rw [Store.accept] at hstale
    split at hstale
    next => cases hstale
    rw [if_neg (not_not.2 fingerprint)] at hstale
    split at hstale
    next => cases hstale
    next => split at hstale <;> cases hstale

/-- **What was written for other settings** is an error, and not that there is no snapshot. -/
theorem IsStamped.exists_error (hx : x.IsStamped) (h : x.fingerprint ≠ s.fingerprint) :
    ∃ cause, s.ofOctets x.octets = .error (.error cause) ∧ ∀ path, cause ≠ .missing path := by
  cases hy : s.ofOctets x.octets with
  | ok y => exact absurd (hx.of_ofOctets hy).1 h
  | error failure =>
      cases failure with
      | error cause => exact ⟨cause, rfl, fun path e => s.ofOctets_ne_missing _ path (e ▸ hy)⟩
      | breakdown fault =>
          rw [Store.ofOctets] at hy
          split at hy
          next fault' hread =>
            cases fault' with
            | malformed => cases hy
            | breakdown fault' =>
                exact absurd hread (SnapshotRecord.read_encode_ne_breakdown _ fault')
          next r _ => cases hr : s.accept r <;> rw [hr] at hy <;> cases hy

/-- A merge keeps the fingerprint right. -/
theorem IsStamped.merge (hx : x.IsStamped) (batch : List Transcript) (now : Moment) :
    IsStamped ⟨x.index.merge batch, now, x.fingerprint⟩ where
  linked := hx.linked.merge batch
  timed := hx.linked.isTimed_merge hx.timed batch
  minLength := by
    rw [Index.rule_merge]
    exact hx.minLength
  fingerprint := by
    rw [Index.rule_merge]
    exact hx.fingerprint

/-- A snapshot of nothing. -/
theorem isStamped_empty {rule : TermRule} (h : rule.minLength < UInt64.size) (now : Moment) :
    IsStamped ⟨.empty rule, now, rule.fingerprint⟩ :=
  ⟨Index.linked_empty rule, Index.isTimed_empty rule, h, rfl⟩

end Snapshot

namespace Service

/-- **A build leads to a snapshot with the fingerprint of its own rule**, if what it may have loaded
had that of its own. -/
theorem isStamped_of_construct {rule : TermRule} (hrule : rule.minLength < UInt64.size)
    {directory : Path} {refused : Refusals} {now : Moment} {files files' : FileTree} {r : Request}
    {x : Snapshot}
    (hbase : ∀ {y}, Store.load ⟨directory, rule.fingerprint⟩ refused files = .ok y →
      y.IsStamped ∧ y.fingerprint = rule.fingerprint)
    (h : (start ⟨directory, rule.fingerprint⟩ rule).construct refused now files r =
      (files', .ok x)) :
    x.IsStamped := by
  obtain ⟨hindex, hx, -⟩ := of_construct h
  have header : x = ⟨x.index, now, rule.fingerprint⟩ := hx
  rw [header]
  cases r with
  | full ts =>
      rw [← Except.ok.inj hindex]
      exact (Snapshot.isStamped_empty hrule now).merge ts now
  | incremental changed =>
      rw [newIndex] at hindex
      cases hb : (start ⟨directory, rule.fingerprint⟩ rule).base refused files with
      | error e => rw [hb] at hindex; cases hindex
      | ok base =>
          rw [hb] at hindex
          rw [← Except.ok.inj hindex]
          obtain ⟨y, hload, rfl⟩ | ⟨place, -, rfl⟩ := of_base rfl hb
          · obtain ⟨hy, hf⟩ := hbase hload
            rw [← hf]
            exact hy.merge changed.values now
          · exact (Snapshot.isStamped_empty hrule now).merge changed.values now

end Service

end TranscriptSearch
