import TranscriptSearch.Proofs.Index.Reread
import TranscriptSearch.Snapshot.Store

/-!
# Snapshot — what is written and read

* `Moment.ofSeconds?_wholeSeconds`: the second that is written of a moment reads back.
* `SnapshotRecord.read_encode`: the octets of a record are read as that record, its
  moment truncated and its timecodes read again.
* `SnapshotRecord.of_read_encode`: what is read of a record that need not be readable.
* `Index.Storable`: what an index has to keep to so that it reads back.
* `Snapshot.isReadable_iff`: which snapshots can be read.
* `Store.ofOctets_octets_eq`: a snapshot is read for its own fingerprint, its timecodes read again,
  and is stale for any other one.
* `Store.ofOctets_octets`: a snapshot of an index that reads back is read as it was written, its
  moment truncated.
-/

namespace TranscriptSearch

open Json

/-! ### Moments -/

/-- **The second that is written of a moment reads back.** -/
theorem Moment.ofSeconds?_wholeSeconds (m : Moment) :
    ofSeconds? m.wholeSeconds = some m.truncated := by
  have hmax := m.seconds.toInt_lt
  rw [ofSeconds?, if_pos (by rw [limit, wholeSeconds, Nat.pow_eq]; omega), truncated, wholeSeconds]
  have second : Int64.ofNat m.seconds.toInt.toNat = if m.seconds < 0 then 0 else m.seconds := by
    split
    next h =>
      rw [Int64.lt_iff_toInt_lt, Int64.toInt_zero] at h
      rw [Int.toNat_of_nonpos h.le]
      rfl
    next h =>
      rw [Int64.lt_iff_toInt_lt, Int64.toInt_zero, not_lt] at h
      rw [← Int64.ofInt_eq_ofNat, Int.toNat_of_nonneg h, Int64.ofInt_toInt]
  rw [second]

theorem Moment.wholeSeconds_lt (m : Moment) : m.wholeSeconds < UInt64.size := by
  have := m.seconds.toInt_lt
  rw [wholeSeconds, UInt64.size]
  omega

/-! ### Records -/

namespace SnapshotRecord

theorem toJson_eq (r : SnapshotRecord) :
    r.toJson = .object (placed fieldNames
      [(0, ofNat r.version.toNat), (1, .string r.fingerprint), (2, ofNat r.builtAt.wholeSeconds),
        (3, ofNat r.sessionCount), (4, r.content.toJson)]) := rfl

theorem isWritable_toJson (r : SnapshotRecord) : IsWritable r.toJson :=
  ⟨rfl, isWritable_ofNat _, rfl, trivial, rfl, isWritable_ofNat _, rfl, isWritable_ofNat _, rfl,
    r.content.isWritable_toJson, trivial⟩

/-- The record as it is when it was written and read again. -/
def truncated (r : SnapshotRecord) : SnapshotRecord := { r with builtAt := r.builtAt.truncated }

variable {r : SnapshotRecord}

theorem fields_toJson (r : SnapshotRecord) :
    fields fieldNames r.toJson = ⟨[(0, ofNat r.version.toNat), (1, .string r.fingerprint),
      (2, ofNat r.builtAt.wholeSeconds), (3, ofNat r.sessionCount),
      (4, r.content.toJson)], true⟩ := by
  rw [toJson_eq, fields_placed (by decide) (by simp [fieldNames]) (by simp)]

theorem second?_builtAt (r : SnapshotRecord) :
    second? (ofNat r.builtAt.wholeSeconds) = some r.builtAt.wholeSeconds :=
  natural?_ofNat r.builtAt.wholeSeconds_lt

/-- The octets of a record are the text of its value. -/
theorem read_encode_eq (r : SnapshotRecord) :
    read (Text.encode r.toJson.compact) = ofFields (fields fieldNames r.toJson) := by
  simp only [read, readOctets_compact r.isWritable_toJson, if_true]
  split <;> simp_all

/-- **The octets of a record are read as that record**, its timecodes read again. -/
theorem read_encode (hcount : r.sessionCount < UInt64.size) (h : r.content.Legible) :
    read (Text.encode r.toJson.compact) = .ok { r.truncated with content := r.content.reread } := by
  have content : content? r.content.toJson = some r.content.reread := h.ofJson?_toJson 1
  rw [read_encode_eq, fields_toJson, ofFields]
  simp [ofFields?, Fields.get?, List.lookup_cons, word32?_ofNat, text?, builtAtField,
    r.second?_builtAt, Moment.ofSeconds?_wholeSeconds, natural?_ofNat hcount, content, truncated]

/-- What is read of a record, if it is read. -/
theorem of_read_encode {r' : SnapshotRecord} (h : read (Text.encode r.toJson.compact) = .ok r') :
    r'.fingerprint = r.fingerprint ∧ r.sessionCount < UInt64.size ∧
      content? r.content.toJson = some r'.content := by
  rw [read_encode_eq, fields_toJson, ofFields] at h
  split at h
  next r'' hfields =>
    cases h
    simp only [ofFields?, Fields.get?, List.lookup_cons, builtAtField, Option.bind_eq_bind,
      Option.bind_eq_some_iff] at hfields
    obtain ⟨-, -, v₀, -, version, -, v₁, h₁, fingerprint, hfingerprint, v₂, -, second, -,
      builtAt, -, v₃, h₃, sessionCount, hcount, v₄, h₄, content, hcontent, h⟩ := hfields
    cases h₁
    cases hfingerprint
    cases h₃
    cases h₄
    cases h
    exact ⟨rfl, lt_of_natural?_ofNat hcount, hcontent⟩
  next => cases h

/-- **Whoever reads a record is not stopped.** -/
theorem read_encode_ne_breakdown (r : SnapshotRecord) (fault : Breakdown) :
    read (Text.encode r.toJson.compact) ≠ .error (.breakdown fault) := by
  have reached : overflows (ofNat r.builtAt.wholeSeconds) = false := by
    have hmax := r.builtAt.seconds.toInt_lt
    rw [overflows, second?_builtAt, Option.any_some, decide_eq_false_iff_not, Moment.limit,
      Moment.wholeSeconds, Nat.pow_eq]
    omega
  have unmet : meetsOverflow (fields fieldNames r.toJson) = false := by
    rw [fields_toJson, meetsOverflow]
    simp [List.span, List.span.loop, builtAtField, reached]
  rw [read_encode_eq, ofFields, unmet]
  intro h
  split at h <;> cases h

end SnapshotRecord

/-! ### Snapshots -/

/-- What an index has to keep to so that it reads back: its numbers are not too large, and its
timecodes read back. -/
structure Index.Storable (x : Index) : Prop where
  /-- The least length of a term has 64 bits. -/
  minLength : x.rule.minLength < UInt64.size
  /-- The number of sessions has 64 bits. -/
  size : x.sessions.size < UInt64.size
  /-- The position of every line has 32 bits. -/
  length : ∀ s ∈ x.sessions.values, s.lines.length ≤ UInt32.size
  /-- The timecodes of the lines read back. -/
  lines : ∀ s ∈ x.sessions.values, ∀ l ∈ s.lines, ReadsBack l.timecode
  /-- The timecodes of the occurrences read back. -/
  occurrences : ∀ ps ∈ x.postings.values, ∀ p ∈ ps, ReadsBack p.timecode

theorem Index.storable_iff {x : Index} : x.Storable ↔
    (x.rule.minLength < UInt64.size ∧ x.sessions.size < UInt64.size) ∧
      (∀ s ∈ x.sessions.values, s.lines.length ≤ UInt32.size) ∧
      (∀ s ∈ x.sessions.values, ∀ l ∈ s.lines, ReadsBack l.timecode) ∧
      ∀ ps ∈ x.postings.values, ∀ p ∈ ps, ReadsBack p.timecode :=
  ⟨fun h => ⟨⟨h.1, h.2⟩, h.3, h.4, h.5⟩, fun h => ⟨h.1.1, h.1.2, h.2.1, h.2.2.1, h.2.2.2⟩⟩

instance (x : Index) : Decidable x.Storable := decidable_of_iff' _ Index.storable_iff

/-- The stored form of an index that keeps to this fits. -/
theorem Index.Storable.fits {x : Index} (h : x.Storable) (hl : x.Linked) : x.stored.Fits where
  minLength := h.minLength
  lines s hs := by
    obtain ⟨s', hs', rfl⟩ := List.mem_map.1 hs
    exact h.lines s' hs'
  postings e he p hp :=
    have values : e.2 ∈ x.postings.values := List.mem_map_of_mem he
    ⟨hl.line_lt h.length e.2 values p hp, h.occurrences e.2 values p hp⟩

/-- Such an index comes back as it was. -/
theorem Index.Storable.reread_self {x : Index} (h : x.Storable) (hl : x.Linked) : x.reread = x := by
  have stored : x.reread.stored = x.stored := x.stored_reread.trans (h.fits hl).reread_self
  have index := hl.reread.index_stored
  rw [stored, hl.index_stored] at index
  exact (Except.ok.inj index).symm

namespace Snapshot

/-- The snapshot that is read where a snapshot was written. -/
def reread (x : Snapshot) : Snapshot := { x.truncated with index := x.index.reread }

/-- Whether the octets of a snapshot are those of a record to their reader. -/
def IsReadable (x : Snapshot) : Prop := ∃ r, SnapshotRecord.read x.octets = .ok r

/-- **A snapshot can be read just if its counts are not too large.** -/
theorem isReadable_iff {x : Snapshot} (ht : x.index.stored.IsTimed)
    (hlength : x.index.rule.minLength < UInt64.size) :
    x.IsReadable ↔ x.index.sessions.size < UInt64.size ∧ x.index.stored.Legible := by
  constructor
  · rintro ⟨r, hr⟩
    obtain ⟨-, hcount, hcontent⟩ := SnapshotRecord.of_read_encode hr
    exact ⟨hcount, ht.legible_of_ofJson? hlength hcontent⟩
  · rintro ⟨hcount, hlegible⟩
    exact ⟨_, SnapshotRecord.read_encode (r := .ofSnapshot x) hcount hlegible⟩

end Snapshot

namespace Store

variable {s : Store} {x : Snapshot}

/-- **A snapshot is read for its own fingerprint**, and is stale for any other one. -/
theorem ofOctets_octets_eq (hl : x.index.Linked) (hcount : x.index.sessions.size < UInt64.size)
    (h : x.index.stored.Legible) :
    s.ofOctets x.octets =
      if x.fingerprint = s.fingerprint then .ok x.reread
      else .error (.error (.stale x.fingerprint s.fingerprint)) := by
  have read := SnapshotRecord.read_encode (r := .ofSnapshot x) hcount h
  have index : x.index.stored.reread.index = .ok x.index.reread := by
    rw [← Index.stored_reread, hl.reread.index_stored]
  simp only [ofOctets, Snapshot.octets, read]
  split
  next hf =>
    simp [accept, SnapshotRecord.ofSnapshot, SnapshotRecord.truncated, hf, index,
      Snapshot.sessionCount, Index.size_sessions_reread, Snapshot.reread, Snapshot.truncated,
      Except.mapError]
  next hf =>
    simp [accept, SnapshotRecord.ofSnapshot, SnapshotRecord.truncated, hf, Except.mapError]

/-- **So is a snapshot that reads back**, as it was written, its moment truncated. -/
theorem ofOctets_octets_of_storable (hl : x.index.Linked) (hx : x.index.Storable) :
    s.ofOctets x.octets =
      if x.fingerprint = s.fingerprint then .ok x.truncated
      else .error (.error (.stale x.fingerprint s.fingerprint)) := by
  rw [ofOctets_octets_eq hl hx.size (hx.fits hl).legible, Snapshot.reread, hx.reread_self hl]
  rfl

/-- **A snapshot is read as it was written**, its moment truncated. -/
theorem ofOctets_octets (hl : x.index.Linked) (hx : x.index.Storable)
    (hf : x.fingerprint = s.fingerprint) : s.ofOctets x.octets = .ok x.truncated := by
  rw [ofOctets_octets_of_storable hl hx, if_pos hf]

end Store

end TranscriptSearch
