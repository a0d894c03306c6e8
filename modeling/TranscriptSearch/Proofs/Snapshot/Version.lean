import TranscriptSearch.Proofs.Json.Whole
import TranscriptSearch.Proofs.Snapshot.Breakdown
import TranscriptSearch.Proofs.Snapshot.Record

/-!
# Snapshot — a file with another version of the format

The version of a snapshot file is one of the fields of its record, and it is compared only after the
whole record was read.  So a file with another version is told as one when it has the layout of the
current version; with any other layout it is not told from a damaged file.

* `SnapshotRecord.HasLayout`: the members of an object with the layout of a record.
* `SnapshotRecord.exists_ofFields?_iff`: they are what can be read as a record.
* `Store.load_of_version`: what is said of a file with another version.
* `Store.bareVersion_told_corrupt`: one that is told as a damaged file.
-/

namespace TranscriptSearch

open Json

namespace SnapshotRecord

/-- Members with the layout of a record: no key is a broken string, each field is given once and its
value can be read, and a clock reaches the second of the build. -/
structure HasLayout (ms : List (Option Text × Json)) : Prop where
  /-- No key is a broken string. -/
  keys : ∀ m ∈ ms, m.1 ≠ none
  /-- Each field is given once, and its value can be read. -/
  readable : ∀ i (h : i < fieldNames.length),
    ∃ v, valuesOf fieldNames[i].toList ms = [v] ∧ isReadable (i, v) = true
  /-- A clock reaches the second of the build. -/
  reached : ∀ v ∈ valuesOf "built_at".toList ms, overflows v = false

/-- Among the members there is the version `n`. -/
def HasVersion (ms : List (Option Text × Json)) (n : UInt32) : Prop :=
  ∃ v, (some "format_version".toList, v) ∈ ms ∧ v.word32? = some n

variable {f : Fields} {r : SnapshotRecord} {ms : List (Option Text × Json)} {n : UInt32}

theorem nodup_fieldNames : (fieldNames.map String.toList).Nodup := by decide

/-- **A record is read of its fields**: there was no fault, and each field gives its part. -/
theorem ofFields?_eq_some_iff : ofFields? f = some r ↔ f.isSound = true ∧
    (∃ v, f.get? 0 = some v ∧ v.word32? = some r.version) ∧
    (∃ v, f.get? 1 = some v ∧ v.text? = some r.fingerprint) ∧
    (∃ v, f.get? builtAtField = some v ∧
      ∃ n, second? v = some n ∧ Moment.ofSeconds? n = some r.builtAt) ∧
    (∃ v, f.get? 3 = some v ∧ v.natural? UInt64.size = some r.sessionCount) ∧
    ∃ v, f.get? 4 = some v ∧ content? v = some r.content := by
  by_cases hsound : f.isSound = true
  · rw [ofFields?, Text.guard_of hsound, and_iff_right hsound]
    simp only [Option.bind_eq_bind, Option.bind_some, Option.bind_eq_some_iff]
    constructor
    · rintro ⟨v₀, h₀, version, hversion, v₁, h₁, fingerprint, hfingerprint, v₂, h₂, second, hsecond,
        builtAt, hbuiltAt, v₃, h₃, count, hcount, v₄, h₄, content, hcontent, hr⟩
      obtain rfl := Option.some.inj hr
      exact ⟨⟨v₀, h₀, hversion⟩, ⟨v₁, h₁, hfingerprint⟩, ⟨v₂, h₂, second, hsecond, hbuiltAt⟩,
        ⟨v₃, h₃, hcount⟩, v₄, h₄, hcontent⟩
    · rintro ⟨⟨v₀, h₀, hversion⟩, ⟨v₁, h₁, hfingerprint⟩, ⟨v₂, h₂, second, hsecond, hbuiltAt⟩,
        ⟨v₃, h₃, hcount⟩, v₄, h₄, hcontent⟩
      exact ⟨v₀, h₀, _, hversion, v₁, h₁, _, hfingerprint, v₂, h₂, second, hsecond, _, hbuiltAt,
        v₃, h₃, _, hcount, v₄, h₄, _, hcontent, rfl⟩
  · rw [ofFields?, Text.guard_of_not hsound]
    exact iff_of_false (fun h => by cases h) fun h => hsound h.1

theorem overflows_eq_false_iff {v : Json} {n : Nat} (hn : second? v = some n) :
    overflows v = false ↔ (Moment.ofSeconds? n).isSome = true := by
  rw [overflows, hn, Option.any_some, decide_eq_false_iff_not, not_le, Moment.ofSeconds?]
  split <;> simp [*]

/-- **Fields are a record** when there was no fault, each of them can be read, and a clock reaches
the second of the build. -/
theorem exists_ofFields?_iff : (∃ r, ofFields? f = some r) ↔ f.isSound = true ∧
    (∀ i < fieldNames.length, ∃ v, f.get? i = some v ∧ isReadable (i, v) = true) ∧
      ∀ v, f.get? builtAtField = some v → overflows v = false := by
  have each : ∀ {p : Nat → Prop}, (∀ i < fieldNames.length, p i) ↔ p 0 ∧ p 1 ∧ p 2 ∧ p 3 ∧ p 4 := by
    intro p
    simp only [fieldNames, List.length_cons, List.length_nil, Nat.forall_lt_succ_right]
    simp [and_assoc]
  rw [each]
  constructor
  · rintro ⟨r, h⟩
    obtain ⟨hsound, ⟨v₀, h₀, hversion⟩, ⟨v₁, h₁, hfingerprint⟩, ⟨v₂, h₂, second, hsecond, hbuiltAt⟩,
      ⟨v₃, h₃, hcount⟩, v₄, h₄, hcontent⟩ := ofFields?_eq_some_iff.1 h
    refine ⟨hsound, ⟨⟨v₀, h₀, Option.isSome_of_eq_some hversion⟩,
      ⟨v₁, h₁, Option.isSome_of_eq_some hfingerprint⟩, ⟨v₂, h₂, Option.isSome_of_eq_some hsecond⟩,
      ⟨v₃, h₃, Option.isSome_of_eq_some hcount⟩, v₄, h₄, Option.isSome_of_eq_some hcontent⟩, ?_⟩
    intro v hv
    obtain rfl := Option.some.inj (hv.symm.trans h₂)
    exact (overflows_eq_false_iff hsecond).2 (Option.isSome_of_eq_some hbuiltAt)
  · rintro ⟨hsound,
      ⟨⟨v₀, h₀, hversion⟩, ⟨v₁, h₁, hfingerprint⟩, ⟨v₂, h₂, hsecond⟩, ⟨v₃, h₃, hcount⟩,
      v₄, h₄, hcontent⟩, hreached⟩
    obtain ⟨version, hversion⟩ := Option.isSome_iff_exists.1 hversion
    obtain ⟨fingerprint, hfingerprint⟩ := Option.isSome_iff_exists.1 hfingerprint
    obtain ⟨second, hsecond⟩ := Option.isSome_iff_exists.1 hsecond
    obtain ⟨builtAt, hbuiltAt⟩ :=
      Option.isSome_iff_exists.1 ((overflows_eq_false_iff hsecond).1 (hreached v₂ h₂))
    obtain ⟨count, hcount⟩ := Option.isSome_iff_exists.1 hcount
    obtain ⟨content, hcontent⟩ := Option.isSome_iff_exists.1 hcontent
    exact ⟨⟨version, fingerprint, builtAt, count, content⟩, ofFields?_eq_some_iff.2 ⟨hsound,
      ⟨v₀, h₀, hversion⟩, ⟨v₁, h₁, hfingerprint⟩, ⟨v₂, h₂, second, hsecond, hbuiltAt⟩,
      ⟨v₃, h₃, hcount⟩, v₄, h₄, hcontent⟩⟩

/-! ### Objects -/

/-- What is read of the octets of an object is what its members are as fields. -/
theorem read_of_object {octets : List UInt8} (h : readOctets octets = ⟨.object ms, true⟩) :
    read octets = ofFields (fields fieldNames (.object ms)) := by
  simp only [read, h, if_true]
  split
  next hfields => rw [hfields]
  next hfields => rw [hfields]

/-- **The members of an object are a record just when they have its layout.** -/
theorem exists_ofFields?_iff_hasLayout (hwhole : ∀ m ∈ ms, isWhole m.2 = true) :
    (∃ r, ofFields? (fields fieldNames (.object ms)) = some r) ↔ HasLayout ms := by
  have sound := isSound_fields_object_iff nodup_fieldNames hwhole
  rw [exists_ofFields?_iff]
  constructor
  · rintro ⟨hsound, hreadable, hreached⟩
    obtain ⟨hkeys, honce⟩ := sound.1 hsound
    have once : ∀ i (hi : i < fieldNames.length) v,
        (fields fieldNames (.object ms)).get? i = some v →
          valuesOf fieldNames[i].toList ms = [v] := by
      intro i hi v hv
      rw [get?_fields_object nodup_fieldNames hwhole hsound hi] at hv
      obtain ⟨rest, hrest⟩ := List.head?_eq_some_iff.1 hv
      have few := honce i hi
      rw [hrest, List.length_cons] at few
      rw [hrest, List.length_eq_zero_iff.1 (by omega : rest.length = 0)]
    refine ⟨hkeys, fun i hi => ?_, fun v hv => ?_⟩
    · obtain ⟨v, hv, hread⟩ := hreadable i hi
      exact ⟨v, once i hi v hv, hread⟩
    · obtain ⟨w, hw, -⟩ := hreadable builtAtField (by decide)
      have : valuesOf "built_at".toList ms = [w] := once builtAtField (by decide) w hw
      rw [this, List.mem_singleton] at hv
      exact hv ▸ hreached w hw
  · intro h
    have hsound : (fields fieldNames (.object ms)).isSound = true := by
      refine sound.2 ⟨h.keys, fun i hi => ?_⟩
      obtain ⟨v, hv, -⟩ := h.readable i hi
      simp [hv]
    refine ⟨hsound, fun i hi => ?_, fun v hv => ?_⟩
    · obtain ⟨v, hv, hread⟩ := h.readable i hi
      exact ⟨v, by rw [get?_fields_object nodup_fieldNames hwhole hsound hi, hv]; rfl, hread⟩
    · rw [get?_fields_object nodup_fieldNames hwhole hsound (by decide)] at hv
      exact h.reached v (List.mem_of_mem_head? hv)

/-- The version of a record is the one that its members give. -/
theorem version_of_ofFields? (hwhole : ∀ m ∈ ms, isWhole m.2 = true) (hversion : HasVersion ms n)
    (h : ofFields? (fields fieldNames (.object ms)) = some r) : r.version = n := by
  obtain ⟨v, hv, hn⟩ := hversion
  obtain ⟨w, hw, -⟩ := ((exists_ofFields?_iff_hasLayout hwhole).1 ⟨r, h⟩).readable 0 (by decide)
  obtain ⟨hsound, ⟨u, hu, hr⟩, -⟩ := ofFields?_eq_some_iff.1 h
  have first : (fields fieldNames (.object ms)).get? 0 = some w := by
    rw [get?_fields_object nodup_fieldNames hwhole hsound (by decide), hw]
    rfl
  obtain rfl : u = w := Option.some.inj (hu.symm.trans first)
  obtain rfl : v = u := by
    rw [← mem_valuesOf] at hv
    exact List.mem_singleton.1 (hw ▸ hv)
  exact Option.some.inj (hr.symm.trans hn)

end SnapshotRecord

namespace Store

open SnapshotRecord

variable {s : Store} {refused : Refusals} {files : FileTree} {octets : List UInt8}
  {ms : List (Option Text × Json)} {n : UInt32}

/-- The octets of an object with another version: an unsupported version if it has the layout of a
record, else octets without the format, unless they stop the reader. -/
theorem ofOctets_of_version (hobject : readOctets octets = ⟨.object ms, true⟩)
    (hversion : HasVersion ms n) (hother : n ≠ currentVersion) :
    (HasLayout ms → s.ofOctets octets = .error (.error (.unsupportedVersion n))) ∧
      (¬ HasLayout ms → ¬ SnapshotRecord.StopsReader octets →
        s.ofOctets octets = .error (.error .malformed)) := by
  have hwhole : ∀ m ∈ ms, isWhole m.2 = true := by
    have ends : (readOctets octets).ends = true := by rw [hobject]
    have whole := isWhole_readOctets ends
    rw [hobject] at whole
    exact membersWhole_iff.1 whole
  constructor
  · intro hlayout
    obtain ⟨r, hr⟩ := (exists_ofFields?_iff_hasLayout hwhole).2 hlayout
    have version := version_of_ofFields? hwhole hversion hr
    have other : r.version ≠ currentVersion := version ▸ hother
    simp only [ofOctets, read_of_object hobject, ofFields, hr]
    rw [accept, if_pos other, version]
    rfl
  · intro hlayout hstops
    have none : ofFields? (fields fieldNames (.object ms)) = none := by
      rw [Option.eq_none_iff_forall_ne_some]
      exact fun r hr => hlayout ((exists_ofFields?_iff_hasLayout hwhole).1 ⟨r, hr⟩)
    have unmet : meetsOverflow (fields fieldNames (.object ms)) ≠ true := by
      intro h
      rw [meetsOverflow_iff] at h
      exact hstops (by rwa [SnapshotRecord.StopsReader, hobject])
    simp only [ofOctets, read_of_object hobject, ofFields, none, if_neg unmet]
    rfl

/-- **A file with another version** is told as one, and is stale, when the rest of it has the layout
of the current version, whatever its fingerprint and whether its parts agree; with any other layout
it is told as a damaged file, and is corrupt, unless it stops its reader. -/
theorem load_of_version (s : Store) (refused : Refusals) (files : FileTree)
    (hread : s.read refused files = .ok octets) (hobject : readOctets octets = ⟨.object ms, true⟩)
    (hversion : HasVersion ms n) (hother : n ≠ currentVersion) :
    (HasLayout ms → s.load refused files = .error (.error (.unsupportedVersion n)) ∧
      s.status refused files = .ok .stale) ∧
    (s.StopsReader refused files → s.load refused files = .error (.breakdown .clockOverflow) ∧
      s.status refused files = .error .clockOverflow) ∧
    (¬ HasLayout ms → ¬ s.StopsReader refused files →
      s.load refused files = .error (.error .malformed) ∧
        s.status refused files = .ok .corrupt) := by
  have load : s.load refused files = s.ofOctets octets := by
    rw [Store.load, hread]
  have stops : s.StopsReader refused files ↔ SnapshotRecord.StopsReader octets := by
    simp [StopsReader, hread]
  obtain ⟨like, unlike⟩ := ofOctets_of_version (s := s) hobject hversion hother
  rw [stops, status, load]
  refine ⟨fun h => ?_, fun h => ?_, fun h hstops => ?_⟩
  · rw [like h]
    exact ⟨rfl, rfl⟩
  · rw [ofOctets_eq_breakdown_iff.2 h]
    exact ⟨rfl, rfl⟩
  · rw [unlike h hstops]
    exact ⟨rfl, rfl⟩

/-- A store with a snapshot file that is an object. -/
def holdingObject (ms : List (Option Text × Json)) : FileTree where
  entries := .ofList [(["idx".toList], .directory),
    (["idx".toList, fileName], .file (Text.encode (Json.object ms).compact))]

/-- The store. -/
def idx : Store := ⟨"idx".toList, "h".toList⟩

/-- A version and nothing else. -/
def bareVersion : List (Option Text × Json) := [member "format_version" (.ofNat 2)]

theorem readOctets_bareVersion :
    readOctets (Text.encode (Json.object bareVersion).compact) = ⟨.object bareVersion, true⟩ :=
  readOctets_compact ⟨rfl, isWritable_ofNat 2, trivial⟩

theorem hasVersion_bareVersion : HasVersion bareVersion 2 :=
  ⟨.ofNat 2, List.mem_cons_self, word32?_ofNat 2⟩

/-- **A file with another version may be told as a damaged one**: it is enough that the fields of
the current version are missing. -/
theorem bareVersion_told_corrupt :
    readOctets (Text.encode (Json.object bareVersion).compact) = ⟨.object bareVersion, true⟩ ∧
    HasVersion bareVersion 2 ∧ (2 : UInt32) ≠ currentVersion ∧
    idx.load .none (holdingObject bareVersion) = .error (.error .malformed) ∧
    idx.status .none (holdingObject bareVersion) = .ok .corrupt :=
  ⟨readOctets_bareVersion, hasVersion_bareVersion, by decide, by decide, by decide⟩

/-- A record of another version, for other settings, and with a wrong number of sessions. -/
def renumbered : List (Option Text × Json) :=
  [member "format_version" (.ofNat 2), member "config_hash" (.string "other".toList),
    member "built_at" (.ofNat 0), member "session_count" (.ofNat 7),
    member "index" (Index.empty default).stored.toJson]

/-- A file of such a record is stale, and one with nothing but a version is corrupt. -/
theorem renumbered_load_of_version :
    (idx.load .none (holdingObject renumbered) = .error (.error (.unsupportedVersion 2)) ∧
      idx.status .none (holdingObject renumbered) = .ok .stale) ∧
    idx.load .none (holdingObject bareVersion) = .error (.error .malformed) ∧
      idx.status .none (holdingObject bareVersion) = .ok .corrupt := by
  have other : (2 : UInt32) ≠ currentVersion := by decide
  constructor
  · have hread : idx.read .none (holdingObject renumbered) =
        .ok (Text.encode (Json.object renumbered).compact) := by decide
    have hobject : readOctets (Text.encode (Json.object renumbered).compact) =
        ⟨.object renumbered, true⟩ :=
      readOctets_compact ⟨rfl, isWritable_ofNat 2, rfl, trivial, rfl, isWritable_ofNat 0, rfl,
        isWritable_ofNat 7, rfl, Stored.isWritable_toJson _, trivial⟩
    have hversion : HasVersion renumbered 2 := ⟨.ofNat 2, List.mem_cons_self, word32?_ofNat 2⟩
    have whole : membersWhole renumbered = true := by decide
    have record : (ofFields? (fields fieldNames (.object renumbered))).isSome = true := by
      decide
    have hlayout : HasLayout renumbered :=
      (exists_ofFields?_iff_hasLayout (membersWhole_iff.1 whole)).1
        (Option.isSome_iff_exists.1 record)
    exact (load_of_version idx .none _ hread hobject hversion other).1 hlayout
  · have hread : idx.read .none (holdingObject bareVersion) =
        .ok (Text.encode (Json.object bareVersion).compact) := by decide
    have whole : membersWhole bareVersion = true := by decide
    have record : (ofFields? (fields fieldNames (.object bareVersion))).isSome = false := by
      decide
    have unlike : ¬ HasLayout bareVersion := by
      rw [← exists_ofFields?_iff_hasLayout (membersWhole_iff.1 whole), ← Option.isSome_iff_exists,
        record]
      exact Bool.false_ne_true
    have unmet : meetsOverflow (fields fieldNames (.object bareVersion)) = false :=
      by decide
    have runs : ¬ idx.StopsReader .none (holdingObject bareVersion) := by
      rintro ⟨octets, hoctets, hstops⟩
      obtain rfl := Except.ok.inj (hread.symm.trans hoctets)
      rw [SnapshotRecord.StopsReader, readOctets_bareVersion, ← meetsOverflow_iff, unmet] at hstops
      exact Bool.false_ne_true hstops
    exact (load_of_version idx .none _ hread readOctets_bareVersion hasVersion_bareVersion
      other).2.2 unlike runs

end Store

end TranscriptSearch
