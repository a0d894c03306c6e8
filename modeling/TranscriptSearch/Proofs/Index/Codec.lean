import TranscriptSearch.Index.Codec
import TranscriptSearch.Proofs.Json.Finite
import TranscriptSearch.Proofs.Json.Reader
import TranscriptSearch.Proofs.SessionKey
import TranscriptSearch.Proofs.SortedMap

/-!
# Index — the stored form written and read

* `Stored.isWritable_toJson`: the value of a stored form can be told from its text.
* `Stored.IsTimed`: whether every timecode is finite.
* `Stored.Legible`: whether every number of a stored form can be read.
* `Stored.Legible.ofJson?_toJson`: the value of such a form is read as that form, its timecodes read
  again.
* `Stored.IsTimed.legible_of_ofJson?`: no other form with finite timecodes is read.
* `Stored.Fits`: whether every number of a stored form reads back.
* `Stored.Fits.ofJson?_toJson`: the value of such a form is read as that form.
-/

namespace TranscriptSearch

open Json Number

/-! ### Writable values -/

theorem Json.isWritable_ofNat (n : Nat) : IsWritable (ofNat n) := isNumber_decimal n

theorem Json.isWritable_ofBinary64 (x : Binary64) : IsWritable (ofBinary64 x) := by
  rw [ofBinary64]
  split
  · exact isNumber_writeBinary64 x
  · trivial

theorem Json.isWritable_array {α : Type*} {write : α → Json} (h : ∀ a, IsWritable (write a))
    (l : List α) : IsWritable (.array (l.map write)) :=
  areWritable_iff.2 <| List.forall_mem_map.2 fun a _ => h a

theorem Json.word32?_ofNat (n : UInt32) : (ofNat n.toNat).word32? = some n := by
  rw [word32?, natural?_ofNat n.toNat_lt_size, Option.map_some, UInt32.ofNat_toNat]

theorem SessionKey.ofJson?_toJson (k : SessionKey) : SessionKey.ofJson? k.toJson = some k :=
  k.parse?_text

private theorem map_eq_self {α : Type*} {f : α → α} {l : List α} (h : ∀ a ∈ l, f a = a) :
    l.map f = l := (List.map_congr_left h).trans (List.map_id' l)

/-! ### Lines and occurrences -/

namespace Line

theorem isWritable_toJson (l : Line) : IsWritable l.toJson :=
  ⟨rfl, trivial, rfl, isWritable_ofBinary64 l.timecode, trivial⟩

theorem toJson_eq (l : Line) :
    l.toJson = .object (placed fieldNames [(0, .string l.text), (1, ofBinary64 l.timecode)]) := rfl

/-- The line that is read where a line was written. -/
def reread (l : Line) : Line := { l with timecode := Json.reread l.timecode }

theorem ofJson?_toJson {l : Line} (h : l.timecode.isFinite = true) :
    ofJson? l.toJson = some l.reread := by
  rw [ofJson?, toJson_eq, soundFields?_placed (by decide) (by simp [fieldNames]) (by simp)]
  simp [Fields.get?, List.lookup_cons, text?, binary64?_ofBinary64 h, reread]

theorem reread_self {l : Line} (h : ReadsBack l.timecode) : l.reread = l := by
  rw [reread, h.reread_self]

end Line

namespace Posting

theorem isWritable_toJson (p : Posting) : IsWritable p.toJson :=
  ⟨rfl, trivial, rfl, isWritable_ofNat p.line, rfl, isWritable_ofBinary64 p.timecode, trivial⟩

theorem toJson_eq (p : Posting) :
    p.toJson = .object (placed fieldNames
      [(0, p.session.toJson), (1, ofNat p.line), (2, ofBinary64 p.timecode)]) := rfl

/-- The occurrence that is read where an occurrence was written. -/
def reread (p : Posting) : Posting := { p with timecode := Json.reread p.timecode }

theorem ofJson?_toJson {p : Posting} (hline : p.line < UInt32.size)
    (h : p.timecode.isFinite = true) : ofJson? p.toJson = some p.reread := by
  rw [ofJson?, toJson_eq, soundFields?_placed (by decide) (by simp [fieldNames]) (by simp)]
  simp [Fields.get?, List.lookup_cons, SessionKey.ofJson?_toJson, natural?_ofNat hline,
    binary64?_ofBinary64 h, reread]

theorem line_lt_of_ofJson?_toJson {p q : Posting} (h : ofJson? p.toJson = some q) :
    p.line < UInt32.size := by
  rw [ofJson?, toJson_eq, soundFields?_placed (by decide) (by simp [fieldNames]) (by simp)] at h
  simp only [Fields.get?, List.lookup_cons, Option.bind_eq_bind, Option.bind_some,
    Option.bind_eq_some_iff] at h
  obtain ⟨w, hw, session, -, v, hv, line, hline, -⟩ := h
  cases hv
  exact lt_of_natural?_ofNat hline

theorem reread_self {p : Posting} (h : ReadsBack p.timecode) : p.reread = p := by
  rw [reread, h.reread_self]

end Posting

/-! ### Sessions -/

namespace StoredSession

theorem isWritable_toJson (s : StoredSession) : IsWritable s.toJson := by
  refine membersWritable_iff.2 fun m hm => ?_
  simp only [List.mem_append, List.mem_cons, List.not_mem_nil, or_false] at hm
  obtain ((rfl | rfl) | hm) | rfl := hm
  · exact ⟨rfl, isWritable_ofNat _⟩
  · exact ⟨rfl, isWritable_ofNat _⟩
  · cases ht : s.attributes.track with
    | none => rw [ht] at hm; cases hm
    | some t =>
        rw [ht] at hm
        obtain rfl := List.mem_singleton.1 hm
        exact ⟨rfl, trivial⟩
  · exact ⟨rfl, isWritable_array Line.isWritable_toJson s.lines⟩

/-- The fields of a session; a track that is not known has none. -/
def places (s : StoredSession) : List (Nat × Json) :=
  [(0, ofNat s.attributes.year.toNat), (1, ofNat s.attributes.sessionId.toNat)]
    ++ (s.attributes.track.map fun t => (2, .string t)).toList
    ++ [(3, .array (s.lines.map Line.toJson))]

theorem toJson_eq (s : StoredSession) :
    s.toJson = .object (placed Transcript.fieldNames s.places) := by
  rw [toJson, places]
  cases s.attributes.track <;> rfl

theorem ofMembers_places (passes : Json → Bool) (s : StoredSession) :
    Fields.ofMembers (Transcript.fieldNames.map String.toList) passes []
      (placed Transcript.fieldNames s.places) = ⟨s.places, true⟩ := by
  have hplaces : s.places.map Prod.fst = [0, 1, 3] ∨ s.places.map Prod.fst = [0, 1, 2, 3] := by
    rw [places]
    cases s.attributes.track
    · exact .inl rfl
    · exact .inr rfl
  refine ofMembers_placed (by decide) passes (fun p hp => ?_) ?_
  · have := List.mem_map_of_mem (f := Prod.fst) hp
    rcases hplaces with e | e <;> rw [e] at this <;> simp at this <;>
      simp [Transcript.fieldNames] <;> omega
  · rcases hplaces with e | e <;> rw [e] <;> decide

/-- The session that is read where a session was written. -/
def reread (s : StoredSession) : StoredSession := { s with lines := s.lines.map Line.reread }

theorem reread_self {s : StoredSession} (h : ∀ l ∈ s.lines, ReadsBack l.timecode) :
    s.reread = s := by
  rw [reread, map_eq_self fun l hl => Line.reread_self (h l hl)]

theorem ofJson?_toJson (depth : Nat) {s : StoredSession}
    (h : ∀ l ∈ s.lines, l.timecode.isFinite = true) : ofJson? depth s.toJson = some s.reread := by
  have lines : listOf Line.ofJson? (.array (s.lines.map Line.toJson)) =
      some (s.lines.map Line.reread) := listOf_map fun l hl => Line.ofJson?_toJson (h l hl)
  obtain ⟨⟨year, sessionId, track⟩, ls⟩ := s
  rw [toJson_eq]
  simp only [ofJson?, ofMembers_places]
  cases track with
  | none =>
      simp [places, Fields.get?, List.lookup_cons, word32?_ofNat, optionalText?, lines, reread]
  | some t =>
      simp [places, Fields.get?, List.lookup_cons, word32?_ofNat, optionalText?, lines, reread]

end StoredSession

/-! ### Stored forms -/

namespace Stored

/-- The occurrences of a term, as a member. -/
def termMember (e : Text × List Posting) : Option Text × Json :=
  (some e.1, .array (e.2.map Posting.toJson))

theorem toJson_eq (d : Stored) :
    d.toJson = .object (placed fieldNames
      [(0, ofNat d.minLength), (1, .array (d.sessions.map StoredSession.toJson)),
        (2, .object (d.postings.toList.map termMember))]) := rfl

/-- **The value of a stored form can be told from its text.** -/
theorem isWritable_toJson (d : Stored) : IsWritable d.toJson := by
  refine ⟨rfl, isWritable_ofNat _, rfl, isWritable_array StoredSession.isWritable_toJson _, rfl,
    membersWritable_iff.2 ?_, trivial⟩
  exact List.forall_mem_map.2 fun e _ => ⟨rfl, isWritable_array Posting.isWritable_toJson e.2⟩

/-! ### Stored forms that can be read -/

/-- Whether every timecode of a stored form is finite. -/
structure IsTimed (d : Stored) : Prop where
  /-- Those of the lines are. -/
  lines : ∀ s ∈ d.sessions, ∀ l ∈ s.lines, l.timecode.isFinite = true
  /-- Those of the occurrences are. -/
  postings : ∀ ps ∈ d.postings.values, ∀ p ∈ ps, p.timecode.isFinite = true

/-- The stored form that is read where a stored form was written. -/
def reread (d : Stored) : Stored :=
  ⟨d.minLength, d.sessions.map StoredSession.reread, d.postings.mapValues (List.map Posting.reread)⟩

/-- Whether every number of a stored form can be read. -/
structure Legible (d : Stored) : Prop where
  /-- The least length of a term has 64 bits. -/
  minLength : d.minLength < UInt64.size
  /-- The timecodes are finite. -/
  timed : d.IsTimed
  /-- The positions of the occurrences have 32 bits. -/
  position : ∀ ps ∈ d.postings.values, ∀ p ∈ ps, p.line < UInt32.size

theorem termOfMember?_termMember {e : Text × List Posting}
    (h : ∀ p ∈ e.2, p.line < UInt32.size ∧ p.timecode.isFinite = true) :
    termOfMember? (termMember e) = some (e.1, e.2.map Posting.reread) := by
  have list : listOf Posting.ofJson? (.array (e.2.map Posting.toJson)) =
      some (e.2.map Posting.reread) :=
    listOf_map fun p hp => Posting.ofJson?_toJson (h p hp).1 (h p hp).2
  simp [termOfMember?, termMember, list]

variable {d : Stored}

theorem Legible.postingsOfJson? (h : d.Legible) :
    postingsOfJson? (.object (d.postings.toList.map termMember)) = some d.reread.postings := by
  have entries : (d.postings.toList.map termMember).mapM termOfMember? =
      some d.reread.postings.toList :=
    mapM_map fun e he => termOfMember?_termMember fun p hp =>
      have values : e.2 ∈ d.postings.values := List.mem_map_of_mem he
      ⟨h.position e.2 values p hp, h.timed.postings e.2 values p hp⟩
  rw [Stored.postingsOfJson?, entries, Option.map_some, SortedMap.ofList_toList]

/-- **The value of a stored form is read as that form**, its timecodes read again. -/
theorem Legible.ofJson?_toJson (h : d.Legible) (depth : Nat) :
    ofJson? depth d.toJson = some d.reread := by
  have sessions : listOf (StoredSession.ofJson? (depthLimit - depth - 3))
      (.array (d.sessions.map StoredSession.toJson)) = some (d.sessions.map StoredSession.reread) :=
    listOf_map fun s hs => StoredSession.ofJson?_toJson _ (h.timed.lines s hs)
  rw [ofJson?, toJson_eq, soundFields?_placed (by decide) (by simp [fieldNames]) (by simp)]
  simp [Fields.get?, List.lookup_cons, natural?_ofNat h.minLength, sessions, h.postingsOfJson?,
    reread]

/-- **A form that is read has positions of 32 bits.** -/
theorem IsTimed.legible_of_ofJson? (ht : d.IsTimed) (hlength : d.minLength < UInt64.size)
    {depth : Nat} {d' : Stored} (h : ofJson? depth d.toJson = some d') : d.Legible := by
  refine ⟨hlength, ht, fun ps hps p hp => ?_⟩
  rw [ofJson?, toJson_eq, soundFields?_placed (by decide) (by simp [fieldNames]) (by simp)] at h
  simp only [Fields.get?, List.lookup_cons, Option.bind_eq_bind, Option.bind_some,
    Option.bind_eq_some_iff] at h
  obtain ⟨-, -, minLength, -, -, -, sessions, -, v, hv, postings, hpostings, -⟩ := h
  cases hv
  obtain ⟨entries, hentries, -⟩ := Option.map_eq_some_iff.1 hpostings
  obtain ⟨e, he, rfl⟩ := List.mem_map.1 hps
  obtain ⟨entry, hentry⟩ := exists_of_mapM hentries (termMember e) (List.mem_map_of_mem he)
  simp only [termOfMember?, termMember, Option.bind_eq_bind, Option.bind_some,
    Option.bind_eq_some_iff] at hentry
  obtain ⟨list, hlist, -⟩ := hentry
  obtain ⟨q, hq⟩ := exists_of_listOf_map hlist p hp
  exact Posting.line_lt_of_ofJson?_toJson hq

/-- Timecodes that are read again are finite. -/
theorem IsTimed.reread (h : d.IsTimed) : d.reread.IsTimed := by
  refine ⟨List.forall_mem_map.2 fun s hs => List.forall_mem_map.2 fun l hl =>
    isFinite_reread (h.lines s hs l hl), SortedMap.forall_mem_values_iff.2 fun {term ps} hps => ?_⟩
  rw [Stored.reread, SortedMap.get?_mapValues] at hps
  obtain ⟨ps', hps', rfl⟩ := Option.map_eq_some_iff.1 hps
  exact List.forall_mem_map.2 fun p hp =>
    isFinite_reread (SortedMap.forall_mem_values_iff.1 h.postings hps' p hp)

/-! ### Stored forms that read back -/

/-- Whether every number of a stored form reads back. -/
structure Fits (d : Stored) : Prop where
  /-- The least length of a term has 64 bits. -/
  minLength : d.minLength < UInt64.size
  /-- The timecodes of the lines read back. -/
  lines : ∀ s ∈ d.sessions, ∀ l ∈ s.lines, ReadsBack l.timecode
  /-- The positions of the occurrences have 32 bits, and their timecodes read back. -/
  postings : ∀ e ∈ d.postings.toList, ∀ p ∈ e.2, p.line < UInt32.size ∧ ReadsBack p.timecode

namespace Fits

theorem legible (h : d.Fits) : d.Legible where
  minLength := h.minLength
  timed := ⟨fun s hs l hl => (h.lines s hs l hl).isFinite, fun ps hps p hp => by
    obtain ⟨e, he, rfl⟩ := List.mem_map.1 hps
    exact (h.postings e he p hp).2.isFinite⟩
  position ps hps p hp := by
    obtain ⟨e, he, rfl⟩ := List.mem_map.1 hps
    exact (h.postings e he p hp).1

theorem reread_self (h : d.Fits) : d.reread = d := by
  have lines : d.sessions.map StoredSession.reread = d.sessions :=
    map_eq_self fun s hs => StoredSession.reread_self (h.lines s hs)
  have terms : (d.postings.mapValues (List.map Posting.reread)).toList = d.postings.toList :=
    map_eq_self fun e he => congrArg (e.1, ·) <|
      map_eq_self fun p hp => Posting.reread_self (h.postings e he p hp).2
  rw [reread, lines, ← SortedMap.ofList_toList (d.postings.mapValues _), terms,
    SortedMap.ofList_toList]

/-- **The value of a stored form that fits is read as that form.** -/
theorem ofJson?_toJson (h : d.Fits) (depth : Nat) : ofJson? depth d.toJson = some d := by
  rw [h.legible.ofJson?_toJson, h.reread_self]

end Fits

end Stored

end TranscriptSearch
