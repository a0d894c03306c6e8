import TranscriptSearch.Proofs.Index.Scan
import TranscriptSearch.Proofs.Query.Juxtaposition

/-!
# Index — raw queries side by side are searched together

What a session has to satisfy is asked for piece by piece: each qualifier for itself, and each term
of the free text for itself.  A query that joins two others is therefore satisfied by the sessions
that satisfy both.

* `satisfies_of_joins`: a query that joins two others is satisfied when both are.
* `search_append`: two raw queries with blanks between them find what both find.
-/

namespace TranscriptSearch.Index

open Text

variable {x : Index}

theorem hasTerms_of_joins {q q₁ q₂ : Query} (h : q.Joins q₁ q₂) (s : Session) :
    x.hasTerms s q.freeText = (x.hasTerms s q₁.freeText && x.hasTerms s q₂.freeText) := by
  rw [hasTerms, hasTerms, hasTerms, h.terms, List.all_append]

theorem qualifiers_of_joins {q q₁ q₂ : Query} (h : q.Joins q₁ q₂) (s : Session) :
    q.qualifiers.toList.all (fun p => x.satisfiesQualifier s p.1 p.2) =
      (q₁.qualifiers.toList.all (fun p => x.satisfiesQualifier s p.1 p.2) &&
        q₂.qualifiers.toList.all fun p => x.satisfiesQualifier s p.1 p.2) := by
  rw [Bool.eq_iff_iff, Bool.and_eq_true, List.all_eq_true, List.all_eq_true, List.all_eq_true]
  constructor
  · intro hall
    exact ⟨fun p hp => hall p ((h.mem_qualifiers p).2 (.inl hp)),
      fun p hp => hall p ((h.mem_qualifiers p).2 (.inr hp))⟩
  · rintro ⟨hall₁, hall₂⟩ p hp
    rcases (h.mem_qualifiers p).1 hp with hp | hp
    · exact hall₁ p hp
    · exact hall₂ p hp

/-- **A query that joins two others is satisfied when both are.** -/
theorem satisfies_of_joins {q q₁ q₂ : Query} (h : q.Joins q₁ q₂) (k : SessionKey) :
    x.satisfies k q = (x.satisfies k q₁ && x.satisfies k q₂) := by
  rw [satisfies, satisfies, satisfies]
  cases x.sessions.get? k with
  | none => rfl
  | some s =>
      change (_ && _) = (_ && _ && (_ && _))
      rw [qualifiers_of_joins h s, hasTerms_of_joins h s]
      ac_rfl

/-- **Raw queries side by side find what both find.**  Let the first have an even number of quotes,
let there be blanks between the two, and let no name be that of a qualifier of both; the second may
have a quote that is never closed.  Then a session satisfies the whole exactly when it satisfies the
one and the other, and the sessions that do are those in both answers. -/
theorem search_append (x : Index) (v : Query.Vocabulary) {a w b : Text} (ha : Even (a.count '"'))
    (hne : w ≠ []) (hw : ∀ c ∈ w, isBlank c = true)
    (h : Query.Apart (v.parse a) (v.parse b)) :
    (∀ k, x.search v (a ++ w ++ b) k = (x.search v a k && x.search v b k)) ∧
      x.matchingSessions v (a ++ w ++ b) = x.matchingSessions v a ∩ x.matchingSessions v b := by
  have joins := Query.Vocabulary.joins_parse (Query.isClosed_iff.2 ha) hne hw h
  have search : ∀ k, x.search v (a ++ w ++ b) k = (x.search v a k && x.search v b k) :=
    satisfies_of_joins joins
  refine ⟨search, ?_⟩
  change x.keys.filter (x.search v (a ++ w ++ b)) =
    (x.keys.filter (x.search v a)).filter fun k => (x.matchingSessions v b).elem k
  rw [List.filter_filter]
  refine List.filter_congr fun k _ => ?_
  have found : (x.matchingSessions v b).elem k = x.search v b k := by
    rw [Bool.eq_iff_iff, List.elem_iff, mem_matchingSessions]
  rw [search, found, Bool.and_comm]

/-- The vocabulary of years and tracks. -/
def yearAndTrack : Query.Vocabulary := .ofNames ["year".toList, "track".toList]

/-- Two sessions of a year. -/
def twoTalks : List Transcript :=
  [⟨2015, 1, some "Design".toList, [⟨"Swift in practice".toList, .zero⟩]⟩,
   ⟨2015, 2, some "Tools".toList, [⟨"Swift and its tools".toList, .zero⟩]⟩]

/-- A query for a year, in quotes that are closed. -/
def swiftOf2015 : Text := "YEAR:\"2015\" swift".toList

/-- A query for a track, with a quote that is never closed. -/
def designPractice : Text := "track:design \"Practice, in".toList

/-- The two together find one session of two. -/
theorem twoTalks_search_append :
    ((empty (.ofMinLength 1)).run [.build twoTalks]).matchingSessions yearAndTrack
      (swiftOf2015 ++ [' ', '\t'] ++ designPractice) = [⟨2015, 1⟩] := by
  have hyear : (yearAndTrack.parse swiftOf2015).qualifiers =
      .insert .empty "year".toList "2015".toList := by decide
  have htrack : (yearAndTrack.parse designPractice).qualifiers =
      .insert .empty "track".toList "design".toList := by decide
  have apart :
      Query.Apart (yearAndTrack.parse swiftOf2015) (yearAndTrack.parse designPractice) := by
    intro name hname
    rw [hyear, Query.Qualifiers.contains, Query.Qualifiers.get?_insert] at hname
    rw [htrack, Query.Qualifiers.contains, Query.Qualifiers.get?_insert]
    split at hname
    next h =>
      rw [h, if_neg (by decide)]
      rfl
    next => cases hname
  have blanks : ∀ c ∈ [' ', '\t'], isBlank c = true :=
    List.forall_mem_cons.2 ⟨by decide, List.forall_mem_singleton.2 (by decide)⟩
  have closed : Even (swiftOf2015.count '"') := by decide
  rw [(search_append _ yearAndTrack closed (by simp) blanks apart).2]
  decide

end TranscriptSearch.Index
