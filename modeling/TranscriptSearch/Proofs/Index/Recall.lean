import TranscriptSearch.Proofs.Index.Faithful
import TranscriptSearch.Proofs.Index.Log
import TranscriptSearch.Proofs.Query.Vocabulary
import TranscriptSearch.Proofs.Term.Normal

/-!
# Index — a recorded term looked up

The terms of an index are texts, and whoever has one can look it up or search for it.  It is put
through the rule of the index once more, as any other text, and comes out as it is, unless it has a
combining dot.

* `TermRule.IsTerm.isName`: a term without a combining dot can be written as a query.
* `Index.Follows.isTerm`: a recorded term is a term of some line.
* `Index.Linked.search_term`: a session is found for a term where the term occurs in it.
* `Index.run_recalls_terms`: recorded terms without a combining dot are found.
* `Index.dottedTerm_lost`: one with a combining dot is not.
-/

namespace TranscriptSearch

open Text

/-- A term without a combining dot has no character that a query treats apart. -/
theorem TermRule.IsTerm.isName {rule : TermRule} {term : Text} (h : rule.IsTerm term)
    (hdot : combiningDot ∉ term) : Query.IsName term :=
  Query.isName_of_isAlphanumeric h.ne_nil (h.isAlphanumeric_of_not_mem hdot)

namespace Index

variable {x : Index} {log : Log} {term : Text} {l : List Posting}

theorem occurrences_of_get? (h : x.postings.get? term = some l) : x.occurrences term = l := by
  rw [occurrences, h]
  rfl

/-- A recorded term is a term of some line. -/
theorem Follows.isTerm (h : x.Follows log) (hget : x.postings.get? term = some l) :
    x.rule.IsTerm term := by
  have hne : l ≠ [] := by
    rintro rfl
    exact h.tidy term hget
  rw [← occurrences_of_get? hget, h.occurrences] at hne
  obtain ⟨p, hp⟩ := List.exists_mem_of_ne_nil _ hne
  obtain ⟨t, -, hp⟩ := List.mem_flatMap.1 hp
  obtain ⟨line, -, hterm, -⟩ := TermRule.mem_postingsOf.1 hp
  exact TermRule.isTerm_of_mem_terms hterm

/-- The list of a term is found under the term. -/
theorem postings?_of_terms_eq (hterm : x.rule.terms term = [term]) :
    x.postings? term = x.postings.get? term := by
  rw [postings?, hterm]

/-- **A session is found for a term where the term occurs in it.** -/
theorem Linked.search_term (h : x.Linked) (hterm : x.rule.terms term = [term])
    (hname : Query.IsName term) (v : Query.Vocabulary) (k : SessionKey) :
    x.search v term k = true ↔ ∃ p ∈ x.occurrences term, p.session = k := by
  have asked : x.search v term k = true ↔ ∃ n, n ∈ x.positions k term := by
    rw [search, v.parse_of_isName hname]
    exact h.satisfies_ask hterm k
  rw [asked]
  constructor
  · rintro ⟨n, hn⟩
    obtain ⟨p, hp, hk, -⟩ := mem_positions.1 hn
    exact ⟨p, hp, hk⟩
  · rintro ⟨p, hp, hk⟩
    exact ⟨p.line, mem_positions.2 ⟨p, hp, hk, rfl⟩⟩

/-- **Terms are their own terms, the combining dot apart.**  A term of a text is its own only term
just when it has no combining dot, and it has none if the text has no capital I with a dot above.
And after any changes to an empty index, the list of a term without a combining dot is what a
look-up of the term gives, and a search for it finds exactly the sessions where it occurs. -/
theorem run_recalls_terms (rule : TermRule) :
    (∀ t w, w ∈ rule.terms t →
      (rule.terms w = [w] ↔ combiningDot ∉ w) ∧ ('\u0130' ∉ t → combiningDot ∉ w)) ∧
    ∀ changes term l, ((empty rule).run changes).postings.get? term = some l →
      combiningDot ∉ term →
        ((empty rule).run changes).postings? term = some l ∧
        ∀ v k, ((empty rule).run changes).search v term k = true ↔ ∃ p ∈ l, p.session = k := by
  refine ⟨fun t w hw => ⟨?_, fun ht => TermRule.combiningDot_not_mem ht hw⟩, ?_⟩
  · exact (TermRule.isTerm_of_mem_terms hw).terms_eq_iff
  intro changes term l hget hdot
  have h := follows_run rule changes
  have hterm := h.isTerm hget
  have self := hterm.terms_eq hdot
  refine ⟨(postings?_of_terms_eq self).trans hget, fun v k => ?_⟩
  rw [h.linked.search_term self (hterm.isName hdot) v k, occurrences_of_get? hget]

/-- An index of one line, spoken at the beginning of a session. -/
def spoken (text : Text) : Index :=
  (empty (.ofMinLength 1)).run [.build [⟨2015, 1, none, [⟨text, ⟨0⟩⟩]⟩]]

/-- A term of letters is its own only term, and is recalled. -/
theorem letterTerm_recalled :
    (TermRule.ofMinLength 1).terms "café".toList = ["café".toList] ∧
      (spoken "CAFÉ".toList).postings.get? "café".toList = some [⟨⟨2015, 1⟩, 0, ⟨0⟩⟩] ∧
      (spoken "CAFÉ".toList).postings? "café".toList = some [⟨⟨2015, 1⟩, 0, ⟨0⟩⟩] ∧
      ∀ v, (spoken "CAFÉ".toList).search v "café".toList ⟨2015, 1⟩ = true := by
  have hmem : "café".toList ∈ (TermRule.ofMinLength 1).terms "CAFÉ".toList := by decide
  have hcapital : '\u0130' ∉ "CAFÉ".toList := by decide
  have hget : (spoken "CAFÉ".toList).postings.get? "café".toList = some [⟨⟨2015, 1⟩, 0, ⟨0⟩⟩] := by
    decide
  obtain ⟨self, hdot⟩ := (run_recalls_terms (.ofMinLength 1)).1 _ _ hmem
  obtain ⟨hlookUp, hsearch⟩ := (run_recalls_terms (.ofMinLength 1)).2 _ _ _ hget (hdot hcapital)
  exact ⟨self.2 (hdot hcapital), hget, hlookUp,
    fun v => (hsearch v ⟨2015, 1⟩).2 ⟨_, List.mem_singleton_self _, rfl⟩⟩

/-- **The term of a capital I with a dot above is lost.**  It is recorded, but is not its own term:
a look-up of it gives nothing, and a search for it does not find the session. -/
theorem dottedTerm_lost :
    (TermRule.ofMinLength 1).terms ['\u0130'] = [['i', combiningDot]] ∧
      (TermRule.ofMinLength 1).terms ['i', combiningDot] = [['i']] ∧
      (spoken ['\u0130']).postings.get? ['i', combiningDot] = some [⟨⟨2015, 1⟩, 0, ⟨0⟩⟩] ∧
      (spoken ['\u0130']).postings? ['i', combiningDot] = none ∧
      (spoken ['\u0130']).search (.ofNames []) ['i', combiningDot] ⟨2015, 1⟩ = false := by
  refine ⟨?_, ?_, ?_, ?_, ?_⟩ <;> decide

end Index

end TranscriptSearch
