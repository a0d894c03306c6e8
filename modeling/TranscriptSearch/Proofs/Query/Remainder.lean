import TranscriptSearch.Proofs.Query.Vocabulary

/-!
# Query — what is left in the free text

A pair that sets a qualifier is not in the free text.  The same pair may be in it once more, but
only inside a token that is searched for as it stands: a phrase, a pair with another name, or a
value whose quote is never closed.

* `Vocabulary.IsForeign`: the tokens whose text is searched for whatever it looks like.
* `Vocabulary.isForeign_of_infix`: no other token of the free text has a pair in it.
* `Vocabulary.leaks_from_foreign`: where a pair that sets a qualifier is found in the free text.
* `Vocabulary.phrase_leaks`: such a pair may be found there.
-/

namespace TranscriptSearch.Query

open Text

/-- A colon after a name that has no other one stands in one place. -/
theorem eq_of_append_colon {n z x y : Text} (hn : ':' ∉ n.tail) (hz : ':' ∉ z) (hx : x ≠ [])
    (h : n ++ ':' :: z = x ++ ':' :: y) : z = y := by
  rcases List.append_eq_append_iff.1 h with ⟨more, hx', hmore⟩ | ⟨more, hn', hmore⟩
  · cases more with
    | nil => exact (List.cons.inj hmore).2
    | cons c more =>
        obtain ⟨rfl, rfl⟩ := List.cons.inj hmore
        exact absurd (by simp) hz
  · cases more with
    | nil => exact (List.cons.inj hmore).2.symm
    | cons c more =>
        obtain ⟨rfl, -⟩ := List.cons.inj hmore
        rw [hn', List.tail_append_of_ne_nil hx] at hn
        exact absurd (by simp) hn

/-- Where a name, a colon and the beginning of a value are found, something stands before the colon
and the value begins after it. -/
theorem exists_of_pair_infix {name first s : Text} (hname : name ≠ [])
    (h : name ++ ':' :: first <:+: s) : ∃ x y, s = x ++ ':' :: y ∧ x ≠ [] ∧ first <+: y := by
  obtain ⟨a, b, hab⟩ := h
  exact ⟨a ++ name, first ++ b, by simp [← hab], by simp [hname], List.prefix_append first b⟩

namespace Vocabulary

variable {v : Vocabulary} {token : Token} {name value : Text}

/-- A token is searched for as it stands, whatever it looks like. -/
def IsForeign (v : Vocabulary) : Token → Prop
  | .word w => '"' ∈ w
  | .phrase _ => True
  | .qualifier n _ _ => v.recognizes n = false

/-- Such a token sets no qualifier. -/
theorem IsForeign.qualifier?_eq_none (h : v.IsForeign token) : v.qualifier? token = none := by
  rw [qualifier?_eq_none_iff]
  rintro n raw isQuoted rfl hname
  cases hname.symm.trans h

/-- The first word of a value. -/
def firstWord (value : Text) : Text := value.takeWhile fun c => !isBlank c

theorem IsPair.firstWord_ne_nil (h : v.IsPair name value) : firstWord value ≠ [] := by
  obtain ⟨c, rest, hcons⟩ := List.exists_cons_of_ne_nil h.ne_nil
  have head : isBlank c = false := isBlank_head_trim (h.isTrimmed.trans hcons)
  simp [firstWord, hcons, head]

/-- A name with the first word of its value is a word. -/
theorem IsPair.isWord (h : v.IsPair name value) : IsWord (name ++ ':' :: firstWord value) := by
  refine ⟨by simp, fun c hc => ?_⟩
  rcases List.mem_append.1 hc with hc | hc
  · exact (h.isName.solid c hc).1
  rcases List.mem_cons.1 hc with rfl | hc
  · decide
  · simpa using List.mem_takeWhile_imp hc

/-- Something comes after the colon of a pair. -/
theorem IsPair.ne_nil_of_prefix (h : v.IsPair name value) {y : Text} (hy : firstWord value <+: y) :
    y ≠ [] := by
  rintro rfl
  exact h.firstWord_ne_nil (List.prefix_nil.1 hy)

/-- A sound word has no pair in it: nothing comes after its colon, if it has one. -/
theorem IsPair.not_infix_word (hpair : v.IsPair name value) {text : Text}
    (h : (Token.word text).IsSound) : ¬ name ++ ':' :: firstWord value <:+: text := by
  intro hinfix
  obtain ⟨x, y, hxy, hx, hy⟩ := exists_of_pair_infix hpair.isName.ne_nil hinfix
  obtain hn | ⟨n, hn, rfl⟩ := h
  · have hcolon := hn.colon
    rw [hxy, List.tail_append_of_ne_nil hx] at hcolon
    exact hcolon (by simp)
  · exact hpair.ne_nil_of_prefix hy (eq_of_append_colon hn.colon (by simp) hx hxy).symm

/-- A pair whose value is blank has no pair in it, even when it is squeezed: a quote comes after its
colon, and no value that is set has one. -/
theorem IsPair.not_infix_blank (hpair : v.IsPair name value) {n raw : Text} (hn : IsName n)
    (hblank : raw.all isBlank = true) :
    ¬ name ++ ':' :: firstWord value <:+: squeeze (n ++ [':', '"'] ++ raw ++ ['"']) := by
  intro hinfix
  obtain ⟨raw', hsqueeze, hcondenses⟩ := (squeeze_between isBlank_quote raw).2 _ hn.isWord_open
  rw [hsqueeze] at hinfix
  obtain ⟨x, y, hxy, hx, hy⟩ := exists_of_pair_infix hpair.isName.ne_nil hinfix
  have hcolon : ':' ∉ '"' :: (raw' ++ ['"']) := by
    intro hmem
    have hraw : ':' ∈ raw' := by simpa using hmem
    have := List.all_eq_true.1 (hcondenses.blank.trans hblank) _ hraw
    revert this
    decide
  have hvalue := eq_of_append_colon hn.colon hcolon hx (by simpa using hxy)
  obtain ⟨c, rest, hcons⟩ := List.exists_cons_of_ne_nil hpair.firstWord_ne_nil
  rw [← hvalue, hcons] at hy
  have hquote : '"' ∈ firstWord value := by
    rw [hcons, (List.cons_prefix_cons.1 hy).1]
    exact List.mem_cons_self
  have first : firstWord value <+: value := List.takeWhile_prefix _
  exact hpair.quote (first.subset hquote)

/-- **No token of the free text has a pair in it** that a query can have, except foreign ones. -/
theorem isForeign_of_infix (hpair : v.IsPair name value)
    (htoken : token.IsSound ∨ token.IsUnclosed) (hnone : v.qualifier? token = none) {w : Text}
    (hw : w ∈ words token.text)
    (h : name ++ ':' :: firstWord value <:+: w) : v.IsForeign token := by
  have hinfix : name ++ ':' :: firstWord value <:+: squeeze token.text :=
    h.trans (infix_intercalate hw)
  cases token with
  | phrase p => trivial
  | word text =>
      obtain hsound | ⟨n, raw, -, -, hword⟩ := htoken
      · have bare : IsBare text := hsound.isBare_text (by simp) (by simp)
        rw [Token.text, bare.isWord.squeeze] at hinfix
        exact absurd hinfix (hpair.not_infix_word hsound)
      · obtain rfl := Token.word.inj hword
        show '"' ∈ n ++ [':', '"'] ++ raw
        simp
  | qualifier n raw isQuoted =>
      show v.recognizes n = false
      by_contra hname
      have hblank := qualifier?_eq_none_iff.1 hnone n raw isQuoted rfl (Bool.not_eq_false _ ▸ hname)
      obtain hsound | ⟨_, _, -, -, hword⟩ := htoken
      · cases isQuoted with
        | true => exact hpair.not_infix_blank hsound.1 hblank hinfix
        | false =>
            -- a value without quotes is not blank
            obtain ⟨c, rest, rfl⟩ := List.exists_cons_of_ne_nil hsound.2.ne_nil
            have := List.all_eq_true.1 hblank c List.mem_cons_self
            rw [(hsound.2.solid c List.mem_cons_self).1] at this
            cases this
      · cases hword

/-- **Where a pair that sets a qualifier is found in the free text**: its name and the first word of
its value stand in a word of a foreign token.  A pair whose value is one word is found there
whenever it stands in such a word. -/
theorem leaks_from_foreign (v : Vocabulary) (input : Text)
    (h : (name, value) ∈ (v.parse input).qualifiers.toList) :
    (name ++ ':' :: value <:+: (v.parse input).freeText →
      ∃ token ∈ lexLenient input, v.IsForeign token ∧
        ∃ w ∈ words token.text, name ++ ':' :: firstWord value <:+: w) ∧
    (firstWord value = value →
      (∃ token ∈ lexLenient input, v.IsForeign token ∧
        ∃ w ∈ words token.text, name ++ ':' :: value <:+: w) →
      name ++ ':' :: value <:+: (v.parse input).freeText) := by
  have hpair := isPair_of_mem h
  rw [parse_eq, freeText_eq]
  constructor
  · intro hinfix
    have first : name ++ ':' :: firstWord value <:+: name ++ ':' :: value :=
      ((List.prefix_append_right_inj name).2
        (List.cons_prefix_cons.2 ⟨rfl, List.takeWhile_prefix _⟩)).isInfix
    obtain ⟨w, hw, hinfix⟩ := infix_of_infix_intercalate hpair.isWord (first.trans hinfix)
    obtain ⟨token, htoken, hw⟩ := List.mem_flatMap.1 hw
    obtain ⟨hmem, hnone⟩ := mem_rest.1 htoken
    exact ⟨token, hmem, isForeign_of_infix hpair (of_mem_lexLenient hmem) hnone hw hinfix, w, hw,
      hinfix⟩
  · rintro - ⟨token, hmem, hforeign, w, hw, hinfix⟩
    refine hinfix.trans (infix_intercalate (List.mem_flatMap.2 ⟨token, ?_, hw⟩))
    exact mem_rest.2 ⟨hmem, hforeign.qualifier?_eq_none⟩

/-- A query in which a pair is set, and searched for as a phrase. -/
def twice : Text := "year:2015 \"year:2015\"".toList

theorem twice_leaks_from_foreign :
    ("year".toList, "2015".toList) ∈ ((ofNames ["year".toList]).parse twice).qualifiers.toList ∧
      ∃ token ∈ lexLenient twice, (ofNames ["year".toList]).IsForeign token ∧
        ∃ w ∈ words token.text, "year:2015".toList <:+: w := by
  have set : ("year".toList, "2015".toList) ∈
      ((ofNames ["year".toList]).parse twice).qualifiers.toList := by decide
  have text : ((ofNames ["year".toList]).parse twice).freeText = "year:2015".toList := by
    decide
  refine ⟨set, (leaks_from_foreign (ofNames ["year".toList]) twice set).1 ?_⟩
  rw [text]
  exact List.infix_rfl

/-- **A pair that sets a qualifier may be found in the free text**: a phrase is searched for as it
stands. -/
theorem phrase_leaks :
    ∃ p ∈ ((ofNames ["year".toList]).parse twice).qualifiers.toList,
      p.1 ++ ':' :: p.2 <:+: ((ofNames ["year".toList]).parse twice).freeText := by
  have text : ((ofNames ["year".toList]).parse twice).freeText = "year:2015".toList := by
    decide
  refine ⟨("year".toList, "2015".toList), by decide, ?_⟩
  rw [text]
  exact List.infix_rfl

end Vocabulary

end TranscriptSearch.Query
