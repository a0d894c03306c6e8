import TranscriptSearch.Proofs.Query.Grammar
import TranscriptSearch.Proofs.Query.Overlay

/-!
# Query — a query searches for the terms that it is written with

The free text is put together again from texts without their quotes, from pairs and from words that
were recovered, one space apart.  No term comes of that, and none goes: where two items meet there
is a blank or a quote, and neither is a part of a term.

* `Laid`: a text is blanks and items, each with the part of the text that it is read from.
* `exists_laid`, `Laid.map_fst`: every text is, and the items are the tokens of the query.
* `Begins.terms`, `IsOpen.terms`: an item has the terms of its token, and parts the text.
* `Laid.terms`: the terms of a text are those of its items.
* `Vocabulary.searched_as_written`: a query searches for the terms of the items that set no
  qualifier.
-/

namespace TranscriptSearch.Query

open Text

variable {t rest source inside : Text} {token : Token} {items : List (Token × Text)}

/-! ### The parts that items are read from -/

/-- A text is blanks and items, one after the other, each item with the part of the text that it is
read from. -/
inductive Laid : List (Token × Text) → Text → Prop where
  /-- There is nothing. -/
  | nil : Laid [] []
  /-- A blank comes first. -/
  | blank {c : Char} {t : Text} {items : List (Token × Text)} : isBlank c = true → Laid items t →
      Laid items (c :: t)
  /-- An item comes first, and it ends where the rest begins. -/
  | closed {token : Token} {source rest : Text} {items : List (Token × Text)} :
      Begins token rest (source ++ rest) → Laid items rest →
      Laid ((token, source) :: items) (source ++ rest)
  /-- An item with a quote that is never closed comes first, and it is the whole text. -/
  | opened {token : Token} {inside source : Text} : IsOpen token inside source →
      Laid [(token, source)] source

/-- What an item is read from ends where the rest of the text begins. -/
theorem Begins.exists_source (h : Begins token rest t) : ∃ source, t = source ++ rest := by
  cases h with
  | @phrase p rest hp => exact ⟨'"' :: p ++ ['"'], by simp⟩
  | word => exact ⟨_, rfl⟩
  | colon => exact ⟨_, rfl⟩
  | value => exact ⟨_, rfl⟩
  | @quotedValue n v rest hn hv => exact ⟨n ++ [':', '"'] ++ v ++ ['"'], by simp⟩

/-- **Every text is blanks and items.** -/
theorem exists_laid (t : Text) : ∃ items, Laid items t := by
  induction t using item_induction with
  | nil => exact ⟨[], .nil⟩
  | blank c t hc ih =>
      obtain ⟨items, hitems⟩ := ih
      exact ⟨items, .blank hc hitems⟩
  | closed token rest t hitem ih =>
      obtain ⟨items, hitems⟩ := ih
      obtain ⟨source, rfl⟩ := hitem.exists_source
      exact ⟨(token, source) :: items, .closed hitem hitems⟩
  | opened token inside t hitem => exact ⟨[(token, t)], .opened hitem⟩

/-- **The items are the tokens of the query**, in their order. -/
theorem Laid.map_fst (h : Laid items t) : items.map Prod.fst = lexLenient t := by
  induction h with
  | nil => rfl
  | @blank c t items hc _ ih =>
      rw [ih, show lexLenient (c :: t) = lexLenient t from lexLenient_append (s := []) rfl hc t]
  | closed hitem _ ih => rw [List.map_cons, ih, hitem.lexLenient.1]
  | opened hitem => rw [hitem.lexLenient.1, List.map_singleton]

/-! ### Their terms -/

section Terms

variable (rule : TermRule)

theorem terms_quote_cons (t : Text) : rule.terms ('"' :: t) = rule.terms t :=
  rule.terms_cons isAlphanumeric_quote t

theorem terms_concat_quote (t : Text) : rule.terms (t ++ ['"']) = rule.terms t := by
  rw [rule.terms_append isAlphanumeric_quote, TermRule.terms_nil, List.append_nil]

/-- A word or a value without quotes ends before a character of no term. -/
theorem EndsWord.isAlphanumeric_head (h : EndsWord rest) :
    ∀ c ∈ rest.head?, isAlphanumeric c = false := by
  intro c hc
  obtain hblank | rfl := h c hc
  · exact isAlphanumeric_of_isBlank hblank
  · exact isAlphanumeric_quote

/-- So does a name and its colon without a value. -/
theorem EndsName.endsWord (h : EndsName rest) : EndsWord rest := fun c hc => .inl (h c hc)

/-- **An item parts the terms of a text**: those of its token come first, and those of the rest
after them.  It either ends with a quote, or a blank or a quote comes after it. -/
theorem Begins.terms (h : Begins token rest t) :
    rule.terms t = rule.terms token.text ++ rule.terms rest := by
  cases h with
  | phrase => rw [terms_quote_cons, rule.terms_append isAlphanumeric_quote, Token.text]
  | word _ hends => exact rule.terms_append_of_head _ hends.isAlphanumeric_head
  | colon _ hends => exact rule.terms_append_of_head _ hends.endsWord.isAlphanumeric_head
  | value _ _ hends => exact rule.terms_append_of_head _ hends.isAlphanumeric_head
  | quotedValue => rw [rule.terms_append isAlphanumeric_quote, Token.text, terms_concat_quote]

/-- What an item is read from has the terms of its token. -/
theorem Begins.terms_source (h : Begins token rest (source ++ rest)) :
    rule.terms source = rule.terms token.text := by
  generalize hwhole : source ++ rest = whole at h
  cases h with
  | @phrase p rest hp =>
      obtain rfl : source = '"' :: (p ++ ['"']) :=
        List.append_cancel_right (hwhole.trans (by simp))
      rw [terms_quote_cons, terms_concat_quote, Token.text]
  | word => rw [List.append_cancel_right hwhole, Token.text]
  | colon => rw [List.append_cancel_right hwhole, Token.text]
  | value => rw [List.append_cancel_right hwhole, Token.text]
  | @quotedValue n v rest hn hv =>
      obtain rfl : source = n ++ [':', '"'] ++ v ++ ['"'] :=
        List.append_cancel_right (hwhole.trans (by simp))
      rw [Token.text]

/-- An item with an open quote has the terms of its token. -/
theorem IsOpen.terms (h : IsOpen token inside t) : rule.terms t = rule.terms token.text := by
  cases h with
  | phrase => rw [terms_quote_cons, Token.text]
  | quotedValue => rw [Token.text]

/-- Each item is read from a text with the terms of its token. -/
theorem Laid.terms_source (h : Laid items t) :
    ∀ item ∈ items, rule.terms item.2 = rule.terms item.1.text := by
  induction h with
  | nil => simp
  | blank _ _ ih => exact ih
  | closed hitem _ ih => exact List.forall_mem_cons.2 ⟨hitem.terms_source rule, ih⟩
  | opened hitem => exact List.forall_mem_singleton.2 (hitem.terms rule)

/-- **The terms of a text are those of its items**, in their order. -/
theorem Laid.terms (h : Laid items t) :
    rule.terms t = items.flatMap fun item => rule.terms item.2 := by
  induction h with
  | nil => rfl
  | blank hc _ ih => rw [rule.terms_cons (isAlphanumeric_of_isBlank hc), ih]
  | closed hitem _ ih => rw [List.flatMap_cons, hitem.terms, hitem.terms_source, ih]
  | opened => rw [List.flatMap_singleton]

end Terms

/-! ### What is searched for -/

namespace Vocabulary

/-- The terms of a free text are those of the tokens that set no qualifier. -/
theorem terms_freeText (v : Vocabulary) (rule : TermRule) (tokens : List Token) :
    rule.terms (v.ofTokens tokens).freeText =
      (v.rest tokens).flatMap fun token => rule.terms token.text := by
  rw [terms_ofTokens, List.flatMap_assoc]
  exact List.flatMap_congr fun token _ => rule.terms_flatMap_words token.text

/-- Without names nothing is a qualifier. -/
theorem qualifier?_ofNames_nil (token : Token) : (ofNames []).qualifier? token = none := by
  rw [qualifier?_eq_none_iff]
  intro n raw isQuoted _ hname
  obtain ⟨⟨_, hmem, _⟩, _⟩ := recognizes_ofNames_iff.1 hname
  cases hmem

/-- The terms of a free text, by what the items are read from. -/
theorem terms_parse_of_laid (v : Vocabulary) (rule : TermRule) {input : Text}
    (h : Laid items input) :
    rule.terms (v.parse input).freeText =
      (items.filter fun item => v.qualifier? item.1 = none).flatMap
        fun item => rule.terms item.2 := by
  have left : v.rest (lexLenient input) =
      (items.filter fun item => v.qualifier? item.1 = none).map Prod.fst := by
    rw [← h.map_fst, rest, List.filter_map]
    refine congrArg (List.map Prod.fst) (List.filter_congr fun item _ => ?_)
    rw [Bool.eq_iff_iff, decide_eq_true_iff]
    exact Option.isNone_iff_eq_none
  rw [parse_eq, terms_freeText, left, List.flatMap_map]
  exact List.flatMap_congr fun item hitem =>
    (h.terms_source rule item (List.mem_filter.1 hitem).1).symm

/-- If no token sets a qualifier, a query searches for the terms of its text. -/
theorem terms_parse_of_forall (v : Vocabulary) (rule : TermRule) {input : Text}
    (h : ∀ token ∈ lexLenient input, v.qualifier? token = none) :
    rule.terms (v.parse input).freeText = rule.terms input := by
  obtain ⟨items, hitems⟩ := exists_laid input
  have all : (items.filter fun item => v.qualifier? item.1 = none) = items := by
    refine List.filter_eq_self.2 fun item hitem => decide_eq_true ?_
    exact h item.1 (hitems.map_fst ▸ List.mem_map_of_mem hitem)
  rw [v.terms_parse_of_laid rule hitems, all, ← hitems.terms]

/-- **A query searches for the terms that it is written with.**  It is blanks and items, which are
its tokens, and the terms of its free text are those of what the items that set no qualifier are
read from, in their order.  So if no item sets one, and always if no name is recognized, they are
the terms of the query as it stands. -/
theorem searched_as_written (v : Vocabulary) (input : Text) :
    (∃ items, Laid items input) ∧
      (∀ items, Laid items input → items.map Prod.fst = lexLenient input ∧
        ∀ rule : TermRule, rule.terms (v.parse input).freeText =
          (items.filter fun item => v.qualifier? item.1 = none).flatMap
            fun item => rule.terms item.2) ∧
      ((∀ token ∈ lexLenient input, v.qualifier? token = none) →
        ∀ rule : TermRule, rule.terms (v.parse input).freeText = rule.terms input) ∧
      ∀ rule : TermRule, rule.terms ((ofNames []).parse input).freeText = rule.terms input := by
  refine ⟨exists_laid input, fun items hitems => ⟨hitems.map_fst, fun rule => ?_⟩, fun h rule => ?_,
    fun rule => ?_⟩
  · exact v.terms_parse_of_laid rule hitems
  · exact v.terms_parse_of_forall rule h
  · exact terms_parse_of_forall _ rule fun token _ => qualifier?_ofNames_nil token

/-- A query with items that meet at a quote, a blank value, and a quote that is never closed. -/
def seamed : Text := "ΟΔΟΣ\"ΣΟΦΟΣ\"a:\"ΟΔΟΣ ΟΔΟΣ\"b:x-Y year:\" \" z:\"Éa".toList

/-- No item of it sets a year, and every sigma is lowered as it stands in the query. -/
theorem seamed_searched_as_written :
    (∀ token ∈ lexLenient seamed, (ofNames ["year".toList]).qualifier? token = none) ∧
      (TermRule.ofMinLength 1).terms ((ofNames ["year".toList]).parse seamed).freeText =
        ["οδος", "σοφος", "a", "οδος", "οδος", "b", "x", "y", "year", "z", "éa"].map
          String.toList := by
  have unset : ∀ token ∈ lexLenient seamed,
      (ofNames ["year".toList]).qualifier? token = none := by decide
  refine ⟨unset, ?_⟩
  rw [(searched_as_written (ofNames ["year".toList]) seamed).2.2.1 unset]
  decide

end Vocabulary

end TranscriptSearch.Query
