import TranscriptSearch.Proofs.Query.Cursor

/-!
# Query — nothing of a query is lost

The tokens of a query stand in it one after the other, each with its text as it is written, and
there is nothing between them but blanks and quotes.

* `Spells`: tokens with gaps between them are a text.
* `spells_lexLenient`: the tokens of a query are the query.
* `Spells.filter_eq`, `Spells.isInfix`: they have its characters, and each of them is a part of it.
* `lexed_in_full`: a query is read in full, and to its end.
-/

namespace TranscriptSearch.Query

open Text

variable {t rest inside input : Text} {token : Token} {tokens : List Token}

/-! ### Tokens with gaps between them -/

/-- Blanks and quotes alone. -/
def IsGap (g : Text) : Prop := ∀ c ∈ g, isSolid c = false

/-- A text is the texts of tokens, in their order, with gaps before, between and after them. -/
inductive Spells : List Token → Text → Prop where
  /-- A gap alone. -/
  | gap {g : Text} : IsGap g → Spells [] g
  /-- A gap, a token and what follows. -/
  | token {g t : Text} {token : Token} {tokens : List Token} : IsGap g → Spells tokens t →
      Spells (token :: tokens) (g ++ token.text ++ t)

namespace Spells

/-- A gap may begin with one more blank or quote. -/
theorem cons {c : Char} (hc : isSolid c = false) (h : Spells tokens t) :
    Spells tokens (c :: t) := by
  cases h with
  | gap hg => exact .gap (List.forall_mem_cons.2 ⟨hc, hg⟩)
  | token hg ht => exact .token (g := c :: _) (List.forall_mem_cons.2 ⟨hc, hg⟩) ht

/-- A token comes first. -/
theorem of_append (h : Spells tokens t) (token : Token) :
    Spells (token :: tokens) (token.text ++ t) :=
  .token (g := []) (by simp [IsGap]) h

/-- **Tokens have all characters of their text** but blanks and quotes, in their order. -/
theorem filter_eq (h : Spells tokens t) :
    (tokens.flatMap Token.text).filter isSolid = t.filter isSolid := by
  have gap : ∀ {g : Text}, IsGap g → g.filter isSolid = [] := fun hg =>
    List.filter_eq_nil_iff.2 fun c hc => by simp [hg c hc]
  induction h with
  | gap hg => rw [gap hg, List.flatMap_nil, List.filter_nil]
  | token hg _ ih =>
      rw [List.flatMap_cons, List.filter_append, List.filter_append, List.filter_append, gap hg, ih,
        List.nil_append]

/-- Each of them stands in the text. -/
theorem isInfix (h : Spells tokens t) (htoken : token ∈ tokens) : token.text <:+: t := by
  induction h with
  | gap => cases htoken
  | @token g t first tokens hg ht ih =>
      rcases List.mem_cons.1 htoken with rfl | htoken
      · exact ⟨g, t, rfl⟩
      · exact (ih htoken).trans (List.suffix_append _ t).isInfix

end Spells

/-! ### Queries -/

theorem isSolid_quote : isSolid '"' = false := by decide

/-- An item is its token, and a gap if it has quotes around it. -/
theorem Begins.spells (h : Begins token rest t) (hrest : Spells tokens rest) :
    Spells (token :: tokens) t := by
  cases h with
  | phrase => exact ((hrest.cons isSolid_quote).of_append (.phrase _)).cons isSolid_quote
  | word => exact hrest.of_append (.word _)
  | colon => exact hrest.of_append (.word _)
  | value => exact hrest.of_append (.qualifier _ _ false)
  | quotedValue =>
      simpa only [Token.text, List.append_assoc, List.singleton_append] using
        hrest.of_append (.qualifier _ _ true)

theorem IsOpen.spells (h : IsOpen token inside t) : Spells [token] t := by
  have nothing : Spells [] [] := .gap (by simp [IsGap])
  cases h with
  | phrase => simpa [Token.text] using (nothing.of_append (.phrase _)).cons isSolid_quote
  | quotedValue => simpa [Token.text] using nothing.of_append (.word _)

/-- **The tokens of a query are the query**, but for blanks and quotes between them. -/
theorem spells_lexLenient (input : Text) : Spells (lexLenient input) input := by
  induction input using item_induction with
  | nil => exact .gap (by simp [IsGap])
  | blank c t hc ih =>
      rw [show lexLenient (c :: t) = lexLenient t from lexLenient_append (s := []) rfl hc t]
      exact ih.cons (by simp [isSolid, hc])
  | closed token rest t hitem ih =>
      rw [hitem.lexLenient.1]
      exact hitem.spells ih
  | opened token inside t hitem =>
      rw [hitem.lexLenient.1]
      exact hitem.spells

/-! ### What is read -/

/-- A pair is written in a query: its name `n`, its value `v` and its text `s`. -/
structure IsWritten (input n v s : Text) : Prop where
  /-- The name is not empty, has neither blanks nor quotes, and no colon after its first
  character. -/
  name : IsName n
  /-- The value comes after the colon.  If it has no quotes around it, it is not empty and has
  neither blanks nor quotes; else it has no quotes. -/
  value : (s = n ++ [':'] ++ v ∧ IsBare v) ∨ (s = n ++ [':', '"'] ++ v ++ ['"'] ∧ '"' ∉ v)
  /-- The text is a part of the query that is cut out of it between two characters. -/
  cut : ∃ before after, input = before ++ s ++ after ∧
    cut? input (utf8Length before) (utf8Length (before ++ s)) = some s

/-- Tokens are all that there is in a query. -/
structure InFull (input : Text) (tokens : List Token) : Prop where
  /-- They have its characters, but for blanks and quotes, each as often and in the same order. -/
  solid : (tokens.flatMap Token.text).filter isSolid = input.filter isSolid
  /-- The pairs are written in it. -/
  pair : ∀ {n v isQuoted}, .qualifier n v isQuoted ∈ tokens →
    IsWritten input n v (Token.qualifier n v isQuoted).text
  /-- No word is empty. -/
  word : ∀ {w}, .word w ∈ tokens → w ≠ []

theorem isWritten_of_mem {n v : Text} {isQuoted : Bool}
    (h : .qualifier n v isQuoted ∈ lexLenient input) :
    IsWritten input n v (Token.qualifier n v isQuoted).text := by
  have sound : (Token.qualifier n v isQuoted).IsSound := by
    obtain hsound | ⟨_, _, -, -, hword⟩ := of_mem_lexLenient h
    · exact hsound
    · cases hword
  obtain ⟨before, after, hinput⟩ := (spells_lexLenient input).isInfix h
  have cut : ∃ before after, input = before ++ (Token.qualifier n v isQuoted).text ++ after ∧
      cut? input (utf8Length before) (utf8Length (before ++ (Token.qualifier n v isQuoted).text)) =
        some (Token.qualifier n v isQuoted).text :=
    ⟨before, after, hinput.symm, hinput ▸ cut?_append before _ after⟩
  cases isQuoted with
  | false => exact ⟨sound.1, .inl ⟨rfl, sound.2⟩, cut⟩
  | true => exact ⟨sound.1, .inr ⟨rfl, sound.2⟩, cut⟩

theorem ne_nil_of_mem {w : Text} (h : .word w ∈ lexLenient input) : w ≠ [] := by
  obtain (hname | ⟨n, -, rfl⟩) | ⟨n, v, -, -, hword⟩ := of_mem_lexLenient h
  · exact hname.ne_nil
  · simp
  · rw [Token.word.inj hword]
    simp

theorem inFull_lexLenient (input : Text) : InFull input (lexLenient input) :=
  ⟨(spells_lexLenient input).filter_eq, isWritten_of_mem, ne_nil_of_mem⟩

/-- If no quote stays open there is nothing to be lenient about. -/
theorem lexLenient_of_lex (h : lex input = .ok tokens) : lexLenient input = tokens := by
  rw [lex] at h
  split at h <;> cases h
  rfl

/-- **A query is read in full.**  Its tokens, those of a query with an open quote too, are all that
there is in it; and a reader that goes from item to item reads these tokens and ends at the end of
the query, a strict one if no quote stays open. -/
theorem lexed_in_full (input : Text) :
    InFull input (lexLenient input) ∧
      Reader.items ⟨input, true⟩ (.between [] input) =
        .ok ((lexLenient input).map Token.item, ⟨utf8Length input, []⟩) ∧
      ∀ tokens, lex input = .ok tokens → InFull input tokens ∧
        Reader.items ⟨input, false⟩ (.between [] input) =
          .ok (tokens.map Token.item, ⟨utf8Length input, []⟩) := by
  refine ⟨inFull_lexLenient input, Reader.items_lenient input, fun tokens h => ⟨?_, ?_⟩⟩
  · rw [← lexLenient_of_lex h]
    exact inFull_lexLenient input
  · rw [Reader.items_strict, h]
    rfl

/-- A query with two pairs, a phrase and a word without blanks between them. -/
def crowded : Text := "a:é\"x y\"b:\"ü: z\"::".toList

theorem crowded_lexed_in_full :
    lex crowded = .ok [.qualifier "a".toList "é".toList false, .phrase "x y".toList,
        .qualifier "b".toList "ü: z".toList true, .word "::".toList] ∧
      InFull crowded [.qualifier "a".toList "é".toList false, .phrase "x y".toList,
        .qualifier "b".toList "ü: z".toList true, .word "::".toList] := by
  have tokens : lex crowded = .ok [.qualifier "a".toList "é".toList false, .phrase "x y".toList,
      .qualifier "b".toList "ü: z".toList true, .word "::".toList] := by decide
  exact ⟨tokens, ((lexed_in_full crowded).2.2 _ tokens).1⟩

end TranscriptSearch.Query
