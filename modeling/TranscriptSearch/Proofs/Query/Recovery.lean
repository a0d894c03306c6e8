import Mathlib.Algebra.Ring.Parity
import TranscriptSearch.Proofs.Query.Juxtaposition
import TranscriptSearch.Proofs.Query.Spelling

/-!
# Query — quotes that are never closed

A quote stays open when the number of quotes is odd, and then it is the last one.  A strict reading
fails at it.  A lenient one goes on with what comes before it: a name and a colon that the quote
comes right after become one word with all that follows, else what follows is a phrase.

* `Reading.scan_quote`: what a quote does to what is being read.
* `Dangles`: a text ends in a name and a colon; `dangles_iff`: that is when one is being read.
* `FailsAt`, `Recovers`: the fault of a quote and the tokens of a lenient reading.
* `fails_or_recovers`: when a reading fails, where, and what a lenient one gives.
-/

namespace TranscriptSearch.Query

open Text

variable {u w input : Text} {tokens : List Token} {n : Text} {c : Char}

/-! ### The last quote -/

/-- What comes before the last quote and what comes after it. -/
theorem exists_last_quote (h : '"' ∈ input) : ∃ u w, input = u ++ '"' :: w ∧ '"' ∉ w := by
  obtain ⟨back, front, hinput, hback⟩ := List.eq_append_cons_of_mem (List.mem_reverse.2 h)
  refine ⟨front.reverse, back.reverse, ?_, by simpa using hback⟩
  rw [← List.reverse_reverse input, hinput]
  simp

/-- The quotes before the last one are closed when all of them are not. -/
theorem isClosed_before (hw : '"' ∉ w) :
    IsClosed u ↔ Odd ((u ++ '"' :: w).count '"') := by
  rw [isClosed_iff, List.count_append, List.count_cons_self, List.count_eq_zero_of_not_mem hw,
    zero_add, Nat.odd_add_one, Nat.not_odd_iff_even]

namespace Reading

variable {r : Reading}

/-- A quote ends what is being read and opens a phrase, but a value after a name and its colon. -/
theorem step_quote (hr : r.openQuote = none) (hcolon : ∀ n, r ≠ .colon n) :
    r.step '"' = (r.finish, .phrase []) := by
  have start : start '"' = .phrase [] := by decide
  cases r with
  | gap => simp [step, start, finish]
  | word w => simp [step, start, finish]
  | colon n => exact absurd rfl (hcolon n)
  | value n v => simp [step, start, finish]
  | phrase p => cases hr
  | quotedValue n v => cases hr

/-- **What comes after a quote is in a phrase**, and what was being read ends before it. -/
theorem scan_quote (hr : r.openQuote = none) (hcolon : ∀ n, r ≠ .colon n) (hw : '"' ∉ w) :
    r.scan ('"' :: w) = (r.finish.toList, .phrase w.reverse) := by
  rw [scan, step_quote hr hcolon, scan_phrase [] hw]
  simp

/-- **After a name and a colon** it is in a value. -/
theorem scan_colon_quote (n : Text) (hw : '"' ∉ w) :
    (colon n).scan ('"' :: w) = ([], .quotedValue n w.reverse) := by
  have first : (colon n).step '"' = (none, .quotedValue n []) := by
    rw [step, if_neg (by decide), if_pos rfl]
  rw [scan, first, scan_quotedValue n [] hw]
  simp

theorem scan_concat (r : Reading) (t : Text) (c : Char) :
    r.scan (t ++ [c]) =
      ((r.scan t).1 ++ ((r.scan t).2.step c).1.toList, ((r.scan t).2.step c).2) := by
  simp [scan_append, scan]

/-- A name and its colon are being read only after a colon. -/
theorem eq_of_step_colon (h : (r.step c).2 = .colon n) : c = ':' := by
  have start : ∀ c, start c ≠ .colon n := by
    intro c
    rw [Reading.start]
    split
    next => simp
    next => split <;> simp
  cases r with
  | gap => exact absurd h (start c)
  | word w =>
      rw [step] at h
      split at h
      next => exact absurd h (start c)
      next =>
        split at h
        next hc => exact hc
        next => cases h
  | colon m =>
      rw [step] at h
      split at h
      next => cases h
      next => split at h <;> cases h
  | value m v =>
      rw [step] at h
      split at h
      next => exact absurd h (start c)
      next => cases h
  | phrase p => rw [step] at h; split at h <;> cases h
  | quotedValue m v => rw [step] at h; split at h <;> cases h

/-- Nothing is being read only after a blank, or a quote that ends a phrase or a value. -/
theorem of_step_gap (h : (r.step c).2 = .gap) (hc : isBlank c = false) :
    ∃ token, (r.step c).1 = some token ∧ ∀ w, token ≠ .word w := by
  have start : start c ≠ .gap := by
    rw [Reading.start, if_neg (by simp [hc])]
    split <;> simp
  cases r with
  | gap => exact absurd h start
  | word w =>
      rw [step] at h
      split at h
      next => exact absurd h start
      next => split at h <;> cases h
  | colon m =>
      rw [step, if_neg (by simp [hc])] at h
      split at h <;> cases h
  | value m v =>
      rw [step] at h
      split at h
      next => exact absurd h start
      next => cases h
  | phrase p =>
      rw [step] at h ⊢
      split at h
      next hquote => exact ⟨.phrase p.reverse, by rw [if_pos hquote], by simp⟩
      next => cases h
  | quotedValue m v =>
      rw [step] at h ⊢
      split at h
      next hquote => exact ⟨.qualifier m v.reverse true, by rw [if_pos hquote], by simp⟩
      next => cases h

end Reading

/-! ### A name and a colon at the end -/

/-- The tokens of a text end in a name and a colon, and there is no blank after them. -/
structure Dangles (u : Text) (tokens : List Token) (n : Text) : Prop where
  /-- The last token is a word, the name and the colon. -/
  tokens : lex u = .ok (tokens ++ [.word (n ++ [':'])])
  /-- The name is not empty. -/
  ne_nil : n ≠ []
  /-- The text does not end in a blank. -/
  attached : ∀ c ∈ u.getLast?, isBlank c = false

theorem lex_of_isClosed (h : IsClosed u) : lex u = .ok (lexLenient u) := by
  rw [lex, h]

theorem isClosed_of_lex (h : lex u = .ok tokens) : IsClosed u := by
  rw [lex] at h
  split at h
  next => cases h
  next hclosed => exact hclosed

/-- A word that is read to its end has no colon after a name. -/
theorem IsName.ne_append_colon (h : IsName w) (hn : n ≠ []) : w ≠ n ++ [':'] := by
  rintro rfl
  apply h.colon
  rw [List.tail_append_of_ne_nil hn]
  simp

/-- **A text dangles when a name and its colon are being read at its end.** -/
theorem dangles_iff : Dangles u tokens n ↔ Reading.gap.scan u = (tokens, .colon n) := by
  have sound := (Reading.IsSound.scan (r := .gap) trivial u).2
  constructor
  · intro h
    have closed : IsClosed u := isClosed_of_lex h.tokens
    have last := lexLenient_of_lex h.tokens
    rw [IsClosed] at closed
    rw [lexLenient] at last
    cases hr : (Reading.gap.scan u).2 with
    | gap =>
        -- nothing is being read after a blank, and a phrase or a pair at the end is no word
        rcases List.eq_nil_or_concat u with rfl | ⟨u, c, rfl⟩
        · simp [Reading.scan, Reading.finish] at last
        · rw [List.concat_eq_append] at *
          rw [hr, Reading.scan_concat, Reading.finish] at last
          rw [Reading.scan_concat] at hr
          obtain ⟨token, htoken, hword⟩ := Reading.of_step_gap hr (h.attached c (by simp))
          simp only [htoken, Option.toList_some, Option.toList_none, List.append_nil] at last
          obtain ⟨-, htokens⟩ := List.append_inj' last rfl
          exact absurd (List.singleton_inj.1 htokens) (hword _)
    | word w =>
        rw [hr] at last sound
        obtain ⟨-, htokens⟩ := List.append_inj' last rfl
        have hword : w.reverse = n ++ [':'] := Token.word.inj (List.singleton_inj.1 htokens)
        exact absurd hword (IsName.ne_append_colon sound h.ne_nil)
    | colon m =>
        rw [hr] at last
        obtain ⟨htokens, hword⟩ := List.append_inj' last rfl
        have hname : m ++ [':'] = n ++ [':'] := Token.word.inj (List.singleton_inj.1 hword)
        rw [← htokens, ← List.append_cancel_right hname, ← hr]
    | value m v =>
        rw [hr] at last
        obtain ⟨-, hword⟩ := List.append_inj' last rfl
        cases hword
    | phrase p => rw [hr] at closed; cases closed
    | quotedValue m v => rw [hr] at closed; cases closed
  · intro h
    have name : IsName n := by rwa [h] at sound
    have closed : IsClosed u := by rw [IsClosed, h]; rfl
    refine ⟨?_, name.ne_nil, ?_⟩
    · rw [lex_of_isClosed closed, lexLenient, h]
      rfl
    · intro c hc
      obtain ⟨u, rfl⟩ := List.getLast?_eq_some_iff.1 hc
      rw [Reading.scan_concat] at h
      rw [Reading.eq_of_step_colon (congrArg Prod.snd h)]
      decide

/-! ### Faults and recoveries -/

theorem holds_self (t : Text) : holds t t = true := by
  cases t <;> simp [holds]

/-- An open quote can be mended. -/
theorem SyntaxError.suggestion_of_message {e : SyntaxError} (h : e.message = unclosedQuote) :
    e.suggestion = some "Add a closing quote (\") to complete the phrase".toList := by
  have hint : holds unclosedQuote e.message = true := by rw [h, holds_self]
  rw [suggestion, if_pos hint]

/-- What an open quote is called. -/
theorem SyntaxError.unclosedQuote_eq : unclosedQuote = "unclosed quote".toList := rfl

/-- How a fault is told. -/
theorem SyntaxError.explainAt_eq (e : SyntaxError) (column : Nat) :
    e.explainAt column = "query syntax error: ".toList ++ e.message ++ "\n  ".toList ++ e.input ++
      "\n  ".toList ++ List.replicate column ' ' ++ ['^'] ++
        match e.suggestion with
        | some hint => "\nhint: ".toList ++ hint
        | none      => [] := rfl

/-- A fault that can be mended is told with the query, a caret and the way to mend it. -/
theorem SyntaxError.explainAt_of_suggestion {e : SyntaxError} {hint : Text}
    (h : e.suggestion = some hint) (column : Nat) :
    e.explainAt column = "query syntax error: ".toList ++ e.message ++ "\n  ".toList ++ e.input ++
      "\n  ".toList ++ List.replicate column ' ' ++ ['^'] ++ ("\nhint: ".toList ++ hint) := by
  rw [explainAt_eq, h]

/-- A reading fails at the quote between two texts: the fault, the column of its caret and the text
that it is told by. -/
structure FailsAt (e : SyntaxError) (u w : Text) : Prop where
  /-- The place of the fault is that of the quote. -/
  fault : e = ⟨SyntaxError.unclosedQuote, utf8Length u, u ++ '"' :: w⟩
  /-- The place is between two characters, and as many come before it as before the quote. -/
  column : e.column? = some u.length
  /-- The caret stands below the quote. -/
  told : e.explain? = some ("query syntax error: unclosed quote\n  ".toList ++ (u ++ '"' :: w) ++
    "\n  ".toList ++ List.replicate u.length ' ' ++
    "^\nhint: Add a closing quote (\") to complete the phrase".toList)

theorem failsAt (u w : Text) :
    FailsAt ⟨SyntaxError.unclosedQuote, utf8Length u, u ++ '"' :: w⟩ u w := by
  have column : charsIn? (utf8Length u) (u ++ '"' :: w) = some u.length :=
    charsIn?_utf8Length_append u ('"' :: w)
  refine ⟨rfl, column, ?_⟩
  rw [SyntaxError.explain?, SyntaxError.column?, column, Option.map_some,
    SyntaxError.explainAt_of_suggestion (SyntaxError.suggestion_of_message rfl),
    SyntaxError.unclosedQuote_eq]
  simp

/-- The tokens that a lenient reading gives for a text, a quote and what comes after the quote. -/
inductive Recovers (u w : Text) : List Token → Prop where
  /-- After a name and a colon, one word with all that follows. -/
  | word {tokens : List Token} {n : Text} : Dangles u tokens n →
      Recovers u w (tokens ++ [.word (n ++ [':', '"'] ++ w)])
  /-- Else a phrase. -/
  | phrase {tokens : List Token} : lex u = .ok tokens → (∀ before n, ¬Dangles u before n) →
      Recovers u w (tokens ++ [.phrase w])

/-- **An open quote** is a fault; a lenient reading recovers from it. -/
theorem of_last_quote (hu : IsClosed u) (hw : '"' ∉ w) :
    lex (u ++ '"' :: w) = .error ⟨SyntaxError.unclosedQuote, utf8Length u, u ++ '"' :: w⟩ ∧
      Recovers u w (lexLenient (u ++ '"' :: w)) := by
  obtain ⟨hlex, hopen⟩ := lexLenient_append_of_scan (s := u) rfl ('"' :: w)
  have fault (h : unclosed (u ++ '"' :: w) = some w) : lex (u ++ '"' :: w) =
      .error ⟨SyntaxError.unclosedQuote, utf8Length u, u ++ '"' :: w⟩ := by
    rw [unclosed] at h
    rw [lex, h]
    simp
  by_cases hcolon : ∃ n, (Reading.gap.scan u).2 = .colon n
  · obtain ⟨n, hr⟩ := hcolon
    rw [hr, Reading.scan_colon_quote n hw] at hopen
    refine ⟨fault (by simpa [Reading.openQuote] using hopen), ?_⟩
    rw [hlex, hr, Reading.lexFrom, Reading.scan_colon_quote n hw]
    have dangles : Dangles u (Reading.gap.scan u).1 n := dangles_iff.2 (by rw [← hr])
    simpa [Reading.finish] using Recovers.word (w := w) dangles
  · rw [not_exists] at hcolon
    rw [Reading.scan_quote hu hcolon hw] at hopen
    refine ⟨fault (by simpa [Reading.openQuote] using hopen), ?_⟩
    rw [hlex, Reading.lexFrom, Reading.scan_quote hu hcolon hw]
    have none (before : List Token) (n : Text) : ¬Dangles u before n := fun h =>
      hcolon n (congrArg Prod.snd (dangles_iff.1 h))
    simpa [Reading.finish, lexLenient] using Recovers.phrase (w := w) (lex_of_isClosed hu) none

/-- A strict reading fails when the number of quotes is odd. -/
theorem exists_fault_iff : (∃ e, lex input = .error e) ↔ Odd (input.count '"') := by
  rw [← Nat.not_even_iff_odd, ← isClosed_iff]
  constructor
  · rintro ⟨e, he⟩ hclosed
    rw [lex_of_isClosed hclosed] at he
    cases he
  · intro hopen
    obtain ⟨inside, hinside⟩ := Option.ne_none_iff_exists'.1 hopen
    exact ⟨_, by rw [lex, hinside]⟩

/-- **A strict and a lenient reading agree.**  A strict one fails when the number of quotes is odd,
and at the last quote; if it does not fail, a lenient one gives the same tokens, else it gives those
of what comes before the quote and recovers from there.  So does a reader that goes from item to
item, and a lenient one never halts. -/
theorem fails_or_recovers (input : Text) :
    ((∃ e, lex input = .error e) ↔ Odd (input.count '"')) ∧
      (∀ tokens, lex input = .ok tokens → lexLenient input = tokens) ∧
      (∀ e, lex input = .error e → ∃ u w, input = u ++ '"' :: w ∧ '"' ∉ w ∧ FailsAt e u w ∧
        Recovers u w (lexLenient input)) ∧
      (Reader.items ⟨input, false⟩ (.between [] input) =
        match lex input with
        | .ok tokens => .ok (tokens.map Token.item, .between input [])
        | .error e   => .error (.fault e)) ∧
      Reader.items ⟨input, true⟩ (.between [] input) =
        .ok ((lexLenient input).map Token.item, .between input []) := by
  refine ⟨exists_fault_iff, fun _ => lexLenient_of_lex, fun e he => ?_, Reader.items_strict input,
    Reader.items_lenient input⟩
  have odd : Odd (input.count '"') := exists_fault_iff.1 ⟨e, he⟩
  have hquote : '"' ∈ input := by
    by_contra hnone
    rw [List.count_eq_zero_of_not_mem hnone] at odd
    exact absurd odd (by decide)
  obtain ⟨u, w, rfl, hw⟩ := exists_last_quote hquote
  obtain ⟨hfault, hrecovers⟩ := of_last_quote ((isClosed_before hw).2 odd) hw
  rw [hfault] at he
  cases he
  exact ⟨u, w, rfl, hw, failsAt u w, hrecovers⟩

/-- A query whose last quote is that of a value, with a character of two octets before it. -/
def dangling : Text := "café year:\"2015 swift".toList

theorem dangling_fails_or_recovers :
    lex dangling = .error ⟨SyntaxError.unclosedQuote, 11, dangling⟩ ∧
      lexLenient dangling = [.word "café".toList, .word "year:\"2015 swift".toList] ∧
      (∃ u w, dangling = u ++ '"' :: w ∧ '"' ∉ w ∧
        FailsAt ⟨SyntaxError.unclosedQuote, 11, dangling⟩ u w ∧
        Recovers u w (lexLenient dangling)) ∧
      lex "\"swift ui\" at:10:30".toList =
        .ok [.phrase "swift ui".toList, .qualifier "at".toList "10:30".toList false] ∧
      lexLenient "\"swift ui\" at:10:30".toList =
        [.phrase "swift ui".toList, .qualifier "at".toList "10:30".toList false] := by
  have fault : lex dangling = .error ⟨SyntaxError.unclosedQuote, 11, dangling⟩ := by decide
  have tokens : lex "\"swift ui\" at:10:30".toList =
      .ok [.phrase "swift ui".toList, .qualifier "at".toList "10:30".toList false] := by
    decide
  exact ⟨fault, by decide, (fails_or_recovers dangling).2.2.1 _ fault, tokens,
    (fails_or_recovers _).2.1 _ tokens⟩

end TranscriptSearch.Query
