import TranscriptSearch.Proofs.Text.Words
import TranscriptSearch.Query.Token

/-!
# Query — texts side by side are read side by side

A blank ends what is being read unless a quote is open, so that texts whose quotes are closed are
read one after another.  A text without blanks and quotes is one token; the tokens of a query have
such texts for names, and only the last of them can have a quote that is never closed.

* `lexLenient_intercalate`: the tokens of texts one space apart are the tokens of each.
* `Reading.written`: the text that is being read, which the token at its end has.
* `IsBare.lexLenient`: a text without blanks and quotes is one token.
* `lexLenient_eq_flatMap_words`, `of_lexLenient_of_not_mem`: a text without quotes is read word by
  word.
* `Token.IsSound`, `Token.IsUnclosed`: the tokens that there are.
* `of_lexLenient`: all tokens of a query are sound, the last one apart.
* `Token.IsSound.lexLenient_text`: a token that is no phrase is read again as it is.
* `Token.exists_squeezed`: when it is squeezed it is still one token of its kind.
-/

namespace TranscriptSearch.Query

open Text

/-! ### Blanks -/

namespace Reading

variable {r : Reading} {c : Char}

/-- **A blank ends what is being read**, unless a quote is open. -/
theorem step_blank (hr : r.openQuote = none) (hc : isBlank c = true) :
    r.step c = (r.finish, .gap) := by
  cases r with
  | gap => simp [step, start, hc, finish]
  | word w => simp [step, start, hc, finish]
  | colon n => simp [step, hc, finish]
  | value n v => simp [step, start, hc, finish]
  | phrase p => cases hr
  | quotedValue n v => cases hr

/-- The tokens of a text when something is being read before it. -/
def lexFrom (r : Reading) (t : Text) : List Token := (r.scan t).1 ++ (r.scan t).2.finish.toList

theorem lexFrom_cons (r : Reading) (c : Char) (t : Text) :
    r.lexFrom (c :: t) = (r.step c).1.toList ++ (r.step c).2.lexFrom t := by
  rw [lexFrom, lexFrom, scan, List.append_assoc]

end Reading

/-- At the end of a text no quote is open. -/
def IsClosed (t : Text) : Prop := (Reading.gap.scan t).2.openQuote = none

variable {s t : Text} {c : Char}

@[simp] theorem lexLenient_nil : lexLenient [] = [] := rfl

/-- **A blank parts tokens.** -/
theorem lexLenient_append (hs : IsClosed s) (hc : isBlank c = true) (t : Text) :
    lexLenient (s ++ c :: t) = lexLenient s ++ lexLenient t := by
  rw [lexLenient, Reading.scan_append, Reading.scan, Reading.step_blank hs hc]
  simp only [lexLenient, List.append_assoc]

/-- **The tokens of texts one space apart** are the tokens of each, if all but the last one are
closed. -/
theorem lexLenient_intercalate {ts last : List Text} (hts : ∀ t ∈ ts, IsClosed t)
    (hlast : last.length ≤ 1) :
    lexLenient ([' '].intercalate (ts ++ last)) = (ts ++ last).flatMap lexLenient := by
  induction ts with
  | nil =>
      rcases last with _ | ⟨t, _ | ⟨u, last⟩⟩
      · rfl
      · simp
      · simp at hlast
  | cons t ts ih =>
      obtain ⟨ht, hts⟩ := List.forall_mem_cons.1 hts
      rw [List.cons_append, List.flatMap_cons, ← ih hts]
      rcases eq_or_ne (ts ++ last) [] with hnil | hne
      · rw [hnil]
        simp [lexLenient, Reading.scan, Reading.finish]
      · rw [List.intercalate_cons_of_ne_nil hne, List.append_assoc, List.singleton_append,
          lexLenient_append ht isBlank_space]

/-! ### What is being read -/

namespace Reading

/-- The text that is being read. -/
def written : Reading → Text
  | .gap => []
  | .word w => w.reverse
  | .colon n => n ++ [':']
  | .value n v => n ++ [':'] ++ v.reverse
  | .phrase p => p.reverse
  | .quotedValue n v => n ++ [':', '"'] ++ v.reverse

variable {r : Reading}

/-- The token at the end has the text that was being read, and is a phrase only if a quote is
open. -/
theorem exists_finish (hr : r ≠ .gap) : ∃ token, r.finish = some token ∧ token.text = r.written ∧
    (r.openQuote = none → ∀ p, token ≠ .phrase p) := by
  cases r with
  | gap => exact absurd rfl hr
  | word w => exact ⟨_, rfl, rfl, by simp⟩
  | colon n => exact ⟨_, rfl, rfl, by simp⟩
  | value n v => exact ⟨_, rfl, rfl, by simp⟩
  | phrase p => exact ⟨_, rfl, rfl, by simp [openQuote]⟩
  | quotedValue n v => exact ⟨_, rfl, rfl, by simp⟩

end Reading

/-- A character that ends no word: neither a blank nor a quote. -/
def IsSolid (c : Char) : Prop := isBlank c = false ∧ c ≠ '"'

namespace Reading

variable {r : Reading}

/-- A solid character is added to what is being read. -/
theorem step_solid (hr : r.openQuote = none) (hc : IsSolid c) :
    (r.step c).1 = none ∧ (r.step c).2.openQuote = none ∧ (r.step c).2 ≠ .gap ∧
      (r.step c).2.written = r.written ++ [c] := by
  obtain ⟨hblank, hquote⟩ := hc
  cases r with
  | gap => simp [step, start, hblank, hquote, openQuote, written]
  | word w =>
      rcases eq_or_ne c ':' with rfl | hcolon
      · simp [step, hblank, openQuote, written]
      · simp [step, hblank, hquote, hcolon, openQuote, written]
  | colon n => simp [step, hblank, hquote, openQuote, written]
  | value n v => simp [step, hblank, hquote, openQuote, written]
  | phrase p => cases hr
  | quotedValue n v => cases hr

theorem scan_solid (hr : r.openQuote = none) (hs : ∀ c ∈ s, IsSolid c) :
    (r.scan s).1 = [] ∧ (r.scan s).2.openQuote = none ∧ (s ≠ [] → (r.scan s).2 ≠ .gap) ∧
      (r.scan s).2.written = r.written ++ s := by
  induction s generalizing r with
  | nil => simp [scan, hr]
  | cons c s ih =>
      obtain ⟨hc, hs⟩ := List.forall_mem_cons.1 hs
      obtain ⟨hnone, hopen, hgap, hwritten⟩ := step_solid hr hc
      obtain ⟨hnil, hopen', hgap', hwritten'⟩ := ih hopen hs
      simp only [scan, hnone, hnil, hwritten', hwritten]
      refine ⟨rfl, hopen', fun _ => ?_, by simp⟩
      rcases eq_or_ne s [] with rfl | hne
      · exact hgap
      · exact hgap' hne

end Reading

/-- A text of solid characters, and not empty. -/
structure IsBare (t : Text) : Prop where
  /-- It is not empty. -/
  ne_nil : t ≠ []
  /-- It has neither blanks nor quotes. -/
  solid : ∀ c ∈ t, IsSolid c

theorem IsBare.isWord (h : IsBare t) : IsWord t := ⟨h.ne_nil, fun c hc => (h.solid c hc).1⟩

theorem IsBare.isClosed (h : IsBare t) : IsClosed t := (Reading.scan_solid rfl h.solid).2.1

/-- **A text without blanks and quotes is one token**, which is no phrase. -/
theorem IsBare.lexLenient (h : IsBare t) :
    ∃ token, lexLenient t = [token] ∧ token.text = t ∧ ∀ p, token ≠ .phrase p := by
  obtain ⟨hnil, hopen, hgap, hwritten⟩ := Reading.scan_solid (r := .gap) rfl h.solid
  obtain ⟨token, htoken, htext, hphrase⟩ := Reading.exists_finish (hgap h.ne_nil)
  refine ⟨token, ?_, htext.trans hwritten, hphrase hopen⟩
  rw [Query.lexLenient, hnil, htoken]
  rfl

theorem Reading.lexFrom_eq_splitRun {r : Reading} (hr : r.openQuote = none) (ht : '"' ∉ t) :
    r.lexFrom t = r.lexFrom (splitRun (fun c => !isBlank c) t).1 ++
      (splitRun (fun c => !isBlank c) t).2.flatMap lexLenient := by
  induction t generalizing r with
  | nil => simp [splitRun]
  | cons c t ih =>
      rw [List.mem_cons, not_or] at ht
      obtain ⟨hquote, ht⟩ := ht
      cases hc : isBlank c with
      | false =>
          obtain ⟨hnone, hopen, -, -⟩ := step_solid hr (c := c) ⟨hc, Ne.symm hquote⟩
          simp only [splitRun, hc, Bool.not_false]
          rw [lexFrom_cons, lexFrom_cons, ih hopen ht, List.append_assoc]
      | true =>
          simp only [splitRun, hc, Bool.not_true]
          rw [lexFrom_cons, step_blank hr hc, ih rfl ht, flatMap_consRun rfl]
          rfl

/-- **A text without quotes is read word by word.** -/
theorem lexLenient_eq_flatMap_words (ht : '"' ∉ t) :
    lexLenient t = (words t).flatMap lexLenient := by
  rw [words, runs, flatMap_consRun rfl]
  exact Reading.lexFrom_eq_splitRun rfl ht

/-- A text without quotes is closed. -/
theorem isClosed_of_not_mem (ht : '"' ∉ t) : IsClosed t := by
  suffices closed :
      ∀ {r : Reading}, r.openQuote = none → (r.scan t).2.openQuote = none from closed rfl
  induction t with
  | nil => exact fun hr => hr
  | cons c t ih =>
      intro r hr
      rw [List.mem_cons, not_or] at ht
      refine ih ht.2 ?_
      cases hc : isBlank c with
      | true => rw [Reading.step_blank hr hc]; rfl
      | false => exact (Reading.step_solid hr ⟨hc, Ne.symm ht.1⟩).2.1

theorem isBare_of_mem_words (ht : '"' ∉ t) {w : Text} (hw : w ∈ words t) : IsBare w := by
  refine ⟨(isWord_of_mem_words hw).1, fun c hc => ⟨(isWord_of_mem_words hw).2 c hc, ?_⟩⟩
  rintro rfl
  exact ht (mem_of_mem_words hw hc)

/-- **The tokens of a text without quotes** are its words, one for one, and no phrases. -/
theorem of_lexLenient_of_not_mem (ht : '"' ∉ t) :
    (lexLenient t).flatMap (fun token => words token.text) = words t ∧
      ∀ token ∈ lexLenient t, ∀ p, token ≠ .phrase p := by
  rw [lexLenient_eq_flatMap_words ht]
  constructor
  · rw [List.flatMap_assoc]
    have each : ∀ w ∈ words t, (lexLenient w).flatMap (fun token => words token.text) = [w] := by
      intro w hw
      obtain ⟨token, hlex, htext, -⟩ := (isBare_of_mem_words ht hw).lexLenient
      rw [hlex, List.flatMap_singleton, htext, (isWord_of_mem_words hw).words]
    rw [List.flatMap_congr each, List.flatMap_singleton']
  · intro token htoken
    obtain ⟨w, hw, htoken⟩ := List.mem_flatMap.1 htoken
    obtain ⟨other, hlex, -, hphrase⟩ := (isBare_of_mem_words ht hw).lexLenient
    rw [hlex, List.mem_singleton] at htoken
    rw [htoken]
    exact hphrase

/-! ### The tokens that there are -/

/-- A text that can stand before a colon. -/
structure IsName (n : Text) : Prop extends IsBare n where
  /-- It can begin with a colon, but has no other one. -/
  colon : ':' ∉ n.tail

/-- A token whose quotes are closed. -/
def Token.IsSound : Token → Prop
  | .word w => IsName w ∨ ∃ n, IsName n ∧ w = n ++ [':']
  | .phrase p => '"' ∉ p
  | .qualifier n v true => IsName n ∧ '"' ∉ v
  | .qualifier n v false => IsName n ∧ IsBare v

/-- A word that is a name and a quoted value whose quote is not closed. -/
def Token.IsUnclosed (token : Token) : Prop :=
  ∃ n v, IsName n ∧ '"' ∉ v ∧ token = .word (n ++ [':', '"'] ++ v)

/-- What is being read of such a token. -/
def Reading.IsSound : Reading → Prop
  | .gap => True
  | .word w => IsName w.reverse
  | .colon n => IsName n
  | .value n v => IsName n ∧ IsBare v.reverse
  | .phrase p => '"' ∉ p
  | .quotedValue n v => IsName n ∧ '"' ∉ v

theorem IsBare.singleton {c : Char} (hc : IsSolid c) : IsBare [c] :=
  ⟨by simp, by simpa using hc⟩

theorem IsBare.concat {c : Char} (h : IsBare t) (hc : IsSolid c) : IsBare (t ++ [c]) := by
  refine ⟨by simp, fun d hd => ?_⟩
  rcases List.mem_append.1 hd with hd | hd
  · exact h.solid d hd
  · rw [List.mem_singleton.1 hd]
    exact hc

theorem IsName.concat {n : Text} {c : Char} (h : IsName n) (hc : IsSolid c) (hcolon : c ≠ ':') :
    IsName (n ++ [c]) := by
  refine ⟨h.toIsBare.concat hc, ?_⟩
  rw [List.tail_append_of_ne_nil h.ne_nil, List.mem_append, not_or]
  exact ⟨h.colon, by simpa using hcolon.symm⟩

namespace Reading

variable {r : Reading}

/-- A character that begins an item begins a sound one. -/
theorem isSound_start (c : Char) : (start c).IsSound := by
  rw [start]
  split
  next => trivial
  next hblank =>
    split
    next => exact List.not_mem_nil
    next hquote => exact ⟨.singleton ⟨by simpa using hblank, hquote⟩, by simp⟩

/-- **A character keeps what is being read sound**, and the token that ends before it. -/
theorem IsSound.step (h : r.IsSound) (c : Char) :
    (∀ token ∈ (r.step c).1, token.IsSound) ∧ (r.step c).2.IsSound := by
  cases r with
  | gap => exact ⟨by simp [Reading.step], isSound_start c⟩
  | word w =>
      rw [Reading.step]
      split
      next => exact ⟨by simpa using .inl h, isSound_start c⟩
      next hsolid =>
        split
        next => exact ⟨by simp, h⟩
        next hcolon =>
          refine ⟨by simp, ?_⟩
          rw [IsSound, List.reverse_cons]
          exact IsName.concat h (by simpa [IsSolid, not_or] using hsolid) hcolon
  | colon n =>
      rw [Reading.step]
      split
      next => exact ⟨by simpa using .inr ⟨n, h, rfl⟩, trivial⟩
      next hblank =>
        split
        next => exact ⟨by simp, h, List.not_mem_nil⟩
        next hquote => exact ⟨by simp, h, .singleton ⟨by simpa using hblank, hquote⟩⟩
  | value n v =>
      rw [Reading.step]
      split
      next => exact ⟨by simpa [Token.IsSound, IsSound] using h, isSound_start c⟩
      next hsolid =>
        refine ⟨by simp, h.1, ?_⟩
        rw [List.reverse_cons]
        exact h.2.concat (by simpa [IsSolid, not_or] using hsolid)
  | phrase p =>
      rw [Reading.step]
      split
      next => exact ⟨by simpa [Token.IsSound, IsSound] using h, trivial⟩
      next hquote => exact ⟨by simp, List.not_mem_cons_of_ne_of_not_mem (Ne.symm hquote) h⟩
  | quotedValue n v =>
      rw [Reading.step]
      split
      next => exact ⟨by simpa [Token.IsSound, IsSound] using h, trivial⟩
      next hquote => exact ⟨by simp, h.1, List.not_mem_cons_of_ne_of_not_mem (Ne.symm hquote) h.2⟩

theorem IsSound.scan (h : r.IsSound) (t : Text) :
    (∀ token ∈ (r.scan t).1, token.IsSound) ∧ (r.scan t).2.IsSound := by
  induction t generalizing r with
  | nil => exact ⟨by simp [Reading.scan], h⟩
  | cons c t ih =>
      obtain ⟨hfirst, hnext⟩ := h.step c
      obtain ⟨hrest, hend⟩ := ih hnext
      refine ⟨fun token htoken => ?_, hend⟩
      rw [Reading.scan, List.mem_append, Option.mem_toList] at htoken
      rcases htoken with htoken | htoken
      · exact hfirst token htoken
      · exact hrest token htoken

/-- The token at the end of a text is sound, or a value whose quote is not closed. -/
theorem IsSound.finish (h : r.IsSound) {token : Token} (htoken : token ∈ r.finish) :
    token.IsSound ∨ token.IsUnclosed := by
  cases r with
  | gap => cases htoken
  | word w =>
      obtain rfl := Option.some.inj htoken
      exact .inl (.inl h)
  | colon n =>
      obtain rfl := Option.some.inj htoken
      exact .inl (.inr ⟨n, h, rfl⟩)
  | value n v =>
      obtain rfl := Option.some.inj htoken
      exact .inl h
  | phrase p =>
      obtain rfl := Option.some.inj htoken
      exact .inl (by simpa [Token.IsSound, IsSound] using h)
  | quotedValue n v =>
      obtain rfl := Option.some.inj htoken
      exact .inr ⟨n, v.reverse, h.1, by simpa using h.2, rfl⟩

end Reading

/-- **The tokens of a query are sound**, but for a last one whose quote is not closed. -/
theorem of_lexLenient (input : Text) :
    ∃ tokens last, lexLenient input = tokens ++ last ∧ last.length ≤ 1 ∧
      (∀ token ∈ tokens, token.IsSound) ∧ ∀ token ∈ last, token.IsSound ∨ token.IsUnclosed := by
  obtain ⟨hsound, hend⟩ := Reading.IsSound.scan (r := .gap) trivial input
  refine ⟨_, _, rfl, ?_, hsound, fun token htoken => hend.finish (Option.mem_toList.1 htoken)⟩
  cases (Reading.gap.scan input).2.finish <;> simp

theorem of_mem_lexLenient {input : Text} {token : Token} (h : token ∈ lexLenient input) :
    token.IsSound ∨ token.IsUnclosed := by
  obtain ⟨tokens, last, hlex, -, hsound, hlast⟩ := of_lexLenient input
  rw [hlex] at h
  rcases List.mem_append.1 h with h | h
  · exact .inl (hsound token h)
  · exact hlast token h

/-! ### Reading a token again -/

namespace Reading

/-- A bare word goes on until a colon. -/
theorem scan_word (w : Text) (hs : ∀ c ∈ s, IsSolid c) (hcolon : ':' ∉ s) :
    (word w).scan s = ([], word (s.reverse ++ w)) := by
  induction s generalizing w with
  | nil => rfl
  | cons c s ih =>
      obtain ⟨⟨hblank, hquote⟩, hs⟩ := List.forall_mem_cons.1 hs
      rw [List.mem_cons, not_or] at hcolon
      have hstep : (word w).step c = (none, word (c :: w)) := by
        simp [step, hblank, hquote, Ne.symm hcolon.1]
      rw [scan, hstep, ih _ hs hcolon.2]
      simp

/-- A bare value goes on. -/
theorem scan_value (n v : Text) (hs : ∀ c ∈ s, IsSolid c) :
    (value n v).scan s = ([], value n (s.reverse ++ v)) := by
  induction s generalizing v with
  | nil => rfl
  | cons c s ih =>
      obtain ⟨⟨hblank, hquote⟩, hs⟩ := List.forall_mem_cons.1 hs
      have hstep : (value n v).step c = (none, value n (c :: v)) := by simp [step, hblank, hquote]
      rw [scan, hstep, ih _ hs]
      simp

/-- A quoted value goes on until a quote. -/
theorem scan_quotedValue (n v : Text) (hs : '"' ∉ s) :
    (quotedValue n v).scan s = ([], quotedValue n (s.reverse ++ v)) := by
  induction s generalizing v with
  | nil => rfl
  | cons c s ih =>
      rw [List.mem_cons, not_or] at hs
      have hstep : (quotedValue n v).step c = (none, quotedValue n (c :: v)) := by
        simp [step, Ne.symm hs.1]
      rw [scan, hstep, ih _ hs.2]
      simp

end Reading

namespace IsName

variable {n v : Text}

/-- A name is read as a word. -/
theorem scan (h : IsName n) : Reading.gap.scan n = ([], .word n.reverse) := by
  obtain ⟨c, n, rfl⟩ := List.exists_cons_of_ne_nil h.ne_nil
  obtain ⟨⟨hblank, hquote⟩, hn⟩ := List.forall_mem_cons.1 h.solid
  have hstart : Reading.gap.step c = (none, .word [c]) := by
    simp [Reading.step, Reading.start, hblank, hquote]
  rw [Reading.scan, hstart, Reading.scan_word [c] hn h.colon]
  simp

/-- A colon ends it. -/
theorem scan_colon (h : IsName n) : Reading.gap.scan (n ++ [':']) = ([], .colon n) := by
  rw [Reading.scan_append, h.scan]
  simp [Reading.scan, Reading.step, show isBlank ':' = false by decide]

/-- What comes after the colon without a quote is a value. -/
theorem scan_value (h : IsName n) (hv : IsBare v) :
    Reading.gap.scan (n ++ [':'] ++ v) = ([], .value n v.reverse) := by
  obtain ⟨c, v, rfl⟩ := List.exists_cons_of_ne_nil hv.ne_nil
  obtain ⟨⟨hblank, hquote⟩, hsolid⟩ := List.forall_mem_cons.1 hv.solid
  rw [Reading.scan_append, h.scan_colon, Reading.scan, Reading.step, if_neg (by simp [hblank]),
    if_neg hquote, Reading.scan_value n [c] hsolid]
  simp

/-- So is what comes after a quote. -/
theorem scan_quotedValue (h : IsName n) (hv : '"' ∉ v) :
    Reading.gap.scan (n ++ [':', '"'] ++ v) = ([], .quotedValue n v.reverse) := by
  have cut : n ++ [':', '"'] ++ v = n ++ [':'] ++ '"' :: v := by simp
  rw [cut, Reading.scan_append, h.scan_colon, Reading.scan, Reading.step,
    if_neg (by decide), if_pos rfl, Reading.scan_quotedValue n [] hv]
  simp

theorem lexLenient_quotedValue (h : IsName n) (hv : '"' ∉ v) :
    lexLenient (n ++ [':', '"'] ++ v) = [.word (n ++ [':', '"'] ++ v)] := by
  rw [Query.lexLenient, h.scan_quotedValue hv, Reading.finish, List.reverse_reverse]
  rfl

theorem bare_colon (h : IsName n) : IsBare (n ++ [':']) :=
  h.toIsBare.concat ⟨by decide, by decide⟩

end IsName

/-- **A token that is no phrase is read again as it is.** -/
theorem Token.IsSound.lexLenient_text {token : Token} (h : token.IsSound)
    (hphrase : ∀ p, token ≠ .phrase p) :
    lexLenient token.text = [token] ∧ IsClosed token.text := by
  cases token with
  | phrase p => exact absurd rfl (hphrase p)
  | word w =>
      obtain hw | ⟨n, hn, rfl⟩ := h
      · exact ⟨by simp [lexLenient, text, hw.scan, Reading.finish], hw.toIsBare.isClosed⟩
      · exact ⟨by simp [lexLenient, text, hn.scan_colon, Reading.finish], hn.bare_colon.isClosed⟩
  | qualifier n v quoted =>
      cases quoted with
      | false =>
          obtain ⟨hn, hv⟩ := h
          rw [text, lexLenient, IsClosed, hn.scan_value hv]
          simp [Reading.finish, Reading.openQuote]
      | true =>
          obtain ⟨hn, hv⟩ := h
          rw [text, lexLenient, IsClosed, Reading.scan_append, hn.scan_quotedValue hv]
          simp [Reading.scan, Reading.step, Reading.finish, Reading.openQuote]

/-! ### Reading a squeezed token -/

/-- Two tokens are alike but for the blanks in a quoted value, and blank only together. -/
def Token.Resembles (token other : Token) : Prop :=
  other = token ∨ (∃ w w', token = .word w ∧ other = .word w') ∨
    ∃ n v v', token = .qualifier n v true ∧ other = .qualifier n v' true ∧ Condenses v v'

/-- The text of a word or of a pair without quotes is bare. -/
theorem Token.IsSound.isBare_text {token : Token} (h : token.IsSound)
    (hphrase : ∀ p, token ≠ .phrase p) (hquoted : ∀ n v, token ≠ .qualifier n v true) :
    IsBare token.text := by
  cases token with
  | phrase p => exact absurd rfl (hphrase p)
  | word w =>
      obtain hw | ⟨n, hn, rfl⟩ := h
      · exact hw.toIsBare
      · exact hn.bare_colon
  | qualifier n v quoted =>
      cases quoted with
      | true => exact absurd rfl (hquoted n v)
      | false =>
          obtain ⟨hn, hv⟩ := h
          refine ⟨by simp [text], fun c hc => ?_⟩
          rcases List.mem_append.1 hc with hc | hc
          · exact hn.bare_colon.solid c hc
          · exact hv.solid c hc

theorem isBlank_quote : ∀ c ∈ ['"'], isBlank c = false := by
  rw [List.forall_mem_singleton]
  decide

/-- A name with a colon and a quote after it is a word. -/
theorem IsName.isWord_open {n : Text} (h : IsName n) : IsWord (n ++ [':', '"']) := by
  refine ⟨by simp, fun c hc => ?_⟩
  rcases List.mem_append.1 hc with hc | hc
  · exact (h.solid c hc).1
  · simp only [List.mem_cons, List.not_mem_nil, or_false] at hc
    rcases hc with rfl | rfl <;> decide

theorem not_mem_of_condenses {v v' : Text} (h : Condenses v v') (hv : '"' ∉ v) : '"' ∉ v' := by
  intro hmem
  obtain hmem | hspace := h.mem _ hmem
  · exact hv hmem
  · revert hspace
    decide

theorem quote_not_mem_squeeze (ht : '"' ∉ t) : '"' ∉ squeeze t :=
  not_mem_of_condenses (condenses_squeeze t) ht

/-- A text without quotes is read as well when it is squeezed. -/
theorem lexLenient_squeeze (ht : '"' ∉ t) : lexLenient (squeeze t) = lexLenient t := by
  rw [lexLenient_eq_flatMap_words (quote_not_mem_squeeze ht), words_squeeze,
    ← lexLenient_eq_flatMap_words ht]

/-- **A squeezed token that is no phrase is one token**, which resembles it. -/
theorem Token.exists_squeezed {token : Token} (h : token.IsSound ∨ token.IsUnclosed)
    (hphrase : ∀ p, token ≠ .phrase p) :
    ∃ other, lexLenient (squeeze token.text) = [other] ∧ other.text = squeeze token.text ∧
      token.Resembles other ∧ (token.IsSound → IsClosed (squeeze token.text)) := by
  obtain h | ⟨n, v, hn, hv, rfl⟩ := h
  · by_cases hquoted : ∃ n v, token = .qualifier n v true
    · obtain ⟨n, v, rfl⟩ := hquoted
      obtain ⟨hn, hv⟩ := h
      obtain ⟨v', hsqueeze, hcondenses⟩ :=
        (squeeze_between isBlank_quote v).2 _ hn.isWord_open
      have sound : (Token.qualifier n v' true).IsSound := ⟨hn, not_mem_of_condenses hcondenses hv⟩
      obtain ⟨hlex, hclosed⟩ := sound.lexLenient_text (by simp)
      rw [text, hsqueeze]
      exact ⟨_, hlex, rfl, .inr (.inr ⟨n, v, v', rfl, rfl, hcondenses⟩), fun _ => hclosed⟩
    · have bare := h.isBare_text hphrase (by simpa using hquoted)
      obtain ⟨hlex, hclosed⟩ := h.lexLenient_text hphrase
      rw [bare.isWord.squeeze]
      exact ⟨token, hlex, rfl, .inl rfl, fun _ => hclosed⟩
  · obtain ⟨v', hsqueeze, hcondenses⟩ := squeeze_after hn.isWord_open v
    have hv' := not_mem_of_condenses hcondenses hv
    rw [text, hsqueeze]
    refine ⟨_, hn.lexLenient_quotedValue hv', rfl, .inr (.inl ⟨_, _, rfl, rfl⟩), fun h => ?_⟩
    -- such a word is not sound: it has a quote
    have bare := Token.IsSound.isBare_text h (by simp) (by simp)
    exact absurd rfl (bare.solid '"' (by simp [text])).2

/-- A phrase has no quotes. -/
theorem Token.quote_not_mem {p : Text}
    (h : (Token.phrase p).IsSound ∨ (Token.phrase p).IsUnclosed) : '"' ∉ p := by
  obtain h | ⟨n, v, -, -, hword⟩ := h
  · exact h
  · cases hword

/-- A squeezed token is closed, as it was. -/
theorem Token.IsSound.isClosed_squeeze {token : Token} (h : token.IsSound) :
    IsClosed (squeeze token.text) := by
  by_cases hphrase : ∃ p, token = .phrase p
  · obtain ⟨p, rfl⟩ := hphrase
    exact isClosed_of_not_mem (quote_not_mem_squeeze (quote_not_mem (.inl h)))
  · rw [not_exists] at hphrase
    obtain ⟨_, _, _, _, hclosed⟩ := exists_squeezed (.inl h) hphrase
    exact hclosed h

/-- **A squeezed token** is read as tokens that have its words, and are no phrases. -/
theorem Token.of_squeezed {token : Token} (h : token.IsSound ∨ token.IsUnclosed) :
    (lexLenient (squeeze token.text)).flatMap (fun other => words other.text) =
        words token.text ∧
      ∀ other ∈ lexLenient (squeeze token.text), ∀ p, other ≠ .phrase p := by
  by_cases hphrase : ∃ p, token = .phrase p
  · obtain ⟨p, rfl⟩ := hphrase
    have hquote := quote_not_mem h
    rw [text, lexLenient_squeeze hquote]
    exact of_lexLenient_of_not_mem hquote
  · rw [not_exists] at hphrase
    obtain ⟨other, hlex, htext, hresembles, -⟩ := exists_squeezed h hphrase
    rw [hlex, List.flatMap_singleton, htext, words_squeeze]
    refine ⟨rfl, fun token' htoken' => ?_⟩
    rw [List.mem_singleton.1 htoken']
    obtain rfl | ⟨w, w', -, rfl⟩ | ⟨n, v, v', -, rfl, -⟩ := hresembles
    · exact hphrase
    · simp
    · simp

end TranscriptSearch.Query
