import TranscriptSearch.Proofs.Query.Token

/-!
# Query — the grammar of queries

A query is blanks and items.  An item is a phrase, a word, a name with a colon that nothing follows,
or a pair, and the last item may have a quote that is never closed.  Every text is made up of such
items, and the reader finds them one after the other.

* `Begins`, `IsOpen`: the items at the beginning of a text.
* `exists_item`: a text that begins with no blank begins with an item.
* `item_induction`: what holds of a text because it holds of what follows its first item.
* `Begins.lexLenient`, `IsOpen.lexLenient`: the first item is the first token, and the tokens of
  what follows come after it.
-/

namespace TranscriptSearch.Query

open Text

/-! ### Items -/

/-- A word or a value without quotes ends before a text: at its end, a blank or a quote. -/
def EndsWord (rest : Text) : Prop := ∀ c ∈ rest.head?, isBlank c = true ∨ c = '"'

/-- A name and its colon have no value before a text: at its end or a blank. -/
def EndsName (rest : Text) : Prop := ∀ c ∈ rest.head?, isBlank c = true

/-- An item whose quotes are closed stands at the beginning of a text: the token, what follows it,
and the text. -/
inductive Begins : Token → Text → Text → Prop where
  /-- A text between two quotes. -/
  | phrase {p rest : Text} : '"' ∉ p → Begins (.phrase p) rest ('"' :: (p ++ '"' :: rest))
  /-- A name alone. -/
  | word {w rest : Text} : IsName w → EndsWord rest → Begins (.word w) rest (w ++ rest)
  /-- A name and a colon without a value. -/
  | colon {n rest : Text} : IsName n → EndsName rest →
      Begins (.word (n ++ [':'])) rest (n ++ [':'] ++ rest)
  /-- A name and a value. -/
  | value {n v rest : Text} : IsName n → IsBare v → EndsWord rest →
      Begins (.qualifier n v false) rest (n ++ [':'] ++ v ++ rest)
  /-- A name and a value between quotes. -/
  | quotedValue {n v rest : Text} : IsName n → '"' ∉ v →
      Begins (.qualifier n v true) rest (n ++ [':', '"'] ++ v ++ '"' :: rest)

/-- A text is one item with a quote that is never closed: the token, what is inside the quote, and
the text. -/
inductive IsOpen : Token → Text → Text → Prop where
  /-- A phrase. -/
  | phrase {p : Text} : '"' ∉ p → IsOpen (.phrase p) p ('"' :: p)
  /-- A name and a value. -/
  | quotedValue {n v : Text} : IsName n → '"' ∉ v →
      IsOpen (.word (n ++ [':', '"'] ++ v)) v (n ++ [':', '"'] ++ v)

variable {s t n v w p rest inside : Text} {token : Token} {c : Char}

/-- What follows an item is shorter. -/
theorem Begins.length_lt (h : Begins token rest t) : rest.length < t.length := by
  cases h with
  | phrase => simp only [List.length_cons, List.length_append]; omega
  | word hw =>
      have := List.length_pos_iff.2 hw.ne_nil
      rw [List.length_append]
      omega
  | colon => simp only [List.length_append, List.length_singleton]; omega
  | value => simp only [List.length_append, List.length_singleton]; omega
  | quotedValue => simp only [List.length_append, List.length_cons]; omega

/-- Before a quote there is either another one, or the text has none. -/
theorem not_mem_or_exists_quote (t : Text) :
    '"' ∉ t ∨ ∃ p rest, '"' ∉ p ∧ t = p ++ '"' :: rest := by
  by_cases h : '"' ∈ t
  · obtain ⟨p, rest, rfl, hp⟩ := List.eq_append_cons_of_mem h
    exact .inr ⟨p, rest, hp, rfl⟩
  · exact .inl h

/-- The characters of a word come first, and it ends after them. -/
theorem exists_solid_append (t : Text) (stop : Char → Bool) :
    ∃ w rest, t = w ++ rest ∧ (∀ c ∈ w, IsSolid c ∧ stop c = false) ∧
      ∀ c ∈ rest.head?, isBlank c = true ∨ c = '"' ∨ stop c = true := by
  induction t with
  | nil => exact ⟨[], [], rfl, by simp, by simp⟩
  | cons c t ih =>
      by_cases hc : IsSolid c ∧ stop c = false
      · obtain ⟨w, rest, rfl, hw, hrest⟩ := ih
        exact ⟨c :: w, rest, rfl, List.forall_mem_cons.2 ⟨hc, hw⟩, hrest⟩
      · refine ⟨[], c :: t, rfl, by simp, ?_⟩
        intro d hd
        obtain rfl := Option.some.inj hd
        by_contra hnone
        simp only [not_or, Bool.not_eq_true] at hnone
        exact hc ⟨⟨hnone.1, hnone.2.1⟩, hnone.2.2⟩

/-- A name and a colon begin an item, whatever follows. -/
theorem exists_item_colon (hn : IsName n) (t : Text) :
    (∃ token rest, Begins token rest (n ++ [':'] ++ t)) ∨
      ∃ token inside, IsOpen token inside (n ++ [':'] ++ t) := by
  cases t with
  | nil => exact .inl ⟨_, [], .colon hn (by simp [EndsName])⟩
  | cons c t =>
      by_cases hblank : isBlank c = true
      · exact .inl ⟨_, c :: t, .colon hn (by simpa [EndsName] using hblank)⟩
      by_cases hquote : c = '"'
      · subst hquote
        obtain ht | ⟨v, rest, hv, rfl⟩ := not_mem_or_exists_quote t
        · exact .inr ⟨_, t, by simpa using IsOpen.quotedValue hn ht⟩
        · have item : Begins (.qualifier n v true) rest (n ++ [':', '"'] ++ v ++ '"' :: rest) :=
            .quotedValue hn hv
          exact .inl ⟨_, rest, by simpa using item⟩
      · obtain ⟨v, rest, rfl, hv, hrest⟩ := exists_solid_append t fun _ => false
        have bare : IsBare (c :: v) := by
          refine ⟨by simp, List.forall_mem_cons.2 ⟨⟨by simpa using hblank, hquote⟩, ?_⟩⟩
          exact fun d hd => (hv d hd).1
        have ends : EndsWord rest := fun d hd => by simpa using hrest d hd
        exact .inl ⟨_, rest, by simpa using Begins.value hn bare ends⟩

/-- **A text that begins with no blank begins with an item.** -/
theorem exists_item (hc : isBlank c = false) (t : Text) :
    (∃ token rest, Begins token rest (c :: t)) ∨ ∃ token inside, IsOpen token inside (c :: t) := by
  by_cases hquote : c = '"'
  · subst hquote
    obtain ht | ⟨p, rest, hp, rfl⟩ := not_mem_or_exists_quote t
    · exact .inr ⟨_, t, .phrase ht⟩
    · exact .inl ⟨_, rest, .phrase hp⟩
  · obtain ⟨w, rest, rfl, hw, hrest⟩ := exists_solid_append t (· == ':')
    -- a colon may come first, so that only those after it end the name
    have name : IsName (c :: w) := by
      refine ⟨⟨by simp, List.forall_mem_cons.2 ⟨⟨hc, hquote⟩, fun d hd => (hw d hd).1⟩⟩, ?_⟩
      intro hcolon
      simpa using (hw ':' hcolon).2
    by_cases hcolon : rest.head? = some ':'
    · obtain ⟨rest, rfl⟩ := List.head?_eq_some_iff.1 hcolon
      simpa using exists_item_colon name rest
    · have ends : EndsWord rest := by
        intro d hd
        obtain hd' | hd' | hd' := hrest d hd
        · exact .inl hd'
        · exact .inr hd'
        · rw [beq_iff_eq] at hd'
          exact absurd (hd' ▸ hd) hcolon
      exact .inl ⟨_, rest, .word name ends⟩

/-- **Induction over items.**  What holds of nothing, of a text after a blank or an item because it
holds of the text that follows, and of an item with an open quote, holds of every text. -/
theorem item_induction {motive : Text → Prop} (nil : motive [])
    (blank : ∀ c t, isBlank c = true → motive t → motive (c :: t))
    (closed : ∀ token rest t, Begins token rest t → motive rest → motive t)
    (opened : ∀ token inside t, IsOpen token inside t → motive t) (t : Text) : motive t := by
  induction h : t.length using Nat.strong_induction_on generalizing t with
  | _ n ih =>
    cases t with
    | nil => exact nil
    | cons c t =>
        cases hc : isBlank c with
        | true => exact blank c t hc (ih t.length (by simp [← h]) t rfl)
        | false =>
            obtain ⟨token, rest, hitem⟩ | ⟨token, inside, hitem⟩ := exists_item hc t
            · exact closed token rest _ hitem (ih rest.length (h ▸ hitem.length_lt) rest rfl)
            · exact opened token inside _ hitem

/-! ### Reading items -/

/-- What is inside the quote of a text that is never closed. -/
def unclosed (t : Text) : Option Text := (Reading.gap.scan t).2.openQuote

theorem unclosed_cons_blank (hc : isBlank c = true) (t : Text) :
    unclosed (c :: t) = unclosed t := by
  simp [unclosed, Reading.scan, Reading.step, Reading.start, hc]

/-- After a text that is read, one goes on with what is being read. -/
theorem lexLenient_append_of_scan {tokens : List Token} {r : Reading}
    (h : Reading.gap.scan s = (tokens, r)) (t : Text) :
    lexLenient (s ++ t) = tokens ++ r.lexFrom t ∧ unclosed (s ++ t) = (r.scan t).2.openQuote := by
  simp [lexLenient, unclosed, Reading.lexFrom, Reading.scan_append, h]

/-- What is being read ends before a text that no character of it is added to. -/
theorem Reading.lexFrom_of_ends {r : Reading} (hr : r.openQuote = none)
    (hfinish : r.finish = some token)
    (hends : ∀ c ∈ rest.head?, r.step c = (some token, Reading.start c)) :
    r.lexFrom rest = token :: Query.lexLenient rest ∧
      (r.scan rest).2.openQuote = unclosed rest := by
  cases rest with
  | nil =>
      refine ⟨?_, hr⟩
      rw [lexFrom, scan, hfinish]
      rfl
  | cons c rest =>
      have hstep : r.step c = (some token, start c) := hends c rfl
      rw [lexFrom_cons, scan, hstep]
      exact ⟨rfl, rfl⟩

/-- A phrase goes on until a quote. -/
theorem Reading.scan_phrase (back : Text) (hp : '"' ∉ p) :
    (phrase back).scan p = ([], phrase (p.reverse ++ back)) := by
  induction p generalizing back with
  | nil => rfl
  | cons c p ih =>
      rw [List.mem_cons, not_or] at hp
      rw [scan, step, if_neg (Ne.symm hp.1), ih _ hp.2]
      simp

theorem scan_openPhrase (hp : '"' ∉ p) : Reading.gap.scan ('"' :: p) = ([], .phrase p.reverse) := by
  have first : Reading.gap.step '"' = (none, .phrase []) := by decide
  rw [Reading.scan, first, Reading.scan_phrase [] hp]
  simp

/-- **The item that begins a text is read first**, and the rest after it. -/
theorem Begins.lexLenient (h : Begins token rest t) :
    lexLenient t = token :: lexLenient rest ∧ unclosed t = unclosed rest := by
  cases h with
  | @phrase p rest hp =>
      have scan : Reading.gap.scan ('"' :: p ++ ['"']) = ([.phrase p], .gap) := by
        rw [Reading.scan_append, scan_openPhrase hp]
        simp [Reading.scan, Reading.step]
      rw [← List.singleton_append (l := rest), ← List.append_assoc, ← List.cons_append]
      exact lexLenient_append_of_scan scan rest
  | word hw hends =>
      obtain ⟨hlex, hopen⟩ := lexLenient_append_of_scan hw.scan rest
      rw [hlex, hopen, List.nil_append]
      refine Reading.lexFrom_of_ends rfl (by simp [Reading.finish]) fun c hc => ?_
      rw [Reading.step, if_pos (hends c hc), List.reverse_reverse]
  | colon hn hends =>
      obtain ⟨hlex, hopen⟩ := lexLenient_append_of_scan hn.scan_colon rest
      rw [hlex, hopen, List.nil_append]
      refine Reading.lexFrom_of_ends rfl rfl fun c hc => ?_
      rw [Reading.step, if_pos (hends c hc), Reading.start, if_pos (hends c hc)]
  | value hn hv hends =>
      obtain ⟨hlex, hopen⟩ := lexLenient_append_of_scan (hn.scan_value hv) rest
      rw [hlex, hopen, List.nil_append]
      refine Reading.lexFrom_of_ends rfl (by simp [Reading.finish]) fun c hc => ?_
      rw [Reading.step, if_pos (hends c hc), List.reverse_reverse]
  | @quotedValue n v rest hn hv =>
      have scan :
          Reading.gap.scan (n ++ [':', '"'] ++ v ++ ['"']) = ([.qualifier n v true], .gap) := by
        rw [Reading.scan_append, hn.scan_quotedValue hv]
        simp [Reading.scan, Reading.step]
      rw [← List.singleton_append (l := rest), ← List.append_assoc]
      exact lexLenient_append_of_scan scan rest

/-- **An item with an open quote** is read as one token. -/
theorem IsOpen.lexLenient (h : IsOpen token inside t) :
    lexLenient t = [token] ∧ unclosed t = some inside := by
  cases h with
  | phrase hp =>
      simp [Query.lexLenient, unclosed, scan_openPhrase hp, Reading.finish, Reading.openQuote]
  | quotedValue hn hv =>
      rw [hn.lexLenient_quotedValue hv, unclosed, hn.scan_quotedValue hv]
      simp [Reading.openQuote]

end TranscriptSearch.Query
