import TranscriptSearch.Proofs.Query.Grammar
import TranscriptSearch.Proofs.Text.Places

/-!
# Query — reading item by item

A reader stands in a query at a place that is counted in octets, and reads the items one after the
other, each by a routine of its own.  What it says of a pair it cuts out of the query by the places
where the pair begins and ends.  It can halt in two ways: at a quote that is never closed, unless it
is lenient, and where a cut does not fall between two characters.

* `Reader.items`: the items of a query from a place on, and the place where the reading ends.
* `Reader.item_of_begins`, `Reader.item_of_isOpen`: one item is read as the grammar says.
* `Reader.items_lenient`, `Reader.items_strict`: the items are the tokens of the query, the reading
  ends at the end of the query, and the only halt is at a quote that is never closed.
-/

namespace TranscriptSearch

namespace Query

open Text

/-- A character that is neither a blank nor a quote. -/
def isSolid (c : Char) : Bool := !isBlank c && c != '"'

theorem isSolid_iff {c : Char} : isSolid c = true ↔ IsSolid c := by simp [isSolid, IsSolid]

/-- An item of a query, a pair with the text that it is read from. -/
inductive Item where
  /-- A bare word. -/
  | word (text : Text)
  /-- The text between two quotes. -/
  | phrase (text : Text)
  /-- A name, a value and the text of the pair. -/
  | pair (name value source : Text)
deriving DecidableEq, Repr

/-- A token as an item. -/
def Token.item : Token → Item
  | .word w            => .word w
  | .phrase p          => .phrase p
  | .qualifier n v q   => .pair n v (Token.qualifier n v q).text

/-- Why a reading does not go on. -/
inductive Halt where
  /-- The query has a fault. -/
  | fault (e : SyntaxError)
  /-- A cut does not fall between two characters. -/
  | breakdown
deriving DecidableEq, Repr

/-- A place in a query. -/
structure Cursor where
  /-- The number of octets before it. -/
  position : Nat
  /-- The text from there on. -/
  ahead : Text
deriving DecidableEq, Repr

namespace Cursor

/-- The place between two texts. -/
def between (before ahead : Text) : Cursor := ⟨utf8Length before, ahead⟩

/-- The place after the next character. -/
def next (c : Cursor) : Cursor :=
  match c.ahead with
  | []        => c
  | ch :: ahead => ⟨c.position + ch.utf8Size, ahead⟩

/-- The characters of a kind that come next. -/
def run (p : Char → Bool) (c : Cursor) : Text := c.ahead.takeWhile p

/-- The place after them. -/
def past (p : Char → Bool) (c : Cursor) : Cursor :=
  ⟨c.position + utf8Length (c.run p), c.ahead.dropWhile p⟩

end Cursor

/-- A query that is read, and whether its last quote may stay open. -/
structure Reader where
  /-- The query. -/
  input : Text
  /-- Whether its last quote may stay open. -/
  isLenient : Bool

namespace Reader

variable (r : Reader)

/-- The text of the query between two places. -/
def source (start stop : Cursor) : Except Halt Text :=
  match cut? r.input start.position stop.position with
  | some t => .ok t
  | none   => .error .breakdown

/-- What is between the quote at a place and the next one, whether there is a next one, and the
place after it. -/
def quoted (c : Cursor) : Except Halt (Text × Bool × Cursor) :=
  let stop := c.next.past (· != '"')
  match stop.ahead with
  | _ :: _ => .ok (c.next.run (· != '"'), true, stop.next)
  | []     =>
    if r.isLenient then .ok (c.next.run (· != '"'), false, stop)
    else .error (.fault ⟨SyntaxError.unclosedQuote, c.position, r.input⟩)

/-- The item that begins with a name and a colon, read from the place after the colon. -/
def afterColon (name : Text) (start c : Cursor) : Except Halt (Item × Cursor) :=
  match c.ahead with
  | [] => .ok (.word (name ++ [':']), c)
  | ch :: _ =>
    if ch = '"' then do
      let (value, isClosed, stop) ← r.quoted c
      let source ← r.source start stop
      return (if isClosed then .pair name value source else .word source, stop)
    else if isBlank ch then .ok (.word (name ++ [':']), c)
    else do
      let source ← r.source start (c.past isSolid)
      return (.pair name (c.run isSolid) source, c.past isSolid)

/-- A word of the characters that were read, last one first, if there are any. -/
def wordOf (back : Text) : Option Item := if back.isEmpty then none else some (.word back.reverse)

/-- The word or the pair that begins at a place, some characters of which were read already. -/
def wordFrom (start : Cursor) : (back : Text) → (position : Nat) → (ahead : Text) →
    Except Halt (Option Item × Cursor)
  | back, position, [] => .ok (wordOf back, ⟨position, []⟩)
  | back, position, ch :: ahead =>
    if isBlank ch || ch == '"' then .ok (wordOf back, ⟨position, ch :: ahead⟩)
    else if ch == ':' && !back.isEmpty then do
      let (item, stop) ← r.afterColon back.reverse start ⟨position + ch.utf8Size, ahead⟩
      return (some item, stop)
    else wordFrom start (ch :: back) (position + ch.utf8Size) ahead

/-- The next item from a place on, if there is one, and the place after it. -/
def item (c : Cursor) : Except Halt (Option Item × Cursor) :=
  let start := c.past isBlank
  match start.ahead with
  | [] => .ok (none, start)
  | ch :: _ =>
    if ch = '"' then do
      let (text, _, stop) ← r.quoted start
      return (some (.phrase text), stop)
    else r.wordFrom start [] start.position start.ahead

/-! ### A reading ends -/

section Suffixes

variable {r : Reader} {c start stop : Cursor}

theorem suffix_next (c : Cursor) : c.next.ahead <:+ c.ahead := by
  rw [Cursor.next]
  split
  next => exact List.suffix_rfl
  next ch ahead h =>
    rw [h]
    exact List.suffix_cons ch ahead

theorem suffix_past (p : Char → Bool) (c : Cursor) : (c.past p).ahead <:+ c.ahead :=
  List.dropWhile_suffix p

theorem suffix_of_quoted {text : Text} {isClosed : Bool}
    (h : r.quoted c = .ok (text, isClosed, stop)) : stop.ahead <:+ c.next.ahead := by
  have past := suffix_past (· != '"') c.next
  rw [quoted] at h
  split at h
  next =>
    cases h
    exact (suffix_next _).trans past
  next =>
    split at h
    next =>
      cases h
      exact past
    next => cases h

theorem suffix_of_afterColon {name : Text} {item : Item}
    (h : r.afterColon name start c = .ok (item, stop)) : stop.ahead <:+ c.ahead := by
  rw [afterColon] at h
  split at h
  next => cases h; exact List.suffix_rfl
  next =>
    split at h
    next =>
      simp only [bind, Except.bind] at h
      split at h
      next => cases h
      next hq =>
        split at h
        next => cases h
        next =>
          cases h
          exact (suffix_of_quoted hq).trans (suffix_next c)
    next =>
      split at h
      next => cases h; exact List.suffix_rfl
      next =>
        simp only [bind, Except.bind] at h
        split at h
        next => cases h
        next =>
          cases h
          exact suffix_past isSolid c

theorem suffix_of_wordFrom {back ahead : Text} {position : Nat} {item? : Option Item}
    (h : r.wordFrom start back position ahead = .ok (item?, stop)) : stop.ahead <:+ ahead := by
  induction ahead generalizing back position with
  | nil => cases h; exact List.suffix_rfl
  | cons ch ahead ih =>
      rw [wordFrom] at h
      split at h
      next => cases h; exact List.suffix_rfl
      next =>
        split at h
        next =>
          simp only [bind, Except.bind] at h
          split at h
          next => cases h
          next ha =>
            cases h
            exact (suffix_of_afterColon ha).trans (List.suffix_cons ch ahead)
        next => exact (ih h).trans (List.suffix_cons ch ahead)

/-- **Every item takes something of the query.** -/
theorem length_lt_of_item {item : Item} (h : r.item c = .ok (some item, stop)) :
    stop.ahead.length < c.ahead.length := by
  refine lt_of_lt_of_le ?_ (suffix_past isBlank c).length_le
  rw [Reader.item] at h
  split at h
  next => cases h
  next ch ahead hstart =>
    -- what is ahead of the place after the item is a part of the tail
    have shorter : ahead.length < (c.past isBlank).ahead.length := by simp [hstart]
    refine lt_of_le_of_lt ?_ shorter
    split at h
    next =>
      simp only [bind, Except.bind] at h
      split at h
      next => cases h
      next hq =>
        cases h
        have suffix := suffix_of_quoted hq
        rw [Cursor.next, hstart] at suffix
        exact suffix.length_le
    next hquote =>
      rw [hstart, wordFrom] at h
      split at h
      next => cases h
      next =>
        rw [if_neg (by simp)] at h
        exact (suffix_of_wordFrom h).length_le

end Suffixes

/-- The items of the query from a place on, and the place where no item is left. -/
def items (c : Cursor) : Except Halt (List Item × Cursor) :=
  match _h : r.item c with
  | .error halt           => .error halt
  | .ok (none, stop)      => .ok ([], stop)
  | .ok (some item, stop) => do
    let (items, last) ← items stop
    return (item :: items, last)
termination_by c.ahead.length
decreasing_by exact length_lt_of_item (by assumption)

/-! ### The routines -/

section Routines

variable {r : Reader} {before n v w p rest : Text} {start : Cursor}

theorem next_between (before : Text) (ch : Char) (rest : Text) :
    (Cursor.between before (ch :: rest)).next = .between (before ++ [ch]) rest := by
  simp [Cursor.between, Cursor.next]

theorem takeWhile_append {q : Char → Bool} (hv : ∀ c ∈ v, q c = true)
    (hrest : ∀ c ∈ rest.head?, q c = false) : (v ++ rest).takeWhile q = v := by
  rw [List.takeWhile_append_of_pos hv]
  cases rest with
  | nil => simp
  | cons c rest => simp [hrest c rfl]

theorem dropWhile_append {q : Char → Bool} (hv : ∀ c ∈ v, q c = true)
    (hrest : ∀ c ∈ rest.head?, q c = false) : (v ++ rest).dropWhile q = rest := by
  rw [List.dropWhile_append_of_pos hv]
  cases rest with
  | nil => rfl
  | cons c rest => simp [hrest c rfl]

/-- A reader goes past the characters of a kind up to the first other one. -/
theorem run_between {q : Char → Bool} (hv : ∀ c ∈ v, q c = true)
    (hrest : ∀ c ∈ rest.head?, q c = false) (before : Text) :
    (Cursor.between before (v ++ rest)).run q = v ∧
      (Cursor.between before (v ++ rest)).past q = .between (before ++ v) rest := by
  have run : (Cursor.between before (v ++ rest)).run q = v := takeWhile_append hv hrest
  refine ⟨run, ?_⟩
  rw [Cursor.past, run, Cursor.between, dropWhile_append hv hrest, Cursor.between,
    utf8Length_append]

theorem source_between (h : r.input = before ++ w ++ rest) (ahead : Text) :
    r.source (.between before ahead) (.between (before ++ w) rest) = .ok w := by
  rw [source, h]
  simp only [Cursor.between, cut?_append]

theorem ne_quote_of_not_mem (hp : '"' ∉ p) : ∀ c ∈ p, (c != '"') = true := by
  intro c hc
  rw [bne_iff_ne]
  rintro rfl
  exact hp hc

/-- A quote that is closed. -/
theorem quoted_closed (hp : '"' ∉ p) (before rest : Text) :
    r.quoted (.between before ('"' :: (p ++ '"' :: rest))) =
      .ok (p, true, .between (before ++ ['"'] ++ p ++ ['"']) rest) := by
  have ends : ∀ c ∈ ('"' :: rest).head?, (c != '"') = false := by
    intro c hc
    obtain rfl := Option.some.inj hc
    rfl
  obtain ⟨run, past⟩ := run_between (ne_quote_of_not_mem hp) ends (before ++ ['"'])
  rw [quoted, next_between, run, past]
  simp only [next_between]
  rfl

/-- A quote that is not closed. -/
theorem quoted_open (hp : '"' ∉ p) (before : Text) :
    r.quoted (.between before ('"' :: p)) =
      if r.isLenient then .ok (p, false, .between (before ++ ['"'] ++ p) [])
      else .error (.fault ⟨SyntaxError.unclosedQuote, utf8Length before, r.input⟩) := by
  have ends : ∀ c ∈ ([] : Text).head?, (c != '"') = false := by simp
  obtain ⟨run, past⟩ := run_between (ne_quote_of_not_mem hp) ends (before ++ ['"'])
  rw [List.append_nil] at run past
  rw [quoted, next_between, run, past]
  rfl

/-- A name and its colon without a value. -/
theorem afterColon_none (h : EndsName rest) (n before : Text) (start : Cursor) :
    r.afterColon n start (.between before rest) =
      .ok (.word (n ++ [':']), .between before rest) := by
  rw [afterColon]
  cases rest with
  | nil => rfl
  | cons c rest =>
      have hblank : isBlank c = true := h c rfl
      have hquote : c ≠ '"' := by
        rintro rfl
        cases hblank
      simp only [Cursor.between, if_neg hquote, if_pos hblank]

/-- A value without quotes. -/
theorem afterColon_value (hv : IsBare v) (hrest : EndsWord rest) (ahead : Text)
    (h : r.input = before ++ (n ++ [':'] ++ v) ++ rest) :
    r.afterColon n (.between before ahead) (.between (before ++ (n ++ [':'])) (v ++ rest)) =
      .ok (.pair n v (n ++ [':'] ++ v), .between (before ++ (n ++ [':'] ++ v)) rest) := by
  have ends : ∀ c ∈ rest.head?, isSolid c = false := by
    intro c hc
    obtain hblank | rfl := hrest c hc
    · simp [isSolid, hblank]
    · rfl
  obtain ⟨run, past⟩ := run_between (fun c hc => isSolid_iff.2 (hv.solid c hc)) ends
    (before ++ (n ++ [':']))
  rw [List.append_assoc before] at past
  obtain ⟨c, v, rfl⟩ := List.exists_cons_of_ne_nil hv.ne_nil
  obtain ⟨hblank, hquote⟩ := hv.solid c List.mem_cons_self
  rw [afterColon, run, past, source_between h]
  simp only [Cursor.between, List.cons_append, if_neg hquote, hblank]
  rfl

/-- A value between quotes. -/
theorem afterColon_closed (hv : '"' ∉ v) (ahead : Text)
    (h : r.input = before ++ (n ++ [':', '"'] ++ v ++ ['"']) ++ rest) :
    r.afterColon n (.between before ahead)
        (.between (before ++ (n ++ [':'])) ('"' :: (v ++ '"' :: rest))) =
      .ok (.pair n v (n ++ [':', '"'] ++ v ++ ['"']),
        .between (before ++ (n ++ [':', '"'] ++ v ++ ['"'])) rest) := by
  have stop : before ++ (n ++ [':']) ++ ['"'] ++ v ++ ['"'] =
      before ++ (n ++ [':', '"'] ++ v ++ ['"']) := by simp
  rw [afterColon, quoted_closed hv, stop]
  simp only [bind, Except.bind, source_between h]
  rfl

/-- A value whose quote is not closed. -/
theorem afterColon_open (hv : '"' ∉ v) (ahead : Text)
    (h : r.input = before ++ (n ++ [':', '"'] ++ v)) :
    r.afterColon n (.between before ahead) (.between (before ++ (n ++ [':'])) ('"' :: v)) =
      if r.isLenient then
        .ok (.word (n ++ [':', '"'] ++ v), .between (before ++ (n ++ [':', '"'] ++ v)) [])
      else .error (.fault
        ⟨SyntaxError.unclosedQuote, utf8Length (before ++ (n ++ [':'])), r.input⟩) := by
  have stop : before ++ (n ++ [':']) ++ ['"'] ++ v = before ++ (n ++ [':', '"'] ++ v) := by simp
  rw [← List.append_nil (before ++ (n ++ [':', '"'] ++ v))] at h
  rw [afterColon, quoted_open hv, stop]
  cases hlenient : r.isLenient with
  | false => rfl
  | true =>
      simp only [bind, Except.bind, if_true, source_between h]
      rfl

/-- A word goes on with solid characters until a colon. -/
theorem wordFrom_append {back : Text} (hback : back ≠ []) (hs : ∀ c ∈ w, IsSolid c)
    (hcolon : ':' ∉ w) (before rest : Text) :
    r.wordFrom start back (utf8Length before) (w ++ rest) =
      r.wordFrom start (w.reverse ++ back) (utf8Length (before ++ w)) rest := by
  induction w generalizing back before with
  | nil => simp
  | cons c w ih =>
      obtain ⟨⟨hblank, hquote⟩, hs⟩ := List.forall_mem_cons.1 hs
      rw [List.mem_cons, not_or] at hcolon
      have step : r.wordFrom start back (utf8Length before) (c :: (w ++ rest)) =
          r.wordFrom start (c :: back) (utf8Length (before ++ [c])) (w ++ rest) := by
        rw [wordFrom, if_neg (by simp [hblank, hquote]), if_neg (by simp [Ne.symm hcolon.1])]
        simp
      rw [List.cons_append, step, ih (by simp) hs hcolon.2]
      simp

/-- A name is read to its end. -/
theorem wordFrom_name (hn : IsName n) (before rest : Text) :
    r.wordFrom start [] (utf8Length before) (n ++ rest) =
      r.wordFrom start n.reverse (utf8Length (before ++ n)) rest := by
  obtain ⟨c, n, rfl⟩ := List.exists_cons_of_ne_nil hn.ne_nil
  obtain ⟨⟨hblank, hquote⟩, hsolid⟩ := List.forall_mem_cons.1 hn.solid
  have first : r.wordFrom start [] (utf8Length before) (c :: (n ++ rest)) =
      r.wordFrom start [c] (utf8Length (before ++ [c])) (n ++ rest) := by
    rw [wordFrom, if_neg (by simp [hblank, hquote]), if_neg (by simp)]
    simp
  rw [List.cons_append, first, wordFrom_append (by simp) hsolid hn.colon]
  simp

theorem wordOf_reverse (hn : n ≠ []) : wordOf n.reverse = some (.word n) := by
  simp [wordOf, hn]

/-- A name alone is a word. -/
theorem wordFrom_word (hn : IsName n) (hrest : EndsWord rest) (before : Text) :
    r.wordFrom start [] (utf8Length before) (n ++ rest) =
      .ok (some (.word n), .between (before ++ n) rest) := by
  rw [wordFrom_name hn]
  cases rest with
  | nil => rw [wordFrom, wordOf_reverse hn.ne_nil]; rfl
  | cons c rest =>
      have ends : (isBlank c || c == '"') = true := by simpa using hrest c rfl
      rw [wordFrom, if_pos ends, wordOf_reverse hn.ne_nil]
      rfl

/-- A name with a colon is what the routine for the value makes of it. -/
theorem wordFrom_colon (hn : IsName n) (before rest : Text) :
    r.wordFrom start [] (utf8Length before) (n ++ ':' :: rest) =
      (r.afterColon n start (.between (before ++ (n ++ [':'])) rest)).map
        fun x => (some x.1, x.2) := by
  have place : (⟨utf8Length (before ++ n) + ':'.utf8Size, rest⟩ : Cursor) =
      .between (before ++ (n ++ [':'])) rest := by
    simp [Cursor.between, Nat.add_assoc]
  rw [wordFrom_name hn, wordFrom, if_neg (by decide), if_pos (by simp [hn.ne_nil]),
    List.reverse_reverse, place]
  cases r.afterColon n start (.between (before ++ (n ++ [':'])) rest) <;> rfl

/-! ### Items -/

/-- Blanks are passed over. -/
theorem item_blank {c : Char} (hc : isBlank c = true) (before t : Text) :
    r.item (.between before (c :: t)) = r.item (.between (before ++ [c]) t) := by
  have past : (Cursor.between before (c :: t)).past isBlank =
      (Cursor.between (before ++ [c]) t).past isBlank := by
    simp [Cursor.past, Cursor.run, Cursor.between, hc, Nat.add_assoc]
  rw [item, item, past]

theorem past_of_solid {c : Char} (hc : isBlank c = false) (before t : Text) :
    (Cursor.between before (c :: t)).past isBlank = .between before (c :: t) := by
  simp [Cursor.past, Cursor.run, Cursor.between, hc]

theorem item_quote (before t : Text) :
    r.item (.between before ('"' :: t)) =
      (r.quoted (.between before ('"' :: t))).map fun x => (some (.phrase x.1), x.2.2) := by
  rw [item, past_of_solid (by decide)]
  simp only [Cursor.between, if_true]
  cases r.quoted ⟨utf8Length before, '"' :: t⟩ <;> rfl

theorem item_name (hn : IsName n) (before rest : Text) :
    r.item (.between before (n ++ rest)) =
      r.wordFrom (.between before (n ++ rest)) [] (utf8Length before) (n ++ rest) := by
  obtain ⟨c, n, rfl⟩ := List.exists_cons_of_ne_nil hn.ne_nil
  obtain ⟨hblank, hquote⟩ := hn.solid c List.mem_cons_self
  rw [item, List.cons_append, past_of_solid hblank]
  simp only [Cursor.between, if_neg hquote]

end Routines

variable {r : Reader} {before inside rest t : Text} {token : Token}

/-- **An item whose quotes are closed** is read as its token, and the reader stands after it. -/
theorem item_of_begins (h : Begins token rest t) (hinput : r.input = before ++ t) :
    ∃ s, t = s ++ rest ∧
      r.item (.between before t) = .ok (some token.item, .between (before ++ s) rest) := by
  cases h with
  | @phrase p rest hp =>
      refine ⟨'"' :: (p ++ ['"']), by simp, ?_⟩
      rw [item_quote, quoted_closed hp]
      simp [Except.map, Token.item]
  | @word w rest hw hrest =>
      refine ⟨w, rfl, ?_⟩
      rw [item_name hw, wordFrom_word hw hrest, Token.item]
  | @colon n rest hn hrest =>
      refine ⟨n ++ [':'], rfl, ?_⟩
      rw [List.append_assoc, List.singleton_append, item_name hn, wordFrom_colon hn,
        afterColon_none hrest]
      rfl
  | @value n v rest hn hv hrest =>
      refine ⟨n ++ [':'] ++ v, rfl, ?_⟩
      rw [← List.append_assoc] at hinput
      have cut : n ++ [':'] ++ v ++ rest = n ++ ':' :: (v ++ rest) := by simp
      rw [cut, item_name hn, wordFrom_colon hn, afterColon_value hv hrest _ hinput]
      rfl
  | @quotedValue n v rest hn hv =>
      have cut : n ++ [':', '"'] ++ v ++ '"' :: rest = n ++ ':' :: '"' :: (v ++ '"' :: rest) :=
        by simp
      have hsource : r.input = before ++ (n ++ [':', '"'] ++ v ++ ['"']) ++ rest := by simp [hinput]
      refine ⟨n ++ [':', '"'] ++ v ++ ['"'], by simp, ?_⟩
      rw [cut, item_name hn, wordFrom_colon hn, afterColon_closed hv _ hsource]
      rfl

/-- **An item with an open quote** is a fault at that quote; a lenient reader reads its token. -/
theorem item_of_isOpen (h : IsOpen token inside t) (hinput : r.input = before ++ t) :
    r.item (.between before t) =
      if r.isLenient then .ok (some token.item, .between r.input [])
      else .error (.fault ⟨SyntaxError.unclosedQuote,
        utf8Length r.input - utf8Length ('"' :: inside), r.input⟩) := by
  cases h with
  | phrase hp =>
      have position : utf8Length r.input - utf8Length ('"' :: inside) = utf8Length before := by
        rw [hinput, utf8Length_append, Nat.add_sub_cancel]
      rw [item_quote, quoted_open hp, position, hinput]
      split
      · simp [Except.map, Token.item]
      · rfl
  | @quotedValue n v hn hv =>
      have cut : n ++ [':', '"'] ++ inside = n ++ ':' :: '"' :: inside := by simp
      have place : r.input = before ++ (n ++ [':']) ++ '"' :: inside := by simp [hinput]
      have position : utf8Length r.input - utf8Length ('"' :: inside) =
          utf8Length (before ++ (n ++ [':'])) := by
        rw [place, utf8Length_append, Nat.add_sub_cancel]
      rw [cut, item_name hn, wordFrom_colon hn, afterColon_open hv _ hinput, position, ← hinput]
      split
      · simp [Except.map, Token.item]
      · rfl

/-! ### A whole query -/

theorem items_eq (c : Cursor) : r.items c =
    match r.item c with
    | .error halt           => .error halt
    | .ok (none, stop)      => .ok ([], stop)
    | .ok (some item, stop) => (r.items stop).map fun x => (item :: x.1, x.2) := by
  rw [items]
  split
  next h => rw [h]
  next h => rw [h]
  next item stop h =>
    rw [h]
    change _ = (r.items stop).map fun x => (item :: x.1, x.2)
    cases r.items stop <;> rfl

/-- **The items from a place on are the tokens of the text from there on**, and the reading ends at
the end of the query; it halts only at a quote that is never closed, and not if it is lenient. -/
theorem items_between (h : r.input = before ++ t) :
    (unclosed t = none ∨ r.isLenient = true →
        r.items (.between before t) = .ok ((lexLenient t).map Token.item, .between r.input [])) ∧
      ∀ inside, unclosed t = some inside → r.isLenient = false →
        r.items (.between before t) = .error (.fault ⟨SyntaxError.unclosedQuote,
          utf8Length r.input - utf8Length ('"' :: inside), r.input⟩) := by
  induction t using item_induction generalizing before with
  | nil =>
      rw [List.append_nil] at h
      have item : r.item (.between before []) = .ok (none, .between before []) := rfl
      rw [items_eq, item, h]
      exact ⟨fun _ => rfl, fun inside hopen => by cases hopen⟩
  | blank c t hc ih =>
      have hlex : lexLenient (c :: t) = lexLenient t :=
        lexLenient_append (s := []) rfl hc t
      rw [items_eq, item_blank hc, ← items_eq, hlex, unclosed_cons_blank hc]
      exact ih (by simp [h])
  | closed token rest t hitem ih =>
      obtain ⟨s, rfl, hread⟩ := item_of_begins hitem h
      obtain ⟨hlex, hopen⟩ := hitem.lexLenient
      have hsplit : r.input = before ++ s ++ rest := by rw [h, List.append_assoc]
      obtain ⟨hok, herror⟩ := ih hsplit
      rw [items_eq, hread, hlex, hopen]
      constructor
      · intro hclosed
        simp only [hok hclosed]
        rfl
      · intro inside hinside hstrict
        simp only [herror inside hinside hstrict]
        rfl
  | opened token inside t hitem =>
      obtain ⟨hlex, hopen⟩ := hitem.lexLenient
      have last : r.items (.between r.input []) = .ok ([], .between r.input []) := by
        rw [items_eq]
        rfl
      rw [items_eq, item_of_isOpen hitem h, hlex, hopen]
      constructor
      · intro hlenient
        rw [if_pos (hlenient.resolve_left (by simp))]
        simp only [last]
        rfl
      · intro inside' hinside hstrict
        obtain rfl := Option.some.inj hinside
        rw [hstrict]
        rfl

/-- **A lenient reader never halts**: it reads the tokens of the query, up to its end. -/
theorem items_lenient (input : Text) :
    Reader.items ⟨input, true⟩ (.between [] input) =
      .ok ((lexLenient input).map Token.item, .between input []) := by
  have whole : (Reader.mk input true).input = [] ++ input := rfl
  exact (items_between whole).1 (.inr rfl)

/-- **A strict reader halts only at a quote that is never closed**: else it reads the tokens of the
query, up to its end. -/
theorem items_strict (input : Text) :
    Reader.items ⟨input, false⟩ (.between [] input) =
      match lex input with
      | .ok tokens => .ok (tokens.map Token.item, .between input [])
      | .error e   => .error (.fault e) := by
  have whole : (Reader.mk input false).input = [] ++ input := rfl
  obtain ⟨hok, herror⟩ := items_between whole
  rw [lex]
  cases hopen : (Reading.gap.scan input).2.openQuote with
  | none => exact hok (.inl hopen)
  | some inside => exact herror inside hopen rfl

end Reader

end Query

end TranscriptSearch
