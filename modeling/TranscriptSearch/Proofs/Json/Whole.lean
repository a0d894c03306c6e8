import Mathlib.Data.List.Basic
import TranscriptSearch.Json.Reader

/-!
# Json — a text that is read to its end

A fault ends the reading of a text, so that what comes of a text which is read to its end has no
fault in any place.

* `isWhole_of_mem_tokens`: the scalars among the tokens of a text are whole.
* `Assembly.IsWhole.step`: no token brings a fault into a value that can still be read to its end.
* `isWhole_readOctets`: the value of a text that ends with it is whole.
-/

namespace TranscriptSearch.Json

/-! ### Whole parts -/

theorem areWhole_iff {es : List Json} : areWhole es = true ↔ ∀ e ∈ es, isWhole e = true := by
  induction es with
  | nil => simp [areWhole]
  | cons e es ih => simp [areWhole, ih]

theorem membersWhole_iff {ms : List (Option Text × Json)} :
    membersWhole ms = true ↔ ∀ m ∈ ms, isWhole m.2 = true := by
  induction ms with
  | nil => simp [membersWhole]
  | cons m ms ih => simp [membersWhole, ih]

/-! ### Tokens -/

/-- Whether a token brings no fault into a value. -/
def Token.isWhole : Token → Bool
  | .scalar v => Json.isWhole v
  | _         => true

theorem isWhole_wordToken (w : Text) : (wordToken w).isWhole = true := by
  rw [wordToken]
  split_ifs <;> rfl

theorem isWhole_close (s : PartialString) : isWhole s.close = true := by
  rw [PartialString.close]
  split <;> rfl

namespace Reading

theorem all_finish (r : Reading) : r.finish.all Token.isWhole = true := by
  cases r with
  | gap | lost | string part text => rfl
  | word back => simp [finish, isWhole_wordToken]
  | number p back =>
      rw [finish]
      split <;> rfl

theorem all_start (c : Char) : (start c).1.all Token.isWhole = true := by
  rw [start]
  iterate 12
    refine iteInduction (motive := fun p : List Token × Reading => p.1.all Token.isWhole = true)
      (fun _ => rfl) fun _ => ?_
  rfl

theorem all_after {ts : List Token} (h : ts.all Token.isWhole = true) (c : Char) :
    (step.after ts c).1.all Token.isWhole = true := by
  rw [step.after, List.all_append, h, all_start]
  rfl

theorem all_step (r : Reading) (c : Char) : (r.step c).1.all Token.isWhole = true := by
  cases r with
  | gap => exact all_start c
  | word back =>
      rw [step]
      split
      · rfl
      · exact all_after (by simp [isWhole_wordToken]) c
  | number p back =>
      rw [step]
      split
      · rfl
      · split
        · exact all_after rfl c
        · rfl
  | string part s =>
      cases part with
      | plain =>
          rw [step]
          split
          · simp [Token.isWhole, isWhole_close]
          · repeat' split
            all_goals rfl
      | escape | hex _ _ =>
          rw [step]
          repeat' split
          all_goals rfl
  | lost => rfl

theorem all_stepOctet (r : Reading) : r.stepOctet.1.all Token.isWhole = true := by
  cases r with
  | string part s => cases part <;> rfl
  | lost => rfl
  | gap | word _ | number _ _ =>
      rw [stepOctet, List.all_append, all_finish]
      · rfl
      all_goals simp

theorem all_scan (r : Reading) (input : List (Option Char)) :
    (r.scan input).all Token.isWhole = true := by
  induction input generalizing r with
  | nil => exact all_finish r
  | cons c input ih =>
      cases c with
      | none => rw [scan, List.all_append, all_stepOctet, ih, Bool.and_self]
      | some c => rw [scan, List.all_append, all_step, ih, Bool.and_self]

end Reading

/-- **The scalars among the tokens of a text are whole.** -/
theorem isWhole_of_mem_tokens {input : List (Option Char)} {t : Token} (h : t ∈ tokens input) :
    t.isWhole = true :=
  List.all_eq_true.1 (Reading.all_scan .gap input) t h

/-! ### Values -/

/-- The parts of an array or object that is still open are whole. -/
def Frame.IsWhole : Frame → Prop
  | .array back    => ∀ e ∈ back, isWhole e = true
  | .object back _ => ∀ m ∈ back, isWhole m.2 = true

theorem Frame.IsWhole.push {f : Frame} {v : Json} (h : f.IsWhole) (hv : isWhole v = true) :
    (f.push v).IsWhole := by
  cases f with
  | array back => exact List.forall_mem_cons.2 ⟨hv, h⟩
  | object back key => exact List.forall_mem_cons.2 ⟨hv, h⟩

theorem Frame.IsWhole.close {f : Frame} (h : f.IsWhole) : isWhole f.close = true := by
  cases f with
  | array back => exact areWhole_iff.2 fun e he => h e (List.mem_reverse.1 he)
  | object back key => exact membersWhole_iff.2 fun m hm => h m (List.mem_reverse.1 hm)

namespace Assembly

/-- The open parts are whole, and so is a value after which the text may still end. -/
def IsWhole : Assembly → Prop
  | .within frames _ => ∀ f ∈ frames, f.IsWhole
  | .done d          => d.ends = true → isWhole d.value = true

variable {frames : List Frame} {t : Token} {v : Json}

/-- Where the value is lost, the text does not end with it. -/
theorem isWhole_lost (frames : List Frame) : (lost frames).IsWhole := fun h => by cases h

theorem isWhole_put (hv : isWhole v = true) (h : ∀ f ∈ frames, f.IsWhole) :
    (put v frames).IsWhole := by
  cases frames with
  | nil => exact fun _ => hv
  | cons f outer =>
      obtain ⟨hf, houter⟩ := List.forall_mem_cons.1 h
      exact List.forall_mem_cons.2 ⟨hf.push hv, houter⟩

theorem isWhole_begin (ht : t.isWhole = true) (h : ∀ f ∈ frames, f.IsWhole) :
    (begin frames t).IsWhole := by
  cases t with
  | scalar v => exact isWhole_put ht h
  | openBracket => exact List.forall_mem_cons.2 ⟨List.forall_mem_nil _, h⟩
  | openBrace => exact List.forall_mem_cons.2 ⟨List.forall_mem_nil _, h⟩
  | _ => exact isWhole_lost frames

theorem isWhole_rename (key : Option Text) (h : ∀ f ∈ frames, f.IsWhole) :
    (name.rename frames key).IsWhole := by
  unfold name.rename
  split
  · obtain ⟨hf, houter⟩ := List.forall_mem_cons.1 h
    exact List.forall_mem_cons.2 ⟨hf, houter⟩
  · exact isWhole_lost _

theorem isWhole_name (t : Token) (h : ∀ f ∈ frames, f.IsWhole) : (name frames t).IsWhole := by
  unfold name
  split
  · exact isWhole_rename _ h
  · exact isWhole_rename _ h
  · exact isWhole_lost frames

theorem isWhole_leave (h : ∀ f ∈ frames, f.IsWhole) : (leave frames).IsWhole := by
  cases frames with
  | nil => exact isWhole_lost []
  | cons f outer =>
      obtain ⟨hf, houter⟩ := List.forall_mem_cons.1 h
      exact isWhole_put hf.close houter

/-- **A token brings no fault into a value that can still be read to its end.** -/
theorem IsWhole.step {a : Assembly} (h : a.IsWhole) (ht : t.isWhole = true) :
    (a.step t).IsWhole := by
  cases a with
  | done d =>
      intro hends
      cases hends
  | within frames expected =>
      cases expected with
      | value => exact isWhole_begin ht h
      | elementOrEnd =>
          cases t with
          | closeBracket => exact isWhole_leave h
          | _ => exact isWhole_begin ht h
      | keyOrEnd =>
          cases t with
          | closeBrace => exact isWhole_leave h
          | scalar v => exact isWhole_name (.scalar v) h
          | _ => exact isWhole_lost frames
      | key => exact isWhole_name t h
      | colon =>
          cases t with
          | colon => exact h
          | _ => exact isWhole_lost frames
      | separator =>
          cases frames with
          | nil => exact isWhole_lost []
          | cons f outer =>
              cases t with
              | comma => exact h
              | closeBracket =>
                  rw [Assembly.step]
                  split
                  · exact isWhole_leave h
                  · exact isWhole_lost (f :: outer)
              | closeBrace =>
                  rw [Assembly.step]
                  split
                  · exact isWhole_lost (f :: outer)
                  · exact isWhole_leave h
              | _ => exact isWhole_lost (f :: outer)

theorem IsWhole.foldl {a : Assembly} (h : a.IsWhole) {ts : List Token}
    (hts : ∀ t ∈ ts, t.isWhole = true) :
    (ts.foldl Assembly.step a).IsWhole := by
  induction ts generalizing a with
  | nil => exact h
  | cons t ts ih =>
      obtain ⟨ht, hts⟩ := List.forall_mem_cons.1 hts
      exact ih (h.step ht) hts

/-- A text that stops inside a value does not end with it. -/
theorem IsWhole.finish {a : Assembly} (h : a.IsWhole) (hends : a.finish.ends = true) :
    isWhole a.finish.value = true := by
  cases a with
  | done d => exact h hends
  | within frames expected => cases hends

end Assembly

/-- **The value of a text that ends with it is whole.** -/
theorem isWhole_readOctets {octets : List UInt8} (h : (readOctets octets).ends = true) :
    isWhole (readOctets octets).value = true := by
  have start : (Assembly.within [] .value).IsWhole := List.forall_mem_nil _
  exact (start.foldl fun t ht => isWhole_of_mem_tokens ht).finish h

end TranscriptSearch.Json
