import TranscriptSearch.Json.Reader
import TranscriptSearch.Proofs.Json.Token
import TranscriptSearch.Proofs.Text.Utf8

/-!
# Json — a written value read again

* `foldl_tokensOf`: the tokens of a value are put together to the value, wherever a value may
  stand.
* `read_compact`, `readOctets_compact`: the text of a writable value is read as that value, and
  nothing is left of it.
-/

namespace TranscriptSearch.Json

namespace Assembly

/-- A value may come next. -/
def IsOpen (e : Expected) : Prop := e = .value ∨ e = .elementOrEnd

theorem step_open {e : Expected} (he : IsOpen e) (frames : List Frame) {t : Token}
    (ht : t ≠ .closeBracket) : step (.within frames e) t = begin frames t := by
  obtain rfl | rfl := he
  · rfl
  · cases t with
    | closeBracket => exact absurd rfl ht
    | _ => rfl

mutual

/-- **The tokens of a value are put together to the value.** -/
theorem foldl_tokensOf : (v : Json) → IsWritable v → {e : Expected} → IsOpen e →
    (frames : List Frame) → (tokensOf v).foldl step (.within frames e) = put v frames
  | .null, _, _, he, frames | .bool _, _, _, he, frames | .number _, _, _, he, frames
  | .string _, _, _, he, frames => step_open he frames nofun
  | .array es, h, e, he, frames => by
      have opened : [Token.openBracket].foldl step (.within frames e) =
          .within (.array [] :: frames) .elementOrEnd := step_open he frames nofun
      have inner := foldl_tokensOfElements true es h [] frames
      rw [if_pos rfl, List.append_nil] at inner
      rw [tokensOf, List.foldl_append, List.foldl_append, opened, inner]
      cases es <;> simp [step, leave, Frame.isArray, Frame.close]
  | .object ms, h, e, he, frames => by
      have opened : [Token.openBrace].foldl step (.within frames e) =
          .within (.object [] none :: frames) .keyOrEnd := step_open he frames nofun
      have inner := foldl_tokensOfMembers true ms h [] frames
      rw [if_pos rfl, List.append_nil] at inner
      rw [tokensOf, List.foldl_append, List.foldl_append, opened, inner]
      cases ms <;> simp [step, leave, Frame.isArray, Frame.close]

/-- The tokens of elements become parts of the innermost array. -/
theorem foldl_tokensOfElements (isFirst : Bool) : (es : List Json) → AreWritable es →
    (back : List Json) → (frames : List Frame) →
    (tokensOfElements isFirst es).foldl step
        (.within (.array back :: frames) (if isFirst then .elementOrEnd else .separator)) =
      .within (.array (es.reverse ++ back) :: frames)
        (if isFirst && es.isEmpty then .elementOrEnd else .separator)
  | [], _, _, _ => by simp [tokensOfElements]
  | e :: es, h, back, frames => by
      have comma : ((if isFirst then [] else [Token.comma])).foldl step
          (.within (.array back :: frames) (if isFirst then .elementOrEnd else .separator)) =
          .within (.array back :: frames) (if isFirst then .elementOrEnd else .value) := by
        cases isFirst <;> rfl
      have hopen : IsOpen (if isFirst then .elementOrEnd else .value) := by
        cases isFirst
        · exact .inl rfl
        · exact .inr rfl
      rw [tokensOfElements, List.foldl_append, List.foldl_append, comma,
        foldl_tokensOf e h.1 hopen]
      have rest := foldl_tokensOfElements false es h.2 (e :: back) frames
      simpa [put, Frame.push] using rest

/-- The tokens of members become parts of the innermost object. -/
theorem foldl_tokensOfMembers (isFirst : Bool) : (ms : List (Option Text × Json)) →
    MembersWritable ms → (back : List (Option Text × Json)) → (frames : List Frame) →
    (tokensOfMembers isFirst ms).foldl step
        (.within (.object back none :: frames) (if isFirst then .keyOrEnd else .separator)) =
      .within (.object (ms.reverse ++ back) none :: frames)
        (if isFirst && ms.isEmpty then .keyOrEnd else .separator)
  | [], _, _, _ => by simp [tokensOfMembers]
  | (none, v) :: ms, h, _, _ => absurd h.1 nofun
  | (some k, v) :: ms, h, back, frames => by
      have named : ((if isFirst then [] else [Token.comma]) ++
          [Token.scalar (.string ((some k).getD [])), Token.colon]).foldl step
          (.within (.object back none :: frames) (if isFirst then .keyOrEnd else .separator)) =
          .within (.object back (some k) :: frames) .value := by
        cases isFirst <;> rfl
      rw [tokensOfMembers, List.foldl_append, List.foldl_append, named,
        foldl_tokensOf v h.2.1 (.inl rfl)]
      have rest := foldl_tokensOfMembers false ms h.2.2 ((some k, v) :: back) frames
      simpa [put, Frame.push] using rest

end

end Assembly

open Assembly

/-- **The text of a writable value is read as that value.** -/
theorem read_compact {v : Json} (h : IsWritable v) : read ((compact v).map some) = ⟨v, true⟩ := by
  have htokens : tokens ((compact v).map some) = tokensOf v := by
    have := scan_compact v h delimits_nil
    rwa [List.append_nil, Reading.scan, Reading.finish, List.append_nil] at this
  rw [read, htokens, foldl_tokensOf v h (.inl rfl)]
  rfl

/-- So are the octets of its text. -/
theorem readOctets_compact {v : Json} (h : IsWritable v) :
    readOctets (Text.encode (compact v)) = ⟨v, true⟩ := by
  rw [readOctets, Text.decode_encode, read_compact h]

end TranscriptSearch.Json
