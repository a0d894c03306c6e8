/-!
# SipHash — a hash of octets

The hash of the SipHash family with two rounds for each word of the message and four rounds at
the end, under the zero key. The message is read in words of eight octets, least octet first;
the last word holds the octets left over and the length of the message.

* `SipHash.hash`: the hash of a message.
-/

namespace TranscriptSearch.SipHash

/-- The four words that a hash is computed in. -/
structure State where
  v0 : UInt64
  v1 : UInt64
  v2 : UInt64
  v3 : UInt64
deriving DecidableEq, Repr

/-- A word turned to the left. -/
def rotate (x : UInt64) (n : UInt64) : UInt64 := (x <<< n) ||| (x >>> (64 - n))

/-- The words before a message, under the zero key. -/
def initial : State :=
  ⟨0x736F6D6570736575, 0x646F72616E646F6D, 0x6C7967656E657261, 0x7465646279746573⟩

/-- One round. -/
def State.round (s : State) : State :=
  let a0 := s.v0 + s.v1
  let a1 := rotate s.v1 13 ^^^ a0
  let a2 := s.v2 + s.v3
  let a3 := rotate s.v3 16 ^^^ a2
  let b2 := a2 + a1
  let b0 := rotate a0 32 + a3
  ⟨b0, rotate a1 17 ^^^ b2, rotate b2 32, rotate a3 21 ^^^ b0⟩

/-- One word of the message. -/
def State.absorb (s : State) (m : UInt64) : State :=
  let t := ({ s with v3 := s.v3 ^^^ m }).round.round
  { t with v0 := t.v0 ^^^ m }

/-- The hash after the last word. -/
def State.finish (s : State) : UInt64 :=
  let t := ({ s with v2 := s.v2 ^^^ 0xFF }).round.round.round.round
  t.v0 ^^^ t.v1 ^^^ t.v2 ^^^ t.v3

/-- The word of octets, least octet first. -/
def word : List UInt8 → UInt64
  | [] => 0
  | b :: rest => b.toUInt64 ||| (word rest <<< 8)

/-- The rest of a message of `length` octets. -/
def absorbAll (length : Nat) (s : State) : List UInt8 → State
  | a :: b :: c :: d :: e :: f :: g :: h :: rest =>
    absorbAll length (s.absorb (word [a, b, c, d, e, f, g, h])) rest
  | last => s.absorb (word last ||| (UInt64.ofNat (length % 256) <<< 56))

/-- The hash of a message. -/
def hash (message : List UInt8) : UInt64 := (absorbAll message.length initial message).finish

end TranscriptSearch.SipHash
