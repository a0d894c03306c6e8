import TranscriptSearch.Number.Hexadecimal
import TranscriptSearch.SipHash
import TranscriptSearch.Term

/-!
# Snapshot — the fingerprint of the indexing settings

A snapshot carries a fingerprint of every setting that decides what an index holds. One with
another fingerprint than the current settings have is stale.

* `IndexingSettings.fingerprint`: sixteen hexadecimal digits.
-/

namespace TranscriptSearch

/-- The settings that decide what an index holds. -/
structure IndexingSettings where
  /-- The version of the way in which sessions are indexed. -/
  schemaVersion : UInt32
  /-- The least length of a term. -/
  minTermLength : UInt64
deriving DecidableEq, Repr

namespace IndexingSettings

/-- The current version of the way in which sessions are indexed. -/
def currentSchema : UInt32 := 1

/-- The settings of a rule for terms. A length beyond 64 bits counts as the largest one. -/
def ofRule (r : TermRule) : IndexingSettings :=
  ⟨currentSchema, .ofNat (min r.minLength (UInt64.size - 1))⟩

/-- The `n` lowest octets of a number, least octet first. -/
def octets : (n : Nat) → Nat → List UInt8
  | 0, _ => []
  | n + 1, v => .ofNat (v % 256) :: octets n (v / 256)

/-- The hash of the settings as sixteen hexadecimal digits. -/
def fingerprint (s : IndexingSettings) : Text :=
  Number.hexadecimalFixed 16
    (SipHash.hash (octets 4 s.schemaVersion.toNat ++ octets 8 s.minTermLength.toNat)).toNat

end IndexingSettings

/-- The fingerprint of the settings of a rule for terms. -/
def TermRule.fingerprint (r : TermRule) : Text := (IndexingSettings.ofRule r).fingerprint

end TranscriptSearch
