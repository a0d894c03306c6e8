import TranscriptSearch.Index.Codec
import TranscriptSearch.Snapshot.Basic
import TranscriptSearch.Text.Utf8

/-!
# Snapshot — the record that is written

A snapshot is written as one record: the version of the format, the fingerprint, the second of
the build, the number of sessions, and the stored form of the index. The fields are read in the
order in which they stand, and the first one that cannot be read decides what is wrong.

* `Snapshot.octets`: what is written of a snapshot.
* `SnapshotRecord.read`: the record of the octets of a file.
-/

namespace TranscriptSearch

open Json

/-- What is written of a snapshot. -/
structure SnapshotRecord where
  /-- The version of the format. -/
  version : UInt32
  /-- The fingerprint of the settings that the index was built for. -/
  fingerprint : Text
  /-- When the index was built. -/
  builtAt : Moment
  /-- The number of sessions. -/
  sessionCount : Nat
  /-- The stored form of the index. -/
  content : Stored
deriving DecidableEq

/-- A fault at which whoever meets it stops without an answer. -/
inductive Breakdown where
  /-- A written second is beyond what a clock can tell. -/
  | clockOverflow
deriving DecidableEq, Repr

/-- The fault in words. -/
def Breakdown.message : Breakdown → Text
  | .clockOverflow => "overflow when adding duration to instant".toList

/-- What a reader of a record can meet instead of a record. -/
inductive RecordFault where
  /-- The octets do not follow the format. -/
  | malformed
  /-- The reader itself stops. -/
  | breakdown (fault : Breakdown)
deriving DecidableEq, Repr

namespace SnapshotRecord

/-- The version of the format that is written, and the only one that is understood. -/
def currentVersion : UInt32 := 1

/-- The record of a snapshot. -/
def ofSnapshot (s : Snapshot) : SnapshotRecord :=
  ⟨currentVersion, s.fingerprint, s.builtAt, s.sessionCount, s.index.stored⟩

/-- The names of the fields. -/
def fieldNames : List String :=
  ["format_version", "config_hash", "built_at", "session_count", "index"]

/-- The position of the second of the build among the fields. -/
def builtAtField : Nat := 2

/-- A record as a value. -/
def toJson (r : SnapshotRecord) : Json :=
  .object [member "format_version" (.ofNat r.version.toNat),
    member "config_hash" (.string r.fingerprint),
    member "built_at" (.ofNat r.builtAt.wholeSeconds),
    member "session_count" (.ofNat r.sessionCount),
    member "index" r.content.toJson]

/-- A second as it is written. -/
def second? (v : Json) : Option Nat := v.natural? UInt64.size

/-- The stored form in its field, which stands one object deep. -/
def content? (v : Json) : Option Stored := Stored.ofJson? 1 v

/-- The record with some fields. -/
def ofFields? (f : Fields) : Option SnapshotRecord := do
  guard f.isSound
  let version ← (← f.get? 0).word32?
  let fingerprint ← (← f.get? 1).text?
  let builtAt ← Moment.ofSeconds? (← second? (← f.get? builtAtField))
  let sessionCount ← (← f.get? 3).natural? UInt64.size
  let content ← content? (← f.get? 4)
  return ⟨version, fingerprint, builtAt, sessionCount, content⟩

/-- Whether the value of a field can be read. -/
def isReadable : Nat × Json → Bool
  | (0, v) => v.word32?.isSome
  | (1, v) => v.text?.isSome
  | (2, v) => (second? v).isSome
  | (3, v) => (v.natural? UInt64.size).isSome
  | (_, v) => (content? v).isSome

/-- Whether a value is a second that no clock reaches. -/
def overflows (v : Json) : Bool := (second? v).any fun n => Moment.limit ≤ n

/-- Whether the reader of some fields meets a second that no clock reaches before anything else
that is wrong. -/
def meetsOverflow (f : Fields) : Bool :=
  match f.entries.span fun e => e.1 != builtAtField with
  | (before, (_, v) :: _) => overflows v && before.all isReadable
  | (_, []) => false

/-- The record with some fields, or what is met instead. -/
def ofFields (f : Fields) : Except RecordFault SnapshotRecord :=
  match ofFields? f with
  | some r => .ok r
  | none => .error (if meetsOverflow f then .breakdown .clockOverflow else .malformed)

/-- The record of the octets of a file. -/
def read (octets : List UInt8) : Except RecordFault SnapshotRecord :=
  let d := Json.readOctets octets
  match ofFields (fields fieldNames d.value) with
  | .error e => .error e
  | .ok r => if d.ends then .ok r else .error .malformed

end SnapshotRecord

/-- What is written of a snapshot. -/
def Snapshot.octets (s : Snapshot) : List UInt8 :=
  Text.encode (SnapshotRecord.ofSnapshot s).toJson.compact

end TranscriptSearch
