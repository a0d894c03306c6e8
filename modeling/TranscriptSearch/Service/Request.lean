import TranscriptSearch.Index.Build

/-!
# Service — requests

A request for a build brings either all transcripts or only changed ones. Requests that are made
while a build runs are folded into one: all transcripts replace whatever waits, and changed
transcripts take the places of the waiting ones with their keys.

* `Request.fold`: a waiting request with changed transcripts folded in.
* `Request.batch`: the transcripts that a build of a request works on.
-/

namespace TranscriptSearch

/-- What a build is asked to do. -/
inductive Request where
  /-- To index these transcripts and nothing else. -/
  | full (transcripts : List Transcript)
  /-- To index these transcripts again and keep the other sessions. -/
  | incremental (changed : SortedMap SessionKey Transcript)
deriving DecidableEq

/-- How a build treats the index before it. -/
inductive BuildKind where
  /-- Nothing of it is kept. -/
  | full
  /-- Sessions without a new transcript are kept. -/
  | incremental
deriving DecidableEq, Repr

namespace Request

/-- The transcripts with one of them, the last with its key, replaced; nothing if there is none
with its key. -/
def replaceLast? (t : Transcript) : List Transcript → Option (List Transcript)
  | [] => none
  | u :: rest =>
    match replaceLast? t rest with
    | some rest => some (u :: rest)
    | none => if u.key = t.key then some (t :: rest) else none

/-- The transcripts with one in the place of the last with its key, or else at the end. -/
def put (ts : List Transcript) (t : Transcript) : List Transcript :=
  (replaceLast? t ts).getD (ts ++ [t])

/-- The changed transcripts with one more of them. -/
def change (m : SortedMap SessionKey Transcript) (t : Transcript) :
    SortedMap SessionKey Transcript :=
  m.insert t.key t

/-- A request with changed transcripts folded in. -/
def fold (r : Request) (changed : List Transcript) : Request :=
  match r with
  | .full ts       => .full (changed.foldl put ts)
  | .incremental m => .incremental (changed.foldl change m)

/-- The request that brings changed transcripts. Of those with one key it keeps the last. -/
def ofChanged (changed : List Transcript) : Request :=
  (incremental .empty).fold changed

/-- The transcripts of a request, those of an incremental one by their keys. -/
def batch : Request → List Transcript
  | .full ts       => ts
  | .incremental m => m.values

/-- The number of transcripts of a request. -/
def size (r : Request) : Nat := r.batch.length

/-- How a build of a request treats the index before it. -/
def kind : Request → BuildKind
  | .full _        => .full
  | .incremental _ => .incremental

end Request

end TranscriptSearch
