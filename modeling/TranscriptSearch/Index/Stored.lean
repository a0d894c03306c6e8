import TranscriptSearch.Index.Basic

/-!
# Index — the stored form

What is written of an index: its least term length, its sessions in the order of their keys,
and its occurrences by term. The terms of the sessions are not written; they are found again in
the occurrences.

* `Index.stored`: the stored form of an index.
* `Stored.index`: the index of a stored form whose parts agree.
-/

namespace TranscriptSearch

open Number

/-- What is written of a session. -/
structure StoredSession where
  /-- The attributes. -/
  attributes : Attributes
  /-- The lines in order. -/
  lines : List Line
deriving DecidableEq, Repr

/-- What is written of an index. -/
structure Stored where
  /-- The least length of a term. -/
  minLength : Nat
  /-- The sessions. -/
  sessions : List StoredSession
  /-- The occurrences of each term. -/
  postings : SortedMap Text (List Posting)
deriving DecidableEq

/-- How the parts of a stored form disagree. -/
inductive Inconsistency where
  /-- Two sessions have one key. -/
  | storedTwice (session : SessionKey)
  /-- A term occurs in a session that is not there. -/
  | unknownSession (term : Text) (session : SessionKey)
  /-- A term occurs in a line that its session does not have. -/
  | missingLine (term : Text) (line : Nat) (session : SessionKey)
  /-- The header counts other sessions than are there. -/
  | sessionCount (listed held : Nat)
deriving DecidableEq, Repr

/-- The disagreement in words. -/
def Inconsistency.message : Inconsistency → Text
  | .storedTwice k => "session ".toList ++ k.text ++ " stored twice".toList
  | .unknownSession term k =>
    "term '".toList ++ term ++ "' refers to unknown session ".toList ++ k.text
  | .missingLine term n k =>
    "term '".toList ++ term ++ "' refers to line ".toList ++ decimal n
      ++ " of session ".toList ++ k.text
  | .sessionCount listed held =>
    "header lists ".toList ++ decimal listed ++ " sessions, index holds ".toList ++ decimal held

/-- The stored form of an index. -/
def Index.stored (x : Index) : Stored :=
  ⟨x.rule.minLength, x.sessions.values.map fun s => ⟨s.attributes, s.lines⟩, x.postings⟩

namespace Stored

/-- The first key that stands in a list after itself. -/
def firstRepeat : (seen : List SessionKey) → List SessionKey → Option SessionKey
  | _, [] => none
  | seen, k :: rest => if seen.contains k then some k else firstRepeat (k :: seen) rest

/-- What is wrong with an occurrence of a term. -/
def postingFault? (sessions : List StoredSession) (term : Text) (p : Posting) :
    Option Inconsistency :=
  match sessions.find? fun s => s.attributes.key == p.session with
  | none => some (.unknownSession term p.session)
  | some s => if p.line < s.lines.length then none else some (.missingLine term p.line p.session)

/-- The first disagreement of the parts. -/
def inconsistency? (d : Stored) : Option Inconsistency :=
  match firstRepeat [] (d.sessions.map fun s => s.attributes.key) with
  | some k => some (.storedTwice k)
  | none => d.postings.toList.findSome? fun e => e.2.findSome? (postingFault? d.sessions e.1)

/-- The terms that occur in a session. -/
def termsOf (d : Stored) (k : SessionKey) : SortedSet Text :=
  .ofList ((d.postings.toList.filter fun e => e.2.any fun p => p.session == k).map (·.1))

/-- A session of the index, with its key. -/
def entry (d : Stored) (s : StoredSession) : SessionKey × Session :=
  (s.attributes.key, ⟨s.attributes, d.termsOf s.attributes.key, s.lines⟩)

/-- The index of a stored form whose parts agree. -/
def index (d : Stored) : Except Inconsistency Index :=
  match d.inconsistency? with
  | some fault => .error fault
  | none => .ok ⟨.ofMinLength d.minLength, d.postings, .ofList (d.sessions.map d.entry)⟩

end Stored

end TranscriptSearch
