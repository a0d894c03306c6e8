import TranscriptSearch.Index.Basic
import TranscriptSearch.Query.Vocabulary

/-!
# Index — searching

A session satisfies a query when it satisfies every qualifier and has every term of the free
text. Year and number are compared as text, the track in any case of ASCII letters, and a
transcript qualifier asks for every term of its value. A qualifier without a rule is satisfied
by no session, and text without terms asks for nothing.

* `Index.satisfies`: whether a session satisfies a query.
* `Index.matchingLines`: the lines of such a session with at least one of the searched terms.
* `Index.search`, `Index.matchingSessions`: the answers to a raw query.
-/

namespace TranscriptSearch

open Text Number

/-- A line that has a searched term. -/
structure LineMatch where
  /-- The position of the line in its session. -/
  line : Nat
  /-- The timecode of the line. -/
  timecode : Timecode
  /-- The text of the line. -/
  text : Text
deriving DecidableEq, Repr

/-- The whole second of a line. -/
def LineMatch.label (m : LineMatch) : Text := Timecode.label m.timecode

namespace Index

/-- Whether a session has every term of a text. -/
def hasTerms (x : Index) (s : Session) (t : Text) : Bool :=
  (x.rule.terms t).all fun term => s.terms.contains term

/-- Whether a session satisfies a qualifier. -/
def satisfiesQualifier (x : Index) (s : Session) (name value : Text) : Bool :=
  if name = "year".toList then decimal s.attributes.year.toNat == value
  else if name = "session".toList then decimal s.attributes.sessionId.toNat == value
  else if name = "track".toList then s.attributes.track.any fun t => eqIgnoringAsciiCase t value
  else if name = "transcript".toList then x.hasTerms s value
  else false

/-- Whether a session is indexed and satisfies a query. -/
def satisfies (x : Index) (k : SessionKey) (q : Query) : Bool :=
  match x.sessions.get? k with
  | none => false
  | some s =>
    q.qualifiers.toList.all (fun p => x.satisfiesQualifier s p.1 p.2) && x.hasTerms s q.freeText

/-- The terms that a line is searched for. -/
def searchedTerms (x : Index) (q : Query) : List Text :=
  x.rule.terms q.freeText ++ x.rule.terms ((q.qualifiers.get? "transcript".toList).getD [])

/-- The positions of the lines of a session where a term occurs. -/
def positions (x : Index) (k : SessionKey) (term : Text) : List Nat :=
  ((x.occurrences term).filter fun p => p.session == k).map Posting.line

/-- The lines of a session that satisfies a query which have a searched term, in order. -/
def matchingLines (x : Index) (k : SessionKey) (q : Query) : List LineMatch :=
  if x.satisfies k q then
    (SortedSet.ofList ((x.searchedTerms q).flatMap (x.positions k))).elements.filterMap fun n =>
      ((x.lines? k).getD [])[n]?.map fun l => ⟨n, l.timecode, l.text⟩
  else []

/-- Whether a session satisfies a raw query. -/
def search (x : Index) (v : Query.Vocabulary) (raw : Text) (k : SessionKey) : Bool :=
  x.satisfies k (v.parse raw)

/-- The sessions that satisfy a raw query, ascending. -/
def matchingSessions (x : Index) (v : Query.Vocabulary) (raw : Text) : List SessionKey :=
  x.keys.filter fun k => x.satisfies k (v.parse raw)

end Index

end TranscriptSearch
