import TranscriptSearch.Index.Basic
import TranscriptSearch.Index.Report

/-!
# Index — recording and removing sessions

A session is recorded as a whole: what the index held of it before is removed, and its
occurrences are added at the end of the lists of their terms.

* `Index.erase`: the index without a session.
* `Index.merge`: the index with the accepted transcripts of a batch.
* `Index.build`: an index of the accepted transcripts of a batch alone.
-/

namespace TranscriptSearch

/-- The terms of a transcript, line by line, each with its occurrence. -/
def TermRule.occurrences (rule : TermRule) (t : Transcript) : List (Text × Posting) :=
  t.lines.zipIdx.flatMap fun p =>
    (rule.terms p.1.text).map fun term => (term, ⟨t.key, p.2, p.1.timecode⟩)

namespace Index

/-- The lists of terms with one more occurrence. -/
def record (m : SortedMap Text (List Posting)) (o : Text × Posting) :
    SortedMap Text (List Posting) :=
  m.insert o.1 ((m.get? o.1).getD [] ++ [o.2])

/-- The lists of terms without the occurrences of a term in a session. An empty list goes. -/
def forget (k : SessionKey) (m : SortedMap Text (List Posting)) (term : Text) :
    SortedMap Text (List Posting) :=
  match m.get? term with
  | none => m
  | some l =>
    match l.filter fun p => p.session != k with
    | [] => m.erase term
    | rest => m.insert term rest

/-- The index without a session. The lists to be looked at are those of the session's terms. -/
def erase (x : Index) (k : SessionKey) : Index :=
  match x.sessions.get? k with
  | none => x
  | some s =>
    { x with
      postings := s.terms.elements.foldl (forget k) x.postings
      sessions := x.sessions.erase k }

/-- What the index retains of a transcript. -/
def sessionOf (rule : TermRule) (t : Transcript) : Session :=
  ⟨t.attributes, .ofList ((rule.occurrences t).map (·.1)), t.lines⟩

/-- The index with one more session. -/
def insert (x : Index) (t : Transcript) : Index :=
  { x with
    postings := (x.rule.occurrences t).foldl record x.postings
    sessions := x.sessions.insert t.key (sessionOf x.rule t) }

/-- The index with a session in the place of what it held of the session. -/
def reindex (x : Index) (t : Transcript) : Index := (x.erase t.key).insert t

/-- The index with the accepted transcripts of a batch; other sessions stay. -/
def merge (x : Index) (batch : List Transcript) : Index :=
  (Batch.accepted batch).foldl reindex x

/-- An index of the accepted transcripts of a batch. -/
def build (rule : TermRule) (batch : List Transcript) : Index := (empty rule).merge batch

end Index

end TranscriptSearch
