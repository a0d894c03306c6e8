import TranscriptSearch.Files.Tree

/-!
# Complaints

What is said of a failure: the program's own words, and after them, where there is more to say,
the words of whoever refused.

* `Complaint.message`: both together.
-/

namespace TranscriptSearch

/-- What is said of a failure. -/
structure Complaint where
  /-- The program's own words. -/
  text : Text
  /-- What the machine or the reader of a format says. -/
  detail : Option Text
deriving DecidableEq, Repr

namespace Complaint

/-- Both together. -/
def message (c : Complaint) : Text := c.text ++ c.detail.getD []

/-- Words without more to say. -/
def ofText (t : Text) : Complaint := ⟨t, none⟩

/-- The same complaint with words in front. -/
def after (lead : String) (c : Complaint) : Complaint := { c with text := lead.toList ++ c.text }

end Complaint

/-- What the machine says of a failure. -/
def FileError.words : FileError → Text
  | .notFound      => "No such file or directory (os error 2)".toList
  | .alreadyExists => "File exists (os error 17)".toList
  | .notDirectory  => "Not a directory (os error 20)".toList
  | .isDirectory   => "Is a directory (os error 21)".toList
  | .zeroCharacter => "file name contained an unexpected NUL byte".toList
  | .nameTooLong   => "File name too long (os error 36)".toList
  | .refused       => "Input/output error (os error 5)".toList

/-- What the reader of a format says of text that does not follow the format. -/
def malformedWords : Text := "the text does not follow its format".toList

/-- What is said of octets that are no text. -/
def notTextWords : Text := "stream did not contain valid UTF-8".toList

end TranscriptSearch
