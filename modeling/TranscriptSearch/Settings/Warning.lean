import TranscriptSearch.Settings.Basic

/-!
# Settings — warnings

Settings that can be read but do not do what they say.

* `Settings.warnings`: the warnings on the settings, in the order of the settings.
-/

namespace TranscriptSearch

open Text

/-- A setting that does not do what it says. -/
inductive Warning where
  /-- The key of the free text is listed as a qualifier. -/
  | reservedQualifier
  /-- A listed qualifier is one that no search can decide. -/
  | unsupportedQualifier (name : Text)
  /-- A qualifier is listed again, in any case; its name is in lower case. -/
  | duplicateQualifier (name : Text)
  /-- A least length of zero counts as one. -/
  | zeroMinTermLength
deriving DecidableEq, Repr

/-- The warning in words. -/
def Warning.message : Warning → Text
  | .reservedQualifier => "qualifier '_query' is reserved and ignored".toList
  | .unsupportedQualifier name =>
    "qualifier '".toList ++ name ++ "' is not supported and never matches".toList
  | .duplicateQualifier name => "qualifier '".toList ++ name ++ "' is listed more than once".toList
  | .zeroMinTermLength => "min_token_len = 0 is treated as 1".toList

namespace Settings

/-- The warning on a qualifier name that is listed for the first time. -/
def nameWarning? (name : Text) : Option Warning :=
  if lowercase name = Query.freeTextKey then some .reservedQualifier
  else if knownQualifiers.contains (lowercase name) then none
  else some (.unsupportedQualifier name)

/-- The warnings on qualifier names, when the lower-case names `seen` were listed before. -/
def nameWarnings : (seen : List Text) → List Text → List Warning
  | _, [] => []
  | seen, name :: rest =>
    if seen.contains (lowercase name) then
      .duplicateQualifier (lowercase name) :: nameWarnings seen rest
    else (nameWarning? name).toList ++ nameWarnings (lowercase name :: seen) rest

/-- The warnings on the settings. -/
def warnings (s : Settings) : List Warning :=
  nameWarnings [] s.qualifiers ++ if s.minTermLength = 0 then [.zeroMinTermLength] else []

end Settings

end TranscriptSearch
