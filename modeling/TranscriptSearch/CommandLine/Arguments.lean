import TranscriptSearch.Files.Path

/-!
# Command line — arguments

The words after the program's name. Options that every command has may stand before or after the
command; one that stands in both places counts as it is given after the command. A word that
starts with a hyphen is an option, except a hyphen alone, and after two hyphens alone no word is.

* `Invocation.parse`: what some words ask for.
-/

namespace TranscriptSearch

/-- What the program is asked to do. -/
inductive Command where
  /-- To index the transcripts of a file, or to index them again in the index that is there. -/
  | index (file : Path) (update : Bool)
  /-- To list the sessions that satisfy a query. -/
  | search (query : Text) (json : Bool)
  /-- To show the lines of a session that have a searched term. -/
  | lines (session query : Text) (json : Bool)
  /-- To show the settings files and the status of the index. -/
  | status
  /-- To show the settings in force. -/
  | config
deriving DecidableEq, Repr

/-- A command and the options that every command has. -/
structure Invocation where
  /-- The command. -/
  command : Command
  /-- The directory of the index, if it is not the one of the settings. -/
  directory : Option Path
  /-- How much is told of what happens. -/
  verbosity : Nat
deriving DecidableEq, Repr

/-- Why words ask for no command. -/
inductive Refusal where
  /-- They ask how the program is used. -/
  | help
  /-- They make no sense. -/
  | misuse
deriving DecidableEq, Repr

namespace CommandLine

/-- The shape of a word. -/
inductive Shape where
  /-- Two hyphens. -/
  | escape
  /-- A name after two hyphens, and what stands after an equals sign. -/
  | long (name : Text) (value : Option Text)
  /-- Letters after a hyphen. -/
  | short (letters : Text)
  /-- Anything else. -/
  | plain
deriving DecidableEq, Repr

/-- The shape of a word. -/
def shape : Text → Shape
  | ['-', '-'] => .escape
  | '-' :: '-' :: rest =>
    match rest.span (· != '=') with
    | (name, _ :: value) => .long name (some value)
    | (name, [])         => .long name none
  | '-' :: c :: rest => .short (c :: rest)
  | _ => .plain

/-- What may stand among the words after a command, or before it. -/
structure Level where
  /-- Whether the answer can be asked for in Json. -/
  json : Bool
  /-- Whether an update can be asked for. -/
  update : Bool
  /-- The number of words that are no options. -/
  plain : Nat
  /-- Whether those words name files, and so are not empty. -/
  isNamed : Bool

/-- What has been read of some words. -/
structure Seen where
  /-- The directory of the index. -/
  directory : Option Path
  /-- How often more was asked to be told, if it was. -/
  verbosity : Option Nat
  /-- Whether Json was asked for. -/
  json : Bool
  /-- Whether an update was asked for. -/
  update : Bool
  /-- The words that are no options. -/
  plain : List Text
  /-- Whether the next word has to be a directory. -/
  awaitsDirectory : Bool
deriving DecidableEq, Repr

namespace Seen

/-- Nothing. -/
def nothing : Seen := ⟨none, none, false, false, [], false⟩

/-- One more word that is no option. -/
def addPlain (level : Level) (s : Seen) (w : Text) : Except Refusal Seen :=
  if s.plain.length < level.plain && !(level.isNamed && w.isEmpty) then
    .ok { s with plain := s.plain ++ [w] }
  else .error .misuse

/-- The directory of the index, which has a name and is given once. -/
def setDirectory (s : Seen) (w : Text) : Except Refusal Seen :=
  if w.isEmpty || s.directory.isSome then .error .misuse
  else .ok { s with directory := some w, awaitsDirectory := false }

/-- One more call to tell more. -/
def raise (s : Seen) : Seen := { s with verbosity := some (s.verbosity.getD 0 + 1) }

/-- One more option of one letter. -/
def letter (s : Seen) (c : Char) : Except Refusal Seen :=
  if c = 'v' then .ok s.raise else if c = 'h' then .error .help else .error .misuse

/-- One more option that is a name without a value. -/
def flag (level : Level) (s : Seen) (name : Text) : Except Refusal Seen :=
  if name = "verbose".toList then .ok s.raise
  else if name = "help".toList then .error .help
  else if name = "index".toList then .ok { s with awaitsDirectory := true }
  else if name = "json".toList && level.json && !s.json then .ok { s with json := true }
  else if name = "update".toList && level.update && !s.update then .ok { s with update := true }
  else .error .misuse

/-- One more option of a shape. -/
def option (level : Level) (s : Seen) : Shape → Except Refusal Seen
  | .long name none     => s.flag level name
  | .long name (some v) => if name = "index".toList then s.setDirectory v else .error .misuse
  | .short letters      => letters.foldlM letter s
  | _                   => .ok s

end Seen

/-- What is read of some words of a level. -/
def scan (level : Level) (s : Seen) : List Text → Except Refusal Seen
  | [] => if s.awaitsDirectory then .error .misuse else .ok s
  | w :: rest =>
    match shape w, s.awaitsDirectory with
    | .plain, true   => do scan level (← s.setDirectory w) rest
    | _, true        => .error .misuse
    | .plain, false  => do scan level (← s.addPlain level w) rest
    | .escape, false => rest.foldlM (Seen.addPlain level) s
    | o, false       => do scan level (← s.option level o) rest

/-- What is read of the words before a command, and the words from the command on. -/
def scanBefore (s : Seen) : List Text → Except Refusal (Seen × List Text)
  | [] => .error .misuse
  | w :: rest =>
    match shape w, s.awaitsDirectory with
    | .plain, true   => do scanBefore (← s.setDirectory w) rest
    | _, true        => .error .misuse
    | .plain, false  => .ok (s, w :: rest)
    | .escape, false => .error .misuse
    | o, false       => do scanBefore (← s.option ⟨false, false, 0, false⟩ o) rest

/-- The names of the commands. -/
def commandNames : List Text := ["index", "search", "lines", "status", "config"].map String.toList

/-- What may stand among the words after a command. -/
def levelOf (name : Text) : Level :=
  if name = "index".toList then ⟨false, true, 1, true⟩
  else if name = "search".toList then ⟨true, false, 1, false⟩
  else if name = "lines".toList then ⟨true, false, 2, false⟩
  else ⟨false, false, 0, false⟩

/-- The command of a name with what was read after it. -/
def commandOf (name : Text) (s : Seen) : Except Refusal Command :=
  match s.plain with
  | [] =>
    if name = "status".toList then .ok .status
    else if name = "config".toList then .ok .config else .error .misuse
  | [w] =>
    if name = "index".toList then .ok (.index w s.update)
    else if name = "search".toList then .ok (.search w s.json) else .error .misuse
  | [session, query] =>
    if name = "lines".toList then .ok (.lines session query s.json) else .error .misuse
  | _ => .error .misuse

/-- Whether a question for help names something that there is help for. -/
def canHelp : List Text → Bool
  | []     => true
  | [name] => commandNames.contains name || name = "help".toList
  | _      => false

end CommandLine

open CommandLine in
/-- What some words ask for. -/
def Invocation.parse (words : List Text) : Except Refusal Invocation := do
  let (before, rest) ← scanBefore .nothing words
  match rest with
  | [] => .error .misuse
  | name :: words =>
    if name = "help".toList then .error (if canHelp words then .help else .misuse)
    else if !commandNames.contains name then .error .misuse
    else
      let after ← scan (levelOf name) .nothing words
      return ⟨← commandOf name after, after.directory.or before.directory,
        (after.verbosity.or before.verbosity).getD 0⟩

end TranscriptSearch
