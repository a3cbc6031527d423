import TextShell.Journal
import TextShell.Pattern.Matching

/-!
# Note filters

Which notes are shown. A filter is written as directives with commas between them: a level for all
notes, or the beginning of an origin's name with the level for it. Of the directives that apply to
a note, the one with the longest name decides. A pattern behind a slash must match in the note.

* `NoteFilter.read`: the filter that a text describes, and what was left out of it.
* `NoteFilter.admits`: whether a note is shown.
-/

namespace TextShell

/-- The notes of an origin whose name has a certain beginning are shown up to a level. -/
structure Directive where
  /-- The beginning of the name; every name has none. -/
  name? : Option String
  /-- The greatest rank of a level that is shown; none is shown if it is zero. -/
  rank : Nat
  deriving DecidableEq, Repr

namespace Directive

/-- Whether a directive applies to an origin. -/
def appliesTo (directive : Directive) (origin : Origin) : Bool :=
  match directive.name? with
  | none => true
  | some name => name.toList.isPrefixOf origin.name.toList

/-- How much of a name a directive fixes. -/
def length (directive : Directive) : Nat := (directive.name?.getD "").utf8ByteSize

/-- A directive in a list: it takes the place of one for the same name, or comes last. -/
def insert (directive : Directive) : List Directive → List Directive
  | [] => [directive]
  | other :: others =>
    if other.name? = directive.name? then directive :: others
    else other :: insert directive others

end Directive

/-- Which notes are shown. -/
structure NoteFilter where
  /-- The directives, in order. -/
  directives : List Directive
  /-- A pattern that must match in a note, if there is one. -/
  pattern? : Option Pattern.TextPattern
  deriving DecidableEq, Repr

namespace NoteFilter

/-- The names of the levels of a filter, from nothing to everything. -/
def levelNames : List String := ["off", "error", "warn", "info", "debug", "trace"]

/-- The rank that a name of a level stands for. Case does not matter. -/
def rank? (name : String) : Option Nat :=
  levelNames.findIdx? fun level => level = String.ofList (name.toList.map Char.toLower)

/-- The rank at which every note is shown. -/
def maxRank : Nat := 5

/-- A text without the blank characters at its two ends. -/
def trim (text : List Char) : List Char :=
  ((text.dropWhile Text.isBlank).reverse.dropWhile Text.isBlank).reverse

/-- The complaint about a part of a filter that is left out. -/
def complaint (part : String) : String :=
  "warning: invalid logging spec '" ++ part ++ "', ignoring it"

/-- The directive that a part of a filter describes, or the complaint about it. -/
def directive (part : List Char) : Except String Directive :=
  match part.splitOn '=' with
  | [name] =>
    match rank? (.ofList name) with
    | some rank => .ok { name? := none, rank }
    | none => .ok { name? := some (.ofList name), rank := maxRank }
  | [name, level] =>
    if trim level = [] then .ok { name? := some (.ofList name), rank := maxRank }
    else match rank? (.ofList (trim level)) with
      | some rank => .ok { name? := some (.ofList name), rank }
      | none => .error (complaint (.ofList (trim level)))
  | _ => .error (complaint (.ofList part))

/-- Read the parts of a filter one after the other, with the directives and complaints so far. -/
def readParts : List (List Char) → List Directive × List String → List Directive × List String
  | [], state => state
  | part :: others, (directives, complaints) =>
    if trim part = [] then readParts others (directives, complaints)
    else match directive (trim part) with
      | .ok directive => readParts others (directive.insert directives, complaints)
      | .error text => readParts others (directives, complaints ++ [text])

/-- The filter with the given directives. Without any, errors are shown. -/
def ofDirectives (directives : List Directive) (pattern? : Option Pattern.TextPattern) :
    NoteFilter where
  directives := if directives = [] then [{ name? := none, rank := Level.error.rank }] else directives
  pattern?

/-- The complaint about a pattern that is left out. -/
def patternComplaint (text : String) (fault : Pattern.Fault) : String :=
  "warning: invalid regex filter - " ++ fault.message text ++ ", ignoring it"

/-- The pattern that a part of a filter describes, if it does, and the complaint if it does not. -/
def readPattern (text : String) : Option Pattern.TextPattern × List String :=
  match Pattern.read text with
  | .ok pattern => (some pattern, [])
  | .error fault => (none, [patternComplaint text fault])

/-- The filter that a text describes, and the complaints about it. -/
def read (text : String) : NoteFilter × List String :=
  match text.toList.splitOn '/' with
  | [parts] =>
    match readParts (parts.splitOn ',') ([], []) with
    | (directives, complaints) => (ofDirectives directives none, complaints)
  | [parts, pattern] =>
    match readParts (parts.splitOn ',') ([], []), readPattern (.ofList pattern) with
    | (directives, complaints), (pattern?, faults) =>
      (ofDirectives directives pattern?, complaints ++ faults)
  | _ =>
    (ofDirectives [] none,
      ["warning: invalid logging spec '" ++ text ++ "' (too many '/'s), ignoring it"])

/-- The directive that decides on an origin: the last one of those with the longest name. -/
def deciding? (filter : NoteFilter) (origin : Origin) : Option Directive :=
  (filter.directives.filter (·.appliesTo origin)).foldl
    (fun best directive =>
      match best with
      | none => some directive
      -- of two equally long names the later one wins
      | some other => if other.length ≤ directive.length then some directive else some other) none

/-- Whether a note is shown. -/
def admits (filter : NoteFilter) (note : Note) : Bool :=
  (match filter.deciding? note.origin with
    | none => false
    | some directive => decide (note.level.rank ≤ directive.rank)) &&
  (match filter.pattern? with
    | none => true
    | some pattern => pattern.occursIn note.text)

end NoteFilter

end TextShell
