import TextShell.ReadLoop.Loop

/-!
# Settings

What the arguments of the program set: the directory, the prompt, the history file and the log
level. Each option takes the next argument as its value, whatever that is, and may be given once.

* `Settings.read`: the settings in an argument list, or why there are none.
-/

namespace TextShell

/-- One thing that can be set. -/
inductive Setting where
  /-- The directory that relative paths continue. -/
  | directory
  /-- The prompt. -/
  | prompt
  /-- The history file. -/
  | history
  /-- Which notes are shown. -/
  | logLevel
  deriving DecidableEq, Repr

namespace Setting

/-- The setting that an option is for. -/
def ofOption? (option : String) : Option Setting :=
  if option = "-C" ∨ option = "--dir" then some directory
  else if option = "--prompt" then some prompt
  else if option = "--history" then some history
  else if option = "--log-level" then some logLevel
  else none

end Setting

/-- What the arguments set. -/
structure Settings where
  /-- The directory, if given. -/
  directory? : Option String
  /-- The prompt. -/
  prompt : String
  /-- The history file, if given. -/
  history? : Option String
  /-- Which notes are shown. -/
  logLevel : String
  deriving DecidableEq, Repr

/-- What is wrong with an argument list. -/
inductive ArgumentFault where
  /-- An argument is no option. -/
  | unrecognized (argument : String)
  /-- The last option lacks its value. -/
  | missingValue (option : String)
  /-- An option was given before. -/
  | repeated (option value : String)
  /-- An option follows the request for help. -/
  | afterHelp
  deriving DecidableEq, Repr

/-- The wording of what is wrong with an argument list. -/
def ArgumentFault.message : ArgumentFault → String
  | unrecognized argument => "Unrecognized argument: " ++ argument ++ "\n"
  | missingValue option => "No value provided for option '" ++ option ++ "'.\n"
  | repeated option value =>
    "Error parsing option '" ++ option ++ "' with value '" ++ value ++
      "': duplicate values provided\n"
  | afterHelp => "Trailing arguments are not allowed after \x60help\x60."

/-- What an argument list asks for. -/
inductive Arguments where
  /-- Run with these settings. -/
  | settings (settings : Settings)
  /-- Show the help. -/
  | help
  /-- Tell what is wrong. -/
  | bad (fault : ArgumentFault)
  deriving DecidableEq, Repr

namespace Settings

/-- The values given so far for each setting. -/
structure Given where
  /-- The value of a setting, if it was given. -/
  value? : Setting → Option String

namespace Given

/-- Nothing is given. -/
def nothing : Given where
  value? _ := none

/-- One more setting is given. -/
def set (given : Given) (setting : Setting) (value : String) : Given where
  value? other := if other = setting then some value else given.value? other

/-- The settings, with what is not given at its default. -/
def settings (given : Given) : Settings where
  directory? := given.value? .directory
  prompt := (given.value? .prompt).getD ReadLoop.defaultPrompt
  history? := given.value? .history
  logLevel := (given.value? .logLevel).getD "warn"

end Given

/-- Read arguments. `help` tells whether help was asked for, and `ended` whether the options have
been ended. -/
def readFrom (given : Given) (help ended : Bool) : List String → Arguments
  | [] => if help then .help else .settings given.settings
  | argument :: rest =>
    -- an option takes the next argument, so neither this nor the end of options is seen as a value
    if !ended && (argument = "--help" || argument = "help") then readFrom given true ended rest
    else if !ended && argument.toList.head? = some '-' then
      if argument = "--" then readFrom given help true rest
      else if help then .bad .afterHelp
      else match Setting.ofOption? argument, rest with
        | none, _ => .bad (.unrecognized argument)
        | some _, [] => .bad (.missingValue argument)
        | some setting, value :: others =>
          if (given.value? setting).isSome then .bad (.repeated argument value)
          else readFrom (given.set setting value) help ended others
    else .bad (.unrecognized argument)

/-- What an argument list asks for. -/
def read (arguments : List String) : Arguments := readFrom .nothing false false arguments

/-- The lines of the help. -/
def helpLines : List String :=
  ["Usage: file_commands [-C <dir>] [--prompt <prompt>] [--history <history>] " ++
    "[--log-level <log-level>]",
   "",
   "Interactive shell for copying, creating, deleting and updating .txt files.",
   "",
   "Options:",
   "  -C, --dir         directory that relative file paths are resolved against.",
   "                    Defaults to the current directory.",
   "  --prompt          prompt printed before each command.",
   "  --history         file to load command history from on start and save it to on",
   "                    exit.",
   "  --log-level       log filter (error, warn, info, debug, trace); RUST_LOG takes",
   "                    precedence.",
   "  --help, help      display usage information"]

/-- The help. -/
def help : String := Text.joinLines helpLines

end Settings

end TextShell
