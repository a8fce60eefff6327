/-!
# Command descriptions

A command-line tool is a group of commands. Each command takes options and positional arguments;
the group itself takes only options and then the name of a command.

An option has one or more names: a short name is `-` and one character, any other name is long.
An option takes a value, is a flag that a name turns on, or is a switch with names that turn it
on and names that turn it off; the help option asks for the help page. Values are text, integers,
one of fixed words, or paths of files.
-/

namespace Manuscript.Command

/-- The kinds of value an option or argument takes. -/
inductive ValueType where
  | text
  | integer
  | choice (words : List String)
  /-- The path of a file, which may not be a directory; `mustExist` asks that it exist. -/
  | file (mustExist : Bool)
  deriving Inhabited, Repr, DecidableEq

/-- The placeholder of a value type in help pages. -/
def ValueType.metavar : ValueType → String
  | .text => "TEXT"
  | .integer => "INTEGER"
  | .choice words => "[" ++ "|".intercalate words ++ "]"
  | .file _ => "FILE"

/-- What an option does. -/
inductive OptionKind where
  /-- Takes a value. -/
  | value (type : ValueType)
  /-- Is turned on by its names. -/
  | flag
  /-- Is turned on by its names and off by `off`. -/
  | switch (off : List String)
  /-- Asks for the help page. -/
  | help
  deriving Inhabited, Repr, DecidableEq

/-- An option of a command or group. -/
structure OptionSpec where
  /-- The name the command reads the option's value under. -/
  key : String
  /-- The names of the option, in the order they were declared. -/
  names : List String
  kind : OptionKind
  /-- The help text of the option. -/
  help : String
  deriving Inhabited, Repr

/-- A positional argument of a command. -/
structure ArgumentSpec where
  key : String
  /-- The placeholder of the argument in usage lines and messages. -/
  metavar : String
  type : ValueType
  deriving Inhabited, Repr

/-- A command of a group. -/
structure CommandSpec where
  name : String
  help : String
  /-- The options, the help option last. -/
  options : List OptionSpec
  arguments : List ArgumentSpec := []
  deriving Inhabited, Repr

/-- A group of commands. -/
structure GroupSpec where
  help : String
  /-- The options of the group itself, the help option last. -/
  options : List OptionSpec
  commands : List CommandSpec
  deriving Inhabited, Repr

/-- The help option. -/
def helpOption : OptionSpec :=
  { key := "help", names := ["--help"], kind := .help, help := "Show this message and exit." }

/-- Whether an option name is short: `-` and one character. -/
def isShortName (name : String) : Bool :=
  match name.toList with
  | ['-', c] => c != '-'
  | _ => false

namespace OptionSpec

/-- All names of an option: those that turn it on, then those that turn it off. -/
def allNames (o : OptionSpec) : List String :=
  match o.kind with
  | .switch off => o.names ++ off
  | _ => o.names

/-- Whether an option takes a value. -/
def takesValue (o : OptionSpec) : Bool :=
  match o.kind with
  | .value _ => true
  | _ => false

/-- The setting a name of a flag, switch or help option gives. -/
def setting (o : OptionSpec) (name : String) : Bool :=
  match o.kind with
  | .switch off => !off.contains name
  | _ => true

/-- How messages about an option name it: each declared name, quoted. -/
def hint (o : OptionSpec) : String :=
  " / ".intercalate (o.names.map fun n => "'" ++ n ++ "'")

end OptionSpec

/-- The option that a name calls. -/
def findOption (options : List OptionSpec) (name : String) : Option OptionSpec :=
  options.find? (·.allNames.contains name)

/-- The long names of a list of options, in order. -/
def longNames (options : List OptionSpec) : List String :=
  (options.flatMap OptionSpec.allNames).filter (!isShortName ·)

end Manuscript.Command
