import Manuscript.Command.Help
import Manuscript.Text.Similarity
import Manuscript.Text.Quoted
import Manuscript.Text.WordChar
import Manuscript.Decimal.Read
import Manuscript.Data.Value
import Manuscript.Host.Basic
import Manuscript.Error

/-!
# Reading command lines

A command line is read in two passes. The first pass sorts its words into options and positional
words: a word that starts with `-` (other than `-` itself) is an option, `--` ends the options,
and for a group the first positional word ends them too. A long option may carry its value after
`=`; a word of short names (`-xo`) sets each flag it names, and a short option that takes a value
takes the rest of the word, or else the next word. An option given twice keeps its last value.

The second pass checks the values: the help option first, then the options in the order they
were first given, then the positional arguments, and last that no positional word is left over.
A long name that no option has is reported with the option names most like it.

A misused command line is reported with the usage line of the command, a hint at its help
option, and the error; a missing or unwanted option value only with the error. A group called
without any word shows its help page instead.
-/

namespace Manuscript.Command

/-- A value as the command line gives it, before it is checked. -/
inductive Raw where
  | word (s : String)
  | setting (b : Bool)
  deriving Inhabited, Repr, DecidableEq

/-- A checked value. -/
inductive Given where
  | text (s : String)
  | number (n : Int)
  | flag (b : Bool)
  deriving Inhabited, Repr, DecidableEq

/-- What the first pass found: the options' values by key, the keys in the order first given,
and the positional words. -/
structure Reading where
  values : List (String × Raw) := []
  order : List String := []
  positional : List String := []
  deriving Inhabited, Repr

/-- Records the value of an option. -/
def Reading.record (r : Reading) (key : String) (v : Raw) : Reading :=
  { r with values := putEntry r.values key v,
           order := if r.order.contains key then r.order else r.order ++ [key] }

/-- A misuse of the command line. -/
inductive Misuse where
  | noSuchOption (name : String) (suggestions : List String)
  | needsValue (name : String)
  | takesNoValue (name : String)
  | invalidValue (hint message : String)
  | missingArgument (metavar : String)
  | extraArguments (words : List String)
  | noSuchCommand (name : String) (suggestions : List String)
  | missingCommand
  deriving Inhabited, Repr

/-- The suggestions after a name that is not known, sorted: none, one, or a choice. -/
def suggestionText (suggestions : List String) : String :=
  match (suggestions.mergeSort fun a b => !(b < a)).map Text.quote with
  | [] => ""
  | [s] => " Did you mean " ++ s ++ "?"
  | ss => " (Did you mean one of: " ++ ", ".intercalate ss ++ "?)"

/-- The message of a misuse. -/
def Misuse.message : Misuse → String
  | .noSuchOption name ss => "No such option " ++ Text.quote name ++ "." ++ suggestionText ss
  | .needsValue name => "Option " ++ Text.quote name ++ " requires an argument."
  | .takesNoValue name => "Option " ++ Text.quote name ++ " does not take a value."
  | .invalidValue hint message => "Invalid value for " ++ hint ++ ": " ++ message
  | .missingArgument metavar => "Missing argument '" ++ metavar ++ "'."
  | .extraArguments [w] => "Got unexpected extra argument (" ++ w ++ ")"
  | .extraArguments ws => "Got unexpected extra arguments (" ++ " ".intercalate ws ++ ")"
  | .noSuchCommand name ss => "No such command " ++ Text.quote name ++ "." ++ suggestionText ss
  | .missingCommand => "Missing command."

/-- Whether a misuse is reported with the usage of the command: all are but those of an option's
value, which the reading of option words finds before it knows the command. -/
def Misuse.showsUsage : Misuse → Bool
  | .needsValue _ | .takesNoValue _ => false
  | _ => true

/-- The option a long name calls. -/
def longOption (options : List OptionSpec) (name : String) : Option OptionSpec :=
  if isShortName name then none else findOption options name

/-- The option a short name calls. -/
def shortOption (options : List OptionSpec) (name : String) : Option OptionSpec :=
  if isShortName name then findOption options name else none

/-- Takes the value of an option from the next word. -/
def takeValue (o : OptionSpec) (name : String) (r : Reading) :
    List String → Except Misuse (Reading × List String)
  | [] => .error (.needsValue name)
  | v :: rest => .ok (r.record o.key (.word v), rest)

/-- Reads the short names of an option word after its `-`. -/
def readShort (options : List OptionSpec) :
    List Char → List String → Reading → Except Misuse (Reading × List String)
  | [], rest, r => .ok (r, rest)
  | c :: more, rest, r =>
    let name := String.ofList ['-', c]
    match shortOption options name with
    | none => .error (.noSuchOption name [])
    | some o =>
      if o.takesValue then
        takeValue o name r (if more.isEmpty then rest else String.ofList more :: rest)
      else readShort options more rest (r.record o.key (.setting (o.setting name)))

/-- Reads one option word, taking its value from the following words when it needs one. A word
that names no long option is read as short names unless it starts with `--`. -/
def readOption (options : List OptionSpec) (arg : String) (rest : List String) (r : Reading) :
    Except Misuse (Reading × List String) :=
  let (name, attached) := match arg.splitOn "=" with
    | n :: v :: more => (n, some ("=".intercalate (v :: more)))
    | _ => (arg, none)
  match longOption options name with
  | some o =>
    if o.takesValue then takeValue o name r (match attached with | some v => v :: rest | none => rest)
    else if attached.isSome then .error (.takesNoValue name)
    else .ok (r.record o.key (.setting (o.setting name)), rest)
  | none =>
    if arg.startsWith "--" then
      .error (.noSuchOption name (Text.closeMatches name (longNames options) 3))
    else readShort options (arg.toList.drop 1) rest r

/-- The first pass over the words of a command line. Positional words are collected; when
`interspersed` is false the first one ends the options. Returns the reading and the words not
looked at. `fuel` bounds the words read: each step reads at least one. -/
def readOptions (options : List OptionSpec) (interspersed : Bool) :
    Nat → List String → Reading → Except Misuse (Reading × List String)
  | 0, rest, r => .ok (r, rest)
  | _ + 1, [], r => .ok (r, [])
  | fuel + 1, arg :: rest, r =>
    if arg == "--" then .ok (r, rest)
    else if arg.startsWith "-" && arg.length > 1 then
      match readOption options arg rest r with
      | .error e => .error e
      | .ok (r, rest) => readOptions options interspersed fuel rest r
    else if interspersed then
      readOptions options interspersed fuel rest { r with positional := r.positional ++ [arg] }
    else .ok (r, arg :: rest)

/-- Sorts the words of a command line into a reading: its positional words are those collected
and those after the options. -/
def readLine (options : List OptionSpec) (interspersed : Bool) (args : List String) :
    Except Misuse Reading :=
  match readOptions options interspersed (args.length + 1) args {} with
  | .error e => .error e
  | .ok (r, rest) => .ok { r with positional := r.positional ++ rest }

/-- Whether a reading asks for the help page. -/
def Reading.asksHelp (r : Reading) (options : List OptionSpec) : Bool :=
  options.any fun o => o.kind == .help && (r.values.lookup o.key).isSome

/-- How running a command line stops before its command runs. -/
inductive Stop where
  | misuse (m : Misuse)
  | crash (e : Error)
  deriving Inhabited

variable {m : Type → Type} [Monad m] [Host m]

/-- Checks a value of a type; `hint` names the option or argument in messages. A path is checked
on the host: it must not name a directory and, when `mustExist`, must name something. -/
def checkValue (hint s : String) : ValueType → m (Except Stop Given)
  | .text => return .ok (.text s)
  | .integer =>
    match Decimal.readInt? s 10 with
    | some n => return .ok (.number n)
    | none => return .error (.misuse (.invalidValue hint (Text.quote s ++ " is not a valid integer.")))
  | .choice words =>
    if words.contains s then return .ok (.text s)
    else return .error (.misuse (.invalidValue hint (Text.quote s ++ " is not one of " ++
      ", ".intercalate (words.map Text.quote) ++ ".")))
  | .file mustExist => do
    if s.contains '\x00' then return .error (.crash (.badValue "embedded null character in path"))
    let kind ← if s.isEmpty then pure .missing else Host.entryKind s
    let kind := if s.endsWith "/" && kind == .file then .missing else kind
    match kind with
    | .missing =>
      if mustExist then
        return .error (.misuse (.invalidValue hint ("File " ++ Text.quote s ++ " does not exist.")))
      else return .ok (.text s)
    | .directory =>
      return .error (.misuse (.invalidValue hint ("File " ++ Text.quote s ++ " is a directory.")))
    | .file => return .ok (.text s)

/-- Checks the options of a reading, in the order they were first given. -/
def checkOptions (options : List OptionSpec) (r : Reading) :
    List String → m (Except Stop (List (String × Given)))
  | [] => return .ok []
  | key :: keys => do
    let here : Except Stop (Option (String × Given)) ← match options.find? (·.key == key),
        r.values.lookup key with
      | some o, some (.word s) =>
        match o.kind with
        | .value t => do pure ((← checkValue o.hint s t).map fun g => some (key, g))
        | _ => pure (.ok none)
      | some _, some (.setting b) => pure (.ok (some (key, .flag b)))
      | _, _ => pure (.ok none)
    match here with
    | .error e => return .error e
    | .ok v =>
      match ← checkOptions options r keys with
      | .error e => return .error e
      | .ok vs => return .ok (v.toList ++ vs)

/-- Checks the positional arguments of a command against its positional words. -/
def checkArguments : List ArgumentSpec → List String → m (Except Stop (List (String × Given)))
  | [], _ => return .ok []
  | a :: more, words => do
    match words with
    | [] => return .error (.misuse (.missingArgument a.metavar))
    | w :: ws =>
      match ← checkValue ("'" ++ a.metavar ++ "'") w a.type with
      | .error e => return .error e
      | .ok g =>
        match ← checkArguments more ws with
        | .error e => return .error e
        | .ok vs => return .ok ((a.key, g) :: vs)

/-- What a command line asks of a command: its help page, or a run with checked values. -/
inductive Request where
  | help
  | run (values : List (String × Given))
  deriving Inhabited

/-- The second pass for a command: the help option, the options, the arguments, and no words
left over. -/
def settle (c : CommandSpec) (r : Reading) : m (Except Stop Request) := do
  if r.asksHelp c.options then return .ok .help
  match ← checkOptions c.options r r.order with
  | .error e => return .error e
  | .ok opts =>
    match ← checkArguments c.arguments r.positional with
    | .error e => return .error e
    | .ok args =>
      match r.positional.drop c.arguments.length with
      | [] => return .ok (.run (opts ++ args))
      | extra => return .error (.misuse (.extraArguments extra))

/-- Where a command line leads. -/
inductive Invocation where
  /-- Show a help page and succeed. -/
  | help (page : String)
  /-- Report a misuse on standard error and stop with status 2. -/
  | misuse (text : String)
  /-- A failure nothing catches. -/
  | crash (e : Error)
  /-- Run a command with its checked values. -/
  | call (command : String) (values : List (String × Given))
  deriving Inhabited

/-- The report of a misuse of the command at `path`. -/
def misuseReport (path pieces : String) (e : Misuse) : String :=
  let usage := if e.showsUsage then
      usageLine path pieces ++ "\n" ++ "Try '" ++ path ++ " --help' for help.\n" ++ "\n"
    else ""
  usage ++ "Error: " ++ e.message ++ "\n"

/-- Reads the words of a command line for a command at `path`. -/
def invokeCommand (path : String) (c : CommandSpec) (args : List String) : m Invocation := do
  match readLine c.options true args with
  | .error e => return .misuse (misuseReport path c.pieces e)
  | .ok r =>
    match ← settle c r with
    | .error (.misuse e) => return .misuse (misuseReport path c.pieces e)
    | .error (.crash e) => return .crash e
    | .ok .help => return .help (c.helpPage path)
    | .ok (.run values) => return .call c.name values

/-- Whether a word reads as an option name: it starts with a character that is neither a letter
nor a digit, in the broad sense of the Unicode standard. -/
def looksLikeOption (word : String) : Bool :=
  match word.toList with
  | c :: _ => !(Text.isWordChar c && c != '_')
  | [] => false

/-- Reads the words of a command line for the group `prog`: its options, then a command and its
words. Without any word the group shows its help page as a misuse. A word that names no command
is reported as such, with the command names most like it, after it and the words following it
are read as the group's options when it looks like an option itself. -/
def invoke (prog : String) (g : GroupSpec) (args : List String) : m Invocation := do
  let groupMisuse (e : Misuse) : Invocation := .misuse (misuseReport prog groupPieces e)
  if args.isEmpty then return .misuse (g.helpPage prog)
  match readLine g.options false args with
  | .error e => return groupMisuse e
  | .ok r =>
    if r.asksHelp g.options then return .help (g.helpPage prog)
    match r.positional with
    | [] => return groupMisuse .missingCommand
    | name :: more =>
      match g.commands.find? (·.name == name) with
      | some c => invokeCommand (prog ++ " " ++ name) c more
      | none =>
        let unknown := Misuse.noSuchCommand name
          (Text.closeMatches name (g.commands.map (·.name)) 3)
        if looksLikeOption name then
          match readLine g.options false (name :: more) with
          | .error e => return groupMisuse e
          | .ok r =>
            if r.asksHelp g.options then return .help (g.helpPage prog)
            return groupMisuse unknown
        else return groupMisuse unknown

end Manuscript.Command
