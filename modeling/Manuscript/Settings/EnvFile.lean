import Manuscript.Text.Blank

/-!
# Environment files

An environment file assigns variables, one binding a line:

```
# comment
export PORT=8000
NAME='single quoted'
GREETING="double\tquoted"
URL=http://${HOST:-localhost}/ # trailing comment
```

A binding is an optional `export `, a key, and optionally `=` and a value. A key is a run of
characters other than `=`, `#` and blanks, or any text in single quotes. A value is

* in single quotes, where `\\` and `\'` are escapes;
* in double quotes, where a backslash escapes `\`, `'`, `"` and the letters `abfnrtv`;
* or bare, up to the end of the line, with a comment (blanks and then `#`) and trailing blanks
  cut off.

A quoted value may span lines; it ends at the first quote that no backslash escapes, or, when
there is none, at the quote of the last escaped one. After the value only blanks and a comment
may follow on its line. A line that does not have this form is skipped whole; so is a comment
line. A key without `=` has no value.

A byte order mark that leads the file is no part of it.

In values, `${NAME}` stands for the variable `NAME`, and `${NAME:-default}` for it or, when it is
unset, for `default`: variables bound earlier in the file win over the environment, and an
unset variable without a default is empty.
-/

namespace Manuscript.EnvFile

open Manuscript.Text

/-- Whether a character is blank but no line break. -/
def isInlineBlank (c : Char) : Bool := isBlank c && c != '\r' && c != '\n'

/-- Drops a line break at the head, or accepts the end of the text. -/
def endOfLine? : List Char → Option (List Char)
  | [] => some []
  | '\r' :: '\n' :: rest => some rest
  | '\n' :: rest => some rest
  | '\r' :: rest => some rest
  | _ => none

/-- Drops the rest of a line and its line break. -/
def skipLine (cs : List Char) : List Char :=
  match cs.dropWhile (fun c => c != '\r' && c != '\n') with
  | '\r' :: rest => rest
  | '\n' :: rest => rest
  | rest => rest

/-- The body of a quoted value after its opening quote `q`, and the text after its closing
quote. -/
def quotedRun (q : Char) : List Char → Option (List Char × List Char)
  | [] => none
  | [c] => if c == q then some ([], []) else none
  | c :: d :: after =>
    if c == q then some ([], d :: after)
    else if c == '\\' && d == q then
      match quotedRun q after with
      | some (body, tail) => some (c :: d :: body, tail)
      | none => some ([c], after)
    else (quotedRun q (d :: after)).map fun (body, tail) => (c :: body, tail)

/-- The character a backslash escape of a double-quoted value stands for. -/
def escapeOf? : Char → Option Char
  | '\\' => some '\\'
  | '\'' => some '\''
  | '"' => some '"'
  | 'a' => some '\x07'
  | 'b' => some '\x08'
  | 'f' => some '\x0c'
  | 'n' => some '\n'
  | 'r' => some '\r'
  | 't' => some '\t'
  | 'v' => some '\x0b'
  | _ => none

/-- Replaces the backslash escapes of a quoted value; `double` tells the kind of quotes. -/
def unescape (double : Bool) : List Char → List Char
  | '\\' :: c :: rest =>
    let e := if double then escapeOf? c
      else if c == '\\' || c == '\'' then some c else none
    match e with
    | some d => d :: unescape double rest
    | none => '\\' :: unescape double (c :: rest)
  | c :: rest => c :: unescape double rest
  | [] => []

/-- A bare value cut before its comment: the first run of blanks followed by `#`. -/
def cutComment : List Char → List Char
  | [] => []
  | c :: rest =>
    if isBlank c && (rest.dropWhile isBlank).head? == some '#' then []
    else c :: cutComment rest

/-- A bare value: the rest of its line without comment and trailing blanks, and the text from
the line break on. -/
def bareValue (cs : List Char) : String × List Char :=
  let line := cs.takeWhile fun c => c != '\r' && c != '\n'
  let rest := cs.dropWhile fun c => c != '\r' && c != '\n'
  (String.ofList (trimListRightBy isBlank (cutComment line)), rest)

/-- The value after `=` and the text after it. -/
def value? (cs : List Char) : Option (String × List Char) :=
  match cs with
  | '\'' :: rest => (quotedRun '\'' rest).map fun (body, tail) =>
    (String.ofList (unescape false body), tail)
  | '"' :: rest => (quotedRun '"' rest).map fun (body, tail) =>
    (String.ofList (unescape true body), tail)
  | [] | '\r' :: _ | '\n' :: _ => some ("", cs)
  | _ => some (bareValue cs)

/-- The key of a binding and the text after it; `none` for a comment line. -/
def key? (cs : List Char) : Option (Option String × List Char) :=
  match cs with
  | '#' :: _ => some (none, cs)
  | '\'' :: rest =>
    let body := rest.takeWhile (· != '\'')
    match rest.dropWhile (· != '\'') with
    | '\'' :: after => if body.isEmpty then none else some (some (String.ofList body), after)
    | _ => none
  | _ =>
    let body := cs.takeWhile fun c => c != '=' && c != '#' && !isBlank c
    if body.isEmpty then none else some (some (String.ofList body), cs.drop body.length)

/-- Drops a leading `export` followed by blanks. -/
def dropExport (cs : List Char) : List Char :=
  match cs with
  | 'e' :: 'x' :: 'p' :: 'o' :: 'r' :: 't' :: c :: rest =>
    if isInlineBlank c then rest.dropWhile isInlineBlank else cs
  | _ => cs

/-- Drops a comment: blanks, `#` and the rest of the line; or nothing when none follows. -/
def dropComment (cs : List Char) : List Char :=
  match cs.dropWhile isInlineBlank with
  | '#' :: rest => rest.dropWhile fun c => c != '\r' && c != '\n'
  | _ => cs

/-- One binding at the head of a text without leading blanks: the key and value it binds, if
any, and the text after it. A line that does not have the form of a binding fails with the text
from where reading stopped. -/
def binding? (cs : List Char) : Except (List Char) (Option (String × Option String) × List Char) := do
  let cs := dropExport cs
  let some (key, cs) := key? cs | throw cs
  let cs := cs.dropWhile isInlineBlank
  let (val, cs) ← match cs with
    | '=' :: rest =>
      let rest := rest.dropWhile isInlineBlank
      match value? rest with
      | some (v, r) => pure (some v, r)
      | none => throw rest
    | _ => pure (none, cs)
  let cs := dropComment cs
  let some cs := endOfLine? (cs.dropWhile isInlineBlank) | throw cs
  return (key.map (·, val), cs)

/-- The bindings of a text, in order; `fuel` bounds the number of lines read. -/
def bindingsOf : Nat → List Char → List (String × Option String)
  | 0, _ => []
  | fuel + 1, cs =>
    match cs.dropWhile isBlank with
    | [] => []
    | cs =>
      match binding? cs with
      | .ok (b, rest) => b.toList ++ bindingsOf fuel rest
      | .error stop => bindingsOf fuel (skipLine stop)

/-- Expands the `${NAME}` and `${NAME:-default}` references of a value. -/
def expand (lookup : String → Option String) : List Char → Nat → List Char
  | cs, 0 => cs
  | [], _ + 1 => []
  | '$' :: '{' :: rest, fuel + 1 =>
    let name := rest.takeWhile fun c => c != '}' && c != ':'
    let after := rest.drop name.length
    let close (dflt : List Char) (tail : List Char) : List Char :=
      ((lookup (String.ofList name)).getD (String.ofList dflt)).toList ++ expand lookup tail fuel
    match after with
    | '}' :: tail => close [] tail
    | ':' :: '-' :: more =>
      let dflt := more.takeWhile (· != '}')
      match more.drop dflt.length with
      | '}' :: tail => close dflt tail
      | _ => '$' :: expand lookup ('{' :: rest) fuel
    | _ => '$' :: expand lookup ('{' :: rest) fuel
  | c :: rest, fuel + 1 => c :: expand lookup rest fuel

/-- Binds a variable: in place when it is bound already, else after the others. -/
def bind (vars : List (String × Option String)) (k : String) (v : Option String) :
    List (String × Option String) :=
  if vars.any (·.1 == k) then vars.map fun (k', v') => if k' == k then (k', v) else (k', v')
  else vars ++ [(k, v)]

/-- The variables an environment file sets, in the order they are first bound, each with its
last value; references are expanded against the variables bound before and then `env`. -/
def parse (env : List (String × String)) (text : String) : List (String × Option String) :=
  let cs := match text.toList with
    | '\ufeff' :: rest => rest
    | cs => cs
  (bindingsOf (cs.length + 1) cs).foldl (fun done (k, v) =>
    let lookup (name : String) : Option String :=
      match done.find? (·.1 == name) with
      | some (_, found) => some (found.getD "")
      | none => (env.find? (·.1 == name)).map (·.2)
    bind done k (v.map fun s => String.ofList (expand lookup s.toList (s.length + 1)))) []

end Manuscript.EnvFile
