import Manuscript.Command.Spec

/-!
# Help pages

A help page is 78 columns wide. It opens with the usage line, then the help text of the command
indented by two columns, then the options and, for a group, the commands, each as a two-column
list: a term, then its text wrapped in a column of its own. The text column starts two columns
after the longest term, or after column 30 when a term is longer, in which case that term's text
starts on the next line.

Words are filled into lines greedily; a word longer than a whole line is cut. A command's entry
in its group's list shows its help text up to the end of the first sentence, or as many words as
fit followed by `...`.
-/

namespace Manuscript.Command

/-- The width of help pages. -/
def pageWidth : Nat := 78

/-- The widest first column of a two-column list. -/
def termColumn : Nat := 30

/-- A run of spaces. -/
def spaces (n : Nat) : String := String.ofList (List.replicate n ' ')

/-- The words of a text. -/
def words (s : String) : List String :=
  (s.split fun c => c == ' ' || c == '\t' || c == '\n').toList.map (·.toString) |>.filter
    (!·.isEmpty)

/-- Fills words into lines of at most `width` columns, the first line after `first` and the
others after `rest`. A word that does not fit on the line it would end is moved to the next;
one longer than a whole line is cut to fill the line it starts on. `fuel` bounds the steps: the
number of words and characters is enough, since each step places a word or cuts one shorter. -/
def fillLines (width : Nat) (first rest : String) :
    Nat → List String → List String → String → List String
  | 0, _, done, current => (done ++ [current]).filter (!·.isEmpty)
  | _ + 1, [], done, current =>
    if current.isEmpty then done else done ++ [(if done.isEmpty then first else rest) ++ current]
  | fuel + 1, w :: ws, done, current =>
    let indent := if done.isEmpty then first else rest
    let avail := max (width - indent.length) 1
    if current.isEmpty then
      if w.length ≤ avail then fillLines width first rest fuel ws done w
      else
        fillLines width first rest fuel (String.ofList (w.toList.drop avail) :: ws)
          (done ++ [indent ++ String.ofList (w.toList.take avail)]) ""
    else if current.length + 1 + w.length ≤ avail then
      fillLines width first rest fuel ws done (current ++ " " ++ w)
    else if w.length > avail && current.length + 1 < avail then
      let room := avail - current.length - 1
      fillLines width first rest fuel (String.ofList (w.toList.drop room) :: ws)
        (done ++ [indent ++ current ++ " " ++ String.ofList (w.toList.take room)]) ""
    else fillLines width first rest fuel (w :: ws) (done ++ [indent ++ current]) ""

/-- The lines of a text filled to `width` columns after the given indents. -/
def fill (width : Nat) (first rest text : String) : List String :=
  let ws := words text
  fillLines width first rest (ws.length + text.length + 1) ws [] ""

/-- The usage line of a command: `Usage:`, its path and its pieces, wrapped under the pieces. -/
def usageLine (path pieces : String) : String :=
  let lead := "Usage: " ++ path ++ " "
  if pageWidth ≥ lead.length + 20 then
    "\n".intercalate (fill pageWidth lead (spaces lead.length) pieces)
  else
    let indent := spaces (lead.length - path.length - 1 + 4)
    lead ++ "\n" ++ "\n".intercalate (fill pageWidth indent indent pieces)

/-- A two-column list indented by two columns. -/
def twoColumns (rows : List (String × String)) : String :=
  let widest := (rows.map (·.1.length)).foldl max 0
  let column := min widest termColumn + 2
  let textWidth := max (pageWidth - column - 2) 10
  String.join (rows.map fun (term, text) =>
    let head := "  " ++ term
    if text.isEmpty then head ++ "\n"
    else
      let start := if term.length ≤ column - 2 then head ++ spaces (column - term.length)
        else head ++ "\n" ++ spaces (column + 2)
      match fill textWidth "" "" text with
      | [] => start ++ "\n"
      | l :: ls => start ++ l ++ "\n" ++ String.join (ls.map fun l => spaces (column + 2) ++ l ++ "\n"))

/-- A titled section of a help page. -/
def helpSection (title : String) (rows : List (String × String)) : String :=
  if rows.isEmpty then "" else "\n" ++ title ++ ":\n" ++ twoColumns rows

/-- The help text of a command as it opens its help page: indented and wrapped. -/
def helpParagraph (help : String) : String :=
  if help.isEmpty then "" else "\n" ++ String.join ((fill pageWidth "  " "  " help).map (· ++ "\n"))

/-- The entry of an option in a help page: its names with the placeholder of its value, and its
help text. Short names come first. -/
def OptionSpec.entry (o : OptionSpec) : String × String :=
  let withValue (names : List String) : String :=
    let sorted := names.filter isShortName ++ names.filter (!isShortName ·)
    let joined := ", ".intercalate sorted
    match o.kind with
    | .value t => joined ++ " " ++ t.metavar
    | _ => joined
  match o.kind with
  | .switch off => (withValue o.names ++ " / " ++ withValue off, o.help)
  | _ => (withValue o.names, o.help)

/-- The usage pieces of a command: the options, then each argument. -/
def CommandSpec.pieces (c : CommandSpec) : String :=
  " ".intercalate ("[OPTIONS]" :: c.arguments.map (·.metavar))

/-- The usage pieces of a group. -/
def groupPieces : String := "[OPTIONS] COMMAND [ARGS]..."

/-- Where the entry of a help text in a list is cut: after the first `n` words, which end a
sentence, or with `...` at the word `i`, the words up to it taking `total` columns. -/
inductive HelpCut where
  | sentence (n : Nat)
  | shorten (i total : Nat)
  deriving Inhabited, Repr

/-- Finds where to cut words, starting at the word `i` with `total` columns before it. -/
def findCut (limit : Nat) : List String → Nat → Nat → Option HelpCut
  | [], _, _ => none
  | w :: rest, i, total =>
    let total := total + w.length + (if i > 0 then 1 else 0)
    if total > limit then some (.shorten i total)
    else if w.endsWith "." then some (.sentence (i + 1))
    else if total == limit && !rest.isEmpty then some (.shorten i total)
    else findCut limit rest (i + 1) total

/-- The number of words kept before `...`: the words before the `i`-th, dropping the last ones
until they and `...` (counted in `total`) fit. -/
def keptBeforeDots (ws : List String) (limit : Nat) : Nat → Nat → Nat
  | 0, _ => 0
  | i + 1, total =>
    let total := total - ((ws.getD (i + 1) "").length + 1)
    if total ≤ limit then i + 1 else keptBeforeDots ws limit i total

/-- The entry of a help text in a list of `limit` columns: up to the end of its first sentence
when that fits, else as many words as fit followed by `...`. -/
def shortHelp (help : String) (limit : Nat) : String :=
  let ws := words help
  match findCut limit ws 0 0 with
  | none => " ".intercalate ws
  | some (.sentence n) => " ".intercalate (ws.take n)
  | some (.shorten i total) => " ".intercalate (ws.take (keptBeforeDots ws limit i (total + 3))) ++ "..."

/-- The help page of a command at a path. -/
def CommandSpec.helpPage (c : CommandSpec) (path : String) : String :=
  usageLine path c.pieces ++ "\n" ++ helpParagraph c.help ++
    helpSection "Options" (c.options.map OptionSpec.entry)

/-- The help page of a group at a path. -/
def GroupSpec.helpPage (g : GroupSpec) (path : String) : String :=
  let names := (g.commands.map (·.name)).mergeSort fun a b => !(b < a)
  let widest := (names.map String.length).foldl max 0
  let limit := pageWidth - 6 - widest
  let rows := names.filterMap fun n =>
    (g.commands.find? (·.name == n)).map fun c => (n, shortHelp c.help limit)
  usageLine path groupPieces ++ "\n" ++ helpParagraph g.help ++
    helpSection "Options" (g.options.map OptionSpec.entry) ++ helpSection "Commands" rows

end Manuscript.Command
