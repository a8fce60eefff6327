import Manuscript.Data.Value
import Manuscript.Document.Node

/-!
# Source files

A source file carries a document through the compiler: its text, its path when it has one,
free-form data shared with transforms (front matter among it), and the diagnostics collected
while it is processed.

A diagnostic is written `severity[:line]: reason`.
-/

namespace Manuscript

/-- How serious a diagnostic is. -/
inductive Severity where
  | info
  | warning
  | error
  deriving Inhabited, Repr, DecidableEq

namespace Severity

/-- The name of a severity. -/
def name : Severity → String
  | .info => "info"
  | .warning => "warning"
  | .error => "error"

/-- The severity of a name. -/
def ofName? : String → Option Severity
  | "info" => some .info
  | "warning" => some .warning
  | "error" => some .error
  | _ => none

end Severity

/-- A message attached to a file while it is processed. -/
structure Diagnostic where
  reason : String
  severity : Severity := .warning
  line : Option Int := none
  source : Option String := none
  deriving Inhabited, Repr

namespace Diagnostic

/-- The text of a diagnostic: its severity, its line when known, and its reason. -/
def text (d : Diagnostic) : String :=
  d.severity.name ++ (match d.line with | some l => ":" ++ toString l | none => "") ++ ": " ++
    d.reason

/-- A diagnostic located at a node when the node has a position. -/
def at? (reason : String) (node : Option Node) (severity : Severity) (source : Option String) :
    Diagnostic :=
  { reason, severity, source,
    line := node >>= fun n => n.position.map (·.startLine) }

end Diagnostic

/-- A document on its way through the compiler. -/
structure SourceFile where
  value : String
  path : Option String := none
  data : List (String × Value) := []
  messages : List Diagnostic := []
  deriving Inhabited, Repr

namespace SourceFile

/-- The value of a data key. -/
def datum? (f : SourceFile) (key : String) : Option Value :=
  (f.data.find? (·.1 == key)).map (·.2)

/-- Attaches a diagnostic. -/
def message (f : SourceFile) (d : Diagnostic) : SourceFile :=
  { f with messages := f.messages ++ [d] }

end SourceFile

end Manuscript
