/-
  The log.

  Every decision of the transformation is an event.  An event has a level, a
  message and fields; the same event is one line of the log (`Event.line`).
-/
import SoleExport.Exports

namespace SoleExport

/-- How much an event matters. -/
inductive Level where
  | trace
  | debug
  | warn
deriving DecidableEq, Repr, Inhabited

/-- A decision of the transformation. -/
inductive Event where
  /-- The file is not among the roots. -/
  | notRoot (file : String)
  /-- The file is a script. -/
  | noModule (file : String)
  /-- The surface of the file. -/
  | surface (file : String) (s : Surface)
  /-- `export { x as default }` was converted, next to other entries or not. -/
  | listConverted (hasOthers : Bool)
  /-- `export default function` or `class` was converted, as ambient or not. -/
  | definitionConverted (declare : Bool)
  /-- `export default x` was converted, and kept or not. -/
  | identConverted (keep : Bool)
  /-- `export default e` was converted, and kept or not. -/
  | exprConverted (keep : Bool)
  /-- A default export was reported, yet no item was converted. -/
  | nothingConverted (file : String)
deriving DecidableEq, Repr, Inhabited

/-- The value of a field of an event. -/
inductive FieldValue where
  | text (s : String)
  | flag (b : Bool)
deriving DecidableEq, Repr, Inhabited

/-- A field value as it stands in a log line. -/
def FieldValue.render : FieldValue → String
  | .text s => s
  | .flag true => "true"
  | .flag false => "false"

namespace Event

/-- The level of an event. -/
def level : Event → Level
  | .notRoot _ | .noModule _ | .surface _ _ => .debug
  | .listConverted _ | .definitionConverted _ | .identConverted _ | .exprConverted _ => .trace
  | .nothingConverted _ => .warn

/-- The message of an event. -/
def message : Event → String
  | .notRoot _ => "not a root file, skipping"
  | .noModule _ => "no module symbol, skipping"
  | .surface _ _ => "export surface"
  | .listConverted _ => "rewriting `export \x7b .. as default \x7d`"
  | .definitionConverted _ => "rewriting `export default` declaration"
  | .identConverted _ => "rewriting `export default <ident>`"
  | .exprConverted _ => "rewriting `export default <expr>`"
  | .nothingConverted _ =>
    "module reports a default export but no default export form was found to rewrite"

/-- The fields of an event. -/
def fields : Event → List (String × FieldValue)
  | .notRoot f | .noModule f | .nothingConverted f => [("file", .text f)]
  | .surface f s =>
    [("file", .text f), ("has_default", .flag s.hasDefault), ("has_named", .flag s.hasNamed)]
  | .listConverted b => [("has_other_specifiers", .flag b)]
  | .definitionConverted b => [("declare", .flag b)]
  | .identConverted b | .exprConverted b => [("keep", .flag b)]

end Event

/-- The name of a level, as it starts a log line. -/
def Level.label : Level → String
  | .trace => "TRACE"
  | .debug => "DEBUG"
  | .warn => "WARN"

end SoleExport
