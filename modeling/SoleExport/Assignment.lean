/-
  Export assignments.

  An export assignment `export = x`, or its restatement `export default x`,
  designates the variable that a target names.  A target without a name of its
  own gets a fresh one.
-/
import SoleExport.FreshName

namespace SoleExport

/-- What an export assignment designates. -/
inductive Target where
  /-- a variable -/
  | ident (i : Ident)
  /-- the local name of `x as default` -/
  | specifier (s : NamedSpecifier)
  /-- the name of a function or class -/
  | declaration (d : Declaration)
  /-- the identifier an expression consists of -/
  | expr (e : Expr)

/-- The identifier of an export name. -/
def ExportName.ident? : ExportName → Option Ident
  | .ident i => some i
  | .literal _ => none

/-- The identifier a target names. -/
def Target.ident? : Target → Option Ident
  | .ident i => some i
  | .specifier s => s.orig.ident?
  | .declaration d => d.definitionName?
  | .expr e => e.ident?

/-- The two forms of an export assignment. -/
inductive AssignmentForm where
  /-- `export = e` -/
  | equals
  /-- `export default e` -/
  | default
deriving DecidableEq, Repr, Inhabited

/-- An export assignment of a value. -/
def Item.assign (form : AssignmentForm) (span : Span) (value : Expr) : Item :=
  match form with
  | .equals => .exportEquals span value
  | .default => .defaultExpr span value

/-- An export assignment that designates a target. -/
def Target.assign (target : Target) (form : AssignmentForm) (span : Span) (names : FreshNames) :
    Item × FreshNames :=
  match target.ident? with
  | some i => (Item.assign form span (.ident i), names)
  | none =>
    let (i, names) := names.nextIdent span
    (Item.assign form span (.ident i), names)

end SoleExport
