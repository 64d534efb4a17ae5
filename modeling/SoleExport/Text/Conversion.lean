/-
  The conversion of texts.

  A text is read, transformed and printed.  Its comments can be left out.
-/
import SoleExport.Layout.Module
import SoleExport.Parse
import SoleExport.Transform

namespace SoleExport

/-- Why a text cannot be converted. -/
inductive TextError where
  /-- It is not in the grammar. -/
  | unreadable (e : ParseError)
  /-- Its module cannot be transformed. -/
  | refused (e : TransformError)
deriving DecidableEq, Repr, Inhabited

/-- The wording of an error. -/
def TextError.message : TextError → String
  | .unreadable e => e.message
  | .refused e => e.message

namespace Compilation

/-- Convert a text that has been read. -/
def convertParsed (c : Compilation) (options : Options) (name : String) (p : Parsed) :
    Logged (Except TransformError String) :=
  let applied := c.apply options ⟨name, p.module⟩
  ⟨applied.result.map fun f => f.module.print p.comments, applied.events⟩

/-- Convert the text of the file with the given name. -/
def convertText (c : Compilation) (options : Options) (keepComments : Bool) (name source : String) :
    Logged (Except TextError String) :=
  match parse name source with
  | .error e => ⟨.error (.unreadable e), []⟩
  | .ok p =>
    let comments := if keepComments then p.comments else Comments.empty
    let converted := c.convertParsed options name { p with comments }
    ⟨converted.result.mapError .refused, converted.events⟩

/-- Convert a text and then the result of that, `n` times in all, up to the first
    error. -/
def convertTimes (c : Compilation) (options : Options) (keepComments : Bool) (name : String) :
    Nat → String → List (Logged (Except TextError String))
  | 0, _ => []
  | n + 1, source =>
    let converted := c.convertText options keepComments name source
    match converted.result with
    | .error _ => [converted]
    | .ok code => converted :: convertTimes c options keepComments name n code

end Compilation

end SoleExport
