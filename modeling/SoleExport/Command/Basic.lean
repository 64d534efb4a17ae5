/-
  The commands.

  `transform` converts files, `check` says what would become of a file, and
  `parse` shows its syntax tree.
-/

namespace SoleExport

/-- What a transformation is asked for. -/
structure TransformRequest where
  inputs : List String
  /-- Where to write the result of the only input. -/
  output : Option String
  /-- Where to write the results, under the names of the inputs. -/
  outputDirectory : Option String
  /-- The root files; every input if there are none. -/
  roots : List String
  /-- A file with options. -/
  config : Option String
  keepDefault : Bool
  allowNamed : Bool
deriving DecidableEq, Repr, Inhabited

/-- A command. -/
inductive Command where
  /-- Transform files. -/
  | transform (request : TransformRequest)
  /-- Say what would become of a file. -/
  | check (input : String) (allowNamed : Bool)
  /-- Show the syntax tree of a file, as JSON or in short. -/
  | parse (input : String) (asJson : Bool)
deriving DecidableEq, Repr, Inhabited

/-- A command, and whether to log much. -/
structure Invocation where
  verbose : Bool
  command : Command
deriving DecidableEq, Repr, Inhabited

end SoleExport
