/-
  Running commands.

  A transformation first reads its options and places its outputs; then each
  input is read, converted and delivered before the next one is read.  What has
  been delivered before a failure stays.
-/
import SoleExport.Command.Arguments
import SoleExport.Command.Failure
import SoleExport.Command.Verdict
import SoleExport.Json.Writer
import SoleExport.Options.Reader

namespace SoleExport

/-! ## The log -/

/-- Whether events of a level are logged. -/
def Level.isLogged (verbose : Bool) : Level → Bool
  | .trace => false
  | .debug => verbose
  | .warn => true

/-- A line of the log. -/
def logLine (level : Level) (source message : String) (fields : List (String × FieldValue)) :
    String :=
  level.label ++ " " ++ source ++ ": " ++ message ++
    String.join (fields.map fun f => " " ++ f.1 ++ "=" ++ f.2.render)

/-- The line of an event. -/
def Event.line (e : Event) : String := logLine e.level "ee_transform::driver" e.message e.fields

/-- The line about an output that has been written. -/
def outputLine (path : String) : String := logLine .debug "ee" "wrote output" [("path", .text path)]

namespace Host

variable {m : Type → Type} [Monad m]

/-- A part of a command: it may fail. -/
abbrev Part (m : Type → Type) (α : Type) := ExceptT Failure m α

/-- Use the host, saying what it means if the system refuses. -/
def use {α : Type} (action : m (Except SystemError α)) (failure : SystemError → Failure) :
    Part m α := do
  match ← (action : m _) with
  | .ok a => return a
  | .error e => throw (failure e)

/-- Log the events that matter. -/
def logEvents (host : Host m) (verbose : Bool) : List Event → Part m Unit
  | [] => return
  | e :: es => do
    if e.level.isLogged verbose then host.log e.line
    logEvents host verbose es

/-! ## Transformations -/

/-- Where the result of an input goes. -/
inductive Destination where
  /-- It is shown. -/
  | shown
  /-- It is written to a file. -/
  | file (path : String)
  /-- It is written to a file in the output directory, which is logged. -/
  | placed (path : String)
deriving DecidableEq, Repr, Inhabited

/-- Deliver a result. -/
def deliver (host : Host m) (verbose : Bool) (code : String) : Destination → Part m Unit
  | .shown => host.print code
  | .file path => use (host.write path code) .system
  | .placed path => do
    use (host.write path code) .system
    if Level.debug.isLogged verbose then host.log (outputLine path)

/-- Read, convert and deliver an input. -/
def convertInput (host : Host m) (verbose : Bool) (c : Compilation) (options : Options)
    (input : String) (destination : Destination) : Part m Unit := do
  let source ← use (host.read input) (.unreadableInput input)
  let converted := c.convertText options true input source
  host.logEvents verbose converted.events
  match converted.result with
  | .error e => throw (.text e)
  | .ok code => host.deliver verbose code destination

/-- Convert inputs in turn. -/
def convertInputs (host : Host m) (verbose : Bool) (c : Compilation) (options : Options) :
    List (String × Destination) → Part m Unit
  | [] => return
  | (input, destination) :: rest => do
    host.convertInput verbose c options input destination
    convertInputs host verbose c options rest

/-- The options of a file. -/
def readOptions (host : Host m) (path : String) : Part m Options := do
  let text ← use (host.read path) (.unreadableConfig path)
  match Options.ofText text with
  | .ok options => return options
  | .error fault => throw (.invalidConfig path (fault.message text))

/-- The options of a transformation: those of its file and its switches. -/
def requestedOptions (host : Host m) (r : TransformRequest) : Part m Options := do
  let options ← match r.config with
    | some path => host.readOptions path
    | none => pure {}
  return ⟨options.keepDefault || r.keepDefault, options.allowNamed || r.allowNamed⟩

/-- Where the results of a transformation go.  The output directory is made if it
    is not there. -/
def destinations (host : Host m) (r : TransformRequest) : Part m (List Destination) := do
  match r.output, r.outputDirectory with
  | some path, _ => return r.inputs.map fun _ => .file path
  | none, none => return r.inputs.map fun _ => .shown
  | none, some directory =>
    match outputPaths r.inputs directory with
    | .error e => throw (.outputs e)
    | .ok paths => do
      use (host.createDirectory directory) .system
      return paths.map .placed

/-- Run a transformation. -/
def transform (host : Host m) (verbose : Bool) (r : TransformRequest) : Part m Unit := do
  if r.output.isSome && 1 < r.inputs.length then throw .severalInputs
  let options ← host.requestedOptions r
  let roots := if r.roots.isEmpty then r.inputs else r.roots
  let places ← host.destinations r
  host.convertInputs verbose ⟨Roots.ofList roots, Oracle.syntactic⟩ options (r.inputs.zip places)

/-! ## Other commands -/

/-- Read and parse a file. -/
def parseInput (host : Host m) (input : String) : Part m Parsed := do
  let source ← use (host.read input) .system
  match parse input source with
  | .error e => throw (.text (.unreadable e))
  | .ok p => return p

/-- Say what would become of a file. -/
def check (host : Host m) (input : String) (allowNamed : Bool) : Part m Unit := do
  let p ← host.parseInput input
  let verdict := (SourceFile.mk input p.module).verdict allowNamed
  match verdict with
  | .refused => throw (.refused (verdict.message input))
  | _ => host.report (verdict.message input)

/-- A line about an item: its kind and its place. -/
def itemLine (i : Item) : String :=
  i.toTree.kind ++ " " ++ toString i.span.start ++ ".." ++ toString i.span.stop ++ "\n"

/-- Show the syntax tree of a file. -/
def showTree (host : Host m) (input : String) (asJson : Bool) : Part m Unit := do
  let p ← host.parseInput input
  if asJson then host.print (p.module.toTree.toJson ++ "\n")
  else host.print (String.join (p.module.body.map itemLine))

/-- Run a command. -/
def perform (host : Host m) (i : Invocation) : Part m Unit :=
  match i.command with
  | .transform r => host.transform i.verbose r
  | .check input allowNamed => host.check input allowNamed
  | .parse input asJson => host.showTree input asJson

/-- How a run ends. -/
inductive Outcome where
  /-- All went well. -/
  | done
  /-- Help was asked for. -/
  | helped
  /-- The command failed. -/
  | failed (f : Failure)
  /-- The command line is wrong. -/
  | misused
deriving DecidableEq, Repr, Inhabited

/-- The number that tells others how a run ended. -/
def Outcome.code : Outcome → UInt32
  | .done | .helped => 0
  | .failed _ => 1
  | .misused => 2

/-- Run a command line. -/
def run (host : Host m) (words : List String) : m Outcome := do
  match Invocation.ofArguments words with
  | .error .help => return .helped
  | .error .misuse => return .misused
  | .ok i =>
    match ← (host.perform i).run with
    | .ok () => return .done
    | .error f => return .failed f

end Host

end SoleExport
