/-
  Reading a command line.

  Each command takes switches, settings with a value, and inputs, in any order.
  A setting is written `--name value` or `--name=value`, and after `--` every
  word is an input.  A switch and most settings may be given only once.
-/
import SoleExport.Command.Basic

namespace SoleExport.Arguments

/-! ## Words -/

/-- The switches. -/
inductive Switch where
  | verbose
  | keepDefault
  | allowNamed
  | json
deriving DecidableEq, Repr, Inhabited

/-- The settings. -/
inductive Setting where
  | output
  | outputDirectory
  | root
  | config
deriving DecidableEq, Repr, Inhabited

/-- The long names that a command knows, and how many inputs it takes. -/
structure Form where
  switches : List (String × Switch)
  settings : List (String × Setting)
  /-- Whether the setting `-o` is known. -/
  hasOutput : Bool
  /-- Whether more than one input is taken. -/
  manyInputs : Bool
deriving DecidableEq, Repr, Inhabited

/-- The form of a transformation. -/
def transformForm : Form where
  switches :=
    [("verbose", .verbose), ("keep-original-export", .keepDefault),
      ("allow-named-exports", .allowNamed)]
  settings :=
    [("output", .output), ("out-dir", .outputDirectory), ("root", .root), ("config", .config)]
  hasOutput := true
  manyInputs := true

/-- The form of a check. -/
def checkForm : Form where
  switches := [("verbose", .verbose), ("allow-named-exports", .allowNamed)]
  settings := []
  hasOutput := false
  manyInputs := false

/-- The form of showing a tree. -/
def parseForm : Form where
  switches := [("verbose", .verbose), ("ast", .json)]
  settings := []
  hasOutput := false
  manyInputs := false

/-- Why no command is run. -/
inductive Stop where
  /-- The command line asks for help. -/
  | help
  /-- The command line is wrong. -/
  | misuse
deriving DecidableEq, Repr, Inhabited

/-- The kinds of words on a command line. -/
inductive Word where
  | plain
  /-- `--name` or `--name=value` -/
  | long (name : String) (value : Option String)
  /-- `-abc` -/
  | short (letters : List Char)
deriving DecidableEq, Repr, Inhabited

/-- The kind of a word. -/
def Word.ofString (s : String) : Word :=
  match s.toList with
  | '-' :: '-' :: cs =>
    let name := cs.takeWhile (· != '=')
    .long (String.ofList name)
      (if name.length < cs.length then some (String.ofList (cs.drop (name.length + 1))) else none)
  | '-' :: c :: cs => .short (c :: cs)
  | _ => .plain

/-! ## Collecting -/

/-- What has been read of a command line. -/
structure Collected where
  switches : List Switch := []
  settings : List (Setting × String) := []
  inputs : List String := []
deriving DecidableEq, Repr, Inhabited

namespace Collected

/-- The first value of a setting. -/
def value? (c : Collected) (s : Setting) : Option String := c.settings.lookup s

/-- All values of a setting. -/
def values (c : Collected) (s : Setting) : List String :=
  (c.settings.filter fun v => v.1 = s).map Prod.snd

/-- Turn a switch on; it must be off. -/
def turnOn (c : Collected) (s : Switch) : Except Stop Collected :=
  if c.switches.contains s then .error .misuse else .ok { c with switches := c.switches ++ [s] }

/-- Give a setting a value; it must have none, unless it is a root. -/
def give (c : Collected) (s : Setting) (value : String) : Except Stop Collected :=
  if value.isEmpty || (s != .root && (c.value? s).isSome) then .error .misuse
  else .ok { c with settings := c.settings ++ [(s, value)] }

/-- Add an input. -/
def addInput (form : Form) (c : Collected) (input : String) : Except Stop Collected :=
  if input.isEmpty || (!form.manyInputs && !c.inputs.isEmpty) then .error .misuse
  else .ok { c with inputs := c.inputs ++ [input] }

end Collected

/-- Turn on the switches of a word of letters; `-o` ends them, with the rest of
    the word as its value if there is one. -/
def cluster (form : Form) :
    Collected → List Char → Except Stop (Collected × Option (Setting × Option String))
  | c, [] => .ok (c, none)
  | c, 'v' :: rest => do cluster form (← c.turnOn .verbose) rest
  | _, 'h' :: _ => .error .help
  | c, 'o' :: rest =>
    if !form.hasOutput then .error .misuse
    else
      match rest with
      | [] => .ok (c, some (.output, none))
      | '=' :: value => .ok (c, some (.output, some (String.ofList value)))
      | value => .ok (c, some (.output, some (String.ofList value)))
  | _, _ :: _ => .error .misuse

/-- Read one word: what has been read with it, and the setting that waits for its
    value. -/
def readWord (form : Form) (c : Collected) (word : String) :
    Except Stop (Collected × Option (Setting × Option String)) :=
  match Word.ofString word with
  | .plain => do return (← c.addInput form word, none)
  | .short letters => cluster form c letters
  | .long name value =>
    if name = "help" then .error (if value.isNone then .help else .misuse)
    else
      match form.switches.lookup name, form.settings.lookup name with
      | some s, _ => do
        if value.isSome then throw .misuse
        return (← c.turnOn s, none)
      | none, some s => .ok (c, some (s, value))
      | none, none => .error .misuse

/-- Read the words of a command. -/
def collect (form : Form) : Collected → List String → Except Stop Collected
  | c, [] => .ok c
  | c, word :: rest =>
    if word = "--" then rest.foldlM (Collected.addInput form) c
    else
      match readWord form c word with
      | .error e => .error e
      | .ok (c, none) => collect form c rest
      | .ok (c, some (s, some value)) =>
        match c.give s value with
        | .error e => .error e
        | .ok c => collect form c rest
      | .ok (c, some (s, none)) =>
        match rest with
        | [] => .error .misuse
        | value :: rest =>
          if Word.ofString value ≠ .plain then .error .misuse
          else
            match c.give s value with
            | .error e => .error e
            | .ok c => collect form c rest

/-! ## Commands -/

/-- The transformation asked for. -/
def transformOf (c : Collected) : Except Stop Command :=
  if c.inputs.isEmpty || ((c.value? .output).isSome && (c.value? .outputDirectory).isSome) then
    .error .misuse
  else
    .ok (.transform {
      inputs := c.inputs
      output := c.value? .output
      outputDirectory := c.value? .outputDirectory
      roots := c.values .root
      config := c.value? .config
      keepDefault := c.switches.contains .keepDefault
      allowNamed := c.switches.contains .allowNamed })

/-- The command made of the only input. -/
def withInput (c : Collected) (command : String → Command) : Except Stop Command :=
  match c.inputs with
  | [input] => .ok (command input)
  | _ => .error .misuse

/-- What to do when help is asked for: it is there for each command by its name. -/
def helpOn : List String → Stop
  | [] => .help
  | [name] => if ["transform", "check", "parse", "help"].contains name then .help else .misuse
  | _ => .misuse

/-- The command with the given name and words. -/
def commandOf (name : String) (words : List String) : Except Stop Invocation := do
  let invoke (form : Form) (make : Collected → Except Stop Command) : Except Stop Invocation := do
    let c ← collect form {} words
    return ⟨c.switches.contains .verbose, ← make c⟩
  match name with
  | "transform" => invoke transformForm transformOf
  | "check" =>
    invoke checkForm fun c => withInput c fun i => .check i (c.switches.contains .allowNamed)
  | "parse" => invoke parseForm fun c => withInput c fun i => .parse i (c.switches.contains .json)
  | "help" => throw (helpOn words)
  | _ => throw .misuse

/-- The switches before the name of the command. -/
def outerForm : Form where
  switches := [("verbose", .verbose)]
  settings := []
  hasOutput := false
  manyInputs := false

/-- Read a command line from its switches on. -/
def invocationFrom (c : Collected) : List String → Except Stop Invocation
  | [] => .error .misuse
  | word :: rest =>
    if Word.ofString word = .plain then
      (commandOf word rest).map fun i =>
        { i with verbose := i.verbose || c.switches.contains .verbose }
    else
      match readWord outerForm c word with
      | .error e => .error e
      | .ok (c, _) => invocationFrom c rest

end SoleExport.Arguments

namespace SoleExport

/-- The command that a command line asks for. -/
def Invocation.ofArguments (words : List String) : Except Arguments.Stop Invocation :=
  Arguments.invocationFrom {} words

end SoleExport
