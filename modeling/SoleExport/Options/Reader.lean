/-
  Reading the options from a JSON text.

  The text is an object with the two known keys, or a list of their values in
  order.  What is missing is off; other keys are skipped.
-/
import SoleExport.Json.Scan
import SoleExport.Options

namespace SoleExport.Options

open Json

/-- The options that a key can set. -/
inductive Key where
  | keepDefault
  | allowNamed
deriving DecidableEq, Repr, Inhabited

/-- The spelling of a key. -/
def Key.name : Key → String
  | .keepDefault => "keepOriginalExport"
  | .allowNamed => "allowNamedExports"

/-- The known key that is spelled so. -/
def Key.ofName? (s : String) : Option Key :=
  [Key.keepDefault, Key.allowNamed].find? fun k => k.name == s

/-- The options that have been set so far. -/
structure Given where
  keepDefault : Option Bool := none
  allowNamed : Option Bool := none
deriving DecidableEq, Repr, Inhabited

namespace Given

/-- The value given for a key. -/
def get? (g : Given) : Key → Option Bool
  | .keepDefault => g.keepDefault
  | .allowNamed => g.allowNamed

/-- Give a value for a key. -/
def set (g : Given) (k : Key) (b : Bool) : Given :=
  match k with
  | .keepDefault => { g with keepDefault := some b }
  | .allowNamed => { g with allowNamed := some b }

/-- The options, where what is not given is off. -/
def options (g : Given) : Options := ⟨g.keepDefault.getD false, g.allowNamed.getD false⟩

end Given

/-- What is wrong with a key that has been given before: the end of the object is
    looked for behind it. -/
def repeatedFault (k : Key) (rest : List Char) : Fault :=
  let rest := skipBlanks rest
  ⟨.repeatedKey k.name, rest, if rest.head? = some '}' then 1 else 0⟩

/-- A member of an object, read after the first quote of its key. -/
def member (given : Given) (cs : List Char) : Except Fault (Given × List Char) := do
  let (key, rest) ← string cs
  match Key.ofName? (String.ofList key) with
  | none => return (given, ← skipValue (← colon rest))
  | some k =>
    if (given.get? k).isSome then throw (repeatedFault k rest)
    let (b, rest) ← bool (← colon rest)
    return (given.set k b, rest)

/-- The members of an object after another member, and its end; at most `fuel` of
    them. -/
def moreMembers : Nat → Given → List Char → Except Fault (Given × List Char)
  | 0, _, cs => .error ⟨.endInObject, cs, 0⟩
  | fuel + 1, given, cs =>
    match skipBlanks cs with
    | [] => .error ⟨.endInObject, [], 0⟩
    | '}' :: rest => .ok (given, rest)
    | ',' :: rest =>
      match skipBlanks rest with
      | '"' :: rest => do
        let (given, rest) ← member given rest
        moreMembers fuel given rest
      | '}' :: rest => .error ⟨.lastComma, '}' :: rest, 1⟩
      | [] => .error ⟨.endInValue, [], 0⟩
      | rest => .error ⟨.badKey, rest, 1⟩
    | cs => .error ⟨.noObjectEnd, cs, 1⟩

/-- The options of an object, read after its brace. -/
def object (cs : List Char) : Except Fault (Given × List Char) :=
  match skipBlanks cs with
  | [] => .error ⟨.endInObject, [], 0⟩
  | '}' :: rest => .ok ({}, rest)
  | '"' :: rest => do
    let (given, rest) ← member {} rest
    moreMembers (rest.length + 1) given rest
  | cs => .error ⟨.badKey, cs, 1⟩

/-- The end of a list that has all of its elements. -/
def listEnd (cs : List Char) : Except Fault (List Char) :=
  match skipBlanks cs with
  | ']' :: rest => .ok rest
  | ',' :: rest =>
    let rest := skipBlanks rest
    .error ⟨if rest.head? = some ']' then .lastComma else .notTheEnd, rest, 1⟩
  | [] => .error ⟨.endInList, [], 0⟩
  | cs => .error ⟨.notTheEnd, cs, 1⟩

/-- The options of a list, read after its bracket. -/
def list (cs : List Char) : Except Fault (Given × List Char) :=
  match skipBlanks cs with
  | [] => .error ⟨.endInList, [], 0⟩
  | ']' :: rest => .ok ({}, rest)
  | cs => do
    let (first, rest) ← bool cs
    let given : Given := { keepDefault := some first }
    match skipBlanks rest with
    | [] => throw ⟨.endInList, [], 0⟩
    | ']' :: rest => return (given, rest)
    | ',' :: rest =>
      match skipBlanks rest with
      | [] => throw ⟨.endInValue, [], 0⟩
      | ']' :: rest => throw ⟨.lastComma, ']' :: rest, 1⟩
      | rest => do
        let (second, rest) ← bool rest
        return ({ given with allowNamed := some second }, ← listEnd rest)
    | rest => throw ⟨.noListEnd, rest, 1⟩

/-- Read the options from a text. -/
def ofText (text : String) : Except Fault Options := do
  let (given, rest) ← match skipBlanks text.toList with
    | [] => throw ⟨.endInValue, [], 0⟩
    | '{' :: rest => object rest
    | '[' :: rest => list rest
    | cs => throw (typeFault "struct TransformOptions" cs)
  match skipBlanks rest with
  | [] => return given.options
  | rest => throw ⟨.notTheEnd, rest, 1⟩

end SoleExport.Options
