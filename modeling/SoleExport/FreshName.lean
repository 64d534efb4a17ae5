/-
  Fresh names.

  Anonymous exports are named `default_1`, `default_2`, … in the order in which
  they ask.  A name that the module already spells, at any depth, is skipped,
  and a name once given is not given again.
-/
import SoleExport.SourceFile

namespace SoleExport

/-- The names that are taken, and the number of the name given last. -/
structure FreshNames where
  taken : List String
  counter : Nat
deriving DecidableEq, Repr, Inhabited

namespace FreshNames

/-- The `k`-th candidate. -/
def spelling (k : Nat) : String := "default_" ++ toString k

/-- The fresh names of a module: all of its real identifiers are taken. -/
def ofModule (m : Module) : FreshNames := ⟨m.identifiers, 0⟩

/-- The first number after `counter` whose name is free.  Among one more
    candidates than there are taken names one is free. -/
def nextNumber (g : FreshNames) : Nat :=
  let free := (List.range (g.taken.length + 1)).find? fun i =>
    !g.taken.contains (spelling (g.counter + 1 + i))
  g.counter + 1 + free.getD g.taken.length

/-- The next free name, which becomes taken. -/
def next (g : FreshNames) : String × FreshNames :=
  let k := g.nextNumber
  (spelling k, ⟨spelling k :: g.taken, k⟩)

/-- An identifier with the next free name, standing in for the text at `span`. -/
def nextIdent (g : FreshNames) (span : Span) : Ident × FreshNames :=
  (Ident.generated g.next.1 span, g.next.2)

end FreshNames

end SoleExport
