/-
  The bindings of a pattern.

  A pattern binds its leaves: variables, and properties of objects that are
  written by their name alone.  `Pattern.BindsAt` says which leaf stands at which
  path, where a path counts the elements and properties that lead to the leaf; of
  two leaves the left one has the smaller path.

  * `Pattern.leaves_lists`: `Pattern.leaves` lists the leaves, each once, from left
    to right, and `Pattern.names_eq_leaves`: the names of a pattern are theirs;
  * `Pattern.Edit.names_eq`: an edit that changes no leaf changes no name;
  * `Pattern.names_are_bindings`: what a pattern adds to the names that a module
    exports, and when two patterns add the same.
-/
import Mathlib.Data.List.Basic
import Mathlib.Logic.Relation
import SoleExport.Exports

namespace SoleExport

/-! ## Induction -/

/-- The pattern in a property that has one. -/
def PatternProperty.argument? : PatternProperty → Option Pattern
  | .keyValue p _ | .rest p _ => some p
  | .shorthand _ _ _ | .other _ => none

/-- Induction over patterns, through the lists in them. -/
@[elab_as_elim]
theorem Pattern.induction {motive : Pattern → Prop} (hole : motive .hole)
    (ident : ∀ i a, motive (.ident i a))
    (array : ∀ ps fs, (∀ p ∈ ps, motive p) → motive (.array ps fs))
    (object : ∀ qs fs, (∀ q ∈ qs, ∀ p ∈ q.argument?, motive p) → motive (.object qs fs))
    (rest : ∀ p fs, motive p → motive (.rest p fs))
    (assign : ∀ p fs, motive p → motive (.assign p fs))
    (other : ∀ t, motive (.other t)) (p : Pattern) : motive p := by
  have some_argument : ∀ p, motive p → ∀ p' ∈ some p, motive p' := by
    intro p hp p' h
    cases h
    exact hp
  exact @Pattern.rec motive (fun q => ∀ p ∈ q.argument?, motive p) (fun ps => ∀ p ∈ ps, motive p)
    (fun qs => ∀ q ∈ qs, ∀ p ∈ q.argument?, motive p) hole ident array object rest assign other
    (fun p _ => some_argument p) (fun _ _ _ _ h => by cases h) (fun p _ => some_argument p)
    (fun _ _ h => by cases h) (fun _ h => by cases h)
    (fun _ _ hp hps => List.forall_mem_cons.2 ⟨hp, hps⟩) (fun _ h => by cases h)
    (fun _ _ hq hqs => List.forall_mem_cons.2 ⟨hq, hqs⟩) p

theorem Pattern.namesList_eq (ps : List Pattern) : namesList ps = ps.flatMap names := by
  induction ps with
  | nil => rfl
  | cons p ps ih => rw [namesList, ih, List.flatMap_cons]

theorem PatternProperty.namesList_eq (qs : List PatternProperty) :
    namesList qs = qs.flatMap names := by
  induction qs with
  | nil => rfl
  | cons q qs ih => rw [namesList, ih, List.flatMap_cons]

/-! ## Leaves -/

mutual
/-- The leaf `i` of a pattern stands at a path. -/
inductive Pattern.BindsAt : Pattern → List Nat → Ident → Prop
  | ident {i a} : Pattern.BindsAt (.ident i a) [] i
  | element {ps fs k p path i} : ps[k]? = some p → Pattern.BindsAt p path i →
      Pattern.BindsAt (.array ps fs) (k :: path) i
  | property {qs fs k q path i} : qs[k]? = some q → PatternProperty.BindsAt q path i →
      Pattern.BindsAt (.object qs fs) (k :: path) i
  | rest {p fs path i} : Pattern.BindsAt p path i → Pattern.BindsAt (.rest p fs) path i
  | left {p fs path i} : Pattern.BindsAt p path i → Pattern.BindsAt (.assign p fs) path i
/-- The leaf `i` of a property stands at a path. -/
inductive PatternProperty.BindsAt : PatternProperty → List Nat → Ident → Prop
  | value {p fs path i} : Pattern.BindsAt p path i → PatternProperty.BindsAt (.keyValue p fs) path i
  | shorthand {i a fs} : PatternProperty.BindsAt (.shorthand i a fs) [] i
  | rest {p fs path i} : Pattern.BindsAt p path i → PatternProperty.BindsAt (.rest p fs) path i
end

/-- A leaf and its path. -/
structure Leaf where
  path : List Nat
  ident : Ident

namespace Leaf

/-- The leaf as it is seen from above the `k`-th part. -/
def below (k : Nat) (l : Leaf) : Leaf := ⟨k :: l.path, l.ident⟩

/-- The leaves of some parts that are numbered from `k` on. -/
def numbered {α : Type} (leaves : α → List Leaf) : Nat → List α → List Leaf
  | _, [] => []
  | k, a :: as => (leaves a).map (below k) ++ numbered leaves (k + 1) as

/-- These are all the leaves, from left to right. -/
structure Lists (binds : List Nat → Ident → Prop) (leaves : List Leaf) : Prop where
  sorted : leaves.Pairwise fun l m => l.path < m.path
  mem_iff : ∀ l, l ∈ leaves ↔ binds l.path l.ident

theorem lists_nil {binds : List Nat → Ident → Prop} (h : ∀ path i, ¬ binds path i) :
    Lists binds [] :=
  ⟨.nil, fun l => ⟨fun hl => (by cases hl), fun hl => absurd hl (h _ _)⟩⟩

theorem lists_singleton {binds : List Nat → Ident → Prop} {i : Ident}
    (h : ∀ path j, binds path j ↔ path = [] ∧ j = i) : Lists binds [⟨[], i⟩] := by
  refine ⟨List.pairwise_singleton _ _, fun l => ?_⟩
  rw [List.mem_singleton, h]
  constructor
  · rintro rfl
    exact ⟨rfl, rfl⟩
  · rcases l with ⟨path, j⟩
    rintro ⟨rfl, rfl⟩
    rfl

theorem Lists.congr {binds binds' : List Nat → Ident → Prop} {leaves : List Leaf}
    (h : Lists binds leaves) (hb : ∀ path i, binds path i ↔ binds' path i) :
    Lists binds' leaves :=
  ⟨h.sorted, fun l => (h.mem_iff l).trans (hb l.path l.ident)⟩

/-- The parts of a pattern listed one after the other. -/
theorem Lists.numbered {α : Type} {f : α → List Leaf} {binds : α → List Nat → Ident → Prop} :
    ∀ {as : List α}, (∀ a ∈ as, Lists (binds a) (f a)) → ∀ k,
      Lists (fun path i => ∃ j a rest, as[j]? = some a ∧ binds a rest i ∧ path = (k + j) :: rest)
        (numbered f k as)
  | [], _, _ => lists_nil fun path i => by
    rintro ⟨j, a, rest, h, -⟩
    cases h
  | a :: as, h, k => by
    have ha := h a List.mem_cons_self
    have has := Lists.numbered (fun b hb => h b (List.mem_cons_of_mem _ hb)) (k + 1)
    refine ⟨?_, fun l => ?_⟩
    · rw [Leaf.numbered, List.pairwise_append, List.pairwise_map]
      refine ⟨ha.sorted.imp fun hlt => List.cons_lt_cons_iff.2 (Or.inr ⟨rfl, hlt⟩), has.sorted, ?_⟩
      intro l hl m hm
      obtain ⟨l, -, rfl⟩ := List.mem_map.1 hl
      obtain ⟨j, b, rest, -, -, hpath⟩ := (has.mem_iff m).1 hm
      rw [hpath]
      exact List.cons_lt_cons_iff.2 (Or.inl (by omega))
    · rw [Leaf.numbered, List.mem_append, List.mem_map, has.mem_iff]
      constructor
      · rintro (⟨m, hm, rfl⟩ | ⟨j, b, rest, hb, hbinds, hpath⟩)
        · exact ⟨0, a, m.path, rfl, (ha.mem_iff m).1 hm, rfl⟩
        · exact ⟨j + 1, b, rest, hb, hbinds,
            hpath.trans (by rw [Nat.add_right_comm, Nat.add_assoc])⟩
      · rintro ⟨j, b, rest, hb, hbinds, hpath⟩
        cases j with
        | zero =>
          cases hb
          refine Or.inl ⟨⟨rest, l.ident⟩, (ha.mem_iff _).2 hbinds, ?_⟩
          rw [below, ← Nat.add_zero k, ← hpath]
        | succ j =>
          exact Or.inr ⟨j, b, rest, hb, hbinds,
            hpath.trans (by rw [Nat.add_right_comm, Nat.add_assoc])⟩

theorem map_numbered {α β : Type} (leaves : α → List Leaf) (value : Ident → β) :
    ∀ (k : Nat) (as : List α), (Leaf.numbered leaves k as).map (fun l => value l.ident) =
      as.flatMap fun a => (leaves a).map fun l => value l.ident
  | _, [] => rfl
  | k, a :: as => by
    rw [Leaf.numbered, List.map_append, List.map_map, map_numbered leaves value (k + 1) as,
      List.flatMap_cons]
    rfl

end Leaf

mutual
/-- The leaves of a pattern, from left to right. -/
def Pattern.leaves : Pattern → List Leaf
  | .ident i _ => [⟨[], i⟩]
  | .array ps _ => Pattern.leavesFrom 0 ps
  | .object qs _ => PatternProperty.leavesFrom 0 qs
  | .rest p _ => p.leaves
  | .assign p _ => p.leaves
  | .hole => []
  | .other _ => []
/-- The leaves of the elements of an array pattern from the `k`-th on. -/
def Pattern.leavesFrom : Nat → List Pattern → List Leaf
  | _, [] => []
  | k, p :: ps => p.leaves.map (Leaf.below k) ++ Pattern.leavesFrom (k + 1) ps
/-- The leaves of a property. -/
def PatternProperty.leaves : PatternProperty → List Leaf
  | .keyValue p _ => p.leaves
  | .shorthand i _ _ => [⟨[], i⟩]
  | .rest p _ => p.leaves
  | .other _ => []
/-- The leaves of the properties of an object pattern from the `k`-th on. -/
def PatternProperty.leavesFrom : Nat → List PatternProperty → List Leaf
  | _, [] => []
  | k, q :: qs => q.leaves.map (Leaf.below k) ++ PatternProperty.leavesFrom (k + 1) qs
end

theorem Pattern.leavesFrom_eq (k : Nat) (ps : List Pattern) :
    leavesFrom k ps = Leaf.numbered leaves k ps := by
  induction ps generalizing k with
  | nil => rfl
  | cons p ps ih => rw [leavesFrom, ih, Leaf.numbered]

theorem PatternProperty.leavesFrom_eq (k : Nat) (qs : List PatternProperty) :
    leavesFrom k qs = Leaf.numbered leaves k qs := by
  induction qs generalizing k with
  | nil => rfl
  | cons q qs ih => rw [leavesFrom, ih, Leaf.numbered]

theorem PatternProperty.leaves_lists (q : PatternProperty)
    (h : ∀ p ∈ q.argument?, Leaf.Lists p.BindsAt p.leaves) : Leaf.Lists q.BindsAt q.leaves := by
  cases q with
  | keyValue p fs =>
    exact (h p rfl).congr fun path i => ⟨.value, fun hb => by cases hb; assumption⟩
  | shorthand i a fs =>
    refine Leaf.lists_singleton fun path j => ⟨fun hb => ?_, ?_⟩
    · cases hb
      exact ⟨rfl, rfl⟩
    · rintro ⟨rfl, rfl⟩
      exact .shorthand
  | rest p fs =>
    exact (h p rfl).congr fun path i => ⟨.rest, fun hb => by cases hb; assumption⟩
  | other t => exact Leaf.lists_nil fun path i hb => by cases hb

/-- **The leaves of a pattern are all listed**, from left to right. -/
theorem Pattern.leaves_lists (p : Pattern) : Leaf.Lists p.BindsAt p.leaves := by
  induction p using Pattern.induction with
  | hole => exact Leaf.lists_nil fun path i hb => by cases hb
  | ident i a =>
    refine Leaf.lists_singleton fun path j => ⟨fun hb => ?_, ?_⟩
    · cases hb
      exact ⟨rfl, rfl⟩
    · rintro ⟨rfl, rfl⟩
      exact .ident
  | array ps fs ih =>
    rw [leaves, leavesFrom_eq]
    refine (Leaf.Lists.numbered ih 0).congr fun path i => ⟨?_, fun hb => ?_⟩
    · rintro ⟨j, p, rest, hp, hb, rfl⟩
      rw [Nat.zero_add]
      exact .element hp hb
    · cases hb with
      | @element _ _ j p rest _ hp hb => exact ⟨j, p, rest, hp, hb, by rw [Nat.zero_add]⟩
  | object qs fs ih =>
    have hqs : ∀ q ∈ qs, Leaf.Lists q.BindsAt q.leaves := fun q hq => q.leaves_lists (ih q hq)
    rw [leaves, PatternProperty.leavesFrom_eq]
    refine (Leaf.Lists.numbered hqs 0).congr fun path i => ⟨?_, fun hb => ?_⟩
    · rintro ⟨j, q, rest, hq, hb, rfl⟩
      rw [Nat.zero_add]
      exact .property hq hb
    · cases hb with
      | @property _ _ j q rest _ hq hb => exact ⟨j, q, rest, hq, hb, by rw [Nat.zero_add]⟩
  | rest p fs ih => exact ih.congr fun path i => ⟨.rest, fun hb => by cases hb; assumption⟩
  | assign p fs ih => exact ih.congr fun path i => ⟨.left, fun hb => by cases hb; assumption⟩
  | other t => exact Leaf.lists_nil fun path i hb => by cases hb

/-- **The names of a pattern are those of its leaves.** -/
theorem Pattern.names_eq_leaves (p : Pattern) : p.names = p.leaves.map fun l => l.ident.name := by
  induction p using Pattern.induction with
  | array ps fs ih =>
    rw [names, namesList_eq, leaves, leavesFrom_eq, Leaf.map_numbered]
    exact List.flatMap_congr ih
  | object qs fs ih =>
    have hqs : ∀ q ∈ qs, q.names = q.leaves.map fun l => l.ident.name := by
      intro q hq
      cases q with
      | keyValue p fs | rest p fs => exact ih _ hq p rfl
      | shorthand | other => rfl
    rw [names, PatternProperty.namesList_eq, leaves, PatternProperty.leavesFrom_eq,
      Leaf.map_numbered]
    exact List.flatMap_congr hqs
  | rest p fs ih => exact ih
  | assign p fs ih => exact ih
  | hole | ident | other => rfl

/-! ## Edits -/

mutual
/-- An edit of a pattern that leaves its leaves alone.  The parts `fs` of a pattern
    hold its type annotation and, in `p = e`, the default value. -/
inductive Pattern.Edit : Pattern → Pattern → Prop
  /-- another type annotation of a variable -/
  | retyped {i a a'} : Pattern.Edit (.ident i a) (.ident i a')
  /-- another type annotation of an array -/
  | arrayParts {ps fs fs'} : Pattern.Edit (.array ps fs) (.array ps fs')
  /-- another type annotation of an object -/
  | objectParts {qs fs fs'} : Pattern.Edit (.object qs fs) (.object qs fs')
  /-- another type annotation of a rest -/
  | restParts {p fs fs'} : Pattern.Edit (.rest p fs) (.rest p fs')
  /-- another default value -/
  | assignParts {p fs fs'} : Pattern.Edit (.assign p fs) (.assign p fs')
  /-- one gap more -/
  | gap {before after fs} :
      Pattern.Edit (.array (before ++ after) fs) (.array (before ++ .hole :: after) fs)
  /-- a default value around a pattern -/
  | asAssign {p fs} : Pattern.Edit p (.assign p fs)
  /-- a rest around a pattern -/
  | asRest {p fs} : Pattern.Edit p (.rest p fs)
  /-- an array around a pattern -/
  | asElement {p fs} : Pattern.Edit p (.array [p] fs)
  /-- an object with one property around a pattern -/
  | asProperty {p q fs} : q.argument? = some p → Pattern.Edit p (.object [q] fs)
  /-- an object around a variable, which becomes a property by its name alone -/
  | asShorthand {i a a' fs gs} : Pattern.Edit (.ident i a) (.object [.shorthand i a' fs] gs)
  | element {before after p p' fs} : Pattern.Edit p p' →
      Pattern.Edit (.array (before ++ p :: after) fs) (.array (before ++ p' :: after) fs)
  | property {before after q q' fs} : PatternProperty.Edit q q' →
      Pattern.Edit (.object (before ++ q :: after) fs) (.object (before ++ q' :: after) fs)
  | rest {p p' fs} : Pattern.Edit p p' → Pattern.Edit (.rest p fs) (.rest p' fs)
  | left {p p' fs} : Pattern.Edit p p' → Pattern.Edit (.assign p fs) (.assign p' fs)
/-- An edit of a property that leaves its leaves alone. -/
inductive PatternProperty.Edit : PatternProperty → PatternProperty → Prop
  /-- another key -/
  | key {p fs fs'} : PatternProperty.Edit (.keyValue p fs) (.keyValue p fs')
  /-- another default value or type annotation of a property without a key, or the
      first one -/
  | shorthandParts {i a a' fs fs'} : PatternProperty.Edit (.shorthand i a fs) (.shorthand i a' fs')
  /-- another type annotation of a rest -/
  | restParts {p fs fs'} : PatternProperty.Edit (.rest p fs) (.rest p fs')
  | value {p p' fs} : Pattern.Edit p p' → PatternProperty.Edit (.keyValue p fs) (.keyValue p' fs)
  | rest {p p' fs} : Pattern.Edit p p' → PatternProperty.Edit (.rest p fs) (.rest p' fs)
end

theorem PatternProperty.names_of_argument? {q : PatternProperty} {p : Pattern}
    (h : q.argument? = some p) : q.names = p.names := by
  cases q with
  | keyValue | rest => cases h; rfl
  | shorthand | other => cases h

mutual
/-- **An edit changes no name.** -/
theorem Pattern.Edit.names_eq : ∀ {p p' : Pattern}, p.Edit p' → p.names = p'.names
  | _, _, .retyped | _, _, .arrayParts | _, _, .objectParts | _, _, .restParts
  | _, _, .assignParts | _, _, .asAssign | _, _, .asRest | _, _, .asShorthand => rfl
  | _, _, .gap => by
    rw [Pattern.names, Pattern.names, Pattern.namesList_eq, Pattern.namesList_eq,
      List.flatMap_append, List.flatMap_append, List.flatMap_cons]
    rfl
  | _, _, .asElement => (List.append_nil _).symm
  | _, _, .asProperty h =>
    (PatternProperty.names_of_argument? h).symm.trans (List.append_nil _).symm
  | _, _, .element h => by
    rw [Pattern.names, Pattern.names, Pattern.namesList_eq, Pattern.namesList_eq,
      List.flatMap_append, List.flatMap_append, List.flatMap_cons, List.flatMap_cons, h.names_eq]
  | _, _, .property h => by
    rw [Pattern.names, Pattern.names, PatternProperty.namesList_eq, PatternProperty.namesList_eq,
      List.flatMap_append, List.flatMap_append, List.flatMap_cons, List.flatMap_cons, h.names_eq]
  | _, _, .rest h | _, _, .left h => h.names_eq
/-- An edit of a property changes no name. -/
theorem PatternProperty.Edit.names_eq :
    ∀ {q q' : PatternProperty}, q.Edit q' → q.names = q'.names
  | _, _, .key | _, _, .shorthandParts | _, _, .restParts => rfl
  | _, _, .value h | _, _, .rest h => h.names_eq
end

theorem Pattern.names_eq_of_edits {p p' : Pattern} (h : Relation.EqvGen Pattern.Edit p p') :
    p.names = p'.names := by
  induction h with
  | rel _ _ h => exact h.names_eq
  | refl _ => rfl
  | symm _ _ _ ih => exact ih.symm
  | trans _ _ _ _ _ ih ih' => exact ih.trans ih'

/-! ## Exported variables -/

/-- The names of a pattern come after those of the items and declarators before it. -/
theorem Module.exportedNames_of_declarator {m : Module} {items later : List Item} {s : Span}
    {v : VariableDeclaration} {before after : List Declarator} {d : Declarator}
    (hm : m.body = items ++ .exportDeclaration s (.variable v) :: later)
    (hv : v.declarators = before ++ d :: after) :
    m.exportedNames = some (items.flatMap Item.exportedNames ++
      (before.flatMap (fun e => e.target.names) ++
        (d.target.names ++ after.flatMap fun e => e.target.names)) ++
      later.flatMap Item.exportedNames) := by
  have hmodule : m.body.any Item.isModuleItem = true :=
    List.any_eq_true.2 ⟨.exportDeclaration s (.variable v),
      by rw [hm]; exact List.mem_append_cons_self, rfl⟩
  rw [Module.exportedNames, if_pos hmodule, hm, List.flatMap_append, List.flatMap_cons,
    Item.exportedNames, Declaration.names, hv, List.flatMap_append, List.flatMap_cons]
  simp only [List.append_assoc]

/-- **The names of a pattern are its bindings.**  They are the names of its leaves,
    from left to right and each as often as it stands there, and come after the
    names that a module exports before them.  Patterns bind the same names if one
    comes from the other by edits that add, drop or replace default values, keys,
    type annotations, gaps or patterns around a pattern. -/
theorem Pattern.names_are_bindings (p : Pattern) :
    (∃ leaves : List Leaf, leaves.Pairwise (fun l m => l.path < m.path) ∧
      (∀ l, l ∈ leaves ↔ p.BindsAt l.path l.ident) ∧
      p.names = leaves.map fun l => l.ident.name) ∧
    (∀ (m : Module) (items later : List Item) (s : Span) (v : VariableDeclaration)
        (before after : List Declarator) (d : Declarator), d.target = p →
      m.body = items ++ .exportDeclaration s (.variable v) :: later →
      v.declarators = before ++ d :: after →
      m.exportedNames = some (items.flatMap Item.exportedNames ++
        (before.flatMap (fun e => e.target.names) ++
          (p.names ++ after.flatMap fun e => e.target.names)) ++
        later.flatMap Item.exportedNames)) ∧
    ∀ p', Relation.EqvGen Pattern.Edit p p' → p'.names = p.names := by
  have hlists := p.leaves_lists
  refine ⟨⟨p.leaves, hlists.sorted, hlists.mem_iff, p.names_eq_leaves⟩, ?_, fun p' h => ?_⟩
  · rintro m items later s v before after d rfl hm hv
    exact Module.exportedNames_of_declarator hm hv
  · exact (Pattern.names_eq_of_edits h).symm

/-- `{ a, b: [c, ...a] = [] }` -/
def Pattern.nested : Pattern :=
  .object [
    .shorthand ⟨⟨3, 4⟩, 0, "a", false⟩ .null [("value", .null)],
    .keyValue (.assign (.array [.ident ⟨⟨10, 11⟩, 0, "c", false⟩ .null,
        .rest (.ident ⟨⟨16, 17⟩, 0, "a", false⟩ .null) []] []) [("right", .list [])])
      [("key", .str "b")]] []

/-- `{ a, "k": [, c, ...a] }` -/
def Pattern.respelled : Pattern :=
  .object [
    .shorthand ⟨⟨3, 4⟩, 0, "a", false⟩ .null [("value", .null)],
    .keyValue (.array [.hole, .ident ⟨⟨10, 11⟩, 0, "c", false⟩ .null,
        .rest (.ident ⟨⟨16, 17⟩, 0, "a", false⟩ .null) []] [])
      [("key", .str "k")]] []

/-- A name that is bound twice is listed twice, also if a key is replaced, a default
    value dropped and a gap added. -/
theorem Pattern.names_are_bindings_nested :
    Relation.EqvGen Pattern.Edit .nested .respelled ∧
    Pattern.nested.names = ["a", "c", "a"] ∧ Pattern.respelled.names = ["a", "c", "a"] ∧
    ∀ v : VariableDeclaration, v.declarators = [⟨⟨1, 30⟩, .nested, none, false⟩] →
      (Module.mk ⟨1, 50⟩ none [.defaultExpr ⟨1, 2⟩ (.other .null),
        .exportDeclaration ⟨3, 40⟩ (.variable v)]).exportedNames =
        some ["default", "a", "c", "a"] := by
  have hedits : Relation.EqvGen Pattern.Edit .nested .respelled :=
    .trans _ _ _
      (.symm _ _ (.rel _ _ (@Pattern.Edit.property [_] [] _ _ _ (.value .asAssign))))
      (.trans _ _ _
        (.rel _ _ (@Pattern.Edit.property [_] [] _ _ _ (.value (@Pattern.Edit.gap [] _ _))))
        (.rel _ _ (@Pattern.Edit.property [_] [] _ _ _ .key)))
  obtain ⟨-, hexports, hsame⟩ := Pattern.names_are_bindings .nested
  refine ⟨hedits, rfl, (hsame _ hedits).trans rfl, fun v hv => ?_⟩
  exact (hexports _ [_] [] _ v [] [] _ rfl rfl hv).trans rfl

end SoleExport
