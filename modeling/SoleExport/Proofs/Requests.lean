/-
  Requests for fresh names.

  Fresh names are asked for one by one: as names, as identifiers, or for an export
  assignment whose target names no variable.  A name is found by counting up from
  the last one until a candidate is free (`FreshNames.Search`), and each request is
  served with what the ones before it left (`FreshNames.Session`).

  * `FreshNames.search_iff`: the search ends, with the next name;
  * `Target.ident?_eq_none_iff`: which targets have to be given a name;
  * `FreshNames.Session.unique`: requests have only one course;
  * `FreshNames.Request.serve_cases`: one request;
  * `FreshNames.serveAll_in_order`: any number of them; the names come in the order
    of the free numbers.
-/
import SoleExport.Assignment
import SoleExport.Proofs.FreshNumbers

namespace SoleExport

/-! ## The search for a name -/

namespace FreshNames

/-- The search for a free name, which is taken as soon as it is found: candidates
    that are taken are passed by. -/
inductive Search : FreshNames → String → FreshNames → Prop
  | found {g} : spelling (g.counter + 1) ∉ g.taken →
      Search g (spelling (g.counter + 1)) ⟨spelling (g.counter + 1) :: g.taken, g.counter + 1⟩
  | passed {g n g'} : spelling (g.counter + 1) ∈ g.taken →
      Search ⟨g.taken, g.counter + 1⟩ n g' → Search g n g'

/-- The next number is the only one that its specification fits. -/
theorem nextNumber_eq {g : FreshNames} {k : Nat} (hlt : g.counter < k)
    (hfree : spelling k ∉ g.taken) (hbetween : ∀ j, g.counter < j → j < k → spelling j ∈ g.taken) :
    g.nextNumber = k := by
  obtain ⟨hlt', hfree', hbetween'⟩ := g.nextNumber_spec
  rcases Nat.lt_trichotomy g.nextNumber k with h | h | h
  · exact absurd (hbetween _ hlt' h) hfree'
  · exact h
  · exact absurd (hbetween' _ hlt h) hfree

variable {g g' : FreshNames} {n : String}

/-- A candidate that is taken makes no difference. -/
theorem nextNumber_of_taken (h : spelling (g.counter + 1) ∈ g.taken) :
    nextNumber ⟨g.taken, g.counter + 1⟩ = g.nextNumber := by
  obtain ⟨hlt, hfree, hbetween⟩ := g.nextNumber_spec
  have hne : g.nextNumber ≠ g.counter + 1 := by
    intro he
    rw [he] at hfree
    exact hfree h
  exact nextNumber_eq (show g.counter + 1 < g.nextNumber by omega) hfree
    fun j hj hjk => hbetween j (Nat.lt_of_succ_lt hj) hjk

theorem next_of_taken (h : spelling (g.counter + 1) ∈ g.taken) :
    next ⟨g.taken, g.counter + 1⟩ = g.next := by
  rw [next, next, nextNumber_of_taken h]

/-- A search that passes `d` candidates by. -/
theorem search_of_nextNumber : ∀ (d : Nat) (g : FreshNames), g.nextNumber = g.counter + 1 + d →
    g.Search g.next.1 g.next.2
  | 0, g, hd => by
    have hnumber : g.nextNumber = g.counter + 1 := hd
    have hfree := g.nextNumber_spec.2.1
    rw [next, hnumber]
    exact .found (hnumber ▸ hfree)
  | d + 1, g, hd => by
    have htaken : spelling (g.counter + 1) ∈ g.taken :=
      g.nextNumber_spec.2.2 _ (Nat.lt_succ_self _) (by omega)
    have hd' : nextNumber ⟨g.taken, g.counter + 1⟩ = g.counter + 1 + 1 + d := by
      rw [nextNumber_of_taken htaken]
      omega
    have hrest := search_of_nextNumber d ⟨g.taken, g.counter + 1⟩ hd'
    rw [next_of_taken htaken] at hrest
    exact .passed htaken hrest

/-- The search ends, since only finitely many candidates are passed by. -/
theorem search_next (g : FreshNames) : g.Search g.next.1 g.next.2 := by
  obtain ⟨d, hd⟩ := Nat.exists_eq_add_of_le (Nat.succ_le_of_lt g.nextNumber_spec.1)
  exact search_of_nextNumber d g hd

theorem Search.eq_next (h : g.Search n g') : n = g.next.1 ∧ g' = g.next.2 := by
  induction h with
  | @found g hfree =>
    have hnumber : g.nextNumber = g.counter + 1 :=
      nextNumber_eq (Nat.lt_succ_self _) hfree fun j hj hjk => absurd hj (by omega)
    rw [next, hnumber]
    exact ⟨rfl, rfl⟩
  | passed htaken _ ih => rwa [next_of_taken htaken] at ih

/-- **The search for a name ends, with the next name.** -/
theorem search_iff : g.Search n g' ↔ n = g.next.1 ∧ g' = g.next.2 := by
  refine ⟨Search.eq_next, ?_⟩
  rintro ⟨rfl, rfl⟩
  exact g.search_next

end FreshNames

/-! ## Targets with and without a name -/

/-- The expression is the identifier `i`, in any number of parentheses. -/
inductive Expr.Wraps (i : Ident) : Expr → Prop
  | ident : Wraps i (.ident i)
  | paren {s e} : Wraps i e → Wraps i (.paren s e)

theorem Expr.ident?_eq_some_iff {e : Expr} {i : Ident} : e.ident? = some i ↔ e.Wraps i := by
  constructor
  · intro h
    induction e with
    | ident j =>
      cases h
      exact .ident
    | paren s e ih => exact .paren (ih h)
    | other t => cases h
  · intro h
    induction h with
    | ident => rfl
    | paren _ ih => exact ih

/-- A target names the variable `i`. -/
inductive Target.Names (i : Ident) : Target → Prop
  | ident : Names i (.ident i)
  | specifier {s} : s.orig = .ident i → Names i (.specifier s)
  | declaration {declare b} : Names i (.declaration (.definition i declare b))
  | expr {e} : e.Wraps i → Names i (.expr e)

/-- A target names no variable: a string literal stands in the place of the name,
    or the target is a declaration other than a function or a class, or an
    expression other than an identifier. -/
inductive Target.Nameless : Target → Prop
  | specifier {s t} : s.orig = .literal t → Nameless (.specifier s)
  | declaration {d} : (∀ i declare b, d ≠ .definition i declare b) → Nameless (.declaration d)
  | expr {e} : (∀ i, ¬ e.Wraps i) → Nameless (.expr e)

theorem Target.ident?_eq_some_iff {t : Target} {i : Ident} : t.ident? = some i ↔ t.Names i := by
  constructor
  · intro h
    cases t with
    | ident j =>
      cases h
      exact .ident
    | specifier s =>
      rw [ident?] at h
      rcases ho : s.orig with j | t
      · rw [ho] at h
        cases h
        exact .specifier ho
      · rw [ho] at h
        cases h
    | declaration d =>
      cases d with
      | definition j declare b =>
        cases h
        exact .declaration
      | _ => cases h
    | expr e => exact .expr (Expr.ident?_eq_some_iff.1 h)
  · intro h
    cases h with
    | ident | declaration => rfl
    | specifier ho => rw [ident?, ho]; rfl
    | expr hw => exact Expr.ident?_eq_some_iff.2 hw

/-- **Which targets have to be given a name.** -/
theorem Target.ident?_eq_none_iff {t : Target} : t.ident? = none ↔ t.Nameless := by
  constructor
  · intro h
    cases t with
    | ident j => cases h
    | specifier s =>
      rw [ident?] at h
      rcases ho : s.orig with j | t
      · rw [ho] at h
        cases h
      · exact .specifier ho
    | declaration d =>
      refine .declaration fun i declare b hd => ?_
      rw [hd] at h
      cases h
    | expr e =>
      refine .expr fun i hw => ?_
      have hi : e.ident? = none := h
      rw [Expr.ident?_eq_some_iff.2 hw] at hi
      cases hi
  · intro h
    cases h with
    | specifier ho => rw [ident?, ho]; rfl
    | @declaration d hd =>
      cases d with
      | definition i declare b => exact absurd rfl (hd i declare b)
      | _ => rfl
    | @expr e hw =>
      rw [ident?, Option.eq_none_iff_forall_ne_some]
      exact fun i hi => hw i (Expr.ident?_eq_some_iff.1 hi)

/-! ## Requests -/

namespace FreshNames

/-- What can be asked of fresh names. -/
inductive Request where
  /-- a name -/
  | name
  /-- an identifier at `span` -/
  | ident (span : Span)
  /-- an export assignment that designates a target -/
  | assignment (target : Target) (form : AssignmentForm) (span : Span)

/-- What comes back. -/
inductive Answer where
  | name (n : String)
  | ident (i : Ident)
  | item (i : Item)

namespace Request

/-- Serve a request. -/
def serve (r : Request) (g : FreshNames) : Answer × FreshNames :=
  match r with
  | .name => (.name g.next.1, g.next.2)
  | .ident s => (.ident (g.nextIdent s).1, (g.nextIdent s).2)
  | .assignment t form s => (.item (t.assign form s g).1, (t.assign form s g).2)

/-- Serve requests one after the other. -/
def serveAll : FreshNames → List Request → List Answer × FreshNames
  | g, [] => ([], g)
  | g, r :: rs =>
    let (a, g) := r.serve g
    let (as, g) := serveAll g rs
    (a :: as, g)

/-- The request is one for a fresh name. -/
inductive Draws : Request → Prop
  | name : Draws .name
  | ident {s} : Draws (.ident s)
  | assignment {t form s} : t.Nameless → Draws (.assignment t form s)

/-- The answer to a request that is served with the fresh name `n`. -/
def answer (n : String) : Request → Answer
  | .name => .name n
  | .ident s => .ident (Ident.generated n s)
  | .assignment _ form s => .item (Item.assign form s (.ident (Ident.generated n s)))

end Request

/-- The course of some requests, with their answers, the names that are drawn for
    them, and the fresh names that are left. -/
inductive Session : FreshNames → List Request → List Answer → List String → FreshNames → Prop
  | nil {g} : Session g [] [] [] g
  | draw {g g' g'' r rs as n names} : r.Draws → g.Search n g' → Session g' rs as names g'' →
      Session g (r :: rs) (r.answer n :: as) (n :: names) g''
  | own {g g' t form s i rs as names} : t.Names i → Session g rs as names g' →
      Session g (.assignment t form s :: rs) (.item (Item.assign form s (.ident i)) :: as) names g'

theorem Request.Draws.not_names {t : Target} {form : AssignmentForm} {s : Span} {i : Ident}
    (h : (Request.assignment t form s).Draws) : ¬ t.Names i := by
  intro hi
  cases h with
  | assignment ht =>
    have hsome := Target.ident?_eq_some_iff.2 hi
    rw [Target.ident?_eq_none_iff.2 ht] at hsome
    cases hsome

/-- Requests have only one course. -/
theorem Session.unique {g g' g'' : FreshNames} {rs : List Request} {as as' : List Answer}
    {names names' : List String} (h : Session g rs as names g') (h' : Session g rs as' names' g'') :
    as = as' ∧ names = names' ∧ g' = g'' := by
  induction h generalizing as' names' with
  | nil =>
    cases h'
    exact ⟨rfl, rfl, rfl⟩
  | draw hdraws hsearch _ ih =>
    cases h' with
    | draw _ hsearch' hrest =>
      obtain ⟨rfl, rfl⟩ := hsearch.eq_next
      obtain ⟨rfl, rfl⟩ := hsearch'.eq_next
      obtain ⟨rfl, rfl, rfl⟩ := ih hrest
      exact ⟨rfl, rfl, rfl⟩
    | own hi => exact absurd hi hdraws.not_names
  | own hi _ ih =>
    cases h' with
    | draw hdraws => exact absurd hi hdraws.not_names
    | own hj hrest =>
      obtain rfl := Option.some.inj
        ((Target.ident?_eq_some_iff.2 hi).symm.trans (Target.ident?_eq_some_iff.2 hj))
      obtain ⟨rfl, rfl, rfl⟩ := ih hrest
      exact ⟨rfl, rfl, rfl⟩

namespace Request

/-- **One request**: it draws the next name, or designates the variable that its
    target names. -/
theorem serve_cases (r : Request) (g : FreshNames) :
    (r.Draws ∧ r.serve g = (r.answer g.next.1, g.next.2)) ∨
      ∃ t form s i, r = .assignment t form s ∧ t.Names i ∧
        r.serve g = (.item (Item.assign form s (.ident i)), g) := by
  cases r with
  | name => exact Or.inl ⟨.name, rfl⟩
  | ident s => exact Or.inl ⟨.ident, rfl⟩
  | assignment t form s =>
    rcases ht : t.ident? with _ | i
    · refine Or.inl ⟨.assignment (Target.ident?_eq_none_iff.1 ht), ?_⟩
      simp only [serve, Target.assign, ht, nextIdent, answer]
    · refine Or.inr ⟨t, form, s, i, rfl, Target.ident?_eq_some_iff.1 ht, ?_⟩
      simp only [serve, Target.assign, ht]

variable {taken : List String}

/-- Requests that are served once `n` names have been drawn draw the names of the
    free numbers from the `n`-th on. -/
theorem serveAll_from : ∀ (rs : List Request) {g : FreshNames} {n : Nat}, g.Drawn taken n →
    ∃ names, Session g rs (serveAll g rs).1 names (serveAll g rs).2 ∧
      ∀ j s, names[j]? = some s → ∃ k, IsNthFree taken (n + j) k ∧ s = spelling k
  | [], _, _, _ => ⟨[], .nil, fun _ _ h => by cases h⟩
  | r :: rs, g, n, hg => by
    rcases r.serve_cases g with ⟨hdraws, hserve⟩ | ⟨t, form, s, i, rfl, hnames, hserve⟩
    · obtain ⟨names, hsession, hnth⟩ := serveAll_from rs hg.next
      refine ⟨g.next.1 :: names, ?_, fun j s hj => ?_⟩
      · rw [serveAll, hserve]
        exact .draw hdraws g.search_next hsession
      · cases j with
        | zero =>
          cases hj
          exact ⟨g.nextNumber, hg.isNthFree, rfl⟩
        | succ j =>
          rw [Nat.add_comm j, ← Nat.add_assoc]
          exact hnth j s hj
    · obtain ⟨names, hsession, hnth⟩ := serveAll_from rs hg
      refine ⟨names, ?_, hnth⟩
      rw [serveAll, hserve]
      exact .own hnames hsession

end Request

/-- **Fresh names come in the order of the free numbers.**  Whatever names are taken
    at the start, requests have one course, and it is that of `serveAll`: each of
    them is served, so the search for each name ends.  The `n`-th name of them all,
    counted from 0, is that of the `n`-th number whose name is not taken at the
    start.  An export assignment draws a name just if its target names no
    variable. -/
theorem serveAll_in_order (taken : List String) (rs : List Request) :
    (∃ names, (∀ as names' g', Session ⟨taken, 0⟩ rs as names' g' ↔
        as = (Request.serveAll ⟨taken, 0⟩ rs).1 ∧ names' = names ∧
          g' = (Request.serveAll ⟨taken, 0⟩ rs).2) ∧
      ∀ n s, names[n]? = some s → ∃ k, IsNthFree taken n k ∧ s = spelling k) ∧
    ∀ (t : Target) (form : AssignmentForm) (s : Span) (g : FreshNames),
      (t.assign form s g).2 ≠ g ↔ t.Nameless := by
  constructor
  · obtain ⟨names, hsession, hnth⟩ := Request.serveAll_from rs (drawn_zero taken)
    refine ⟨names, fun as names' g' => ⟨fun h => h.unique hsession, ?_⟩, fun n s hn => ?_⟩
    · rintro ⟨rfl, rfl, rfl⟩
      exact hsession
    · have hn := hnth n s hn
      rwa [Nat.zero_add] at hn
  · intro t form s g
    rw [← Target.ident?_eq_none_iff, Target.assign]
    rcases t.ident? with _ | i
    · exact iff_of_true g.next_ne rfl
    · exact iff_of_false (fun h => h rfl) (fun h => by cases h)

end FreshNames

end SoleExport
