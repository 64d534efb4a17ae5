/-
  Positions stay in order.

  Comments belong to positions: they are printed with the node that asks for their
  position first.  A conversion gives the items that it makes positions of the item
  that they come from, so comments stay with it.

  * `Converted.span_cases`: the spans that a conversion hands out;
  * `Item.convert_placed`: hence what becomes of an item stays within it, and
    starts where it does;
  * `Step.Placed.ascending`: so that a body whose items stand one behind the other
    is left with positions in order;
  * `SourceFile.convert_positions`: the same for a file.
-/
import SoleExport.Proofs.DefaultForms

namespace SoleExport

/-! ## Spans -/

/-- A span that runs forward, within another one. -/
structure Span.Within (s t : Span) : Prop where
  starts : t.start ≤ s.start
  forward : s.start ≤ s.stop
  stops : s.stop ≤ t.stop

theorem Span.Within.refl {s : Span} (h : s.start ≤ s.stop) : s.Within s :=
  ⟨Nat.le_refl _, h, Nat.le_refl _⟩

theorem Span.between_of_le {p q : Nat} (h : p ≤ q) : Span.between p q = ⟨p, q⟩ := by
  rw [Span.between, Nat.min_eq_left h, Nat.max_eq_right h]

/-- A span that is drawn forward to the start of the one around it. -/
theorem Span.Within.between_start {s t : Span} (h : s.Within t) :
    (Span.between t.start s.stop).Within t ∧ (Span.between t.start s.stop).start = t.start := by
  have hle : t.start ≤ s.stop := Nat.le_trans h.starts h.forward
  rw [Span.between_of_le hle]
  exact ⟨⟨Nat.le_refl _, hle, h.stops⟩, rfl⟩

/-! ## Items -/

/-- Where the function or class of a default export was written. -/
def Item.definitionSpan? : Item → Option Span
  | .defaultDefinition _ _ b => some b.span
  | _ => none

/-- The spans of an item run forward, and it contains the function or class that is
    its default export. -/
structure Item.Laid (item : Item) : Prop where
  forward : item.span.start ≤ item.span.stop
  inner : ∀ s ∈ item.definitionSpan?, s.Within item.span

/-- The items of a body stand one behind the other. -/
structure Item.InOrder (body : List Item) : Prop where
  laid : ∀ item ∈ body, item.Laid
  apart : body.Pairwise fun i j => i.span.stop ≤ j.span.start

/-- What becomes of an item stays within the item.  All of it starts where the item
    did, and so does the first part of it, of which there is one. -/
structure Step.Placed (item : Item) (step : Step) : Prop where
  nonempty : step.conversion.items ≠ []
  within : ∀ it ∈ step.conversion.items, it.span.Within item.span
  starts : ∀ it ∈ step.conversion.items, it.span.start = item.span.start

section
variable {mode : Mode} {g g' : FreshNames} {item : Item} {e : Event} {items : List Item}

/-- **The spans of a conversion.**  What is made of an item has the span of the item,
    except that a declaration ends where the function or class does. -/
theorem Converted.span_cases (h : Converted mode g item e items g') :
    ∀ it ∈ items, it.span = item.span ∨
      ∃ s ∈ item.definitionSpan?, it.span = Span.between item.span.start s.stop := by
  intro it hit
  cases h with
  | list =>
    rcases List.mem_append.1 hit with hit | hit
    · rw [ExportList.mem_remains hit]
      exact Or.inl rfl
    · rw [List.mem_singleton.1 hit]
      exact Or.inl rfl
  | @definition s n b =>
    rcases List.mem_cons.1 hit with rfl | hit
    · exact Or.inr ⟨b.span, rfl, rfl⟩
    · rcases List.mem_cons.1 hit with rfl | hit
      · exact Or.inl rfl
      · rw [(Mode.mem_kept.1 hit).2]
        exact Or.inl rfl
  | ident =>
    rcases List.mem_append.1 hit with hit | hit
    · rw [(Mode.mem_kept.1 hit).2]
      exact Or.inl rfl
    · rw [List.mem_singleton.1 hit]
      exact Or.inl rfl
  | value | repeated | hoisted =>
    simp only [List.mem_cons, List.not_mem_nil, or_false] at hit
    rcases hit with rfl | rfl | rfl <;> exact Or.inl rfl

theorem Converted.items_ne_nil (h : Converted mode g item e items g') : items ≠ [] := by
  cases h <;> simp

end

/-- **One item.** -/
theorem Item.convert_placed (mode : Mode) (g : FreshNames) {item : Item} (hl : item.Laid) :
    Step.Placed item (item.convert mode g) := by
  have hself : item.span.Within item.span := .refl hl.forward
  rcases item.convert_cases mode g with h | ⟨e, items, g', h, hconv⟩
  · rw [h]
    refine ⟨List.cons_ne_nil _ _, fun it hit => ?_, fun it hit => ?_⟩
    · rw [List.mem_singleton.1 hit]
      exact hself
    · rw [List.mem_singleton.1 hit]
  · rw [h]
    have hplace : ∀ it ∈ items, it.span.Within item.span ∧ it.span.start = item.span.start := by
      intro it hit
      rcases hconv.span_cases it hit with hs | ⟨s, hmem, hs⟩
      · rw [hs]
        exact ⟨hself, rfl⟩
      · rw [hs]
        exact (hl.inner s hmem).between_start
    exact ⟨hconv.items_ne_nil, fun it hit => (hplace it hit).1, fun it hit => (hplace it hit).2⟩

/-! ## Bodies -/

theorem Item.convertAll_placed (mode : Mode) :
    ∀ (body : List Item) (g : FreshNames), (∀ item ∈ body, item.Laid) →
      List.Forall₂ Step.Placed body (convertAll mode g body)
  | [], _, _ => .nil
  | item :: body, g, hl =>
    .cons (convert_placed mode g (hl item List.mem_cons_self))
      (convertAll_placed mode body _ fun i hi => hl i (List.mem_cons_of_mem _ hi))

/-- What some steps leave starts where one of their items does. -/
theorem Step.Placed.exists_start {body : List Item} {steps : List Step}
    (h : List.Forall₂ Step.Placed body steps) {it : Item} (hit : it ∈ Step.output steps) :
    ∃ item ∈ body, it.span.start = item.span.start := by
  induction h with
  | nil => cases hit
  | @cons item step body steps hstep _ ih =>
    rw [Step.output_cons, List.mem_append] at hit
    rcases hit with hit | hit
    · exact ⟨item, List.mem_cons_self, hstep.starts it hit⟩
    · obtain ⟨i, hi, hs⟩ := ih hit
      exact ⟨i, List.mem_cons_of_mem _ hi, hs⟩

/-- **A body is left with its positions in order.** -/
theorem Step.Placed.ascending {body : List Item} {steps : List Step}
    (h : List.Forall₂ Step.Placed body steps) (hb : Item.InOrder body) :
    (Step.output steps).Pairwise fun a b => a.span.start ≤ b.span.start := by
  induction h with
  | nil => exact .nil
  | @cons item step body steps hstep hrest ih =>
    obtain ⟨hbehind, hapart⟩ := List.pairwise_cons.1 hb.apart
    have hbody : Item.InOrder body := ⟨fun i hi => hb.laid i (List.mem_cons_of_mem _ hi), hapart⟩
    rw [Step.output_cons, List.pairwise_append]
    refine ⟨List.pairwise_of_forall_mem_list fun a ha b hb => ?_, ih hbody, fun a ha b hb' => ?_⟩
    · rw [hstep.starts a ha, hstep.starts b hb]
    · obtain ⟨i, hi, hs⟩ := Step.Placed.exists_start hrest hb'
      calc a.span.start = item.span.start := hstep.starts a ha
        _ ≤ item.span.stop := (hb.laid item List.mem_cons_self).forward
        _ ≤ i.span.start := hbehind i hi
        _ = b.span.start := hs.symm

/-! ## Files -/

/-- **Positions stay in order.**  If the items of a file stand one behind the other,
    what becomes of an item stays within its span and starts where the item did;
    and in the body that is made of all this, no item starts before an earlier
    one. -/
theorem SourceFile.convert_positions (f : SourceFile) (options : Options)
    (h : Item.InOrder f.module.body) :
    List.Forall₂ Step.Placed f.module.body (f.steps options) ∧
    (f.convert options).result.module.body =
      (f.steps options).flatMap (fun s => s.conversion.items) ∧
    (f.convert options).result.module.body.Pairwise fun a b => a.span.start ≤ b.span.start := by
  have hsteps : List.Forall₂ Step.Placed f.module.body (f.steps options) :=
    Item.convertAll_placed _ _ _ h.laid
  refine ⟨hsteps, rfl, ?_⟩
  rw [SourceFile.convert_body]
  exact Step.Placed.ascending hsteps h

/-- `f(); export default function () {} ; export default g();` -/
def SourceFile.callThenDefaults : SourceFile where
  name := "a.ts"
  module := ⟨⟨1, 58⟩, none, [
    .statement (.node "ExpressionStatement" [("span", .span ⟨1, 5⟩), ("expression", .str "f()")]),
    .defaultDefinition ⟨6, 35⟩ none ⟨.ofFunction, ⟨21, 35⟩, [("params", .list [])]⟩,
    .statement (.node "EmptyStatement" [("span", .span ⟨36, 37⟩)]),
    .defaultExpr ⟨38, 57⟩ (.other (.node "CallExpression" [("span", .span ⟨53, 56⟩)]))]⟩

/-- With the default exports kept, two items become three each; the declaration ends
    with the function, and every other one has the span of its item. -/
theorem SourceFile.convert_positions_callThenDefaults :
    let f := SourceFile.callThenDefaults
    let g := (f.convert ⟨true, true⟩).result
    Item.InOrder f.module.body ∧
    g.module.body.map Item.span = [⟨1, 5⟩, ⟨6, 35⟩, ⟨6, 35⟩, ⟨6, 35⟩, ⟨36, 37⟩, ⟨38, 57⟩,
      ⟨38, 57⟩, ⟨38, 57⟩] ∧
    g.module.body.Pairwise fun a b => a.span.start ≤ b.span.start := by
  intro f g
  have hinner : (⟨21, 35⟩ : Span).Within ⟨6, 35⟩ := ⟨by decide, by decide, by decide⟩
  have horder : Item.InOrder f.module.body := by
    refine ⟨fun item hitem => ?_, by decide⟩
    simp only [f, callThenDefaults, List.mem_cons, List.not_mem_nil, or_false] at hitem
    rcases hitem with rfl | rfl | rfl | rfl
    · exact ⟨by decide, fun s hs => by cases hs⟩
    · exact ⟨by decide, fun s hs => by cases hs; exact hinner⟩
    · exact ⟨by decide, fun s hs => by cases hs⟩
    · exact ⟨by decide, fun s hs => by cases hs⟩
  exact ⟨horder, by decide, (SourceFile.convert_positions f ⟨true, true⟩ horder).2.2⟩

end SoleExport
