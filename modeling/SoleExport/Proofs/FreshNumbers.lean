/-
  Fresh names come in order.

  The fresh names of a module are numbered, and a number is free if its name is
  not taken at the start (`FreshNames.IsFree`).  `FreshNames.Drawn taken n g` says
  that `g` is what is left once `n` names have been given.

  * `FreshNames.drawn_zero`, `FreshNames.Drawn.next`: this holds at the start, and
    goes on from one name to the next;
  * `FreshNames.Drawn.isNthFree`: the name that is given after `n` others is that
    of the free number with just `n` free numbers below it.
-/
import Mathlib.Data.Nat.Count
import SoleExport.Proofs.FreshNames

namespace SoleExport

namespace FreshNames

/-- A number is free if it is positive and its name is not among the `taken`
    ones. -/
def IsFree (taken : List String) (k : Nat) : Prop := 0 < k ∧ spelling k ∉ taken

instance (taken : List String) : DecidablePred (IsFree taken) :=
  fun k => inferInstanceAs (Decidable (0 < k ∧ spelling k ∉ taken))

/-- The number `k` is the `n`-th free one, counted from 0. -/
structure IsNthFree (taken : List String) (n k : Nat) : Prop where
  free : IsFree taken k
  /-- So many free numbers are smaller. -/
  rank : Nat.count (IsFree taken) k = n

/-- There is only one `n`-th free number. -/
theorem IsNthFree.unique {taken : List String} {n j k : Nat} (hj : IsNthFree taken n j)
    (hk : IsNthFree taken n k) : j = k :=
  Nat.count_injective hj.free hk.free (hj.rank.trans hk.rank.symm)

/-- What is left of the fresh names once `n` of them have been given. -/
structure Drawn (taken : List String) (n : Nat) (g : FreshNames) : Prop where
  /-- So many numbers up to the counter were free. -/
  upTo : Nat.count (IsFree taken) (g.counter + 1) = n
  /-- No number beyond the counter has been given. -/
  beyond : ∀ k, g.counter < k → (spelling k ∈ g.taken ↔ spelling k ∈ taken)

theorem drawn_zero (taken : List String) : Drawn taken 0 ⟨taken, 0⟩ := by
  have hzero : ¬ IsFree taken 0 := fun h => absurd h.1 (Nat.lt_irrefl 0)
  refine ⟨?_, fun k _ => Iff.rfl⟩
  show Nat.count (IsFree taken) 1 = 0
  rw [Nat.count_one, if_neg hzero]

variable {taken : List String} {n : Nat} {g : FreshNames}

/-- **The next name has the next free number.** -/
theorem Drawn.isNthFree (h : Drawn taken n g) : IsNthFree taken n g.nextNumber := by
  obtain ⟨hlt, hnew, hbetween⟩ := g.nextNumber_spec
  refine ⟨⟨by omega, fun ht => hnew ((h.beyond _ hlt).2 ht)⟩, ?_⟩
  -- the numbers between the counter and the next number are passed over, being taken
  obtain ⟨d, hd⟩ := Nat.exists_eq_add_of_le (Nat.succ_le_of_lt hlt)
  have hnone : Nat.count (fun k => IsFree taken (g.counter + 1 + k)) d = 0 := by
    rw [Nat.count_iff_forall_not]
    intro k hk hfree
    have hskipped := hbetween (g.counter + 1 + k) (by omega) (by omega)
    exact hfree.2 ((h.beyond _ (by omega)).1 hskipped)
  rw [hd, Nat.succ_eq_add_one, Nat.count_add, h.upTo, hnone, Nat.add_zero]

/-- **One name more.** -/
theorem Drawn.next (h : Drawn taken n g) : Drawn taken (n + 1) g.next.2 := by
  obtain ⟨hfree, hrank⟩ := h.isNthFree
  have hcounter : g.next.2.counter = g.nextNumber := rfl
  refine ⟨?_, fun k hk => ?_⟩
  · rw [hcounter, Nat.count_succ, hrank, if_pos hfree]
  · rw [hcounter] at hk
    have hlt := g.nextNumber_spec.1
    -- the name that is given is none of those beyond its number
    have hne : spelling k ≠ g.next.1 := by
      intro hs
      have hk' : k = g.nextNumber := spelling_injective hs
      omega
    rw [next_taken, List.mem_cons, or_iff_right hne]
    exact h.beyond k (by omega)

end FreshNames

end SoleExport
