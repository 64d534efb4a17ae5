/-
  Fresh names are fresh.

  Different numbers have different spellings, so of the candidates that
  `FreshNames.nextNumber` looks at one is free, and it finds the first of them
  (`FreshNames.nextNumber_spec`).  A name that is given was not taken before and
  is so afterwards.
-/
import Mathlib.Data.List.Nodup
import Mathlib.Data.List.Perm.Subperm
import SoleExport.FreshName

namespace SoleExport

namespace FreshNames

/-- Different candidates are spelled differently. -/
theorem spelling_injective : Function.Injective spelling := by
  intro j k h
  have h : Nat.toDigits 10 j = Nat.toDigits 10 k := by
    have h := congrArg String.toList h
    simpa [spelling, Nat.toString_eq_ofList_toDigits] using h
  rw [← Nat.ofDigitChars_ten_toDigits (n := j), h, Nat.ofDigitChars_ten_toDigits]

/-- More candidates than taken names: one of them is free. -/
theorem exists_free (g : FreshNames) (start : Nat) :
    ∃ i < g.taken.length + 1, spelling (start + i) ∉ g.taken := by
  by_contra hall
  push Not at hall
  have hnodup : ((List.range (g.taken.length + 1)).map fun i => spelling (start + i)).Nodup :=
    List.nodup_range.map fun i j h => by
      have := spelling_injective h
      omega
  have hsub : ((List.range (g.taken.length + 1)).map fun i => spelling (start + i)) ⊆ g.taken := by
    intro x hx
    obtain ⟨i, hi, rfl⟩ := List.mem_map.1 hx
    exact hall i (List.mem_range.1 hi)
  have hlen := (List.subperm_of_subset hnodup hsub).length_le
  rw [List.length_map, List.length_range] at hlen
  omega

/-- The next number is the first one after the counter whose name is free. -/
theorem nextNumber_spec (g : FreshNames) :
    g.counter < g.nextNumber ∧ spelling g.nextNumber ∉ g.taken ∧
      ∀ k, g.counter < k → k < g.nextNumber → spelling k ∈ g.taken := by
  unfold nextNumber
  rcases hf : (List.range (g.taken.length + 1)).find? fun i =>
      !g.taken.contains (spelling (g.counter + 1 + i)) with _ | i
  · obtain ⟨i, hi, hfree⟩ := g.exists_free (g.counter + 1)
    rw [List.find?_range_eq_none] at hf
    exact absurd (by simpa using hf i hi) hfree
  · rw [List.find?_range_eq_some] at hf
    obtain ⟨hi, -, hmin⟩ := hf
    simp only [Option.getD_some]
    refine ⟨by omega, by simpa using hi, fun k hk hki => ?_⟩
    have := hmin (k - (g.counter + 1)) (by omega)
    rw [Nat.add_sub_cancel' (by omega)] at this
    simpa using this

/-- A name that is given was not taken. -/
theorem next_notMem (g : FreshNames) : g.next.1 ∉ g.taken := g.nextNumber_spec.2.1

@[simp] theorem next_taken (g : FreshNames) : g.next.2.taken = g.next.1 :: g.taken := rfl

/-- Giving a name leaves other names than there were. -/
theorem next_ne (g : FreshNames) : g.next.2 ≠ g := by
  intro h
  have hlength := congrArg (fun g => g.taken.length) h
  simp at hlength

end FreshNames

end SoleExport
