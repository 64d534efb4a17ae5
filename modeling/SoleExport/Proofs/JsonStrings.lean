/-
  JSON strings.

  The grammar of what stands between the quotes of a string, and what it spells.
  A half of a pair of code units spells nothing without its other half, but the
  grammar allows it: such a string is skipped where nobody asks for its text, and
  refused where somebody does.

  * `Chars.skip`: every string is skipped to its end;
  * `Spells.read`: a string that spells a text is read as the text;
  * `Chars.spells_or_refused`: any other string is refused.
-/
import Mathlib.Data.List.Basic
import SoleExport.Json.Scan

namespace SoleExport.Json

/-! ## Strings -/

/-- The digits of base sixteen. -/
def hexDigits : List (Char × Nat) := [
  ('0', 0), ('1', 1), ('2', 2), ('3', 3), ('4', 4),
  ('5', 5), ('6', 6), ('7', 7), ('8', 8), ('9', 9),
  ('a', 10), ('b', 11), ('c', 12), ('d', 13), ('e', 14), ('f', 15),
  ('A', 10), ('B', 11), ('C', 12), ('D', 13), ('E', 14), ('F', 15)]

/-- The escapes of one letter, with the characters that they stand for. -/
def shortEscapes : List (Char × Char) := [
  ('"', '"'), ('\\', '\\'), ('/', '/'), ('b', Char.ofNat 0x08), ('f', Char.ofNat 0x0c),
  ('n', Char.ofNat 0x0a), ('r', Char.ofNat 0x0d), ('t', Char.ofNat 0x09)]

/-- Four digits of base sixteen, and the number that they make. -/
inductive CodeUnit : List Char → Nat → Prop
  | mk {a b c d p q r s} : (a, p) ∈ hexDigits → (b, q) ∈ hexDigits → (c, r) ∈ hexDigits →
      (d, s) ∈ hexDigits → CodeUnit [a, b, c, d] (((p * 16 + q) * 16 + r) * 16 + s)

/-- A character that stands for itself in a string. -/
structure Plain (c : Char) : Prop where
  notQuote : c ≠ '"'
  notBackslash : c ≠ '\\'
  notControl : 0x20 ≤ c.toNat

instance (c : Char) : Decidable (Plain c) :=
  decidable_of_iff (c ≠ '"' ∧ c ≠ '\\' ∧ 0x20 ≤ c.toNat)
    ⟨fun h => ⟨h.1, h.2.1, h.2.2⟩, fun h => ⟨h.notQuote, h.notBackslash, h.notControl⟩⟩

/-- What can stand between the quotes of a string. -/
inductive Chars : List Char → Prop
  | nil : Chars []
  | plain {c cs} : Plain c → Chars cs → Chars (c :: cs)
  | short {e c cs} : (e, c) ∈ shortEscapes → Chars cs → Chars ('\\' :: e :: cs)
  | code {ds n cs} : CodeUnit ds n → Chars cs → Chars ('\\' :: 'u' :: (ds ++ cs))

/-- The first half of a pair of code units. -/
def IsHigh (n : Nat) : Prop := 0xd800 ≤ n ∧ n < 0xdc00

/-- The second half of a pair of code units. -/
def IsLow (n : Nat) : Prop := 0xdc00 ≤ n ∧ n < 0xe000

instance (n : Nat) : Decidable (IsHigh n) :=
  inferInstanceAs (Decidable (0xd800 ≤ n ∧ n < 0xdc00))

instance (n : Nat) : Decidable (IsLow n) :=
  inferInstanceAs (Decidable (0xdc00 ≤ n ∧ n < 0xe000))

/-- What stands between the quotes of a string spells a text: each half of a pair of
    code units has its other half beside it. -/
inductive Spells : List Char → List Char → Prop
  | nil : Spells [] []
  | plain {c cs t} : Plain c → Spells cs t → Spells (c :: cs) (c :: t)
  | short {e c cs t} : (e, c) ∈ shortEscapes → Spells cs t → Spells ('\\' :: e :: cs) (c :: t)
  | code {ds n cs t} : CodeUnit ds n → ¬ IsHigh n → ¬ IsLow n → Spells cs t →
      Spells ('\\' :: 'u' :: (ds ++ cs)) (Char.ofNat n :: t)
  | pair {ds m ds' n cs t} : CodeUnit ds m → IsHigh m → CodeUnit ds' n → IsLow n → Spells cs t →
      Spells ('\\' :: 'u' :: (ds ++ '\\' :: 'u' :: (ds' ++ cs)))
        (Char.ofNat (0x10000 + (m - 0xd800) * 0x400 + (n - 0xdc00)) :: t)

theorem Spells.chars {cs t : List Char} (h : Spells cs t) : Chars cs := by
  induction h with
  | nil => exact .nil
  | plain hc _ ih => exact .plain hc ih
  | short he _ ih => exact .short he ih
  | code hn _ _ _ ih => exact .code hn ih
  | pair hm _ hn _ _ ih => exact .code hm (.code hn ih)

/-- Plain characters spell themselves. -/
theorem Spells.of_plain : ∀ {cs : List Char}, cs.all (fun c => decide (Plain c)) = true →
    Spells cs cs
  | [], _ => .nil
  | c :: cs, h => by
    rw [List.all_cons, Bool.and_eq_true] at h
    exact .plain (of_decide_eq_true h.1) (of_plain h.2)

theorem hexDigits_spec : ∀ p ∈ hexDigits,
    Numeral.isHexDigit p.1 = true ∧ Numeral.digit p.1 = p.2 := by decide

theorem shortEscapes_spec : ∀ p ∈ shortEscapes, p.1 ≠ 'u' ∧ escaped? p.1 = some p.2 := by decide

theorem CodeUnit.hex?_eq {ds : List Char} {n : Nat} (h : CodeUnit ds n) : hex? ds = some n := by
  cases h with
  | mk ha hb hc hd =>
    obtain ⟨ha, hp⟩ := hexDigits_spec _ ha
    obtain ⟨hb, hq⟩ := hexDigits_spec _ hb
    obtain ⟨hc, hr⟩ := hexDigits_spec _ hc
    obtain ⟨hd, hs⟩ := hexDigits_spec _ hd
    dsimp only at ha hb hc hd hp hq hr hs
    simp [hex?, Numeral.ofDigits, ha, hb, hc, hd, hp, hq, hr, hs]

theorem isFirstHalf_iff {n : Nat} : isFirstHalf n = true ↔ IsHigh n := by
  simp [isFirstHalf, IsHigh]

theorem isSecondHalf_iff {n : Nat} : isSecondHalf n = true ↔ IsLow n := by
  simp [isSecondHalf, IsLow]

/-! ### Reading strings -/

theorem skipString_plain {c : Char} (hc : Plain c) (cs : List Char) :
    skipString (c :: cs) = skipString cs := by
  have hcontrol : ¬ c.toNat < 0x20 := Nat.not_lt.2 hc.notControl
  have hback : c ≠ '\\' := hc.notBackslash
  rw [skipString.eq_7 _ _ hc.notQuote (fun h => absurd h hback) (fun _ _ _ _ _ h => absurd h hback)
    (fun _ h => absurd h hback) (fun _ _ h => absurd h hback), if_neg hcontrol]

theorem skipString_short {e c : Char} (he : (e, c) ∈ shortEscapes) (cs : List Char) :
    skipString ('\\' :: e :: cs) = skipString cs := by
  obtain ⟨hu, hescaped⟩ := shortEscapes_spec _ he
  rw [skipString.eq_6 _ _ (fun _ _ _ _ _ h => absurd h hu) hu, if_pos (by rw [hescaped]; rfl)]

theorem skipString_code {ds : List Char} {n : Nat} (hn : CodeUnit ds n) (cs : List Char) :
    skipString ('\\' :: 'u' :: (ds ++ cs)) = skipString cs := by
  have hhex := hn.hex?_eq
  cases hn with
  | mk => simp only [List.cons_append, List.nil_append, skipString, hhex]

/-- A string that nobody asks for is skipped to its end. -/
theorem Chars.skip {cs : List Char} (h : Chars cs) (rest : List Char) :
    skipString (cs ++ '"' :: rest) = .ok rest := by
  induction h with
  | nil => rfl
  | plain hc _ ih => rwa [List.cons_append, skipString_plain hc]
  | short he _ ih => rwa [List.cons_append, List.cons_append, skipString_short he]
  | code hn _ ih =>
    rwa [List.cons_append, List.cons_append, List.append_assoc, skipString_code hn]

theorem string_plain {c : Char} (hc : Plain c) (cs : List Char) :
    string (c :: cs) = (string cs).map fun r => (c :: r.1, r.2) := by
  have hcontrol : ¬ c.toNat < 0x20 := Nat.not_lt.2 hc.notControl
  have hback : c ≠ '\\' := hc.notBackslash
  rw [string.eq_7 _ _ hc.notQuote (fun h => absurd h hback) (fun _ _ _ _ _ h => absurd h hback)
    (fun _ h => absurd h hback) (fun _ _ h => absurd h hback), if_neg hcontrol]

theorem string_short {e c : Char} (he : (e, c) ∈ shortEscapes) (cs : List Char) :
    string ('\\' :: e :: cs) = (string cs).map fun r => (c :: r.1, r.2) := by
  obtain ⟨hu, hescaped⟩ := shortEscapes_spec _ he
  dsimp only at hescaped
  rw [string.eq_6 _ _ (fun _ _ _ _ _ h => absurd h hu) hu, hescaped]

theorem string_code {ds : List Char} {n : Nat} (hn : CodeUnit ds n) (hhigh : ¬ IsHigh n)
    (hlow : ¬ IsLow n) (cs : List Char) :
    string ('\\' :: 'u' :: (ds ++ cs)) = (string cs).map fun r => (Char.ofNat n :: r.1, r.2) := by
  have hhex := hn.hex?_eq
  rw [← isSecondHalf_iff] at hlow
  rw [← isFirstHalf_iff] at hhigh
  cases hn with
  | mk =>
    simp only [List.cons_append, List.nil_append, string.eq_4, hhex, if_neg hlow, if_neg hhigh]

theorem string_low {ds : List Char} {n : Nat} (hn : CodeUnit ds n) (hlow : IsLow n)
    (cs : List Char) : ∃ f, string ('\\' :: 'u' :: (ds ++ cs)) = .error f := by
  have hhex := hn.hex?_eq
  rw [← isSecondHalf_iff] at hlow
  cases hn with
  | mk =>
    simp only [List.cons_append, List.nil_append, string.eq_4, hhex, if_pos hlow]
    exact ⟨_, rfl⟩

theorem IsHigh.not_low {n : Nat} (h : IsHigh n) : ¬ IsLow n := by
  unfold IsHigh at h
  unfold IsLow
  omega

theorem string_pair {ds ds' : List Char} {m n : Nat} (hm : CodeUnit ds m) (hhigh : IsHigh m)
    (hn : CodeUnit ds' n) (cs : List Char) :
    string ('\\' :: 'u' :: (ds ++ '\\' :: 'u' :: (ds' ++ cs))) =
      if isSecondHalf n then (string cs).map fun r => (paired m n :: r.1, r.2)
      else .error ⟨.unpairedEscape, cs, 0⟩ := by
  have hhex := hm.hex?_eq
  have hhex' := hn.hex?_eq
  have hlow := hhigh.not_low
  rw [← isSecondHalf_iff] at hlow
  rw [← isFirstHalf_iff] at hhigh
  cases hm with
  | mk =>
    cases hn with
    | mk =>
      simp only [List.cons_append, List.nil_append, string.eq_4, hhex, hhex', if_neg hlow,
        if_pos hhigh]

/-- A first half with no escape behind it. -/
theorem string_high {ds : List Char} {n : Nat} (hn : CodeUnit ds n) (hhigh : IsHigh n)
    {cs : List Char} (hcs : ∀ cs', cs ≠ '\\' :: 'u' :: cs') :
    ∃ f, string ('\\' :: 'u' :: (ds ++ cs)) = .error f := by
  have hhex := hn.hex?_eq
  have hlow := hhigh.not_low
  rw [← isSecondHalf_iff] at hlow
  rw [← isFirstHalf_iff] at hhigh
  cases hn with
  | mk =>
    simp only [List.cons_append, List.nil_append, string.eq_4, hhex, if_neg hlow, if_pos hhigh]
    split
    · exact absurd rfl (hcs _)
    · exact absurd rfl (hcs _)
    all_goals exact ⟨_, rfl⟩

/-- **A string that spells a text is read as the text.** -/
theorem Spells.read {cs t : List Char} (h : Spells cs t) (rest : List Char) :
    string (cs ++ '"' :: rest) = .ok (t, rest) := by
  induction h with
  | nil => rfl
  | plain hc _ ih => rw [List.cons_append, string_plain hc, ih]; rfl
  | short he _ ih => rw [List.cons_append, List.cons_append, string_short he, ih]; rfl
  | code hn hhigh hlow _ ih =>
    rw [List.cons_append, List.cons_append, List.append_assoc, string_code hn hhigh hlow, ih]
    rfl
  | pair hm hhigh hn hlow _ ih =>
    simp only [List.cons_append, List.append_assoc]
    rw [string_pair hm hhigh hn, if_pos (isSecondHalf_iff.2 hlow), ih]
    rfl

/-- No text is read, whatever stands behind the string. -/
def Refused (cs : List Char) : Prop := ∀ rest, ∃ f, string (cs ++ '"' :: rest) = .error f

/-- What is refused is so behind a part that is read. -/
theorem Refused.behind {cs : List Char} {g : List Char × List Char → List Char × List Char}
    (p : List Char) (hp : ∀ more, string (p ++ more) = (string more).map g) (h : Refused cs) :
    Refused (p ++ cs) := by
  intro rest
  obtain ⟨f, hf⟩ := h rest
  exact ⟨f, by rw [List.append_assoc, hp, hf]; rfl⟩

theorem refused_low {ds : List Char} {n : Nat} (hn : CodeUnit ds n) (hlow : IsLow n)
    (cs : List Char) : Refused ('\\' :: 'u' :: (ds ++ cs)) := by
  intro rest
  rw [List.cons_append, List.cons_append, List.append_assoc]
  exact string_low hn hlow _

theorem Refused.behind_pair {ds ds' cs : List Char} {m n : Nat} (h : Refused cs)
    (hm : CodeUnit ds m) (hhigh : IsHigh m) (hn : CodeUnit ds' n) (hlow : IsLow n) :
    Refused ('\\' :: 'u' :: (ds ++ '\\' :: 'u' :: (ds' ++ cs))) := by
  intro rest
  obtain ⟨f, hf⟩ := h rest
  simp only [List.cons_append, List.append_assoc]
  rw [string_pair hm hhigh hn, if_pos (isSecondHalf_iff.2 hlow), hf]
  exact ⟨f, rfl⟩

theorem refused_unpaired {ds ds' : List Char} {m n : Nat} (hm : CodeUnit ds m) (hhigh : IsHigh m)
    (hn : CodeUnit ds' n) (hlow : ¬ IsLow n) (cs : List Char) :
    Refused ('\\' :: 'u' :: (ds ++ '\\' :: 'u' :: (ds' ++ cs))) := by
  intro rest
  simp only [List.cons_append, List.append_assoc]
  rw [string_pair hm hhigh hn, if_neg (mt isSecondHalf_iff.1 hlow)]
  exact ⟨_, rfl⟩

/-- A string either goes on with a code unit or with something else. -/
theorem Chars.code_or_not {cs : List Char} (h : Chars cs) :
    (∃ ds n cs', CodeUnit ds n ∧ Chars cs' ∧ cs = '\\' :: 'u' :: (ds ++ cs')) ∨
      ∀ rest cs', cs ++ '"' :: rest ≠ '\\' :: 'u' :: cs' := by
  cases h with
  | nil => exact Or.inr fun rest cs' h => by cases h
  | plain hc => exact Or.inr fun rest cs' h => hc.notBackslash (List.cons.inj h).1
  | short he =>
    refine Or.inr fun rest cs' h => (shortEscapes_spec _ he).1 ?_
    exact (List.cons.inj (List.cons.inj h).2).1
  | code hn h => exact Or.inl ⟨_, _, _, hn, h, rfl⟩

/-- **A string spells a text or is refused** where a text is asked for. -/
theorem Chars.spells_or_refused : ∀ {cs : List Char}, Chars cs → (∃ t, Spells cs t) ∨ Refused cs
  | _, .nil => Or.inl ⟨[], .nil⟩
  | _, .plain hc h => by
    rcases h.spells_or_refused with ⟨t, ht⟩ | hf
    · exact Or.inl ⟨_, .plain hc ht⟩
    · exact Or.inr (hf.behind [_] (string_plain hc))
  | _, .short he h => by
    rcases h.spells_or_refused with ⟨t, ht⟩ | hf
    · exact Or.inl ⟨_, .short he ht⟩
    · exact Or.inr (hf.behind ['\\', _] (string_short he))
  | _, @Chars.code ds n cs hn h => by
    by_cases hlow : IsLow n
    · exact Or.inr (refused_low hn hlow cs)
    by_cases hhigh : IsHigh n
    · -- the other half has to stand right behind this one
      rcases h.code_or_not with ⟨ds', m, cs', hm, h', rfl⟩ | hother
      · by_cases hlow' : IsLow m
        · rcases h'.spells_or_refused with ⟨t, ht⟩ | hf
          · exact Or.inl ⟨_, .pair hn hhigh hm hlow' ht⟩
          · exact Or.inr (hf.behind_pair hn hhigh hm hlow')
        · exact Or.inr (refused_unpaired hn hhigh hm hlow' cs')
      · refine Or.inr fun rest => ?_
        rw [List.cons_append, List.cons_append, List.append_assoc]
        exact string_high hn hhigh (hother rest)
    · rcases h.spells_or_refused with ⟨t, ht⟩ | hf
      · exact Or.inl ⟨_, .code hn hhigh hlow ht⟩
      · exact Or.inr (hf.behind ('\\' :: 'u' :: ds) (string_code hn hhigh hlow))
termination_by cs => cs.length

end SoleExport.Json
