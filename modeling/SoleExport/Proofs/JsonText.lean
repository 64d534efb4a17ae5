/-
  JSON values.

  The grammar of values, with what they say (`Data`) whatever their white space and
  their escapes.  A value that nobody asks for is skipped to its end and no further:
  behind it stands what can stand behind a value (`Closes`), which tells where a
  number ends.

  * `Unsigned.skip`: numbers;
  * `Value.skip`, `Elements.skip`, `Members.skip`: values, elements and members, by
    induction on how they are derived;
  * `Value.skipValue`: a value of any depth is skipped.
-/
import Mathlib.Data.List.DropRight
import SoleExport.Proofs.JsonStrings

namespace SoleExport.Json

/-! ## Numbers -/

/-- Digits, and at least one of them. -/
structure Digits (cs : List Char) : Prop where
  notEmpty : cs ≠ []
  digits : ∀ c ∈ cs, c.isDigit = true

/-- The whole part of a number: a zero, or digits of which the first is none. -/
inductive Whole : List Char → Prop
  | zero : Whole ['0']
  | other {c cs} : c ≠ '0' → Digits (c :: cs) → Whole (c :: cs)

/-- The fraction of a number, if there is one. -/
inductive Fraction : List Char → Prop
  | none : Fraction []
  | some {ds} : Digits ds → Fraction ('.' :: ds)

/-- The exponent of a number, if there is one. -/
inductive Exponent : List Char → Prop
  | none : Exponent []
  | some {e sign ds} : e ∈ ['e', 'E'] → sign ∈ [[], ['+'], ['-']] → Digits ds →
      Exponent (e :: (sign ++ ds))

/-- A number behind its sign. -/
inductive Unsigned : List Char → Prop
  | mk {w f x} : Whole w → Fraction f → Exponent x → Unsigned (w ++ (f ++ x))

/-! ## Values -/

/-- The characters of white space. -/
def blanks : List Char := [' ', '\t', '\n', '\r']

/-- White space. -/
def Blank (cs : List Char) : Prop := ∀ c ∈ cs, c ∈ blanks

instance (cs : List Char) : Decidable (Blank cs) :=
  List.decidableBAll (fun c => c ∈ blanks) cs

/-- A member of an object; its key is missing if it spells no text. -/
structure Member (α : Type) where
  key : Option String
  value : α

/-- What a value says. -/
inductive Data where
  | null
  | bool (b : Bool)
  | number (numeral : List Char)
  /-- a string, missing if it spells no text -/
  | string (text : Option String)
  | list (elements : List Data)
  | object (members : List (Member Data))

/-- What a string says. -/
inductive Quoted : Option String → List Char → Prop
  | text {cs t} : Spells cs t → Quoted (some (String.ofList t)) cs
  | noText {cs} : Chars cs → (∀ t, ¬ Spells cs t) → Quoted none cs

mutual
/-- A value as it is written. -/
inductive Value : Data → List Char → Prop
  | null : Value .null ['n', 'u', 'l', 'l']
  | true : Value (.bool true) ['t', 'r', 'u', 'e']
  | false : Value (.bool false) ['f', 'a', 'l', 's', 'e']
  | number {cs} : Unsigned cs → Value (.number cs) cs
  | negative {cs} : Unsigned cs → Value (.number ('-' :: cs)) ('-' :: cs)
  | string {t cs} : Quoted t cs → Value (.string t) ('"' :: (cs ++ ['"']))
  | emptyList {a} : Blank a → Value (.list []) ('[' :: (a ++ [']']))
  | list {ds cs} : Elements ds cs → Value (.list ds) ('[' :: (cs ++ [']']))
  | emptyObject {a} : Blank a → Value (.object []) ('{' :: (a ++ ['}']))
  | object {ms cs} : Members ms cs → Value (.object ms) ('{' :: (cs ++ ['}']))
/-- The elements of a list. -/
inductive Elements : List Data → List Char → Prop
  | one {a d v b} : Blank a → Value d v → Blank b → Elements [d] (a ++ (v ++ b))
  | more {a d v b ds cs} : Blank a → Value d v → Blank b → Elements ds cs →
      Elements (d :: ds) (a ++ (v ++ (b ++ ',' :: cs)))
/-- A member of an object, from its first quote to its last character. -/
inductive MemberText : Member Data → List Char → Prop
  | mk {key cs a b d v} : Quoted key cs → Blank a → Blank b → Value d v →
      MemberText ⟨key, d⟩ ('"' :: (cs ++ '"' :: (a ++ ':' :: (b ++ v))))
/-- The members of an object. -/
inductive Members : List (Member Data) → List Char → Prop
  | one {a m v b} : Blank a → MemberText m v → Blank b → Members [m] (a ++ (v ++ b))
  | more {a m v b ms cs} : Blank a → MemberText m v → Blank b → Members ms cs →
      Members (m :: ms) (a ++ (v ++ (b ++ ',' :: cs)))
end

/-- The text of an object, alone. -/
inductive ObjectText : List (Member Data) → List Char → Prop
  | empty {a b c} : Blank a → Blank b → Blank c → ObjectText [] (a ++ '{' :: (b ++ '}' :: c))
  | members {a ms cs b} : Blank a → Members ms cs → Blank b →
      ObjectText ms (a ++ '{' :: (cs ++ '}' :: b))

/-! ### Reading numbers -/

/-- The characters that can stand behind a value. -/
def closers : List Char := [',', ']', '}'] ++ blanks

/-- A value is at its end here. -/
def Closes (cs : List Char) : Prop := ∃ c ∈ closers, ∃ more, cs = c :: more

/-- Digits are at their end here. -/
def NoDigit (cs : List Char) : Prop := ∀ c ∈ cs.head?, c.isDigit = false

theorem closers_spec : ∀ c ∈ closers,
    c.isDigit = false ∧ c ≠ '.' ∧ c ≠ 'e' ∧ c ≠ 'E' := by simp [closers, blanks]

theorem Closes.blank {b : List Char} (hb : Blank b) {rest : List Char} (h : Closes rest) :
    Closes (b ++ rest) := by
  cases b with
  | nil => exact h
  | cons c b =>
    exact ⟨c, List.mem_append_right _ (hb c List.mem_cons_self), b ++ rest, rfl⟩

theorem Closes.noDigit {rest : List Char} (h : Closes rest) : NoDigit rest := by
  obtain ⟨c, hc, more, rfl⟩ := h
  rintro d ⟨⟩
  exact (closers_spec c hc).1

theorem dropDigits {ds : List Char} (hds : ∀ c ∈ ds, c.isDigit = true) {rest : List Char}
    (hrest : NoDigit rest) : (ds ++ rest).dropWhile Char.isDigit = rest := by
  rw [List.dropWhile_append_of_pos hds]
  cases rest with
  | nil => rfl
  | cons c rest => rw [List.dropWhile_cons_of_neg (by simp [hrest c rfl])]

theorem Digits.skip {ds : List Char} (h : Digits ds) (atEnd : Cause) {rest : List Char}
    (hrest : NoDigit rest) : skipDigits atEnd (ds ++ rest) = .ok rest := by
  cases ds with
  | nil => exact absurd rfl h.notEmpty
  | cons c ds =>
    obtain ⟨hc, hds⟩ := List.forall_mem_cons.1 h.digits
    rw [List.cons_append, skipDigits, if_pos hc, dropDigits hds hrest]

theorem Whole.skip {w : List Char} (h : Whole w) (atEnd : Cause) {rest : List Char}
    (hrest : NoDigit rest) : skipWhole atEnd (w ++ rest) = .ok rest := by
  cases h with
  | zero =>
    cases rest with
    | nil => rfl
    | cons c rest =>
      have hc : c.isDigit = false := hrest c rfl
      simp [skipWhole, hc]
  | @other c cs hc hds =>
    rw [← hds.skip atEnd hrest, skipWhole.eq_def]
    split
    · rename_i heq
      exact absurd (List.cons.inj heq).1 hc
    · rfl

theorem ne_of_digit {c d : Char} (hc : c.isDigit = true) (hd : d.isDigit = false) : c ≠ d := by
  rintro rfl
  rw [hc] at hd
  cases hd

/-- Digits start with no sign. -/
theorem Digits.unsigned {ds : List Char} (h : Digits ds) :
    ∃ c cs, ds = c :: cs ∧ c ≠ '+' ∧ c ≠ '-' := by
  cases ds with
  | nil => exact absurd rfl h.notEmpty
  | cons c cs =>
    have hc : c.isDigit = true := h.digits c List.mem_cons_self
    exact ⟨c, cs, rfl, ne_of_digit hc rfl, ne_of_digit hc rfl⟩

theorem Fraction.skip {f : List Char} (h : Fraction f) (atEnd : Cause) {rest : List Char}
    (hrest : NoDigit rest) (hdot : ∀ more, rest ≠ '.' :: more) :
    skipFraction atEnd (f ++ rest) = .ok rest := by
  cases h with
  | none =>
    rw [List.nil_append, skipFraction.eq_def]
    split
    · exact absurd rfl (hdot _)
    · rfl
  | some hds => exact hds.skip atEnd hrest

theorem Exponent.skip {x : List Char} (h : Exponent x) (atEnd : Cause) {rest : List Char}
    (hrest : Closes rest) : skipExponent atEnd (x ++ rest) = .ok rest := by
  cases h with
  | none =>
    obtain ⟨c, hc, more, rfl⟩ := hrest
    obtain ⟨-, -, he, hE⟩ := closers_spec c hc
    simp [skipExponent, he, hE]
  | @some e sign ds he hsign hds =>
    have hpower : skipExponent atEnd (e :: (sign ++ ds) ++ rest) =
        skipDigits atEnd (ds ++ rest) := by
      obtain ⟨c, cs, rfl, hplus, hminus⟩ := hds.unsigned
      simp only [List.mem_cons, List.not_mem_nil, or_false] at he hsign
      rcases he with rfl | rfl <;> rcases hsign with rfl | rfl | rfl <;>
        simp [skipExponent, hplus, hminus]
    rw [hpower, hds.skip atEnd hrest.noDigit]

theorem Exponent.starts {x : List Char} (h : Exponent x) {rest : List Char} (hrest : Closes rest) :
    NoDigit (x ++ rest) ∧ ∀ more, x ++ rest ≠ '.' :: more := by
  cases h with
  | none =>
    refine ⟨hrest.noDigit, fun more h => ?_⟩
    obtain ⟨c, hc, more', rfl⟩ := hrest
    exact (closers_spec c hc).2.1 (List.cons.inj h).1
  | some he =>
    simp only [List.mem_cons, List.not_mem_nil, or_false] at he
    constructor
    · rintro c ⟨⟩
      rcases he with rfl | rfl <;> decide
    · rcases he with rfl | rfl <;> simp

theorem Fraction.noDigit {f : List Char} (h : Fraction f) {rest : List Char}
    (hrest : NoDigit rest) : NoDigit (f ++ rest) := by
  cases h with
  | none => exact hrest
  | some =>
    rintro c ⟨⟩
    decide

theorem Unsigned.skip {cs : List Char} (h : Unsigned cs) (atEnd : Cause) {rest : List Char}
    (hrest : Closes rest) : skipNumber atEnd (cs ++ rest) = .ok rest := by
  cases h with
  | mk hw hf hx =>
    obtain ⟨hdigit, hdot⟩ := hx.starts hrest
    simp only [skipNumber, List.append_assoc]
    rw [hw.skip atEnd (hf.noDigit hdigit)]
    dsimp only [bind, Except.bind]
    rw [hf.skip atEnd hdigit hdot]
    exact hx.skip atEnd hrest

/-! ### Reading values -/

/-- The reader knows the same white space. -/
theorem mem_blanks_iff (c : Char) :
    (c == ' ' || c == '\n' || c == '\t' || c == '\r') = true ↔ c ∈ blanks := by
  simp only [Bool.or_eq_true, beq_iff_eq, blanks, List.mem_cons, List.not_mem_nil, or_false]
  tauto

theorem skipBlanks_blank {a : List Char} (ha : Blank a) (rest : List Char) :
    skipBlanks (a ++ rest) = skipBlanks rest :=
  List.dropWhile_append_of_pos fun c hc => (mem_blanks_iff c).2 (ha c hc)

theorem skipBlanks_cons {c : Char} (hc : c ∉ blanks) (rest : List Char) :
    skipBlanks (c :: rest) = c :: rest :=
  List.dropWhile_cons_of_neg fun h => hc ((mem_blanks_iff c).1 h)

theorem skipBlanks_to {a : List Char} (ha : Blank a) {c : Char} (hc : c ∉ blanks)
    (rest : List Char) : skipBlanks (a ++ c :: rest) = c :: rest := by
  rw [skipBlanks_blank ha, skipBlanks_cons hc]

theorem skipBlanks_skipBlanks (cs : List Char) : skipBlanks (skipBlanks cs) = skipBlanks cs :=
  List.dropWhile_idempotent _ _

theorem Unsigned.starts {cs : List Char} (h : Unsigned cs) :
    ∃ c more, cs = c :: more ∧ c.isDigit = true := by
  cases h with
  | mk hw =>
    cases hw with
    | zero => exact ⟨_, _, rfl, rfl⟩
    | other _ hds => exact ⟨_, _, rfl, hds.digits _ List.mem_cons_self⟩

theorem digit_not_mem {c : Char} (hc : c.isDigit = true) : c ∉ ']' :: blanks := by
  have hnone : ∀ b ∈ ']' :: blanks, b.isDigit = false := by simp [blanks]
  exact fun h => ne_of_digit hc (hnone c h) rfl

/-- The start of a value is neither white space nor the end of a list. -/
theorem Value.starts {d : Data} {v : List Char} (h : Value d v) :
    ∃ c cs, v = c :: cs ∧ c ∉ ']' :: blanks := by
  cases h with
  | number hcs =>
    obtain ⟨c, more, rfl, hc⟩ := hcs.starts
    exact ⟨c, more, rfl, digit_not_mem hc⟩
  | _ => exact ⟨_, _, rfl, by decide⟩

theorem Elements.starts {ds : List Data} {cs : List Char} (h : Elements ds cs) (rest : List Char) :
    ∃ c more, skipBlanks (cs ++ rest) = c :: more ∧ c ≠ ']' := by
  cases h with
  | one ha hv _ | more ha hv _ _ =>
    obtain ⟨c, v, rfl, hc⟩ := hv.starts
    rw [List.append_assoc]
    exact ⟨c, _, skipBlanks_to ha (List.not_mem_of_not_mem_cons hc) _, List.ne_of_not_mem_cons hc⟩

theorem Members.starts {ms : List (Member Data)} {cs : List Char} (h : Members ms cs)
    (rest : List Char) :
    ∃ more, skipBlanks (cs ++ rest) = '"' :: more := by
  cases h with
  | one ha hv _ | more ha hv _ _ =>
    cases hv with
    | mk =>
      rw [List.append_assoc]
      exact ⟨_, skipBlanks_to ha (by decide) _⟩

theorem Quoted.chars {t : Option String} {cs : List Char} (h : Quoted t cs) : Chars cs := by
  cases h with
  | text h => exact h.chars
  | noText h _ => exact h

theorem Spells.quoted {cs : List Char} {s : String} (h : Spells cs s.toList) :
    Quoted (some s) cs := by
  have hs := Quoted.text h
  rwa [String.ofList_toList] at hs

/-- Plain characters between quotes spell themselves. -/
theorem quoted_plain {s : String} (h : s.toList.all (fun c => decide (Plain c)) = true) :
    Quoted (some s) s.toList :=
  (Spells.of_plain h).quoted

theorem colon_blank {a : List Char} (ha : Blank a) (rest : List Char) :
    colon (a ++ ':' :: rest) = .ok rest := by
  rw [colon, skipBlanks_to ha (by decide)]
  rfl

/-! ### Skipping values -/

theorem skipValueUpTo_blank {a : List Char} (ha : Blank a) (fuel : Nat) (rest : List Char) :
    skipValueUpTo (fuel + 1) (a ++ rest) = skipValueUpTo (fuel + 1) rest := by
  rw [skipValueUpTo.eq_2, skipBlanks_blank ha, ← skipValueUpTo.eq_2]

theorem skipValueUpTo_digit {c : Char} (hc : c.isDigit = true) (fuel : Nat) (rest : List Char) :
    skipValueUpTo (fuel + 1) (c :: rest) = skipNumber .badNumber (c :: rest) := by
  have hother : ∀ d : Char, d.isDigit = false → c ≠ d := fun _ => ne_of_digit hc
  rw [skipValueUpTo.eq_2, skipBlanks_cons (List.not_mem_of_not_mem_cons (digit_not_mem hc))]
  simp [hc, hother]

theorem skipValueUpTo_list {fuel : Nat} {cs more : List Char} {c : Char}
    (hstart : skipBlanks cs = c :: more) (hc : c ≠ ']') :
    skipValueUpTo (fuel + 1) ('[' :: cs) = skipElements fuel (skipBlanks cs) := by
  rw [skipValueUpTo.eq_2, skipBlanks_cons (by decide)]
  simp only [hstart]
  split
  · rename_i heq
    exact absurd (List.cons.inj heq).1 hc
  · rename_i heq
    cases heq
  · rfl

theorem skipValueUpTo_object {fuel : Nat} {cs more : List Char}
    (hstart : skipBlanks cs = '"' :: more) :
    skipValueUpTo (fuel + 1) ('{' :: cs) = skipMembers fuel (skipBlanks cs) := by
  rw [skipValueUpTo.eq_2, skipBlanks_cons (by decide)]
  simp only [hstart]
  rfl

theorem skipElements_skipBlanks (fuel : Nat) (cs : List Char) :
    skipElements (fuel + 2) (skipBlanks cs) = skipElements (fuel + 2) cs := by
  rw [skipElements.eq_2, skipElements.eq_2, skipValueUpTo.eq_2, skipBlanks_skipBlanks,
    ← skipValueUpTo.eq_2]

theorem skipMembers_skipBlanks (fuel : Nat) (cs : List Char) :
    skipMembers (fuel + 1) (skipBlanks cs) = skipMembers (fuel + 1) cs := by
  rw [skipMembers.eq_2, skipMembers.eq_2, skipBlanks_skipBlanks]

theorem skipElements_last {fuel : Nat} {cs b more : List Char} (hb : Blank b)
    (h : skipValueUpTo fuel cs = .ok (b ++ ']' :: more)) :
    skipElements (fuel + 1) cs = .ok more := by
  rw [skipElements.eq_2, h]
  dsimp only [bind, Except.bind]
  rw [skipBlanks_to hb (by decide)]
  rfl

theorem skipElements_comma {fuel : Nat} {cs b more : List Char} (hb : Blank b)
    (h : skipValueUpTo fuel cs = .ok (b ++ ',' :: more)) :
    skipElements (fuel + 1) cs = skipElements fuel more := by
  rw [skipElements.eq_2, h]
  dsimp only [bind, Except.bind]
  rw [skipBlanks_to hb (by decide)]
  rfl

/-- From the first quote of a member on, `rest` is left after it. -/
def SkipsMember (fuel : Nat) (cs rest : List Char) : Prop :=
  ∃ body key value, cs = '"' :: body ∧ skipString body = .ok key ∧ colon key = .ok value ∧
    skipValueUpTo fuel value = .ok rest

theorem skipMembers_last {fuel : Nat} {a cs b more : List Char} (ha : Blank a)
    (h : SkipsMember fuel cs (b ++ '}' :: more)) (hb : Blank b) :
    skipMembers (fuel + 1) (a ++ cs) = .ok more := by
  obtain ⟨body, key, value, rfl, hkey, hcolon, hvalue⟩ := h
  rw [skipMembers.eq_2, skipBlanks_to ha (by decide)]
  simp only [hkey, hcolon, hvalue, bind, Except.bind]
  rw [skipBlanks_to hb (by decide)]
  rfl

theorem skipMembers_comma {fuel : Nat} {a cs b more : List Char} (ha : Blank a)
    (h : SkipsMember fuel cs (b ++ ',' :: more)) (hb : Blank b) :
    skipMembers (fuel + 1) (a ++ cs) = skipMembers fuel more := by
  obtain ⟨body, key, value, rfl, hkey, hcolon, hvalue⟩ := h
  rw [skipMembers.eq_2, skipBlanks_to ha (by decide)]
  simp only [hkey, hcolon, hvalue, bind, Except.bind]
  rw [skipBlanks_to hb (by decide)]
  rfl

theorem closes_blank {b : List Char} (hb : Blank b) {c : Char} (hc : c ∈ closers)
    (rest : List Char) : Closes (b ++ c :: rest) :=
  Closes.blank hb ⟨c, hc, rest, rfl⟩

mutual
/-- A value is skipped to its end and no further. -/
theorem Value.skip {d : Data} {v : List Char} : Value d v →
    ∀ {fuel : Nat} {rest : List Char}, Closes rest → 2 * v.length < fuel →
      skipValueUpTo fuel (v ++ rest) = .ok rest
  | .null, _ + 1, _, _, _ | .true, _ + 1, _, _, _ | .false, _ + 1, _, _, _ => rfl
  | .number hcs, fuel + 1, rest, hrest, _ => by
    obtain ⟨c, more, rfl, hc⟩ := hcs.starts
    rw [← hcs.skip .badNumber hrest]
    exact skipValueUpTo_digit hc fuel _
  | .negative hcs, fuel + 1, rest, hrest, _ => by
    rw [List.cons_append, skipValueUpTo.eq_2, skipBlanks_cons (by decide)]
    exact hcs.skip _ hrest
  | .string hcs, fuel + 1, rest, _, _ => by
    rw [List.cons_append, List.append_assoc, skipValueUpTo.eq_2, skipBlanks_cons (by decide)]
    exact hcs.chars.skip rest
  | .emptyList ha, fuel + 1, rest, _, _ => by
    rw [List.cons_append, List.append_assoc, skipValueUpTo.eq_2, skipBlanks_cons (by decide)]
    simp only [skipBlanks_blank ha]
    rfl
  | .list hcs, fuel + 1, rest, hrest, hfuel => by
    obtain ⟨c, more, hstart, hc⟩ := hcs.starts (']' :: rest)
    simp only [List.length_cons, List.length_append, List.length_nil] at hfuel
    obtain ⟨fuel, rfl⟩ : ∃ n, fuel = n + 2 := ⟨fuel - 2, by omega⟩
    rw [List.cons_append, List.append_assoc]
    calc skipValueUpTo (fuel + 3) ('[' :: (_ ++ ']' :: rest))
        = skipElements (fuel + 2) (skipBlanks (_ ++ ']' :: rest)) := skipValueUpTo_list hstart hc
      _ = skipElements (fuel + 2) (_ ++ ']' :: rest) := skipElements_skipBlanks fuel _
      _ = .ok rest := Elements.skip hcs (by omega)
  | .emptyObject ha, fuel + 1, rest, _, _ => by
    rw [List.cons_append, List.append_assoc, skipValueUpTo.eq_2, skipBlanks_cons (by decide)]
    simp only [skipBlanks_blank ha]
    rfl
  | .object hcs, fuel + 1, rest, hrest, hfuel => by
    obtain ⟨more, hstart⟩ := hcs.starts ('}' :: rest)
    simp only [List.length_cons, List.length_append, List.length_nil] at hfuel
    obtain ⟨fuel, rfl⟩ : ∃ n, fuel = n + 2 := ⟨fuel - 2, by omega⟩
    rw [List.cons_append, List.append_assoc]
    calc skipValueUpTo (fuel + 3) ('{' :: (_ ++ '}' :: rest))
        = skipMembers (fuel + 2) (skipBlanks (_ ++ '}' :: rest)) := skipValueUpTo_object hstart
      _ = skipMembers (fuel + 2) (_ ++ '}' :: rest) := skipMembers_skipBlanks _ _
      _ = .ok rest := Members.skip hcs (by omega)
theorem Elements.skip {ds : List Data} {cs : List Char} : Elements ds cs →
    ∀ {fuel : Nat} {rest : List Char}, 2 * cs.length + 1 < fuel →
      skipElements fuel (cs ++ ']' :: rest) = .ok rest
  | .one ha hv hb, fuel + 2, rest, hfuel => by
    simp only [List.length_append] at hfuel
    rw [List.append_assoc, List.append_assoc]
    refine skipElements_last hb ?_
    rw [skipValueUpTo_blank ha]
    exact Value.skip hv (closes_blank hb (by decide) _) (by omega)
  | .more ha hv hb hcs, fuel + 2, rest, hfuel => by
    simp only [List.length_append, List.length_cons] at hfuel
    simp only [List.append_assoc, List.cons_append]
    refine (skipElements_comma hb ?_).trans (Elements.skip hcs (by omega))
    rw [skipValueUpTo_blank ha]
    exact Value.skip hv (closes_blank hb (by decide) _) (by omega)
theorem MemberText.skip {m : Member Data} {v : List Char} : MemberText m v →
    ∀ {fuel : Nat} {rest : List Char}, Closes rest → 2 * v.length < fuel →
      SkipsMember fuel (v ++ rest) rest
  | .mk hkey hcolon hvalue hv, fuel + 1, rest, hrest, hfuel => by
    simp only [List.length_cons, List.length_append] at hfuel
    simp only [List.cons_append, List.append_assoc]
    refine ⟨_, _, _, rfl, hkey.chars.skip _, colon_blank hcolon _, ?_⟩
    rw [skipValueUpTo_blank hvalue]
    exact Value.skip hv hrest (by omega)
theorem Members.skip {ms : List (Member Data)} {cs : List Char} : Members ms cs →
    ∀ {fuel : Nat} {rest : List Char}, 2 * cs.length + 1 < fuel →
      skipMembers fuel (cs ++ '}' :: rest) = .ok rest
  | .one ha hm hb, fuel + 1, rest, hfuel => by
    simp only [List.length_append] at hfuel
    rw [List.append_assoc, List.append_assoc]
    exact skipMembers_last ha
      (MemberText.skip hm (closes_blank hb (by decide) _) (by omega)) hb
  | .more ha hm hb hms, fuel + 1, rest, hfuel => by
    simp only [List.length_append, List.length_cons] at hfuel
    simp only [List.append_assoc, List.cons_append]
    refine (skipMembers_comma ha ?_ hb).trans (Members.skip hms (by omega))
    exact MemberText.skip hm (closes_blank hb (by decide) _) (by omega)
end

/-- A value that nobody asks for is skipped, behind white space too. -/
theorem Value.skipValue {d : Data} {v : List Char} (h : Value d v) {a rest : List Char}
    (ha : Blank a) (hrest : Closes rest) : Json.skipValue (a ++ (v ++ rest)) = .ok rest := by
  rw [Json.skipValue, skipValueUpTo_blank ha]
  exact h.skip hrest (by simp only [List.length_append]; omega)

end SoleExport.Json
