/-
  Tokens and what follows them.

  The lexer takes the longest token, so what it finds may depend on what follows a
  text.  It does not if the two are *parted*: the text ends its line, or what
  follows starts with a blank, a line end or a semicolon.

  * `Lexer.settled_numeral`, `Lexer.quoted_append`, `Lexer.mark?_append`: numerals,
    literals and marks in parted texts;
  * `Lexer.tokenAfter_append`: every token in parted texts.
-/
import Mathlib.Data.List.Basic
import Mathlib.Data.List.Find
import Mathlib.Data.List.TakeDrop
import SoleExport.Token.Lexer

namespace SoleExport.Lexer

/-! ## Texts that are parted -/

/-- Whether no token goes on with the character, if it does not go on to its end
    whatever follows. -/
def isBreak (c : Char) : Bool := c == ' ' || c == '\n' || c == ';'

/-- What follows a text does not go on with its last token: the text ends its line,
    or what follows starts with a break. -/
def Parted (cs more : List Char) : Prop :=
  cs.getLast? = some '\n' ∨ ∀ c, more.head? = some c → isBreak c = true

section
variable {cs more : List Char}

theorem Parted.head (h : Parted [] more) {c : Char} (hc : more.head? = some c) :
    isBreak c = true := by
  rcases h with h | h
  · cases h
  · exact h c hc

theorem Parted.tail {c : Char} (h : Parted (c :: cs) more) (hc : c ≠ '\n') : Parted cs more := by
  rcases h with h | h
  · rcases cs with _ | ⟨d, cs⟩
    · exact absurd (Option.some.inj h) hc
    · exact Or.inl (by rwa [List.getLast?_cons_cons] at h)
  · exact Or.inr h

theorem Parted.of_append {a : List Char} (h : Parted (a ++ cs) more) (hcs : cs ≠ []) :
    Parted cs more := by
  rcases h with h | h
  · rw [List.getLast?_append_of_ne_nil _ hcs] at h
    exact Or.inl h
  · exact Or.inr h

theorem Parted.of_notMem {a : List Char} (h : Parted (a ++ cs) more) (ha : '\n' ∉ a) :
    Parted cs more := by
  induction a with
  | nil => exact h
  | cons x a ih =>
    rw [List.mem_cons, not_or] at ha
    exact ih (h.tail (Ne.symm ha.1)) ha.2

theorem Parted.behind {a : List Char} {d : Char} (h : Parted (a ++ d :: cs) more) (hd : d ≠ '\n') :
    Parted cs more := (h.of_append (List.cons_ne_nil d cs)).tail hd

/-- A text does not start with a character because of what follows. -/
theorem Parted.ne_cons (h : Parted cs more) {d : Char} (hd : isBreak d = false)
    (hcs : ∀ r, cs = d :: r → False) : ∀ r, cs ++ more = d :: r → False := by
  intro r hr
  rcases cs with _ | ⟨c, cs⟩
  · subst hr
    rw [h.head rfl] at hd
    cases hd
  · obtain ⟨rfl, -⟩ := List.cons.inj hr
    exact hcs cs rfl

/-- Whether there is no break in a text. -/
def isUnbroken (cs : List Char) : Bool := cs.all fun c => !isBreak c

/-- A mark that starts a text and what follows starts the text. -/
theorem isPrefixOf_append {m : List Char} :
    ∀ {cs : List Char}, isUnbroken m = true → Parted cs more →
      m.isPrefixOf (cs ++ more) = m.isPrefixOf cs := by
  induction m with
  | nil => exact fun _ _ => rfl
  | cons x m ih =>
    intro cs hm h
    obtain ⟨hx, hm⟩ := Bool.and_eq_true_iff.1 hm
    rw [Bool.not_eq_true'] at hx
    rcases cs with _ | ⟨c, cs⟩
    · rcases more with _ | ⟨c, more⟩
      · rfl
      · have hc := h.head rfl
        have hne : x ≠ c := by
          rintro rfl
          rw [hx] at hc
          cases hc
        simp [List.isPrefixOf, hne]
    · simp only [List.cons_append, List.isPrefixOf]
      by_cases hxc : x = c
      · have hc : c ≠ '\n' := by
          rintro rfl
          rw [hxc] at hx
          cases hx
        rw [ih hm (h.tail hc)]
      · rw [beq_eq_false_iff_ne.2 hxc, Bool.false_and, Bool.false_and]

/-- A class of characters that tokens go on with: no break is one of them. -/
def GoesOn (p : Char → Bool) : Prop := ∀ c, isBreak c = true → p c = false

theorem GoesOn.intro {p : Char → Bool} (hb : p ' ' = false) (hn : p '\n' = false)
    (hs : p ';' = false) : GoesOn p := by
  intro c hc
  rw [isBreak, Bool.or_eq_true, Bool.or_eq_true, beq_iff_eq, beq_iff_eq, beq_iff_eq] at hc
  rcases hc with (rfl | rfl) | rfl
  · exact hb
  · exact hn
  · exact hs

theorem GoesOn.ne {p : Char → Bool} (hp : GoesOn p) {c : Char} (hc : p c = true) : c ≠ '\n' := by
  rintro rfl
  rw [hp '\n' rfl] at hc
  cases hc

/-- The stretch of such characters that a text starts with ends in the text. -/
theorem span_append {p : Char → Bool} (hp : GoesOn p) (h : Parted cs more) :
    (cs ++ more).takeWhile p = cs.takeWhile p ∧
      (cs ++ more).dropWhile p = cs.dropWhile p ++ more ∧ Parted (cs.dropWhile p) more := by
  induction cs with
  | nil =>
    rcases more with _ | ⟨c, more⟩
    · exact ⟨rfl, rfl, h⟩
    · have hc := hp c (h.head rfl)
      simp [hc, h]
  | cons c cs ih =>
    by_cases hc : p c = true
    · obtain ⟨htake, hdrop, hparted⟩ := ih (h.tail (hp.ne hc))
      simp [hc, htake, hdrop, hparted]
    · simp [hc, h]

end

/-! ## Literals and names in parted texts -/

/-- A part of the lexer that finds the same in a text whatever follows, if that is
    parted from it. -/
def Settled {α : Type} (f : List Char → Option (α × List Char)) : Prop :=
  ∀ ⦃cs more rest : List Char⦄ ⦃a : α⦄, Parted cs more → f cs = some (a, rest) →
    f (cs ++ more) = some (a, rest ++ more) ∧ Parted rest more

theorem goesOn_digits {isDigit : Char → Bool} (h : GoesOn isDigit) :
    GoesOn fun c => isDigit c || c == '_' := by
  intro c hc
  have hne : (c == '_') = false := by
    rw [beq_eq_false_iff_ne]
    rintro rfl
    cases hc
  simp only [h c hc, hne, Bool.or_self]

theorem goesOn_isDigit : GoesOn Char.isDigit := .intro rfl rfl rfl

theorem goesOn_isNameChar : GoesOn isNameChar := .intro rfl rfl rfl

theorem digits_append {isDigit : Char → Bool} (hd : GoesOn isDigit) {cs more : List Char}
    (h : Parted cs more) :
    digits isDigit (cs ++ more) =
        ((digits isDigit cs).1, (digits isDigit cs).2 ++ more) ∧
      Parted (digits isDigit cs).2 more := by
  obtain ⟨htake, hdrop, hparted⟩ := span_append (goesOn_digits hd) h
  simp only [digits, List.span_eq_takeWhile_dropWhile]
  exact ⟨by rw [htake, hdrop], hparted⟩

/-- A mark, such as `0x` or `e+`, with the digits behind it. -/
def markedDigits (isDigit : Char → Bool) (mark cs : List Char) : Option (List Char × List Char) :=
  if (digits isDigit cs).1.isEmpty then none
  else some (mark ++ (digits isDigit cs).1, (digits isDigit cs).2)

theorem settled_markedDigits {isDigit : Char → Bool} (hd : GoesOn isDigit) (mark : List Char) :
    Settled (markedDigits isDigit mark) := by
  intro cs more rest a h hcs
  obtain ⟨happend, hparted⟩ := digits_append hd h
  rw [markedDigits] at hcs ⊢
  rw [happend]
  by_cases hempty : (digits isDigit cs).1.isEmpty = true
  · rw [if_pos hempty] at hcs
    cases hcs
  · rw [if_neg hempty] at hcs ⊢
    cases hcs
    exact ⟨rfl, hparted⟩

theorem exponentPart_of_ne {c : Char} (hc : (c == 'e' || c == 'E') = false) (cs : List Char) :
    exponentPart (c :: cs) = some ([], c :: cs) := by
  unfold exponentPart
  split <;> simp_all

theorem exponentPart_of_mark {c : Char} (hc : (c == 'e' || c == 'E') = true) (cs : List Char) :
    exponentPart (c :: cs) =
      match cs with
      | '+' :: cs => markedDigits Char.isDigit [c, '+'] cs
      | '-' :: cs => markedDigits Char.isDigit [c, '-'] cs
      | cs => markedDigits Char.isDigit [c] cs := by
  unfold exponentPart
  split
  case h_1 e rest heq =>
    obtain ⟨rfl, rfl⟩ := List.cons.inj heq
    exact if_pos hc
  case h_2 e rest heq =>
    obtain ⟨rfl, rfl⟩ := List.cons.inj heq
    exact if_pos hc
  case h_3 e rest hplus hminus heq =>
    obtain ⟨rfl, rfl⟩ := List.cons.inj heq
    rw [if_pos hc]
    split
    · exact absurd rfl (hplus _)
    · exact absurd rfl (hminus _)
    · rfl
  case h_4 heq => cases heq

theorem settled_exponentPart : Settled exponentPart := by
  intro cs more rest a h hcs
  rcases cs with _ | ⟨c, cs⟩
  · cases hcs
    refine ⟨?_, h⟩
    rcases more with _ | ⟨c, more⟩
    · rfl
    · have hc : isBreak c = true := h.head rfl
      refine exponentPart_of_ne ?_ more
      by_contra he
      rw [Bool.not_eq_false, Bool.or_eq_true, beq_iff_eq, beq_iff_eq] at he
      rcases he with rfl | rfl <;> cases hc
  · by_cases hc : (c == 'e' || c == 'E') = true
    · have htail : Parted cs more := by
        refine h.tail ?_
        rintro rfl
        cases hc
      rw [List.cons_append, exponentPart_of_mark hc]
      rw [exponentPart_of_mark hc] at hcs
      split at hcs
      · exact settled_markedDigits goesOn_isDigit _ (htail.tail (by decide)) hcs
      · exact settled_markedDigits goesOn_isDigit _ (htail.tail (by decide)) hcs
      · obtain ⟨happend, hparted⟩ := settled_markedDigits goesOn_isDigit _ htail hcs
        refine ⟨?_, hparted⟩
        rcases cs with _ | ⟨d, cs⟩
        · cases hcs
        · rw [List.cons_append] at happend ⊢
          split
          · exact absurd ‹_› (by simp_all)
          · exact absurd ‹_› (by simp_all)
          · exact happend
    · rw [Bool.not_eq_true] at hc
      rw [exponentPart_of_ne hc] at hcs
      cases hcs
      exact ⟨exponentPart_of_ne hc _, h⟩

/-- The fraction of a numeral, if it has one, and what follows. -/
def fractionPart (cs : List Char) : List Char × List Char :=
  match cs with
  | '.' :: cs => ('.' :: (digits Char.isDigit cs).1, (digits Char.isDigit cs).2)
  | cs => ([], cs)

theorem fractionPart_append {cs more : List Char} (h : Parted cs more) :
    fractionPart (cs ++ more) = ((fractionPart cs).1, (fractionPart cs).2 ++ more) ∧
      Parted (fractionPart cs).2 more := by
  rcases cs with _ | ⟨c, cs⟩
  · refine ⟨?_, h⟩
    rcases more with _ | ⟨c, more⟩
    · rfl
    · have hc : isBreak c = true := h.head rfl
      rw [List.nil_append, fractionPart]
      · rfl
      · rintro more' ⟨⟩
        cases hc
  · by_cases hc : c = '.'
    · subst hc
      obtain ⟨happend, hparted⟩ := digits_append goesOn_isDigit (h.tail (by decide))
      rw [List.cons_append, fractionPart, fractionPart, happend]
      exact ⟨rfl, hparted⟩
    · have hne : ∀ cs : List Char, fractionPart (c :: cs) = ([], c :: cs) := by
        intro cs
        rw [fractionPart]
        rintro cs' ⟨⟩
        exact hc rfl
      rw [List.cons_append, hne, hne]
      exact ⟨rfl, h⟩

theorem decimalPart_eq (cs : List Char) :
    decimalPart cs =
      let whole := (digits Char.isDigit cs).1
      let rest := (digits Char.isDigit cs).2
      if Numeral.isOldOctal whole then some (whole, rest)
      else (exponentPart (fractionPart rest).2).map fun r =>
        (whole ++ (fractionPart rest).1 ++ r.1, r.2) := by
  unfold decimalPart
  dsimp only
  split_ifs
  · rfl
  · change (do
      let r ← exponentPart (fractionPart (digits Char.isDigit cs).2).2
      return ((digits Char.isDigit cs).1 ++ (fractionPart (digits Char.isDigit cs).2).1 ++ r.1,
        r.2)) = _
    rcases exponentPart (fractionPart (digits Char.isDigit cs).2).2 <;> rfl

theorem settled_decimalPart : Settled decimalPart := by
  intro cs more rest a h hcs
  obtain ⟨happend, hdigits⟩ := digits_append goesOn_isDigit h
  obtain ⟨hfraction, hparted⟩ := fractionPart_append hdigits
  rw [decimalPart_eq] at hcs ⊢
  simp only [happend] at hcs ⊢
  by_cases hold : Numeral.isOldOctal (digits Char.isDigit cs).1 = true
  · rw [if_pos hold] at hcs ⊢
    cases hcs
    exact ⟨rfl, hdigits⟩
  · rw [if_neg hold] at hcs ⊢
    rw [Option.map_eq_some_iff] at hcs
    obtain ⟨r, hr, heq⟩ := hcs
    cases heq
    obtain ⟨hexponent, hrest⟩ := settled_exponentPart hparted hr
    rw [hfraction]
    exact ⟨by rw [hexponent]; rfl, hrest⟩

/-- The digits that may follow `0x`, `0o` or `0b`. -/
def basedDigit? (x : Char) : Option (Char → Bool) :=
  if x == 'x' || x == 'X' then some Numeral.isHexDigit
  else if x == 'o' || x == 'O' then some Escape.isOctalDigit
  else if x == 'b' || x == 'B' then some fun c => c == '0' || c == '1'
  else none

theorem numeral_zero (x : Char) (cs : List Char) :
    numeral ('0' :: x :: cs) =
      match basedDigit? x with
      | some isDigit => markedDigits isDigit ['0', x] cs
      | none => decimalPart ('0' :: x :: cs) := by
  unfold numeral
  split
  case h_1 y rest heq =>
    obtain ⟨rfl, rfl⟩ := List.cons.inj (List.cons.inj heq).2
    unfold basedDigit?
    split_ifs <;> rfl
  case h_2 hne => exact absurd rfl (hne _ _)

theorem goesOn_basedDigit {x : Char} {isDigit : Char → Bool} (h : basedDigit? x = some isDigit) :
    GoesOn isDigit := by
  unfold basedDigit? at h
  split_ifs at h
  all_goals
    cases h
    exact .intro rfl rfl rfl

theorem basedDigit?_of_isBreak {x : Char} (h : isBreak x = true) : basedDigit? x = none := by
  rw [isBreak, Bool.or_eq_true, Bool.or_eq_true, beq_iff_eq, beq_iff_eq, beq_iff_eq] at h
  rcases h with (rfl | rfl) | rfl <;> rfl

theorem numeral_eq_decimalPart {cs : List Char}
    (h : ∀ x cs', cs = '0' :: x :: cs' → basedDigit? x = none) : numeral cs = decimalPart cs := by
  by_cases hzero : ∃ x cs', cs = '0' :: x :: cs'
  · obtain ⟨x, cs', rfl⟩ := hzero
    rw [numeral_zero, h x cs' rfl]
  · unfold numeral
    split
    · exact absurd ⟨_, _, rfl⟩ hzero
    · rfl

theorem settled_numeral : Settled numeral := by
  intro cs more rest a h hcs
  by_cases hbased : ∃ x cs' isDigit, cs = '0' :: x :: cs' ∧ basedDigit? x = some isDigit
  · obtain ⟨x, cs', isDigit, rfl, hx⟩ := hbased
    have hne : x ≠ '\n' := by
      rintro rfl
      rw [basedDigit?_of_isBreak rfl] at hx
      cases hx
    rw [numeral_zero, hx] at hcs
    rw [List.cons_append, List.cons_append, numeral_zero, hx]
    exact settled_markedDigits (goesOn_basedDigit hx) _ ((h.tail (by decide)).tail hne) hcs
  · have hnone : ∀ x cs', cs = '0' :: x :: cs' → basedDigit? x = none := by
      intro x cs' heq
      by_contra hx
      obtain ⟨isDigit, hx⟩ := Option.ne_none_iff_exists'.1 hx
      exact hbased ⟨x, cs', isDigit, heq, hx⟩
    have hmore : ∀ x cs', cs ++ more = '0' :: x :: cs' → basedDigit? x = none := by
      intro x cs' heq
      rcases cs with _ | ⟨c, _ | ⟨d, cs⟩⟩
      · subst heq
        cases h.head rfl
      · obtain ⟨rfl, rfl⟩ := List.cons.inj heq
        exact basedDigit?_of_isBreak ((h.tail (by decide)).head rfl)
      · obtain ⟨rfl, htail⟩ := List.cons.inj heq
        obtain ⟨rfl, -⟩ := List.cons.inj htail
        exact hnone d cs rfl
    rw [numeral_eq_decimalPart hnone] at hcs
    rw [numeral_eq_decimalPart hmore]
    exact settled_decimalPart h hcs

theorem quote_ne {c : Char} (h : (c == '"' || c == '\'') = true) : c ≠ '\\' := by
  rintro rfl
  cases h

/-- A literal that ends does so whatever follows. -/
theorem quoted_append {quote : Char} (hquote : quote ≠ '\\') (more : List Char)
    {cs rest raw : List Char} (h : quoted quote cs = (raw, true, rest)) :
    quoted quote (cs ++ more) = (raw, true, rest ++ more) := by
  fun_induction quoted quote cs generalizing raw rest with
  | case1 => cases h
  | case2 cs r =>
    rename_i ih
    obtain ⟨rfl, hr⟩ := Prod.mk.inj h
    rw [List.cons_append, List.cons_append, List.cons_append, quoted, ih (Prod.ext rfl hr)]
  | case3 c cs hbreak r =>
    rename_i ih
    obtain ⟨rfl, hr⟩ := Prod.mk.inj h
    have happend : ∀ cs', c = '\r' → cs ++ more = '\n' :: cs' → False := by
      intro cs' hc hcs'
      rcases cs with _ | ⟨d, cs⟩
      · cases hr
      · obtain ⟨rfl, -⟩ := List.cons.inj hcs'
        exact hbreak cs hc rfl
    rw [List.cons_append, List.cons_append, quoted.eq_3 _ _ _ happend, ih (Prod.ext rfl hr)]
  | case4 c cs _ _ hc =>
    cases h
    rw [beq_iff_eq] at hc
    subst hc
    rw [List.cons_append, quoted, if_pos (beq_self_eq_true c)]
    · exact fun _ hc => absurd hc hquote
    · exact fun _ _ hc => absurd hc hquote
  | case5 => cases h
  | case6 c cs _ hescape hc hend r =>
    rename_i ih
    obtain ⟨rfl, hr⟩ := Prod.mk.inj h
    -- a backslash would be followed by a character
    have hne : c ≠ '\\' := by
      intro hc
      rcases cs with _ | ⟨d, cs⟩
      · cases hr
      · exact hescape d cs hc rfl
    rw [List.cons_append, quoted, if_neg hc, if_neg hend, ih (Prod.ext rfl hr)]
    · exact fun _ hc => absurd hc hne
    · exact fun _ _ hc => absurd hc hne

theorem quoted_eq {quote : Char} {cs rest raw : List Char}
    (h : quoted quote cs = (raw, true, rest)) : cs = raw ++ quote :: rest := by
  fun_induction quoted quote cs generalizing raw rest with
  | case1 => cases h
  | case2 cs r =>
    rename_i ih
    obtain ⟨rfl, hr⟩ := Prod.mk.inj h
    exact congrArg (['\\', '\r', '\n'] ++ ·) (ih (Prod.ext rfl hr))
  | case3 c cs _ r =>
    rename_i ih
    obtain ⟨rfl, hr⟩ := Prod.mk.inj h
    exact congrArg (['\\', c] ++ ·) (ih (Prod.ext rfl hr))
  | case4 c cs _ _ hc =>
    cases h
    rw [beq_iff_eq] at hc
    rw [hc]
    rfl
  | case5 => cases h
  | case6 c cs _ _ _ _ r =>
    rename_i ih
    obtain ⟨rfl, hr⟩ := Prod.mk.inj h
    exact congrArg (c :: ·) (ih (Prod.ext rfl hr))

/-! ## Marks in parted texts -/

theorem isQuestionNumber_of_not_start {cs : List Char}
    (h : ['?', '.'].isPrefixOf cs = false) : isQuestionNumber cs = false := by
  unfold isQuestionNumber
  split
  · cases h
  · rfl

theorem isQuestionNumber_append {cs more : List Char} (h : Parted cs more) :
    isQuestionNumber (cs ++ more) = isQuestionNumber cs := by
  have hstart := isPrefixOf_append (m := ['?', '.']) rfl h
  by_cases hcs : ['?', '.'].isPrefixOf cs = true
  · obtain ⟨rest, rfl⟩ := List.isPrefixOf_iff_prefix.1 hcs
    rcases rest with _ | ⟨d, rest⟩
    · rcases more with _ | ⟨d, more⟩
      · rfl
      · have hd : isBreak d = true := ((h.tail (by decide)).tail (by decide)).head rfl
        exact goesOn_isDigit d hd
    · rfl
  · rw [Bool.not_eq_true] at hcs
    rw [isQuestionNumber_of_not_start hcs, isQuestionNumber_of_not_start (hstart.trans hcs)]

/-- A text that starts with a mark does so whatever follows, and with no longer one. -/
theorem mark?_append {c : Char} {cs more : List Char} (h : Parted (c :: cs) more) :
    mark? (c :: cs ++ more) = mark? (c :: cs) := by
  have hbreaks : ∀ m ∈ marks, m = ";" ∨ isUnbroken m.toList = true := by decide
  have hstart : ∀ m ∈ marks,
      m.toList.isPrefixOf (c :: cs ++ more) = m.toList.isPrefixOf (c :: cs) := by
    intro m hm
    rcases hbreaks m hm with rfl | hm
    · rfl
    · exact isPrefixOf_append hm h
  rw [mark?, mark?, isQuestionNumber_append h]
  split_ifs
  · rfl
  · exact List.find?_congr hstart

/-- What follows a mark, and what follows it if more does. -/
theorem mark?_rest {c : Char} {cs more : List Char} {m : String} (h : Parted (c :: cs) more)
    (hm : mark? (c :: cs) = some m) :
    (c :: cs ++ more).drop m.length = (c :: cs).drop m.length ++ more ∧
      Parted ((c :: cs).drop m.length) more := by
  have hstart : m.toList <+: c :: cs ∧ '\n' ∉ m.toList := by
    have hends : ∀ m ∈ marks, '\n' ∉ m.toList := by decide
    rw [mark?] at hm
    split_ifs at hm with hq
    · cases hm
      unfold isQuestionNumber at hq
      split at hq
      · exact ⟨⟨_, (‹_ = _› : c :: cs = _).symm⟩, by decide⟩
      · cases hq
    · have hstarts := List.find?_some hm
      exact ⟨List.isPrefixOf_iff_prefix.1 hstarts, hends m (List.mem_of_find?_eq_some hm)⟩
  obtain ⟨⟨rest, hrest⟩, hends⟩ := hstart
  rw [← hrest] at h ⊢
  rw [← String.length_toList, List.append_assoc, List.drop_left, List.drop_left]
  exact ⟨rfl, h.of_notMem hends⟩

/-! ## Tokens in parted texts -/

/-- Whether the text starts with a literal in quotes that does not end. -/
def isOpenLiteral (cs : List Char) : Bool :=
  match cs with
  | [] => false
  | c :: cs => (c == '"' || c == '\'') && !(quoted c cs).2.1

/-- Whether the text starts with a name in which there is an escape. -/
def startsEscaped (cs : List Char) : Bool :=
  match cs with
  | '#' :: cs => (cs.dropWhile isNameChar).head? == some '\\'
  | cs => (cs.dropWhile isNameChar).head? == some '\\'

section
variable {cs more : List Char} {t : Trivia}

theorem head?_append_ne (h : Parted cs more) (hcs : cs.head? ≠ some '\\') :
    (cs ++ more).head? ≠ some '\\' := by
  rcases cs with _ | ⟨c, cs⟩
  · intro hmore
    cases h.head hmore
  · exact hcs

theorem startsName_append (h : Parted cs more) (hcs : cs.head? ≠ some '\\') :
    startsName (cs ++ more) = startsName cs := by
  have hplain : ∀ (c : Char) (cs : List Char), c ≠ '\\' → startsName (c :: cs) = isNameStart c := by
    intro c cs hc
    rw [startsName]
    exact hc
  rcases cs with _ | ⟨c, cs⟩
  · rcases more with _ | ⟨c, more⟩
    · rfl
    · have hc : isBreak c = true := h.head rfl
      have hgoes : GoesOn isNameStart := .intro rfl rfl rfl
      rw [List.nil_append, hplain c more, hgoes c hc]
      · rfl
      · rintro rfl
        cases hc
  · have hc : c ≠ '\\' := fun hc => hcs (congrArg some hc)
    rw [List.cons_append, hplain c _ hc, hplain c _ hc]

theorem head?_ne_of_dropWhile (hcs : (cs.dropWhile isNameChar).head? ≠ some '\\') :
    cs.head? ≠ some '\\' := by
  rcases cs with _ | ⟨c, cs⟩
  · exact hcs
  · intro hc
    obtain rfl := Option.some.inj hc
    exact hcs rfl

/-- A name without escapes is the stretch of its characters. -/
theorem name_eq (hcs : (cs.dropWhile isNameChar).head? ≠ some '\\') :
    name cs = (cs.takeWhile isNameChar, byteLength (cs.takeWhile isNameChar),
      cs.dropWhile isNameChar) := by
  rw [name, List.span_eq_takeWhile_dropWhile]
  exact if_neg (by simpa using hcs)

theorem name_append (h : Parted cs more) (hcs : (cs.dropWhile isNameChar).head? ≠ some '\\') :
    name (cs ++ more) = ((name cs).1, (name cs).2.1, (name cs).2.2 ++ more) ∧
      Parted (name cs).2.2 more := by
  obtain ⟨htake, hdrop, hparted⟩ := span_append goesOn_isNameChar h
  have hmore := head?_append_ne hparted hcs
  rw [← hdrop] at hmore
  rw [name_eq hmore, name_eq hcs, htake, hdrop]
  exact ⟨rfl, hparted⟩

theorem word_append (h : Parted cs more) (hcs : (cs.dropWhile isNameChar).head? ≠ some '\\') :
    word t (cs ++ more) = ((word t cs).1, (word t cs).2 ++ more) ∧ Parted (word t cs).2 more := by
  obtain ⟨happend, hparted⟩ := name_append h hcs
  simp only [word, happend]
  exact ⟨trivial, hparted⟩

/-- A numeral that is not that of a big integer. -/
theorem number_eq {raw rest : List Char} (hcs : numeral cs = some (raw, rest))
    (hrest : ∀ r, rest = 'n' :: r → False) :
    number t cs =
      (make t (if startsName rest then .bad
          else .number (((Numeral.value? raw).map Tree.num).getD .null))
        (String.ofList raw) (byteLength raw), rest) := by
  simp only [number, hcs]

theorem number_append (h : Parted cs more) (hbad : (number t cs).1.kind ≠ .bad)
    (hrest : (number t cs).2.head? ≠ some '\\') :
    number t (cs ++ more) = ((number t cs).1, (number t cs).2 ++ more) ∧
      Parted (number t cs).2 more := by
  rcases hn : numeral cs with _ | ⟨raw, rest⟩
  · exact absurd (by rw [number, hn]; rfl) hbad
  · obtain ⟨hn', hparted⟩ := settled_numeral h hn
    by_cases hbig : ∃ r, rest = 'n' :: r
    · obtain ⟨r, rfl⟩ := hbig
      have htail := hparted.tail (by decide)
      simp only [number, hn, hn', List.cons_append] at hrest ⊢
      rw [startsName_append htail hrest]
      exact ⟨rfl, htail⟩
    · have hsmall : ∀ r, rest = 'n' :: r → False := fun r hr => hbig ⟨r, hr⟩
      have hmore := hparted.ne_cons (d := 'n') rfl hsmall
      rw [number_eq hn hsmall] at hrest ⊢
      rw [number_eq hn' hmore, startsName_append hparted hrest]
      exact ⟨rfl, hparted⟩

theorem isOpenLiteral_append (h : isOpenLiteral cs = false) (hcs : cs ≠ []) :
    isOpenLiteral (cs ++ more) = false := by
  rcases cs with _ | ⟨c, cs⟩
  · exact absurd rfl hcs
  · simp only [List.cons_append, isOpenLiteral] at h ⊢
    by_cases hc : (c == '"' || c == '\'') = true
    · rw [hc, Bool.true_and, Bool.not_eq_false'] at h ⊢
      rw [quoted_append (quote_ne hc) more (Prod.ext rfl (Prod.ext h rfl))]
    · rw [Bool.not_eq_true] at hc
      rw [hc, Bool.false_and]

/-- A literal that ends is found again if more follows. -/
theorem string_append {c : Char} (h : Parted (c :: cs) more)
    (hquote : (c == '"' || c == '\'') = true) (hends : (quoted c cs).2.1 = true) :
    string t c (cs ++ more) = ((string t c cs).1, (string t c cs).2 ++ more) ∧
      Parted (string t c cs).2 more := by
  have hclosed : quoted c cs = ((quoted c cs).1, true, (quoted c cs).2.2) :=
    Prod.ext rfl (Prod.ext hends rfl)
  have hline : c ≠ '\n' := by
    rintro rfl
    cases hquote
  simp only [string, quoted_append (quote_ne hquote) more hclosed, hends]
  exact ⟨trivial, (quoted_eq hclosed ▸ h.tail hline).behind hline⟩

theorem startsEscaped_eq (c : Char) (cs : List Char) :
    startsEscaped (c :: cs) =
      (((if c = '#' then cs else c :: cs).dropWhile isNameChar).head? == some '\\') := by
  by_cases hc : c = '#'
  · subst hc
    rfl
  · rw [if_neg hc, startsEscaped]
    rintro cs' ⟨⟩
    exact hc rfl

theorem startsEscaped_append {c : Char} (h : Parted (c :: cs) more)
    (hcs : startsEscaped (c :: cs) = false) : startsEscaped (c :: cs ++ more) = false := by
  rw [startsEscaped_eq, beq_eq_false_iff_ne] at hcs
  rw [List.cons_append, startsEscaped_eq, beq_eq_false_iff_ne]
  have hpart : Parted (if c = '#' then cs else c :: cs) more := by
    split_ifs with hc
    · exact h.tail (hc ▸ by decide)
    · exact h
  obtain ⟨-, hdrop, hparted⟩ := span_append goesOn_isNameChar hpart
  have happend : (if c = '#' then cs ++ more else c :: (cs ++ more)) =
      (if c = '#' then cs else c :: cs) ++ more := by
    split_ifs <;> rfl
  rw [happend, hdrop]
  exact head?_append_ne hparted hcs

/-- Whether a numeral starts with the character, given what follows it. -/
def startsNumber (c : Char) (cs : List Char) : Bool :=
  c.isDigit || (c == '.' && (cs.head?.map Char.isDigit).getD false)

theorem startsNumber_append {c : Char} (h : Parted (c :: cs) more) :
    startsNumber c (cs ++ more) = startsNumber c cs := by
  rcases cs with _ | ⟨d, cs⟩
  · by_cases hc : c = '.'
    · subst hc
      rcases more with _ | ⟨d, more⟩
      · rfl
      · have hd := goesOn_isDigit d ((h.tail (by decide)).head rfl)
        simp [startsNumber, hd]
    · simp [startsNumber, hc]
  · rfl

section
variable {c : Char}

theorem tokenAfter_word (hname : startsName (c :: cs) = true) :
    tokenAfter t (c :: cs) = word t (c :: cs) := if_pos hname

theorem tokenAfter_number (hname : startsName (c :: cs) = false)
    (hnumber : startsNumber c cs = true) : tokenAfter t (c :: cs) = number t (c :: cs) := by
  rw [tokenAfter, hname, if_neg (by decide)]
  exact if_pos hnumber

variable (hname : startsName (c :: cs) = false) (hnumber : startsNumber c cs = false)
include hname hnumber

theorem tokenAfter_string (hquote : (c == '"' || c == '\'') = true) :
    tokenAfter t (c :: cs) = string t c cs := by
  rw [startsNumber] at hnumber
  simp only [tokenAfter, hname, hnumber, hquote, Bool.false_eq_true, if_false, if_true]

theorem tokenAfter_hash (hhash : c = '#') :
    tokenAfter t (c :: cs) =
      (make t (if startsName cs then .privateName else .bad) (String.ofList (name cs).1)
        ((name cs).2.1 + 1), (name cs).2.2) := by
  subst hhash
  rw [startsNumber] at hnumber
  simp only [tokenAfter, hname, hnumber, Bool.false_eq_true, if_false]
  rfl

theorem tokenAfter_mark (hquote : (c == '"' || c == '\'') = false) (hhash : c ≠ '#') :
    tokenAfter t (c :: cs) =
      match mark? (c :: cs) with
      | some m => (make t .mark m m.length, (c :: cs).drop m.length)
      | none => (make t .bad (String.singleton c) c.utf8Size, cs) := by
  have hsharp : ¬ (c == '#') = true := by rwa [beq_iff_eq]
  rw [← Bool.not_eq_true] at hname hnumber hquote
  exact (if_neg hname).trans ((if_neg hnumber).trans ((if_neg hquote).trans (if_neg hsharp)))

end

/-- Every token is found again if more follows. -/
theorem tokenAfter_append {c : Char} (h : Parted (c :: cs) more)
    (hopen : isOpenLiteral (c :: cs) = false) (hescape : startsEscaped (c :: cs) = false)
    (hbad : (tokenAfter t (c :: cs)).1.kind ≠ .bad)
    (hrest : (tokenAfter t (c :: cs)).2.head? ≠ some '\\') :
    tokenAfter t (c :: cs ++ more) =
        ((tokenAfter t (c :: cs)).1, (tokenAfter t (c :: cs)).2 ++ more) ∧
      Parted (tokenAfter t (c :: cs)).2 more := by
  rw [startsEscaped_eq, beq_eq_false_iff_ne] at hescape
  have hne : (c :: cs).head? ≠ some '\\' := by
    rintro hc
    obtain rfl := Option.some.inj hc
    exact hescape rfl
  have hname : startsName (c :: (cs ++ more)) = startsName (c :: cs) := startsName_append h hne
  have hnumber : startsNumber c (cs ++ more) = startsNumber c cs := startsNumber_append h
  rw [List.cons_append]
  rcases hn : startsName (c :: cs) with _ | _
  · rw [hn] at hname
    rcases hd : startsNumber c cs with _ | _
    · rw [hd] at hnumber
      rcases hquote : (c == '"' || c == '\'') with _ | _
      · by_cases hhash : c = '#'
        · rw [tokenAfter_hash hn hd hhash] at hbad ⊢
          rw [tokenAfter_hash hname hnumber hhash]
          rw [if_pos hhash] at hescape
          have htail := h.tail (by rw [hhash]; decide)
          obtain ⟨happend, hparted⟩ := name_append htail hescape
          rw [startsName_append htail (head?_ne_of_dropWhile hescape), happend]
          exact ⟨rfl, hparted⟩
        · rw [tokenAfter_mark hn hd hquote hhash] at hbad ⊢
          rw [tokenAfter_mark hname hnumber hquote hhash]
          rcases hm : mark? (c :: cs) with _ | m
          · rw [hm] at hbad
            exact absurd rfl hbad
          · obtain ⟨hdrop, hparted⟩ := mark?_rest h hm
            rw [← List.cons_append, mark?_append h, hm]
            exact ⟨Prod.ext rfl hdrop, hparted⟩
      · rw [tokenAfter_string hn hd hquote] at hbad ⊢
        rw [tokenAfter_string hname hnumber hquote]
        rw [isOpenLiteral, hquote, Bool.true_and, Bool.not_eq_false'] at hopen
        exact string_append h hquote hopen
    · rw [hd] at hnumber
      rw [tokenAfter_number hn hd] at hbad hrest ⊢
      rw [tokenAfter_number hname hnumber]
      exact number_append h hbad hrest
  · -- a word has no escapes
    have hhash : c ≠ '#' := by
      rintro rfl
      cases hn
    rw [if_neg hhash] at hescape
    rw [tokenAfter_word hn, tokenAfter_word (hname.trans hn), ← List.cons_append]
    exact word_append h hescape

end

end SoleExport.Lexer
