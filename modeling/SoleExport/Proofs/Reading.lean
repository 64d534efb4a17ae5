/-
  Texts as sequences of tokens.

  What stands between tokens is *idle*: white space and whole comments.  A text
  reads as tokens (`Lexer.Reads`) if the lexer finds them one after the other with
  idle text around them, the grammar asking for each in its way (`Lexer.Goal`).

  * `Lexer.take_append`: what is asked for is found whatever follows;
  * `Lexer.Reads.token`: the lexer finds the first token, whatever came before;
  * `Lexer.Reads.unique`: a text reads in one way for the same goals;
  * `Lexer.Reads.append`: parted texts read one after the other.
-/
import SoleExport.Proofs.Parting

namespace SoleExport

/-- A comment that ends where it is written to end: with its line, or at the first
    `*/`. -/
def Comment.IsWhole (c : Comment) : Prop :=
  match c.kind with
  | .line => ∀ x ∈ c.text.toList, isLineEnd x = false
  | .block => ¬ ['*', '/'] <:+: c.text.toList

instance : (c : Comment) → Decidable c.IsWhole
  | ⟨.line, text⟩ => List.decidableBAll (fun x => isLineEnd x = false) text.toList
  | ⟨.block, text⟩ => inferInstanceAs (Decidable (¬ ['*', '/'] <:+: text.toList))

namespace Lexer

/-! ## Between tokens -/

/-- White space and whole comments; line comments with the ends of their lines. -/
inductive Idle : List Char → Prop
  | nil : Idle []
  | space {c : Char} {text : List Char} : (isBlank c || isLineEnd c) = true → Idle text →
      Idle (c :: text)
  | line {c : Comment} {e : Char} {text : List Char} : c.kind = .line → c.IsWhole →
      isLineEnd e = true → Idle text → Idle (c.written.toList ++ e :: text)
  | block {c : Comment} {text : List Char} : c.kind = .block → c.IsWhole → Idle text →
      Idle (c.written.toList ++ text)

theorem Idle.append {a b : List Char} (ha : Idle a) (hb : Idle b) : Idle (a ++ b) := by
  induction ha with
  | nil => exact hb
  | space hc _ ih => exact .space hc ih
  | line hk hw he _ ih =>
    rw [List.append_assoc, List.cons_append]
    exact .line hk hw he ih
  | block hk hw _ ih =>
    rw [List.append_assoc]
    exact .block hk hw ih

theorem skip_line {body : List Char} (hbody : ∀ x ∈ body, isLineEnd x = false) {e : Char}
    (he : isLineEnd e = true) (rest : List Char) :
    ∀ (text : List Char) (t : Trivia),
      ∃ t', skip (.line text) t (body ++ e :: rest) = skip .between t' rest := by
  induction body with
  | nil =>
    intro text t
    rw [List.nil_append, skip, if_pos he]
    exact ⟨_, rfl⟩
  | cons x body ih =>
    intro text t
    have hx : ¬ isLineEnd x = true := by simp [hbody x List.mem_cons_self]
    rw [List.cons_append, skip, if_neg hx]
    exact ih (fun y hy => hbody y (List.mem_cons_of_mem _ hy)) _ _

theorem skip_block (rest : List Char) :
    ∀ {body : List Char}, ¬ ['*', '/'] <:+: body → ∀ (text : List Char) (t : Trivia),
      ∃ t', skip (.block text) t (body ++ '*' :: '/' :: rest) = skip .between t' rest
  | [], _, text, t => ⟨_, by rw [List.nil_append, skip]⟩
  | x :: body, hbody, text, t => by
    have hends : ∀ cs : List Char, x = '*' → body ++ '*' :: '/' :: rest = '/' :: cs → False := by
      intro cs hx hcs
      rcases body with _ | ⟨y, body⟩
      · cases hcs
      · obtain ⟨rfl, -⟩ := List.cons.inj hcs
        exact hbody ⟨[], body, by rw [hx]; rfl⟩
    rw [List.cons_append, skip]
    · exact skip_block rest (fun h => hbody (h.trans (List.suffix_cons x body).isInfix)) _ _
    · exact hends

/-- **Idle text is skipped**, whatever follows it. -/
theorem Idle.skip {gap : List Char} (h : Idle gap) (rest : List Char) :
    ∀ t : Trivia, ∃ t', Lexer.skip .between t (gap ++ rest) = Lexer.skip .between t' rest := by
  induction h with
  | nil => exact fun t => ⟨t, rfl⟩
  | @space c text hc _ ih =>
    intro t
    -- a space opens no comment
    have hne : ∀ d, (isBlank d || isLineEnd d) = false → c ≠ d := by
      rintro d hd rfl
      rw [hd] at hc
      cases hc
    rw [List.cons_append, Lexer.skip]
    · by_cases he : isLineEnd c = true
      · rw [if_pos he]
        exact ih _
      · rw [if_neg he, if_pos (by simpa [he] using hc)]
        exact ih _
    all_goals
      intros
      exact absurd ‹c = _› (hne _ (by decide))
  | @line c e text hk hw he _ ih =>
    intro t
    have hwritten : c.written.toList = '/' :: '/' :: c.text.toList := by simp [Comment.written, hk]
    rw [Comment.IsWhole, hk] at hw
    obtain ⟨t', ht'⟩ := skip_line hw he (text ++ rest) [] (t.enter 2)
    obtain ⟨t'', ht''⟩ := ih t'
    refine ⟨t'', ?_⟩
    rw [hwritten, List.append_assoc, List.cons_append, List.cons_append, Lexer.skip,
      List.cons_append, ht', ht'']
  | @block c text hk hw _ ih =>
    intro t
    have hwritten : c.written.toList = '/' :: '*' :: (c.text.toList ++ ['*', '/']) := by
      simp [Comment.written, hk]
    rw [Comment.IsWhole, hk] at hw
    obtain ⟨t', ht'⟩ := skip_block (text ++ rest) hw [] (t.enter 2)
    obtain ⟨t'', ht''⟩ := ih t'
    refine ⟨t'', ?_⟩
    rw [hwritten, List.append_assoc, List.cons_append, List.cons_append, Lexer.skip,
      List.append_assoc, List.cons_append, List.cons_append, List.nil_append, ht', ht'']

/-- What comments open with. -/
def openers : List String := ["//", "/*", "<!--", "-->"]

/-- Whether a token starts here: no white space and no comment does. -/
def startsToken (cs : List Char) : Bool :=
  cs.head?.any (fun c => !isBlank c && !isLineEnd c) && openers.all fun o => !o.toList.isPrefixOf cs

theorem skip_of_startsToken {cs : List Char} (h : startsToken cs = true) (t : Trivia) :
    skip .between t cs = (t, cs) := by
  rw [startsToken, Bool.and_eq_true] at h
  obtain ⟨hhead, hopen⟩ := h
  unfold skip
  split <;> simp_all [openers]

/-! ## Tokens by goals -/

/-- What the grammar asks for. -/
inductive Goal where
  /-- a token that is found without asking for it -/
  | plain
  /-- a mark that starts with `>` -/
  | operator
  /-- a regular expression -/
  | regex
  /-- a stretch of a template, with the mark before it -/
  | template
  /-- the text behind a tag or an expression in markup, with the mark before it -/
  | markup
  /-- a name in a tag -/
  | tagName
  /-- a literal as the value of an attribute -/
  | value
deriving DecidableEq, Repr, Inhabited

/-- The text after a token that is found without asking for it. -/
def afterPlain? (cs : List Char) : Option (List Char) :=
  let (t, rest) := tokenAfter (.start 1 false) cs
  if isOpenLiteral cs || startsEscaped cs || rest.head? == some '\\' then none
  else
    match t.kind with
    | .bad | .eof => none
    | _ => some rest

/-- The text after the token that the grammar asks for, if one starts here.  Names
    in it are written without escapes. -/
def take : Goal → List Char → Option (List Char)
  | .plain, cs => afterPlain? cs
  | .operator, '>' :: cs => some (widen (make (.start 1 false) .mark ">" 1) cs).2
  | .regex, '/' :: cs => (regex default cs).map Prod.snd
  | .template, '`' :: cs | .template, '\x7d' :: cs => (chunk 1 cs).map fun r => r.2.1
  | .markup, '>' :: cs | .markup, '\x7d' :: cs =>
    let rest := (markup 1 cs).2
    if rest.isEmpty then none else some rest
  | .tagName, c :: cs => if isNameStart c then some (tagName default (c :: cs)).2 else none
  | .value, cs => (attributeText default cs).map Prod.snd
  | _, _ => none

/-- A token in a text: what was asked for, and how it is written. -/
structure Lexeme where
  goal : Goal
  text : String
deriving DecidableEq, Repr, Inhabited

/-- **A text reads as tokens** if they are found one after the other, with idle
    text around them. -/
inductive Reads : List Char → List Lexeme → Prop
  | done {gap : List Char} : Idle gap → Reads gap []
  | next {gap front rest : List Char} {l : Lexeme} {ls : List Lexeme} : Idle gap →
      startsToken front = true → take l.goal front = some rest → front = l.text.toList ++ rest →
      Reads rest ls → Reads (gap ++ front) (l :: ls)

section
variable {cs more : List Char}

theorem startsToken_append (hstarts : startsToken cs = true) (h : Parted cs more) :
    startsToken (cs ++ more) = true := by
  rw [startsToken, Bool.and_eq_true, List.all_eq_true] at hstarts ⊢
  obtain ⟨hhead, hopen⟩ := hstarts
  constructor
  · rcases cs with _ | ⟨c, cs⟩
    · cases hhead
    · exact hhead
  · intro o ho
    have hbreaks : ∀ o ∈ openers, isUnbroken o.toList = true := by decide
    rw [isPrefixOf_append (hbreaks o ho) h]
    exact hopen o ho

theorem afterPlain?_eq_some {rest : List Char} :
    afterPlain? cs = some rest ↔
      isOpenLiteral cs = false ∧ startsEscaped cs = false ∧ rest.head? ≠ some '\\' ∧
        ∃ t, tokenAfter (.start 1 false) cs = (t, rest) ∧ t.kind ≠ .bad ∧ t.kind ≠ .eof := by
  rw [afterPlain?]
  rcases tokenAfter (.start 1 false) cs with ⟨t, rest'⟩
  dsimp only
  constructor
  · intro h
    split_ifs at h with hcs
    rw [Bool.or_eq_true, Bool.or_eq_true, not_or, not_or, Bool.not_eq_true, Bool.not_eq_true,
      beq_iff_eq] at hcs
    split at h
    · cases h
    · cases h
    · cases h
      exact ⟨hcs.1.1, hcs.1.2, hcs.2, t, rfl, ‹_›, ‹_›⟩
  · rintro ⟨hopen, hescape, hrest, t', ht, hbad, heof⟩
    cases ht
    rw [hopen, hescape, beq_eq_false_iff_ne.2 hrest, if_neg (by decide)]
    split
    · exact absurd ‹_› hbad
    · exact absurd ‹_› heof
    · rfl

/-- A token that is found without asking for it is found whatever follows. -/
theorem afterPlain?_append {rest : List Char} (h : Parted cs more)
    (hcs : afterPlain? cs = some rest) : afterPlain? (cs ++ more) = some (rest ++ more) := by
  obtain ⟨hopen, hescape, hrest, t, ht, hbad, heof⟩ := afterPlain?_eq_some.1 hcs
  rcases cs with _ | ⟨c, cs⟩
  · cases ht
    exact absurd rfl heof
  · obtain ⟨happend, hparted⟩ :=
      tokenAfter_append h hopen hescape (by rwa [ht]) (by rwa [ht])
    rw [ht] at happend hparted
    exact afterPlain?_eq_some.2 ⟨isOpenLiteral_append hopen (by simp),
      startsEscaped_append h hescape, head?_append_ne hparted hrest, t, happend, hbad, heof⟩

end

/-! ## Tokens that are asked for, in parted texts -/

/-- A regular expression ends where it does whatever follows. -/
theorem regexBody_append (more : List Char) {inBrackets : Bool} {cs body rest : List Char}
    (h : regexBody inBrackets cs = some (body, rest)) :
    regexBody inBrackets (cs ++ more) = some (body, rest ++ more) := by
  fun_induction regexBody inBrackets cs generalizing body rest with
  | case1 => cases h
  | case2 => cases h
  | case3 b c cs hc ih =>
    obtain ⟨r, hr, heq⟩ := Option.map_eq_some_iff.1 h
    cases heq
    rw [List.cons_append, List.cons_append, regexBody, if_neg hc, ih hr]
    rfl
  | case4 => cases h
  | case5 b c cs hescape hc hslash =>
    cases h
    have hne : c ≠ '\\' := by
      rintro rfl
      cases hslash
    rw [List.cons_append, regexBody, if_neg hc, if_pos hslash]
    exact fun _ _ hc => absurd hc hne
  | case6 b c cs hescape hc hslash ih =>
    obtain ⟨r, hr, heq⟩ := Option.map_eq_some_iff.1 h
    cases heq
    -- a backslash would be followed by a character
    have hne : c ≠ '\\' := by
      intro hc
      rcases cs with _ | ⟨d, cs⟩
      · cases hr
      · exact hescape d cs hc rfl
    rw [List.cons_append, regexBody, if_neg hc, if_neg hslash, ih hr]
    · rfl
    · exact fun _ _ hc => absurd hc hne

theorem regexBody_eq {inBrackets : Bool} {cs body rest : List Char}
    (h : regexBody inBrackets cs = some (body, rest)) : cs = body ++ '/' :: rest := by
  fun_induction regexBody inBrackets cs generalizing body rest with
  | case1 => cases h
  | case2 => cases h
  | case3 b c cs hc ih =>
    obtain ⟨r, hr, heq⟩ := Option.map_eq_some_iff.1 h
    cases heq
    exact congrArg (['\\', c] ++ ·) (ih hr)
  | case4 => cases h
  | case5 b c cs _ _ hslash =>
    cases h
    rw [Bool.and_eq_true, beq_iff_eq] at hslash
    rw [hslash.1]
    rfl
  | case6 b c cs _ _ _ ih =>
    obtain ⟨r, hr, heq⟩ := Option.map_eq_some_iff.1 h
    cases heq
    exact congrArg (c :: ·) (ih hr)

/-- A stretch of a template ends where it does whatever follows. -/
theorem chunkBody_append (more : List Char) {cs raw rest : List Char} {last : Bool}
    (h : chunkBody cs = some (raw, last, rest)) :
    chunkBody (cs ++ more) = some (raw, last, rest ++ more) := by
  fun_induction chunkBody cs generalizing raw rest with
  | case1 => cases h
  | case2 cs =>
    cases h
    rfl
  | case3 cs =>
    cases h
    rfl
  | case4 c cs ih =>
    obtain ⟨⟨raw', last', rest'⟩, hr, heq⟩ := Option.map_eq_some_iff.1 h
    cases heq
    rw [List.cons_append, List.cons_append, chunkBody, ih hr]
    rfl
  | case5 c cs htick hdollar hescape ih =>
    obtain ⟨⟨raw', last', rest'⟩, hr, heq⟩ := Option.map_eq_some_iff.1 h
    cases heq
    rcases cs with _ | ⟨d, cs⟩
    · cases hr
    · rw [List.cons_append, chunkBody, ih hr]
      · rfl
      · exact htick
      · rintro cs' hc hcs'
        obtain ⟨rfl, -⟩ := List.cons.inj hcs'
        exact hdollar cs hc rfl
      · exact fun d' cs' hc _ => hescape d cs hc rfl

section
variable {cs more rest : List Char}

/-- What a `>` goes on over, longer marks before their beginnings. -/
def greaterTails : List (List Char) := [['>', '>', '='], ['>', '>'], ['>', '='], ['>'], ['=']]

/-- The longest of them that the text starts with. -/
def greaterTail (cs : List Char) : List Char := (greaterTails.find? (·.isPrefixOf cs)).getD []

theorem isPrefixOf_eq_false {d : Char} {m : List Char} (h : ∀ r, ¬ cs = d :: r) :
    (d :: m).isPrefixOf cs = false := by
  rcases cs with _ | ⟨c, cs⟩
  · rfl
  · have hne : d ≠ c := by
      rintro rfl
      exact h cs rfl
    rw [List.isPrefixOf, beq_eq_false_iff_ne.2 hne, Bool.false_and]

theorem widen_eq {t : Token} (ht : t.isMark ">" = true) :
    (widen t cs).2 = cs.drop (greaterTail cs).length := by
  unfold widen
  simp only [ht, if_true, greaterTail, greaterTails]
  split <;> simp_all [List.find?, List.isPrefixOf, isPrefixOf_eq_false]

theorem widen_append {t : Token} (ht : t.isMark ">" = true) (h : Parted cs more) :
    (widen t (cs ++ more)).2 = (widen t cs).2 ++ more := by
  have hbreaks : ∀ m ∈ greaterTails, isUnbroken m = true := by decide
  have htail : greaterTail (cs ++ more) = greaterTail cs := by
    rw [greaterTail, greaterTail,
      List.find?_congr fun m hm => isPrefixOf_append (hbreaks m hm) h]
  have hstart : greaterTail cs <+: cs := by
    rcases hfind : greaterTails.find? (·.isPrefixOf cs) with _ | m
    · rw [greaterTail, hfind]
      exact ⟨cs, rfl⟩
    · have hm := List.find?_some hfind
      rw [greaterTail, hfind]
      exact List.isPrefixOf_iff_prefix.1 hm
  rw [widen_eq ht, widen_eq ht, htail, List.drop_append_of_le_length hstart.length_le]

theorem regex_eq (slash : Token) (cs : List Char) :
    (regex slash cs).map Prod.snd =
      (regexBody false cs).map fun r => r.2.dropWhile isNameChar := by
  rw [regex]
  simp only [List.span_eq_takeWhile_dropWhile]
  rcases regexBody false cs with _ | r <;> rfl

theorem regex_append {slash : Token} (h : Parted cs more)
    (hcs : (regex slash cs).map Prod.snd = some rest) :
    (regex slash (cs ++ more)).map Prod.snd = some (rest ++ more) := by
  rw [regex_eq, Option.map_eq_some_iff] at hcs
  obtain ⟨⟨body, flags⟩, hbody, rfl⟩ := hcs
  have hparted : Parted flags more := (regexBody_eq hbody ▸ h).behind (by decide)
  rw [regex_eq, regexBody_append more hbody, Option.map_some,
    (span_append goesOn_isNameChar hparted).2.1]

/-- The stretch up to a character that is there ends where it does whatever follows. -/
theorem dropWhile_append_of_ne_nil {p : Char → Bool} (hcs : cs.dropWhile p ≠ []) :
    (cs ++ more).dropWhile p = cs.dropWhile p ++ more := by
  induction cs with
  | nil => exact absurd rfl hcs
  | cons c cs ih =>
    by_cases hc : p c = true
    · simp only [List.cons_append, List.dropWhile_cons_of_pos hc] at hcs ⊢
      exact ih hcs
    · simp only [List.cons_append, List.dropWhile_cons_of_neg hc]

theorem chunk_append {pos : Nat} (more : List Char)
    (hcs : (chunk pos cs).map (fun r => r.2.1) = some rest) :
    (chunk pos (cs ++ more)).map (fun r => r.2.1) = some (rest ++ more) := by
  have heq : ∀ cs, (chunk pos cs).map (fun r => r.2.1) = (chunkBody cs).map fun r => r.2.2 := by
    intro cs
    rw [chunk]
    rcases chunkBody cs with _ | r <;> rfl
  rw [heq, Option.map_eq_some_iff] at hcs
  obtain ⟨⟨raw, last, rest⟩, hraw, rfl⟩ := hcs
  rw [heq, chunkBody_append more hraw, Option.map_some]

theorem attributeText_append {t : Token} (more : List Char)
    (hcs : (attributeText t cs).map Prod.snd = some rest) :
    (attributeText t (cs ++ more)).map Prod.snd = some (rest ++ more) := by
  have heq : ∀ (quote : Char) (cs : List Char),
      (attributeText t (quote :: cs)).map Prod.snd =
        if ((quote == '"' || quote == '\'') && !(cs.dropWhile (· != quote)).isEmpty) = true then
          some ((cs.dropWhile (· != quote)).drop 1)
        else none := by
    intro quote cs
    simp only [attributeText, List.span_eq_takeWhile_dropWhile]
    split_ifs <;> rfl
  rcases cs with _ | ⟨quote, cs⟩
  · cases hcs
  · rw [heq] at hcs
    split_ifs at hcs with hquote
    cases hcs
    rw [Bool.and_eq_true, Bool.not_eq_true', List.isEmpty_eq_false_iff] at hquote
    obtain ⟨hquote, hclosed⟩ := hquote
    rw [List.cons_append, heq, dropWhile_append_of_ne_nil hclosed, hquote]
    obtain ⟨c, cs', hcs'⟩ := List.exists_cons_of_ne_nil hclosed
    rw [hcs']
    rfl

theorem markup_append {pos : Nat} (more : List Char)
    (hcs : (if (markup pos cs).2.isEmpty then none else some (markup pos cs).2) = some rest) :
    (if (markup pos (cs ++ more)).2.isEmpty then none else some (markup pos (cs ++ more)).2) =
      some (rest ++ more) := by
  have heq : ∀ cs, (markup pos cs).2 = cs.dropWhile fun c => c != '<' && c != '\x7b' := by
    intro cs
    simp only [markup, List.span_eq_takeWhile_dropWhile]
  rw [heq] at hcs
  split_ifs at hcs with hempty
  cases hcs
  rw [Bool.not_eq_true, List.isEmpty_eq_false_iff] at hempty
  rw [heq, dropWhile_append_of_ne_nil hempty, if_neg (by simp [hempty])]

theorem goesOn_tagNameChar : GoesOn fun c => isNameChar c || c == '-' := .intro rfl rfl rfl

/-- **A token that is asked for is found whatever follows** that is parted from it. -/
theorem take_append {g : Goal} (h : Parted cs more) (hcs : take g cs = some rest) :
    take g (cs ++ more) = some (rest ++ more) := by
  unfold take at hcs
  split at hcs
  · exact afterPlain?_append h hcs
  · -- an operator
    cases hcs
    rw [List.cons_append, take, widen_append rfl (h.tail (by decide))]
  · exact regex_append (h.tail (by decide)) hcs
  · exact chunk_append more hcs
  · exact chunk_append more hcs
  · exact markup_append more hcs
  · exact markup_append more hcs
  · -- a name in a tag
    split_ifs at hcs with hc
    cases hcs
    rw [List.cons_append, take, if_pos hc]
    simp only [tagName, List.span_eq_takeWhile_dropWhile]
    rw [← List.cons_append, (span_append goesOn_tagNameChar h).2.1]
  · exact attributeText_append more hcs
  · cases hcs

end

/-! ## Readings -/

namespace Reads

variable {text more : List Char} {ls ks : List Lexeme} {l : Lexeme}

theorem idle_append {gap : List Char} (hgap : Idle gap) (h : Reads text ls) :
    Reads (gap ++ text) ls := by
  cases h with
  | done hidle => exact .done (hgap.append hidle)
  | next hidle hstarts htake hfront hrest =>
    rw [← List.append_assoc]
    exact .next (hgap.append hidle) hstarts htake hfront hrest

theorem eq_nil (h : Reads [] ls) : ls = [] := by
  generalize htext : ([] : List Char) = text at h
  cases h with
  | done => rfl
  | next _ hstarts =>
    obtain ⟨-, rfl⟩ := List.append_eq_nil_iff.1 htext.symm
    cases hstarts

/-- **Texts that are parted read one after the other.** -/
theorem append (h : Reads text ls) (hparted : text ≠ [] → Parted text more)
    (hmore : Reads more ks) : Reads (text ++ more) (ls ++ ks) := by
  induction h with
  | done hidle => exact hmore.idle_append hidle
  | @next gap front rest l ls hidle hstarts htake hfront hrest ih =>
    have hne : front ≠ [] := by
      rintro rfl
      cases hstarts
    have hpart : Parted front more := (hparted (by simp [hne])).of_append hne
    have hbehind : Reads (rest ++ more) (ls ++ ks) := by
      by_cases hnil : rest = []
      · subst hnil
        rw [hrest.eq_nil]
        exact hmore
      · exact ih fun _ => (hfront ▸ hpart).of_append hnil
    rw [List.append_assoc, List.cons_append]
    exact .next hidle (startsToken_append hstarts hpart) (take_append hpart htake)
      (by rw [hfront, List.append_assoc]) hbehind

/-- **The lexer finds the first token of a reading**, whatever came before, and the
    text after it reads as the others. -/
theorem token (h : Reads text (l :: ls)) (pos : Nat) (broken : Bool) :
    ∃ rest, (Lexer.token pos broken text).front = l.text.toList ++ rest ∧
      take l.goal (l.text.toList ++ rest) = some rest ∧ Reads rest ls := by
  cases h with
  | @next gap front rest _ _ hidle hstarts htake hfront hrest =>
    obtain ⟨t, ht⟩ := hidle.skip front (.start pos broken)
    rw [skip_of_startsToken hstarts] at ht
    refine ⟨rest, ?_, hfront ▸ htake, hrest⟩
    rw [Lexer.token, ht, hfront]

/-- The lexer finds the end of a text that reads as no tokens. -/
theorem token_eof (h : Reads text []) (pos : Nat) (broken : Bool) :
    (Lexer.token pos broken text).token.kind = .eof := by
  cases h with
  | done hidle =>
    obtain ⟨t, ht⟩ := hidle.skip [] (.start pos broken)
    rw [List.append_nil] at ht
    rw [Lexer.token, ht]
    rfl

/-- **A text reads in one way** if it is asked for tokens in one way. -/
theorem unique (h : Reads text ls) (hk : Reads text ks)
    (hgoals : ls.map Lexeme.goal = ks.map Lexeme.goal) : ls = ks := by
  induction ls generalizing text ks with
  | nil => exact (List.map_eq_nil_iff.1 hgoals.symm).symm
  | cons l ls ih =>
    obtain _ | ⟨k, ks⟩ := ks
    · cases hgoals
    · obtain ⟨hgoal, hgoals⟩ := List.cons.inj hgoals
      obtain ⟨rest, hfront, htake, hrest⟩ := h.token 1 false
      obtain ⟨rest', hfront', htake', hrest'⟩ := hk.token 1 false
      rw [hfront] at hfront'
      rw [hfront', hgoal, htake'] at htake
      obtain rfl := Option.some.inj htake
      have htext : l.text = k.text := String.toList_inj.1 (List.append_cancel_right hfront')
      have hl : l = k := by
        obtain ⟨_, _⟩ := l
        obtain ⟨_, _⟩ := k
        rw [Lexeme.mk.injEq]
        exact ⟨hgoal, htext⟩
      rw [hl, ih hrest hrest' hgoals]

end Reads

/-! ## Readings that can be computed -/

/-- White space. -/
def isSpace (c : Char) : Bool := isBlank c || isLineEnd c

theorem idle_of_isSpace {gap : List Char} (h : ∀ c ∈ gap, isSpace c = true) : Idle gap := by
  induction gap with
  | nil => exact .nil
  | cons c gap ih =>
    exact .space (h c List.mem_cons_self) (ih fun d hd => h d (List.mem_cons_of_mem _ hd))

/-- Read a text without comments, asking for the given tokens. -/
def read? : List Goal → List Char → Option (List Lexeme)
  | [], cs => if cs.all isSpace then some [] else none
  | g :: gs, cs =>
    let front := cs.dropWhile isSpace
    if startsToken front then
      (take g front).bind fun rest =>
        let text := front.take (front.length - rest.length)
        if front = text ++ rest then (read? gs rest).map (⟨g, String.ofList text⟩ :: ·) else none
    else none

/-- **What is read by asking for tokens is a reading.** -/
theorem reads_of_read? (gs : List Goal) {cs : List Char} {ls : List Lexeme}
    (h : read? gs cs = some ls) : Reads cs ls := by
  induction gs generalizing cs ls with
  | nil =>
    rw [read?] at h
    split_ifs at h with hspace
    cases h
    exact .done (idle_of_isSpace (List.all_eq_true.1 hspace))
  | cons g gs ih =>
    rw [read?] at h
    dsimp only at h
    split_ifs at h with hstarts
    obtain ⟨rest, htake, hrest⟩ := Option.bind_eq_some_iff.1 h
    split_ifs at hrest with hfront
    obtain ⟨ks, hks, rfl⟩ := Option.map_eq_some_iff.1 hrest
    have hgap := idle_of_isSpace (List.all_eq_true.1 (List.all_takeWhile (p := isSpace) (l := cs)))
    have hread := Reads.next (l := ⟨g, String.ofList _⟩) hgap hstarts htake
      (by rw [String.toList_ofList]; exact hfront) (ih hks)
    rwa [List.takeWhile_append_dropWhile] at hread

/-- The same character starts different tokens, depending on what is asked for. -/
example :
    Reads "/a[/]/g /= b".toList [⟨.regex, "/a[/]/g"⟩, ⟨.plain, "/="⟩, ⟨.plain, "b"⟩] :=
  reads_of_read? [.regex, .plain, .plain] (by decide)

end Lexer

end SoleExport
