/-
  Printed modules as sequences of tokens.

  Printing goes through the marks of a layout with a *stand*: the comments that are
  not printed yet, and where on the line writing stands (`Layout.Stand`).  What is
  put between the items of a module is idle, apart from the semicolon behind an
  `export =`, and parts them from each other.

  * `Layout.count_fillFrom`: a comment is printed no more often than it was stored;
  * `Layout.reads_ofItem`: an item reads as its tokens and its semicolon, if any;
  * `Layout.reads_items`: items printed one after the other read one after the other;
  * `Module.print_keeps_items_apart`: so do those of a module, whatever the comments.
-/
import SoleExport.Layout.Module
import SoleExport.Proofs.Reading

namespace SoleExport

/-! ## Writing pieces -/

/-- The blanks that text is written behind: those of the indentation on an empty
    line. -/
def Margin.blanks (m : Margin) : List Char := if m.fresh then (indentation m.level).toList else []

theorem Margin.write_eq (m : Margin) {text : String} (h : text ≠ "") :
    (m.write text).1.toList = m.blanks ++ text.toList ∧
      (m.write text).2 = { m with fresh := false } := by
  obtain ⟨level, fresh⟩ := m
  have hne : ¬ text.isEmpty = true := by rwa [String.isEmpty_iff]
  rw [write, if_neg hne, blanks]
  rcases fresh with _ | _
  · exact ⟨rfl, rfl⟩
  · exact ⟨String.toList_append, rfl⟩

theorem Margin.idle_blanks (m : Margin) : Lexer.Idle m.blanks := by
  have hindentation : ∀ n, Lexer.Idle (indentation n).toList := by
    intro n
    induction n with
    | zero => exact .nil
    | succ n ih =>
      rw [indentation, String.toList_append]
      exact .space rfl (.space rfl (.space rfl (.space rfl ih)))
  rw [blanks]
  split_ifs
  · exact hindentation _
  · exact .nil

namespace Piece

/-- The text of pieces, written from a margin on. -/
def written (m : Margin) (ps : List Piece) : List Char := (String.join (texts m ps)).toList

/-- The margin behind pieces. -/
def after (m : Margin) : List Piece → Margin
  | [] => m
  | p :: ps => after (p.write m).2 ps

theorem written_nil (m : Margin) : written m [] = [] := rfl

theorem written_cons (m : Margin) (p : Piece) (ps : List Piece) :
    written m (p :: ps) = (p.write m).1.toList ++ written (p.write m).2 ps := by
  rw [written, texts, String.join_cons, String.toList_append]
  rfl

theorem written_append (ps qs : List Piece) :
    ∀ m : Margin, written m (ps ++ qs) = written m ps ++ written (after m ps) qs := by
  induction ps with
  | nil => exact fun _ => rfl
  | cons p ps ih =>
    intro m
    rw [List.cons_append, written_cons, written_cons, after, ih, List.append_assoc]

theorem after_append (ps qs : List Piece) :
    ∀ m : Margin, after m (ps ++ qs) = after (after m ps) qs := by
  induction ps with
  | nil => exact fun _ => rfl
  | cons p ps ih => exact fun m => ih _

theorem write_fresh {m : Margin} {p : Piece} (h : (p.write m).2.fresh = true) :
    ((p.write m).1 = "" ∧ m.fresh = true) ∨ (p.write m).1 = "\n" := by
  have htext : ∀ text : String, (m.write text).2.fresh = true →
      (m.write text).1 = "" ∧ m.fresh = true := by
    intro text h
    by_cases ht : text = ""
    · subst ht
      exact ⟨rfl, h⟩
    · rw [(m.write_eq ht).2] at h
      cases h
  cases p with
  | code t => exact Or.inl (htext t h)
  | comment c => exact Or.inl (htext c.written h)
  | blank => exact Or.inl (htext " " h)
  | line =>
    by_cases hm : m.fresh = true
    · simp [Piece.write, hm]
    · simp [Piece.write, hm]
  | indent => exact Or.inl ⟨rfl, h⟩
  | dedent => exact Or.inl ⟨rfl, h⟩

/-- A line is empty after its end, and if nothing has been written on it. -/
theorem fresh_after (ps : List Piece) :
    ∀ m : Margin, (after m ps).fresh = true →
      (written m ps = [] ∧ m.fresh = true) ∨ (written m ps).getLast? = some '\n' := by
  induction ps with
  | nil => exact fun m h => Or.inl ⟨rfl, h⟩
  | cons p ps ih =>
    intro m h
    rw [written_cons]
    rcases ih _ h with ⟨hnil, hfresh⟩ | hlast
    · rw [hnil, List.append_nil]
      rcases write_fresh hfresh with ⟨hempty, hm⟩ | hline
      · exact Or.inl ⟨by rw [hempty]; rfl, hm⟩
      · exact Or.inr (by rw [hline]; rfl)
    · right
      rw [List.getLast?_append, hlast]
      rfl

/-- Whether a line that goes on with the piece goes on with a break. -/
def isBreak : Piece → Bool
  | .blank | .line => true
  | .code t => t == ";"
  | _ => false

theorem head?_written {m : Margin} (hm : m.fresh = false) {ps : List Piece}
    (hps : ∀ p, ps.head? = some p → p.isBreak = true) {c : Char}
    (hc : (written m ps).head? = some c) : Lexer.isBreak c = true := by
  obtain ⟨level, fresh⟩ := m
  obtain rfl : fresh = false := hm
  rcases ps with _ | ⟨p, ps⟩
  · cases hc
  · have hwrite : ∃ b, Lexer.isBreak b = true ∧ (p.write ⟨level, false⟩).1.toList = [b] := by
      have hp := hps p rfl
      cases p with
      | code t =>
        rw [isBreak, beq_iff_eq] at hp
        subst hp
        exact ⟨';', rfl, (Margin.write_eq _ (by decide)).1⟩
      | blank => exact ⟨' ', rfl, (Margin.write_eq _ (by decide)).1⟩
      | line => exact ⟨'\n', rfl, by simp [Piece.write]⟩
      | comment | indent | dedent => cases hp
    obtain ⟨b, hb, hwrite⟩ := hwrite
    rw [written_cons, hwrite] at hc
    rwa [← Option.some.inj hc]

/-- Pieces are parted from what follows them if that starts with a break. -/
theorem parted_written {m : Margin} {ps qs : List Piece}
    (hqs : ∀ q, qs.head? = some q → q.isBreak = true) :
    written m ps ≠ [] → Lexer.Parted (written m ps) (written (after m ps) qs) := by
  intro hne
  rcases hfresh : (after m ps).fresh with _ | _
  · exact Or.inr fun c hc => head?_written hfresh hqs hc
  · rcases fresh_after ps m hfresh with ⟨hnil, -⟩ | hlast
    · exact absurd hnil hne
    · exact Or.inl hlast

/-! ## Comments behind items -/

section
variable {m : Margin} {ps qs : List Piece}

theorem idle_append (hps : ∀ m, Lexer.Idle (written m ps)) (hqs : ∀ m, Lexer.Idle (written m qs))
    (m : Margin) : Lexer.Idle (written m (ps ++ qs)) := by
  rw [written_append]
  exact (hps m).append (hqs _)

theorem idle_flatMap {f : Comment → List Piece} {cs : List Comment}
    (h : ∀ c ∈ cs, ∀ m, Lexer.Idle (written m (f c))) :
    ∀ m, Lexer.Idle (written m (cs.flatMap f)) := by
  induction cs with
  | nil => exact fun _ => .nil
  | cons c cs ih =>
    rw [List.flatMap_cons]
    exact idle_append (h c List.mem_cons_self) (ih fun d hd => h d (List.mem_cons_of_mem _ hd))

theorem idle_blank (m : Margin) : Lexer.Idle (written m [.blank]) := by
  rw [written_cons, Piece.write, (m.write_eq (by decide)).1, written_nil, List.append_nil]
  exact m.idle_blanks.append (.space (c := ' ') rfl .nil)

/-- A line that is not empty is ended. -/
theorem written_line (level : Nat) : written ⟨level, false⟩ [.line] = ['\n'] := by
  simp [written, texts, Piece.write]

theorem idle_line (m : Margin) : Lexer.Idle (written m [.line]) := by
  obtain ⟨level, fresh⟩ := m
  rcases fresh with _ | _
  · rw [written_line]
    exact .space rfl .nil
  · exact .nil

theorem written_ne (c : Comment) : c.written ≠ "" := by
  intro h
  have hlist := congrArg String.toList h
  rcases hkind : c.kind with _ | _ <;> simp [Comment.written, hkind] at hlist

theorem idle_block {c : Comment} (hkind : c.kind = .block) (hc : c.IsWhole) (m : Margin) :
    Lexer.Idle (written m [.comment c]) := by
  rw [written_cons, Piece.write, (m.write_eq (written_ne c)).1, written_nil, List.append_assoc]
  exact m.idle_blanks.append (.block hkind hc .nil)

theorem idle_comment_line {c : Comment} (hkind : c.kind = .line) (hc : c.IsWhole) (m : Margin) :
    Lexer.Idle (written m [.comment c, .line]) := by
  obtain ⟨hwrite, hmargin⟩ := m.write_eq (written_ne c)
  rw [written_cons, Piece.write, hwrite, hmargin, List.append_assoc, written_line]
  exact m.idle_blanks.append (.line hkind hc rfl .nil)

/-- **Whole comments are idle** before and behind what they belong to. -/
theorem idle_before {c : Comment} (hc : c.IsWhole) : ∀ m, Lexer.Idle (written m c.before) := by
  rcases hkind : c.kind with _ | _
  · have hbefore : c.before = [.comment c, .line] := by rw [Comment.before, hkind]
    rw [hbefore]
    exact idle_comment_line hkind hc
  · have hbefore : c.before = [.comment c] ++ [.blank] := by rw [Comment.before, hkind]; rfl
    rw [hbefore]
    exact idle_append (idle_block hkind hc) idle_blank

theorem idle_after {c : Comment} (hc : c.IsWhole) : ∀ m, Lexer.Idle (written m c.after) := by
  rcases hkind : c.kind with _ | _
  · have hafter : c.after = [.blank] ++ [.comment c, .line] := by rw [Comment.after, hkind]; rfl
    rw [hafter]
    exact idle_append idle_blank (idle_comment_line hkind hc)
  · have hafter : c.after = [.blank] ++ ([.comment c] ++ [.blank]) := by
      rw [Comment.after, hkind]
      rfl
    rw [hafter]
    exact idle_append idle_blank (idle_append (idle_block hkind hc) idle_blank)

theorem idle_atEnd {c : Comment} (hc : c.IsWhole) : ∀ m, Lexer.Idle (written m c.atEnd) := by
  rcases hkind : c.kind with _ | _
  · have hatEnd : c.atEnd = [.blank] ++ [.comment c, .line] := by rw [Comment.atEnd, hkind]; rfl
    rw [hatEnd]
    exact idle_append idle_blank (idle_comment_line hkind hc)
  · have hatEnd : c.atEnd = [.blank] ++ [.comment c] := by rw [Comment.atEnd, hkind]; rfl
    rw [hatEnd]
    exact idle_append idle_blank (idle_block hkind hc)

end

end Piece

/-! ## Comments on the way -/

namespace Comments

/-- The comments of a store. -/
def all (s : Comments) : List Comment := (s.leading ++ s.trailing).map Prod.snd

/-- Every comment of a store ends where it is written to end. -/
def IsWhole (s : Comments) : Prop := ∀ c ∈ s.all, c.IsWhole

instance (s : Comments) : Decidable s.IsWhole := inferInstanceAs (Decidable (∀ c ∈ s.all, c.IsWhole))

/-- Taking the comments of a position makes none. -/
theorem count_kept (entries : List (Nat × Comment)) (pos : Nat) (c : Comment) :
    (kept entries pos).count c + ((rest entries pos).map Prod.snd).count c ≤
      (entries.map Prod.snd).count c := by
  rw [kept, rest]
  split_ifs with hpos
  · rw [List.count_nil, Nat.zero_add]
    exact (List.filter_sublist.map Prod.snd).count_le c
  · have hperm := (List.filter_append_perm (fun e : Nat × Comment => e.1 == pos) entries).map Prod.snd
    rw [← hperm.count_eq, List.map_append, List.count_append]
    exact Nat.le_refl _

theorem mem_of_mem_kept {entries : List (Nat × Comment)} {pos : Nat} {c : Comment}
    (h : c ∈ kept entries pos) : c ∈ entries.map Prod.snd := by
  have hcount := count_kept entries pos c
  have hpos := List.count_pos_iff.2 h
  exact List.count_pos_iff.1 (by omega)

theorem trailing_addAllTrailing (s : Comments) (pos : Nat) (cs : List Comment) :
    (s.addAllTrailing pos cs).leading = s.leading ∧
      (s.addAllTrailing pos cs).trailing.map Prod.snd = s.trailing.map Prod.snd ++ cs := by
  induction cs generalizing s with
  | nil => simp [addAllTrailing]
  | cons c cs ih =>
    obtain ⟨hleading, htrailing⟩ := ih (s.addTrailing pos c)
    refine ⟨hleading, htrailing.trans ?_⟩
    simp [addTrailing]

end Comments

namespace Layout

theorem fillFrom_cons (s : Filling) (m : Mark) (ms : Layout) :
    fillFrom s (m :: ms) = (fillMark s m).1 ++ fillFrom (fillMark s m).2 ms := rfl

/-- The comments that are not printed yet, those put aside included. -/
def Filling.all (s : Filling) : List Comment := s.comments.all ++ s.held.flatten

theorem Filling.count_all (s : Filling) (c : Comment) :
    s.all.count c = (s.comments.leading.map Prod.snd).count c +
      (s.comments.trailing.map Prod.snd).count c + s.held.flatten.count c := by
  rw [all, Comments.all, List.map_append, List.count_append, List.count_append]

theorem count_flatMap {f : Comment → List Piece} {c : Comment}
    (hf : ∀ d, (f d).count (.comment c) = [d].count c) (cs : List Comment) :
    (cs.flatMap f).count (.comment c) = cs.count c := by
  induction cs with
  | nil => rfl
  | cons d cs ih =>
    rw [List.flatMap_cons, List.count_append, hf, ih, ← List.count_append, List.singleton_append]

theorem count_before (c d : Comment) : d.before.count (.comment c) = [d].count c := by
  rcases hkind : d.kind with _ | _ <;> simp [Comment.before, hkind, List.count_cons]

theorem count_after (c d : Comment) : d.after.count (.comment c) = [d].count c := by
  rcases hkind : d.kind with _ | _ <;> simp [Comment.after, hkind, List.count_cons]

theorem count_atEnd (c d : Comment) : d.atEnd.count (.comment c) = [d].count c := by
  rcases hkind : d.kind with _ | _ <;> simp [Comment.atEnd, hkind, List.count_cons]

/-- No mark makes comments: what is put in its place and what is kept for later was
    there before. -/
theorem count_fillMark (s : Filling) (m : Mark) (c : Comment) :
    (fillMark s m).1.count (.comment c) + (fillMark s m).2.all.count c ≤ s.all.count c := by
  have htrailing := Comments.count_kept s.comments.trailing
  cases m with
  | code | blank | line | indent | dedent => simp [fillMark]
  | leading p =>
    have hkept := Comments.count_kept s.comments.leading p c
    simp only [fillMark, Comments.takeLeading, Filling.count_all,
      count_flatMap (count_before c)]
    omega
  | trailing p =>
    have hkept := htrailing p c
    simp only [fillMark, Comments.takeTrailing, Filling.count_all, count_flatMap (count_after c)]
    omega
  | closing p =>
    have hkept := htrailing p c
    simp only [fillMark, Comments.takeTrailing, Filling.count_all, count_flatMap (count_atEnd c)]
    omega
  | behind p =>
    have hkept := htrailing p c
    simp only [fillMark, Comments.takeTrailing, Filling.count_all, count_flatMap (count_before c)]
    omega
  | hold p =>
    have hkept := htrailing p c
    simp only [fillMark, Comments.takeTrailing, Filling.count_all, List.count_nil,
      List.flatten_cons, List.count_append]
    omega
  | release p =>
    obtain ⟨comments, opened, held⟩ := s
    rcases held with _ | ⟨cs, held⟩
    · simp [fillMark]
    · obtain ⟨hlead, htrail⟩ := comments.trailing_addAllTrailing p cs
      simp only [fillMark, Filling.count_all, hlead, htrail, List.count_nil, List.flatten_cons,
        List.count_append]
      omega
  | lineIf p =>
    simp only [fillMark]
    split_ifs <;> simp
  | openIf p =>
    simp only [fillMark]
    split_ifs <;> simp [Filling.all]
  | closeIf =>
    obtain ⟨comments, opened, held⟩ := s
    rcases opened with _ | ⟨_ | _, opened⟩ <;> simp [fillMark, Filling.all]

/-- **Every comment is printed at most once**: no more often than it was stored. -/
theorem count_fillFrom (layout : Layout) (c : Comment) :
    ∀ s : Filling, (fillFrom s layout).count (.comment c) ≤ s.all.count c := by
  induction layout with
  | nil => exact fun _ => Nat.zero_le _
  | cons m ms ih =>
    intro s
    have hmark := count_fillMark s m c
    have hrest := ih (fillMark s m).2
    rw [fillFrom_cons, List.count_append]
    omega

/-! ## Printing from a stand on -/

/-- Where printing stands. -/
structure Stand where
  filling : Filling
  margin : Margin

namespace Stand

/-- Printing with the comments of a store begins on an empty line. -/
def start (comments : Comments) : Stand := ⟨⟨comments, [], []⟩, ⟨0, true⟩⟩

/-- The text that a layout is printed as. -/
def print (s : Stand) (layout : Layout) : List Char :=
  Piece.written s.margin (fillFrom s.filling layout)

/-- The comments that are left after a layout is printed. -/
def fillingAfter (s : Filling) : Layout → Filling
  | [] => s
  | m :: ms => fillingAfter (fillMark s m).2 ms

/-- Where printing stands after a layout. -/
def after (s : Stand) (layout : Layout) : Stand :=
  ⟨fillingAfter s.filling layout, Piece.after s.margin (fillFrom s.filling layout)⟩

theorem fillFrom_append (l k : Layout) :
    ∀ s : Filling, fillFrom s (l ++ k) = fillFrom s l ++ fillFrom (fillingAfter s l) k := by
  induction l with
  | nil => exact fun _ => rfl
  | cons m ms ih =>
    intro s
    rw [List.cons_append, fillFrom_cons, fillFrom_cons, fillingAfter, ih, List.append_assoc]

theorem fillingAfter_append (l k : Layout) :
    ∀ s : Filling, fillingAfter s (l ++ k) = fillingAfter (fillingAfter s l) k := by
  induction l with
  | nil => exact fun _ => rfl
  | cons m ms ih => exact fun s => ih _

theorem print_append (s : Stand) (l k : Layout) :
    s.print (l ++ k) = s.print l ++ (s.after l).print k := by
  rw [print, fillFrom_append, Piece.written_append]
  rfl

theorem after_append (s : Stand) (l k : Layout) : s.after (l ++ k) = (s.after l).after k := by
  rw [after, fillFrom_append, Piece.after_append, fillingAfter_append]
  rfl

/-- Every comment that is left ends where it is written to end. -/
def IsWhole (s : Stand) : Prop := ∀ c ∈ s.filling.all, c.IsWhole

theorem isWhole_start {comments : Comments} (h : comments.IsWhole) : (start comments).IsWhole := by
  have hall : (start comments).filling.all = comments.all := List.append_nil _
  rwa [IsWhole, hall]

theorem mem_fillMark {s : Filling} {m : Mark} {c : Comment} (h : c ∈ (fillMark s m).2.all) :
    c ∈ s.all := by
  have hmark := count_fillMark s m c
  have hpos := List.count_pos_iff.2 h
  exact List.count_pos_iff.1 (by omega)

theorem IsWhole.after {s : Stand} (h : s.IsWhole) (layout : Layout) : (s.after layout).IsWhole := by
  have hmem : ∀ {s : Filling} {c : Comment}, c ∈ (fillingAfter s layout).all → c ∈ s.all := by
    induction layout with
    | nil => exact id
    | cons m ms ih => exact fun hc => mem_fillMark (ih hc)
  exact fun c hc => h c (hmem hc)

/-! ## What stands behind items -/

section
variable {s : Stand}

/-- The comments taken from a store end where they are written to end. -/
theorem IsWhole.taken (hs : s.IsWhole) {pos : Nat} {c : Comment}
    (hc : c ∈ Comments.kept s.filling.comments.leading pos ∨
      c ∈ Comments.kept s.filling.comments.trailing pos) : c.IsWhole := by
  refine hs c (List.mem_append_left _ ?_)
  rw [Comments.all, List.map_append]
  rcases hc with hc | hc
  · exact List.mem_append_left _ (Comments.mem_of_mem_kept hc)
  · exact List.mem_append_right _ (Comments.mem_of_mem_kept hc)

theorem idle_nil (m : Margin) : Lexer.Idle (Piece.written m []) := Piece.written_nil m ▸ .nil

theorem idle_leading (hs : s.IsWhole) (pos : Nat) : Lexer.Idle (s.print [.leading pos]) :=
  Piece.idle_append (Piece.idle_flatMap fun _ hc => Piece.idle_before (hs.taken (Or.inl hc)))
    idle_nil _

theorem idle_trailing (hs : s.IsWhole) (pos : Nat) : Lexer.Idle (s.print [.trailing pos]) :=
  Piece.idle_append (Piece.idle_flatMap fun _ hc => Piece.idle_after (hs.taken (Or.inr hc)))
    idle_nil _

theorem idle_closing (hs : s.IsWhole) (pos : Nat) : Lexer.Idle (s.print [.closing pos]) :=
  Piece.idle_append (Piece.idle_flatMap fun _ hc => Piece.idle_atEnd (hs.taken (Or.inr hc)))
    idle_nil _

/-- Idle layouts in turn. -/
theorem idle_print_append {l k : Layout} (hl : Lexer.Idle (s.print l))
    (hk : Lexer.Idle ((s.after l).print k)) : Lexer.Idle (s.print (l ++ k)) := by
  rw [print_append]
  exact hl.append hk

/-- The end of the line behind an idle mark. -/
theorem idle_with_line {mark : Mark} (h : Lexer.Idle (s.print [mark])) :
    Lexer.Idle (s.print [mark, .line]) :=
  idle_print_append (l := [mark]) (k := [.line]) h (Piece.idle_line _)

/-- A layout that goes on with a break, if the line goes on with it. -/
def OpensWithBreak (layout : Layout) : Prop :=
  ∀ (s : Filling) (p : Piece), (fillFrom s layout).head? = some p → p.isBreak = true

theorem opensWithBreak_flatMap {f : Comment → List Piece} (hf : ∀ c, (f c).head? = some .blank)
    {ps : List Piece} (hps : ∀ p, ps.head? = some p → p.isBreak = true) (cs : List Comment)
    {p : Piece} (hp : (cs.flatMap f ++ ps).head? = some p) : p.isBreak = true := by
  rcases cs with _ | ⟨c, cs⟩
  · exact hps p hp
  · obtain ⟨qs, hc⟩ := List.head?_eq_some_iff.1 (hf c)
    rw [List.flatMap_cons, hc] at hp
    rw [← Option.some.inj hp]
    rfl

/-- What stands behind an item starts with a break. -/
theorem OpensWithBreak.trailing {k : Layout} (h : OpensWithBreak k) (pos : Nat) :
    OpensWithBreak (.trailing pos :: k) := fun s _ =>
  opensWithBreak_flatMap (fun c => by rcases hkind : c.kind with _ | _ <;> simp [Comment.after, hkind])
    (h (fillMark s (.trailing pos)).2) _

theorem OpensWithBreak.closing {k : Layout} (h : OpensWithBreak k) (pos : Nat) :
    OpensWithBreak (.closing pos :: k) := fun s _ =>
  opensWithBreak_flatMap (fun c => by rcases hkind : c.kind with _ | _ <;> simp [Comment.atEnd, hkind])
    (h (fillMark s (.closing pos)).2) _

theorem opensWithBreak_nil : OpensWithBreak [] := by rintro s p ⟨⟩

theorem opensWithBreak_line (k : Layout) : OpensWithBreak (.line :: k) := by rintro s p ⟨⟩; rfl

theorem opensWithBreak_blank (k : Layout) : OpensWithBreak (.blank :: k) := by rintro s p ⟨⟩; rfl

theorem opensWithBreak_semicolon : OpensWithBreak semicolon := by rintro s p ⟨⟩; rfl

/-- A layout that ends with the end of the line leaves an empty line. -/
theorem fresh_after_line (s : Stand) (layout : Layout) (mark : Mark) :
    (s.after (layout ++ [mark, .line])).margin.fresh = true := by
  have hsplit : layout ++ [mark, .line] = layout ++ [mark] ++ [.line] := by simp
  rw [hsplit, after_append]
  obtain ⟨filling, level, fresh⟩ := s.after (layout ++ [mark])
  rcases fresh with _ | _ <;> rfl

end

/-! ## Items and modules -/

/-- Layouts read one after the other if the second starts with a break. -/
theorem reads_append {s : Stand} {l k : Layout} {ls ks : List Lexer.Lexeme}
    (hl : Lexer.Reads (s.print l) ls) (hk : Lexer.Reads ((s.after l).print k) ks)
    (hbreak : OpensWithBreak k) : Lexer.Reads (s.print (l ++ k)) (ls ++ ks) := by
  rw [print_append]
  exact hl.append (Piece.parted_written (hbreak _)) hk

/-- Idle text before a layout is read over. -/
theorem reads_behind {s : Stand} {l k : Layout} {ks : List Lexer.Lexeme}
    (hl : Lexer.Idle (s.print l)) (hk : Lexer.Reads ((s.after l).print k) ks) :
    Lexer.Reads (s.print (l ++ k)) ks := by
  rw [print_append]
  exact hk.idle_append hl

/-- Code reads as the tokens it consists of. -/
theorem reads_code (s : Stand) {text : String} {l : Lexer.Lexeme} {ls : List Lexer.Lexeme}
    (h : Lexer.Reads text.toList (l :: ls)) : Lexer.Reads (s.print [.code text]) (l :: ls) := by
  have hne : text ≠ "" := by
    rintro rfl
    cases Lexer.Reads.eq_nil h
  have htext : s.print [.code text] = s.margin.blanks ++ text.toList := by
    change Piece.written s.margin [.code text] = _
    rw [Piece.written_cons, Piece.write, (s.margin.write_eq hne).1, Piece.written_nil,
      List.append_nil]
  rw [htext]
  exact h.idle_append s.margin.idle_blanks

end Stand

end Layout

/-- What is printed behind an item: `export =` is closed. -/
def Item.terminator : Item → List Lexer.Lexeme
  | .exportEquals _ _ => [⟨.plain, ";"⟩]
  | _ => []

namespace Layout

/-- Each item, printed where its turn comes, reads as its tokens. -/
def ItemsRead (tokens : Item → List Lexer.Lexeme) : Stand → List Item → Prop
  | _, [] => True
  | s, i :: is => Lexer.Reads (s.print (ofTree i.toTree)) (tokens i) ∧
      ItemsRead tokens (s.after (ofItem i)) is

variable {s : Stand}

theorem reads_ofItem (hs : s.IsWhole) {i : Item} {ls : List Lexer.Lexeme}
    (h : Lexer.Reads (s.print (ofTree i.toTree)) ls) :
    Lexer.Reads (s.print (ofItem i)) (ls ++ i.terminator) := by
  have hopen : Lexer.Reads (s.print (ofTree i.toTree ++ [.trailing i.span.stop, .line]))
      (ls ++ []) :=
    Stand.reads_append h (.done (Stand.idle_with_line (Stand.idle_trailing (hs.after _) _)))
      ((Stand.opensWithBreak_line []).trailing _)
  cases i with
  | exportEquals span value =>
    have hsemicolon : Lexer.Reads ";".toList [⟨.plain, ";"⟩] :=
      Lexer.reads_of_read? [.plain] (by decide)
    have hclosed := Stand.reads_append h (Stand.reads_code _ hsemicolon)
      Stand.opensWithBreak_semicolon
    have hends := Stand.reads_append hclosed
      (.done (Stand.idle_with_line (Stand.idle_closing (hs.after _) span.stop)))
      ((Stand.opensWithBreak_line []).closing _)
    rwa [List.append_nil] at hends
  | _ => exact hopen

/-- An identifier reads as its name, whatever comments there are around it. -/
theorem reads_name (hs : s.IsWhole) {name : String} (h : Lexer.Reads name.toList [⟨.plain, name⟩])
    (start stop : Nat) :
    Lexer.Reads (s.print [.leading start, .code name, .trailing stop]) [⟨.plain, name⟩] := by
  have hbehind := Stand.idle_trailing ((hs.after [.leading start]).after [.code name]) stop
  exact Stand.reads_behind (l := [.leading start]) (Stand.idle_leading hs start)
    (Stand.reads_append (l := [.code name]) (Stand.reads_code _ h) (.done hbehind)
      (Stand.opensWithBreak_nil.trailing stop))

theorem ofTree_exportEquals (span : Span) {i : Ident} (h : i.optional = false) :
    ofTree (Item.exportEquals span (.ident i)).toTree =
      [.leading span.start, .code "export", .blank, .code "=", .blank,
        .leading i.span.start, .code i.name, .trailing i.span.stop] := by
  obtain ⟨ispan, ctxt, name, optional⟩ := i
  obtain rfl : optional = false := h
  rfl

/-- **The item that a conversion ends with** reads as its three tokens, whatever
    comments there are before, between and behind them. -/
theorem reads_exportEquals (hs : s.IsWhole) (span : Span) {i : Ident} (hplain : i.optional = false)
    (hname : Lexer.Reads i.name.toList [⟨.plain, i.name⟩]) :
    Lexer.Reads (s.print (ofTree (Item.exportEquals span (.ident i)).toTree))
      [⟨.plain, "export"⟩, ⟨.plain, "="⟩, ⟨.plain, i.name⟩] := by
  have hexport : Lexer.Reads "export".toList [⟨.plain, "export"⟩] :=
    Lexer.reads_of_read? [.plain] (by decide)
  have hequals : Lexer.Reads "=".toList [⟨.plain, "="⟩] :=
    Lexer.reads_of_read? [.plain] (by decide)
  rw [ofTree_exportEquals span hplain]
  refine Stand.reads_behind (l := [.leading _]) (Stand.idle_leading hs _) ?_
  refine Stand.reads_append (l := [.code _]) (Stand.reads_code _ hexport) ?_
    (Stand.opensWithBreak_blank _)
  refine Stand.reads_behind (l := [.blank]) (Piece.idle_blank _) ?_
  refine Stand.reads_append (l := [.code _]) (Stand.reads_code _ hequals) ?_
    (Stand.opensWithBreak_blank _)
  refine Stand.reads_behind (l := [.blank]) (Piece.idle_blank _) ?_
  exact reads_name (((((hs.after _).after _).after _).after _).after _) hname _ _

theorem fresh_after_ofItem (s : Stand) (i : Item) : (s.after (ofItem i)).margin.fresh = true := by
  cases i with
  | exportEquals span value => exact Stand.fresh_after_line s _ (.closing span.stop)
  | _ => exact Stand.fresh_after_line s _ (.trailing _)

/-- **Items read one after the other.**  The induction goes over the items; each
    ends its line, which parts it from the next. -/
theorem reads_items {tokens : Item → List Lexer.Lexeme} (pos : Nat) {items : List Item} :
    ∀ {s : Stand}, s.IsWhole → ItemsRead tokens s items →
      Lexer.Reads (s.print (items.flatMap ofItem ++ [.closing pos]))
        (items.flatMap fun i => tokens i ++ i.terminator) := by
  induction items with
  | nil => exact fun hs _ => .done (Stand.idle_closing hs pos)
  | cons i items ih =>
    rintro s hs ⟨hi, hitems⟩
    have hrest := ih (hs.after (ofItem i)) hitems
    have hparted : s.print (ofItem i) ≠ [] → Lexer.Parted (s.print (ofItem i))
        ((s.after (ofItem i)).print (items.flatMap ofItem ++ [.closing pos])) := by
      intro hne
      rcases Piece.fresh_after _ _ (fresh_after_ofItem s i) with ⟨hnil, -⟩ | hlast
      · exact absurd hnil hne
      · exact Or.inl hlast
    rw [List.flatMap_cons, List.append_assoc, Stand.print_append, List.flatMap_cons]
    exact (reads_ofItem hs hi).append hparted hrest

end Layout

/-! ## Modules -/

/-- The line `#!…` of a module. -/
def Module.firstLine (m : Module) : List Char :=
  match m.interpreter with
  | some s => ("#!" ++ s ++ "\n").toList
  | none => []

/-- The first line is printed as it is, and leaves printing where it started. -/
theorem Layout.Stand.print_firstLine (comments : Comments) (text : String) :
    (start comments).print (Layout.text ("#!" ++ text) ++ [.line]) =
        ("#!" ++ text ++ "\n").toList ∧
      (start comments).after (Layout.text ("#!" ++ text) ++ [.line]) = start comments := by
  have hne : "#!" ++ text ≠ "" := by
    intro h
    have hlist := congrArg String.toList h
    simp at hlist
  obtain ⟨hwrite, hmargin⟩ := Margin.write_eq ⟨0, true⟩ hne
  constructor
  · change Piece.written ⟨0, true⟩ [.code ("#!" ++ text), .line] = _
    rw [Piece.written_cons, Piece.write, hwrite, hmargin, Piece.written_line,
      String.toList_append (s := "#!" ++ text)]
    rfl
  · rw [start, after]
    change Stand.mk _ (Piece.after (Margin.write ⟨0, true⟩ ("#!" ++ text)).2 [.line]) = _
    rw [hmargin]
    rfl

namespace Module

variable {m : Module} {comments : Comments} {tokens : Item → List Lexer.Lexeme}

/-- What a module is printed as: its first line, and then its items from the start. -/
theorem print_eq (m : Module) (comments : Comments) :
    (m.print comments).toList = m.firstLine ++
      (Layout.Stand.start comments).print
        (m.body.flatMap Layout.ofItem ++ [.closing m.span.stop]) := by
  have hprint : (m.print comments).toList =
      (Layout.Stand.start comments).print (Layout.ofModule m) := rfl
  rw [hprint, Layout.ofModule, firstLine, List.append_assoc]
  rcases m.interpreter with _ | text
  · rfl
  · obtain ⟨hline, hafter⟩ := Layout.Stand.print_firstLine comments text
    dsimp only
    rw [Layout.Stand.print_append, hline, hafter]

theorem reads_print (hcomments : comments.IsWhole)
    (h : Layout.ItemsRead tokens (.start comments) m.body) :
    ∃ code, (m.print comments).toList = m.firstLine ++ code ∧
      Lexer.Reads code (m.body.flatMap fun i => tokens i ++ i.terminator) := by
  have hstart := Layout.Stand.isWhole_start hcomments
  exact ⟨_, print_eq m comments, Layout.reads_items _ hstart h⟩

/-- **Printing keeps the items of a module apart, whatever the comments.**  If each
    item, printed where its turn comes, reads as its tokens, then the module reads as
    the tokens of its items in order, each `export =` closed by one semicolon: with
    whole comments and without any.  No comment is written more often than it was
    stored. -/
theorem print_keeps_items_apart (m : Module) (comments : Comments)
    (tokens : Item → List Lexer.Lexeme) (hcomments : comments.IsWhole)
    (hwith : Layout.ItemsRead tokens (.start comments) m.body)
    (hwithout : Layout.ItemsRead tokens (.start .empty) m.body) :
    (∀ store ∈ [comments, .empty], ∃ code, (m.print store).toList = m.firstLine ++ code ∧
      Lexer.Reads code (m.body.flatMap fun i => tokens i ++ i.terminator)) ∧
    ∀ c, (Layout.fill comments (Layout.ofModule m)).count (.comment c) ≤ comments.all.count c := by
  have hempty : Comments.empty.IsWhole := by rintro c ⟨⟩
  constructor
  · intro store hstore
    rcases List.mem_pair.1 hstore with rfl | rfl
    · exact reads_print hcomments hwith
    · exact reads_print hempty hwithout
  · intro c
    have hall : Layout.Filling.all ⟨comments, [], []⟩ = comments.all := List.append_nil _
    have hcount := Layout.count_fillFrom (Layout.ofModule m) c ⟨comments, [], []⟩
    rwa [hall] at hcount

/-- The item `export = foo`, and a statement that could go on with it: `(bar);`. -/
def fooExport : Item := .exportEquals ⟨1, 14⟩ (.ident ⟨⟨10, 13⟩, 0, "foo", false⟩)

def barStatement : Item :=
  .statement (.node "ExpressionStatement" [("span", .span ⟨15, 21⟩),
    ("expression", .node "ParenthesisExpression" [("span", .span ⟨15, 20⟩),
      ("expression", (Ident.mk ⟨16, 19⟩ 0 "bar" false).toTree)])])

def fooThenBar : Module := ⟨⟨1, 21⟩, none, [fooExport, barStatement]⟩

/-- A comment before `foo`, and a line comment behind the item. -/
def fooComments : Comments := ⟨[(10, ⟨.block, " a "⟩)], [(14, ⟨.line, " b"⟩)]⟩

/-- The tokens of the two items. -/
def fooThenBarTokens : Item → List Lexer.Lexeme
  | .exportEquals _ _ => [⟨.plain, "export"⟩, ⟨.plain, "="⟩, ⟨.plain, "foo"⟩]
  | _ => [⟨.plain, "("⟩, ⟨.plain, "bar"⟩, ⟨.plain, ")"⟩, ⟨.plain, ";"⟩]

/-- The semicolon is written right behind `foo`, so that the line comment does not
    hide it, and the parenthesis starts an item of its own. -/
theorem print_fooThenBar_apart :
    fooThenBar.print fooComments = "export = /* a */ foo; // b\n(bar);\n" ∧
    fooThenBar.print .empty = "export = foo;\n(bar);\n" ∧
    ∀ store ∈ [fooComments, .empty], Lexer.Reads (fooThenBar.print store).toList
      [⟨.plain, "export"⟩, ⟨.plain, "="⟩, ⟨.plain, "foo"⟩, ⟨.plain, ";"⟩,
        ⟨.plain, "("⟩, ⟨.plain, "bar"⟩, ⟨.plain, ")"⟩, ⟨.plain, ";"⟩] := by
  have hname : Lexer.Reads "foo".toList [⟨.plain, "foo"⟩] :=
    Lexer.reads_of_read? [.plain] (by decide)
  have hcomments : fooComments.IsWhole := by decide
  have hexport : ∀ {comments : Comments}, comments.IsWhole →
      Lexer.Reads ((Layout.Stand.start comments).print (Layout.ofTree fooExport.toTree))
        (fooThenBarTokens fooExport) := fun h =>
    Layout.reads_exportEquals (Layout.Stand.isWhole_start h) _ rfl hname
  obtain ⟨hreads, -⟩ := print_keeps_items_apart fooThenBar fooComments fooThenBarTokens hcomments
    ⟨hexport hcomments, Lexer.reads_of_read? [.plain, .plain, .plain, .plain] (by decide), trivial⟩
    ⟨hexport (by decide), Lexer.reads_of_read? [.plain, .plain, .plain, .plain] (by decide), trivial⟩
  refine ⟨by decide, by decide, fun store hstore => ?_⟩
  obtain ⟨code, hcode, htokens⟩ := hreads store hstore
  rw [hcode]
  exact htokens

end Module

end SoleExport
