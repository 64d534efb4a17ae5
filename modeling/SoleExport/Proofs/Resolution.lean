/-
  Paths as directions.

  A path leads from one directory to another: a name goes down, `..` goes up,
  and a slash at the start leads to the root first (`resolvePath`).  That is all
  that a normal form keeps of a path: two paths have the same normal form iff
  they lead to the same directory, from wherever one starts.

  * `Path.resolve_normalize`: walking over a path segment by segment cancels
    nothing that would lead elsewhere;
  * `Path.exists_directions`: a normal form goes up first, and then only down;
  * `Path.Directions.eq_of_resolve`: two such paths that lead to the same
    directory from every base are the same;
  * `normalizePath_eq_iff_resolvePath`: hence normal forms are right, and tell all
    directions apart.
-/
import SoleExport.Proofs.NormalPaths

namespace SoleExport

/-! ## Directories -/

namespace Path

/-- A segment that goes down: the name of a file or a directory. -/
structure IsName (s : String) : Prop where
  ne_empty : s ≠ ""
  noSlash : '/' ∉ s.toList
  ne_dot : s ≠ "."
  ne_up : s ≠ ".."

instance (s : String) : Decidable (IsName s) :=
  decidable_of_iff (s ≠ "" ∧ '/' ∉ s.toList ∧ s ≠ "." ∧ s ≠ "..")
    ⟨fun h => ⟨h.1, h.2.1, h.2.2.1, h.2.2.2⟩,
      fun h => ⟨h.ne_empty, h.noSlash, h.ne_dot, h.ne_up⟩⟩

/-- Go on by one segment from a directory, which is given by the names that lead
    to it from the root.  There is no way up from the root. -/
def enter (here : List String) (segment : String) : List String :=
  if segment = "" ∨ segment = "." then here
  else if segment = ".." then here.dropLast
  else here ++ [segment]

/-- Every segment of a path goes up or down. -/
theorem IsSegment.isName {s : String} (h : IsSegment s) (hup : s ≠ "..") : IsName s := by
  obtain ⟨hproper, hslash⟩ := h
  simp only [isProper, Bool.and_eq_true, bne_iff_ne] at hproper
  exact ⟨hproper.1, hslash, hproper.2, hup⟩

end Path

/-- Where a path given as text leads from a directory. -/
def resolvePath (base : List String) (text : String) : List String :=
  ((text.toList.splitOn '/').map String.ofList).foldl Path.enter
    (if text.toList.head? = some '/' then [] else base)

namespace Path

/-! ## Segments -/

theorem enter_up (here : List String) : enter here ".." = here.dropLast := rfl

theorem enter_of_isName {s : String} (h : IsName s) (here : List String) :
    enter here s = here ++ [s] := by
  rw [enter, if_neg (not_or.2 ⟨h.ne_empty, h.ne_dot⟩), if_neg h.ne_up]

theorem enter_of_not_isProper {s : String} (h : isProper s = false) (here : List String) :
    enter here s = here := by
  rw [enter, if_pos]
  simpa [isProper, or_iff_not_imp_left] using h

/-- Names are followed down one by one. -/
theorem foldl_enter_names :
    ∀ {names : List String}, (∀ s ∈ names, IsName s) → ∀ here : List String,
      names.foldl enter here = here ++ names
  | [], _, here => (List.append_nil here).symm
  | s :: names, h, here => by
    rw [List.foldl_cons, enter_of_isName (h s List.mem_cons_self),
      foldl_enter_names fun t ht => h t (List.mem_cons_of_mem s ht), List.append_assoc]
    rfl

/-- Each `..` drops a name, as long as there is one. -/
theorem foldl_enter_ups (n : Nat) (here : List String) :
    (List.replicate n "..").foldl enter here = here.take (here.length - n) := by
  induction n generalizing here with
  | zero => rw [Nat.sub_zero, List.take_length]; rfl
  | succ n ih =>
    rw [List.replicate_succ, List.foldl_cons, enter_up, ih, List.length_dropLast,
      List.dropLast_eq_take, List.take_take]
    congr 1
    omega

/-- Where the segments of a path lead from a directory. -/
def resolve (p : Path) (base : List String) : List String :=
  p.segments.foldl enter (if p.absolute then [] else base)

theorem split_eq_splitOn (cs : List Char) : split cs = cs.splitOn '/' := by
  induction cs with
  | nil => rfl
  | cons c cs ih =>
    rw [split, List.splitOn_cons_eq_if_modifyHead, ← ih]
    rcases hs : split cs with _ | ⟨s, ss⟩
    · exact absurd hs (split_ne_nil cs)
    · simp only [beq_iff_eq, List.modifyHead_cons]

theorem startsAtRoot_iff (cs : List Char) : startsAtRoot cs = true ↔ cs.head? = some '/' := by
  rcases cs with _ | ⟨c, cs⟩
  · simp [startsAtRoot]
  · rw [startsAtRoot.eq_def]
    split <;> simp_all

/-- Segments that say nothing lead nowhere. -/
theorem resolve_ofString (text : String) (base : List String) :
    (ofString text).resolve base = resolvePath base text := by
  have hskip : (fun here s => if isProper s = true then enter here s else here) = enter := by
    funext here s
    split_ifs with hs
    · rfl
    · rw [enter_of_not_isProper (by simpa using hs)]
  simp only [resolve, ofString, resolvePath, List.foldl_filter, hskip, split_eq_splitOn,
    startsAtRoot_iff]

/-! ## Normal forms lead to the same directory -/

/-- One segment.  The `..` that cancels a name would have dropped it, and the
    one that is left out at the root has nothing to drop. -/
theorem foldl_enter_walk {absolute : Bool} {base : List String} (hb : absolute = true → base = [])
    {done : List String} {segment : String} (hdone : ∀ s ∈ done, IsSegment s) :
    (walk absolute done segment).reverse.foldl enter base =
      enter (done.reverse.foldl enter base) segment := by
  have hput : ∀ done : List String, (segment :: done).reverse.foldl enter base =
      enter (done.reverse.foldl enter base) segment := fun done => by
    rw [List.reverse_cons, List.foldl_append]; rfl
  by_cases hs : segment = ".."
  · subst hs
    rcases done with _ | ⟨last, before⟩
    · cases absolute with
      | false => exact hput []
      | true => rw [hb rfl]; rfl
    · by_cases hl : last = ".."
      · subst hl
        exact hput (".." :: before)
      · have hlast : IsName last := (hdone last List.mem_cons_self).isName hl
        have hcancel : walk absolute (last :: before) ".." = before := by simp [walk, hl]
        rw [hcancel, List.reverse_cons, List.foldl_append, List.foldl_cons, List.foldl_nil,
          enter_of_isName hlast, enter_up, List.dropLast_concat]
  · have hw : walk absolute done segment = segment :: done := if_neg hs
    rw [hw, hput]

/-- All segments of a path, one after the other. -/
theorem foldl_enter_foldl_walk {absolute : Bool} {base : List String}
    (hb : absolute = true → base = []) :
    ∀ (ss : List String) {done : List String}, (∀ s ∈ ss, IsSegment s) →
      (∀ s ∈ done, IsSegment s) →
      (ss.foldl (walk absolute) done).reverse.foldl enter base =
        ss.foldl enter (done.reverse.foldl enter base)
  | [], _, _, _ => rfl
  | s :: ss, done, hss, hdone => by
    have hwalk : ∀ t ∈ walk absolute done s, IsSegment t := fun t ht => by
      rcases mem_walk ht with rfl | ht
      · exact hss t List.mem_cons_self
      · exact hdone t ht
    rw [List.foldl_cons, List.foldl_cons,
      foldl_enter_foldl_walk hb ss (fun t ht => hss t (List.mem_cons_of_mem s ht)) hwalk,
      foldl_enter_walk hb hdone]

/-- **A normal form leads where its path does.** -/
theorem resolve_normalize {p : Path} (hp : ∀ s ∈ p.segments, IsSegment s) (base : List String) :
    p.normalize.resolve base = p.resolve base :=
  foldl_enter_foldl_walk (fun h => if_pos h) p.segments hp fun _ h => by cases h

/-! ## Normal forms tell all directions apart -/

/-- A path that goes up `ups` times, and then down along `names`. -/
structure Directions (p : Path) (ups : Nat) (names : List String) : Prop where
  segments : p.segments = List.replicate ups ".." ++ names
  isName : ∀ s ∈ names, IsName s
  /-- There is no way up from the root. -/
  root : p.absolute = true → ups = 0

/-- Settled segments have every `..` ahead of every other segment. -/
theorem Settled.ups {absolute : Bool} {done : List String} (h : Settled absolute done) :
    ∃ ups names, done.reverse = List.replicate ups ".." ++ names ∧ ".." ∉ names ∧
      (absolute = true → ups = 0) := by
  induction done with
  | nil => exact ⟨0, [], rfl, by simp, fun _ => rfl⟩
  | cons s done ih =>
    obtain ⟨ups, names, hdone, hnames, hroot⟩ := ih h.2
    by_cases hs : s = ".."
    · subst hs
      have hput : Path.walk absolute done ".." = ".." :: done := h.1
      rcases done with _ | ⟨last, before⟩
      · -- at the root it would not have been put on
        cases absolute with
        | false => exact ⟨1, [], rfl, by simp, by simp⟩
        | true => simp [Path.walk] at hput
      · -- behind a name it would have cancelled it, so there are no names yet
        have hl : last = ".." := by
          by_contra hl
          have hcancel : Path.walk absolute (last :: before) ".." = before := by
            simp [Path.walk, hl]
          have hlength := congrArg List.length (hcancel.symm.trans hput)
          simp only [List.length_cons] at hlength
          omega
        have hnil : names = [] := by
          rcases names.eq_nil_or_concat with hnil | ⟨init, t, rfl⟩
          · exact hnil
          · rw [hl, List.reverse_cons, List.concat_eq_append, ← List.append_assoc] at hdone
            have hup : ".." = t := List.singleton_inj.1 (List.append_inj_right' hdone rfl)
            exact absurd (by simp [hup]) hnames
        rw [hnil, List.append_nil] at hdone
        refine ⟨ups + 1, [], ?_, by simp, fun ha => ?_⟩
        · rw [List.reverse_cons, hdone, List.append_nil, List.replicate_succ']
        · rw [hroot ha] at hdone
          simp at hdone
    · refine ⟨ups, names ++ [s], ?_, ?_, hroot⟩
      · rw [List.reverse_cons, hdone, List.append_assoc]
      · simp [hnames, Ne.symm hs]

/-- **A normal form goes up first, and then only down.** -/
theorem exists_directions {p : Path} (hp : ∀ s ∈ p.segments, IsSegment s) :
    ∃ ups names, p.normalize.Directions ups names := by
  have hsettled : Settled p.absolute (p.segments.foldl (walk p.absolute) []) :=
    Settled.foldl_walk p.segments trivial
  obtain ⟨ups, names, hsegments, hnames, hroot⟩ := hsettled.ups
  refine ⟨ups, names, hsegments, fun s hs => ?_, hroot⟩
  have hmem : s ∈ p.normalize.segments := by
    rw [show p.normalize.segments = _ from hsegments]
    exact List.mem_append_right _ hs
  exact (isSegment_of_mem_normalize hp s hmem).isName fun hup => hnames (hup ▸ hs)

namespace Directions

variable {p q : Path} {m n : Nat} {xs ys : List String}

theorem resolve (h : p.Directions m xs) (base : List String) :
    p.resolve base = (if p.absolute then [] else base.take (base.length - m)) ++ xs := by
  rw [Path.resolve, h.segments, List.foldl_append, foldl_enter_ups, foldl_enter_names h.isName]
  split_ifs <;> simp

/-- A directory that is deep enough is left just as often as the path goes up. -/
theorem resolve_replicate (h : p.Directions m xs) (hp : p.absolute = false) (s : String) (k : Nat) :
    p.resolve (List.replicate k s) = List.replicate (k - m) s ++ xs := by
  rw [h.resolve, if_neg (by simp [hp]), List.length_replicate, List.take_replicate,
    Nat.min_eq_left (Nat.sub_le k m)]

/-- A path from the root and another one lead to different places from one of two
    bases of different depth. -/
theorem not_absolute (hp : p.Directions m xs) (hq : q.Directions n ys)
    (h : ∀ base, (∀ s ∈ base, IsName s) → p.resolve base = q.resolve base)
    (ha : p.absolute = true) : q.absolute = true := by
  by_contra hb
  rw [Bool.not_eq_true] at hb
  have hxs : ∀ k, xs = List.replicate (k - n) "a" ++ ys := fun k => by
    have hk := h (List.replicate k "a") fun s hs => List.eq_of_mem_replicate hs ▸ by decide
    rwa [hp.resolve, if_pos ha, List.nil_append, hq.resolve_replicate hb] at hk
  have hlen := congrArg List.length ((hxs n).symm.trans (hxs (n + 1)))
  simp at hlen

/-- Of two relative paths none goes up more often than the other: what it drops
    of a base made of one name would have to be among the names of the other
    path, whatever that name is. -/
theorem le_of_resolve (hp : p.Directions m xs) (hq : q.Directions n ys)
    (h : ∀ base, (∀ s ∈ base, IsName s) → p.resolve base = q.resolve base)
    (ha : p.absolute = false) (hb : q.absolute = false) : n ≤ m := by
  by_contra hlt
  have hys : ∀ s, IsName s → List.replicate (n - m) s ++ xs = ys := fun s hs => by
    have hn := h (List.replicate n s) fun t ht => List.eq_of_mem_replicate ht ▸ hs
    rwa [hp.resolve_replicate ha, hq.resolve_replicate hb, Nat.sub_self] at hn
  have hsame := List.append_cancel_right ((hys "a" (by decide)).trans (hys "b" (by decide)).symm)
  rw [List.replicate_inj] at hsame
  rcases hsame.2 with hz | hab
  · omega
  · exact absurd hab (by decide)

/-- **Paths that go up first and then down are told apart by where they lead.** -/
theorem eq_of_resolve (hp : p.Directions m xs) (hq : q.Directions n ys)
    (h : ∀ base, (∀ s ∈ base, IsName s) → p.resolve base = q.resolve base) : p = q := by
  have hback : ∀ base, (∀ s ∈ base, IsName s) → q.resolve base = p.resolve base :=
    fun base hbase => (h base hbase).symm
  have habsolute : p.absolute = q.absolute :=
    Bool.eq_iff_iff.2 ⟨hp.not_absolute hq h, hq.not_absolute hp hback⟩
  have hups : m = n := by
    rcases ha : p.absolute with _ | _
    · have hb : q.absolute = false := habsolute ▸ ha
      exact Nat.le_antisymm (hq.le_of_resolve hp hback hb ha) (hp.le_of_resolve hq h ha hb)
    · rw [hp.root ha, hq.root (habsolute ▸ ha)]
  subst hups
  have hnames : xs = ys := by
    have hnil := h [] fun s hs => by cases hs
    rw [hp.resolve, hq.resolve, habsolute] at hnil
    exact List.append_cancel_left hnil
  obtain ⟨absolute, segments⟩ := p
  obtain ⟨absolute', segments'⟩ := q
  rw [Path.mk.injEq]
  refine ⟨habsolute, hp.segments.trans ?_⟩
  rw [hnames]
  exact hq.segments.symm

end Directions

end Path

/-! ## Texts -/

theorem resolvePath_normalizePath (base : List String) (text : String) :
    resolvePath base (normalizePath text) = resolvePath base text := by
  rw [← Path.resolve_ofString, Path.ofString_normalizePath,
    Path.resolve_normalize fun _ => Path.isSegment_of_mem_ofString, Path.resolve_ofString]

/-- **Normal forms are sound and complete.**  Two texts have the same normal form
    iff they lead to the same directory from every base; the normal form of a
    text leads where the text does, and is its own normal form. -/
theorem normalizePath_eq_iff_resolvePath (a b : String) :
    (normalizePath a = normalizePath b ↔
      ∀ base, (∀ s ∈ base, Path.IsName s) → resolvePath base a = resolvePath base b) ∧
    (∀ base, resolvePath base (normalizePath a) = resolvePath base a) ∧
    normalizePath (normalizePath a) = normalizePath a := by
  refine ⟨⟨fun h base _ => ?_, fun h => ?_⟩, fun base => resolvePath_normalizePath base a,
    normalizePath_normalizePath a⟩
  · rw [← resolvePath_normalizePath base a, h, resolvePath_normalizePath]
  · rw [normalizePath_eq_iff]
    have hsegments : ∀ text, ∀ s ∈ (Path.ofString text).segments, Path.IsSegment s :=
      fun _ _ => Path.isSegment_of_mem_ofString
    obtain ⟨m, xs, ha⟩ := Path.exists_directions (hsegments a)
    obtain ⟨n, ys, hb⟩ := Path.exists_directions (hsegments b)
    refine ha.eq_of_resolve hb fun base hbase => ?_
    rw [Path.resolve_normalize (hsegments a), Path.resolve_normalize (hsegments b),
      Path.resolve_ofString, Path.resolve_ofString]
    exact h base hbase

/-- A path that goes up past its own names, in two spellings; with a slash ahead
    it leads elsewhere. -/
theorem normalizePath_eq_iff_resolvePath_upwards :
    let a := "x/.././../b//c/"
    let b := "../b/c"
    (∀ s ∈ ["u", "v"], Path.IsName s) ∧
    normalizePath a = normalizePath b ∧ resolvePath ["u", "v"] a = resolvePath ["u", "v"] b ∧
    resolvePath ["u", "v"] (normalizePath a) = ["u", "b", "c"] ∧
    normalizePath (normalizePath a) = normalizePath a ∧
    ¬ ∀ base, (∀ s ∈ base, Path.IsName s) → resolvePath base b = resolvePath base "/../b/c" := by
  intro a b
  have hbase : ∀ s ∈ ["u", "v"], Path.IsName s := by decide
  have hab : normalizePath a = normalizePath b := by decide
  obtain ⟨hiff, hresolve, hagain⟩ := normalizePath_eq_iff_resolvePath a b
  refine ⟨hbase, hab, hiff.1 hab _ hbase, ?_, hagain, fun h => ?_⟩
  · rw [hresolve]
    decide
  · have hroot := (normalizePath_eq_iff_resolvePath b "/../b/c").1.2 h
    exact absurd hroot (by decide)

end SoleExport
