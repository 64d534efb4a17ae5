/-
  Normal forms of paths.

  A path that is written out is read back as it was (`Path.ofString_toString`),
  and walking over a normal form changes nothing (`Path.normalize_normalize`).
  So the normal form of a text is its own normal form
  (`normalizePath_normalizePath`), and two texts have the same one iff the paths
  they spell do (`normalizePath_eq_iff`).

  * `fileName?_normalizePath`: a normal form names the same file;
  * `Roots.contains_ofList`: a file is a root iff a root has its normal form, so
    that it does not matter how either of them is spelled.
-/
import Mathlib.Tactic.Common
import SoleExport.Transform

namespace SoleExport

namespace Path

/-! ## Segments -/

/-- A segment that a path can hold: it says something and has no slash in it. -/
def IsSegment (s : String) : Prop := isProper s = true ∧ '/' ∉ s.toList

theorem IsSegment.ne_nil {s : String} (h : IsSegment s) : s.toList ≠ [] := by
  intro hnil
  have hs : s = "" := String.toList_inj.1 hnil
  simp [IsSegment, isProper, hs] at h

theorem split_ne_nil (cs : List Char) : split cs ≠ [] := by
  cases cs with
  | nil => simp [split]
  | cons c cs =>
    rw [split]
    split_ifs with hc
    · simp
    · rcases split cs with _ | ⟨s, ss⟩ <;> simp

theorem slash_notMem_of_mem_split {s : List Char} :
    ∀ {cs : List Char}, s ∈ split cs → '/' ∉ s
  | [], h => by simp [split] at h; simp [h]
  | c :: cs, h => by
    have ih := fun s (h : s ∈ split cs) => slash_notMem_of_mem_split h
    rw [split] at h
    split_ifs at h with hc
    · rcases List.mem_cons.1 h with rfl | h
      · simp
      · exact ih s h
    · rcases hs : split cs with _ | ⟨t, ts⟩
      · exact absurd hs (split_ne_nil cs)
      · rw [hs] at h ih
        rcases List.mem_cons.1 h with rfl | h
        · simpa [Ne.symm hc] using ih t List.mem_cons_self
        · exact ih s (List.mem_cons_of_mem t h)

/-- A slash divides a text into what is before and behind it. -/
theorem split_append_slash (a b : List Char) : split (a ++ '/' :: b) = split a ++ split b := by
  induction a with
  | nil => simp [split]
  | cons c a ih =>
    rw [List.cons_append, split, split, ih]
    split_ifs with hc
    · rfl
    · rcases hs : split a with _ | ⟨s, ss⟩
      · exact absurd hs (split_ne_nil a)
      · rfl

theorem split_of_notMem {a : List Char} (ha : '/' ∉ a) : split a = [a] := by
  induction a with
  | nil => rfl
  | cons c a ih =>
    rw [List.mem_cons, not_or] at ha
    rw [split, if_neg (Ne.symm ha.1), ih ha.2]

theorem toList_joinSegments (s t : String) (ss : List String) :
    (joinSegments (s :: t :: ss)).toList = s.toList ++ '/' :: (joinSegments (t :: ss)).toList := by
  simp [joinSegments]

/-- Segments that are joined are found again. -/
theorem split_joinSegments :
    ∀ {ss : List String}, ss ≠ [] → (∀ s ∈ ss, '/' ∉ s.toList) →
      split (joinSegments ss).toList = ss.map String.toList
  | [], hne, _ => absurd rfl hne
  | [s], _, h => by simpa [joinSegments] using split_of_notMem (h s (List.mem_singleton_self s))
  | s :: t :: ss, _, h => by
    rw [toList_joinSegments, split_append_slash, split_of_notMem (h s List.mem_cons_self),
      split_joinSegments (by simp) fun u hu => h u (List.mem_cons_of_mem s hu)]
    rfl

theorem isSegment_of_mem_ofString {s text : String} (h : s ∈ (ofString text).segments) :
    IsSegment s := by
  simp only [ofString, List.mem_filter, List.mem_map] at h
  obtain ⟨⟨cs, hcs, rfl⟩, hp⟩ := h
  exact ⟨hp, by simpa using slash_notMem_of_mem_split hcs⟩

/-! ## Reading what is written -/

theorem startsAtRoot_joinSegments {ss : List String} (h : ∀ s ∈ ss, IsSegment s) :
    startsAtRoot (joinSegments ss).toList = false := by
  -- the first character is that of a segment, hence no slash
  have hhead : ∀ {s : String} (rest : List Char), IsSegment s →
      startsAtRoot (s.toList ++ rest) = false := by
    intro s rest hs
    rcases hcs : s.toList with _ | ⟨c, cs⟩
    · exact absurd hcs hs.ne_nil
    · have hc : c ≠ '/' := by
        rintro rfl
        exact hs.2 (by simp [hcs])
      rw [List.cons_append, startsAtRoot]
      simpa using hc
  match ss with
  | [] => simp [joinSegments, startsAtRoot]
  | [s] => simpa [joinSegments] using hhead [] (h s (by simp))
  | s :: t :: ss =>
    rw [toList_joinSegments]
    exact hhead _ (h s List.mem_cons_self)

theorem filter_isProper {ss : List String} (h : ∀ s ∈ ss, IsSegment s) :
    ss.filter isProper = ss :=
  List.filter_eq_self.2 fun s hs => (h s hs).1

/-- **A path is read back as it is written.** -/
theorem ofString_toString {p : Path} (h : ∀ s ∈ p.segments, IsSegment s) :
    ofString p.toString = p := by
  obtain ⟨absolute, ss⟩ := p
  have hmap : (ss.map String.toList).map String.ofList = ss := by simp
  cases absolute with
  | false =>
    rcases ss with _ | ⟨s, ss⟩
    · rfl
    · have htext : toString ⟨false, s :: ss⟩ = joinSegments (s :: ss) := rfl
      rw [htext, ofString, startsAtRoot_joinSegments h,
        split_joinSegments (by simp) fun t ht => (h t ht).2, hmap, filter_isProper h]
  | true =>
    have htext : (toString ⟨true, ss⟩).toList = '/' :: (joinSegments ss).toList := by
      simp [toString]
    rw [ofString, htext, startsAtRoot, split, if_pos rfl, List.map_cons,
      List.filter_cons_of_neg (by decide)]
    rcases ss with _ | ⟨s, ss⟩
    · rfl
    · rw [split_joinSegments (by simp) fun t ht => (h t ht).2, hmap, filter_isProper h]

/-! ## Normal forms -/

theorem mem_walk {absolute : Bool} {done : List String} {segment s : String}
    (h : s ∈ walk absolute done segment) : s = segment ∨ s ∈ done := by
  by_cases hs : segment = ".."
  · rcases done with _ | ⟨last, before⟩
    · cases absolute <;> simp_all [walk]
    · by_cases hl : last = ".."
      · rw [walk, if_pos hs, if_pos hl] at h
        exact List.mem_cons.1 h
      · rw [walk, if_pos hs, if_neg hl] at h
        exact Or.inr (List.mem_cons_of_mem last h)
  · have hw : walk absolute done segment = segment :: done := if_neg hs
    rw [hw] at h
    exact List.mem_cons.1 h

theorem mem_foldl_walk {absolute : Bool} {s : String} :
    ∀ (ss : List String) {done : List String},
      s ∈ ss.foldl (walk absolute) done → s ∈ ss ∨ s ∈ done
  | [], _, h => Or.inr h
  | t :: ss, done, h => by
    rcases mem_foldl_walk ss h with h | h
    · exact Or.inl (List.mem_cons_of_mem t h)
    · rcases mem_walk h with rfl | h
      · exact Or.inl List.mem_cons_self
      · exact Or.inr h

theorem isSegment_of_mem_normalize {p : Path} (h : ∀ s ∈ p.segments, IsSegment s) :
    ∀ s ∈ p.normalize.segments, IsSegment s := by
  intro s hs
  rcases mem_foldl_walk _ (List.mem_reverse.1 hs) with hs | hs
  · exact h s hs
  · cases hs

/-- Segments, last one first, each of which was put on by walking. -/
def Settled (absolute : Bool) : List String → Prop
  | [] => True
  | s :: done => walk absolute done s = s :: done ∧ Settled absolute done

theorem Settled.walk {absolute : Bool} {done : List String} (h : Settled absolute done)
    (segment : String) : Settled absolute (walk absolute done segment) := by
  by_cases hs : segment = ".."
  · subst hs
    rcases done with _ | ⟨last, before⟩
    · cases absolute <;> simp [Path.walk, Settled]
    · by_cases hl : last = ".."
      · subst hl
        exact ⟨rfl, h⟩
      · -- a name is cancelled, which leaves what was there before it
        have hw : Path.walk absolute (last :: before) ".." = before := by simp [Path.walk, hl]
        rw [hw]
        exact h.2
  · have hw : Path.walk absolute done segment = segment :: done := by simp [Path.walk, hs]
    rw [hw]
    exact ⟨hw, h⟩

theorem Settled.foldl_walk {absolute : Bool} :
    ∀ (ss : List String) {done : List String}, Settled absolute done →
      Settled absolute (ss.foldl (Path.walk absolute) done)
  | [], _, h => h
  | s :: ss, _, h => Settled.foldl_walk ss (h.walk s)

/-- Walking over settled segments puts them on again. -/
theorem Settled.foldl_reverse {absolute : Bool} {done : List String} (h : Settled absolute done) :
    done.reverse.foldl (Path.walk absolute) [] = done := by
  induction done with
  | nil => rfl
  | cons s done ih => rw [List.reverse_cons, List.foldl_append, ih h.2, List.foldl_cons, h.1]; rfl

/-- **A normal form is its own normal form.** -/
theorem normalize_normalize (p : Path) : p.normalize.normalize = p.normalize := by
  have h : Settled p.absolute (p.segments.foldl (walk p.absolute) []) :=
    Settled.foldl_walk p.segments trivial
  simp only [normalize, h.foldl_reverse]

theorem ofString_normalizePath (text : String) :
    ofString (normalizePath text) = (ofString text).normalize :=
  ofString_toString (isSegment_of_mem_normalize fun _ => isSegment_of_mem_ofString)

/-- A name at the end of a path stays there. -/
theorem getLast?_normalize {p : Path} {s : String} (h : p.segments.getLast? = some s)
    (hs : s ≠ "..") : p.normalize.segments.getLast? = some s := by
  obtain ⟨before, hp⟩ := List.getLast?_eq_some_iff.1 h
  have hw : ∀ done, walk p.absolute done s = s :: done := fun done => if_neg hs
  rw [normalize, hp, List.foldl_append, List.foldl_cons, List.foldl_nil, hw, List.reverse_cons,
    List.getLast?_append]
  rfl

end Path

/-- **Normalizing twice is normalizing once.** -/
theorem normalizePath_normalizePath (text : String) :
    normalizePath (normalizePath text) = normalizePath text := by
  rw [normalizePath, Path.ofString_normalizePath, Path.normalize_normalize]
  rfl

/-- Texts have the same normal form iff their paths do. -/
theorem normalizePath_eq_iff {a b : String} :
    normalizePath a = normalizePath b ↔
      (Path.ofString a).normalize = (Path.ofString b).normalize := by
  constructor
  · intro h
    rw [← Path.ofString_normalizePath, h, Path.ofString_normalizePath]
  · intro h
    rw [normalizePath, h]
    rfl

/-! ## File names -/

theorem fileName?_eq_some_iff {text name : String} :
    fileName? text = some name ↔
      (Path.ofString text).segments.getLast? = some name ∧ name ≠ ".." := by
  unfold fileName?
  rcases (Path.ofString text).segments.getLast? with _ | s
  · simp
  · by_cases hs : s = ".."
    · simp only [hs, if_true, Option.some.injEq, false_iff, not_and, not_not, reduceCtorEq]
      rintro rfl
      rfl
    · simp only [hs, if_false, Option.some.injEq]
      constructor
      · rintro rfl
        exact ⟨rfl, hs⟩
      · exact And.left

/-- **A normal form names the same file.** -/
theorem fileName?_normalizePath {text name : String} (h : fileName? text = some name) :
    fileName? (normalizePath text) = some name := by
  obtain ⟨hlast, hname⟩ := fileName?_eq_some_iff.1 h
  rw [fileName?_eq_some_iff, Path.ofString_normalizePath]
  exact ⟨Path.getLast?_normalize hlast hname, hname⟩

/-! ## Roots -/

theorem Roots.mem_spellings {names : List String} {s : String} :
    s ∈ (ofList names).spellings ↔ ∃ r ∈ names, s = r ∨ s = normalizePath r := by
  simp [ofList]

/-- A file is a root iff its normal form is that of a root. -/
theorem Roots.contains_iff {names : List String} {name : String} :
    (ofList names).contains name = true ↔
      ∃ r ∈ names, normalizePath r = normalizePath name := by
  simp only [contains, Bool.or_eq_true, List.contains_iff_mem, mem_spellings]
  constructor
  · -- whichever spelling is hit, normalizing both sides gives the same
    rintro (⟨r, hr, rfl | rfl⟩ | ⟨r, hr, h | h⟩)
    · exact ⟨_, hr, rfl⟩
    · exact ⟨r, hr, (normalizePath_normalizePath r).symm⟩
    · exact ⟨r, hr, by rw [← h, normalizePath_normalizePath]⟩
    · exact ⟨r, hr, h.symm⟩
  · rintro ⟨r, hr, h⟩
    exact Or.inr ⟨r, hr, Or.inr h.symm⟩

/-- Roots and files can be spelled otherwise. -/
theorem Roots.contains_congr {names names' : List String} {name name' : String}
    (hroots : names.map normalizePath = names'.map normalizePath)
    (hname : normalizePath name = normalizePath name') :
    (ofList names).contains name = (ofList names').contains name' := by
  have hmem : ∀ ns n, (ofList ns).contains n = true ↔ normalizePath n ∈ ns.map normalizePath := by
    intro ns n
    rw [contains_iff, List.mem_map]
  rw [Bool.eq_iff_iff, hmem, hmem, hroots, hname]

/-- A transformation passes over what is no root. -/
theorem Compilation.apply_of_not_root {c : Compilation} {f : SourceFile}
    (h : c.roots.contains f.name = false) (options : Options) :
    c.apply options f = ⟨.ok f, [.notRoot f.name]⟩ := by
  rw [apply, if_pos (by simp [h])]

/-- **A file is a root by normal forms alone.**  It is one iff its normal form is
    that of a root, and what is not is passed over; so neither a root nor a file
    can be made one, or cease to be one, by another spelling. -/
theorem Roots.contains_ofList (names : List String) (oracle : Oracle) (options : Options) :
    (∀ name, (ofList names).contains name = true ↔
      ∃ r ∈ names, normalizePath r = normalizePath name) ∧
    (∀ f : SourceFile, (¬ ∃ r ∈ names, normalizePath r = normalizePath f.name) →
      (Compilation.mk (ofList names) oracle).apply options f = ⟨.ok f, [.notRoot f.name]⟩) ∧
    ∀ names', names.map normalizePath = names'.map normalizePath →
      (∀ name name', normalizePath name = normalizePath name' →
        (ofList names).contains name = (ofList names').contains name') ∧
      ∀ f : SourceFile, (Compilation.mk (ofList names) oracle).apply options f =
        (Compilation.mk (ofList names') oracle).apply options f := by
  refine ⟨fun name => contains_iff, fun f hf => ?_, fun names' hroots => ⟨?_, fun f => ?_⟩⟩
  · rw [← contains_iff, Bool.not_eq_true] at hf
    exact Compilation.apply_of_not_root hf options
  · intro name name' hname
    exact contains_congr hroots hname
  · have hsame : (ofList names).contains f.name = (ofList names').contains f.name :=
      contains_congr hroots rfl
    simp only [Compilation.apply, hsame]

/-- Spellings of two roots and of two files; the second file is no root. -/
theorem Roots.contains_ofList_respelled :
    let names := ["./src/index.ts", "/a/../../b.ts"]
    let names' := ["src//x/../index.ts/", "/b.ts"]
    let other : SourceFile := ⟨"../src/index.ts", ⟨⟨1, 1⟩, none, []⟩⟩
    names.map normalizePath = names'.map normalizePath ∧
    normalizePath "src/index.ts/." = normalizePath "lib/../src/./index.ts" ∧
    (ofList names).contains "src/index.ts/." = true ∧
    (ofList names').contains "lib/../src/./index.ts" = true ∧
    (Compilation.mk (ofList names) Oracle.syntactic).apply {} other =
      ⟨.ok other, [.notRoot "../src/index.ts"]⟩ := by
  intro names names' other
  have hroots : names.map normalizePath = names'.map normalizePath := by decide
  have hname : normalizePath "src/index.ts/." = normalizePath "lib/../src/./index.ts" := by decide
  obtain ⟨hmem, hother, hsame⟩ := Roots.contains_ofList names Oracle.syntactic {}
  have hcontains : (ofList names).contains "src/index.ts/." = true :=
    (hmem _).2 ⟨"./src/index.ts", by decide, by decide⟩
  refine ⟨hroots, hname, hcontains, ?_, hother other ?_⟩
  · rw [← (hsame names' hroots).1 _ _ hname]
    exact hcontains
  · rintro ⟨r, hr, h⟩
    revert h
    rcases List.mem_cons.1 hr with rfl | hr
    · decide
    · rw [List.mem_singleton.1 hr]
      decide

end SoleExport
