/-
  The places of outputs.

  Inputs are placed one by one, each under its own file name, up to the first one
  that has none or shares it with an earlier one (`outputPaths_cases`).  A file in
  a directory has the name it was given there (`fileName?_joinPath`), whatever the
  directory, so that an output and an input or another output are the same file
  only if they have the same name.

  * `outputPaths_nodup`: no output is put in the place of another;
  * `outputPaths_apart`: nor in the place of an input of another name;
  * `outputPaths_exact`: when inputs are placed, where, and which one is at fault
    if they are not.
-/
import Mathlib.Data.List.Nodup
import SoleExport.OutputPaths
import SoleExport.Proofs.NormalPaths

namespace SoleExport

/-! ## Files in a directory -/

theorem isSegment_of_fileName? {text name : String} (h : fileName? text = some name) :
    Path.IsSegment name ∧ name ≠ ".." := by
  obtain ⟨hlast, hname⟩ := fileName?_eq_some_iff.1 h
  exact ⟨Path.isSegment_of_mem_ofString (List.mem_of_getLast? hlast), hname⟩

/-- A path in a directory leads through the directory and then to the file. -/
theorem Path.segments_joinPath (directory : String) {name : String} (h : IsSegment name) :
    (ofString (joinPath directory name)).segments = (ofString directory).segments ++ [name] := by
  have hname : (([name.toList].map String.ofList).filter isProper) = [name] := by
    simpa using h.1
  unfold joinPath
  by_cases hd : (directory.isEmpty || directory.toList.getLast? == some '/') = true
  · rw [if_pos hd]
    simp only [ofString, String.toList_append]
    rw [Bool.or_eq_true, String.isEmpty_iff, beq_iff_eq] at hd
    rcases hd with rfl | hlast
    · simpa [split_of_notMem h.2, split, isProper] using h.1
    · -- behind the last slash of the directory there is only an empty piece
      obtain ⟨before, hb⟩ := List.getLast?_eq_some_iff.1 hlast
      rw [hb, List.append_assoc, List.singleton_append, split_append_slash, split_append_slash,
        split_of_notMem h.2, List.map_append, List.filter_append, hname, List.map_append,
        List.filter_append]
      simp [split, isProper]
  · rw [if_neg hd]
    have htext : (directory ++ "/" ++ name).toList = directory.toList ++ '/' :: name.toList := by
      simp
    rw [ofString, htext, split_append_slash, split_of_notMem h.2, List.map_append,
      List.filter_append, hname]
    rfl

/-- **A file in a directory has the name that it was given.** -/
theorem fileName?_joinPath (directory : String) {name : String} (h : Path.IsSegment name)
    (hname : name ≠ "..") : fileName? (joinPath directory name) = some name := by
  rw [fileName?_eq_some_iff, Path.segments_joinPath directory h]
  exact ⟨by simp, hname⟩

/-- Files with names that lie in the same place have the same name. -/
theorem fileName?_congr {a b x y : String} (h : normalizePath a = normalizePath b)
    (ha : fileName? a = some x) (hb : fileName? b = some y) : x = y := by
  have hx := fileName?_normalizePath ha
  rw [h, fileName?_normalizePath hb] at hx
  exact (Option.some.inj hx).symm

/-! ## Inputs that can be placed -/

/-- Inputs whose outputs stay apart: each has a file name, and no two have the
    same. -/
structure Placeable (inputs : List String) : Prop where
  named : ∀ input ∈ inputs, (fileName? input).isSome = true
  distinct : (inputs.map fileName?).Nodup

/-- What is wrong with an input that cannot be placed beside the earlier ones. -/
inductive Unplaceable (directory : String) (earlier : List String) (input : String) :
    OutputError → Prop
  /-- it has no file name -/
  | noFileName : fileName? input = none →
      Unplaceable directory earlier input (.noFileName input)
  /-- it has the file name of just one earlier input -/
  | collision {name previous} : fileName? input = some name →
      earlier.filter (fun other => fileName? other == some name) = [previous] →
      Unplaceable directory earlier input (.collision previous input (joinPath directory name))

/-- The file names of inputs, each with its input, the last one first. -/
def fileNames (inputs : List String) : List (String × String) :=
  (inputs.filterMap fun input => (fileName? input).map fun name => (name, input)).reverse

section
variable {earlier : List String} {input name previous : String}

theorem mem_fileNames {inputs : List String} :
    (name, input) ∈ fileNames inputs ↔ input ∈ inputs ∧ fileName? input = some name := by
  simp only [fileNames, List.mem_reverse, List.mem_filterMap, Option.map_eq_some_iff,
    Prod.mk.injEq]
  constructor
  · rintro ⟨other, hmem, n, hn, rfl, rfl⟩
    exact ⟨hmem, hn⟩
  · rintro ⟨hmem, hn⟩
    exact ⟨input, hmem, name, hn, rfl, rfl⟩

theorem fileNames_append_singleton (h : fileName? input = some name) :
    fileNames (earlier ++ [input]) = (name, input) :: fileNames earlier := by
  simp [fileNames, List.filterMap_append, h]

theorem placeable_nil : Placeable [] := ⟨fun _ h => (List.not_mem_nil h).elim, List.nodup_nil⟩

/-- Inputs of the same name are the same input. -/
theorem Placeable.index {inputs : List String} (h : Placeable inputs) {i j : ℕ} {a b : String}
    (hi : inputs[i]? = some a) (hj : inputs[j]? = some b) (hab : fileName? a = fileName? b) :
    i = j := by
  have hni : (inputs.map fileName?)[i]? = some (fileName? a) := by
    rw [List.getElem?_map, hi, Option.map_some]
  have hnj : (inputs.map fileName?)[j]? = some (fileName? a) := by
    rw [List.getElem?_map, hj, Option.map_some, hab]
  have hlt : i < (inputs.map fileName?).length := (List.getElem?_eq_some_iff.1 hni).1
  exact (List.getElem?_inj hlt h.distinct).1 (hni.trans hnj.symm)

/-- A name is new if no earlier input has it. -/
theorem Placeable.append_singleton (h : Placeable earlier) (hname : fileName? input = some name)
    (hnew : (fileNames earlier).lookup name = none) : Placeable (earlier ++ [input]) := by
  rw [List.lookup_eq_none_iff] at hnew
  refine ⟨fun other hother => ?_, ?_⟩
  · rcases List.mem_append.1 hother with hother | hother
    · exact h.named other hother
    · rw [List.mem_singleton.1 hother, hname]; rfl
  · rw [List.map_append, List.map_singleton, List.nodup_append]
    refine ⟨h.distinct, List.nodup_singleton _, fun a ha b hb hab => ?_⟩
    obtain ⟨other, hother, rfl⟩ := List.mem_map.1 ha
    rw [List.mem_singleton.1 hb, hname] at hab
    have hne := hnew _ (mem_fileNames.2 ⟨hother, hab⟩)
    simp at hne

/-- A name that is found is that of just one earlier input. -/
theorem Placeable.filter_eq (h : Placeable earlier)
    (hfound : (fileNames earlier).lookup name = some previous) :
    earlier.filter (fun other => fileName? other == some name) = [previous] := by
  obtain ⟨hprevious, hname⟩ : previous ∈ earlier ∧ fileName? previous = some name := by
    obtain ⟨l₁, l₂, hl, -⟩ := List.lookup_eq_some_iff.1 hfound
    exact mem_fileNames.1 (by rw [hl]; simp)
  have hinj := List.inj_on_of_nodup_map h.distinct
  have hnodup := (List.Nodup.of_map _ h.distinct).filter fun other => fileName? other == some name
  rw [← List.perm_singleton, List.perm_ext_iff_of_nodup hnodup (List.nodup_singleton _)]
  intro other
  rw [List.mem_filter, beq_iff_eq, List.mem_singleton]
  constructor
  · rintro ⟨hother, hn⟩
    exact hinj hother hprevious (hn.trans hname.symm)
  · rintro rfl
    exact ⟨hprevious, hname⟩

end

/-- An input that cannot be placed spoils all inputs that it is among. -/
theorem Unplaceable.not_placeable {directory : String} {e : OutputError}
    (h : Unplaceable directory earlier input e) (later : List String) :
    ¬ Placeable (earlier ++ input :: later) := by
  rintro ⟨hnamed, hdistinct⟩
  cases h with
  | noFileName hname =>
    have hsome := hnamed input (by simp)
    rw [hname] at hsome
    cases hsome
  | @collision name previous hname honly =>
    have hprevious : previous ∈ earlier.filter fun other => fileName? other == some name := by
      rw [honly]
      exact List.mem_singleton_self previous
    rw [List.mem_filter, beq_iff_eq] at hprevious
    rw [List.map_append, List.map_cons, List.nodup_append] at hdistinct
    refine hdistinct.2.2 _ (List.mem_map_of_mem hprevious.1) _ List.mem_cons_self ?_
    rw [hname, hprevious.2]

/-! ## Outputs -/

/-- **Inputs are placed one by one**, beside earlier ones, up to the first that
    cannot be. -/
theorem outputPathsFrom_cases (directory : String) :
    ∀ (inputs : List String) {earlier : List String}, Placeable earlier →
      (Placeable (earlier ++ inputs) ∧ ∃ names : List String,
        inputs.map fileName? = names.map some ∧
        outputPathsFrom directory (fileNames earlier) inputs =
          .ok (names.map (joinPath directory))) ∨
      ∃ before input after e, inputs = before ++ input :: after ∧
        Placeable (earlier ++ before) ∧ Unplaceable directory (earlier ++ before) input e ∧
        outputPathsFrom directory (fileNames earlier) inputs = .error e
  | [], earlier, h => by
    rw [List.append_nil]
    exact Or.inl ⟨h, [], rfl, rfl⟩
  | input :: inputs, earlier, h => by
    rw [outputPathsFrom]
    rcases hname : fileName? input with _ | name
    · refine Or.inr ⟨[], input, inputs, _, rfl, ?_, ?_, rfl⟩
      · rwa [List.append_nil]
      · exact .noFileName hname
    rcases hseen : (fileNames earlier).lookup name with _ | previous
    · -- the input is placed, and is an earlier one for those behind it
      have hplaced := h.append_singleton hname hseen
      have hassoc : ∀ rest, earlier ++ [input] ++ rest = earlier ++ input :: rest :=
        fun rest => List.append_cons earlier input rest |>.symm
      have hrest := outputPathsFrom_cases directory inputs hplaced
      rw [fileNames_append_singleton hname] at hrest
      simp only [hseen]
      rcases hrest with ⟨hall, names, hnames, hok⟩ | ⟨before, bad, after, e, rfl, hb, he, herr⟩
      · rw [hok, ← hassoc]
        exact Or.inl ⟨hall, name :: names, by rw [List.map_cons, hname, hnames]; rfl, rfl⟩
      · rw [herr]
        rw [hassoc] at hb he
        exact Or.inr ⟨input :: before, bad, after, e, rfl, hb, he, rfl⟩
    · refine Or.inr ⟨[], input, inputs, .collision previous input (joinPath directory name), rfl,
        ?_, ?_, by simp only [hseen]⟩
      · rwa [List.append_nil]
      · rw [List.append_nil]
        exact .collision hname (h.filter_eq hseen)

theorem outputPaths_cases (inputs : List String) (directory : String) :
    (Placeable inputs ∧ ∃ names : List String, inputs.map fileName? = names.map some ∧
      outputPaths inputs directory = .ok (names.map (joinPath directory))) ∨
    ∃ before input after e, inputs = before ++ input :: after ∧ Placeable before ∧
      Unplaceable directory before input e ∧ outputPaths inputs directory = .error e :=
  outputPathsFrom_cases directory inputs placeable_nil

section
variable {directory : String} {inputs paths : List String}

theorem placeable_of_outputPaths (h : outputPaths inputs directory = .ok paths) :
    Placeable inputs := by
  rcases outputPaths_cases inputs directory with ⟨hp, -⟩ | ⟨_, _, _, e, _, _, _, he⟩
  · exact hp
  · rw [h] at he
    cases he

/-- **Outputs that are placed have the file names of their inputs**, all
    different, in the output directory. -/
theorem outputPaths_eq_ok (h : outputPaths inputs directory = .ok paths) :
    ∃ names : List String, inputs.map fileName? = names.map some ∧ names.Nodup ∧
      paths = names.map (joinPath directory) := by
  rcases outputPaths_cases inputs directory with ⟨hp, names, hnames, hok⟩ | ⟨_, _, _, e, _, _, _, he⟩
  · rw [hok] at h
    have hnodup := hp.distinct
    rw [hnames] at hnodup
    exact ⟨names, hnames, hnodup.of_map, (Except.ok.inj h).symm⟩
  · rw [he] at h
    cases h

/-- The file name of an output is that under which it was put into the directory. -/
theorem fileName?_output {names : List String} (hnames : inputs.map fileName? = names.map some) :
    ∀ n ∈ names, fileName? (joinPath directory n) = some n := by
  intro n hn
  obtain ⟨input, -, hinput⟩ := List.mem_map.1 (hnames ▸ List.mem_map_of_mem (f := some) hn)
  obtain ⟨hseg, hdots⟩ := isSegment_of_fileName? hinput
  exact fileName?_joinPath directory hseg hdots

/-- An output lies in the directory, under the file name of its input. -/
def IsOutput (directory input path : String) : Prop :=
  ∃ name, fileName? input = some name ∧ path = joinPath directory name ∧
    fileName? path = some name

theorem outputPaths_isOutput (h : outputPaths inputs directory = .ok paths) :
    List.Forall₂ (IsOutput directory) inputs paths := by
  obtain ⟨names, hnames, -, rfl⟩ := outputPaths_eq_ok h
  have hinputs : List.Forall₂ (fun input n => fileName? input = some n) inputs names := by
    rw [← List.forall₂_map_right_iff, ← List.forall₂_map_left_iff, hnames]
    exact List.forall₂_refl _
  rw [List.forall₂_map_right_iff]
  refine hinputs.imp fun input n hname => ?_
  obtain ⟨hseg, hdots⟩ := isSegment_of_fileName? hname
  exact ⟨n, hname, rfl, fileName?_joinPath directory hseg hdots⟩

theorem outputPaths_length (h : outputPaths inputs directory = .ok paths) :
    paths.length = inputs.length := (outputPaths_isOutput h).length_eq.symm

/-- The name of an input is that of its output. -/
theorem outputPaths_fileName? (h : outputPaths inputs directory = .ok paths) {i : ℕ}
    {input path : String} (hi : inputs[i]? = some input) (hp : paths[i]? = some path) :
    ∃ name, fileName? input = some name ∧ fileName? path = some name := by
  obtain ⟨hlt, rfl⟩ := List.getElem?_eq_some_iff.1 hi
  obtain ⟨hlt', rfl⟩ := List.getElem?_eq_some_iff.1 hp
  obtain ⟨name, hname, -, hpath⟩ := (outputPaths_isOutput h).get hlt hlt'
  exact ⟨name, hname, hpath⟩

/-- **An output lies in the place of no other input.** -/
theorem outputPaths_apart (h : outputPaths inputs directory = .ok paths) {i j : ℕ}
    {input path : String} (hp : paths[i]? = some path) (hj : inputs[j]? = some input)
    (hsame : normalizePath path = normalizePath input) : i = j := by
  have hplaceable := placeable_of_outputPaths h
  have hlt : i < inputs.length := outputPaths_length h ▸ (List.getElem?_eq_some_iff.1 hp).1
  have hi := List.getElem?_eq_getElem hlt
  obtain ⟨x, hix, hpx⟩ := outputPaths_fileName? h hi hp
  obtain ⟨y, hjy⟩ :=
    Option.isSome_iff_exists.1 (hplaceable.named input (List.mem_of_getElem? hj))
  have hxy : x = y := fileName?_congr hsame hpx hjy
  exact hplaceable.index hi hj (by rw [hix, hjy, hxy])

/-- **Outputs lie in different places.** -/
theorem outputPaths_nodup (h : outputPaths inputs directory = .ok paths) :
    (paths.map normalizePath).Nodup := by
  obtain ⟨names, hnames, hnodup, rfl⟩ := outputPaths_eq_ok h
  rw [List.map_map]
  refine List.Nodup.map_on (fun x hx y hy hxy => ?_) hnodup
  exact fileName?_congr hxy (fileName?_output hnames x hx) (fileName?_output hnames y hy)

/-- Inputs that can be placed are. -/
theorem outputPaths_of_placeable (h : Placeable inputs) (directory : String) :
    ∃ names : List String, inputs.map fileName? = names.map some ∧
      outputPaths inputs directory = .ok (names.map (joinPath directory)) := by
  rcases outputPaths_cases inputs directory with
    ⟨-, hok⟩ | ⟨earlier, input, later, e, rfl, -, he, -⟩
  · exact hok
  · exact absurd h (he.not_placeable later)

/-- Outputs are placed where they are. -/
theorem outputPaths_again (h : outputPaths inputs directory = .ok paths) :
    outputPaths paths directory = .ok paths := by
  obtain ⟨names, hnames, hnodup, rfl⟩ := outputPaths_eq_ok h
  have hkept : (names.map (joinPath directory)).map fileName? = names.map some := by
    rw [List.map_map]
    exact List.map_congr_left (fileName?_output hnames)
  have hplaceable : Placeable (names.map (joinPath directory)) := by
    refine ⟨fun path hpath => ?_, ?_⟩
    · obtain ⟨n, hn, rfl⟩ := List.mem_map.1 hpath
      rw [fileName?_output hnames n hn]
      rfl
    · rw [hkept]
      exact hnodup.map fun _ _ => Option.some.inj
  obtain ⟨names', hnames', hok⟩ := outputPaths_of_placeable hplaceable directory
  rw [hkept, List.map_inj_right fun _ _ => Option.some.inj] at hnames'
  rw [hok, hnames']

end

/-- **The placing of outputs.**  It comes about iff each input has a file name and
    no two have the same.  Then each input has one output, in order, in the
    directory and under the input's file name; the outputs lie in different
    places, and are placed where they are.  If it fails, it does so for the first
    input without a name, or with that of an earlier input, which is the only
    one. -/
theorem outputPaths_exact (inputs : List String) (directory : String) :
    ((∃ paths, outputPaths inputs directory = .ok paths) ↔ Placeable inputs) ∧
    (∀ paths, outputPaths inputs directory = .ok paths →
      List.Forall₂ (IsOutput directory) inputs paths ∧ (paths.map normalizePath).Nodup ∧
        outputPaths paths directory = .ok paths) ∧
    ∀ e, outputPaths inputs directory = .error e →
      ∃ earlier input later, inputs = earlier ++ input :: later ∧ Placeable earlier ∧
        Unplaceable directory earlier input e := by
  refine ⟨⟨?_, fun h => ?_⟩, fun paths h => ?_, fun e h => ?_⟩
  · rintro ⟨paths, h⟩
    exact placeable_of_outputPaths h
  · obtain ⟨names, -, hok⟩ := outputPaths_of_placeable h directory
    exact ⟨_, hok⟩
  · exact ⟨outputPaths_isOutput h, outputPaths_nodup h, outputPaths_again h⟩
  · rcases outputPaths_cases inputs directory with
      ⟨-, names, -, hok⟩ | ⟨earlier, input, later, e', hinputs, hp, he', herr⟩
    · rw [hok] at h
      cases h
    · rw [herr] at h
      cases h
      exact ⟨earlier, input, later, hinputs, hp, he'⟩

/-- Two inputs are placed; beside a third one of the same name they are not. -/
theorem outputPaths_exact_shared :
    let inputs := ["src/a.ts/.", "b.d.ts"]
    let shared := ["src/a.ts", "./b.d.ts", "lib//a.ts/", ".."]
    (outputPaths inputs "out" = .ok ["out/a.ts", "out/b.d.ts"] ∧
      List.Forall₂ (IsOutput "out") inputs ["out/a.ts", "out/b.d.ts"] ∧
      (["out/a.ts", "out/b.d.ts"].map normalizePath).Nodup ∧
      outputPaths ["out/a.ts", "out/b.d.ts"] "out" = .ok ["out/a.ts", "out/b.d.ts"]) ∧
    outputPaths shared "out/" = .error (.collision "src/a.ts" "lib//a.ts/" "out/a.ts") ∧
    ∃ earlier input later, shared = earlier ++ input :: later ∧ Placeable earlier ∧
      Unplaceable "out/" earlier input (.collision "src/a.ts" "lib//a.ts/" "out/a.ts") := by
  intro inputs shared
  have hok : outputPaths inputs "out" = .ok ["out/a.ts", "out/b.d.ts"] := by rfl
  have herr : outputPaths shared "out/" =
      .error (.collision "src/a.ts" "lib//a.ts/" "out/a.ts") := by rfl
  exact ⟨⟨hok, (outputPaths_exact inputs "out").2.1 _ hok⟩, herr,
    (outputPaths_exact shared "out/").2.2 _ herr⟩

end SoleExport
