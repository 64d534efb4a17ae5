/-
  Transformations into a directory.

  A `FileMap` is a file system without links, in which a path leads to its normal
  form.  On it a transformation into a directory reads, converts and writes one
  input after the other; it comes to the same as if all inputs were read first.

  * `FileMap.convertInput_run`: what one input comes to;
  * `FileMap.convertInputs_run`: what inputs come to whose outputs stay apart from
    each other and from the inputs behind them;
  * `FileMap.transform_placed`: outputs in a directory stay apart, so that each
    input is converted as it was at the start, up to the first that cannot be.
-/
import SoleExport.Proofs.Placement
import SoleExport.Proofs.Sessions

namespace SoleExport

/-! ## Files at normal forms -/

/-- A file system without links: the text at each place, which is the normal form
    of the paths that lead there. -/
structure FileMap where
  text? : String → Option String

namespace FileMap

/-- The text of the file at a path. -/
def read (fs : FileMap) (path : String) : Option String := fs.text? (normalizePath path)

/-- Put a text at the place of a path. -/
def write (fs : FileMap) (path text : String) : FileMap :=
  ⟨fun place => if place = normalizePath path then some text else fs.text? place⟩

@[simp] theorem read_write_self (fs : FileMap) (path text : String) :
    (fs.write path text).read path = some text := if_pos rfl

theorem text?_write_of_ne (fs : FileMap) {path place : String} (text : String)
    (h : normalizePath path ≠ place) : (fs.write path text).text? place = fs.text? place :=
  if_neg (Ne.symm h)

theorem read_write_of_ne (fs : FileMap) {path other : String} (text : String)
    (h : normalizePath path ≠ normalizePath other) :
    (fs.write path text).read other = fs.read other := fs.text?_write_of_ne text h

/-- The host whose files are those of a file map.  Its directories are always
    there, and nobody sees what is shown. -/
def host : Host (StateM FileMap) where
  read path := fun fs =>
    (match fs.read path with
      | some text => .ok text
      | none => .error .notFound, fs)
  write path text := fun fs => (.ok (), fs.write path text)
  createDirectory _ := fun fs => (.ok (), fs)
  print _ := fun fs => ((), fs)
  report _ := fun fs => ((), fs)
  log _ := fun fs => ((), fs)

/-- What is delivered for an input that is there, can be parsed, and is not
    refused. -/
def emitted? (fs : FileMap) (c : Compilation) (options : Options) (input : String) :
    Option String :=
  (fs.read input).bind fun source =>
    (parse input source).toOption.bind fun p =>
      (c.apply options ⟨input, p.module⟩).result.toOption.map fun f => f.module.print p.comments

end FileMap

/-- What a request says about the compilation: its roots are all inputs unless it
    names others. -/
def TransformRequest.compilation (r : TransformRequest) : Compilation :=
  ⟨Roots.ofList (if r.roots.isEmpty then r.inputs else r.roots), Oracle.syntactic⟩

/-! ## One input -/

namespace FileMap

variable (verbose : Bool) (c : Compilation) (options : Options)

theorem logEvents_run (events : List Event) (fs : FileMap) :
    (host.logEvents verbose events).run fs = (.ok (), fs) := by
  induction events with
  | nil => rfl
  | cons e events ih =>
    rw [Host.logEvents]
    split_ifs
    · exact ih
    · exact ih

theorem deliver_run (code path : String) (fs : FileMap) :
    (host.deliver verbose code (.placed path)).run fs = (.ok (), fs.write path code) := by
  have hwrite : host.write path code fs = (.ok (), fs.write path code) := rfl
  rw [Host.deliver, Host.run_bind, Host.run_use, hwrite]
  dsimp only
  split_ifs <;> rfl

/-- A text is converted if it can be parsed and its module is not refused. -/
theorem convertText_toOption (c : Compilation) (options : Options) (name source : String) :
    (c.convertText options true name source).result.toOption =
      (parse name source).toOption.bind fun p =>
        (c.apply options ⟨name, p.module⟩).result.toOption.map fun f =>
          f.module.print p.comments := by
  unfold Compilation.convertText
  rcases parse name source with e | p
  · rfl
  · rcases hr : (c.apply options ⟨name, p.module⟩).result with e | f <;>
      simp [Compilation.convertParsed, hr, Except.map, Except.mapError, Except.toOption]

/-- **What one input comes to**: its result is written, or nothing is. -/
theorem convertInput_run (fs : FileMap) (input path : String) :
    (∃ code, fs.emitted? c options input = some code ∧
      (host.convertInput verbose c options input (.placed path)).run fs =
        (.ok (), fs.write path code)) ∨
    (fs.emitted? c options input = none ∧
      ∃ e, (host.convertInput verbose c options input (.placed path)).run fs = (.error e, fs)) := by
  have hemit : fs.emitted? c options input = (fs.read input).bind fun source =>
      (c.convertText options true input source).result.toOption := by
    simp only [emitted?, convertText_toOption]
  have hread : host.read input fs = (match fs.read input with
      | some text => .ok text
      | none => .error .notFound, fs) := rfl
  rw [Host.convertInput, Host.run_bind, Host.run_use, hread, hemit]
  rcases fs.read input with _ | source
  · exact Or.inr ⟨rfl, _, rfl⟩
  · dsimp only [Option.bind_some]
    rw [Host.run_bind, logEvents_run verbose]
    dsimp only
    rcases (c.convertText options true input source).result with e | code
    · exact Or.inr ⟨rfl, _, rfl⟩
    · exact Or.inl ⟨code, rfl, deliver_run verbose code path fs⟩

/-! ## Inputs in turn -/

/-- Inputs with their outputs: no output lies in the place of another or of an
    input behind it. -/
def Apart (pairs : List (String × String)) : Prop :=
  pairs.Pairwise fun a b =>
    normalizePath a.2 ≠ normalizePath b.2 ∧ normalizePath a.2 ≠ normalizePath b.1

/-- **Inputs that stay apart come to what they were at the start.**  `start` is
    the file system at the start, and `fs` the one that is reached; they agree on
    the inputs that are still to be read. -/
theorem convertInputs_run (start : FileMap) :
    ∀ (pairs : List (String × String)) (fs : FileMap), Apart pairs →
      (∀ q ∈ pairs, fs.read q.1 = start.read q.1) →
      ∃ result final,
        (host.convertInputs verbose c options
          (pairs.map fun q => (q.1, .placed q.2))).run fs = (result, final) ∧
        let k := pairs.findIdx fun q => (start.emitted? c options q.1).isNone
        (result = .ok () ↔ k = pairs.length) ∧
        (∀ i < k, ∀ q, pairs[i]? = some q → ∃ code,
          start.emitted? c options q.1 = some code ∧ final.read q.2 = some code) ∧
        ∀ place, (∀ i < k, ∀ q, pairs[i]? = some q → normalizePath q.2 ≠ place) →
          final.text? place = fs.text? place
  | [], fs, _, _ => ⟨.ok (), fs, rfl, by simp⟩
  | (input, path) :: pairs, fs, hapart, hagree => by
    obtain ⟨hahead, hapart⟩ := List.pairwise_cons.1 hapart
    have hemit : fs.emitted? c options input = start.emitted? c options input := by
      rw [emitted?, emitted?, hagree (input, path) List.mem_cons_self]
    rw [List.map_cons, Host.convertInputs, Host.run_bind]
    rcases convertInput_run verbose c options fs input path with
      ⟨code, hcode, hrun⟩ | ⟨hnone, e, hrun⟩
    · rw [hemit] at hcode
      have hagree' : ∀ q ∈ pairs, (fs.write path code).read q.1 = start.read q.1 := by
        intro q hq
        rw [fs.read_write_of_ne code (hahead q hq).2, hagree q (List.mem_cons_of_mem _ hq)]
      obtain ⟨result, final, hrest, hok, hwritten, hframe⟩ :=
        convertInputs_run start pairs (fs.write path code) hapart hagree'
      have hk : (((input, path) :: pairs).findIdx fun q =>
          (start.emitted? c options q.1).isNone) =
          (pairs.findIdx fun q => (start.emitted? c options q.1).isNone) + 1 := by
        rw [List.findIdx_cons, hcode]
        rfl
      rw [hrun]
      refine ⟨result, final, hrest, ?_, ?_, ?_⟩
      · rw [hok, hk, List.length_cons]
        omega
      · intro i hi q hq
        rcases i with _ | i
        · -- no output behind it has replaced this one
          obtain rfl := Option.some.inj hq
          refine ⟨code, hcode, ?_⟩
          rw [read, hframe, ← read, read_write_self]
          intro j _ q' hq'
          exact (hahead q' (List.mem_of_getElem? hq')).1.symm
        · exact hwritten i (by omega) q hq
      · intro place hplace
        rw [hframe place, text?_write_of_ne]
        · exact hplace 0 (by omega) (input, path) rfl
        · intro i hi q hq
          exact hplace (i + 1) (by omega) q hq
    · rw [hemit] at hnone
      have hk : (((input, path) :: pairs).findIdx fun q =>
          (start.emitted? c options q.1).isNone) = 0 := by
        rw [List.findIdx_cons, hnone]
        rfl
      rw [hrun]
      refine ⟨.error e, fs, rfl, ?_, ?_, fun _ _ => rfl⟩
      · rw [hk]
        simp
      · intro i hi
        rw [hk] at hi
        exact absurd hi (Nat.not_lt_zero i)

/-! ## Inputs in a directory -/

section
variable {fs : FileMap} {r : TransformRequest} {directory : String} {paths : List String}

/-- Outputs in a directory keep inputs apart. -/
theorem apart_of_outputPaths {inputs : List String}
    (h : outputPaths inputs directory = .ok paths) : Apart (inputs.zip paths) := by
  rw [Apart, List.pairwise_iff_getElem]
  intro i j hi hj hij
  rw [List.length_zip] at hi hj
  rw [List.getElem_zip, List.getElem_zip]
  constructor
  · intro hsame
    have hplaces := outputPaths_nodup h
    rw [List.nodup_iff_pairwise_ne, List.pairwise_map, List.pairwise_iff_getElem] at hplaces
    exact hplaces i j (by omega) (by omega) hij hsame
  · intro hsame
    have hsame := outputPaths_apart h (List.getElem?_eq_getElem (by omega : i < paths.length))
      (List.getElem?_eq_getElem (by omega : j < inputs.length)) hsame
    omega

theorem destinations_run (hout : r.output = none) (hdir : r.outputDirectory = some directory) :
    (host.destinations r).run fs =
      match outputPaths r.inputs directory with
      | .error e => (.error (.outputs e), fs)
      | .ok paths => (.ok (paths.map .placed), fs) := by
  rw [Host.destinations, hout, hdir]
  dsimp only
  rcases outputPaths r.inputs directory with e | paths
  · rfl
  · dsimp only
    rw [Host.run_bind, Host.run_use]
    rfl

/-- The parts of a transformation into a directory: nothing is converted unless
    all outputs can be placed. -/
theorem transform_run (hout : r.output = none) (hdir : r.outputDirectory = some directory)
    (hopt : (host.requestedOptions r).run fs = (.ok options, fs)) :
    (host.transform verbose r).run fs =
      match outputPaths r.inputs directory with
      | .error e => (.error (.outputs e), fs)
      | .ok paths =>
        (host.convertInputs verbose r.compilation options
          ((r.inputs.zip paths).map fun q => (q.1, .placed q.2))).run fs := by
  have hone : (r.output.isSome && decide (1 < r.inputs.length)) = false := by
    rw [hout]
    rfl
  rw [Host.transform, hone]
  simp only [Bool.false_eq_true, if_false]
  rw [Host.run_bind, hopt]
  dsimp only
  rw [Host.run_bind, destinations_run hout hdir]
  rcases outputPaths r.inputs directory with e | paths
  · rfl
  · dsimp only
    rw [List.zip_map_right]
    rfl

/-- **In a transformation into a directory no output disturbs another file.**  If
    the outputs cannot be placed, nothing is changed.  Else the inputs before the
    first that is missing, cannot be parsed or is refused, all as they were at the
    start, are delivered and nothing else is changed; the transformation fails just
    if there is such an input.  No output lies in the place of another, or in that
    of another input. -/
theorem transform_placed (hout : r.output = none) (hdir : r.outputDirectory = some directory)
    (hopt : (host.requestedOptions r).run fs = (.ok options, fs)) :
    (∀ e, outputPaths r.inputs directory = .error e →
      (host.transform verbose r).run fs = (.error (.outputs e), fs)) ∧
    ∀ paths, outputPaths r.inputs directory = .ok paths →
      (∃ result final, (host.transform verbose r).run fs = (result, final) ∧
        let k := r.inputs.findIdx fun input => (fs.emitted? r.compilation options input).isNone
        (result = .ok () ↔ k = r.inputs.length) ∧
        (∀ i < k, ∀ input path, r.inputs[i]? = some input → paths[i]? = some path →
          ∃ code, fs.emitted? r.compilation options input = some code ∧
            final.read path = some code) ∧
        ∀ place, (∀ i < k, ∀ path, paths[i]? = some path → normalizePath path ≠ place) →
          final.text? place = fs.text? place) ∧
      (paths.map normalizePath).Nodup ∧
      ∀ (i j : ℕ) (path input : String), paths[i]? = some path → r.inputs[j]? = some input →
        i ≠ j → normalizePath path ≠ normalizePath input := by
  constructor
  · intro e he
    rw [transform_run verbose options hout hdir hopt, he]
  · intro paths hpaths
    refine ⟨?_, outputPaths_nodup hpaths, fun i j path input hp hi hij hsame =>
      hij (outputPaths_apart hpaths hp hi hsame)⟩
    have hlen := outputPaths_length hpaths
    obtain ⟨result, final, hrun, hok, hwritten, hframe⟩ :=
      convertInputs_run verbose r.compilation options fs (r.inputs.zip paths) fs
        (apart_of_outputPaths hpaths) (fun _ _ => rfl)
    -- the first input that cannot be converted is the same with its output beside it
    have hk : ((r.inputs.zip paths).findIdx fun q =>
        (fs.emitted? r.compilation options q.1).isNone) =
        r.inputs.findIdx fun input => (fs.emitted? r.compilation options input).isNone := by
      have hfst : (r.inputs.zip paths).map Prod.fst = r.inputs := by
        rw [List.map_fst_zip]
        omega
      conv_rhs => rw [← hfst, List.findIdx_map]
      rfl
    rw [hk] at hok hwritten hframe
    refine ⟨result, final, ?_, ?_, ?_, ?_⟩
    · rw [transform_run verbose options hout hdir hopt, hpaths]
      exact hrun
    · rw [hok, List.length_zip, hlen, Nat.min_self]
    · intro i hi input path hinput hpath
      exact hwritten i hi (input, path) (List.getElem?_zip_eq_some.2 ⟨hinput, hpath⟩)
    · intro place hplace
      refine hframe place fun i hi q hq => ?_
      exact hplace i hi q.2 (List.getElem?_zip_eq_some.1 hq).2

end

/-- Only `a.ts` is there. -/
def onlyDefaultA : FileMap :=
  ⟨fun place => if place = "a.ts" then some "export default a" else none⟩

end FileMap

/-- A request to convert three files in place: the output directory leads back to
    where they lie. -/
def TransformRequest.inPlace : TransformRequest where
  inputs := ["./a.ts", "b.ts", "c.ts"]
  output := none
  outputDirectory := some "out/../"
  roots := []
  config := none
  keepDefault := false
  allowNamed := false

/-- The first file is replaced by its result; the second is missing, so that the
    third is not converted and the transformation fails. -/
theorem FileMap.transform_placed_in_place :
    TransformRequest.inPlace.output = none ∧
    TransformRequest.inPlace.outputDirectory = some "out/../" ∧
    (host.requestedOptions TransformRequest.inPlace).run onlyDefaultA = (.ok {}, onlyDefaultA) ∧
    outputPaths TransformRequest.inPlace.inputs "out/../" =
      .ok ["out/../a.ts", "out/../b.ts", "out/../c.ts"] ∧
    ∃ result final,
      (host.transform true TransformRequest.inPlace).run onlyDefaultA = (result, final) ∧
      result ≠ .ok () ∧ final.read "a.ts" = some "export = a;\n" ∧
      final.read "c.ts" = none := by
  have hopt : (host.requestedOptions TransformRequest.inPlace).run onlyDefaultA =
      (.ok {}, onlyDefaultA) := rfl
  have hpaths : outputPaths TransformRequest.inPlace.inputs "out/../" =
      .ok ["out/../a.ts", "out/../b.ts", "out/../c.ts"] := by decide
  refine ⟨rfl, rfl, hopt, hpaths, ?_⟩
  obtain ⟨⟨result, final, hrun, hok, hwritten, hframe⟩, -, -⟩ :=
    (FileMap.transform_placed true {} rfl rfl hopt).2 _ hpaths
  have hfirst : onlyDefaultA.emitted? TransformRequest.inPlace.compilation {} "./a.ts" =
      some "export = a;\n" := by rfl
  have hsecond : onlyDefaultA.emitted? TransformRequest.inPlace.compilation {} "b.ts" = none := rfl
  have hk : (TransformRequest.inPlace.inputs.findIdx fun input =>
      (onlyDefaultA.emitted? TransformRequest.inPlace.compilation {} input).isNone) = 1 := by
    change List.findIdx _ ["./a.ts", "b.ts", "c.ts"] = 1
    rw [List.findIdx_cons, hfirst, List.findIdx_cons, hsecond]
    rfl
  rw [hk] at hok hwritten hframe
  refine ⟨result, final, hrun, fun h => absurd (hok.1 h) (by decide), ?_, ?_⟩
  · obtain ⟨code, hcode, hread⟩ := hwritten 0 Nat.one_pos _ _ rfl rfl
    rw [hfirst] at hcode
    rw [Option.some.inj hcode]
    exact hread
  · have hc := hframe (normalizePath "c.ts") fun i hi path hp => by
      obtain rfl : i = 0 := by omega
      rw [← Option.some.inj hp]
      decide
    exact hc

end SoleExport
