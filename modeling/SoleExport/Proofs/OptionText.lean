/-
  Options from the text of an object.

  The reader goes through the members once.  On the members themselves, however they
  are written, its work is `Given.add?`: a member with a known key gives its value,
  if it is the first one, and a member with any other key is passed by.

  * `member_read`: one member;
  * `further_read`, `ofText_read`: all of them;
  * `foldlM_add?_eq_some_iff`: what they come to, for each key alone;
  * `ofText_object`: which texts give options, which options they give, and that
    nothing but the members with known keys counts.
-/
import SoleExport.Options.Reader
import SoleExport.Proofs.JsonText

namespace SoleExport

namespace Json

/-! ## Members one behind the other -/

/-- What stands behind a member: other members, each behind a comma. -/
inductive Further : List (Member Data) → List Char → Prop
  | done {a} : Blank a → Further [] a
  | more {a b m v ms cs} : Blank a → Blank b → MemberText m v → Further ms cs →
      Further (m :: ms) (a ++ ',' :: (b ++ (v ++ cs)))

/-- The members of an object are a first one and those behind it. -/
theorem Members.first : ∀ {ms : List (Member Data)} {cs : List Char}, Members ms cs →
    ∃ a m v ms' cs', ms = m :: ms' ∧ cs = a ++ (v ++ cs') ∧ Blank a ∧ MemberText m v ∧
      Further ms' cs'
  | _, _, .one ha hm hb => ⟨_, _, _, _, _, rfl, rfl, ha, hm, .done hb⟩
  | _, _, .more ha hm hb hms => by
    obtain ⟨a, m, v, ms, cs, rfl, rfl, ha', hm', hmore⟩ := hms.first
    exact ⟨_, _, _, _, _, rfl, rfl, ha, hm, .more hb ha' hm' hmore⟩

theorem Further.closes {ms : List (Member Data)} {cs : List Char} (h : Further ms cs)
    (rest : List Char) : Closes (cs ++ '}' :: rest) := by
  cases h with
  | done ha => exact closes_blank ha (by decide) rest
  | more ha =>
    rw [List.append_assoc]
    exact closes_blank ha (by decide) _

/-! ## Truth values -/

/-- The truth value that a value is. -/
def Data.asBool? : Data → Option Bool
  | .bool b => some b
  | _ => none

theorem Data.asBool?_eq_some_iff {d : Data} {b : Bool} : d.asBool? = some b ↔ d = .bool b := by
  cases d <;> simp [Data.asBool?]

/-- A truth value is read, and no other value is. -/
theorem Value.bool {d : Data} {v : List Char} (h : Value d v) {a : List Char} (ha : Blank a)
    (rest : List Char) :
    (Json.bool (a ++ (v ++ rest))).toOption = d.asBool?.map fun b => (b, rest) := by
  obtain ⟨c, cs, rfl, hc⟩ := h.starts
  rw [Json.bool, List.cons_append, skipBlanks_to ha (List.not_mem_of_not_mem_cons hc)]
  cases h with
  | number hcs =>
    obtain ⟨c, cs, ⟨⟩, hc⟩ := hcs.starts
    split
    · rename_i heq
      cases heq
    · rename_i heq
      exact absurd (List.cons.inj heq).1 (ne_of_digit hc rfl)
    · rename_i heq
      exact absurd (List.cons.inj heq).1 (ne_of_digit hc rfl)
    · rfl
  | _ => rfl

end Json

namespace Options

open Json

theorem toOption_eq_some_iff {ε α : Type} {x : Except ε α} {a : α} :
    x.toOption = some a ↔ x = .ok a := by
  cases x <;> simp [Except.toOption]

theorem toOption_bind {ε α β : Type} (x : Except ε α) (f : α → Except ε β) :
    (x >>= f).toOption = x.toOption.bind fun a => (f a).toOption := by
  cases x <;> rfl

/-! ## One member -/

theorem Key.ofName?_eq_some_iff {s : String} {k : Key} : Key.ofName? s = some k ↔ s = k.name := by
  constructor
  · intro h
    unfold ofName? at h
    have hname := List.find?_some h
    exact (beq_iff_eq.1 hname).symm
  · rintro rfl
    cases k <;> decide

/-- A member is taken into account: a known key must not have been given before, and
    its value must be a truth value. -/
def Given.add? (g : Given) (m : Member Data) : Option Given :=
  m.key.bind fun s =>
    match Key.ofName? s with
    | none => some g
    | some k => if (g.get? k).isSome then none else m.value.asBool?.map (g.set k)

/-- **One member**: it is read to its end, for what it says. -/
theorem member_read {m : Member Data} {v : List Char} (h : MemberText m v) (g : Given)
    {rest : List Char} (hrest : Closes rest) :
    ∃ body, v ++ rest = '"' :: body ∧
      (member g body).toOption = (g.add? m).map fun g' => (g', rest) := by
  cases h with
  | @mk key cs a b d v hkey ha hb hv =>
  refine ⟨_, rfl, ?_⟩
  simp only [List.append_eq, List.append_assoc, List.cons_append, member]
  cases hkey with
  | noText hcs hnone =>
    rcases hcs.spells_or_refused with ⟨t, ht⟩ | hf
    · exact absurd ht (hnone t)
    · obtain ⟨f, hf⟩ := hf (a ++ ':' :: (b ++ (v ++ rest)))
      rw [hf]
      rfl
  | text ht =>
    simp only [ht.read, Given.add?, bind, Except.bind, Option.bind_some, colon_blank ha]
    cases hkey : Key.ofName? (String.ofList _) with
    | none =>
      simp only [hv.skipValue hb hrest]
      rfl
    | some k =>
      by_cases hgiven : (g.get? k).isSome
      -- the key stands a second time
      · simp only [hgiven]
        rfl
      · have hbool := hv.bool hb rest
        simp only [hgiven]
        cases hr : Json.bool (b ++ (v ++ rest)) with
        | error f =>
          rw [hr] at hbool
          rw [Option.map_eq_none_iff.1 hbool.symm]
          rfl
        | ok r =>
          rw [hr] at hbool
          obtain ⟨t, ht, rfl⟩ := Option.map_eq_some_iff.1 hbool.symm
          rw [ht]
          rfl

/-! ## All members -/

/-- The members behind the first one are read to the end of the object, for what they
    say. -/
theorem further_read {ms : List (Member Data)} {cs : List Char} (h : Further ms cs) :
    ∀ (g : Given) (rest : List Char) {fuel : Nat}, cs.length < fuel →
      (moreMembers fuel g (cs ++ '}' :: rest)).toOption =
        (ms.foldlM Given.add? g).map fun g' => (g', rest) := by
  induction h with
  | @done a ha =>
    intro g rest fuel hfuel
    obtain ⟨fuel, rfl⟩ : ∃ n, fuel = n + 1 := ⟨fuel - 1, by omega⟩
    rw [moreMembers, skipBlanks_to ha (by decide)]
    rfl
  | @more a b m v ms cs ha hb hm hms ih =>
    intro g rest fuel hfuel
    simp only [List.length_append, List.length_cons] at hfuel
    obtain ⟨fuel, rfl⟩ : ∃ n, fuel = n + 1 := ⟨fuel - 1, by omega⟩
    obtain ⟨body, hbody, hread⟩ := member_read hm g (hms.closes rest)
    -- a comma, then the next member, which leaves the text of the others
    rw [moreMembers]
    simp only [List.append_assoc, List.cons_append]
    rw [skipBlanks_to ha (by decide)]
    simp only [skipBlanks_blank hb, hbody]
    rw [skipBlanks_cons (by decide)]
    simp only [toOption_bind, hread, List.foldlM_cons]
    cases g.add? m with
    | none => rfl
    | some g' => exact ih g' rest (by omega)

theorem object_read {ms : List (Member Data)} {cs : List Char} (h : Members ms cs)
    (rest : List Char) :
    (object (cs ++ '}' :: rest)).toOption =
      (ms.foldlM Given.add? {}).map fun g => (g, rest) := by
  obtain ⟨a, m, v, ms, cs, rfl, rfl, ha, hm, hms⟩ := h.first
  obtain ⟨body, hbody, hread⟩ := member_read hm {} (hms.closes rest)
  simp only [object, List.append_assoc, skipBlanks_blank ha, hbody]
  rw [skipBlanks_cons (by decide)]
  simp only [toOption_bind, hread, List.foldlM_cons]
  cases Given.add? {} m with
  | none => rfl
  | some g =>
    refine further_read hms g rest ?_
    simp only [List.length_append]
    omega

theorem object_read_empty {a : List Char} (ha : Blank a) (rest : List Char) :
    object (a ++ '}' :: rest) = .ok ({}, rest) := by
  rw [object, skipBlanks_to ha (by decide)]
  rfl

theorem ofText_of_object {text : String} {a body b : List Char} {given : Option Given}
    (ha : Blank a) (htext : text.toList = a ++ '{' :: body) (hb : Blank b)
    (hread : (object body).toOption = given.map fun g => (g, b)) :
    (ofText text).toOption = given.map Given.options := by
  have hend : skipBlanks b = [] := by
    rw [← List.append_nil b, skipBlanks_blank hb]
    rfl
  rw [ofText, htext, skipBlanks_to ha (by decide)]
  simp only [toOption_bind, hread]
  cases given with
  | none => rfl
  | some g =>
    simp only [Option.map_some, Option.bind_some, hend]
    rfl

/-- **All members**: a text is read for what its members say, one by one. -/
theorem ofText_read {ms : List (Member Data)} {text : String} (h : ObjectText ms text.toList) :
    (ofText text).toOption = (ms.foldlM Given.add? {}).map Given.options := by
  generalize hcs : text.toList = cs at h
  cases h with
  | empty ha hb hc =>
    refine ofText_of_object ha hcs hc ?_
    rw [object_read_empty hb]
    rfl
  | members ha hms hb => exact ofText_of_object ha hcs hb (object_read hms _)

/-! ## Each key alone -/

/-- The values given for a key. -/
def values (k : Key) (ms : List (Member Data)) : List Data :=
  (ms.filter fun m => m.key == some k.name).map Member.value

/-- Every key spells a text. -/
def Spelled (ms : List (Member Data)) : Prop := ∀ m ∈ ms, m.key.isSome = true

/-- The members with known keys. -/
def known (ms : List (Member Data)) : List (Member Data) :=
  ms.filter fun m => (m.key.bind Key.ofName?).isSome

/-- What is given for one key goes from `o` to `o'` with the values for it. -/
inductive Settled : Option Bool → List Data → Option Bool → Prop
  | kept {o} : Settled o [] o
  | given {b} : Settled none [.bool b] (some b)

theorem settled_nil_iff {o o' : Option Bool} : Settled o [] o' ↔ o = o' := by
  constructor
  · rintro ⟨⟩
    rfl
  · rintro rfl
    exact .kept

theorem settled_singleton_iff {o o' : Option Bool} {d : Data} :
    Settled o [d] o' ↔ o = none ∧ ∃ b, d.asBool? = some b ∧ some b = o' := by
  simp only [Data.asBool?_eq_some_iff]
  constructor
  · rintro ⟨⟩
    exact ⟨rfl, _, rfl, rfl⟩
  · rintro ⟨rfl, b, rfl, rfl⟩
    exact .given

/-- There is at most one value for a key, wherever it stands. -/
theorem settled_append_iff {o o'' : Option Bool} {ds ds' : List Data} :
    Settled o (ds ++ ds') o'' ↔ ∃ o', Settled o ds o' ∧ Settled o' ds' o'' := by
  constructor
  · generalize hall : ds ++ ds' = all
    rintro ⟨⟩
    · obtain ⟨rfl, rfl⟩ := List.append_eq_nil_iff.1 hall
      exact ⟨_, .kept, .kept⟩
    · rcases List.append_eq_singleton_iff.1 hall with ⟨rfl, rfl⟩ | ⟨rfl, rfl⟩
      · exact ⟨_, .kept, .given⟩
      · exact ⟨_, .given, .kept⟩
  · rintro ⟨o', ⟨⟩, ⟨⟩⟩
    · exact .kept
    · exact .given
    · exact .given

/-- The value of an option. -/
def get (o : Options) : Key → Bool
  | .keepDefault => o.keepDefault
  | .allowNamed => o.allowNamed

theorem Given.ext_get? {g g' : Given} : g = g' ↔ ∀ k, g.get? k = g'.get? k := by
  constructor
  · rintro rfl k
    rfl
  · intro h
    cases g
    cases g'
    exact congr (congrArg Given.mk (h .keepDefault)) (h .allowNamed)

theorem Given.get?_set (g : Given) (k k' : Key) (b : Bool) :
    (g.set k b).get? k' = if k = k' then some b else g.get? k' := by
  cases k <;> cases k' <;> rfl

theorem Given.get?_mk (f : Key → Option Bool) (k : Key) :
    Given.get? ⟨f .keepDefault, f .allowNamed⟩ k = f k := by
  cases k <;> rfl

theorem Given.get?_empty (k : Key) : Given.get? {} k = none := by
  cases k <;> rfl

theorem ext_get {o o' : Options} (h : ∀ k, o.get k = o'.get k) : o = o' := by
  cases o
  cases o'
  exact congr (congrArg Options.mk (h .keepDefault)) (h .allowNamed)

theorem get_mk (f : Key → Bool) (k : Key) : get ⟨f .keepDefault, f .allowNamed⟩ k = f k := by
  cases k <;> rfl

theorem values_append (k : Key) (ms ms' : List (Member Data)) :
    values k (ms ++ ms') = values k ms ++ values k ms' := by
  simp [values]

theorem values_singleton (k : Key) (m : Member Data) :
    values k [m] = if m.key.bind Key.ofName? = some k then [m.value] else [] := by
  have hkey : m.key.bind Key.ofName? = some k ↔ m.key = some k.name := by
    simp [Option.bind_eq_some_iff, Key.ofName?_eq_some_iff]
  simp only [hkey]
  by_cases h : m.key = some k.name <;> simp [values, h]

theorem Given.add?_eq_some_iff {g g' : Given} {m : Member Data} :
    g.add? m = some g' ↔
      m.key.isSome = true ∧ ∀ k, Settled (g.get? k) (values k [m]) (g'.get? k) := by
  obtain ⟨key, d⟩ := m
  cases key with
  | none => simp [Given.add?]
  | some s =>
    simp only [Given.add?, values_singleton, Option.bind_some]
    cases hs : Key.ofName? s with
    | none => simp [settled_nil_iff, Given.ext_get?]
    | some k =>
      simp only [Option.some.injEq, Option.isSome_some, true_and]
      constructor
      · intro h
        split_ifs at h with hgiven
        obtain ⟨b, hb, rfl⟩ := Option.map_eq_some_iff.1 h
        intro k'
        rw [Given.get?_set]
        split_ifs with hk
        · subst hk
          exact settled_singleton_iff.2 ⟨by simpa using hgiven, b, hb, rfl⟩
        · exact .kept
      · intro h
        have hk := h k
        rw [if_pos rfl, settled_singleton_iff] at hk
        obtain ⟨hnone, b, hb, hgiven⟩ := hk
        rw [if_neg (by simp [hnone]), hb, Option.map_some, Option.some.injEq, Given.ext_get?]
        intro k'
        rw [Given.get?_set]
        split_ifs with hk
        · rw [← hk, hgiven]
        · exact settled_nil_iff.1 (by simpa [hk] using h k')

theorem foldlM_add?_eq_some_iff {ms : List (Member Data)} : ∀ {g g' : Given},
    ms.foldlM Given.add? g = some g' ↔
      Spelled ms ∧ ∀ k, Settled (g.get? k) (values k ms) (g'.get? k) := by
  induction ms with
  | nil =>
    intro g g'
    simp [Spelled, values, settled_nil_iff, Given.ext_get?]
  | cons m ms ih =>
    intro g g'
    have hvalues : ∀ k, values k (m :: ms) = values k [m] ++ values k ms := fun k =>
      values_append k [m] ms
    simp only [List.foldlM_cons, Option.bind_eq_bind, Option.bind_eq_some_iff, ih,
      Given.add?_eq_some_iff, hvalues, settled_append_iff, Spelled, List.forall_mem_cons]
    constructor
    · rintro ⟨g₁, ⟨hm, h⟩, hms, h'⟩
      exact ⟨⟨hm, hms⟩, fun k => ⟨_, h k, h' k⟩⟩
    · rintro ⟨⟨hm, hms⟩, h⟩
      choose f hf using h
      refine ⟨⟨f .keepDefault, f .allowNamed⟩, ⟨hm, fun k => ?_⟩, hms, fun k => ?_⟩
      · rw [Given.get?_mk]
        exact (hf k).1
      · rw [Given.get?_mk]
        exact (hf k).2

/-- What the values for a key come to: nothing is off, and one truth value is itself. -/
def Decides (ds : List Data) (b : Bool) : Prop := ds = [] ∧ b = false ∨ ds = [.bool b]

theorem decides_iff {ds : List Data} {b : Bool} :
    Decides ds b ↔ ∃ o, Settled none ds o ∧ o.getD false = b := by
  constructor
  · rintro (⟨rfl, rfl⟩ | rfl)
    · exact ⟨none, .kept, rfl⟩
    · exact ⟨some b, .given, rfl⟩
  · rintro ⟨o, ⟨⟩, rfl⟩
    · exact Or.inl ⟨rfl, rfl⟩
    · exact Or.inr rfl

theorem Given.get_options (g : Given) (k : Key) : g.options.get k = (g.get? k).getD false := by
  cases k <;> rfl

/-- **Which options a text gives**, by what is decided for each key. -/
theorem ofText_eq_ok_iff {ms : List (Member Data)} {text : String}
    (h : ObjectText ms text.toList) {o : Options} :
    ofText text = .ok o ↔ Spelled ms ∧ ∀ k, Decides (values k ms) (o.get k) := by
  rw [← toOption_eq_some_iff, ofText_read h, Option.map_eq_some_iff]
  simp only [foldlM_add?_eq_some_iff, decides_iff, Given.get?_empty]
  constructor
  · rintro ⟨g, ⟨hms, hg⟩, rfl⟩
    exact ⟨hms, fun k => ⟨g.get? k, hg k, (g.get_options k).symm⟩⟩
  · rintro ⟨hms, hg⟩
    choose f hf using hg
    refine ⟨⟨f .keepDefault, f .allowNamed⟩, ⟨hms, fun k => ?_⟩, ext_get fun k => ?_⟩
    · rw [Given.get?_mk]
      exact (hf k).1
    · rw [Given.get_options, Given.get?_mk]
      exact (hf k).2

theorem decides_exists_iff {ds : List Data} :
    (∃ b, Decides ds b) ↔ ds.length ≤ 1 ∧ ∀ d ∈ ds, ∃ b, d = .bool b := by
  constructor
  · rintro ⟨b, ⟨rfl, -⟩ | rfl⟩ <;> simp
  · rintro ⟨hlength, hbool⟩
    match ds with
    | [] => exact ⟨false, Or.inl ⟨rfl, rfl⟩⟩
    | [d] =>
      obtain ⟨b, rfl⟩ := hbool d List.mem_cons_self
      exact ⟨b, Or.inr rfl⟩
    | _ :: _ :: _ => simp at hlength

theorem decides_perm {ds ds' : List Data} (h : ds.Perm ds') (b : Bool) :
    Decides ds b ↔ Decides ds' b := by
  have hone : ∀ {ds ds' : List Data}, ds.Perm ds' → Decides ds b → Decides ds' b := by
    rintro ds ds' h (⟨rfl, rfl⟩ | rfl)
    · exact Or.inl ⟨h.nil_eq.symm, rfl⟩
    · exact Or.inr (List.singleton_perm.1 h).symm
  exact ⟨hone h, hone h.symm⟩

theorem values_known (k : Key) (ms : List (Member Data)) : values k (known ms) = values k ms := by
  rw [values, values, known, List.filter_filter]
  congr 2
  funext m
  cases hkey : m.key == some k.name with
  | false => rfl
  | true =>
    rw [beq_iff_eq.1 hkey]
    cases k <;> rfl

/-- **The options of an object**: which texts give options, what each option is, and
    that only the members with known keys count, in whatever order they stand. -/
theorem ofText_object {ms : List (Member Data)} {text : String}
    (h : ObjectText ms text.toList) :
    ((∃ o, ofText text = .ok o) ↔
      Spelled ms ∧ ∀ k, (values k ms).length ≤ 1 ∧ ∀ d ∈ values k ms, ∃ b, d = .bool b) ∧
    (∀ o, ofText text = .ok o → ∀ k,
      values k ms = [] ∧ o.get k = false ∨ values k ms = [.bool (o.get k)]) ∧
    ∀ {ms' : List (Member Data)} {text' : String}, ObjectText ms' text'.toList →
      (Spelled ms ↔ Spelled ms') → (known ms).Perm (known ms') →
        (ofText text').toOption = (ofText text).toOption := by
  refine ⟨?_, fun o ho => ((ofText_eq_ok_iff h).1 ho).2, ?_⟩
  · simp only [ofText_eq_ok_iff h, ← decides_exists_iff]
    constructor
    · rintro ⟨o, hms, ho⟩
      exact ⟨hms, fun k => ⟨_, ho k⟩⟩
    · rintro ⟨hms, ho⟩
      choose f hf using ho
      exact ⟨⟨f .keepDefault, f .allowNamed⟩, hms, fun k => by rw [get_mk]; exact hf k⟩
  · intro ms' text' h' hspelled hperm
    have hvalues (k : Key) : (values k ms').Perm (values k ms) := by
      rw [← values_known k ms', ← values_known k ms]
      exact (hperm.symm.filter _).map _
    ext o
    simp only [toOption_eq_some_iff, ofText_eq_ok_iff h, ofText_eq_ok_iff h',
      hspelled, decides_perm (hvalues _)]

/-- An escape in a key, and a key in a value that nobody asks for. -/
theorem ofText_object_nested :
    ofText
        " \x7b\"\\u006beepOriginalExport\": true, \"a\": [\x7b\"allowNamedExports\": 1\x7d]\x7d" =
          .ok ⟨true, false⟩ ∧
      ofText "\x7b\"keepOriginalExport\":true\x7d" = .ok ⟨true, false⟩ := by
  have hblank : Blank [] := by decide
  have hspace : Blank [' '] := by decide
  have hone : Unsigned ['1'] :=
    .mk (w := ['1']) (.other (by decide) ⟨by decide, by simp⟩) .none .none
  have hinner : Members [⟨some "allowNamedExports", .number ['1']⟩] _ :=
    .one hblank (.mk (quoted_plain (by decide)) hblank hspace (.number hone)) hblank
  have hmore : MemberText
      ⟨some "a", .list [.object [⟨some "allowNamedExports", .number ['1']⟩]]⟩ _ :=
    .mk (quoted_plain (by decide)) hblank hspace (.list (.one hblank (.object hinner) hblank))
  have hkeep : Spells "\\u006beepOriginalExport".toList "keepOriginalExport".toList :=
    .code (.mk (a := '0') (b := '0') (c := '6') (d := 'b') (p := 0) (q := 0) (r := 6) (s := 11)
      (by decide) (by decide) (by decide) (by decide)) (by decide) (by decide)
      (show Spells "eepOriginalExport".toList _ from Spells.of_plain (by decide))
  have h : ObjectText
      [⟨some "keepOriginalExport", .bool true⟩,
        ⟨some "a", .list [.object [⟨some "allowNamedExports", .number ['1']⟩]]⟩]
      (String.toList
        " \x7b\"\\u006beepOriginalExport\": true, \"a\": [\x7b\"allowNamedExports\": 1\x7d]\x7d") :=
    .members hspace (.more hblank (.mk hkeep.quoted hblank hspace .true) hblank
      (.one hspace hmore hblank)) hblank
  have h' : ObjectText [⟨some "keepOriginalExport", .bool true⟩]
      "\x7b\"keepOriginalExport\":true\x7d".toList :=
    .members hblank (.one hblank (.mk (quoted_plain (by decide)) hblank hblank .true) hblank) hblank
  obtain ⟨hexists, hvalue, hsame⟩ := ofText_object h
  obtain ⟨o, ho⟩ := hexists.2 ⟨by simp [Spelled], fun k => by cases k <;> simp [values, Key.name]⟩
  have hon : o.get .keepDefault = true := by
    simpa [values, Key.name] using hvalue o ho .keepDefault
  have hoff : o.get .allowNamed = false := by
    simpa [values, Key.name] using hvalue o ho .allowNamed
  obtain rfl : o = ⟨true, false⟩ := ext_get fun k => by
    cases k
    · exact hon
    · exact hoff
  refine ⟨ho, toOption_eq_some_iff.1 ?_⟩
  rw [hsame h' (by simp [Spelled]) (List.Perm.refl _), ho]
  rfl

end Options

end SoleExport
