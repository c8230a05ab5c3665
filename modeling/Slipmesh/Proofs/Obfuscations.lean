import Slipmesh.Library.Guard
import Slipmesh.Library.Runs
import Slipmesh.Taloscfg.Secrets

/-! The obfuscation parameters that are drawn, and what becomes of them between the
parameters that are set. -/

namespace Slipmesh.Taloscfg
open Common Library

/-! ### One set of draws -/

theorem inRange_ok {low high value found : Nat} : inRange low high value = .ok found ↔ (low ≤ value ∧ value ≤ high) ∧ value = found := by
  rw [inRange]
  split
  · rename_i inside
    simp [inside]
  · rename_i outside
    exact iff_of_false (fun same => by cases same) fun given => outside given.1

theorem randomRange_ok {low high value : Nat} {draws rest : List Nat} :
    randomRange low high draws = .ok (value, rest) ↔ (low ≤ value ∧ value ≤ high) ∧ draws = value :: rest := by
  cases draws with
  | nil => exact iff_of_false (fun same => by cases same) fun given => by cases given.2
  | cons first draws =>
    simp only [randomRange, bind_ok, inRange_ok, pure_ok, Prod.mk.injEq, List.cons.injEq]
    constructor
    · intro given
      obtain ⟨found, ⟨inside, rfl⟩, rfl, rfl⟩ := given
      exact ⟨inside, rfl, rfl⟩
    · intro given
      obtain ⟨inside, rfl, rfl⟩ := given
      exact ⟨first, ⟨inside, rfl⟩, rfl, rfl⟩

theorem addU16_ok {a b sum : UInt16} : addU16 a b = .ok sum ↔ a.toNat + b.toNat < 2 ^ 16 ∧ a + b = sum := by
  rw [addU16]
  split
  · rename_i fits
    exact ⟨fun same => ⟨fits, Except.ok.inj same⟩, fun given => congrArg Except.ok given.2⟩
  · rename_i overflows
    exact iff_of_false (fun same => by cases same) fun given => overflows given.1

theorem toNat_draw {low high value : Nat} (inside : low ≤ value ∧ value ≤ high) (small : high < 2 ^ 16) :
    (UInt16.ofNat value).toNat = value :=
  Nat.mod_eq_of_lt (by omega)

theorem drawS2_ok {s1 s2 : UInt16} {draws rest : List Nat} (drawn : drawS2 s1 draws = .ok (s2, rest)) :
    15 ≤ s2.toNat ∧ s2.toNat ≤ 150 ∧ s2 ≠ s1 + 56 := by
  induction draws with
  | nil => cases drawn
  | cons value draws ih =>
    simp only [drawS2, bind_ok, inRange_ok, addU16_ok] at drawn
    obtain ⟨found, ⟨inside, rfl⟩, avoided, ⟨_, rfl⟩, drawn⟩ := drawn
    split at drawn
    · rename_i other
      cases drawn
      rw [toNat_draw inside (by omega)]
      exact ⟨inside.1, inside.2, other⟩
    · exact ih drawn

/-- The headers drawn so far. -/
structure Headers (values : List UInt32) : Prop where
  few : values.length ≤ 4
  distinct : values.Nodup
  bounded : ∀ h ∈ values, 5 ≤ h.toNat ∧ h.toNat ≤ 2147483647

theorem Headers.draw {values : List UInt32} (headers : Headers values) (room : values.length < 4) {value : Nat}
    (inside : 5 ≤ value ∧ value ≤ 2147483647) :
    Headers (if UInt32.ofNat value ∈ values then values else values ++ [UInt32.ofNat value]) := by
  split
  · exact headers
  · rename_i fresh
    refine ⟨?_, ?_, ?_⟩
    · rw [List.length_append]
      exact room
    · rw [List.nodup_append]
      exact ⟨headers.distinct, List.nodup_singleton _, fun a listed b last same => fresh (List.mem_singleton.mp last ▸ same ▸ listed)⟩
    · intro h listed
      rcases List.mem_append.mp listed with before | last
      · exact headers.bounded h before
      · have size : (UInt32.ofNat value).toNat = value := Nat.mod_eq_of_lt (by omega)
        rw [List.mem_singleton.mp last, size]
        exact inside

theorem drawHeaders_ok {values found : List UInt32} {draws rest : List Nat} (headers : Headers values)
    (drawn : drawHeaders values draws = .ok (found, rest)) : Headers found ∧ found.length = 4 := by
  induction draws generalizing values with
  | nil =>
    rw [drawHeaders] at drawn
    split at drawn
    · cases drawn
    · rename_i full
      cases drawn
      exact ⟨headers, Nat.le_antisymm headers.few (not_lt.mp full)⟩
  | cons value draws ih =>
    rw [drawHeaders] at drawn
    split at drawn
    · rename_i room
      simp only [bind_ok, inRange_ok] at drawn
      obtain ⟨candidate, ⟨inside, rfl⟩, drawn⟩ := drawn
      exact ih (headers.draw room inside) drawn
    · rename_i full
      cases drawn
      exact ⟨headers, Nat.le_antisymm headers.few (not_lt.mp full)⟩

theorem headerAt_ok {values : List UInt32} {i : Nat} {h : UInt32} : headerAt values i = .ok h ↔ values[i]? = some h := by
  rw [headerAt]
  cases values[i]? with
  | none => exact iff_of_false (fun same => by cases same) fun same => by cases same
  | some found => simp

theorem four_headers {values : List UInt32} (four : values.length = 4) :
    ∃ h1 h2 h3 h4, values = [h1, h2, h3, h4] := by
  rcases values with _ | ⟨h1, _ | ⟨h2, _ | ⟨h3, _ | ⟨h4, _ | ⟨h5, rest⟩⟩⟩⟩⟩
  all_goals first | exact ⟨h1, h2, h3, h4, rfl⟩ | simp at four

/-- A run of the generator that returns has drawn one consistent set. -/
theorem generateFrom_draw {draws rest : List Nat} {o : Obfuscation} (returned : generateFrom draws = .ok (o, rest)) :
    ∃ draw : Draw, o = generate draw := by
  simp only [generateFrom, bind_ok, randomRange_ok, addU16_ok, pure_ok, Prod.exists, Prod.mk.injEq] at returned
  obtain ⟨jmin, _, ⟨jminIn, _⟩, spread, _, ⟨spreadIn, _⟩, jmax, ⟨_, sum⟩, s1, _, ⟨s1In, _⟩, s2, _, drawnS2, headers, _,
    drawnHeaders, h1, first, h2, second, h3, third, h4, fourth, jc, _, ⟨jcIn, _⟩, same, _⟩ := returned
  obtain ⟨all, four⟩ := drawHeaders_ok ⟨Nat.zero_le _, List.nodup_nil, fun _ member => by cases member⟩ drawnHeaders
  obtain ⟨a, b, c, d, rfl⟩ := four_headers four
  cases headerAt_ok.mp first
  cases headerAt_ok.mp second
  cases headerAt_ok.mp third
  cases headerAt_ok.mp fourth
  have junk := toNat_draw jcIn (by omega)
  have least := toNat_draw jminIn (by omega)
  have above := toNat_draw spreadIn (by omega)
  have size := toNat_draw s1In (by omega)
  obtain ⟨s2Least, s2Most, apart⟩ := drawS2_ok drawnS2
  refine ⟨⟨UInt16.ofNat jc, UInt16.ofNat jmin, UInt16.ofNat spread, UInt16.ofNat s1, s2, h1, h2, h3, h4, ?_, ?_, ?_, all.distinct⟩, ?_⟩
  · simp only [UInt16.le_iff_toNat_le, junk, least, above]
    exact ⟨jcIn.1, jcIn.2, jminIn.1, jminIn.2, spreadIn.1, spreadIn.2⟩
  · simp only [UInt16.le_iff_toNat_le, size]
    exact ⟨s1In.1, s1In.2, s2Least, s2Most, apart⟩
  · intro h listed
    simp only [UInt32.le_iff_toNat_le]
    exact all.bounded h listed
  · rw [← same, ← sum]
    rfl

/-! ### No panic -/

/-- Whatever stops the run is in the draws. -/
def Calm {α : Type} (x : Except Stop α) : Prop := ∀ stop, x = .error stop → stop = .exhausted ∨ stop = .outOfRange

namespace Calm

variable {α β : Type}

theorem ok (a : α) : Calm (.ok a : Except Stop α) := fun _ same => by cases same

theorem bind {x : Except Stop α} {next : α → Except Stop β} (first : Calm x) (rest : ∀ a, x = .ok a → Calm (next a)) :
    Calm (x >>= next) := by
  intro stop stopped
  rcases bind_error.mp stopped with here | later
  · exact first stop here
  · obtain ⟨a, passed, stopped⟩ := later
    exact rest a passed stop stopped

theorem inRange (low high value : Nat) : Calm (inRange low high value) := by
  intro stop stopped
  rw [Taloscfg.inRange] at stopped
  split at stopped
  · cases stopped
  · cases stopped
    exact .inr rfl

theorem randomRange (low high : Nat) (draws : List Nat) : Calm (randomRange low high draws) := by
  cases draws with
  | nil => exact fun stop stopped => by cases stopped; exact .inl rfl
  | cons value draws => exact (Calm.inRange low high value).bind fun found _ => Calm.ok _

theorem addU16 {a b : UInt16} (fits : a.toNat + b.toNat < 2 ^ 16) : Calm (addU16 a b) := by
  rw [addU16_ok.mpr ⟨fits, rfl⟩]
  exact Calm.ok _

theorem drawS2 {s1 : UInt16} (small : s1.toNat ≤ 150) (draws : List Nat) : Calm (drawS2 s1 draws) := by
  induction draws with
  | nil => exact fun stop stopped => by cases stopped; exact .inl rfl
  | cons value draws ih =>
    rw [Taloscfg.drawS2]
    apply (Calm.inRange 15 150 value).bind
    intro s2 _
    have fits : s1.toNat + (56 : UInt16).toNat < 2 ^ 16 := by
      change s1.toNat + 56 < 65536
      omega
    apply (Calm.addU16 fits).bind
    intro avoided _
    split
    · exact Calm.ok _
    · exact ih

theorem drawHeaders (values : List UInt32) (draws : List Nat) : Calm (drawHeaders values draws) := by
  induction draws generalizing values with
  | nil =>
    rw [Taloscfg.drawHeaders]
    split
    · exact fun stop stopped => by cases stopped; exact .inl rfl
    · exact Calm.ok _
  | cons value draws ih =>
    rw [Taloscfg.drawHeaders]
    split
    · exact (Calm.inRange 5 2147483647 value).bind fun candidate _ => ih _
    · exact Calm.ok _

theorem headerAt {values : List UInt32} {i : Nat} (inside : i < values.length) : Calm (headerAt values i) := by
  rw [headerAt_ok.mpr (List.getElem?_eq_getElem inside)]
  exact Calm.ok _

end Calm

theorem generateFrom_calm (draws : List Nat) : Calm (generateFrom draws) := by
  rw [generateFrom]
  refine (Calm.randomRange 10 100 draws).bind fun jmin least => ?_
  refine (Calm.randomRange 1 900 jmin.2).bind fun spread above => ?_
  have jminSize := toNat_draw (randomRange_ok.mp least).1 (by omega)
  have spreadSize := toNat_draw (randomRange_ok.mp above).1 (by omega)
  have jminIn := (randomRange_ok.mp least).1
  have spreadIn := (randomRange_ok.mp above).1
  refine (Calm.addU16 (by omega)).bind fun jmax _ => ?_
  refine (Calm.randomRange 15 150 spread.2).bind fun s1 size => ?_
  have s1Size := toNat_draw (randomRange_ok.mp size).1 (by omega)
  have s1In := (randomRange_ok.mp size).1
  refine (Calm.drawS2 (by omega) s1.2).bind fun s2 _ => ?_
  refine (Calm.drawHeaders [] s2.2).bind fun headers drawn => ?_
  obtain ⟨_, four⟩ := drawHeaders_ok ⟨Nat.zero_le _, List.nodup_nil, fun _ member => by cases member⟩ drawn
  refine (Calm.headerAt (by omega)).bind fun h1 _ => ?_
  refine (Calm.headerAt (by omega)).bind fun h2 _ => ?_
  refine (Calm.headerAt (by omega)).bind fun h3 _ => ?_
  refine (Calm.headerAt (by omega)).bind fun h4 _ => ?_
  exact (Calm.randomRange 4 12 headers.2).bind fun jc _ => Calm.ok _

/-! ### What the validator takes -/

theorem equalPair_none {h1 h2 h3 h4 : UInt32} : Obfuscation.equalPair [h1, h2, h3, h4] = none ↔ [h1, h2, h3, h4].Nodup := by
  simp [Obfuscation.equalPair, List.zipIdx_cons, or_imp, forall_and]

theorem validate_iff {o : Obfuscation} : o.validate = .ok () ↔
    (o.headerProtectionKey.isSome → o.tooSmall = []) ∧ o.magicHeaders.Nodup ∧
      (o.jc.getD 0 = 0 ∨ o.jmax.getD 0 = 0 ∨ o.jmin.getD 0 ≤ o.jmax.getD 0) := by
  have headers : Obfuscation.equalPair o.magicHeaders = none ↔ o.magicHeaders.Nodup := equalPair_none
  rw [← headers, Obfuscation.validate]
  cases Obfuscation.equalPair o.magicHeaders with
  | none => simp only [throw_bind, refuse_ok, accept_ok, pure_ok, not_and, not_not, true_and, and_true]
  | some pair => simp only [throw_bind, refuse_ok, throw_ok, and_false, reduceCtorEq, false_and]

/-- What is promised of a generated obfuscation. -/
structure Generated (o : Obfuscation) : Prop where
  junk : ∃ jc jmin jmax, o.jc = some jc ∧ o.jmin = some jmin ∧ o.jmax = some jmax ∧ jmin.toNat < jmax.toNat ∧
    jmax.toNat ≤ 1000 ∧ 4 ≤ jc.toNat ∧ jc.toNat ≤ 12
  sizes : ∃ s1 s2, o.s1 = some s1 ∧ o.s2 = some s2 ∧ (15 ≤ s1.toNat ∧ s1.toNat ≤ 150) ∧ (15 ≤ s2.toNat ∧ s2.toNat ≤ 150) ∧
    s2.toNat ≠ s1.toNat + 56
  headers : ∃ h1 h2 h3 h4, o.h1 = some h1 ∧ o.h2 = some h2 ∧ o.h3 = some h3 ∧ o.h4 = some h4 ∧ [h1, h2, h3, h4].Nodup ∧
    ∀ h ∈ [h1, h2, h3, h4], 5 ≤ h.toNat ∧ h.toNat ≤ 2147483647
  accepted : o.validate = .ok ()
  withKey : ∀ key s3 s4, 12 ≤ s3.toNat → 12 ≤ s4.toNat →
    { o with headerProtectionKey := some key, s3 := some s3, s4 := some s4 : Obfuscation }.validate = .ok ()

namespace Draw

variable (draw : Draw)

theorem junk_toNat : (4 ≤ draw.jc.toNat ∧ draw.jc.toNat ≤ 12) ∧ (10 ≤ draw.jmin.toNat ∧ draw.jmin.toNat ≤ 100) ∧
    1 ≤ draw.spread.toNat ∧ draw.spread.toNat ≤ 900 := by
  obtain ⟨least, most, from10, to100, from1, to900⟩ := draw.junk
  exact ⟨⟨least, most⟩, ⟨from10, to100⟩, from1, to900⟩

theorem jmax_toNat : (draw.jmin + draw.spread).toNat = draw.jmin.toNat + draw.spread.toNat := by
  obtain ⟨_, least, above⟩ := draw.junk_toNat
  rw [UInt16.toNat_add]
  exact Nat.mod_eq_of_lt (by omega)

theorem sizes_toNat : (15 ≤ draw.s1.toNat ∧ draw.s1.toNat ≤ 150) ∧ (15 ≤ draw.s2.toNat ∧ draw.s2.toNat ≤ 150) ∧
    draw.s2.toNat ≠ draw.s1.toNat + 56 := by
  obtain ⟨least1, most1, least2, most2, apart⟩ := draw.sizes
  refine ⟨⟨least1, most1⟩, ⟨least2, most2⟩, ?_⟩
  intro same
  have most1 : draw.s1.toNat ≤ 150 := most1
  have sum : (draw.s1 + 56).toNat = draw.s1.toNat + 56 := by
    rw [UInt16.toNat_add]
    exact Nat.mod_eq_of_lt (by change draw.s1.toNat + 56 < 65536; omega)
  exact apart (UInt16.toNat_inj.mp (same.trans sum.symm))

end Draw

/-- The four headers and the junk sizes of the draws pass, whatever else is set. -/
theorem validate_drawn (draw : Draw) {o : Obfuscation} (headers : o.magicHeaders = (generate draw).magicHeaders)
    (jmin : o.jmin = some draw.jmin) (jmax : o.jmax = some (draw.jmin + draw.spread))
    (sizes : o.headerProtectionKey.isSome → o.tooSmall = []) : o.validate = .ok () := by
  refine validate_iff.mpr ⟨sizes, headers ▸ draw.distinct, .inr (.inr ?_)⟩
  rw [jmin, jmax, UInt16.le_iff_toNat_le, Option.getD_some, Option.getD_some, draw.jmax_toNat]
  exact Nat.le_add_right _ _

theorem generate_generated (draw : Draw) : Generated (generate draw) := by
  obtain ⟨jc, jmin, spread⟩ := draw.junk_toNat
  obtain ⟨s1, s2, apart⟩ := draw.sizes_toNat
  have jmax := draw.jmax_toNat
  refine ⟨⟨_, _, _, rfl, rfl, rfl, ?_, ?_, jc.1, jc.2⟩, ⟨_, _, rfl, rfl, s1, s2, apart⟩,
    ⟨_, _, _, _, rfl, rfl, rfl, rfl, draw.distinct, ?_⟩, ?_, ?_⟩
  · omega
  · omega
  · intro h listed
    exact draw.headers h listed
  · exact validate_drawn draw rfl rfl rfl fun absent => by cases absent
  · intro key s3 s4 room3 room4
    refine validate_drawn draw rfl rfl rfl fun _ => ?_
    have large {size : UInt16} (room : 12 ≤ size.toNat) : ¬ size < Obfuscation.headerProtectionNonceSize := by
      rw [UInt16.lt_iff_toNat_lt]
      exact not_lt.mpr room
    simp [Obfuscation.tooSmall, generate, large (show 12 ≤ draw.s1.toNat by omega), large (show 12 ≤ draw.s2.toNat by omega),
      large room3, large room4]

/-- On draws in the ranges asked for the generator does not panic, and what it returns
is in the recommended ranges and passes the validator, also with a header protection key. -/
theorem generateFrom_generated : (∀ draws stop, generateFrom draws = .error stop → stop = .exhausted ∨ stop = .outOfRange) ∧
    ∀ draws rest o, generateFrom draws = .ok (o, rest) → Generated o := by
  refine ⟨generateFrom_calm, ?_⟩
  intro draws rest o returned
  obtain ⟨draw, rfl⟩ := generateFrom_draw returned
  exact generate_generated draw

/-- 71 is 15 and 56, and the second 5 is there already: both are drawn again. -/
theorem redrawn_generated : ∃ o, generateFrom [10, 1, 15, 71, 16, 5, 5, 6, 7, 8, 4] = .ok (o, []) ∧ Generated o :=
  ⟨_, rfl, generateFrom_generated.2 [10, 1, 15, 71, 16, 5, 5, 6, 7, 8, 4] [] _ rfl⟩

theorem drawS2_draw (draw : Draw) (draws : List Nat) : drawS2 draw.s1 (draw.s2.toNat :: draws) = .ok (draw.s2, draws) := by
  obtain ⟨s1, s2, _⟩ := draw.sizes_toNat
  have fits : draw.s1.toNat + (56 : UInt16).toNat < 2 ^ 16 := by
    change draw.s1.toNat + 56 < 65536
    omega
  simp only [drawS2, bind_ok, inRange_ok, addU16_ok]
  refine ⟨_, ⟨s2, rfl⟩, _, ⟨fits, rfl⟩, ?_⟩
  rw [UInt16.ofNat_toNat, if_pos draw.sizes.2.2.2.2]
  rfl

theorem drawHeaders_fresh {values : List UInt32} {h : UInt32} (room : values.length < 4) (fresh : h ∉ values)
    (inside : 5 ≤ h ∧ h ≤ 2147483647) (draws : List Nat) :
    drawHeaders values (h.toNat :: draws) = drawHeaders (values ++ [h]) draws := by
  have taken : inRange 5 2147483647 h.toNat = .ok h.toNat := inRange_ok.mpr ⟨inside, rfl⟩
  rw [drawHeaders, if_pos room, taken]
  change drawHeaders (if UInt32.ofNat h.toNat ∈ values then values else values ++ [UInt32.ofNat h.toNat]) draws = _
  rw [UInt32.ofNat_toNat, if_neg fresh]

theorem drawHeaders_draw (draw : Draw) (value : Nat) (draws : List Nat) :
    drawHeaders [] (draw.h1.toNat :: draw.h2.toNat :: draw.h3.toNat :: draw.h4.toNat :: value :: draws) =
      .ok ([draw.h1, draw.h2, draw.h3, draw.h4], value :: draws) := by
  have headers := draw.headers
  have distinct := draw.distinct
  simp only [List.mem_cons, List.not_mem_nil, or_false, forall_eq_or_imp, forall_eq] at headers
  simp only [List.nodup_cons, List.mem_cons, List.not_mem_nil, or_false, not_or] at distinct
  obtain ⟨⟨one, two, three⟩, ⟨four, five⟩, six, _⟩ := distinct
  rw [drawHeaders_fresh (by simp) (by simp) headers.1, drawHeaders_fresh (by simp) (by simpa using Ne.symm one) headers.2.1,
    drawHeaders_fresh (by simp) (by simpa using ⟨Ne.symm two, Ne.symm four⟩) headers.2.2.1,
    drawHeaders_fresh (by simp) (by simpa using ⟨Ne.symm three, Ne.symm five, Ne.symm six⟩) headers.2.2.2]
  rfl

/-- Every set of draws in range can come up. -/
theorem draw_generateFrom (draw : Draw) : ∃ draws, generateFrom draws = .ok (generate draw, []) := by
  obtain ⟨jc, jmin, spread⟩ := draw.junk_toNat
  have s1 := draw.sizes_toNat.1
  have s2 : drawS2 (UInt16.ofNat draw.s1.toNat) [draw.s2.toNat, draw.h1.toNat, draw.h2.toNat, draw.h3.toNat, draw.h4.toNat,
      draw.jc.toNat] = .ok (draw.s2, [draw.h1.toNat, draw.h2.toNat, draw.h3.toNat, draw.h4.toNat, draw.jc.toNat]) := by
    rw [UInt16.ofNat_toNat]
    exact drawS2_draw draw _
  have fits : (UInt16.ofNat draw.jmin.toNat).toNat + (UInt16.ofNat draw.spread.toNat).toNat < 2 ^ 16 := by
    simp only [UInt16.ofNat_toNat]
    omega
  refine ⟨[draw.jmin.toNat, draw.spread.toNat, draw.s1.toNat, draw.s2.toNat, draw.h1.toNat, draw.h2.toNat, draw.h3.toNat,
    draw.h4.toNat, draw.jc.toNat], ?_⟩
  simp only [generateFrom, bind_ok, randomRange_ok, addU16_ok, headerAt_ok, pure_ok, Prod.exists]
  refine ⟨_, _, ⟨jmin, rfl⟩, _, _, ⟨spread, rfl⟩, _, ⟨fits, rfl⟩, _, _, ⟨s1, rfl⟩, _, _, s2, _, _, drawHeaders_draw draw _ _,
    _, rfl, _, rfl, _, rfl, _, rfl, _, _, ⟨jc, rfl⟩, ?_⟩
  simp only [UInt16.ofNat_toNat]
  rfl

/-! ### Draws between set fields -/

/-- `specific` over `global`, what neither sets left unset. -/
def layered (specific global : Obfuscation) : Obfuscation := joinFields orElse specific global

/-- The four headers of `set`, each with the one drawn for its place. -/
def headerPlaces (set : Obfuscation) (draw : Draw) : List (Option UInt32 × UInt32) :=
  [(set.h1, draw.h1), (set.h2, draw.h2), (set.h3, draw.h3), (set.h4, draw.h4)]

/-- No header that is set is drawn for another place. -/
def HeadersDiffer (set : Obfuscation) (draw : Draw) : Prop :=
  ∀ h ∈ (headerPlaces set draw).filterMap Prod.fst, ∀ place ∈ headerPlaces set draw, place.1 = none → h ≠ place.2

/-- The lower bound that is set or drawn is not above the upper bound that is drawn or set. -/
def BoundsFit (set : Obfuscation) (draw : Draw) : Prop :=
  match set.jmin, set.jmax with
  | some jmin, some jmax => jmin ≤ jmax
  | some jmin, none => jmin.toNat ≤ draw.jmin.toNat + draw.spread.toNat
  | none, some jmax => draw.jmin ≤ jmax
  | none, none => True

/-- No junk is sent, or its bounds are in order. -/
def JunkFits (set : Obfuscation) (draw : Draw) : Prop := set.jc = some 0 ∨ set.jmax = some 0 ∨ BoundsFit set draw

/-- The size that is set and the one drawn for the other message are not 56 apart. -/
def SizesDiffer (set : Obfuscation) (draw : Draw) : Prop :=
  match set.s1, set.s2 with
  | some s1, none => draw.s2.toNat ≠ s1.toNat + 56
  | none, some s2 => s2.toNat ≠ draw.s1.toNat + 56
  | _, _ => True

/-- What is there at each place, those set first. -/
theorem places_perm {α : Type} (places : List (Option α × α)) : (places.map fun place => place.1.getD place.2).Perm
    (places.filterMap Prod.fst ++ (places.filter (·.1.isNone)).map Prod.snd) := by
  induction places with
  | nil => exact List.Perm.refl _
  | cons place places ih =>
    obtain ⟨set, other⟩ := place
    cases set with
    | none => exact (ih.cons other).trans List.perm_middle.symm
    | some value => exact ih.cons value

theorem resolved_headers {set : Obfuscation} (draw : Draw) (distinct : set.magicHeaders.Nodup) :
    ((headerPlaces set draw).map fun place => place.1.getD place.2).Nodup ↔ HeadersDiffer set draw := by
  have own : ((headerPlaces set draw).filterMap Prod.fst).Nodup := by
    have all := (places_perm [(set.h1, 1), (set.h2, 2), (set.h3, 3), (set.h4, 4)]).nodup_iff.mp distinct
    exact (List.nodup_append.mp all).1
  have drawn : (((headerPlaces set draw).filter (·.1.isNone)).map Prod.snd).Nodup := by
    refine List.Nodup.sublist ?_ draw.distinct
    exact (List.filter_sublist (l := headerPlaces set draw)).map Prod.snd
  rw [(places_perm _).nodup_iff, List.nodup_append]
  constructor
  · intro given h listed place member unset
    exact given.2.2 h listed place.2 (List.mem_map_of_mem (List.mem_filter.mpr ⟨member, by rw [unset]; rfl⟩))
  · intro differ
    refine ⟨own, drawn, ?_⟩
    intro h listed other member
    obtain ⟨place, kept, rfl⟩ := List.mem_map.mp member
    obtain ⟨placed, unset⟩ := List.mem_filter.mp kept
    exact differ h listed place placed (Option.isNone_iff_eq_none.mp unset)

theorem resolved_junk (set : Obfuscation) (draw : Draw) :
    (set.jc.getD draw.jc = 0 ∨ set.jmax.getD (draw.jmin + draw.spread) = 0 ∨
      set.jmin.getD draw.jmin ≤ set.jmax.getD (draw.jmin + draw.spread)) ↔ JunkFits set draw := by
  obtain ⟨jc, jmin, spread⟩ := draw.junk_toNat
  have jmax := draw.jmax_toNat
  have drawn {other : UInt16} (positive : 0 < other.toNat) (value : Option UInt16) :
      value.getD other = 0 ↔ value = some 0 := by
    cases value with
    | none => exact iff_of_false (fun zero : other = 0 => by rw [zero] at positive; cases positive) (by simp)
    | some set => simp
  have bounds : set.jmin.getD draw.jmin ≤ set.jmax.getD (draw.jmin + draw.spread) ↔ BoundsFit set draw := by
    rw [BoundsFit]
    cases set.jmin with
    | none =>
      cases set.jmax with
      | none => exact iff_of_true (UInt16.le_iff_toNat_le.mpr (jmax ▸ Nat.le_add_right _ _)) trivial
      | some most => rfl
    | some least =>
      cases set.jmax with
      | none => rw [Option.getD_some, Option.getD_none, UInt16.le_iff_toNat_le, jmax]
      | some most => rfl
  rw [drawn (by omega), drawn (by omega), bounds]
  rfl

theorem resolved_sizes {set : Obfuscation} (draw : Draw) (notBoth : ¬ (set.s1.isSome ∧ set.s2.isSome)) :
    (set.s2.getD draw.s2).toNat ≠ (set.s1.getD draw.s1).toNat + 56 ↔ SizesDiffer set draw := by
  have apart := draw.sizes_toNat.2.2
  cases one : set.s1 with
  | none =>
    cases two : set.s2 with
    | none => simp [SizesDiffer, one, two, apart]
    | some s2 => simp [SizesDiffer, one, two]
  | some s1 =>
    cases two : set.s2 with
    | none => simp [SizesDiffer, one, two]
    | some s2 => exact (notBoth (by simp [one, two])).elim

/-- A set that passes and leaves the key's sizes open has no key, and none is drawn. -/
theorem layered_no_key {set : Obfuscation} (accepted : set.validate = .ok ()) (notBoth : ¬ (set.s1.isSome ∧ set.s2.isSome)) :
    set.headerProtectionKey = none := by
  cases key : set.headerProtectionKey with
  | none => rfl
  | some text =>
    have large := (validate_iff.mp accepted).1 (by rw [key]; rfl)
    rw [Obfuscation.tooSmall, List.map_eq_nil_iff, List.filter_eq_nil_iff] at large
    have one := large ("s1", set.s1) (by simp)
    have two := large ("s2", set.s2) (by simp)
    refine (notBoth ⟨?_, ?_⟩).elim
    · cases size : set.s1 with
      | none => exact absurd (by rw [size]; rfl) one
      | some _ => rfl
    · cases size : set.s2 with
      | none => exact absurd (by rw [size]; rfl) two
      | some _ => rfl

/-- The fields that are set go with those that are drawn for the others. -/
structure Compatible (set : Obfuscation) (draw : Draw) : Prop where
  headers : HeadersDiffer set draw
  junk : JunkFits set draw
  sizes : SizesDiffer set draw

/-- The resolved obfuscation keeps the constraints between fields exactly where what is
set is compatible with what was drawn. -/
theorem resolveObfuscation_valid_iff (specific global : Obfuscation) (draw : Draw)
    (accepted : (layered specific global).validate = .ok ())
    (notBoth : ¬ ((layered specific global).s1.isSome ∧ (layered specific global).s2.isSome)) :
    ((resolveObfuscation specific global draw).1.validate = .ok () ∧
      ∀ s1 s2, (resolveObfuscation specific global draw).1.s1 = some s1 →
        (resolveObfuscation specific global draw).1.s2 = some s2 → s2.toNat ≠ s1.toNat + 56) ↔
      Compatible (layered specific global) draw := by
  have key := layered_no_key accepted notBoth
  have distinct := (validate_iff.mp accepted).2.1
  generalize same : layered specific global = set at *
  have resolved : (resolveObfuscation specific global draw).1 = joinFields orElse set (generate draw) := same ▸ rfl
  have filled {α : Type} (value : Option α) (other : α) : orElse value (some other) = some (value.getD other) := Option.or_some
  have noKey : (joinFields orElse set (generate draw)).headerProtectionKey = none := by
    change orElse set.headerProtectionKey none = none
    rw [key]
    rfl
  have headers : (joinFields orElse set (generate draw)).magicHeaders =
      (headerPlaces set draw).map fun place => place.1.getD place.2 := by
    simp [Obfuscation.magicHeaders, Obfuscation.defaultMagicHeaders, joinFields, generate, filled, headerPlaces]
  have junk : ((joinFields orElse set (generate draw)).jc.getD 0 = 0 ∨ (joinFields orElse set (generate draw)).jmax.getD 0 = 0 ∨
      (joinFields orElse set (generate draw)).jmin.getD 0 ≤ (joinFields orElse set (generate draw)).jmax.getD 0) ↔
        JunkFits set draw := by
    simp only [joinFields, generate, filled, Option.getD_some]
    exact resolved_junk set draw
  have sizes : (∀ s1 s2, (joinFields orElse set (generate draw)).s1 = some s1 →
      (joinFields orElse set (generate draw)).s2 = some s2 → s2.toNat ≠ s1.toNat + 56) ↔ SizesDiffer set draw := by
    simp only [joinFields, generate, filled, Option.some.injEq]
    rw [← resolved_sizes draw notBoth]
    exact ⟨fun apart => apart _ _ rfl rfl, fun apart s1 s2 one two => one ▸ two ▸ apart⟩
  rw [resolved, sizes, validate_iff, junk, headers, resolved_headers draw distinct, noKey]
  constructor
  · intro given
    exact ⟨given.1.2.1, given.1.2.2, given.2⟩
  · intro compatible
    exact ⟨⟨fun present => (by cases present), compatible.headers, compatible.junk⟩, compatible.sizes⟩

/-- A draw that is fine by itself: 76 is not 15 and 56. -/
private def largeS2 : Draw := { (default : Draw) with s2 := 76, sizes := by decide }

theorem defaults_compatible : (resolveObfuscation { s1 := some 30 } {} largeS2).1.validate = .ok () := by
  have compatible : Compatible (layered { s1 := some 30 } {}) largeS2 := by
    refine ⟨?_, .inr (.inr trivial), ?_⟩
    · exact fun h listed => by cases listed
    · show (76 : UInt16).toNat ≠ (30 : UInt16).toNat + 56
      decide
  exact ((resolveObfuscation_valid_iff { s1 := some 30 } {} largeS2 (by decide) (by decide)).mpr compatible).1

/-- With 20 set for the other message it is 56 above it. -/
theorem set_s1_collides : (layered { s1 := some 20 } {}).validate = .ok () ∧
    ¬ ((layered { s1 := some 20 } {}).s1.isSome ∧ (layered { s1 := some 20 } {}).s2.isSome) ∧
    (resolveObfuscation { s1 := some 20 } {} largeS2).1.s1 = some 20 ∧
    (resolveObfuscation { s1 := some 20 } {} largeS2).1.s2 = some (20 + 56) := by
  exact ⟨by decide, by decide, rfl, rfl⟩

end Slipmesh.Taloscfg
