import Slipmesh.Proofs.Roadwarriors

/-! The obfuscation of a roadwarrior pool, as its interfaces have it and as its clients
are told of it. -/

namespace Slipmesh.Taloscfg
open Library Net Common
open Awg (AwgConfig InterfaceEntry)

/-- The fields that both ends of a handshake have to share, each with the label that a
client's config has for it, if it has one. -/
def sharedFields (o : Obfuscation) : List (Option String × Option String) :=
  [(some "S1", o.s1.map (toString ·.toNat)), (some "S2", o.s2.map (toString ·.toNat)),
    (none, o.s3.map (toString ·.toNat)), (none, o.s4.map (toString ·.toNat)),
    (some "H1", o.h1.map (toString ·.toNat)), (some "H2", o.h2.map (toString ·.toNat)),
    (some "H3", o.h3.map (toString ·.toNat)), (some "H4", o.h4.map (toString ·.toNat)),
    (none, o.headerProtectionKey)]

/-- The labels that are some field's. -/
def fieldLabels : List String := (clientFields {}).map Prod.fst

/-- A line gives the value under the field's label, or under any that is not another field's. -/
def ClientConfig.Says (config : ClientConfig) (label : Option String) (value : String) : Prop :=
  ∃ line ∈ config.obfuscation, line.2 = value ∧ (label = some line.1 ∨ label = none ∧ line.1 ∉ fieldLabels)

/-- Every field that is set is in the client's config, with its value. -/
def Exported (config : ClientConfig) (o : Obfuscation) : Prop :=
  ∀ field ∈ sharedFields o, ∀ value, field.2 = some value → config.Says field.1 value

/-- A config that a client of the pool is handed. -/
inductive Handed (curve : Curve) (mesh : MeshConfig) (secrets : ResolvedSecrets) (poolName : String) :
    ClientConfig → Prop
  | added {secret : Key} {request : AddRequest} {added : Added} {key : ClientPrivateKey} {config : ClientConfig}
      (asked : request.pool = poolName) (ok : add curve mesh secrets secret request = .ok added)
      (exported : added.config = some (key, config)) : Handed curve mesh secrets poolName config
  | inspected {name : String} {privateKey endpoint : Option String} {config : ClientConfig}
      (ok : inspect curve mesh secrets poolName name privateKey endpoint = .ok config) :
      Handed curve mesh secrets poolName config

/-- No shared field is set that a client's config has no label for. -/
def Labelled (o : Obfuscation) : Prop := o.s3 = none ∧ o.s4 = none ∧ o.headerProtectionKey = none

/-- The pool is plain, or neither it nor the topology sets a field without a label. -/
def PoolLabelled (mesh : MeshConfig) (pool : RoadwarriorPool) : Prop :=
  pool.plain ∨ Labelled pool.obfuscation ∧ Labelled mesh.obfuscation

variable {curve : Curve} {mesh : MeshConfig} {resolved : ResolvedSecrets} {pool : RoadwarriorPool}

theorem mem_obfuscationLines {o : Obfuscation} {line : String × String} :
    line ∈ obfuscationLines o ↔ ∃ field ∈ clientFields o, ∃ value, field.2 = some value ∧ line = (field.1, toString value) := by
  rw [obfuscationLines]
  split
  · rename_i nothing
    rw [nothing]
    simp [clientFields]
  · simp only [List.mem_filterMap, Option.map_eq_some_iff, Prod.exists, eq_comm (a := line)]

section lines

variable {config : ClientConfig} {o : Obfuscation} (lines : config.obfuscation = obfuscationLines o)

include lines

theorem says_labelled {label : String} {number : Option Nat} (listed : (label, number) ∈ clientFields o) {value : String}
    (set : number.map toString = some value) : config.Says (some label) value := by
  obtain ⟨number, rfl, rfl⟩ := Option.map_eq_some_iff.mp set
  refine ⟨(label, toString number), ?_, rfl, .inl rfl⟩
  rw [lines]
  exact mem_obfuscationLines.mpr ⟨_, listed, number, rfl, rfl⟩

theorem not_says_unlabelled (value : String) : ¬ config.Says none value := by
  intro said
  obtain ⟨line, member, _, named⟩ := said
  rw [lines] at member
  obtain ⟨field, listed, number, _, rfl⟩ := mem_obfuscationLines.mp member
  have label : field.1 ∈ (clientFields o).map Prod.fst := List.mem_map_of_mem listed
  exact (named.resolve_left nofun).2 label

/-- The lines say all that is set where nothing else is. -/
theorem exported_lines_iff : Exported config o ↔ Labelled o := by
  constructor
  · intro exported
    have unset (field : Option String) (listed : (none, field) ∈ sharedFields o) : field = none := by
      cases set : field with
      | none => rfl
      | some value => exact absurd (exported _ listed value set) (not_says_unlabelled lines value)
    have s3 := unset (o.s3.map (toString ·.toNat)) (by simp [sharedFields])
    have s4 := unset (o.s4.map (toString ·.toNat)) (by simp [sharedFields])
    exact ⟨Option.map_eq_none_iff.mp s3, Option.map_eq_none_iff.mp s4, unset _ (by simp [sharedFields])⟩
  · intro unset field listed value set
    obtain ⟨s3, s4, key⟩ := unset
    have known (label : String) (number : Option Nat) (named : (label, number) ∈ clientFields o)
        (same : field = (some label, number.map toString)) : config.Says field.1 value := by
      rw [same] at set ⊢
      exact says_labelled lines named set
    simp only [sharedFields, s3, s4, key, List.mem_cons, List.not_mem_nil, or_false, Option.map_none] at listed
    rcases listed with same | same | same | same | same | same | same | same | same
    · exact known "S1" (o.s1.map (·.toNat)) (by simp [clientFields]) (by rw [same, Option.map_map]; rfl)
    · exact known "S2" (o.s2.map (·.toNat)) (by simp [clientFields]) (by rw [same, Option.map_map]; rfl)
    · simp [same] at set
    · simp [same] at set
    · exact known "H1" (o.h1.map (·.toNat)) (by simp [clientFields]) (by rw [same, Option.map_map]; rfl)
    · exact known "H2" (o.h2.map (·.toNat)) (by simp [clientFields]) (by rw [same, Option.map_map]; rfl)
    · exact known "H3" (o.h3.map (·.toNat)) (by simp [clientFields]) (by rw [same, Option.map_map]; rfl)
    · exact known "H4" (o.h4.map (·.toNat)) (by simp [clientFields]) (by rw [same, Option.map_map]; rfl)
    · simp [same] at set

end lines

/-- What a client is handed says the obfuscation of the pool's interface. -/
theorem handed_lines (names : (mesh.roadwarriors.map (·.name)).Nodup) (listed : pool ∈ mesh.roadwarriors)
    {config : ClientConfig} (handed : Handed curve mesh resolved pool.name config) :
    config.obfuscation = obfuscationLines (roadwarriorInterface resolved pool).obfuscation := by
  cases handed with
  | added asked ok exported =>
    obtain ⟨found, privateKey, steps⟩ := add_ok ok
    obtain ⟨server, side, rfl⟩ := steps.config _ _ exported
    have isPool := steps.found
    rw [asked] at isPool
    cases findPool_eq names listed isPool
    exact congrArg obfuscationLines (serverSide_ok side).2.2
  | inspected ok =>
    obtain ⟨found, index, client, server, key, isPool, _, _, side, _, rfl⟩ := inspect_ok ok
    cases findPool_eq names listed isPool
    exact congrArg obfuscationLines (serverSide_ok side).2.2

/-- Nothing is generated for the fields that have no label. -/
theorem labelled_settled (draws : Draws) (mesh : MeshConfig) (pool : RoadwarriorPool) (position : Nat) :
    Labelled (resolvePoolObfuscation draws mesh pool position).1 ↔ PoolLabelled mesh pool := by
  rw [resolvePoolObfuscation, resolveUnlessPlain, PoolLabelled]
  cases pool.plain with
  | true => simp [Labelled]
  | false =>
    simp only [Labelled, resolveObfuscation, joinFields, orElse, generate, Bool.false_eq_true, if_false, false_or,
      Option.or_eq_none_iff, and_true]
    constructor
    · intro unset
      obtain ⟨⟨s3, s3'⟩, ⟨s4, s4'⟩, key, key'⟩ := unset
      exact ⟨⟨s3, s4, key⟩, s3', s4', key'⟩
    · intro unset
      obtain ⟨⟨s3, s4, key⟩, s3', s4', key'⟩ := unset
      exact ⟨⟨s3, s3'⟩, ⟨s4, s4'⟩, key, key'⟩

/-- Of a validated topology: a config that a client of a pool is handed has every shared
field of the pool's interface, exactly where those without a label are unset. -/
theorem exported_iff (accepted : validate mesh = .ok ()) {draws : Draws} (listed : pool ∈ mesh.roadwarriors)
    {nodeName : String} (hosts : nodeName ∈ pool.nodeHostnames) {cfg : AwgConfig}
    (rendered : renderAwgConfig curve mesh nodeName (resolve curve draws mesh).1 = .ok cfg) {iface : InterfaceEntry}
    (member : iface ∈ cfg.interfaces) (named : iface.name = "rw-" ++ pool.name) {config : ClientConfig}
    (handed : Handed curve mesh (resolve curve draws mesh).1 pool.name config) :
    Exported config iface.obfuscation ↔ PoolLabelled mesh pool := by
  have names := (validate_ok accepted).pools
  have alone : iface ∈ cfg.interfaces.filter (·.name = "rw-" ++ pool.name) := by
    simpa using ⟨member, named⟩
  rw [pool_interface names listed hosts rendered, List.mem_singleton] at alone
  obtain ⟨position, here⟩ := List.mem_iff_getElem?.mp listed
  have settled : iface.obfuscation = (resolvePoolObfuscation draws mesh pool position).1 := by
    rw [alone, roadwarriorInterface, (pool_secrets names curve draws here).2]
    rfl
  rw [exported_lines_iff (by rw [alone]; exact handed_lines names listed handed), settled]
  exact labelled_settled draws mesh pool position

/-! ### A pool with a size for the third junk -/

def saltedPhones (s3 : Option UInt16) : RoadwarriorPool := { phones with obfuscation := { s3 } }

def saltedMesh (s3 : Option UInt16) : MeshConfig := { phonesMesh with roadwarriors := [saltedPhones s3] }

def saltedSecrets (s3 : Option UInt16) : ResolvedSecrets := (resolve twoKeys twoDraws (saltedMesh s3)).1

/-- What the laptop is handed, and what the first node of the pool has. -/
theorem salted_sides (s3 : Option UInt16) (small : s3 = none ∨ s3 = some 20) :
    ∃ config cfg, inspect twoKeys (saltedMesh s3) (saltedSecrets s3) "phones" "laptop" none none = .ok config ∧
      renderAwgConfig twoKeys (saltedMesh s3) "node-a" (saltedSecrets s3) = .ok cfg := by
  have handed : (inspect twoKeys (saltedMesh s3) (saltedSecrets s3) "phones" "laptop" none none).isOk = true := by
    rcases small with rfl | rfl <;> decide +kernel
  have rendered : (renderAwgConfig twoKeys (saltedMesh s3) "node-a" (saltedSecrets s3)).isOk = true := by
    rcases small with rfl | rfl <;> decide +kernel
  obtain ⟨config, handed⟩ := exists_of_isOk handed
  obtain ⟨cfg, rendered⟩ := exists_of_isOk rendered
  exact ⟨config, cfg, handed, rendered⟩

theorem exported_unsalted : ∃ config, Handed twoKeys (saltedMesh none) (saltedSecrets none) "phones" config ∧
    Exported config (roadwarriorInterface (saltedSecrets none) (saltedPhones none)).obfuscation := by
  obtain ⟨config, cfg, handed, rendered⟩ := salted_sides none (.inl rfl)
  have accepted : validate (saltedMesh none) = .ok () := by decide
  have listed : saltedPhones none ∈ (saltedMesh none).roadwarriors := List.mem_singleton_self _
  have first : "node-a" ∈ (saltedPhones none).nodeHostnames := List.mem_cons_self ..
  have alone := pool_interface (validate_ok accepted).pools listed first rendered
  have member := List.mem_filter.mp (alone ▸ List.mem_singleton_self _)
  refine ⟨config, .inspected handed, ?_⟩
  apply (exported_iff accepted listed first rendered member.1 (of_decide_eq_true member.2) (.inspected handed)).mpr
  exact .inr ⟨⟨rfl, rfl, rfl⟩, rfl, rfl, rfl⟩

/-- The pool's interface has the size, the client's config has no line for it. -/
theorem not_exported_salted : ∃ config, validate (saltedMesh (some 20)) = .ok () ∧
    inspect twoKeys (saltedMesh (some 20)) (saltedSecrets (some 20)) "phones" "laptop" none none = .ok config ∧
    (roadwarriorInterface (saltedSecrets (some 20)) (saltedPhones (some 20))).obfuscation.s3 = some 20 ∧
    ¬ Exported config (roadwarriorInterface (saltedSecrets (some 20)) (saltedPhones (some 20))).obfuscation := by
  obtain ⟨config, cfg, handed, rendered⟩ := salted_sides (some 20) (.inr rfl)
  have accepted : validate (saltedMesh (some 20)) = .ok () := by decide
  have listed : saltedPhones (some 20) ∈ (saltedMesh (some 20)).roadwarriors := List.mem_singleton_self _
  have size : (roadwarriorInterface (saltedSecrets (some 20)) (saltedPhones (some 20))).obfuscation.s3 = some 20 := by
    decide +kernel
  refine ⟨config, accepted, handed, size, ?_⟩
  rw [exported_lines_iff (handed_lines (validate_ok accepted).pools listed (.inspected handed))]
  intro labelled
  cases size.symm.trans labelled.1

end Slipmesh.Taloscfg
