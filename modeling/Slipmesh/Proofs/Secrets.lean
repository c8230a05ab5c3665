import Slipmesh.Proofs.Topology
import Slipmesh.Taloscfg.Edit

/-! Secrets once drawn: a run records what it drew, and a later run over the result
draws nothing and resolves the same. -/

namespace Slipmesh.Taloscfg
open Library Common

/-! ### One obfuscation -/

@[simp] theorem orElse_eq {α : Type} (first second : Option α) : orElse first second = first.or second := rfl

/-- Once recorded, a drawn value stands in for what a later draw would give. -/
theorem recorded_field {α : Type} (specific global : Option α) (value later : α) :
    ((((unlessSet (specific.or global) (some value)).or specific).or global).or (some later)) =
      (specific.or global).or (some value) := by
  cases specific with
  | some set => rfl
  | none =>
    cases global with
    | some set => rfl
    | none => rfl

theorem recorded_field_set {α : Type} (specific global : Option α) (value later : α) :
    unlessSet (((unlessSet (specific.or global) (some value)).or specific).or global) (some later) = none := by
  cases specific with
  | some set => rfl
  | none =>
    cases global with
    | some set => rfl
    | none => rfl

@[simp] theorem unlessSet_none {α : Type} (first : Option α) : unlessSet first none = none := by
  cases first with
  | none => rfl
  | some set => rfl

/-- The fields set in `before` are those of `after`. -/
def ObfuscationKept (before after : Obfuscation) : Prop := joinFields orElse before after = after

theorem resolve_filled (specific global : Obfuscation) (draw later : Draw) :
    resolveObfuscation (fill specific (resolveObfuscation specific global draw).2) global later =
      ((resolveObfuscation specific global draw).1, {}) := by
  simp only [resolveObfuscation, joinFields, fill, generate, orElse_eq, unlessSet_none, recorded_field, recorded_field_set,
    Option.or_none]

theorem fill_nothing (specific : Obfuscation) : fill specific {} = specific := by
  simp only [fill, Option.none_or]

/-- The same for an entry that may be plain, whether or not something was drawn. -/
theorem resolveUnlessPlain_filled (plain : Bool) (specific global : Obfuscation) (draw later : Draw) :
    resolveUnlessPlain plain ((resolveUnlessPlain plain specific global draw).2.elim specific (fill specific)) global later =
      ((resolveUnlessPlain plain specific global draw).1, none) := by
  cases plain with
  | true => rfl
  | false =>
    have filled : ((resolveUnlessPlain false specific global draw).2.elim specific (fill specific)) =
        fill specific (resolveObfuscation specific global draw).2 := by
      simp only [resolveUnlessPlain, Bool.false_eq_true, if_false]
      split
      · rfl
      · rename_i nothing
        rw [not_not.mp nothing, fill_nothing]
        rfl
    rw [filled, resolveUnlessPlain, resolve_filled]
    simp [resolveUnlessPlain]

theorem filled_kept (plain : Bool) (specific global : Obfuscation) (draw : Draw) :
    ObfuscationKept specific ((resolveUnlessPlain plain specific global draw).2.elim specific (fill specific)) := by
  have keeps {α : Type} (specific other drawn : Option α) :
      specific.or ((unlessSet (specific.or other) drawn).or specific) = (unlessSet (specific.or other) drawn).or specific := by
    cases specific with
    | none => rfl
    | some set => rfl
  have same {α : Type} (specific : Option α) : specific.or specific = specific := by
    cases specific with
    | none => rfl
    | some set => rfl
  cases drawn : (resolveUnlessPlain plain specific global draw).2 with
  | none => simp only [ObfuscationKept, joinFields, orElse_eq, same, Option.elim_none]
  | some generated =>
    cases plain with
    | true => cases drawn
    | false =>
      have is_generated : generated = (resolveObfuscation specific global draw).2 := by
        simp only [resolveUnlessPlain, Bool.false_eq_true, if_false] at drawn
        split at drawn
        · exact (Option.some.inj drawn).symm
        · cases drawn
      rw [is_generated]
      simp only [ObfuscationKept, resolveObfuscation, joinFields, fill, orElse_eq, keeps, same, Option.elim_some]

/-! ### The entries -/

variable (curve : Curve) (draws later : Draws) (topology : MeshConfig)

def recordedNode (node : NodeEntry) (index : Nat) : NodeEntry :=
  (resolveNode curve draws node index).2.elim node (recordNode · node)

def recordedLink (link : MeshLink) (index : Nat) : MeshLink :=
  (resolveLink draws topology link index).2.elim link (recordLink · link)

def recordedPool (pool : RoadwarriorPool) (index : Nat) : RoadwarriorPool :=
  (mintedPool curve draws topology pool index).elim pool (recordPool · pool)

theorem recordedNode_eq (node : NodeEntry) (index : Nat) : recordedNode curve draws node index =
    { node with meshPrivateKey := (resolveNode curve draws node index).2.or node.meshPrivateKey } := by
  unfold recordedNode
  cases (resolveNode curve draws node index).2 with
  | none => rfl
  | some key => rfl

theorem recordedLink_eq (link : MeshLink) (index : Nat) : recordedLink draws topology link index =
    { link with obfuscation := (resolveLink draws topology link index).2.elim link.obfuscation (fill link.obfuscation) } := by
  unfold recordedLink
  cases (resolveLink draws topology link index).2 with
  | none => rfl
  | some generated => rfl

theorem recordedPool_eq (pool : RoadwarriorPool) (index : Nat) : recordedPool curve draws topology pool index =
    { pool with
      privateKey := (resolvePoolKey curve draws pool index).2.or pool.privateKey
      obfuscation := (resolvePoolObfuscation draws topology pool index).2.elim pool.obfuscation (fill pool.obfuscation) } := by
  unfold recordedPool mintedPool
  cases (resolvePoolKey curve draws pool index).2 with
  | some key => rfl
  | none =>
    cases (resolvePoolObfuscation draws topology pool index).2 with
    | some generated => rfl
    | none => rfl

theorem resolveKey_recorded (specific : Option String) (secret other : Key) :
    resolveKey curve ((resolveKey curve specific secret).2.or specific) other = ((resolveKey curve specific secret).1, none) := by
  cases specific with
  | none => rfl
  | some key => rfl

theorem resolveNode_recorded (node : NodeEntry) (index : Nat) :
    resolveNode curve later (recordedNode curve draws node index) index = ((resolveNode curve draws node index).1, none) := by
  rw [recordedNode_eq]
  exact resolveKey_recorded curve node.meshPrivateKey _ _

@[simp] theorem recordedNode_name (node : NodeEntry) (index : Nat) :
    (recordedNode curve draws node index).name = node.name := by
  rw [recordedNode_eq]

@[simp] theorem recordedLink_pair (link : MeshLink) (index : Nat) :
    (recordedLink draws topology link index).pair = link.pair := by
  rw [recordedLink_eq]

@[simp] theorem recordedPool_name (pool : RoadwarriorPool) (index : Nat) :
    (recordedPool curve draws topology pool index).name = pool.name := by
  rw [recordedPool_eq]

/-! ### The whole topology -/

/-- The topology with everything recorded that was drawn for it. -/
def recorded : MeshConfig :=
  { topology with
    nodes := topology.nodes.zipIdx.map fun (node, index) => recordedNode curve draws node index
    links := topology.links.zipIdx.map fun (link, index) => recordedLink draws topology link index
    roadwarriors := topology.roadwarriors.zipIdx.map fun (pool, index) => recordedPool curve draws topology pool index }

private theorem nodes_recorded : (resolve curve draws topology).2.nodeKeys.foldlM recordNodeAt topology.nodes =
    .ok (recorded curve draws topology).nodes := by
  have written := foldlM_products recordNodeAt
    (fun node index => (resolveNode curve draws node index).2.map (index, ·)) (fun minted => recordNode minted.2)
    (fun _ => True) topology.nodes ?_ trivial
  · rw [resolve, written, recorded]
    congr 1
    apply List.map_congr_left
    intro entry _
    obtain ⟨node, index⟩ := entry
    simp only [recordedNode]
    cases (resolveNode curve draws node index).2 with
    | none => rfl
    | some key => rfl
  · intro done node rest product _ produced
    obtain ⟨key, drawn, rfl⟩ := Option.map_eq_some_iff.mp produced
    exact ⟨modifyAt_middle EditError.noNode done node rest (recordNode key), trivial⟩

private theorem links_recorded : (resolve curve draws topology).2.linkObfuscation.foldlM recordLinkAt topology.links =
    .ok (recorded curve draws topology).links := by
  have written := foldlM_products recordLinkAt
    (fun link index => (resolveLink draws topology link index).2.map (index, ·)) (fun minted => recordLink minted.2)
    (fun _ => True) topology.links ?_ trivial
  · rw [resolve, written, recorded]
    congr 1
    apply List.map_congr_left
    intro entry _
    obtain ⟨link, index⟩ := entry
    simp only [recordedLink]
    cases (resolveLink draws topology link index).2 with
    | none => rfl
    | some generated => rfl
  · intro done link rest product _ produced
    obtain ⟨generated, drawn, rfl⟩ := Option.map_eq_some_iff.mp produced
    exact ⟨modifyAt_middle EditError.noLink done link rest (recordLink generated), trivial⟩

theorem mintedPool_name {pool : RoadwarriorPool} {index : Nat} {minted : PoolMinted}
    (drawn : mintedPool curve draws topology pool index = some minted) : minted.name = pool.name := by
  simp only [mintedPool] at drawn
  split at drawn
  · cases drawn
    rfl
  · cases drawn

private theorem pools_recorded (names : (topology.roadwarriors.map (·.name)).Nodup) :
    (resolve curve draws topology).2.pools.foldlM recordPoolNamed topology.roadwarriors =
      .ok (recorded curve draws topology).roadwarriors := by
  refine foldlM_products recordPoolNamed (mintedPool curve draws topology) recordPool
    (fun pools => (pools.map (·.name)).Nodup) topology.roadwarriors ?_ names
  intro done pool rest minted distinct drawn
  have named := mintedPool_name curve draws topology drawn
  have found : (done ++ pool :: rest).findIdx? (·.name = minted.name) = some done.length := by
    rw [List.map_append, List.map_cons] at distinct
    have before : done.findIdx? (·.name = minted.name) = none := by
      rw [List.findIdx?_eq_none_iff]
      intro other member
      have apart := (List.nodup_append.mp distinct).2.2 other.name (List.mem_map_of_mem member) pool.name
        (List.mem_cons_self ..)
      simpa [named] using apart
    rw [List.findIdx?_append, before]
    simp [List.findIdx?_cons, named]
  refine ⟨?_, ?_⟩
  · rw [recordPoolNamed, found]
    exact modifyAt_middle _ done pool rest (recordPool minted)
  · simpa [recordPool] using distinct

theorem record_minted (names : (topology.roadwarriors.map (·.name)).Nodup) :
    record topology (resolve curve draws topology).2 = .ok (recorded curve draws topology) := by
  rw [record, nodes_recorded, links_recorded, pools_recorded curve draws topology names]
  rfl

theorem resolveLink_recorded (link : MeshLink) (index : Nat) :
    resolveLink later (recorded curve draws topology) (recordedLink draws topology link index) index =
      ((resolveLink draws topology link index).1, none) := by
  rw [recordedLink_eq]
  exact resolveUnlessPlain_filled link.plain link.obfuscation topology.obfuscation _ _

theorem resolvePoolKey_recorded (pool : RoadwarriorPool) (index : Nat) :
    resolvePoolKey curve later (recordedPool curve draws topology pool index) index =
      ((resolvePoolKey curve draws pool index).1, none) := by
  rw [recordedPool_eq]
  exact resolveKey_recorded curve pool.privateKey _ _

theorem resolvePoolObfuscation_recorded (pool : RoadwarriorPool) (index : Nat) :
    resolvePoolObfuscation later (recorded curve draws topology) (recordedPool curve draws topology pool index) index =
      ((resolvePoolObfuscation draws topology pool index).1, none) := by
  rw [recordedPool_eq]
  exact resolveUnlessPlain_filled pool.plain pool.obfuscation topology.obfuscation _ _

/-- The second run resolves what the first one did. -/
theorem secrets_recorded : (resolve curve later (recorded curve draws topology)).1 = (resolve curve draws topology).1 := by
  have nodes {β : Type} (read : NodeEntry → Nat → β) :
      ((recorded curve draws topology).nodes.zipIdx.map fun (node, index) => read node index) =
        topology.nodes.zipIdx.map fun (node, index) => read (recordedNode curve draws node index) index :=
    zipIdx_map_zipIdx _ _ _
  have links {β : Type} (read : MeshLink → Nat → β) :
      ((recorded curve draws topology).links.zipIdx.map fun (link, index) => read link index) =
        topology.links.zipIdx.map fun (link, index) => read (recordedLink draws topology link index) index :=
    zipIdx_map_zipIdx _ _ _
  have pools {β : Type} (read : RoadwarriorPool → Nat → β) :
      ((recorded curve draws topology).roadwarriors.zipIdx.map fun (pool, index) => read pool index) =
        topology.roadwarriors.zipIdx.map fun (pool, index) => read (recordedPool curve draws topology pool index) index :=
    zipIdx_map_zipIdx _ _ _
  have nodeKeys := nodes fun node index => (node.name, (resolveNode curve later node index).1)
  have linkObfuscation := links fun link index =>
    (linkKey link.pair, (resolveLink later (recorded curve draws topology) link index).1)
  have poolKeys := pools fun pool index => (pool.name, (resolvePoolKey curve later pool index).1)
  have poolObfuscation := pools fun pool index =>
    (pool.name, (resolvePoolObfuscation later (recorded curve draws topology) pool index).1)
  simp only [recordedNode_name, resolveNode_recorded] at nodeKeys
  simp only [recordedLink_pair, resolveLink_recorded] at linkObfuscation
  simp only [recordedPool_name, resolvePoolKey_recorded] at poolKeys
  simp only [recordedPool_name, resolvePoolObfuscation_recorded] at poolObfuscation
  simp only [resolve, nodeKeys, linkObfuscation, poolKeys, poolObfuscation]

/-- The second run draws nothing. -/
theorem minted_recorded : (resolve curve later (recorded curve draws topology)).2 = {} := by
  have nodes {β : Type} (value : NodeEntry → Nat → String → β) :
      ((recorded curve draws topology).nodes.zipIdx.filterMap fun (node, index) =>
        (resolveNode curve later node index).2.map (value node index)) = [] := by
    rw [List.filterMap_eq_nil_iff]
    intro entry member
    obtain ⟨node, index⟩ := entry
    obtain ⟨before, rfl⟩ := mem_zipIdx_map member
    simp only [resolveNode_recorded, Option.map_none]
  have links {β : Type} (value : MeshLink → Nat → Obfuscation → β) :
      ((recorded curve draws topology).links.zipIdx.filterMap fun (link, index) =>
        (resolveLink later (recorded curve draws topology) link index).2.map (value link index)) = [] := by
    rw [List.filterMap_eq_nil_iff]
    intro entry member
    obtain ⟨link, index⟩ := entry
    obtain ⟨before, rfl⟩ := mem_zipIdx_map member
    simp only [resolveLink_recorded, Option.map_none]
  have pools : ((recorded curve draws topology).roadwarriors.zipIdx.filterMap fun (pool, index) =>
      mintedPool curve later (recorded curve draws topology) pool index) = [] := by
    rw [List.filterMap_eq_nil_iff]
    intro entry member
    obtain ⟨pool, index⟩ := entry
    obtain ⟨before, rfl⟩ := mem_zipIdx_map member
    simp [mintedPool, resolvePoolKey_recorded, resolvePoolObfuscation_recorded]
  have names : mintedNames curve later (recorded curve draws topology) = [] := by
    have poolNames : ((recorded curve draws topology).roadwarriors.zipIdx.flatMap fun (pool, index) =>
        ((resolvePoolKey curve later pool index).2.map fun _ =>
          "roadwarriors[" ++ pool.name ++ "].private_key").toList ++
        ((resolvePoolObfuscation later (recorded curve draws topology) pool index).2.map fun _ =>
          "roadwarriors[" ++ pool.name ++ "].obfuscation").toList) = [] := by
      rw [List.flatMap_eq_nil_iff]
      intro entry member
      obtain ⟨pool, index⟩ := entry
      obtain ⟨before, rfl⟩ := mem_zipIdx_map member
      simp [resolvePoolKey_recorded, resolvePoolObfuscation_recorded]
    have nodeNames := nodes fun node _ _ => "nodes[" ++ node.name ++ "].mesh_private_key"
    have linkNames := links fun link _ _ => "mesh.links[" ++ linkKey link.pair ++ "].obfuscation"
    simp only [mintedNames, nodeNames, linkNames, poolNames, List.append_nil]
  have nodeKeys := nodes fun _ index key => (index, key)
  have linkObfuscation := links fun _ index generated => (index, generated)
  simp only [resolve, nodeKeys, linkObfuscation, pools, names]

/-! ### What a run drew -/

/-- One value that a run drew, with the entry it belongs to. -/
inductive Secret where
  | nodeKey (index : Nat) (key : String)
  | linkObfuscation (index : Nat) (generated : Obfuscation)
  | poolKey (name key : String)
  | poolObfuscation (name : String) (generated : Obfuscation)
deriving DecidableEq, Repr

def PoolMinted.secrets (minted : PoolMinted) : List Secret :=
  (minted.privateKey.map (.poolKey minted.name)).toList ++ (minted.obfuscation.map (.poolObfuscation minted.name)).toList

def Minted.secrets (minted : Minted) : List Secret :=
  minted.nodeKeys.map (fun (index, key) => .nodeKey index key) ++
    minted.linkObfuscation.map (fun (index, generated) => .linkObfuscation index generated) ++
    minted.pools.flatMap PoolMinted.secrets

/-- The topology sets the value where it belongs; obfuscation is set when filling it in
again changes nothing. -/
def Secret.SetIn (topology : MeshConfig) : Secret → Prop
  | .nodeKey index key => ∃ node, topology.nodes[index]? = some node ∧ node.meshPrivateKey = some key
  | .linkObfuscation index generated =>
    ∃ link, topology.links[index]? = some link ∧ fill link.obfuscation generated = link.obfuscation
  | .poolKey name key => ∃ pool ∈ topology.roadwarriors, pool.name = name ∧ pool.privateKey = some key
  | .poolObfuscation name generated =>
    ∃ pool ∈ topology.roadwarriors, pool.name = name ∧ fill pool.obfuscation generated = pool.obfuscation

theorem fill_fill (entry generated : Obfuscation) : fill (fill entry generated) generated = fill entry generated := by
  simp only [fill, Option.or_self, ← Option.or_assoc]

theorem getElem?_zipIdx_map {α β : Type} (change : α → Nat → β) {items : List α} {item : α} {index : Nat}
    (held : (item, index) ∈ items.zipIdx) :
    (items.zipIdx.map fun (item, index) => change item index)[index]? = some (change item index) := by
  rw [List.mk_mem_zipIdx_iff_getElem?] at held
  simp [held]

theorem secrets_set : ∀ secret ∈ (resolve curve draws topology).2.secrets, secret.SetIn (recorded curve draws topology) := by
  intro secret member
  simp only [Minted.secrets, List.mem_append, List.mem_map, List.mem_flatMap] at member
  rcases member with (⟨⟨index, key⟩, drawn, rfl⟩ | ⟨⟨index, generated⟩, drawn, rfl⟩) | ⟨minted, drawn, part⟩
  · obtain ⟨⟨node, position⟩, held, produced⟩ := List.mem_filterMap.mp drawn
    obtain ⟨key, minted, same⟩ := Option.map_eq_some_iff.mp produced
    cases same
    refine ⟨_, getElem?_zipIdx_map _ held, ?_⟩
    simp [recordedNode, minted, recordNode]
  · obtain ⟨⟨link, position⟩, held, produced⟩ := List.mem_filterMap.mp drawn
    obtain ⟨generated, minted, same⟩ := Option.map_eq_some_iff.mp produced
    cases same
    refine ⟨_, getElem?_zipIdx_map _ held, ?_⟩
    simp [recordedLink, minted, recordLink, fill_fill]
  · obtain ⟨⟨pool, position⟩, held, produced⟩ := List.mem_filterMap.mp drawn
    have recorded_pool : recordPool minted pool ∈ (recorded curve draws topology).roadwarriors := by
      have same : recordedPool curve draws topology pool position = recordPool minted pool := by
        have drawn : mintedPool curve draws topology pool position = some minted := produced
        rw [recordedPool, drawn]
        rfl
      rw [← same]
      exact List.mem_of_getElem? (getElem?_zipIdx_map (recordedPool curve draws topology) held)
    have named := mintedPool_name curve draws topology produced
    rcases List.mem_append.mp part with drawn | drawn
    · obtain ⟨key, minted_key, rfl⟩ := Option.map_eq_some_iff.mp (Option.mem_toList.mp drawn)
      exact ⟨_, recorded_pool, named.symm, by simp [recordPool, minted_key]⟩
    · obtain ⟨generated, minted_obfuscation, rfl⟩ := Option.map_eq_some_iff.mp (Option.mem_toList.mp drawn)
      exact ⟨_, recorded_pool, named.symm, by simp [recordPool, minted_obfuscation, fill_fill]⟩

/-- Nothing is drawn without a name for it. -/
theorem secrets_named (unnamed : (resolve curve draws topology).2.isEmpty) : (resolve curve draws topology).2.secrets = [] := by
  have none_named : mintedNames curve draws topology = [] := List.isEmpty_iff.mp unnamed
  simp only [mintedNames, List.append_eq_nil_iff, List.filterMap_eq_nil_iff, List.flatMap_eq_nil_iff, Prod.forall,
    Option.map_eq_none_iff, Option.toList_eq_nil_iff] at none_named
  obtain ⟨⟨nodes, links⟩, pools⟩ := none_named
  have nodeKeys : (resolve curve draws topology).2.nodeKeys = [] := by
    rw [resolve, List.filterMap_eq_nil_iff]
    intro (node, index) member
    simp [nodes node index member]
  have linkObfuscation : (resolve curve draws topology).2.linkObfuscation = [] := by
    rw [resolve, List.filterMap_eq_nil_iff]
    intro (link, index) member
    simp [links link index member]
  have mintedPools : (resolve curve draws topology).2.pools = [] := by
    rw [resolve, List.filterMap_eq_nil_iff]
    intro (pool, index) member
    simp [mintedPool, pools pool index member]
  simp only [Minted.secrets, nodeKeys, linkObfuscation, mintedPools, List.map_nil, List.flatMap_nil, List.append_nil]

/-- A name says more than nothing. -/
theorem mintedNames_ne_empty : "" ∉ mintedNames curve draws topology := by
  intro member
  simp only [mintedNames, List.mem_append, List.mem_filterMap, List.mem_flatMap, Option.map_eq_some_iff, Option.mem_toList,
    Prod.exists] at member
  rcases member with (⟨node, index, -, key, -, empty⟩ | ⟨link, index, -, generated, -, empty⟩) |
    ⟨pool, index, -, ⟨key, -, empty⟩ | ⟨generated, -, empty⟩⟩
  all_goals simp [String.append_eq_empty_iff] at empty

/-! ### What recording keeps -/

/-- Nothing but secrets differs, and no secret that was set. -/
structure Keeps (before after : MeshConfig) : Prop where
  rest : { after with nodes := before.nodes, links := before.links, roadwarriors := before.roadwarriors } = before
  nodes : before.nodes.Forall₂ (fun b a => { a with meshPrivateKey := b.meshPrivateKey } = b ∧
    ∀ key ∈ b.meshPrivateKey, a.meshPrivateKey = some key) after.nodes
  links : before.links.Forall₂ (fun b a => { a with obfuscation := b.obfuscation } = b ∧
    ObfuscationKept b.obfuscation a.obfuscation) after.links
  pools : before.roadwarriors.Forall₂ (fun b a => { a with privateKey := b.privateKey, obfuscation := b.obfuscation } = b ∧
    (∀ key ∈ b.privateKey, a.privateKey = some key) ∧ ObfuscationKept b.obfuscation a.obfuscation) after.roadwarriors

theorem recorded_keeps : Keeps topology (recorded curve draws topology) := by
  refine ⟨rfl, ?_, ?_, ?_⟩
  · apply forall₂_zipIdx
    intro node index
    rw [recordedNode_eq]
    refine ⟨rfl, ?_⟩
    intro key given
    have set : node.meshPrivateKey = some key := given
    simp [resolveNode, resolveKey, set]
  · apply forall₂_zipIdx
    intro link index
    rw [recordedLink_eq]
    exact ⟨rfl, filled_kept _ _ _ _⟩
  · apply forall₂_zipIdx
    intro pool index
    rw [recordedPool_eq]
    refine ⟨rfl, ?_, filled_kept _ _ _ _⟩
    intro key given
    have set : pool.privateKey = some key := given
    simp [resolvePoolKey, resolveKey, set]

/-- Of a validated topology: what a run draws is recorded without touching a field
that was set, and whatever a later run draws, it mints nothing and resolves the same. -/
theorem resolve_once (accepted : validate topology = .ok ()) :
    ∃ after, record topology (resolve curve draws topology).2 = .ok after ∧ Keeps topology after ∧
      ∀ later, resolve curve later after = ((resolve curve draws topology).1, {}) := by
  refine ⟨recorded curve draws topology, record_minted curve draws topology (validate_ok accepted).pools,
    recorded_keeps curve draws topology, ?_⟩
  intro later
  exact Prod.ext (secrets_recorded curve draws later topology) (minted_recorded curve draws later topology)

/-- A node without a key, a link and a pool with some of their fields set. -/
private def partlySet : MeshConfig :=
  { cluster := { loopbackNetworks := ⟨"10.62.0.0/16", "fd00:62::/32"⟩ }
    obfuscation := { h1 := some 42 }
    nodes := [{ name := "a", nodeId := "10.62.0.1" }, { name := "b", nodeId := "10.62.0.2", meshPrivateKey := some setText }]
    links := [{ pair := ("b", "a"), port := 51820, obfuscation := { jc := some 9 } }]
    roadwarriors := [{ name := "phones", nodeHostnames := ["a"], address := "10.99.0.1/24", listenPort := 51900, plain := true }] }

/-- The key of a node, the rest of a link's obfuscation and the key of a pool are minted. -/
theorem resolve_once_partlySet :
    (resolve twoKeys twoDraws partlySet).2.nodeKeys = [(0, drawnText)] ∧
    (resolve twoKeys twoDraws partlySet).2.names =
      ["nodes[a].mesh_private_key", "mesh.links[a|b].obfuscation", "roadwarriors[phones].private_key"] ∧
    ∃ after, record partlySet (resolve twoKeys twoDraws partlySet).2 = .ok after ∧ Keeps partlySet after ∧
      ∀ later, resolve twoKeys later after = ((resolve twoKeys twoDraws partlySet).1, {}) :=
  ⟨by decide +kernel, by decide +kernel, resolve_once twoKeys twoDraws partlySet (by decide)⟩

end Slipmesh.Taloscfg
