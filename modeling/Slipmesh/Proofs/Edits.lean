import Slipmesh.Proofs.AddedClient
import Slipmesh.Taloscfg.Overlay

/-! The edits of the documents, each read into a struct and written back, are those of
the topology that the documents hold. -/

namespace Slipmesh.Taloscfg
open Common Library Yaml

/-! ### What the structs say of an entry -/

def GeneratedObfuscation.of (entry : Obfuscation) : GeneratedObfuscation where
  jc := entry.jc
  jmin := entry.jmin
  jmax := entry.jmax
  s1 := entry.s1
  s2 := entry.s2
  h1 := entry.h1
  h2 := entry.h2
  h3 := entry.h3
  h4 := entry.h4

/-- The entry with the fields that are set written into it. -/
def GeneratedObfuscation.onto (fields : GeneratedObfuscation) (entry : Obfuscation) : Obfuscation :=
  { entry with
    jc := fields.jc.or entry.jc
    jmin := fields.jmin.or entry.jmin
    jmax := fields.jmax.or entry.jmax
    s1 := fields.s1.or entry.s1
    s2 := fields.s2.or entry.s2
    h1 := fields.h1.or entry.h1
    h2 := fields.h2.or entry.h2
    h3 := fields.h3.or entry.h3
    h4 := fields.h4.or entry.h4 }

theorem onto_of (entry : Obfuscation) : (GeneratedObfuscation.of entry).onto entry = entry := by
  simp [GeneratedObfuscation.of, GeneratedObfuscation.onto]

theorem onto_fill (fields : GeneratedObfuscation) (generated entry : Obfuscation) :
    (fields.fill generated).onto entry = fill (fields.onto entry) generated := by
  simp only [GeneratedObfuscation.fill, GeneratedObfuscation.onto, fill, Option.or_assoc]

/-- What is read of an `obfuscation`, where the document may lack it. -/
def Reads (fields : Option GeneratedObfuscation) (entry : Obfuscation) : Prop := fields.elim (entry = {}) (· = .of entry)

def writtenOnto (fields : Option GeneratedObfuscation) (entry : Obfuscation) : Obfuscation := fields.elim entry (·.onto entry)

theorem Reads.writtenOnto {fields : Option GeneratedObfuscation} {entry : Obfuscation} (reads : Reads fields entry) :
    writtenOnto fields entry = entry := by
  cases fields with
  | none => rfl
  | some fields =>
    cases reads
    exact onto_of entry

theorem Reads.fill {fields : Option GeneratedObfuscation} {entry : Obfuscation} (reads : Reads fields entry)
    (generated : Obfuscation) : Reads (some ((fields.getD {}).fill generated)) (fill entry generated) := by
  cases fields with
  | none =>
    cases reads
    rfl
  | some fields =>
    cases reads
    rfl

theorem writtenOnto_fill (fields : Option GeneratedObfuscation) (generated entry : Obfuscation) :
    writtenOnto (some ((fields.getD {}).fill generated)) entry = fill (writtenOnto fields entry) generated := by
  cases fields with
  | none => exact onto_fill {} generated entry
  | some fields => exact onto_fill fields generated entry

/-! ### The structs of an entry -/

def NodeFields.Reads (fields : NodeFields) (node : NodeEntry) : Prop := fields.meshPrivateKey = node.meshPrivateKey

def NodeFields.onto (fields : NodeFields) (node : NodeEntry) : NodeEntry :=
  { node with meshPrivateKey := fields.meshPrivateKey.or node.meshPrivateKey }

theorem NodeFields.Reads.onto {fields : NodeFields} {node : NodeEntry} (reads : fields.Reads node) : fields.onto node = node := by
  rw [NodeFields.Reads] at reads
  rw [NodeFields.onto, reads, Option.or_self]

def LinkFields.Reads (fields : LinkFields) (link : MeshLink) : Prop := Taloscfg.Reads fields.obfuscation link.obfuscation

def LinkFields.onto (fields : LinkFields) (link : MeshLink) : MeshLink :=
  { link with obfuscation := writtenOnto fields.obfuscation link.obfuscation }

theorem LinkFields.Reads.onto {fields : LinkFields} {link : MeshLink} (reads : fields.Reads link) : fields.onto link = link := by
  have same := Taloscfg.Reads.writtenOnto reads
  rw [LinkFields.onto, same]

theorem LinkFields.onto_fill (generated : Obfuscation) (fields : LinkFields) (link : MeshLink) :
    (fields.fill generated).onto link = recordLink generated (fields.onto link) :=
  congrArg (fun obfuscation => { link with obfuscation }) (writtenOnto_fill fields.obfuscation generated link.obfuscation)

structure PoolDocument.Reads (fields : PoolDocument) (pool : RoadwarriorPool) : Prop where
  privateKey : fields.privateKey = pool.privateKey
  obfuscation : Taloscfg.Reads fields.obfuscation pool.obfuscation

def PoolDocument.onto (fields : PoolDocument) (pool : RoadwarriorPool) : RoadwarriorPool :=
  { pool with
    privateKey := fields.privateKey.or pool.privateKey
    obfuscation := writtenOnto fields.obfuscation pool.obfuscation }

theorem PoolDocument.Reads.fill {fields : PoolDocument} {pool : RoadwarriorPool} (reads : fields.Reads pool) (minted : PoolMinted) :
    (fields.fill minted).Reads (recordPool minted pool) := by
  obtain ⟨key, obfuscation⟩ := reads
  refine ⟨congrArg (minted.privateKey.or ·) key, ?_⟩
  rw [PoolDocument.fill, recordPool]
  cases minted.obfuscation with
  | none => exact obfuscation
  | some generated => exact obfuscation.fill generated

theorem PoolDocument.onto_fill {fields : PoolDocument} {pool : RoadwarriorPool} (reads : fields.Reads pool) (minted : PoolMinted) :
    (fields.fill minted).onto pool = recordPool minted pool := by
  obtain ⟨key, obfuscation⟩ := reads
  have filled : writtenOnto (fields.fill minted).obfuscation pool.obfuscation =
      minted.obfuscation.elim pool.obfuscation (Taloscfg.fill pool.obfuscation) := by
    rw [PoolDocument.fill]
    cases minted.obfuscation with
    | none => exact obfuscation.writtenOnto
    | some generated =>
      rw [writtenOnto_fill, obfuscation.writtenOnto]
      rfl
  rw [PoolDocument.onto, recordPool, filled, PoolDocument.fill, key, Option.or_assoc, Option.or_self]

def NetworkDocument.links (fields : NetworkDocument) : List LinkFields := fields.mesh.elim [] (·.links)

structure NetworkDocument.Reads (fields : NetworkDocument) (network : MeshConfig) : Prop where
  nodes : fields.nodes.Forall₂ NodeFields.Reads network.nodes
  links : fields.links.Forall₂ LinkFields.Reads network.links

def NetworkDocument.onto (fields : NetworkDocument) (network : MeshConfig) : MeshConfig :=
  { network with
    nodes := List.zipWith NodeFields.onto fields.nodes network.nodes
    links := List.zipWith LinkFields.onto fields.links network.links }

/-! ### What the documents hold -/

/-- The network, and the pools with the positions of their documents. -/
structure Holding where
  networkDocument : Nat
  network : MeshConfig
  pools : List (Nat × RoadwarriorPool)
  distinct : (pools.map Prod.fst).Nodup

def Holding.topology (holding : Holding) : MeshConfig :=
  { holding.network with roadwarriors := holding.pools.map Prod.snd }

/-- Where the pool of each name stands. -/
def Holding.directory (holding : Holding) : List (Nat × String) := holding.pools.map fun entry => (entry.1, entry.2.name)

theorem Holding.directory_names (holding : Holding) :
    holding.directory.map Prod.snd = holding.topology.roadwarriors.map (·.name) := by
  simp only [Holding.directory, Holding.topology, List.map_map, Function.comp_def]

def Holding.atNetwork (holding : Holding) (change : MeshConfig → MeshConfig) : Holding :=
  { holding with network := change holding.network }

def Holding.atPool (holding : Holding) (document : Nat) (change : RoadwarriorPool → RoadwarriorPool) : Holding :=
  { holding with
    pools := holding.pools.map fun entry => (entry.1, if entry.1 = document then change entry.2 else entry.2)
    distinct := by
      rw [List.map_map]
      exact holding.distinct }

/-- The hosts that a network names. -/
def MeshConfig.hosts (mesh : MeshConfig) : List String := mesh.nodes.map (·.name)

/-- The file that is read of the documents. -/
structure Holding.Of (holding : Holding) (file : SlipmeshFile) : Prop where
  topology : file.topology = holding.topology
  hosts : file.hosts = holding.network.hosts
  network : file.networkIndex = holding.networkDocument
  pools : (file.pools.map fun document => (document.index, (document.value.get "name").bind Value.asStr)) =
    holding.directory.map fun entry => (entry.1, some entry.2)

variable {Doc : Type}

/-- What the YAML library does of what it says, on a text of whole lines: what is written is
what reads back, where nothing is unset that was set and no item moves, and its lines stay whole. -/
structure Editor.Lawful (curve : Curve) (editor : Editor Doc) (holds : Doc → Holding) (whole : Doc → Prop) : Prop where
  readNetwork : ∀ {yaml fields}, editor.network.read yaml (holds yaml).networkDocument = .ok fields →
    fields.Reads (holds yaml).network
  writeNetwork : ∀ {yaml fields edited}, whole yaml → fields.Reads (fields.onto (holds yaml).network) →
    editor.network.write yaml (holds yaml).networkDocument fields = .ok edited →
    whole edited ∧ holds edited = (holds yaml).atNetwork fields.onto
  readPool : ∀ {yaml document pool fields}, (document, pool) ∈ (holds yaml).pools →
    editor.pool.read yaml document = .ok fields → fields.Reads pool
  writePool : ∀ {yaml document pool fields edited}, whole yaml → (document, pool) ∈ (holds yaml).pools →
    fields.Reads (fields.onto pool) → editor.pool.write yaml document fields = .ok edited →
    whole edited ∧ holds edited = (holds yaml).atPool document fields.onto
  readClients : ∀ {yaml document pool fields}, (document, pool) ∈ (holds yaml).pools →
    editor.clients.read yaml document = .ok fields → fields.Reads curve pool.clients
  writeClients : ∀ {yaml document pool before fields clients edited}, whole yaml → (document, pool) ∈ (holds yaml).pools →
    editor.clients.read yaml document = .ok before → before.clients.getD [] <+: fields.clients.getD [] →
    fields.Reads curve clients → editor.clients.write yaml document fields = .ok edited →
    whole edited ∧ holds edited = (holds yaml).atPool document fun pool => { pool with clients }
  retainClients : ∀ {yaml document pool keep edited}, whole yaml → (document, pool) ∈ (holds yaml).pools →
    editor.retainClients yaml document keep = .ok (some edited) →
    whole edited ∧ holds edited = (holds yaml).atPool document fun pool =>
      { pool with clients := (pool.clients.zipIdx.filter fun entry => keep entry.2).map Prod.fst }
  commit : ∀ {yaml edited}, whole yaml → editor.commit yaml = .ok edited → whole edited ∧ holds edited = holds yaml

/-! ### What was minted -/

variable {curve : Curve} {editor : Editor Doc} {holds : Doc → Holding} {whole : Doc → Prop} {file : SlipmeshFile}
  {yaml edited : Doc}

/-- The structs of a loop, and the entries that they read as. -/
structure Overlaid {Fields Entry : Type} (reads : Fields → Entry → Prop) (onto : Fields → Entry → Entry)
    (before : List Entry) (fields : List Fields) (entries : List Entry) : Prop where
  reads : fields.Forall₂ reads entries
  entries : List.zipWith onto fields before = entries

theorem Overlaid.start {Fields Entry : Type} {reads : Fields → Entry → Prop} {onto : Fields → Entry → Entry}
    {before : List Entry} {fields : List Fields} (read : fields.Forall₂ reads before)
    (same : ∀ {fields entry}, reads fields entry → onto fields entry = entry) : Overlaid reads onto before fields before := by
  refine ⟨read, ?_⟩
  induction read with
  | nil => rfl
  | cons reads _ ih => rw [List.zipWith_cons_cons, same reads, ih]

/-- One entry is changed, and its struct with it. -/
theorem Overlaid.modify {Fields Entry : Type} {reads : Fields → Entry → Prop} {onto : Fields → Entry → Entry}
    {before : List Entry} {fields fields' : List Fields} {entries : List Entry}
    (overlaid : Overlaid reads onto before fields entries) {change : Fields → Fields} (change' : Entry → Entry)
    (keeps : ∀ fields entry, reads fields entry → reads (change fields) (change' entry))
    (commutes : ∀ fields entry, onto (change fields) entry = change' (onto fields entry)) {error : EditError} {position : Nat}
    (ok : modifyAt error fields position change = .ok fields') :
    ∃ entries', modifyAt error entries position change' = .ok entries' ∧ Overlaid reads onto before fields' entries' := by
  obtain ⟨inside, rfl⟩ := modifyAt_ok.mp ok
  have size := overlaid.reads.length_eq
  refine ⟨_, modifyAt_ok.mpr ⟨size ▸ inside, rfl⟩, forall₂_modify position keeps overlaid.reads, ?_⟩
  rw [zipWith_modify position commutes, overlaid.entries]

theorem fillNodes_edits {fields fields' : List NodeFields} {nodes before : List NodeEntry} {minted : List (Nat × String)}
    (overlaid : Overlaid NodeFields.Reads NodeFields.onto before fields nodes) (ok : minted.foldlM fillNode fields = .ok fields') :
    ∃ nodes', minted.foldlM recordNodeAt nodes = .ok nodes' ∧ Overlaid NodeFields.Reads NodeFields.onto before fields' nodes' := by
  refine foldlM_related (Overlaid NodeFields.Reads NodeFields.onto before) ?_ overlaid ok
  intro fields nodes item fields' overlaid filled
  exact overlaid.modify (recordNode item.2) (fun _ _ _ => rfl) (fun _ _ => rfl) filled

theorem fillLinks_edits {mesh mesh' : Option MeshFields} {links before : List MeshLink} {minted : List (Nat × Obfuscation)}
    (overlaid : Overlaid LinkFields.Reads LinkFields.onto before (mesh.elim [] (·.links)) links)
    (ok : minted.foldlM fillLink mesh = .ok mesh') :
    ∃ links', minted.foldlM recordLinkAt links = .ok links' ∧
      Overlaid LinkFields.Reads LinkFields.onto before (mesh'.elim [] (·.links)) links' := by
  refine foldlM_related (fun (mesh : Option MeshFields) links =>
    Overlaid LinkFields.Reads LinkFields.onto before (mesh.elim [] (·.links)) links) ?_ overlaid ok
  intro mesh links item mesh' overlaid filled
  simp only [fillLink, bind_ok, elim_ok, pure_ok] at filled
  obtain ⟨fields, rfl, filled', found, rfl⟩ := filled
  exact overlaid.modify (recordLink item.2) (fun _ _ reads => reads.fill item.2) (LinkFields.onto_fill item.2) found

/-- What is recorded in the network is what its entries would record. -/
theorem recordNetwork_edits (lawful : editor.Lawful curve holds whole) (lines : whole yaml) (is : (holds yaml).Of file)
    {minted : Minted} (ok : editor.recordNetwork file minted yaml = .ok edited) :
    ∃ nodes links, minted.nodeKeys.foldlM recordNodeAt (holds yaml).network.nodes = .ok nodes ∧
      minted.linkObfuscation.foldlM recordLinkAt (holds yaml).network.links = .ok links ∧
      whole edited ∧ holds edited = (holds yaml).atNetwork fun network => { network with nodes, links } := by
  rw [Editor.recordNetwork] at ok
  split at ok
  · rename_i nothing
    cases ok
    rw [nothing.1, nothing.2]
    exact ⟨_, _, rfl, rfl, lines, rfl⟩
  simp only [bind_ok, mapError_ok, is.network] at ok
  obtain ⟨fields, read, nodeFields, filled, mesh, filledMesh, wrote⟩ := ok
  have reads := lawful.readNetwork read
  obtain ⟨nodes, recorded, overlaid⟩ := fillNodes_edits (.start reads.nodes NodeFields.Reads.onto) filled
  obtain ⟨links, recordedLinks, overlaidLinks⟩ := fillLinks_edits (.start reads.links LinkFields.Reads.onto) filledMesh
  have onto : NetworkDocument.onto ⟨nodeFields, mesh⟩ (holds yaml).network = { (holds yaml).network with nodes, links } := by
    rw [NetworkDocument.onto, overlaid.entries, NetworkDocument.links, overlaidLinks.entries]
  have back : NetworkDocument.Reads ⟨nodeFields, mesh⟩ (NetworkDocument.onto ⟨nodeFields, mesh⟩ (holds yaml).network) := by
    rw [onto]
    exact ⟨overlaid.reads, overlaidLinks.reads⟩
  obtain ⟨lines, holdsEdited⟩ := lawful.writeNetwork lines back wrote
  refine ⟨nodes, links, recorded, recordedLinks, lines, ?_⟩
  rw [holdsEdited, Holding.atNetwork, onto]
  rfl

/-! ### The pools -/

/-- The documents stand where they stood, with the same network and pools of the same names. -/
structure Holding.Stays (before after : Holding) : Prop where
  networkDocument : after.networkDocument = before.networkDocument
  network : after.network = before.network
  directory : after.directory = before.directory

theorem poolDocument_eq (is : (holds yaml).Of file) (name : String) :
    file.poolDocument name = ((holds yaml).directory.find? (·.2 = name)).map Prod.fst := by
  have places := congrArg (fun entries => (entries.find? fun entry => entry.2 = some name).map Prod.fst) is.pools
  simp only [List.find?_map, Option.map_map] at places
  simpa [SlipmeshFile.poolDocument, Function.comp_def] using places

/-- The pool that stands at the place of a name. -/
theorem pool_at {holding : Holding} {name : String} {document : Nat}
    (found : (holding.directory.find? (·.2 = name)).map Prod.fst = some document) :
    ∃ pool, (document, pool) ∈ holding.pools ∧ pool.name = name := by
  obtain ⟨entry, first, rfl⟩ := Option.map_eq_some_iff.mp found
  obtain ⟨place, member, rfl⟩ := List.mem_map.mp (List.mem_of_find?_eq_some first)
  exact ⟨place.2, member, by simpa using List.find?_some first⟩

variable {holding : Holding} {document : Nat} {pool : RoadwarriorPool}

theorem at_document_iff (names : (holding.topology.roadwarriors.map (·.name)).Nodup) (member : (document, pool) ∈ holding.pools)
    {entry : Nat × RoadwarriorPool} (listed : entry ∈ holding.pools) : entry.1 = document ↔ entry.2.name = pool.name := by
  have named : (holding.pools.map fun entry => entry.2.name).Nodup := by simpa [Holding.topology, Function.comp_def] using names
  constructor
  · intro same
    rw [List.inj_on_of_nodup_map holding.distinct listed member same]
  · intro same
    rw [List.inj_on_of_nodup_map named listed member same]

theorem atPool_roadwarriors (names : (holding.topology.roadwarriors.map (·.name)).Nodup) (member : (document, pool) ∈ holding.pools)
    (change : RoadwarriorPool → RoadwarriorPool) : (holding.atPool document change).topology.roadwarriors =
      holding.topology.roadwarriors.map fun other => if other.name = pool.name then change other else other := by
  simp only [Holding.topology, Holding.atPool, List.map_map]
  apply List.map_congr_left
  intro entry listed
  simp only [Function.comp_apply, at_document_iff names member listed]

theorem atPool_topology (names : (holding.topology.roadwarriors.map (·.name)).Nodup) (member : (document, pool) ∈ holding.pools)
    (change : RoadwarriorPool → RoadwarriorPool) : (holding.atPool document change).topology = { holding.topology with
      roadwarriors := holding.topology.roadwarriors.map fun other => if other.name = pool.name then change other else other } :=
  congrArg (fun roadwarriors => { holding.topology with roadwarriors }) (atPool_roadwarriors names member change)

theorem atPool_stays {change : RoadwarriorPool → RoadwarriorPool} (named : ∀ pool, (change pool).name = pool.name) :
    holding.Stays (holding.atPool document change) := by
  refine ⟨rfl, rfl, ?_⟩
  simp only [Holding.directory, Holding.atPool, List.map_map]
  apply List.map_congr_left
  intro entry _
  simp only [Function.comp_apply]
  split
  · rw [named]
  · rfl

/-- Where names are distinct, the first pool of a name is the pool of the name. -/
theorem first_named {pools : List RoadwarriorPool} (names : (pools.map (·.name)).Nodup) (listed : pool ∈ pools) :
    ∃ position, position < pools.length ∧ pools.findIdx? (·.name = pool.name) = some position ∧ pools[position]? = some pool := by
  cases first : pools.findIdx? (·.name = pool.name) with
  | none =>
    rw [List.findIdx?_eq_none_iff] at first
    simpa using first pool listed
  | some position =>
    obtain ⟨inside, named, _⟩ := List.findIdx?_eq_some_iff_getElem.mp first
    have same := List.inj_on_of_nodup_map names (List.getElem_mem inside) listed (of_decide_eq_true named)
    exact ⟨position, inside, rfl, List.getElem?_eq_some_iff.mpr ⟨inside, same⟩⟩

/-- What is recorded in a pool's document is what the pool would record. -/
theorem recordPool_edits (lawful : editor.Lawful curve holds whole) (lines : whole yaml) {start : Holding}
    (places : ∀ name, file.poolDocument name = (start.directory.find? (·.2 = name)).map Prod.fst) (kept : start.Stays (holds yaml))
    (names : ((holds yaml).topology.roadwarriors.map (·.name)).Nodup) {minted : PoolMinted}
    (ok : editor.recordPool file yaml minted = .ok edited) :
    recordPoolNamed (holds yaml).topology.roadwarriors minted = .ok (holds edited).topology.roadwarriors ∧
      whole edited ∧ start.Stays (holds edited) := by
  simp only [Editor.recordPool, bind_ok, elim_ok, mapError_ok] at ok
  obtain ⟨document, found, fields, read, wrote⟩ := ok
  rw [places, ← kept.directory] at found
  obtain ⟨pool, member, named⟩ := pool_at found
  have reads := lawful.readPool member read
  have onto := PoolDocument.onto_fill reads minted
  have back : (fields.fill minted).Reads ((fields.fill minted).onto pool) := onto ▸ reads.fill minted
  obtain ⟨lines, holdsEdited⟩ := lawful.writePool lines member back wrote
  have listed : pool ∈ (holds yaml).topology.roadwarriors := List.mem_map_of_mem member
  refine ⟨?_, lines, ?_⟩
  · obtain ⟨position, inside, first, here⟩ := first_named names listed
    rw [named] at first
    rw [recordPoolNamed, first]
    refine modifyAt_ok.mpr ⟨inside, ?_⟩
    rw [modify_eq_map RoadwarriorPool.name names here, holdsEdited, atPool_roadwarriors names member]
    apply List.map_congr_left
    intro other among
    split
    · rename_i same
      rw [List.inj_on_of_nodup_map names among listed same, onto]
    · rfl
  · rw [holdsEdited]
    have stays : (holds yaml).Stays ((holds yaml).atPool document (fields.fill minted).onto) := atPool_stays fun _ => rfl
    obtain ⟨networkDocument, network, directory⟩ := stays
    exact ⟨networkDocument.trans kept.networkDocument, network.trans kept.network, directory.trans kept.directory⟩

/-- What is recorded in the documents is what the topology would record. -/
theorem record_edits (lawful : editor.Lawful curve holds whole) (lines : whole yaml) (is : (holds yaml).Of file)
    (names : ((holds yaml).topology.roadwarriors.map (·.name)).Nodup) {minted : Minted}
    (ok : editor.record yaml file minted = .ok edited) : whole edited ∧
      record (holds yaml).topology minted = .ok (holds edited).topology ∧
      (holds edited).networkDocument = (holds yaml).networkDocument ∧ (holds edited).directory = (holds yaml).directory := by
  simp only [Editor.record, bind_ok] at ok
  obtain ⟨middle, network, pools⟩ := ok
  obtain ⟨nodes, links, recordedNodes, recordedLinks, lines, holdsMiddle⟩ := recordNetwork_edits lawful lines is network
  have same : (holds middle).topology.roadwarriors = (holds yaml).topology.roadwarriors := by
    rw [holdsMiddle]
    rfl
  have places (name : String) : file.poolDocument name = ((holds middle).directory.find? (·.2 = name)).map Prod.fst := by
    rw [poolDocument_eq is, holdsMiddle]
    rfl
  have step {yaml edited : Doc} {pools : List RoadwarriorPool} {item : PoolMinted}
      (loop : whole yaml ∧ (holds middle).Stays (holds yaml) ∧ pools = (holds yaml).topology.roadwarriors)
      (ok : editor.recordPool file yaml item = .ok edited) : ∃ pools', recordPoolNamed pools item = .ok pools' ∧
        whole edited ∧ (holds middle).Stays (holds edited) ∧ pools' = (holds edited).topology.roadwarriors := by
    obtain ⟨lines, stays, rfl⟩ := loop
    have distinct : ((holds yaml).topology.roadwarriors.map (·.name)).Nodup := by
      rw [← Holding.directory_names, stays.directory, Holding.directory_names, same]
      exact names
    obtain ⟨recorded, lines, stays⟩ := recordPool_edits lawful lines places stays distinct ok
    exact ⟨_, recorded, lines, stays, rfl⟩
  obtain ⟨_, recorded, lines, stays, rfl⟩ := foldlM_related (f := editor.recordPool file) (g := recordPoolNamed)
    (fun yaml pools => whole yaml ∧ (holds middle).Stays (holds yaml) ∧ pools = (holds yaml).topology.roadwarriors) step
    ⟨lines, ⟨rfl, rfl, rfl⟩, same.symm⟩ pools
  have network : (holds edited).network = { (holds yaml).network with nodes, links } := by
    rw [stays.network, holdsMiddle]
    rfl
  refine ⟨lines, ?_, ?_, ?_⟩
  · simp only [record, bind_ok, pure_ok]
    refine ⟨nodes, recordedNodes, links, recordedLinks, _, recorded, ?_⟩
    rw [Holding.topology, Holding.topology, network]
  · rw [stays.networkDocument, holdsMiddle]
    rfl
  · rw [stays.directory, holdsMiddle]
    rfl

/-! ### Clients -/

variable {name : String} {client : RoadwarriorClient}

/-- A client that is added to a pool's document is added to the pool. -/
theorem addClient_edits (lawful : editor.Lawful curve holds whole) (lines : whole yaml)
    (names : ((holds yaml).topology.roadwarriors.map (·.name)).Nodup)
    (found : ((holds yaml).directory.find? (·.2 = name)).map Prod.fst = some document)
    (fresh : ∀ pool ∈ (holds yaml).topology.roadwarriors, pool.name = name → NewClient curve pool client)
    (ok : editor.addClient yaml document client = .ok edited) :
    whole edited ∧ (holds edited).topology = addClient (holds yaml).topology name client := by
  simp only [Editor.addClient, bind_ok, mapError_ok] at ok
  obtain ⟨fields, read, wrote⟩ := ok
  obtain ⟨pool, member, rfl⟩ := pool_at found
  have listed : pool ∈ (holds yaml).topology.roadwarriors := List.mem_map_of_mem member
  have reads := reads_addClient (lawful.readClients member read) (fresh pool listed rfl)
  obtain ⟨lines, holdsEdited⟩ := lawful.writeClients lines member read (List.prefix_append ..) reads wrote
  refine ⟨lines, ?_⟩
  rw [holdsEdited, atPool_topology names member, addClient]
  refine congrArg (fun roadwarriors => { (holds yaml).topology with roadwarriors }) (List.map_congr_left ?_)
  intro other among
  split
  · rename_i same
    rw [List.inj_on_of_nodup_map names among listed same]
  · rfl

theorem removeClient_edits (lawful : editor.Lawful curve holds whole) (lines : whole yaml)
    (names : ((holds yaml).topology.roadwarriors.map (·.name)).Nodup)
    (found : ((holds yaml).directory.find? (·.2 = name)).map Prod.fst = some document) {index : Nat}
    (ok : editor.removeClient yaml document index = .ok edited) :
    whole edited ∧ (holds edited).topology = removeClient (holds yaml).topology name index := by
  simp only [Editor.removeClient, bind_ok, mapError_ok, elim_ok] at ok
  obtain ⟨_, retained, rfl⟩ := ok
  obtain ⟨pool, member, rfl⟩ := pool_at found
  obtain ⟨lines, holdsEdited⟩ := lawful.retainClients lines member retained
  refine ⟨lines, ?_⟩
  rw [holdsEdited, atPool_topology names member]
  rfl

end Slipmesh.Taloscfg
