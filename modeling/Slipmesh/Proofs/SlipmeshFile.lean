import Slipmesh.Library.Guard
import Slipmesh.Proofs.Merge

/-! What `slipmesh.yaml` with documents added for every host reads as, and the files
that a host is given by the documents of each identity. -/

namespace Slipmesh.Taloscfg
open Library Yaml

variable {serde : Serde}

/-! ### Reading a file with documents added -/

theorem assemble_append {documents added : List Document} {file : SlipmeshFile} (whole : assemble serde documents = .ok file)
    (everywhere : ∀ document ∈ added, document.block = { kind := .patch })
    (fine : ∀ document ∈ added, checkPatch document = .ok ()) :
    assemble serde (documents ++ added) = .ok { file with patches := file.patches ++ added } := by
  have none_of (kind : Kind) (other : kind ≠ .patch) : added.filter (·.block.kind = kind) = [] := by
    rw [List.filter_eq_nil_iff]
    intro document member
    simp [everywhere document member, other.symm]
  have all_of : added.filter (·.block.kind = .patch) = added := by
    rw [List.filter_eq_self]
    intro document member
    simp [everywhere document member]
  have aimed (hosts : List String) : ∀ document ∈ added, checkTargets hosts document = .ok () := by
    intro document member
    simp [checkTargets, everywhere document member]
  rw [assemble, List.filter_append, List.filter_append, List.filter_append, none_of .roadwarriors (by decide),
    none_of .network (by decide), all_of, List.append_nil, List.append_nil]
  rw [assemble] at whole
  split at whole
  · rename_i network alone
    simp only [bind_ok, exists_unit, throw_bind, refuse_ok, pure_ok, forM_ok, List.forM_eq_forM, mapError_ok,
      List.forall_mem_append] at whole ⊢
    obtain ⟨untargeted, clear, mesh, read, targets, pools, patches, topology, whole, rfl⟩ := whole
    exact ⟨untargeted, clear, mesh, read, ⟨targets, aimed _⟩, pools, ⟨patches, fine⟩, topology, whole, rfl⟩
  · cases whole

/-! ### The documents that reach a host -/

/-- The documents of an identity that are for every host, and those aimed at this one. -/
def everywhere (patches : List Document) (host : String) (identity : Identity) : List Value :=
  (((patches.filter (·.reaches host)).filter (·.block.included.isNone)).map (·.value)).filter (Identity.of · = identity)

def aimed (patches : List Document) (host : String) (identity : Identity) : List Value :=
  (((patches.filter (·.reaches host)).filter (·.block.included.isSome)).map (·.value)).filter (Identity.of · = identity)

theorem sources_eq (patches : List Document) (host : String) (identity : Identity) :
    sources patches host identity = everywhere patches host identity ++ aimed patches host identity := by
  simp [sources, everywhere, aimed]

/-- Documents added for every host come after those for every host, before the aimed ones. -/
theorem sources_append {patches added : List Document} (blocks : ∀ document ∈ added, document.block = { kind := .patch })
    (host : String) (identity : Identity) :
    sources (patches ++ added) host identity =
      everywhere patches host identity ++ (added.map (·.value)).filter (Identity.of · = identity) ++
        aimed patches host identity := by
  have reached : added.filter (·.reaches host) = added := by
    rw [List.filter_eq_self]
    intro document member
    simp [Document.reaches, blocks document member]
  have all : added.filter (·.block.included.isNone) = added := by
    rw [List.filter_eq_self]
    intro document member
    simp [blocks document member]
  have none_aimed : added.filter (·.block.included.isSome) = [] := by
    rw [List.filter_eq_nil_iff]
    intro document member
    simp [blocks document member]
  rw [sources_eq, everywhere, everywhere, aimed, aimed]
  simp only [List.filter_append, List.map_append, reached, all, none_aimed, List.append_nil]

/-! ### What a host is given -/

/-- A document of the identity gives the file. -/
def Gives (documents : List HostDocument) (identity : Identity) (file : Value) : Prop :=
  ∃ document ∈ documents, Identity.of document.value = identity ∧ file ∈ configFiles document.value

instance (documents : List HostDocument) (identity : Identity) (file : Value) : Decidable (Gives documents identity file) :=
  inferInstanceAs (Decidable (∃ document ∈ documents, _))

def fileAsText (serde : Serde) (file : Value) : Value := file.alter "content" (contentAsText serde)

theorem mountPath_fileAsText (serde : Serde) (file : Value) : mountPath (fileAsText serde file) = mountPath file := by
  rw [mountPath, fileAsText, Value.get_alter, if_neg (by decide)]
  rfl

theorem configFiles_contentsAsText (document : Value) :
    configFiles (contentsAsText serde document) = (configFiles document).map (fileAsText serde) := by
  rw [configFiles, configFiles, contentsAsText, Value.get_alter, if_pos rfl]
  cases document.get "configFiles" with
  | none => rfl
  | some files =>
    rw [Option.map_some, Option.bind_some, Option.bind_some, Value.asSequence_mapItems]
    cases files.asSequence with
    | none => rfl
    | some items => rfl

theorem identity_alter_configFiles (value : Value) (change : Value → Value) :
    Identity.of (value.alter "configFiles" change) = Identity.of value := by
  have field (key : String) (other : key ≠ "configFiles") :
      ((value.alter "configFiles" change).get key).bind Value.asStr = (value.get key).bind Value.asStr := by
    rw [Value.get_alter, if_neg other]
  simp only [Identity.of, field "apiVersion" (by decide), field "kind" (by decide), field "name" (by decide)]

theorem identity_contentsAsText (document : Value) :
    Identity.of (contentsAsText serde document) = Identity.of document := identity_alter_configFiles document _

theorem mem_sources {patches : List Document} {host : String} {identity : Identity} {value : Value} :
    value ∈ sources patches host identity ↔
      ∃ patch ∈ patches, patch.reaches host ∧ patch.value = value ∧ Identity.of value = identity := by
  simp only [sources, List.mem_filter, List.mem_map, List.mem_append, decide_eq_true_eq]
  constructor
  · rintro ⟨⟨patch, ⟨⟨held, reaches⟩, -⟩ | ⟨⟨held, reaches⟩, -⟩, same⟩, identity⟩
    · exact ⟨patch, held, reaches, same, identity⟩
    · exact ⟨patch, held, reaches, same, identity⟩
  · rintro ⟨patch, held, reaches, same, identity⟩
    refine ⟨⟨patch, ?_, same⟩, identity⟩
    cases patch.block.included with
    | none => exact .inl ⟨⟨held, reaches⟩, rfl⟩
    | some hosts => exact .inr ⟨⟨held, reaches⟩, rfl⟩

theorem keyed_of_kind {patch : Document} (kind : (Identity.of patch.value).kind.isSome) : Keyed patch.value where
  mapping := by
    rw [Identity.of, Option.isSome_bind] at kind
    cases shape : patch.value with
    | scalar tag content => simp [shape, Value.get, Value.asMapping] at kind
    | sequence tag items => simp [shape, Value.get, Value.asMapping] at kind
    | mapping tag entries => rfl
  distinct := patch.distinct

/-- Every patch has a kind, as reading the file has checked. -/
def AllKinds (patches : List Document) : Prop := ∀ patch ∈ patches, (Identity.of patch.value).kind.isSome

theorem keyed_sources {patches : List Document} (kinds : AllKinds patches) (host : String) (identity : Identity) :
    ∀ value ∈ sources patches host identity, Keyed value := by
  intro value member
  obtain ⟨patch, held, -, rfl, -⟩ := mem_sources.mp member
  exact keyed_of_kind (kinds patch held)

theorem sources_ne_nil {patches : List Document} {host : String} {identity : Identity} :
    sources patches host identity ≠ [] ↔ identity ∈ identities patches host := by
  simp only [identities, List.mem_eraseDups, List.mem_map, List.mem_filter]
  constructor
  · intro some
    obtain ⟨value, member⟩ := List.exists_mem_of_ne_nil _ some
    obtain ⟨patch, held, reaches, rfl, same⟩ := mem_sources.mp member
    exact ⟨patch, ⟨held, reaches⟩, same⟩
  · rintro ⟨patch, ⟨held, reaches⟩, same⟩
    exact List.ne_nil_of_mem (mem_sources.mpr ⟨patch, held, reaches, rfl, same⟩)

theorem identity_hostDocument {patches : List Document} (kinds : AllKinds patches) {host : String} (identity : Identity)
    (reached : identity ∈ identities patches host) :
    Identity.of (hostDocument serde patches host identity).value = identity := by
  rw [hostDocument, identity_contentsAsText]
  apply identity_mergeAll (keyed_sources kinds host identity) _ (sources_ne_nil.mpr reached)
  intro document member
  obtain ⟨patch, -, -, -, same⟩ := mem_sources.mp member
  exact same

theorem gives_iff {patches : List Document} (kinds : AllKinds patches) {host : String} {identity : Identity} {file : Value} :
    Gives ((identities patches host).map (hostDocument serde patches host)) identity file ↔
      file ∈ (configFiles (mergeAll (sources patches host identity))).map (fileAsText serde) := by
  have own (identity : Identity) (reached : identity ∈ identities patches host) :
      Identity.of (hostDocument serde patches host identity).value = identity := identity_hostDocument kinds identity reached
  have files (identity : Identity) : configFiles (hostDocument serde patches host identity).value =
      (configFiles (mergeAll (sources patches host identity))).map (fileAsText serde) :=
    configFiles_contentsAsText _
  constructor
  · rintro ⟨document, member, same, held⟩
    obtain ⟨other, reached, rfl⟩ := List.mem_map.mp member
    rw [own other reached] at same
    rw [files, same] at held
    exact held
  · intro held
    have reached : identity ∈ identities patches host := by
      rw [← sources_ne_nil]
      intro empty
      rw [empty] at held
      cases held
    refine ⟨_, List.mem_map_of_mem reached, own identity reached, ?_⟩
    rw [files]
    exact held

theorem allKinds_of_read {text : String} {file : SlipmeshFile} (read : SlipmeshFile.read serde text = .ok file) :
    AllKinds file.patches := by
  simp only [SlipmeshFile.read, bind_ok, mapError_ok] at read
  obtain ⟨raws, -, documents, -, whole⟩ := read
  rw [assemble] at whole
  split at whole
  · simp only [bind_ok, exists_unit, throw_bind, refuse_ok, pure_ok, forM_ok, List.forM_eq_forM, mapError_ok] at whole
    obtain ⟨-, -, mesh, -, -, -, patches, topology, -, rfl⟩ := whole
    intro patch member
    have checked := patches patch member
    rw [checkPatch] at checked
    cases kind : (Identity.of patch.value).kind with
    | none => simp [kind] at checked
    | some kind => rfl
  · cases whole

theorem patchesFor_ok (serde : Serde) (file : SlipmeshFile) {host : String} (known : host ∈ file.hosts) :
    file.patchesFor serde host = .ok ((identities file.patches host).map (hostDocument serde file.patches host)) := by
  rw [SlipmeshFile.patchesFor, SlipmeshFile.ensureHost, if_pos known]
  rfl

theorem patchesFor_unknown (serde : Serde) (file : SlipmeshFile) {host : String} (unknown : host ∉ file.hosts) :
    file.patchesFor serde host = .error ⟨host⟩ := by
  rw [SlipmeshFile.patchesFor, SlipmeshFile.ensureHost, if_neg unknown]
  rfl

theorem eq_of_patchesFor {file : SlipmeshFile} {host : String} {documents : List HostDocument}
    (given : file.patchesFor serde host = .ok documents) :
    documents = (identities file.patches host).map (hostDocument serde file.patches host) := by
  by_cases known : host ∈ file.hosts
  · rw [patchesFor_ok serde file known, Except.ok.injEq] at given
    exact given.symm
  · rw [patchesFor_unknown serde file known] at given
    cases given

theorem validate_of_model {network : Value} {pools : List Document} {mesh : MeshConfig}
    (ok : model serde network pools = .ok mesh) : validate mesh = .ok () := by
  cases network with
  | scalar tag content => cases ok
  | sequence tag items => cases ok
  | mapping tag entries =>
    simp only [model, bind_ok, exists_unit, mapError_ok, pure_ok] at ok
    obtain ⟨assembled, -, valid, rfl⟩ := ok
    exact valid

/-- The topology of a file is the one that its documents are merged into for a host. -/
theorem model_of_read {text : String} {file : SlipmeshFile} (read : SlipmeshFile.read serde text = .ok file) :
    model serde file.network file.pools = .ok file.topology := by
  simp only [SlipmeshFile.read, bind_ok, mapError_ok] at read
  obtain ⟨raws, -, documents, -, whole⟩ := read
  rw [assemble] at whole
  split at whole
  · simp only [bind_ok, exists_unit, throw_bind, refuse_ok, pure_ok, mapError_ok] at whole
    obtain ⟨-, -, mesh, -, -, -, -, topology, whole, rfl⟩ := whole
    exact whole
  · cases whole

theorem validate_of_read {text : String} {file : SlipmeshFile} (read : SlipmeshFile.read serde text = .ok file) :
    validate file.topology = .ok () := validate_of_model (model_of_read read)

theorem effectiveFor_of_read {text : String} {file : SlipmeshFile} (read : SlipmeshFile.read serde text = .ok file)
    {host : String} {mesh : MeshConfig} (effective : file.effectiveFor serde host = .ok mesh) : mesh = file.topology := by
  simp only [SlipmeshFile.effectiveFor, bind_ok, mapError_ok] at effective
  obtain ⟨_, _, whole⟩ := effective
  exact Except.ok.inj (whole.symm.trans (model_of_read read))

end Slipmesh.Taloscfg
