import Slipmesh.Library.Runs
import Slipmesh.Proofs.SlipmeshFile
import Slipmesh.Taloscfg.Defaults

/-! The default templates, appended to `slipmesh.yaml`: what the file reads as with
them, and when every host keeps the files it had and gets the templates. -/

namespace Slipmesh.Taloscfg
open Library Yaml

variable {serde : Serde} {references : References}

/-! ### The appended file -/

/-- A default's document without its block. -/
def DefaultFile.patch (default : DefaultFile) : Value := default.value.remove metaKey

def serviceIdentity (service : String) : Identity := ⟨some "v1alpha1", some "ExtensionServiceConfig", some service⟩

theorem identity_patch (default : DefaultFile) : Identity.of default.patch = serviceIdentity default.service := rfl

theorem mountPath_entry (default : DefaultFile) : mountPath default.entry = some default.mountPath := rfl

theorem keyed_patch (default : DefaultFile) : Keyed default.patch where
  mapping := rfl
  distinct := Value.keys_remove _ _ default.value_distinct

theorem DefaultFile.patch_distinct (default : DefaultFile) : default.patch.keys.Nodup := (keyed_patch default).distinct

theorem route_default (serde : Serde) {raw : RawDocument} {default : DefaultFile}
    (reads : raw.value = .ok ⟨default.value, default.value_distinct⟩) :
    ∃ document, Document.route serde raw = .ok document ∧ document.block = { kind := .patch } ∧
      document.value = default.patch := by
  have block : default.value.get metaKey = some patchBlock := rfl
  refine ⟨⟨raw.index, raw.line, { kind := .patch }, default.patch, (keyed_patch default).distinct, raw.mesh, raw.pool⟩,
    ?_, rfl, rfl⟩
  rw [Document.route, Document.read, reads]
  simp only [block, serde.readMeta_patchBlock]
  rfl

theorem mapM_route (serde : Serde) {added : List RawDocument} {defaults : List DefaultFile}
    (reads : added.map (·.value) = defaults.map fun default => .ok ⟨default.value, default.value_distinct⟩) :
    ∃ documents, added.mapM (Document.route serde) = .ok documents ∧
      (∀ document ∈ documents, document.block = { kind := .patch }) ∧
      documents.map (·.value) = defaults.map DefaultFile.patch := by
  induction defaults generalizing added with
  | nil =>
    rw [List.map_nil, List.map_eq_nil_iff] at reads
    exact ⟨[], by rw [reads]; rfl, by simp, rfl⟩
  | cons default defaults ih =>
    obtain ⟨raw, rest, rfl, first, others⟩ := List.map_eq_cons_iff.mp reads
    obtain ⟨document, routed, block, value⟩ := route_default serde first
    obtain ⟨documents, later, blocks, values⟩ := ih others
    refine ⟨document :: documents, ?_, ?_, ?_⟩
    · rw [List.mapM_cons, routed, later]
      rfl
    · simpa using ⟨block, blocks⟩
    · simp [value, values]

/-- A default's document is one that a patch may be, of whichever service. -/
theorem checkPatch_default {default : DefaultFile} (listed : default ∈ defaultFiles references) {document : Document}
    (value : document.value = default.patch) : checkPatch document = .ok () := by
  have identity : Identity.of document.value = serviceIdentity default.service := by
    rw [value]
    rfl
  simp only [defaultFiles, List.mem_cons, List.not_mem_nil, or_false] at listed
  rcases listed with rfl | rfl
  · have fields : (document.value.keys.filterMap Value.asStr).filter (· ∉ ["apiVersion", "kind", "name", "configFiles"]) = [] := by
      rw [value]
      rfl
    have apart : mounts document.value "/etc/talos-extensions/router.yaml" = false := by
      rw [value]
      rfl
    have passed : checkGenerated document "router" "/etc/talos-extensions/router.yaml" = .ok () := by
      rw [checkGenerated, fields, apart]
      rfl
    rw [checkPatch, identity]
    simp [serviceIdentity, generated, passed]
  · rw [checkPatch, identity]
    simp [serviceIdentity, generated]

/-- The file with the missing defaults appended reads as the file with their documents. -/
theorem read_appended {text : String} {file : SlipmeshFile} (read : SlipmeshFile.read serde text = .ok file)
    (ended : Ended text) (appends : serde.Appends text (missing references file)) :
    ∃ added, SlipmeshFile.read serde (append text (missing references file)) =
        .ok { file with patches := file.patches ++ added } ∧
      (∀ document ∈ added, document.block = { kind := .patch }) ∧
      added.map (·.value) = (missing references file).map DefaultFile.patch := by
  simp only [SlipmeshFile.read, bind_ok, mapError_ok] at read
  obtain ⟨raws, opened, documents, routed, whole⟩ := read
  obtain ⟨more, extended, values⟩ := appends ended raws opened
  obtain ⟨added, mapped, blocks, values⟩ := mapM_route serde values
  refine ⟨added, ?_, blocks, values⟩
  simp only [SlipmeshFile.read, bind_ok, mapError_ok]
  refine ⟨raws ++ more, extended, documents ++ added, ?_, ?_⟩
  · rw [List.mapM_append, routed, mapped]
    rfl
  · apply assemble_append whole blocks
    intro document member
    have held : document.value ∈ (missing references file).map DefaultFile.patch := by
      rw [← values]
      exact List.mem_map_of_mem member
    obtain ⟨default, listed, same⟩ := List.mem_map.mp held
    exact checkPatch_default (List.mem_filter.mp listed).1 same.symm

/-! ### Whole lines -/

theorem ended_after (start : String) {text : String} (last : text.toList.getLast? = some '\n') : Ended (start ++ text) := by
  rw [Ended, String.toList_append, List.getLast?_append, last]
  exact .inr rfl

theorem ended_concat {text more : String} (ended : Ended text) (ends : Ended more) : Ended (text ++ more) := by
  rcases ends with rfl | last
  · rw [String.append_empty]
    exact ended
  · exact ended_after text last

theorem ended_join {lines : List String} (ends : ∀ line ∈ lines, Ended line) : Ended (String.join lines) := by
  induction lines with
  | nil => exact .inl rfl
  | cons line rest ih =>
    obtain ⟨first, others⟩ := List.forall_mem_cons.mp ends
    rw [String.join_cons]
    exact ended_concat first (ih others)

theorem ended_document (default : DefaultFile) : Ended (document default) := by
  have lines : Ended (String.join ((Text.lines default.content).map fun line => if line = "" then "\n" else "      " ++ line ++ "\n")) := by
    apply ended_join
    intro line member
    obtain ⟨content, _, rfl⟩ := List.mem_map.mp member
    split
    · exact .inr (by decide)
    · exact ended_after _ (by decide)
  delta document
  apply ended_concat _ lines
  exact ended_after _ (by decide)

/-- Whatever `append` is given, it leaves whole lines. -/
theorem ended_append (text : String) (defaults : List DefaultFile) : Ended (append text defaults) := by
  have start : Ended (if text ≠ "" ∧ text.toList.getLast? ≠ some '\n' then text.push '\n' else text) := by
    split
    · exact .inr (by rw [String.toList_push, List.getLast?_append]; rfl)
    · rename_i whole
      by_cases empty : text = ""
      · exact .inl empty
      · exact .inr (not_not.mp fun last => whole ⟨empty, last⟩)
  rw [append]
  refine Library.run_invariant Ended ?_ defaults start
  intro out default ended
  exact ended_concat (ended_after out (by decide)) (ended_document default)

/-! ### The documents of one service -/

theorem fileAsText_entry (default : DefaultFile) : fileAsText serde default.entry = default.entry := rfl

/-- The missing defaults are of different services, so at most one document is added to
those of an identity. -/
theorem filter_defaults {file : SlipmeshFile} {default : DefaultFile} (listed : default ∈ missing references file) :
    ((missing references file).map DefaultFile.patch).filter (Identity.of · = serviceIdentity default.service) =
      [default.patch] := by
  have distinct : ((missing references file).map (·.service)).Nodup := by
    have all : ((defaultFiles references).map (·.service)).Nodup := by
      change ["router", "nftables"].Nodup
      decide
    exact all.sublist (List.filter_sublist.map _)
  have alone := IndexMap.filter_of_distinct (·.service) distinct listed
  have same (other : DefaultFile) : Identity.of other.patch = serviceIdentity default.service ↔ other.service = default.service := by
    rw [identity_patch]
    simp [serviceIdentity]
  rw [List.filter_map]
  simp only [Function.comp_def, same, alone, List.map_cons, List.map_nil]

/-! ### What a merge makes of a default -/

/-- A document that gives one file, over which a merge goes key by key. -/
structure Stands (file document : Value) : Prop where
  files : configFiles document = [file]
  kept : isDeletion document = false
  whole : bare document = document

theorem stands_merge {file base overlay : Value} (keyed : Keyed overlay) (stands : Stands file base)
    (edits : isDeletion overlay = false) (silent : overlay.get "configFiles" = none) :
    Stands file (mergeDocument base overlay) := by
  obtain ⟨files, kept, whole⟩ := stands
  have merged : mergeDocument base overlay = merge base overlay := by simp [mergeDocument, edits, kept]
  rw [merged]
  refine ⟨?_, isDeletion_merge keyed.distinct kept edits, bare_merge keyed⟩
  rw [configFiles_merge base overlay keyed, silent, whole, files]
  rfl

theorem stands_foldl {file : Value} {overlays : List Value} (keyed : ∀ overlay ∈ overlays, Keyed overlay) {base : Value}
    (stands : Stands file base)
    (clear : ∀ overlay ∈ overlays, isDeletion overlay = false ∧ overlay.get "configFiles" = none) :
    Stands file (overlays.foldl mergeDocument base) := by
  induction overlays generalizing base with
  | nil => exact stands
  | cons overlay overlays ih =>
    simp only [List.forall_mem_cons] at keyed clear
    exact ih keyed.2 (stands_merge keyed.1 stands clear.1.1 clear.1.2) clear.2

theorem mem_foldl {file : Value} {overlays : List Value} (keyed : ∀ overlay ∈ overlays, Keyed overlay) {base : Value}
    (held : file ∈ configFiles (overlays.foldl mergeDocument base)) :
    file ∈ configFiles base ∨ ∃ overlay ∈ overlays, file ∈ configFiles overlay := by
  induction overlays generalizing base with
  | nil => exact .inl held
  | cons overlay overlays ih =>
    simp only [List.forall_mem_cons] at keyed
    rcases ih keyed.2 held with first | ⟨later, member, found⟩
    · rcases mem_configFiles_mergeDocument keyed.1 first with earlier | own
      · exact .inl earlier
      · exact .inr ⟨overlay, by simp, own⟩
    · exact .inr ⟨later, by simp [member], found⟩

/-- The file outlasts the documents merged over it exactly where each of them is an edit
that says nothing of the files. -/
theorem survives_iff {file : Value} {overlays : List Value} (keyed : ∀ overlay ∈ overlays, Keyed overlay)
    (foreign : ∀ overlay ∈ overlays, file ∉ configFiles overlay) {base : Value} (stands : Stands file base) :
    file ∈ configFiles (overlays.foldl mergeDocument base) ↔
      ∀ overlay ∈ overlays, isDeletion overlay = false ∧ overlay.get "configFiles" = none := by
  constructor
  · intro held
    induction overlays generalizing base with
    | nil => simp
    | cons overlay overlays ih =>
      simp only [List.forall_mem_cons] at keyed foreign ⊢
      -- What is lost with the first document does not come back with the later ones.
      have first : file ∈ configFiles (mergeDocument base overlay) := by
        rcases mem_foldl keyed.2 held with first | ⟨later, member, found⟩
        · exact first
        · exact absurd found (foreign.2 later member)
      have edits : isDeletion overlay = false := by
        by_contra deletes
        have replaced : mergeDocument base overlay = overlay := by simp [mergeDocument, deletes]
        rw [replaced] at first
        exact foreign.1 first
      have silent : overlay.get "configFiles" = none := by
        simp only [mergeDocument, edits, stands.kept, Bool.or_false, Bool.false_eq_true, if_false,
          configFiles_merge base overlay keyed.1] at first
        split at first
        · exact absurd first foreign.1
        · rename_i absent
          exact Option.not_isSome_iff_eq_none.mp absent
      exact ⟨⟨edits, silent⟩, ih keyed.2 foreign.2 (stands_merge keyed.1 stands edits silent) held⟩
  · intro clear
    rw [(stands_foldl keyed stands clear).files]
    simp

/-- Whatever documents come before it, a default replaces the list of files with its own. -/
theorem stands_default (documents : List Value) (default : DefaultFile) :
    Stands default.entry (mergeAll (documents ++ [default.patch])) := by
  have own : Stands default.entry default.patch := ⟨rfl, rfl, rfl⟩
  have keyed := keyed_patch default
  rw [mergeAll_concat]
  split
  · exact own
  · cases kept : isDeletion (mergeAll documents) with
    | true =>
      have replaced : mergeDocument (mergeAll documents) default.patch = default.patch := by simp [mergeDocument, kept]
      rw [replaced]
      exact own
    | false =>
      have merged : mergeDocument (mergeAll documents) default.patch = merge (mergeAll documents) default.patch := by
        simp [mergeDocument, kept, own.kept]
      rw [merged]
      refine ⟨?_, isDeletion_merge keyed.distinct kept own.kept, bare_merge keyed⟩
      rw [configFiles_merge _ _ keyed]
      rfl

/-! ### When the templates can be appended -/

/-- The documents of the service that reach the host leave its template alone: those
aimed at the host say nothing of the files, and all of them leave it no files. -/
structure Room (patches : List Document) (host service : String) : Prop where
  silent : ∀ patch ∈ aimed patches host (serviceIdentity service), isDeletion patch = false ∧ patch.get "configFiles" = none
  empty : leavesFiles (sources patches host (serviceIdentity service)).reverse = false

/-- The host keeps every file of its extension services, and gets every default that is
missing. -/
def KeepsFiles (serde : Serde) (references : References) (file extended : SlipmeshFile) (host : String) : Prop :=
  ∃ before after, file.patchesFor serde host = .ok before ∧ extended.patchesFor serde host = .ok after ∧
    (∀ identity entry, identity.kind = some "ExtensionServiceConfig" →
      Gives before identity entry → Gives after identity entry) ∧
    ∀ default ∈ missing references file, Gives after (serviceIdentity default.service) default.entry

variable {file : SlipmeshFile} {default : DefaultFile}

/-- No patch of a service sets the template that the service is missing. -/
theorem foreign_of_missing (listed : default ∈ missing references file) {host : String} {value : Value}
    (member : value ∈ sources file.patches host (serviceIdentity default.service)) {entry : Value}
    (held : entry ∈ configFiles value) : mountPath entry ≠ mountPath default.entry := by
  obtain ⟨patch, listed_patch, -, rfl, same⟩ := mem_sources.mp member
  have unset := (List.mem_filter.mp listed).2
  simp only [SlipmeshFile.setsFile, Bool.not_eq_true', List.any_eq_false, Bool.and_eq_true, decide_eq_true_eq, not_and,
    Bool.not_eq_true] at unset
  have apart := unset patch listed_patch ⟨by rw [same]; rfl, by rw [same]; rfl⟩
  rw [mounts, List.any_eq_false] at apart
  simpa [mountPath_entry] using apart entry held

theorem mergeAll_extended (listed : default ∈ missing references file) {added : List Document}
    (blocks : ∀ document ∈ added, document.block = { kind := .patch })
    (values : added.map (·.value) = (missing references file).map DefaultFile.patch) (host : String) :
    mergeAll (sources (file.patches ++ added) host (serviceIdentity default.service)) =
      (aimed file.patches host (serviceIdentity default.service)).foldl mergeDocument
        (mergeAll (everywhere file.patches host (serviceIdentity default.service) ++ [default.patch])) := by
  rw [sources_append blocks, values, filter_defaults listed, mergeAll_append (by simp)]

theorem sources_unextended {added : List Document} (blocks : ∀ document ∈ added, document.block = { kind := .patch })
    (values : added.map (·.value) = (missing references file).map DefaultFile.patch) {identity : Identity}
    (other : ∀ default ∈ missing references file, identity ≠ serviceIdentity default.service) (host : String) :
    sources (file.patches ++ added) host identity = sources file.patches host identity := by
  have nothing : ((missing references file).map DefaultFile.patch).filter (Identity.of · = identity) = [] := by
    rw [List.filter_eq_nil_iff]
    intro value member
    obtain ⟨default, listed, rfl⟩ := List.mem_map.mp member
    rw [identity_patch, decide_eq_true_eq]
    exact Ne.symm (other default listed)
  rw [sources_append blocks, values, nothing, List.append_nil, sources_eq]

section service

variable {all own : List Value} (keyed : ∀ document ∈ all ++ own, Keyed document)
  (foreign : ∀ document ∈ all ++ own, ∀ entry ∈ configFiles document, mountPath entry ≠ mountPath default.entry)

include keyed foreign

/-- Among documents that do not set it, a template merged after those for every host is
given exactly where the ones aimed at the host say nothing of the files. -/
theorem gives_default_iff :
    default.entry ∈ (configFiles (own.foldl mergeDocument (mergeAll (all ++ [default.patch])))).map (fileAsText serde) ↔
      ∀ patch ∈ own, isDeletion patch = false ∧ patch.get "configFiles" = none := by
  have own_keyed : ∀ document ∈ own, Keyed document := fun document member => keyed document (by simp [member])
  have stands := stands_default all default
  rw [← survives_iff own_keyed (fun document member held => foreign document (by simp [member]) _ held rfl) stands, List.mem_map]
  constructor
  · rintro ⟨entry, held, same⟩
    -- A file given as YAML becomes text, at the same path: no other file is this one.
    have path : mountPath entry = mountPath default.entry := by rw [← same, mountPath_fileAsText]
    rcases mem_foldl own_keyed held with first | ⟨document, member, found⟩
    · rw [stands.files, List.mem_singleton] at first
      rwa [first] at held
    · exact absurd path (foreign document (by simp [member]) entry found)
  · intro held
    exact ⟨_, held, fileAsText_entry default⟩

/-- What the documents gave before is given next to the template only if it is nothing. -/
theorem keeps_files_iff (silent : ∀ patch ∈ own, isDeletion patch = false ∧ patch.get "configFiles" = none) :
    (∀ entry ∈ (configFiles (mergeAll (all ++ own))).map (fileAsText serde),
      entry ∈ (configFiles (own.foldl mergeDocument (mergeAll (all ++ [default.patch])))).map (fileAsText serde)) ↔
      leavesFiles (all ++ own).reverse = false := by
  have own_keyed : ∀ document ∈ own, Keyed document := fun document member => keyed document (by simp [member])
  have after := (stands_foldl own_keyed (stands_default all default) silent).files
  rw [after, ← Bool.not_eq_true, ← configFiles_mergeAll keyed, not_not]
  constructor
  · intro kept
    rw [List.eq_nil_iff_forall_not_mem]
    intro entry held
    have same := kept _ (List.mem_map_of_mem held)
    rw [List.map_singleton, List.mem_singleton] at same
    have path : mountPath entry = mountPath default.entry := by
      rw [← mountPath_fileAsText serde entry, same, mountPath_fileAsText]
    obtain ⟨document, member, found⟩ := mem_configFiles_mergeAll keyed held
    exact foreign document member entry found path
  · intro empty entry held
    rw [empty] at held
    cases held

end service

/-- For one missing default: the host keeps the service's files and gets the template
exactly where there is room for it. -/
theorem service_iff (serde : Serde) (kinds : AllKinds file.patches) (listed : default ∈ missing references file) {added : List Document}
    (blocks : ∀ document ∈ added, document.block = { kind := .patch })
    (values : added.map (·.value) = (missing references file).map DefaultFile.patch) (host : String) :
    ((∀ entry ∈ (configFiles (mergeAll (sources file.patches host (serviceIdentity default.service)))).map (fileAsText serde),
        entry ∈ (configFiles (mergeAll (sources (file.patches ++ added) host (serviceIdentity default.service)))).map
          (fileAsText serde)) ∧
      default.entry ∈ (configFiles (mergeAll (sources (file.patches ++ added) host (serviceIdentity default.service)))).map
        (fileAsText serde)) ↔ Room file.patches host default.service := by
  have keyed := keyed_sources kinds host (serviceIdentity default.service)
  have foreign (document : Value) (member : document ∈ sources file.patches host (serviceIdentity default.service)) :
      ∀ entry ∈ configFiles document, mountPath entry ≠ mountPath default.entry :=
    fun entry => foreign_of_missing listed member
  rw [mergeAll_extended listed blocks values]
  rw [sources_eq] at keyed foreign ⊢
  rw [gives_default_iff keyed foreign]
  constructor
  · rintro ⟨kept, silent⟩
    refine ⟨silent, ?_⟩
    rw [sources_eq]
    exact (keeps_files_iff keyed foreign silent).mp kept
  · rintro ⟨silent, empty⟩
    rw [sources_eq] at empty
    exact ⟨(keeps_files_iff keyed foreign silent).mpr empty, silent⟩

theorem keepsFiles_iff (kinds : AllKinds file.patches) {added : List Document}
    (blocks : ∀ document ∈ added, document.block = { kind := .patch })
    (values : added.map (·.value) = (missing references file).map DefaultFile.patch) {host : String} (known : host ∈ file.hosts) :
    KeepsFiles serde references file { file with patches := file.patches ++ added } host ↔
      ∀ default ∈ missing references file, Room file.patches host default.service := by
  have all_kinds : AllKinds (file.patches ++ added) := by
    intro patch member
    rcases List.mem_append.mp member with old | new
    · exact kinds patch old
    · have held : patch.value ∈ (missing references file).map DefaultFile.patch := by
        rw [← values]
        exact List.mem_map_of_mem new
      obtain ⟨default, -, same⟩ := List.mem_map.mp held
      rw [← same, identity_patch]
      rfl
  have before := patchesFor_ok serde file known
  have after := patchesFor_ok serde { file with patches := file.patches ++ added } known
  constructor
  · rintro ⟨documents, documents', given, given', kept, gets⟩ default listed
    rw [before, Except.ok.injEq] at given
    rw [after, Except.ok.injEq] at given'
    subst given given'
    rw [← service_iff serde kinds listed blocks values host]
    refine ⟨fun entry held => ?_, ?_⟩
    · exact (gives_iff all_kinds).mp (kept _ entry rfl ((gives_iff kinds).mpr held))
    · exact (gives_iff all_kinds).mp (gets default listed)
  · intro room
    refine ⟨_, _, before, after, ?_, ?_⟩
    · intro identity entry _ given
      rw [gives_iff kinds] at given
      rw [gives_iff all_kinds]
      by_cases service : ∃ default ∈ missing references file, identity = serviceIdentity default.service
      · obtain ⟨default, listed, rfl⟩ := service
        exact ((service_iff serde kinds listed blocks values host).mpr (room default listed)).1 entry given
      · have other : ∀ default ∈ missing references file, identity ≠ serviceIdentity default.service :=
          fun default listed same => service ⟨default, listed, same⟩
        rw [sources_unextended blocks values other host]
        exact given
    · intro default listed
      rw [gives_iff all_kinds]
      exact ((service_iff serde kinds listed blocks values host).mpr (room default listed)).2

/-- Every file of whole lines that reads has its missing defaults appended to one that reads
too, and a host keeps its files and gets the defaults exactly where each of them has room. -/
theorem defaults_kept_iff {text : String} (read : SlipmeshFile.read serde text = .ok file) (ended : Ended text)
    (appends : serde.Appends text (missing references file)) :
    ∃ extended, SlipmeshFile.read serde (append text (missing references file)) = .ok extended ∧
      ∀ host ∈ file.hosts, KeepsFiles serde references file extended host ↔
        ∀ default ∈ missing references file, Room file.patches host default.service := by
  obtain ⟨added, extended, blocks, values⟩ := read_appended read ended appends
  exact ⟨_, extended, fun host known => keepsFiles_iff (allKinds_of_read read) blocks values known⟩

/-! ### A network of one node -/

def oneNode : MeshConfig :=
  { cluster := { bgpAs := 64512, loopbackNetworks := ⟨"10.62.0.0/16", "fd00:62::/32"⟩ }
    nodes := [{ name := "node-a", nodeId := "10.62.0.1" }] }

def oneNodeText : String :=
  "slipmesh:\n  kind: network\ncluster:\n  bgp_as: 64512\n  loopback_networks:\n    ipv4: 10.62.0.0/16\n" ++
    "    ipv6: fd00:62::/32\nnodes:\n  - name: node-a\n    node_id: 10.62.0.1\n"

def stringMap (entries : List (String × String)) : Value :=
  .mapping none (entries.map fun (key, value) => (.ofString key, .ofString value))

def networkBlock : Value := .mapping none [(.ofString "kind", .ofString "network")]

/-- The network's tree, below its block. -/
def oneNodeEntries : List (Value × Value) := [
  (.ofString "cluster", .mapping none [
    (.ofString "bgp_as", .scalar none (.number (.integer 64512))),
    (.ofString "loopback_networks", stringMap [("ipv4", "10.62.0.0/16"), ("ipv6", "fd00:62::/32")])]),
  (.ofString "nodes", .sequence none [stringMap [("name", "node-a"), ("node_id", "10.62.0.1")]])]

def oneNodeRaw : RawDocument where
  index := 0
  line := 1
  value := .ok ⟨.mapping none ((.ofString metaKey, networkBlock) :: oneNodeEntries), by decide +kernel⟩
  mesh := .ok oneNode
  pool := .error "missing field"

def patchRaw (patch : DefaultFile) (position : Nat) : RawDocument where
  index := position + 1
  line := 11 + 10 * position
  value := .ok ⟨patch.value, patch.value_distinct⟩
  mesh := .error "missing field cluster"
  pool := .error "missing field name"

def patchesText (patches : List DefaultFile) : String := append oneNodeText patches

def patchesRaw (patches : List DefaultFile) : List RawDocument :=
  oneNodeRaw :: patches.zipIdx.map fun (patch, position) => patchRaw patch position

/-- The text of a mapping from plain strings to plain strings, or to lists of such mappings. -/
def blockText (document : Value) : String :=
  let line (entry : Value × Value) := entry.1.asStr.getD "" ++ ": " ++ entry.2.asStr.getD "" ++ "\n"
  let lines (mapping : Value) := (mapping.asMapping.getD []).map line
  String.join ((document.asMapping.getD []).map fun entry =>
    match entry.2.asSequence with
    | none => line entry
    | some files => entry.1.asStr.getD "" ++ ":\n" ++ String.join (files.map fun file => "- " ++ "  ".intercalate (lines file)))

/-- A reader of two texts. -/
def readTwo (first second : String) (raws raws' : List RawDocument) (text : String) : Except String (List RawDocument) :=
  if text = first then .ok raws
  else if text = second then .ok raws'
  else .error "no slipmesh block"

theorem readTwo_first (first second : String) (raws raws' : List RawDocument) :
    readTwo first second raws raws' first = .ok raws := if_pos rfl

theorem readTwo_second {first second : String} (raws raws' : List RawDocument) (differ : second ≠ first) :
    readTwo first second raws raws' second = .ok raws' := (if_neg differ).trans (if_pos rfl)

def readBlock (block : Value) : Except String Meta :=
  if block = patchBlock then .ok { kind := .patch }
  else if block = networkBlock then .ok { kind := .network }
  else .error "unknown field"

theorem readBlock_patchBlock : readBlock patchBlock = .ok { kind := .patch } := rfl

/-- The YAML libraries on the file with some patches, and on it with some more. -/
def serdeOf (given added : List DefaultFile) : Serde where
  documents := readTwo (patchesText given) (append (patchesText given) added) (patchesRaw given) (patchesRaw (given ++ added))
  readMeta := readBlock
  readMesh value :=
    if value = .mapping none (oneNodeEntries ++ [(.ofString "roadwarriors", .sequence none [])]) then .ok oneNode
    else .error "missing field cluster"
  text := blockText
  readMeta_patchBlock := readBlock_patchBlock

theorem append_longer (text : String) {defaults : List DefaultFile} (some : defaults ≠ []) :
    text.length < (append text defaults).length := by
  have grows (defaults : List DefaultFile) (out : String) :
      out.length ≤ (defaults.foldl (fun out default => out ++ "---\n" ++ document default) out).length := by
    induction defaults generalizing out with
    | nil => exact Nat.le_refl _
    | cons default defaults ih =>
      have next := ih (out ++ "---\n" ++ document default)
      rw [String.length_append, String.length_append] at next
      exact Nat.le_trans (by omega) next
  cases defaults with
  | nil => exact absurd rfl some
  | cons default defaults =>
    rw [append, List.foldl_cons]
    apply Nat.lt_of_lt_of_le _ (grows defaults _)
    rw [String.length_append, String.length_append]
    have dashes : "---\n".length = 4 := rfl
    split
    · rw [String.length_push]
      omega
    · omega

theorem documents_given (given added : List DefaultFile) :
    (serdeOf given added).documents (patchesText given) = .ok (patchesRaw given) :=
  readTwo_first _ _ _ _

theorem documents_extended (given : List DefaultFile) {added : List DefaultFile} (some : added ≠ []) :
    (serdeOf given added).documents (append (patchesText given) added) = .ok (patchesRaw (given ++ added)) := by
  apply readTwo_second
  intro same
  have longer := append_longer (patchesText given) some
  rw [same] at longer
  exact Nat.lt_irrefl _ longer

theorem read_of_documents {serde : Serde} {text : String} {raws : List RawDocument} (opened : serde.documents text = .ok raws) :
    SlipmeshFile.read serde text = raws.mapM (Document.route serde) >>= assemble serde := by
  rw [SlipmeshFile.read, opened]
  rfl

def oneNodeFile (patches : List DefaultFile) : SlipmeshFile where
  network := .mapping none oneNodeEntries
  networkIndex := 0
  hosts := ["node-a"]
  pools := []
  patches := patches.zipIdx.map fun (patch, position) =>
    { index := position + 1
      line := 11 + 10 * position
      block := { kind := .patch }
      value := patch.patch
      distinct := patch.patch_distinct
      mesh := .error "missing field cluster"
      pool := .error "missing field name" }
  topology := oneNode

def templates : References := ⟨"protocol device\n", "table inet filter\n"⟩

/-- A file for the router next to its template. -/
def extraFile : DefaultFile := ⟨"router", "/etc/talos-extensions/extra.conf", "log all\n"⟩

def routerDefault : DefaultFile := ⟨"router", routerTemplatePath, templates.router⟩

def nftablesDefault : DefaultFile := ⟨"nftables", nftablesTemplatePath, templates.nftables⟩

/-- The file sets the ruleset template and lacks the router's, which it then gets. -/
theorem defaults_kept_nftables : ∃ extended,
    SlipmeshFile.read (serdeOf [nftablesDefault] [routerDefault]) (append (patchesText [nftablesDefault]) [routerDefault]) =
      .ok extended ∧ KeepsFiles (serdeOf [nftablesDefault] [routerDefault]) templates (oneNodeFile [nftablesDefault]) extended "node-a" := by
  have lacks : missing templates (oneNodeFile [nftablesDefault]) = [routerDefault] := by decide +kernel
  have appends : (serdeOf [nftablesDefault] [routerDefault]).Appends (patchesText [nftablesDefault]) [routerDefault] := by
    intro _ raws opened
    rw [documents_given, Except.ok.injEq] at opened
    refine ⟨[patchRaw routerDefault 1], ?_, rfl⟩
    rw [documents_extended _ (by simp), ← opened]
    rfl
  have reads : SlipmeshFile.read (serdeOf [nftablesDefault] [routerDefault]) (patchesText [nftablesDefault]) =
      .ok (oneNodeFile [nftablesDefault]) := by
    rw [read_of_documents (documents_given _ _)]
    decide +kernel
  rw [← lacks] at appends
  obtain ⟨extended, reads, kept⟩ := defaults_kept_iff reads (ended_append _ _) appends
  rw [lacks] at reads kept
  refine ⟨extended, reads, (kept "node-a" (by simp [oneNodeFile])).mpr ?_⟩
  intro default listed
  rw [List.mem_singleton] at listed
  rw [listed]
  exact ⟨by decide +kernel, by decide +kernel⟩

/-- The router's own patch for every host loses its file to the template appended. -/
theorem defaults_not_kept :
    missing templates (oneNodeFile [extraFile]) = [routerDefault, nftablesDefault] ∧
    SlipmeshFile.read (serdeOf [extraFile] [routerDefault, nftablesDefault]) (patchesText [extraFile]) =
      .ok (oneNodeFile [extraFile]) ∧
    SlipmeshFile.read (serdeOf [extraFile] [routerDefault, nftablesDefault])
        (append (patchesText [extraFile]) [routerDefault, nftablesDefault]) =
      .ok (oneNodeFile [extraFile, routerDefault, nftablesDefault]) ∧
    ¬ KeepsFiles (serdeOf [extraFile] [routerDefault, nftablesDefault]) templates (oneNodeFile [extraFile])
      (oneNodeFile [extraFile, routerDefault, nftablesDefault]) "node-a" := by
  refine ⟨by decide +kernel, ?_, ?_, ?_⟩
  · rw [read_of_documents (documents_given _ _)]
    decide +kernel
  · rw [read_of_documents (documents_extended _ (by simp))]
    decide +kernel
  · intro given
    obtain ⟨before, after, given, given', kept, _⟩ := given
    rw [patchesFor_ok _ _ (by simp [oneNodeFile]), Except.ok.injEq] at given given'
    have held : Gives before (serviceIdentity "router") extraFile.entry := by
      rw [← given]
      decide +kernel
    have lost : ¬ Gives after (serviceIdentity "router") extraFile.entry := by
      rw [← given']
      decide +kernel
    exact lost (kept _ _ rfl held)

end Slipmesh.Taloscfg
