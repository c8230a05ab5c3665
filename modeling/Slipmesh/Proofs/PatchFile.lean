import Slipmesh.Proofs.CidrText
import Slipmesh.Proofs.Generate
import Mathlib.Data.List.InsertIdx

/-! The documents of a patch file that are the generated services': how many there are
of each, and how often they mount the generated file. -/

namespace Slipmesh.Taloscfg
open Library Yaml

/-- What is read as the path of an item: what its key holds, whatever the tag of either,
or what comes first where the item is a list. -/
def readMountPath : Value → Option String
  | .mapping _ entries => (entries.find? (·.1.asStr = some "mountPath")).bind (·.2.asStr)
  | .sequence _ items => items.head?.bind Value.asStr
  | .scalar .. => none

/-- What is read as the content of an item: what its key holds, whatever the tag of either,
or what comes second where the item is a list. -/
def readContent : Value → Option String
  | .mapping _ entries => (entries.find? (·.1.asStr = some "content")).bind (·.2.asStr)
  | .sequence _ items => items[1]?.bind Value.asStr
  | .scalar .. => none

/-- Files are read item by item, as far as one thing goes that is read of each. -/
def Renderer.Reads {β : Type} (renderer : Renderer) (of : ConfigFile → β) (read : Value → β) : Prop :=
  ∀ {value : Value} {files : List ConfigFile}, renderer.readFiles value = .ok files →
    files.map of = (value.asSequence.getD []).map read

/-- Files are read item by item. -/
def Renderer.ReadsItems (renderer : Renderer) : Prop :=
  ∀ {value : Value} {files : List ConfigFile}, renderer.readFiles value = .ok files →
    files.map (fun file => some file.mountPath) = (value.asSequence.getD []).map readMountPath

def Identity.isService (name : String) (identity : Identity) : Bool :=
  identity.kind = some "ExtensionServiceConfig" && identity.name = some name

/-- Of each generated service there is one document, which mounts the generated file once. -/
def OneEach (documents : List Value) : Prop :=
  ∀ entry ∈ generated, ∃ document, documents.filter (fun document => (Identity.of document).isService entry.1) = [document] ∧
    (configFiles document).countP (mountPath · = some entry.2) = 1

/-- The identities of a host's documents that are written as the service's. -/
def writtenAs (patches : List Document) (host name : String) : List Identity :=
  (identities patches host).filter (·.text = "ExtensionServiceConfig/" ++ name)

/-- Of the identities that are written as the service's, only the first may be its own,
and the files of that one are read as none at the path. -/
structure Sole (patches : List Document) (host name path : String) : Prop where
  alone : ∀ identity ∈ (writtenAs patches host name).tail, identity.name = none
  beside : ∀ identity ∈ (writtenAs patches host name).head?,
    ∀ item ∈ lastFiles (sources patches host identity).reverse, readMountPath item ≠ some path

variable {renderer : Renderer} {curve : Curve} {file : SlipmeshFile} {resolved : ResolvedSecrets} {host name : String}
  {β : Type} {of : ConfigFile → β} {read : Value → β}

/-! ### Identities as texts -/

theorem text_of_service {identity : Identity} (service : identity.isService name) :
    identity.text = "ExtensionServiceConfig/" ++ name := by
  simp only [Identity.isService, Bool.and_eq_true, decide_eq_true_eq] at service
  have slash : "ExtensionServiceConfig" ++ "/" = "ExtensionServiceConfig/" := by decide
  rw [Identity.text, service.1, service.2, ← slash, String.append_assoc]
  rfl

/-- Written as the service's, an identity with a name is the service's own. -/
theorem service_of_text {identity : Identity} (plain : '/' ∉ name.toList) (named : identity.name ≠ none)
    (written : identity.text = "ExtensionServiceConfig/" ++ name) : identity.isService name := by
  obtain ⟨own, named⟩ := Option.ne_none_iff_exists'.mp named
  have slash : "ExtensionServiceConfig/" = "ExtensionServiceConfig" ++ String.singleton '/' := by decide
  have shape : identity.text = identity.kind.getD "" ++ String.singleton '/' ++ own := by
    rw [Identity.text, named, String.append_assoc]
    rfl
  rw [shape, slash] at written
  -- The text has one slash, so there is none in what stands before it.
  have single := congrArg (List.count '/' ·.toList) written
  have kind_plain : List.count '/' ("ExtensionServiceConfig" : String).toList = 0 := by decide
  simp only [String.toList_append, List.count_append, kind_plain, List.count_eq_zero.mpr plain, String.toList_singleton,
    List.count_singleton_self] at single
  have before : '/' ∉ (identity.kind.getD "").toList := List.count_eq_zero.mp (by omega)
  have split := Proofs.CidrText.splitOnce_append '/' own before
  rw [written, Proofs.CidrText.splitOnce_append '/' name (List.count_eq_zero.mp kind_plain), Option.some.injEq,
    Prod.mk.injEq] at split
  obtain ⟨kind, same⟩ := split
  rw [Identity.isService, named, ← same]
  cases held : identity.kind with
  | none => simp [held] at kind
  | some kind' =>
    rw [held] at kind
    simp [kind]

/-! ### The files taken out of the patches -/

/-- The first of the identities written as the service's is left out. -/
def without (name : String) (listed : List Identity) : List Identity :=
  listed.eraseP (·.text = "ExtensionServiceConfig/" ++ name)

theorem takeAddedFiles_ok (reads : renderer.Reads of read) {document : Identity → HostDocument}
    (written : ∀ identity, (document identity).identity = identity.text) {listed : List Identity} {files : List ConfigFile}
    {rest : List HostDocument} (ok : takeAddedFiles renderer (listed.map document) name = .ok (files, rest)) :
    rest = (without name listed).map document ∧
      files.map of = (listed.find? (·.text = "ExtensionServiceConfig/" ++ name)).elim [] fun identity =>
        (configFiles (document identity).value).map read := by
  have index : (listed.map document).findIdx? (·.identity = "ExtensionServiceConfig/" ++ name) =
      listed.findIdx? (·.text = "ExtensionServiceConfig/" ++ name) := by
    rw [List.findIdx?_map]
    simp only [Function.comp_def, written]
  rw [takeAddedFiles, index] at ok
  rw [without, List.eraseP_eq_eraseIdx, List.find?_eq_bind_findIdx?_getElem?]
  cases first : listed.findIdx? (·.text = "ExtensionServiceConfig/" ++ name) with
  | none =>
    rw [first] at ok
    cases ok
    exact ⟨rfl, rfl⟩
  | some place =>
    rw [first] at ok
    simp only [List.getElem?_map, Option.bind_some] at ok ⊢
    cases found : listed[place]? with
    | none =>
      simp only [found, Option.map_none, Option.bind_none, Except.ok.injEq, Prod.mk.injEq] at ok
      obtain ⟨rfl, rfl⟩ := ok
      exact ⟨List.eraseIdx_map .., rfl⟩
    | some identity =>
      simp only [found, Option.map_some, Option.bind_some] at ok
      simp only [Option.elim_some, configFiles]
      cases held : (document identity).value.get "configFiles" with
      | none =>
        rw [held] at ok
        cases ok
        exact ⟨List.eraseIdx_map .., rfl⟩
      | some value =>
        simp only [held, bind_ok, mapError_ok, pure_ok, Prod.mk.injEq] at ok
        obtain ⟨files', parsed, rfl, rfl⟩ := ok
        exact ⟨List.eraseIdx_map .., reads parsed⟩

theorem filter_without (listed : List Identity) :
    (without name listed).filter (·.text = "ExtensionServiceConfig/" ++ name) =
      (listed.filter (·.text = "ExtensionServiceConfig/" ++ name)).tail := by
  induction listed with
  | nil => rfl
  | cons identity listed ih =>
    by_cases written : identity.text = "ExtensionServiceConfig/" ++ name
    · simp [without, written]
    · rw [without] at ih ⊢
      simp [written, ih]

/-- What is taken out for one service is not written as another's. -/
theorem filter_without_other {other : String} (differ : name ≠ other) (listed : List Identity) :
    (without other listed).filter (·.text = "ExtensionServiceConfig/" ++ name) =
      listed.filter (·.text = "ExtensionServiceConfig/" ++ name) := by
  induction listed with
  | nil => rfl
  | cons identity listed ih =>
    rw [without] at ih ⊢
    by_cases written : identity.text = "ExtensionServiceConfig/" ++ other
    · have apart : "ExtensionServiceConfig/" ++ other ≠ "ExtensionServiceConfig/" ++ name := by
        simpa [String.append_right_inj] using differ.symm
      simp [written, apart]
    · simp [written, List.filter_cons, ih]

/-! ### The trees of the documents -/

theorem identity_addLegacy (document : HostDocument) :
    Identity.of (addLegacyNftablesFile renderer document).value = Identity.of document.value := by
  rw [addLegacyNftablesFile]
  split
  · rfl
  · split
    · rfl
    · exact identity_alter_configFiles _ _

theorem readMountPath_fileAsText (serde : Serde) (file : Value) : readMountPath (fileAsText serde file) = readMountPath file := by
  cases file with
  | scalar tag content => rfl
  | sequence tag items => rfl
  | mapping tag entries =>
    change ((IndexMap.alter entries (.ofString "content") (contentAsText serde)).find? _).bind _ = (entries.find? _).bind _
    induction entries with
    | nil => rfl
    | cons entry entries ih =>
      rw [IndexMap.alter] at ih ⊢
      by_cases content : entry.1 = .ofString "content"
      · have apart : entry.1.asStr ≠ some "mountPath" := by
          rw [content, Value.asStr_ofString]
          decide
        simpa [content, List.find?_cons] using ih
      · by_cases path : entry.1.asStr = some "mountPath"
        · simp [content, path]
        · simpa [content, path] using ih

/-! ### A patch file -/

/-- The tree of an identity's document. -/
def hostTree (renderer : Renderer) (patches : List Document) (host : String) (identity : Identity) : Value :=
  (addLegacyNftablesFile renderer (hostDocument renderer.toSerde patches host identity)).value

/-- The files of an identity's document. -/
def givenFiles (serde : Serde) (patches : List Document) (host : String) (identity : Identity) : List Value :=
  (lastFiles (sources patches host identity).reverse).map (fileAsText serde)

/-- The files that a service is given. -/
def addedFiles (serde : Serde) (patches : List Document) (host name : String) : List Value :=
  (writtenAs patches host name).head?.elim [] (givenFiles serde patches host)

/-- The paths of the files that a service is given. -/
def addedPaths (patches : List Document) (host name : String) : List (Option String) :=
  (writtenAs patches host name).head?.elim [] fun identity =>
    (lastFiles (sources patches host identity).reverse).map readMountPath

theorem paths_addedFiles (serde : Serde) (patches : List Document) (host name : String) :
    (addedFiles serde patches host name).map readMountPath = addedPaths patches host name := by
  rw [addedFiles, addedPaths]
  cases (writtenAs patches host name).head? with
  | none => rfl
  | some identity =>
    simp only [Option.elim_some, givenFiles, List.map_map]
    apply List.map_congr_left
    intro item _
    exact readMountPath_fileAsText serde item

theorem configFiles_hostDocument {patches : List Document} (kinds : AllKinds patches) (serde : Serde) (host : String)
    (identity : Identity) :
    configFiles (hostDocument serde patches host identity).value = givenFiles serde patches host identity := by
  rw [hostDocument, configFiles_contentsAsText, configFiles_mergeAll_eq (keyed_sources kinds host identity), givenFiles]

theorem takeAddedFiles_added (reads : renderer.Reads of read) {patches : List Document} (kinds : AllKinds patches)
    {listed : List Identity} {files : List ConfigFile} {rest : List HostDocument}
    (first : listed.find? (·.text = "ExtensionServiceConfig/" ++ name) = (writtenAs patches host name).head?)
    (ok : takeAddedFiles renderer (listed.map (hostDocument renderer.toSerde patches host)) name = .ok (files, rest)) :
    rest = (without name listed).map (hostDocument renderer.toSerde patches host) ∧
      files.map of = (addedFiles renderer.toSerde patches host name).map read := by
  obtain ⟨left, added⟩ := takeAddedFiles_ok reads (fun _ => rfl) ok
  refine ⟨left, ?_⟩
  rw [added, first, addedFiles]
  cases (writtenAs patches host name).head? with
  | none => rfl
  | some identity => exact congrArg (List.map read) (configFiles_hostDocument kinds _ host identity)

/-- The identities whose documents are left of the patches. -/
def leftOf (patches : List Document) (host : String) : List Identity :=
  without "router" (without "awg" (identities patches host))

theorem leftOf_sub (patches : List Document) (host : String) : leftOf patches host ⊆ identities patches host :=
  fun _ listed => List.mem_of_mem_eraseP (List.mem_of_mem_eraseP listed)

theorem leftOf_router (patches : List Document) (host : String) :
    (leftOf patches host).filter (·.text = "ExtensionServiceConfig/" ++ "router") = (writtenAs patches host "router").tail := by
  rw [leftOf, filter_without, filter_without_other (by decide), writtenAs]

/-- The trees of a patch file: what is left of the patches, and a document of either
service with the files it is given. The templates have been checked. -/
theorem renderValues_ok (reads : renderer.Reads of read) (kinds : AllKinds file.patches) {documents : List Value}
    (ok : renderValues renderer curve file resolved host = .ok documents) :
    ∃ awgText routerText awgFiles routerFiles routerCfg,
      documents = (leftOf file.patches host).map (hostTree renderer file.patches host) ++
        [extensionServiceDocument "awg" awgText awgFiles, extensionServiceDocument "router" routerText routerFiles] ∧
      awgFiles.map of = (addedFiles renderer.toSerde file.patches host "awg").map read ∧
      routerFiles.map of = (addedFiles renderer.toSerde file.patches host "router").map read ∧
      validateRouterTemplate renderer routerFiles routerCfg = .ok () ∧
      validateNftablesTemplate renderer ((leftOf file.patches host).map (hostDocument renderer.toSerde file.patches host)) =
        .ok () := by
  simp only [renderValues, renderDocuments, bind_ok, mapError_ok, exists_unit, pure_ok, Prod.exists] at ok
  obtain ⟨_, ⟨model, _, awgCfg, _, _, _, routerCfg, _, _, patches, given, awgFiles, rest, awg, routerFiles, rest', router,
    template, ruleset, rfl⟩, rfl⟩ := ok
  obtain rfl := eq_of_patchesFor given
  obtain ⟨rfl, awgAdded⟩ := takeAddedFiles_added reads kinds List.head?_filter.symm awg
  have first : (without "awg" (identities file.patches host)).find? (·.text = "ExtensionServiceConfig/" ++ "router") =
      (writtenAs file.patches host "router").head? := by
    rw [← List.head?_filter, filter_without_other (by decide), writtenAs]
  obtain ⟨rfl, routerAdded⟩ := takeAddedFiles_added reads kinds first router
  refine ⟨renderer.awgText awgCfg, renderer.routerText routerCfg, awgFiles, routerFiles, routerCfg, ?_, awgAdded, routerAdded,
    template, ruleset⟩
  rw [List.map_append, List.map_map, List.map_map, List.map_map]
  rfl

theorem identity_hostTree {patches : List Document} (kinds : AllKinds patches) {identity : Identity}
    (reached : identity ∈ identities patches host) : Identity.of (hostTree renderer patches host identity) = identity := by
  rw [hostTree, identity_addLegacy, identity_hostDocument kinds identity reached]

/-- Of the patches' own documents none is a service's exactly where the identities
written as it have no name after the first. -/
theorem none_left_iff {patches : List Document} (kinds : AllKinds patches) (plain : '/' ∉ name.toList) {rest : List Identity}
    (sub : rest ⊆ identities patches host)
    (left : rest.filter (·.text = "ExtensionServiceConfig/" ++ name) = (writtenAs patches host name).tail) :
    (rest.map (hostTree renderer patches host)).filter (fun document => (Identity.of document).isService name) = [] ↔
      ∀ identity ∈ (writtenAs patches host name).tail, identity.name = none := by
  rw [List.filter_eq_nil_iff, List.forall_mem_map, ← left]
  simp only [List.mem_filter, decide_eq_true_eq, and_imp]
  constructor
  · intro none_left identity listed written
    by_contra named
    apply none_left identity listed
    rw [identity_hostTree kinds (sub listed)]
    exact service_of_text plain named written
  · intro unnamed identity listed service
    rw [identity_hostTree kinds (sub listed)] at service
    have missing := unnamed identity listed (text_of_service service)
    simp [Identity.isService, missing] at service

theorem mountPath_value (added : ConfigFile) : mountPath added.value = some added.mountPath := by
  simp [mountPath, ConfigFile.value, Value.get, Value.asMapping]

/-- The generated file is mounted once where no file added to it is at its path. -/
theorem mounted_once_iff {path : String} (own : generated.lookup name = some path) (text : String) (added : List ConfigFile) :
    (configFiles (extensionServiceDocument name text added)).countP (mountPath · = some path) = 1 ↔
      some path ∉ added.map fun file => some file.mountPath := by
  have files : configFiles (extensionServiceDocument name text added) = (⟨path, text⟩ :: added).map ConfigFile.value := by
    rw [extensionServiceDocument, own]
    rfl
  rw [files, List.map_cons, List.countP_cons_of_pos (by simp [mountPath_value]), List.countP_map]
  simp only [Function.comp_def, mountPath_value, Option.some.injEq, Nat.add_eq_right, List.countP_eq_zero, decide_eq_true_eq,
    List.mem_map, not_exists, not_and]

theorem exists_alone_iff {α : Type} {before : List α} {last : α} {p : α → Prop} :
    (∃ item, before ++ [last] = [item] ∧ p item) ↔ before = [] ∧ p last := by
  cases before with
  | nil => simp
  | cons first before => simp

/-- The patch file has one document of each service, with the generated file once,
exactly where no other is written as it with a name, and none of its files is at the path. -/
theorem values_oneEach_iff (reads : renderer.ReadsItems) (kinds : AllKinds file.patches) {documents : List Value}
    (ok : renderValues renderer curve file resolved host = .ok documents) :
    OneEach documents ↔ ∀ entry ∈ generated, Sole file.patches host entry.1 entry.2 := by
  have paths : renderer.Reads (fun file => some file.mountPath) readMountPath := reads
  obtain ⟨awgText, routerText, awgFiles, routerFiles, _, rfl, awgPaths, routerPaths, _, _⟩ := renderValues_ok paths kinds ok
  rw [paths_addedFiles] at awgPaths routerPaths
  have sub := leftOf_sub file.patches host
  have awgLeft : (leftOf file.patches host).filter (·.text = "ExtensionServiceConfig/" ++ "awg") =
      (writtenAs file.patches host "awg").tail := by
    rw [leftOf, filter_without_other (by decide), filter_without, writtenAs]
  have routerLeft := leftOf_router file.patches host
  have beside (name path : String) : some path ∉ addedPaths file.patches host name ↔
      ∀ identity ∈ (writtenAs file.patches host name).head?,
        ∀ item ∈ lastFiles (sources file.patches host identity).reverse, readMountPath item ≠ some path := by
    rw [addedPaths]
    cases (writtenAs file.patches host name).head? with
    | none => simp
    | some identity => simp
  have sole {name path text : String} {added : List ConfigFile} (own : generated.lookup name = some path)
      (plain : '/' ∉ name.toList) (given : added.map (fun file => some file.mountPath) = addedPaths file.patches host name)
      (left : (leftOf file.patches host).filter (·.text = "ExtensionServiceConfig/" ++ name) =
        (writtenAs file.patches host name).tail)
      {generatedDocuments : List Value} (alone : generatedDocuments.filter (fun document => (Identity.of document).isService name) =
        [extensionServiceDocument name text added]) :
      (∃ document, ((leftOf file.patches host).map (hostTree renderer file.patches host) ++ generatedDocuments).filter
          (fun document => (Identity.of document).isService name) = [document] ∧
        (configFiles document).countP (mountPath · = some path) = 1) ↔ Sole file.patches host name path := by
    rw [List.filter_append, alone, exists_alone_iff, none_left_iff kinds plain sub left, mounted_once_iff own, given, beside]
    constructor
    · intro both
      exact ⟨both.1, both.2⟩
    · intro sole
      exact ⟨sole.alone, sole.beside⟩
  simp only [OneEach, generated, List.forall_mem_cons, List.not_mem_nil, false_implies, implies_true, and_true]
  rw [sole (by decide) (by decide) awgPaths awgLeft rfl, sole (by decide) (by decide) routerPaths routerLeft rfl]

/-! ### The text of a patch file -/

theorem text_addLegacy {document : HostDocument} (text : document.text = renderer.text document.value) :
    (addLegacyNftablesFile renderer document).text = renderer.text (addLegacyNftablesFile renderer document).value := by
  rw [addLegacyNftablesFile]
  split
  · exact text
  · split
    · exact text
    · rfl

theorem takeAddedFiles_sub {patches rest : List HostDocument} {files : List ConfigFile}
    (ok : takeAddedFiles renderer patches name = .ok (files, rest)) : rest ⊆ patches := by
  rw [takeAddedFiles] at ok
  split at ok
  · cases ok
    exact List.Subset.refl _
  · split at ok
    · cases ok
      exact (List.eraseIdx_sublist ..).subset
    · simp only [bind_ok, pure_ok, Prod.mk.injEq] at ok
      obtain ⟨files', _, _, rfl⟩ := ok
      exact (List.eraseIdx_sublist ..).subset

/-- Every document of a patch file is the text of its tree. -/
theorem renderDocuments_texts {documents : List FileDocument}
    (ok : renderDocuments renderer curve file resolved host = .ok documents) :
    ∀ document ∈ documents, document.text = renderer.text document.value := by
  simp only [renderDocuments, bind_ok, mapError_ok, exists_unit, pure_ok, Prod.exists] at ok
  obtain ⟨_, -, _, -, -, -, _, -, -, patches, given, _, rest, awg, _, rest', router, -, -, rfl⟩ := ok
  have texts : ∀ document ∈ rest', document.text = renderer.text document.value := by
    intro document listed
    have listed := takeAddedFiles_sub awg (takeAddedFiles_sub router listed)
    rw [eq_of_patchesFor given] at listed
    obtain ⟨identity, _, rfl⟩ := List.mem_map.mp listed
    rfl
  intro document listed
  rcases List.mem_append.mp listed with patched | generated
  · obtain ⟨_, added, rfl⟩ := List.mem_map.mp patched
    obtain ⟨patch, left, rfl⟩ := List.mem_map.mp added
    exact text_addLegacy (texts patch left)
  · obtain ⟨_, _, rfl⟩ := List.mem_map.mp generated
    rfl

/-- A patch file is the texts of its trees. -/
theorem render_values {text : String} (ok : render renderer curve file resolved host = .ok text) :
    ∃ documents, renderValues renderer curve file resolved host = .ok documents ∧
      text = header ++ "---\n".intercalate (documents.map renderer.text) := by
  simp only [render, bind_ok, pure_ok] at ok
  obtain ⟨documents, rendered, rfl⟩ := ok
  refine ⟨documents.map (·.value), ?_, ?_⟩
  · simp only [renderValues, bind_ok, pure_ok]
    exact ⟨documents, rendered, rfl⟩
  · rw [List.map_map]
    have same : documents.map (·.text) = documents.map (renderer.text ∘ (·.value)) :=
      List.map_congr_left (renderDocuments_texts rendered)
    rw [same]

/-- Of every patch file that is rendered from a file that reads. -/
theorem rendered_oneEach_iff {text content : String} (read : SlipmeshFile.read renderer.toSerde text = .ok file)
    (reads : renderer.ReadsItems) (ok : render renderer curve file resolved host = .ok content) :
    ∃ documents, renderValues renderer curve file resolved host = .ok documents ∧
      content = header ++ "---\n".intercalate (documents.map renderer.text) ∧
      (OneEach documents ↔ ∀ entry ∈ generated, Sole file.patches host entry.1 entry.2) := by
  obtain ⟨documents, values, same⟩ := render_values ok
  exact ⟨documents, values, same, values_oneEach_iff reads (allKinds_of_read read) values⟩

/-! ### A node whose router is given its template -/

/-- A reader of items that are mappings, with each of the keys once. -/
def readItem : Value → Except String ConfigFile
  | .mapping _ entries =>
    match entries.filter (·.1.asStr = some "mountPath"), entries.filter (·.1.asStr = some "content") with
    | [path], [content] =>
      match path.2.asStr, content.2.asStr with
      | some path, some content => .ok ⟨path, content⟩
      | _, _ => .error "expected a string"
    | _, _ => .error "missing or duplicate field"
  | _ => .error "expected struct ConfigFile"

def readItems (files : Value) : Except String (List ConfigFile) :=
  match files.asSequence with
  | some items => items.mapM readItem
  | none => if files.isNull then .ok [] else .error "expected a sequence"

theorem readItem_ok {item : Value} {file : ConfigFile} (ok : readItem item = .ok file) :
    some file.mountPath = readMountPath item ∧ some file.content = readContent item := by
  have first {entries : List (Value × Value)} {key : String} {entry : Value × Value}
      (alone : entries.filter (·.1.asStr = some key) = [entry]) : entries.find? (·.1.asStr = some key) = some entry := by
    rw [← List.head?_filter, alone]
    rfl
  cases item with
  | scalar tag content => cases ok
  | sequence tag items => cases ok
  | mapping tag entries =>
    rw [readItem] at ok
    split at ok
    · rename_i path content paths contents
      split at ok
      · rename_i path' content' pathText contentText
        cases ok
        rw [readMountPath, readContent, first paths, first contents]
        exact ⟨pathText.symm, contentText.symm⟩
      · cases ok
    · cases ok

theorem mapM_readItem (each : ∀ item file, readItem item = .ok file → of file = read item) {items : List Value}
    {files : List ConfigFile} (ok : items.mapM readItem = .ok files) : files.map of = items.map read := by
  induction items generalizing files with
  | nil =>
    rw [List.mapM_nil, pure_ok] at ok
    rw [← ok]
    rfl
  | cons item items ih =>
    obtain ⟨first, rest, made, others, rfl⟩ := mapM_cons_ok.mp ok
    rw [List.map_cons, List.map_cons, each item first made, ih others]

theorem readItems_reads (each : ∀ item file, readItem item = .ok file → of file = read item)
    (items : renderer.readFiles = readItems) : renderer.Reads of read := by
  intro value files ok
  rw [items, readItems] at ok
  cases items : value.asSequence with
  | some items =>
    rw [items] at ok
    exact mapM_readItem each ok
  | none =>
    simp only [items] at ok
    split at ok
    · cases ok
      rfl
    · cases ok

/-- Of a file for one node. -/
def nodeRenderer (serde : Serde) : Renderer := { threeRenderer with toSerde := serde, readFiles := readItems }

theorem nodeRenderer_readsItems (serde : Serde) : (nodeRenderer serde).ReadsItems :=
  readItems_reads (fun _ _ ok => (readItem_ok ok).1) rfl

def nodeSecrets : ResolvedSecrets := (resolve twoKeys threeWorld.draws oneNode).1

theorem read_routerText :
    SlipmeshFile.read (serdeOf [routerDefault] []) (patchesText [routerDefault]) = .ok (oneNodeFile [routerDefault]) := by
  rw [read_of_documents (documents_given _ _)]
  decide +kernel

theorem rendered_oneEach_template : ∃ content documents,
    renderValues (nodeRenderer (serdeOf [routerDefault] [])) twoKeys (oneNodeFile [routerDefault]) nodeSecrets "node-a" =
      .ok documents ∧
    content = header ++ "---\n".intercalate (documents.map (nodeRenderer (serdeOf [routerDefault] [])).text) ∧
    (OneEach documents ↔ ∀ entry ∈ generated, Sole (oneNodeFile [routerDefault]).patches "node-a" entry.1 entry.2) := by
  have renders : (render (nodeRenderer (serdeOf [routerDefault] [])) twoKeys (oneNodeFile [routerDefault]) nodeSecrets
      "node-a").isOk = true := by decide +kernel
  obtain ⟨content, rendered⟩ := exists_of_isOk renders
  exact ⟨content, rendered_oneEach_iff read_routerText (nodeRenderer_readsItems _) rendered⟩

/-! ### Two documents that are not met by their text's first -/

/-- A document with one file, and its kind in one text. -/
def looseEntries (version kind mount : String) : List (Value × Value) := [
  (.ofString "apiVersion", .ofString version), (.ofString "kind", .ofString kind),
  (.ofString "configFiles", .sequence none [stringMap [("mountPath", mount), ("content", "log all")]])]

def looseValue (version kind mount : String) (named : List (Value × Value)) : Value :=
  .mapping none ((.ofString metaKey, patchBlock) :: (looseEntries version kind mount ++ named))

/-- The router once more, under another version. -/
def otherVersion : Value :=
  looseValue "v1beta1" "ExtensionServiceConfig" "/etc/talos-extensions/extra.conf" [(.ofString "name", .ofString "router")]

/-- The generated file of `awg`, under a kind that has the name in it. -/
def slashedKind : Value := looseValue "v1alpha1" "ExtensionServiceConfig/awg" "/etc/talos-extensions/awg.yaml" []

theorem otherVersion_distinct : otherVersion.keys.Nodup := by
  change ([metaKey, "apiVersion", "kind", "configFiles", "name"].map Value.ofString).Nodup
  decide +kernel

theorem slashedKind_distinct : slashedKind.keys.Nodup := by
  change ([metaKey, "apiVersion", "kind", "configFiles"].map Value.ofString).Nodup
  decide +kernel

def looseText (version kind mount named : String) : String :=
  "---\nslipmesh:\n  kind: patch\napiVersion: " ++ version ++ "\nkind: " ++ kind ++
    "\nconfigFiles:\n  - mountPath: " ++ mount ++ "\n    content: log all\n" ++ named

def strayText : String :=
  patchesText [routerDefault] ++
    looseText "v1beta1" "ExtensionServiceConfig" "/etc/talos-extensions/extra.conf" "name: router\n" ++
    looseText "v1alpha1" "ExtensionServiceConfig/awg" "/etc/talos-extensions/awg.yaml" ""

def strayRaws : List RawDocument := patchesRaw [routerDefault] ++ [
  { index := 2
    line := 20
    value := .ok ⟨otherVersion, otherVersion_distinct⟩
    mesh := .error "missing field cluster"
    pool := .error "missing field node_hostnames" },
  { index := 3
    line := 29
    value := .ok ⟨slashedKind, slashedKind_distinct⟩
    mesh := .error "missing field cluster"
    pool := .error "missing field name" }]

def straySerde : Serde where
  documents text := if text = strayText then .ok strayRaws else .error "no slipmesh block"
  readMeta := readBlock
  readMesh value :=
    if value = .mapping none (oneNodeEntries ++ [(.ofString "roadwarriors", .sequence none [])]) then .ok oneNode
    else .error "missing field cluster"
  text := blockText
  readMeta_patchBlock := readBlock_patchBlock

def strayFile : SlipmeshFile := { oneNodeFile [routerDefault] with
  patches := (oneNodeFile [routerDefault]).patches ++ [
    { index := 2
      line := 20
      block := { kind := .patch }
      value := otherVersion.remove metaKey
      distinct := Value.keys_remove _ _ otherVersion_distinct
      mesh := .error "missing field cluster"
      pool := .error "missing field node_hostnames" },
    { index := 3
      line := 29
      block := { kind := .patch }
      value := slashedKind.remove metaKey
      distinct := Value.keys_remove _ _ slashedKind_distinct
      mesh := .error "missing field cluster"
      pool := .error "missing field name" }] }

theorem documents_straySerde (text : String) :
    straySerde.documents text = if text = strayText then .ok strayRaws else .error "no slipmesh block" := rfl

/-- The patch file has two documents of the router, and that of `awg` has its generated
file twice. -/
theorem rendered_twice :
    SlipmeshFile.read straySerde strayText = .ok strayFile ∧
    ∃ content documents, render (nodeRenderer straySerde) twoKeys strayFile nodeSecrets "node-a" = .ok content ∧
      renderValues (nodeRenderer straySerde) twoKeys strayFile nodeSecrets "node-a" = .ok documents ∧
      documents.countP (fun document => (Identity.of document).isService "router") = 2 ∧
      (documents.filter fun document => (Identity.of document).isService "awg").map
        (fun document => (configFiles document).countP (mountPath · = some "/etc/talos-extensions/awg.yaml")) = [2] ∧
      ¬ OneEach documents := by
  have read : SlipmeshFile.read straySerde strayText = .ok strayFile := by
    have opened : straySerde.documents strayText = .ok strayRaws := by rw [documents_straySerde, if_pos rfl]
    rw [read_of_documents opened]
    decide +kernel
  have renders : (render (nodeRenderer straySerde) twoKeys strayFile nodeSecrets "node-a").isOk = true := by decide +kernel
  obtain ⟨content, rendered⟩ := exists_of_isOk renders
  obtain ⟨documents, values, _⟩ := render_values rendered
  have counts : (renderValues (nodeRenderer straySerde) twoKeys strayFile nodeSecrets "node-a").map (fun documents =>
      (documents.countP (fun document => (Identity.of document).isService "router"),
        (documents.filter fun document => (Identity.of document).isService "awg").map
          fun document => (configFiles document).countP (mountPath · = some "/etc/talos-extensions/awg.yaml"))) = .ok (2, [2]) := by
    decide +kernel
  rw [values] at counts
  obtain ⟨routers, mounted⟩ := Prod.ext_iff.mp (Except.ok.inj counts)
  dsimp only at routers
  refine ⟨read, content, documents, rendered, values, routers, mounted, ?_⟩
  intro each
  obtain ⟨document, alone, _⟩ := each ("router", "/etc/talos-extensions/router.yaml") (by decide)
  rw [List.countP_eq_length_filter, alone] at routers
  cases routers

end Slipmesh.Taloscfg
