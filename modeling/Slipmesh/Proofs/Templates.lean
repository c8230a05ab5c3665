import Slipmesh.Proofs.PatchFile

/-! The templates in a patch file: which of them are compiled while it is rendered. -/

namespace Slipmesh.Taloscfg
open Library Yaml

/-- Files are read item by item, their contents with their paths. -/
def Renderer.ReadsWhole (renderer : Renderer) : Prop :=
  renderer.Reads (fun file => (some file.mountPath, some file.content)) fun item => (readMountPath item, readContent item)

def contentText (file : Value) : Option String := (file.get "content").bind Value.asStr

/-- The contents of the files at a path. -/
def templatesAt (path : String) (files : List Value) : List (Option String) :=
  (files.filter (mountPath · = some path)).map contentText

/-- The contents of the files at a path, as they are read. -/
def readTemplates (path : String) (files : List Value) : List (Option String) :=
  (files.filter (readMountPath · = some path)).map readContent

/-- Every template of either service, in a document of its own, compiles. -/
structure Compile (routerCompiles nftablesCompiles : String → Prop) (documents : List Value) : Prop where
  router : ∀ document ∈ documents, (Identity.of document).isService "router" → ∀ text,
    some text ∈ templatesAt routerTemplatePath (configFiles document) → routerCompiles text
  nftables : ∀ document ∈ documents, (Identity.of document).isService "nftables" → ∀ text,
    some text ∈ templatesAt nftablesTemplatePath (configFiles document) → nftablesCompiles text

/-- Of a host's templates, those compile that are not met first: in the document that the
router's files are taken from, in any other document of the router, and in those of nftables. -/
structure LaterCompile (routerCompiles nftablesCompiles : String → Prop) (serde : Serde) (patches : List Document)
    (host : String) : Prop where
  router : ∀ text, some text ∈ (readTemplates routerTemplatePath (addedFiles serde patches host "router")).tail →
    routerCompiles text
  otherRouters : ∀ identity ∈ (writtenAs patches host "router").tail, identity.name ≠ none → ∀ text,
    some text ∈ templatesAt routerTemplatePath (givenFiles serde patches host identity) → routerCompiles text
  nftables : ∀ identity ∈ identities patches host, identity.isService "nftables" → ∀ text,
    some text ∈ (templatesAt nftablesTemplatePath (givenFiles serde patches host identity)).tail → nftablesCompiles text

variable {renderer : Renderer} {curve : Curve} {file : SlipmeshFile} {resolved : ResolvedSecrets} {host : String}
  {routerCompiles nftablesCompiles : String → Prop}

/-! ### What is checked of a list of templates -/

theorem forall_tail_iff {templates : List (Option String)} {compiles : String → Prop}
    (first : ∀ text, templates.head? = some (some text) → compiles text) :
    (∀ text, some text ∈ templates → compiles text) ↔ ∀ text, some text ∈ templates.tail → compiles text := by
  cases templates with
  | nil => rfl
  | cons template rest =>
    constructor
    · intro all text later
      exact all text (List.mem_cons_of_mem _ later)
    · intro later text member
      rcases List.mem_cons.mp member with rfl | member
      · exact first text rfl
      · exact later text member

theorem nftablesTemplate_eq (document : Value) :
    nftablesTemplate document = (templatesAt nftablesTemplatePath (configFiles document)).head?.join := by
  rw [templatesAt, List.head?_map, List.head?_filter, configFiles, nftablesTemplate]
  cases document.get "configFiles" with
  | none => rfl
  | some files =>
    simp only [Option.bind_eq_bind, Option.bind_some]
    cases files.asSequence with
    | none => rfl
    | some items =>
      simp only [Option.bind_some, Option.getD_some]
      cases items.find? (mountPath · = some nftablesTemplatePath) with
      | none => rfl
      | some item => rfl

theorem router_checked {files : List ConfigFile} {cfg : Router.RouterConfig}
    (ok : validateRouterTemplate renderer files cfg = .ok ()) :
    ∃ first, files.find? (·.mountPath = routerTemplatePath) = some first ∧
      renderer.checkRouterTemplate first.content cfg = .ok () := by
  rw [validateRouterTemplate] at ok
  cases found : files.find? (·.mountPath = routerTemplatePath) with
  | none => simp [found] at ok
  | some first =>
    simp only [found, mapError_ok] at ok
    exact ⟨first, rfl, ok⟩

theorem nftables_checked {documents : List HostDocument} (ok : validateNftablesTemplate renderer documents = .ok ()) :
    ∀ document ∈ documents, document.identity = nftablesIdentity → ∀ text, nftablesTemplate document.value = some text →
      renderer.checkNftablesTemplate text = .ok () := by
  rw [validateNftablesTemplate, List.forM_eq_forM, forM_ok] at ok
  intro document listed identity text found
  have checked := ok document (List.mem_filter.mpr ⟨listed, decide_eq_true identity⟩)
  simpa only [found, mapError_ok] using checked

/-! ### The documents -/

theorem contentText_value (added : ConfigFile) : contentText added.value = some added.content := by
  simp [contentText, ConfigFile.value, Value.get, Value.asMapping]

/-- The generated document of the router has the templates that are read of the files it is given. -/
theorem templatesAt_router {files : List ConfigFile} {items : List Value}
    (given : files.map (fun file => (some file.mountPath, some file.content)) =
      items.map fun item => (readMountPath item, readContent item)) (text : String) :
    templatesAt routerTemplatePath (configFiles (extensionServiceDocument "router" text files)) =
        (files.filter (·.mountPath = routerTemplatePath)).map (fun file => some file.content) ∧
      readTemplates routerTemplatePath items =
        (files.filter (·.mountPath = routerTemplatePath)).map fun file => some file.content := by
  constructor
  · have own : generated.lookup "router" = some "/etc/talos-extensions/router.yaml" := rfl
    have listed : configFiles (extensionServiceDocument "router" text files) =
        (⟨"/etc/talos-extensions/router.yaml", text⟩ :: files).map ConfigFile.value := by
      rw [extensionServiceDocument, own]
      rfl
    have apart : "/etc/talos-extensions/router.yaml" ≠ routerTemplatePath := by decide
    rw [templatesAt, listed, List.filter_map, List.map_map]
    simp only [Function.comp_def, mountPath_value, contentText_value, Option.some.injEq]
    rw [List.filter_cons_of_neg (by simpa using apart)]
  · have pairs := congrArg (fun pairs => (pairs.filter (·.1 = some routerTemplatePath)).map Prod.snd) given
    simp only [List.filter_map, List.map_map, Function.comp_def, Option.some.injEq] at pairs
    exact pairs.symm

theorem templatesAt_push {path : String} {added : Value} (apart : mountPath added ≠ some path) (document : Value) :
    templatesAt path (configFiles (document.alter "configFiles" (Value.push added))) =
      templatesAt path (configFiles document) := by
  rw [configFiles, configFiles, Value.get_alter, if_pos rfl]
  cases document.get "configFiles" with
  | none => rfl
  | some files =>
    cases files with
    | scalar tag content => rfl
    | mapping tag entries => rfl
    | sequence tag items =>
      change templatesAt path (items ++ [added]) = templatesAt path items
      rw [templatesAt, List.filter_append, List.filter_cons_of_neg (by simpa using apart), List.filter_nil, List.append_nil]
      rfl

/-- The file that is added for an older daemon is at another path. -/
theorem templatesAt_addLegacy {path : String} (apart : legacyNftablesPath ≠ path) (document : HostDocument) :
    templatesAt path (configFiles (addLegacyNftablesFile renderer document).value) =
      templatesAt path (configFiles document.value) := by
  rw [addLegacyNftablesFile]
  split
  · rfl
  · split
    · rfl
    · apply templatesAt_push
      rw [mountPath_value]
      exact fun same => apart (Option.some.inj same)

theorem templatesAt_hostTree {path : String} (apart : legacyNftablesPath ≠ path) {patches : List Document}
    (kinds : AllKinds patches) (identity : Identity) :
    templatesAt path (configFiles (hostTree renderer patches host identity)) =
      templatesAt path (givenFiles renderer.toSerde patches host identity) := by
  rw [hostTree, templatesAt_addLegacy apart, configFiles_hostDocument kinds]

/-! ### The identities left of the patches -/

theorem leftOf_isRouter {patches : List Document} {identity : Identity} :
    identity ∈ leftOf patches host ∧ identity.isService "router" ↔
      identity ∈ (writtenAs patches host "router").tail ∧ identity.name ≠ none := by
  rw [← leftOf_router, List.mem_filter, decide_eq_true_eq]
  constructor
  · intro given
    obtain ⟨listed, service⟩ := given
    refine ⟨⟨listed, text_of_service service⟩, ?_⟩
    intro unnamed
    simp [Identity.isService, unnamed] at service
  · intro given
    obtain ⟨⟨listed, written⟩, named⟩ := given
    exact ⟨listed, service_of_text (by decide) named written⟩

theorem mem_without {name : String} {identity : Identity} (other : identity.text ≠ "ExtensionServiceConfig/" ++ name)
    (listed : List Identity) : identity ∈ without name listed ↔ identity ∈ listed :=
  List.mem_eraseP_of_neg (by simpa using other)

theorem leftOf_isNftables {patches : List Document} {identity : Identity} (service : identity.isService "nftables") :
    identity ∈ leftOf patches host ↔ identity ∈ identities patches host := by
  have other {name : String} (apart : "nftables" ≠ name) : identity.text ≠ "ExtensionServiceConfig/" ++ name := by
    rw [text_of_service service, Ne, String.append_right_inj]
    exact apart
  rw [leftOf, mem_without (other (by decide)), mem_without (other (by decide))]

theorem isService_generated (name text service : String) (files : List ConfigFile) :
    (Identity.of (extensionServiceDocument name text files)).isService service = true ↔ name = service := by
  have own : Identity.of (extensionServiceDocument name text files) =
      ⟨some "v1alpha1", some "ExtensionServiceConfig", some name⟩ := rfl
  rw [own]
  simp [Identity.isService]

/-! ### A patch file -/

section Documents
variable {awgText routerText : String} {awgFiles routerFiles : List ConfigFile}

/-- The documents of a service other than `awg`: those of what is left of the patches, and
the generated one if it is the router. -/
theorem forall_service_iff (kinds : AllKinds file.patches) {service : String} (other : "awg" ≠ service) (holds : Value → Prop) :
    (∀ document ∈ (leftOf file.patches host).map (hostTree renderer file.patches host) ++
        [extensionServiceDocument "awg" awgText awgFiles, extensionServiceDocument "router" routerText routerFiles],
      (Identity.of document).isService service → holds document) ↔
    (∀ identity ∈ leftOf file.patches host, identity.isService service →
      holds (hostTree renderer file.patches host identity)) ∧
    ("router" = service → holds (extensionServiceDocument "router" routerText routerFiles)) := by
  have tree (identity : Identity) (listed : identity ∈ leftOf file.patches host) :
      Identity.of (hostTree renderer file.patches host identity) = identity :=
    identity_hostTree kinds (leftOf_sub _ _ listed)
  constructor
  · intro all
    constructor
    · intro identity left its
      apply all _ (List.mem_append_left _ (List.mem_map_of_mem left))
      rw [tree identity left]
      exact its
    · intro same
      exact all _ (by simp) ((isService_generated ..).mpr same)
  · intro given document listed its
    obtain ⟨trees, generated⟩ := given
    rcases List.mem_append.mp listed with listed | listed
    · obtain ⟨identity, left, rfl⟩ := List.mem_map.mp listed
      rw [tree identity left] at its
      exact trees identity left its
    · simp only [List.mem_cons, List.not_mem_nil, or_false] at listed
      rcases listed with rfl | rfl
      · exact absurd ((isService_generated ..).mp its) other
      · exact generated ((isService_generated ..).mp its)

theorem routers_compile_iff (kinds : AllKinds file.patches) {cfg : Router.RouterConfig}
    (template : validateRouterTemplate renderer routerFiles cfg = .ok ())
    (checks : ∀ text cfg, renderer.checkRouterTemplate text cfg = .ok () → routerCompiles text)
    (given : routerFiles.map (fun file => (some file.mountPath, some file.content)) =
      (addedFiles renderer.toSerde file.patches host "router").map fun item => (readMountPath item, readContent item)) :
    (∀ document ∈ (leftOf file.patches host).map (hostTree renderer file.patches host) ++
        [extensionServiceDocument "awg" awgText awgFiles, extensionServiceDocument "router" routerText routerFiles],
      (Identity.of document).isService "router" → ∀ text,
        some text ∈ templatesAt routerTemplatePath (configFiles document) → routerCompiles text) ↔
    (∀ text, some text ∈ (readTemplates routerTemplatePath (addedFiles renderer.toSerde file.patches host "router")).tail →
      routerCompiles text) ∧
    ∀ identity ∈ (writtenAs file.patches host "router").tail, identity.name ≠ none → ∀ text,
      some text ∈ templatesAt routerTemplatePath (givenFiles renderer.toSerde file.patches host identity) → routerCompiles text := by
  obtain ⟨written, parsed⟩ := templatesAt_router given routerText
  rw [forall_service_iff kinds (by decide)]
  have first (text : String) (head : (readTemplates routerTemplatePath
      (addedFiles renderer.toSerde file.patches host "router")).head? = some (some text)) : routerCompiles text := by
    obtain ⟨checked, found, compiles⟩ := router_checked template
    rw [parsed, List.head?_map, List.head?_filter, found] at head
    cases head
    exact checks _ _ compiles
  rw [written.trans parsed.symm, forall_tail_iff first, and_comm]
  apply and_congr
  · exact ⟨fun all => all rfl, fun all _ => all⟩
  · constructor
    · intro trees identity listed named text held
      obtain ⟨left, service⟩ := leftOf_isRouter.mpr ⟨listed, named⟩
      apply trees identity left service
      rw [templatesAt_hostTree (by decide) kinds]
      exact held
    · intro others identity left service
      obtain ⟨tail, named⟩ := leftOf_isRouter.mp ⟨left, service⟩
      rw [templatesAt_hostTree (by decide) kinds]
      exact others identity tail named

theorem nftables_compile_iff (kinds : AllKinds file.patches)
    (ruleset : validateNftablesTemplate renderer ((leftOf file.patches host).map (hostDocument renderer.toSerde file.patches host)) =
      .ok ()) :
    (∀ document ∈ (leftOf file.patches host).map (hostTree renderer file.patches host) ++
        [extensionServiceDocument "awg" awgText awgFiles, extensionServiceDocument "router" routerText routerFiles],
      (Identity.of document).isService "nftables" → ∀ text,
        some text ∈ templatesAt nftablesTemplatePath (configFiles document) → renderer.checkNftablesTemplate text = .ok ()) ↔
    ∀ identity ∈ identities file.patches host, identity.isService "nftables" → ∀ text,
      some text ∈ (templatesAt nftablesTemplatePath (givenFiles renderer.toSerde file.patches host identity)).tail →
        renderer.checkNftablesTemplate text = .ok () := by
  rw [forall_service_iff kinds (by decide), and_iff_left fun same => absurd same (by decide)]
  apply forall_congr'
  intro identity
  by_cases service : identity.isService "nftables" = true
  · rw [leftOf_isNftables service, templatesAt_hostTree (by decide) kinds]
    apply imp_congr_right
    intro listed
    apply imp_congr_right
    intro _
    apply forall_tail_iff
    intro text first
    have left := (leftOf_isNftables service).mpr listed
    apply nftables_checked ruleset _ (List.mem_map_of_mem left) (text_of_service service)
    rw [nftablesTemplate_eq, configFiles_hostDocument kinds, first]
    rfl
  · exact ⟨fun _ _ its => absurd its service, fun _ _ its => absurd its service⟩

end Documents

/-- The templates of a patch file all compile exactly where those do that no check meets. -/
theorem values_compile_iff (reads : renderer.ReadsWhole) (kinds : AllKinds file.patches)
    (checks : ∀ text cfg, renderer.checkRouterTemplate text cfg = .ok () → routerCompiles text) {documents : List Value}
    (ok : renderValues renderer curve file resolved host = .ok documents) :
    Compile routerCompiles (fun text => renderer.checkNftablesTemplate text = .ok ()) documents ↔
      LaterCompile routerCompiles (fun text => renderer.checkNftablesTemplate text = .ok ()) renderer.toSerde file.patches host := by
  obtain ⟨awgText, routerText, awgFiles, routerFiles, cfg, rfl, _, added, template, ruleset⟩ := renderValues_ok reads kinds ok
  have routers := @routers_compile_iff _ _ _ _ awgText routerText awgFiles routerFiles kinds cfg template checks added
  have nftables := @nftables_compile_iff _ _ _ awgText routerText awgFiles routerFiles kinds ruleset
  constructor
  · intro compile
    obtain ⟨router, others⟩ := routers.mp compile.router
    exact ⟨router, others, nftables.mp compile.nftables⟩
  · intro later
    exact ⟨routers.mpr ⟨later.router, later.otherRouters⟩, nftables.mpr later.nftables⟩

/-- Of every patch file that is rendered from a file that reads. -/
theorem rendered_compile_iff {text content : String} (read : SlipmeshFile.read renderer.toSerde text = .ok file)
    (reads : renderer.ReadsWhole) (checks : ∀ text cfg, renderer.checkRouterTemplate text cfg = .ok () → routerCompiles text)
    (ok : render renderer curve file resolved host = .ok content) :
    ∃ documents, renderValues renderer curve file resolved host = .ok documents ∧
      content = header ++ "---\n".intercalate (documents.map renderer.text) ∧
      (Compile routerCompiles (fun text => renderer.checkNftablesTemplate text = .ok ()) documents ↔
        LaterCompile routerCompiles (fun text => renderer.checkNftablesTemplate text = .ok ()) renderer.toSerde file.patches
          host) := by
  obtain ⟨documents, values, same⟩ := render_values ok
  exact ⟨documents, values, same, values_compile_iff reads (allKinds_of_read read) checks values⟩

/-! ### A second template that does not compile -/

/-- A block that is left open does not compile. -/
def compileTemplate (source : String) : Except String Unit :=
  if source = "\x7b% if" then .error "unexpected end of input" else .ok ()

def compilingRenderer (serde : Serde) : Renderer :=
  { nodeRenderer serde with
    checkRouterTemplate := fun source _ => compileTemplate source
    checkNftablesTemplate := compileTemplate }

theorem compilingRenderer_readsWhole (serde : Serde) : (compilingRenderer serde).ReadsWhole :=
  readItems_reads (fun _ _ ok => Prod.ext (readItem_ok ok).1 (readItem_ok ok).2) rfl

theorem rendered_compile_template : ∃ content documents,
    renderValues (compilingRenderer (serdeOf [routerDefault] [])) twoKeys (oneNodeFile [routerDefault]) nodeSecrets "node-a" =
      .ok documents ∧
    content = header ++ "---\n".intercalate (documents.map (compilingRenderer (serdeOf [routerDefault] [])).text) ∧
    (Compile (compileTemplate · = .ok ()) (compileTemplate · = .ok ()) documents ↔
      LaterCompile (compileTemplate · = .ok ()) (compileTemplate · = .ok ()) (serdeOf [routerDefault] [])
        (oneNodeFile [routerDefault]).patches "node-a") := by
  have read : SlipmeshFile.read (serdeOf [routerDefault] []) (patchesText [routerDefault]) = .ok (oneNodeFile [routerDefault]) :=
    read_routerText
  have renders : (render (compilingRenderer (serdeOf [routerDefault] [])) twoKeys (oneNodeFile [routerDefault]) nodeSecrets
      "node-a").isOk = true := by decide +kernel
  obtain ⟨content, rendered⟩ := exists_of_isOk renders
  exact ⟨content, rendered_compile_iff read (compilingRenderer_readsWhole _) (fun _ _ compiles => compiles) rendered⟩

/-- The router's document with its template mounted twice. -/
def doubledEntries : List (Value × Value) := [
  (.ofString "apiVersion", .ofString "v1alpha1"), (.ofString "kind", .ofString "ExtensionServiceConfig"),
  (.ofString "name", .ofString "router"),
  (.ofString "configFiles", .sequence none [
    stringMap [("mountPath", routerTemplatePath), ("content", "protocol device")],
    stringMap [("mountPath", routerTemplatePath), ("content", "\x7b% if")]])]

theorem doubledEntries_distinct : (Value.mapping none doubledEntries).keys.Nodup := by
  change (["apiVersion", "kind", "name", "configFiles"].map Value.ofString).Nodup
  decide

theorem doubledBlock_distinct : (Value.mapping none ((.ofString metaKey, patchBlock) :: doubledEntries)).keys.Nodup := by
  change ([metaKey, "apiVersion", "kind", "name", "configFiles"].map Value.ofString).Nodup
  decide

def doubledText : String :=
  oneNodeText ++
    "---\nslipmesh:\n  kind: patch\napiVersion: v1alpha1\nkind: ExtensionServiceConfig\nname: router\nconfigFiles:\n" ++
    "  - mountPath: " ++ routerTemplatePath ++ "\n    content: protocol device\n" ++
    "  - mountPath: " ++ routerTemplatePath ++ "\n    content: '\x7b% if'\n"

def doubledRaws : List RawDocument := [
  oneNodeRaw,
  { index := 1
    line := 11
    value := .ok ⟨.mapping none ((.ofString metaKey, patchBlock) :: doubledEntries), doubledBlock_distinct⟩
    mesh := .error "missing field cluster"
    pool := .error "missing field node_hostnames" }]

def doubledFile : SlipmeshFile :=
  { oneNodeFile [] with
    patches := [{
      index := 1
      line := 11
      block := { kind := .patch }
      value := .mapping none doubledEntries
      distinct := doubledEntries_distinct
      mesh := .error "missing field cluster"
      pool := .error "missing field node_hostnames" }] }

def doubledSerde : Serde where
  documents text := if text = doubledText then .ok doubledRaws else .error "no slipmesh block"
  readMeta := readBlock
  readMesh value :=
    if value = .mapping none (oneNodeEntries ++ [(.ofString "roadwarriors", .sequence none [])]) then .ok oneNode
    else .error "missing field cluster"
  text := blockText
  readMeta_patchBlock := readBlock_patchBlock

theorem documents_doubledSerde (text : String) : doubledSerde.documents text =
    if text = doubledText then .ok doubledRaws else .error "no slipmesh block" := rfl

/-- Only the first of the two templates is compiled. -/
theorem second_template_unchecked : SlipmeshFile.read doubledSerde doubledText = .ok doubledFile ∧
    ∃ content documents, render (compilingRenderer doubledSerde) twoKeys doubledFile nodeSecrets "node-a" = .ok content ∧
      renderValues (compilingRenderer doubledSerde) twoKeys doubledFile nodeSecrets "node-a" = .ok documents ∧
      ¬ Compile (compileTemplate · = .ok ()) (compileTemplate · = .ok ()) documents := by
  have read : SlipmeshFile.read doubledSerde doubledText = .ok doubledFile := by
    have opened : doubledSerde.documents doubledText = .ok doubledRaws := by rw [documents_doubledSerde, if_pos rfl]
    rw [read_of_documents opened]
    decide +kernel
  have renders : (render (compilingRenderer doubledSerde) twoKeys doubledFile nodeSecrets "node-a").isOk = true := by
    decide +kernel
  obtain ⟨content, rendered⟩ := exists_of_isOk renders
  obtain ⟨documents, values, _⟩ := render_values rendered
  refine ⟨read, content, documents, rendered, values, ?_⟩
  intro compile
  have later := (values_compile_iff (compilingRenderer_readsWhole _) (allKinds_of_read read) (fun _ _ compiles => compiles)
    values).mp compile
  have second : some "\x7b% if" ∈
      (readTemplates routerTemplatePath (addedFiles doubledSerde doubledFile.patches "node-a" "router")).tail := by decide +kernel
  exact absurd (later.router _ second) (by decide)

end Slipmesh.Taloscfg
