import Slipmesh.Proofs.Defaults

/-! What a host's patches depend on: the documents for every host and those aimed at
it, each in their own order, and nothing else of the file. -/

namespace Slipmesh.Taloscfg
open Library Yaml

variable {serde : Serde}

/-! ### The documents that bear on a host -/

def Meta.reaches (block : Meta) (host : String) : Bool :=
  block.included.all (host ∈ ·) && host ∉ block.excluded.getD []

/-- The documents as they are written, wherever in the file that is. -/
def written (patches : List Document) : List (Meta × Value) := patches.map fun patch => (patch.block, patch.value)

/-- The documents that reach a host, each with whether it is aimed. -/
def bearing (patches : List Document) (host : String) : List (Bool × Value) :=
  ((written patches).filter (·.1.reaches host)).map fun (block, value) => (block.included.isSome, value)

theorem bearing_eq (patches : List Document) (host : String) :
    bearing patches host = (patches.filter (·.reaches host)).map fun patch => (patch.block.included.isSome, patch.value) := by
  rw [bearing, written, List.filter_map, List.map_map]
  rfl

theorem everywhere_bearing (patches : List Document) (host : String) (identity : Identity) :
    everywhere patches host identity =
      (((bearing patches host).filter (!·.1)).map Prod.snd).filter (Identity.of · = identity) := by
  simp [everywhere, bearing_eq, List.filter_map, Function.comp_def]

theorem aimed_bearing (patches : List Document) (host : String) (identity : Identity) :
    aimed patches host identity = (((bearing patches host).filter (·.1)).map Prod.snd).filter (Identity.of · = identity) := by
  simp [aimed, bearing_eq, List.filter_map, Function.comp_def]

theorem identities_bearing (patches : List Document) (host : String) :
    identities patches host = ((bearing patches host).map (Identity.of ·.2)).eraseDups := by
  rw [identities, bearing_eq, List.map_map]
  rfl

/-! ### Two files -/

/-- For each identity, the documents for every host are the same in both lists, and so
are those aimed at this one. -/
def SameSequences (patches others : List Document) (host : String) : Prop :=
  ∀ identity, everywhere patches host identity = everywhere others host identity ∧
    aimed patches host identity = aimed others host identity

/-- Both runs refuse the host, or they give the same document for every identity, each
identity once. -/
inductive SamePatches : Except UnknownHost (List HostDocument) → Except UnknownHost (List HostDocument) → Prop
  | refused (error : UnknownHost) : SamePatches (.error error) (.error error)
  | given {documents others : List HostDocument} (once : (documents.map (Identity.of ·.value)).Nodup)
      (same : documents.Perm others) : SamePatches (.ok documents) (.ok others)

/-- One document that is aimed at hosts has moved over documents for every host. -/
structure Moved (patches others : List Document) : Prop where
  moves : ∃ before moved between after, moved.1.included.isSome ∧ (∀ document ∈ between, document.1.included = none) ∧
    written patches = before ++ moved :: (between ++ after) ∧ written others = before ++ (between ++ moved :: after)

variable {patches others : List Document} {host : String}

theorem sources_same (same : SameSequences patches others host) (identity : Identity) :
    sources patches host identity = sources others host identity := by
  obtain ⟨defaults, included⟩ := same identity
  rw [sources_eq, sources_eq, defaults, included]

theorem identities_perm (same : SameSequences patches others host) :
    (identities patches host).Perm (identities others host) := by
  apply (List.perm_ext_iff_of_nodup (IndexMap.nodup_eraseDups _) (IndexMap.nodup_eraseDups _)).mpr
  intro identity
  change identity ∈ identities patches host ↔ identity ∈ identities others host
  rw [← sources_ne_nil, ← sources_ne_nil, sources_same same]

theorem sameSequences_moved (moved : Moved patches others) (host : String) : SameSequences patches others host := by
  obtain ⟨before, document, between, after, aimed, defaults, first, second⟩ := moved.moves
  have crossed : (between.filter fun entry => entry.1.included.isSome && entry.1.reaches host) = [] := by
    rw [List.filter_eq_nil_iff]
    intro entry member
    simp [defaults entry member]
  intro identity
  constructor
  · rw [everywhere_bearing, everywhere_bearing, bearing, bearing, first, second]
    congr 1
    -- The moved document is not among those for every host.
    cases reaches : document.1.reaches host with
    | true => simp [reaches, aimed]
    | false => simp [reaches]
  · rw [aimed_bearing, aimed_bearing, bearing, bearing, first, second]
    congr 1
    -- Nor are those it has moved over among the aimed ones.
    cases reaches : document.1.reaches host with
    | true => simp [List.filter_map, Function.comp_def, reaches, aimed, crossed]
    | false => simp [List.filter_map, Function.comp_def, reaches, crossed]

theorem samePatches_of_sequences {first second : SlipmeshFile} (kinds : AllKinds first.patches)
    (known : host ∈ first.hosts ↔ host ∈ second.hosts) (same : SameSequences first.patches second.patches host) :
    SamePatches (first.patchesFor serde host) (second.patchesFor serde host) := by
  by_cases held : host ∈ first.hosts
  · rw [patchesFor_ok serde first held, patchesFor_ok serde second (known.mp held)]
    have documents : hostDocument serde second.patches host = hostDocument serde first.patches host := by
      funext identity
      rw [hostDocument, hostDocument, sources_same same]
    rw [documents]
    apply SamePatches.given
    · have keys : (identities first.patches host).map ((Identity.of ·.value) ∘ hostDocument serde first.patches host) =
          identities first.patches host := by
        apply (List.map_congr_left (identity_hostDocument kinds)).trans
        exact List.map_id' _
      rw [List.map_map, keys]
      exact IndexMap.nodup_eraseDups _
    · exact (identities_perm same).map _
  · rw [patchesFor_unknown serde first held, patchesFor_unknown serde second (mt known.mpr held)]
    exact .refused _

/-- What a host gets rests on the documents for every host and on those aimed at it,
each in their order: the others do not count, and an aimed one may stand anywhere among
those for every host. -/
theorem patches_rest_on_sequences {text : String} {first second : SlipmeshFile}
    (read : SlipmeshFile.read serde text = .ok first) (known : host ∈ first.hosts ↔ host ∈ second.hosts) :
    (SameSequences first.patches second.patches host →
      SamePatches (first.patchesFor serde host) (second.patchesFor serde host)) ∧
    (bearing first.patches host = bearing second.patches host →
      first.patchesFor serde host = second.patchesFor serde host) ∧
    (Moved first.patches second.patches →
      SamePatches (first.patchesFor serde host) (second.patchesFor serde host)) := by
  have kinds := allKinds_of_read read
  refine ⟨samePatches_of_sequences kinds known, ?_, fun moved => ?_⟩
  · intro same
    have sequences : SameSequences first.patches second.patches host := by
      intro identity
      rw [everywhere_bearing, everywhere_bearing, aimed_bearing, aimed_bearing, same]
      exact ⟨rfl, rfl⟩
    by_cases held : host ∈ first.hosts
    · rw [patchesFor_ok serde first held, patchesFor_ok serde second (known.mp held), identities_bearing,
        identities_bearing, same]
      congr 1
      apply List.map_congr_left
      intro identity _
      rw [hostDocument, hostDocument, sources_same sequences]
    · rw [patchesFor_unknown serde first held, patchesFor_unknown serde second (mt known.mpr held)]
  · exact samePatches_of_sequences kinds known (sameSequences_moved moved host)

/-! ### A hostname for every host, and one aimed at a node -/

def includeBlock : Value :=
  .mapping none [(.ofString "kind", .ofString "patch"), (.ofString "include", .sequence none [.ofString "node-a"])]

def excludeBlock : Value :=
  .mapping none [(.ofString "kind", .ofString "patch"), (.ofString "exclude", .sequence none [.ofString "node-a"])]

def readAimed (block : Value) : Except String Meta :=
  if block = includeBlock then .ok { kind := .patch, included := some ["node-a"] }
  else if block = excludeBlock then .ok { kind := .patch, excluded := some ["node-a"] }
  else readBlock block

def hostname (block : Value) (name : String) : Value :=
  .mapping none [(.ofString metaKey, block), (.ofString "kind", .ofString "HostnameConfig"),
    (.ofString "hostname", .ofString name)]

theorem hostname_distinct (block : Value) (name : String) : (hostname block name).keys.Nodup := by
  change [Value.ofString metaKey, .ofString "kind", .ofString "hostname"].Nodup
  decide

def hostnameRaw (block : Value) (name : String) : RawDocument where
  index := 1
  line := 11
  value := .ok ⟨hostname block name, hostname_distinct block name⟩
  mesh := .error "missing field cluster"
  pool := .error "missing field name"

def aimText (aim : String) : String := "---\nslipmesh:\n  kind: patch\n" ++ aim

def nameText (name : String) : String := "kind: HostnameConfig\nhostname: " ++ name

def hostnameText (aim name : String) : String := aimText aim ++ nameText name ++ "\n"

def everyHostname : RawDocument := hostnameRaw patchBlock "node"

def ownHostname : RawDocument := hostnameRaw includeBlock "node-a"

def otherHostname : RawDocument := hostnameRaw excludeBlock "other"

def everyText : String := oneNodeText ++ hostnameText "" "node" ++ hostnameText "  include: [node-a]\n" "node-a"

/-- The node's own document comes first here, and one that does not reach it is between. -/
def ownText : String :=
  oneNodeText ++ hostnameText "  include: [node-a]\n" "node-a" ++ hostnameText "  exclude: [node-a]\n" "other" ++
    hostnameText "" "node"

def overlaySerde : Serde where
  documents := readTwo everyText ownText [oneNodeRaw, everyHostname, ownHostname]
    [oneNodeRaw, ownHostname, otherHostname, everyHostname]
  readMeta := readAimed
  readMesh value :=
    if value = .mapping none (oneNodeEntries ++ [(.ofString "roadwarriors", .sequence none [])]) then .ok oneNode
    else .error "missing field cluster"
  text := blockText
  readMeta_patchBlock := rfl

def overlayPatch (block : Meta) (name : String) : Document where
  index := 1
  line := 11
  block := block
  value := (hostname patchBlock name).remove metaKey
  distinct := Value.keys_remove _ _ (hostname_distinct patchBlock name)
  mesh := .error "missing field cluster"
  pool := .error "missing field name"

def overlayFile (patches : List Document) : SlipmeshFile where
  network := .mapping none oneNodeEntries
  networkIndex := 0
  hosts := ["node-a"]
  pools := []
  patches := patches
  topology := oneNode

def everyPatch : Document := overlayPatch { kind := .patch } "node"

def ownPatch : Document := overlayPatch { kind := .patch, included := some ["node-a"] } "node-a"

def otherPatch : Document := overlayPatch { kind := .patch, excluded := some ["node-a"] } "other"

theorem append_hostname_ne (head own every aim name : String) :
    head ++ own ++ hostnameText aim name ++ every ≠ head ++ every ++ own := by
  intro same
  have lengths := congrArg String.length same
  simp only [hostnameText, String.length_append] at lengths
  have ended : ("\n" : String).length = 1 := rfl
  omega

theorem patches_rest_on_sequences_hostnames :
    SlipmeshFile.read overlaySerde ownText = .ok (overlayFile [ownPatch, otherPatch, everyPatch]) ∧
    SamePatches ((overlayFile [everyPatch, ownPatch]).patchesFor overlaySerde "node-a")
      ((overlayFile [ownPatch, otherPatch, everyPatch]).patchesFor overlaySerde "node-a") := by
  have longer : ownText ≠ everyText := append_hostname_ne _ _ _ _ _
  have documents : overlaySerde.documents = readTwo everyText ownText [oneNodeRaw, everyHostname, ownHostname]
      [oneNodeRaw, ownHostname, otherHostname, everyHostname] := rfl
  have first : SlipmeshFile.read overlaySerde everyText = .ok (overlayFile [everyPatch, ownPatch]) := by
    have opened : overlaySerde.documents everyText = .ok [oneNodeRaw, everyHostname, ownHostname] := by
      rw [documents, readTwo_first]
    rw [read_of_documents opened]
    decide +kernel
  have second : SlipmeshFile.read overlaySerde ownText = .ok (overlayFile [ownPatch, otherPatch, everyPatch]) := by
    have opened : overlaySerde.documents ownText = .ok [oneNodeRaw, ownHostname, otherHostname, everyHostname] := by
      rw [documents, readTwo_second _ _ longer]
    rw [read_of_documents opened]
    decide +kernel
  have sequences : SameSequences (overlayFile [everyPatch, ownPatch]).patches
      (overlayFile [ownPatch, otherPatch, everyPatch]).patches "node-a" := by
    intro identity
    rw [everywhere_bearing, everywhere_bearing, aimed_bearing, aimed_bearing]
    exact ⟨rfl, rfl⟩
  exact ⟨second, (patches_rest_on_sequences first Iff.rfl).1 sequences⟩

end Slipmesh.Taloscfg
