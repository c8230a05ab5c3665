import Slipmesh.Proofs.AwgConfig
import Slipmesh.Proofs.CidrText
import Slipmesh.Proofs.Links

/-! The settlement of a link, on its way to the interfaces through the text that the
two names of its pair join to. -/

namespace Slipmesh.Taloscfg
open Library Common Proofs.CidrText
open Awg (AwgConfig InterfaceEntry)

/-- A link's own settlement: nothing if it is plain, else field by field what the link
sets, what the topology sets, what is generated for it. -/
def settlement (draws : Draws) (mesh : MeshConfig) (link : MeshLink) (position : Nat) : Obfuscation :=
  if link.plain then {}
  else joinFields orElse link.obfuscation
    (joinFields orElse mesh.obfuscation (generate (draws.linkObfuscation position)))

/-- Every node's `awg.yaml` is rendered, and the daemon accepts it. -/
def Accepted (curve : Curve) (mesh : MeshConfig) (resolved : ResolvedSecrets) : Prop :=
  ∀ node ∈ mesh.nodes, ∃ cfg, renderAwgConfig curve mesh node.name resolved = .ok cfg ∧ Awg.validate cfg = .ok ()

def passes : Except RenderError AwgConfig → Bool
  | .ok cfg => Awg.validate cfg = .ok ()
  | .error _ => false

theorem passes_iff {rendered : Except RenderError AwgConfig} :
    passes rendered ↔ ∃ cfg, rendered = .ok cfg ∧ Awg.validate cfg = .ok () := by
  cases rendered with
  | error reason => simp [passes]
  | ok cfg => simp [passes]

instance (curve : Curve) (mesh : MeshConfig) (resolved : ResolvedSecrets) : Decidable (Accepted curve mesh resolved) :=
  decidable_of_iff (∀ node ∈ mesh.nodes, passes (renderAwgConfig curve mesh node.name resolved)) (by
    simp only [passes_iff, Accepted])

/-- On either end, the interface of each link has the settlement of that link. -/
def CarriesOwn (curve : Curve) (draws : Draws) (mesh : MeshConfig) : Prop :=
  ∀ position link, mesh.links[position]? = some link → ∀ nodeName ∈ [link.pair.1, link.pair.2], ∃ cfg iface,
    renderAwgConfig curve mesh nodeName (resolve curve draws mesh).1 = .ok cfg ∧
      cfg.interfaces[placeOf mesh nodeName position]? = some iface ∧
      iface.obfuscation = settlement draws mesh link position

/-- Links of different nodes whose names join to one text are settled alike. -/
def JoinedAlike (draws : Draws) (mesh : MeshConfig) : Prop :=
  ∀ (position other : Nat) (a b : MeshLink), mesh.links[position]? = some a → mesh.links[other]? = some b →
    a.pair ≠ b.pair → a.pair ≠ b.pair.swap → linkKey a.pair = linkKey b.pair →
    settlement draws mesh a position = settlement draws mesh b other

variable {curve : Curve} {mesh : MeshConfig} {resolved : ResolvedSecrets} {draws : Draws}

theorem resolveLink_settlement (draws : Draws) (mesh : MeshConfig) (link : MeshLink) (position : Nat) :
    (resolveLink draws mesh link position).1 = settlement draws mesh link position := by
  rw [resolveLink, resolveUnlessPlain, settlement]
  split
  · rfl
  · simp [resolveObfuscation, joinFields, orElse, Option.or_assoc]

/-- The last of the links whose names join to the text that the link's names join to. -/
def keptLink (mesh : MeshConfig) (link : MeshLink) : Option MeshLink :=
  mesh.links.reverse.find? (linkKey ·.pair = linkKey link.pair)

/-- What is kept under the text of a link is the settlement of the last link with that text. -/
theorem kept_settlement (curve : Curve) (draws : Draws) {link : MeshLink} (listed : link ∈ mesh.links) :
    ∃ other sharing, keptLink mesh link = some sharing ∧ mesh.links[other]? = some sharing ∧
      (resolve curve draws mesh).1.meshLinkObfuscation.find? (linkKey link.pair) = some (settlement draws mesh sharing other) := by
  let pair (entry : MeshLink × Nat) := (linkKey entry.1.pair, (resolveLink draws mesh entry.1 entry.2).1)
  have last : (mesh.links.zipIdx.map pair).reverse.find? (·.1 = linkKey link.pair) =
      (mesh.links.zipIdx.reverse.find? fun entry => linkKey entry.1.pair = linkKey link.pair).map pair := by
    rw [← List.map_reverse, List.find?_map]
    rfl
  have sharing : keptLink mesh link =
      (mesh.links.zipIdx.reverse.find? fun entry => linkKey entry.1.pair = linkKey link.pair).map Prod.fst := by
    rw [keptLink]
    nth_rewrite 1 [← List.zipIdx_map_fst 0 mesh.links]
    rw [← List.map_reverse, List.find?_map]
    rfl
  have some_sharing : (keptLink mesh link).isSome := by
    rw [keptLink, List.find?_isSome]
    exact ⟨link, List.mem_reverse.mpr listed, by simp⟩
  obtain ⟨kept, found⟩ := Option.isSome_iff_exists.mp some_sharing
  obtain ⟨entry, first, rfl⟩ := Option.map_eq_some_iff.mp (sharing.symm.trans found)
  have member := List.mem_reverse.mp (List.mem_of_find?_eq_some first)
  refine ⟨entry.2, entry.1, found, List.mem_zipIdx_iff_getElem?.mp member, ?_⟩
  rw [← resolveLink_settlement]
  exact (SortedMap.find?_ofPairs_last _ _).trans (by rw [last, first]; rfl)

theorem placeOf_lt {nodeName : String} {position later : Nat} {link : MeshLink} (before : position < later)
    (listed : mesh.links[position]? = some link) (isEnd : (peerOf nodeName link).isSome) :
    placeOf mesh nodeName position < placeOf mesh nodeName later := by
  have step : placeOf mesh nodeName (position + 1) = placeOf mesh nodeName position + 1 := by
    simp [placeOf, List.take_add_one, listed, isEnd]
  have rest : placeOf mesh nodeName (position + 1) ≤ placeOf mesh nodeName later :=
    (List.take_sublist_take_left before).countP_le
  omega

/-- Where a node's links have one end in common too, its interfaces share a name. -/
theorem accepted_apart {nodeName peerName : String} {cfg : AwgConfig}
    (rendered : renderAwgConfig curve mesh nodeName resolved = .ok cfg) (accepted : Awg.validate cfg = .ok ())
    {position other : Nat} {a b : MeshLink} (listed : mesh.links[position]? = some a)
    (listed' : mesh.links[other]? = some b) (isEnd : peerOf nodeName a = some peerName)
    (isEnd' : peerOf nodeName b = some peerName) : position = other := by
  obtain ⟨own, iface, _, place, here⟩ := renderAwgConfig_at rendered listed isEnd
  obtain ⟨own', iface', _, place', here'⟩ := renderAwgConfig_at rendered listed' isEnd'
  have names := (Awg.validate_ok accepted).1
  have places : placeOf mesh nodeName position = placeOf mesh nodeName other := by
    obtain ⟨inside, _⟩ := List.getElem?_eq_some_iff.mp place
    apply (List.getElem?_inj (by simpa using inside) names).mp
    rw [List.getElem?_map, List.getElem?_map, place, place', Option.map_some, Option.map_some, meshInterface_name here,
      meshInterface_name here']
  rcases Nat.lt_trichotomy position other with before | same | after
  · have apart := placeOf_lt before listed (by rw [isEnd]; rfl)
    omega
  · exact same
  · have apart := placeOf_lt after listed' (by rw [isEnd']; rfl)
    omega

theorem peerOf_first (link : MeshLink) : peerOf link.pair.1 link = some link.pair.2 := if_pos rfl

theorem peerOf_second {link : MeshLink} (ends : link.pair.1 ≠ link.pair.2) :
    peerOf link.pair.2 link = some link.pair.1 := (if_neg ends).trans (if_pos rfl)

theorem rendered_end (accepted : validate mesh = .ok ()) (runs : Accepted curve mesh resolved) {link : MeshLink}
    (listed : link ∈ mesh.links) {nodeName : String} (isEnd : nodeName ∈ [link.pair.1, link.pair.2]) :
    ∃ cfg peerName, renderAwgConfig curve mesh nodeName resolved = .ok cfg ∧ Awg.validate cfg = .ok () ∧
      peerOf nodeName link = some peerName := by
  have known := ends_known accepted listed
  simp only [List.mem_cons, List.not_mem_nil, or_false] at isEnd
  rcases isEnd with rfl | rfl
  · obtain ⟨node, member, name⟩ := List.mem_map.mp known.1
    obtain ⟨cfg, rendered, fine⟩ := runs node member
    exact ⟨cfg, link.pair.2, name ▸ rendered, fine, peerOf_first link⟩
  · obtain ⟨node, member, name⟩ := List.mem_map.mp known.2
    obtain ⟨cfg, rendered, fine⟩ := runs node member
    exact ⟨cfg, link.pair.1, name ▸ rendered, fine, peerOf_second ((validate_ok accepted).links link listed)⟩

/-- Two links of one pair of nodes are one link, where the daemon accepts the configs. -/
theorem one_link (accepted : validate mesh = .ok ()) (runs : Accepted curve mesh resolved) {position other : Nat}
    {a b : MeshLink} (listed : mesh.links[position]? = some a) (listed' : mesh.links[other]? = some b)
    (pair : a.pair = b.pair ∨ a.pair = b.pair.swap) : position = other := by
  have first : a.pair.1 ∈ [a.pair.1, a.pair.2] := List.mem_cons_self ..
  obtain ⟨cfg, peerName, rendered, fine, isEnd⟩ := rendered_end accepted runs (List.mem_of_getElem? listed) first
  apply accepted_apart rendered fine listed listed' isEnd
  have apart := (validate_ok accepted).links a (List.mem_of_getElem? listed)
  cases pair with
  | inl same => rw [peerOf, ← same]; exact isEnd
  | inr same =>
    have swapped : b.pair = a.pair.swap := by rw [same, Prod.swap_swap]
    have unequal : a.pair.2 ≠ a.pair.1 := Ne.symm apart
    rw [peerOf_first] at isEnd
    simpa [peerOf, swapped, unequal] using isEnd

theorem joinedAlike_of_carries (carries : CarriesOwn curve draws mesh) : JoinedAlike draws mesh := by
  intro position other a b listed listed' _ _ text
  have held {position : Nat} {link : MeshLink} (listed : mesh.links[position]? = some link) :
      settlement draws mesh link position =
        ((resolve curve draws mesh).1.meshLinkObfuscation.find? (linkKey link.pair)).getD {} := by
    have first : link.pair.1 ∈ [link.pair.1, link.pair.2] := List.mem_cons_self ..
    obtain ⟨cfg, iface, rendered, place, own⟩ := carries position link listed link.pair.1 first
    obtain ⟨iface', place', isEnd⟩ := renderAwgConfig_endOf rendered listed (peerOf_first link)
    cases place.symm.trans place'
    exact own.symm.trans isEnd.obfuscation
  rw [held listed, held listed', text]

/-- Of a topology whose configs are all accepted: every link keeps its own settlement
exactly where the links of different nodes whose names join to one text are settled
alike. -/
theorem carries_own_iff (accepted : validate mesh = .ok ()) (runs : Accepted curve mesh (resolve curve draws mesh).1) :
    CarriesOwn curve draws mesh ↔ JoinedAlike draws mesh := by
  refine ⟨joinedAlike_of_carries, ?_⟩
  intro alike position link listed nodeName isEnd
  obtain ⟨cfg, peerName, rendered, _, isEnd⟩ := rendered_end accepted runs (List.mem_of_getElem? listed) isEnd
  obtain ⟨iface, place, ends⟩ := renderAwgConfig_endOf rendered listed isEnd
  refine ⟨cfg, iface, rendered, place, ends.obfuscation.trans ?_⟩
  obtain ⟨other, sharing, last, listed', kept⟩ := kept_settlement curve draws (List.mem_of_getElem? listed)
  have text : linkKey sharing.pair = linkKey link.pair := by simpa using List.find?_some last
  rw [kept, Option.getD_some]
  by_cases pair : sharing.pair = link.pair ∨ sharing.pair = link.pair.swap
  · have same := one_link accepted runs listed' listed pair
    rw [same] at listed' ⊢
    cases listed.symm.trans listed'
    rfl
  · rw [not_or] at pair
    exact alike other position sharing link listed' listed pair.1 pair.2 text

/-! ### Names without the separator -/

/-- Where no name holds the separator, the text of a pair tells which two names it has. -/
theorem linkKey_inj {pair other : String × String} (plain : '|' ∉ pair.1.toList ∧ '|' ∉ pair.2.toList)
    (plain' : '|' ∉ other.1.toList ∧ '|' ∉ other.2.toList) (text : linkKey pair = linkKey other) :
    pair = other ∨ pair = other.swap := by
  have sorted (pair : String × String) (plain : '|' ∉ pair.1.toList ∧ '|' ∉ pair.2.toList) :
      ∃ sorted, (sorted = pair ∨ sorted = pair.swap) ∧ splitOnce '|' (linkKey pair) = some sorted := by
    rw [linkKey]
    split
    · exact ⟨pair.swap, .inr rfl, splitOnce_append '|' _ plain.2⟩
    · exact ⟨pair, .inl rfl, splitOnce_append '|' _ plain.1⟩
  obtain ⟨first, isFirst, split⟩ := sorted pair plain
  obtain ⟨second, isSecond, split'⟩ := sorted other plain'
  rw [text, split', Option.some.injEq] at split
  subst split
  rcases isFirst with rfl | rfl
  · exact isSecond
  · rcases isSecond with same | same
    · exact .inr (by rw [← same, Prod.swap_swap])
    · exact .inl (Prod.swap_injective same)

/-- Only names with the separator in them can lose a settlement. -/
theorem joinedAlike_of_plain (accepted : validate mesh = .ok ()) (plain : ∀ node ∈ mesh.nodes, '|' ∉ node.name.toList) :
    JoinedAlike draws mesh := by
  intro position other a b listed listed' apart apart' text
  have ends {link : MeshLink} (member : link ∈ mesh.links) : '|' ∉ link.pair.1.toList ∧ '|' ∉ link.pair.2.toList := by
    obtain ⟨first, second⟩ := ends_known accepted member
    obtain ⟨node, held, name⟩ := List.mem_map.mp first
    obtain ⟨node', held', name'⟩ := List.mem_map.mp second
    exact ⟨name ▸ plain node held, name' ▸ plain node' held'⟩
  rcases linkKey_inj (ends (List.mem_of_getElem? listed)) (ends (List.mem_of_getElem? listed')) text with same | same
  · exact absurd same apart
  · exact absurd same apart'

/-! ### A plain and an obfuscated link -/

/-- The names of the links' pairs, joined as the keys join them, are one text where the
mark within two of the names is the separator. -/
def fourNodes (mark : String) : MeshConfig :=
  { cluster := { loopbackNetworks := ⟨"10.62.0.0/16", "fd00:62::/32"⟩ }
    nodes := [
      { name := "a", nodeId := "10.62.0.1" }, { name := "b" ++ mark ++ "c", nodeId := "10.62.0.2" },
      { name := "a" ++ mark ++ "b", nodeId := "10.62.0.3" }, { name := "c", nodeId := "10.62.0.4" }]
    links := [
      { pair := ("a" ++ mark ++ "b", "c"), port := 51820, plain := true },
      { pair := ("a", "b" ++ mark ++ "c"), port := 51820 }] }

theorem carries_own_dash : CarriesOwn twoKeys twoDraws (fourNodes "-") := by
  have accepted : validate (fourNodes "-") = .ok () := by decide +kernel
  have runs : Accepted twoKeys (fourNodes "-") (resolve twoKeys twoDraws (fourNodes "-")).1 := by decide +kernel
  exact (carries_own_iff accepted runs).mpr (joinedAlike_of_plain accepted (by decide +kernel))

/-- The plain link between `a|b` and `c` gets what is generated for the other. -/
theorem carries_other_piped :
    validate (fourNodes "|") = .ok () ∧
    Accepted twoKeys (fourNodes "|") (resolve twoKeys twoDraws (fourNodes "|")).1 ∧
    ¬ CarriesOwn twoKeys twoDraws (fourNodes "|") := by
  refine ⟨by decide +kernel, by decide +kernel, ?_⟩
  intro carries
  have alike := joinedAlike_of_carries carries 0 1 _ _ rfl rfl (by decide) (by decide) (by decide +kernel)
  revert alike
  decide +kernel

end Slipmesh.Taloscfg
