import Slipmesh.Proofs.Topology
import Slipmesh.Library.Positions

/-! The two ends of a link: each is rendered on its own, from secrets resolved once. -/

namespace Slipmesh.Taloscfg
open Library Common
open Awg (AwgConfig InterfaceEntry)

/-- How many interfaces the node has for the links before the one at a position. -/
def placeOf (mesh : MeshConfig) (nodeName : String) (position : Nat) : Nat :=
  (mesh.links.take position).countP fun link => (peerOf nodeName link).isSome

variable {curve : Curve} {mesh : MeshConfig} {resolved : ResolvedSecrets}

theorem linkInterfaces_at {nodeName : String} {own : OwnEnd} {links : List MeshLink} {ifaces : List InterfaceEntry}
    (rendered : linkInterfaces curve mesh nodeName resolved own links = .ok ifaces) {position : Nat} {link : MeshLink}
    (listed : links[position]? = some link) {peerName : String} (isEnd : peerOf nodeName link = some peerName) :
    ∃ iface, ifaces[(links.take position).countP fun link => (peerOf nodeName link).isSome]? = some iface ∧
      meshInterface curve mesh resolved own link peerName = .ok iface := by
  induction links generalizing ifaces position with
  | nil => cases listed
  | cons first links ih =>
    rw [linkInterfaces] at rendered
    cases position with
    | zero =>
      cases listed
      simp only [isEnd, bind_ok, pure_ok] at rendered
      obtain ⟨iface, here, others, _, rfl⟩ := rendered
      exact ⟨iface, rfl, here⟩
    | succ position =>
      rw [List.getElem?_cons_succ] at listed
      cases other : peerOf nodeName first with
      | none =>
        simp only [other] at rendered
        simpa [other] using ih rendered listed
      | some name =>
        simp only [other, bind_ok, pure_ok] at rendered
        obtain ⟨_, _, others, rest, rfl⟩ := rendered
        simpa [other] using ih rest listed

/-- Every interface of a node's links is that of one of them. -/
theorem mem_linkInterfaces {nodeName : String} {own : OwnEnd} {links : List MeshLink} {ifaces : List InterfaceEntry}
    (rendered : linkInterfaces curve mesh nodeName resolved own links = .ok ifaces) {iface : InterfaceEntry}
    (member : iface ∈ ifaces) :
    ∃ link ∈ links, ∃ peerName, peerOf nodeName link = some peerName ∧
      meshInterface curve mesh resolved own link peerName = .ok iface := by
  induction links generalizing ifaces with
  | nil =>
    cases rendered
    cases member
  | cons first links ih =>
    rw [linkInterfaces] at rendered
    cases other : peerOf nodeName first with
    | none =>
      simp only [other] at rendered
      obtain ⟨link, listed, found⟩ := ih rendered member
      exact ⟨link, List.mem_cons_of_mem _ listed, found⟩
    | some name =>
      simp only [other, bind_ok, pure_ok] at rendered
      obtain ⟨here, this, others, rest, rfl⟩ := rendered
      cases List.mem_cons.mp member with
      | inl same => exact ⟨first, List.mem_cons_self .., name, other, same ▸ this⟩
      | inr later =>
        obtain ⟨link, listed, found⟩ := ih rest later
        exact ⟨link, List.mem_cons_of_mem _ listed, found⟩

theorem meshInterface_name {own : OwnEnd} {link : MeshLink} {peerName : String} {iface : InterfaceEntry}
    (rendered : meshInterface curve mesh resolved own link peerName = .ok iface) : iface.name = "mesh-" ++ peerName := by
  simp only [meshInterface, bind_ok, pure_ok] at rendered
  obtain ⟨_, _, _, _, _, _, rfl⟩ := rendered
  rfl

/-- What one end of a link is rendered as: its port, the link's obfuscation, the
node's own key, and one peer with the public key of the other node's. -/
structure EndOf (curve : Curve) (resolved : ResolvedSecrets) (link : MeshLink) (nodeName peerName : String)
    (iface : InterfaceEntry) : Prop where
  port : iface.listenPort = link.port
  obfuscation : iface.obfuscation = (resolved.meshLinkObfuscation.find? (linkKey link.pair)).getD {}
  own : resolved.meshPrivateKeys.find? nodeName = some iface.privateKey
  peer : ∃ peer secret key, iface.peers = [peer] ∧ resolved.meshPrivateKeys.find? peerName = some secret ∧
    decodeKey curve.engine secret = .ok key ∧ peer.publicKey = encodeKey curve.engine (curve.publicKey key)

theorem elim_ok {ε α : Type} {error : ε} {value : Option α} {a : α} :
    value.elim (.error error) Except.ok = .ok a ↔ value = some a := by
  cases value with
  | none => simp
  | some b => simp

theorem meshInterface_endOf {own : OwnEnd} {link : MeshLink} {nodeName peerName : String} {iface : InterfaceEntry}
    (holds : resolved.meshPrivateKeys.find? nodeName = some own.privateKey)
    (rendered : meshInterface curve mesh resolved own link peerName = .ok iface) :
    EndOf curve resolved link nodeName peerName iface := by
  simp only [meshInterface, publicKeyFromPrivate, bind_ok, pure_ok, mapError_ok, elim_ok] at rendered
  obtain ⟨peerNode, _, secret, peerKey, publicKey, ⟨key, decoded, rfl⟩, rfl⟩ := rendered
  exact ⟨rfl, rfl, holds, _, secret, key, rfl, peerKey, decoded, rfl⟩

theorem renderAwgConfig_at {nodeName peerName : String} {cfg : AwgConfig} {position : Nat} {link : MeshLink}
    (rendered : renderAwgConfig curve mesh nodeName resolved = .ok cfg) (listed : mesh.links[position]? = some link)
    (isEnd : peerOf nodeName link = some peerName) :
    ∃ own iface, ownEnd mesh nodeName resolved = .ok own ∧ cfg.interfaces[placeOf mesh nodeName position]? = some iface ∧
      meshInterface curve mesh resolved own link peerName = .ok iface := by
  simp only [renderAwgConfig, meshInterfacesFor, bind_ok, pure_ok] at rendered
  obtain ⟨ifaces, ⟨own, ownEnd, links⟩, metrics, _, rfl⟩ := rendered
  obtain ⟨iface, place, here⟩ := linkInterfaces_at links listed isEnd
  obtain ⟨inside, _⟩ := List.getElem?_eq_some_iff.mp place
  exact ⟨own, iface, ownEnd, (List.getElem?_append_left inside).trans place, here⟩

theorem ownEnd_privateKey {nodeName : String} {own : OwnEnd} (ended : ownEnd mesh nodeName resolved = .ok own) :
    resolved.meshPrivateKeys.find? nodeName = some own.privateKey := by
  simp only [ownEnd, bind_ok, pure_ok, elim_ok] at ended
  obtain ⟨_, _, _, _, secret, found, rfl⟩ := ended
  exact found

theorem renderAwgConfig_endOf {nodeName peerName : String} {cfg : AwgConfig} {position : Nat} {link : MeshLink}
    (rendered : renderAwgConfig curve mesh nodeName resolved = .ok cfg) (listed : mesh.links[position]? = some link)
    (isEnd : peerOf nodeName link = some peerName) :
    ∃ iface, cfg.interfaces[placeOf mesh nodeName position]? = some iface ∧
      EndOf curve resolved link nodeName peerName iface := by
  obtain ⟨own, iface, ended, place, here⟩ := renderAwgConfig_at rendered listed isEnd
  exact ⟨iface, place, meshInterface_endOf (ownEnd_privateKey ended) here⟩

/-- Every interface of a node is that of one of its links or that of one of its pools. -/
theorem mem_interfaces {nodeName : String} {cfg : AwgConfig} (rendered : renderAwgConfig curve mesh nodeName resolved = .ok cfg)
    {iface : InterfaceEntry} (member : iface ∈ cfg.interfaces) :
    (∃ own, ownEnd mesh nodeName resolved = .ok own ∧ ∃ link ∈ mesh.links, ∃ peerName,
      peerOf nodeName link = some peerName ∧ meshInterface curve mesh resolved own link peerName = .ok iface) ∨
    ∃ pool ∈ mesh.roadwarriors, nodeName ∈ pool.nodeHostnames ∧ roadwarriorInterface resolved pool = iface := by
  simp only [renderAwgConfig, meshInterfacesFor, bind_ok, pure_ok] at rendered
  obtain ⟨ifaces, ⟨own, ended, links⟩, metrics, _, rfl⟩ := rendered
  rcases List.mem_append.mp member with linked | pooled
  · exact .inl ⟨own, ended, mem_linkInterfaces links linked⟩
  · obtain ⟨pool, listed, made⟩ := List.mem_map.mp pooled
    obtain ⟨listed, hosts⟩ := List.mem_filter.mp listed
    exact .inr ⟨pool, listed, of_decide_eq_true hosts, made⟩

theorem roadwarriorInterface_mem {nodeName : String} {cfg : AwgConfig} {pool : RoadwarriorPool}
    (rendered : renderAwgConfig curve mesh nodeName resolved = .ok cfg) (listed : pool ∈ mesh.roadwarriors)
    (hosts : nodeName ∈ pool.nodeHostnames) : roadwarriorInterface resolved pool ∈ cfg.interfaces := by
  simp only [renderAwgConfig, bind_ok, pure_ok] at rendered
  obtain ⟨ifaces, _, metrics, _, rfl⟩ := rendered
  apply List.mem_append_right
  exact List.mem_map_of_mem (List.mem_filter.mpr ⟨listed, decide_eq_true hosts⟩)

/-- The interface's peer has the public key of the private key. -/
def PeerHasKeyOf (curve : Curve) (iface : InterfaceEntry) (privateKey : String) : Prop :=
  ∃ peer key, iface.peers = [peer] ∧ decodeKey curve.engine privateKey = .ok key ∧
    peer.publicKey = encodeKey curve.engine (curve.publicKey key)

/-- What the two interfaces of one link have to share to complete a handshake. -/
structure EndsAgree (curve : Curve) (link : MeshLink) (a b : InterfaceEntry) : Prop where
  portA : a.listenPort = link.port
  portB : b.listenPort = link.port
  obfuscation : a.obfuscation = b.obfuscation
  keyA : PeerHasKeyOf curve a b.privateKey
  keyB : PeerHasKeyOf curve b a.privateKey

theorem EndOf.knows {link : MeshLink} {nodeName peerName : String} {a b : InterfaceEntry}
    (first : EndOf curve resolved link nodeName peerName a) (second : EndOf curve resolved link peerName nodeName b) :
    PeerHasKeyOf curve a b.privateKey := by
  obtain ⟨peer, secret, key, only, found, decoded, shown⟩ := first.peer
  cases found.symm.trans second.own
  exact ⟨peer, key, only, decoded, shown⟩

theorem EndOf.agree {link : MeshLink} {nodeName peerName : String} {a b : InterfaceEntry}
    (first : EndOf curve resolved link nodeName peerName a) (second : EndOf curve resolved link peerName nodeName b) :
    EndsAgree curve link a b :=
  ⟨first.port, second.port, first.obfuscation.trans second.obfuscation.symm, first.knows second, second.knows first⟩

/-! ### The order of a pair -/

/-- The link the other way round. -/
def swapped (link : MeshLink) : MeshLink := { link with pair := link.pair.swap }

def swapLink (mesh : MeshConfig) (position : Nat) : MeshConfig :=
  { mesh with links := mesh.links.modify position swapped }

theorem linkKey_swap (pair : String × String) : linkKey pair.swap = linkKey pair := by
  obtain ⟨a, b⟩ := pair
  simp only [linkKey, Prod.swap_prod_mk]
  rcases lt_trichotomy a b with below | same | above
  · simp [below, below.not_gt]
  · simp [same]
  · simp [above, above.not_gt]

theorem peerOf_swapped (nodeName : String) {link : MeshLink} (ends : link.pair.1 ≠ link.pair.2) :
    peerOf nodeName (swapped link) = peerOf nodeName link := by
  simp only [peerOf, swapped, Prod.fst_swap, Prod.snd_swap]
  by_cases first : link.pair.1 = nodeName
  · have second : link.pair.2 ≠ nodeName := fun same => ends (first.trans same.symm)
    simp [first, second]
  · simp [first]

theorem meshInterface_swapped (own : OwnEnd) (link : MeshLink) (peerName : String) :
    meshInterface curve mesh resolved own (swapped link) peerName = meshInterface curve mesh resolved own link peerName := by
  simp only [meshInterface, swapped, linkKey_swap]

theorem linkInterfaces_swapped {nodeName : String} {own : OwnEnd} {links : List MeshLink}
    (ends : ∀ link ∈ links, link.pair.1 ≠ link.pair.2) (position : Nat) :
    linkInterfaces curve mesh nodeName resolved own (links.modify position swapped) =
      linkInterfaces curve mesh nodeName resolved own links := by
  induction links generalizing position with
  | nil => rw [List.modify_nil]
  | cons first links ih =>
    obtain ⟨apart, others⟩ := List.forall_mem_cons.mp ends
    cases position with
    | zero => simp only [List.modify_zero_cons, linkInterfaces, peerOf_swapped nodeName apart, meshInterface_swapped]
    | succ position => simp only [List.modify_succ_cons, linkInterfaces, ih others]

/-- Only the list that is rendered says what the links are. -/
theorem linkInterfaces_swapLink {nodeName : String} {own : OwnEnd} (position : Nat) (links : List MeshLink) :
    linkInterfaces curve (swapLink mesh position) nodeName resolved own links =
      linkInterfaces curve mesh nodeName resolved own links := by
  induction links with
  | nil => rfl
  | cons first links ih =>
    simp only [linkInterfaces, ih]
    rfl

/-- The secrets of a link are kept under a key that has no order. -/
theorem resolve_swapLink (draws : Draws) (position : Nat) :
    (resolve curve draws (swapLink mesh position)).1 = (resolve curve draws mesh).1 := by
  have unseen (link : MeshLink) (index : Nat) :
      (linkKey (swapped link).pair, (resolveLink draws mesh (swapped link) index).1) =
        (linkKey link.pair, (resolveLink draws mesh link index).1) := by
    have same : resolveLink draws mesh (swapped link) index = resolveLink draws mesh link index := rfl
    rw [same, swapped, linkKey_swap]
  have links := zipIdx_map_modify swapped (fun link index => (linkKey link.pair, (resolveLink draws mesh link index).1))
    unseen mesh.links position
  exact congrArg (fun pairs => { (resolve curve draws mesh).1 with meshLinkObfuscation := SortedMap.ofPairs pairs }) links

theorem renderAwgConfig_swapLink (ends : ∀ link ∈ mesh.links, link.pair.1 ≠ link.pair.2) (position : Nat)
    (nodeName : String) :
    renderAwgConfig curve (swapLink mesh position) nodeName resolved = renderAwgConfig curve mesh nodeName resolved := by
  have interfaces : meshInterfacesFor curve (swapLink mesh position) nodeName resolved =
      meshInterfacesFor curve mesh nodeName resolved := by
    have own : ownEnd (swapLink mesh position) nodeName resolved = ownEnd mesh nodeName resolved := rfl
    rw [meshInterfacesFor, meshInterfacesFor, own]
    congr 1
    funext own
    exact (linkInterfaces_swapLink position _).trans (linkInterfaces_swapped ends position)
  rw [renderAwgConfig, renderAwgConfig, interfaces]
  rfl

/-- Of a validated topology with secrets resolved once: the two ends of every link
agree, and the order of the names in a pair changes nothing that is rendered. -/
theorem links_agree (accepted : validate mesh = .ok ()) (draws : Draws) :
    (∀ position link, mesh.links[position]? = some link → ∀ cfgA cfgB,
      renderAwgConfig curve mesh link.pair.1 (resolve curve draws mesh).1 = .ok cfgA →
      renderAwgConfig curve mesh link.pair.2 (resolve curve draws mesh).1 = .ok cfgB →
      ∃ ifaceA ifaceB, cfgA.interfaces[placeOf mesh link.pair.1 position]? = some ifaceA ∧
        cfgB.interfaces[placeOf mesh link.pair.2 position]? = some ifaceB ∧ EndsAgree curve link ifaceA ifaceB) ∧
    ∀ position nodeName, renderAwgConfig curve (swapLink mesh position) nodeName
        (resolve curve draws (swapLink mesh position)).1 =
      renderAwgConfig curve mesh nodeName (resolve curve draws mesh).1 := by
  have valid := validate_ok accepted
  refine ⟨?_, ?_⟩
  · intro position link listed cfgA cfgB rendersA rendersB
    have apart := valid.links link (List.mem_of_getElem? listed)
    have endA : peerOf link.pair.1 link = some link.pair.2 := if_pos rfl
    have endB : peerOf link.pair.2 link = some link.pair.1 := (if_neg apart).trans (if_pos rfl)
    obtain ⟨ifaceA, placeA, first⟩ := renderAwgConfig_endOf rendersA listed endA
    obtain ⟨ifaceB, placeB, second⟩ := renderAwgConfig_endOf rendersB listed endB
    exact ⟨ifaceA, ifaceB, placeA, placeB, first.agree second⟩
  · intro position nodeName
    rw [resolve_swapLink]
    exact renderAwgConfig_swapLink valid.links position nodeName

/-- Three nodes with an obfuscated and a plain link. -/
private def twoLinks : MeshConfig :=
  { cluster := { loopbackNetworks := ⟨"10.62.0.0/16", "fd00:62::/32"⟩ }
    nodes := [{ name := "b", nodeId := "10.62.0.2" }, { name := "a", nodeId := "10.62.0.1" }, { name := "c", nodeId := "10.62.0.3" }]
    links := [{ pair := ("b", "a"), port := 51820 }, { pair := ("a", "c"), port := 51821, plain := true }] }

/-- Each node renders, and so does each with the pair of one of the links swapped. -/
theorem links_agree_twoLinks :
    (∀ nodeName ∈ ["a", "b", "c"], ∀ mesh ∈ [twoLinks, swapLink twoLinks 0, swapLink twoLinks 1],
      (renderAwgConfig twoKeys mesh nodeName (resolve twoKeys twoDraws mesh).1).isOk) ∧
    (∀ position link, twoLinks.links[position]? = some link → ∀ cfgA cfgB,
      renderAwgConfig twoKeys twoLinks link.pair.1 (resolve twoKeys twoDraws twoLinks).1 = .ok cfgA →
      renderAwgConfig twoKeys twoLinks link.pair.2 (resolve twoKeys twoDraws twoLinks).1 = .ok cfgB →
      ∃ ifaceA ifaceB, cfgA.interfaces[placeOf twoLinks link.pair.1 position]? = some ifaceA ∧
        cfgB.interfaces[placeOf twoLinks link.pair.2 position]? = some ifaceB ∧ EndsAgree twoKeys link ifaceA ifaceB) ∧
    ∀ position nodeName, renderAwgConfig twoKeys (swapLink twoLinks position) nodeName
        (resolve twoKeys twoDraws (swapLink twoLinks position)).1 =
      renderAwgConfig twoKeys twoLinks nodeName (resolve twoKeys twoDraws twoLinks).1 :=
  ⟨by decide +kernel, links_agree (by decide) twoDraws⟩

end Slipmesh.Taloscfg
