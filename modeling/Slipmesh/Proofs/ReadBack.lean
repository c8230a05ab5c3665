import Slipmesh.Common.Rt
import Slipmesh.Proofs.CidrText

/-! A route is read back as the network it was added for, unless it is a default route:
the kernel dumps it without a destination, and a message without one is skipped. -/

namespace Slipmesh.Common
open Net

/-- Where every hit of a search is the same, it finds that. -/
private theorem findSome?_same {α β : Type} {items : List α} {f : α → Option β} {hit : β} {item : α}
    (member : item ∈ items) (hits : f item = some hit)
    (same : ∀ item ∈ items, ∀ other, f item = some other → other = hit) : items.findSome? f = some hit := by
  cases found : items.findSome? f with
  | none =>
    rw [List.findSome?_eq_none_iff.mp found item member] at hits
    cases hits
  | some other =>
    obtain ⟨item, member, hits⟩ := List.exists_of_findSome?_eq_some found
    rw [same item member other hits]

variable (kernel : RouteKernel) (route : KernelRoute)

private theorem dump_outputInterface : outputInterface (kernel.dump route) = route.oif := by
  rw [outputInterface]
  cases its : route.oif with
  | none =>
    apply List.findSome?_eq_none_iff.mpr
    intro attr member
    cases attr with
    | oif index =>
      have held := (kernel.oif route index).mp member
      rw [its] at held
      cases held
    | destination addr => rfl
    | other => rfl
  | some index =>
    refine findSome?_same ((kernel.oif route index).mpr its) rfl ?_
    intro attr member other hits
    cases attr with
    | oif there =>
      cases hits
      exact Option.some.inj (((kernel.oif route other).mp member).symm.trans its)
    | destination addr => cases hits
    | other => cases hits

private theorem dump_destinationOf : destinationOf (kernel.dump route) =
    if route.network.cidr.len = 0 then none else some (route.network.cidr.addr, route.network.cidr.len) := by
  rw [destinationOf]
  split
  · rename_i default
    apply List.findSome?_eq_none_iff.mpr
    intro attr member
    cases attr with
    | destination addr => exact absurd default ((kernel.destination route addr).mp member).1
    | oif index => rfl
    | other => rfl
  · rename_i longer
    have listed := (kernel.destination route _).mpr ⟨longer, rfl⟩
    refine findSome?_same listed ?_ ?_
    · rw [kernel.prefixLength]
      cases route.network.cidr.addr with
      | v4 addr => rfl
      | v6 addr => rfl
    · intro attr member other hits
      cases attr with
      | destination addr =>
        obtain ⟨_, rfl⟩ := (kernel.destination route addr).mp member
        rw [kernel.prefixLength] at hits
        cases its : route.network.cidr.addr with
        | v4 addr => simpa only [its, RouteAddress.ofAddr, Option.some.injEq, eq_comm] using hits
        | v6 addr => simpa only [its, RouteAddress.ofAddr, Option.some.injEq, eq_comm] using hits
      | oif index => cases hits
      | other => cases hits

/-- A route of the interface and protocol that is not a default route. -/
structure KernelRoute.Reported (index : UInt32) (protocol : RouteProtocol) (route : KernelRoute) : Prop where
  protocol : route.protocol = protocol
  oif : route.oif = some index
  longer : route.network.cidr.len ≠ 0

variable {kernel route} {index : UInt32} {protocol : RouteProtocol} {routes : List KernelRoute} {text : String}

private theorem matchRoute_dump : matchRoute index protocol (kernel.dump route) = some text ↔
    route.Reported index protocol ∧ text = route.network.text := by
  rw [matchRoute, kernel.protocol, dump_outputInterface, dump_destinationOf]
  constructor
  · intro matched
    split at matched
    · cases matched
    split at matched
    · cases matched
    rename_i tagged there
    split at matched
    · cases matched
    rename_i longer
    exact ⟨⟨not_not.mp tagged, not_not.mp there, longer⟩, (Option.some.inj matched).symm⟩
  · intro given
    obtain ⟨reported, rfl⟩ := given
    simp only [reported.protocol, reported.oif, reported.longer, ne_eq, not_true_eq_false, if_false, Option.map_some]
    rfl

/-- The report holds the text of every route but the default ones. -/
theorem routesByProtocol_dumped (kernel : RouteKernel) (routes : List KernelRoute) (index : UInt32)
    (protocol : RouteProtocol) :
    ∃ report, routesByProtocol (fun family => some (kernel.dumped routes family)) index protocol = some report ∧
      ∀ text, text ∈ report ↔ ∃ route ∈ routes, route.Reported index protocol ∧ text = route.network.text := by
  refine ⟨_, rfl, ?_⟩
  intro text
  simp only [List.mem_append, List.mem_filterMap, RouteKernel.dumped, List.mem_map, List.mem_filter, decide_eq_true_eq]
  constructor
  · intro given
    rcases given with ⟨_, ⟨route, ⟨member, _⟩, rfl⟩, matched⟩ | ⟨_, ⟨route, ⟨member, _⟩, rfl⟩, matched⟩
    · exact ⟨route, member, matchRoute_dump.mp matched⟩
    · exact ⟨route, member, matchRoute_dump.mp matched⟩
  · intro given
    obtain ⟨route, member, matched⟩ := given
    cases family : route.family with
    | inet => exact .inl ⟨_, ⟨route, ⟨member, family⟩, rfl⟩, matchRoute_dump.mpr matched⟩
    | inet6 => exact .inr ⟨_, ⟨route, ⟨member, family⟩, rfl⟩, matchRoute_dump.mpr matched⟩

theorem routeAdd_ok {cidr : IpCidr} {after : List KernelRoute} (parsed : parseCidr text = .ok cidr)
    (added : routeAdd kernel index text protocol routes = .ok after) :
    (RouteRequest.mk cidr index protocol).route ∈ after := by
  have replaced : routeAddOf kernel index cidr protocol routes = .ok after := by
    obtain ⟨addr, len, bounded⟩ := cidr
    rw [routeAdd, parsed] at added
    cases addr with
    | v4 addr => exact added
    | v6 addr => exact added
  rw [routeAddOf] at replaced
  cases answer : kernel.replace ⟨cidr, index, protocol⟩ routes with
  | none => simp [answer] at replaced
  | some listed =>
    simp only [answer, Option.elim_some, Except.ok.injEq] at replaced
    exact replaced ▸ kernel.replaced _ _ _ answer

/-- A route that `route_add` installs is in the report, as a text of its network,
exactly when its prefix is not empty. -/
theorem routeAdd_readBack_iff (kernel : RouteKernel) (routes : List KernelRoute) {cidr : IpCidr} {after : List KernelRoute}
    (parsed : parseCidr text = .ok cidr) (added : routeAdd kernel index text protocol routes = .ok after) :
    (∃ report, routesByProtocol (fun family => some (kernel.dumped after family)) index protocol = some report ∧
      ∃ reported ∈ report, networkOf reported = networkOf text) ↔ cidr.len ≠ 0 := by
  obtain ⟨report, read, listed⟩ := routesByProtocol_dumped kernel after index protocol
  have network : networkOf text = some ⟨IpCidr.network cidr, network_network cidr⟩ := by rw [networkOf, parsed]
  constructor
  · intro given
    obtain ⟨_, again, reported, member, same⟩ := given
    cases read.symm.trans again
    obtain ⟨route, _, holds, rfl⟩ := (listed reported).mp member
    rw [networkOf_text, network, Option.some.injEq] at same
    exact congrArg (fun network => network.cidr.len) same ▸ holds.longer
  · intro longer
    have installed := routeAdd_ok parsed added
    refine ⟨report, read, _, (listed _).mpr ⟨_, installed, ⟨rfl, rfl, longer⟩, rfl⟩, ?_⟩
    rw [networkOf_text, network]
    rfl

/-! ### A kernel that replaces a route by its network -/

/-- It masks the destination of an IPv6 route, and refuses an IPv4 one that is not masked. -/
def replacingKernel : RouteKernel where
  replace request routes :=
    if request.destinationPrefix.addr.isIpv4 ∧ IpCidr.network request.destinationPrefix ≠ request.destinationPrefix then none
    else some (request.route :: routes.filter (·.network ≠ request.route.network))
  replaced request routes after answer := by
    split at answer
    · cases answer
    · exact Option.some.inj answer ▸ List.mem_cons_self ..
  dump route := {
    destinationPrefixLength := route.network.cidr.len
    protocol := route.protocol
    attributes := .other ::
      (if route.network.cidr.len = 0 then [] else [.destination (.ofAddr route.network.cidr.addr)]) ++
        (route.oif.map RouteAttribute.oif).toList }
  prefixLength _ := rfl
  protocol _ := rfl
  oif route index := by
    cases route.oif with
    | none => split <;> simp
    | some there => split <;> simp [eq_comm]
  destination route addr := by
    cases route.oif with
    | none => split <;> simp_all
    | some there => split <;> simp_all

theorem routeAdd_readBack_ten :
    (∃ report, routesByProtocol (fun family => some (replacingKernel.dumped
        [⟨⟨⟨.v4 0x0A000000#32, 8, by decide⟩, by decide⟩, some 7, 190⟩] family)) 7 190 = some report ∧
      ∃ reported ∈ report, networkOf reported = networkOf "10.0.0.0/8") ↔ (8 : Nat) ≠ 0 :=
  have parsed : parseCidr "10.0.0.0/8" = .ok ⟨.v4 0x0A000000#32, 8, by decide⟩ := by decide
  routeAdd_readBack_iff replacingKernel [] parsed (by rfl)

/-- The route that takes all of IPv4 is added and not read back. -/
theorem routeAdd_not_readBack : ¬ ∀ (kernel : RouteKernel) (text : String) (index : UInt32) (protocol : RouteProtocol)
    (routes after : List KernelRoute), routeAdd kernel index text protocol routes = .ok after →
      ∃ report, routesByProtocol (fun family => some (kernel.dumped after family)) index protocol = some report ∧
        ∃ reported ∈ report, networkOf reported = networkOf text := by
  intro everyReadBack
  obtain ⟨report, read, reported, member, _⟩ := everyReadBack replacingKernel "0.0.0.0/0" 7 190 []
    [⟨⟨⟨.v4 0#32, 0, by decide⟩, by decide⟩, some 7, 190⟩] (by rfl)
  have empty : report = [] := by
    apply Option.some.inj
    rw [← read]
    decide
  rw [empty] at member
  cases member

end Slipmesh.Common
