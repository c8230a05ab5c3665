import Slipmesh.Proofs.BirdConf
import Slipmesh.Proofs.Bypass

/-! The IPv4 prefixes that a template is given, and where host bits come through to it. -/

namespace Slipmesh.Router
open Library Net

/-- The text of a network without bits past its prefix. -/
def IsPrefix (text : String) : Prop := ∃ net, Cidr.parseCidr text = .ok net ∧ net.Canonical

/-- Every IPv4 prefix of a context; a range to learn has a mark after it. -/
structure PrefixesBare (context : BirdConfigContext) : Prop where
  announce : ∀ route ∈ context.announce, IsPrefix route.net
  learn : ∀ pattern ∈ context.learn, ∃ range, pattern = range ++ "+" ∧ IsPrefix range
  bypass : ∀ route ∈ context.bypass, IsPrefix route.net

/-- An included network with host bits does not come through: a network without, of the
same label, is larger than it, or the excluded networks without cover the whole of it. -/
def Stopped (includes excludes : List (String × String)) : Prop :=
  ∀ label, ∀ net ∈ labelled includes label, ¬ net.Canonical →
    (∃ b ∈ wholeBlocks includes label, net.block < b) ∨
      ∀ x ∈ net.block, Block.Covered (Cidr.canonicalBlocks (parsed excludes)) x

/-- The entries of a bypass section, and the routes that a resolution of it returns. -/
inductive Resolves (included excluded : Nat → Lookups) : Option BypassConfig → List (String × String) →
    List (String × String) → List (String × String) → Prop where
  | absent : Resolves included excluded none [] [] []
  | resolved {bypass : BypassConfig} {includes excludes routes : List (String × String)} :
      collectEntries included bypass.includes = .ok includes → collectEntries excluded bypass.excludes = .ok excludes →
      resolveInner included excluded bypass.includes bypass.excludes = .ok routes →
      Resolves included excluded (some bypass) includes excludes routes

variable {included excluded : Nat → Lookups} {includes excludes routes : List (String × String)}

theorem isPrefix_formatCidr (net : Cidr) : IsPrefix (formatCidr net) ↔ net.Canonical := by
  have reads : Cidr.parseCidr (formatCidr net) = .ok net := Proofs.CidrText.parseCidr_ipv4_text net
  constructor
  · intro given
    obtain ⟨other, parsed, canonical⟩ := given
    cases reads.symm.trans parsed
    exact canonical
  · intro canonical
    exact ⟨net, reads, canonical⟩

/-- What is left of the included networks has host bits only where a network that has
them comes through whole. -/
theorem pieces_canonical_iff :
    (∀ label, ∀ net ∈ aggregated includes label, ∀ piece ∈ punchAll (exclusions excludes) net, piece.Canonical) ↔
      Stopped includes excludes := by
  constructor
  · intro canonical label net listed loose
    by_contra through
    simp only [not_or, not_exists, not_and] at through
    obtain ⟨outermost, spared⟩ := through
    have kept : net ∈ aggregated includes label :=
      ((aggregated_collapsed includes label).loose net loose).mpr ⟨listed, outermost⟩
    have whole : net ∈ punchAll (exclusions excludes) net := by
      rw [punchAll_loose loose]
      refine ⟨rfl, fun e member eCanonical below => spared ?_⟩
      exact (swallowed_iff net).mp ⟨e, member, eCanonical, below⟩
    exact loose (canonical label net kept net whole)
  · intro stopped label net member piece left
    by_cases canonical : net.Canonical
    · exact (punchAll_subset canonical _ piece left).1
    · obtain ⟨listed, outermost⟩ := ((aggregated_collapsed includes label).loose net canonical).mp member
      obtain ⟨_, spared⟩ := (punchAll_loose canonical _ piece).mp left
      rcases stopped label net listed canonical with ⟨b, whole, larger⟩ | covered
      · exact absurd larger (outermost b whole)
      · obtain ⟨e, excluded, eCanonical, below⟩ := (swallowed_iff net).mpr covered
        exact absurd below (spared e excluded eCanonical)

theorem routes_bare_iff {bypass : Option BypassConfig} (resolves : Resolves included excluded bypass includes excludes routes) :
    (∀ route ∈ routes, IsPrefix route.1) ↔ Stopped includes excludes := by
  cases resolves with
  | absent => simp [Stopped, labelled, parsed]
  | resolved includesOk excludesOk resolved =>
    have listed := mem_routes resolved includesOk excludesOk
    rw [← pieces_canonical_iff]
    constructor
    · intro bare label net member piece left
      exact (isPrefix_formatCidr piece).mp (bare (formatCidr piece, label) ((listed _).mpr ⟨net, member, piece, left, rfl⟩))
    · intro canonical route member
      obtain ⟨net, listed, piece, left, text⟩ := (listed route).mp member
      rw [← text, isPrefix_formatCidr]
      exact canonical route.2 net listed piece left

/-- Of a validated config and any routes of its bypass: no prefix that the template is
given has host bits exactly where none is announced or learned with them, and none
comes through the bypass. -/
theorem prefixes_bare_iff {cfg : RouterConfig} (valid : validate cfg = .ok ())
    (resolves : Resolves included excluded cfg.bypass includes excludes routes) :
    ∃ inputs, StaticInputs.fromConfig cfg = .ok inputs ∧
      (PrefixesBare (inputs.context (bypassRoutes routes)) ↔
        (∀ entry ∈ cfg.announce, IsPrefix entry.net) ∧ (∀ range ∈ cfg.learn, IsPrefix range) ∧ Stopped includes excludes) := by
  obtain ⟨inputs, made, _, _, learn, announce⟩ := fromConfig_ok (validate_ok valid)
  refine ⟨inputs, made, ?_⟩
  have announced : (∀ route ∈ (inputs.context (bypassRoutes routes)).announce, IsPrefix route.net) ↔
      ∀ entry ∈ cfg.announce, IsPrefix entry.net := by
    have nets : (∀ net ∈ inputs.announce.map (·.net), IsPrefix net) ↔ ∀ net ∈ cfg.announce.map (·.net), IsPrefix net := by
      rw [announce]
    simpa [StaticInputs.context, BirdConfigContext.new, SanitizedRoute.fromRoutes] using nets
  have learned : (∀ pattern ∈ (inputs.context (bypassRoutes routes)).learn, ∃ range, pattern = range ++ "+" ∧ IsPrefix range) ↔
      ∀ range ∈ cfg.learn, IsPrefix range := by
    simp only [StaticInputs.context, BirdConfigContext.new, learn, List.forall_mem_map, String.append_left_inj,
      exists_eq_left']
  have bypassed : (∀ route ∈ (inputs.context (bypassRoutes routes)).bypass, IsPrefix route.net) ↔
      Stopped includes excludes := by
    rw [← routes_bare_iff resolves]
    simp only [StaticInputs.context, BirdConfigContext.new, SanitizedRoute.fromRoutes, bypassRoutes, List.forall_mem_map]
  rw [← announced, ← learned, ← bypassed]
  constructor
  · intro bare
    exact ⟨bare.announce, bare.learn, bare.bypass⟩
  · intro given
    exact ⟨given.1, given.2.1, given.2.2⟩

/-- A config that announces, learns and bypasses one network each. -/
def threePrefixes (announced learned bypassed : String) : RouterConfig where
  node := ⟨["10.62.0.1/32", "fd00:62::1/128"]⟩
  bgpAs := 64512
  learn := [learned]
  announce := [⟨announced, none⟩]
  bypass := some { includes := [literal bypassed] }

theorem resolves_one {bypassed route : String} (resolved : resolveInner noLookups noLookups [literal bypassed] [] = .ok [(route, "")]) :
    Resolves noLookups noLookups (some { includes := [literal bypassed] }) [(bypassed, "")] [] [(route, "")] :=
  .resolved rfl rfl resolved

theorem prefixes_bare_three : ∃ inputs,
    StaticInputs.fromConfig (threePrefixes "10.60.0.0/16" "10.61.0.0/16" "203.0.113.0/24") = .ok inputs ∧
      (PrefixesBare (inputs.context (bypassRoutes [("203.0.113.0/24", "")])) ↔
        (∀ entry ∈ [(⟨"10.60.0.0/16", none⟩ : AnnounceEntry)], IsPrefix entry.net) ∧
          (∀ range ∈ ["10.61.0.0/16"], IsPrefix range) ∧ Stopped [("203.0.113.0/24", "")] []) := by
  have valid : validate (threePrefixes "10.60.0.0/16" "10.61.0.0/16" "203.0.113.0/24") = .ok () := by decide +kernel
  exact prefixes_bare_iff valid (resolves_one (by decide +kernel))

theorem not_isPrefix {text : String} {net : Cidr} (parsed : Cidr.parseCidr text = .ok net) (loose : ¬ net.Canonical) :
    ¬ IsPrefix text := by
  intro given
  obtain ⟨other, read, canonical⟩ := given
  cases parsed.symm.trans read
  exact loose canonical

def threeInputs (announced learned : String) : StaticInputs where
  identity := ⟨0x0A3E0001, 0xFD000062000000000000000000000001⟩
  asNumber := 64512
  ospfInterfaces := []
  directInterfaces := []
  bgpPeers := []
  announce := [⟨announced, ""⟩]
  learn := [learned]
  bfd := none

/-- All three come through with their host bits. -/
theorem prefixes_not_bare :
    validate (threePrefixes "10.60.0.1/16" "10.61.0.1/16" "203.0.113.5/24") = .ok () ∧
    StaticInputs.fromConfig (threePrefixes "10.60.0.1/16" "10.61.0.1/16" "203.0.113.5/24") =
      .ok (threeInputs "10.60.0.1/16" "10.61.0.1/16") ∧
    resolveInner noLookups noLookups [literal "203.0.113.5/24"] [] = .ok [("203.0.113.5/24", "")] ∧
    (¬ IsPrefix "10.60.0.1/16" ∧ ¬ IsPrefix "10.61.0.1/16" ∧ ¬ IsPrefix "203.0.113.5/24") ∧
    ¬ PrefixesBare ((threeInputs "10.60.0.1/16" "10.61.0.1/16").context (bypassRoutes [("203.0.113.5/24", "")])) := by
  have announced : ¬ IsPrefix "10.60.0.1/16" := by
    have read : Cidr.parseCidr "10.60.0.1/16" = .ok ⟨0x0A3C0001, 16, by decide⟩ := by decide
    exact not_isPrefix read (by decide)
  have learned : ¬ IsPrefix "10.61.0.1/16" := by
    have read : Cidr.parseCidr "10.61.0.1/16" = .ok ⟨0x0A3D0001, 16, by decide⟩ := by decide
    exact not_isPrefix read (by decide)
  have bypassed : ¬ IsPrefix "203.0.113.5/24" := by
    have read : Cidr.parseCidr "203.0.113.5/24" = .ok ⟨0xCB007105, 24, by decide⟩ := by decide
    exact not_isPrefix read (by decide)
  refine ⟨by decide +kernel, by decide +kernel, by decide +kernel, ⟨announced, learned, bypassed⟩, ?_⟩
  intro bare
  exact announced (bare.announce _ (List.mem_singleton_self _))

end Slipmesh.Router
