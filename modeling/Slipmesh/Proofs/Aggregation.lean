import Slipmesh.Proofs.Collapse
import Slipmesh.Router.Resolver

/-! What aggregation makes of the listed texts: each label's own networks,
collapsed, with a network under the label it is first listed with. -/

namespace Slipmesh.Router
open Library

def parsed (entries : List (String × String)) : List Cidr := entries.filterMap fun entry => parseCidr entry.1

def firstLabel (entries : List (String × String)) (net : Cidr) : Option String :=
  (entries.find? fun entry => parseCidr entry.1 = some net).map Prod.snd

/-- The networks first listed under the label. -/
def labelled (entries : List (String × String)) (label : String) : List Cidr :=
  (parsed entries).filter fun net => firstLabel entries net = some label

variable {entries : List (String × String)} {net : Cidr} {label : String}

theorem mem_parsed : net ∈ parsed entries ↔ ∃ label, firstLabel entries net = some label := by
  simp only [parsed, List.mem_filterMap, firstLabel, Option.map_eq_some_iff]
  constructor
  · intro given
    obtain ⟨entry, member, reads⟩ := given
    have found : (entries.find? fun entry => parseCidr entry.1 = some net).isSome :=
      List.find?_isSome.mpr ⟨entry, member, by simpa using reads⟩
    obtain ⟨first, same⟩ := Option.isSome_iff_exists.mp found
    exact ⟨first.2, first, same, rfl⟩
  · intro given
    obtain ⟨_, first, found, _⟩ := given
    exact ⟨first, List.mem_of_find?_eq_some found, by simpa using List.find?_some found⟩

theorem mem_labelled : net ∈ labelled entries label ↔ firstLabel entries net = some label := by
  rw [labelled, List.mem_filter, decide_eq_true_eq, mem_parsed]
  exact ⟨And.right, fun same => ⟨⟨label, same⟩, same⟩⟩

private theorem byNet_from (map : SortedMap Cidr String) (entries : List (String × String)) (net : Cidr) :
    (entries.foldl insertEntry map).find? net = (map.find? net).or (firstLabel entries net) := by
  induction entries generalizing map with
  | nil => simp [firstLabel]
  | cons entry entries ih =>
    rw [List.foldl_cons, ih, insertEntry]
    cases reads : parseCidr entry.1 with
    | none => simp [firstLabel, reads]
    | some other =>
      simp only [SortedMap.find?_orInsert, firstLabel, reads, List.find?_cons]
      by_cases same : net = other
      · subst same
        cases map.find? net with
        | none => simp
        | some label => simp
      · simp [same, Ne.symm same]

theorem byNet_find (entries : List (String × String)) (net : Cidr) :
    (byNet entries).find? net = firstLabel entries net := by
  rw [byNet, byNet_from, SortedMap.find?_empty, Option.none_or]

private theorem byLabel_from (map : SortedMap String (List Cidr)) (nets : List (Cidr × String)) (label : String) :
    ((nets.foldl pushNet map).find? label).getD [] =
      (map.find? label).getD [] ++ (nets.filter (·.2 = label)).map Prod.fst := by
  induction nets generalizing map with
  | nil => simp
  | cons entry nets ih =>
    rw [List.foldl_cons, ih, pushNet, SortedMap.find?_alter]
    by_cases same : label = entry.2
    · simp [same]
    · simp [same, Ne.symm same]

theorem mem_byLabel : net ∈ ((byLabel (byNet entries)).find? label).getD [] ↔ firstLabel entries net = some label := by
  rw [byLabel, byLabel_from]
  simp only [SortedMap.find?_empty, Option.getD_none, List.nil_append, List.mem_map, List.mem_filter, decide_eq_true_eq]
  rw [← byNet_find, ← SortedMap.mem_entries]
  constructor
  · rintro ⟨⟨_, _⟩, ⟨member, rfl⟩, rfl⟩
    exact member
  · intro member
    exact ⟨_, ⟨member, rfl⟩, rfl⟩

/-- The collapsed networks of one label. -/
def aggregated (entries : List (String × String)) (label : String) : List Cidr :=
  Cidr.collapse (((byLabel (byNet entries)).find? label).getD [])

theorem mem_dedupeAndAggregate : (net, label) ∈ dedupeAndAggregate entries ↔ net ∈ aggregated entries label := by
  have member : (net, label) ∈ dedupeAndAggregate entries ↔
      ∃ nets, (byLabel (byNet entries)).find? label = some nets ∧ net ∈ Cidr.collapse nets := by
    simp only [dedupeAndAggregate, List.mem_map, mem_sort]
    constructor
    · rintro ⟨_, ⟨_, listed, rfl⟩, same⟩
      rw [ofLex_toLex] at same
      obtain ⟨⟨_, nets⟩, found, inside⟩ := List.mem_flatMap.mp (same ▸ listed)
      obtain ⟨_, kept, pair⟩ := List.mem_map.mp inside
      cases pair
      exact ⟨nets, SortedMap.mem_entries.mp found, kept⟩
    · intro given
      obtain ⟨nets, found, kept⟩ := given
      refine ⟨_, ⟨(net, label), ?_, rfl⟩, rfl⟩
      exact List.mem_flatMap.mpr ⟨(label, nets), SortedMap.mem_entries.mpr found, List.mem_map.mpr ⟨net, kept, rfl⟩⟩
  rw [member, aggregated]
  cases (byLabel (byNet entries)).find? label with
  | none => simp [show Cidr.collapse [] = [] by decide]
  | some nets => simp

theorem aggregated_collapsed (entries : List (String × String)) (label : String) :
    Cidr.Collapsed (labelled entries label) (aggregated entries label) := by
  have same : ∀ net, net ∈ ((byLabel (byNet entries)).find? label).getD [] ↔ net ∈ labelled entries label :=
    fun net => mem_byLabel.trans mem_labelled.symm
  exact (Cidr.collapse_collapsed _).of_members same

/-! ### The exclusions -/

/-- The networks punched out of every included one. -/
def exclusions (entries : List (String × String)) : List Cidr :=
  Cidr.collapse ((dedupeAndAggregate entries).map Prod.fst)

/-- What two rounds of collapsing keep of the listed networks. -/
structure Excluding (listed out : List Cidr) : Prop where
  ascending : out.Pairwise (· < ·)
  normal : Block.Normal (Cidr.canonicalBlocks out)
  covered : ∀ x, Block.Covered (Cidr.canonicalBlocks out) x ↔ Block.Covered (Cidr.canonicalBlocks listed) x
  loose : ∀ net ∈ out, ¬ net.Canonical → net ∈ listed
  kept : ∀ net ∈ listed, ¬ net.Canonical → ∀ x ∈ net.block, ¬ Block.Covered (Cidr.canonicalBlocks listed) x → net ∈ out

private theorem mem_collapsed_labels : net ∈ (dedupeAndAggregate entries).map Prod.fst ↔
    ∃ label, net ∈ aggregated entries label := by
  rw [List.mem_map]
  constructor
  · rintro ⟨⟨_, label⟩, member, rfl⟩
    exact ⟨label, mem_dedupeAndAggregate.mp member⟩
  · intro given
    obtain ⟨label, member⟩ := given
    exact ⟨_, mem_dedupeAndAggregate.mpr member, rfl⟩

private theorem covered_labels (x : Nat) :
    Block.Covered (Cidr.canonicalBlocks ((dedupeAndAggregate entries).map Prod.fst)) x ↔
      Block.Covered (Cidr.canonicalBlocks (parsed entries)) x := by
  constructor
  · rintro ⟨_, ⟨net, member, canonical, rfl⟩, inside⟩
    obtain ⟨label, member⟩ := mem_collapsed_labels.mp member
    obtain ⟨_, ⟨other, listed, otherCanonical, rfl⟩, inside⟩ :=
      ((aggregated_collapsed entries label).covered x).mp ⟨_, ⟨net, member, canonical, rfl⟩, inside⟩
    exact ⟨_, ⟨other, mem_parsed.mpr ⟨label, mem_labelled.mp listed⟩, otherCanonical, rfl⟩, inside⟩
  · rintro ⟨_, ⟨net, member, canonical, rfl⟩, inside⟩
    obtain ⟨label, same⟩ := mem_parsed.mp member
    obtain ⟨_, ⟨other, listed, otherCanonical, rfl⟩, inside⟩ :=
      ((aggregated_collapsed entries label).covered x).mpr ⟨_, ⟨net, mem_labelled.mpr same, canonical, rfl⟩, inside⟩
    exact ⟨_, ⟨other, mem_collapsed_labels.mpr ⟨label, listed⟩, otherCanonical, rfl⟩, inside⟩

theorem exclusions_excluding (entries : List (String × String)) : Excluding (parsed entries) (exclusions entries) := by
  have collapsed := Cidr.collapse_collapsed ((dedupeAndAggregate entries).map Prod.fst)
  refine ⟨collapsed.ascending, collapsed.normal, ?_, ?_, ?_⟩
  · intro x
    exact (collapsed.covered x).trans (covered_labels x)
  · intro net member loose
    obtain ⟨label, member⟩ := mem_collapsed_labels.mp ((collapsed.loose net loose).mp member).1
    obtain ⟨listed, _⟩ := ((aggregated_collapsed entries label).loose net loose).mp member
    exact mem_parsed.mpr ⟨label, mem_labelled.mp listed⟩
  · intro net member loose x inside uncovered
    obtain ⟨label, same⟩ := mem_parsed.mp member
    have outer : net ∈ aggregated entries label := by
      refine ((aggregated_collapsed entries label).loose net loose).mpr ⟨mem_labelled.mpr same, ?_⟩
      intro b given strict
      obtain ⟨other, listed, canonical, block⟩ := given
      refine uncovered ⟨b, ⟨other, mem_parsed.mpr ⟨label, mem_labelled.mp listed⟩, canonical, block⟩, ?_⟩
      exact Block.mem_of_le strict.le inside
    refine (collapsed.loose net loose).mpr ⟨mem_collapsed_labels.mpr ⟨label, outer⟩, ?_⟩
    intro b member strict
    exact uncovered ((covered_labels x).mp ⟨b, member, Block.mem_of_le strict.le inside⟩)

end Slipmesh.Router
