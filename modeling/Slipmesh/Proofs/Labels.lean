import Slipmesh.Proofs.Aggregation
import Slipmesh.Proofs.NormalForm
import Mathlib.Data.List.Pairwise

/-! Merging never crosses a label: what is returned under one label covers the
networks first listed under it, and nothing of it twice. -/

namespace Slipmesh.Router
open Library

/-- The networks that are returned with the label. -/
def returnedUnder (entries : List (String × String)) (label : String) : List Cidr :=
  ((dedupeAndAggregate entries).filter (·.2 = label)).map Prod.fst

def AllParsedCanonical (entries : List (String × String)) : Prop :=
  ∀ entry ∈ entries, ∀ net ∈ parseCidr entry.1, net.Canonical

instance (entries : List (String × String)) : Decidable (AllParsedCanonical entries) :=
  inferInstanceAs (Decidable (∀ entry ∈ entries, ∀ net ∈ parseCidr entry.1, net.Canonical))

variable {entries : List (String × String)} {net : Cidr} {label : String}

theorem mem_returnedUnder : net ∈ returnedUnder entries label ↔ net ∈ aggregated entries label := by
  rw [← mem_dedupeAndAggregate, returnedUnder, List.mem_map]
  constructor
  · intro given
    obtain ⟨entry, member, first⟩ := given
    obtain ⟨listed, second⟩ := List.mem_filter.mp member
    rwa [← first, ← of_decide_eq_true second]
  · intro listed
    exact ⟨(net, label), List.mem_filter.mpr ⟨listed, decide_eq_true rfl⟩, rfl⟩

/-- A network is returned once under a label, since every label is collapsed once. -/
theorem dedupeAndAggregate_nodup (entries : List (String × String)) : (dedupeAndAggregate entries).Nodup := by
  have collapsed : ((byLabel (byNet entries)).entries.flatMap fun group =>
      (Cidr.collapse group.2).map fun net => (net, group.1)).Nodup := by
    apply List.nodup_flatMap.mpr
    constructor
    · intro group _
      have distinct : (Cidr.collapse group.2).Nodup :=
        (Cidr.collapse_collapsed group.2).ascending.imp fun below => below.ne
      exact distinct.map fun first second same => congrArg Prod.fst same
    · refine (byLabel (byNet entries)).ascending.imp ?_
      intro first second below item inFirst inSecond
      obtain ⟨_, _, fromFirst⟩ := List.mem_map.mp inFirst
      obtain ⟨_, _, fromSecond⟩ := List.mem_map.mp inSecond
      exact below.ne (congrArg Prod.snd (fromFirst.trans fromSecond.symm))
  have sorted : (sort (((byLabel (byNet entries)).entries.flatMap fun group =>
      (Cidr.collapse group.2).map fun net => (net, group.1)).map toLex)).Nodup :=
    (List.perm_insertionSort _ _).nodup_iff.mpr (collapsed.map toLex.injective)
  exact sorted.map ofLex.injective

private theorem grouped_canonical (canonical : AllParsedCanonical entries) (label : String) :
    Cidr.AllCanonical (((byLabel (byNet entries)).find? label).getD []) := by
  intro net member
  have known : net ∈ parsed entries := mem_parsed.mpr ⟨label, mem_byLabel.mp member⟩
  obtain ⟨entry, listed, reads⟩ := List.mem_filterMap.mp known
  exact canonical entry listed net reads

theorem returnedUnder_disjoint (canonical : AllParsedCanonical entries) (label : String) :
    (returnedUnder entries label).Pairwise Cidr.Disjoint := by
  have disjoint := Cidr.collapse_disjoint (grouped_canonical canonical label)
  have symmetric : Std.Symm Cidr.Disjoint := ⟨fun _ _ apart addr both => apart addr both.symm⟩
  apply List.pairwise_map.mpr
  apply ((dedupeAndAggregate_nodup entries).filter _).pairwise_of_forall_ne
  intro first member second otherMember different
  obtain ⟨listed, its⟩ := List.mem_filter.mp member
  obtain ⟨otherListed, others⟩ := List.mem_filter.mp otherMember
  have its := of_decide_eq_true its
  have others := of_decide_eq_true others
  apply disjoint.forall
  · exact mem_dedupeAndAggregate.mp (its ▸ listed)
  · exact mem_dedupeAndAggregate.mp (others ▸ otherListed)
  · exact fun same => different (Prod.ext same (its.trans others.symm))

theorem returnedUnder_covers (canonical : AllParsedCanonical entries) (label : String) :
    Cidr.SameCover (returnedUnder entries label) (labelled entries label) := by
  intro addr
  have collapsed := Cidr.collapse_covers (grouped_canonical canonical label) addr
  have left : Cidr.CoveredBy (returnedUnder entries label) addr ↔ Cidr.CoveredBy (aggregated entries label) addr :=
    exists_congr fun net => and_congr_left' mem_returnedUnder
  have right : Cidr.CoveredBy (((byLabel (byNet entries)).find? label).getD []) addr ↔
      Cidr.CoveredBy (labelled entries label) addr :=
    exists_congr fun net => and_congr_left' (mem_byLabel.trans mem_labelled.symm)
  exact left.trans (collapsed.trans right)

theorem dedupeAndAggregate_parseable (entries : List (String × String)) :
    dedupeAndAggregate (entries.filter (parseCidr ·.1 ≠ none)) = dedupeAndAggregate entries := by
  have same : byNet (entries.filter (parseCidr ·.1 ≠ none)) = byNet entries := by
    rw [byNet, byNet, List.foldl_filter]
    congr 1
    funext map entry
    cases reads : parseCidr entry.1 with
    | none => simp [insertEntry, reads]
    | some net => simp
  rw [dedupeAndAggregate, same, ← dedupeAndAggregate]

/-- Under every label, `dedupe_and_aggregate` returns disjoint networks that cover
the addresses of those first listed with the label; a text that is no CIDR changes nothing. -/
theorem dedupeAndAggregate_labels (entries : List (String × String)) (canonical : AllParsedCanonical entries)
    (label : String) :
    (returnedUnder entries label).Pairwise Cidr.Disjoint ∧
      Cidr.SameCover (returnedUnder entries label) (labelled entries label) ∧
        dedupeAndAggregate (entries.filter (parseCidr ·.1 ≠ none)) = dedupeAndAggregate entries :=
  ⟨returnedUnder_disjoint canonical label, returnedUnder_covers canonical label, dedupeAndAggregate_parseable entries⟩

private def twoLabels : List (String × String) :=
  [("10.0.0.0/25", "a"), ("10.0.0.128/25", "b"), ("::/0", "a"), ("10.0.0.128/25", "a"), ("10.0.1.0/24", "a"), ("10.0.0.0/16", "b")]

theorem dedupeAndAggregate_twoLabels :
    (returnedUnder twoLabels "b").Pairwise Cidr.Disjoint ∧
      Cidr.SameCover (returnedUnder twoLabels "b") (labelled twoLabels "b") :=
  ⟨(dedupeAndAggregate_labels twoLabels (by decide) "b").1, (dedupeAndAggregate_labels twoLabels (by decide) "b").2.1⟩

end Slipmesh.Router
