import Slipmesh.Proofs.Aggregation
import Slipmesh.Proofs.CidrText
import Slipmesh.Proofs.Exclusion

/-! The routes of the bypass against the set difference they stand for. The two
are the same exactly when host bits do no harm. -/

namespace Slipmesh.Router
open Net Library

/-- Some entry that parses covers the address. -/
def EntriesCover (entries : List (String × String)) (addr : Ipv4Addr) : Prop :=
  ∃ entry ∈ entries, ∃ net, parseCidr entry.1 = some net ∧ Cidr.Covers net addr

/-- The routes cover what is included and not excluded. -/
def Exact (routes includes excludes : List (String × String)) : Prop :=
  ∀ addr, EntriesCover routes addr ↔ EntriesCover includes addr ∧ ¬ EntriesCover excludes addr

def Holds (nets : List Cidr) (x : Nat) : Prop := ∃ net ∈ nets, x ∈ net.block

/-- The networks of one label that count as their whole block. -/
def wholeBlocks (entries : List (String × String)) (label : String) : Set Block :=
  Cidr.canonicalBlocks (labelled entries label)

/-- Host bits do no harm. An included network with host bits cannot be cut, so it
must be free of every exclusion or swallowed by exclusions without host bits. An
exclusion with host bits only takes effect on a piece no smaller than itself. -/
structure Harmless (includes excludes : List (String × String)) : Prop where
  included : ∀ label, ∀ net ∈ labelled includes label, ¬ net.Canonical →
    (∀ b ∈ wholeBlocks includes label, ¬ net.block < b) →
    (∀ x ∈ net.block, ¬ Holds (parsed excludes) x) ∨
      ∀ x ∈ net.block, Block.Covered (Cidr.canonicalBlocks (parsed excludes)) x
  excluded : ∀ label x, Block.Covered (wholeBlocks includes label) x → Holds (parsed excludes) x →
    ∃ e ∈ parsed excludes, x ∈ e.block ∧ (e.Canonical ∨
      (∀ y ∈ e.block, Block.Covered (wholeBlocks includes label) y) ∧
        ∀ f ∈ parsed excludes, f.block ≤ e.block → ¬ f.addr < e.addr)

variable {includes excludes : List (String × String)} {net : Cidr} {label : String} {x : Nat}

/-! ### Exclusions in order -/

private theorem struck_ascending {whole : Block} {nets : List Cidr} (ascending : nets.Pairwise (· < ·)) :
    Struck whole nets x ↔ ∃ e ∈ nets, x ∈ e.block ∧
      (e.Canonical ∨ e.block ≤ whole ∧ ∀ f ∈ nets, f.block ≤ e.block → ¬ f.addr < e.addr) := by
  constructor
  · rintro ⟨earlier, e, later, rfl, inside, reason⟩
    refine ⟨e, by simp, inside, reason.imp id fun ⟨below, first⟩ => ⟨below, ?_⟩⟩
    intro f member within smaller
    have before : f < e := Cidr.lt_iff.mpr (.inl smaller)
    rcases List.mem_append.mp member with member | member
    · exact first f member within
    · obtain ⟨_, rest, _⟩ := List.pairwise_append.mp ascending
      rcases List.mem_cons.mp member with rfl | member
      · exact lt_irrefl _ before
      · exact before.asymm ((List.pairwise_cons.mp rest).1 f member)
  · intro given
    obtain ⟨e, member, inside, reason⟩ := given
    obtain ⟨earlier, later, same⟩ := List.append_of_mem member
    refine ⟨earlier, e, later, same, inside, reason.imp id fun ⟨below, first⟩ => ⟨below, ?_⟩⟩
    intro f listed within
    rw [same] at ascending
    have before : f < e := (List.pairwise_append.mp ascending).2.2 f listed e (List.mem_cons_self ..)
    apply first f (same ▸ List.mem_append_left _ listed) within
    rcases Cidr.lt_iff.mp before with smaller | ⟨_, shorter⟩
    · exact smaller
    · exact absurd (Cidr.block_le_iff.mp within).1 (by omega)

private theorem holds_of_canonical {nets : List Cidr} (covered : Block.Covered (Cidr.canonicalBlocks nets) x) :
    Holds nets x := by
  obtain ⟨_, ⟨e, member, _, rfl⟩, inside⟩ := covered
  exact ⟨e, member, inside⟩

section
variable {listed out : List Cidr}

private theorem Excluding.holds (excluding : Excluding listed out) (held : Holds out x) : Holds listed x := by
  obtain ⟨e, member, inside⟩ := held
  by_cases canonical : e.Canonical
  · exact holds_of_canonical ((excluding.covered x).mp ⟨_, ⟨e, member, canonical, rfl⟩, inside⟩)
  · exact ⟨e, excluding.loose e member canonical, inside⟩

/-- A smaller exclusion inside `e` that comes first is there in the one list when
it is in the other: a network without host bits is replaced by one that starts no later. -/
private theorem Excluding.smaller (excluding : Excluding listed out) {e : Cidr} (inside : x ∈ e.block)
    (uncovered : ¬ Block.Covered (Cidr.canonicalBlocks listed) x) :
    (∃ f ∈ out, f.block ≤ e.block ∧ f.addr < e.addr) ↔ ∃ f ∈ listed, f.block ≤ e.block ∧ f.addr < e.addr := by
  -- A block without `x` that meets `e` lies inside it.
  have within : ∀ member ∈ Cidr.canonicalBlocks out, ∀ y ∈ member, y ∈ e.block → member ≤ e.block := by
    intro member listedOut y left right
    refine (Block.nested left right).resolve_right fun above => uncovered ?_
    exact (excluding.covered x).mp ⟨member, listedOut, Block.mem_of_le above inside⟩
  constructor
  · intro given
    obtain ⟨f, member, below, smaller⟩ := given
    by_cases canonical : f.Canonical
    · obtain ⟨_, ⟨g, listed, gCanonical, rfl⟩, start⟩ :=
        (excluding.covered f.addr.toNat).mp ⟨_, ⟨f, member, canonical, rfl⟩, f.self_mem⟩
      obtain ⟨_, ⟨h, hMember, hCanonical, rfl⟩, above⟩ := excluding.normal.le_member g.block fun y held =>
        (excluding.covered y).mpr ⟨_, ⟨g, listed, gCanonical, rfl⟩, held⟩
      have same := excluding.normal.apart h.block ⟨h, hMember, hCanonical, rfl⟩ f.block ⟨f, member, canonical, rfl⟩
        _ (Block.mem_of_le above start) f.self_mem
      have order : g.addr.toNat ≤ f.addr.toNat := (Cidr.canonical_iff.mp gCanonical).trans_le (Block.first_le start)
      exact ⟨g, listed, (same ▸ above).trans below, BitVec.lt_def.mpr (order.trans_lt (BitVec.lt_def.mp smaller))⟩
    · exact ⟨f, excluding.loose f member canonical, below, smaller⟩
  · intro given
    obtain ⟨f, member, below, smaller⟩ := given
    by_cases kept : f ∈ out
    · exact ⟨f, kept, below, smaller⟩
    -- What collapsing dropped is covered by a network without host bits.
    have covered : ∀ y ∈ f.block, Block.Covered (Cidr.canonicalBlocks listed) y := by
      intro y held
      by_contra free
      by_cases canonical : f.Canonical
      · exact free ⟨_, ⟨f, member, canonical, rfl⟩, held⟩
      · exact kept (excluding.kept f member canonical y held free)
    obtain ⟨_, ⟨g, listedOut, canonical, rfl⟩, above⟩ := excluding.normal.le_member f.block fun y held =>
      (excluding.covered y).mpr (covered y held)
    have start := Block.mem_of_le above f.self_mem
    have order : g.addr.toNat ≤ f.addr.toNat := (Cidr.canonical_iff.mp canonical).trans_le (Block.first_le start)
    refine ⟨g, listedOut, within _ ⟨g, listedOut, canonical, rfl⟩ _ start (Block.mem_of_le below f.self_mem), ?_⟩
    exact BitVec.lt_def.mpr (order.trans_lt (BitVec.lt_def.mp smaller))

/-- An address is struck by the collapsed exclusions when it is by the listed ones. -/
private theorem Excluding.struck_iff (excluding : Excluding listed out) {whole : Block} :
    Struck whole out x ↔ ∃ e ∈ listed, x ∈ e.block ∧
      (e.Canonical ∨ e.block ≤ whole ∧ ∀ f ∈ listed, f.block ≤ e.block → ¬ f.addr < e.addr) := by
  rw [struck_ascending excluding.ascending]
  by_cases covered : Block.Covered (Cidr.canonicalBlocks listed) x
  · obtain ⟨_, ⟨e, member, canonical, rfl⟩, inside⟩ := (excluding.covered x).mpr covered
    obtain ⟨_, ⟨f, listed, fCanonical, rfl⟩, fInside⟩ := covered
    exact ⟨fun _ => ⟨f, listed, fInside, .inl fCanonical⟩, fun _ => ⟨e, member, inside, .inl canonical⟩⟩
  have loose : ∀ e : Cidr, x ∈ e.block → e ∈ listed ∨ e ∈ out → ¬ e.Canonical := by
    intro e inside member canonical
    rcases member with member | member
    · exact covered ⟨_, ⟨e, member, canonical, rfl⟩, inside⟩
    · exact covered ((excluding.covered x).mp ⟨_, ⟨e, member, canonical, rfl⟩, inside⟩)
  have first : ∀ e : Cidr, x ∈ e.block → ((∀ f ∈ out, f.block ≤ e.block → ¬ f.addr < e.addr) ↔
      ∀ f ∈ listed, f.block ≤ e.block → ¬ f.addr < e.addr) := by
    intro e inside
    have same := not_congr (excluding.smaller inside covered)
    simpa only [not_exists, not_and] using same
  constructor
  · intro given
    obtain ⟨e, member, inside, reason⟩ := given
    have host := loose e inside (.inr member)
    exact ⟨e, excluding.loose e member host, inside, reason.imp id fun ⟨below, least⟩ => ⟨below, (first e inside).mp least⟩⟩
  · intro given
    obtain ⟨e, member, inside, reason⟩ := given
    have host := loose e inside (.inl member)
    exact ⟨e, excluding.kept e member host x inside covered, inside,
      reason.imp id fun ⟨below, least⟩ => ⟨below, (first e inside).mpr least⟩⟩

end

/-! ### What is left of one label -/

/-- A network with host bits is kept whole or dropped whole. -/
theorem punchAll_loose (loose : ¬ net.Canonical) (nets : List Cidr) (piece : Cidr) :
    piece ∈ punchAll nets net ↔ piece = net ∧ ∀ e ∈ nets, e.Canonical → ¬ net.block ≤ e.block := by
  induction nets using List.reverseRecOn generalizing piece with
  | nil => simp [punchAll]
  | append_singleton nets last ih =>
    have uncut : net.contains last = false :=
      Bool.eq_false_iff.mpr fun holed => loose (Cidr.contains_iff.mp holed).1
    rw [punchAll, List.foldl_append]
    change piece ∈ (punchAll nets net).flatMap (punch last) ↔ _
    simp only [List.mem_flatMap, ih, List.mem_append, List.mem_singleton, or_imp, forall_and, forall_eq]
    constructor
    · intro given
      obtain ⟨other, ⟨same, spared⟩, kept⟩ := given
      rw [same, punch, uncut] at kept
      cases swallowed : Cidr.contains last net with
      | true => simp [swallowed] at kept
      | false =>
        simp only [swallowed, Bool.false_eq_true, if_false, List.mem_singleton] at kept
        refine ⟨kept, spared, fun canonical below => ?_⟩
        rw [Cidr.contains_iff.mpr ⟨canonical, below⟩] at swallowed
        cases swallowed
    · intro given
      obtain ⟨same, spared, free⟩ := given
      have outside : Cidr.contains last net = false :=
        Bool.eq_false_iff.mpr fun holds => free (Cidr.contains_iff.mp holds).1 (Cidr.contains_iff.mp holds).2
      exact ⟨net, ⟨rfl, spared⟩, by simp [punch, outside, uncut, same]⟩

/-- The label still announces the address. -/
def Left (includes excludes : List (String × String)) (label : String) (x : Nat) : Prop :=
  ∃ net ∈ aggregated includes label, Holds (punchAll (exclusions excludes) net) x

private theorem within_iff (canonical : net.Canonical) (member : net ∈ aggregated includes label) (inside : x ∈ net.block)
    {d : Block} (shared : x ∈ d) : d ≤ net.block ↔ ∀ y ∈ d, Block.Covered (wholeBlocks includes label) y := by
  have collapsed := aggregated_collapsed includes label
  constructor
  · intro below y held
    exact (collapsed.covered y).mp ⟨_, ⟨net, member, canonical, rfl⟩, Block.mem_of_le below held⟩
  · intro covered
    obtain ⟨other, listed, above⟩ := collapsed.normal.le_member d fun y held => (collapsed.covered y).mpr (covered y held)
    rwa [← collapsed.normal.apart other listed net.block ⟨net, member, canonical, rfl⟩ x (Block.mem_of_le above shared) inside]

/-- An address a label covers without host bits stays unless an exclusion strikes it. -/
private theorem left_canonical (canonical : net.Canonical) (member : net ∈ aggregated includes label)
    (inside : x ∈ net.block) : Holds (punchAll (exclusions excludes) net) x ↔
      ¬ ∃ e ∈ parsed excludes, x ∈ e.block ∧ (e.Canonical ∨
        (∀ y ∈ e.block, Block.Covered (wholeBlocks includes label) y) ∧
          ∀ f ∈ parsed excludes, f.block ≤ e.block → ¬ f.addr < e.addr) := by
  refine (punchAll_pending canonical (exclusions excludes) inside).left.trans (not_congr ?_)
  rw [(exclusions_excluding excludes).struck_iff]
  constructor
  · intro given
    obtain ⟨e, listed, struck, reason⟩ := given
    exact ⟨e, listed, struck, reason.imp id (And.imp_left (within_iff canonical member inside struck).mp)⟩
  · intro given
    obtain ⟨e, listed, struck, reason⟩ := given
    exact ⟨e, listed, struck, reason.imp id (And.imp_left (within_iff canonical member inside struck).mpr)⟩

theorem swallowed_iff (net : Cidr) : (∃ e ∈ exclusions excludes, e.Canonical ∧ net.block ≤ e.block) ↔
    ∀ x ∈ net.block, Block.Covered (Cidr.canonicalBlocks (parsed excludes)) x := by
  have excluding := exclusions_excluding excludes
  constructor
  · intro given x inside
    obtain ⟨e, member, canonical, below⟩ := given
    exact (excluding.covered x).mp ⟨_, ⟨e, member, canonical, rfl⟩, Block.mem_of_le below inside⟩
  · intro covered
    obtain ⟨_, ⟨e, member, canonical, rfl⟩, below⟩ :=
      excluding.normal.le_member net.block fun x inside => (excluding.covered x).mpr (covered x inside)
    exact ⟨e, member, canonical, below⟩

private theorem left_loose (loose : ¬ net.Canonical) : Holds (punchAll (exclusions excludes) net) x ↔
    x ∈ net.block ∧ ¬ ∀ y ∈ net.block, Block.Covered (Cidr.canonicalBlocks (parsed excludes)) y := by
  rw [← swallowed_iff]
  simp only [Holds, punchAll_loose loose, not_exists, not_and]
  constructor
  · rintro ⟨_, ⟨rfl, spared⟩, inside⟩
    exact ⟨inside, spared⟩
  · intro given
    obtain ⟨inside, spared⟩ := given
    exact ⟨net, ⟨rfl, spared⟩, inside⟩

private theorem left_subset (left : Left includes excludes label x) : ∃ net ∈ labelled includes label, x ∈ net.block := by
  obtain ⟨net, member, held⟩ := left
  have collapsed := aggregated_collapsed includes label
  by_cases canonical : net.Canonical
  · obtain ⟨piece, listed, inside⟩ := held
    have whole := (punchAll_subset canonical _ piece listed).2 x inside
    obtain ⟨_, ⟨other, listed, _, rfl⟩, inside⟩ := (collapsed.covered x).mp ⟨_, ⟨net, member, canonical, rfl⟩, whole⟩
    exact ⟨other, listed, inside⟩
  · exact ⟨net, ((collapsed.loose net canonical).mp member).1, ((left_loose canonical).mp held).1⟩

/-- What is included and not excluded is never lost. -/
private theorem left_of_free (member : net ∈ labelled includes label) (inside : x ∈ net.block)
    (free : ¬ Holds (parsed excludes) x) : Left includes excludes label x := by
  have collapsed := aggregated_collapsed includes label
  have covered : Block.Covered (wholeBlocks includes label) x → Left includes excludes label x := by
    intro covered
    obtain ⟨_, ⟨other, listed, canonical, rfl⟩, held⟩ := (collapsed.covered x).mpr covered
    refine ⟨other, listed, (left_canonical canonical listed held).mpr ?_⟩
    intro given
    obtain ⟨e, excluded, struck, _⟩ := given
    exact free ⟨e, excluded, struck⟩
  by_cases canonical : net.Canonical
  · exact covered ⟨_, ⟨net, member, canonical, rfl⟩, inside⟩
  by_cases outer : ∀ b ∈ wholeBlocks includes label, ¬ net.block < b
  · refine ⟨net, (collapsed.loose net canonical).mpr ⟨member, outer⟩, (left_loose canonical).mpr ⟨inside, fun swallowed => ?_⟩⟩
    exact free (holds_of_canonical (swallowed x inside))
  · simp only [not_forall, not_not] at outer
    obtain ⟨b, listed, strict⟩ := outer
    exact covered ⟨b, listed, Block.mem_of_le strict.le inside⟩

private theorem mem_parsed_labelled : net ∈ parsed includes ↔ ∃ label, net ∈ labelled includes label := by
  simp only [mem_parsed, mem_labelled]

/-- The labels announce the set difference exactly when host bits do no harm. -/
theorem left_exact_iff : (∀ x, (∃ label, Left includes excludes label x) ↔
    Holds (parsed includes) x ∧ ¬ Holds (parsed excludes) x) ↔ Harmless includes excludes := by
  constructor
  · intro exact
    have free : ∀ label x, Left includes excludes label x → ¬ Holds (parsed excludes) x :=
      fun label x left => ((exact x).mp ⟨label, left⟩).2
    refine ⟨?_, ?_⟩
    · intro label net member loose outer
      by_cases swallowed : ∀ x ∈ net.block, Block.Covered (Cidr.canonicalBlocks (parsed excludes)) x
      · exact .inr swallowed
      · refine .inl fun x inside => free label x ⟨net, ?_, (left_loose loose).mpr ⟨inside, swallowed⟩⟩
        exact ((aggregated_collapsed includes label).loose net loose).mpr ⟨member, outer⟩
    · intro label x covered held
      obtain ⟨_, ⟨net, member, canonical, rfl⟩, inside⟩ := ((aggregated_collapsed includes label).covered x).mpr covered
      by_contra spared
      exact free label x ⟨net, member, (left_canonical canonical member inside).mpr spared⟩ held
  · intro harmless x
    constructor
    · intro given
      obtain ⟨label, left⟩ := given
      obtain ⟨other, listed, held⟩ := left_subset left
      refine ⟨⟨other, mem_parsed_labelled.mpr ⟨label, listed⟩, held⟩, fun excluded => ?_⟩
      obtain ⟨net, member, left⟩ := left
      by_cases canonical : net.Canonical
      · have inside : x ∈ net.block := by
          obtain ⟨piece, listed, held⟩ := left
          exact (punchAll_subset canonical _ piece listed).2 x held
        have covered := ((aggregated_collapsed includes label).covered x).mp ⟨_, ⟨net, member, canonical, rfl⟩, inside⟩
        exact (left_canonical canonical member inside).mp left (harmless.excluded label x covered excluded)
      · obtain ⟨inside, spared⟩ := (left_loose canonical).mp left
        obtain ⟨listed, outer⟩ := ((aggregated_collapsed includes label).loose net canonical).mp member
        rcases harmless.included label net listed canonical outer with free | swallowed
        · exact free x inside excluded
        · exact spared swallowed
    · intro given
      obtain ⟨⟨net, member, inside⟩, free⟩ := given
      obtain ⟨label, member⟩ := mem_parsed_labelled.mp member
      exact ⟨label, left_of_free member inside free⟩

/-! ### The routes -/

theorem parseCidr_formatCidr (net : Cidr) : parseCidr (formatCidr net) = some net := by
  rw [parseCidr, formatCidr, Cidr.parseCidr, Proofs.CidrText.parseCidr_ipv4_text]
  rfl

private theorem entriesCover_iff {entries : List (String × String)} {addr : Ipv4Addr} :
    EntriesCover entries addr ↔ Holds (parsed entries) addr.toNat := by
  simp only [EntriesCover, Holds, parsed, List.mem_filterMap, Cidr.covers_iff]
  constructor
  · intro given
    obtain ⟨entry, member, net, reads, inside⟩ := given
    exact ⟨net, ⟨entry, member, reads⟩, inside⟩
  · intro given
    obtain ⟨net, ⟨entry, member, reads⟩, inside⟩ := given
    exact ⟨entry, member, net, reads, inside⟩

/-- The routes of a resolution that succeeds. -/
theorem mem_routes {included excluded : Nat → Lookups} {sources exclude : List BypassSourceEntry}
    {routes : List (String × String)} (resolved : resolveInner included excluded sources exclude = .ok routes)
    (includesOk : collectEntries included sources = .ok includes)
    (excludesOk : collectEntries excluded exclude = .ok excludes) (route : String × String) :
    route ∈ routes ↔ ∃ net ∈ aggregated includes route.2, ∃ piece ∈ punchAll (exclusions excludes) net,
      formatCidr piece = route.1 := by
  simp only [resolveInner, resolveEntries, includesOk, excludesOk, pure, Except.pure, bind, Except.bind] at resolved
  split at resolved
  · cases resolved
  cases resolved
  simp only [List.mem_map, mem_sort, List.mem_flatMap]
  constructor
  · rintro ⟨_, ⟨_, ⟨⟨net, label⟩, listed, piece, kept, rfl⟩, rfl⟩, rfl⟩
    exact ⟨net, mem_dedupeAndAggregate.mp listed, piece, kept, rfl⟩
  · intro given
    obtain ⟨net, listed, piece, kept, text⟩ := given
    refine ⟨toLex route, ⟨route, ⟨(net, route.2), mem_dedupeAndAggregate.mpr listed, piece, kept, ?_⟩, rfl⟩, rfl⟩
    rw [text]

private theorem routesCover_iff {included excluded : Nat → Lookups} {sources exclude : List BypassSourceEntry}
    {routes : List (String × String)} (resolved : resolveInner included excluded sources exclude = .ok routes)
    (includesOk : collectEntries included sources = .ok includes)
    (excludesOk : collectEntries excluded exclude = .ok excludes) (addr : Ipv4Addr) :
    EntriesCover routes addr ↔ ∃ label, Left includes excludes label addr.toNat := by
  have listed := mem_routes resolved includesOk excludesOk
  constructor
  · intro given
    obtain ⟨route, member, net, reads, covers⟩ := given
    obtain ⟨whole, member, piece, kept, text⟩ := (listed route).mp member
    rw [← text, parseCidr_formatCidr] at reads
    cases reads
    exact ⟨route.2, whole, member, net, kept, Cidr.covers_iff.mp covers⟩
  · intro given
    obtain ⟨label, whole, member, piece, kept, inside⟩ := given
    refine ⟨(formatCidr piece, label), (listed _).mpr ⟨whole, member, piece, kept, rfl⟩, piece, ?_, ?_⟩
    · exact parseCidr_formatCidr piece
    · exact Cidr.covers_iff.mpr inside

/-- A resolution that succeeds announces the set difference exactly when host bits do no harm. -/
theorem resolveInner_exact_iff (included excluded : Nat → Lookups) (sources exclude : List BypassSourceEntry)
    {routes : List (String × String)} (resolved : resolveInner included excluded sources exclude = .ok routes)
    (includesOk : collectEntries included sources = .ok includes)
    (excludesOk : collectEntries excluded exclude = .ok excludes) :
    Exact routes includes excludes ↔ Harmless includes excludes := by
  rw [← left_exact_iff]
  have covers := routesCover_iff resolved includesOk excludesOk
  constructor
  · intro exact x
    by_cases small : x < 2 ^ 32
    · have same := exact (BitVec.ofNat 32 x)
      rw [covers, entriesCover_iff, entriesCover_iff, BitVec.toNat_ofNat, Nat.mod_eq_of_lt small] at same
      exact same
    · constructor
      · intro given
        obtain ⟨label, left⟩ := given
        obtain ⟨net, _, inside⟩ := left_subset left
        exact absurd (Cidr.block_lt inside) small
      · intro given
        obtain ⟨⟨net, _, inside⟩, _⟩ := given
        exact absurd (Cidr.block_lt inside) small
  · intro exact addr
    rw [covers, entriesCover_iff, entriesCover_iff]
    exact exact addr.toNat

/-- The answers of a network that is never asked. -/
def noLookups (_ : Nat) : Lookups := ⟨fun _ _ => none, fun _ _ => none, fun _ => none⟩

def literal (net : String) : BypassSourceEntry := { kind := "literal", prefixes := some [⟨net, none⟩] }

theorem resolveInner_exact_iff_literal :
    Exact [("10.0.0.128/25", "")] [("10.0.0.0/24", "")] [("10.0.0.0/25", "")] ↔
      Harmless [("10.0.0.0/24", "")] [("10.0.0.0/25", "")] :=
  resolveInner_exact_iff noLookups noLookups [literal "10.0.0.0/24"] [literal "10.0.0.0/25"]
    (by decide +kernel) (by decide) (by decide)

/-- An exclusion with host bits that holds a whole included network leaves it announced. -/
theorem resolveInner_not_exact : ¬ ∀ (bypass : BypassConfig) (included excluded : Nat → Lookups)
    (includes excludes routes : List (String × String)), validateBypass bypass = .ok () →
    collectEntries included bypass.includes = .ok includes → collectEntries excluded bypass.excludes = .ok excludes →
    resolveInner included excluded bypass.includes bypass.excludes = .ok routes → Exact routes includes excludes := by
  intro alwaysExact
  have exact := alwaysExact { includes := [literal "10.0.0.0/25"], excludes := [literal "10.0.0.5/24"] } noLookups noLookups
    [("10.0.0.0/25", "")] [("10.0.0.5/24", "")] [("10.0.0.0/25", "")] (by decide) (by decide) (by decide) (by decide +kernel)
  have route : parseCidr "10.0.0.0/25" = some ⟨167772160#32, 25, by decide⟩ := by decide
  have excluded : parseCidr "10.0.0.5/24" = some ⟨167772165#32, 24, by decide⟩ := by decide
  refine ((exact 167772161#32).mp ⟨_, List.mem_singleton_self _, _, route, ?_⟩).2
    ⟨_, List.mem_singleton_self _, _, excluded, ?_⟩
  · exact Cidr.covers_iff.mpr (by decide)
  · exact Cidr.covers_iff.mpr (by decide)

end Slipmesh.Router
