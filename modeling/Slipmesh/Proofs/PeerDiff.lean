import Slipmesh.Proofs.Peers

/-! `diff_peers` as the difference of two maps: it has one operation for each key whose
entries differ, and the operations lead from one map to the other. -/

namespace Slipmesh.Awg
open Library

variable {previous desired : List Peer} {key : String}

/-! ### One key at a time -/

/-- What is to be done about a key, from its entries in the two maps. -/
def operation (key : String) (prev wanted : Option Peer) : Option (String × Option Peer) :=
  match wanted with
  | some peer => if ∃ old ∈ prev, unchanged old peer then none else some (key, some peer)
  | none => prev.map fun _ => (key, none)

theorem diffPeers_filter (previous desired : List Peer) (key : String) :
    (diffPeers previous desired).filter (·.1 = key) =
      (operation key ((byKey previous).find? key) ((byKey desired).find? key)).toList := by
  rw [diffPeers, List.filter_append, filter_filterMap_key Prod.fst Prod.fst, filter_filterMap_key id Prod.fst]
  · simp only [id]
    rw [SortedMap.filter_entries, SortedMap.filter_keys]
    cases wanted : (byKey desired).find? key with
    | none =>
      cases held : (byKey previous).find? key with
      | none => rfl
      | some prev => simp [operation, wanted]
    | some peer =>
      have left : (((byKey previous).find? key).map fun _ => key).toList.filterMap
          (fun there => if ((byKey desired).find? there).isSome then none else some (there, (none : Option Peer))) = [] := by
        cases (byKey previous).find? key with
        | none => rfl
        | some prev => simp [wanted]
      rw [left, List.append_nil]
      by_cases same : ∃ old ∈ (byKey previous).find? key, unchanged old peer
      · simp only [operation, Option.map_some, Option.toList_some, List.filterMap_cons, List.filterMap_nil, if_pos same]
        rfl
      · simp only [operation, Option.map_some, Option.toList_some, List.filterMap_cons, List.filterMap_nil, if_neg same]
  · intro here op made
    simp only [Option.ite_none_left_eq_some, Option.some.injEq] at made
    rw [← made.2]
    rfl
  · intro entry op made
    simp only [Option.ite_none_left_eq_some, Option.some.injEq] at made
    rw [← made.2]

theorem operation_sets {prev wanted : Option Peer} {op : String × Option Peer}
    (made : operation key prev wanted = some op) : op = (key, wanted) := by
  cases wanted with
  | none =>
    obtain ⟨_, _, same⟩ := Option.map_eq_some_iff.mp made
    exact same.symm
  | some peer =>
    simp only [operation, Option.ite_none_left_eq_some, Option.some.injEq] at made
    exact made.2.symm

theorem mem_diffPeers {op : String × Option Peer} :
    op ∈ diffPeers previous desired ↔
      operation op.1 ((byKey previous).find? op.1) ((byKey desired).find? op.1) = some op := by
  rw [← Option.mem_toList, ← diffPeers_filter, List.mem_filter, decide_eq_true rfl]
  exact (and_iff_left rfl).symm

/-- No two operations are about one key. -/
theorem diffPeers_keys (previous desired : List Peer) : ((diffPeers previous desired).map Prod.fst).Nodup := by
  rw [List.nodup_iff_count_le_one]
  intro key
  rw [List.count_eq_countP, List.countP_map, List.countP_eq_length_filter]
  have once := congrArg List.length (diffPeers_filter previous desired key)
  rw [Option.length_toList] at once
  refine le_of_eq_of_le (congrArg List.length (List.filter_congr fun op _ => ?_)) (once.trans_le ?_)
  · exact beq_eq_decide op.1 key
  · cases operation key ((byKey previous).find? key) ((byKey desired).find? key) <;> simp

/-! ### The two maps -/

/-- The entry of a key in a list of peers. -/
def entryOf (peers : List Peer) (key : String) : Option Peer := peers.find? (·.publicKey = key)

/-- The same entry, or none in both; the allowed IPs are compared as sets. -/
def SameEntry : Option Peer → Option Peer → Prop
  | some prev, some peer => prev.publicKey = peer.publicKey ∧ unchanged prev peer
  | none, none => True
  | _, _ => False

/-- `Some` sets the entry of the key, `None` deletes it. -/
def applyOp (table : String → Option Peer) (op : String × Option Peer) : String → Option Peer :=
  Function.update table op.1 op.2

theorem entryOf_iff {peers : List Peer} (distinct : (peers.map (·.publicKey)).Nodup) {peer : Peer} :
    entryOf peers key = some peer ↔ peer ∈ peers ∧ peer.publicKey = key :=
  find?_key distinct

theorem byKey_entryOf {peers : List Peer} (distinct : (peers.map (·.publicKey)).Nodup) (key : String) :
    (byKey peers).find? key = entryOf peers key := by
  apply Option.ext
  intro peer
  rw [byKey_find? distinct, entryOf_iff distinct]

theorem sameSet.symm {a b : List String} (same : sameSet a b) : sameSet b a := And.symm same

theorem sameSet.trans {a b c : List String} (first : sameSet a b) (second : sameSet b c) : sameSet a c :=
  ⟨List.Subset.trans first.1 second.1, List.Subset.trans second.2 first.2⟩

theorem sameSet_of_perm {a b : List String} (perm : a.Perm b) : sameSet a b := ⟨perm.subset, perm.symm.subset⟩

theorem unchanged.symm {prev peer : Peer} (same : unchanged prev peer) : unchanged peer prev :=
  ⟨same.1.symm, same.2.1.symm, same.2.2.symm⟩

theorem unchanged.trans {prev peer next : Peer} (first : unchanged prev peer) (second : unchanged peer next) :
    unchanged prev next :=
  ⟨first.1.trans second.1, first.2.1.trans second.2.1, first.2.2.trans second.2.2⟩

namespace SameEntry

theorem refl (entry : Option Peer) : SameEntry entry entry := by
  cases entry with
  | none => exact trivial
  | some peer => exact ⟨rfl, ⟨List.Subset.refl _, List.Subset.refl _⟩, rfl, rfl⟩

theorem symm {prev wanted : Option Peer} (same : SameEntry prev wanted) : SameEntry wanted prev := by
  cases prev with
  | none =>
    cases wanted with
    | none => exact trivial
    | some peer => exact same
  | some old =>
    cases wanted with
    | none => exact same
    | some peer => exact ⟨same.1.symm, same.2.symm⟩

theorem trans {first second third : Option Peer} (one : SameEntry first second) (two : SameEntry second third) :
    SameEntry first third := by
  cases second with
  | none =>
    cases first with
    | none => exact two
    | some old => exact one.elim
  | some middle =>
    cases first with
    | none => exact one.elim
    | some old =>
      cases third with
      | none => exact two.elim
      | some peer => exact ⟨one.1.trans two.1, one.2.trans two.2⟩

end SameEntry

/-- A key has no operation where its entries are the same. -/
theorem operation_none (previous desired : List Peer) (key : String) :
    operation key (entryOf previous key) (entryOf desired key) = none ↔
      SameEntry (entryOf previous key) (entryOf desired key) := by
  cases wanted : entryOf desired key with
  | none =>
    cases entryOf previous key with
    | none => simp [operation, SameEntry]
    | some prev => simp [operation, SameEntry]
  | some peer =>
    cases held : entryOf previous key with
    | none => simp [operation, SameEntry]
    | some prev =>
      have keys : prev.publicKey = peer.publicKey := by
        have first : prev.publicKey = key := by simpa using List.find?_some held
        have second : peer.publicKey = key := by simpa using List.find?_some wanted
        exact first.trans second.symm
      simp [operation, SameEntry, keys]

/-! ### Reordering -/

/-- The same peer with its allowed IPs in another order. -/
structure Peer.Reordered (peer other : Peer) : Prop where
  publicKey : peer.publicKey = other.publicKey
  allowedIps : peer.allowedIps.Perm other.allowedIps
  endpoint : peer.endpoint = other.endpoint
  advancedSecurity : peer.advancedSecurity = other.advancedSecurity

/-- The same peers in another order, each with its allowed IPs in another order. -/
def Reordered (peers others : List Peer) : Prop :=
  ∃ shuffled, peers.Perm shuffled ∧ List.Forall₂ Peer.Reordered shuffled others

theorem Peer.Reordered.unchanged {peer other : Peer} (reordered : peer.Reordered other) : unchanged other peer :=
  ⟨(sameSet_of_perm reordered.allowedIps).symm, reordered.endpoint.symm, reordered.advancedSecurity.symm⟩

theorem Reordered.keys {peers others : List Peer} (reordered : Reordered peers others) :
    (others.map (·.publicKey)).Perm (peers.map (·.publicKey)) := by
  obtain ⟨shuffled, perm, each⟩ := reordered
  have same : shuffled.map (·.publicKey) = others.map (·.publicKey) := by
    clear perm
    induction each with
    | nil => rfl
    | cons first rest ih => rw [List.map_cons, List.map_cons, first.publicKey, ih]
  exact same ▸ (perm.map _).symm

theorem Reordered.sameEntry {peers others : List Peer} (reordered : Reordered peers others)
    (distinct : (peers.map (·.publicKey)).Nodup) (key : String) : SameEntry (entryOf others key) (entryOf peers key) := by
  obtain ⟨shuffled, perm, each⟩ := reordered
  have moved : entryOf peers key = entryOf shuffled key := by
    apply Option.ext
    intro peer
    rw [entryOf_iff distinct, entryOf_iff ((perm.map _).nodup_iff.mp distinct), perm.mem_iff]
  rw [moved]
  clear perm moved
  -- The two lists are searched in step: a peer has the key of the one it comes from.
  induction each with
  | nil => exact SameEntry.refl none
  | @cons peer other _ _ first _ ih =>
    rw [entryOf, entryOf, List.find?_cons, List.find?_cons, first.publicKey]
    cases decide (other.publicKey = key) with
    | true => exact ⟨first.publicKey.symm, first.unchanged⟩
    | false => exact ih

/-! ### All keys -/

section
variable (distinctPrevious : (previous.map (·.publicKey)).Nodup) (distinctDesired : (desired.map (·.publicKey)).Nodup)
include distinctPrevious distinctDesired

theorem mem_diffPeers_keys (key : String) :
    key ∈ (diffPeers previous desired).map Prod.fst ↔ ¬ SameEntry (entryOf previous key) (entryOf desired key) := by
  rw [← operation_none, ← ne_eq, ← Option.isSome_iff_ne_none, Option.isSome_iff_exists, List.mem_map]
  constructor
  · intro given
    obtain ⟨op, member, rfl⟩ := given
    rw [mem_diffPeers, byKey_entryOf distinctPrevious, byKey_entryOf distinctDesired] at member
    exact ⟨op, member⟩
  · intro given
    obtain ⟨op, made⟩ := given
    have about : op.1 = key := congrArg Prod.fst (operation_sets made)
    refine ⟨op, ?_, about⟩
    rwa [mem_diffPeers, byKey_entryOf distinctPrevious, byKey_entryOf distinctDesired, about]

/-- A key with an operation ends with the wanted entry, any other with the one it had. -/
theorem diffPeers_applied (key : String) :
    SameEntry ((diffPeers previous desired).foldl applyOp (entryOf previous) key) (entryOf desired key) := by
  change SameEntry ((diffPeers previous desired).foldl (writeAt Prod.fst fun op _ => op.2) (entryOf previous) key) _
  by_cases member : key ∈ (diffPeers previous desired).map Prod.fst
  · obtain ⟨op, listed, rfl⟩ := List.mem_map.mp member
    have made := mem_diffPeers.mp listed
    rw [byKey_entryOf distinctPrevious, byKey_entryOf distinctDesired] at made
    have wanted : op.2 = entryOf desired op.1 := congrArg Prod.snd (operation_sets made)
    rw [run_writeAt Prod.fst (fun op _ => op.2) (diffPeers_keys previous desired) listed, wanted]
    exact SameEntry.refl _
  · rw [run_writeAt_of_ne Prod.fst (fun op _ => op.2) fun op inside same => member (List.mem_map.mpr ⟨op, inside, same⟩)]
    exact not_not.mp fun differ => member ((mem_diffPeers_keys distinctPrevious distinctDesired key).mpr differ)

theorem diffPeers_reordered {others wanted : List Peer} (moved : Reordered previous others)
    (rewritten : Reordered desired wanted) :
    ((diffPeers others wanted).map Prod.fst).Perm ((diffPeers previous desired).map Prod.fst) := by
  rw [List.perm_ext_iff_of_nodup (diffPeers_keys others wanted) (diffPeers_keys previous desired)]
  intro key
  rw [mem_diffPeers_keys distinctPrevious distinctDesired, mem_diffPeers_keys (moved.keys.nodup_iff.mpr distinctPrevious)
    (rewritten.keys.nodup_iff.mpr distinctDesired), not_iff_not]
  have before := moved.sameEntry distinctPrevious key
  have after := rewritten.sameEntry distinctDesired key
  constructor
  · intro same
    exact before.symm.trans (same.trans after)
  · intro same
    exact before.trans (same.trans after.symm)

end

/-- The operations turn the one map into the other, with one operation for each key whose
entries differ, however the lists and their allowed IPs are ordered. -/
theorem diffPeers_exact (previous desired : List Peer) (distinctPrevious : (previous.map (·.publicKey)).Nodup)
    (distinctDesired : (desired.map (·.publicKey)).Nodup) :
    (∀ key, SameEntry ((diffPeers previous desired).foldl applyOp (entryOf previous) key) (entryOf desired key)) ∧
      ((diffPeers previous desired).map Prod.fst).Nodup ∧
      (∀ key, key ∈ (diffPeers previous desired).map Prod.fst ↔
        ¬ SameEntry (entryOf previous key) (entryOf desired key)) ∧
      ∀ others wanted, Reordered previous others → Reordered desired wanted →
        ((diffPeers others wanted).map Prod.fst).Perm ((diffPeers previous desired).map Prod.fst) := by
  refine ⟨diffPeers_applied distinctPrevious distinctDesired, diffPeers_keys previous desired,
    mem_diffPeers_keys distinctPrevious distinctDesired, ?_⟩
  intro others wanted moved rewritten
  exact diffPeers_reordered distinctPrevious distinctDesired moved rewritten

/-- A client whose networks are listed in another order, and one that is revoked. -/
theorem revoked_exact : ((diffPeers [⟨"a", ["x", "y"], none, false⟩, ⟨"b", [], none, false⟩]
    [⟨"a", ["y", "x"], none, false⟩]).map Prod.fst).Nodup ∧
    "a" ∉ (diffPeers [⟨"a", ["x", "y"], none, false⟩, ⟨"b", [], none, false⟩] [⟨"a", ["y", "x"], none, false⟩]).map Prod.fst := by
  obtain ⟨_, once, exact, _⟩ := diffPeers_exact [⟨"a", ["x", "y"], none, false⟩, ⟨"b", [], none, false⟩]
    [⟨"a", ["y", "x"], none, false⟩] (by decide) (by decide)
  have same : SameEntry (some ⟨"a", ["x", "y"], none, false⟩) (some ⟨"a", ["y", "x"], none, false⟩) :=
    ⟨rfl, ⟨by decide, by decide⟩, rfl, rfl⟩
  exact ⟨once, fun listed => (exact "a").mp listed same⟩

end Slipmesh.Awg
