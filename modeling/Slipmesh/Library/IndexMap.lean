import Mathlib.Data.List.Basic

/-! Maps as lists of entries in the order their keys first came in. -/

namespace Slipmesh.Library.IndexMap

variable {κ α : Type} [DecidableEq κ]

/-- The other entries keep their order. -/
def remove (entries : List (κ × α)) (key : κ) : List (κ × α) := entries.filter (·.1 ≠ key)

def alter (entries : List (κ × α)) (key : κ) (change : α → α) : List (κ × α) :=
  entries.map fun entry => if entry.1 = key then (entry.1, change entry.2) else entry

/-- A key that is there keeps its place, a new one goes last. -/
def insert (entries : List (κ × α)) (key : κ) (value : α) : List (κ × α) :=
  if key ∈ entries.map Prod.fst then alter entries key fun _ => value else entries ++ [(key, value)]

@[simp] theorem lookup_cons (entry : κ × α) (entries : List (κ × α)) (key : κ) :
    (entry :: entries).lookup key = if entry.1 = key then some entry.2 else entries.lookup key := by
  obtain ⟨other, value⟩ := entry
  by_cases same : other = key
  · simp [same]
  · have differ : (key == other) = false := by simpa using Ne.symm same
    simp [same, List.lookup_cons, differ]

theorem lookup_eq_none (entries : List (κ × α)) (key : κ) :
    entries.lookup key = none ↔ key ∉ entries.map Prod.fst := by
  rw [List.lookup_eq_none_iff]
  constructor
  · intro absent member
    obtain ⟨entry, found, rfl⟩ := List.mem_map.mp member
    simpa using absent entry found
  · intro absent entry found
    have differ : key ≠ entry.1 := fun same => absent (same ▸ List.mem_map_of_mem found)
    simpa using differ

theorem mem_of_lookup {entries : List (κ × α)} {key : κ} {value : α} (held : entries.lookup key = some value) :
    (key, value) ∈ entries := by
  induction entries with
  | nil => cases held
  | cons entry entries ih =>
    rw [lookup_cons] at held
    split at held
    · rename_i same
      cases held
      exact same ▸ List.mem_cons_self
    · exact List.mem_cons_of_mem _ (ih held)

theorem lookup_of_mem {entries : List (κ × α)} (distinct : (entries.map Prod.fst).Nodup) {entry : κ × α}
    (listed : entry ∈ entries) : entries.lookup entry.1 = some entry.2 := by
  induction entries with
  | nil => cases listed
  | cons first entries ih =>
    simp only [List.map_cons, List.nodup_cons] at distinct
    rw [lookup_cons]
    rcases List.mem_cons.mp listed with rfl | later
    · rw [if_pos rfl]
    · have differ : first.1 ≠ entry.1 := fun same => distinct.1 (same ▸ List.mem_map_of_mem later)
      rw [if_neg differ, ih distinct.2 later]

@[simp] theorem lookup_remove_self (entries : List (κ × α)) (key : κ) : (remove entries key).lookup key = none := by
  rw [lookup_eq_none]
  simp [remove]

theorem lookup_remove (entries : List (κ × α)) {key other : κ} (differ : other ≠ key) :
    (remove entries key).lookup other = entries.lookup other := by
  induction entries with
  | nil => rfl
  | cons entry entries ih =>
    rw [remove, List.filter_cons, ← remove]
    by_cases same : entry.1 = key
    · simp [same, ih, differ.symm]
    · simp [same, ih]

theorem lookup_alter (entries : List (κ × α)) (key : κ) (change : α → α) (other : κ) :
    (alter entries key change).lookup other =
      if other = key then (entries.lookup other).map change else entries.lookup other := by
  induction entries with
  | nil => simp [alter]
  | cons entry entries ih =>
    rw [alter, List.map_cons, ← alter, lookup_cons, lookup_cons, ih]
    by_cases changed : entry.1 = key
    · by_cases wanted : other = key
      · simp [changed, wanted]
      · simp [changed, wanted, Ne.symm wanted]
    · by_cases found : entry.1 = other
      · have apart : other ≠ key := by simpa [← found] using changed
        simp [found, apart]
      · simp [changed, found]

theorem lookup_insert (entries : List (κ × α)) (key : κ) (value : α) (other : κ) :
    (insert entries key value).lookup other = if other = key then some value else entries.lookup other := by
  rw [insert]
  by_cases present : key ∈ entries.map Prod.fst
  · rw [if_pos present, lookup_alter]
    by_cases wanted : other = key
    · have found : (entries.lookup key).isSome := by
        rw [Option.isSome_iff_ne_none, Ne, lookup_eq_none, not_not]
        exact present
      obtain ⟨old, known⟩ := Option.isSome_iff_exists.mp found
      simp [wanted, known]
    · simp [wanted]
  · rw [if_neg present, List.lookup_append]
    by_cases wanted : other = key
    · have missing := (lookup_eq_none entries key).mpr present
      simp [wanted, missing]
    · simp [wanted, Ne.symm wanted]

theorem keys_remove (entries : List (κ × α)) (key : κ) :
    (remove entries key).map Prod.fst = (entries.map Prod.fst).filter (· ≠ key) := by
  rw [remove, List.filter_map]
  rfl

theorem keys_insert (entries : List (κ × α)) (key : κ) (value : α) : (insert entries key value).map Prod.fst =
    if key ∈ entries.map Prod.fst then entries.map Prod.fst else entries.map Prod.fst ++ [key] := by
  rw [insert]
  split
  · rw [alter, List.map_map]
    apply List.map_congr_left
    intro entry _
    change (if entry.1 = key then (entry.1, value) else entry).1 = entry.1
    split
    · rfl
    · rfl
  · simp

/-! ### Entries made on first use -/

/-- The entry of the key is made with a first value, if it is not there, and changed. -/
def touch (start : α) (entries : List (κ × α)) (key : κ) (change : α → α) : List (κ × α) :=
  insert entries key (change ((entries.lookup key).getD start))

/-- One after the other. -/
def touchAll (start : α) (entries : List (κ × α)) (changes : List (κ × (α → α))) : List (κ × α) :=
  changes.foldl (fun entries item => touch start entries item.1 item.2) entries

theorem touchAll_nodup (start : α) {entries : List (κ × α)} (distinct : (entries.map Prod.fst).Nodup)
    (changes : List (κ × (α → α))) : ((touchAll start entries changes).map Prod.fst).Nodup := by
  induction changes generalizing entries with
  | nil => exact distinct
  | cons item changes ih =>
    apply ih
    change ((touch start entries item.1 item.2).map Prod.fst).Nodup
    rw [touch, keys_insert]
    split
    · exact distinct
    · rename_i fresh
      refine List.nodup_append.mpr ⟨distinct, by simp, ?_⟩
      intro key listed other last same
      exact fresh (List.mem_singleton.mp last ▸ same ▸ listed)

/-- A key holds what its own changes make of it. -/
theorem lookup_touchAll (start : α) (entries : List (κ × α)) (changes : List (κ × (α → α))) (key : κ) :
    (touchAll start entries changes).lookup key =
      (changes.filter (·.1 = key)).foldl (fun old item => some (item.2 (old.getD start))) (entries.lookup key) := by
  induction changes generalizing entries with
  | nil => rfl
  | cons item changes ih =>
    change (touchAll start (touch start entries item.1 item.2) changes).lookup key = _
    rw [ih, touch, lookup_insert, List.filter_cons]
    by_cases same : key = item.1
    · subst same
      simp
    · simp [same, Ne.symm same]

/-- Where every key is changed once, the entries are those of the changes. -/
theorem touchAll_distinct (start : α) {changes : List (κ × (α → α))} (distinct : (changes.map Prod.fst).Nodup) :
    touchAll start [] changes = changes.map fun item => (item.1, item.2 start) := by
  have general (entries : List (κ × α)) (apart : ∀ item ∈ changes, item.1 ∉ entries.map Prod.fst) :
      touchAll start entries changes = entries ++ changes.map fun item => (item.1, item.2 start) := by
    induction changes generalizing entries with
    | nil => exact (List.append_nil _).symm
    | cons item changes ih =>
      simp only [List.map_cons, List.nodup_cons] at distinct
      have fresh := apart item (List.mem_cons_self ..)
      have made : touch start entries item.1 item.2 = entries ++ [(item.1, item.2 start)] := by
        rw [touch, insert, if_neg fresh, (lookup_eq_none entries item.1).mpr fresh, Option.getD_none]
      change touchAll start (touch start entries item.1 item.2) changes = _
      rw [made, ih distinct.2]
      · simp
      · intro other later inside
        rw [List.map_append, List.mem_append] at inside
        rcases inside with before | last
        · exact apart other (List.mem_cons_of_mem _ later) before
        · have same : other.1 = item.1 := by simpa using last
          exact distinct.1 (same ▸ List.mem_map_of_mem later)
  simpa using general [] (by simp)

/-- Maps of the same keys in the same order that hold the same are one list. -/
theorem ext_lookup {entries others : List (κ × α)} (distinct : (entries.map Prod.fst).Nodup)
    (keys : entries.map Prod.fst = others.map Prod.fst) (same : ∀ key, entries.lookup key = others.lookup key) :
    entries = others := by
  induction entries generalizing others with
  | nil => exact (List.map_eq_nil_iff.mp keys.symm).symm
  | cons entry entries ih =>
    cases others with
    | nil => cases keys
    | cons other others =>
      obtain ⟨key, value⟩ := entry
      obtain ⟨key', value'⟩ := other
      simp only [List.map_cons, List.cons.injEq] at keys
      obtain ⟨rfl, keys⟩ := keys
      simp only [List.map_cons, List.nodup_cons] at distinct
      have first : value = value' := by simpa using same key
      have rest : entries = others := by
        apply ih distinct.2 keys
        intro wanted
        by_cases here : key = wanted
        · have absent := (lookup_eq_none entries wanted).mpr (here ▸ distinct.1)
          have absent' := (lookup_eq_none others wanted).mpr (here ▸ keys ▸ distinct.1)
          rw [absent, absent']
        · simpa [here] using same wanted
      rw [first, rest]

/-- The keys in the order they first came in. -/
theorem nodup_eraseDups (keys : List κ) : keys.eraseDups.Nodup := by
  induction size : keys.length using Nat.strongRecOn generalizing keys with
  | ind size ih =>
    cases keys with
    | nil => simp
    | cons key keys =>
      rw [List.eraseDups_cons, List.nodup_cons]
      refine ⟨by simp [List.mem_eraseDups], ih _ ?_ _ rfl⟩
      rw [← size, List.length_cons]
      exact Nat.lt_succ_of_le (List.length_filter_le _ _)

omit [DecidableEq κ] in
theorem distinct_append {β : Type} (key : β → κ) {items : List β} (distinct : (items.map key).Nodup) {last : β}
    (fresh : ∀ item ∈ items, key item ≠ key last) : ((items ++ [last]).map key).Nodup := by
  rw [List.map_append, List.map_singleton, List.nodup_append]
  refine ⟨distinct, by simp, ?_⟩
  intro first member other single
  obtain ⟨item, listed, rfl⟩ := List.mem_map.mp member
  exact List.mem_singleton.mp single ▸ fresh item listed

/-- Among items of different keys, the ones of a key that is there are one. -/
theorem filter_of_distinct {β : Type} (key : β → κ) {items : List β} (distinct : (items.map key).Nodup)
    {item : β} (member : item ∈ items) : items.filter (key · = key item) = [item] := by
  induction items with
  | nil => cases member
  | cons first rest ih =>
    simp only [List.map_cons, List.nodup_cons] at distinct
    obtain ⟨fresh, distinct⟩ := distinct
    rcases List.mem_cons.mp member with rfl | later
    · have others : rest.filter (key · = key item) = [] := by
        rw [List.filter_eq_nil_iff]
        intro other found same
        exact fresh (of_decide_eq_true same ▸ List.mem_map_of_mem found)
      rw [List.filter_cons_of_pos (by simp), others]
    · have differ : key first ≠ key item := fun same => fresh (same ▸ List.mem_map_of_mem later)
      rw [List.filter_cons_of_neg (by simpa using differ), ih distinct later]

theorem filter_lookup {entries : List (κ × α)} (distinct : (entries.map Prod.fst).Nodup) (key : κ) :
    entries.filter (·.1 = key) = ((entries.lookup key).map (key, ·)).toList := by
  cases held : entries.lookup key with
  | none =>
    rw [lookup_eq_none] at held
    apply List.filter_eq_nil_iff.mpr
    intro entry listed same
    exact held (of_decide_eq_true same ▸ List.mem_map_of_mem listed)
  | some value => exact filter_of_distinct Prod.fst distinct (mem_of_lookup held)

end Slipmesh.Library.IndexMap
