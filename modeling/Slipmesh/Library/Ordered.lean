import Mathlib.Data.List.Induction
import Mathlib.Data.List.Sort
import Mathlib.Data.Prod.Lex

/-! Sorted lists without repetitions, and maps kept as such lists of entries:
two of them with the same members are the same. -/

namespace Slipmesh.Library

variable {α κ υ : Type} [LinearOrder α] [LinearOrder κ]

def sort (items : List α) : List α := items.insertionSort (· ≤ ·)

@[simp] theorem mem_sort {item : α} {items : List α} : item ∈ sort items ↔ item ∈ items :=
  List.mem_insertionSort _

theorem sort_sorted (items : List α) : (sort items).Pairwise (· ≤ ·) :=
  List.pairwise_insertionSort _ _

theorem sort_eq_of_perm {left right : List α} (perm : left.Perm right) : sort left = sort right := by
  have same : (sort left).Perm (sort right) :=
    (List.perm_insertionSort _ _).trans (perm.trans (List.perm_insertionSort _ _).symm)
  exact same.eq_of_pairwise (fun a b _ _ before after => le_antisymm before after) (sort_sorted _) (sort_sorted _)

/-- Keeps the first of equal neighbours. -/
def dedup : List α → List α
  | [] => []
  | first :: rest =>
    match dedup rest with
    | [] => [first]
    | second :: rest => if first = second then first :: rest else first :: second :: rest

@[simp] theorem mem_dedup {item : α} {items : List α} : item ∈ dedup items ↔ item ∈ items := by
  induction items with
  | nil => rfl
  | cons first rest ih =>
    rw [dedup, List.mem_cons, ← ih]
    cases dedup rest with
    | nil => simp
    | cons second rest =>
      simp only []
      split
      · rename_i same
        simp [same]
      · simp

theorem dedup_ascending {items : List α} (sorted : items.Pairwise (· ≤ ·)) : (dedup items).Pairwise (· < ·) := by
  induction items with
  | nil => exact List.Pairwise.nil
  | cons first rest ih =>
    obtain ⟨least, sorted⟩ := List.pairwise_cons.mp sorted
    have least : ∀ item ∈ dedup rest, first ≤ item := fun item member => least item (mem_dedup.mp member)
    have ascending := ih sorted
    rw [dedup]
    cases shape : dedup rest with
    | nil => simp
    | cons second rest =>
      rw [shape] at least ascending
      simp only []
      split
      · rename_i same
        exact same ▸ ascending
      · rename_i different
        have below := lt_of_le_of_ne (least second (List.mem_cons_self ..)) different
        refine List.pairwise_cons.mpr ⟨?_, ascending⟩
        intro item member
        rcases List.mem_cons.mp member with rfl | member
        · exact below
        · exact below.trans ((List.pairwise_cons.mp ascending).1 item member)

def sortDedup (items : List α) : List α := dedup (sort items)

@[simp] theorem mem_sortDedup {item : α} {items : List α} : item ∈ sortDedup items ↔ item ∈ items := by
  simp [sortDedup]

theorem sortDedup_ascending (items : List α) : (sortDedup items).Pairwise (· < ·) :=
  dedup_ascending (sort_sorted items)

theorem dedup_length_le (items : List α) : (dedup items).length ≤ items.length := by
  induction items with
  | nil => exact Nat.le_refl _
  | cons first rest ih =>
    rw [dedup]
    cases shape : dedup rest with
    | nil => simp
    | cons second tail =>
      rw [shape] at ih
      simp only []
      split
      · exact ih.trans (Nat.le_succ _)
      · exact Nat.succ_le_succ ih

theorem sortDedup_length_le (items : List α) : (sortDedup items).length ≤ items.length :=
  (dedup_length_le _).trans (List.length_insertionSort ..).le

theorem ascending_ext {left right : List α} (first : left.Pairwise (· < ·)) (second : right.Pairwise (· < ·))
    (same : ∀ item, item ∈ left ↔ item ∈ right) : left = right := by
  have perm := (List.perm_ext_iff_of_nodup (first.imp fun order => order.ne)
    (second.imp fun order => order.ne)).mpr same
  exact perm.eq_of_pairwise (fun a b _ _ before after => absurd before after.asymm) first second

/-- Where products have the key of the item they come from, those of one key come from
the items of that key. -/
theorem filter_filterMap_key {ι : Type} [DecidableEq ι] {β γ : Type} {f : β → Option γ} (place : β → ι) (placed : γ → ι)
    (keeps : ∀ item product, f item = some product → placed product = place item) (items : List β) (key : ι) :
    (items.filterMap f).filter (placed · = key) = (items.filter (place · = key)).filterMap f := by
  rw [List.filter_filterMap, List.filterMap_filter]
  apply List.filterMap_congr
  intro item _
  cases made : f item with
  | none => simp
  | some product => simp [Option.filter_some, keeps item product made]

/-- The item that is found by its key, where no two have one key. -/
theorem find?_key {β ι : Type} [DecidableEq ι] {place : β → ι} {items : List β} (distinct : (items.map place).Nodup)
    {key : ι} {item : β} : items.find? (place · = key) = some item ↔ item ∈ items ∧ place item = key := by
  constructor
  · intro found
    exact ⟨List.mem_of_find?_eq_some found, by simpa using List.find?_some found⟩
  · intro given
    obtain ⟨listed, same⟩ := given
    cases found : items.find? (place · = key) with
    | none => exact absurd same (by simpa using List.find?_eq_none.mp found item listed)
    | some other =>
      have its : place other = key := by simpa using List.find?_some found
      rw [List.inj_on_of_nodup_map distinct (List.mem_of_find?_eq_some found) listed (its.trans same.symm)]

/-! ### Maps -/

/-- A map in the order of its keys. -/
structure SortedMap (κ υ : Type) [LinearOrder κ] where
  entries : List (κ × υ)
  ascending : entries.Pairwise (·.1 < ·.1)

namespace SortedMap

def empty : SortedMap κ υ := ⟨[], List.Pairwise.nil⟩

private def look (key : κ) : List (κ × υ) → Option υ
  | [] => none
  | (other, value) :: rest => if key = other then some value else look key rest

def find? (map : SortedMap κ υ) (key : κ) : Option υ := look key map.entries

private def put (key : κ) (change : Option υ → υ) : List (κ × υ) → List (κ × υ)
  | [] => [(key, change none)]
  | (other, value) :: rest =>
    if key < other then (key, change none) :: (other, value) :: rest
    else if key = other then (other, change (some value)) :: rest
    else (other, value) :: put key change rest

private theorem mem_put {key : κ} {change : Option υ → υ} {entries : List (κ × υ)} {entry : κ × υ}
    (member : entry ∈ put key change entries) : entry.1 = key ∨ ∃ old ∈ entries, old.1 = entry.1 := by
  induction entries with
  | nil =>
    rw [put, List.mem_singleton] at member
    exact .inl (member ▸ rfl)
  | cons first rest ih =>
    rw [put] at member
    split at member
    · rcases List.mem_cons.mp member with rfl | member
      · exact .inl rfl
      · exact .inr ⟨entry, member, rfl⟩
    split at member
    · rename_i same
      rcases List.mem_cons.mp member with rfl | member
      · exact .inl same.symm
      · exact .inr ⟨entry, List.mem_cons_of_mem _ member, rfl⟩
    · rcases List.mem_cons.mp member with rfl | member
      · exact .inr ⟨_, List.mem_cons_self .., rfl⟩
      · exact (ih member).imp id fun ⟨old, inside, same⟩ => ⟨old, List.mem_cons_of_mem _ inside, same⟩

private theorem put_ascending (key : κ) (change : Option υ → υ) {entries : List (κ × υ)}
    (ascending : entries.Pairwise (·.1 < ·.1)) : (put key change entries).Pairwise (·.1 < ·.1) := by
  induction entries with
  | nil => simp [put]
  | cons first rest ih =>
    obtain ⟨least, above⟩ := List.pairwise_cons.mp ascending
    rw [put]
    split
    · rename_i below
      refine List.pairwise_cons.mpr ⟨?_, ascending⟩
      intro entry member
      rcases List.mem_cons.mp member with rfl | member
      · exact below
      · exact below.trans (least entry member)
    split
    · exact List.pairwise_cons.mpr ⟨least, above⟩
    · rename_i after different
      have later : first.1 < key := lt_of_le_of_ne (not_lt.mp after) (Ne.symm different)
      refine List.pairwise_cons.mpr ⟨?_, ih above⟩
      intro entry member
      rcases mem_put member with same | ⟨old, inside, same⟩
      · exact same ▸ later
      · exact same ▸ least old inside

/-- `BTreeMap::entry`: the value of the key is rewritten in place, or inserted. -/
def alter (map : SortedMap κ υ) (key : κ) (change : Option υ → υ) : SortedMap κ υ :=
  ⟨put key change map.entries, put_ascending key change map.ascending⟩

def insert (map : SortedMap κ υ) (key : κ) (value : υ) : SortedMap κ υ := map.alter key fun _ => value

def orInsert (map : SortedMap κ υ) (key : κ) (value : υ) : SortedMap κ υ := map.alter key (·.getD value)

def keys (map : SortedMap κ υ) : List κ := map.entries.map Prod.fst

variable {map : SortedMap κ υ} {key other : κ} {value : υ} {change : Option υ → υ}

@[simp] theorem find?_empty : (empty : SortedMap κ υ).find? key = none := rfl

private theorem look_absent {entries : List (κ × υ)} (absent : ∀ entry ∈ entries, key < entry.1) :
    look key entries = none := by
  induction entries with
  | nil => rfl
  | cons first rest ih =>
    have different := (absent first (List.mem_cons_self ..)).ne
    simp [look, different, ih fun entry member => absent entry (List.mem_cons_of_mem _ member)]

private theorem look_put {entries : List (κ × υ)} (ascending : entries.Pairwise (·.1 < ·.1)) :
    look other (put key change entries) =
      if other = key then some (change (look key entries)) else look other entries := by
  induction entries with
  | nil => simp [put, look]
  | cons first rest ih =>
    obtain ⟨least, above⟩ := List.pairwise_cons.mp ascending
    rw [put]
    split
    · rename_i below
      have absent : look key (first :: rest) = none := by
        apply look_absent
        intro entry member
        rcases List.mem_cons.mp member with rfl | member
        · exact below
        · exact below.trans (least entry member)
      rw [absent, look]
    split
    · rename_i same
      subst same
      by_cases here : other = first.1 <;> simp [look, here]
    · rename_i different
      by_cases here : other = first.1
      · have other_key : other ≠ key := here ▸ Ne.symm different
        simp [look, here, here ▸ other_key]
      · simp [look, here, different, ih above]

theorem find?_alter : (map.alter key change).find? other =
    if other = key then some (change (map.find? key)) else map.find? other :=
  look_put map.ascending

@[simp] theorem find?_insert : (map.insert key value).find? other =
    if other = key then some value else map.find? other :=
  find?_alter

theorem find?_orInsert : (map.orInsert key value).find? other =
    if other = key then some ((map.find? key).getD value) else map.find? other :=
  find?_alter

private theorem mem_look {entries : List (κ × υ)} (ascending : entries.Pairwise (·.1 < ·.1)) :
    (key, value) ∈ entries ↔ look key entries = some value := by
  induction entries with
  | nil => simp [look]
  | cons first rest ih =>
    obtain ⟨least, above⟩ := List.pairwise_cons.mp ascending
    obtain ⟨here, found⟩ := first
    rw [List.mem_cons, look]
    split
    · rename_i same
      subst same
      have absent : (key, value) ∉ rest := fun member => (least _ member).ne rfl
      simp [absent, eq_comm]
    · rename_i different
      simp [Prod.ext_iff, different, ih above]

theorem mem_entries : (key, value) ∈ map.entries ↔ map.find? key = some value := mem_look map.ascending

private theorem filter_look {entries : List (κ × υ)} (ascending : entries.Pairwise (·.1 < ·.1)) :
    entries.filter (·.1 = key) = ((look key entries).map (key, ·)).toList := by
  induction entries with
  | nil => rfl
  | cons first rest ih =>
    obtain ⟨least, above⟩ := List.pairwise_cons.mp ascending
    obtain ⟨here, found⟩ := first
    rw [List.filter_cons, look]
    by_cases same : here = key
    · subst same
      have absent : look here rest = none := look_absent least
      rw [ih above, absent]
      simp
    · simp [same, Ne.symm same, ih above]

theorem filter_entries (map : SortedMap κ υ) (key : κ) :
    map.entries.filter (·.1 = key) = ((map.find? key).map (key, ·)).toList :=
  filter_look map.ascending

theorem filter_keys (map : SortedMap κ υ) (key : κ) :
    map.keys.filter (· = key) = ((map.find? key).map fun _ => key).toList := by
  rw [keys, List.filter_map]
  change (map.entries.filter (·.1 = key)).map Prod.fst = _
  rw [filter_entries]
  cases map.find? key with
  | none => rfl
  | some value => rfl

/-- Two maps that hold the same values are the same. -/
theorem eq_of_find? {first second : SortedMap κ υ} (same : ∀ key, first.find? key = second.find? key) :
    first = second := by
  have entries : first.entries = second.entries := by
    have nodup (map : SortedMap κ υ) : map.entries.Nodup :=
      map.ascending.imp fun below equal => below.ne (congrArg Prod.fst equal)
    have perm := (List.perm_ext_iff_of_nodup (nodup first) (nodup second)).mpr fun entry => by
      rw [← Prod.mk.eta (p := entry), mem_entries, mem_entries, same]
    exact perm.eq_of_pairwise (fun a b _ _ before after => absurd before after.asymm) first.ascending second.ascending
  cases first
  cases second
  cases entries
  rfl

/-- One turn of a loop that folds every item into the entry of its key, if it has one. -/
def foldInto {α : Type} (key : α → Option κ) (change : α → Option υ → υ) (map : SortedMap κ υ) (item : α) :
    SortedMap κ υ :=
  match key item with
  | some place => map.alter place (change item)
  | none => map

/-- The entry of a key depends on the items of that key, in their order. -/
theorem find?_foldInto {α : Type} (place : α → Option κ) (change : α → Option υ → υ) (items : List α)
    (map : SortedMap κ υ) (key : κ) :
    (items.foldl (foldInto place change) map).find? key =
      (items.filter (place · = some key)).foldl (fun old item => some (change item old)) (map.find? key) := by
  induction items generalizing map with
  | nil => rfl
  | cons item items ih =>
    rw [List.foldl_cons, ih, foldInto]
    cases its : place item with
    | none => simp [its]
    | some there =>
      simp only [find?_alter]
      by_cases same : key = there
      · simp [its, same]
      · simp [its, same, Ne.symm same]

theorem mem_keys : key ∈ map.keys ↔ (map.find? key).isSome := by
  rw [keys, List.mem_map, Option.isSome_iff_exists]
  constructor
  · rintro ⟨⟨_, value⟩, member, rfl⟩
    exact ⟨value, mem_entries.mp member⟩
  · rintro ⟨value, found⟩
    exact ⟨_, mem_entries.mpr found, rfl⟩

/-- `FromIterator`: inserted one after the other. -/
def ofPairs (pairs : List (κ × υ)) : SortedMap κ υ :=
  pairs.foldl (fun map pair => map.insert pair.1 pair.2) empty

theorem find?_ofPairs {pairs : List (κ × υ)} (distinct : (pairs.map Prod.fst).Nodup) :
    (ofPairs pairs).find? key = some value ↔ (key, value) ∈ pairs := by
  have general (map : SortedMap κ υ) : (pairs.foldl (fun map pair => map.insert pair.1 pair.2) map).find? key =
      some value ↔ (key, value) ∈ pairs ∨ key ∉ pairs.map Prod.fst ∧ map.find? key = some value := by
    induction pairs generalizing map with
    | nil => simp
    | cons pair pairs ih =>
      obtain ⟨fresh, distinct⟩ := List.nodup_cons.mp distinct
      rw [List.foldl_cons, ih distinct, find?_insert, List.mem_cons, List.map_cons, List.mem_cons, Prod.ext_iff]
      by_cases here : key = pair.1
      · subst here
        have absent : (pair.1, value) ∉ pairs := fun member => fresh (List.mem_map.mpr ⟨_, member, rfl⟩)
        simp [fresh, absent, eq_comm]
      · simp [here]
  rw [ofPairs, general, find?_empty]
  simp

/-- A key holds the last of the values listed for it. -/
theorem find?_ofPairs_last (pairs : List (κ × υ)) (key : κ) :
    (ofPairs pairs).find? key = (pairs.reverse.find? (·.1 = key)).map Prod.snd := by
  induction pairs using List.reverseRecOn with
  | nil => rfl
  | append_singleton pairs pair ih =>
    have inserted : ofPairs (pairs ++ [pair]) = (ofPairs pairs).insert pair.1 pair.2 := by
      simp [ofPairs, List.foldl_append]
    rw [inserted, find?_insert, List.reverse_append, List.reverse_singleton, List.singleton_append, List.find?_cons]
    by_cases last : key = pair.1
    · simp [last]
    · simp [last, Ne.symm last, ih]

theorem isSome_ofPairs (pairs : List (κ × υ)) (key : κ) :
    ((ofPairs pairs).find? key).isSome ↔ key ∈ pairs.map Prod.fst := by
  rw [find?_ofPairs_last, Option.isSome_map, List.find?_isSome]
  simp

end SortedMap

end Slipmesh.Library
