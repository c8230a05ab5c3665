import Slipmesh.Library.MergePatch
import Slipmesh.Proofs.Merge

/-! A merge is the JSON merge patch of its two sides, and keeps the order of their keys. -/

namespace Slipmesh.Yaml.Value
open Library

mutual

/-- No node has a tag, and a mapping has each key once. -/
def plain : Value → Bool
  | .scalar tag _ => tag.isNone
  | .sequence tag items => tag.isNone && plainItems items
  | .mapping tag entries => tag.isNone && decide (entries.map Prod.fst).Nodup && plainEntries entries

def plainItems : List Value → Bool
  | [] => true
  | item :: items => item.plain && plainItems items

def plainEntries : List (Value × Value) → Bool
  | [] => true
  | (key, value) :: entries => key.plain && value.plain && plainEntries entries

end

mutual

/-- What a value is without the order of its keys. A sequence is one value. -/
def json : Value → Json Value Value
  | .scalar _ .null => .null
  | .mapping _ entries => .object fun key => jsonMember entries key
  | value => .leaf value

def jsonMember : List (Value × Value) → Value → Option (Json Value Value)
  | [], _ => none
  | (name, value) :: entries, key => if name = key then some value.json else jsonMember entries key

end

/-- The value down the keys of bare mappings. -/
def down : Value → List Value → Option Value
  | value, [] => some value
  | value, key :: path => ((Taloscfg.bareEntries value).lookup key).bind (·.down path)

theorem plainEntries_iff {entries : List (Value × Value)} :
    plainEntries entries ↔ ∀ entry ∈ entries, entry.1.plain ∧ entry.2.plain := by
  induction entries with
  | nil => simp [plainEntries]
  | cons entry entries ih =>
    obtain ⟨key, value⟩ := entry
    simp [plainEntries, ih]

theorem plain_mapping {tag : Option String} {entries : List (Value × Value)} : (Value.mapping tag entries).plain ↔
    tag = none ∧ (entries.map Prod.fst).Nodup ∧ ∀ entry ∈ entries, entry.1.plain ∧ entry.2.plain := by
  rw [plain, Bool.and_eq_true, Bool.and_eq_true, plainEntries_iff, Option.isNone_iff_eq_none, decide_eq_true_eq, and_assoc]

theorem jsonMember_eq (entries : List (Value × Value)) (key : Value) :
    jsonMember entries key = (entries.lookup key).map json := by
  induction entries with
  | nil => rfl
  | cons entry entries ih =>
    obtain ⟨name, value⟩ := entry
    rw [jsonMember, IndexMap.lookup_cons, ih]
    split
    · rfl
    · rfl

theorem json_null {value : Value} : value.json = .null ↔ value.isNull := by
  cases value with
  | sequence tag items => simp [json, isNull]
  | mapping tag entries => simp [json, isNull]
  | scalar tag content =>
    cases content with
    | null => simp [json, isNull]
    | bool | number | string => simp [json, isNull]

theorem down_append (value : Value) (path later : List Value) :
    value.down (path ++ later) = (value.down path).bind (·.down later) := by
  induction path generalizing value with
  | nil => rfl
  | cons key path ih =>
    rw [List.cons_append, down, down, Option.bind_assoc]
    congr 1
    funext next
    exact ih next

end Slipmesh.Yaml.Value

namespace Slipmesh.Taloscfg
open Library Yaml

/-! ### One level -/

/-- A null for it in the overlay. -/
def deletes (overlay : List (Value × Value)) (key : Value) : Bool := (overlay.lookup key).any Value.isNull

/-- Neither in the base nor a null. -/
def adds (base : List (Value × Value)) (entry : Value × Value) : Bool :=
  decide (entry.1 ∉ base.map Prod.fst) && !entry.2.isNull

theorem deletes_cons (entry : Value × Value) (overlay : List (Value × Value)) (key : Value) :
    deletes (entry :: overlay) key = if entry.1 = key then entry.2.isNull else deletes overlay key := by
  rw [deletes, IndexMap.lookup_cons]
  split
  · rfl
  · rfl

theorem deletes_absent {overlay : List (Value × Value)} {key : Value} (absent : key ∉ overlay.map Prod.fst) :
    deletes overlay key = false := by
  rw [deletes, (IndexMap.lookup_eq_none overlay key).mpr absent]
  rfl

theorem filter_adds {base other overlay : List (Value × Value)}
    (same : ∀ entry ∈ overlay, entry.1 ∈ base.map Prod.fst ↔ entry.1 ∈ other.map Prod.fst) :
    overlay.filter (adds base) = overlay.filter (adds other) := by
  apply List.filter_congr
  intro entry listed
  rw [adds, adds, decide_eq_decide.mpr (not_congr (same entry listed))]

/-- The keys that stay, then the new ones. -/
def mergedKeys (base overlay : List (Value × Value)) : List Value :=
  (base.map Prod.fst).filter (!deletes overlay ·) ++ (overlay.filter (adds base)).map Prod.fst

section
variable {base overlay : List (Value × Value)} {key value : Value} (fresh : key ∉ overlay.map Prod.fst)
include fresh

theorem other_keys : ∀ entry ∈ overlay, entry.1 ≠ key :=
  fun _ listed same => fresh (same ▸ List.mem_map_of_mem listed)

theorem mergedKeys_null (null : value.isNull = true) :
    mergedKeys (IndexMap.remove base key) overlay = mergedKeys base ((key, value) :: overlay) := by
  have others : overlay.filter (adds (IndexMap.remove base key)) = overlay.filter (adds base) := by
    apply filter_adds
    intro entry listed
    simp [IndexMap.keys_remove, other_keys fresh entry listed]
  have gone : adds base (key, value) = false := by simp [adds, null]
  rw [mergedKeys, mergedKeys, others, IndexMap.keys_remove, List.filter_filter, List.filter_cons_of_neg (by simp [gone])]
  congr 1
  apply List.filter_congr
  intro other _
  rw [deletes_cons]
  by_cases same : key = other
  · simp [same, null]
  · simp [same, Ne.symm same]

theorem mergedKeys_set (set : value.isNull = false) (merged : Value) :
    mergedKeys (IndexMap.insert base key merged) overlay = mergedKeys base ((key, value) :: overlay) := by
  have kept := deletes_absent fresh
  have unchanged (other : Value) : deletes ((key, value) :: overlay) other = deletes overlay other := by
    rw [deletes_cons]
    split
    · rename_i same
      rw [set, ← same, kept]
    · rfl
  simp only [mergedKeys, unchanged]
  by_cases present : key ∈ base.map Prod.fst
  · have old : adds base (key, value) = false := by simp [adds, present]
    rw [IndexMap.keys_insert, if_pos present, List.filter_cons_of_neg (by simp [old])]
    congr 2
    apply filter_adds
    intro entry _
    rw [IndexMap.keys_insert, if_pos present]
  · have new : adds base (key, value) = true := by simp [adds, present, set]
    have others : overlay.filter (adds (IndexMap.insert base key merged)) = overlay.filter (adds base) := by
      apply filter_adds
      intro entry listed
      rw [IndexMap.keys_insert, if_neg present]
      simp [other_keys fresh entry listed]
    rw [IndexMap.keys_insert, if_neg present, others, List.filter_cons_of_pos new, List.filter_append, List.map_cons]
    simp [kept]

end

theorem keys_mergeEntries (base overlay : List (Value × Value)) (distinct : (overlay.map Prod.fst).Nodup) :
    (mergeEntries base overlay).map Prod.fst = mergedKeys base overlay := by
  induction overlay generalizing base with
  | nil => simp [mergeEntries, mergedKeys, deletes]
  | cons entry overlay ih =>
    obtain ⟨key, value⟩ := entry
    simp only [List.map_cons, List.nodup_cons] at distinct
    obtain ⟨fresh, distinct⟩ := distinct
    rw [mergeEntries]
    split
    · rename_i null
      rw [ih _ distinct, mergedKeys_null fresh null]
    · rename_i set
      rw [ih _ distinct, mergedKeys_set fresh (Bool.eq_false_of_not_eq_true set)]

theorem nodup_mergeEntries {base overlay : List (Value × Value)} (own : (base.map Prod.fst).Nodup)
    (distinct : (overlay.map Prod.fst).Nodup) : ((mergeEntries base overlay).map Prod.fst).Nodup := by
  rw [keys_mergeEntries base overlay distinct, mergedKeys, List.nodup_append]
  refine ⟨own.filter _, distinct.sublist (List.filter_sublist.map _), ?_⟩
  intro key held other listed same
  obtain ⟨entry, added, rfl⟩ := List.mem_map.mp listed
  have new := (List.mem_filter.mp added).2
  simp only [adds, Bool.and_eq_true, decide_eq_true_eq] at new
  exact new.1 (same ▸ (List.mem_filter.mp held).1)

/-! ### Every level -/

theorem plain_bare {value : Value} (plain : value.plain) : Value.plain (bare value) := by
  rcases bare_cases value with same | empty
  · rw [same]
    exact plain
  · rw [empty]
    rfl

theorem plain_member {value : Value} (plain : value.plain) (key : Value) :
    Value.plain (((bareEntries value).lookup key).getD .null) := by
  have entries := (Value.plain_mapping.mp (plain_bare plain)).2.2
  cases held : (bareEntries value).lookup key with
  | none => rfl
  | some member => exact (entries _ (IndexMap.mem_of_lookup held)).2

theorem json_members {value : Value} (plain : value.plain) (key : Value) :
    value.json.members key = ((bareEntries value).lookup key).map Value.json := by
  cases value with
  | scalar tag content =>
    cases content with
    | null => rfl
    | bool | number | string => rfl
  | sequence tag items => rfl
  | mapping tag entries =>
    obtain ⟨rfl, _⟩ := Value.plain_mapping.mp plain
    exact Value.jsonMember_eq entries key

/-- The merge is the merge patch, on every level. -/
theorem json_merge {base overlay : Value} (based : base.plain) (plain : overlay.plain) :
    (merge base overlay).json = base.json.patch overlay.json := by
  induction overlay using Value.byValues generalizing base with
  | scalar tag content =>
    cases content with
    | null => exact (Json.patch_null _).symm
    | bool | number | string => exact (Json.patch_leaf _ _).symm
  | sequence tag items => exact (Json.patch_leaf _ _).symm
  | mapping tag overlay ih =>
    obtain ⟨_, distinct, entries⟩ := Value.plain_mapping.mp plain
    rw [Value.json, Json.patch_object, merge, Value.json]
    congr 1
    funext key
    rw [Value.jsonMember_eq, Value.jsonMember_eq, lookup_mergeEntries _ _ distinct, json_members based]
    cases held : overlay.lookup key with
    | none => simp
    | some value =>
      have listed := IndexMap.mem_of_lookup held
      have member := ih _ listed (plain_member based key) (entries _ listed).2
      cases null : value.isNull with
      | true => simp [Value.json_null.mpr null, null]
      | false =>
        have kept : value.json ≠ .null := fun same => by simp [Value.json_null.mp same] at null
        simp only [null, Bool.false_eq_true, if_false, Option.map_some, Json.patchMember_some _ kept, member]
        cases (bareEntries base).lookup key with
        | none => rfl
        | some old => rfl

/-- What the overlay deletes is gone, and what it gives is there. -/
theorem keys_settled (base : List (Value × Value)) {overlay : List (Value × Value)} (distinct : (overlay.map Prod.fst).Nodup) :
    (mergeEntries (mergeEntries base overlay) overlay).map Prod.fst = (mergeEntries base overlay).map Prod.fst := by
  have present (key : Value) : key ∉ (mergeEntries base overlay).map Prod.fst ↔
      (mergeEntries base overlay).lookup key = none := (IndexMap.lookup_eq_none _ _).symm
  have kept : ((mergeEntries base overlay).map Prod.fst).filter (!deletes overlay ·) =
      (mergeEntries base overlay).map Prod.fst := by
    rw [List.filter_eq_self]
    intro key held
    rw [Bool.not_eq_true', ← Bool.not_eq_true]
    intro deleted
    rw [deletes] at deleted
    cases given : overlay.lookup key with
    | none => simp [given] at deleted
    | some value =>
      have null : value.isNull := by simpa [given] using deleted
      refine (present key).mpr ?_ held
      rw [lookup_mergeEntries base overlay distinct, given]
      simp [null]
  have known : overlay.filter (adds (mergeEntries base overlay)) = [] := by
    rw [List.filter_eq_nil_iff]
    intro entry listed added
    simp only [adds, Bool.and_eq_true, decide_eq_true_eq, Bool.not_eq_true'] at added
    have missing := (present entry.1).mp added.1
    rw [lookup_mergeEntries base overlay distinct, IndexMap.lookup_of_mem distinct listed] at missing
    simp [added.2] at missing
  rw [keys_mergeEntries _ overlay distinct, mergedKeys, kept, known]
  exact List.append_nil _

/-- A merge leaves nothing for the same overlay to change. -/
theorem merge_merge {base overlay : Value} (based : base.plain) (plain : overlay.plain) :
    merge (merge base overlay) overlay = merge base overlay := by
  induction overlay using Value.byValues generalizing base with
  | scalar tag content => rfl
  | sequence tag items => rfl
  | mapping tag overlay ih =>
    obtain ⟨_, distinct, entries⟩ := Value.plain_mapping.mp plain
    have own := (Value.plain_mapping.mp (plain_bare based)).2.1
    rw [merge, merge, bareEntries]
    congr 1
    apply IndexMap.ext_lookup (nodup_mergeEntries (nodup_mergeEntries own distinct) distinct) (keys_settled _ distinct)
    intro key
    simp only [lookup_mergeEntries _ _ distinct]
    cases held : overlay.lookup key with
    | none => rfl
    | some value =>
      have listed := IndexMap.mem_of_lookup held
      have settled := ih _ listed (plain_member based key) (entries _ listed).2
      cases null : value.isNull with
      | true => simp [null]
      | false => simpa [null] using settled

/-! ### Down the keys -/

theorem plain_down {value found : Value} (plain : value.plain) {path : List Value} (reached : value.down path = some found) :
    found.plain := by
  induction path generalizing value with
  | nil =>
    cases reached
    exact plain
  | cons key path ih =>
    obtain ⟨next, held, reached⟩ := Option.bind_eq_some_iff.mp reached
    have member := plain_member plain key
    rw [held] at member
    exact ih member reached

theorem down_kept {value : Value} {path : List Value} {tag : Option String} {entries : List (Value × Value)}
    (reached : value.down path = some (.mapping tag entries)) : value.isNull = false := by
  cases value with
  | sequence _ items => rfl
  | mapping _ entries => rfl
  | scalar _ content =>
    cases path with
    | nil => cases reached
    | cons key path => cases reached

/-- Where both sides go, the merge is that of what is there. -/
theorem down_merge {base overlay : Value} (plain : overlay.plain) {path : List Value} {tag : Option String}
    {entries : List (Value × Value)} (reached : overlay.down path = some (.mapping tag entries)) :
    (merge base overlay).down path = some (merge ((base.down path).getD .null) (.mapping tag entries)) := by
  induction path generalizing base overlay with
  | nil =>
    cases reached
    rfl
  | cons key path ih =>
    cases overlay with
    | scalar _ content => cases reached
    | sequence _ items => cases reached
    | mapping tag' overlay =>
      obtain ⟨rfl, distinct, plain⟩ := Value.plain_mapping.mp plain
      obtain ⟨value, held, reached⟩ := Option.bind_eq_some_iff.mp reached
      have next : (merge (((bareEntries base).lookup key).getD .null) value).down path =
          some (merge (((((bareEntries base).lookup key).getD .null).down path).getD .null) (.mapping tag entries)) :=
        ih (plain _ (IndexMap.mem_of_lookup held)).2 reached
      have given : (mergeEntries (bareEntries base) overlay).lookup key =
          some (merge (((bareEntries base).lookup key).getD .null) value) := by
        rw [lookup_mergeEntries _ _ distinct, show overlay.lookup key = some value from held]
        simp [down_kept reached]
      change ((mergeEntries (bareEntries base) overlay).lookup key).bind (·.down path) = _
      rw [given, Option.bind_some, next, Value.down]
      cases (bareEntries base).lookup key with
      | some old => rfl
      | none =>
        cases path with
        | nil => rfl
        | cons key path => rfl

/-- Where the overlay says nothing, the merge is what was there. -/
theorem down_untouched {base overlay : Value} (plain : overlay.plain) {above below : List Value} {key : Value}
    {tag : Option String} {entries : List (Value × Value)} (reached : overlay.down above = some (.mapping tag entries))
    (untouched : entries.lookup key = none) :
    (merge base overlay).down (above ++ key :: below) = base.down (above ++ key :: below) := by
  have distinct := (Value.plain_mapping.mp (plain_down plain reached)).2.1
  rw [Value.down_append, Value.down_append, down_merge plain reached, Option.bind_some]
  have same : (merge ((base.down above).getD .null) (.mapping tag entries)).down (key :: below) =
      ((base.down above).getD .null).down (key :: below) := by
    change ((mergeEntries (bareEntries ((base.down above).getD .null)) entries).lookup key).bind (·.down below) = _
    rw [lookup_mergeEntries _ _ distinct, untouched]
    rfl
  rw [same]
  cases base.down above with
  | none => rfl
  | some value => rfl

/-- A merge is the merge patch of the base by the overlay. At every mapping of the base
the keys it keeps come first in their order, then those the overlay adds in theirs, and a
mapping the overlay does not reach is as it was. The same merge again changes nothing. -/
theorem merge_patches {base overlay : Value} (based : base.plain) (plain : overlay.plain) :
    (merge base overlay).json = base.json.patch overlay.json ∧
    (∀ path entries, base.down path = some (.mapping none entries) →
      (∀ changes, overlay.down path = some (.mapping none changes) → ((merge base overlay).down path).map Value.keys =
        some ((entries.map Prod.fst).filter (!deletes changes ·) ++ (changes.filter (adds entries)).map Prod.fst)) ∧
      ∀ above key below changes, path = above ++ key :: below → overlay.down above = some (.mapping none changes) →
        changes.lookup key = none → (merge base overlay).down path = some (.mapping none entries)) ∧
    merge (merge base overlay) overlay = merge base overlay := by
  refine ⟨json_merge based plain, ?_, merge_merge based plain⟩
  intro path entries there
  constructor
  · intro changes reached
    have distinct := (Value.plain_mapping.mp (plain_down plain reached)).2.1
    rw [down_merge plain reached, there, Option.map_some]
    exact congrArg some (keys_mergeEntries entries changes distinct)
  · intro above key below changes same reached untouched
    rw [same, down_untouched plain reached untouched, ← same]
    exact there

/-- A mapping in a mapping. -/
private def settings : Value := .mapping none [(.ofString "disk", .ofString "sda"),
  (.ofString "args", .mapping none [(.ofString "level", .ofString "2"), (.ofString "rotate", .ofString "true")])]

private def changes : Value := .mapping none [(.ofString "wipe", .ofString "no"), (.ofString "disk", .null),
  (.ofString "args", .mapping none [(.ofString "port", .ofString "80"), (.ofString "level", .null)])]

theorem settings_patched : ((merge settings changes).down [.ofString "args"]).map Value.keys =
    some [.ofString "rotate", .ofString "port"] :=
  (((@merge_patches settings changes (by decide) (by decide)).2.1 [.ofString "args"] _ rfl).1 _ rfl).trans (by decide)

end Slipmesh.Taloscfg
