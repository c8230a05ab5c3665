import Mathlib.Data.List.AList

/-! Things that one owner holds at a time: giving a thing away takes it from whoever
had it. -/

namespace Slipmesh.Library

variable {ι κ : Type} [DecidableEq ι] [DecidableEq κ]

/-- Each thing with its owner, no thing listed twice. -/
structure Ownership (ι κ : Type) where
  table : AList fun _ : ι => κ

namespace Ownership

def owner (ownership : Ownership ι κ) (thing : ι) : Option κ := ownership.table.lookup thing

def held (ownership : Ownership ι κ) (holder : κ) : List ι :=
  ownership.table.entries.filterMap fun entry => if entry.2 = holder then some entry.1 else none

def clear (ownership : Ownership ι κ) (holder : κ) : Ownership ι κ :=
  ⟨ownership.table.entries.filter (·.2 ≠ holder), ownership.table.nodupKeys.sublist List.filter_sublist⟩

def give (ownership : Ownership ι κ) (holder : κ) (things : List ι) : Ownership ι κ :=
  ⟨things.foldl (fun table thing => table.insert thing holder) ownership.table⟩

variable {ownership : Ownership ι κ} {holder other : κ} {thing : ι} {things : List ι}

theorem mem_held : thing ∈ ownership.held holder ↔ ownership.owner thing = some holder := by
  rw [held, owner, ← Option.mem_def, AList.mem_lookup_iff, List.mem_filterMap]
  constructor
  · intro given
    obtain ⟨⟨found, its⟩, member, same⟩ := given
    split at same
    · rename_i holds
      cases same
      cases holds
      exact member
    · cases same
  · intro member
    exact ⟨⟨thing, holder⟩, member, if_pos rfl⟩

theorem owner_clear : (ownership.clear holder).owner thing = some other ↔
    other ≠ holder ∧ ownership.owner thing = some other := by
  rw [owner, owner, ← Option.mem_def, ← Option.mem_def, AList.mem_lookup_iff, AList.mem_lookup_iff, clear,
    List.mem_filter]
  simp [and_comm]

omit [DecidableEq κ] in
theorem owner_give : (ownership.give holder things).owner thing =
    if thing ∈ things then some holder else ownership.owner thing := by
  have general (table : AList fun _ : ι => κ) :
      (things.foldl (fun table thing => table.insert thing holder) table).lookup thing =
        if thing ∈ things then some holder else table.lookup thing := by
    induction things generalizing table with
    | nil => rfl
    | cons first things ih =>
      rw [List.foldl_cons, ih]
      by_cases later : thing ∈ things
      · simp [later]
      · by_cases here : thing = first
        · subst here
          simp [later]
        · simp [later, here, AList.lookup_insert_ne here]
  exact general ownership.table

end Ownership

end Slipmesh.Library
