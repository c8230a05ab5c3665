import Mathlib.Logic.Basic

/-! JSON merge patches: an object holds its members in no order, a null in a patch takes
a member out, and whatever is no object comes in whole. -/

namespace Slipmesh.Library

/-- `α` is what is neither null nor an object. -/
inductive Json (κ α : Type) where
  | null
  | leaf (value : α)
  | object (members : κ → Option (Json κ α))

namespace Json

variable {κ α : Type}

/-- What is no object has no members. -/
def members : Json κ α → κ → Option (Json κ α)
  | .object members => members
  | _ => fun _ => none

mutual

/-- `MergePatch`. -/
def patch : Json κ α → Json κ α → Json κ α
  | target, .object changes => .object fun key => patchMember (target.members key) (changes key)
  | _, change => change
termination_by structural _ change => change

def patchMember : Option (Json κ α) → Option (Json κ α) → Option (Json κ α)
  | member, none => member
  | _, some .null => none
  | member, some change => some (patch (member.getD .null) change)
termination_by structural _ change => change

end

@[simp] theorem patch_null (target : Json κ α) : target.patch .null = .null := by
  rw [patch]
  intro changes same
  cases same

@[simp] theorem patch_leaf (target : Json κ α) (value : α) : target.patch (.leaf value) = .leaf value := by
  rw [patch]
  intro changes same
  cases same

theorem patch_object (target : Json κ α) (changes : κ → Option (Json κ α)) :
    target.patch (.object changes) = .object fun key => patchMember (target.members key) (changes key) := by
  rw [patch]

@[simp] theorem patchMember_none (member : Option (Json κ α)) : patchMember member none = member := by
  cases member with
  | none => rfl
  | some value => rfl

@[simp] theorem patchMember_null (member : Option (Json κ α)) : patchMember member (some .null) = none := by
  cases member with
  | none => rfl
  | some value => rfl

theorem patchMember_some (member : Option (Json κ α)) {change : Json κ α} (kept : change ≠ .null) :
    patchMember member (some change) = some ((member.getD .null).patch change) := by
  cases change with
  | null => exact absurd rfl kept
  | leaf value => cases member with
    | none => rfl
    | some value => rfl
  | object changes => cases member with
    | none => rfl
    | some value => rfl

end Json

end Slipmesh.Library
