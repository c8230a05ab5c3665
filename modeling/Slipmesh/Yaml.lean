import Slipmesh.Library.IndexMap

/-! YAML values, as the YAML library has them: a node has at most one tag, a mapping
keeps the order of its keys, and reading a node as a type looks past its tag. A key
stands for all that the library takes as equal to it: the order of a mapping in a key
and the sign of a zero are no part of it. -/

namespace Slipmesh.Yaml
open Library

/-- A number that is no integer, by its bits. -/
inductive Number where
  | integer (value : Int)
  | float (bits : BitVec 64)
deriving DecidableEq, Repr

inductive Scalar where
  | null
  | bool (value : Bool)
  | number (value : Number)
  | string (value : String)
deriving DecidableEq, Repr

inductive Value where
  | scalar (tag : Option String) (content : Scalar)
  | sequence (tag : Option String) (items : List Value)
  | mapping (tag : Option String) (entries : List (Value × Value))
deriving Repr

mutual

def Value.decEq : (a b : Value) → Decidable (a = b)
  | .scalar s a, .scalar t b => decidable_of_iff (s = t ∧ a = b) (by simp)
  | .sequence s a, .sequence t b =>
    match decEqItems a b with
    | isTrue same => decidable_of_iff (s = t) (by simp [same])
    | isFalse other => isFalse (by simp [other])
  | .mapping s a, .mapping t b =>
    match decEqEntries a b with
    | isTrue same => decidable_of_iff (s = t) (by simp [same])
    | isFalse other => isFalse (by simp [other])
  | .scalar .., .sequence .. | .scalar .., .mapping .. | .sequence .., .scalar .. | .sequence .., .mapping ..
  | .mapping .., .scalar .. | .mapping .., .sequence .. => isFalse (by simp)

def Value.decEqItems : (a b : List Value) → Decidable (a = b)
  | [], [] => isTrue rfl
  | [], _ :: _ | _ :: _, [] => isFalse (by simp)
  | a :: as, b :: bs =>
    match Value.decEq a b, decEqItems as bs with
    | isTrue same, isTrue rest => isTrue (by rw [same, rest])
    | isFalse other, _ => isFalse (by simp [other])
    | _, isFalse other => isFalse (by simp [other])

def Value.decEqEntries : (a b : List (Value × Value)) → Decidable (a = b)
  | [], [] => isTrue rfl
  | [], _ :: _ | _ :: _, [] => isFalse (by simp)
  | (key, a) :: as, (key', b) :: bs =>
    match Value.decEq key key', Value.decEq a b, decEqEntries as bs with
    | isTrue same, isTrue same', isTrue rest => isTrue (by rw [same, same', rest])
    | isFalse other, _, _ => isFalse (by simp [other])
    | _, isFalse other, _ => isFalse (by simp [other])
    | _, _, isFalse other => isFalse (by simp [other])

end

instance : DecidableEq Value := Value.decEq

namespace Value

def null : Value := .scalar none .null

def ofString (text : String) : Value := .scalar none (.string text)

def isNull : Value → Bool
  | .scalar _ .null => true
  | _ => false

def asStr : Value → Option String
  | .scalar _ (.string text) => some text
  | _ => none

def asSequence : Value → Option (List Value)
  | .sequence _ items => some items
  | _ => none

def asMapping : Value → Option (List (Value × Value))
  | .mapping _ entries => some entries
  | _ => none

def keys (value : Value) : List Value := (value.asMapping.getD []).map Prod.fst

def get (value : Value) (key : String) : Option Value :=
  value.asMapping.bind (·.lookup (ofString key))

/-- `shift_remove`. -/
def remove (value : Value) (key : String) : Value :=
  match value with
  | .mapping tag entries => .mapping tag (IndexMap.remove entries (ofString key))
  | other => other

/-- `get_mut`: what the key holds is changed in place. -/
def alter (value : Value) (key : String) (change : Value → Value) : Value :=
  match value with
  | .mapping tag entries => .mapping tag (IndexMap.alter entries (ofString key) change)
  | other => other

/-- `as_sequence_mut`, over every item. -/
def mapItems (change : Value → Value) : Value → Value
  | .sequence tag items => .sequence tag (items.map change)
  | other => other

def push (item : Value) : Value → Value
  | .sequence tag items => .sequence tag (items ++ [item])
  | other => other

/-- What holds of a mapping whose values it holds of, and of all else, holds of every value. -/
@[elab_as_elim]
theorem byValues {motive : Value → Prop} (scalar : ∀ tag content, motive (.scalar tag content))
    (sequence : ∀ tag items, motive (.sequence tag items))
    (mapping : ∀ tag entries, (∀ entry ∈ entries, motive entry.2) → motive (.mapping tag entries)) :
    ∀ value, motive value
  | .scalar tag content => scalar tag content
  | .sequence tag items => sequence tag items
  | .mapping tag entries => mapping tag entries fun entry _ => byValues scalar sequence mapping entry.2
termination_by value => sizeOf value
decreasing_by
  rename_i member
  have smaller := List.sizeOf_lt_of_mem member
  obtain ⟨key, value⟩ := entry
  simp only [Prod.mk.sizeOf_spec, Value.mapping.sizeOf_spec] at smaller ⊢
  omega

@[simp] theorem ofString_inj {a b : String} : ofString a = ofString b ↔ a = b := by
  simp [ofString]

@[simp] theorem asStr_ofString (text : String) : (ofString text).asStr = some text := rfl

theorem get_alter (value : Value) (key : String) (change : Value → Value) (other : String) :
    (value.alter key change).get other = if other = key then (value.get other).map change else value.get other := by
  cases value with
  | scalar tag content => simp [get, asMapping, alter]
  | sequence tag items => simp [get, asMapping, alter]
  | mapping tag entries => simp [get, asMapping, alter, IndexMap.lookup_alter]

theorem asSequence_mapItems (change : Value → Value) (value : Value) :
    (value.mapItems change).asSequence = value.asSequence.map (List.map change) := by
  cases value with
  | scalar tag content => rfl
  | sequence tag items => rfl
  | mapping tag entries => rfl

theorem keys_remove (value : Value) (key : String) (distinct : value.keys.Nodup) : (value.remove key).keys.Nodup := by
  cases value with
  | scalar tag content => exact distinct
  | sequence tag items => exact distinct
  | mapping tag entries => exact distinct.sublist (List.filter_sublist.map _)

end Value

end Slipmesh.Yaml
