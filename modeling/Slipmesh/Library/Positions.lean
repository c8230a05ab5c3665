import Mathlib.Data.List.Forall2
import Mathlib.Data.List.Nodup

/-! A pass over a list yields products of some of its items, and each product is then
written back into the item it came from, one after the other. -/

namespace Slipmesh.Library

variable {α β γ ε : Type}

/-- The item at a position is changed in place; a position past the end is an error. -/
def modifyAt (error : ε) (items : List α) (position : Nat) (change : α → α) : Except ε (List α) :=
  if position < items.length then .ok (items.modify position change) else .error error

theorem modifyAt_middle (error : ε) (done : List α) (item : α) (rest : List α) (change : α → α) :
    modifyAt error (done ++ item :: rest) done.length change = .ok (done ++ change item :: rest) := by
  have inside : done.length < (done ++ item :: rest).length := by simp
  rw [modifyAt, if_pos inside, List.modify_eq_take_cons_drop inside]
  simp

theorem modifyAt_ok {error : ε} {items changed : List α} {position : Nat} {change : α → α} :
    modifyAt error items position change = .ok changed ↔ position < items.length ∧ items.modify position change = changed := by
  rw [modifyAt]
  split
  · rename_i inside
    simp [inside]
  · rename_i outside
    simp [outside]

/-- A change of the item that has a key of its own, found by its position or by the key. -/
theorem modify_eq_map {κ : Type} [DecidableEq κ] {items : List α} (key : α → κ) (distinct : (items.map key).Nodup)
    {position : Nat} {item : α} (listed : items[position]? = some item) (change : α → α) :
    items.modify position change = items.map fun other => if key other = key item then change other else other := by
  obtain ⟨inside, rfl⟩ := List.getElem?_eq_some_iff.mp listed
  apply List.ext_getElem
  · simp
  · intro other bound _
    rw [List.length_modify] at bound
    have same : key items[other] = key items[position] ↔ position = other := by
      have bound' : other < (items.map key).length := by simpa using bound
      have inside' : position < (items.map key).length := by simpa using inside
      have indices : (items.map key)[other] = (items.map key)[position] ↔ other = position :=
        distinct.getElem_inj_iff
      simpa [eq_comm] using indices
    simp [List.getElem_modify, same]

/-- What is written item by item, with one of the writes changed. -/
theorem zipWith_modify {write : α → β → γ} {change : α → α} {change' : γ → γ} {as : List α} {bs : List β} (position : Nat)
    (commutes : ∀ a b, write (change a) b = change' (write a b)) :
    List.zipWith write (as.modify position change) bs = (List.zipWith write as bs).modify position change' := by
  apply List.ext_getElem
  · simp
  · intro other _ _
    simp only [List.getElem_zipWith, List.getElem_modify]
    split
    · exact commutes _ _
    · rfl

theorem forall₂_modify {relate : α → β → Prop} {change : α → α} {change' : β → β} {as : List α} {bs : List β} (position : Nat)
    (keeps : ∀ a b, relate a b → relate (change a) (change' b)) (related : as.Forall₂ relate bs) :
    (as.modify position change).Forall₂ relate (bs.modify position change') := by
  rw [List.forall₂_iff_get] at related ⊢
  refine ⟨by simpa using related.1, ?_⟩
  intro other inside inside'
  rw [List.length_modify] at inside inside'
  have before := related.2 other inside inside'
  simp only [List.get_eq_getElem, List.getElem_modify] at before ⊢
  split
  · exact keeps _ _ before
  · exact before

/-- The items but for the one at a position. -/
def retainOthers (items : List α) (position : Nat) : List α :=
  (items.zipIdx.filter fun (_, other) => other ≠ position).map (·.1)

theorem retainOthers_sublist (items : List α) (position : Nat) : (retainOthers items position).Sublist items := by
  have fewer := (List.filter_sublist (p := fun entry : α × Nat => entry.2 ≠ position) (l := items.zipIdx)).map Prod.fst
  rwa [List.zipIdx_map_fst] at fewer

theorem retainOthers_middle (done : List α) (item : α) (rest : List α) :
    retainOthers (done ++ item :: rest) done.length = done ++ rest := by
  have before : done.zipIdx.filter (fun entry => entry.2 ≠ done.length) = done.zipIdx := by
    rw [List.filter_eq_self]
    intro entry member
    have inside : entry.2 < done.length := by simpa using List.snd_lt_of_mem_zipIdx member
    simp [Nat.ne_of_lt inside]
  have after : (rest.zipIdx (done.length + 1)).filter (fun entry => entry.2 ≠ done.length) = rest.zipIdx (done.length + 1) := by
    rw [List.filter_eq_self]
    intro entry member
    have beyond : done.length + 1 ≤ entry.2 := List.le_snd_of_mem_zipIdx member
    simp [Nat.ne_of_gt beyond]
  change ((done ++ item :: rest).zipIdx.filter fun entry => entry.2 ≠ done.length).map Prod.fst = done ++ rest
  rw [List.zipIdx_append, List.filter_append, before, Nat.zero_add, List.zipIdx_cons, List.filter_cons, after]
  simp

theorem retainOthers_at {items : List α} {position : Nat} {item : α} (here : items[position]? = some item) :
    ∃ before after, items = before ++ item :: after ∧ retainOthers items position = before ++ after := by
  obtain ⟨inside, rfl⟩ := List.getElem?_eq_some_iff.mp here
  have parts : items = items.take position ++ items[position] :: items.drop (position + 1) := by
    rw [List.getElem_cons_drop, List.take_append_drop]
  have size : (items.take position).length = position := List.length_take_of_le (Nat.le_of_lt inside)
  refine ⟨_, _, parts, ?_⟩
  have rest := retainOthers_middle (items.take position) items[position] (items.drop (position + 1))
  rwa [← parts, size] at rest

theorem retainOthers_last (items : List α) (last : α) : retainOthers (items ++ [last]) items.length = items := by
  simpa using retainOthers_middle items last []

/-- Where each write lands on the item that the product came from, the writes together
change every item by its own product. -/
theorem foldlM_products (step : List α → γ → Except ε (List α)) (produce : α → Nat → Option γ) (write : γ → α → α)
    (inv : List α → Prop) (items : List α)
    (lands : ∀ done item rest product, inv (done ++ item :: rest) → produce item done.length = some product →
      step (done ++ item :: rest) product = .ok (done ++ write product item :: rest) ∧
        inv (done ++ write product item :: rest))
    (start : inv items) :
    (items.zipIdx.filterMap fun (item, position) => produce item position).foldlM step items =
      .ok (items.zipIdx.map fun (item, position) => (produce item position).elim item (write · item)) := by
  have general (done rest : List α) (holds : inv (done ++ rest)) :
      ((rest.zipIdx done.length).filterMap fun (item, position) => produce item position).foldlM step (done ++ rest) =
        .ok (done ++ (rest.zipIdx done.length).map fun (item, position) =>
          (produce item position).elim item (write · item)) := by
    induction rest generalizing done with
    | nil => rfl
    | cons item rest ih =>
      have shift (other : α) : (done ++ [other]).length = done.length + 1 := List.length_append
      rw [List.zipIdx_cons, List.filterMap_cons, List.map_cons]
      cases product : produce item done.length with
      | none =>
        have later := ih (done ++ [item]) (by simpa using holds)
        simpa [shift, product] using later
      | some value =>
        obtain ⟨written, kept⟩ := lands done item rest value holds product
        have later := ih (done ++ [write value item]) (by simpa using kept)
        have onward (product : Except ε (List α)) (known : product = .ok (done ++ write value item :: rest))
            (next : List α → Except ε (List α)) : (product >>= next) = next (done ++ write value item :: rest) := by
          rw [known]
          rfl
        simpa [shift, product, onward _ written] using later
  exact general [] items start

/-- Values that are made with the positions, under keys that are not. -/
theorem zipIdx_map_keys {κ : Type} (items : List α) (key : α → κ) (value : α → Nat → β) :
    (items.zipIdx.map fun entry => (key entry.1, value entry.1 entry.2)).map Prod.fst = items.map key := by
  rw [List.map_map, ← List.zipIdx_map_fst 0 items, List.map_map, List.zipIdx_map_fst]
  rfl

/-- A pass with positions whose changes a reader does not see. -/
theorem zipIdx_map_unseen (change : α → Nat → α) (read : α → β) (unseen : ∀ item position, read (change item position) = read item)
    (items : List α) : (items.zipIdx.map fun (item, position) => change item position).map read = items.map read := by
  rw [List.map_map, ← List.zipIdx_map_fst 0 items, List.map_map, List.zipIdx_map_fst]
  apply List.map_congr_left
  intro entry _
  exact unseen entry.1 entry.2

/-- A second pass with positions sees what the first one made of each item. -/
theorem zipIdx_map_zipIdx (items : List α) (first : α → Nat → α) (second : α → Nat → β) :
    ((items.zipIdx.map fun (item, position) => first item position).zipIdx.map fun (item, position) =>
      second item position) = items.zipIdx.map fun (item, position) => second (first item position) position := by
  apply List.ext_getElem
  · simp
  · intro position _ _
    simp

/-- What the second pass sees at a position is what the first made of an item there. -/
theorem mem_zipIdx_map {items : List α} {first : α → Nat → α} {item : α} {position : Nat}
    (member : (item, position) ∈ (items.zipIdx.map fun (item, position) => first item position).zipIdx) :
    ∃ before, item = first before position := by
  rw [List.mem_zipIdx_iff_getElem?, List.getElem?_map, Option.map_eq_some_iff] at member
  obtain ⟨⟨before, index⟩, found, same⟩ := member
  rw [List.getElem?_zipIdx, Option.map_eq_some_iff] at found
  obtain ⟨other, _, pair⟩ := found
  obtain ⟨rfl, rfl⟩ := Prod.mk.inj pair
  exact ⟨other, by simpa using same.symm⟩

/-- A change that no reader sees, of one item. -/
theorem zipIdx_map_modify (change : α → α) (read : α → Nat → β)
    (unseen : ∀ item position, read (change item) position = read item position) (items : List α) (changed : Nat) :
    ((items.modify changed change).zipIdx.map fun (item, position) => read item position) =
      items.zipIdx.map fun (item, position) => read item position := by
  apply List.ext_getElem
  · simp
  · intro position _ _
    simp only [List.getElem_map, List.getElem_zipIdx, List.getElem_modify]
    split
    · exact unseen _ _
    · rfl

theorem forall₂_zipIdx {relate : α → α → Prop} {change : α → Nat → α}
    (holds : ∀ item position, relate item (change item position)) (items : List α) :
    items.Forall₂ relate (items.zipIdx.map fun (item, position) => change item position) := by
  rw [List.forall₂_iff_get]
  refine ⟨by simp, ?_⟩
  intro position _ _
  simpa using holds _ position

end Slipmesh.Library
