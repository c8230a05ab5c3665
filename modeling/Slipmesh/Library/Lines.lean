import Mathlib.Data.List.TakeWhile

/-! A list cut into lines at a separator and into words at blanks, told by what
follows each place of the list: the lines of a concatenation then come from its parts. -/

namespace Slipmesh.Library

variable {α : Type} [DecidableEq α] (separator : α)

/-- What follows each separator. -/
def openings : List α → List (List α)
  | [] => []
  | head :: rest => if head = separator then rest :: openings rest else openings rest

/-- Up to the first separator. -/
def firstLine (list : List α) : List α := list.takeWhile (· ≠ separator)

theorem mem_openings {list rest : List α} : rest ∈ openings separator list ↔ ∃ before, list = before ++ separator :: rest := by
  induction list with
  | nil => simp [openings]
  | cons head tail ih =>
    constructor
    · intro member
      have later (inside : rest ∈ openings separator tail) : ∃ before, head :: tail = before ++ separator :: rest := by
        obtain ⟨before, rfl⟩ := ih.mp inside
        exact ⟨head :: before, rfl⟩
      unfold openings at member
      split at member
      next first =>
        rcases List.mem_cons.mp member with rfl | inside
        · exact ⟨[], by rw [first]; rfl⟩
        · exact later inside
      next => exact later member
    · intro given
      obtain ⟨before, shape⟩ := given
      unfold openings
      cases before with
      | nil =>
        obtain ⟨rfl, rfl⟩ := List.cons.inj shape
        simp
      | cons first before =>
        obtain ⟨-, rfl⟩ := List.cons.inj shape
        have inside := ih.mpr ⟨before, rfl⟩
        split
        · exact List.mem_cons_of_mem _ inside
        · exact inside

theorem openings_append (front rest : List α) :
    openings separator (front ++ rest) = (openings separator front).map (· ++ rest) ++ openings separator rest := by
  induction front with
  | nil => rfl
  | cons head tail ih =>
    simp only [List.cons_append, openings, ih]
    split <;> simp

theorem openings_of_not_mem {list : List α} (absent : separator ∉ list) : openings separator list = [] := by
  apply List.eq_nil_iff_forall_not_mem.mpr
  intro rest member
  obtain ⟨before, rfl⟩ := (mem_openings separator).mp member
  exact absent (by simp)

variable {separator}

theorem firstLine_of_not_mem {front : List α} (absent : separator ∉ front) (rest : List α) :
    firstLine separator (front ++ rest) = front ++ firstLine separator rest := by
  apply List.takeWhile_append_of_pos
  intro item member
  have other : item ≠ separator := fun same => absent (same ▸ member)
  simpa using other

theorem firstLine_of_mem {front : List α} (present : separator ∈ front) (rest : List α) :
    firstLine separator (front ++ rest) = firstLine separator front := by
  obtain ⟨before, after, rfl, absent⟩ := List.eq_append_cons_of_mem present
  rw [List.append_assoc, firstLine_of_not_mem absent, firstLine_of_not_mem absent]
  simp [firstLine]

theorem firstLine_cons_ne {head : α} (other : head ≠ separator) (rest : List α) :
    firstLine separator (head :: rest) = head :: firstLine separator rest := by
  simp [firstLine, other]

theorem firstLine_self (rest : List α) : firstLine separator (separator :: rest) = [] := by simp [firstLine]

theorem splitOn_eq (list : List α) :
    list.splitOn separator = (list :: openings separator list).map (firstLine separator) := by
  induction list with
  | nil => rfl
  | cons head tail ih =>
    rw [List.splitOn_cons_eq_if_modifyHead, ih]
    by_cases same : head = separator
    · subst same
      simp [openings, firstLine]
    · simp [openings, firstLine, same]

/-! ### Words -/

section Words
variable {β : Type} (blank : β → Bool)

def words (list : List β) : List (List β) := (list.splitOnP blank).filter (!·.isEmpty)

@[simp] theorem words_nil : words blank [] = [] := rfl

variable {blank}

/-- A blank is where the words of a list part. -/
theorem words_append_cons {item : β} (fits : blank item = true) (front rest : List β) :
    words blank (front ++ item :: rest) = words blank front ++ words blank rest := by
  rw [words, List.splitOnP_append_cons front rest fits, List.filter_append]
  rfl

theorem words_blank {gap : List β} (fits : gap.all blank = true) (rest : List β) : words blank (gap ++ rest) = words blank rest := by
  induction gap with
  | nil => rfl
  | cons item gap ih =>
    obtain ⟨first, fits⟩ := Bool.and_eq_true_iff.mp fits
    exact (words_append_cons first [] (gap ++ rest)).trans (ih fits)

theorem words_dropWhile (list : List β) : words blank (list.dropWhile blank) = words blank list := by
  have skip := words_blank (List.all_takeWhile (p := blank) (l := list)) (list.dropWhile blank)
  rw [List.takeWhile_append_dropWhile] at skip
  exact skip.symm

theorem words_word {word : List β} (full : word ≠ []) (solid : word.all (!blank ·) = true) : words blank word = [word] := by
  rw [words, List.splitOnP_eq_singleton]
  · simp [full]
  · intro item member
    simpa using List.all_eq_true.mp solid item member

/-- A word goes on up to the next blank. -/
theorem words_word_append {word : List β} (full : word ≠ []) (solid : word.all (!blank ·) = true) (rest : List β) :
    words blank (word ++ rest) = (word ++ rest.takeWhile (!blank ·)) :: words blank (rest.dropWhile (!blank ·)) := by
  have long : (word ++ rest.takeWhile (!blank ·)).all (!blank ·) = true := by
    rw [List.all_append, solid, List.all_takeWhile, Bool.and_self]
  have apart : words blank ((word ++ rest.takeWhile (!blank ·)) ++ rest.dropWhile (!blank ·)) =
      words blank (word ++ rest.takeWhile (!blank ·)) ++ words blank (rest.dropWhile (!blank ·)) := by
    cases shape : rest.dropWhile (!blank ·) with
    | nil => simp
    | cons item after =>
      have fits := List.head?_dropWhile_not (!blank ·) rest
      simp only [shape, List.head?_cons, Bool.not_eq_false'] at fits
      have skip : words blank (item :: after) = words blank after := words_append_cons fits [] after
      rw [words_append_cons fits, skip]
  have whole : (word ++ rest.takeWhile (!blank ·)) ++ rest.dropWhile (!blank ·) = word ++ rest := by
    rw [List.append_assoc, List.takeWhile_append_dropWhile]
  rw [← whole, apart, words_word (by simp [full]) long]
  rfl

theorem words_eq_nil_iff (list : List β) : words blank list = [] ↔ list.all blank = true := by
  constructor
  · intro none
    rw [← words_dropWhile] at none
    cases shape : list.dropWhile blank with
    | nil => exact List.all_eq_true.mpr (List.dropWhile_eq_nil_iff.mp shape)
    | cons item after =>
      have stop := List.head?_dropWhile_not blank list
      simp only [shape, List.head?_cons] at stop
      have first : words blank ([item] ++ after) = _ := words_word_append (by simp) (by simp [stop]) after
      rw [shape] at none
      rw [List.singleton_append, none] at first
      cases first
  · intro fits
    simpa using words_blank fits []

end Words

end Slipmesh.Library
