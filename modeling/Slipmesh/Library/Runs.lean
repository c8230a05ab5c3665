import Mathlib.Data.List.Nodup
import Mathlib.Logic.Function.Basic

/-! Runs of a step function over a list of events: invariants, and the pairing of
a condition before every step with a property after it. -/

namespace Slipmesh.Library

variable {σ ε : Type} (step : σ → ε → σ)

/-- The states after each event. -/
def states : σ → List ε → List σ
  | _, [] => []
  | state, event :: rest => step state event :: states (step state event) rest

/-- Each event with the state it finds. -/
def moves : σ → List ε → List (σ × ε)
  | _, [] => []
  | state, event :: rest => (state, event) :: moves (step state event) rest

variable {step}

theorem mem_of_moves {events : List ε} {state : σ} {move : σ × ε} (member : move ∈ moves step state events) :
    move.2 ∈ events := by
  induction events generalizing state with
  | nil => cases member
  | cons event rest ih =>
    rcases List.mem_cons.mp member with rfl | member
    · exact List.mem_cons_self ..
    · exact List.mem_cons_of_mem _ (ih member)

/-- An event is met in the state that the events before it lead to. -/
theorem mem_moves_iff {events : List ε} {state : σ} {move : σ × ε} : move ∈ moves step state events ↔
    ∃ before after, events = before ++ move.2 :: after ∧ move.1 = before.foldl step state := by
  induction events generalizing state with
  | nil => simp [moves]
  | cons event rest ih =>
    simp only [moves, List.mem_cons, ih]
    constructor
    · intro given
      rcases given with rfl | ⟨before, after, rfl, found⟩
      · exact ⟨[], rest, rfl, rfl⟩
      · exact ⟨event :: before, after, rfl, found⟩
    · intro given
      obtain ⟨before, after, split, found⟩ := given
      cases before with
      | nil =>
        obtain ⟨rfl, rfl⟩ := List.cons.inj split
        exact .inl (Prod.ext found rfl)
      | cons first before =>
        obtain ⟨rfl, rfl⟩ := List.cons.inj split
        exact .inr ⟨before, after, rfl, found⟩

variable (inv : σ → Prop)

theorem run_invariant (keeps : ∀ state event, inv state → inv (step state event)) {state : σ} (events : List ε)
    (start : inv state) : inv (events.foldl step state) := by
  induction events generalizing state with
  | nil => exact start
  | cons event rest ih => exact ih (keeps state event start)

theorem run_invariant_mem (events : List ε) (keeps : ∀ state, ∀ event ∈ events, inv state → inv (step state event))
    {state : σ} (start : inv state) : inv (events.foldl step state) := by
  induction events generalizing state with
  | nil => exact start
  | cons event rest ih =>
    exact ih (fun state other member => keeps state other (List.mem_cons_of_mem _ member))
      (keeps state event (List.mem_cons_self ..) start)

/-- What one event of a run brings about from any state, and every event keeps, holds
at the end. -/
theorem run_establishes (events : List ε) (keeps : ∀ state, ∀ event ∈ events, inv state → inv (step state event))
    {event : ε} (happens : event ∈ events) (makes : ∀ state, inv (step state event)) (state : σ) :
    inv (events.foldl step state) := by
  obtain ⟨before, after, rfl⟩ := List.append_of_mem happens
  rw [List.foldl_append, List.foldl_cons]
  apply run_invariant_mem inv after
  · intro state other member
    exact keeps state other (List.mem_append_right _ (List.mem_cons_of_mem _ member))
  · exact makes _

theorem states_invariant (keeps : ∀ state event, inv state → inv (step state event)) {state : σ} (events : List ε)
    (start : inv state) : ∀ after ∈ states step state events, inv after := by
  induction events generalizing state with
  | nil =>
    intro after member
    cases member
  | cons event rest ih =>
    intro after member
    rcases List.mem_cons.mp member with rfl | member
    · exact keeps state event start
    · exact ih (keeps state event start) after member

theorem moves_invariant (keeps : ∀ state event, inv state → inv (step state event)) {state : σ} (events : List ε)
    (start : inv state) : ∀ move ∈ moves step state events, inv move.1 := by
  induction events generalizing state with
  | nil =>
    intro move member
    cases member
  | cons event rest ih =>
    intro move member
    rcases List.mem_cons.mp member with rfl | member
    · exact start
    · exact ih (keeps state event start) move member

/-- A condition that every step of a run meets carries the invariant along, and with
it what the step owes. -/
theorem always_of {good need : σ → ε → Prop} (sound : ∀ state event, inv state → need state event → good state event)
    (keeps : ∀ state event, inv state → need state event → inv (step state event)) {state : σ} (events : List ε)
    (start : inv state) (met : ∀ move ∈ moves step state events, need move.1 move.2) :
    ∀ move ∈ moves step state events, good move.1 move.2 := by
  induction events generalizing state with
  | nil =>
    intro move member
    cases member
  | cons event rest ih =>
    simp only [moves, List.forall_mem_cons] at met ⊢
    obtain ⟨first, later⟩ := met
    exact ⟨sound state event start first, ih (keeps state event start first) later⟩

/-- Where one step ends well exactly under a condition, and the condition is what
carries the invariant on, a run ends every step well exactly when it meets the
condition before every step. -/
theorem always_iff {good need : σ → ε → Prop} (exact : ∀ state event, inv state → (good state event ↔ need state event))
    (keeps : ∀ state event, inv state → need state event → inv (step state event)) {state : σ} (events : List ε)
    (start : inv state) : (∀ move ∈ moves step state events, good move.1 move.2) ↔
      ∀ move ∈ moves step state events, need move.1 move.2 := by
  refine ⟨always_of inv ?_ ?_ events start, always_of inv ?_ keeps events start⟩
  · intro state event holds ends
    exact (exact state event holds).mp ends
  · intro state event holds ends
    exact keeps state event holds ((exact state event holds).mp ends)
  · intro state event holds meets
    exact (exact state event holds).mpr meets

/-- A part of the state that some events overwrite, and no event changes otherwise,
holds what was last written to it. -/
theorem run_last {υ : Type} {part : σ → υ} {written : ε → Option υ}
    (overwrites : ∀ state event, part (step state event) = (written event).getD (part state)) (events : List ε) (state : σ) :
    part (events.foldl step state) = (events.filterMap written).getLast?.getD (part state) := by
  induction events generalizing state with
  | nil => rfl
  | cons event rest ih =>
    rw [List.foldl_cons, ih, overwrites, List.filterMap_cons]
    cases written event with
    | none => rfl
    | some value => rw [List.getLast?_cons, Option.getD_some, Option.getD_some]

/-! ### Runs of a relation -/

/-- Steps of a relation one after the other, each under its label. -/
inductive Path {τ ι : Type} (next : ι → τ → τ → Prop) : List ι → τ → τ → Prop where
  | nil (state : τ) : Path next [] state state
  | cons {label : ι} {labels : List ι} {first second last : τ} :
      next label first second → Path next labels second last → Path next (label :: labels) first last

section
variable {τ ι : Type} {next : ι → τ → τ → Prop} {labels : List ι} {first last : τ}

theorem Path.invariant {inv : τ → Prop} (path : Path next labels first last)
    (keeps : ∀ label ∈ labels, ∀ {first second}, next label first second → inv first → inv second) (start : inv first) : inv last := by
  induction path with
  | nil => exact start
  | cons does path ih =>
    apply ih
    · exact fun label member => keeps label (List.mem_cons_of_mem _ member)
    · exact keeps _ (List.mem_cons_self ..) does start

/-- A run whose every step is one of the relation, on related states, is a run of the relation. -/
theorem run_path {next : σ × ε → τ → τ → Prop} (relate : σ → τ → Prop) {events : List ε} {state : σ} {first : τ}
    (simulates : ∀ event ∈ events, ∀ {state first}, relate state first →
      ∃ second, next (state, event) first second ∧ relate (step state event) second) (start : relate state first) :
    ∃ last, Path next (moves step state events) first last ∧ relate (events.foldl step state) last := by
  induction events generalizing state first with
  | nil => exact ⟨first, .nil first, start⟩
  | cons event rest ih =>
    obtain ⟨second, does, related⟩ := simulates event (List.mem_cons_self ..) start
    obtain ⟨last, path, related⟩ := ih (fun other member => simulates other (List.mem_cons_of_mem _ member)) related
    exact ⟨last, .cons does path, related⟩

end

/-! ### Events that each rewrite one place -/

variable {ι υ : Type} [DecidableEq ι] (place : ε → ι) (rewrite : ε → υ → υ)

def writeAt (table : ι → υ) (event : ε) : ι → υ :=
  Function.update table (place event) (rewrite event (table (place event)))

theorem run_writeAt_of_ne {events : List ε} {there : ι} (elsewhere : ∀ event ∈ events, place event ≠ there)
    (table : ι → υ) : events.foldl (writeAt place rewrite) table there = table there := by
  refine run_invariant_mem (fun state : ι → υ => state there = table there) events ?_ rfl
  intro state event member same
  exact (Function.update_of_ne (elsewhere event member).symm _ _).trans same

/-- A place that one event has is what that event makes of it. -/
theorem run_writeAt {events : List ε} (distinct : (events.map place).Nodup) {event : ε} (member : event ∈ events)
    (table : ι → υ) : events.foldl (writeAt place rewrite) table (place event) = rewrite event (table (place event)) := by
  induction events generalizing table with
  | nil => cases member
  | cons first rest ih =>
    obtain ⟨fresh, distinct⟩ := List.nodup_cons.mp distinct
    rw [List.foldl_cons]
    rcases List.mem_cons.mp member with rfl | later
    · rw [run_writeAt_of_ne, writeAt, Function.update_self]
      intro other listed same
      exact fresh (same ▸ List.mem_map_of_mem listed)
    · have apart : place event ≠ place first := fun same => fresh (same ▸ List.mem_map_of_mem later)
      rw [ih distinct later, writeAt, Function.update_of_ne apart]

end Slipmesh.Library
