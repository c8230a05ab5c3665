import Slipmesh.Library.Program

/-! Tasks that run side by side for good: each takes turn after turn, with what it carries
from one to the next. -/

namespace Slipmesh.Library

variable {ρ σ ι : Type} [DecidableEq ι] {answer : ρ → Type} {κ ε : ι → Type}

/-- How far the tasks may have come, request by request. -/
inductive Runs (serves : (request : ρ) → σ → answer request → σ → Prop) (others : σ → σ → Prop)
    (turn : (index : ι) → κ index → Program ρ answer (ε index) (κ index)) (carried : (index : ι) → κ index) (world : σ) :
    ((index : ι) → Program ρ answer (ε index) (κ index)) → σ → Prop where
  | here : Runs serves others turn carried world (fun index => turn index (carried index)) world
  | moved {rest : (index : ι) → Program ρ answer (ε index) (κ index)} {now later : σ} :
      Runs serves others turn carried world rest now → others now later → Runs serves others turn carried world rest later
  | asked {rest : (index : ι) → Program ρ answer (ε index) (κ index)} {now after : σ} (index : ι) {request : ρ}
      {next : answer request → Program ρ answer (ε index) (κ index)} {value : answer request} :
      Runs serves others turn carried world rest now → rest index = .ask request next → serves request now value after →
        Runs serves others turn carried world (Function.update rest index (next value)) after
  | again {rest : (index : ι) → Program ρ answer (ε index) (κ index)} {now : σ} (index : ι) {state : κ index} :
      Runs serves others turn carried world rest now → rest index = .done (.ok state) →
        Runs serves others turn carried world (Function.update rest index (turn index state)) now

variable {serves : (request : ρ) → σ → answer request → σ → Prop} {others : σ → σ → Prop}
  {turn : (index : ι) → κ index → Program ρ answer (ε index) (κ index)} {carried : (index : ι) → κ index}
  {rest : (index : ι) → Program ρ answer (ε index) (κ index)} {world now : σ} {rules : ι → Rules σ}
  {inv : (index : ι) → κ index → σ → Prop} {fails : (index : ι) → ε index → σ → Prop}

/-- Tasks that each reckon with what the rest guarantee, and end every turn ready for the
next, do together what each of them does alone. -/
theorem Runs.meets (start : ∀ index, inv index (carried index) world)
    (alone : ∀ index state now, inv index state now → Meets serves (rules index) (inv index) (fails index) (turn index state) now)
    (outside : ∀ index {first second}, others first second → (rules index).rely first second)
    (apart : ∀ own other, own ≠ other → ∀ {first second}, (rules own).guarantee first second → (rules other).rely first second)
    (runs : Runs serves others turn carried world rest now) (index : ι) :
    Meets serves (rules index) (inv index) (fails index) (rest index) now := by
  induction runs generalizing index with
  | here => exact alone index (carried index) world (start index)
  | moved reached moves ih => exact (ih index).moved (outside index moves)
  | @asked rest now after own request next value reached asking served ih =>
    have turn := ih own
    rw [asking] at turn
    obtain ⟨within, meets⟩ := turn now ((rules own).still now) value after served
    by_cases same : index = own
    · subst same
      rw [Function.update_self]
      exact meets
    · rw [Function.update_of_ne same]
      exact (ih index).moved (apart own index (Ne.symm same) within)
  | @again rest now own state reached ended ih =>
    by_cases same : index = own
    · subst same
      have ready := ih index
      rw [ended] at ready
      rw [Function.update_self]
      exact alone index state now (ready now ((rules index).still now))
    · rw [Function.update_of_ne same]
      exact ih index

/-- What neither the tasks nor the others ever break holds between the start and any later
moment. -/
theorem Runs.always (between : σ → σ → Prop) (start : ∀ index, inv index (carried index) world)
    (alone : ∀ index state now, inv index state now → Meets serves (rules index) (inv index) (fails index) (turn index state) now)
    (outside : ∀ index {first second}, others first second → (rules index).rely first second)
    (apart : ∀ own other, own ≠ other → ∀ {first second}, (rules own).guarantee first second → (rules other).rely first second)
    (runs : Runs serves others turn carried world rest now) (refl : ∀ world, between world world)
    (trans : ∀ {first second third}, between first second → between second third → between first third)
    (elsewhere : ∀ {first second}, others first second → between first second)
    (own : ∀ index {first second}, (rules index).guarantee first second → between first second) : between world now := by
  induction runs with
  | here => exact refl world
  | moved reached moves ih => exact trans ih (elsewhere moves)
  | @asked rest now after index request next value reached asking served ih =>
    have turn := reached.meets start alone outside apart index
    rw [asking] at turn
    exact trans ih (own index (turn now ((rules index).still now) value after served).1)
  | again index reached ended ih => exact ih

/-- Tasks whose requests the shared world keeps a state of for each: where a turn follows the
protocol from one end to the other, every task is always within it. -/
theorem Runs.follows {τ : Type} (protocol : ι → ρ → τ → Option τ) (idle : τ) (stateOf : ι → σ → τ)
    (turns : ∀ index state, Follows (protocol index) idle idle idle (turn index state)) (start : ∀ index, stateOf index world = idle)
    (elsewhere : ∀ index {first second}, others first second → stateOf index second = stateOf index first)
    (own : ∀ index request {first second value after}, serves request first value second →
      protocol index request (stateOf index first) = some after → stateOf index second = after)
    (apart : ∀ index other request {first second value after}, other ≠ index → serves request first value second →
      protocol index request (stateOf index first) = some after → stateOf other second = stateOf other first)
    (runs : Runs serves others turn carried world rest now) (index : ι) :
    Follows (protocol index) idle idle (stateOf index now) (rest index) := by
  induction runs generalizing index with
  | here =>
    rw [start index]
    exact turns index (carried index)
  | moved reached moves ih =>
    rw [elsewhere index moves]
    exact ih index
  | @asked rest now after mover request next value reached asking served ih =>
    have turn := ih mover
    rw [asking] at turn
    obtain ⟨state, allowed, follows⟩ := turn
    by_cases same : index = mover
    · subst same
      rw [Function.update_self, own index request served allowed]
      exact follows value
    · rw [Function.update_of_ne same, apart mover index request same served allowed]
      exact ih index
  | @again rest now mover state reached ended ih =>
    by_cases same : index = mover
    · subst same
      have done := ih index
      rw [ended] at done
      rw [Function.update_self, done]
      exact turns index state
    · rw [Function.update_of_ne same]
      exact ih index

end Slipmesh.Library
