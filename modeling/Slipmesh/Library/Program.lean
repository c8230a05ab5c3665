import Mathlib.Logic.Function.Basic

/-! Programs that make requests of a world they share with others, and end with a value or
an error. What a program does is said under what the others do between two of its requests:
a relation they keep to, and one that the program keeps to in turn. -/

namespace Slipmesh.Library

inductive Program (ρ : Type) (answer : ρ → Type) (ε α : Type) where
  | done (result : Except ε α)
  | ask (request : ρ) (next : answer request → Program ρ answer ε α)

namespace Program

variable {ρ : Type} {answer : ρ → Type} {ε ε' α β : Type}

def bind : Program ρ answer ε α → (α → Program ρ answer ε β) → Program ρ answer ε β
  | .done (.ok value), next => next value
  | .done (.error error), _ => .done (.error error)
  | .ask request rest, next => .ask request fun value => (rest value).bind next

def catching : Program ρ answer ε α → (ε → Program ρ answer ε α) → Program ρ answer ε α
  | .done (.ok value), _ => .done (.ok value)
  | .done (.error error), handler => handler error
  | .ask request rest, handler => .ask request fun value => (rest value).catching handler

def mapError (f : ε → ε') : Program ρ answer ε α → Program ρ answer ε' α
  | .done (.ok value) => .done (.ok value)
  | .done (.error error) => .done (.error (f error))
  | .ask request rest => .ask request fun value => (rest value).mapError f

/-- A program of another world's requests, which are among these. -/
def via {ρ' : Type} {answer' : ρ' → Type} (request : ρ → ρ') (read : ∀ asked, answer' (request asked) → answer asked) :
    Program ρ answer ε α → Program ρ' answer' ε α
  | .done result => .done result
  | .ask asked rest => .ask (request asked) fun value => (rest (read asked value)).via request read

instance : Monad (Program ρ answer ε) where
  pure value := .done (.ok value)
  bind := bind

instance : MonadExceptOf ε (Program ρ answer ε) where
  throw error := .done (.error error)
  tryCatch := catching

end Program

/-- What others do to the world, and what a program does to it. -/
structure Rules (σ : Type) where
  rely : σ → σ → Prop
  guarantee : σ → σ → Prop
  still : ∀ world, rely world world
  further : ∀ {first second third}, rely first second → rely second third → rely first third

section
variable {ρ σ : Type} {answer : ρ → Type} {ε ε' α β : Type}
  (serves : (request : ρ) → σ → answer request → σ → Prop) (rules : Rules σ)

/-- Whatever the others do, every request of the program is answered within the guarantee,
and what it ends with holds for as long as the others go on. -/
def Meets (post : α → σ → Prop) (fails : ε → σ → Prop) : Program ρ answer ε α → σ → Prop
  | .done (.ok value), world => ∀ later, rules.rely world later → post value later
  | .done (.error error), world => ∀ later, rules.rely world later → fails error later
  | .ask request next, world => ∀ now, rules.rely world now → ∀ value after, serves request now value after →
      rules.guarantee now after ∧ Meets post fails (next value) after

/-- How far a program may have come. -/
inductive Reaches (program : Program ρ answer ε α) (world : σ) : Program ρ answer ε α → σ → Prop where
  | here : Reaches program world program world
  | moved {rest : Program ρ answer ε α} {now later : σ} :
      Reaches program world rest now → rules.rely now later → Reaches program world rest later
  | asked {request : ρ} {next : answer request → Program ρ answer ε α} {now after : σ} {value : answer request} :
      Reaches program world (.ask request next) now → serves request now value after →
        Reaches program world (next value) after

variable {serves rules} {post after : α → σ → Prop} {fails failing : ε → σ → Prop} {program rest : Program ρ answer ε α}
  {world now later : σ}

/-! ### What holds of a run -/

theorem Meets.moved (meets : Meets serves rules post fails program world) (moves : rules.rely world later) :
    Meets serves rules post fails program later := by
  match program with
  | .done (.ok value) => exact fun last more => meets last (rules.further moves more)
  | .done (.error error) => exact fun last more => meets last (rules.further moves more)
  | .ask request next => exact fun last more => meets last (rules.further moves more)

theorem Meets.reached (meets : Meets serves rules post fails program world)
    (reaches : Reaches serves rules program world rest now) : Meets serves rules post fails rest now := by
  induction reaches with
  | here => exact meets
  | moved reached moves ih => exact ih.moved moves
  | @asked request next now after value reached served ih => exact (ih now (rules.still now) value after served).2

theorem Meets.ok {value : α} (meets : Meets serves rules post fails program world)
    (reaches : Reaches serves rules program world (.done (.ok value)) now) : post value now :=
  meets.reached reaches now (rules.still now)

theorem Meets.error {error : ε} (meets : Meets serves rules post fails program world)
    (reaches : Reaches serves rules program world (.done (.error error)) now) : fails error now :=
  meets.reached reaches now (rules.still now)

/-- What neither the others nor the program ever break holds between the start and any
later moment. -/
theorem Meets.always {between : σ → σ → Prop} (meets : Meets serves rules post fails program world)
    (reaches : Reaches serves rules program world rest now) (refl : ∀ world, between world world)
    (trans : ∀ {first second third}, between first second → between second third → between first third)
    (others : ∀ {first second}, rules.rely first second → between first second)
    (own : ∀ {first second}, rules.guarantee first second → between first second) : between world now := by
  induction reaches with
  | here => exact refl world
  | moved reached moves ih => exact trans ih (others moves)
  | @asked request next now after value reached served ih =>
    exact trans ih (own (meets.reached reached now (rules.still now) value after served).1)

/-! ### One rule for each way of putting programs together -/

theorem Meets.mono (meets : Meets serves rules post fails program world)
    (ends : ∀ value later, post value later → after value later)
    (breaks : ∀ error later, fails error later → failing error later) : Meets serves rules after failing program world := by
  induction program generalizing world with
  | done result =>
    cases result with
    | ok value => exact fun later moves => ends value later (meets later moves)
    | error error => exact fun later moves => breaks error later (meets later moves)
  | ask request next ih =>
    intro now moves value after served
    obtain ⟨within, meets⟩ := meets now moves value after served
    exact ⟨within, ih value meets⟩

theorem Meets.imp (meets : Meets serves rules post fails program world)
    (ends : ∀ value later, post value later → after value later) : Meets serves rules after fails program world :=
  meets.mono ends fun _ _ breaks => breaks

/-- A program keeps to its guarantee when the others do less than was reckoned with. -/
theorem Meets.within (stronger : Rules σ) (meets : Meets serves rules post fails program world)
    (calmer : ∀ {first second}, stronger.rely first second → rules.rely first second)
    (looser : ∀ {first second}, rules.guarantee first second → stronger.guarantee first second) :
    Meets serves stronger post fails program world := by
  induction program generalizing world with
  | done result =>
    cases result with
    | ok value => exact fun later moves => meets later (calmer moves)
    | error error => exact fun later moves => meets later (calmer moves)
  | ask request next ih =>
    intro now moves value after served
    obtain ⟨within, meets⟩ := meets now (calmer moves) value after served
    exact ⟨looser within, ih value meets⟩

/-- What the others and the program both leave alone is there at the end. -/
theorem Meets.frame (kept : σ → Prop) (meets : Meets serves rules post fails program world)
    (others : ∀ {first second}, rules.rely first second → kept first → kept second)
    (own : ∀ {first second}, rules.guarantee first second → kept first → kept second) (start : kept world) :
    Meets serves rules (fun value later => post value later ∧ kept later)
      (fun error later => fails error later ∧ kept later) program world := by
  induction program generalizing world with
  | done result =>
    cases result with
    | ok value => exact fun later moves => ⟨meets later moves, others moves start⟩
    | error error => exact fun later moves => ⟨meets later moves, others moves start⟩
  | ask request next ih =>
    intro now moves value after served
    obtain ⟨within, meets⟩ := meets now moves value after served
    exact ⟨within, ih value meets (own within (others moves start))⟩

/-- An assertion that the others and the program keep may be used to bound what the others
do. -/
theorem Meets.under {weaker : Rules σ} (kept : σ → Prop) (meets : Meets serves rules post fails program world)
    (calmer : ∀ {first second}, kept first → weaker.rely first second → rules.rely first second)
    (others : ∀ {first second}, weaker.rely first second → kept first → kept second)
    (own : ∀ {first second}, kept first → rules.guarantee first second → weaker.guarantee first second ∧ kept second)
    (start : kept world) : Meets serves weaker post fails program world := by
  induction program generalizing world with
  | done result =>
    cases result with
    | ok value => exact fun later moves => meets later (calmer start moves)
    | error error => exact fun later moves => meets later (calmer start moves)
  | ask request next ih =>
    intro now moves value after served
    obtain ⟨within, meets⟩ := meets now (calmer start moves) value after served
    obtain ⟨looser, keeps⟩ := own (others moves start) within
    exact ⟨looser, ih value meets keeps⟩

theorem meets_pure {value : α} (holds : ∀ later, rules.rely world later → post value later) :
    Meets serves rules post fails (pure value : Program ρ answer ε α) world := holds

theorem meets_throw {error : ε} (holds : ∀ later, rules.rely world later → fails error later) :
    Meets serves rules post fails (throw error : Program ρ answer ε α) world := holds

theorem meets_bind {next : α → Program ρ answer ε β} {post : β → σ → Prop}
    (first : Meets serves rules (fun value now => Meets serves rules post fails (next value) now) fails program world) :
    Meets serves rules post fails (program >>= next) world := by
  change Meets serves rules post fails (program.bind next) world
  induction program generalizing world with
  | done result =>
    cases result with
    | ok value => exact first world (rules.still world)
    | error error => exact first
  | ask request rest ih =>
    intro now moves value after served
    obtain ⟨within, meets⟩ := first now moves value after served
    exact ⟨within, ih value meets⟩

theorem meets_catch {handler : ε → Program ρ answer ε α}
    (first : Meets serves rules post (fun error now => Meets serves rules post fails (handler error) now) program world) :
    Meets serves rules post fails (tryCatch program handler) world := by
  change Meets serves rules post fails (program.catching handler) world
  induction program generalizing world with
  | done result =>
    cases result with
    | ok value => exact first
    | error error => exact first world (rules.still world)
  | ask request rest ih =>
    intro now moves value after served
    obtain ⟨within, meets⟩ := first now moves value after served
    exact ⟨within, ih value meets⟩

theorem meets_mapError {f : ε → ε'} {fails : ε' → σ → Prop}
    (first : Meets serves rules post (fun error now => fails (f error) now) program world) :
    Meets serves rules post fails (program.mapError f) world := by
  induction program generalizing world with
  | done result => cases result <;> exact first
  | ask request rest ih =>
    intro now moves value after served
    obtain ⟨within, meets⟩ := first now moves value after served
    exact ⟨within, ih value meets⟩

/-- A program does in a part of the world what it does by itself, where its requests and the
others leave the rest to the wider rules. -/
theorem meets_via {ρ' σ' : Type} {answer' : ρ' → Type} {serves' : (request : ρ') → σ' → answer' request → σ' → Prop}
    {wider : Rules σ'} {request : ρ → ρ'} {read : ∀ asked, answer' (request asked) → answer asked} (part : σ' → σ) {whole : σ'}
    (calmer : ∀ {first second}, wider.rely first second → rules.rely (part first) (part second))
    (within : ∀ asked {first value second}, serves' (request asked) first value second →
      serves asked (part first) (read asked value) (part second) ∧
        (rules.guarantee (part first) (part second) → wider.guarantee first second))
    (meets : Meets serves rules post fails program (part whole)) :
    Meets serves' wider (fun value later => post value (part later)) (fun error later => fails error (part later))
      (program.via request read) whole := by
  induction program generalizing whole with
  | done result =>
    cases result with
    | ok value => exact fun later moves => meets (part later) (calmer moves)
    | error error => exact fun later moves => meets (part later) (calmer moves)
  | ask asked rest ih =>
    intro now moves value after served
    obtain ⟨answers, looser⟩ := within asked served
    obtain ⟨kept, meets⟩ := meets (part now) (calmer moves) (read asked value) (part after) answers
    exact ⟨looser kept, ih (read asked value) meets⟩

/-- A loop over a list, by what holds when some of its turns are done. -/
theorem meets_foldlM {ι : Type} {turn : β → ι → Program ρ answer ε β} (inv : List ι → β → σ → Prop) {items : List ι}
    (stable : ∀ passed state {now later}, rules.rely now later → inv passed state now → inv passed state later)
    (step : ∀ passed item remaining state now, items = passed ++ item :: remaining → inv passed state now →
      Meets serves rules (inv (passed ++ [item])) fails (turn state item) now)
    {state : β} (start : inv [] state world) : Meets serves rules (inv items) fails (items.foldlM turn state) world := by
  have general (passed remaining : List ι) (split : items = passed ++ remaining) (state : β) (now : σ)
      (holds : inv passed state now) : Meets serves rules (inv items) fails (remaining.foldlM turn state) now := by
    induction remaining generalizing passed state now with
    | nil =>
      rw [List.append_nil] at split
      subst split
      exact meets_pure fun later moves => stable _ _ moves holds
    | cons item remaining ih =>
      rw [List.foldlM_cons]
      apply meets_bind
      refine (step passed item remaining state now split holds).imp ?_
      intro state after holds
      exact ih (passed ++ [item]) (by rw [split, List.append_assoc]; rfl) state after holds
  exact general [] items rfl state world start

theorem meets_forM {ι : Type} {turn : ι → Program ρ answer ε PUnit} (inv : List ι → σ → Prop) {items : List ι}
    (stable : ∀ passed {now later}, rules.rely now later → inv passed now → inv passed later)
    (step : ∀ passed item remaining now, items = passed ++ item :: remaining → inv passed now →
      Meets serves rules (fun _ => inv (passed ++ [item])) fails (turn item) now)
    (start : inv [] world) : Meets serves rules (fun _ => inv items) fails (items.forM turn) world := by
  have general (passed remaining : List ι) (split : items = passed ++ remaining) (now : σ)
      (holds : inv passed now) : Meets serves rules (fun _ => inv items) fails (remaining.forM turn) now := by
    induction remaining generalizing passed now with
    | nil =>
      rw [List.append_nil] at split
      subst split
      exact meets_pure fun later moves => stable _ moves holds
    | cons item remaining ih =>
      change Meets serves rules _ fails (turn item >>= fun _ => remaining.forM turn) now
      apply meets_bind
      refine (step passed item remaining now split holds).imp ?_
      intro _ after holds
      exact ih (passed ++ [item]) (by rw [split, List.append_assoc]; rfl) after holds
  exact general [] items rfl world start

end

/-! ### What may be asked when -/

section
variable {ρ τ : Type} {answer : ρ → Type} {ε α β : Type} {protocol : ρ → τ → Option τ} {ends breaks middle state : τ}
  {program : Program ρ answer ε α}

/-- Every request is one that the state allows, whatever has been answered before it; one
state is reached where the program ends well, another where it does not. -/
def Follows (protocol : ρ → τ → Option τ) (ends breaks : τ) : τ → Program ρ answer ε α → Prop
  | state, .done (.ok _) => state = ends
  | state, .done (.error _) => state = breaks
  | state, .ask request next => ∃ after, protocol request state = some after ∧ ∀ value, Follows protocol ends breaks after (next value)

theorem follows_bind {next : α → Program ρ answer ε β} (first : Follows protocol middle breaks state program)
    (more : ∀ value, Follows protocol ends breaks middle (next value)) : Follows protocol ends breaks state (program >>= next) := by
  change Follows protocol ends breaks state (program.bind next)
  induction program generalizing state with
  | done result =>
    cases result with
    | ok value =>
      cases first
      exact more value
    | error error => exact first
  | ask request rest ih =>
    obtain ⟨after, allowed, follows⟩ := first
    exact ⟨after, allowed, fun value => ih value (follows value)⟩

theorem follows_catch {handler : ε → Program ρ answer ε α} (first : Follows protocol ends middle state program)
    (more : ∀ error, Follows protocol ends breaks middle (handler error)) :
    Follows protocol ends breaks state (tryCatch program handler) := by
  change Follows protocol ends breaks state (program.catching handler)
  induction program generalizing state with
  | done result =>
    cases result with
    | ok value => exact first
    | error error =>
      cases first
      exact more error
  | ask request rest ih =>
    obtain ⟨after, allowed, follows⟩ := first
    exact ⟨after, allowed, fun value => ih value (follows value)⟩

end

/-! ### Programs side by side -/

section
variable {ρ σ ι : Type} [DecidableEq ι] {answer : ρ → Type} {ε α : ι → Type}

/-- The programs take turns, request by request, and what else there is moves in between. -/
inductive Interleaves (serves : (request : ρ) → σ → answer request → σ → Prop) (others : σ → σ → Prop)
    (programs : (index : ι) → Program ρ answer (ε index) (α index)) (world : σ) :
    ((index : ι) → Program ρ answer (ε index) (α index)) → σ → Prop where
  | here : Interleaves serves others programs world programs world
  | moved {rest : (index : ι) → Program ρ answer (ε index) (α index)} {now later : σ} :
      Interleaves serves others programs world rest now → others now later →
        Interleaves serves others programs world rest later
  | asked {rest : (index : ι) → Program ρ answer (ε index) (α index)} {now after : σ} (index : ι) {request : ρ}
      {next : answer request → Program ρ answer (ε index) (α index)} {value : answer request} :
      Interleaves serves others programs world rest now → rest index = .ask request next →
        serves request now value after → Interleaves serves others programs world (Function.update rest index (next value)) after

variable {serves : (request : ρ) → σ → answer request → σ → Prop} {others : σ → σ → Prop}
  {programs rest : (index : ι) → Program ρ answer (ε index) (α index)} {world now : σ}

/-- Programs that each reckon with what the rest guarantee do together what each of them
does alone. -/
theorem Interleaves.meets {rules : ι → Rules σ} {post : (index : ι) → α index → σ → Prop}
    {fails : (index : ι) → ε index → σ → Prop}
    (alone : ∀ index, Meets serves (rules index) (post index) (fails index) (programs index) world)
    (outside : ∀ index {first second}, others first second → (rules index).rely first second)
    (apart : ∀ own other, own ≠ other → ∀ {first second}, (rules own).guarantee first second → (rules other).rely first second)
    (interleaves : Interleaves serves others programs world rest now) (index : ι) :
    Meets serves (rules index) (post index) (fails index) (rest index) now := by
  induction interleaves generalizing index with
  | here => exact alone index
  | moved reached moves ih => exact (ih index).moved (outside index moves)
  | @asked rest now after own request next value reached asking served ih =>
    have turn := ih own
    rw [asking] at turn
    obtain ⟨within, meets⟩ := turn now ((rules own).still now) value after served
    by_cases same : index = own
    · subst same
      rw [Function.update_self]
      exact meets
    · rw [Function.update_of_ne same]
      exact (ih index).moved (apart own index (Ne.symm same) within)

/-- What neither the programs nor the others ever break holds between the start and any
later moment. -/
theorem Interleaves.always {rules : ι → Rules σ} {post : (index : ι) → α index → σ → Prop}
    {fails : (index : ι) → ε index → σ → Prop} {between : σ → σ → Prop}
    (alone : ∀ index, Meets serves (rules index) (post index) (fails index) (programs index) world)
    (outside : ∀ index {first second}, others first second → (rules index).rely first second)
    (apart : ∀ own other, own ≠ other → ∀ {first second}, (rules own).guarantee first second → (rules other).rely first second)
    (interleaves : Interleaves serves others programs world rest now) (refl : ∀ world, between world world)
    (trans : ∀ {first second third}, between first second → between second third → between first third)
    (elsewhere : ∀ {first second}, others first second → between first second)
    (own : ∀ index {first second}, (rules index).guarantee first second → between first second) : between world now := by
  induction interleaves with
  | here => exact refl world
  | moved reached moves ih => exact trans ih (elsewhere moves)
  | @asked rest now after index request next value reached asking served ih =>
    have turn := reached.meets alone outside apart index
    rw [asking] at turn
    exact trans ih (own index (turn now ((rules index).still now) value after served).1)

end

end Slipmesh.Library
