import Slipmesh.Router.Refresh

/-! Every call of `current_bypass_routes` serves the last successful resolution of the
process. The cache is what it was, whatever the calls that fail. -/

namespace Slipmesh.Router

/-- The routes of a resolution that succeeds. -/
def outcome (resolver : Resolver) (bypass : BypassConfig) (number : Nat) : Option (List BypassRoute) :=
  match resolver number bypass.includes bypass.excludes with
  | .ok resolved => some (bypassRoutes resolved)
  | .error _ => none

/-- The routes of the most recent success among the first resolutions. -/
def latest (outcomes : Nat → Option (List BypassRoute)) : Nat → Option (List BypassRoute)
  | 0 => none
  | made + 1 => (outcomes made).or (latest outcomes made)

theorem latest_eq_of_failed {outcomes : Nat → Option (List BypassRoute)} {before after : Nat} (later : before ≤ after)
    (failed : ∀ number, before ≤ number → number < after → outcomes number = none) :
    latest outcomes after = latest outcomes before := by
  induction after, later using Nat.le_induction with
  | base => rfl
  | succ after later ih =>
    rw [latest, failed after later (Nat.lt_succ_self _), Option.none_or]
    exact ih fun number from_ below => failed number from_ (Nat.lt_succ_of_lt below)

theorem latest_isSome {outcomes : Nat → Option (List BypassRoute)} {before after : Nat} (later : before ≤ after)
    (succeeded : latest outcomes before ≠ none) : latest outcomes after ≠ none := by
  induction after, later using Nat.le_induction with
  | base => exact succeeded
  | succ after later ih =>
    rw [latest]
    cases outcomes after with
    | none => exact ih
    | some routes => exact Option.some_ne_none _

/-- What the attempts of one call come to, where at most `budget` are left. -/
structure Served (outcomes : Nat → Option (List BypassRoute)) (budget : Nat) (before : RouterState)
    (call : Option (List BypassRoute) × RouterState) : Prop where
  attempted : before.asked < call.2.asked
  bounded : call.2.asked ≤ before.asked + budget
  cached : call.2.bypassCache = latest outcomes call.2.asked
  returned : call.1 = some ((latest outcomes call.2.asked).getD [])
  exhausted : latest outcomes call.2.asked = none → call.2.asked = before.asked + budget
  inputs : call.2.inputs = before.inputs
  bypassCfg : call.2.bypassCfg = before.bypassCfg

variable {resolver : Resolver} {bypass : BypassConfig} {state : RouterState}

private theorem served_success (first : Nat) (rest : List Nat) {routes : List BypassRoute} {budget : Nat}
    (succeeds : outcome resolver bypass state.asked = some routes) :
    Served (outcome resolver bypass) (budget + 1) state (retryResolve resolver bypass (first :: rest) state) := by
  have last : latest (outcome resolver bypass) (state.asked + 1) = some routes := by
    rw [latest, succeeds, Option.some_or]
  rw [outcome] at succeeds
  rw [retryResolve]
  cases answer : resolver state.asked bypass.includes bypass.excludes with
  | error _ => simp only [answer, reduceCtorEq] at succeeds
  | ok resolved =>
    simp only [answer, Option.some.injEq] at succeeds
    subst succeeds
    refine ⟨Nat.lt_succ_self _, ?_, last.symm, ?_, ?_, rfl, rfl⟩
    · exact Nat.add_le_add_left (Nat.succ_le_succ (Nat.zero_le _)) _
    · simp only [last, Option.getD_some]
    · simp only [last, reduceCtorEq, false_implies]

private theorem retryResolve_failure (first : Nat) (rest : List Nat)
    (fails : outcome resolver bypass state.asked = none) :
    retryResolve resolver bypass (first :: rest) state =
      match state.bypassCache with
      | some routes => (some routes, { state with asked := state.asked + 1 })
      | none =>
        if first < bypassStartupRetries then retryResolve resolver bypass rest { state with asked := state.asked + 1 }
        else (some [], { state with asked := state.asked + 1 }) := by
  rw [outcome] at fails
  rw [retryResolve]
  cases answer : resolver state.asked bypass.includes bypass.excludes with
  | ok resolved => simp only [answer, reduceCtorEq] at fails
  | error _ => rfl

/-- A call that ends with its first attempt, which fails: it serves what it finds in the cache. -/
private theorem served_failure (budget : Nat) (fails : outcome resolver bypass state.asked = none)
    (cached : state.bypassCache = latest (outcome resolver bypass) state.asked)
    (last : state.bypassCache = none → budget = 0) :
    Served (outcome resolver bypass) (budget + 1) state
      (some (state.bypassCache.getD []), { state with asked := state.asked + 1 }) := by
  have same : latest (outcome resolver bypass) (state.asked + 1) = state.bypassCache := by
    rw [latest, fails, Option.none_or, cached]
  refine ⟨Nat.lt_succ_self _, ?_, same.symm, by rw [same], ?_, rfl, rfl⟩
  · exact Nat.add_le_add_left (Nat.succ_le_succ (Nat.zero_le _)) _
  · intro none
    rw [last (same ▸ none)]

/-- By induction on the attempts that are left: the loop goes on only with an empty cache. -/
private theorem retryResolve_served (left first : Nat) (last : first + left = bypassStartupRetries)
    (cached : state.bypassCache = latest (outcome resolver bypass) state.asked) :
    Served (outcome resolver bypass) (left + 1) state
      (retryResolve resolver bypass (List.range' first (left + 1)) state) := by
  induction left generalizing first state with
  | zero =>
    cases answer : outcome resolver bypass state.asked with
    | some routes => exact served_success _ _ answer
    | none =>
      have ended := served_failure 0 answer cached fun _ => rfl
      rw [List.range'_succ, retryResolve_failure _ _ answer]
      cases held : state.bypassCache with
      | some routes => simpa only [held, Option.getD_some] using ended
      | none => simpa only [held, Option.getD_none, show ¬ first < bypassStartupRetries by omega, if_false] using ended
  | succ left ih =>
    cases answer : outcome resolver bypass state.asked with
    | some routes => exact served_success _ _ answer
    | none =>
      rw [List.range'_succ, retryResolve_failure _ _ answer]
      cases held : state.bypassCache with
      | some routes =>
        have ended := served_failure (left + 1) answer cached fun empty => by simp [held] at empty
        simpa only [held, Option.getD_some] using ended
      | none =>
        have same : state.bypassCache = latest (outcome resolver bypass) (state.asked + 1) := by
          rw [latest, answer, Option.none_or, cached]
        have rest := @ih { state with asked := state.asked + 1 } (first + 1) (by omega) same
        simp only [held, show first < bypassStartupRetries by omega, if_true] at rest ⊢
        refine ⟨Nat.lt_of_succ_lt rest.attempted, ?_, rest.cached, rest.returned, ?_, rest.inputs, rest.bypassCfg⟩
        · exact rest.bounded.trans_eq (by simp only; omega)
        · intro none
          exact (rest.exhausted none).trans (by simp only; omega)

/-- What holds of the process between two calls. -/
structure Kept (outcomes : Nat → Option (List BypassRoute)) (inputs : StaticInputs) (bypass : BypassConfig)
    (state : RouterState) : Prop where
  cached : state.bypassCache = latest outcomes state.asked
  inputs : state.inputs = inputs
  bypassCfg : state.bypassCfg = some bypass

theorem Kept.served {inputs : StaticInputs} (kept : Kept (outcome resolver bypass) inputs bypass state) :
    Served (outcome resolver bypass) 5 state (currentBypassRoutes resolver state) := by
  rw [currentBypassRoutes, kept.bypassCfg]
  exact retryResolve_served 4 1 rfl kept.cached

theorem refreshed_kept (resolver : Resolver) (inputs : StaticInputs) (bypass : BypassConfig) (calls : Nat) :
    Kept (outcome resolver bypass) inputs bypass (refreshed resolver inputs bypass calls).state := by
  induction calls with
  | zero => exact ⟨rfl, rfl, rfl⟩
  | succ calls ih =>
    have served := ih.served
    exact ⟨served.cached, served.inputs.trans ih.inputs, served.bypassCfg.trans ih.bypassCfg⟩

/-- What is rendered after a call are the routes the call returns. -/
theorem refreshed_rendered (resolver : Resolver) (inputs : StaticInputs) (bypass : BypassConfig) (calls : Nat) :
    (refreshed resolver inputs bypass (calls + 1)).rendered = some (inputs.context
      ((latest (outcome resolver bypass) (refreshed resolver inputs bypass (calls + 1)).state.asked).getD [])) := by
  have kept := refreshed_kept resolver inputs bypass calls
  have served := kept.served
  have same := served.inputs.trans kept.inputs
  change ((currentBypassRoutes resolver _).1.map (currentBypassRoutes resolver _).2.inputs.context).or _ = _
  rw [served.returned, same]
  rfl

theorem refreshed_later (resolver : Resolver) (inputs : StaticInputs) (bypass : BypassConfig) {earlier calls : Nat}
    (later : earlier ≤ calls) :
    (refreshed resolver inputs bypass earlier).state.asked ≤ (refreshed resolver inputs bypass calls).state.asked := by
  induction calls, later using Nat.le_induction with
  | base => exact Nat.le_refl _
  | succ calls later ih => exact ih.trans (refreshed_kept resolver inputs bypass calls).served.attempted.le

/-- A call of `current_bypass_routes` after any number of others. -/
structure Serves (resolver : Resolver) (inputs : StaticInputs) (bypass : BypassConfig) (calls : Nat)
    (before after : Process) (returned : Option (List BypassRoute)) : Prop where
  attempts : before.state.asked + 1 ≤ after.state.asked ∧ after.state.asked ≤ before.state.asked + 5
  succeeded : ∀ routes, latest (outcome resolver bypass) after.state.asked = some routes → returned = some routes
  failed : latest (outcome resolver bypass) after.state.asked = none →
    returned = some [] ∧ after.state.asked = before.state.asked + 5
  cached : ∀ earlier ≤ calls, latest (outcome resolver bypass) (refreshed resolver inputs bypass earlier).state.asked ≠ none →
    before.state.bypassCache ≠ none
  unchanged : 0 < calls → (∀ number, before.state.asked ≤ number → number < after.state.asked →
    outcome resolver bypass number = none) → after.rendered = before.rendered

theorem currentBypassRoutes_serves (resolver : Resolver) (inputs : StaticInputs) (bypass : BypassConfig) (calls : Nat) :
    Serves resolver inputs bypass calls (refreshed resolver inputs bypass calls)
      (refreshed resolver inputs bypass (calls + 1))
      (currentBypassRoutes resolver (refreshed resolver inputs bypass calls).state).1 := by
  have kept := refreshed_kept resolver inputs bypass calls
  have served := kept.served
  refine ⟨⟨served.attempted, served.bounded⟩, ?_, ?_, ?_, ?_⟩
  · intro routes last
    rw [served.returned]
    exact congrArg (fun last => some (Option.getD last [])) last
  · intro none
    refine ⟨?_, served.exhausted none⟩
    rw [served.returned]
    exact congrArg (fun last => some (Option.getD last [])) none
  · intro earlier before succeeded
    rw [kept.cached]
    exact latest_isSome (refreshed_later resolver inputs bypass before) succeeded
  · intro positive fails
    obtain ⟨previous, rfl⟩ := Nat.exists_eq_succ_of_ne_zero positive.ne'
    have same := latest_eq_of_failed served.attempted.le fails
    rw [refreshed_rendered, refreshed_rendered]
    exact congrArg (fun last => some (inputs.context (Option.getD last []))) same

end Slipmesh.Router
