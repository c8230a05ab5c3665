import Slipmesh.Router.BirdConf
import Slipmesh.Router.Resolver

/-! `router`'s bypass over the life of its process: the retries and the cache of
`current_bypass_routes`, and the refreshes that render what it returns. -/

namespace Slipmesh.Router

def bypassStartupRetries : Nat := 5

/-- How every resolution of the process ends, by its number. -/
abbrev Resolver :=
  Nat → List BypassSourceEntry → List BypassSourceEntry → Except ResolveFailure (List (String × String))

structure RouterState where
  inputs : StaticInputs
  bypassCfg : Option BypassConfig
  bypassCache : Option (List BypassRoute) := none
  /-- The resolutions made so far. -/
  asked : Nat := 0
deriving DecidableEq, Repr

/-- The loop of `current_bypass_routes` over the attempts that are left. It returns no
routes at all, not even an empty list, where it runs off its end. -/
def retryResolve (resolver : Resolver) (bypass : BypassConfig) :
    List Nat → RouterState → Option (List BypassRoute) × RouterState
  | [], state => (none, state)
  | attempt :: rest, state =>
    let now := { state with asked := state.asked + 1 }
    match resolver state.asked bypass.includes bypass.excludes with
    | .ok resolved => (some (bypassRoutes resolved), { now with bypassCache := some (bypassRoutes resolved) })
    | .error _ =>
      match now.bypassCache with
      | some routes => (some routes, now)
      | none => if attempt < bypassStartupRetries then retryResolve resolver bypass rest now else (some [], now)

def currentBypassRoutes (resolver : Resolver) (state : RouterState) : Option (List BypassRoute) × RouterState :=
  match state.bypassCfg with
  | none => (some [], state)
  | some bypass => retryResolve resolver bypass (List.range' 1 bypassStartupRetries) state

structure Process where
  state : RouterState
  /-- What the template was last rendered with. -/
  rendered : Option BirdConfigContext := none
deriving DecidableEq, Repr

/-- A turn of `bypass_refresh_loop`, and before the first what `run` does itself. -/
def refresh (resolver : Resolver) (process : Process) : Process :=
  let (routes, state) := currentBypassRoutes resolver process.state
  { state, rendered := (routes.map state.inputs.context).or process.rendered }

/-- The process after a number of refreshes. -/
def refreshed (resolver : Resolver) (inputs : StaticInputs) (bypass : BypassConfig) : Nat → Process
  | 0 => { state := { inputs, bypassCfg := some bypass } }
  | calls + 1 => refresh resolver (refreshed resolver inputs bypass calls)

end Slipmesh.Router
