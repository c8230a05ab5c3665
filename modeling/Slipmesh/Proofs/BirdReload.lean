import Slipmesh.Library.Runs
import Slipmesh.Router.Bird

/-! What BIRD has loaded once `reconcile` returns, over runs of refreshes and nudges. -/

namespace Slipmesh.Router
open Library

@[simp] theorem reply_isError (reply : Reply) : reply.isError = true ↔ 8000 ≤ reply.code := by simp [Reply.isError]

theorem runBirdcConfigure_cases (socket : Socket) (bird : Bird) :
    (runBirdcConfigure socket bird = (.ok (), { bird with loaded := bird.conf })) ∨
      ∃ reason, runBirdcConfigure socket bird = (.error reason, bird) := by
  unfold runBirdcConfigure
  cases ask socket "configure" with
  | error reason => exact .inr ⟨reason, rfl⟩
  | ok text => exact .inl rfl

theorem runBirdcConfigure_snd (socket : Socket) (bird : Bird) :
    (runBirdcConfigure socket bird).2 = if (ask socket "configure").isOk then { bird with loaded := bird.conf } else bird := by
  unfold runBirdcConfigure
  cases ask socket "configure" with
  | error reason => rfl
  | ok text => rfl

/-- What one `reconcile` can do: skip, fail to write, or write and have the file
loaded or refused. -/
theorem reconcile_cases (desired : String) (written : Written) (socket : Socket) (bird : Bird) :
    (bird.conf.getD "" = desired ∧ reconcile desired written socket bird = (.ok (), bird)) ∨
    (bird.conf.getD "" ≠ desired ∧ ∃ left, written = .failed left ∧
      reconcile desired written socket bird = (.error .write, { bird with conf := left })) ∨
    (bird.conf.getD "" ≠ desired ∧ written = .done ∧
      (reconcile desired written socket bird = (.ok (), ⟨some desired, some desired⟩) ∨
        ∃ reason, reconcile desired written socket bird = (.error reason, { bird with conf := some desired }))) := by
  by_cases same : bird.conf.getD "" = desired
  · exact .inl ⟨same, if_pos same⟩
  · apply Or.inr
    cases written with
    | failed left => exact .inl ⟨same, left, rfl, if_neg same⟩
    | done =>
      refine .inr ⟨same, rfl, ?_⟩
      have tried : reconcile desired .done socket bird = runBirdcConfigure socket { bird with conf := some desired } :=
        if_neg same
      obtain loaded | ⟨reason, refused⟩ := runBirdcConfigure_cases socket { bird with conf := some desired }
      · exact .inl (tried.trans loaded)
      · exact .inr ⟨reason, tried.trans refused⟩

theorem birdHealthWatchdog_cases (ospfInterfaces : List String) (socket : Socket) (bird : Bird) :
    birdHealthWatchdog ospfInterfaces socket bird = bird ∨
      birdHealthWatchdog ospfInterfaces socket bird = { bird with loaded := bird.conf } := by
  unfold birdHealthWatchdog
  split
  · obtain nudged | ⟨reason, refused⟩ := runBirdcConfigure_cases socket bird
    · exact .inr (congrArg Prod.snd nudged)
    · exact .inl (congrArg Prod.snd refused)
  · exact .inl rfl
  · exact .inl rfl

theorem birdHealthWatchdog_conf (ospfInterfaces : List String) (socket : Socket) (bird : Bird) :
    (birdHealthWatchdog ospfInterfaces socket bird).conf = bird.conf := by
  obtain same | nudged := birdHealthWatchdog_cases ospfInterfaces socket bird
  · rw [same]
  · rw [nudged]

/-! ### What a run has BIRD load -/

/-- What a call leaves in the file. -/
def Call.leaves (conf : Option String) : Call → Option String
  | .reconcile desired .done _ => if conf.getD "" = desired then conf else some desired
  | .reconcile desired (.failed left) _ => if conf.getD "" = desired then conf else left
  | .watchdog _ => conf

/-- The call comes to a `configure`, and BIRD accepts it. -/
def Call.accepted (ospfInterfaces : List String) (conf : Option String) : Call → Bool
  | .reconcile desired written socket => conf.getD "" ≠ desired && written = .done && (ask socket "configure").isOk
  | .watchdog socket =>
    (protocolsHealthy socket (exactIfaceNames ospfInterfaces)).toOption = some false && (ask socket "configure").isOk

/-- The text that the file held at the last `configure` that BIRD accepted, or what BIRD
started on where it has accepted none. -/
def lastAccepted (ospfInterfaces : List String) (start : Bird) (calls : List Call) : Option String :=
  let accepted := (moves Call.leaves start.conf calls).filter fun move => move.2.accepted ospfInterfaces move.1
  accepted.getLast?.elim start.loaded fun move => move.2.leaves move.1

theorem serve_conf (ospfInterfaces : List String) (bird : Bird) (call : Call) :
    (serve ospfInterfaces bird call).conf = call.leaves bird.conf := by
  cases call with
  | watchdog socket => exact birdHealthWatchdog_conf ospfInterfaces socket bird
  | reconcile desired written socket =>
    obtain ⟨same, skipped⟩ | ⟨differs, left, rfl, failed⟩ | ⟨differs, rfl, loaded | ⟨reason, refused⟩⟩ :=
      reconcile_cases desired written socket bird
    · cases written with
      | done => simp only [serve, skipped, Call.leaves, same, if_true]
      | failed left => simp only [serve, skipped, Call.leaves, same, if_true]
    · simp only [serve, failed, Call.leaves, differs, if_false]
    · simp only [serve, loaded, Call.leaves, differs, if_false]
    · simp only [serve, refused, Call.leaves, differs, if_false]

theorem serve_loaded (ospfInterfaces : List String) (bird : Bird) (call : Call) : (serve ospfInterfaces bird call).loaded =
    if call.accepted ospfInterfaces bird.conf then call.leaves bird.conf else bird.loaded := by
  cases call with
  | watchdog socket =>
    rw [serve, birdHealthWatchdog, forceReconfigure, runBirdcConfigure_snd]
    cases healthy : protocolsHealthy socket (exactIfaceNames ospfInterfaces) with
    | error reason => simp [Call.accepted, healthy, Except.toOption]
    | ok answer =>
      cases answer with
      | true => simp [Call.accepted, healthy, Except.toOption]
      | false =>
        simp only [Call.accepted, Call.leaves, healthy, Except.toOption, decide_true, Bool.true_and]
        split
        · rfl
        · rfl
  | reconcile desired written socket =>
    by_cases same : bird.conf.getD "" = desired
    · simp [serve, reconcile, Call.accepted, same]
    · cases written with
      | failed left => simp [serve, reconcile, Call.accepted, same]
      | done =>
        simp only [serve, reconcile, Call.accepted, Call.leaves, same, if_false, runBirdcConfigure_snd, ne_eq, not_false_eq_true,
          decide_true, Bool.true_and]
        split
        · rfl
        · rfl

/-- The file goes its way whatever BIRD makes of it. -/
theorem calls_conf (ospfInterfaces : List String) (start : Bird) (calls : List Call) :
    (calls.foldl (serve ospfInterfaces) start).conf = calls.foldl Call.leaves start.conf := by
  induction calls generalizing start with
  | nil => rfl
  | cons call rest ih => rw [List.foldl_cons, ih, serve_conf, List.foldl_cons]

theorem calls_loaded (ospfInterfaces : List String) (start : Bird) (calls : List Call) :
    (calls.foldl (serve ospfInterfaces) start).loaded = lastAccepted ospfInterfaces start calls := by
  induction calls generalizing start with
  | nil => rfl
  | cons call rest ih =>
    rw [List.foldl_cons, ih, lastAccepted, lastAccepted, serve_conf, serve_loaded, moves, List.filter_cons]
    split
    · rw [List.getLast?_cons]
      cases (List.filter _ _).getLast? with
      | none => rfl
      | some move => rfl
    · rfl

/-! ### What a `reconcile` promises -/

/-- The call returns Ok only with the wanted config loaded. -/
def Loads (bird : Bird) : Call → Prop
  | .reconcile desired written socket =>
    (reconcile desired written socket bird).1 = .ok () →
      (reconcile desired written socket bird).2.loaded = some desired
  | .watchdog _ => True

/-- A text that the call finds in the file is the one that BIRD has loaded. -/
def CaughtUp (bird : Bird) : Call → Prop
  | .reconcile desired _ _ => bird.conf.getD "" = desired → bird.loaded = some desired
  | .watchdog _ => True

theorem loads_iff (bird : Bird) (call : Call) : Loads bird call ↔ CaughtUp bird call := by
  cases call with
  | watchdog socket => exact Iff.rfl
  | reconcile desired written socket =>
    obtain ⟨same, skipped⟩ | ⟨differs, left, rfl, failed⟩ | ⟨differs, rfl, loaded | ⟨reason, refused⟩⟩ :=
      reconcile_cases desired written socket bird
    · simp only [Loads, CaughtUp, skipped, same, forall_true_left]
    · simp only [Loads, CaughtUp, failed, differs, reduceCtorEq, false_implies]
    · simp only [Loads, CaughtUp, loaded, differs, implies_true, false_implies]
    · simp only [Loads, CaughtUp, refused, differs, reduceCtorEq, false_implies]

/-- Over any run of refreshes and nudges: every `reconcile` that returns Ok has its config
loaded exactly when each that finds its text in the file comes after a `configure` for that
text, accepted and followed by no other that was. -/
theorem calls_load_iff (ospfInterfaces : List String) (start : Bird) (calls : List Call) :
    (∀ move ∈ moves (serve ospfInterfaces) start calls, Loads move.1 move.2) ↔
      ∀ before desired written socket after, calls = before ++ .reconcile desired written socket :: after →
        (before.foldl Call.leaves start.conf).getD "" = desired → lastAccepted ospfInterfaces start before = some desired := by
  simp only [loads_iff]
  constructor
  · intro caughtUp before desired written socket after split found
    have caught := caughtUp (before.foldl (serve ospfInterfaces) start, .reconcile desired written socket)
      (mem_moves_iff.mpr ⟨before, after, split, rfl⟩)
    rw [← calls_loaded]
    apply caught
    rw [calls_conf, found]
  · intro accepted move member
    obtain ⟨before, after, split, found⟩ := mem_moves_iff.mp member
    obtain ⟨bird, call⟩ := move
    obtain rfl : bird = before.foldl (serve ospfInterfaces) start := found
    cases call with
    | watchdog socket => trivial
    | reconcile desired written socket =>
      intro same
      rw [calls_conf] at same
      rw [calls_loaded]
      exact accepted before desired written socket after split same

/-- The template changes while `configure` is refused, and is asked for once more. -/
theorem calls_not_loaded : ¬ ∀ (ospfInterfaces : List String) (bird : Bird) (calls : List Call),
    bird.loaded = bird.conf → ∀ move ∈ moves (serve ospfInterfaces) bird calls, Loads move.1 move.2 := by
  intro alwaysLoads
  let refusing : Socket := fun _ => .ok ⟨8002, "syntax error"⟩
  let calls := [Call.reconcile "new" .done refusing, .reconcile "new" .done refusing]
  have loads := alwaysLoads [] ⟨some "old", some "old"⟩ calls rfl ⟨⟨some "new", some "old"⟩, _⟩
    (List.mem_cons_of_mem _ (List.mem_singleton_self _))
  have loaded : some "old" = some "new" := loads rfl
  exact absurd loaded (by decide)

end Slipmesh.Router
