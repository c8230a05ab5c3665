import Slipmesh.Library.Tasks
import Slipmesh.Proofs.RouterLock

/-! `router`'s two tasks, await by await: whenever the lock is free, what they have done is
a list of calls one after the other, with BIRD's own reads of the file between them, and BIRD
loads half of a config only where it reads one unasked that is being written. -/

namespace Slipmesh.Router.Tasks
open Library

variable {ospfInterfaces : List String} {start found : Site} {texts : Nat → List String} {task other : Task}
  {world now later : World} {events : List Event}

/-! ### The call of a refresh -/

/-- One more event, which is the refresh's call. -/
theorem Since.called {written : Written} {socket : Socket} {text : String} (held : world.held = some (task, found))
    (shut : world.half = false) (quiet : events.filterMap desired = [])
    (conf : world.bird.conf = (Call.reconcile text written socket).leaves (events.foldl Event.leaves found.bird.conf))
    (does : world.mixed = false → world.toSite =
      (events.foldl (Site.step ospfInterfaces) found).step ospfInterfaces (.call (.reconcile text written socket))) :
    Since ospfInterfaces task found [text] world := by
  refine ⟨held, shut, events ++ [.call (.reconcile text written socket)], ?_, ?_, fun apart => ?_⟩
  · rw [List.filterMap_append, quiet]
    rfl
  · rw [List.foldl_append]
    exact conf
  · rw [List.foldl_append]
    exact does apart

/-- Nothing has been written yet over a text that is not the one to write. -/
structure Differs (ospfInterfaces : List String) (found : Site) (text : String) (world : World) : Prop where
  since : Since ospfInterfaces .bypassRefreshLoop found [] world
  differs : world.bird.conf.getD "" ≠ text

theorem differs_point (text : String) : Point .bypassRefreshLoop found (Differs ospfInterfaces found text) where
  held := fun holds => holds.since.held
  steady := by
    intro world later holds reads
    refine ⟨(since_point []).steady holds.since reads, ?_⟩
    obtain ⟨late, loaded, _, _, rfl⟩ := reads
    exact holds.differs

theorem createConf_meets {text : String} (holds : Differs ospfInterfaces found text world) :
    Meets serves (ruled ospfInterfaces start texts .bypassRefreshLoop)
      (fun done => cond done (Writing ospfInterfaces found text) (Since ospfInterfaces .bypassRefreshLoop found [text]))
      (fun _ _ => False) (await .createConf) world := by
  refine meets_inside _ (differs_point text) holds (fun done => ?_) ?_
  · cases done with
    | true => exact writing_point text
    | false => exact since_point [text]
  · intro now done later holds writes
    obtain ⟨⟨held, shut, events, quiet, made⟩, differs⟩ := holds
    refine ⟨writes_sound held writes (.inl rfl), ?_⟩
    rw [made.conf] at differs
    cases done with
    | true =>
      cases writes
      refine ⟨held, ⟨events, quiet, differs, fun apart => ⟨some "", ?_⟩⟩, rfl⟩
      exact congrArg (Site.lay (some "")) (made.site apart)
    | false =>
      obtain ⟨left, rfl⟩ := writes
      have conf : left =
          (Call.reconcile text (.failed left) fun _ => .error "").leaves (events.foldl Event.leaves found.bird.conf) :=
        (if_neg differs).symm
      refine Since.called held rfl quiet conf fun apart => ?_
      rw [← @run_conf ospfInterfaces] at differs
      rw [step_failed differs, ← made.site apart]
      rfl

theorem writeText_meets {text : String} (rendered : Whole start texts (some text))
    (holds : Writing ospfInterfaces found text world) :
    Meets serves (ruled ospfInterfaces start texts .bypassRefreshLoop)
      (fun done => cond done (Laid ospfInterfaces found text) (Since ospfInterfaces .bypassRefreshLoop found [text]))
      (fun _ _ => False) (await (.writeConf text)) world := by
  refine meets_inside _ (writing_point text) holds (fun done => ?_) ?_
  · cases done with
    | true => exact laid_point text
    | false => exact since_point [text]
  · intro now done later holds writes
    obtain ⟨held, ⟨events, quiet, differs, made⟩, half⟩ := holds
    refine ⟨writes_sound held writes (.inr rendered), ?_⟩
    cases done with
    | true =>
      cases writes
      refine ⟨held, rfl, rfl, events, quiet, differs, fun apart => ⟨0, Nat.zero_le _, ?_⟩⟩
      obtain ⟨conf, same⟩ := made apart
      exact (congrArg (Site.lay (some text)) same).trans rfl
    | false =>
      obtain ⟨left, rfl⟩ := writes
      have conf : left =
          (Call.reconcile text (.failed left) fun _ => .error "").leaves (events.foldl Event.leaves found.bird.conf) :=
        (if_neg differs).symm
      refine Since.called held rfl quiet conf fun apart => ?_
      rw [← @run_conf ospfInterfaces] at differs
      obtain ⟨before, same⟩ := made apart
      rw [step_failed differs]
      exact (congrArg (Site.lay left) same).trans rfl

theorem writeConf_meets {text : String} (rendered : Whole start texts (some text))
    (holds : Differs ospfInterfaces found text world) :
    Meets serves (ruled ospfInterfaces start texts .bypassRefreshLoop) (fun _ => Laid ospfInterfaces found text)
      (fun _ => Since ospfInterfaces .bypassRefreshLoop found [text]) (writeConf text) world := by
  apply meets_bind
  refine (createConf_meets holds).mono ?_ fun _ _ => False.elim
  intro created now given
  cases created with
  | false => exact meets_fails (since_point [text]) given
  | true =>
    apply meets_bind
    refine (writeText_meets rendered given).mono ?_ fun _ _ => False.elim
    intro written later given
    cases written with
    | false => exact meets_fails (since_point [text]) given
    | true => exact meets_ends (laid_point text) given

/-- What BIRD reads between the write and the `configure` it may as well read after both. -/
theorem Laid.configured {text : String} (laid : Laid ospfInterfaces found text world) (answer : Except String Reply) :
    Since ospfInterfaces .bypassRefreshLoop found [text] { world with toSite := world.toSite.configured answer } := by
  obtain ⟨held, shut, conf, events, quiet, differs, made⟩ := laid
  let call : Event := .call (.reconcile text .done fun _ => answer)
  have leaves : (events ++ [call]).foldl Event.leaves found.bird.conf = some text := by
    rw [List.foldl_append]
    exact if_neg differs
  have calls : (events ++ [call]).filterMap desired = [text] := by
    rw [List.filterMap_append, quiet]
    rfl
  rw [← @run_conf ospfInterfaces] at differs
  by_cases apart : world.mixed = false
  · obtain ⟨count, enough, here⟩ := made apart
    have pending : count ≤ ((events.foldl (Site.step ospfInterfaces) found).lay (some text)).late := enough
    refine ⟨held, shut, events ++ [call] ++ reading count, ?_, ?_, fun _ => ?_⟩
    · rw [List.filterMap_append, calls, reading_desired, List.append_nil]
    · rw [List.foldl_append, leaves, reading_leaves]
      exact (configured_conf ..).trans conf
    · rw [List.foldl_append, List.foldl_append, List.foldl_cons, List.foldl_nil, step_reconcile differs]
      dsimp only
      rw [here, configured_reading answer pending]
  · refine ⟨held, shut, events ++ [call], calls, ?_, fun untouched => absurd untouched apart⟩
    rw [leaves]
    exact (configured_conf ..).trans conf

/-- What a refresh does under the lock is one `reconcile`, however its write and BIRD's
answer turn out. -/
theorem reconcileConf_meets {text : String} (rendered : Whole start texts (some text))
    (since : Since ospfInterfaces .bypassRefreshLoop found [] world) :
    Meets serves (ruled ospfInterfaces start texts .bypassRefreshLoop)
      (fun _ => Since ospfInterfaces .bypassRefreshLoop found [text])
      (fun _ => Since ospfInterfaces .bypassRefreshLoop found [text]) (reconcileConf text) world := by
  apply meets_bind
  have point (current : Option String) : Point .bypassRefreshLoop found fun world =>
      Since ospfInterfaces .bypassRefreshLoop found [] world ∧ world.bird.conf = current := by
    refine ⟨fun holds => holds.1.held, ?_⟩
    intro world later holds reads
    refine ⟨(since_point []).steady holds.1 reads, ?_⟩
    obtain ⟨late, loaded, _, _, rfl⟩ := reads
    exact holds.2
  refine (meets_inside _ (since_point []) since point ?_).mono ?_ fun _ _ => False.elim
  · intro now value later since served
    obtain ⟨read, rfl⟩ := served
    exact ⟨⟨rfl, id⟩, since, read.symm⟩
  · intro current now given
    obtain ⟨since, rfl⟩ := given
    by_cases same : now.bird.conf.getD "" = text
    · rw [if_pos same]
      refine meets_ends (since_point [text]) ?_
      obtain ⟨held, shut, events, quiet, made⟩ := since
      have skipped (site : Site) (conf : site.bird.conf = now.bird.conf) :
          site.step ospfInterfaces (.call (.reconcile text .done fun _ => .error "")) = site := by
        simp [Site.step, serve, lost, Router.reconcile, conf, same]
      have conf : now.bird.conf =
          (Call.reconcile text .done fun _ => .error "").leaves (events.foldl Event.leaves found.bird.conf) := by
        rw [← made.conf]
        exact (if_pos same).symm
      refine Since.called held shut quiet conf fun apart => ?_
      rw [← made.site apart, skipped _ rfl]
    · rw [if_neg same]
      apply meets_bind
      refine (writeConf_meets rendered ⟨since, same⟩).mono ?_ fun _ _ since => since
      intro _ later laid
      exact runBirdcConfigure_meets (laid_point text) laid (since_point [text]) Laid.shut fun answer laid => laid.configured answer

/-! ### The lock -/

theorem Reached.lapsed {n : Nat} (reached : Reached ospfInterfaces start texts n world) (lapsed : Lapsed world later) :
    Reached ospfInterfaces start texts n later := by
  rcases lapsed with rfl | reads
  · exact reached
  · exact reached.reads reads

theorem lock_meets (sound : Sound start texts world) : Meets serves (ruled ospfInterfaces start texts task)
    (fun _ now => (∃ found, Since ospfInterfaces task found [] now) ∧
      (task = .bypassRefreshLoop → ∀ n, Reached ospfInterfaces start texts n world → Reached ospfInterfaces start texts n now))
    (fun _ _ => False) (await (.lock task)) world := by
  intro now moves _ after served
  obtain ⟨free, rfl⟩ := served
  let taken : World := { now with held := some (task, now.toSite) }
  have shut : now.half = false := (moves.2.1 sound).shut free
  have settled : taken.settled = now.settled := by
    rw [World.settled, World.settled, free]
    rfl
  have keeps (n : Nat) (reached : Reached ospfInterfaces start texts n now) : Reached ospfInterfaces start texts n taken := by
    obtain ⟨_, events, rendered, made⟩ := reached
    exact ⟨fun none => (Option.some_ne_none _ none).elim, events, rendered, settled ▸ made⟩
  have since : Since ospfInterfaces task now.toSite [] taken := ⟨rfl, shut, [], rfl, rfl, fun _ => rfl⟩
  refine ⟨⟨.inr ⟨.inl free, .inr ⟨now.toSite, rfl⟩⟩, ?_, id, fun _ => keeps, ?_⟩, fun later more => ⟨⟨now.toSite, ?_⟩, ?_⟩⟩
  · exact fun sound => ⟨fun none => (Option.some_ne_none _ none).elim, sound.whole⟩
  · intro given
    obtain ⟨n, reached⟩ := given
    exact ⟨n, keeps n reached⟩
  · exact (since_point []).moved since more
  · exact fun own n reached => more.2.2.2 own n (keeps n (moves.2.2.2 own n reached))

/-- What was done since the lock was taken is done where it is free again. -/
theorem Since.unlocked {n m : Nat} {said : List String} (since : Since ospfInterfaces task found said world)
    (reached : Reached ospfInterfaces start texts n world) (more : texts m = texts n ++ said) :
    Reached ospfInterfaces start texts m { world with held := none } := by
  obtain ⟨held, shut, events, calls, does⟩ := since
  obtain ⟨_, before, rendered, made⟩ := reached
  rw [World.settled, held] at made
  exact ⟨fun _ => shut, before ++ events, by rw [List.filterMap_append, rendered, calls, more], made.trans does⟩

theorem unlock_meets {said : List String} (since : Since ospfInterfaces task found said world)
    (quiet : task = .birdHealthWatchdog → said = [])
    (next : task = .bypassRefreshLoop → ∃ n m, Reached ospfInterfaces start texts n world ∧ texts m = texts n ++ said) :
    Meets serves (ruled ospfInterfaces start texts task)
      (fun _ later => task = .bypassRefreshLoop → ∀ n m, Reached ospfInterfaces start texts n world →
        texts m = texts n ++ said → Reached ospfInterfaces start texts m later) (fun _ _ => False) (await .unlock) world := by
  intro now moves _ after served
  have lapsed := moves.1 (.inl ⟨found, since.held⟩)
  have since' := (since_point said).lapsed since lapsed
  cases served
  have nudges (own : task = .birdHealthWatchdog) (n : Nat) (reached : Reached ospfInterfaces start texts n now) :
      Reached ospfInterfaces start texts n { now with held := none } :=
    since'.unlocked reached (by rw [quiet own, List.append_nil])
  refine ⟨⟨.inr ⟨.inr ⟨found, since'.held⟩, .inl rfl⟩, ?_, id, nudges, ?_⟩, ?_⟩
  · exact fun sound => ⟨fun _ => since'.shut, sound.whole⟩
  · intro given
    obtain ⟨n, reached⟩ := given
    cases task with
    | bypassRefreshLoop =>
      obtain ⟨n, m, reached, more⟩ := next rfl
      exact ⟨m, since'.unlocked (reached.lapsed lapsed) more⟩
    | birdHealthWatchdog => exact ⟨n, nudges rfl n reached⟩
  · exact fun later more own n m reached texts => more.2.2.2 own m (since'.unlocked (reached.lapsed lapsed) texts)

theorem ruled_sound {α : Type} {post : α → World → Prop} {fails : Failure → World → Prop} {program : Code α}
    (meets : Meets serves (ruled ospfInterfaces start texts task) post fails program world) (sound : Sound start texts world) :
    Meets serves (ruled ospfInterfaces start texts task) (fun value later => post value later ∧ Sound start texts later)
      (fun error later => fails error later ∧ Sound start texts later) program world :=
  meets.frame _ (fun moves => moves.2.1) (fun does => does.2.1) sound

/-! ### The turns -/

theorem watchdogTurn_meets {consecutiveUnhealthy : Nat} (sound : Sound start texts world) :
    Meets serves (ruled ospfInterfaces start texts .birdHealthWatchdog) (fun _ => Sound start texts) (fun _ _ => False)
      (watchdogTurn ospfInterfaces consecutiveUnhealthy) world := by
  have turn : Meets serves (ruled ospfInterfaces start texts .birdHealthWatchdog) (fun _ _ => True) (fun _ _ => False)
      (watchdogTurn ospfInterfaces consecutiveUnhealthy) world := by
    apply meets_bind
    refine (lock_meets sound).mono ?_ fun _ _ => False.elim
    intro _ now given
    obtain ⟨⟨found, since⟩, _⟩ := given
    apply meets_bind
    apply meets_catch
    refine (watchdog_meets since).mono ?_ fun _ _ => False.elim
    intro count later since
    apply meets_bind
    refine (unlock_meets since (fun _ => rfl) nofun).mono ?_ fun _ _ => False.elim
    exact fun _ last _ => fun _ _ => trivial
  exact (ruled_sound turn sound).mono (fun _ _ ends => ends.2) fun _ _ fails => fails.1

/-- The refresh's own state after a number of turns. -/
def stateAfter (resolver : Resolver) (first : RouterState) : Nat → RouterState
  | 0 => first
  | turns + 1 => (currentBypassRoutes resolver (stateAfter resolver first turns)).2

/-- What the turn that starts from the state renders, if the template lets it. -/
def renderedBy (resolver : Resolver) (template : Template) (state : RouterState) : Option String :=
  match currentBypassRoutes resolver state with
  | (some routes, after) => (template (after.inputs.context routes)).toOption
  | (none, _) => none

/-- The texts of so many turns, in their order. -/
def rendered (resolver : Resolver) (template : Template) (first : RouterState) : Nat → List String
  | 0 => []
  | turns + 1 => rendered resolver template first turns ++ (renderedBy resolver template (stateAfter resolver first turns)).toList

variable {resolver : Resolver} {template : Template} {first state : RouterState} {turns : Nat}

/-- A turn that does not get as far as a text counts all the same. -/
theorem reached_bare (reached : Reached ospfInterfaces start (rendered resolver template first) turns world)
    (nothing : renderedBy resolver template (stateAfter resolver first turns) = none) :
    Reached ospfInterfaces start (rendered resolver template first) (turns + 1) world := by
  obtain ⟨shut, events, texts, made⟩ := reached
  refine ⟨shut, events, ?_, made⟩
  rw [rendered, nothing, texts]
  simp

/-- The lock is free again where what the turn renders, if anything, is done with. -/
theorem release_meets {said : List String} (since : Since ospfInterfaces .bypassRefreshLoop found said world)
    (reached : Reached ospfInterfaces start (rendered resolver template first) turns world)
    (texts : said = (renderedBy resolver template (stateAfter resolver first turns)).toList) :
    Meets serves (ruled ospfInterfaces start (rendered resolver template first) .bypassRefreshLoop)
      (fun _ => Reached ospfInterfaces start (rendered resolver template first) (turns + 1)) (fun _ _ => False)
      (await .unlock) world := by
  have more : rendered resolver template first (turns + 1) = rendered resolver template first turns ++ said := by
    rw [rendered, texts]
  exact (unlock_meets since nofun fun _ => ⟨turns, turns + 1, reached, more⟩).mono (fun _ _ ends => ends rfl _ _ reached more)
    fun _ _ => id

theorem reconcile_meets {routes : List BypassRoute} {after : RouterState}
    (resolved : currentBypassRoutes resolver (stateAfter resolver first turns) = (some routes, after))
    (sound : Sound start (rendered resolver template first) world)
    (reached : Reached ospfInterfaces start (rendered resolver template first) turns world) :
    Meets serves (ruled ospfInterfaces start (rendered resolver template first) .bypassRefreshLoop)
      (fun _ => Reached ospfInterfaces start (rendered resolver template first) (turns + 1))
      (fun _ => Reached ospfInterfaces start (rendered resolver template first) (turns + 1))
      (reconcile template after.inputs routes) world := by
  have stable {now later : World}
      (moves : (ruled ospfInterfaces start (rendered resolver template first) .bypassRefreshLoop).rely now later)
      (holds : Reached ospfInterfaces start (rendered resolver template first) (turns + 1) now) :
      Reached ospfInterfaces start (rendered resolver template first) (turns + 1) later := moves.2.2.2 rfl _ holds
  have text : renderedBy resolver template (stateAfter resolver first turns) =
      (template (after.inputs.context routes)).toOption := by
    simp only [renderedBy, resolved]
  apply meets_bind
  refine (lock_meets sound).mono ?_ fun _ _ => False.elim
  intro _ now given
  obtain ⟨⟨found, since⟩, keeps⟩ := given
  have reached := keeps rfl turns reached
  apply meets_bind
  apply meets_catch
  cases made : template (after.inputs.context routes) with
  | error reason =>
    rw [made] at text
    intro later moves
    have since := (since_point []).moved since moves
    apply meets_bind
    refine (release_meets since (moves.2.2.2 rfl turns reached) ?_).mono ?_ fun _ _ => False.elim
    · rw [text]
      rfl
    · exact fun _ last holds => meets_throw fun _ moves => stable moves holds
  | ok desired =>
    rw [made] at text
    have whole : Whole start (rendered resolver template first) (some desired) := by
      refine .inr (.inr ⟨turns + 1, desired, ?_, rfl⟩)
      rw [rendered, text]
      exact List.mem_append_right _ (List.mem_singleton_self _)
    have release (later : World)
        (given : Since ospfInterfaces .bypassRefreshLoop found [desired] later ∧ (now.mixed = true → later.mixed = true)) :
        Meets serves (ruled ospfInterfaces start (rendered resolver template first) .bypassRefreshLoop)
          (fun _ => Reached ospfInterfaces start (rendered resolver template first) (turns + 1)) (fun _ _ => False)
          (await .unlock) later := by
      obtain ⟨since', more⟩ := given
      refine release_meets since' (reached.inside since.held since'.held more) ?_
      rw [text]
      rfl
    refine ((reconcileConf_meets whole since).frame (fun later => now.mixed = true → later.mixed = true) ?_ ?_ id).mono ?_ ?_
    · exact fun moves before => moves.2.2.1 ∘ before
    · exact fun does before => does.2.2.1 ∘ before
    · intro _ later given
      apply meets_bind
      exact (release later given).mono (fun _ last holds => meets_pure fun _ moves => stable moves holds) fun _ _ => False.elim
    · intro _ later given
      apply meets_bind
      exact (release later given).mono (fun _ last holds => meets_throw fun _ moves => stable moves holds) fun _ _ => False.elim

theorem refreshTurn_meets (sound : Sound start (rendered resolver template first) world)
    (reached : Reached ospfInterfaces start (rendered resolver template first) turns world) :
    Meets serves (ruled ospfInterfaces start (rendered resolver template first) .bypassRefreshLoop)
      (fun after later => after = stateAfter resolver first (turns + 1) ∧
        Reached ospfInterfaces start (rendered resolver template first) (turns + 1) later)
      (fun _ _ => False) (refreshTurn resolver template (stateAfter resolver first turns)) world := by
  unfold refreshTurn
  have next : stateAfter resolver first (turns + 1) = (currentBypassRoutes resolver (stateAfter resolver first turns)).2 := rfl
  cases resolved : currentBypassRoutes resolver (stateAfter resolver first turns) with
  | mk routes after =>
  rw [resolved] at next
  cases routes with
  | none =>
    intro later moves
    refine ⟨next.symm, reached_bare (moves.2.2.2 rfl turns reached) ?_⟩
    simp only [renderedBy, resolved]
  | some routes =>
    have ends (now : World) (holds : Reached ospfInterfaces start (rendered resolver template first) (turns + 1) now) :
        Meets serves (ruled ospfInterfaces start (rendered resolver template first) .bypassRefreshLoop)
          (fun after later => after = stateAfter resolver first (turns + 1) ∧
            Reached ospfInterfaces start (rendered resolver template first) (turns + 1) later)
          (fun _ _ => False) (pure after : Code RouterState) now :=
      meets_pure fun later moves => ⟨next.symm, moves.2.2.2 rfl _ holds⟩
    apply meets_bind
    apply meets_catch
    refine (reconcile_meets resolved sound reached).mono (fun _ => ends) ?_
    intro _ now holds
    exact meets_pure fun later moves => ends later (moves.2.2.2 rfl _ holds)

/-! ### Whole runs -/

/-- What each of them starts out with, and the state that they share. -/
def Task.starts (first : RouterState) : (task : Task) → task.State
  | .bypassRefreshLoop => first
  | .birdHealthWatchdog => 0

def World.initial (start : Site) : World := ⟨start, none, false, false, false⟩

/-- How far the two tasks may have come. Nobody else touches the file, BIRD or the lock. -/
abbrev Together (resolver : Resolver) (template : Template) (ospfInterfaces : List String) (first : RouterState) (start : Site) :=
  Runs serves World.reads (Task.turn resolver template ospfInterfaces) (Task.starts first) (World.initial start)

section
variable (resolver : Resolver) (template : Template) (ospfInterfaces : List String) (first : RouterState) (start : Site)

def carries : (task : Task) → task.State → World → Prop
  | .bypassRefreshLoop => fun state world => Sound start (rendered resolver template first) world ∧
      ∃ turns, state = stateAfter resolver first turns ∧ Reached ospfInterfaces start (rendered resolver template first) turns world
  | .birdHealthWatchdog => fun _ world => Sound start (rendered resolver template first) world

theorem carries_first (task : Task) :
    carries resolver template ospfInterfaces first start task (Task.starts first task) (World.initial start) := by
  have sound : Sound start (rendered resolver template first) (World.initial start) :=
    ⟨fun _ => rfl, fun _ _ => ⟨.inr (.inl rfl), fun _ => .inl rfl⟩⟩
  cases task with
  | bypassRefreshLoop => exact ⟨sound, 0, rfl, fun _ => rfl, [], rfl, rfl, fun _ => rfl⟩
  | birdHealthWatchdog => exact sound

theorem turn_meets (task : Task) (state : task.State) (now : World)
    (ready : carries resolver template ospfInterfaces first start task state now) :
    Meets serves (ruled ospfInterfaces start (rendered resolver template first) task)
      (carries resolver template ospfInterfaces first start task) (fun _ _ => False)
      (Task.turn resolver template ospfInterfaces task state) now := by
  cases task with
  | bypassRefreshLoop =>
    obtain ⟨sound, turns, rfl, reached⟩ := ready
    refine (ruled_sound (refreshTurn_meets sound reached) sound).mono ?_ fun _ _ fails => fails.1
    intro after later given
    obtain ⟨⟨rfl, reached⟩, sound⟩ := given
    exact ⟨sound, turns + 1, rfl, reached⟩
  | birdHealthWatchdog => exact watchdogTurn_meets ready

theorem reads_outside (task : Task) {before after : World} (reads : before.reads after) :
    (ruled ospfInterfaces start (rendered resolver template first) task).rely before after := by
  refine ⟨fun _ => .inr reads, fun sound => sound.reads reads, fun mixed => ?_, fun _ n reached => reached.reads reads⟩
  obtain ⟨late, loaded, _, _, rfl⟩ := reads
  simp [mixed]

end

variable {rest : (task : Task) → Code task.State} {now : World}

/-- Unless a write of the file has failed, and unless BIRD has read it unasked while it was
being written, BIRD has never loaded anything but what it had at the start or a whole
rendering of one of the refreshes. -/
theorem loads_whole (runs : Together resolver template ospfInterfaces first start rest now) (untorn : now.torn = false)
    (apart : now.mixed = false) :
    now.bird.loaded = start.bird.loaded ∨ now.bird.loaded = start.bird.conf ∨
      ∃ turns, ∃ text ∈ rendered resolver template first turns, now.bird.loaded = some text := by
  have kept := runs.always (fun before after =>
      Sound start (rendered resolver template first) before → Sound start (rendered resolver template first) after)
    (carries_first resolver template ospfInterfaces first start) (turn_meets resolver template ospfInterfaces first start)
    (reads_outside resolver template ospfInterfaces first start) ruled_apart (fun _ => id) (fun one two => two ∘ one)
    (fun reads sound => sound.reads reads) fun _ _ _ does => does.2.1
  have sound := kept ⟨fun _ => rfl, fun _ _ => ⟨.inr (.inl rfl), fun _ => .inl rfl⟩⟩
  rcases (sound.whole untorn apart).1 with conf | loaded | text
  · exact .inr (.inl conf)
  · exact .inl loaded
  · exact .inr (.inr text)

/-! ### Neither task is ever stuck -/

/-- Whether the task holds the lock says what it may ask for. -/
def protocol (task : Task) : Request → Bool → Option Bool
  | .lock asking, holding => if asking = task ∧ holding = false then some true else none
  | .unlock, holding => if holding = true then some false else none
  | _, holding => if holding = true then some true else none

def World.holder (task : Task) (world : World) : Bool := world.held.any (·.1 = task)

theorem holder_held (held : world.held = some (task, found)) : world.holder other = decide (task = other) := by
  simp [World.holder, held]

theorem ask_follows {command : String} : Follows (protocol task) true true true (ask command) := by
  refine ⟨true, rfl, fun answer => ?_⟩
  cases answer with
  | error reason => rfl
  | ok reply =>
    change Follows _ _ _ _ (if reply.isError then _ else _)
    split <;> rfl

theorem runBirdcConfigure_follows : Follows (protocol task) true true true runBirdcConfigure :=
  follows_bind ask_follows fun _ => rfl

theorem protocolsHealthy_follows {exactIfaces : List String} :
    Follows (protocol task) true true true (protocolsHealthy exactIfaces) := by
  refine follows_bind ask_follows fun protocols => ?_
  split
  · rfl
  · split
    · rfl
    · exact follows_bind ask_follows fun _ => rfl

theorem writeConf_follows {text : String} : Follows (protocol task) true true true (writeConf text) := by
  refine ⟨true, rfl, fun created => ?_⟩
  cases created with
  | false => rfl
  | true =>
    refine ⟨true, rfl, fun written => ?_⟩
    cases written <;> rfl

theorem reconcileConf_follows {text : String} : Follows (protocol task) true true true (reconcileConf text) := by
  refine ⟨true, rfl, fun current => ?_⟩
  change Follows _ _ _ _ (if current.getD "" = text then _ else _)
  split
  · rfl
  · exact follows_bind writeConf_follows fun _ => runBirdcConfigure_follows

theorem unlocks_follow {α : Type} {last : Code α} {ends breaks : Bool} (follows : Follows (protocol task) ends breaks false last) :
    Follows (protocol task) ends breaks true (do await .unlock; last) :=
  ⟨false, rfl, fun _ => follows⟩

/-- The guard is dropped on every way out. -/
theorem locked_follows {α : Type} {body : Code α} (inside : Follows (protocol task) true true true body) :
    Follows (protocol task) false false false (locked task body) := by
  refine ⟨true, if_pos ⟨rfl, rfl⟩, fun _ => ?_⟩
  change Follows (protocol task) false false true (tryCatch body _ >>= fun value => await .unlock >>= fun _ => pure value)
  apply follows_bind
  · exact follows_catch inside fun error => @unlocks_follow task α (throw error) true false rfl
  · exact fun value => unlocks_follow rfl

theorem turn_follows (task : Task) (state : task.State) :
    Follows (protocol task) false false false (Task.turn resolver template ospfInterfaces task state) := by
  cases task with
  | bypassRefreshLoop =>
    change Follows _ _ _ _ (refreshTurn resolver template state)
    unfold refreshTurn
    split
    · refine follows_bind (follows_catch (locked_follows ?_) fun _ => rfl) fun _ => rfl
      split
      · rfl
      · exact reconcileConf_follows
    · rfl
  | birdHealthWatchdog =>
    refine locked_follows (follows_catch (follows_bind protocolsHealthy_follows fun healthy => ?_) fun _ => rfl)
    cases healthy with
    | true => rfl
    | false => exact follows_bind (follows_catch runBirdcConfigure_follows fun _ => rfl) fun _ => rfl

/-- What is asked for under the lock, neither to take it nor to leave it. -/
def guarded : Request → Bool
  | .lock _ | .unlock => false
  | _ => true

theorem writes_held {conf : Option String} {half done : Bool} (writes : world.writes conf half done later) :
    later.held = world.held := by
  unfold World.writes at writes
  split at writes
  · rw [writes]
  · obtain ⟨left, rfl⟩ := writes
    rfl

theorem serves_held {request : Request} {value : request.Answer} (inside : guarded request = true)
    (served : serves request world value later) : later.held = world.held := by
  cases request with
  | lock asking => cases inside
  | unlock => cases inside
  | readConf => rw [served.2]
  | createConf => exact writes_held served
  | writeConf text => exact writes_held served
  | birdc command =>
    rw [serves] at served
    rw [served]
    split <;> rfl

theorem protocol_guarded {request : Request} {before after : Bool} (inside : guarded request = true)
    (allowed : protocol task request before = some after) : before = true ∧ after = true := by
  cases request with
  | lock asking => cases inside
  | unlock => cases inside
  | _ =>
    simp only [protocol, Option.ite_none_right_eq_some, Option.some.injEq] at allowed
    exact ⟨allowed.1, allowed.2.symm⟩

theorem protocol_lock {asking : Task} {before after : Bool} (allowed : protocol task (.lock asking) before = some after) :
    asking = task ∧ before = false ∧ after = true := by
  simp only [protocol, Option.ite_none_right_eq_some, Option.some.injEq] at allowed
  exact ⟨allowed.1.1, allowed.1.2, allowed.2.symm⟩

theorem protocol_unlock {before after : Bool} (allowed : protocol task .unlock before = some after) :
    before = true ∧ after = false := by
  simp only [protocol, Option.ite_none_right_eq_some, Option.some.injEq] at allowed
  exact ⟨allowed.1, allowed.2.symm⟩

theorem holder_true (holds : world.holder task = true) : ∃ found, world.held = some (task, found) := by
  unfold World.holder at holds
  cases held : world.held with
  | none =>
    rw [held] at holds
    cases holds
  | some entry =>
    obtain ⟨who, found⟩ := entry
    simp only [held, Option.any_some, decide_eq_true_eq] at holds
    exact ⟨found, by rw [holds]⟩

/-- Every request of a task moves it through the protocol, and no other task. -/
theorem serves_protocol {request : Request} {value : request.Answer} {after : Bool} (served : serves request world value later)
    (allowed : protocol task request (world.holder task) = some after) :
    later.holder task = after ∧ ∀ other, other ≠ task → later.holder other = world.holder other := by
  cases inside : guarded request with
  | true =>
    obtain ⟨before, rfl⟩ := protocol_guarded inside allowed
    have same (task : Task) : later.holder task = world.holder task := by
      rw [World.holder, World.holder, serves_held inside served]
    exact ⟨(same task).trans before, fun other _ => same other⟩
  | false =>
    cases request with
    | lock asking =>
      obtain ⟨rfl, _, rfl⟩ := protocol_lock allowed
      obtain ⟨free, rfl⟩ := served
      refine ⟨by simp [World.holder], fun other different => ?_⟩
      simp [World.holder, free, different.symm]
    | unlock =>
      obtain ⟨before, rfl⟩ := protocol_unlock allowed
      obtain ⟨found, held⟩ := holder_true before
      cases served
      refine ⟨rfl, fun other different => ?_⟩
      simp [World.holder, held, different.symm]
    | _ => cases inside

theorem serves_guarded {request : Request} (free : ∀ asking, request ≠ .lock asking) (world : World) :
    ∃ value after, serves request world value after := by
  cases request with
  | lock asking => exact absurd rfl (free asking)
  | unlock => exact ⟨(), _, rfl⟩
  | readConf => exact ⟨_, _, rfl, rfl⟩
  | createConf => exact ⟨true, _, rfl⟩
  | writeConf text => exact ⟨true, _, rfl⟩
  | birdc command => exact ⟨.error "", _, rfl⟩

/-- The task has ended a turn, or makes a request that is answered. -/
def CanMove (task : Task) (rest : Code task.State) (world : World) : Prop :=
  (∃ state, rest = .done (.ok state)) ∨ ∃ request next, rest = .ask request next ∧ ∃ value after, serves request world value after

/-- At every moment of every run each task can go on, or waits for the lock that the other
holds, which can go on: neither asks for the lock while it holds it, and every way out of what
is done under it gives it back. -/
theorem tasks_never_stuck (runs : Together resolver template ospfInterfaces first start rest now) (task : Task) :
    CanMove task (rest task) now ∨ (∃ next, rest task = .ask (.lock task) next) ∧
      ∃ other found, now.held = some (other, found) ∧ other ≠ task ∧ CanMove other (rest other) now := by
  have follows : ∀ task, Follows (protocol task) false false (now.holder task) (rest task) := by
    refine runs.follows protocol false World.holder turn_follows (fun _ => rfl) ?_ ?_ ?_
    · intro task first second reads
      rw [World.holder, World.holder, Lapsed.held (.inr reads)]
    · intro task request first second value after served allowed
      exact (serves_protocol served allowed).1
    · intro task other request first second value after different served allowed
      exact (serves_protocol served allowed).2 other different
  have meets := runs.meets (carries_first resolver template ospfInterfaces first start)
    (turn_meets resolver template ospfInterfaces first start) (reads_outside resolver template ospfInterfaces first start)
    ruled_apart
  have goesOn (task : Task) : CanMove task (rest task) now ∨
      now.holder task = false ∧ now.held ≠ none ∧ ∃ next, rest task = .ask (.lock task) next := by
    have follows := follows task
    have meets := meets task
    cases program : rest task with
    | done result =>
      rw [program] at meets
      cases result with
      | ok state => exact .inl (.inl ⟨state, rfl⟩)
      | error error => exact (meets now ((ruled ospfInterfaces start _ task).still now)).elim
    | ask request next =>
      rw [program] at follows
      obtain ⟨after, allowed, _⟩ := follows
      by_cases asks : ∃ asking, request = .lock asking
      · obtain ⟨asking, rfl⟩ := asks
        obtain ⟨rfl, idle, _⟩ := protocol_lock allowed
        by_cases free : now.held = none
        · exact .inl (.inr ⟨_, next, rfl, (), _, free, rfl⟩)
        · exact .inr ⟨idle, free, next, rfl⟩
      · exact .inl (.inr ⟨request, next, rfl, serves_guarded (fun asking same => asks ⟨asking, same⟩) now⟩)
  refine (goesOn task).imp id ?_
  intro given
  obtain ⟨idle, taken, waits⟩ := given
  cases held : now.held with
  | none => exact absurd held taken
  | some entry =>
    obtain ⟨other, found⟩ := entry
    have holds : now.holder other = true := by simp [holder_held held]
    refine ⟨waits, other, found, rfl, ?_, (goesOn other).resolve_right ?_⟩
    · rintro rfl
      rw [holds] at idle
      cases idle
    · intro given
      rw [holds] at given
      cases given.1

/-! ### A refresh that BIRD does not answer, and a nudge -/

/-- The bypass routes, one a line. -/
def listed : Template := fun context => .ok (String.intercalate "\n" (context.bypass.map (·.net)))

def routed : RouterState where
  inputs := ⟨⟨0x0a3e0001, 0xfd000062000000000000000000000001⟩, 64512, [], [], [], [], [], none⟩
  bypassCfg := some { includes := [] }

def office : Resolver := fun _ _ _ => .ok [("192.0.2.0/24", "office")]

def before : Site := ⟨⟨some "none", some "none"⟩, 0⟩

/-- The file has what the refresh renders. -/
def ahead (loaded : String) (late : Nat) : Site := ⟨⟨some "192.0.2.0/24", some loaded⟩, late⟩

def unheard : Except String Reply := .error "timed out"

def deafReply : Except String Reply := .ok ⟨0, "No listening socket"⟩

/-- BIRD has loaded the file. -/
def caughtUp : World := World.initial (ahead "192.0.2.0/24" 0)

def working (task : Task) (found site : Site) (half : Bool) : World := ⟨site, some (task, found), half, false, false⟩

/-- The command stays in BIRD's socket, BIRD comes to it once the lock is free, and is nudged
after that. -/
theorem refresh_runs : ∃ rest, Together office listed [] routed before rest caughtUp := by
  let refreshing := working .bypassRefreshLoop before
  let nudging := working .birdHealthWatchdog (ahead "192.0.2.0/24" 0) (ahead "192.0.2.0/24" 0) false
  have start : Together office listed [] routed before _ (World.initial before) := .here
  have taken := start.asked .bypassRefreshLoop rfl
    (show serves (.lock .bypassRefreshLoop) (World.initial before) () (refreshing before false) from ⟨rfl, rfl⟩)
  have read := taken.asked .bypassRefreshLoop rfl
    (show serves .readConf (refreshing before false) (some "none") (refreshing before false) from ⟨rfl, rfl⟩)
  have emptied := read.asked .bypassRefreshLoop rfl
    (show serves .createConf (refreshing before false) true (refreshing (before.lay (some "")) true) from rfl)
  have laid := emptied.asked .bypassRefreshLoop rfl
    (show serves (.writeConf "192.0.2.0/24") (refreshing (before.lay (some "")) true) true (refreshing (ahead "none" 0) false)
      from rfl)
  have unanswered := laid.asked .bypassRefreshLoop rfl
    (show serves (.birdc "configure") (refreshing (ahead "none" 0) false) unheard (refreshing (ahead "none" 1) false) from rfl)
  have free := unanswered.asked .bypassRefreshLoop rfl
    (show serves .unlock (refreshing (ahead "none" 1) false) () (World.initial (ahead "none" 1)) from rfl)
  have reads : World.reads (World.initial (ahead "none" 1)) caughtUp :=
    ⟨0, some "192.0.2.0/24", Nat.zero_lt_one, fun _ => rfl, rfl⟩
  have watched := (free.moved reads).asked .birdHealthWatchdog rfl
    (show serves (.lock .birdHealthWatchdog) caughtUp () nudging from ⟨rfl, rfl⟩)
  have shown := watched.asked .birdHealthWatchdog rfl (show serves (.birdc "show protocols") nudging deafReply nudging from rfl)
  have nudged := shown.asked .birdHealthWatchdog rfl (show serves (.birdc "configure") nudging deafReply nudging from rfl)
  exact ⟨_, nudged.asked .birdHealthWatchdog rfl (show serves .unlock nudging () caughtUp from rfl)⟩

theorem loads_whole_refresh : caughtUp.bird.loaded = before.bird.loaded ∨ caughtUp.bird.loaded = before.bird.conf ∨
    ∃ turns, ∃ text ∈ rendered office listed routed turns, caughtUp.bird.loaded = some text := by
  obtain ⟨rest, runs⟩ := refresh_runs
  exact loads_whole runs rfl rfl

/-- The refresh waits while the watchdog is at work. -/
theorem tasks_never_stuck_waiting : ∃ rest : (task : Task) → Code task.State,
    CanMove .bypassRefreshLoop (rest .bypassRefreshLoop) (working .birdHealthWatchdog before before false) ∨
      (∃ next, rest .bypassRefreshLoop = .ask (.lock .bypassRefreshLoop) next) ∧ ∃ other found,
        some (Task.birdHealthWatchdog, before) = some (other, found) ∧ other ≠ .bypassRefreshLoop ∧
          CanMove other (rest other) (working .birdHealthWatchdog before before false) := by
  have start : Together office listed [] routed before _ (World.initial before) := .here
  have taken : serves (.lock .birdHealthWatchdog) (World.initial before) () (working .birdHealthWatchdog before before false) :=
    ⟨rfl, rfl⟩
  exact ⟨_, tasks_never_stuck (start.asked .birdHealthWatchdog rfl taken) .bypassRefreshLoop⟩

end Slipmesh.Router.Tasks
