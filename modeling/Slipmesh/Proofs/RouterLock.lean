import Slipmesh.Proofs.BirdReload
import Slipmesh.Router.Tasks

/-! What a task of `router` does under `render_lock`, await by await, while BIRD may read the
file at any time: it comes to the same as the events in some order, one after the other. -/

namespace Slipmesh.Router.Tasks
open Library

/-! ### One after the other -/

inductive Event where
  | call (call : Call)
  /-- BIRD reads the file unasked. -/
  | reads

def desired : Event → Option String
  | .call (.reconcile desired _ _) => some desired
  | _ => none

/-- What an event leaves in the file. -/
def Event.leaves (conf : Option String) : Event → Option String
  | .call made => made.leaves conf
  | .reads => conf

/-- The call comes to a `configure` that no answer comes to. -/
def lost (ospfInterfaces : List String) (conf : Option String) : Call → Bool
  | .reconcile desired written socket => conf.getD "" ≠ desired && written = .done && !(socket "configure").isOk
  | .watchdog socket =>
    (Router.protocolsHealthy socket (exactIfaceNames ospfInterfaces)).toOption = some false && !(socket "configure").isOk

def Site.step (ospfInterfaces : List String) (site : Site) : Event → Site
  | .call call => ⟨serve ospfInterfaces site.bird call, site.late + (lost ospfInterfaces site.bird.conf call).toNat⟩
  | .reads => if site.late = 0 then site else ⟨{ site.bird with loaded := site.bird.conf }, site.late - 1⟩

variable {ospfInterfaces : List String}

theorem step_conf (site : Site) (event : Event) :
    (site.step ospfInterfaces event).bird.conf = event.leaves site.bird.conf := by
  cases event with
  | call call => exact serve_conf ospfInterfaces site.bird call
  | reads =>
    rw [Site.step]
    split <;> rfl

/-- The file goes its way whatever BIRD makes of it. -/
theorem run_conf (site : Site) (events : List Event) :
    (events.foldl (Site.step ospfInterfaces) site).bird.conf = events.foldl Event.leaves site.bird.conf := by
  induction events generalizing site with
  | nil => rfl
  | cons event rest ih => rw [List.foldl_cons, ih, step_conf, List.foldl_cons]

/-- BIRD reads the file so many times. -/
def reading (count : Nat) : List Event := List.replicate count .reads

theorem reading_succ (count : Nat) : reading (count + 1) = .reads :: reading count := rfl

theorem reading_desired (count : Nat) : (reading count).filterMap desired = [] := by
  induction count with
  | zero => rfl
  | succ count ih => exact ih

theorem reading_leaves (count : Nat) (conf : Option String) : (reading count).foldl Event.leaves conf = conf := by
  induction count with
  | zero => rfl
  | succ count ih => exact ih

theorem step_reads {site : Site} (pending : 0 < site.late) :
    site.step ospfInterfaces .reads = ⟨{ site.bird with loaded := site.bird.conf }, site.late - 1⟩ :=
  if_neg (Nat.ne_of_gt pending)

theorem run_reading {site : Site} {count : Nat} (pending : count < site.late) :
    (reading (count + 1)).foldl (Site.step ospfInterfaces) site =
      ⟨{ site.bird with loaded := site.bird.conf }, site.late - (count + 1)⟩ := by
  induction count generalizing site with
  | zero =>
    rw [reading_succ, List.foldl_cons, step_reads pending]
    rfl
  | succ count ih =>
    rw [reading_succ, List.foldl_cons, step_reads (by omega), ih (by dsimp only; omega), Nat.sub_sub, Nat.add_comm 1]

theorem run_reading_late (site : Site) (count : Nat) :
    ((reading count).foldl (Site.step ospfInterfaces) site).late = site.late - count := by
  induction count generalizing site with
  | zero => rfl
  | succ count ih =>
    rw [reading_succ, List.foldl_cons, ih, Site.step]
    split
    · omega
    · dsimp only
      omega

theorem reading_add (first second : Nat) : reading (first + second) = reading first ++ reading second :=
  List.replicate_add ..

@[simp] theorem configured_conf (answer : Except String Reply) (site : Site) :
    (site.configured answer).bird.conf = site.bird.conf := by
  unfold Site.configured
  split
  · rfl
  · split <;> rfl

/-- What BIRD reads before it is asked comes to the same as what it reads afterwards. -/
theorem configured_reading (answer : Except String Reply) {site : Site} {count : Nat} (pending : count ≤ site.late) :
    ((reading count).foldl (Site.step ospfInterfaces) site).configured answer =
      (reading count).foldl (Site.step ospfInterfaces) (site.configured answer) := by
  induction count generalizing site with
  | zero => rfl
  | succ count ih =>
    have once : (site.step ospfInterfaces .reads).configured answer = (site.configured answer).step ospfInterfaces .reads := by
      rw [step_reads (by omega)]
      cases answer with
      | error reason =>
        rw [step_reads (Nat.succ_pos _)]
        simp only [Site.configured, Site.mk.injEq, true_and]
        omega
      | ok reply =>
        simp only [Site.configured]
        split
        · rw [step_reads (by omega)]
        · rw [step_reads (by dsimp only; omega)]
    rw [reading_succ, List.foldl_cons, List.foldl_cons, ← once]
    apply ih
    rw [step_reads (by omega)]
    dsimp only
    omega

theorem runBirdcConfigure_site (socket : Socket) (bird : Bird) (late : Nat) :
    (⟨(Router.runBirdcConfigure socket bird).2, late + (!(socket "configure").isOk).toNat⟩ : Site) =
      (⟨bird, late⟩ : Site).configured (socket "configure") := by
  cases told : socket "configure" with
  | error reason => simp [Router.runBirdcConfigure, Router.ask, Site.configured, told, Except.isOk, Except.toBool]
  | ok reply =>
    cases refused : reply.isError <;>
      simp [Router.runBirdcConfigure, Router.ask, Site.configured, told, refused, Except.isOk, Except.toBool]

/-- Another text is laid over the file. -/
def Site.lay (conf : Option String) (site : Site) : Site := { site with bird := { site.bird with conf } }

theorem step_reconcile {site : Site} {text : String} (differs : site.bird.conf.getD "" ≠ text) (socket : Socket) :
    site.step ospfInterfaces (.call (.reconcile text .done socket)) =
      (site.lay (some text)).configured (socket "configure") := by
  obtain ⟨bird, late⟩ := site
  rw [Site.lay, ← runBirdcConfigure_site]
  simp [Site.step, serve, lost, Router.reconcile, differs]

theorem step_failed {site : Site} {text : String} (differs : site.bird.conf.getD "" ≠ text) (left : Option String)
    (socket : Socket) :
    site.step ospfInterfaces (.call (.reconcile text (.failed left) socket)) = site.lay left := by
  simp [Site.step, Site.lay, serve, lost, Router.reconcile, differs]

theorem step_watchdog {site : Site} {socket : Socket}
    (unhealthy : Router.protocolsHealthy socket (exactIfaceNames ospfInterfaces) = .ok false) :
    site.step ospfInterfaces (.call (.watchdog socket)) = site.configured (socket "configure") := by
  obtain ⟨bird, late⟩ := site
  rw [← runBirdcConfigure_site]
  simp [Site.step, serve, lost, birdHealthWatchdog, forceReconfigure, unhealthy, Except.toOption]

/-! ### What each may do, and reckons with -/

/-- What was there when the lock was last free. -/
def World.settled (world : World) : Site := world.held.elim world.toSite (·.2)

def Holds (task : Task) (world : World) : Prop := ∃ found, world.held = some (task, found)

/-- Nobody else holds the lock. -/
def Open (task : Task) (world : World) : Prop := world.held = none ∨ Holds task world

/-- BIRD may have read the file unasked. -/
def Lapsed (world later : World) : Prop := later = world ∨ world.reads later

/-- The site is what the events make of what was found, but for what BIRD has loaded once it
has read half of a file. -/
structure Made (ospfInterfaces : List String) (found : Site) (events : List Event) (mixed : Bool) (site : Site) : Prop where
  conf : site.bird.conf = events.foldl Event.leaves found.bird.conf
  site : mixed = false → site = events.foldl (Site.step ospfInterfaces) found

section
variable (ospfInterfaces : List String) (start : Site) (texts : Nat → List String)

/-- When the lock was last free, it was after so many refreshes, with nudges and reads between
them. -/
structure Reached (refreshes : Nat) (world : World) : Prop where
  shut : world.held = none → world.half = false
  events : ∃ events : List Event, events.filterMap desired = texts refreshes ∧
    Made ospfInterfaces start events world.mixed world.settled

/-- A text that a refresh has rendered, or one from before them all. -/
def Whole (text : Option String) : Prop :=
  text = start.bird.conf ∨ text = start.bird.loaded ∨ ∃ n, ∃ rendered ∈ texts n, text = some rendered

/-- BIRD has loaded a whole text, and has one before it but while the file is being written. -/
structure Sound (world : World) : Prop where
  shut : world.held = none → world.half = false
  whole : world.torn = false → world.mixed = false →
    Whole start texts world.bird.loaded ∧ (world.half = false → Whole start texts world.bird.conf)

end

variable {start found : Site} {texts : Nat → List String} {task other : Task} {world now later : World} {events : List Event}

theorem Made.trans {more : List Event} {middle site : Site} {mixed : Bool} (first : Made ospfInterfaces found events mixed middle)
    (second : Made ospfInterfaces middle more mixed site) : Made ospfInterfaces found (events ++ more) mixed site where
  conf := by rw [second.conf, first.conf, List.foldl_append]
  site := by
    intro apart
    rw [second.site apart, first.site apart, List.foldl_append]

theorem Made.mono {mixed more : Bool} {site : Site} (made : Made ospfInterfaces found events mixed site)
    (less : more = false → mixed = false) : Made ospfInterfaces found events more site :=
  ⟨made.conf, fun apart => made.site (less apart)⟩

theorem Lapsed.held (lapsed : Lapsed world later) : later.held = world.held := by
  rcases lapsed with rfl | ⟨late, loaded, _, _, rfl⟩ <;> rfl

theorem Lapsed.trans (one : Lapsed world now) (two : Lapsed now later) : Lapsed world later := by
  rcases one with rfl | ⟨late, loaded, fewer, read, rfl⟩
  · exact two
  · rcases two with rfl | ⟨late', loaded', fewer', read', rfl⟩
    · exact .inr ⟨late, loaded, fewer, read, rfl⟩
    · refine .inr ⟨late', loaded', Nat.lt_trans fewer' fewer, read', ?_⟩
      simp only [Bool.or_assoc, Bool.or_self]

theorem reads_mixed (reads : world.reads later) (apart : later.mixed = false) : world.mixed = false ∧ world.half = false := by
  obtain ⟨late, loaded, _, _, rfl⟩ := reads
  exact Bool.or_eq_false_iff.mp apart

/-- Of a file that is not being written BIRD reads what the file says. -/
theorem reads_made (reads : world.reads later) (shut : world.half = false) :
    ∃ count ≤ world.late, Made ospfInterfaces world.toSite (reading count) later.mixed later.toSite := by
  obtain ⟨late, loaded, fewer, read, rfl⟩ := reads
  refine ⟨world.late - late - 1 + 1, by omega, ?_, fun _ => ?_⟩
  · rw [reading_leaves]
  · rw [run_reading (by omega), read shut]
    have rest : world.late - (world.late - late - 1 + 1) = late := by omega
    rw [rest]

/-- What is done under the lock is not seen before it is free. -/
theorem Reached.inside {n : Nat} (reached : Reached ospfInterfaces start texts n world) (held : world.held = some (task, found))
    (held' : later.held = some (task, found)) (more : world.mixed = true → later.mixed = true) :
    Reached ospfInterfaces start texts n later := by
  obtain ⟨_, events, rendered, made⟩ := reached
  have same : later.settled = world.settled := by
    rw [World.settled, World.settled, held', held]
    rfl
  refine ⟨fun free => ?_, events, rendered, same ▸ made.mono fun apart => ?_⟩
  · rw [held'] at free
    cases free
  · refine Bool.eq_false_iff.mpr fun before => ?_
    rw [more before] at apart
    cases apart

theorem Reached.reads {n : Nat} (reached : Reached ospfInterfaces start texts n world) (reads : world.reads later) :
    Reached ospfInterfaces start texts n later := by
  obtain ⟨shut, events, rendered, made⟩ := reached
  have kept := Lapsed.held (.inr reads)
  have half : later.half = world.half := by
    obtain ⟨late, loaded, _, _, rfl⟩ := reads
    rfl
  refine ⟨fun free => half.trans (shut (kept.symm.trans free)), ?_⟩
  cases held : world.held with
  | some entry =>
    have settled : later.settled = world.settled := by
      rw [World.settled, World.settled, kept, held]
      rfl
    refine ⟨events, rendered, ?_⟩
    rw [settled]
    exact made.mono fun apart => (reads_mixed reads apart).1
  | none =>
    obtain ⟨count, _, more⟩ := @reads_made ospfInterfaces _ _ reads (shut held)
    refine ⟨events ++ reading count, by rw [List.filterMap_append, rendered, reading_desired, List.append_nil], ?_⟩
    rw [World.settled, held] at made
    rw [World.settled, kept, held]
    exact (made.mono fun apart => (reads_mixed reads apart).1).trans more

theorem Sound.reads (sound : Sound start texts world) (reads : world.reads later) : Sound start texts later := by
  obtain ⟨late, loaded, _, read, rfl⟩ := reads
  refine ⟨sound.shut, fun untorn apart => ?_⟩
  obtain ⟨apart, shut⟩ := Bool.or_eq_false_iff.mp apart
  obtain ⟨_, whole⟩ := sound.whole untorn apart
  exact ⟨read shut ▸ whole shut, whole⟩

section
variable (ospfInterfaces : List String) (start : Site) (texts : Nat → List String)

def ruled (task : Task) : Rules World where
  rely before after := (Holds task before ∨ Holds task after → Lapsed before after) ∧
    (Sound start texts before → Sound start texts after) ∧ (before.mixed = true → after.mixed = true) ∧
    (task = .bypassRefreshLoop → ∀ n, Reached ospfInterfaces start texts n before → Reached ospfInterfaces start texts n after)
  guarantee before after := (after = before ∨ Open task before ∧ Open task after) ∧
    (Sound start texts before → Sound start texts after) ∧ (before.mixed = true → after.mixed = true) ∧
    (task = .birdHealthWatchdog → ∀ n, Reached ospfInterfaces start texts n before → Reached ospfInterfaces start texts n after) ∧
    ((∃ n, Reached ospfInterfaces start texts n before) → ∃ n, Reached ospfInterfaces start texts n after)
  still := fun _ => ⟨fun _ => .inl rfl, id, id, fun _ _ => id⟩
  further := by
    intro first second third one two
    refine ⟨?_, two.2.1 ∘ one.2.1, two.2.2.1 ∘ one.2.2.1, fun own n => two.2.2.2 own n ∘ one.2.2.2 own n⟩
    intro holds
    rcases holds with ⟨found, held⟩ | ⟨found, held⟩
    · have lapsed := one.1 (.inl ⟨found, held⟩)
      exact lapsed.trans (two.1 (.inl ⟨found, lapsed.held.trans held⟩))
    · have lapsed := two.1 (.inr ⟨found, held⟩)
      exact (one.1 (.inr ⟨found, lapsed.held.symm.trans held⟩)).trans lapsed

end

theorem Open.apart (different : task ≠ other) (isOpen : Open task world) : ¬ Holds other world := by
  intro holds
  obtain ⟨found, held⟩ := holds
  rcases isOpen with free | ⟨_, own⟩
  · rw [free] at held
    cases held
  · rw [own] at held
    cases held
    exact different rfl

theorem ruled_apart (own other : Task) (different : own ≠ other) {first second : World}
    (does : (ruled ospfInterfaces start texts own).guarantee first second) :
    (ruled ospfInterfaces start texts other).rely first second := by
  refine ⟨?_, does.2.1, does.2.2.1, ?_⟩
  · intro holds
    rcases does.1 with same | ⟨before, after⟩
    · exact .inl same
    · exact (holds.elim (before.apart different) (after.apart different)).elim
  · rintro rfl
    cases own with
    | bypassRefreshLoop => exact absurd rfl different
    | birdHealthWatchdog => exact does.2.2.2.1 rfl

/-- What a task does under the lock shows nowhere before it is done. -/
theorem inside_guarantee (held : world.held = some (task, found)) (kept : later.held = world.held)
    (mixed : later.mixed = world.mixed) (sound : Sound start texts world → Sound start texts later) :
    (ruled ospfInterfaces start texts task).guarantee world later := by
  have held' := kept.trans held
  have reaches (n : Nat) (reached : Reached ospfInterfaces start texts n world) : Reached ospfInterfaces start texts n later :=
    reached.inside held held' fun before => mixed.trans before
  refine ⟨.inr ⟨.inr ⟨found, held⟩, .inr ⟨found, held'⟩⟩, sound, fun before => mixed.trans before, fun _ => reaches, ?_⟩
  intro given
  obtain ⟨n, reached⟩ := given
  exact ⟨n, reaches n reached⟩

/-- What is known at a point under the lock, however often BIRD reads the file there. -/
structure Point (task : Task) (found : Site) (known : World → Prop) : Prop where
  held : ∀ {world}, known world → world.held = some (task, found)
  steady : ∀ {world later}, known world → world.reads later → known later

section
variable {known : World → Prop}

theorem Point.lapsed (point : Point task found known) (holds : known world) (lapsed : Lapsed world later) : known later := by
  rcases lapsed with rfl | reads
  · exact holds
  · exact point.steady holds reads

theorem Point.moved (point : Point task found known) (holds : known world)
    (moves : (ruled ospfInterfaces start texts task).rely world later) : known later :=
  point.lapsed holds (moves.1 (.inl ⟨found, point.held holds⟩))

theorem Point.and (point : Point task found known) (fact : Prop) : Point task found fun world => known world ∧ fact :=
  ⟨fun holds => point.held holds.1, fun holds reads => ⟨point.steady holds.1 reads, holds.2⟩⟩

/-- A request that is made under the lock. -/
theorem meets_inside {request : Request} (post : request.Answer → World → Prop) (point : Point task found known)
    (holds : known world) (ends : ∀ value, Point task found (post value))
    (does : ∀ {now value later}, known now → serves request now value later →
      (later.mixed = now.mixed ∧ (Sound start texts now → Sound start texts later)) ∧ post value later) :
    Meets serves (ruled ospfInterfaces start texts task) post (fun _ _ => False) (await request) world := by
  intro now moves value after served
  have holds := point.moved holds moves
  obtain ⟨⟨mixed, sound⟩, made⟩ := does holds served
  have held := point.held holds
  have held' := (ends value).held made
  exact ⟨inside_guarantee held (held'.trans held.symm) mixed sound, fun later more => (ends value).moved made more⟩

theorem meets_ends {α : Type} {value : α} {post : α → World → Prop} {fails : Failure → World → Prop}
    (point : Point task found (post value)) (holds : post value world) :
    Meets serves (ruled ospfInterfaces start texts task) post fails (pure value : Code α) world :=
  fun _ moves => point.moved holds moves

theorem meets_fails {α : Type} {error : Failure} {post : α → World → Prop} {fails : Failure → World → Prop}
    (point : Point task found (fails error)) (holds : fails error world) :
    Meets serves (ruled ospfInterfaces start texts task) post fails (throw error : Code α) world :=
  fun _ moves => point.moved holds moves

end

/-! ### What is done under the lock -/

/-- The events since the lock was taken, with the texts that they are to lay over the file. -/
structure Since (ospfInterfaces : List String) (task : Task) (found : Site) (texts : List String) (world : World) : Prop where
  held : world.held = some (task, found)
  shut : world.half = false
  events : ∃ events : List Event, events.filterMap desired = texts ∧ Made ospfInterfaces found events world.mixed world.toSite

/-- The file is emptied over a text that it had not. -/
structure Writing (ospfInterfaces : List String) (found : Site) (text : String) (world : World) : Prop where
  held : world.held = some (.bypassRefreshLoop, found)
  events : ∃ events : List Event, events.filterMap desired = [] ∧ (events.foldl Event.leaves found.bird.conf).getD "" ≠ text ∧
    (world.mixed = false → ∃ conf, world.toSite = (events.foldl (Site.step ospfInterfaces) found).lay conf)
  half : world.half = true

/-- The text is written, and BIRD has not been asked to read it. -/
structure Laid (ospfInterfaces : List String) (found : Site) (text : String) (world : World) : Prop where
  held : world.held = some (.bypassRefreshLoop, found)
  shut : world.half = false
  conf : world.bird.conf = some text
  events : ∃ events : List Event, events.filterMap desired = [] ∧ (events.foldl Event.leaves found.bird.conf).getD "" ≠ text ∧
    (world.mixed = false → ∃ count ≤ (events.foldl (Site.step ospfInterfaces) found).late, world.toSite =
      (reading count).foldl (Site.step ospfInterfaces) ((events.foldl (Site.step ospfInterfaces) found).lay (some text)))

theorem since_point (texts : List String) : Point task found (Since ospfInterfaces task found texts) where
  held := Since.held
  steady := by
    intro world later since reads
    obtain ⟨held, shut, events, rendered, made⟩ := since
    obtain ⟨count, _, more⟩ := @reads_made ospfInterfaces _ _ reads shut
    have made := (made.mono fun apart => (reads_mixed reads apart).1).trans more
    refine ⟨(Lapsed.held (.inr reads)).trans held, ?_, events ++ reading count, ?_, made⟩
    · obtain ⟨late, loaded, _, _, rfl⟩ := reads
      exact shut
    · rw [List.filterMap_append, rendered, reading_desired, List.append_nil]

theorem writing_point (text : String) : Point .bypassRefreshLoop found (Writing ospfInterfaces found text) where
  held := Writing.held
  steady := by
    intro world later writing reads
    obtain ⟨held, ⟨events, quiet, differs, _⟩, half⟩ := writing
    refine ⟨(Lapsed.held (.inr reads)).trans held, ⟨events, quiet, differs, fun apart => ?_⟩, ?_⟩
    · rw [(reads_mixed reads apart).2] at half
      cases half
    · obtain ⟨late, loaded, _, _, rfl⟩ := reads
      exact half

theorem laid_point (text : String) : Point .bypassRefreshLoop found (Laid ospfInterfaces found text) where
  held := Laid.held
  steady := by
    intro world later laid reads
    obtain ⟨held, shut, conf, events, quiet, differs, made⟩ := laid
    have kept := Lapsed.held (.inr reads)
    obtain ⟨more, pending, read⟩ := @reads_made ospfInterfaces _ _ reads shut
    have same : later.bird.conf = world.bird.conf ∧ later.half = world.half := by
      obtain ⟨late, loaded, _, _, rfl⟩ := reads
      exact ⟨rfl, rfl⟩
    refine ⟨kept.trans held, same.2.trans shut, same.1.trans conf, events, quiet, differs, fun apart => ?_⟩
    obtain ⟨count, enough, here⟩ := made (reads_mixed reads apart).1
    refine ⟨count + more, ?_, ?_⟩
    · have left := congrArg Site.late here
      rw [run_reading_late, Site.lay] at left
      dsimp only at left
      omega
    · rw [read.site apart, here, reading_add, List.foldl_append]

/-- The answers to the commands of one turn of the watchdog. -/
def sockets (protocols ospf configure : Except String Reply) : Socket := fun command =>
  if command = "show protocols" then protocols else if command = "show ospf interface mesh6" then ospf else configure

section
variable {known ends : World → Prop}

theorem ask_meets {command : String} (point : Point task found known) (holds : known world) (quiet : command ≠ "configure") :
    Meets serves (ruled ospfInterfaces start texts task)
      (fun text later => known later ∧ ∃ answer, Router.ask (fun _ => answer) command = .ok text)
      (fun _ later => known later ∧ ∃ answer reason, Router.ask (fun _ => answer) command = .error reason)
      (ask command) world := by
  apply meets_bind
  refine (meets_inside (fun _ => known) point holds (fun _ => point) ?_).mono ?_ fun _ _ => False.elim
  · intro now answer later holds served
    rw [serves, if_neg quiet] at served
    subst served
    exact ⟨⟨rfl, id⟩, holds⟩
  · intro answer now holds
    cases answer with
    | error reason => exact meets_fails (point.and _) ⟨holds, .error reason, .socket reason, rfl⟩
    | ok reply =>
      dsimp only
      split
      · rename_i refused
        exact meets_fails (point.and _) ⟨holds, .ok reply, .refused command reply.text, by simp only [Router.ask, refused, if_true]⟩
      · rename_i accepted
        exact meets_ends (point.and _) ⟨holds, .ok reply, by simp [Router.ask, accepted]⟩

/-- However a `configure` is answered, it is asked where nothing is being written. -/
theorem runBirdcConfigure_meets (point : Point task found known) (holds : known world) (after : Point task found ends)
    (shut : ∀ {now}, known now → now.half = false)
    (does : ∀ {now} answer, known now → ends { now with toSite := now.toSite.configured answer }) :
    Meets serves (ruled ospfInterfaces start texts task) (fun _ => ends) (fun _ => ends) runBirdcConfigure world := by
  apply meets_bind
  apply meets_bind
  refine (meets_inside (fun _ => ends) point holds (fun _ => after) ?_).mono ?_ fun _ _ => False.elim
  · intro now answer later holds served
    simp only [serves, if_true] at served
    subst served
    refine ⟨⟨rfl, fun sound => ⟨sound.shut, fun untorn apart => ?_⟩⟩, does answer holds⟩
    obtain ⟨loaded, whole⟩ := sound.whole untorn apart
    refine ⟨?_, by rw [configured_conf]; exact whole⟩
    unfold Site.configured
    split
    · exact loaded
    · split
      · exact loaded
      · exact whole (shut holds)
  · intro answer now holds
    cases answer with
    | error reason => exact meets_fails after holds
    | ok reply =>
      dsimp only
      split
      · exact meets_fails after holds
      · exact meets_pure fun later moves => meets_ends after (after.moved holds moves)

end

section
variable (protocols ospf configure : Except String Reply)

theorem sockets_protocols : Router.ask (sockets protocols ospf configure) "show protocols" =
    Router.ask (fun _ => protocols) "show protocols" := by
  simp [Router.ask, sockets]

theorem sockets_ospf : Router.ask (sockets protocols ospf configure) "show ospf interface mesh6" =
    Router.ask (fun _ => ospf) "show ospf interface mesh6" := by
  simp [Router.ask, sockets]

theorem sockets_configure : sockets protocols ospf configure "configure" = configure := by
  simp [sockets]

end

theorem protocolsHealthy_of_told {socket : Socket} {text : String} (exactIfaces : List String)
    (told : Router.ask socket "show protocols" = .ok text) : Router.protocolsHealthy socket exactIfaces =
      if hasNoListeningSocket text then .ok false
      else if exactIfaces.isEmpty then .ok true
      else (Router.ask socket "show ospf interface mesh6").map fun ospf => exactIfaces.all (· ∈ ospfConfiguredInterfaces ospf) := by
  rw [Router.protocolsHealthy, birdcShow, told]
  change (if hasNoListeningSocket text then _ else _) = _
  split
  · rfl
  · split
    · rfl
    · rw [birdcShow]
      cases Router.ask socket "show ospf interface mesh6" <;> rfl

theorem protocolsHealthy_meets {known : World → Prop} {exactIfaces : List String} (point : Point task found known)
    (holds : known world) :
    Meets serves (ruled ospfInterfaces start texts task)
      (fun healthy later => known later ∧ ∃ protocols ospf, ∀ configure,
        Router.protocolsHealthy (sockets protocols ospf configure) exactIfaces = .ok healthy)
      (fun _ => known) (protocolsHealthy exactIfaces) world := by
  apply meets_bind
  refine (ask_meets point holds (by decide)).mono ?_ fun _ _ given => given.1
  intro text now given
  obtain ⟨holds, protocols, told⟩ := given
  have first (ospf configure : Except String Reply) :=
    protocolsHealthy_of_told exactIfaces ((sockets_protocols protocols ospf configure).trans told)
  by_cases deaf : hasNoListeningSocket text = true
  · rw [if_pos deaf]
    refine meets_ends (point.and _) ⟨holds, protocols, protocols, fun configure => ?_⟩
    rw [first, if_pos deaf]
  · rw [if_neg deaf]
    by_cases none : exactIfaces.isEmpty = true
    · rw [if_pos none]
      refine meets_ends (point.and _) ⟨holds, protocols, protocols, fun configure => ?_⟩
      rw [first, if_neg deaf, if_pos none]
    · rw [if_neg none]
      apply meets_bind
      refine (ask_meets point holds (by decide)).mono ?_ fun _ _ given => given.1
      intro text now given
      obtain ⟨holds, ospf, told⟩ := given
      refine meets_ends (point.and _) ⟨holds, protocols, ospf, fun configure => ?_⟩
      rw [first, if_neg deaf, if_neg none, sockets_ospf, told]
      rfl

/-- A `configure` of the watchdog, answered however it is, is one nudge. -/
theorem Since.nudged {socket : Socket} (since : Since ospfInterfaces task found [] world)
    (unhealthy : Router.protocolsHealthy socket (exactIfaceNames ospfInterfaces) = .ok false) :
    Since ospfInterfaces task found [] { world with toSite := world.toSite.configured (socket "configure") } := by
  obtain ⟨held, shut, events, quiet, made⟩ := since
  refine ⟨held, shut, events ++ [.call (.watchdog socket)], ?_, made.trans ⟨?_, fun _ => ?_⟩⟩
  · rw [List.filterMap_append, quiet]
    rfl
  · exact configured_conf ..
  · exact (step_watchdog unhealthy).symm

/-- What a turn of the watchdog does under the lock is a nudge, or nothing. -/
theorem watchdog_meets {consecutiveUnhealthy : Nat} (since : Since ospfInterfaces task found [] world) :
    Meets serves (ruled ospfInterfaces start texts task) (fun _ => Since ospfInterfaces task found []) (fun _ _ => False)
      (tryCatch
        (do
          if ← protocolsHealthy (exactIfaceNames ospfInterfaces) then return 0
          else
            tryCatch runBirdcConfigure fun _ => return ()
            return consecutiveUnhealthy + 1)
        fun _ => return consecutiveUnhealthy : Code Nat) world := by
  have point : Point task found (Since ospfInterfaces task found []) := since_point []
  apply meets_catch
  apply meets_bind
  refine (protocolsHealthy_meets point since).mono ?_ fun _ _ since => meets_ends point since
  intro healthy now given
  obtain ⟨since, protocols, ospf, answered⟩ := given
  cases healthy with
  | true => exact meets_ends point since
  | false =>
    rw [if_neg Bool.false_ne_true]
    apply meets_bind
    apply meets_catch
    have nudges : ∀ {now : World} answer, Since ospfInterfaces task found [] now →
        Since ospfInterfaces task found [] { now with toSite := now.toSite.configured answer } := by
      intro now answer since
      rw [← sockets_configure protocols ospf answer]
      exact since.nudged (answered answer)
    refine (runBirdcConfigure_meets point since point Since.shut nudges).mono ?_ ?_
    · exact fun _ _ since => meets_ends point since
    · exact fun _ _ since => meets_pure fun later moves => meets_ends point (point.moved since moves)

/-- Half of a write, of nothing or of the whole of a text. -/
theorem writes_sound {conf : Option String} {half done : Bool} (held : world.held = some (task, found))
    (writes : world.writes conf half done later) (whole : half = true ∨ Whole start texts conf) :
    later.mixed = world.mixed ∧ (Sound start texts world → Sound start texts later) := by
  unfold World.writes at writes
  split at writes
  · subst writes
    refine ⟨rfl, fun sound => ⟨fun free => ?_, fun untorn apart => ⟨(sound.whole untorn apart).1, fun shut => ?_⟩⟩⟩
    · rw [held] at free
      cases free
    · refine whole.resolve_left fun open' => ?_
      rw [show half = false from shut] at open'
      cases open'
  · obtain ⟨left, rfl⟩ := writes
    refine ⟨rfl, fun _ => ⟨fun _ => rfl, fun untorn => ?_⟩⟩
    cases untorn

end Slipmesh.Router.Tasks
