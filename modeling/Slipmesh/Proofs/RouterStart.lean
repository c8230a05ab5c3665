import Slipmesh.Proofs.RouterTasks
import Slipmesh.Proofs.SideBySide
import Slipmesh.Router.Startup

/-! `router`'s start among other daemons: BIRD is started on a whole config or not at all,
and the whole life of the process from there. -/

namespace Slipmesh.Router.Startup
open Net Common Library
open Host (Own Carries Undriven looping ensureLoopback_looping)

/-! ### What the files come to -/

section
variable (readers : Readers) (resolver : Resolver) (files : String → Except String String)

structure Prepared (cfg : RouterConfig) (template : Tasks.Template) (inputs : StaticInputs) : Prop where
  config : ∃ raw, files configPath = .ok raw ∧ readers.parse raw = .ok cfg
  valid : validate cfg = .ok ()
  template : ∃ source, files templatePath = .ok source ∧ readers.compile source = .ok template
  inputs : StaticInputs.fromConfig cfg = .ok inputs

/-- The text that BIRD is to be started on. -/
structure Initial (inputs : StaticInputs) (started : Started) (text : String) : Prop where
  prepared : ∃ cfg, Prepared readers files cfg started.template inputs ∧ ∃ routes,
    currentBypassRoutes resolver { inputs, bypassCfg := cfg.bypass } = (some routes, started.state) ∧
      started.template (inputs.context routes) = .ok text

end

/-- BIRD has read the file that it was started on, or is to read it yet. -/
def Booting (text : String) (site : Tasks.Site) : Prop := site = ⟨⟨some text, none⟩, 1⟩ ∨ site = ⟨⟨some text, some text⟩, 0⟩

section
variable (readers : Readers) (resolver : Resolver)

/-- BIRD runs on a whole config, which is all that it ever reads. -/
structure Orderly (world : World) : Prop where
  idle : world.spawned = false → world.shared.late = 0 ∧ world.shared.bird.loaded = none
  whole : world.spawned = true → world.shared.half = false ∧ ∃ inputs started text,
    Initial readers resolver world.files inputs started text ∧ Booting text world.shared.toSite

end

/-! ### What the others do, and what the start does -/

theorem lapsed_half {world later : Tasks.World} (lapsed : Tasks.Lapsed world later) : later.half = world.half := by
  rcases lapsed with rfl | ⟨late, loaded, _, _, rfl⟩ <;> rfl

/-- BIRD reads nothing unasked that is not left to it. -/
theorem lapsed_none {world later : Tasks.World} (lapsed : Tasks.Lapsed world later) (none : world.late = 0) : later = world := by
  rcases lapsed with same | ⟨late, loaded, fewer, _, rfl⟩
  · exact same
  · rw [none] at fewer
    cases fewer

theorem Booting.lapsed {world later : Tasks.World} {text : String} (booting : Booting text world.toSite) (shut : world.half = false)
    (lapsed : Tasks.Lapsed world later) : Booting text later.toSite := by
  rcases lapsed with rfl | ⟨late, loaded, fewer, read, rfl⟩
  · exact booting
  · have read := read shut
    rcases booting with same | same
    · have conf := congrArg (·.bird.conf) same
      have left := congrArg Tasks.Site.late same
      dsimp only at conf left read
      obtain rfl : late = 0 := by omega
      subst read
      exact .inr (congrArg (fun conf => (⟨⟨conf, conf⟩, 0⟩ : Tasks.Site)) conf)
    · have left := congrArg Tasks.Site.late same
      dsimp only at left
      omega

/-- BIRD reads its config at some moment once it is started; the file, BIRD and the loopback
are nobody else's. -/
structure Others (before after : World) : Prop where
  kernel : Undriven before.kernel → after.kernel.links routerLoopbackIface = before.kernel.links routerLoopbackIface
  rest : ∃ shared, Tasks.Lapsed before.shared shared ∧ after = { before with kernel := after.kernel, shared }

theorem Others.refl (world : World) : Others world world := ⟨fun _ => rfl, world.shared, .inl rfl, rfl⟩

theorem Others.trans {first second third : World} (one : Others first second) (two : Others second third) :
    Others first third := by
  constructor
  · intro undriven
    have same := one.kernel undriven
    exact (two.kernel (undriven.same same)).trans same
  · obtain ⟨shared, lapsed, same⟩ := one.rest
    obtain ⟨shared', lapsed', same'⟩ := two.rest
    rw [same] at lapsed' same'
    exact ⟨shared', lapsed.trans lapsed', same'⟩

section
variable (readers : Readers) (resolver : Resolver)

/-- Nothing is touched before the files are read, and only the loopback of the links. -/
structure Steps (before after : World) : Prop where
  files : after.files = before.files
  orderly : Orderly readers resolver before → Orderly readers resolver after
  links : ∀ name, name ≠ routerLoopbackIface → after.kernel.links name = before.kernel.links name
  touches : after = before ∨ ∃ cfg template inputs, Prepared readers before.files cfg template inputs

def starting : Rules World where
  rely := Others
  guarantee := Steps readers resolver
  still := Others.refl
  further := Others.trans

end

variable {readers : Readers} {resolver : Resolver} {files : String → Except String String} {world now after : World}
  {found : Option Host.Link} {text : String} {held : Option (Tasks.Task × Tasks.Site)}

theorem Steps.refl (world : World) : Steps readers resolver world world := ⟨rfl, id, fun _ _ => rfl, .inl rfl⟩

theorem Orderly.others (orderly : Orderly readers resolver world) (others : Others world now) : Orderly readers resolver now := by
  obtain ⟨shared, lapsed, same⟩ := others.rest
  rw [same]
  refine ⟨fun idle => ?_, fun spawned => ?_⟩
  · obtain ⟨late, loaded⟩ := orderly.idle idle
    cases lapsed_none lapsed late
    exact ⟨late, loaded⟩
  · obtain ⟨shut, inputs, started, text, initial, booting⟩ := orderly.whole spawned
    exact ⟨(lapsed_half lapsed).trans shut, inputs, started, text, initial, booting.lapsed shut lapsed⟩

/-! ### The stages of a start -/

/-- BIRD is not started yet. -/
structure Idle (files : String → Except String String) (found : Option Host.Link) (world : World) : Prop where
  files : world.files = files
  loopback : world.kernel.links routerLoopbackIface = found
  undriven : Undriven world.kernel
  held : world.shared.held = none
  late : world.shared.late = 0
  loaded : world.shared.bird.loaded = none
  spawned : world.spawned = false

theorem Idle.shared_others (idle : Idle files found world) (others : Others world now) :
    now = { world with kernel := now.kernel } := by
  obtain ⟨shared, lapsed, same⟩ := others.rest
  cases lapsed_none lapsed idle.late
  exact same

theorem Idle.others (idle : Idle files found world) (others : Others world now) : Idle files found now := by
  have loopback := others.kernel idle.undriven
  have undriven := idle.undriven.same loopback
  rw [idle.shared_others others] at loopback undriven ⊢
  exact ⟨idle.files, loopback.trans idle.loopback, undriven, idle.held, idle.late, idle.loaded, idle.spawned⟩

theorem Idle.orderly (idle : Idle files found world) : Orderly readers resolver world := by
  refine ⟨fun _ => ⟨idle.late, idle.loaded⟩, fun spawned => ?_⟩
  rw [idle.spawned] at spawned
  cases spawned

/-- The file is written. -/
structure Ready (files : String → Except String String) (found : Option Host.Link) (text : String) (world : World) : Prop
    extends Idle files found world where
  conf : world.shared.bird.conf = some text
  shut : world.shared.half = false

theorem Ready.others (ready : Ready files found text world) (others : Others world now) : Ready files found text now := by
  refine ⟨ready.toIdle.others others, ?_, ?_⟩
  · rw [ready.shared_others others]
    exact ready.conf
  · rw [ready.shared_others others]
    exact ready.shut

/-- BIRD is started on the file. -/
structure Running (files : String → Except String String) (found : Option Host.Link) (text : String)
    (held : Option (Tasks.Task × Tasks.Site)) (world : World) : Prop where
  files : world.files = files
  loopback : world.kernel.links routerLoopbackIface = found
  undriven : Undriven world.kernel
  held : world.shared.held = held
  shut : world.shared.half = false
  booting : Booting text world.shared.toSite
  spawned : world.spawned = true

theorem Running.others (running : Running files found text held world) (others : Others world now) :
    Running files found text held now := by
  have loopback := others.kernel running.undriven
  have undriven := running.undriven.same loopback
  obtain ⟨shared, lapsed, same⟩ := others.rest
  rw [same] at loopback undriven ⊢
  exact ⟨running.files, loopback.trans running.loopback, undriven, lapsed.held.trans running.held,
    (lapsed_half lapsed).trans running.shut, running.booting.lapsed running.shut lapsed, running.spawned⟩

theorem Running.conf (running : Running files found text held world) : world.shared.bird.conf = some text := by
  rcases running.booting with same | same
  · exact congrArg (·.bird.conf) same
  · exact congrArg (·.bird.conf) same

/-! ### One await after the other -/

variable {ε α : Type} {post : α → World → Prop} {fails : Failure → World → Prop}

theorem meets_check {result : Except ε α} {failure : ε → Failure}
    (ends : ∀ value, result = .ok value → ∀ later, Others world later → post value later)
    (breaks : ∀ error later, Others world later → fails (failure error) later) :
    Meets serves (starting readers resolver) post fails (check failure result) world := by
  cases result with
  | ok value => exact ends value rfl
  | error error => exact breaks error

theorem await_idle {request : Request} (idle : Idle files found world)
    (quiet : ∀ {now value after}, serves request now value after → after = now) :
    Meets serves (starting readers resolver) (fun _ => Idle files found) (fun _ _ => False) (await request) world := by
  intro now moves value after served
  cases quiet served
  exact ⟨.refl now, fun later more => (idle.others moves).others more⟩

theorem readFile_idle (idle : Idle files found world) (path : String) :
    Meets serves (starting readers resolver) (fun text later => Idle files found later ∧ files path = .ok text)
      (fun _ => Idle files found) (readFile path) world := by
  intro now moves answer after served
  obtain ⟨rfl, rfl⟩ := served
  have idle := idle.others moves
  refine ⟨.refl after, ?_⟩
  rw [idle.files]
  exact meets_check (fun _ held later more => ⟨idle.others more, held⟩) fun _ later more => idle.others more

theorem check_idle {result : Except ε α} {failure : ε → Failure} (idle : Idle files found world) :
    Meets serves (starting readers resolver) (fun value later => Idle files found later ∧ result = .ok value)
      (fun _ => Idle files found) (check failure result) world :=
  meets_check (fun _ held _ moves => ⟨idle.others moves, held⟩) fun _ _ moves => idle.others moves

theorem connect_idle (idle : Idle files found world) :
    Meets serves (starting readers resolver) (fun _ => Idle files found) (fun _ => Idle files found) connect world := by
  have quiet : ∀ {now value after}, serves .connect now value after → after = now := fun served => served
  apply meets_bind
  refine (await_idle idle quiet).mono ?_ fun _ _ => False.elim
  exact fun _ _ idle => (check_idle idle).imp fun _ _ given => given.1

theorem createDir_idle (idle : Idle files found world) :
    Meets serves (starting readers resolver) (fun _ => Idle files found) (fun _ => Idle files found) createDir world := by
  have quiet : ∀ {now value after}, serves .createDir now value after → after = now := fun served => served
  apply meets_bind
  refine (await_idle idle quiet).mono ?_ fun _ _ => False.elim
  exact fun _ _ idle => (check_idle idle).imp fun _ _ given => given.1

/-- The links apart, the start does nothing while it sees to the loopback. -/
def narrow (loopback : Ipv4Addr) (ipv6Loopback : Ipv6Addr) : Rules World where
  rely := Others
  guarantee before after := (looping (Own loopback ipv6Loopback)).guarantee before.kernel after.kernel ∧
    after = { before with kernel := after.kernel }
  still := Others.refl
  further := Others.trans

theorem narrow_idle {loopback : Ipv4Addr} {ipv6Loopback : Ipv6Addr} (idle : Idle files found world)
    (does : (narrow loopback ipv6Loopback).guarantee world now) : Idle files (now.kernel.links routerLoopbackIface) now := by
  obtain ⟨⟨undriven, tends⟩, same⟩ := does
  have undriven' := undriven.tended tends
  rw [same] at undriven' ⊢
  exact ⟨idle.files, rfl, undriven', idle.held, idle.late, idle.loaded, idle.spawned⟩

theorem ensureLoopback_idle {cfg : RouterConfig} {template : Tasks.Template} {inputs : StaticInputs}
    (prepared : Prepared readers files cfg template inputs) (idle : Idle files found world) (loopback : Ipv4Addr)
    (ipv6Loopback : Ipv6Addr) : Meets serves (starting readers resolver)
      (fun _ later => ∃ link, Idle files (some link) later ∧ Carries (Own loopback ipv6Loopback) found link)
      (fun _ later => later.spawned = false) (netlink (ensureLoopback loopback ipv6Loopback)) world := by
  have alone : Meets serves (narrow loopback ipv6Loopback)
      (fun _ later => ∃ link, later.kernel.links routerLoopbackIface = some link ∧
        Carries (Own loopback ipv6Loopback) (world.kernel.links routerLoopbackIface) link)
      (fun _ _ => True) (netlink (ensureLoopback loopback ipv6Loopback)) world := by
    apply meets_mapError
    apply meets_via World.kernel _ _ (ensureLoopback_looping idle.undriven)
    · exact fun others => others.kernel
    · intro asked first value second served
      obtain ⟨kernel, answered, rfl⟩ := served
      exact ⟨answered, fun does => ⟨does, rfl⟩⟩
  have quiet (first second : World) (is : ∃ found, Idle files found first)
      (does : (narrow loopback ipv6Loopback).guarantee first second) :
      ∃ found, Idle files found second := by
    obtain ⟨found, idle⟩ := is
    exact ⟨_, narrow_idle idle does⟩
  have others (first second : World) (is : ∃ found, Idle files found first) (moves : Others first second) :
      ∃ found, Idle files found second := by
    obtain ⟨found, idle⟩ := is
    exact ⟨found, idle.others moves⟩
  have framed := alone.frame (fun world => ∃ found, Idle files found world) (fun moves is => others _ _ is moves)
    (fun does is => quiet _ _ is does) ⟨found, idle⟩
  have wide : Meets serves (starting readers resolver) _ _ _ world :=
    framed.under (fun world => ∃ found, Idle files found world) (fun _ moves => moves) (fun moves is => others _ _ is moves) ?_
      ⟨found, idle⟩
  · refine wide.mono ?_ ?_
    · intro _ later given
      obtain ⟨⟨link, here, carries⟩, other, idle'⟩ := given
      rw [idle.loopback] at carries
      have same : other = some link := idle'.loopback.symm.trans here
      subst same
      exact ⟨link, idle', carries⟩
    · intro _ later given
      obtain ⟨_, other, idle'⟩ := given
      exact idle'.spawned
  · intro first second is does
    obtain ⟨found, idle⟩ := is
    have idle' := narrow_idle idle does
    obtain ⟨⟨undriven, tends⟩, same⟩ := does
    refine ⟨⟨?_, fun _ => idle'.orderly, tends.others, .inr ⟨cfg, template, inputs, ?_⟩⟩, _, idle'⟩
    · rw [idle'.files, idle.files]
    · rw [idle.files]
      exact prepared

/-! ### The file and BIRD -/

theorem meets_shared {request : Tasks.Request} {rest : request.Answer → Tasks.Code α}
    (turn : ∀ now, Others world now → ∀ value after, serves (.shared request) now value after →
      Steps readers resolver now after ∧ Meets serves (starting readers resolver) post fails (shared (rest value)) after) :
    Meets serves (starting readers resolver) post fails (shared (.ask request rest)) world := turn

/-- A half of a write, before BIRD is started. -/
theorem write_idle {inputs : StaticInputs} {cfg : RouterConfig} {template : Tasks.Template} {conf : Option String}
    {half done : Bool} {shared : Tasks.World} (prepared : Prepared readers files cfg template inputs)
    (idle : Idle files found world) (writes : world.shared.writes conf half done shared) :
    Steps readers resolver world { world with shared } ∧ Idle files found { world with shared } ∧
      (done = true → shared.bird.conf = conf ∧ shared.half = half) := by
  have kept : shared.held = world.shared.held ∧ shared.late = world.shared.late ∧
      shared.bird.loaded = world.shared.bird.loaded ∧ (done = true → shared.bird.conf = conf ∧ shared.half = half) := by
    unfold Tasks.World.writes at writes
    split at writes
    · rw [writes]
      exact ⟨rfl, rfl, rfl, fun _ => ⟨rfl, rfl⟩⟩
    · rename_i broken
      obtain ⟨left, rfl⟩ := writes
      exact ⟨rfl, rfl, rfl, fun whole => absurd whole broken⟩
  have idle' : Idle files found { world with shared } :=
    ⟨idle.files, idle.loopback, idle.undriven, kept.1.trans idle.held, kept.2.1.trans idle.late, kept.2.2.1.trans idle.loaded,
      idle.spawned⟩
  refine ⟨⟨rfl, fun _ => idle'.orderly, fun _ _ => rfl, .inr ⟨cfg, template, inputs, ?_⟩⟩, idle', kept.2.2.2⟩
  rw [idle.files]
  exact prepared

theorem writeConf_idle {inputs : StaticInputs} {cfg : RouterConfig} {template : Tasks.Template}
    (prepared : Prepared readers files cfg template inputs) (idle : Idle files found world) (text : String) :
    Meets serves (starting readers resolver) (fun _ => Ready files found text) (fun _ later => later.spawned = false)
      (shared (Tasks.writeConf text)) world := by
  refine meets_shared fun now moves created after served => ?_
  obtain ⟨made, writes, rfl⟩ := served
  obtain ⟨steps, idle, _⟩ := write_idle prepared (idle.others moves) writes
  refine ⟨steps, ?_⟩
  cases created with
  | false => exact fun later moves => (idle.others moves).spawned
  | true =>
    refine meets_shared fun now moves written after served => ?_
    obtain ⟨wrote, writes, rfl⟩ := served
    obtain ⟨steps, idle, whole⟩ := write_idle prepared (idle.others moves) writes
    refine ⟨steps, ?_⟩
    cases written with
    | false => exact fun later moves => (idle.others moves).spawned
    | true =>
      have ready : Ready files found text { now with shared := wrote } := ⟨idle, (whole rfl).1, (whole rfl).2⟩
      exact fun later moves => ready.others moves

theorem spawn_ready {inputs : StaticInputs} {started : Started} (initial : Initial readers resolver files inputs started text)
    (ready : Ready files found text world) :
    Meets serves (starting readers resolver) (fun _ => Running files found text none) (fun _ later => later.spawned = false)
      spawn world := by
  intro now moves answer after served
  have ready := ready.others moves
  obtain ⟨cfg, prepared, _⟩ := initial.prepared
  have known : Prepared readers now.files cfg started.template inputs := ready.files.symm ▸ prepared
  rw [serves] at served
  cases answer with
  | error reason =>
    cases served
    exact ⟨.refl now, fun later more => (ready.others more).spawned⟩
  | ok done =>
    cases served
    have site : ({ now.shared with late := now.shared.late + 1 } : Tasks.World).toSite = ⟨⟨some text, none⟩, 1⟩ := by
      rw [ready.late, ← ready.conf, ← ready.loaded]
    have running : Running files found text none
        { now with spawned := true, shared := { now.shared with late := now.shared.late + 1 } } :=
      ⟨ready.files, ready.loopback, ready.undriven, ready.held, ready.shut, .inl site, rfl⟩
    refine ⟨⟨rfl, fun orderly => ⟨nofun, fun _ => ?_⟩, fun _ _ => rfl, .inr ⟨cfg, started.template, inputs, known⟩⟩,
      fun later more => running.others more⟩
    exact ⟨ready.shut, inputs, started, text, ready.files.symm ▸ initial, running.booting⟩

theorem waitForControlSocket_running (running : Running files found text held world) (attempts : Nat) :
    Meets serves (starting readers resolver) (fun _ => Running files found text held) (fun error _ => error = .noSocket)
      (waitForControlSocket attempts) world := by
  induction attempts generalizing world with
  | zero => exact fun _ _ => rfl
  | succ attempts ih =>
    intro now moves there after served
    cases served
    have running := running.others moves
    refine ⟨.refl now, ?_⟩
    cases there with
    | true => exact fun later more => running.others more
    | false =>
      intro now moves value last served
      cases served
      exact ⟨.refl now, ih (running.others moves)⟩

/-- A look under the lock changes nothing of what the start stands on. -/
theorem Running.look (running : Running files found text held world) (shared : Tasks.World)
    (same : shared.toSite = world.shared.toSite) (half : shared.half = world.shared.half)
    (known : ∃ cfg template inputs, Prepared readers files cfg template inputs) :
    Steps readers resolver world { world with shared } ∧ Running files found text shared.held { world with shared } := by
  have shut := half.trans running.shut
  refine ⟨⟨rfl, fun orderly => ⟨fun idle => ?_, fun spawned => ?_⟩, fun _ _ => rfl, .inr (running.files.symm ▸ known)⟩, ?_⟩
  · rw [running.spawned] at idle
    cases idle
  · obtain ⟨_, inputs, started, text, initial, booting⟩ := orderly.whole spawned
    exact ⟨shut, inputs, started, text, initial, same ▸ booting⟩
  · exact ⟨running.files, running.loopback, running.undriven, rfl, shut, same ▸ running.booting, running.spawned⟩

/-- The file has the text already: nothing is written, and BIRD is asked for nothing. -/
theorem reconcile_running {inputs : StaticInputs} {template : Tasks.Template} {routes : List BypassRoute}
    (known : ∃ cfg template inputs, Prepared readers files cfg template inputs) (made : template (inputs.context routes) = .ok text)
    (running : Running files found text none world) :
    Meets serves (starting readers resolver) (fun _ => Running files found text none) (fun _ _ => False)
      (shared (Tasks.reconcile template inputs routes)) world := by
  have unfolds : Tasks.reconcile template inputs routes = Tasks.locked .bypassRefreshLoop (Tasks.reconcileConf text) := by
    rw [Tasks.reconcile, made]
  rw [unfolds]
  refine meets_shared fun now moves _ after served => ?_
  obtain ⟨_, ⟨free, rfl⟩, rfl⟩ := served
  obtain ⟨steps, running⟩ := (running.others moves).look
    { now.shared with held := some (.bypassRefreshLoop, now.shared.toSite) } rfl rfl known
  refine ⟨steps, meets_shared fun now moves current after served => ?_⟩
  obtain ⟨_, ⟨rfl, rfl⟩, rfl⟩ := served
  obtain ⟨steps, running⟩ := (running.others moves).look now.shared rfl rfl known
  refine ⟨steps, ?_⟩
  have conf : now.shared.bird.conf = some text := running.conf
  simp only [conf, Program.bind, Option.getD_some, if_true]
  refine meets_shared fun last moves _ after served => ?_
  obtain ⟨_, rfl, rfl⟩ := served
  obtain ⟨steps, running⟩ := (running.others moves).look { last.shared with held := none } rfl rfl known
  exact ⟨steps, fun later moves => running.others moves⟩

/-! ### The whole start -/

/-- What a start that ends well leaves behind. -/
def Succeeds (readers : Readers) (resolver : Resolver) (files : String → Except String String) (found : Option Host.Link)
    (started : Started) (later : World) : Prop :=
  ∃ inputs text link, Initial readers resolver files inputs started text ∧ Running files (some link) text none later ∧
    Carries (Own inputs.identity.loopback inputs.identity.ipv6Loopback) found link

/-- BIRD does not run, unless its socket was waited for in vain. -/
def Fails (error : Failure) (later : World) : Prop := later.spawned = false ∨ error = .noSocket

/-- BIRD is started and waited for, once its file is ready. -/
theorem bird_meets {inputs : StaticInputs} {started : Started} {routes : List BypassRoute}
    (initial : Initial readers resolver files inputs started text) (made : started.template (inputs.context routes) = .ok text)
    (ready : Ready files found text world) :
    Meets serves (starting readers resolver)
      (fun after later => after = started ∧ Running files found text none later) Fails
      (do spawn; waitForControlSocket 100; shared (Tasks.reconcile started.template inputs routes); return started) world := by
  have known : ∃ cfg template inputs, Prepared readers files cfg template inputs := by
    obtain ⟨cfg, prepared, _⟩ := initial.prepared
    exact ⟨cfg, started.template, inputs, prepared⟩
  apply meets_bind
  refine (spawn_ready initial ready).mono ?_ fun _ _ idle => .inl idle
  intro _ now running
  apply meets_bind
  refine (waitForControlSocket_running running 100).mono ?_ fun _ _ late => .inr late
  intro _ now running
  apply meets_bind
  refine (reconcile_running known made running).mono ?_ fun _ _ => False.elim
  exact fun _ now running => meets_pure fun later moves => ⟨rfl, running.others moves⟩

theorem run_meets (idle : Idle files found world) : Meets serves (starting readers resolver)
    (Succeeds readers resolver files found) Fails (run readers resolver) world := by
  unfold run
  apply meets_bind
  refine (readFile_idle idle configPath).mono ?_ fun _ _ idle => .inl idle.spawned
  intro raw now given
  obtain ⟨idle, config⟩ := given
  apply meets_bind
  refine (check_idle idle).mono ?_ fun _ _ idle => .inl idle.spawned
  intro cfg now given
  obtain ⟨idle, parsed⟩ := given
  apply meets_bind
  refine (check_idle idle).mono ?_ fun _ _ idle => .inl idle.spawned
  intro _ now given
  obtain ⟨idle, valid⟩ := given
  apply meets_bind
  refine (readFile_idle idle templatePath).mono ?_ fun _ _ idle => .inl idle.spawned
  intro source now given
  obtain ⟨idle, opened⟩ := given
  apply meets_bind
  refine (check_idle idle).mono ?_ fun _ _ idle => .inl idle.spawned
  intro template now given
  obtain ⟨idle, compiled⟩ := given
  apply meets_bind
  refine (check_idle idle).mono ?_ fun _ _ idle => .inl idle.spawned
  intro inputs now given
  obtain ⟨idle, taken⟩ := given
  have prepared : Prepared readers files cfg template inputs := ⟨⟨raw, config, parsed⟩, valid, ⟨source, opened, compiled⟩, taken⟩
  apply meets_bind
  refine (connect_idle idle).mono ?_ fun _ _ idle => .inl idle.spawned
  intro _ now idle
  apply meets_bind
  refine (ensureLoopback_idle prepared idle _ _).mono ?_ fun _ _ unspawned => .inl unspawned
  intro _ now given
  obtain ⟨link, idle, carries⟩ := given
  apply meets_bind
  refine (createDir_idle idle).mono ?_ fun _ _ idle => .inl idle.spawned
  intro _ now idle
  cases resolved : currentBypassRoutes resolver { inputs, bypassCfg := cfg.bypass } with
  | mk routes state =>
  cases routes with
  | none => exact meets_throw fun later moves => .inl (idle.others moves).spawned
  | some routes =>
    apply meets_bind
    refine (check_idle idle).mono ?_ fun _ _ idle => .inl idle.spawned
    intro text now given
    obtain ⟨idle, made⟩ := given
    have initial : Initial readers resolver files inputs ⟨template, state⟩ text := ⟨cfg, prepared, routes, resolved, made⟩
    apply meets_bind
    refine (writeConf_idle prepared idle text).mono ?_ fun _ _ unspawned => .inl unspawned
    intro _ now ready
    refine (bird_meets initial made ready).imp ?_
    intro started later given
    obtain ⟨rfl, running⟩ := given
    exact ⟨inputs, text, link, initial, running, carries⟩

variable {rest : Code Started} {started : Started}

/-- What neither the start nor the others ever break. -/
structure Between (readers : Readers) (resolver : Resolver) (before after : World) : Prop where
  files : after.files = before.files
  orderly : Orderly readers resolver before → Orderly readers resolver after
  untouched : (∀ cfg template inputs, ¬ Prepared readers before.files cfg template inputs) → before.spawned = false →
    before.shared.late = 0 → after.shared = before.shared ∧ after.spawned = false

theorem Between.trans {first second third : World} (one : Between readers resolver first second)
    (two : Between readers resolver second third) : Between readers resolver first third where
  files := two.files.trans one.files
  orderly := two.orderly ∘ one.orderly
  untouched := by
    intro broken idle late
    obtain ⟨same, idle⟩ := one.untouched broken idle late
    rw [← one.files] at broken
    rw [← same] at late
    obtain ⟨same', idle⟩ := two.untouched broken idle late
    exact ⟨same'.trans same, idle⟩

theorem Between.others (others : Others world now) : Between readers resolver world now := by
  obtain ⟨shared, lapsed, same⟩ := others.rest
  refine ⟨?_, fun orderly => orderly.others others, fun _ idle late => ?_⟩
  · rw [same]
  · rw [same]
    exact ⟨lapsed_none lapsed late, idle⟩

theorem Between.steps (steps : Steps readers resolver world now) : Between readers resolver world now := by
  refine ⟨steps.files, steps.orderly, fun broken idle _ => ?_⟩
  rcases steps.touches with same | ⟨cfg, template, inputs, prepared⟩
  · rw [same]
    exact ⟨rfl, idle⟩
  · exact absurd prepared (broken cfg template inputs)

open Host (ownFour ownSix nearSix wiring_added wiring_listed wiring_assigned wiring_raised)
open Awg.Startup (Wiring collected)

def routerText : String :=
  "node:\n  loopback_addresses: [10.62.0.1, 'fd00:62::1']\nbgp_as: 64512\nbypass:\n  include:\n    - kind: dns\n" ++
    "      label: office\n      hostnames: [office.example.com]\n"

def routerCfg : RouterConfig where
  node := ⟨["10.62.0.1", "fd00:62::1"]⟩
  bgpAs := 64512
  bypass := some { includes := [{ kind := "dns", label := some "office", hostnames := some ["office.example.com"] }] }

def templateText : String := "\x7b% for route in bypass %\x7d\x7b\x7b route.net \x7d\x7d\n\x7b% endfor %\x7d"

def mountedFiles (path : String) : Except String String :=
  if path = configPath then .ok routerText else if path = templatePath then .ok templateText else .error "not found"

def mounted (wiring : Wiring) (shared : Tasks.World) (spawned : Bool) : World := ⟨wiring.host, mountedFiles, shared, spawned⟩

/-- The loopback as far as it is made. -/
def looped (up : Bool) (addresses : List IpCidr) : Wiring := { collected with loopback := some (up, addresses) }

/-- BIRD has been started on the text, and has read it or not. -/
def onText (loaded : Option String) (late : Nat) : Tasks.Site := ⟨⟨some "192.0.2.0/24", loaded⟩, late⟩

def ended : World := mounted (looped true [ownFour, ownSix, nearSix]) (Tasks.World.initial (onText (some "192.0.2.0/24") 0)) true

/-- Where BIRD has read its config, that is one more event. -/
theorem Booting.events {site : Tasks.Site} (booting : Booting text site) (ospfInterfaces : List String) :
    ∃ before : List Tasks.Event, before.filterMap Tasks.desired = [] ∧
      before.foldl (Tasks.Site.step ospfInterfaces) ⟨⟨some text, none⟩, 1⟩ = site := by
  rcases booting with rfl | rfl
  · exact ⟨[], rfl, rfl⟩
  · exact ⟨[.reads], rfl, rfl⟩

end Slipmesh.Router.Startup
