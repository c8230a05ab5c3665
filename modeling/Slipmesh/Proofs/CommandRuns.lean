import Slipmesh.Library.Runs
import Slipmesh.Proofs.Commands

/-! Runs of `taloscfg`'s commands, each of which may fail anywhere or be stopped after any of
its writes, with other programs at work on the other files. -/

namespace Slipmesh.Taloscfg
open Common Library

variable {Doc Location : Type} [DecidableEq Location] {tool : Tool Doc Location} {holds : Doc → Holding} {config : String}
  {disk : Disk Location} {topology after : MeshConfig} {curve : Curve} {chance : Chance}

/-- A command runs, and is stopped after so many writes unless it has ended by then; or some
other program writes. -/
inductive Event (Location : Type) where
  | command (chance : Chance) (command : Command) (count : Nat)
  | elsewhere (write : Write Location)

def Tool.step (tool : Tool Doc Location) (config : String) (disk : Disk Location) : Event Location → Disk Location
  | .command chance command count => disk.after ((tool.run config chance disk command).writes.take count)
  | .elsewhere write => disk.write write

/-- `slipmesh.yaml` is written by the commands alone, as `slipmesh.yaml`. -/
def Event.Apart (tool : Tool Doc Location) (config : String) (hosts : List String) : Event Location → Prop
  | .command _ asked _ => asked.Apart tool config hosts
  | .elsewhere write => write.location ≠ tool.locate config

/-- A command that is to edit has ended, and well. -/
def Tool.Completes (tool : Tool Doc Location) (config : String) (disk : Disk Location) : Event Location → Prop
  | .command chance command count => command.Edits ∧ (tool.run config chance disk command).result = .ok () ∧
      (tool.run config chance disk command).writes.length ≤ count
  | .elsewhere _ => False

/-- Every command that has ended well has done what it is for; every other has done it too,
or nothing. -/
inductive Evolves (tool : Tool Doc Location) (config : String) :
    Disk Location × Event Location → MeshConfig → MeshConfig → Prop where
  | does {disk : Disk Location} {chance : Chance} {command : Command} {count : Nat} {topology after : MeshConfig} :
      Effect tool.curve chance topology command after → Evolves tool config (disk, .command chance command count) topology after
  | stays {disk : Disk Location} {event : Event Location} {topology : MeshConfig} :
      ¬ tool.Completes config disk event → Evolves tool config (disk, event) topology topology

/-- No command changes more than the secrets and the clients. -/
theorem effect_layout {command : Command} (effect : Effect curve chance topology command after) :
    after.layout = topology.layout := by
  cases effect with
  | generate => exact layout_recorded
  | rwAdd adds => rw [addClient_eq, layout_withClients, layout_recorded]
  | rwDel found => rw [removeClient_eq, layout_withClients]

omit [DecidableEq Location] in
theorem evolves_hosts {move : Disk Location × Event Location} (evolves : Evolves tool config move topology after) :
    after.hosts = topology.hosts := by
  cases evolves with
  | does effect => exact hosts_of_layout (effect_layout effect)
  | stays => rfl

theorem step_evolves (lawful : tool.Lawful holds) (reads : tool.Reads config disk topology) {event : Event Location}
    (apart : event.Apart tool config topology.hosts) :
    ∃ after, Evolves tool config (disk, event) topology after ∧ tool.Reads config (tool.step config disk event) after := by
  cases event with
  | elsewhere write =>
    obtain ⟨text, file, held, ended, read, same⟩ := reads
    have kept : disk.write write (tool.locate config) = some text := (if_neg fun here => apart here.symm).trans held
    exact ⟨topology, .stays nofun, text, file, kept, ended, read, same⟩
  | command chance command count =>
    by_cases completes : tool.Completes config disk (.command chance command count)
    · obtain ⟨edits, ok, ended⟩ := completes
      obtain ⟨after, effect, reads⟩ := run_done lawful reads apart edits ok
      refine ⟨after, .does effect, ?_⟩
      rw [Tool.step, List.take_of_length_le ended]
      exact reads
    · rcases run_stopped lawful reads apart count with same | ⟨after, effect, reads⟩
      · exact ⟨topology, .stays completes, same⟩
      · exact ⟨after, .does effect, reads⟩

/-- Every run of the commands is a run of what they are for, each done at once or not at all,
and leaves a `slipmesh.yaml` that reads. -/
theorem commands_refine (lawful : tool.Lawful holds) (reads : tool.Reads config disk topology) (events : List (Event Location))
    (apart : ∀ event ∈ events, event.Apart tool config topology.hosts) : ∃ after,
      Path (Evolves tool config) (moves (tool.step config) disk events) topology after ∧
        tool.Reads config (events.foldl (tool.step config) disk) after := by
  have simulates : ∀ event ∈ events, ∀ {disk : Disk Location} {mesh : MeshConfig},
      mesh.hosts = topology.hosts ∧ tool.Reads config disk mesh → ∃ after, Evolves tool config (disk, event) mesh after ∧
        after.hosts = topology.hosts ∧ tool.Reads config (tool.step config disk event) after := by
    intro event member disk mesh given
    obtain ⟨same, reads⟩ := given
    obtain ⟨after, evolves, reads'⟩ := step_evolves lawful reads (same ▸ apart event member)
    exact ⟨after, evolves, (evolves_hosts evolves).trans same, reads'⟩
  obtain ⟨after, path, -, reads⟩ := run_path _ simulates ⟨rfl, reads⟩
  exact ⟨after, path, reads⟩

/-- A patch file is written by hand and another generated; the laptop is to be removed, which is
stopped once before it is written and then ends. -/
def guestsLater : List (Event (List String)) := [
  .elsewhere (.patch "node-b" ["patches", "node-b.yaml"] "# by hand\n"),
  .command guestsChance (.generate oneHost) 1,
  .command guestsChance (.rwDel "guests" "laptop") 0,
  .command guestsChance (.rwDel "guests" "laptop") 1]

theorem guestsLater_apart (doc : Guests) : ∀ event ∈ guestsLater, event.Apart guestsTool "slipmesh.yaml" doc.mesh.hosts := by
  have patches : ∀ host ∈ (threeNodes (some drawnText)).hosts, plainPath (patchPath oneHost host) ≠ ["slipmesh.yaml"] := by decide
  have elsewhere : ["patches", "node-b.yaml"] ≠ ["slipmesh.yaml"] := by decide
  simp only [guestsLater, List.forall_mem_cons]
  exact ⟨elsewhere, patches, trivial, trivial, nofun⟩

/-- The tablet is added first. -/
def guestsEvents : List (Event (List String)) := .command guestsChance (.rwAdd guestRequest false) 1 :: guestsLater

theorem guestsEvents_apart (doc : Guests) : ∀ event ∈ guestsEvents, event.Apart guestsTool "slipmesh.yaml" doc.mesh.hosts :=
  List.forall_mem_cons.mpr ⟨trivial, guestsLater_apart doc⟩

/-- A text is known by its topology. -/
theorem held_guests {disk : Disk (List String)} {doc : Guests} (reads : guestsTool.Reads "slipmesh.yaml" disk doc.mesh) :
    disk ["slipmesh.yaml"] = some doc.text := by
  obtain ⟨text, file, held, -, read, same⟩ := reads
  have opened := read
  simp only [SlipmeshFile.read, bind_ok, mapError_ok] at opened
  obtain ⟨raws, opened, -⟩ := opened
  obtain ⟨other, rfl⟩ := opened_guests opened
  cases (read_guests other).symm.trans read
  have meshes : ∀ first ∈ everyGuests, ∀ second ∈ everyGuests, first.mesh = second.mesh → first = second := by decide +kernel
  rw [meshes other other.listed doc doc.listed same] at held
  exact held

/-- Nothing is missing any more, so that only a patch file is written. -/
theorem generated_guests {disk : Disk (List String)} (held : disk ["slipmesh.yaml"] = some bothGuests.text) :
    guestsTool.step "slipmesh.yaml" disk (.command guestsChance (.generate oneHost) 1) ["slipmesh.yaml"] = some bothGuests.text := by
  have reads : guestsTool.Reads "slipmesh.yaml" disk bothGuests.mesh :=
    ⟨_, _, held, bothGuests.ended, read_guests bothGuests, rfl⟩
  have apart : Command.Apart guestsTool "slipmesh.yaml" bothGuests.mesh.hosts (.generate oneHost) :=
    guestsLater_apart bothGuests (.command guestsChance (.generate oneHost) 1) (by simp [guestsLater])
  have nothing : recorded twoKeys guestsChance.draws bothGuests.mesh = bothGuests.mesh :=
    recorded_nothing reads.names (by decide +kernel)
  rcases run_stopped guestsTool_lawful reads apart 1 with same | ⟨after, effect, after_reads⟩
  · exact held_guests same
  · cases effect
    have settled : guestsTool.curve = twoKeys := rfl
    rw [settled, nothing] at after_reads
    exact held_guests after_reads

theorem guestsLater_end {disk : Disk (List String)} (held : disk ["slipmesh.yaml"] = some bothGuests.text) :
    guestsTool.Reads "slipmesh.yaml" (guestsLater.foldl (guestsTool.step "slipmesh.yaml") disk) tabletOnly.mesh := by
  have removed {disk : Disk (List String)} (held : disk ["slipmesh.yaml"] = some bothGuests.text) :
      guestsTool.step "slipmesh.yaml" disk (.command guestsChance (.rwDel "guests" "laptop") 1) ["slipmesh.yaml"] =
        some tabletOnly.text := by
    rw [Tool.step, rwDel_guests held]
    rfl
  refine ⟨tabletOnly.text, tabletOnly.slipmesh, ?_, tabletOnly.ended, read_guests tabletOnly, rfl⟩
  have elsewhere :
      disk.write (.patch "node-b" ["patches", "node-b.yaml"] "# by hand\n") ["slipmesh.yaml"] = some bothGuests.text := held
  exact removed (generated_guests elsewhere)

/-- In the end the tablet is there and the laptop is not. -/
theorem guestsEvents_end : guestsTool.Reads "slipmesh.yaml"
    (guestsEvents.foldl (guestsTool.step "slipmesh.yaml") (guestsDisk laptopOnly)) tabletOnly.mesh := by
  obtain ⟨text, run⟩ := rwAdd_guests
  rw [guestsEvents, List.foldl_cons]
  apply guestsLater_end
  rw [Tool.step, run]
  rfl

theorem commands_refine_guests :
    Path (Evolves guestsTool "slipmesh.yaml")
      (moves (guestsTool.step "slipmesh.yaml") (guestsDisk laptopOnly) guestsEvents) laptopOnly.mesh tabletOnly.mesh := by
  obtain ⟨after, path, reads⟩ :=
    commands_refine guestsTool_lawful (reads_guests laptopOnly) guestsEvents (guestsEvents_apart laptopOnly)
  rwa [guestsEvents_end.unique reads] at path

/-! ### The secrets -/

theorem names_of_layout (same : after.layout = topology.layout) :
    after.roadwarriors.map (·.name) = topology.roadwarriors.map (·.name) := by
  have names := congrArg (fun mesh => mesh.roadwarriors.map (·.name)) same
  simpa [MeshConfig.layout, Function.comp_def, RoadwarriorPool.layout] using names

/-- The command is one that mints what is missing. -/
def Command.Mints : Command → Prop
  | .generate _ | .rwAdd .. => True
  | .rwDel .. | .rwInspect .. => False

theorem effect_mints {command : Command} (mints : command.Mints) (effect : Effect curve chance topology command after) :
    Settled curve after (resolve curve chance.draws topology).1 := by
  cases effect with
  | generate => exact settled_recorded
  | rwAdd adds =>
    rw [addClient_eq]
    exact settled_recorded.withClients _
  | rwDel found => exact mints.elim

theorem effect_settled {command : Command} {secrets : ResolvedSecrets} (names : (topology.roadwarriors.map (·.name)).Nodup)
    (settled : Settled curve topology secrets) (effect : Effect curve chance topology command after) :
    Settled curve after secrets := by
  have same : recorded curve chance.draws topology = topology := recorded_nothing names (by rw [settled chance.draws])
  cases effect with
  | generate =>
    rw [same]
    exact settled
  | rwAdd adds =>
    rw [addClient_eq, same]
    exact settled.withClients _
  | rwDel found =>
    rw [removeClient_eq]
    exact settled.withClients _

/-- What holds of the topologies that the later commands lead to. -/
theorem later_reads (lawful : tool.Lawful holds) (reads : tool.Reads config disk topology) {later : List (Event Location)}
    (apart : ∀ event ∈ later, event.Apart tool config topology.hosts) {inv : MeshConfig → Prop}
    (keeps : ∀ {chance command count topology after}, .command chance command count ∈ later →
      Effect tool.curve chance topology command after → inv topology → inv after) (start : inv topology) :
    ∃ after, tool.Reads config (later.foldl (tool.step config) disk) after ∧ inv after := by
  obtain ⟨after, path, reads⟩ := commands_refine lawful reads later apart
  refine ⟨after, reads, path.invariant ?_ start⟩
  intro move member first second evolves holds
  obtain ⟨disk, event⟩ := move
  cases evolves with
  | does effect => exact keeps (mem_of_moves member) effect holds
  | stays => exact holds

/-- A command that mints has ended well: whatever the commands do from then on, and wherever
they stop, nothing is minted again and every secret stays as it came out then. -/
theorem secrets_stay (lawful : tool.Lawful holds) (reads : tool.Reads config disk topology) {command : Command} {count : Nat}
    (mints : command.Mints) (spares : command.Apart tool config topology.hosts)
    (completes : tool.Completes config disk (.command chance command count))
    {later : List (Event Location)} (apart : ∀ event ∈ later, event.Apart tool config topology.hosts) : ∃ after,
      tool.Reads config (later.foldl (tool.step config) (tool.step config disk (.command chance command count))) after ∧
        Settled tool.curve after (resolve tool.curve chance.draws topology).1 ∧ after.layout = topology.layout := by
  obtain ⟨edits, ok, ended⟩ := completes
  obtain ⟨middle, effect, reads'⟩ := run_done lawful reads spares edits ok
  rw [Tool.step, List.take_of_length_le ended]
  have known : middle.hosts = topology.hosts := hosts_of_layout (effect_layout effect)
  refine later_reads lawful reads' (known.symm ▸ apart) ?_ ⟨effect_mints mints effect, effect_layout effect⟩
  intro chance command count first second _ effect given
  obtain ⟨settled, same⟩ := given
  have names : (first.roadwarriors.map (·.name)).Nodup := by
    rw [names_of_layout same]
    exact reads.names
  exact ⟨effect_settled names settled effect, (effect_layout effect).trans same⟩

theorem completes_guests : guestsTool.Completes "slipmesh.yaml" (guestsDisk laptopOnly)
    (.command guestsChance (.rwAdd guestRequest false) 1) := by
  obtain ⟨text, run⟩ := rwAdd_guests
  rw [Tool.Completes, run]
  exact ⟨trivial, rfl, Nat.le_refl 1⟩

theorem secrets_stay_guests :
    guestsTool.Reads "slipmesh.yaml" (guestsEvents.foldl (guestsTool.step "slipmesh.yaml") (guestsDisk laptopOnly)) tabletOnly.mesh ∧
      Settled twoKeys tabletOnly.mesh (resolve twoKeys guestsChance.draws laptopOnly.mesh).1 ∧
      tabletOnly.mesh.layout = laptopOnly.mesh.layout := by
  have mints : Command.Mints (.rwAdd guestRequest false) := trivial
  obtain ⟨after, reads, settled, layout⟩ :=
    secrets_stay guestsTool_lawful (reads_guests laptopOnly) mints trivial completes_guests (guestsLater_apart laptopOnly)
  have ends :
      guestsTool.Reads "slipmesh.yaml" (guestsEvents.foldl (guestsTool.step "slipmesh.yaml") (guestsDisk laptopOnly)) after := by
    rw [guestsEvents, List.foldl_cons]
    exact reads
  cases guestsEvents_end.unique ends
  exact ⟨guestsEvents_end, settled, layout⟩

/-! ### One client -/

variable {poolName name : String} {client : RoadwarriorClient}

/-- A client is put at a free place, where nothing else is. -/
theorem added_registry {request : AddRequest} {added : Added} {secrets : ResolvedSecrets} {draws : Draws} {secret : Key}
    (names : (topology.roadwarriors.map (·.name)).Nodup) (adds : add curve topology secrets secret request = .ok added) :
    registry topology (request.pool, request.name) = none ∧ added.client.name = request.name ∧
      registry (addClient (recorded curve draws topology) request.pool added.client) =
        Function.update (registry topology) (request.pool, request.name) (some added.client) := by
  obtain ⟨pool, found, named, fresh⟩ := newClient_of_add adds
  obtain ⟨pool', found', -⟩ := findPool_layout layout_recorded.symm found
  obtain ⟨listed, isPool⟩ := findPool_ok found'
  have fresh' := newClient_recorded (newClient_of_added names adds) pool' listed isPool
  have same : registry (recorded curve draws topology) = registry topology := funext fun _ => clientNamed_recorded
  refine ⟨?_, named, ?_⟩
  · rw [registry, clientNamed_pool found, List.find?_eq_none]
    intro other member
    have differ := fresh.name other member
    rw [named] at differ
    simpa using differ
  · rw [registry_addClient found' fresh'.name, same, named]

theorem effect_keeps {command : Command} (names : (topology.roadwarriors.map (·.name)).Nodup)
    (other : command ≠ .rwDel poolName name) (effect : Effect curve chance topology command after)
    (held : registry topology (poolName, name) = some client) : registry after (poolName, name) = some client := by
  cases effect with
  | generate => exact clientNamed_recorded.trans held
  | @rwAdd request invert added adds =>
    obtain ⟨free, -, put⟩ := added_registry names adds
    have apart : (poolName, name) ≠ (request.pool, request.name) := by
      intro same
      rw [same, free] at held
      cases held
    rw [put, Function.update_of_ne apart, held]
  | @rwDel pool' name' index removed found =>
    have apart : (poolName, name) ≠ (pool', name') := by
      intro same
      cases same
      exact other rfl
    obtain ⟨pool, isPool⟩ : ∃ pool, findPool topology pool' = .ok pool := by
      simp only [findClient, bind_ok] at found
      exact found.imp fun _ => And.left
    rw [registry_removeClient isPool found, Function.update_of_ne apart, held]

/-! ### The config that was shown -/

/-- The client's private key, where it was generated and is not kept. -/
def AddRequest.ownKey (curve : Curve) (secret : Key) (request : AddRequest) : Option String :=
  if request.publicKey.isSome ∨ request.keepPrivate then none else some (generatePrivateKey curve secret)

/-- The key that a client was added with is the one that is inspected. -/
theorem inspectedKey_own {secret : Key} {request : AddRequest} {key : ClientPrivateKey}
    (keys : clientKeys curve secret request.publicKey = .ok (key, client.publicKey))
    (kept : client.privateKey = request.keptKey key) :
    inspectedKey curve client name (request.ownKey curve secret) = .ok key := by
  cases given : request.publicKey with
  | some publicKey =>
    rw [given] at keys
    cases keys
    rw [AddRequest.ownKey, if_pos (.inl (by rw [given]; rfl)), inspectedKey, kept]
    rfl
  | none =>
    simp only [given, clientKeys, bind_ok, mapError_ok, pure_ok, Prod.mk.injEq] at keys
    obtain ⟨derived, made, rfl, rfl⟩ := keys
    by_cases keep : request.keepPrivate
    · rw [AddRequest.ownKey, if_pos (.inr keep), inspectedKey, kept, AddRequest.keptKey, if_pos keep]
      rfl
    · rw [AddRequest.ownKey, if_neg (by simp [given, keep])]
      simp only [inspectedKey, bind_ok, mapError_ok, throw_bind, accept_ok, pure_ok]
      exact ⟨_, made, rfl, trivial⟩

/-- A client's config can be shown again from any topology of the same layout that has the client. -/
theorem inspect_added {mesh : MeshConfig} {secrets : ResolvedSecrets} {secret : Key} {request : AddRequest} {added : Added}
    {key : ClientPrivateKey} {rendered : ClientConfig} (adds : add curve topology secrets secret request = .ok added)
    (shown : added.config = some (key, rendered)) (same : mesh.layout = topology.layout)
    (held : registry mesh (request.pool, request.name) = some added.client) :
    inspect curve mesh secrets request.pool request.name (request.ownKey curve secret) request.endpoint = .ok rendered := by
  obtain ⟨pool, known, steps⟩ := add_ok adds
  obtain ⟨server, side, rfl⟩ := steps.config key rendered shown
  obtain ⟨pool', found, alike⟩ := findPool_layout same.symm steps.found
  obtain ⟨index, member⟩ := findClient_of_named held
  have side' : serverSide curve mesh secrets pool' request.endpoint = .ok server := by
    rw [← serverSide_layout, same, alike, serverSide_layout]
    exact side
  have dns : resolveDns mesh pool' = resolveDns topology pool := by
    rw [← resolveDns_layout, same, alike, resolveDns_layout]
  have own : inspectedKey curve added.client request.name (request.ownKey curve secret) = .ok known :=
    inspectedKey_own steps.keys steps.kept
  simp only [inspect, bind_ok, pure_ok, Prod.exists]
  exact ⟨pool', found, index, added.client, member, server, side', known, own, by rw [dns]⟩

/-- What the config of a client rests on. -/
structure Remains (curve : Curve) (topology : MeshConfig) (secrets : ResolvedSecrets) (place : String × String)
    (client : RoadwarriorClient) (mesh : MeshConfig) : Prop where
  settled : Settled curve mesh secrets
  layout : mesh.layout = topology.layout
  held : registry mesh place = some client

theorem effect_remains {mesh : MeshConfig} {secrets : ResolvedSecrets} {command : Command}
    (names : (topology.roadwarriors.map (·.name)).Nodup) (remains : Remains curve topology secrets (poolName, name) client mesh)
    (other : command ≠ .rwDel poolName name) (effect : Effect curve chance mesh command after) :
    Remains curve topology secrets (poolName, name) client after := by
  have names : (mesh.roadwarriors.map (·.name)).Nodup := by
    rw [names_of_layout remains.layout]
    exact names
  exact ⟨effect_settled names remains.settled effect, (effect_layout effect).trans remains.layout,
    effect_keeps names other effect remains.held⟩

/-- A config that was shown can be shown again as it was, whatever the commands did since, as
long as none was to remove the client: with the client's own key, where that is not kept. -/
theorem exported_stays (lawful : tool.Lawful holds) (reads : tool.Reads config disk topology) {request : AddRequest}
    {invert : Bool} {count : Nat} (exports : request.showConfig = true) (ended : 1 ≤ count) {text : String}
    (shown : (tool.run config chance disk (.rwAdd request invert)).shown.head? = some text) {later : List (Event Location)}
    (apart : ∀ event ∈ later, event.Apart tool config topology.hosts)
    (kept : ∀ chance count, .command chance (.rwDel request.pool request.name) count ∉ later) {chance' : Chance}
    (readable : chance'.readFault config = none) (invert' : Bool) :
    tool.run config chance' (later.foldl (tool.step config) (tool.step config disk (.command chance (.rwAdd request invert) count)))
      (.rwInspect request.pool request.name (request.ownKey tool.curve chance.secret) request.endpoint true false invert') =
        { result := .ok (), shown := [text] } := by
  obtain ⟨added, key, rendered, write, adds, made, rfl, replaces, wrote⟩ := rwAdd_shown lawful reads exports shown
  obtain ⟨middle, effect, reads'⟩ := replaces_reads replaces
  have whole : tool.step config disk (.command chance (.rwAdd request invert) count) = disk.after [write] := by
    rw [Tool.step, wrote, List.take_of_length_le ended]
  have mints : Command.Mints (.rwAdd request invert) := trivial
  have held : registry middle (request.pool, request.name) = some added.client := by
    cases effect with
    | @rwAdd _ _ added' adds' =>
      cases adds.symm.trans adds'
      rw [(added_registry reads.names adds).2.2, Function.update_self]
  have remains : Remains tool.curve topology _ (request.pool, request.name) added.client middle :=
    ⟨effect_mints mints effect, effect_layout effect, held⟩
  have known : middle.hosts = topology.hosts := hosts_of_layout remains.layout
  obtain ⟨after, reads', remains⟩ := later_reads lawful reads' (known.symm ▸ apart) (fun member effect given =>
    effect_remains reads.names given (fun removes => kept _ _ (removes ▸ member)) effect) remains
  rw [whole]
  exact rwInspect_shows lawful reads' remains.settled readable (inspect_added adds made remains.layout remains.held) invert'

theorem exported_stays_guests : ∃ text,
    (guestsTool.run "slipmesh.yaml" guestsChance (guestsDisk laptopOnly) (.rwAdd guestRequest false)).shown.head? = some text ∧
      guestsTool.run "slipmesh.yaml" guestsChance (guestsLater.foldl (guestsTool.step "slipmesh.yaml")
        (guestsTool.step "slipmesh.yaml" (guestsDisk laptopOnly) (.command guestsChance (.rwAdd guestRequest false) 1)))
        (.rwInspect "guests" "tablet" (guestRequest.ownKey twoKeys setKey) (some "198.51.100.7") true false false) =
          { result := .ok (), shown := [text] } := by
  obtain ⟨text, run⟩ := rwAdd_guests
  have shown : (guestsTool.run "slipmesh.yaml" guestsChance (guestsDisk laptopOnly) (.rwAdd guestRequest false)).shown.head? =
      some text := by rw [run, List.head?_cons]
  refine ⟨text, shown, ?_⟩
  apply exported_stays guestsTool_lawful (reads_guests laptopOnly) rfl (Nat.le_refl 1) shown (guestsLater_apart laptopOnly)
  · intro chance count member
    simp [guestsLater, guestRequest] at member
  · rfl

/-! ### All the clients -/

/-- The command is one on the clients. -/
def Command.Registers : Command → Prop
  | .rwAdd .. | .rwDel .. => True
  | .generate _ | .rwInspect .. => False

/-- A client is put at a free place or taken from one, and nothing else changes; where the
command ends well it has done so. -/
inductive Registry (tool : Tool Doc Location) (config : String) : Disk Location × Event Location →
    (String × String → Option RoadwarriorClient) → (String × String → Option RoadwarriorClient) → Prop where
  | puts {disk : Disk Location} {chance : Chance} {request : AddRequest} {invert : Bool} {count : Nat}
      {clients : String × String → Option RoadwarriorClient} {client : RoadwarriorClient} :
      clients (request.pool, request.name) = none → client.name = request.name →
        Registry tool config (disk, .command chance (.rwAdd request invert) count) clients
          (Function.update clients (request.pool, request.name) (some client))
  | takes {disk : Disk Location} {chance : Chance} {pool name : String} {count : Nat}
      {clients : String × String → Option RoadwarriorClient} {client : RoadwarriorClient} : clients (pool, name) = some client →
        Registry tool config (disk, .command chance (.rwDel pool name) count) clients (Function.update clients (pool, name) none)
  | stays {disk : Disk Location} {event : Event Location} {clients : String × String → Option RoadwarriorClient} :
      (∀ chance command count, event = .command chance command count → command.Registers → ¬ tool.Completes config disk event) →
        Registry tool config (disk, event) clients clients

omit [DecidableEq Location] in
theorem effect_registers {disk : Disk Location} {count : Nat} {command : Command}
    (names : (topology.roadwarriors.map (·.name)).Nodup) (distinct : NamesDistinct topology)
    (effect : Effect tool.curve chance topology command after) :
    Registry tool config (disk, .command chance command count) (registry topology) (registry after) ∧ NamesDistinct after := by
  cases effect with
  | generate =>
    have same : registry (recorded tool.curve chance.draws topology) = registry topology := funext fun _ => clientNamed_recorded
    rw [same]
    refine ⟨.stays ?_, distinct.recorded⟩
    intro chance command count same registers
    cases same
    exact registers.elim
  | @rwAdd request invert added adds =>
    obtain ⟨free, named, put⟩ := added_registry names adds
    rw [put]
    refine ⟨.puts free named, distinct.recorded.addClient ?_⟩
    intro pool listed same
    exact (newClient_recorded (newClient_of_added names adds) pool listed same).name
  | @rwDel pool name index client found =>
    obtain ⟨isPool, hosts⟩ : ∃ isPool, findPool topology pool = .ok isPool := by
      simp only [findClient, bind_ok] at found
      exact found.imp fun _ => And.left
    obtain ⟨here, rfl, held⟩ := findClient_named hosts found
    have gone := removed_gone (distinct isPool (findPool_ok hosts).1) here
    rw [registry_removeClient hosts found, gone]
    exact ⟨.takes held, distinct.removeClient index⟩

/-- Where no pool has two clients of one name, a run of the commands is a run over the clients
by the names of pool and client, where no client is ever replaced or lost on the way. -/
theorem registry_refined (lawful : tool.Lawful holds) (reads : tool.Reads config disk topology) (distinct : NamesDistinct topology)
    (events : List (Event Location)) (apart : ∀ event ∈ events, event.Apart tool config topology.hosts) : ∃ after,
      Path (Registry tool config) (moves (tool.step config) disk events) (registry topology) (registry after) ∧
        NamesDistinct after ∧ tool.Reads config (events.foldl (tool.step config) disk) after := by
  have simulates : ∀ event ∈ events, ∀ {disk : Disk Location} {clients},
      (∃ mesh, registry mesh = clients ∧ mesh.hosts = topology.hosts ∧ NamesDistinct mesh ∧ tool.Reads config disk mesh) → ∃ clients',
        Registry tool config (disk, event) clients clients' ∧ ∃ mesh, registry mesh = clients' ∧ mesh.hosts = topology.hosts ∧
          NamesDistinct mesh ∧ tool.Reads config (tool.step config disk event) mesh := by
    intro event member disk clients given
    obtain ⟨mesh, rfl, same, distinct, reads⟩ := given
    obtain ⟨after, evolves, reads'⟩ := step_evolves lawful reads (same ▸ apart event member)
    have known := (evolves_hosts evolves).trans same
    cases evolves with
    | does effect =>
      obtain ⟨does, distinct⟩ := effect_registers reads.names distinct effect
      exact ⟨_, does, after, rfl, known, distinct, reads'⟩
    | stays unfinished => exact ⟨_, .stays fun _ _ _ _ _ => unfinished, mesh, rfl, same, distinct, reads'⟩
  obtain ⟨clients, path, after, rfl, -, distinct, reads⟩ := run_path _ simulates ⟨topology, rfl, rfl, distinct, reads⟩
  exact ⟨after, path, distinct, reads⟩

theorem registry_refined_guests :
    Path (Registry guestsTool "slipmesh.yaml") (moves (guestsTool.step "slipmesh.yaml") (guestsDisk laptopOnly) guestsEvents)
      (registry laptopOnly.mesh) (registry tabletOnly.mesh) ∧
      registry tabletOnly.mesh ("guests", "laptop") = none ∧ registry tabletOnly.mesh ("guests", "tablet") = some guestTablet := by
  have distinct : NamesDistinct laptopOnly.mesh := by
    intro pool listed
    cases List.mem_singleton.mp listed
    decide
  obtain ⟨after, path, -, reads⟩ :=
    registry_refined guestsTool_lawful (reads_guests laptopOnly) distinct guestsEvents (guestsEvents_apart laptopOnly)
  rw [guestsEvents_end.unique reads] at path
  exact ⟨path, by decide, by decide⟩

end Slipmesh.Taloscfg
