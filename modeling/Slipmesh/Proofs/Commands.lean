import Slipmesh.Proofs.DecodableKeys
import Slipmesh.Proofs.Generate
import Slipmesh.Taloscfg.Commands

/-! What one command makes of `slipmesh.yaml`: all of its edit, or nothing, wherever it
stops. -/

namespace Slipmesh.Taloscfg
open Common Library Yaml

/-! ### The tool -/

variable {Doc Location : Type} {tool : Tool Doc Location} {holds : Doc → Holding} {config : String} {chance : Chance}
  {disk : Disk Location} {topology : MeshConfig} {yaml edited : Doc} {file : SlipmeshFile}

/-- The libraries do what they say in every run, and what reads as `slipmesh.yaml` can be edited. -/
structure Tool.Lawful (tool : Tool Doc Location) (holds : Doc → Holding) : Prop where
  world : ∀ chance, (tool.world chance).Lawful holds
  parses : ∀ {raw file}, SlipmeshFile.read tool.renderer.toSerde raw = .ok file → ∃ yaml, tool.parse raw = .ok yaml

/-- `slipmesh.yaml` is of whole lines, reads, and is of the topology. -/
def Tool.Reads (tool : Tool Doc Location) (config : String) (disk : Disk Location) (topology : MeshConfig) : Prop :=
  ∃ text file, disk (tool.locate config) = some text ∧ Ended text ∧
    SlipmeshFile.read tool.renderer.toSerde text = .ok file ∧ file.topology = topology

theorem Tool.Reads.valid (reads : tool.Reads config disk topology) : validate topology = .ok () := by
  obtain ⟨text, file, _, _, read, rfl⟩ := reads
  exact validate_of_read read

theorem Tool.Reads.names (reads : tool.Reads config disk topology) : (topology.roadwarriors.map (·.name)).Nodup :=
  (validate_ok reads.valid).pools

theorem Tool.Reads.unique {other : MeshConfig} (reads : tool.Reads config disk topology) (again : tool.Reads config disk other) :
    other = topology := by
  obtain ⟨text, file, held, _, read, rfl⟩ := reads
  obtain ⟨_, _, held', _, read', rfl⟩ := again
  cases held.symm.trans held'
  cases read.symm.trans read'
  rfl

theorem readSlipmesh_holds (lawful : tool.Lawful holds) (reads : tool.Reads config disk topology) {options : Options}
    (here : options.config = config) (ok : readSlipmesh (tool.world chance) options disk = .ok (yaml, file)) :
    Ended (tool.print yaml) ∧ (holds yaml).Of file ∧ file.topology = topology := by
  obtain ⟨raw, opened, parsed, read⟩ := readSlipmesh_ok.mp ok
  obtain ⟨text, _, held, ended, read', rfl⟩ := reads
  have same : raw = text := by
    rw [readFile, here] at opened
    split at opened
    · cases opened
    · change (disk (tool.locate config)).elim _ _ = _ at opened
      rw [held] at opened
      cases opened
      rfl
  subst same
  have printed : tool.print yaml = raw := (lawful.world chance).printed parsed
  rw [← printed] at read read' ended
  cases read.symm.trans read'
  exact ⟨ended, (lawful.world chance).holding read, rfl⟩

/-- A file that reads is one that a command can open. -/
theorem Tool.Reads.opens (reads : tool.Reads config disk topology) (lawful : tool.Lawful holds)
    (readable : chance.readFault config = none) :
    ∃ yaml file, readSlipmesh (tool.world chance) { config } disk = .ok (yaml, file) ∧ file.topology = topology := by
  obtain ⟨text, file, held, _, read, rfl⟩ := reads
  obtain ⟨yaml, parsed⟩ := lawful.parses read
  refine ⟨yaml, file, readSlipmesh_ok.mpr ⟨text, ?_, parsed, read⟩, rfl⟩
  have unfaulted : (tool.world chance).readFault config = none := readable
  have found : disk ((tool.world chance).locate config) = some text := held
  rw [readFile, unfaulted, found]
  rfl

/-! ### What a command is for -/

/-- What a command makes of the topology. -/
inductive Effect (curve : Curve) (chance : Chance) (topology : MeshConfig) : Command → MeshConfig → Prop where
  | generate {options : Options} : options.check = false → options.diff = false →
      Effect curve chance topology (.generate options) (recorded curve chance.draws topology)
  | rwAdd {request : AddRequest} {invert : Bool} {added : Added} :
      add curve topology (resolve curve chance.draws topology).1 chance.secret request = .ok added →
        Effect curve chance topology (.rwAdd request invert)
          (addClient (recorded curve chance.draws topology) request.pool added.client)
  | rwDel {pool name : String} {index : Nat} {client : RoadwarriorClient} : findClient topology pool name = .ok (index, client) →
      Effect curve chance topology (.rwDel pool name) (removeClient topology pool index)

theorem poolDocument_ok {name : String} {document : Nat} (ok : poolDocument file name = .ok document) :
    (∃ pool, findPool file.topology name = .ok pool) ∧ file.poolDocument name = some document := by
  simp only [poolDocument, bind_ok, mapError_ok, elim_ok] at ok
  obtain ⟨pool, found, here⟩ := ok
  exact ⟨⟨pool, found⟩, here⟩

/-- A client who is new to a pool is new to it whatever is recorded. -/
theorem newClient_recorded {curve : Curve} {draws : Draws} {mesh : MeshConfig} {poolName : String} {client : RoadwarriorClient}
    (fresh : ∀ pool ∈ mesh.roadwarriors, pool.name = poolName → NewClient curve pool client) :
    ∀ pool ∈ (recorded curve draws mesh).roadwarriors, pool.name = poolName → NewClient curve pool client := by
  intro pool member named
  obtain ⟨⟨before, index⟩, listed, rfl⟩ := List.mem_map.mp member
  change (recordedPool curve draws mesh before index).name = poolName at named
  change NewClient curve (recordedPool curve draws mesh before index) client
  rw [recordedPool_name] at named
  obtain ⟨name, publicKey, networks, protection, keyOf⟩ := fresh before (List.fst_mem_of_mem_zipIdx listed) named
  rw [recordedPool_eq]
  exact ⟨name, publicKey, networks, protection, keyOf⟩

theorem newClient_of_added {curve : Curve} {mesh : MeshConfig} {secrets : ResolvedSecrets} {secret : Key} {request : AddRequest}
    {added : Added} (names : (mesh.roadwarriors.map (·.name)).Nodup) (ok : add curve mesh secrets secret request = .ok added) :
    ∀ pool ∈ mesh.roadwarriors, pool.name = request.pool → NewClient curve pool added.client := by
  intro pool listed named
  obtain ⟨found, isPool, -, fresh⟩ := newClient_of_add ok
  rw [← named] at isPool
  cases findPool_eq names listed isPool
  exact fresh

theorem prepareAdd_holds (lawful : tool.Lawful holds) (reads : tool.Reads config disk topology) {request : AddRequest} {added : Added}
    {updated : String} (ok : prepareAdd tool config chance disk request = .ok (added, updated)) :
    add tool.curve topology (resolve tool.curve chance.draws topology).1 chance.secret request = .ok added ∧
      ∃ yaml, updated = tool.print yaml ∧ Ended updated ∧
        (holds yaml).topology = addClient (recorded tool.curve chance.draws topology) request.pool added.client := by
  simp only [prepareAdd, bind_ok, mapError_ok, pure_ok, Prod.exists, Prod.mk.injEq] at ok
  obtain ⟨yaml, file, opened, document, placed, secrets, minted, settled, settles, committed, commits, added', adds, final, edits,
    rfl, rfl⟩ := ok
  obtain ⟨lines, is, rfl⟩ := readSlipmesh_holds lawful reads rfl opened
  obtain ⟨resolved, wrote⟩ := settleSecrets_ok settles
  have lawful := lawful.world chance
  obtain ⟨lines, same, directory⟩ := settled_holds lawful lines is reads.names resolved (wrote.imp_right (·.2.2))
  obtain ⟨-, here⟩ := poolDocument_ok placed
  obtain ⟨lines, committed_same⟩ := lawful.editor.commit lines commits
  have names : ((holds committed).topology.roadwarriors.map (·.name)).Nodup := by
    rw [committed_same, ← Holding.directory_names, directory, Holding.directory_names, ← is.topology]
    exact reads.names
  have found : ((holds committed).directory.find? (·.2 = request.pool)).map Prod.fst = some document := by
    rw [committed_same, directory, ← poolDocument_eq is, here]
  have fresh : ∀ pool ∈ (holds committed).topology.roadwarriors, pool.name = request.pool →
      NewClient tool.curve pool added'.client := by
    rw [committed_same, same]
    exact newClient_recorded (newClient_of_added reads.names adds)
  have drawn : (resolve tool.curve chance.draws file.topology).1 = secrets := congrArg Prod.fst resolved
  obtain ⟨lines, edited⟩ := addClient_edits lawful.editor lines names found fresh edits
  refine ⟨drawn ▸ adds, final, rfl, lines, ?_⟩
  rw [edited, committed_same, same]
  rfl

theorem prepareDel_holds (lawful : tool.Lawful holds) (reads : tool.Reads config disk topology) {pool name updated : String}
    (ok : prepareDel tool config chance disk pool name = .ok updated) : ∃ index client,
      findClient topology pool name = .ok (index, client) ∧ ∃ yaml, updated = tool.print yaml ∧ Ended updated ∧
        (holds yaml).topology = removeClient topology pool index := by
  simp only [prepareDel, bind_ok, mapError_ok, pure_ok, Prod.exists] at ok
  obtain ⟨yaml, file, opened, document, placed, index, client, found, edited, edits, rfl⟩ := ok
  obtain ⟨lines, is, rfl⟩ := readSlipmesh_holds lawful reads rfl opened
  obtain ⟨-, here⟩ := poolDocument_ok placed
  have names : ((holds yaml).topology.roadwarriors.map (·.name)).Nodup := is.topology ▸ reads.names
  rw [poolDocument_eq is] at here
  obtain ⟨lines, removed⟩ := removeClient_edits (lawful.world chance).editor lines names here edits
  refine ⟨index, client, found, edited, rfl, lines, ?_⟩
  rw [removed, is.topology]

theorem hosts_of_layout {after : MeshConfig} (same : after.layout = topology.layout) : after.hosts = topology.hosts := by
  have names := congrArg (fun mesh => mesh.nodes.map (·.name)) same
  simpa [MeshConfig.layout, MeshConfig.hosts, Function.comp_def, NodeEntry.layout] using names

/-- The text that `generate` would replace `slipmesh.yaml` with has everything recorded. -/
theorem updated_reads (lawful : tool.Lawful holds) (reads : tool.Reads config disk topology) {options : Options} {plan : Plan}
    (here : options.config = config) (prepared : Prepared (tool.world chance) options disk plan) {file : SlipmeshFile}
    (read : SlipmeshFile.read tool.renderer.toSerde plan.updated = .ok file) :
    Ended plan.updated ∧ file.topology = recorded tool.curve chance.draws topology ∧ file.hosts = topology.hosts := by
  have opened := readSlipmesh_ok.mpr ⟨prepared.raw, prepared.opened, prepared.parsed, prepared.read⟩
  obtain ⟨ended, -, rfl⟩ := readSlipmesh_holds lawful reads here opened
  have printed : tool.print prepared.yaml = prepared.raw := (lawful.world chance).printed prepared.parsed
  rw [printed] at ended
  obtain ⟨after, hosts⟩ := updated_topology (lawful.world chance) prepared ended read
  refine ⟨?_, after, hosts.trans (hosts_of_layout layout_recorded)⟩
  rw [prepared.updated]
  exact ended_append _ _

/-- Patch files are written for the hosts of the network. -/
theorem targets_known (lawful : tool.Lawful holds) (reads : tool.Reads config disk topology) {options : Options} {plan : Plan}
    (here : options.config = config) (prepared : Prepared (tool.world chance) options disk plan) :
    ∀ target ∈ targets options prepared.file, target ∈ topology.hosts := by
  have opened := readSlipmesh_ok.mpr ⟨prepared.raw, prepared.opened, prepared.parsed, prepared.read⟩
  obtain ⟨-, is, same⟩ := readSlipmesh_holds lawful reads here opened
  have original : prepared.original.hosts = topology.hosts := by
    rw [is.hosts, ← same, is.topology]
    rfl
  have known : prepared.file.hosts = topology.hosts := by
    rcases prepared.extended with ⟨-, unchanged⟩ | ⟨-, read⟩
    · rw [unchanged, original]
    · exact (updated_reads lawful reads here prepared read).2.2
  intro target member
  rw [targets] at member
  cases chosen : options.node with
  | none =>
    rw [chosen] at member
    exact known ▸ member
  | some node =>
    rw [chosen] at member
    rw [List.mem_singleton.mp member, ← original]
    exact prepared.known node chosen

/-! ### What a command writes -/

/-- The patch files of `generate` are files of their own. -/
def Command.Apart (tool : Tool Doc Location) (config : String) (hosts : List String) : Command → Prop
  | .generate options => ∀ host ∈ hosts, tool.locate (patchPath options host) ≠ tool.locate config
  | _ => True

/-- The command replaces `slipmesh.yaml` by what it is for, before it writes anything else. -/
inductive Replaces (tool : Tool Doc Location) (config : String) (chance : Chance) (topology : MeshConfig) (command : Command) :
    List (Write Location) → Prop where
  | first {text : String} {file : SlipmeshFile} {writes : List (Write Location)} :
      Ended text → SlipmeshFile.read tool.renderer.toSerde text = .ok file →
        Effect tool.curve chance topology command file.topology →
        (∀ write ∈ writes, write.location ≠ tool.locate config) →
        Replaces tool config chance topology command (.slipmesh (tool.locate config) text :: writes)

/-- The command leaves `slipmesh.yaml` alone. -/
def Spares (tool : Tool Doc Location) (config : String) (writes : List (Write Location)) : Prop :=
  ∀ write ∈ writes, write.location ≠ tool.locate config

theorem spares_nothing : Spares tool config [] := List.forall_mem_nil _

theorem writeText_replaces (lawful : tool.Lawful holds) {command : Command} {after : MeshConfig} (lines : Ended (tool.print yaml))
    (same : (holds yaml).topology = after) (effect : Effect tool.curve chance topology command after) {write : Write Location}
    (wrote : writeText (tool.world chance) { config } (tool.print yaml) = .ok write) :
    Replaces tool config chance topology command [write] := by
  obtain ⟨rfl, -, file, read⟩ := writeText_ok wrote
  have holding : file.topology = after := ((lawful.world chance).holding read).topology.trans same
  exact .first lines read (holding ▸ effect) (List.forall_mem_nil _)

/-- What `rw-add` comes to: nothing, or the client written down, and shown as it was asked for. -/
inductive AddRun (tool : Tool Doc Location) (config : String) (chance : Chance) (topology : MeshConfig) (request : AddRequest)
    (invert : Bool) : Outcome Location → Prop where
  | refused (error : CommandError) : AddRun tool config chance topology request invert { result := .error error }
  | wrote {added : Added} {write : Write Location} :
      add tool.curve topology (resolve tool.curve chance.draws topology).1 chance.secret request = .ok added →
        Replaces tool config chance topology (.rwAdd request invert) [write] →
        AddRun tool config chance topology request invert {
          result := (added.config.elim (.ok (), []) fun rendered =>
            tool.display request.showConfig request.qr invert rendered.2.text).1
          writes := [write]
          shown := (added.config.elim (.ok (), []) fun rendered =>
            tool.display request.showConfig request.qr invert rendered.2.text).2 }

theorem display_first (qr invert : Bool) (text : String) : (tool.display true qr invert text).2.head? = some text := by
  rw [Tool.display]
  cases qr with
  | false => rfl
  | true => cases tool.renderQr text invert <;> rfl

theorem rwAdd_run (lawful : tool.Lawful holds) (reads : tool.Reads config disk topology) (request : AddRequest) (invert : Bool) :
    AddRun tool config chance topology request invert (tool.rwAdd config chance disk request invert) := by
  rw [Tool.rwAdd]
  cases prepared : prepareAdd tool config chance disk request with
  | error error => exact .refused error
  | ok made =>
    obtain ⟨added, updated⟩ := made
    obtain ⟨adds, yaml, rfl, lines, same⟩ := prepareAdd_holds lawful reads prepared
    cases wrote : writeText (tool.world chance) { config } (tool.print yaml) with
    | error error =>
      simp only [wrote]
      exact .refused (.generate error)
    | ok write =>
      have replaces : Replaces tool config chance topology (.rwAdd request invert) [write] :=
        writeText_replaces lawful lines same (.rwAdd adds) wrote
      have run := AddRun.wrote adds replaces
      cases shown : added.config with
      | none => simpa [wrote, shown] using run
      | some rendered => simpa [wrote, shown] using run

/-- A config is shown once the client is written down. -/
theorem rwAdd_shown (lawful : tool.Lawful holds) (reads : tool.Reads config disk topology) {request : AddRequest} {invert : Bool}
    (exports : request.showConfig = true) {text : String}
    (shown : (tool.run config chance disk (.rwAdd request invert)).shown.head? = some text) : ∃ added key rendered write,
      add tool.curve topology (resolve tool.curve chance.draws topology).1 chance.secret request = .ok added ∧
        added.config = some (key, rendered) ∧ text = rendered.text ∧
        Replaces tool config chance topology (.rwAdd request invert) [write] ∧
        (tool.run config chance disk (.rwAdd request invert)).writes = [write] := by
  have run : AddRun tool config chance topology request invert (tool.rwAdd config chance disk request invert) :=
    rwAdd_run lawful reads request invert
  simp only [Tool.run] at shown ⊢
  generalize tool.rwAdd config chance disk request invert = outcome at run shown
  cases run with
  | refused error => cases shown
  | @wrote added write adds replaces =>
    cases made : added.config with
    | none => simp [made] at shown
    | some config =>
      obtain ⟨key, rendered⟩ := config
      simp only [made, Option.elim_some, exports, display_first, Option.some.injEq] at shown
      exact ⟨added, key, rendered, write, adds, made, shown.symm, replaces, rfl⟩

/-- What `rw-del` comes to: nothing, or the client removed. -/
theorem rwDel_run (lawful : tool.Lawful holds) (reads : tool.Reads config disk topology) (pool name : String) :
    (∃ error, tool.rwDel config chance disk pool name = { result := .error error }) ∨
      ∃ write, Replaces tool config chance topology (.rwDel pool name) [write] ∧
        tool.rwDel config chance disk pool name = { result := .ok (), writes := [write] } := by
  rw [Tool.rwDel]
  cases prepared : prepareDel tool config chance disk pool name with
  | error error => exact .inl ⟨error, rfl⟩
  | ok updated =>
    obtain ⟨index, client, found, yaml, rfl, lines, same⟩ := prepareDel_holds lawful reads prepared
    cases wrote : writeText (tool.world chance) { config } (tool.print yaml) with
    | error error => exact .inl ⟨.generate error, by simp [wrote]⟩
    | ok write => exact .inr ⟨write, writeText_replaces lawful lines same (.rwDel found) wrote, by simp [wrote]⟩

/-- Where no secret is missing, the client's config is shown. -/
theorem rwInspect_shows (lawful : tool.Lawful holds) (reads : tool.Reads config disk topology) {secrets : ResolvedSecrets}
    (settled : Settled tool.curve topology secrets) (readable : chance.readFault config = none) {pool name : String}
    {privateKey endpoint : Option String} {rendered : ClientConfig}
    (inspects : inspect tool.curve topology secrets pool name privateKey endpoint = .ok rendered) (invert : Bool) :
    tool.run config chance disk (.rwInspect pool name privateKey endpoint true false invert) =
      { result := .ok (), shown := [rendered.text] } := by
  obtain ⟨yaml, file, opened, rfl⟩ := reads.opens lawful readable
  have prepared : prepareInspect tool config chance disk pool name privateKey endpoint = .ok rendered := by
    simp only [prepareInspect, bind_ok, mapError_ok, Prod.exists, throw_bind, refuse_ok]
    refine ⟨yaml, file, opened, ?_⟩
    rw [settled chance.draws]
    exact ⟨Bool.false_ne_true, inspects⟩
  rw [Tool.run, Tool.rwInspect, prepared]
  rfl

section
variable {options : Options} {plan : Plan}

theorem carryOut_replaces (lawful : tool.Lawful holds) (reads : tool.Reads config disk topology)
    (apart : (Command.generate options).Apart tool config topology.hosts)
    (prepared : Prepared (tool.world chance) { options with config } disk plan) :
    Spares tool config (carryOut (tool.world chance) { options with config } plan).2 ∨
      Replaces tool config chance topology (.generate options) (carryOut (tool.world chance) { options with config } plan).2 := by
  by_cases writes : plan.Writes (tool.world chance) { options with config }
  · have patches : Spares tool config (writeHosts (tool.world chance) { options with config } plan).2 := by
      intro write member
      obtain ⟨name, listed, content, rfl⟩ := writeHosts_patches prepared write member
      exact apart name (targets_known lawful reads rfl prepared name listed)
    rw [carryOut_writes writes]
    by_cases replaces : plan.Replaces
    · obtain ⟨⟨file, read⟩, -⟩ := writes.replaced replaces
      obtain ⟨ended, after, -⟩ := updated_reads lawful reads rfl prepared read
      have effect : Effect tool.curve chance topology (.generate options) file.topology :=
        after ▸ .generate writes.check writes.diff
      rw [if_pos replaces]
      exact .inr (.first ended read effect patches)
    · rw [if_neg replaces]
      exact .inl patches
  · rw [carryOut_nothing prepared writes]
    exact .inl spares_nothing

/-- A run that ends well has recorded what it had to. -/
theorem carryOut_done (lawful : tool.Lawful holds) (reads : tool.Reads config disk topology)
    (prepared : Prepared (tool.world chance) { options with config } disk plan) (diff : options.diff = false)
    (ok : (carryOut (tool.world chance) { options with config } plan).1 = .ok ()) :
    recorded tool.curve chance.draws topology = topology ∨ ∃ text rest,
      (carryOut (tool.world chance) { options with config } plan).2 = .slipmesh (tool.locate config) text :: rest := by
  have opened := readSlipmesh_ok.mpr ⟨prepared.raw, prepared.opened, prepared.parsed, prepared.read⟩
  obtain ⟨-, -, same⟩ := readSlipmesh_holds lawful reads rfl opened
  have minted : plan.minted = (resolve tool.curve chance.draws topology).2 := prepared.minted_eq.trans (by rw [same]; rfl)
  rw [carryOut, if_neg (by simp [diff])] at ok ⊢
  by_cases replaces : plan.Replaces
  · rw [if_pos replaces] at ok ⊢
    cases wrote : writeText (tool.world chance) { options with config } plan.updated with
    | error error => simp [wrote] at ok
    | ok write =>
      obtain ⟨rfl, -⟩ := writeText_ok wrote
      exact .inr ⟨_, _, rfl⟩
  · have quiet : routes plan.minted = "" := by
      by_contra named
      exact replaces (.inl named)
    rw [minted] at quiet
    exact .inl (recorded_nothing reads.names (minted_nothing (minted_of_routes _ _ _ quiet)))

end

theorem generate_run (lawful : tool.Lawful holds) (reads : tool.Reads config disk topology) {options : Options}
    (apart : (Command.generate options).Apart tool config topology.hosts) :
    Spares tool config (tool.generate config chance disk options).writes ∨
      Replaces tool config chance topology (.generate options) (tool.generate config chance disk options).writes := by
  have same : (tool.generate config chance disk options).writes =
      ((tool.world chance).generate { options with config } disk).2 := rfl
  rw [same, World.generate]
  cases planned : prepare (tool.world chance) { options with config } disk with
  | error error => exact .inl spares_nothing
  | ok plan =>
    obtain ⟨prepared⟩ := prepare_ok planned
    exact carryOut_replaces lawful reads apart prepared

theorem generate_done (lawful : tool.Lawful holds) (reads : tool.Reads config disk topology) {options : Options}
    (diff : options.diff = false) (ok : (tool.generate config chance disk options).result = .ok ()) :
    recorded tool.curve chance.draws topology = topology ∨
      ¬ Spares tool config (tool.generate config chance disk options).writes := by
  have result : (tool.generate config chance disk options).result =
      ((tool.world chance).generate { options with config } disk).1.mapError .generate := rfl
  have writes : (tool.generate config chance disk options).writes =
      ((tool.world chance).generate { options with config } disk).2 := rfl
  rw [result, mapError_ok, World.generate] at ok
  rw [writes, World.generate]
  cases planned : prepare (tool.world chance) { options with config } disk with
  | error error => simp [planned] at ok
  | ok plan =>
    obtain ⟨prepared⟩ := prepare_ok planned
    simp only [planned] at ok ⊢
    refine (carryOut_done lawful reads prepared diff ok).imp_right ?_
    intro given spares
    obtain ⟨text, rest, same⟩ := given
    rw [same] at spares
    exact spares _ (List.mem_cons_self ..) rfl

/-- Whatever the command, it replaces `slipmesh.yaml` by what it is for, or leaves it alone. -/
theorem run_replaces (lawful : tool.Lawful holds) (reads : tool.Reads config disk topology) {command : Command}
    (apart : command.Apart tool config topology.hosts) : Spares tool config (tool.run config chance disk command).writes ∨
      Replaces tool config chance topology command (tool.run config chance disk command).writes := by
  cases command with
  | generate options => exact generate_run lawful reads apart
  | rwAdd request invert =>
    have run : AddRun tool config chance topology request invert (tool.rwAdd config chance disk request invert) :=
      rwAdd_run lawful reads request invert
    simp only [Tool.run]
    generalize tool.rwAdd config chance disk request invert = outcome at run
    cases run with
    | refused error => exact .inl spares_nothing
    | wrote adds replaces => exact .inr replaces
  | rwDel pool name =>
    simp only [Tool.run]
    rcases rwDel_run lawful reads pool name with ⟨error, same⟩ | ⟨write, replaces, same⟩
    · rw [same]
      exact .inl spares_nothing
    · rw [same]
      exact .inr replaces
  | rwInspect pool name privateKey endpoint showConfig qr invert =>
    rw [Tool.run, Tool.rwInspect]
    cases prepareInspect tool config chance disk pool name privateKey endpoint with
    | error error => exact .inl spares_nothing
    | ok rendered => exact .inl spares_nothing

/-- The command is to edit `slipmesh.yaml`. -/
def Command.Edits : Command → Prop
  | .generate options => options.check = false ∧ options.diff = false
  | .rwAdd .. | .rwDel .. => True
  | .rwInspect .. => False

/-! ### Where a command stops -/

variable [DecidableEq Location]

theorem spares_reads (reads : tool.Reads config disk topology) {writes : List (Write Location)}
    (spares : Spares tool config writes) :
    tool.Reads config (disk.after writes) topology := by
  obtain ⟨text, file, held, ended, read, same⟩ := reads
  exact ⟨text, file, (after_other disk spares).trans held, ended, read, same⟩

theorem replaces_reads {command : Command} {writes : List (Write Location)}
    (replaces : Replaces tool config chance topology command writes) :
    ∃ after, Effect tool.curve chance topology command after ∧ tool.Reads config (disk.after writes) after := by
  cases replaces with
  | @first text file rest ended read effect elsewhere =>
    exact ⟨file.topology, effect, text, file, after_first disk elsewhere, ended, read, rfl⟩

/-- Stopped after any of its writes, a command has done what it is for, or nothing at all. -/
theorem run_stopped (lawful : tool.Lawful holds) (reads : tool.Reads config disk topology) {command : Command}
    (apart : command.Apart tool config topology.hosts) (count : Nat) :
    tool.Reads config (disk.after ((tool.run config chance disk command).writes.take count)) topology ∨
      ∃ after, Effect tool.curve chance topology command after ∧
        tool.Reads config (disk.after ((tool.run config chance disk command).writes.take count)) after := by
  have either : Spares tool config (tool.run config chance disk command).writes ∨
      Replaces tool config chance topology command (tool.run config chance disk command).writes := run_replaces lawful reads apart
  generalize (tool.run config chance disk command).writes = writes at either
  rcases either with spares | replaces
  · exact .inl (spares_reads reads fun write member => spares write (List.mem_of_mem_take member))
  · cases count with
    | zero => exact .inl reads
    | succ count =>
      cases replaces with
      | first ended read effect elsewhere =>
        rw [List.take_succ_cons]
        exact .inr (replaces_reads (.first ended read effect fun write member => elsewhere write (List.mem_of_mem_take member)))

/-- A command that edits, and ends well, has done what it is for. -/
theorem run_done (lawful : tool.Lawful holds) (reads : tool.Reads config disk topology) {command : Command}
    (apart : command.Apart tool config topology.hosts) (edits : command.Edits)
    (ok : (tool.run config chance disk command).result = .ok ()) :
    ∃ after, Effect tool.curve chance topology command after ∧
      tool.Reads config (disk.after (tool.run config chance disk command).writes) after := by
  cases command with
  | generate options =>
    obtain ⟨check, diff⟩ := edits
    have either : Spares tool config (tool.generate config chance disk options).writes ∨
        Replaces tool config chance topology (.generate options) (tool.generate config chance disk options).writes :=
      generate_run lawful reads apart
    rcases either with spares | replaces
    · rcases generate_done lawful reads diff ok with same | wrote
      · have effect : Effect tool.curve chance topology (.generate options) (recorded tool.curve chance.draws topology) :=
          .generate check diff
        exact ⟨_, effect, same.symm ▸ spares_reads reads spares⟩
      · exact absurd spares wrote
    · exact replaces_reads replaces
  | rwAdd request invert =>
    have run : AddRun tool config chance topology request invert (tool.rwAdd config chance disk request invert) :=
      rwAdd_run lawful reads request invert
    simp only [Tool.run] at ok ⊢
    generalize tool.rwAdd config chance disk request invert = outcome at run ok
    cases run with
    | refused error => cases ok
    | wrote adds replaces => exact replaces_reads replaces
  | rwDel pool name =>
    simp only [Tool.run] at ok ⊢
    rcases rwDel_run lawful reads pool name with ⟨error, same⟩ | ⟨write, replaces, same⟩
    · rw [same] at ok
      cases ok
    · rw [same]
      exact replaces_reads replaces
  | rwInspect pool name privateKey endpoint showConfig qr invert => exact edits.elim

/-! ### A pool with its key written down or not, and with either of two clients -/

structure Guests where
  keyed : Bool
  laptop : Bool
  tablet : Bool
deriving DecidableEq

def everyGuests : List Guests :=
  [false, true].flatMap fun keyed => [false, true].flatMap fun laptop => [false, true].map fun tablet => ⟨keyed, laptop, tablet⟩

def laptopOnly : Guests := ⟨false, true, false⟩

def keyedLaptop : Guests := ⟨true, true, false⟩

def bothGuests : Guests := ⟨true, true, true⟩

def tabletOnly : Guests := ⟨true, false, true⟩

theorem Guests.listed (doc : Guests) : doc ∈ everyGuests := by
  obtain ⟨keyed, laptop, tablet⟩ := doc
  cases keyed <;> cases laptop <;> cases tablet <;> decide

def guestLaptop : RoadwarriorClient where
  name := "laptop"
  publicKey := "laptop-key"
  allowedIps := ["10.63.0.2/32"]

/-- The client of the secret that is drawn. -/
def guestTablet : RoadwarriorClient where
  name := "tablet"
  publicKey := "zo060cy2M+x7cMF4FKXHbs0CloUFDTRHRboFhw5YfVk="
  allowedIps := ["10.63.0.3/32"]

def Guests.clients (doc : Guests) : List RoadwarriorClient :=
  (if doc.laptop then [guestLaptop] else []) ++ if doc.tablet then [guestTablet] else []

def Guests.pool (doc : Guests) : RoadwarriorPool where
  name := "guests"
  nodeHostnames := ["node-a"]
  address := "10.63.0.1/24"
  listenPort := 51900
  privateKey := if doc.keyed then some drawnText else none
  plain := true
  clients := doc.clients

def Guests.mesh (doc : Guests) : MeshConfig := { threeNodes (some drawnText) with roadwarriors := [doc.pool] }

def keyedText : String := "private_key: " ++ drawnText ++ "\n"

def laptopText : String := "\n  - name: laptop\n    public_key: laptop-key\n    allowed_ips:\n      - 10.63.0.2/32"

def tabletText : String :=
  "\n  - name: tablet\n    public_key: zo060cy2M+x7cMF4FKXHbs0CloUFDTRHRboFhw5YfVk=\n    allowed_ips:\n      - 10.63.0.3/32"

def Guests.textAfter (nodes : String) (doc : Guests) : String :=
  nodes ++ "---\nslipmesh:\n  kind: roadwarriors\nname: guests\nnode_hostnames:\n  - node-a\n" ++
    "address: 10.63.0.1/24\nlisten_port: 51900\n" ++ (if doc.keyed then keyedText else "") ++ "plain: true\nclients:" ++
    (if doc.laptop then laptopText else "") ++ (if doc.tablet then tabletText else "") ++
    (if doc.laptop || doc.tablet then "" else " []") ++ "\n"

def Guests.text (doc : Guests) : String := doc.textAfter (threeText (some drawnText))

/-- How much of a text is its own. -/
def Guests.size (doc : Guests) : Nat :=
  (if doc.keyed then 58 else 0) + (if doc.laptop then 82 else 0) + (if doc.tablet then 116 else 0) +
    if doc.laptop || doc.tablet then 0 else 3

theorem Guests.length_textAfter (nodes : String) (doc : Guests) :
    (doc.textAfter nodes).length = nodes.length + 137 + doc.size := by
  have keyed : keyedText.length = 58 := by decide +kernel
  have laptop : laptopText.length = 82 := by decide +kernel
  have tablet : tabletText.length = 116 := by decide +kernel
  have start : ("---\nslipmesh:\n  kind: roadwarriors\nname: guests\nnode_hostnames:\n  - node-a\n" : String).length = 75 := by
    decide +kernel
  have address : ("address: 10.63.0.1/24\nlisten_port: 51900\n" : String).length = 41 := by decide +kernel
  have clients : ("plain: true\nclients:" : String).length = 20 := by decide
  have none : (" []" : String).length = 3 := by decide
  have last : ("\n" : String).length = 1 := by decide
  rw [Guests.textAfter]
  obtain ⟨hasKey, hasLaptop, hasTablet⟩ := doc
  cases hasKey <;> cases hasLaptop <;> cases hasTablet <;>
    simp [Guests.size, String.length_append, keyed, laptop, tablet, start, address, clients, none, last, Nat.add_assoc]

theorem Guests.length_text (doc : Guests) : doc.text.length = (threeText (some drawnText)).length + 137 + doc.size :=
  Guests.length_textAfter _ doc

theorem Guests.text_injective {doc other : Guests} (same : doc.text = other.text) : doc = other := by
  have lengths := congrArg String.length same
  rw [Guests.length_text, Guests.length_text, Nat.add_left_cancel_iff] at lengths
  have apart : (everyGuests.map Guests.size).Nodup := by decide
  exact List.inj_on_of_nodup_map apart doc.listed other.listed lengths

def Guests.entries (doc : Guests) : List (Value × Value) := [
  (.ofString "name", .ofString "guests"),
  (.ofString "node_hostnames", .sequence none [.ofString "node-a"]),
  (.ofString "address", .ofString "10.63.0.1/24"),
  (.ofString "listen_port", .scalar none (.number (.integer 51900)))] ++
  (if doc.keyed then [(.ofString "private_key", .ofString drawnText)] else []) ++ [
  (.ofString "plain", .scalar none (.bool true)),
  (.ofString "clients", .sequence none (doc.clients.map fun client => .mapping none [
    (.ofString "name", .ofString client.name),
    (.ofString "public_key", .ofString client.publicKey),
    (.ofString "allowed_ips", .sequence none (client.allowedIps.map .ofString))]))]

theorem Guests.entries_distinct (doc : Guests) :
    (Value.mapping none ((.ofString metaKey, poolBlock) :: doc.entries)).keys.Nodup := by
  obtain ⟨keyed, laptop, tablet⟩ := doc
  cases keyed
  · change ([metaKey, "name", "node_hostnames", "address", "listen_port", "plain", "clients"].map Value.ofString).Nodup
    decide
  · change ([metaKey, "name", "node_hostnames", "address", "listen_port", "private_key", "plain", "clients"].map Value.ofString).Nodup
    decide

def Guests.document (doc : Guests) : Document where
  index := 3
  line := 36
  block := { kind := .roadwarriors }
  value := .mapping none doc.entries
  distinct := (List.nodup_cons.mp doc.entries_distinct).2
  mesh := .error "missing field cluster"
  pool := .ok doc.pool

def Guests.raws (doc : Guests) : List RawDocument := threeRaws (some drawnText) ++ [{
  index := 3
  line := 36
  value := .ok ⟨.mapping none ((.ofString metaKey, poolBlock) :: doc.entries), doc.entries_distinct⟩
  mesh := .error "missing field cluster"
  pool := .ok doc.pool }]

def Guests.slipmesh (doc : Guests) : SlipmeshFile :=
  { threeFile (some drawnText) with
    pools := [doc.document]
    topology := doc.mesh }

def readGuests (text : String) : Except String (List RawDocument) :=
  (everyGuests.find? (·.text = text)).elim (.error "no slipmesh block") fun doc => .ok doc.raws

/-- The tree of the network with the pool in it. -/
def Guests.assembled (doc : Guests) : Value :=
  .mapping none (threeEntries (some drawnText) ++ [(.ofString "roadwarriors", .sequence none [.mapping none doc.entries])])

def readGuestsMesh (value : Value) : Except String MeshConfig :=
  (everyGuests.find? (·.assembled = value)).elim (.error "missing field cluster") fun doc => .ok doc.mesh

def guestsSerde : Serde where
  documents := readGuests
  readMeta := changemeSerde.readMeta
  readMesh := readGuestsMesh
  text := blockText
  readMeta_patchBlock := changemeSerde.readMeta_patchBlock

theorem Guests.find (doc : Guests) : everyGuests.find? (·.text = doc.text) = some doc := by
  cases found : everyGuests.find? (·.text = doc.text) with
  | none =>
    have differ := List.find?_eq_none.mp found doc doc.listed
    simp at differ
  | some other =>
    have same := List.find?_some found
    rw [decide_eq_true_iff] at same
    rw [Guests.text_injective same]

theorem documents_guests (doc : Guests) : guestsSerde.documents doc.text = .ok doc.raws := by
  have same : guestsSerde.documents = readGuests := rfl
  rw [same, readGuests, doc.find, Option.elim_some]

theorem read_guests (doc : Guests) : SlipmeshFile.read guestsSerde doc.text = .ok doc.slipmesh := by
  rw [read_of_documents (documents_guests doc)]
  obtain ⟨keyed, laptop, tablet⟩ := doc
  cases keyed <;> cases laptop <;> cases tablet <;> decide +kernel

def Guests.holding (doc : Guests) : Holding where
  networkDocument := 2
  network := threeNodes (some drawnText)
  pools := [(3, doc.pool)]
  distinct := List.nodup_singleton _

/-- The text that differs from this one in its clients alone. -/
def Guests.edit (doc : Guests) (becomes : List RoadwarriorClient → Bool) : Except String Guests :=
  (everyGuests.find? fun other => other.keyed = doc.keyed && becomes other.clients).elim (.error "unsupported edit") .ok

def guestFields (clients : List RoadwarriorClient) : PoolClients :=
  ⟨some (clients.map fun client => (ClientFields.ofClient client).entry)⟩

/-- An editor of the key and of the clients. -/
def guestsEditor : Editor Guests where
  network := ⟨fun _ _ => .error "unsupported edit", fun _ _ _ => .error "unsupported edit"⟩
  pool := {
    read := fun doc _ => .ok ⟨doc.pool.privateKey, none⟩
    write := fun doc _ fields =>
      if fields = ⟨some drawnText, none⟩ then .ok { doc with keyed := true } else .error "unsupported edit" }
  clients := {
    read := fun doc _ => .ok (guestFields doc.clients)
    write := fun doc _ fields => doc.edit fun clients => guestFields clients = fields }
  retainClients doc _ keep := do
    return some (← doc.edit (· = (doc.clients.zipIdx.filter fun entry => keep entry.2).map Prod.fst))
  commit := .ok

theorem Guests.inPool {doc : Guests} {document : Nat} {pool : RoadwarriorPool} (member : (document, pool) ∈ doc.holding.pools) :
    document = 3 ∧ pool = doc.pool := by
  exact Prod.mk.inj (List.mem_singleton.mp member)

theorem Guests.change {doc after : Guests} {edit : RoadwarriorPool → RoadwarriorPool} (same : edit doc.pool = after.pool) :
    after.holding = doc.holding.atPool 3 edit := by
  simp [Guests.holding, Holding.atPool, same]

theorem Guests.edit_ok {doc other : Guests} {becomes : List RoadwarriorClient → Bool} (ok : doc.edit becomes = .ok other) :
    becomes other.clients ∧ other.holding = doc.holding.atPool 3 fun pool => { pool with clients := other.clients } := by
  rw [Guests.edit, elim_ok] at ok
  have found := List.find?_some ok
  rw [Bool.and_eq_true, decide_eq_true_iff] at found
  refine ⟨found.2, Guests.change ?_⟩
  simp only [Guests.pool, found.1]

theorem Guests.reads_clients (doc : Guests) : (guestFields doc.clients).Reads twoKeys doc.clients := by
  obtain ⟨keyed, laptop, tablet⟩ := doc
  cases laptop <;> cases tablet <;> exact rfl

theorem Guests.ended (doc : Guests) : Ended doc.text := by
  rw [Guests.text, Guests.textAfter]
  apply ended_after
  rfl

theorem guestsEditor_lawful : guestsEditor.Lawful twoKeys Guests.holding fun doc => Ended doc.text where
  readNetwork read := nomatch read
  writeNetwork _ _ wrote := nomatch wrote
  readPool := by
    intro yaml document pool fields member read
    obtain ⟨rfl, rfl⟩ := Guests.inPool member
    cases read
    exact ⟨rfl, rfl⟩
  writePool := by
    intro yaml document pool fields edited _ member _ wrote
    obtain ⟨rfl, rfl⟩ := Guests.inPool member
    refine ⟨edited.ended, ?_⟩
    change (if fields = _ then Except.ok _ else Except.error "unsupported edit") = Except.ok edited at wrote
    split at wrote
    · rename_i drawn
      cases wrote
      subst drawn
      rfl
    · cases wrote
  readClients := by
    intro yaml document pool fields member read
    obtain ⟨rfl, rfl⟩ := Guests.inPool member
    cases read
    exact yaml.reads_clients
  writeClients := by
    intro yaml document pool before fields clients edited _ member _ _ reads wrote
    obtain ⟨rfl, rfl⟩ := Guests.inPool member
    have wrote : yaml.edit (guestFields · = fields) = .ok edited := wrote
    obtain ⟨becomes, edit⟩ := Guests.edit_ok wrote
    rw [decide_eq_true_iff] at becomes
    have again := edited.reads_clients
    rw [becomes] at again
    have same : edited.clients = clients := Except.ok.inj (again.symm.trans reads)
    exact ⟨edited.ended, same ▸ edit⟩
  retainClients := by
    intro yaml document pool keep edited _ member retained
    obtain ⟨rfl, rfl⟩ := Guests.inPool member
    simp only [guestsEditor, bind_ok, pure_ok, Option.some.injEq] at retained
    obtain ⟨other, ok, same⟩ := retained
    obtain ⟨becomes, edit⟩ := Guests.edit_ok ok
    rw [decide_eq_true_iff] at becomes
    rw [becomes, same] at edit
    exact ⟨edited.ended, edit⟩
  commit := by
    intro yaml edited whole commits
    cases commits
    exact ⟨whole, rfl⟩

def parseGuests (raw : String) : Except String Guests := (everyGuests.find? (·.text = raw)).elim (.error "not slipmesh.yaml") .ok

def guestsTool : Tool Guests (List String) where
  renderer := { threeRenderer with toSerde := guestsSerde }
  curve := twoKeys
  references := templates
  parse := parseGuests
  print := Guests.text
  editor := guestsEditor
  renderQr _ _ := .error "data too long"
  locate := plainPath

theorem opened_guests {raw : String} {raws : List RawDocument} (opened : guestsSerde.documents raw = .ok raws) :
    ∃ doc : Guests, doc.text = raw := by
  have same : guestsSerde.documents = readGuests := rfl
  rw [same, readGuests] at opened
  cases found : everyGuests.find? (·.text = raw) with
  | none =>
    rw [found] at opened
    cases opened
  | some doc =>
    have same := List.find?_some found
    rw [decide_eq_true_iff] at same
    exact ⟨doc, same⟩

theorem parse_text (doc : Guests) : guestsTool.parse doc.text = .ok doc := by
  have same : guestsTool.parse = parseGuests := rfl
  rw [same, parseGuests, doc.find, Option.elim_some]

theorem missing_guests (doc : Guests) : missing templates doc.slipmesh = [] := missing_threeFile (some drawnText)

theorem append_guests (doc : Guests) : append doc.text [] = doc.text := by
  apply append_nothing
  rw [Guests.text, Guests.textAfter, String.toList_append, List.getLast?_append]
  rfl

/-- A patch file, whole or cut short, does not begin as these texts do. -/
theorem read_patch_guests (rest : String) (count : Nat) (file : SlipmeshFile) :
    SlipmeshFile.read guestsSerde (cutShort (header ++ rest) count) ≠ .ok file := by
  intro read
  simp only [SlipmeshFile.read, bind_ok, mapError_ok] at read
  obtain ⟨raws, opened, -⟩ := read
  obtain ⟨doc, same⟩ := opened_guests opened
  simp only [Guests.text, Guests.textAfter, String.append_assoc] at same
  exact header_cut_ne (head_append _ (head_threeText _)) same.symm

theorem guestsTool_world (chance : Chance) : (guestsTool.world chance).Lawful Guests.holding where
  editor := guestsEditor_lawful
  printed := by
    intro raw yaml parsed
    have same : (guestsTool.world chance).parse = parseGuests := rfl
    rw [same, parseGuests, elim_ok] at parsed
    have same := List.find?_some parsed
    rw [decide_eq_true_iff] at same
    exact same
  holding := by
    intro doc file read
    cases (read_guests doc).symm.trans read
    exact ⟨rfl, rfl, rfl, rfl⟩
  readable := by
    intro before file raws doc read ended opened
    exact ⟨doc.raws, documents_guests doc⟩
  appends := by
    intro before file doc read _ raws opened
    cases (read_guests before).symm.trans read
    have nothing : missing (guestsTool.world chance).references before.slipmesh = [] := missing_guests before
    rw [nothing]
    change guestsSerde.documents doc.text = .ok raws at opened
    refine ⟨[], ?_, rfl⟩
    change guestsSerde.documents (append doc.text []) = _
    rw [append_guests, opened, List.append_nil]
  foreign := by
    intro file resolved host content rendered count other
    obtain ⟨rest, rfl⟩ := render_header rendered
    exact read_patch_guests rest count other

theorem guestsTool_lawful : guestsTool.Lawful Guests.holding where
  world := guestsTool_world
  parses := by
    intro raw file read
    simp only [SlipmeshFile.read, bind_ok, mapError_ok] at read
    obtain ⟨raws, opened, -⟩ := read
    obtain ⟨doc, rfl⟩ := opened_guests opened
    exact ⟨doc, parse_text doc⟩

/-! ### A client added to it -/

def guestsChance : Chance where
  draws := threeWorld.draws
  secret := setKey
  readFault _ := none
  replaceFault := none
  createFault := none
  writeFault _ := none

def guestsDisk (doc : Guests) : Disk (List String) := fun location => if location = ["slipmesh.yaml"] then some doc.text else none

def guestRequest : AddRequest where
  pool := "guests"
  name := "tablet"
  allowedIps := "10.63.0.3"
  endpoint := some "198.51.100.7"
  showConfig := true

theorem reads_guests (doc : Guests) : guestsTool.Reads "slipmesh.yaml" (guestsDisk doc) doc.mesh :=
  ⟨doc.text, doc.slipmesh, rfl, doc.ended, read_guests doc, rfl⟩

def guestsSecrets : ResolvedSecrets := (resolve twoKeys guestsChance.draws laptopOnly.mesh).1

def guestsMinted : Minted :=
  { pools := [⟨"guests", some drawnText, none⟩], names := ["roadwarriors[guests].private_key"] }

theorem resolve_guests : resolve twoKeys guestsChance.draws laptopOnly.mesh = (guestsSecrets, guestsMinted) :=
  Prod.ext rfl (by decide +kernel)

theorem settle_guests : settleSecrets (guestsTool.world guestsChance) { config := "slipmesh.yaml" } laptopOnly
    laptopOnly.slipmesh false = .ok (guestsSecrets, guestsMinted, keyedLaptop) := by
  have resolved : resolve (guestsTool.world guestsChance).curve (guestsTool.world guestsChance).draws
      laptopOnly.slipmesh.topology = (guestsSecrets, guestsMinted) := resolve_guests
  rw [settleSecrets, resolved]
  rfl

theorem add_guests : ∃ added, add twoKeys laptopOnly.mesh guestsSecrets setKey guestRequest = .ok added ∧
    added.client = guestTablet ∧ added.config.isSome := by
  have made : ((add twoKeys laptopOnly.mesh guestsSecrets setKey guestRequest).toOption.any fun added =>
    added.client = guestTablet ∧ added.config.isSome) = true := by decide +kernel
  cases ok : add twoKeys laptopOnly.mesh guestsSecrets setKey guestRequest with
  | error error => simp [ok, Except.toOption] at made
  | ok added =>
    simp only [ok, Except.toOption, Option.any_some, decide_eq_true_iff] at made
    exact ⟨added, rfl, made⟩

theorem open_guests {disk : Disk (List String)} {doc : Guests} (held : disk ["slipmesh.yaml"] = some doc.text) (chance : Chance)
    (readable : chance.readFault "slipmesh.yaml" = none) :
    readSlipmesh (guestsTool.world chance) { config := "slipmesh.yaml" } disk = .ok (doc, doc.slipmesh) := by
  have parses : (guestsTool.world chance).parse = guestsTool.parse := rfl
  refine readSlipmesh_ok.mpr ⟨doc.text, ?_, by rw [parses, parse_text], read_guests doc⟩
  have unfaulted : (guestsTool.world chance).readFault "slipmesh.yaml" = none := readable
  have located : plainPath "slipmesh.yaml" = ["slipmesh.yaml"] := by decide
  have located : (guestsTool.world chance).locate "slipmesh.yaml" = ["slipmesh.yaml"] := located
  rw [readFile, unfaulted, located, held]
  rfl

theorem write_guests (doc : Guests) : writeText (guestsTool.world guestsChance) { config := "slipmesh.yaml" } doc.text =
    .ok (.slipmesh ["slipmesh.yaml"] doc.text) := by
  have read : SlipmeshFile.read (guestsTool.world guestsChance).renderer.toSerde doc.text = .ok doc.slipmesh := read_guests doc
  rw [writeText, read]
  rfl

/-- The key is minted, and the client written down and shown. -/
theorem rwAdd_guests : ∃ text, guestsTool.run "slipmesh.yaml" guestsChance (guestsDisk laptopOnly) (.rwAdd guestRequest false) =
    { result := .ok (), writes := [.slipmesh ["slipmesh.yaml"] bothGuests.text], shown := [text] } := by
  obtain ⟨added, adds, client, shown⟩ := add_guests
  obtain ⟨config, rendered⟩ := Option.isSome_iff_exists.mp shown
  have edits : guestsEditor.addClient keyedLaptop 3 added.client = .ok bothGuests := by
    rw [client]
    decide +kernel
  have prepared : prepareAdd guestsTool "slipmesh.yaml" guestsChance (guestsDisk laptopOnly) guestRequest =
      .ok (added, bothGuests.text) := by
    simp only [prepareAdd, bind_ok, mapError_ok, pure_ok, Prod.exists]
    exact ⟨_, _, open_guests rfl _ rfl, 3, by decide +kernel, _, _, _, settle_guests, _, rfl, added, adds, _, edits, rfl⟩
  refine ⟨config.2.text, ?_⟩
  rw [Tool.run, Tool.rwAdd, prepared]
  simp only [write_guests, rendered]
  rfl

theorem rwDel_guests {disk : Disk (List String)} (held : disk ["slipmesh.yaml"] = some bothGuests.text) :
    guestsTool.run "slipmesh.yaml" guestsChance disk (.rwDel "guests" "laptop") =
      { result := .ok (), writes := [.slipmesh ["slipmesh.yaml"] tabletOnly.text] } := by
  have edits : guestsEditor.removeClient bothGuests 3 0 = .ok tabletOnly := by decide +kernel
  have prepared : prepareDel guestsTool "slipmesh.yaml" guestsChance disk "guests" "laptop" = .ok tabletOnly.text := by
    simp only [prepareDel, bind_ok, mapError_ok, pure_ok, Prod.exists]
    exact ⟨_, _, open_guests held _ rfl, 3, by decide +kernel, 0, guestLaptop, by decide +kernel, _, edits, rfl⟩
  rw [Tool.run, Tool.rwDel, prepared]
  simp only [write_guests]

end Slipmesh.Taloscfg
