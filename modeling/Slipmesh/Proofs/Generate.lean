import Slipmesh.Proofs.Defaults
import Slipmesh.Proofs.Edits
import Slipmesh.Proofs.Registry
import Slipmesh.Taloscfg.Generate

/-! The writes of a `generate` run: which there are, in which order, and what the files
hold wherever the run stops. -/

namespace Slipmesh.Taloscfg
open Common Library Yaml

variable {Doc Location : Type}

/-! ### Files after writes -/

section disk

variable [DecidableEq Location] (disk : Disk Location)

/-- The files after some writes. -/
def Disk.after (writes : List (Write Location)) : Disk Location := writes.foldl Disk.write disk

theorem after_other {writes : List (Write Location)} {location : Location}
    (apart : ∀ write ∈ writes, write.location ≠ location) : disk.after writes location = disk location := by
  induction writes generalizing disk with
  | nil => rfl
  | cons write writes ih =>
    simp only [List.forall_mem_cons] at apart
    have kept : disk.write write location = disk location := if_neg (Ne.symm apart.1)
    exact (ih (disk.write write) apart.2).trans kept

theorem after_first {first : Write Location} {rest : List (Write Location)}
    (apart : ∀ write ∈ rest, write.location ≠ first.location) :
    disk.after (first :: rest) first.location = some first.content := by
  have written : disk.write first first.location = some first.content := if_pos rfl
  exact (after_other (disk.write first) apart).trans written

/-- A file that is written holds what one of the writes to it has. -/
theorem after_written {writes : List (Write Location)} {location : Location}
    (written : ∃ write ∈ writes, write.location = location) :
    ∃ write ∈ writes, write.location = location ∧ disk.after writes location = some write.content := by
  induction writes generalizing disk with
  | nil =>
    obtain ⟨write, member, _⟩ := written
    cases member
  | cons first rest ih =>
    by_cases later : ∃ write ∈ rest, write.location = location
    · obtain ⟨write, member, here, holds⟩ := ih (disk.write first) later
      exact ⟨write, List.mem_cons_of_mem _ member, here, holds⟩
    · have apart : ∀ write ∈ rest, write.location ≠ location := fun write member here => later ⟨write, member, here⟩
      obtain ⟨write, member, rfl⟩ := written
      rcases List.mem_cons.mp member with rfl | member
      · exact ⟨write, List.mem_cons_self .., rfl, after_first disk apart⟩
      · exact absurd rfl (apart write member)

/-- A file stays as it is at every point exactly where every write to it is of what it holds. -/
theorem after_kept_iff (writes : List (Write Location)) (location : Location) :
    (∀ done, done <+: writes → disk.after done location = disk location) ↔
      ∀ write ∈ writes, write.location = location → disk location = some write.content := by
  induction writes generalizing disk with
  | nil =>
    refine iff_of_true ?_ (List.forall_mem_nil _)
    intro done upTo
    rw [List.prefix_nil.mp upTo]
    rfl
  | cons first rest ih =>
    have rewritten : disk.write first location = if location = first.location then some first.content else disk location := rfl
    constructor
    · intro kept
      have once : disk.write first location = disk location := kept [first] ⟨rest, rfl⟩
      refine List.forall_mem_cons.mpr ⟨?_, ?_⟩
      · intro here
        rw [← once, rewritten, if_pos here.symm]
      · rw [← once]
        refine (ih (disk.write first)).mp ?_
        intro done upTo
        rw [once]
        exact kept (first :: done) ((List.prefix_cons_inj first).mpr upTo)
    · intro same done upTo
      obtain ⟨here, others⟩ := List.forall_mem_cons.mp same
      have once : disk.write first location = disk location := by
        rw [rewritten]
        split
        · rename_i there
          exact (here there.symm).symm
        · rfl
      rcases List.prefix_cons_iff.mp upTo with rfl | ⟨later, rfl, within⟩
      · rfl
      · exact ((ih (disk.write first)).mpr (once.symm ▸ others) later within).trans once

end disk

/-! ### What a run has done before it writes -/

variable {world : World Doc Location} {options : Options} {disk : Disk Location} {plan : Plan}

/-- A target's patch file has been rendered and validated, and what there is of it read. -/
structure Rendered (world : World Doc Location) (options : Options) (disk : Disk Location) (file : SlipmeshFile)
    (resolved : ResolvedSecrets) (target : String) (host : HostFile) : Prop where
  name : host.host = target
  path : host.path = patchPath options target
  after : render world.renderer world.curve file resolved target = .ok host.after
  before : readFile world disk host.path = .ok host.before ∨
    readFile world disk host.path = .error .notFound ∧ host.before = ""

/-- Everything a run does before it writes has succeeded. -/
structure Prepared (world : World Doc Location) (options : Options) (disk : Disk Location) (plan : Plan) where
  raw : String
  yaml : Doc
  edited : Doc
  original : SlipmeshFile
  file : SlipmeshFile
  resolved : ResolvedSecrets
  opened : readFile world disk options.config = .ok raw
  parsed : world.parse raw = .ok yaml
  read : SlipmeshFile.read world.renderer.toSerde raw = .ok original
  known : ∀ node, options.node = some node → node ∈ original.hosts
  settled : resolve world.curve world.draws original.topology = (resolved, plan.minted)
  recorded : plan.minted.isEmpty ∧ edited = yaml ∨
    ¬ plan.minted.isEmpty ∧ options.check = false ∧ options.diff = false ∧
      world.editor.record yaml original plan.minted = .ok edited
  added : plan.added = missing world.references original
  checked : options.check → plan.added = []
  updated : plan.updated = append (world.print edited) plan.added
  extended : plan.added = [] ∧ file = original ∨
    plan.added ≠ [] ∧ SlipmeshFile.read world.renderer.toSerde plan.updated = .ok file
  rendered : ∀ target ∈ targets options file, ∃ host ∈ plan.hosts, Rendered world options disk file resolved target host
  targeted : ∀ host ∈ plan.hosts, ∃ target ∈ targets options file, Rendered world options disk file resolved target host

theorem readSlipmesh_ok {yaml : Doc} {file : SlipmeshFile} : readSlipmesh world options disk = .ok (yaml, file) ↔
    ∃ raw, readFile world disk options.config = .ok raw ∧ world.parse raw = .ok yaml ∧
      SlipmeshFile.read world.renderer.toSerde raw = .ok file := by
  simp only [readSlipmesh, bind_ok, mapError_ok, pure_ok, Prod.mk.injEq]
  constructor
  · intro given
    obtain ⟨raw, opened, yaml, parsed, file, read, same, same'⟩ := given
    subst same same'
    exact ⟨raw, opened, parsed, read⟩
  · intro given
    obtain ⟨raw, opened, parsed, read⟩ := given
    exact ⟨raw, opened, yaml, parsed, file, read, rfl, rfl⟩

theorem settleSecrets_ok {yaml edited : Doc} {file : SlipmeshFile} {dryRun : Bool} {resolved : ResolvedSecrets}
    {minted : Minted} (ok : settleSecrets world options yaml file dryRun = .ok (resolved, minted, edited)) :
    resolve world.curve world.draws file.topology = (resolved, minted) ∧
      (minted.isEmpty ∧ edited = yaml ∨
        ¬ minted.isEmpty ∧ dryRun = false ∧ world.editor.record yaml file minted = .ok edited) := by
  rw [settleSecrets] at ok
  generalize resolve world.curve world.draws file.topology = settled at ok
  obtain ⟨resolved', minted'⟩ := settled
  simp only at ok
  split at ok
  · rename_i nothing
    cases ok
    exact ⟨rfl, .inl ⟨nothing, rfl⟩⟩
  · rename_i some
    simp only [throw_bind, refuse_ok, bind_ok, mapError_ok, pure_ok, Prod.mk.injEq, Bool.not_eq_true] at ok
    obtain ⟨writes, edited', recorded, rfl, rfl, rfl⟩ := ok
    exact ⟨rfl, .inr ⟨some, writes, recorded⟩⟩

theorem renderHost_ok {file : SlipmeshFile} {resolved : ResolvedSecrets} {target : String} {host : HostFile}
    (ok : renderHost world options disk file resolved target = .ok host) :
    Rendered world options disk file resolved target host := by
  simp only [renderHost, bind_ok, mapError_ok] at ok
  obtain ⟨after, rendered, ok⟩ := ok
  split at ok
  · rename_i before found
    cases ok
    exact ⟨rfl, rfl, rendered, .inl found⟩
  · rename_i missing
    cases ok
    exact ⟨rfl, rfl, rendered, .inr ⟨missing, rfl⟩⟩
  · cases ok

theorem checkNode_ok {file : SlipmeshFile} (ok : checkNode options file = .ok ()) :
    ∀ node, options.node = some node → node ∈ file.hosts := by
  intro node selected
  simp only [checkNode, selected, accept_ok] at ok
  exact ok.1

theorem checkTemplates_ok {added : List DefaultFile} (ok : checkTemplates options added = .ok ()) :
    options.check → added = [] := by
  intro check
  simp only [checkTemplates, accept_ok] at ok
  simpa [check] using ok.1

theorem withTemplates_ok {original file : SlipmeshFile} {added : List DefaultFile} {updated : String}
    (ok : withTemplates world original added updated = .ok file) :
    added = [] ∧ file = original ∨ added ≠ [] ∧ SlipmeshFile.read world.renderer.toSerde updated = .ok file := by
  rw [withTemplates] at ok
  split at ok
  · rename_i nothing
    cases ok
    exact .inl ⟨nothing, rfl⟩
  · rename_i some
    exact .inr ⟨some, mapError_ok.mp ok⟩

theorem prepare_ok (ok : prepare world options disk = .ok plan) : Nonempty (Prepared world options disk plan) := by
  simp only [prepare, bind_ok, exists_unit, pure_ok, Prod.exists] at ok
  obtain ⟨yaml, original, opened, node, resolved, minted, edited, settled, checked, file, extended, hosts, rendered, rfl⟩ := ok
  obtain ⟨raw, opened, parsed, read⟩ := readSlipmesh_ok.mp opened
  obtain ⟨settled, recorded⟩ := settleSecrets_ok settled
  obtain ⟨all, only⟩ := mapM_ok rendered
  rw [Bool.or_eq_false_iff] at recorded
  exact ⟨{
    raw, yaml, edited, original, file, resolved, opened, parsed, read
    known := checkNode_ok node
    settled
    recorded := by simpa only [and_assoc] using recorded
    added := rfl
    checked := checkTemplates_ok checked
    updated := rfl
    extended := withTemplates_ok extended
    rendered := fun target member => (all target member).imp fun _ made => ⟨made.1, renderHost_ok made.2⟩
    targeted := fun host member => (only host member).imp fun _ made => ⟨made.1, renderHost_ok made.2⟩ }⟩

/-! ### The writes -/

/-- A patch file that is written, of those that are rendered, and what it then holds: its
text is not there yet, and no write before it fails. -/
inductive Reaches (world : World Doc Location) : List HostFile → HostFile → String → Prop where
  | whole {host : HostFile} {rest : List HostFile} : host.before ≠ host.after → world.writeFault host.path = none →
      Reaches world (host :: rest) host host.after
  | cut {host : HostFile} {rest : List HostFile} {fault : WriteFault} {count : Nat} : host.before ≠ host.after →
      world.writeFault host.path = some fault → fault.leftover = some count →
      Reaches world (host :: rest) host (cutShort host.after count)
  | later {other host : HostFile} {rest : List HostFile} {content : String} :
      (other.before ≠ other.after → world.writeFault other.path = none) → Reaches world rest host content →
      Reaches world (other :: rest) host content

theorem cutShort_length (text : String) : cutShort text text.length = text := by
  rw [cutShort, ← String.length_toList, List.take_length, String.ofList_toList]

theorem Reaches.planned {hosts : List HostFile} {host : HostFile} {content : String}
    (reaches : Reaches world hosts host content) : host ∈ hosts ∧ ∃ count, content = cutShort host.after count := by
  induction reaches with
  | @whole host => exact ⟨List.mem_cons_self .., _, (cutShort_length host.after).symm⟩
  | cut => exact ⟨List.mem_cons_self .., _, rfl⟩
  | later _ _ ih => exact ⟨List.mem_cons_of_mem _ ih.1, ih.2⟩

theorem mem_writePatches_iff {hosts : List HostFile} {write : Write Location} : write ∈ (writePatches world hosts).2 ↔
    ∃ host content, Reaches world hosts host content ∧ write = .patch host.host (world.locate host.path) content := by
  induction hosts with
  | nil =>
    refine iff_of_false List.not_mem_nil ?_
    intro given
    obtain ⟨host, content, reaches, _⟩ := given
    cases reaches
  | cons host rest ih =>
    rw [writePatches]
    by_cases unchanged : host.before = host.after
    · rw [if_pos unchanged, ih]
      constructor
      · intro given
        obtain ⟨other, content, reaches, same⟩ := given
        exact ⟨other, content, .later (absurd unchanged) reaches, same⟩
      · intro given
        obtain ⟨other, content, reaches, same⟩ := given
        cases reaches with
        | whole changes => exact absurd unchanged changes
        | cut changes => exact absurd unchanged changes
        | later _ reaches => exact ⟨other, content, reaches, same⟩
    · rw [if_neg unchanged]
      cases faulted : world.writeFault host.path with
      | some fault =>
        simp only [Option.mem_toList, Option.map_eq_some_iff, Function.comp_apply]
        constructor
        · intro given
          obtain ⟨count, left, rfl⟩ := given
          exact ⟨host, _, .cut unchanged faulted left, rfl⟩
        · intro given
          obtain ⟨other, content, reaches, rfl⟩ := given
          cases reaches with
          | whole _ unfaulted => simp [faulted] at unfaulted
          | cut _ again left =>
            cases faulted.symm.trans again
            exact ⟨_, left, rfl⟩
          | later unfaulted => simp [unfaulted unchanged] at faulted
      | none =>
        simp only [List.mem_cons, ih]
        constructor
        · intro given
          rcases given with rfl | ⟨other, content, reaches, same⟩
          · exact ⟨host, _, .whole unchanged faulted, rfl⟩
          · exact ⟨other, content, .later (fun _ => faulted) reaches, same⟩
        · intro given
          obtain ⟨other, content, reaches, rfl⟩ := given
          cases reaches with
          | whole => exact .inl rfl
          | cut _ fault => simp [faulted] at fault
          | later _ reaches => exact .inr ⟨other, content, reaches, rfl⟩

/-- A patch file that a plan comes to write. -/
def Plan.Reaches (world : World Doc Location) (plan : Plan) (host : HostFile) (content : String) : Prop :=
  world.createFault = none ∧ Taloscfg.Reaches world plan.hosts host content

theorem mem_writeHosts {write : Write Location} (member : write ∈ (writeHosts world options plan).2) :
    ∃ host content, plan.Reaches world host content ∧ write = .patch host.host (world.locate host.path) content := by
  rw [writeHosts] at member
  split at member
  · cases member
  · split at member
    · cases member
    · rename_i created
      obtain ⟨host, content, reaches, same⟩ := mem_writePatches_iff.mp member
      exact ⟨host, content, ⟨created, reaches⟩, same⟩

/-- A run gets as far as the patch files: it is not a dry one, and where it lacks something,
`slipmesh.yaml` is replaced. -/
structure Plan.Writes (world : World Doc Location) (options : Options) (plan : Plan) : Prop where
  check : options.check = false
  diff : options.diff = false
  replaced : plan.Replaces →
    (∃ file, SlipmeshFile.read world.renderer.toSerde plan.updated = .ok file) ∧ world.replaceFault = none

theorem mem_writeHosts_iff (writes : plan.Writes world options) {write : Write Location} :
    write ∈ (writeHosts world options plan).2 ↔
      ∃ host content, plan.Reaches world host content ∧ write = .patch host.host (world.locate host.path) content := by
  refine ⟨mem_writeHosts, ?_⟩
  intro given
  obtain ⟨host, content, ⟨created, reaches⟩, same⟩ := given
  rw [writeHosts, if_neg (by simp [writes.check, writes.diff]), created]
  exact mem_writePatches_iff.mpr ⟨host, content, reaches, same⟩

/-- A write of a target's patch file, as planned. -/
def PatchWrite (world : World Doc Location) (options : Options) (names : List String) (write : Write Location) : Prop :=
  ∃ name ∈ names, ∃ content, write = .patch name (world.locate (patchPath options name)) content

theorem writeHosts_patches (prepared : Prepared world options disk plan) :
    ∀ write ∈ (writeHosts world options plan).2, PatchWrite world options (targets options prepared.file) write := by
  intro write member
  obtain ⟨host, content, reaches, same⟩ := mem_writeHosts member
  obtain ⟨target, known, rendered⟩ := prepared.targeted host reaches.2.planned.1
  refine ⟨target, known, content, ?_⟩
  rw [same, rendered.name, rendered.path]

theorem minted_of_routes (curve : Curve) (draws : Draws) (topology : MeshConfig)
    (quiet : routes (resolve curve draws topology).2 = "") : (resolve curve draws topology).2.isEmpty := by
  have named := mintedNames_ne_empty curve draws topology
  change ", ".intercalate (mintedNames curve draws topology) = "" at quiet
  change (mintedNames curve draws topology).isEmpty
  cases names : mintedNames curve draws topology with
  | nil => rfl
  | cons first rest =>
    rw [names] at quiet named
    cases rest with
    | nil => exact absurd (by simpa using quiet.symm) named
    | cons second rest => simp [String.append_eq_empty_iff] at quiet

/-- Of a dry run, nothing is written. -/
theorem carryOut_dry (prepared : Prepared world options disk plan) (dry : options.check ∨ options.diff) :
    (carryOut world options plan).2 = [] := by
  have none_written : (writeHosts world options plan).2 = [] := by
    rw [writeHosts, if_pos (by simpa using dry)]
  have nothing_minted : plan.minted.isEmpty := by
    rcases prepared.recorded with ⟨nothing, -⟩ | ⟨-, check, diff, -⟩
    · exact nothing
    · simp [check, diff] at dry
  have quiet : routes plan.minted = "" := by
    rw [routes, List.isEmpty_iff.mp nothing_minted]
    rfl
  rw [carryOut]
  by_cases added : plan.added = []
  · have keeps : ¬ plan.Replaces := by simp [Plan.Replaces, quiet, added]
    simp [added, keeps, none_written]
  · have diff : options.diff = true := by
      rcases dry with check | diff
      · exact absurd (prepared.checked check) added
      · exact diff
    simp [added, diff, none_written]

theorem writeText_ok {updated : String} {write : Write Location} (ok : writeText world options updated = .ok write) :
    write = .slipmesh (world.locate options.config) updated ∧ world.replaceFault = none ∧
      ∃ file, SlipmeshFile.read world.renderer.toSerde updated = .ok file := by
  simp only [writeText, bind_ok, mapError_ok] at ok
  obtain ⟨file, read, ok⟩ := ok
  split at ok
  · cases ok
  · rename_i unfaulted
    cases ok
    exact ⟨rfl, unfaulted, file, read⟩

/-- What a run that gets there writes, in order. -/
theorem carryOut_writes (writes : plan.Writes world options) : (carryOut world options plan).2 =
    (if plan.Replaces then [.slipmesh (world.locate options.config) plan.updated] else []) ++
      (writeHosts world options plan).2 := by
  rw [carryOut, if_neg (by simp [writes.diff])]
  by_cases replaces : plan.Replaces
  · obtain ⟨⟨file, reads⟩, unfaulted⟩ := writes.replaced replaces
    have wrote : writeText world options plan.updated = .ok (.slipmesh (world.locate options.config) plan.updated) := by
      rw [writeText, reads, unfaulted]
      rfl
    simp [replaces, wrote]
  · simp [replaces]

/-- Any other run writes nothing. -/
theorem carryOut_nothing (prepared : Prepared world options disk plan) (stops : ¬ plan.Writes world options) :
    (carryOut world options plan).2 = [] := by
  by_cases dry : options.check ∨ options.diff
  · exact carryOut_dry prepared dry
  · simp only [not_or, Bool.not_eq_true] at dry
    obtain ⟨check, diff⟩ := dry
    have lacks : plan.Replaces := by
      by_contra keeps
      exact stops ⟨check, diff, fun replaces => absurd replaces keeps⟩
    rw [carryOut, if_neg (by simp [diff]), if_pos lacks]
    cases wrote : writeText world options plan.updated with
    | error error => rfl
    | ok write =>
      obtain ⟨-, unfaulted, reads⟩ := writeText_ok wrote
      exact absurd ⟨check, diff, fun _ => ⟨reads, unfaulted⟩⟩ stops

/-! ### Documents that are appended -/

/-- Patch documents take no part in the topology. -/
theorem assemble_before {serde : Serde} {documents added : List Document} {extended : SlipmeshFile}
    (whole : assemble serde (documents ++ added) = .ok extended)
    (patches : ∀ document ∈ added, document.block = { kind := .patch }) :
    ∃ file, assemble serde documents = .ok file ∧ file.topology = extended.topology ∧ file.hosts = extended.hosts := by
  have none_of (kind : Kind) (other : kind ≠ .patch) : added.filter (·.block.kind = kind) = [] := by
    rw [List.filter_eq_nil_iff]
    intro document member
    simp [patches document member, other.symm]
  rw [assemble, List.filter_append, List.filter_append, List.filter_append, none_of .roadwarriors (by decide),
    none_of .network (by decide), List.append_nil, List.append_nil] at whole
  rw [assemble]
  split at whole
  · simp only [bind_ok, exists_unit, throw_bind, refuse_ok, pure_ok, forM_ok, List.forM_eq_forM, mapError_ok,
      List.forall_mem_append] at whole
    obtain ⟨untargeted, clear, mesh, read, targets, pools, patches, topology, whole, rfl⟩ := whole
    simp only [bind_ok, exists_unit, throw_bind, refuse_ok, pure_ok, forM_ok, List.forM_eq_forM, mapError_ok]
    exact ⟨_, ⟨untargeted, clear, mesh, read, targets.1, pools, patches.1, topology, whole, rfl⟩, rfl, rfl⟩
  · cases whole

theorem read_before {serde : Serde} {text : String} {defaults : List DefaultFile} {extended : SlipmeshFile}
    (appends : serde.Appends text defaults) (ended : Ended text)
    (readable : ∀ {raws}, serde.documents (append text defaults) = .ok raws → ∃ raws, serde.documents text = .ok raws)
    (read : SlipmeshFile.read serde (append text defaults) = .ok extended) :
    ∃ file, SlipmeshFile.read serde text = .ok file ∧ file.topology = extended.topology ∧ file.hosts = extended.hosts := by
  simp only [SlipmeshFile.read, bind_ok, mapError_ok] at read
  obtain ⟨_, again, documents, mapped, whole⟩ := read
  obtain ⟨raws, opened⟩ := readable again
  obtain ⟨more, appended, values⟩ := appends ended raws opened
  obtain ⟨added, routed, blocks, -⟩ := mapM_route serde values
  rw [appended, Except.ok.injEq] at again
  rw [← again, List.mapM_append, bind_ok] at mapped
  obtain ⟨before, first, mapped⟩ := mapped
  simp only [routed, bind_ok, Except.ok.injEq, exists_eq_left', pure_ok] at mapped
  subst mapped
  obtain ⟨file, assembled, same⟩ := assemble_before whole blocks
  refine ⟨file, ?_, same⟩
  simp only [SlipmeshFile.read, bind_ok, mapError_ok]
  exact ⟨raws, opened, before, first, assembled⟩

/-! ### The libraries -/

/-- The libraries do what they say: a text is printed as it was parsed, what is printed reads
as what the documents hold, with or without others appended, and a patch file, whole or cut
short, is not a `slipmesh.yaml`. -/
structure World.Lawful (world : World Doc Location) (holds : Doc → Holding) : Prop where
  editor : world.editor.Lawful world.curve holds fun yaml => Ended (world.print yaml)
  printed : ∀ {raw yaml}, world.parse raw = .ok yaml → world.print yaml = raw
  holding : ∀ {yaml file}, SlipmeshFile.read world.renderer.toSerde (world.print yaml) = .ok file → (holds yaml).Of file
  readable : ∀ {before file raws} yaml, SlipmeshFile.read world.renderer.toSerde (world.print before) = .ok file →
    Ended (world.print yaml) →
    world.renderer.documents (append (world.print yaml) (missing world.references file)) = .ok raws →
    ∃ raws, world.renderer.documents (world.print yaml) = .ok raws
  appends : ∀ {before file} yaml, SlipmeshFile.read world.renderer.toSerde (world.print before) = .ok file →
    world.renderer.toSerde.Appends (world.print yaml) (missing world.references file)
  foreign : ∀ {file resolved host content}, render world.renderer world.curve file resolved host = .ok content →
    ∀ count other, SlipmeshFile.read world.renderer.toSerde (cutShort content count) ≠ .ok other

variable {holds : Doc → Holding} {topology : MeshConfig} {yaml edited : Doc} {file : SlipmeshFile}

/-- What was minted is in the documents, which stand where they stood. -/
theorem settled_holds (lawful : world.Lawful holds) (ended : Ended (world.print yaml)) (is : (holds yaml).Of file)
    (names : (file.topology.roadwarriors.map (·.name)).Nodup) {secrets : ResolvedSecrets} {minted : Minted}
    (resolved : resolve world.curve world.draws file.topology = (secrets, minted))
    (wrote : minted.isEmpty ∧ edited = yaml ∨ world.editor.record yaml file minted = .ok edited) :
    Ended (world.print edited) ∧ (holds edited).topology = recorded world.curve world.draws file.topology ∧
      (holds edited).directory = (holds yaml).directory := by
  have minted_is : (resolve world.curve world.draws file.topology).2 = minted := by rw [resolved]
  rcases wrote with ⟨nothing, rfl⟩ | records
  · refine ⟨ended, ?_, rfl⟩
    rw [recorded_nothing names (minted_nothing (minted_is ▸ nothing)), is.topology]
  · obtain ⟨ended, same, -, directory⟩ := record_edits lawful.editor ended is (is.topology ▸ names) records
    refine ⟨ended, ?_, directory⟩
    rw [← minted_is, ← is.topology, record_minted _ _ _ names, Except.ok.injEq] at same
    exact same.symm

theorem Prepared.read_holds (prepared : Prepared world options disk plan) (lawful : world.Lawful holds) :
    (holds prepared.yaml).Of prepared.original := by
  apply lawful.holding
  rw [lawful.printed prepared.parsed]
  exact prepared.read

/-- The text that `slipmesh.yaml` is to be replaced with has everything recorded. -/
theorem updated_topology (lawful : world.Lawful holds) (prepared : Prepared world options disk plan) (ended : Ended prepared.raw)
    (read : SlipmeshFile.read world.renderer.toSerde plan.updated = .ok file) :
    file.topology = recorded world.curve world.draws prepared.original.topology ∧
      file.hosts = (recorded world.curve world.draws prepared.original.topology).hosts := by
  have original := prepared.read
  rw [← lawful.printed prepared.parsed] at ended original
  have names := (validate_ok (validate_of_read original)).pools
  obtain ⟨ended, holdsEdited, -⟩ := settled_holds lawful ended (prepared.read_holds lawful) names prepared.settled
    (prepared.recorded.imp_right (·.2.2.2))
  rw [prepared.updated, prepared.added] at read
  obtain ⟨before, printed, unchanged, sameHosts⟩ := read_before (lawful.appends prepared.edited original) ended
    (lawful.readable prepared.edited original ended) read
  have edited := lawful.holding printed
  refine ⟨?_, ?_⟩
  · rw [← unchanged, edited.topology, holdsEdited]
  · rw [← sameHosts, edited.hosts, ← holdsEdited]
    rfl

/-! ### What a run promises -/

def Obfuscation.texts (obfuscation : Obfuscation) : List String :=
  [obfuscation.jc, obfuscation.jmin, obfuscation.jmax, obfuscation.s1, obfuscation.s2].reduceOption.map (toString ·.toNat) ++
    [obfuscation.h1, obfuscation.h2, obfuscation.h3, obfuscation.h4].reduceOption.map (toString ·.toNat)

/-- What a patch file that contains the secret says. -/
def Secret.texts : Secret → List String
  | .nodeKey _ key => [key]
  | .linkObfuscation _ generated => Obfuscation.texts generated
  | .poolKey _ key => [key]
  | .poolObfuscation _ generated => Obfuscation.texts generated

def Contains (content : String) (secret : Secret) : Prop := ∀ text ∈ secret.texts, Text.contains content text

/-- A patch file that contains the secret is written. -/
def Write.Carries (write : Write Location) (secret : Secret) : Prop :=
  match write with
  | .slipmesh _ _ => False
  | .patch _ _ content => Contains content secret

/-- The secret stands in `slipmesh.yaml` as the files have it. -/
def Kept (world : World Doc Location) (options : Options) (disk : Disk Location) (secret : Secret) : Prop :=
  ∃ text file, disk (world.locate options.config) = some text ∧
    SlipmeshFile.read world.renderer.toSerde text = .ok file ∧ secret.SetIn file.topology

theorem Prepared.minted_eq (prepared : Prepared world options disk plan) :
    plan.minted = (resolve world.curve world.draws prepared.original.topology).2 := by rw [prepared.settled]

/-- A run with a secret to write down replaces `slipmesh.yaml`. -/
theorem Prepared.replaces (prepared : Prepared world options disk plan) {secret : Secret}
    (minted : secret ∈ plan.minted.secrets) : plan.Replaces := by
  refine .inl fun quiet => ?_
  rw [prepared.minted_eq] at quiet minted
  rw [secrets_named _ _ _ (minted_of_routes _ _ _ quiet)] at minted
  cases minted

section

variable [DecidableEq Location]

/-- What a run promises: a dry run writes nothing; a run that writes has minted,
rendered, validated and read everything first, and its edit reads back; wherever it
stops, `slipmesh.yaml` has every secret that was minted and that a patch file it wrote
contains; and a run for one node changes no other's patch file. -/
structure Promises (world : World Doc Location) (options : Options) (disk : Disk Location) : Prop where
  dry : options.check ∨ options.diff → (world.generate options disk).2 = []
  refused : (world.generate options disk).2 ≠ [] → ∃ plan, Nonempty (Prepared world options disk plan) ∧
    (plan.Replaces → ∃ file, SlipmeshFile.read world.renderer.toSerde plan.updated = .ok file)
  recorded : ∀ plan, prepare world options disk = .ok plan → ∀ secret ∈ plan.minted.secrets,
    ∀ done, done <+: (world.generate options disk).2 → (∃ write ∈ done, write.Carries secret) →
    Kept world options (disk.after done) secret
  others : ∀ node, options.node = some node → ∀ yaml file, readSlipmesh world options disk = .ok (yaml, file) →
    ∀ host ∈ file.hosts, host ≠ node → ∀ done, done <+: (world.generate options disk).2 →
    disk.after done (world.locate (patchPath options host)) = disk (world.locate (patchPath options host))

/-- The patch files that a run comes to write are files of their own: where one of them is
`slipmesh.yaml`, none contains a secret that was minted; and where one node is selected, no
other's is rewritten as that node's, or as the `slipmesh.yaml` that is replaced. -/
structure Apart (world : World Doc Location) (options : Options) (disk : Disk Location) (plan : Plan)
    (file : SlipmeshFile) : Prop where
  slipmesh : (∃ host content, plan.Reaches world host content ∧ world.locate host.path = world.locate options.config) →
    ∀ secret ∈ plan.minted.secrets, ∀ host content, plan.Reaches world host content → ¬ Contains content secret
  others : ∀ node, options.node = some node → ∀ host ∈ file.hosts, host ≠ node →
    (∀ reached content, plan.Reaches world reached content →
      world.locate reached.path = world.locate (patchPath options host) →
      disk (world.locate (patchPath options host)) = some content) ∧
    (plan.Replaces → world.locate options.config = world.locate (patchPath options host) →
      disk (world.locate (patchPath options host)) = some plan.updated)

/-- A secret that was minted is in `slipmesh.yaml` whenever a patch file has it, exactly where
no patch file is written over `slipmesh.yaml`, or none has the secret. -/
theorem recorded_iff (lawful : world.Lawful holds) (prepared : Prepared world options disk plan) (ended : Ended prepared.raw)
    (writes : plan.Writes world options) {secret : Secret} (minted : secret ∈ plan.minted.secrets) :
    (∀ done, done <+: (carryOut world options plan).2 → (∃ write ∈ done, write.Carries secret) →
        Kept world options (disk.after done) secret) ↔
      ((∃ host content, plan.Reaches world host content ∧ world.locate host.path = world.locate options.config) →
        ∀ host content, plan.Reaches world host content → ¬ Contains content secret) := by
  have replaces := prepared.replaces minted
  obtain ⟨⟨file, reads⟩, -⟩ := writes.replaced replaces
  have set : secret.SetIn file.topology := by
    rw [prepared.minted_eq] at minted
    rw [(updated_topology lawful prepared ended reads).1]
    exact secrets_set _ _ _ secret minted
  rw [carryOut_writes writes, if_pos replaces]
  constructor
  · intro kept overwrites host content reaches contains
    obtain ⟨other, _, reachesOther, here⟩ := overwrites
    have written {host : HostFile} {content : String} (reaches : plan.Reaches world host content) :
        Write.patch host.host (world.locate host.path) content ∈ (writeHosts world options plan).2 :=
      (mem_writeHosts_iff writes).mpr ⟨host, content, reaches, rfl⟩
    obtain ⟨text, file, held, read, -⟩ := kept _ List.prefix_rfl ⟨_, List.mem_append_right _ (written reaches), contains⟩
    -- What stands there at the end is the last patch file that is written over it.
    obtain ⟨last, member, -, holds⟩ := after_written (disk.write (.slipmesh (world.locate options.config) plan.updated))
      ⟨_, written reachesOther, here⟩
    obtain ⟨host, content, reaches, rfl⟩ := (mem_writeHosts_iff writes).mp member
    obtain ⟨listed, count, rfl⟩ := reaches.2.planned
    obtain ⟨target, -, rendered⟩ := prepared.targeted host listed
    cases held.symm.trans holds
    exact lawful.foreign rendered.after count file read
  · intro apart done upTo carried
    rw [List.singleton_append, List.prefix_cons_iff] at upTo
    rcases upTo with rfl | ⟨later, rfl, within⟩
    · obtain ⟨write, member, -⟩ := carried
      cases member
    refine ⟨plan.updated, file, after_first disk ?_, reads, set⟩
    intro write member here
    obtain ⟨host, content, reaches, rfl⟩ := (mem_writeHosts_iff writes).mp (within.subset member)
    obtain ⟨carrier, member, carries⟩ := carried
    rcases List.mem_cons.mp member with rfl | member
    · exact carries
    · obtain ⟨other, text, reachesOther, rfl⟩ := (mem_writeHosts_iff writes).mp (within.subset member)
      exact apart ⟨host, content, reaches, here⟩ other text reachesOther carries

/-- A file stays as it is exactly where no patch file that is written, nor the new
`slipmesh.yaml`, is written over it with another text. -/
theorem others_iff (writes : plan.Writes world options) (location : Location) :
    (∀ done, done <+: (carryOut world options plan).2 → disk.after done location = disk location) ↔
      (∀ host content, plan.Reaches world host content → world.locate host.path = location →
        disk location = some content) ∧
        (plan.Replaces → world.locate options.config = location → disk location = some plan.updated) := by
  rw [after_kept_iff, carryOut_writes writes]
  constructor
  · intro same
    refine ⟨fun host content reaches here => ?_, fun replaces here => ?_⟩
    · exact same _ (List.mem_append_right _ ((mem_writeHosts_iff writes).mpr ⟨host, content, reaches, rfl⟩)) here
    · rw [if_pos replaces] at same
      exact same _ (List.mem_append_left _ (List.mem_singleton_self _)) here
  · intro given write member here
    obtain ⟨patches, slipmesh⟩ := given
    rcases List.mem_append.mp member with first | later
    · split at first
      · rename_i replaces
        cases List.mem_singleton.mp first
        exact slipmesh replaces here
      · cases first
    · obtain ⟨host, content, reaches, rfl⟩ := (mem_writeHosts_iff writes).mp later
      exact patches host content reaches here

/-- A run keeps what it promises exactly where it comes to write no patch file, or those it
comes to write are files of their own. -/
theorem generate_promises_iff (lawful : world.Lawful holds)
    (ended : ∀ raw, readFile world disk options.config = .ok raw → Ended raw) :
    Promises world options disk ↔ ∀ plan yaml file, prepare world options disk = .ok plan →
      readSlipmesh world options disk = .ok (yaml, file) → plan.Writes world options →
      Apart world options disk plan file := by
  cases planned : prepare world options disk with
  | error error =>
    have nothing : (world.generate options disk).2 = [] := by rw [World.generate, planned]
    refine iff_of_true ⟨fun _ => nothing, fun wrote => absurd nothing wrote, fun plan other => ?_, ?_⟩ fun plan _ _ other => ?_
    · rw [planned] at other
      cases other
    · intro node _ yaml file _ host _ _ done upTo
      rw [nothing, List.prefix_nil] at upTo
      rw [upTo]
      rfl
    · cases other
  | ok plan =>
    obtain ⟨prepared⟩ := prepare_ok planned
    have run : (world.generate options disk).2 = (carryOut world options plan).2 := by rw [World.generate, planned]
    have opened : readSlipmesh world options disk = .ok (prepared.yaml, prepared.original) :=
      readSlipmesh_ok.mpr ⟨prepared.raw, prepared.opened, prepared.parsed, prepared.read⟩
    have ended := ended prepared.raw prepared.opened
    by_cases writes : plan.Writes world options
    · constructor
      · rintro promises _ yaml file ⟨⟩ again _
        cases opened.symm.trans again
        refine ⟨fun overwrites secret minted => ?_, fun node selected host known other => ?_⟩
        · have kept := run ▸ promises.recorded plan planned secret minted
          exact (recorded_iff lawful prepared ended writes minted).mp kept overwrites
        · exact (others_iff writes _).mp (run ▸ promises.others node selected _ _ opened host known other)
      · intro apart
        have apart := apart plan _ _ rfl opened writes
        refine ⟨fun dry => ?_, fun _ => ⟨plan, ⟨prepared⟩, fun replaces => (writes.replaced replaces).1⟩, ?_, ?_⟩
        · simp [writes.check, writes.diff] at dry
        · intro _ same secret minted
          cases planned.symm.trans same
          rw [run]
          exact (recorded_iff lawful prepared ended writes minted).mpr fun overwrites => apart.slipmesh overwrites secret minted
        · intro node selected yaml file again host known other
          cases opened.symm.trans again
          rw [run]
          exact (others_iff writes _).mpr (apart.others node selected host known other)
    · have nothing : (world.generate options disk).2 = [] := run.trans (carryOut_nothing prepared writes)
      refine iff_of_true ⟨fun _ => nothing, fun wrote => absurd nothing wrote, ?_, ?_⟩ ?_
      · intro _ _ secret _ done upTo carried
        rw [nothing, List.prefix_nil] at upTo
        obtain ⟨write, member, -⟩ := carried
        rw [upTo] at member
        cases member
      · intro node _ yaml file _ host _ _ done upTo
        rw [nothing, List.prefix_nil] at upTo
        rw [upTo]
        rfl
      · rintro _ _ _ ⟨⟩ _ others
        exact absurd others writes

end

/-! ### What a patch file holds -/

theorem contains_iff {text part : String} : Text.contains text part ↔ part.toList <:+: text.toList := decide_eq_true_iff

theorem contains_trans {text middle part : String} (outer : Text.contains text middle) (inner : Text.contains middle part) :
    Text.contains text part := by
  rw [contains_iff] at outer inner ⊢
  exact inner.trans outer

theorem contains_left (text rest : String) : Text.contains (text ++ rest) text := by
  rw [contains_iff, String.toList_append]
  exact List.infix_append_left

theorem contains_right (start text : String) : Text.contains (start ++ text) text := by
  rw [contains_iff, String.toList_append]
  exact List.infix_append_right

theorem contains_join {parts : List String} {part : String} (member : part ∈ parts) :
    Text.contains (String.join parts) part := by
  rw [contains_iff, String.toList_join, List.flatMap]
  exact List.infix_of_mem_flatten (List.mem_map_of_mem member)

theorem contains_intercalate (separator : String) {parts : List String} {part : String} (member : part ∈ parts) :
    Text.contains (separator.intercalate parts) part := by
  induction parts with
  | nil => cases member
  | cons first rest ih =>
    by_cases alone : rest = []
    · rw [alone, List.mem_singleton] at member
      rw [alone, member, String.intercalate_singleton]
      exact contains_iff.mpr List.infix_rfl
    · rw [String.intercalate_cons_of_ne_nil alone]
      rcases List.mem_cons.mp member with rfl | later
      · rw [String.append_assoc]
        exact contains_left _ _
      · exact contains_trans (contains_right _ _) (ih later)

/-- A patch file has the text of the config rendered for the host's links. -/
theorem render_contains {renderer : Renderer} {curve : Curve} {file : SlipmeshFile} {resolved : ResolvedSecrets}
    {host content : String} (rendered : render renderer curve file resolved host = .ok content) :
    ∃ model cfg files, file.effectiveFor renderer.toSerde host = .ok model ∧
      renderAwgConfig curve model host resolved = .ok cfg ∧
      Text.contains content (renderer.text (extensionServiceDocument "awg" (renderer.awgText cfg) files)) := by
  simp only [render, renderDocuments, bind_ok, exists_unit, mapError_ok, pure_ok, Prod.exists] at rendered
  obtain ⟨documents, ⟨model, effective, cfg, awg, -, -, -, -, -, -, -, files, -, -, -, -, -, -, -, rfl⟩, rfl⟩ := rendered
  refine ⟨model, cfg, files, effective, awg, contains_trans (contains_right _ _) ?_⟩
  apply contains_intercalate
  simp

theorem render_header {renderer : Renderer} {curve : Curve} {file : SlipmeshFile} {resolved : ResolvedSecrets}
    {host content : String} (rendered : render renderer curve file resolved host = .ok content) :
    ∃ rest, content = header ++ rest := by
  simp only [render, bind_ok, pure_ok] at rendered
  obtain ⟨documents, -, rfl⟩ := rendered
  exact ⟨_, rfl⟩

/-! ### Three nodes, one named as the path from the patch files to `slipmesh.yaml` -/

/-- The topology, with the key of the second node once it is recorded. -/
def threeNodes (key : Option String) : MeshConfig :=
  { cluster := { bgpAs := 64512, loopbackNetworks := ⟨"10.62.0.0/16", "fd00:62::/32"⟩ }
    nodes := [
      { name := "../slipmesh", nodeId := "10.62.0.1", meshPrivateKey := some setText },
      { name := "node-a", nodeId := "10.62.0.2", meshPrivateKey := key },
      { name := "node-b", nodeId := "10.62.0.3", meshPrivateKey := some setText }]
    links := [{ pair := ("node-a", "node-b"), port := 51820, plain := true }] }

def threeText (key : Option String) : String :=
  document routerDefault ++ "---\n" ++ document nftablesDefault ++
    "---\nslipmesh:\n  kind: network\ncluster:\n  bgp_as: 64512\n  loopback_networks:\n    ipv4: 10.62.0.0/16\n" ++
    "    ipv6: fd00:62::/32\nnodes:\n  - name: ../slipmesh\n    node_id: 10.62.0.1\n    mesh_private_key: " ++ setText ++
    "\n  - name: node-a\n    node_id: 10.62.0.2\n" ++
    key.elim "" (fun key => "    mesh_private_key: " ++ key ++ "\n") ++
    "  - name: node-b\n    node_id: 10.62.0.3\n    mesh_private_key: " ++ setText ++
    "\nmesh:\n  links:\n    - pair:\n        - node-a\n        - node-b\n      port: 51820\n      plain: true" ++ "\n"

def threeEntries (key : Option String) : List (Value × Value) := [
  (.ofString "cluster", .mapping none [
    (.ofString "bgp_as", .scalar none (.number (.integer 64512))),
    (.ofString "loopback_networks", stringMap [("ipv4", "10.62.0.0/16"), ("ipv6", "fd00:62::/32")])]),
  (.ofString "nodes", .sequence none [
    stringMap [("name", "../slipmesh"), ("node_id", "10.62.0.1"), ("mesh_private_key", setText)],
    stringMap ([("name", "node-a"), ("node_id", "10.62.0.2")] ++ (key.map (("mesh_private_key", ·))).toList),
    stringMap [("name", "node-b"), ("node_id", "10.62.0.3"), ("mesh_private_key", setText)]]),
  (.ofString "mesh", .mapping none [(.ofString "links", .sequence none [.mapping none [
    (.ofString "pair", .sequence none [.ofString "node-a", .ofString "node-b"]),
    (.ofString "port", .scalar none (.number (.integer 51820))),
    (.ofString "plain", .scalar none (.bool true))]])])]

def threeRaws (key : Option String) : List RawDocument := [
  { patchRaw routerDefault 0 with index := 0, line := 1 },
  { patchRaw nftablesDefault 1 with index := 1, line := 10 },
  { index := 2
    line := 19
    value := .ok ⟨.mapping none ((.ofString metaKey, networkBlock) :: threeEntries key), by
      change ([metaKey, "cluster", "nodes", "mesh"].map Value.ofString).Nodup
      decide⟩
    mesh := .ok (threeNodes key)
    pool := .error "missing field name" }]

def threeFile (key : Option String) : SlipmeshFile where
  network := .mapping none (threeEntries key)
  networkIndex := 2
  hosts := ["../slipmesh", "node-a", "node-b"]
  pools := []
  patches := [routerDefault, nftablesDefault].zipIdx.map fun (patch, position) =>
    { index := position
      line := 1 + 9 * position
      block := { kind := .patch }
      value := patch.patch
      distinct := patch.patch_distinct
      mesh := .error "missing field cluster"
      pool := .error "missing field name" }
  topology := threeNodes key

/-- The YAML libraries on `slipmesh.yaml` before and after the key is recorded. -/
def threeSerde : Serde where
  documents := readTwo (threeText none) (threeText (some drawnText)) (threeRaws none) (threeRaws (some drawnText))
  readMeta := readBlock
  readMesh value :=
    let assembled key := Value.mapping none (threeEntries key ++ [(.ofString "roadwarriors", .sequence none [])])
    if value = assembled none then .ok (threeNodes none)
    else if value = assembled (some drawnText) then .ok (threeNodes (some drawnText))
    else .error "missing field cluster"
  text := blockText
  readMeta_patchBlock := readBlock_patchBlock

def readConfigFiles (files : Value) : Except String (List ConfigFile) :=
  match files.asSequence with
  | none => .error "expected a sequence"
  | some files => files.mapM fun file =>
    match mountPath file, (file.get "content").bind Value.asStr with
    | some path, some content => .ok ⟨path, content⟩
    | _, _ => .error "missing field"

def threeRenderer : Renderer where
  toSerde := threeSerde
  readFiles := readConfigFiles
  awgText cfg := "interfaces:\n" ++ String.join (cfg.interfaces.map fun iface =>
    "- name: " ++ iface.name ++ "\n  listen_port: " ++ toString iface.listenPort.toNat ++ "\n  addresses:\n" ++
      String.join (iface.addresses.map ("  - " ++ · ++ "\n")) ++ "  private_key: " ++ iface.privateKey ++ "\n  peers:\n" ++
      String.join (iface.peers.map ("  - public_key: " ++ ·.publicKey ++ "\n")))
  routerText cfg := "node:\n  loopback_addresses:\n" ++ String.join (cfg.node.loopbackAddresses.map ("  - " ++ · ++ "\n")) ++
    "bgp_as: " ++ toString cfg.bgpAs.toNat ++ "\n"
  checkRouterTemplate _ _ := .ok ()
  checkNftablesTemplate _ := .ok ()

/-- A path with its dots followed, where no link is on the way. -/
def plainPath (path : String) : List String :=
  (path.toList.splitOn '/').foldl (fun dir part =>
    if part = ['.', '.'] then dir.dropLast
    else if part = ['.'] ∨ part = [] then dir
    else dir ++ [String.ofList part]) []

def threeKey (recorded : Bool) : Option String := if recorded then some drawnText else none

def threeFields (recorded : Bool) : NetworkDocument where
  nodes := [⟨some setText⟩, ⟨threeKey recorded⟩, ⟨some setText⟩]
  mesh := some ⟨[⟨none⟩]⟩

/-- The editor on the two texts, told apart by whether the key is recorded. -/
def threeEditor : Editor Bool where
  network := {
    read := fun recorded document => if document = 2 then .ok (threeFields recorded) else .error "missing field nodes"
    write := fun _ document fields =>
      if document = 2 ∧ fields = threeFields true then .ok true else .error "no such entry" }
  pool := ⟨fun _ _ => .error "missing field name", fun _ _ _ => .error "missing field name"⟩
  clients := ⟨fun _ _ => .error "missing field name", fun _ _ _ => .error "missing field name"⟩
  retainClients _ _ _ := .error "missing field name"
  commit := .ok

/-- A disk where all goes well. -/
def threeWorld : World Bool (List String) where
  renderer := threeRenderer
  curve := twoKeys
  draws := ⟨fun _ => drawnKey, fun _ => default, fun _ => drawnKey, fun _ => default⟩
  references := templates
  parse raw := if raw = threeText none then .ok false else .error "not slipmesh.yaml"
  print recorded := threeText (threeKey recorded)
  editor := threeEditor
  locate := plainPath
  readFault _ := none
  replaceFault := none
  createFault := none
  writeFault _ := none

def threeHolds (recorded : Bool) : Holding where
  networkDocument := 2
  network := threeNodes (threeKey recorded)
  pools := []
  distinct := List.nodup_nil

def threeDisk : Disk (List String) := fun location =>
  if location = ["slipmesh.yaml"] then some (threeText none) else none

theorem threeText_ne : threeText (some drawnText) ≠ threeText none := by
  intro same
  have lengths := congrArg String.length same
  simp only [threeText, String.length_append, Option.elim_some, Option.elim_none] at lengths
  have some_text : ("    mesh_private_key: " : String).length = 22 := by decide
  have no_text : ("" : String).length = 0 := rfl
  omega

theorem read_threeText (key : Option String) (known : key = none ∨ key = some drawnText) :
    SlipmeshFile.read threeSerde (threeText key) = .ok (threeFile key) := by
  have opened : threeSerde.documents = readTwo (threeText none) (threeText (some drawnText)) (threeRaws none)
      (threeRaws (some drawnText)) := rfl
  rcases known with rfl | rfl
  · have opened : threeSerde.documents (threeText none) = .ok (threeRaws none) := by rw [opened, readTwo_first]
    rw [read_of_documents opened]
    decide
  · have opened : threeSerde.documents (threeText (some drawnText)) = .ok (threeRaws (some drawnText)) := by
      rw [opened, readTwo_second _ _ threeText_ne]
    rw [read_of_documents opened]
    decide

theorem head_append {first : Char} {text : String} (rest : String) (head : text.toList.head? = some first) :
    (text ++ rest).toList.head? = some first := by
  rw [String.toList_append, List.head?_append, head]
  rfl

theorem head_threeText (key : Option String) : (threeText key).toList.head? = some 's' := by
  delta threeText document
  simp only [String.append_assoc]
  apply head_append
  decide

theorem append_nothing {text : String} (ended : text.toList.getLast? = some '\n') : append text [] = text := by
  simp [append, ended]

theorem last_threeText (key : Option String) : (threeText key).toList.getLast? = some '\n' := by
  rw [threeText, String.toList_append, List.getLast?_append]
  rfl

theorem append_threeText (key : Option String) : append (threeText key) [] = threeText key := append_nothing (last_threeText key)

theorem missing_threeFile (key : Option String) : missing templates (threeFile key) = [] := by
  have same : missing templates (threeFile key) = missing templates (threeFile none) := rfl
  rw [same]
  decide

theorem parse_threeWorld (raw : String) :
    threeWorld.parse raw = if raw = threeText none then .ok false else .error "not slipmesh.yaml" := rfl

theorem read_threeWorld (recorded : Bool) :
    SlipmeshFile.read threeSerde (threeText (threeKey recorded)) = .ok (threeFile (threeKey recorded)) := by
  apply read_threeText
  cases recorded with
  | true => exact .inr rfl
  | false => exact .inl rfl

theorem missing_of_threeWorld {recorded : Bool} {file : SlipmeshFile}
    (read : SlipmeshFile.read threeWorld.renderer.toSerde (threeWorld.print recorded) = .ok file) :
    missing threeWorld.references file = [] := by
  have same : threeFile (threeKey recorded) = file := by
    rw [← Except.ok.injEq, ← read_threeWorld recorded, ← read]
    rfl
  rw [← same]
  exact missing_threeFile _

/-- A patch file begins with a comment, whether it is whole or cut short. -/
theorem header_cut_ne {text : String} (head : text.toList.head? = some 's') {rest : String} {count : Nat} :
    cutShort (header ++ rest) count ≠ text := by
  intro same
  have comment : (header ++ rest).toList.head? = some '#' := by
    apply head_append
    rw [header]
    decide
  have first := congrArg (fun text => text.toList.head?) same
  simp only [cutShort, String.toList_ofList, head] at first
  cases count with
  | zero => simp at first
  | succ count =>
    rw [List.head?_take, if_neg (Nat.succ_ne_zero count), comment] at first
    simp at first

theorem threeText_ne_cut (key : Option String) (rest : String) (count : Nat) :
    cutShort (header ++ rest) count ≠ threeText key := header_cut_ne (head_threeText key)

theorem read_patch (rest : String) (count : Nat) (file : SlipmeshFile) :
    SlipmeshFile.read threeSerde (cutShort (header ++ rest) count) ≠ .ok file := by
  have opened : threeSerde.documents (cutShort (header ++ rest) count) = .error "no slipmesh block" := by
    have documents : threeSerde.documents = readTwo (threeText none) (threeText (some drawnText)) (threeRaws none)
        (threeRaws (some drawnText)) := rfl
    rw [documents, readTwo, if_neg (threeText_ne_cut _ _ _), if_neg (threeText_ne_cut _ _ _)]
  rw [SlipmeshFile.read, opened]
  intro same
  cases same

theorem onto_threeFields (recorded : Bool) :
    (threeFields true).onto (threeNodes (threeKey recorded)) = threeNodes (threeKey true) := by
  cases recorded with
  | true => rfl
  | false => rfl

theorem reads_threeFields (recorded : Bool) : (threeFields recorded).Reads (threeNodes (threeKey recorded)) where
  nodes := .cons rfl (.cons rfl (.cons rfl .nil))
  links := .cons rfl .nil

theorem threeEditor_lawful : threeEditor.Lawful twoKeys threeHolds fun recorded => Ended (threeWorld.print recorded) where
  readNetwork := by
    intro recorded fields read
    have same : threeFields recorded = fields := by simpa [threeEditor, threeHolds] using read
    rw [← same]
    exact reads_threeFields recorded
  writeNetwork := by
    intro recorded fields edited _ _ wrote
    simp only [threeEditor, threeHolds, true_and] at wrote
    split at wrote
    · rename_i drawn
      cases wrote
      refine ⟨.inr (last_threeText _), ?_⟩
      rw [drawn]
      simp only [threeHolds, Holding.atNetwork, onto_threeFields]
    · cases wrote
  readPool := by
    intro _ _ _ _ member
    cases member
  writePool := by
    intro _ _ _ _ _ _ member
    cases member
  readClients := by
    intro _ _ _ _ member
    cases member
  writeClients := by
    intro _ _ _ _ _ _ _ _ member
    cases member
  retainClients := by
    intro _ _ _ _ _ _ member
    cases member
  commit := by
    intro recorded edited whole committed
    cases committed
    exact ⟨whole, rfl⟩

theorem threeWorld_lawful : threeWorld.Lawful threeHolds where
  editor := threeEditor_lawful
  printed := by
    intro raw recorded parsed
    rw [parse_threeWorld] at parsed
    split at parsed
    · rename_i same
      cases parsed
      exact same.symm
    · cases parsed
  holding := by
    intro recorded file read
    have same : threeFile (threeKey recorded) = file := by
      rw [← Except.ok.injEq, ← read_threeWorld recorded, ← read]
      rfl
    rw [← same]
    exact ⟨rfl, rfl, rfl, rfl⟩
  readable := by
    intro before file raws recorded read ended opened
    rw [missing_of_threeWorld read, threeWorld, append_threeText] at opened
    exact ⟨raws, opened⟩
  appends := by
    intro before file recorded read ended raws opened
    refine ⟨[], ?_, ?_⟩
    · rw [missing_of_threeWorld read, threeWorld, append_threeText, List.append_nil]
      exact opened
    · rw [missing_of_threeWorld read]
      rfl
  foreign := by
    intro file resolved host content rendered count other
    obtain ⟨rest, rfl⟩ := render_header rendered
    exact read_patch rest count other

theorem ended_threeDisk (raw : String) (read : readFile threeWorld threeDisk "slipmesh.yaml" = .ok raw) : Ended raw := by
  have same : threeText none = raw := by
    have opened : readFile threeWorld threeDisk "slipmesh.yaml" = .ok (threeText none) := rfl
    rwa [opened, Except.ok.injEq] at read
  rw [← same]
  exact .inr (last_threeText _)

/-- The patches of one node, in a directory further down. -/
def oneHost : Options := { node := some "node-a", patchesDir := "out/patches" }

theorem open_threeDisk {recorded : Bool} {file : SlipmeshFile}
    (opened : readSlipmesh threeWorld oneHost threeDisk = .ok (recorded, file)) : file = threeFile none := by
  obtain ⟨raw, held, -, read⟩ := readSlipmesh_ok.mp opened
  have same : threeText none = raw := by
    have text : readFile threeWorld threeDisk "slipmesh.yaml" = .ok (threeText none) := rfl
    exact Except.ok.inj (text.symm.trans held)
  rw [← same] at read
  exact Except.ok.inj (read.symm.trans (read_threeWorld false))

/-- What a run for one node comes to write is its patch file. -/
theorem reaches_oneHost {plan : Plan} {host : HostFile} {content : String}
    (planned : prepare threeWorld oneHost threeDisk = .ok plan) (reaches : plan.Reaches threeWorld host content) :
    threeWorld.locate host.path = ["out", "patches", "node-a.yaml"] := by
  obtain ⟨prepared⟩ := prepare_ok planned
  obtain ⟨listed, -⟩ := reaches.2.planned
  obtain ⟨target, selected, rendered⟩ := prepared.targeted host listed
  simp only [targets, oneHost, Option.elim_some, List.mem_singleton] at selected
  have located : threeWorld.locate (patchPath oneHost "node-a") = ["out", "patches", "node-a.yaml"] := by decide
  rw [rendered.path, selected]
  exact located

theorem generate_promises_one : Promises threeWorld oneHost threeDisk := by
  apply (generate_promises_iff threeWorld_lawful ended_threeDisk).mpr
  intro plan recorded file planned opened writes
  rw [open_threeDisk opened]
  have config : threeWorld.locate oneHost.config = ["slipmesh.yaml"] := by decide
  refine ⟨?_, ?_⟩
  · intro given
    obtain ⟨host, content, reaches, here⟩ := given
    rw [reaches_oneHost planned reaches, config] at here
    exact absurd here (by decide)
  · intro node selected host known other
    cases selected
    have paths : ∀ host ∈ (threeFile none).hosts, host ≠ "node-a" →
        plainPath (patchPath oneHost host) ≠ ["out", "patches", "node-a.yaml"] ∧
          plainPath (patchPath oneHost host) ≠ ["slipmesh.yaml"] := by decide +kernel
    obtain ⟨patches, slipmesh⟩ := paths host known other
    refine ⟨fun reached content reaches here => ?_, fun _ here => ?_⟩
    · rw [reaches_oneHost planned reaches] at here
      exact absurd here.symm patches
    · rw [config] at here
      exact absurd here.symm slipmesh

/-- The text of a document has every string in the files it lists. -/
theorem blockText_contains {entries fields : List (Value × Value)} {files : List Value} {key field : Value} {text : String}
    (listed : (key, .sequence none files) ∈ entries) (file : .mapping none fields ∈ files)
    (set : (field, .ofString text) ∈ fields) : Text.contains (blockText (.mapping none entries)) text := by
  have line : Text.contains (field.asStr.getD "" ++ ": " ++ text ++ "\n") text :=
    contains_trans (contains_left _ _) (contains_right _ _)
  rw [blockText]
  apply contains_trans (contains_join (List.mem_map_of_mem listed))
  apply contains_trans (contains_right _ _)
  apply contains_trans (contains_join (List.mem_map_of_mem file))
  apply contains_trans (contains_right _ _)
  exact contains_trans (contains_intercalate _ (List.mem_map_of_mem set)) line

theorem awgText_contains {cfg : Awg.AwgConfig} {iface : Awg.InterfaceEntry} (member : iface ∈ cfg.interfaces) :
    Text.contains (threeRenderer.awgText cfg) iface.privateKey := by
  apply contains_trans (contains_right _ _)
  apply contains_trans (contains_join (List.mem_map_of_mem member))
  -- The key stands before the peers.
  apply contains_trans (contains_left _ _)
  exact contains_trans (contains_left _ _) (contains_right _ _)

def threeDrawn : Minted := { nodeKeys := [(1, drawnText)], names := ["nodes[node-a].mesh_private_key"] }

def threeSecrets : ResolvedSecrets := (resolve threeWorld.curve threeWorld.draws (threeNodes none)).1

def threePlan (slipmesh nodeA nodeB : String) : Plan where
  minted := threeDrawn
  added := []
  updated := threeText (some drawnText)
  hosts := [
    ⟨"../slipmesh", "patches/../slipmesh.yaml", threeText none, slipmesh⟩,
    ⟨"node-a", "patches/node-a.yaml", "", nodeA⟩,
    ⟨"node-b", "patches/node-b.yaml", "", nodeB⟩]

theorem resolve_threeNodes : resolve threeWorld.curve threeWorld.draws (threeNodes none) = (threeSecrets, threeDrawn) := by
  have minted : (resolve threeWorld.curve threeWorld.draws (threeNodes none)).2 = threeDrawn := by decide
  rw [← minted]
  rfl

theorem render_threeFile {host : String} (known : host ∈ (threeFile none).hosts) :
    ∃ text, render threeRenderer twoKeys (threeFile none) threeSecrets host = .ok text := by
  have renders : ∀ host ∈ (threeFile none).hosts, (render threeRenderer twoKeys (threeFile none) threeSecrets host).isOk = true := by
    decide +kernel
  exact exists_of_isOk (renders host known)

theorem renderHost_threeWorld {host text : String} {before : String}
    (rendered : render threeRenderer twoKeys (threeFile none) threeSecrets host = .ok text)
    (held : (threeDisk (plainPath (patchPath {} host))).getD "" = before) :
    renderHost threeWorld {} threeDisk (threeFile none) threeSecrets host = .ok ⟨host, patchPath {} host, before, text⟩ := by
  have rendered : render threeWorld.renderer threeWorld.curve (threeFile none) threeSecrets host = .ok text := rendered
  have opened : readFile threeWorld threeDisk (patchPath {} host) =
      (threeDisk (plainPath (patchPath {} host))).elim (.error .notFound) .ok := rfl
  simp only [renderHost, bind_ok, mapError_ok]
  refine ⟨text, rendered, ?_⟩
  rw [opened, ← held]
  cases threeDisk (plainPath (patchPath {} host)) with
  | none => rfl
  | some before => rfl

theorem prepare_threeWorld {slipmesh nodeA nodeB : String}
    (first : render threeRenderer twoKeys (threeFile none) threeSecrets "../slipmesh" = .ok slipmesh)
    (second : render threeRenderer twoKeys (threeFile none) threeSecrets "node-a" = .ok nodeA)
    (third : render threeRenderer twoKeys (threeFile none) threeSecrets "node-b" = .ok nodeB) :
    prepare threeWorld {} threeDisk = .ok (threePlan slipmesh nodeA nodeB) := by
  have parsed : threeWorld.parse (threeText none) = .ok false := by rw [parse_threeWorld, if_pos rfl]
  have opened : readSlipmesh threeWorld {} threeDisk = .ok (false, threeFile none) := by
    rw [readSlipmesh_ok]
    exact ⟨threeText none, rfl, parsed, read_threeText none (.inl rfl)⟩
  have settled : settleSecrets threeWorld {} false (threeFile none) false = .ok (threeSecrets, threeDrawn, true) := by
    have resolved : resolve threeWorld.curve threeWorld.draws (threeFile none).topology = (threeSecrets, threeDrawn) :=
      resolve_threeNodes
    rw [settleSecrets, resolved]
    rfl
  have nothing : missing threeWorld.references (threeFile none) = [] := missing_threeFile none
  have updated : append (threeWorld.print true) [] = threeText (some drawnText) := append_threeText _
  have paths : plainPath (patchPath {} "../slipmesh") = ["slipmesh.yaml"] ∧
      plainPath (patchPath {} "node-a") = ["patches", "node-a.yaml"] ∧
      plainPath (patchPath {} "node-b") = ["patches", "node-b.yaml"] := by decide
  obtain ⟨first_path, second_path, third_path⟩ := paths
  simp only [prepare, bind_ok, exists_unit, pure_ok, Prod.exists]
  refine ⟨false, threeFile none, opened, rfl, threeSecrets, threeDrawn, true, settled, ?_, threeFile none, ?_,
    (threePlan slipmesh nodeA nodeB).hosts, ?_, ?_⟩
  · rw [nothing]
    rfl
  · rw [nothing]
    rfl
  · change ["../slipmesh", "node-a", "node-b"].mapM _ = _
    simp only [mapM_cons_ok, List.mapM_nil, pure_ok]
    refine ⟨_, _, renderHost_threeWorld first ?_, ⟨_, _, renderHost_threeWorld second ?_,
      ⟨_, _, renderHost_threeWorld third ?_, rfl, rfl⟩, rfl⟩, rfl⟩
    · rw [first_path]
      rfl
    · rw [second_path]
      rfl
    · rw [third_path]
      rfl
  · rw [nothing, updated]
    rfl

/-- What the run writes, in order. -/
theorem generate_threeWorld {slipmesh nodeA nodeB : String}
    (first : render threeRenderer twoKeys (threeFile none) threeSecrets "../slipmesh" = .ok slipmesh)
    (second : render threeRenderer twoKeys (threeFile none) threeSecrets "node-a" = .ok nodeA)
    (third : render threeRenderer twoKeys (threeFile none) threeSecrets "node-b" = .ok nodeB) :
    (threeWorld.generate {} threeDisk).2 = [
      .slipmesh ["slipmesh.yaml"] (threeText (some drawnText)),
      .patch "../slipmesh" ["slipmesh.yaml"] slipmesh,
      .patch "node-a" ["patches", "node-a.yaml"] nodeA,
      .patch "node-b" ["patches", "node-b.yaml"] nodeB] := by
  have replaces : (threePlan slipmesh nodeA nodeB).Replaces := by
    have named : routes threeDrawn ≠ "" := by decide
    exact .inl named
  have located : plainPath "slipmesh.yaml" = ["slipmesh.yaml"] ∧ plainPath "patches/../slipmesh.yaml" = ["slipmesh.yaml"] ∧
      plainPath "patches/node-a.yaml" = ["patches", "node-a.yaml"] ∧
      plainPath "patches/node-b.yaml" = ["patches", "node-b.yaml"] := by decide
  have overwrites : threeText none ≠ slipmesh := by
    obtain ⟨rest, rfl⟩ := render_header first
    have differ := threeText_ne_cut none rest (header ++ rest).length
    rw [cutShort_length] at differ
    exact differ.symm
  have fresh {host content : String} (rendered : render threeRenderer twoKeys (threeFile none) threeSecrets host = .ok content) :
      "" ≠ content := by
    obtain ⟨rest, rfl⟩ := render_header rendered
    intro same
    have starts := String.append_eq_empty_iff.mp same.symm
    exact absurd starts.1 (by decide)
  have patches : (writePatches threeWorld (threePlan slipmesh nodeA nodeB).hosts).2 = [
      .patch "../slipmesh" (plainPath "patches/../slipmesh.yaml") slipmesh,
      .patch "node-a" (plainPath "patches/node-a.yaml") nodeA,
      .patch "node-b" (plainPath "patches/node-b.yaml") nodeB] := by
    simp only [threePlan, writePatches, if_neg overwrites, if_neg (fresh second), if_neg (fresh third)]
    rfl
  have written : writeText threeWorld {} (threeText (some drawnText)) =
      .ok (.slipmesh (plainPath "slipmesh.yaml") (threeText (some drawnText))) := by
    have reads : SlipmeshFile.read threeWorld.renderer.toSerde (threeText (some drawnText)) = .ok (threeFile (some drawnText)) :=
      read_threeText _ (.inr rfl)
    rw [writeText, reads]
    rfl
  obtain ⟨config, slipmesh_path, nodeA_path, nodeB_path⟩ := located
  have hosts : writeHosts threeWorld {} (threePlan slipmesh nodeA nodeB) =
      writePatches threeWorld (threePlan slipmesh nodeA nodeB).hosts := rfl
  rw [slipmesh_path, nodeA_path, nodeB_path] at patches
  rw [config] at written
  have updated : (threePlan slipmesh nodeA nodeB).updated = threeText (some drawnText) := rfl
  have added : (threePlan slipmesh nodeA nodeB).added = [] := rfl
  rw [World.generate, prepare_threeWorld first second third]
  simp [carryOut, added, replaces, updated, written, hosts, patches]

/-- The patch file of the first node takes the place of `slipmesh.yaml`; the patch file of
the second is written after it with a key that `slipmesh.yaml` then lacks. -/
theorem generate_overwrites : ∃ plan content, prepare threeWorld {} threeDisk = .ok plan ∧
    .nodeKey 1 drawnText ∈ plan.minted.secrets ∧
    .patch "node-a" ["patches", "node-a.yaml"] content ∈ (threeWorld.generate {} threeDisk).2 ∧
    Contains content (.nodeKey 1 drawnText) ∧
    ¬ Kept threeWorld {} (threeDisk.after (threeWorld.generate {} threeDisk).2) (.nodeKey 1 drawnText) ∧
    ¬ Promises threeWorld {} threeDisk := by
  obtain ⟨slipmesh, first⟩ := render_threeFile (show "../slipmesh" ∈ (threeFile none).hosts by simp [threeFile])
  obtain ⟨nodeA, second⟩ := render_threeFile (show "node-a" ∈ (threeFile none).hosts by simp [threeFile])
  obtain ⟨nodeB, third⟩ := render_threeFile (show "node-b" ∈ (threeFile none).hosts by simp [threeFile])
  have planned := prepare_threeWorld first second third
  have writes := generate_threeWorld first second third
  have drawn : Secret.nodeKey 1 drawnText ∈ (threePlan slipmesh nodeA nodeB).minted.secrets := by
    have minted : Secret.nodeKey 1 drawnText ∈ threeDrawn.secrets := by decide
    exact minted
  have lost : ¬ Kept threeWorld {} (threeDisk.after (threeWorld.generate {} threeDisk).2) (.nodeKey 1 drawnText) := by
    intro given
    obtain ⟨text, file, held, reads, _⟩ := given
    have located : threeWorld.locate ({} : Options).config = ["slipmesh.yaml"] := by decide
    rw [located, writes] at held
    simp only [Disk.after, List.foldl_cons, List.foldl_nil, Disk.write, Write.location, Write.content] at held
    obtain ⟨rest, same⟩ := render_header first
    have overwritten : slipmesh = text := by simpa using held
    rw [← overwritten, same, ← cutShort_length (header ++ rest)] at reads
    exact read_patch rest _ file reads
  have patched : .patch "node-a" ["patches", "node-a.yaml"] nodeA ∈ (threeWorld.generate {} threeDisk).2 := by
    rw [writes]
    simp
  have holds : Text.contains nodeA drawnText := by
    obtain ⟨model, cfg, files, effective, rendered, holds⟩ := render_contains second
    have interfaces : (renderAwgConfig twoKeys (threeNodes none) "node-a" threeSecrets).toOption.any
        (fun cfg => cfg.interfaces.any (·.privateKey = drawnText)) = true := by decide
    have whole : (threeFile none).effectiveFor threeSerde "node-a" = .ok (threeNodes none) := by decide
    have same : model = threeNodes none := by
      have both := effective.symm.trans whole
      simpa using both
    rw [same] at rendered
    rw [rendered] at interfaces
    simp only [Except.toOption, Option.any_some, List.any_eq_true, decide_eq_true_eq] at interfaces
    obtain ⟨iface, listed, key⟩ := interfaces
    have text : Text.contains (threeRenderer.awgText cfg) drawnText := key ▸ awgText_contains listed
    have last_entry {a b c d : Value × Value} : d ∈ [a, b, c, d] := by simp
    have block : Text.contains (blockText (extensionServiceDocument "awg" (threeRenderer.awgText cfg) files))
        (threeRenderer.awgText cfg) :=
      blockText_contains last_entry (List.mem_cons_self ..) (List.mem_cons_of_mem _ (List.mem_cons_self ..))
    exact contains_trans (contains_trans holds block) text
  have carried : Contains nodeA (.nodeKey 1 drawnText) := List.forall_mem_singleton.mpr holds
  refine ⟨_, nodeA, planned, drawn, patched, carried, lost, ?_⟩
  intro given
  obtain ⟨_, _, recorded, _⟩ := given
  exact lost (recorded _ planned _ drawn _ List.prefix_rfl ⟨_, patched, carried⟩)

end Slipmesh.Taloscfg
