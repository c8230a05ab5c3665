import Slipmesh.Proofs.Startup

/-! A whole start of `awg` among other daemons that leave its links alone. -/

namespace Slipmesh.Awg.Startup
open Common Host Library

variable {engine : Engine} {resolver : Resolver} {cfg : AwgConfig} {iface : InterfaceEntry} {kernel now later : Host.Kernel}
  {names : List String} {name : String} {link : Link}

/-! ### What is the daemon's -/

/-- The links of the config and those of the kind. -/
def Ours (names : List String) (kernel : Host.Kernel) (name : String) : Prop :=
  name ∈ names ∨ ∃ link, kernel.links name = some link ∧ link.kind = some amneziawg

/-- Nobody else touches a link that is the daemon's, or makes one that would be. -/
def Leaves (names : List String) (before after : Host.Kernel) : Prop :=
  ∀ name, Ours names before name ∨ Ours names after name → after.links name = before.links name

theorem Ours.same (ours : Ours names kernel name) (same : now.links name = kernel.links name) : Ours names now name := by
  rcases ours with listed | ⟨link, found, driven⟩
  · exact .inl listed
  · exact .inr ⟨link, same.trans found, driven⟩

theorem Leaves.trans (one : Leaves names kernel now) (two : Leaves names now later) : Leaves names kernel later := by
  intro name ours
  rcases ours with ours | ours
  · have same := one name (.inl ours)
    exact (two name (.inl (ours.same same))).trans same
  · have same := two name (.inr ours)
    exact same.trans (one name (.inr (ours.same same.symm)))

theorem Leaves.listed (leaves : Leaves names kernel now) (listed : name ∈ names) : now.links name = kernel.links name :=
  leaves name (.inl (.inl listed))

/-- A link of the kind that is not in the config. -/
def Leftover (names : List String) (kernel : Host.Kernel) (name : String) : Prop :=
  name ∉ names ∧ ∃ link, kernel.links name = some link ∧ link.kind = some amneziawg

theorem Leaves.leftover (leaves : Leaves names kernel now) (left : Leftover names now name) : Leftover names kernel name := by
  obtain ⟨unlisted, link, found, driven⟩ := left
  exact ⟨unlisted, link, (leaves name (.inr (.inr ⟨link, found, driven⟩))).symm.trans found, driven⟩

/-! ### What a start never does -/

def namesOf (cfg : AwgConfig) : List String := cfg.interfaces.map (·.name)

/-- The links of the config evolve, those that are left over only go, and none of the
first is touched while there is one of the others. -/
structure Orderly (cfg : AwgConfig) (before after : Host.Kernel) : Prop where
  evolves : ∀ iface ∈ cfg.interfaces, ∀ link, before.links iface.name = some link →
    ∃ later, after.links iface.name = some later ∧ Evolves (Wanted iface) link later
  leftovers : ∀ name, Leftover (namesOf cfg) after name → Leftover (namesOf cfg) before name
  gcFirst : ∀ name, Leftover (namesOf cfg) after name →
    ∀ iface ∈ cfg.interfaces, after.links iface.name = before.links iface.name

/-- Any other link is as it was. -/
structure Careful (cfg : AwgConfig) (before after : Host.Kernel) : Prop extends Orderly cfg before after where
  strangers : ∀ name ∉ namesOf cfg, after.links name = before.links name ∨
    Leftover (namesOf cfg) before name ∧ after.links name = none

theorem Orderly.refl (cfg : AwgConfig) (kernel : Host.Kernel) : Orderly cfg kernel kernel where
  evolves := fun iface _ link found => ⟨link, found, .refl (Wanted iface) link⟩
  leftovers := fun _ left => left
  gcFirst := fun _ _ _ _ => rfl

theorem Orderly.trans (one : Orderly cfg kernel now) (two : Orderly cfg now later) : Orderly cfg kernel later where
  evolves := by
    intro iface listed link found
    obtain ⟨middle, found, first⟩ := one.evolves iface listed link found
    obtain ⟨last, found, second⟩ := two.evolves iface listed middle found
    exact ⟨last, found, first.trans second⟩
  leftovers := fun name left => one.leftovers name (two.leftovers name left)
  gcFirst := by
    intro name left iface listed
    exact (two.gcFirst name left iface listed).trans (one.gcFirst name (two.leftovers name left) iface listed)

theorem mem_namesOf (listed : iface ∈ cfg.interfaces) : iface.name ∈ namesOf cfg := List.mem_map_of_mem listed

theorem Leaves.orderly (leaves : Leaves (namesOf cfg) kernel now) : Orderly cfg kernel now where
  evolves := by
    intro iface listed link found
    exact ⟨link, (leaves.listed (mem_namesOf listed)).trans found, .refl (Wanted iface) link⟩
  leftovers := fun _ left => leaves.leftover left
  gcFirst := fun _ _ _ listed => leaves.listed (mem_namesOf listed)

theorem Careful.refl (cfg : AwgConfig) (kernel : Host.Kernel) : Careful cfg kernel kernel where
  toOrderly := .refl cfg kernel
  strangers := fun _ _ => .inl rfl

/-- The daemon at its start, among others. -/
def starting (cfg : AwgConfig) : Rules Host.Kernel where
  rely := Leaves (namesOf cfg)
  guarantee := Careful cfg
  still := fun _ _ _ => rfl
  further := Leaves.trans

/-! ### What is left over goes -/

/-- Links only go, and only such as are left over. -/
def Collects (names : List String) (before after : Host.Kernel) : Prop :=
  ∀ name, after.links name = before.links name ∨ Leftover names before name ∧ after.links name = none

def collecting (names : List String) : Rules Host.Kernel where
  rely := Leaves names
  guarantee := Collects names
  still := fun _ _ _ => rfl
  further := Leaves.trans

/-- The links of the dump that are still to be seen to, and among them all that are left
over. -/
structure Pending (names : List String) (links passed : List (String × UInt32)) (now : Host.Kernel) : Prop where
  there : ∀ entry ∈ links, entry ∉ passed → ∃ link, now.links entry.1 = some link ∧ link.index = entry.2 ∧ link.kind = some amneziawg
  complete : ∀ name, Leftover names now name → ∃ index, (name, index) ∈ links ∧ (name, index) ∉ passed

theorem Pending.moved {links passed : List (String × UInt32)} (pending : Pending names links passed now)
    (leaves : Leaves names now later) : Pending names links passed later where
  there := by
    intro entry listed left
    obtain ⟨link, found, indexed, driven⟩ := pending.there entry listed left
    exact ⟨link, (leaves entry.1 (.inl (.inr ⟨link, found, driven⟩))).trans found, indexed, driven⟩
  complete := fun name left => pending.complete name (leaves.leftover left)

theorem Collects.leftover (collects : Collects names kernel now) (left : Leftover names now name) : Leftover names kernel name := by
  obtain ⟨unlisted, link, found, driven⟩ := left
  rcases collects name with same | ⟨_, gone⟩
  · exact ⟨unlisted, link, same.symm.trans found, driven⟩
  · rw [gone] at found
    cases found

/-- One more link has been seen to: it is in the config, or it has just gone. -/
theorem Pending.next {links passed : List (String × UInt32)} {entry : String × UInt32} (pending : Pending names links passed now)
    (unique : ∀ other ∈ links, other.1 = entry.1 → other = entry)
    (others : ∀ name, name ≠ entry.1 → later.links name = now.links name)
    (seen : ¬ Leftover names later entry.1) : Pending names links (passed ++ [entry]) later where
  there := by
    intro other listed left
    rw [List.mem_append, List.mem_singleton, not_or] at left
    obtain ⟨link, found, indexed, driven⟩ := pending.there other listed left.1
    exact ⟨link, (others other.1 fun same => left.2 (unique other listed same)).trans found, indexed, driven⟩
  complete := by
    intro name left
    have different : name ≠ entry.1 := by
      rintro rfl
      exact seen left
    obtain ⟨unlisted, link, found, driven⟩ := left
    obtain ⟨index, member, fresh⟩ := pending.complete name ⟨unlisted, link, (others name different).symm.trans found, driven⟩
    refine ⟨index, member, ?_⟩
    rw [List.mem_append, List.mem_singleton, not_or]
    exact ⟨fresh, fun same => different (congrArg Prod.fst same)⟩

variable {refusable : Host.Kernel → Request → Prop} {excused : Prop}
  (reasons : ∀ now request, refusable now request → excused ∨ now.Reason request)

include reasons in
theorem deleteLink_meets (unlisted : name ∉ names) (found : kernel.links name = some link) (driven : link.kind = some amneziawg) :
    Meets (serves refusable) (collecting names)
      (fun _ later => ∃ now after, Leaves names kernel now ∧ now.Alters after name none ∧ Leaves names after later)
      (fun _ _ => excused) (deleteLink link.index) kernel := by
  apply meets_call
  · intro now moves _ after altersAt
    have present : now.links name = some link := (moves name (.inl (.inr ⟨link, found, driven⟩))).trans found
    obtain ⟨altered, rfl, alters⟩ := altersAt.only present
    refine ⟨?_, fun later more => ⟨now, after, moves, alters, more⟩⟩
    intro other
    by_cases same : other = name
    · subst same
      exact .inr ⟨⟨unlisted, link, present, driven⟩, by rw [alters, Function.update_self]⟩
    · exact .inl (by rw [alters, Function.update_of_ne same])
  · intro now moves may after refuses
    cases refuses
    have present : now.links name = some link := (moves name (.inl (.inr ⟨link, found, driven⟩))).trans found
    exact ⟨fun _ => .inl rfl, fun _ _ => (reasons now _ may).resolve_right fun missing => missing name link present rfl⟩

theorem ofKind_some {link : String × UInt32 × Option String} {kind : String} {entry : String × UInt32} :
    (if link.2.2 = some kind then some (link.1, link.2.1) else none) = some entry ↔ link = (entry.1, entry.2, some kind) := by
  constructor
  · intro same
    split at same
    · rename_i found
      cases same
      rw [← found]
    · cases same
  · rintro rfl
    exact if_pos rfl

include reasons in
theorem gc_meets : Meets (serves refusable) (collecting names) (fun _ now => ∀ name, ¬ Leftover names now name)
    (fun _ _ => excused) (gc names) kernel := by
  apply meets_bind
  apply meets_bind
  refine (meets_reads rfl fun _ _ => .inl rfl).mono ?_ ?_
  rotate_left
  · intro _ later given
    obtain ⟨_, seen, _, may⟩ := given
    exact (reasons seen _ may).resolve_right nofun
  intro listed now given
  obtain ⟨seen, _, ⟨_, distinct, lists⟩, moves⟩ := given
  refine meets_pure fun later more => ?_
  generalize chosen : (listed.filterMap fun link => if link.2.2 = some amneziawg then some (link.1, link.2.1) else none) = links
  have mem_links (entry : String × UInt32) : entry ∈ links ↔
      ∃ link, seen.links entry.1 = some link ∧ link.index = entry.2 ∧ link.kind = some amneziawg := by
    simp only [← chosen, ← lists entry.1 entry.2 (some amneziawg), List.mem_filterMap, ofKind_some, exists_eq_right]
  have unique (first second : String × UInt32) (one : first ∈ links) (two : second ∈ links) (same : first.1 = second.1) :
      first = second := by
    obtain ⟨link, found, indexed, _⟩ := (mem_links first).mp one
    obtain ⟨other, present, named, _⟩ := (mem_links second).mp two
    rw [← same, found] at present
    cases present
    exact Prod.ext same (indexed.symm.trans named)
  have once : links.Nodup := by
    rw [← chosen]
    refine List.Nodup.filterMap ?_ distinct.of_map
    intro first second entry one two
    exact (ofKind_some.mp one).trans (ofKind_some.mp two).symm
  have start : Pending names links [] seen := by
    refine ⟨fun entry listed _ => (mem_links entry).mp listed, ?_⟩
    intro name left
    obtain ⟨_, link, found, driven⟩ := left
    exact ⟨link.index, (mem_links (name, link.index)).mpr ⟨link, found, rfl, driven⟩, List.not_mem_nil⟩
  refine (meets_forM (Pending names links) (fun _ _ _ moves pending => pending.moved moves) ?_
    ((start.moved moves).moved more)).imp ?_
  · intro passed entry remaining now split pending
    have member : entry ∈ links := split ▸ List.mem_append_right _ (List.mem_cons_self ..)
    have alone (other : String × UInt32) (listed : other ∈ links) : other.1 = entry.1 → other = entry :=
      unique other entry listed member
    split
    · rename_i listed
      refine meets_pure fun last further => (pending.moved further).next alone (fun _ _ => rfl) ?_
      exact fun left => left.1 listed
    · rename_i unlisted
      have fresh : entry ∉ passed := by
        have apart := split ▸ once
        exact fun seen => List.disjoint_of_nodup_append apart seen (List.mem_cons_self ..)
      obtain ⟨link, found, indexed, driven⟩ := pending.there entry member fresh
      rw [← indexed]
      refine (deleteLink_meets reasons unlisted found driven).imp ?_
      intro _ last given
      obtain ⟨before, after, moves, alters, further⟩ := given
      refine ((pending.moved moves).next alone ?_ ?_).moved further
      · intro other different
        rw [alters, Function.update_of_ne different]
      · intro left
        obtain ⟨_, link, found, _⟩ := left
        rw [alters, Function.update_self] at found
        cases found
  · intro _ last pending name left
    obtain ⟨index, member, fresh⟩ := pending.complete name left
    exact fresh member

/-! ### The interfaces, one after the other -/

theorem Collects.careful (collects : Collects (namesOf cfg) kernel now) : Careful cfg kernel now where
  evolves := by
    intro iface listed link found
    rcases collects iface.name with same | ⟨left, _⟩
    · exact ⟨link, same.trans found, .refl (Wanted iface) link⟩
    · exact absurd (mem_namesOf listed) left.1
  leftovers := fun _ left => collects.leftover left
  gcFirst := by
    intro name _ iface listed
    rcases collects iface.name with same | ⟨left, _⟩
    · exact same
    · exact absurd (mem_namesOf listed) left.1
  strangers := fun name _ => collects name

/-- Every link of the kind is of the config. -/
def Clear (cfg : AwgConfig) (kernel : Host.Kernel) : Prop := ∀ name, ¬ Leftover (namesOf cfg) kernel name

theorem Clear.moved (clear : Clear cfg kernel) (leaves : Leaves (namesOf cfg) kernel now) : Clear cfg now :=
  fun name left => clear name (leaves.leftover left)

theorem Clear.tended (clear : Clear cfg kernel) (listed : iface ∈ cfg.interfaces) {kind : String} {wanted : IpCidr → Prop}
    (tends : Tends iface.name kind wanted kernel now) : Clear cfg now := by
  intro name left
  obtain ⟨unlisted, link, found, driven⟩ := left
  have different : name ≠ iface.name := by
    rintro rfl
    exact unlisted (mem_namesOf listed)
  exact clear name ⟨unlisted, link, (tends.others name different).symm.trans found, driven⟩

variable (distinct : (cfg.interfaces.map (·.name)).Nodup)

include distinct in
theorem Clear.careful (clear : Clear cfg kernel) (listed : iface ∈ cfg.interfaces)
    (tends : Tends iface.name amneziawg (Wanted iface) kernel now) : Careful cfg kernel now where
  evolves := by
    intro other member link found
    by_cases same : other.name = iface.name
    · cases List.inj_on_of_nodup_map distinct member listed same
      exact tends.evolves link found
    · exact ⟨link, (tends.others other.name same).trans found, .refl (Wanted other) link⟩
  leftovers := fun name left => absurd left (clear.tended listed tends name)
  gcFirst := fun name left => absurd left (clear.tended listed tends name)
  strangers := by
    intro name unlisted
    refine .inl (tends.others name ?_)
    rintro rfl
    exact unlisted (mem_namesOf listed)

/-- No leftover is there, and the other links of the config are as they were. -/
def Apart (cfg : AwgConfig) (iface : InterfaceEntry) (before now : Host.Kernel) : Prop :=
  Clear cfg now ∧ ∀ other ∈ cfg.interfaces, other.name ≠ iface.name → now.links other.name = before.links other.name

include reasons distinct in
theorem ensureInterface_among (listed : iface ∈ cfg.interfaces) (clear : Clear cfg kernel)
    (ready : excused ∨ Ready engine iface (kernel.links iface.name)) :
    Meets (serves refusable) (starting cfg)
      (fun _ now => (∃ link, now.links iface.name = some link ∧
        UpToDate engine resolver iface (kernel.links iface.name) link) ∧ Apart cfg iface kernel now)
      (fun _ now => excused ∧ Apart cfg iface kernel now) (ensureInterface engine resolver iface) kernel := by
  let both : Rules Host.Kernel :=
    { starting cfg with
      guarantee := fun before after => Careful cfg before after ∧ Tends iface.name amneziawg (Wanted iface) before after }
  have among : Meets (serves refusable) both _ _ (ensureInterface engine resolver iface) kernel :=
    (ensureInterface_meets reasons rfl ready).under (Clear cfg) (fun _ leaves => leaves.listed (mem_namesOf listed))
      (fun leaves clear => clear.moved leaves)
      (fun clear tends => ⟨⟨clear.careful distinct listed tends, tends⟩, clear.tended listed tends⟩) clear
  refine (among.frame (Apart cfg iface kernel) ?_ ?_ ⟨clear, fun _ _ _ => rfl⟩).within _ id And.left
  · intro first second leaves apart
    refine ⟨apart.1.moved leaves, fun other member different => ?_⟩
    exact (leaves.listed (mem_namesOf member)).trans (apart.2 other member different)
  · intro first second own apart
    refine ⟨apart.1.tended listed own.2, fun other member different => ?_⟩
    exact (own.2.others other.name different).trans (apart.2 other member different)

/-- The turns that some of the interfaces have had. -/
structure Halfway (engine : Engine) (resolver : Resolver) (cfg : AwgConfig) (excused : Prop) (before : Host.Kernel)
    (passed : List InterfaceEntry) (failed : List String) (now : Host.Kernel) : Prop where
  clear : Clear cfg now
  why : failed ≠ [] → excused
  listed : ∀ name ∈ failed, ∃ iface ∈ passed, iface.name = name
  done : ∀ iface ∈ passed, iface.name ∉ failed →
    ∃ link, now.links iface.name = some link ∧ UpToDate engine resolver iface (before.links iface.name) link
  untouched : ∀ iface ∈ cfg.interfaces, iface ∉ passed → now.links iface.name = before.links iface.name

theorem Halfway.moved {passed : List InterfaceEntry} {failed : List String}
    (halfway : Halfway engine resolver cfg excused kernel passed failed now) (inside : ∀ iface ∈ passed, iface ∈ cfg.interfaces)
    (leaves : Leaves (namesOf cfg) now later) : Halfway engine resolver cfg excused kernel passed failed later where
  clear := halfway.clear.moved leaves
  why := halfway.why
  listed := halfway.listed
  done := by
    intro iface member converged
    obtain ⟨link, found, upToDate⟩ := halfway.done iface member converged
    exact ⟨link, (leaves.listed (mem_namesOf (inside iface member))).trans found, upToDate⟩
  untouched := by
    intro iface listed left
    exact (leaves.listed (mem_namesOf listed)).trans (halfway.untouched iface listed left)

include distinct in
/-- A turn, whether it goes well or is noted as failed. -/
theorem Halfway.next {passed : List InterfaceEntry} {failed more : List String}
    (halfway : Halfway engine resolver cfg excused kernel passed failed now) (inside : ∀ iface ∈ passed, iface ∈ cfg.interfaces)
    (fresh : iface ∉ passed) (listed : iface ∈ cfg.interfaces) (apart : Apart cfg iface now later)
    (noted : more = failed ∧ (∃ link, later.links iface.name = some link ∧
      UpToDate engine resolver iface (kernel.links iface.name) link) ∨ excused ∧ more = failed ++ [iface.name]) :
    Halfway engine resolver cfg excused kernel (passed ++ [iface]) more later where
  clear := apart.1
  why := by
    rcases noted with ⟨rfl, _⟩ | ⟨excuse, rfl⟩
    · exact halfway.why
    · exact fun _ => excuse
  listed := by
    intro name member
    rcases noted with ⟨rfl, _⟩ | ⟨_, rfl⟩
    · obtain ⟨other, before, same⟩ := halfway.listed name member
      exact ⟨other, List.mem_append_left _ before, same⟩
    · rcases List.mem_append.mp member with member | member
      · obtain ⟨other, before, same⟩ := halfway.listed name member
        exact ⟨other, List.mem_append_left _ before, same⟩
      · exact ⟨iface, by simp, (List.mem_singleton.mp member).symm⟩
  done := by
    intro other member converged
    have kept : other.name ∉ failed := by
      rcases noted with ⟨rfl, _⟩ | ⟨_, rfl⟩
      · exact converged
      · exact fun before => converged (List.mem_append_left _ before)
    rcases List.mem_append.mp member with before | last
    · obtain ⟨link, found, upToDate⟩ := halfway.done other before kept
      have different : other.name ≠ iface.name := by
        intro same
        cases List.inj_on_of_nodup_map distinct (inside other before) listed same
        exact fresh before
      exact ⟨link, (apart.2 other (inside other before) different).trans found, upToDate⟩
    · cases List.mem_singleton.mp last
      rcases noted with ⟨rfl, upToDate⟩ | ⟨_, rfl⟩
      · exact upToDate
      · exact absurd (List.mem_append_right _ (List.mem_singleton_self _)) converged
  untouched := by
    intro other member left
    rw [List.mem_append, List.mem_singleton, not_or] at left
    have different : other.name ≠ iface.name := fun same => left.2 (List.inj_on_of_nodup_map distinct member listed same)
    exact (apart.2 other member different).trans (halfway.untouched other member left.1)

include reasons distinct in
theorem convergeInterface_meets {passed : List InterfaceEntry} {failed : List String} {fails : StartError → Host.Kernel → Prop}
    (halfway : Halfway engine resolver cfg excused kernel passed failed now) (inside : ∀ iface ∈ passed, iface ∈ cfg.interfaces)
    (fresh : iface ∉ passed) (listed : iface ∈ cfg.interfaces)
    (ready : excused ∨ Ready engine iface (kernel.links iface.name)) :
    Meets (serves refusable) (starting cfg)
      (fun more later => Halfway engine resolver cfg excused kernel (passed ++ [iface]) more later) fails
      (convergeInterface engine resolver failed iface) now := by
  have inside' : ∀ other ∈ passed ++ [iface], other ∈ cfg.interfaces := by
    intro other member
    rcases List.mem_append.mp member with before | last
    · exact inside other before
    · cases List.mem_singleton.mp last
      exact listed
  apply meets_catch
  apply meets_bind
  rw [← halfway.untouched iface listed fresh] at ready
  refine (ensureInterface_among reasons distinct listed halfway.clear ready).mono ?_ ?_
  · intro _ later given
    obtain ⟨⟨link, found, upToDate⟩, apart⟩ := given
    rw [halfway.untouched iface listed fresh] at upToDate
    have next := halfway.next distinct inside fresh listed apart (.inl ⟨rfl, link, found, upToDate⟩)
    exact meets_pure fun last moves => next.moved inside' moves
  · intro _ later given
    have next := halfway.next distinct inside fresh listed given.2 (.inr ⟨given.1, rfl⟩)
    exact meets_pure fun last moves => next.moved inside' moves

/-! ### The whole of it -/

/-- What the daemon's links are at the end, but for those that it names as failed. -/
structure Started (engine : Engine) (resolver : Resolver) (cfg : AwgConfig) (failed : List String) (before now : Host.Kernel) :
    Prop where
  clear : Clear cfg now
  upToDate : ∀ iface ∈ cfg.interfaces, iface.name ∉ failed →
    ∃ link, now.links iface.name = some link ∧ UpToDate engine resolver iface (before.links iface.name) link

theorem Started.moved {failed : List String} (started : Started engine resolver cfg failed kernel now)
    (leaves : Leaves (namesOf cfg) now later) : Started engine resolver cfg failed kernel later where
  clear := started.clear.moved leaves
  upToDate := by
    intro iface listed converged
    obtain ⟨link, found, upToDate⟩ := started.upToDate iface listed converged
    exact ⟨link, (leaves.listed (mem_namesOf listed)).trans found, upToDate⟩

theorem logHandshakeSummary_meets {holds : Host.Kernel → Prop} {fails : StartError → Host.Kernel → Prop}
    (stable : ∀ {now later}, Leaves (namesOf cfg) now later → holds now → holds later) (start : holds kernel) :
    Meets (serves refusable) (starting cfg) (fun _ => holds) fails (logHandshakeSummary cfg) kernel := by
  refine meets_forM (fun _ => holds) (fun _ _ _ => stable) ?_ start
  intro passed iface remaining now _ holds
  apply meets_catch
  apply meets_bind
  refine (meets_reads rfl (Careful.refl cfg)).mono ?_ ?_
  · intro _ later given
    obtain ⟨seen, moves, _, more⟩ := given
    exact meets_pure fun last further => stable further (stable more (stable moves holds))
  · intro _ later moves
    exact meets_pure fun last further => stable further (stable moves.1 holds)

/-- The indices of the links. -/
def table (kernel : Host.Kernel) : LinkTable where
  index name := (kernel.links name).map (·.index)
  distinct := by
    intro first second index one two
    obtain ⟨a, there, rfl⟩ := Option.map_eq_some_iff.mp one
    obtain ⟨b, present, same⟩ := Option.map_eq_some_iff.mp two
    exact kernel.distinct first second a b there present same.symm

/-- An interface as it is tracked. -/
def Tracks (kernel : Host.Kernel) (iface : InterfaceEntry) (tracked : TrackedInterface) : Prop :=
  ∃ link, kernel.links iface.name = some link ∧
    tracked = ⟨iface.name, link.index, iface.handshakeStaleSecs.getD defaultHandshakeStaleSecs, trackedPeers iface.peers⟩

theorem buildTracked_some {tracked : List TrackedInterface} (tracks : List.Forall₂ (Tracks kernel) cfg.interfaces tracked) :
    Awg.buildTrackedInterfaces (table kernel) cfg = some tracked := by
  rw [Awg.buildTrackedInterfaces]
  generalize cfg.interfaces = ifaces at tracks ⊢
  induction tracks with
  | nil => rfl
  | @cons iface one ifaces rest first _ ih =>
    obtain ⟨link, found, rfl⟩ := first
    rw [List.mapM_cons, ih]
    simp [table, found]

theorem tracks_moved {ifaces : List InterfaceEntry} {tracked : List TrackedInterface}
    (inside : ∀ iface ∈ ifaces, iface ∈ cfg.interfaces) (leaves : Leaves (namesOf cfg) now later)
    (tracks : List.Forall₂ (Tracks now) ifaces tracked) : List.Forall₂ (Tracks later) ifaces tracked := by
  induction tracks with
  | nil => exact .nil
  | @cons iface one ifaces rest first _ ih =>
    obtain ⟨link, found, same⟩ := first
    have listed := inside iface (List.mem_cons_self ..)
    exact .cons ⟨link, (leaves.listed (mem_namesOf listed)).trans found, same⟩
      (ih fun other member => inside other (List.mem_cons_of_mem _ member))

include reasons in
theorem buildTrackedInterfaces_meets {holds : Host.Kernel → Prop}
    (stable : ∀ {now later}, Leaves (namesOf cfg) now later → holds now → holds later)
    (present : ∀ {now}, holds now → ∀ iface ∈ cfg.interfaces, now.links iface.name ≠ none) (start : holds kernel) :
    Meets (serves refusable) (starting cfg)
      (fun tracked now => holds now ∧ Awg.buildTrackedInterfaces (table now) cfg = some tracked)
      (fun error _ => excused ∧ ∀ failed, error ≠ .notConverged failed) (buildTrackedInterfaces cfg) kernel := by
  refine (meets_foldlM
    (fun passed tracked now => (∀ iface ∈ passed, iface ∈ cfg.interfaces) ∧ holds now ∧ List.Forall₂ (Tracks now) passed tracked)
    ?_ ?_ ⟨by simp, start, .nil⟩).imp fun tracked now given => ⟨given.2.1, buildTracked_some given.2.2⟩
  · intro passed tracked _ later leaves given
    obtain ⟨inside, holds, tracks⟩ := given
    exact ⟨inside, stable leaves holds, tracks_moved inside leaves tracks⟩
  · intro passed iface remaining tracked now split given
    obtain ⟨inside, holds, tracks⟩ := given
    have listed : iface ∈ cfg.interfaces := split ▸ List.mem_append_right _ (List.mem_cons_self ..)
    apply meets_bind
    refine meets_mapError ((meets_reads rfl (Careful.refl cfg)).mono ?_ ?_)
    · intro found later given
      obtain ⟨seen, moves, ⟨_, rfl⟩, more⟩ := given
      cases found : seen.links iface.name with
      | none => exact absurd found (present (stable moves holds) iface listed)
      | some link =>
        refine meets_pure fun last further => ?_
        have leaves := (moves.trans more).trans further
        refine ⟨?_, stable leaves holds, List.rel_append (tracks_moved inside leaves tracks) (.cons ⟨link, ?_, rfl⟩ .nil)⟩
        · intro other member
          rcases List.mem_append.mp member with before | last
          · exact inside other before
          · cases List.mem_singleton.mp last
            exact listed
        · exact ((more.trans further).listed (mem_namesOf listed)).trans found
    · intro _ later given
      obtain ⟨_, seen, _, may⟩ := given
      exact ⟨(reasons seen _ may).resolve_right nofun, fun _ => nofun⟩

/-- Nothing about the config or the links that it names stands in the way of a start. -/
structure Sound (engine : Engine) (cfg : AwgConfig) (kernel : Host.Kernel) : Prop where
  valid : validate cfg = .ok ()
  decodes : ∀ iface ∈ cfg.interfaces, Awg.setIdentity engine iface = .ok ()
  kind : ∀ name ∈ namesOf cfg, ∀ link, kernel.links name = some link → link.kind = some amneziawg
  roomy : ∀ iface ∈ cfg.interfaces, Roomy (Wanted iface) (addressesOf (kernel.links iface.name))

theorem Sound.ready (sound : Sound engine cfg kernel) (listed : iface ∈ cfg.interfaces) :
    Ready engine iface (kernel.links iface.name) where
  decodes := identityAttributes_ok_iff.mpr (sound.decodes iface listed)
  kind := sound.kind iface.name (mem_namesOf listed)
  parses := ((validate_iff.mp sound.valid).2.2 iface listed).addresses
  roomy := sound.roomy iface listed

/-- What a start that ends well says: every link of the config is up to date, no other is of
the kind, and it knows the index of each. -/
structure Succeeds (engine : Engine) (resolver : Resolver) (cfg : AwgConfig) (before : Host.Kernel)
    (tracked : List TrackedInterface) (now : Host.Kernel) : Prop where
  valid : validate cfg = .ok ()
  started : Started engine resolver cfg [] before now
  tracks : Awg.buildTrackedInterfaces (table now) cfg = some tracked

/-- What a start that fails says of the links that it could bring up to date. -/
def Fails (engine : Engine) (resolver : Resolver) (cfg : AwgConfig) (before : Host.Kernel) (error : StartError)
    (now : Host.Kernel) : Prop :=
  ∀ failed, error = .notConverged failed → (failed ≠ [] ∧ ∀ name ∈ failed, name ∈ namesOf cfg) ∧
    Started engine resolver cfg failed before now

include reasons distinct in
theorem converge_meets (clear : Clear cfg now) (same : ∀ iface ∈ cfg.interfaces, now.links iface.name = kernel.links iface.name)
    {fails : StartError → Host.Kernel → Prop}
    (ready : excused ∨ ∀ iface ∈ cfg.interfaces, Ready engine iface (kernel.links iface.name)) :
    Meets (serves refusable) (starting cfg)
      (fun failed now => (∀ name ∈ failed, name ∈ namesOf cfg) ∧ (failed ≠ [] → excused) ∧
        Started engine resolver cfg failed kernel now) fails
      (cfg.interfaces.foldlM (convergeInterface engine resolver) []) now := by
  refine (meets_foldlM (fun passed failed now =>
    (∀ iface ∈ passed, iface ∈ cfg.interfaces) ∧ Halfway engine resolver cfg excused kernel passed failed now) ?_ ?_ ?_).imp ?_
  · intro passed failed first later leaves given
    exact ⟨given.1, given.2.moved given.1 leaves⟩
  · intro passed iface remaining failed now split given
    obtain ⟨inside, halfway⟩ := given
    have listed : iface ∈ cfg.interfaces := split ▸ List.mem_append_right _ (List.mem_cons_self ..)
    have fresh : iface ∉ passed := by
      intro seen
      exact List.disjoint_of_nodup_append (split ▸ distinct.of_map) seen (List.mem_cons_self ..)
    refine (convergeInterface_meets reasons distinct halfway inside fresh listed (ready.imp id fun ready => ready iface listed)).imp
      fun more later next => ⟨?_, next⟩
    intro other member
    rcases List.mem_append.mp member with before | last
    · exact inside other before
    · cases List.mem_singleton.mp last
      exact listed
  · exact ⟨by simp, clear, by simp, by simp, by simp, fun iface listed _ => same iface listed⟩
  · intro failed now given
    obtain ⟨_, halfway⟩ := given
    refine ⟨?_, halfway.why, halfway.clear, halfway.done⟩
    intro name member
    obtain ⟨iface, listed, rfl⟩ := halfway.listed name member
    exact mem_namesOf listed

include reasons in
theorem run_meets (sound : excused ∨ Sound engine cfg kernel) : Meets (serves refusable) (starting cfg)
    (Succeeds engine resolver cfg kernel) (fun error now => excused ∧ Fails engine resolver cfg kernel error now)
    (run engine resolver cfg) kernel := by
  unfold run
  cases accepted : validate cfg with
  | error reason =>
    refine meets_throw fun _ _ => ⟨sound.resolve_right fun sound => ?_, fun _ => nofun⟩
    cases accepted.symm.trans sound.valid
  | ok done =>
    have distinct : (cfg.interfaces.map (·.name)).Nodup := (validate_ok accepted).1
    apply meets_bind
    have collected := (gc_meets reasons : Meets _ (collecting (namesOf cfg)) _ _ _ kernel).frame
      (fun now => ∀ iface ∈ cfg.interfaces, now.links iface.name = kernel.links iface.name) ?_ ?_ fun _ _ => rfl
    · refine meets_mapError ((collected.within (starting cfg) id Collects.careful).mono ?_ ?_)
      · intro _ now given
        obtain ⟨clear, same⟩ := given
        apply meets_bind
        refine (converge_meets reasons distinct clear same (sound.imp id fun sound _ => sound.ready)).imp ?_
        intro failed now given
        obtain ⟨listed, why, started⟩ := given
        cases failed with
        | nil =>
          apply meets_bind
          refine (logHandshakeSummary_meets (fun leaves started => started.moved leaves) started).imp ?_
          intro _ later started
          refine (buildTrackedInterfaces_meets reasons (fun leaves started => started.moved leaves) ?_ started).mono
            (fun _ _ ends => ⟨accepted, ends.1, ends.2⟩) ?_
          · intro now started iface listed absent
            obtain ⟨link, found, _⟩ := started.upToDate iface listed List.not_mem_nil
            cases absent.symm.trans found
          · exact fun _ _ given => ⟨given.1, fun failed same => absurd same (given.2 failed)⟩
        | cons first rest =>
          refine meets_throw fun later leaves => ⟨why (List.cons_ne_nil first rest), fun failed same => ?_⟩
          cases same
          exact ⟨⟨List.cons_ne_nil first rest, listed⟩, started.moved leaves⟩
      · intro _ _ given
        exact ⟨given.1, fun _ => nofun⟩
    · intro first second leaves same iface listed
      exact (leaves.listed (mem_namesOf listed)).trans (same iface listed)
    · intro first second collects same iface listed
      rcases collects iface.name with kept | ⟨left, _⟩
      · exact kept.trans (same iface listed)
      · exact absurd (mem_namesOf listed) left.1

end Slipmesh.Awg.Startup
