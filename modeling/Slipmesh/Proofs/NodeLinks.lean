import Slipmesh.Common.Links
import Slipmesh.Library.Guard

/-! What becomes of one link while a daemon brings it up to date, and others do as they
like with the links of other names. -/

namespace Slipmesh.Host
open Common Library

variable {kernel now after : Kernel} {name other kind : String} {link : Link} {index : UInt32} {wanted : IpCidr → Prop}

/-- How a link may change while its addresses become those that are wanted: one that is wanted
goes at most with another of its subnet that is not. -/
structure Evolves (wanted : IpCidr → Prop) (before after : Link) : Prop where
  index : after.index = before.index
  kind : after.kind = before.kind
  up : before.up = true → after.up = true
  kept : ∀ address ∈ before.addresses, wanted address → address ∈ after.addresses ∨
    ∃ other ∈ before.addresses, ¬ wanted other ∧ SameSubnet other address
  gained : ∀ address ∈ after.addresses, address ∈ before.addresses ∨ wanted address ∨
    before.kind ≠ some amneziawg ∧ LinkLocal address

theorem Evolves.refl (wanted : IpCidr → Prop) (link : Link) : Evolves wanted link link where
  index := rfl
  kind := rfl
  up := id
  kept := fun _ member _ => .inl member
  gained := fun _ member => .inl member

theorem SameSubnet.not_linkLocal {first second : IpCidr} (same : SameSubnet first second) : ¬ LinkLocal first := by
  obtain ⟨v4, -⟩ := same
  unfold LinkLocal
  split
  · exact id
  · rename_i v6
    rw [v6] at v4
    cases v4

theorem Evolves.trans {first second third : Link} (one : Evolves wanted first second) (two : Evolves wanted second third) :
    Evolves wanted first third where
  index := two.index.trans one.index
  kind := two.kind.trans one.kind
  up := two.up ∘ one.up
  kept := by
    intro address member desired
    rcases one.kept address member desired with still | gone
    · rcases two.kept address still desired with still | ⟨other, present, unwanted, mates⟩
      · exact .inl still
      · refine .inr ⟨other, ?_, unwanted, mates⟩
        rcases one.gained other present with before | wants | ⟨_, linkLocal⟩
        · exact before
        · exact absurd wants unwanted
        · exact absurd linkLocal mates.not_linkLocal
    · exact .inr gone
  gained := by
    intro address member
    rcases two.gained address member with member | desired | ⟨different, gained⟩
    · exact one.gained address member
    · exact .inr (.inl desired)
    · exact .inr (.inr ⟨one.kind ▸ different, gained⟩)

/-- Nothing but the one link changes, and that one as it may; a link that is made of the
name has the kind. -/
structure Tends (name kind : String) (wanted : IpCidr → Prop) (before after : Kernel) : Prop where
  others : ∀ other, other ≠ name → after.links other = before.links other
  evolves : ∀ link, before.links name = some link → ∃ later, after.links name = some later ∧ Evolves wanted link later
  born : before.links name = none → ∀ link, after.links name = some link → link.kind = some kind

theorem Tends.refl (name kind : String) (wanted : IpCidr → Prop) (kernel : Kernel) : Tends name kind wanted kernel kernel where
  others := fun _ _ => rfl
  evolves := fun link found => ⟨link, found, .refl wanted link⟩
  born := by
    intro absent link found
    rw [absent] at found
    cases found

/-- The daemon tends one link, which the others leave alone. -/
def tending (name kind : String) (wanted : IpCidr → Prop) : Rules Kernel where
  rely before after := after.links name = before.links name
  guarantee := Tends name kind wanted
  still := fun _ => rfl
  further := fun one two => two.trans one

/-! ### One request -/

section
variable {refusable : Kernel → Request → Prop} {ρ : Type} {rules : Rules Kernel} {request : Request} {error : ρ}

theorem meets_call {post : request.Reply → Kernel → Prop} {fails : ρ → Kernel → Prop}
    (granted : ∀ now, rules.rely kernel now → ∀ reply after, now.grants request reply after →
      rules.guarantee now after ∧ ∀ later, rules.rely after later → post reply later)
    (refused : ∀ now, rules.rely kernel now → refusable now request → ∀ after, now.refuses request after →
      rules.guarantee now after ∧ ∀ later, rules.rely after later → fails error later) :
    Meets (serves refusable) rules post fails (call request error) kernel := by
  intro now moves answer after served
  cases answer with
  | none => exact refused now moves served.1 after served.2
  | some reply => exact granted now moves reply after served

/-- It asks, and changes nothing. -/
def Request.reads : Request → Bool
  | .getLink _ | .dumpLinks | .dumpAddresses _ | .getDevice _ => true
  | _ => false

theorem grants_reads {request : Request} (reads : request.reads = true) {reply : request.Reply}
    (grants : kernel.grants request reply now) : now = kernel := by
  cases request with
  | getLink name => exact grants.1
  | dumpLinks => exact grants.1
  | dumpAddresses index => exact grants.1
  | getDevice name => exact grants.1
  | _ => cases reads

theorem refuses_reads {request : Request} (reads : request.reads = true) (refuses : kernel.refuses request now) :
    now = kernel := by
  cases request with
  | setDevice name attrs => cases reads
  | setPeers name updates => cases reads
  | _ => exact refuses

/-- A question is answered of some moment. -/
theorem meets_reads (reads : request.reads = true) (quiet : ∀ kernel, rules.guarantee kernel kernel) :
    Meets (serves refusable) rules
      (fun reply later => ∃ seen, rules.rely kernel seen ∧ seen.grants request reply seen ∧ rules.rely seen later)
      (fun _ later => rules.rely kernel later ∧ ∃ seen, rules.rely kernel seen ∧ refusable seen request)
      (call request error) kernel := by
  apply meets_call
  · intro now moves reply after grants
    cases grants_reads reads grants
    exact ⟨quiet now, fun later more => ⟨now, moves, grants, more⟩⟩
  · intro now moves may after refused
    cases refuses_reads reads refused
    exact ⟨quiet now, fun later more => ⟨rules.further moves more, now, moves, may⟩⟩

end

theorem Kernel.Alters.same (alters : kernel.Alters after name (some link)) : after.links name = some link := by
  rw [alters, Function.update_self]

/-- One link in another's place. -/
theorem Kernel.Alters.tends {altered : Link} (found : kernel.links name = some link) (evolves : Evolves wanted link altered)
    (alters : kernel.Alters after name (some altered)) : Tends name kind wanted kernel after where
  others := by
    intro other different
    rw [alters, Function.update_of_ne different]
  evolves := by
    intro before present
    rw [found] at present
    cases present
    exact ⟨altered, alters.same, evolves⟩
  born := by
    intro absent
    rw [absent] at found
    cases found

/-- Only the one link has its index. -/
theorem Kernel.AltersAt.only {alter : Link → Option Link → Prop} (altersAt : kernel.AltersAt after link.index alter)
    (found : kernel.links name = some link) : ∃ altered, alter link altered ∧ kernel.Alters after name altered := by
  obtain ⟨other, same, altered, present, indexed, alter, alters⟩ := altersAt
  cases kernel.distinct other name same link present found indexed
  rw [found] at present
  cases present
  exact ⟨altered, alter, alters⟩

/-- The link with other addresses. -/
def Link.readdressed (link : Link) (addresses : List IpCidr) : Link := { link with addresses }

/-- The link has such addresses, and nothing else about it is new. -/
def Has (name : String) (link : Link) (carries : List IpCidr → Prop) (now : Kernel) : Prop :=
  ∃ addresses, now.links name = some (link.readdressed addresses) ∧ carries addresses

theorem Has.later {carries : List IpCidr → Prop} (has : Has name link carries now)
    (moves : (tending name kind wanted).rely now after) : Has name link carries after := by
  obtain ⟨addresses, found, carried⟩ := has
  exact ⟨addresses, moves.trans found, carried⟩

theorem Has.imp {carries bears : List IpCidr → Prop} (has : Has name link carries now)
    (more : ∀ addresses, carries addresses → bears addresses) : Has name link bears now := by
  obtain ⟨addresses, found, carried⟩ := has
  exact ⟨addresses, found, more addresses carried⟩

/-! ### The addresses of a link -/

theorem SameSubnet.family {first second : IpCidr} (same : SameSubnet first second) : familyOf first = familyOf second := by
  obtain ⟨_, networks⟩ := same
  have widths := congrArg (fun cidr : IpCidr => cidr.addr.isIpv4) networks
  have kept (cidr : IpCidr) : (IpCidr.network cidr).addr.isIpv4 = cidr.addr.isIpv4 := by
    obtain ⟨addr, len, bounded⟩ := cidr
    cases addr with
    | v4 addr => rfl
    | v6 addr => rfl
  simp only [kept] at widths
  rw [familyOf, familyOf, widths]

theorem Held.mono {addresses later : List IpCidr} {address : IpCidr} (held : Held addresses address)
    (more : ∀ one ∈ addresses, one ∈ later) : Held later address := by
  rcases held with member | zero | ⟨v6, one, member, same⟩
  · exact .inl (more address member)
  · exact .inr (.inl zero)
  · exact .inr (.inr ⟨v6, one, more one member, same⟩)

/-- There is room for the addresses that are wanted next to those that are there. -/
structure Roomy (wanted : IpCidr → Prop) (before : List IpCidr) : Prop where
  assignable : ∀ address, wanted address → Assignable address
  apart : ∀ first second, first ∈ before ∨ wanted first → second ∈ before ∨ wanted second →
    SameSubnet first second → first = second

theorem Roomy.of_subset {before addresses : List IpCidr} (roomy : Roomy wanted before)
    (among : ∀ address ∈ addresses, address ∈ before ∨ wanted address) : Roomy wanted addresses where
  assignable := roomy.assignable
  apart := by
    intro first second one two
    exact roomy.apart first second (one.elim (among first) .inr) (two.elim (among second) .inr)

/-- Some addresses have been removed. -/
structure Trimmed (before passed addresses : List IpCidr) : Prop where
  only : ∀ address ∈ addresses, address ∈ before ∧ address ∉ passed
  spared : ∀ address ∈ before, address ∉ passed → (∀ gone ∈ passed, ¬ SameSubnet gone address) →
    address ∈ addresses

theorem Trimmed.next {before passed addresses later : List IpCidr} {address : IpCidr} (trimmed : Trimmed before passed addresses)
    (drops : (link.readdressed addresses).Drops address later) : Trimmed before (passed ++ [address]) later where
  only := by
    intro one member
    obtain ⟨there, fresh⟩ := trimmed.only one (drops.only one member)
    refine ⟨there, ?_⟩
    rw [List.mem_append, List.mem_singleton, not_or]
    refine ⟨fresh, ?_⟩
    rintro rfl
    exact drops.gone member
  spared := by
    intro one there fresh alone
    rw [List.mem_append, List.mem_singleton, not_or] at fresh
    have still := trimmed.spared one there fresh.1 fun gone seen => alone gone (List.mem_append_left _ seen)
    exact drops.spared one still fresh.2 (alone address (List.mem_append_right _ (List.mem_singleton_self _)))

/-- Some addresses have been added. -/
structure Filled (before passed addresses : List IpCidr) : Prop where
  kept : ∀ address ∈ before, address ∈ addresses
  only : ∀ address ∈ addresses, address ∈ before ∨ address ∈ passed
  held : ∀ address ∈ passed, Held addresses address

theorem Filled.next {before passed addresses later : List IpCidr} {address : IpCidr} (filled : Filled before passed addresses)
    (gains : (link.readdressed addresses).Gains address later) : Filled before (passed ++ [address]) later where
  kept := fun one there => gains.kept one (filled.kept one there)
  only := by
    intro one member
    rw [List.mem_append, List.mem_singleton]
    rcases gains.only one member with before | rfl
    · exact (filled.only one before).imp_right .inl
    · exact .inr (.inr rfl)
  held := by
    intro one member
    rcases List.mem_append.mp member with before | last
    · exact (filled.held one before).mono gains.kept
    · cases List.mem_singleton.mp last
      exact gains.held

/-- The addresses of one family have become those that are wanted of it. -/
structure Converged (family : Family) (wanted : IpCidr → Prop) (before addresses : List IpCidr) : Prop where
  own : ∀ address ∈ addresses, familyOf address = family → wanted address
  others : ∀ address, familyOf address ≠ family → (address ∈ addresses ↔ address ∈ before)
  held : ∀ address, wanted address → familyOf address = family → Held addresses address

/-- All of them have. -/
structure Furnished (wanted : IpCidr → Prop) (addresses : List IpCidr) : Prop where
  only : ∀ address ∈ addresses, wanted address
  held : ∀ address, wanted address → Held addresses address

theorem Converged.among {family : Family} {before addresses : List IpCidr} (converged : Converged family wanted before addresses) :
    ∀ address ∈ addresses, address ∈ before ∨ wanted address := by
  intro address member
  by_cases same : familyOf address = family
  · exact .inr (converged.own address member same)
  · exact .inl ((converged.others address same).mp member)

/-! ### Links -/

variable {refusable : Kernel → Request → Prop} {excused : Prop}
  (reasons : ∀ now request, refusable now request → excused ∨ now.Reason request)

include reasons

/-- A request by the index of the link. -/
theorem meets_alterAt {ρ : Type} {request : Request} {error : ρ} {how : Link → Option Link → Prop}
    {post : request.Reply → Kernel → Prop} (found : kernel.links name = some link)
    (granted : ∀ (now : Kernel) reply after, now.grants request reply after → now.AltersAt after link.index how)
    (refused : ∀ (now : Kernel) after, now.refuses request after → after = now)
    (unreasonable : excused ∨ ∀ now : Kernel, now.links name = some link → ¬ now.Reason request)
    (alters : ∀ altered, how link altered → ∃ later, altered = some later ∧ Evolves wanted link later ∧
      ∀ reply now, now.links name = some later → post reply now) :
    Meets (serves refusable) (tending name kind wanted) post (fun _ _ => excused) (call request error) kernel := by
  apply meets_call
  · intro now moves reply after grants
    obtain ⟨altered, how, changes⟩ := (granted now reply after grants).only (moves.trans found)
    obtain ⟨later, rfl, evolves, ends⟩ := alters altered how
    refine ⟨changes.tends (moves.trans found) evolves, ?_⟩
    intro last more
    exact ends reply last (more.trans changes.same)
  · intro now moves may after refuses
    rw [refused now after refuses]
    refine ⟨.refl .., fun _ _ => ?_⟩
    rcases unreasonable with excuse | unreasonable
    · exact excuse
    · exact (reasons now request may).resolve_right (unreasonable now (moves.trans found))

theorem linkIndex_meets {found : Option Link} (start : kernel.links name = found) :
    Meets (serves refusable) (tending name kind wanted)
      (fun reply now => reply = found.map (·.index) ∧ now.links name = found) (fun _ _ => excused) (linkIndex name) kernel := by
  refine (meets_reads rfl (Tends.refl name kind wanted)).mono ?_ ?_
  rotate_left
  · intro _ later given
    obtain ⟨_, seen, _, may⟩ := given
    exact (reasons seen _ may).resolve_right nofun
  intro reply later given
  obtain ⟨seen, moves, ⟨_, rfl⟩, more⟩ := given
  rw [moves.trans start]
  exact ⟨rfl, more.trans (moves.trans start)⟩

theorem addLink_meets {ρ : Type} {error : ρ} (absent : kernel.links name = none) :
    Meets (serves refusable) (tending name kind wanted) (fun _ now => ∃ link, now.links name = some link ∧ link.Fresh kind)
      (fun _ _ => excused) (call (.addLink name kind) error) kernel := by
  apply meets_call
  · intro first moves _ after grants
    obtain ⟨absent, link, fresh, alters⟩ := grants
    refine ⟨⟨?_, ?_, ?_⟩, fun last more => ⟨link, more.trans alters.same, fresh⟩⟩
    · intro other different
      rw [alters, Function.update_of_ne different]
    · intro old found
      rw [absent] at found
      cases found
    · intro _ made found
      rw [alters.same] at found
      cases found
      exact fresh.kind
  · intro first moves may after refuses
    cases refuses
    exact ⟨.refl .., fun _ _ => (reasons first _ may).resolve_right fun there => there (moves.trans absent)⟩

/-- The link that was there, or a new one. -/
def FoundOrFresh (kind : String) (before : Option Link) (link : Link) : Prop :=
  before = some link ∨ before = none ∧ link.Fresh kind

/-- The addresses of a link, and none where there is no link yet. -/
def addressesOf (before : Option Link) : List IpCidr := before.elim [] (·.addresses)

omit reasons in
theorem FoundOrFresh.addresses {before : Option Link} (found : FoundOrFresh kind before link) :
    addressesOf before = link.addresses := by
  rcases found with rfl | ⟨rfl, fresh⟩
  · rfl
  · exact fresh.addresses.symm

theorem ensureLink_meets {before : Option Link} (start : kernel.links name = before) :
    Meets (serves refusable) (tending name kind wanted)
      (fun made now => ∃ link, now.links name = some link ∧ link.index = made.1 ∧ FoundOrFresh kind before link)
      (fun _ _ => excused) (ensureLink name kind) kernel := by
  apply meets_bind
  refine (linkIndex_meets reasons start).imp ?_
  intro reply now given
  obtain ⟨rfl, present⟩ := given
  cases before with
  | some link =>
    refine meets_pure fun later moves => ?_
    exact ⟨link, moves.trans present, rfl, .inl rfl⟩
  | none =>
    apply meets_bind
    refine (addLink_meets reasons present).imp ?_
    intro _ second given
    obtain ⟨link, found, fresh⟩ := given
    apply meets_bind
    refine (linkIndex_meets reasons found).imp ?_
    intro again last given
    obtain ⟨rfl, found⟩ := given
    refine meets_pure fun later moves => ?_
    exact ⟨link, moves.trans found, rfl, .inr ⟨rfl, fresh⟩⟩

theorem setUp_meets (found : kernel.links name = some link) :
    Meets (serves refusable) (tending name kind wanted)
      (fun _ now => ∃ gained, now.links name = some (link.setUp gained) ∧ (link.kind = some amneziawg → gained = []) ∧
        ∀ address ∈ gained, LinkLocal address) (fun _ _ => excused) (setUp link.index) kernel := by
  refine meets_alterAt reasons found (fun _ _ _ grants => grants) (fun _ _ refuses => refuses)
    (.inr fun now present missing => missing name _ present rfl) ?_
  intro altered given
  obtain ⟨gained, rises⟩ := given
  refine ⟨link.setUp gained, rises.up, ⟨rfl, rfl, fun _ => rfl, ?_, ?_⟩,
    fun _ now present => ⟨gained, present, rises.silent, rises.linkLocal⟩⟩
  · intro address member _
    exact .inl (List.mem_append_left _ member)
  · intro address member
    rcases List.mem_append.mp member with old | new
    · exact .inl old
    · refine .inr (.inr ⟨?_, rises.linkLocal address new⟩)
      intro driven
      rw [rises.silent driven] at new
      cases new

/-! ### Addresses -/

variable {address : IpCidr} {desired : List IpCidr} {family : Family}

theorem removeAddress_meets {carries bears : List IpCidr → Prop} (has : Has name link carries kernel)
    (unwanted : ¬ wanted address) (there : excused ∨ ∀ addresses, carries addresses → address ∈ addresses)
    (drops : ∀ addresses later, carries addresses → (link.readdressed addresses).Drops address later → bears later) :
    Meets (serves refusable) (tending name kind wanted) (fun _ => Has name link bears) (fun _ _ => excused)
      (removeAddress link.index address) kernel := by
  obtain ⟨addresses, found, carried⟩ := has
  refine meets_alterAt reasons found (fun _ _ _ grants => grants) (fun _ _ refuses => refuses)
    (there.imp id fun there now present missing => missing name _ present rfl (there addresses carried)) ?_
  intro altered given
  obtain ⟨later, dropped, same⟩ := given
  refine ⟨_, same, ⟨rfl, rfl, id, ?_, ?_⟩, fun _ now present => ⟨later, present, drops addresses later carried dropped⟩⟩
  · intro one member desired
    by_cases mates : SameSubnet address one
    · exact .inr ⟨address, dropped.present, unwanted, mates⟩
    · refine .inl (dropped.spared one member ?_ mates)
      rintro rfl
      exact unwanted desired
  · intro one member
    exact .inl (dropped.only one member)

theorem assignAddress_meets {carries bears : List IpCidr → Prop} (has : Has name link carries kernel) (desired : wanted address)
    (fits : excused ∨ ∀ addresses, carries addresses → Fits addresses address)
    (gains : ∀ addresses later, carries addresses → (link.readdressed addresses).Gains address later → bears later) :
    Meets (serves refusable) (tending name kind wanted) (fun _ => Has name link bears) (fun _ _ => excused)
      (assignAddress link.index address) kernel := by
  obtain ⟨addresses, found, carried⟩ := has
  refine meets_alterAt reasons found (fun _ _ _ grants => grants) (fun _ _ refuses => refuses)
    (fits.imp id fun fits now present missing => missing name _ present rfl (fits addresses carried)) ?_
  intro altered given
  obtain ⟨later, gained, same⟩ := given
  refine ⟨_, same, ⟨rfl, rfl, id, ?_, ?_⟩, fun _ now present => ⟨later, present, gains addresses later carried gained⟩⟩
  · intro one member _
    exact .inl (gained.kept one member)
  · intro one member
    rcases gained.only one member with old | rfl
    · exact .inl old
    · exact .inr (.inl desired)

theorem familyAddresses_meets {before : List IpCidr} (found : kernel.links name = some (link.readdressed before)) :
    Meets (serves refusable) (tending name kind wanted)
      (fun current now => now.links name = some (link.readdressed before) ∧ current.Nodup ∧
        ∀ address, address ∈ current ↔ address ∈ before ∧ familyOf address = family)
      (fun _ _ => excused) (familyAddresses family link.index) kernel := by
  apply meets_bind
  refine (meets_reads rfl (Tends.refl name kind wanted)).mono ?_ ?_
  rotate_left
  · intro _ later given
    obtain ⟨_, seen, _, may⟩ := given
    exact (reasons seen _ may).resolve_right nofun
  intro listed later given
  obtain ⟨seen, moves, ⟨_, distinct, lists⟩, more⟩ := given
  have present := moves.trans found
  refine meets_pure fun last further => ⟨further.trans (more.trans present), distinct.filter _, ?_⟩
  intro address
  rw [List.mem_filter, decide_eq_true_iff, lists address]
  refine and_congr_left' ⟨?_, fun member => ⟨name, _, present, rfl, member⟩⟩
  intro given
  obtain ⟨other, same, there, indexed, member⟩ := given
  cases seen.distinct other name same _ there present indexed
  rw [present] at there
  cases there
  exact member

/-- What is not wanted of the family is removed. -/
theorem removeStale_meets {before current : List IpCidr} (found : kernel.links name = some (link.readdressed before))
    (distinct : current.Nodup) (listed : ∀ address, address ∈ current ↔ address ∈ before ∧ familyOf address = family)
    (exactly : ∀ address, address ∈ desired ↔ wanted address ∧ familyOf address = family)
    (roomy : excused ∨ Roomy wanted before) :
    Meets (serves refusable) (tending name kind wanted) (fun _ => Has name link (Trimmed before (toRemove current desired)))
      (fun _ _ => excused) ((toRemove current desired).forM (removeAddress link.index)) kernel := by
  refine meets_forM (fun passed => Has name link (Trimmed before passed)) (fun _ _ _ moves has => has.later moves) ?_
    ⟨before, found, by simp, fun address there _ _ => there⟩
  intro passed address remaining now split has
  have stale {one : IpCidr} (member : one ∈ toRemove current desired) : one ∈ before ∧ ¬ wanted one := by
    obtain ⟨present, undesired⟩ := List.mem_filter.mp member
    obtain ⟨there, same⟩ := (listed one).mp present
    exact ⟨there, fun wants => of_decide_eq_true undesired ((exactly one).mpr ⟨wants, same⟩)⟩
  obtain ⟨there, unwanted⟩ := stale (split ▸ List.mem_append_right _ (List.mem_cons_self ..))
  have apart : (toRemove current desired).Nodup := distinct.filter _
  rw [split] at apart
  have fresh : address ∉ passed := fun seen => List.disjoint_of_nodup_append apart seen (List.mem_cons_self ..)
  refine removeAddress_meets reasons has unwanted (roomy.imp id fun roomy addresses trimmed => ?_)
    fun _ _ trimmed drops => trimmed.next drops
  refine trimmed.spared address there fresh fun gone seen mates => fresh ?_
  have among := (stale (split ▸ List.mem_append_left _ seen)).1
  exact roomy.apart gone address (.inl among) (.inl there) mates ▸ seen

/-- What is wanted of the family is added. -/
theorem assignDesired_meets {before : List IpCidr} (found : kernel.links name = some (link.readdressed before))
    (wants : ∀ address ∈ desired, wanted address) (roomy : excused ∨ Roomy wanted before) :
    Meets (serves refusable) (tending name kind wanted) (fun _ => Has name link (Filled before desired)) (fun _ _ => excused)
      (desired.forM (assignAddress link.index)) kernel := by
  refine meets_forM (fun passed => Has name link (Filled before passed)) (fun _ _ _ moves has => has.later moves) ?_
    ⟨before, found, fun _ there => there, fun _ there => .inl there, by simp⟩
  intro passed address remaining now split has
  have member : address ∈ desired := split ▸ List.mem_append_right _ (List.mem_cons_self ..)
  refine assignAddress_meets reasons has (wants address member) (roomy.imp id fun roomy addresses filled => ?_)
    fun _ _ filled gains => filled.next gains
  refine ⟨roomy.assignable address (wants address member), fun other there mates => ?_⟩
  have among : other ∈ before ∨ wanted other :=
    (filled.only other there).imp_right fun seen => wants other (split ▸ List.mem_append_left _ seen)
  exact (roomy.apart address other (.inr (wants address member)) among mates).symm

omit reasons in
theorem Trimmed.converged {before current addresses later : List IpCidr}
    (listed : ∀ address, address ∈ current ↔ address ∈ before ∧ familyOf address = family)
    (exactly : ∀ address, address ∈ desired ↔ wanted address ∧ familyOf address = family)
    (trimmed : Trimmed before (toRemove current desired) addresses) (filled : Filled addresses desired later) :
    Converged family wanted before later where
  own := by
    intro address member same
    rcases filled.only address member with still | new
    · obtain ⟨there, fresh⟩ := trimmed.only address still
      by_contra unwanted
      refine fresh (List.mem_filter.mpr ⟨(listed address).mpr ⟨there, same⟩, decide_eq_true fun new => ?_⟩)
      exact unwanted ((exactly address).mp new).1
    · exact ((exactly address).mp new).1
  others := by
    intro address different
    constructor
    · intro member
      rcases filled.only address member with still | new
      · exact (trimmed.only address still).1
      · exact absurd ((exactly address).mp new).2 different
    · intro there
      have removed {gone : IpCidr} (seen : gone ∈ toRemove current desired) : familyOf gone = family :=
        ((listed gone).mp (List.mem_filter.mp seen).1).2
      refine filled.kept address (trimmed.spared address there (fun seen => different (removed seen)) ?_)
      exact fun gone seen mates => different (mates.family.symm.trans (removed seen))
  held := fun address wants same => filled.held address ((exactly address).mpr ⟨wants, same⟩)

theorem ensureFamilyAddresses_meets {before : List IpCidr} (found : kernel.links name = some (link.readdressed before))
    (exactly : ∀ address, address ∈ desired ↔ wanted address ∧ familyOf address = family)
    (roomy : excused ∨ Roomy wanted before) :
    Meets (serves refusable) (tending name kind wanted) (fun _ => Has name link (Converged family wanted before))
      (fun _ _ => excused) (ensureFamilyAddresses (familyAddresses family link.index) link.index desired) kernel := by
  apply meets_bind
  refine (familyAddresses_meets reasons found).imp ?_
  intro current now given
  obtain ⟨found, distinct, listed⟩ := given
  apply meets_bind
  refine (removeStale_meets reasons found distinct listed exactly roomy).imp ?_
  intro _ now given
  obtain ⟨addresses, found, trimmed⟩ := given
  have less := roomy.imp id fun roomy => roomy.of_subset fun one member => .inl (trimmed.only one member).1
  refine (assignDesired_meets reasons found (fun one member => ((exactly one).mp member).1) less).imp ?_
  intro _ after has
  exact has.imp fun later filled => trimmed.converged listed exactly filled

omit reasons in
theorem Converged.settled {before middle addresses : List IpCidr} (first : Converged .inet wanted before middle)
    (second : Converged .inet6 wanted middle addresses) : Furnished wanted addresses where
  only := by
    intro address member
    cases family : familyOf address with
    | inet => exact first.own address ((second.others address (by rw [family]; decide)).mp member) family
    | inet6 => exact second.own address member family
  held := by
    intro address wants
    cases family : familyOf address with
    | inet6 => exact second.held address wants family
    | inet =>
      have v4 : address.addr.isIpv4 = true := by
        by_contra v6
        rw [familyOf, if_neg v6] at family
        cases family
      rcases first.held address wants family with member | zero | ⟨v6, _⟩
      · exact .inl ((second.others address (by rw [family]; decide)).mpr member)
      · exact .inr (.inl zero)
      · rw [v4] at v6
        cases v6

theorem ensureAddresses_meets {cidrs : List String} {before : List IpCidr}
    (found : kernel.links name = some (link.readdressed before))
    (parses : excused ∨ ∀ cidr ∈ cidrs, ∃ address, parseCidr cidr = .ok address)
    (exactly : ∀ address, wanted address ↔ ∃ cidr ∈ cidrs, parseCidr cidr = .ok address)
    (roomy : excused ∨ Roomy wanted before) :
    Meets (serves refusable) (tending name kind wanted) (fun _ => Has name link (Furnished wanted)) (fun _ _ => excused)
      (ensureAddresses link.index cidrs) kernel := by
  unfold ensureAddresses
  cases parsed : cidrs.mapM parseCidr with
  | error reason =>
    refine meets_throw fun _ _ => parses.resolve_right fun parses => ?_
    obtain ⟨desired, parsed'⟩ := mapM_total parses
    rw [parsed] at parsed'
    cases parsed'
  | ok desired =>
    have members (address : IpCidr) : address ∈ desired ↔ wanted address := by
      rw [exactly address]
      refine ⟨(mapM_ok parsed).2 address, ?_⟩
      intro given
      obtain ⟨cidr, listed, reads⟩ := given
      obtain ⟨other, member, same⟩ := (mapM_ok parsed).1 cidr listed
      cases reads.symm.trans same
      exact member
    have filtered (family : Family) (address : IpCidr) :
        address ∈ desired.filter (familyOf · = family) ↔ wanted address ∧ familyOf address = family := by
      rw [List.mem_filter, decide_eq_true_iff, members address]
    apply meets_bind
    refine (ensureFamilyAddresses_meets reasons found (filtered .inet) roomy).imp ?_
    intro _ now given
    obtain ⟨middle, found, first⟩ := given
    have less := roomy.imp id fun roomy => roomy.of_subset first.among
    refine (ensureFamilyAddresses_meets reasons found (filtered .inet6) less).imp ?_
    intro _ after has
    exact has.imp fun addresses second => first.settled second

end Slipmesh.Host
