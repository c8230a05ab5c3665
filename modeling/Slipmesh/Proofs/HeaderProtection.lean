import Slipmesh.Awg.Daemon
import Slipmesh.Proofs.Peers

/-! The flag that the kernel keeps of each peer and never reports, over the starts of the
daemon. -/

namespace Slipmesh.Awg
open Library Net Common

variable {engine : Engine} {state : SecuredDevice} {iface : InterfaceEntry} {key : Key}

/-! ### The kernel's entries -/

theorem secured_replace {other : Key} {allowedIps : List Network} {endpoint : Option SocketAddr} {sent : Bool} :
    (state.update (.replace other allowedIps endpoint sent)).secured key = true ↔
      state.secured key = true ∨ other = key ∧ sent = true := by
  have shape : (state.update (.replace other allowedIps endpoint sent)).secured key =
      Function.update state.secured other (sent || state.secured other) key := rfl
  rw [shape, Function.update_apply]
  split
  · rename_i same
    simp [same, or_comm]
  · rename_i different
    simp [Ne.symm different]

theorem secured_removeMe {other : Key} :
    (state.update (.removeMe other)).secured key = true ↔ key ≠ other ∧ state.secured key = true := by
  have shape : (state.update (.removeMe other)).secured key = Function.update state.secured other false key := rfl
  rw [shape, Function.update_apply]
  split
  · rename_i same
    simp [same]
  · rename_i different
    simp [different]

theorem set_device (state : SecuredDevice) (updates : List PeerUpdate) :
    (state.set updates).device = state.device.set updates := by
  induction updates generalizing state with
  | nil => rfl
  | cons update updates ih => exact ih (state.update update)

/-- The flag of the key is sent. -/
def TurnsOn (updates : List PeerUpdate) (key : Key) : Prop :=
  ∃ allowedIps endpoint, .replace key allowedIps endpoint true ∈ updates

/-- A key that is not removed has the flag at the end if it had it or was sent it. -/
theorem secured_set {updates : List PeerUpdate} (kept : .removeMe key ∉ updates) (state : SecuredDevice) :
    (state.set updates).secured key = true ↔ state.secured key = true ∨ TurnsOn updates key := by
  induction updates generalizing state with
  | nil => simp [SecuredDevice.set, TurnsOn]
  | cons update updates ih =>
    rw [List.mem_cons, not_or] at kept
    obtain ⟨first, later⟩ := kept
    have step : (state.set (update :: updates)).secured key = ((state.update update).set updates).secured key := rfl
    have here : TurnsOn (update :: updates) key ↔
        (∃ allowedIps endpoint, update = .replace key allowedIps endpoint true) ∨ TurnsOn updates key := by
      simp only [TurnsOn, List.mem_cons, exists_or, eq_comm]
    rw [step, ih later, here, ← or_assoc]
    apply or_congr_left
    cases update with
    | removeMe other =>
      have apart : key ≠ other := fun same => first (same ▸ rfl)
      simp [secured_removeMe, apart]
    | replace other allowedIps endpoint sent =>
      rw [secured_replace]
      simp

/-! ### One interface -/

/-- Every configured peer is in the kernel, its flag as the config has it. -/
def Protected (engine : Engine) (iface : InterfaceEntry) (state : SecuredDevice) : Prop :=
  ∀ peer ∈ iface.peers, ∃ key, decodeKey engine peer.publicKey = .ok key ∧ key ∈ state.device.peers ∧
    state.secured key = peer.advancedSecurity

/-- Each configured key decodes; the kernel, if it has it, reports it in the spelling of
one of the peers; and where a peer's flag is to be off, the kernel has it off and no other
peer of the same key turns it on. -/
def Settable (engine : Engine) (iface : InterfaceEntry) (state : SecuredDevice) : Prop :=
  ∀ peer ∈ iface.peers, ∃ key, decodeKey engine peer.publicKey = .ok key ∧
    (key ∈ state.device.peers → encodeKey engine key ∈ iface.peers.map (·.publicKey)) ∧
    (peer.advancedSecurity = false → state.secured key = false ∧
      ∀ other ∈ iface.peers, decodeKey engine other.publicKey = .ok key → other.advancedSecurity = false)

variable {start : Start iface} {replaces removes : List PeerUpdate}

/-- A peer that is to have the flag is sent at every start: the kernel never reports it. -/
theorem Sent.turnsOn_iff (valid : ValidInterface iface) (sent : Sent engine start state.device replaces removes) :
    TurnsOn (replaces ++ removes) key ↔
      ∃ peer ∈ iface.peers, decodeKey engine peer.publicKey = .ok key ∧ peer.advancedSecurity = true := by
  constructor
  · intro given
    obtain ⟨allowedIps, endpoint, member⟩ := given
    rcases List.mem_append.mp member with member | member
    · obtain ⟨peer, listed, _, _, _, _, decoded, _, same, _⟩ := (sent.replaces _).mp member
      obtain ⟨rfl, _, _, wanted⟩ := PeerUpdate.replace.inj same
      exact ⟨peer, listed, decoded, wanted.symm⟩
    · obtain ⟨_, _, same, _⟩ := (sent.removes _).mp member
      cases same
  · intro given
    obtain ⟨peer, listed, decoded, wanted⟩ := given
    obtain ⟨endpoint, resolved⟩ := start.resolved listed
    obtain ⟨networks, read⟩ := valid.networks listed
    refine ⟨networks, endpoint.bind parseSocketAddr, List.mem_append_left _ ((sent.replaces _).mpr ?_)⟩
    refine ⟨peer, listed, endpoint, key, networks, resolved, decoded, read, by rw [wanted], ?_⟩
    intro given
    obtain ⟨prev, held, _, _, _, reported⟩ := given
    obtain ⟨_, _, _, rfl⟩ := mem_currentPeers.mp held
    cases reported.trans wanted

theorem keeps_peer {device : Device} {update : PeerUpdate} (kept : update ≠ .removeMe key) (present : key ∈ device.peers) :
    key ∈ (device.update update).peers := by
  cases update with
  | replace other allowedIps endpoint sent => exact replace_peers.mpr (.inr present)
  | removeMe other => exact removeMe_peers.mpr ⟨fun same => kept (same ▸ rfl), present⟩

/-- A configured key that is removed is gone; any other is in the kernel. -/
theorem Sent.present_iff (valid : ValidInterface iface) {device : Device} (sent : Sent engine start device replaces removes)
    {peer : PeerEntry} (listed : peer ∈ iface.peers) (decoded : decodeKey engine peer.publicKey = .ok key) :
    key ∈ (device.set (replaces ++ removes)).peers ↔ .removeMe key ∉ replaces ++ removes := by
  constructor
  · intro present removed
    have last : .removeMe key ∈ removes := (List.mem_append.mp removed).resolve_left fun member => by
      obtain ⟨_, _, _, _, _, _, _, _, same, _⟩ := (sent.replaces _).mp member
      cases same
    rw [Device.set, List.foldl_append] at present
    refine run_establishes (fun state : Device => key ∉ state.peers) removes ?_ last ?_ _ present
    · intro state update member absent
      obtain ⟨other, _, rfl, _⟩ := (sent.removes update).mp member
      exact fun held => absent (removeMe_peers.mp held).2
    · exact fun state held => (removeMe_peers.mp held).1 rfl
  · intro kept
    have keeps : ∀ state : Device, ∀ update ∈ replaces ++ removes, key ∈ state.peers → key ∈ (state.update update).peers :=
      fun state update member => keeps_peer fun same => kept (same ▸ member)
    by_cases present : key ∈ device.peers
    · exact run_invariant_mem (fun state : Device => key ∈ state.peers) _ keeps present
    · obtain ⟨endpoint, resolved⟩ := start.resolved listed
      obtain ⟨networks, read⟩ := valid.networks listed
      have moved : ¬ ∃ prev ∈ currentPeers engine device, prev.publicKey = peer.publicKey ∧
          unchanged prev (peer.resolvedTo endpoint) := by
        intro given
        obtain ⟨prev, held, same, _⟩ := given
        obtain ⟨other, _, found, rfl⟩ := mem_currentPeers.mp held
        have spelled : encodeKey engine other = peer.publicKey := same
        rw [← spelled, decodeKey_encodeKey] at decoded
        cases decoded
        exact present (AList.lookup_isSome.mp (Option.isSome_of_eq_some found))
      have replaced := (sent.replaces _).mpr ⟨peer, listed, endpoint, key, networks, resolved, decoded, read, rfl, moved⟩
      apply run_establishes (fun state : Device => key ∈ state.peers) _ keeps (List.mem_append_left _ replaced)
      exact fun state => replace_peers.mpr (.inl rfl)

theorem Sent.kept_iff (sent : Sent engine start state.device replaces removes) :
    .removeMe key ∉ replaces ++ removes ↔
      (key ∈ state.device.peers → encodeKey engine key ∈ iface.peers.map (·.publicKey)) := by
  constructor
  · intro kept present
    by_contra unwanted
    exact kept (List.mem_append_right _ ((sent.removes _).mpr ⟨key, present, rfl, unwanted⟩))
  · intro spelled removed
    rcases List.mem_append.mp removed with member | member
    · obtain ⟨_, _, _, _, _, _, _, _, same, _⟩ := (sent.replaces _).mp member
      cases same
    · obtain ⟨other, present, same, unwanted⟩ := (sent.removes _).mp member
      cases same
      exact unwanted (spelled present)

/-- Past `set_identity`, a start leaves an interface protected exactly where the kernel
was ready for it. -/
theorem protected_iff (valid : ValidInterface iface) (sent : Sent engine start state.device replaces removes) :
    Protected engine iface (state.set (replaces ++ removes)) ↔ Settable engine iface state := by
  apply forall₂_congr
  intro peer listed
  apply exists_congr
  intro key
  apply and_congr_right
  intro decoded
  rw [set_device, sent.present_iff valid listed decoded, ← sent.kept_iff]
  apply and_congr_right
  intro kept
  have after := secured_set kept state
  rw [sent.turnsOn_iff valid] at after
  cases wanted : peer.advancedSecurity with
  | true => exact iff_of_true (after.mpr (.inr ⟨peer, listed, decoded, wanted⟩)) nofun
  | false =>
    rw [← Bool.not_eq_true, after]
    simp only [not_or, not_exists, not_and, Bool.not_eq_true, forall_true_left]

/-! ### The daemon -/

/-- What `set_identity` cannot decode leaves the interface's peers as they are. -/
def Ready (engine : Engine) (iface : InterfaceEntry) (state : SecuredDevice) : Prop :=
  if setIdentity engine iface = .ok () then Settable engine iface state else Protected engine iface state

/-- A start with a config that the daemon accepts, at which every endpoint resolves. -/
structure DaemonStart where
  cfg : AwgConfig
  accepted : validate cfg = .ok ()
  resolver : Resolver
  resolves : ∀ iface ∈ cfg.interfaces, ∀ peer ∈ iface.peers, ∀ host ∈ peer.endpoint, (resolver host).isSome

def DaemonStart.apply (engine : Engine) (kernel : Kernel) (start : DaemonStart) : Kernel :=
  run engine start.resolver start.cfg kernel

/-- Every configured peer's flag in the kernel is what the start's config has. -/
def FlagsMatch (engine : Engine) (start : DaemonStart) (kernel : Kernel) : Prop :=
  ∀ iface ∈ start.cfg.interfaces, ∃ state, kernel iface.name = some state ∧ Protected engine iface state

/-- The kernel is ready for every interface of the start's config. -/
def KernelReady (engine : Engine) (start : DaemonStart) (kernel : Kernel) : Prop :=
  ∀ iface ∈ start.cfg.interfaces, Ready engine iface ((kernel iface.name).getD .new)

theorem run_interface (engine : Engine) (start : DaemonStart) (kernel : Kernel) (listed : iface ∈ start.cfg.interfaces) :
    start.apply engine kernel iface.name =
      let found := (kernel iface.name).getD .new
      some ((ensureSecured engine start.resolver iface found).toOption.getD found) := by
  have names : (start.cfg.interfaces.map (·.name)).Nodup := (validate_ok start.accepted).1
  have kept : gc (start.cfg.interfaces.map (·.name)) kernel iface.name = kernel iface.name :=
    if_pos (List.mem_map_of_mem listed)
  let rewrite (iface : InterfaceEntry) (found : Option SecuredDevice) : Option SecuredDevice :=
    some ((ensureSecured engine start.resolver iface (found.getD .new)).toOption.getD (found.getD .new))
  have rewritten := run_writeAt InterfaceEntry.name rewrite names listed (gc (start.cfg.interfaces.map (·.name)) kernel)
  rw [kept] at rewritten
  exact rewritten

theorem ensured_iff (engine : Engine) (start : DaemonStart) (listed : iface ∈ start.cfg.interfaces) (state : SecuredDevice) :
    Protected engine iface ((ensureSecured engine start.resolver iface state).toOption.getD state) ↔
      Ready engine iface state := by
  have valid := (validate_ok start.accepted).2 iface listed
  rw [Ready]
  split
  · rename_i identified
    obtain ⟨replaces, removes, sent⟩ :=
      @startUpdates_sent engine iface valid ⟨start.resolver, start.resolves iface listed⟩ state.device
    have ensured : ensureSecured engine start.resolver iface state = .ok (state.set (replaces ++ removes)) := by
      rw [ensureSecured, identified, ← sent.split]
      rfl
    rw [ensured]
    exact protected_iff valid sent
  · rename_i failed
    cases identified : setIdentity engine iface with
    | ok done => exact absurd identified failed
    | error reason =>
      rw [ensureSecured, identified]
      rfl

theorem flagsMatch_iff (engine : Engine) (kernel : Kernel) (start : DaemonStart) :
    FlagsMatch engine start (start.apply engine kernel) ↔ KernelReady engine start kernel := by
  apply forall₂_congr
  intro iface listed
  rw [run_interface engine start kernel listed]
  simp only [Option.some.injEq, exists_eq_left', ensured_iff engine start listed]

/-- Over any number of starts from any kernel: each leaves every flag as its config has it
exactly where each finds the kernel ready. -/
theorem starts_protect_iff (engine : Engine) (kernel : Kernel) (starts : List DaemonStart) :
    (∀ move ∈ moves (DaemonStart.apply engine) kernel starts, FlagsMatch engine move.2 (move.2.apply engine move.1)) ↔
      ∀ move ∈ moves (DaemonStart.apply engine) kernel starts, KernelReady engine move.2 move.1 :=
  always_iff (fun _ => True) (fun kernel start _ => flagsMatch_iff engine kernel start) (fun _ _ _ _ => trivial) starts trivial

/-- The device of an interface is brought up to date as if it had no flags. -/
theorem ensureSecured_device (engine : Engine) (resolver : Resolver) (iface : InterfaceEntry) (state : SecuredDevice) :
    (ensureSecured engine resolver iface state).map (·.device) = ensureInterface engine resolver iface state.device := by
  cases identified : setIdentity engine iface with
  | error reason =>
    rw [ensureSecured, ensureInterface, identified]
    rfl
  | ok done =>
    rw [ensureSecured, ensureInterface, identified]
    exact congrArg Except.ok (set_device state _)

/-! ### A peer's flag taken out of the config -/

private def oneKey : String := "AAAAAAAAAAAAAAAAAAAAAAAAAAAAAAAAAAAAAAAAAAA="

private def onePeer (flag : Bool) : PeerEntry :=
  { publicKey := oneKey, allowedIps := some ["10.0.0.2/32"], advancedSecurity := flag }

private def oneInterface (flag : Bool) : InterfaceEntry :=
  { name := "awg0"
    listenPort := 51820
    privateKey := oneKey
    obfuscation := { headerProtectionKey := some oneKey }
    peers := [onePeer flag] }

private def oneStart (flag : Bool) : DaemonStart where
  cfg := { interfaces := [oneInterface flag] }
  accepted := by
    cases flag with
    | true => decide
    | false => decide
  resolver := fun _ => none
  resolves := by
    intro iface listed peer member host given
    cases List.mem_singleton.mp listed
    cases List.mem_singleton.mp member
    cases given

/-- The daemon turns the flag on, and leaves it on at a start whose config has it off. -/
theorem flag_stays_on : ¬ ∀ starts : List DaemonStart, ∀ move ∈ moves (DaemonStart.apply standard) (fun _ => none) starts,
    FlagsMatch standard move.2 (move.2.apply standard move.1) := by
  intro alwaysMatches
  have matched := alwaysMatches [oneStart true, oneStart false]
  simp only [moves, List.forall_mem_cons] at matched
  obtain ⟨first, second, _⟩ := matched
  rw [flagsMatch_iff] at second
  obtain ⟨state, linked, on⟩ := first (oneInterface true) (List.mem_singleton_self _)
  have off := second (oneInterface false) (List.mem_singleton_self _)
  have identified : setIdentity standard (oneInterface false) = .ok () := by decide +kernel
  have found : (oneStart true).apply standard (fun _ => none) (oneInterface false).name = some state := linked
  rw [found, Option.getD_some, Ready, if_pos identified] at off
  obtain ⟨key, decoded, _, flagged⟩ := on (onePeer true) (List.mem_singleton_self _)
  obtain ⟨other, decoded', _, cleared⟩ := off (onePeer false) (List.mem_singleton_self _)
  have same : decodeKey standard (onePeer true).publicKey = decodeKey standard (onePeer false).publicKey := rfl
  cases decoded.symm.trans (same.trans decoded')
  cases flagged.symm.trans (cleared rfl).1

end Slipmesh.Awg
