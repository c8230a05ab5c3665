import Slipmesh.Awg.Identity
import Slipmesh.Library.Guard

/-! What a device keeps of its past when its identity is set. -/

namespace Slipmesh.Common

def Sends (attrs : List DeviceAttribute) (parameter : Parameter) : Prop :=
  ∃ value, .parameter parameter value ∈ attrs

variable {attrs more : List DeviceAttribute} {parameter other : Parameter}

@[simp] theorem sends_nil : ¬ Sends [] parameter := by simp [Sends]

@[simp] theorem sends_append : Sends (attrs ++ more) parameter ↔ Sends attrs parameter ∨ Sends more parameter := by
  simp only [Sends, List.mem_append, exists_or]

@[simp] theorem sends_parameter {value : other.Value} :
    Sends (.parameter other value :: attrs) parameter ↔ other = parameter ∨ Sends attrs parameter := by
  constructor
  · intro given
    obtain ⟨sent, member⟩ := given
    rcases List.mem_cons.mp member with same | member
    · cases same
      exact .inl rfl
    · exact .inr ⟨sent, member⟩
  · intro given
    rcases given with rfl | ⟨sent, member⟩
    · exact ⟨value, List.mem_cons_self ..⟩
    · exact ⟨sent, List.mem_cons_of_mem _ member⟩

@[simp] theorem sends_optional {value : Option other.Value} :
    Sends (optional other value) parameter ↔ other = parameter ∧ value.isSome = true := by
  cases value with
  | none => simp [optional]
  | some value => simp [optional]

/-- A parameter that is not sent stays. -/
theorem set_keeps (unsent : ¬ Sends attrs parameter) (device : DeviceIdentity) :
    (attrs.foldl DeviceIdentity.set device).parameters parameter = device.parameters parameter := by
  induction attrs generalizing device with
  | nil => rfl
  | cons attr attrs ih =>
    rw [List.foldl_cons, ih fun sent => unsent (sent.imp fun _ member => List.mem_cons_of_mem _ member)]
    cases attr with
    | ifName name => rfl
    | privateKey key => rfl
    | listenPort port => rfl
    | parameter other value =>
      have apart : parameter ≠ other := fun same => unsent (sends_parameter.mpr (.inl same.symm))
      exact Function.update_of_ne apart _ _

/-- A parameter that is sent is what the last attribute says, on any device. -/
theorem set_agrees (sent : Sends attrs parameter) (first second : DeviceIdentity) :
    (attrs.foldl DeviceIdentity.set first).parameters parameter =
      (attrs.foldl DeviceIdentity.set second).parameters parameter := by
  induction attrs generalizing first second with
  | nil => exact absurd sent sends_nil
  | cons attr attrs ih =>
    rw [List.foldl_cons, List.foldl_cons]
    by_cases later : Sends attrs parameter
    · exact ih later _ _
    · rw [set_keeps later, set_keeps later]
      cases attr with
      | parameter other value =>
        rcases sends_parameter.mp sent with rfl | sent
        · exact (Function.update_self other value first.parameters).trans (Function.update_self ..).symm
        · exact absurd sent later
      | _ =>
        obtain ⟨value, member⟩ := sent
        exact absurd ⟨value, (List.mem_cons.mp member).resolve_left nofun⟩ later

/-- The parameter is sent whatever the config says, or the config sets it. -/
def Obfuscation.decides (o : Obfuscation) : Parameter → Bool
  | .i1 => o.i1.isSome
  | .i2 => o.i2.isSome
  | .i3 => o.i3.isSome
  | .i4 => o.i4.isSome
  | .i5 => o.i5.isSome
  | .headerProtectionKey => o.headerProtectionKey.isSome
  | .contentPaddingAddition => o.contentPaddingAddition.isSome
  | .rekeyAfterTime => o.rekeyAfterTime.isSome
  | .rekeyTimeout => o.rekeyTimeout.isSome
  | .rejectAfterTime => o.rejectAfterTime.isSome
  | .keepaliveTimeout => o.keepaliveTimeout.isSome
  | .maxHandshakeAttempts => o.maxHandshakeAttempts.isSome
  | _ => true

theorem decodeOptional_ok {engine : Engine} {text : Option String} {protection : Option Key}
    (ok : decodeOptional engine text = .ok protection) : protection.isSome = text.isSome := by
  cases text with
  | none =>
    cases ok
    rfl
  | some key =>
    rw [decodeOptional] at ok
    cases read : decodeKey engine key with
    | error reason =>
      rw [read] at ok
      cases ok
    | ok secret =>
      rw [read] at ok
      cases ok
      rfl

theorem decodeOptional_ok_iff {engine : Engine} {text : Option String} :
    (∃ protection, decodeOptional engine text = .ok protection) ↔ ∀ key ∈ text, (decodeKey engine key).isOk = true := by
  cases text with
  | none => simp [decodeOptional]
  | some key =>
    simp only [Option.mem_some_iff, forall_eq']
    rw [decodeOptional]
    cases decodeKey engine key with
    | error reason => exact ⟨nofun, nofun⟩
    | ok secret => exact ⟨fun _ => rfl, fun _ => ⟨_, rfl⟩⟩

/-- What is sent is what the config decides. -/
theorem sends_pushed {engine : Engine} {o : Obfuscation} (ok : pushObfuscationAttrs engine attrs o = .ok more)
    (before : ∀ parameter, ¬ Sends attrs parameter) : Sends more parameter ↔ o.decides parameter = true := by
  simp only [pushObfuscationAttrs, Library.bind_ok, Library.pure_ok] at ok
  obtain ⟨protection, read, rfl⟩ := ok
  have decoded := decodeOptional_ok read
  simp only [sends_append, sends_parameter, sends_optional, sends_nil, before, false_or, or_false, decoded]
  cases parameter <;> simp [Obfuscation.decides]

end Slipmesh.Common

namespace Slipmesh.Awg
open Common Library

variable {engine : Engine} {iface : InterfaceEntry} {accepts : KernelModule}

theorem identityAttributes_sends {attrs : List DeviceAttribute} (ok : identityAttributes engine iface = .ok attrs)
    {parameter : Parameter} : Sends attrs parameter ↔ iface.obfuscation.decides parameter = true := by
  simp only [identityAttributes, bind_ok] at ok
  obtain ⟨privateKey, _, pushed⟩ := ok
  refine sends_pushed pushed fun other sent => ?_
  obtain ⟨value, member⟩ := sent
  simp at member

theorem setIdentity_ok_iff : setIdentity engine iface = .ok () ↔ (decodeKey engine iface.privateKey).isOk = true ∧
    ∀ key ∈ iface.obfuscation.headerProtectionKey, (decodeKey engine key).isOk = true := by
  have isOk (text : String) : (∃ key, decodeKey engine text = .ok key) ↔ (decodeKey engine text).isOk = true := by
    refine ⟨?_, exists_of_isOk⟩
    intro given
    obtain ⟨key, read⟩ := given
    rw [read]
    rfl
  cases protection : iface.obfuscation.headerProtectionKey with
  | none => simp only [setIdentity, protection, bind_ok, pure_ok, and_true, isOk, Option.not_mem_none, false_implies, implies_true]
  | some key => simp only [setIdentity, protection, bind_ok, pure_ok, and_true, exists_and_right, isOk, Option.mem_some_iff, forall_eq']

/-- The attributes are built wherever the keys decode. -/
theorem identityAttributes_ok_iff :
    (∃ attrs, identityAttributes engine iface = .ok attrs) ↔ setIdentity engine iface = .ok () := by
  rw [setIdentity_ok_iff, ← decodeOptional_ok_iff]
  simp only [identityAttributes, pushObfuscationAttrs, bind_ok, pure_ok]
  constructor
  · intro given
    obtain ⟨_, privateKey, read, protection, decoded, _⟩ := given
    exact ⟨by rw [read]; rfl, protection, decoded⟩
  · intro given
    obtain ⟨own, protection, decoded⟩ := given
    obtain ⟨privateKey, read⟩ := exists_of_isOk own
    exact ⟨_, privateKey, read, protection, decoded, rfl⟩

theorem applyIdentity_ok {attrs : List DeviceAttribute} (built : identityAttributes engine iface = .ok attrs)
    (taken : accepts attrs = true) (device : DeviceIdentity) :
    applyIdentity engine accepts iface device = .ok (attrs.foldl DeviceIdentity.set device) := by
  simp only [applyIdentity, bind_ok, mapError_ok]
  refine ⟨attrs, built, ?_⟩
  rw [setDevice, setDeviceOnce, if_pos taken]
  rfl

/-- Where the module takes what it is first sent: two devices end up with one value of a
parameter exactly where the config decides it or they had one before. What the config
leaves open stays on either as it was. -/
theorem identity_agrees_iff (decodes : setIdentity engine iface = .ok ())
    (firstAttempt : ∀ attrs, identityAttributes engine iface = .ok attrs → accepts attrs = true)
    (first second : DeviceIdentity) :
    ∃ first' second', applyIdentity engine accepts iface first = .ok first' ∧
      applyIdentity engine accepts iface second = .ok second' ∧
      ∀ parameter, (first'.parameters parameter = second'.parameters parameter ↔
        iface.obfuscation.decides parameter = true ∨ first.parameters parameter = second.parameters parameter) ∧
        (iface.obfuscation.decides parameter = false → first'.parameters parameter = first.parameters parameter ∧
          second'.parameters parameter = second.parameters parameter) := by
  obtain ⟨attrs, built⟩ := identityAttributes_ok_iff.mpr decodes
  have sets := applyIdentity_ok built (firstAttempt attrs built)
  refine ⟨_, _, sets first, sets second, ?_⟩
  intro parameter
  have decided : Sends attrs parameter ↔ iface.obfuscation.decides parameter = true := identityAttributes_sends built
  by_cases sent : Sends attrs parameter
  · refine ⟨iff_of_true (set_agrees sent first second) (.inl (decided.mp sent)), ?_⟩
    intro undecided
    rw [decided.mp sent] at undecided
    cases undecided
  · have kept : ∀ device, (attrs.foldl DeviceIdentity.set device).parameters parameter =
      device.parameters parameter := set_keeps sent
    refine ⟨?_, fun _ => ⟨kept first, kept second⟩⟩
    rw [kept, kept, ← decided]
    simp only [sent, false_or]

/-- A device as the module makes it: all zero but for the headers. -/
def newParameters : (parameter : Parameter) → parameter.Value
  | .jc | .jmin | .jmax | .s1 | .s2 | .s3 | .s4 => 0
  | .h1 => (1, 1)
  | .h2 => (2, 2)
  | .h3 => (3, 3)
  | .h4 => (4, 4)
  | .i1 | .i2 | .i3 | .i4 | .i5 => ""
  | .headerProtectionKey => default
  | .contentPaddingAddition | .rekeyAfterTime | .rekeyTimeout | .rejectAfterTime | .keepaliveTimeout
  | .maxHandshakeAttempts => 0
  | .randomTrailers | .disableCookies => false

def newDevice : DeviceIdentity := ⟨default, 0, newParameters⟩

/-- A device whose last config had the decoy packet. -/
def decoyDevice (decoy : String) : DeviceIdentity :=
  { newDevice with parameters := Function.update newParameters .i1 decoy }

/-- A module of the daemon's own version, which refuses nothing. -/
def takesAll : KernelModule := fun _ => true

/-- An interface without any obfuscation. -/
def plainInterface : InterfaceEntry :=
  { name := "awg0", listenPort := 51820, privateKey := encodeKey standard default }

theorem plainInterface_decodes : setIdentity standard plainInterface = .ok () := by
  rw [setIdentity_ok_iff]
  refine ⟨?_, by simp [plainInterface]⟩
  rw [plainInterface, decodeKey_encodeKey]
  rfl

theorem identity_agrees_plain : ∃ first' second',
    applyIdentity standard takesAll plainInterface newDevice = .ok first' ∧
      applyIdentity standard takesAll plainInterface (decoyDevice "decoy") = .ok second' ∧
      ∀ parameter, (first'.parameters parameter = second'.parameters parameter ↔
        plainInterface.obfuscation.decides parameter = true ∨
          newDevice.parameters parameter = (decoyDevice "decoy").parameters parameter) ∧
        (plainInterface.obfuscation.decides parameter = false → first'.parameters parameter = newDevice.parameters parameter ∧
          second'.parameters parameter = (decoyDevice "decoy").parameters parameter) :=
  identity_agrees_iff plainInterface_decodes (fun _ _ => rfl) newDevice (decoyDevice "decoy")

/-- The decoy packet stays, though the config that is set has none. -/
theorem identity_keeps_decoy : ¬ ∀ (engine : Engine) (iface : InterfaceEntry) (accepts : KernelModule)
    (first second first' second' : DeviceIdentity), setIdentity engine iface = .ok () →
    (∀ attrs, identityAttributes engine iface = .ok attrs → accepts attrs = true) →
    applyIdentity engine accepts iface first = .ok first' → applyIdentity engine accepts iface second = .ok second' →
    ∀ parameter, first'.parameters parameter = second'.parameters parameter := by
  intro alwaysAgree
  obtain ⟨attrs, built⟩ := identityAttributes_ok_iff.mpr plainInterface_decodes
  have taken : takesAll attrs = true := rfl
  have sets := applyIdentity_ok built taken
  have same := alwaysAgree standard plainInterface takesAll newDevice (decoyDevice "decoy") _ _ plainInterface_decodes
    (fun _ _ => rfl) (sets _) (sets _) .i1
  have unsent : ¬ Sends attrs .i1 := fun sent => absurd ((identityAttributes_sends built).mp sent) (by decide)
  rw [set_keeps unsent, set_keeps unsent] at same
  exact absurd same (by decide)

end Slipmesh.Awg
