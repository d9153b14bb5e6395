import Daq.Runner.Isolation
import Daq.Runner.Provision

namespace Daq

variable {env : Env}

/-! The devices the topology keeps for a port set, beside the targets of the
gateways.  A device enters both when it is activated; it leaves the former only
together with its gateway. -/

/-- Which device is attached to which gateway, and what the switches know of
it. -/
structure Wiring where
  devices : List DeviceId
  mac : DeviceId → Mac
  gateway : DeviceId → Option GatewayId
  vlan : DeviceId → Option Nat
  portSet : GatewayId → SetNumber
  targets : GatewayId → Dict Mac DeviceId
  gatewaySets : Finset SetNumber
  nextGateway : GatewayId
  nativeGateway : Option GatewayId
  setDevices : Nat → Option (Finset DeviceId)
  setVlan : Nat → Nat

def World.wiring (world : World) : Wiring where
  devices := registeredDevices world
  mac := fun device => (world.device device).mac
  gateway := fun device => (world.device device).gateway
  vlan := fun device => (world.device device).vlan
  portSet := fun gateway => (world.gateways gateway).portSet
  targets := fun gateway => (world.gateways gateway).targets
  gatewaySets := world.gatewaySets
  nextGateway := world.nextGateway
  nativeGateway := world.nativeGateway
  setDevices := world.topology.setDevices
  setVlan := world.topology.setVlan

namespace Wiring

/-- A registered device is attached to a gateway. -/
def Attached (wiring : Wiring) (device : DeviceId) (gateway : GatewayId) : Prop :=
  device ∈ wiring.devices ∧ wiring.gateway device = some gateway

/-- A registered device is attached to the gateway of a port set. -/
def AttachedToSet (wiring : Wiring) (device : DeviceId) (set : Nat) : Prop :=
  ∃ gateway, wiring.Attached device gateway ∧ (wiring.portSet gateway).val = set

/-- The DHCP reflectors and the 802.1X rules are made for the devices of all
port sets. -/
def RulesMention (wiring : Wiring) (device : DeviceId) : Prop :=
  ∃ set devices, wiring.setDevices set = some devices ∧ device ∈ devices

/-- The switches carry the attached devices and nothing else. -/
structure Tidy (wiring : Wiring) : Prop where
  dumped : ∀ set, (∀ device, ¬ wiring.AttachedToSet device set) → wiring.setVlan set = dumpVlan
  listed : ∀ set device,
    device ∈ (wiring.setDevices set).getD ∅ ↔ wiring.AttachedToSet device set
  mentioned : ∀ device, wiring.RulesMention device → ∃ gateway, wiring.Attached device gateway

/-- What the operations keep. -/
structure Sound (wiring : Wiring) : Prop where
  native : wiring.nativeGateway = none
  made : ∀ device gateway, wiring.Attached device gateway → gateway < wiring.nextGateway
  targets : ∀ gateway mac device, (wiring.targets gateway).get? mac = some device ↔
    wiring.Attached device gateway ∧ wiring.mac device = mac
  exclusive : ∀ device other gateway second, wiring.Attached device gateway →
    wiring.Attached other second → wiring.portSet gateway = wiring.portSet second →
    gateway = second
  taken : ∀ device gateway, wiring.Attached device gateway →
    wiring.portSet gateway ∉ wiring.gatewaySets
  tagged : ∀ device gateway, wiring.Attached device gateway → Truthy (wiring.vlan device)
  listed : ∀ set device,
    device ∈ (wiring.setDevices set).getD ∅ ↔ wiring.AttachedToSet device set
  dumped : ∀ set, (∀ device, ¬ wiring.AttachedToSet device set) → wiring.setVlan set = dumpVlan

/-- A gateway a device may join: it is made, its number is not free, and no
other gateway with devices has it. -/
structure Joinable (wiring : Wiring) (gateway : GatewayId) : Prop where
  made : gateway < wiring.nextGateway
  taken : wiring.portSet gateway ∉ wiring.gatewaySets
  exclusive : ∀ device other, wiring.Attached device other →
    wiring.portSet other = wiring.portSet gateway → other = gateway

/-- A new gateway, with a number from the pool. -/
def provided (wiring : Wiring) (number : SetNumber) : Wiring :=
  { wiring with
    nextGateway := wiring.nextGateway + 1
    gatewaySets := wiring.gatewaySets.erase number
    portSet := Function.update wiring.portSet wiring.nextGateway number
    targets := Function.update wiring.targets wiring.nextGateway .empty }

/-- The device is attached, before any traffic is directed to it. -/
def joined (wiring : Wiring) (gateway : GatewayId) (device : DeviceId) : Wiring :=
  { wiring with
    gateway := Function.update wiring.gateway device (some gateway)
    targets := Function.update wiring.targets gateway
      ((wiring.targets gateway).insert (wiring.mac device) device) }

/-- Traffic of the device's VLAN is directed to the port set. -/
def tuned (wiring : Wiring) (device : DeviceId) (set vlan : Nat) : Wiring :=
  { wiring with
    setDevices := Function.update wiring.setDevices set
      (some (insert device ((wiring.setDevices set).getD ∅)))
    setVlan := Function.update wiring.setVlan set vlan }

/-- The last device of a gateway is detached. -/
def retired (wiring : Wiring) (gateway : GatewayId) (device : DeviceId) : Wiring :=
  { wiring with
    gateway := Function.update wiring.gateway device none
    targets := Function.update wiring.targets gateway
      ((wiring.targets gateway).erase (wiring.mac device))
    gatewaySets := insert (wiring.portSet gateway) wiring.gatewaySets
    setDevices := Function.update wiring.setDevices (wiring.portSet gateway).val
      (some (((wiring.setDevices (wiring.portSet gateway).val).getD ∅).erase device))
    setVlan := Function.update wiring.setVlan (wiring.portSet gateway).val dumpVlan }

/-- Two states that only differ in what is not attached. -/
structure Untouched (before after : Wiring) : Prop where
  attached : ∀ device gateway, after.Attached device gateway ↔ before.Attached device gateway
  mac : ∀ device gateway, before.Attached device gateway → after.mac device = before.mac device
  vlan : ∀ device gateway, before.Attached device gateway → after.vlan device = before.vlan device
  portSet : after.portSet = before.portSet
  targets : after.targets = before.targets
  gatewaySets : after.gatewaySets = before.gatewaySets
  nextGateway : after.nextGateway = before.nextGateway
  nativeGateway : after.nativeGateway = before.nativeGateway
  setDevices : after.setDevices = before.setDevices
  setVlan : after.setVlan = before.setVlan

variable {wiring : Wiring} {device other : DeviceId} {gateway second : GatewayId} {mac : Mac}

/-! What the operations change, read as relations: the attached devices, the
targets and the lists of the port sets after each, in terms of those before. -/

theorem provided_portSet (number : SetNumber) (older : gateway < wiring.nextGateway) :
    (wiring.provided number).portSet gateway = wiring.portSet gateway :=
  Function.update_of_ne (Nat.ne_of_lt older) _ _

theorem provided_targets (number : SetNumber) :
    ((wiring.provided number).targets gateway).get? mac = some device ↔
      (wiring.targets gateway).get? mac = some device ∧ gateway ≠ wiring.nextGateway := by
  change ((Function.update wiring.targets wiring.nextGateway .empty) gateway).get? mac = _ ↔ _
  by_cases made : gateway = wiring.nextGateway
  · subst made
    rw [Function.update_self, Dict.get?_empty]
    exact iff_of_false (by rintro ⟨⟩) fun present => present.2 rfl
  · rw [Function.update_of_ne made]
    exact (and_iff_left made).symm

theorem joined_attached (registered : device ∈ wiring.devices)
    (free : wiring.gateway device = none) :
    (wiring.joined gateway device).Attached other second ↔
      wiring.Attached other second ∨ (other = device ∧ second = gateway) := by
  change other ∈ wiring.devices ∧
    Function.update wiring.gateway device (some gateway) other = some second ↔ _
  by_cases mine : other = device
  · subst mine
    rw [Function.update_self]
    constructor
    · exact fun now => .inr ⟨rfl, (Option.some.inj now.2).symm⟩
    · rintro (before | ⟨_, rfl⟩)
      · cases before.2.symm.trans free
      · exact ⟨registered, rfl⟩
  · rw [Function.update_of_ne mine]
    exact (or_iff_left fun this => mine this.1).symm

theorem joined_attachedToSet (registered : device ∈ wiring.devices)
    (free : wiring.gateway device = none) {set : Nat} :
    (wiring.joined gateway device).AttachedToSet other set ↔
      wiring.AttachedToSet other set ∨ (other = device ∧ (wiring.portSet gateway).val = set) := by
  constructor
  · rintro ⟨second, now, belongs⟩
    rcases (joined_attached registered free).mp now with before | ⟨same, rfl⟩
    · exact .inl ⟨second, before, belongs⟩
    · exact .inr ⟨same, belongs⟩
  · rintro (⟨second, before, belongs⟩ | ⟨same, belongs⟩)
    · exact ⟨second, (joined_attached registered free).mpr (.inl before), belongs⟩
    · exact ⟨gateway, (joined_attached registered free).mpr (.inr ⟨same, rfl⟩), belongs⟩

theorem joined_targets (absent : (wiring.targets gateway).get? (wiring.mac device) = none) :
    ((wiring.joined gateway device).targets second).get? mac = some other ↔
      (wiring.targets second).get? mac = some other ∨
        (other = device ∧ second = gateway ∧ wiring.mac device = mac) := by
  change (Function.update wiring.targets gateway
    ((wiring.targets gateway).insert (wiring.mac device) device) second).get? mac = _ ↔ _
  by_cases same : second = gateway
  · subst same
    rw [Function.update_self, Dict.get?_insert]
    split
    case isTrue key =>
      subst key
      rw [absent, Option.some.injEq]
      constructor
      · exact fun here => .inr ⟨here.symm, rfl, rfl⟩
      · rintro (none | ⟨here, _⟩)
        · cases none
        · exact here.symm
    case isFalse key =>
      exact (or_iff_left fun this => key this.2.2.symm).symm
  · rw [Function.update_of_ne same]
    exact (or_iff_left fun this => same this.2.1).symm

theorem tuned_listed {set vlan number : Nat} :
    other ∈ ((wiring.tuned device set vlan).setDevices number).getD ∅ ↔
      other ∈ (wiring.setDevices number).getD ∅ ∨ (other = device ∧ set = number) := by
  change other ∈ (Function.update wiring.setDevices set
    (some (insert device ((wiring.setDevices set).getD ∅))) number).getD ∅ ↔ _
  by_cases same : number = set
  · rw [same, Function.update_self, Option.getD_some, Finset.mem_insert]
    simp only [and_true]
    exact or_comm
  · rw [Function.update_of_ne same]
    exact (or_iff_left fun this => same this.2.symm).symm

theorem retired_attached : (wiring.retired gateway device).Attached other second ↔
    wiring.Attached other second ∧ other ≠ device := by
  change other ∈ wiring.devices ∧ Function.update wiring.gateway device none other = some second ↔ _
  by_cases mine : other = device
  · subst mine
    rw [Function.update_self]
    exact iff_of_false (by rintro ⟨_, ⟨⟩⟩) fun now => now.2 rfl
  · rw [Function.update_of_ne mine]
    exact (and_iff_left mine).symm

theorem retired_targets : ((wiring.retired gateway device).targets second).get? mac = some other ↔
    (wiring.targets second).get? mac = some other ∧
      ¬ (second = gateway ∧ wiring.mac device = mac) := by
  change (Function.update wiring.targets gateway
    ((wiring.targets gateway).erase (wiring.mac device)) second).get? mac = _ ↔ _
  by_cases same : second = gateway
  · subst same
    rw [Function.update_self, Dict.get?_erase]
    split
    case isTrue key => exact iff_of_false (by rintro ⟨⟩) fun kept => kept.2 ⟨rfl, key.symm⟩
    case isFalse key => exact (and_iff_left fun this => key this.2.symm).symm
  · rw [Function.update_of_ne same]
    exact (and_iff_left fun this => same this.1).symm

theorem retired_listed {set : Nat} :
    other ∈ ((wiring.retired gateway device).setDevices set).getD ∅ ↔
      other ∈ (wiring.setDevices set).getD ∅ ∧
        ¬ (set = (wiring.portSet gateway).val ∧ other = device) := by
  change other ∈ (Function.update wiring.setDevices (wiring.portSet gateway).val
    (some (((wiring.setDevices (wiring.portSet gateway).val).getD ∅).erase device)) set).getD ∅ ↔ _
  by_cases same : set = (wiring.portSet gateway).val
  · rw [same, Function.update_self, Option.getD_some, Finset.mem_erase]
    simp only [true_and]
    exact and_comm
  · rw [Function.update_of_ne same]
    exact (and_iff_left fun this => same this.1).symm

namespace Sound

theorem tidy (sound : wiring.Sound) : wiring.Tidy where
  dumped := sound.dumped
  listed := sound.listed
  mentioned := by
    rintro device ⟨set, devices, present, member⟩
    have listed : device ∈ (wiring.setDevices set).getD ∅ := by
      rw [present]
      exact member
    obtain ⟨gateway, attached, _⟩ := (sound.listed set device).mp listed
    exact ⟨gateway, attached⟩

theorem attachedToSet_iff (sound : wiring.Sound) (attached : wiring.Attached device gateway)
    (other : DeviceId) :
    wiring.AttachedToSet other (wiring.portSet gateway).val ↔ wiring.Attached other gateway := by
  constructor
  · rintro ⟨second, theirs, same⟩
    cases sound.exclusive other device second gateway theirs attached (Subtype.ext same)
    exact theirs
  · exact fun theirs => ⟨gateway, theirs, rfl⟩

theorem joinable (sound : wiring.Sound) (attached : wiring.Attached device gateway) :
    wiring.Joinable gateway where
  made := sound.made device gateway attached
  taken := sound.taken device gateway attached
  exclusive := fun other second theirs same =>
    sound.exclusive other device second gateway theirs attached same

theorem untouched {after : Wiring} (sound : wiring.Sound) (same : wiring.Untouched after) :
    after.Sound := by
  have toSet : ∀ device set, after.AttachedToSet device set ↔ wiring.AttachedToSet device set := by
    intro device set
    unfold AttachedToSet
    simp only [same.attached, same.portSet]
  constructor
  case native => exact same.nativeGateway.trans sound.native
  case made =>
    intro device gateway attached
    rw [same.nextGateway]
    exact sound.made device gateway ((same.attached _ _).mp attached)
  case targets =>
    intro gateway mac device
    rw [same.targets, sound.targets, same.attached]
    exact and_congr_right fun attached => by rw [same.mac device gateway attached]
  case exclusive =>
    intro device other gateway second attached theirs
    rw [same.portSet]
    exact sound.exclusive device other gateway second ((same.attached _ _).mp attached)
      ((same.attached _ _).mp theirs)
  case taken =>
    intro device gateway attached
    rw [same.portSet, same.gatewaySets]
    exact sound.taken device gateway ((same.attached _ _).mp attached)
  case tagged =>
    intro device gateway attached
    have before := (same.attached _ _).mp attached
    rw [same.vlan device gateway before]
    exact sound.tagged device gateway before
  case listed =>
    intro set device
    rw [same.setDevices, toSet]
    exact sound.listed set device
  case dumped =>
    intro set free
    rw [same.setVlan]
    exact sound.dumped set fun device => mt (toSet device set).mpr (free device)

theorem provided (sound : wiring.Sound) {number : SetNumber} (free : number ∈ wiring.gatewaySets) :
    (wiring.provided number).Sound ∧ (wiring.provided number).Joinable wiring.nextGateway := by
  have old : ∀ device gateway, wiring.Attached device gateway →
      (wiring.provided number).portSet gateway = wiring.portSet gateway :=
    fun device gateway attached => provided_portSet number (sound.made device gateway attached)
  have new : (wiring.provided number).portSet wiring.nextGateway = number :=
    Function.update_self _ _ _
  have toSet : ∀ device set, (wiring.provided number).AttachedToSet device set ↔
      wiring.AttachedToSet device set := by
    intro device set
    constructor
    · rintro ⟨gateway, attached, belongs⟩
      exact ⟨gateway, attached, old device gateway attached ▸ belongs⟩
    · rintro ⟨gateway, attached, belongs⟩
      exact ⟨gateway, attached, (old device gateway attached).symm ▸ belongs⟩
  constructor
  · constructor
    case native => exact sound.native
    case made =>
      exact fun device gateway attached => Nat.lt_succ_of_lt (sound.made device gateway attached)
    case targets =>
      intro gateway mac device
      rw [provided_targets, sound.targets]
      exact and_iff_left_of_imp fun now => (sound.made device gateway now.1).ne
    case exclusive =>
      intro device other gateway second attached theirs
      rw [old device gateway attached, old other second theirs]
      exact sound.exclusive device other gateway second attached theirs
    case taken =>
      intro device gateway attached
      rw [old device gateway attached]
      exact fun member => sound.taken device gateway attached (Finset.mem_of_mem_erase member)
    case tagged => exact sound.tagged
    case listed =>
      intro set device
      rw [toSet]
      exact sound.listed set device
    case dumped =>
      exact fun set none => sound.dumped set fun device => mt (toSet device set).mpr (none device)
  · constructor
    case made => exact Nat.lt_succ_self _
    case taken =>
      rw [new]
      exact Finset.notMem_erase number wiring.gatewaySets
    case exclusive =>
      intro device other attached same
      rw [old device other attached, new] at same
      exact absurd free (same ▸ sound.taken device other attached)

/-- A device that is attached and directed to at once. -/
theorem joined (sound : wiring.Sound) (ready : wiring.Joinable gateway) (vlan : Nat)
    (registered : device ∈ wiring.devices) (free : wiring.gateway device = none)
    (absent : (wiring.targets gateway).get? (wiring.mac device) = none)
    (tag : Truthy (wiring.vlan device)) :
    ((wiring.joined gateway device).tuned device (wiring.portSet gateway).val vlan).Sound := by
  have attached : ∀ {other second}, (wiring.joined gateway device).Attached other second →
      wiring.Attached other second ∨ (other = device ∧ second = gateway) :=
    (joined_attached registered free).mp
  constructor
  case native => exact sound.native
  case made =>
    intro other second now
    rcases attached now with before | ⟨_, rfl⟩
    · exact sound.made other second before
    · exact ready.made
  case targets =>
    intro second mac other
    refine (joined_targets absent).trans (Iff.trans ?_
      (and_congr_left' (joined_attached registered free).symm))
    rw [sound.targets, or_and_right]
    refine or_congr_right ?_
    constructor
    · rintro ⟨rfl, same, key⟩
      exact ⟨⟨rfl, same⟩, key⟩
    · rintro ⟨⟨rfl, same⟩, key⟩
      exact ⟨rfl, same, key⟩
  case exclusive =>
    intro other third second fourth now theirs same
    rcases attached now with before | ⟨_, rfl⟩ <;> rcases attached theirs with theirs | ⟨_, rfl⟩
    · exact sound.exclusive other third second fourth before theirs same
    · exact ready.exclusive other second before same
    · exact (ready.exclusive third fourth theirs same.symm).symm
    · rfl
  case taken =>
    intro other second now
    rcases attached now with before | ⟨_, rfl⟩
    · exact sound.taken other second before
    · exact ready.taken
  case tagged =>
    intro other second now
    rcases attached now with before | ⟨rfl, _⟩
    · exact sound.tagged other second before
    · exact tag
  case listed =>
    intro set other
    refine tuned_listed.trans (Iff.trans ?_ (joined_attachedToSet registered free).symm)
    exact or_congr_left (sound.listed set other)
  case dumped =>
    intro set none
    have kept := fun other => mt (joined_attachedToSet registered free).mpr (none other)
    have different : set ≠ (wiring.portSet gateway).val :=
      fun same => kept device (.inr ⟨rfl, same.symm⟩)
    exact (Function.update_of_ne different _ _).trans
      (sound.dumped set fun other before => kept other (.inl before))

/-- Traffic is directed to an attached device once more. -/
theorem tuned (sound : wiring.Sound) (attached : wiring.Attached device gateway) (vlan : Nat) :
    (wiring.tuned device (wiring.portSet gateway).val vlan).Sound := by
  refine ⟨sound.native, sound.made, sound.targets, sound.exclusive, sound.taken, sound.tagged,
    ?_, ?_⟩
  · intro set other
    refine tuned_listed.trans ((or_iff_left_of_imp ?_).trans (sound.listed set other))
    rintro ⟨rfl, rfl⟩
    exact (sound.listed _ _).mpr ⟨gateway, attached, rfl⟩
  · intro set none
    have different : set ≠ (wiring.portSet gateway).val := by
      intro same
      exact none device ⟨gateway, attached, same.symm⟩
    exact (Function.update_of_ne different _ _).trans (sound.dumped set none)

/-- A device gets another VLAN. -/
theorem revlaned (sound : wiring.Sound) (device : DeviceId) {vlan : Option Nat}
    (tag : Truthy vlan) :
    ({ wiring with vlan := Function.update wiring.vlan device vlan } : Wiring).Sound := by
  refine ⟨sound.native, sound.made, sound.targets, sound.exclusive, sound.taken, ?_,
    sound.listed, sound.dumped⟩
  intro other gateway attached
  by_cases same : other = device
  · subst same
    simpa using tag
  · simpa [same] using sound.tagged other gateway attached

/-- Who stays attached when the last device of a gateway leaves is at another
port set. -/
theorem retired_attachedToSet (sound : wiring.Sound) (attached : wiring.Attached device gateway)
    (last : ∀ other, wiring.Attached other gateway → other = device) {set : Nat} :
    (wiring.retired gateway device).AttachedToSet other set ↔
      wiring.AttachedToSet other set ∧ set ≠ (wiring.portSet gateway).val := by
  constructor
  · rintro ⟨second, now, belongs⟩
    obtain ⟨before, different⟩ := retired_attached.mp now
    refine ⟨⟨second, before, belongs⟩, ?_⟩
    rintro rfl
    exact different (last other ((sound.attachedToSet_iff attached other).mp
      ⟨second, before, belongs⟩))
  · rintro ⟨⟨second, before, belongs⟩, different⟩
    refine ⟨second, retired_attached.mpr ⟨before, ?_⟩, belongs⟩
    rintro rfl
    cases before.2.symm.trans attached.2
    exact different belongs.symm

/-- The last device of a gateway leaves nothing behind. -/
theorem retired (sound : wiring.Sound) (attached : wiring.Attached device gateway)
    (last : ∀ other, wiring.Attached other gateway → other = device) :
    (wiring.retired gateway device).Sound := by
  have before : ∀ {other second}, (wiring.retired gateway device).Attached other second →
      wiring.Attached other second := fun now => (retired_attached.mp now).1
  constructor
  case native => exact sound.native
  case made => exact fun other second now => sound.made other second (before now)
  case targets =>
    intro second mac other
    rw [retired_targets, retired_attached, sound.targets]
    refine Iff.trans (and_congr_right fun present => not_congr ?_) and_right_comm
    constructor
    · rintro ⟨rfl, _⟩
      exact last other present.1
    · rintro rfl
      exact ⟨Option.some.inj (present.1.2.symm.trans attached.2), present.2⟩
  case exclusive =>
    exact fun other third second fourth now theirs same =>
      sound.exclusive other third second fourth (before now) (before theirs) same
  case taken =>
    intro other second now member
    rcases Finset.mem_insert.mp member with same | old
    · cases sound.exclusive other device second gateway (before now) attached same
      exact (retired_attached.mp now).2 (last other (before now))
    · exact sound.taken other second (before now) old
  case tagged => exact fun other second now => sound.tagged other second (before now)
  case listed =>
    intro set other
    rw [retired_listed, sound.retired_attachedToSet attached last, sound.listed]
    refine and_congr_right fun listed => not_congr (and_iff_left_of_imp ?_)
    rintro rfl
    exact last other ((sound.attachedToSet_iff attached other).mp listed)
  case dumped =>
    intro set none
    change Function.update wiring.setVlan (wiring.portSet gateway).val dumpVlan set = dumpVlan
    by_cases same : set = (wiring.portSet gateway).val
    · rw [same, Function.update_self]
    · rw [Function.update_of_ne same]
      exact sound.dumped set fun other theirs =>
        none other ((sound.retired_attachedToSet attached last).mpr ⟨theirs, same⟩)

end Sound

end Wiring

section Traffic

variable {world : World} {device : DeviceId} {gateway : GatewayId}

theorem directDeviceTraffic_tunes (attached : (world.device device).gateway = some gateway) :
    (directDeviceTraffic env device (some (world.gateways gateway).portSet.val)).Holds world
      (fun outcome after => outcome = .ok () → Truthy (world.device device).vlan ∧ ∃ vlan,
        after.wiring = world.wiring.tuned device (world.gateways gateway).portSet.val vlan) := by
  unfold directDeviceTraffic
  rw [Exec.holds_bind, Exec.holds_of_run (populateSetDevices_run attached), Exec.then_ok,
    Exec.holds_bind, Exec.holds_require]
  refine ⟨fun tag => ?_, fun _ => nofun⟩
  rw [Exec.then_ok, Exec.holds_bind, Exec.holds_require]
  refine ⟨fun _ => ?_, fun _ => nofun⟩
  rw [Exec.then_ok, Exec.holds_bind, Exec.holds_modify, Exec.then_ok, Exec.holds_bind, holds_callOut]
  refine ⟨fun _ => ?_, fun _ _ => nofun⟩
  rw [Exec.then_ok, holds_callOut]
  exact ⟨fun _ _ => ⟨tag, _, rfl⟩, fun _ _ => nofun⟩

/-- A port set whose only device is directed nowhere goes to the dump. -/
theorem directDeviceTraffic_dumps (attached : (world.device device).gateway = some gateway)
    (only : (world.topology.setDevices (world.gateways gateway).portSet.val).getD ∅ = {device}) :
    (directDeviceTraffic env device none).Holds world (fun outcome after => outcome = .ok () →
      after.wiring = { world.wiring with
        setDevices := Function.update world.topology.setDevices (world.gateways gateway).portSet.val
          (some (((world.topology.setDevices
            (world.gateways gateway).portSet.val).getD ∅).erase device))
        setVlan := Function.update world.topology.setVlan (world.gateways gateway).portSet.val
          dumpVlan }) := by
  have falsy : ¬ Truthy none := by decide
  have member : device ∈ (world.topology.setDevices
      (world.gateways gateway).portSet.val).getD ∅ := by
    rw [only]
    exact Finset.mem_singleton_self device
  unfold directDeviceTraffic populateSetDevices
  rw [Exec.holds_bind, Exec.holds_bind, Exec.holds_of_run (gatewaySet_run attached), Exec.then_ok,
    Exec.holds_bind, Exec.holds_require]
  refine ⟨fun _ => ?_, fun refused => absurd (Or.inr falsy) refused⟩
  rw [Exec.then_ok, Exec.holds_bind, Exec.holds_read, Exec.then_ok, Exec.holds_bind,
    Exec.holds_read, Exec.then_ok, Exec.holds_bind, Exec.holds_require]
  refine ⟨fun _ => ?_, fun refused => absurd (Or.inr member) refused⟩
  rw [Exec.then_ok, Exec.holds_bind, Exec.holds_modify, Exec.then_ok, Exec.holds_bind,
    Exec.holds_get, Exec.then_ok, Exec.holds_pure, Exec.then_ok]
  have idle : ¬ (((world.topology.setDevices
      (world.gateways gateway).portSet.val).getD ∅).erase device ≠ ∅) := by
    rw [only]
    simp
  simp only [falsy, ↓reduceIte, World.setTopology, Function.update_self, Option.getD_some, idle]
  rw [Exec.holds_bind, Exec.holds_require]
  refine ⟨fun _ => ?_, fun _ => by rintro ⟨⟩⟩
  rw [Exec.then_ok, Exec.holds_bind, Exec.holds_require]
  refine ⟨fun _ => ?_, fun _ => by rintro ⟨⟩⟩
  rw [Exec.then_ok, Exec.holds_bind, Exec.holds_modify, Exec.then_ok, Exec.holds_bind, holds_callOut]
  refine ⟨fun _ => ?_, fun _ _ => by rintro ⟨⟩⟩
  rw [Exec.then_ok, holds_callOut]
  exact ⟨fun _ _ => rfl, fun _ _ => by rintro ⟨⟩⟩

end Traffic

/-- What the core leaves out of the wiring. -/
def World.lines (world : World) : (Nat → Nat) × (DeviceId → Option Nat) :=
  (world.topology.setVlan, fun device => (world.device device).vlan)

/-- The wiring as part of the core and the lines. -/
def World.Core.wiring (core : World.Core) (lines : (Nat → Nat) × (DeviceId → Option Nat)) :
    Wiring where
  devices := core.table.values
  mac := fun device => (core.device device).mac
  gateway := fun device => (core.device device).gateway
  vlan := lines.2
  portSet := fun gateway => (core.gateway gateway).portSet
  targets := fun gateway => (core.gateway gateway).targets
  gatewaySets := core.gatewaySets
  nextGateway := core.nextGateway
  nativeGateway := core.nativeGateway
  setDevices := core.setDevices
  setVlan := lines.1

theorem wiring_eq (world : World) : world.wiring = world.core.wiring world.lines := rfl

def sameLines : Frame World := .unchanged World.lines

theorem callOut_sameLines (op : Op) : (callOut env op).Within sameLines := by
  intro world
  rw [callOut_run_snd]
  rfl

theorem createGateway_sameLines (device : DeviceId) :
    (createGateway env device).Within sameLines := by
  unfold createGateway
  refine Exec.within_bind Exec.within_get fun world => ?_
  split
  · exact Exec.within_pure _
  · refine Exec.within_bind (Exec.within_require _) fun _ => ?_
    split
    · exact Exec.within_pure _
    · have found : (findGatewaySet env device).Within sameLines := by
        unfold findGatewaySet
        refine Exec.within_bind Exec.within_get fun world => ?_
        split
        · exact Exec.within_raise _
        · exact Exec.within_bind (Exec.within_modify fun _ => rfl) fun _ => Exec.within_pure _
      refine Exec.within_bind found fun _ => Exec.within_bind (Exec.within_read _) fun gateway => ?_
      refine Exec.within_bind (Exec.within_modify fun _ => rfl) fun _ => ?_
      refine Exec.within_bind (Exec.within_attempt ?_ fun _ => ?_) fun _ => Exec.within_pure _
      · exact Exec.within_bind (callOut_sameLines _) fun _ => Exec.within_modify fun _ => rfl
      · exact Exec.within_bind (Exec.within_modify fun _ => rfl) fun _ => Exec.within_raise _

theorem targetSetGateway_sameLines (device : DeviceId) (externalDhcp : Bool) :
    (targetSetGateway env device externalDhcp).Within sameLines := by
  have grouped : ∀ world : World, (world.setDevice device fun entry =>
      { entry with group := some (deviceGroupFor env entry) }).lines = world.lines :=
    fun world => Prod.ext rfl (funext (setDevice_view Device.vlan rfl))
  unfold targetSetGateway
  refine Exec.within_attempt ?_ fun _ => ?_
  · refine Exec.within_bind (Exec.within_modify grouped) fun _ => ?_
    refine Exec.within_bind (createGateway_sameLines device) fun _ => ?_
    refine Exec.within_bind (Exec.within_read _) fun _ => ?_
    exact Exec.within_ite (Exec.within_pure _) (Exec.within_pure _)
  · refine Exec.within_bind (Exec.within_when (Exec.within_modify fun _ => rfl)) fun _ => ?_
    exact Exec.within_pure _

section Activation

variable {world reached : World} {device : DeviceId} {gateway : GatewayId}

theorem wiring_of_core (core : reached.core = world.core) (lines : reached.lines = world.lines) :
    reached.wiring = world.wiring := by
  rw [wiring_eq, core, lines]
  rfl

/-- A new gateway in the core is a new gateway in the wiring. -/
theorem wiring_provided {number : SetNumber}
    (core : reached.core = { world.core with
      nextGateway := world.nextGateway + 1
      gatewaySets := world.gatewaySets.erase number
      gateway := Function.update world.core.gateway world.nextGateway
        { portSet := number, targets := .empty, resultLinger := false } })
    (lines : reached.lines = world.lines) : reached.wiring = world.wiring.provided number := by
  have view : ∀ {β : Type} (view : Gateway.Core → β) (entry : Gateway.Core),
      (fun gateway => view (Function.update world.core.gateway world.nextGateway entry gateway)) =
        Function.update (fun gateway => view (world.core.gateway gateway)) world.nextGateway
          (view entry) :=
    fun view entry => funext fun gateway =>
      Function.apply_update (fun _ => view) world.core.gateway world.nextGateway entry gateway
  rw [wiring_eq, core, lines]
  unfold World.Core.wiring
  simp only [view]
  rfl

/-- Finding a gateway for a device leaves one it may join. -/
theorem Provided.sound (sound : world.wiring.Sound) (provided : Provided device gateway world reached)
    (lines : reached.lines = world.lines) :
    reached.wiring.Sound ∧ reached.wiring.Joinable gateway := by
  rcases provided with shared | fresh
  · rw [wiring_of_core shared.core lines]
    obtain native | ⟨mac, member, stored, attached⟩ := shared.member
    · cases native.symm.trans sound.native
    have listed : member ∈ registeredDevices world := Dict.mem_values_iff.mpr ⟨mac, stored⟩
    exact ⟨sound, sound.joinable ⟨listed, attached⟩⟩
  · obtain ⟨number, free, core⟩ := fresh.number
    rw [wiring_provided core lines, fresh.next]
    exact sound.provided free

theorem joined_wiring : (world.joined gateway device).wiring = world.wiring.joined gateway device := by
  have attached : (fun other => ((world.joined gateway device).device other).gateway) =
      Function.update (fun other => (world.device other).gateway) device (some gateway) :=
    funext fun other => by
      by_cases same : other = device
      · rw [same, joined_entry, Function.update_self]
      · rw [joined_other same, Function.update_of_ne same]
  have mac : (fun other => ((world.joined gateway device).device other).mac) =
      fun other => (world.device other).mac :=
    funext (setDevice_view Device.mac rfl)
  have vlan : (fun other => ((world.joined gateway device).device other).vlan) =
      fun other => (world.device other).vlan :=
    funext (setDevice_view Device.vlan rfl)
  have portSet : (fun other => ((world.joined gateway device).gateways other).portSet) =
      fun other => (world.gateways other).portSet :=
    funext (@setGateway_view _ world Gateway.portSet gateway (fun entry =>
      { entry with targets := entry.targets.insert (world.device device).mac device }) rfl)
  have targets : (fun other => ((world.joined gateway device).gateways other).targets) =
      Function.update (fun other => (world.gateways other).targets) gateway
        ((world.gateways gateway).targets.insert (world.device device).mac device) :=
    funext fun other => Function.apply_update (fun _ => Gateway.targets) world.gateways gateway _ other
  unfold World.wiring
  rw [attached, mac, vlan, portSet, targets]
  rfl

theorem hosted_wiring : (world.hosted env device).wiring = world.wiring := by
  have attached : (fun other => ((world.hosted env device).device other).gateway) =
      fun other => (world.device other).gateway :=
    funext (setDevice_view Device.gateway rfl)
  have mac : (fun other => ((world.hosted env device).device other).mac) =
      fun other => (world.device other).mac :=
    funext (setDevice_view Device.mac rfl)
  have vlan : (fun other => ((world.hosted env device).device other).vlan) =
      fun other => (world.device other).vlan :=
    funext (setDevice_view Device.vlan rfl)
  unfold World.wiring
  rw [attached, mac, vlan]
  rfl

theorem hosted_portNo : ((world.hosted env device).portInfo device).portNo =
    (world.portInfo device).portNo := by
  unfold World.portInfo
  rw [hosted_entry]
  rfl

theorem joined_portNo : ((world.joined gateway device).portInfo device).portNo =
    (world.portInfo device).portNo := by
  unfold World.portInfo
  rw [joined_entry]
  rfl

/-- A started host has traffic directed to its device. -/
theorem startHost_tunes (host : HostId) (attached : (world.device device).gateway = some gateway)
    (untethered : (world.portInfo device).portNo = none) :
    (startHost env device gateway host).Holds world
      (fun outcome after => outcome = .ok () → Truthy (world.device device).vlan ∧ ∃ vlan,
        after.wiring = world.wiring.tuned device (world.gateways gateway).portSet.val vlan) := by
  unfold startHost
  rw [Exec.holds_bind, Exec.holds_modify, Exec.then_ok]
  refine ((initializeHost_hostLocal host).holds _).bind (fun _ _ _ => nofun) fun _ reached kept => ?_
  have bare : reached.bare = world.bare := kept.outside
  have wiring : reached.wiring = world.wiring := (congrArg World.wiring bare :)
  have gateways : reached.gateways = world.gateways := kept.gateways
  have entry : reached.device device = world.device device :=
    (congrArg (fun world => world.device device) bare :)
  have port : (reached.portInfo device).portNo = none := by
    refine Eq.trans ?_ untethered
    exact (congrArg (fun world => (world.portInfo device).portNo) bare :)
  rw [Exec.holds_bind, Exec.holds_get, Exec.then_ok]
  simp only [port]
  refine (directDeviceTraffic_tunes (entry ▸ attached)).mono fun outcome after tuned returned => ?_
  rw [← entry, ← wiring, ← gateways]
  exact tuned returned

theorem startHost_sound {state : World} (host : HostId) (sound : world.wiring.Sound)
    (ready : world.wiring.Joinable gateway) (registered : device ∈ registeredDevices world)
    (free : (world.device device).gateway = none)
    (absent : (world.gateways gateway).targets.get? (world.device device).mac = none)
    (joined : state.wiring = world.wiring.joined gateway device)
    (untethered : (state.portInfo device).portNo = none) :
    (startHost env device gateway host).Holds state
      (fun outcome after => outcome = .ok () → after.wiring.Sound) := by
  have attached : (state.device device).gateway = some gateway := by
    refine (congrFun (congrArg Wiring.gateway joined) device).trans ?_
    exact Function.update_self _ _ _
  have vlan : (state.device device).vlan = (world.device device).vlan :=
    congrFun (congrArg Wiring.vlan joined) device
  have portSet : (state.gateways gateway).portSet = (world.gateways gateway).portSet :=
    congrFun (congrArg Wiring.portSet joined) gateway
  refine (startHost_tunes host attached untethered).mono fun outcome after tuned returned => ?_
  obtain ⟨tag, chosen, wiring⟩ := tuned returned
  rw [wiring, joined, portSet]
  rw [vlan] at tag
  exact sound.joined ready chosen registered free absent tag

theorem bringUp_sound {drain : Run Unit} (sound : world.wiring.Sound)
    (ready : world.wiring.Joinable gateway) (registered : device ∈ registeredDevices world)
    (free : (world.device device).gateway = none)
    (absent : (world.gateways gateway).targets.get? (world.device device).mac = none)
    (untethered : (world.portInfo device).portNo = none) :
    (bringUp env drain device gateway).Holds (world.joined gateway device)
      (fun outcome after => outcome = .ok true → after.wiring.Sound) := by
  have tried : (targetSetHost env device gateway).Holds (world.joined gateway device)
      (fun outcome after => outcome = .ok () → after.wiring.Sound) := by
    refine targetSetHost_holds (fun _ _ => nofun) fun _ => ?_
    refine startHost_sound _ sound ready registered free absent
      (hosted_wiring.trans joined_wiring) ?_
    rw [hosted_portNo]
    exact joined_portNo.trans untethered
  unfold bringUp
  rw [Exec.holds_attempt]
  refine tried.bind (fun raised reached _ => ?_) fun _ reached kept _ => kept rfl
  rw [Exec.rescued_error, Exec.holds_bind]
  cases ended : (targetSetError env drain device raised).run reached with
  | mk outcome after =>
      rw [Exec.holds_of_run ended]
      cases outcome with
      | ok _ => exact nofun
      | error _ => exact nofun

/-- The device itself is as before when a gateway is found for it. -/
theorem Provided.entry (provided : Provided device gateway world reached) :
    registeredDevices reached = registeredDevices world ∧
      (reached.device device).gateway = (world.device device).gateway ∧
      (reached.portInfo device).portNo = (world.portInfo device).portNo := by
  have parts : ∀ {core : World.Core}, reached.core = core → core.table = world.core.table →
      core.device = world.core.device → core.portNo = world.core.portNo →
      registeredDevices reached = registeredDevices world ∧
        (reached.device device).gateway = (world.device device).gateway ∧
        (reached.portInfo device).portNo = (world.portInfo device).portNo := by
    intro core same table devices portNo
    have entry : reached.core.device device = world.core.device device := by rw [same, devices]
    refine ⟨?_, congrArg Device.Core.gateway entry, ?_⟩
    · exact congrArg Dict.values ((congrArg World.Core.table same).trans table)
    · calc
        (reached.portInfo device).portNo = reached.core.portNo (reached.core.device device).port := rfl
        _ = world.core.portNo (world.core.device device).port := by rw [entry, same, portNo]
  rcases provided with shared | fresh
  · exact parts shared.core rfl rfl rfl
  · obtain ⟨_, _, core⟩ := fresh.number
    exact parts core rfl rfl rfl

theorem targetSetActivate_sound {drain : Run Unit} (sound : world.wiring.Sound)
    (registered : device ∈ registeredDevices world)
    (free : (world.device device).gateway = none)
    (untethered : (world.portInfo device).portNo = none) :
    (targetSetActivate env drain device).Holds world
      (fun outcome after => outcome = .ok true → after.wiring.Sound) := by
  have join : ∀ (gateway : GatewayId) (state : World), state.wiring.Sound →
      state.wiring.Joinable gateway → device ∈ registeredDevices state →
      (state.device device).gateway = none → (state.portInfo device).portNo = none →
      (do
        attachTarget gateway device
        Exec.modify fun world => world.setDevice device fun entry =>
          { entry with gateway := some gateway }
        bringUp env drain device gateway : Run Bool).Holds state
          (fun outcome after => outcome = .ok true → after.wiring.Sound) := by
    intro gateway state sound ready registered free untethered
    by_cases absent : (state.gateways gateway).targets.get? (state.device device).mac = none
    · rw [Exec.holds_bind, Exec.holds_of_run (attachTarget_run absent), Exec.then_ok,
        Exec.holds_bind, Exec.holds_modify, Exec.then_ok]
      exact bringUp_sound sound ready registered free absent untethered
    · rw [Exec.holds_bind, Exec.holds_of_run (attachTarget_run_present absent), Exec.then_error]
      exact nofun
  unfold targetSetActivate
  rw [Exec.holds_bind, Exec.holds_get, Exec.then_ok, Exec.holds_bind, Exec.holds_require]
  refine ⟨fun _ => ?_, fun _ => nofun⟩
  rw [Exec.then_ok]
  refine ((targetSetGateway_holds _).and
    ((targetSetGateway_sameLines device _).holds world)).bind (fun _ _ _ => nofun) ?_
  rintro chosen reached ⟨⟨_, _, ended, _, present⟩, lines⟩
  cases ended
  cases chosen with
  | none => exact nofun
  | some gateway =>
      have provided := present gateway rfl
      obtain ⟨sound, ready⟩ := provided.sound sound lines
      obtain ⟨listed, entry, port⟩ := provided.entry
      have ticked := join gateway reached.ticked sound ready (listed ▸ registered)
        (entry.trans free) (port.trans untethered)
      dsimp only
      rw [Exec.holds_bind, Exec.holds_when]
      refine ⟨fun _ => ?_, fun _ => join gateway reached sound ready (listed ▸ registered)
        (entry.trans free) (port.trans untethered)⟩
      unfold stopDhcpResponse
      rw [Exec.holds_bind, Exec.holds_read, Exec.then_ok]
      cases kind : (reached.gateways gateway).kind with
      | external => exact nofun
      | container =>
          dsimp only
          rw [holds_callOut]
          exact ⟨fun _ => ticked, fun _ _ => nofun⟩

end Activation

section Retrigger

variable {world : World} {device : DeviceId} {drain : Run Unit}

theorem targetSetTrigger_running (running : (world.device device).host ≠ none) (remote : Bool) :
    (targetSetTrigger env drain device remote).Holds world (fun outcome after =>
      outcome = .ok () → after = world ∧ device ∈ registeredDevices world) := by
  unfold targetSetTrigger
  rw [Exec.holds_bind, Exec.holds_get, Exec.then_ok, Exec.holds_bind, Exec.holds_require]
  refine ⟨fun registered => ?_, fun _ => nofun⟩
  rw [Exec.then_ok, Exec.holds_ite]
  refine ⟨fun _ _ => ⟨rfl, Dict.mem_values_iff.mpr ⟨_, registered⟩⟩, fun stopped => ?_⟩
  exact absurd (.inr (.inl (Option.isSome_iff_ne_none.mpr running))) stopped

theorem remoteTrigger_sound (sound : world.wiring.Sound)
    (running : (world.device device).host ≠ none) (deviceVlan assignedVlan : Option Nat) :
    (remoteTrigger env drain device deviceVlan assignedVlan).Holds world
      (fun outcome after => outcome = .ok () → after.wiring.Sound) := by
  unfold remoteTrigger
  rw [Exec.holds_bind, Exec.holds_require]
  refine ⟨fun tags => ?_, fun _ => nofun⟩
  rw [Exec.then_ok, Exec.holds_bind, Exec.holds_read, Exec.then_ok, Exec.holds_bind,
    Exec.holds_modify, Exec.then_ok, Exec.holds_bind, Exec.holds_modify, Exec.then_ok]
  generalize retagged : (((world.setPortInfo (world.device device).port fun entry =>
    { entry with flappingStart := some 0, active := true }).note
      [.sessionStarted (world.device device).port]).setDevice device fun entry =>
        { entry with vlan := deviceVlan, assigned := assignedVlan }) = state
  have entry : state.device device =
      { world.device device with vlan := deviceVlan, assigned := assignedVlan } := by
    rw [← retagged, setDevice_device, if_pos rfl]
    rfl
  have wiring : state.wiring =
      { world.wiring with vlan := Function.update world.wiring.vlan device deviceVlan } := by
    have mac : (fun other => (state.device other).mac) = fun other => (world.device other).mac := by
      rw [← retagged]
      exact funext (setDevice_view Device.mac rfl)
    have gateway : (fun other => (state.device other).gateway) =
        fun other => (world.device other).gateway := by
      rw [← retagged]
      exact funext (setDevice_view Device.gateway rfl)
    have vlan : (fun other => (state.device other).vlan) =
        Function.update (fun other => (world.device other).vlan) device deviceVlan := by
      rw [← retagged]
      exact funext fun other =>
        Function.apply_update (fun _ => Device.vlan) world.devices.heap device _ other
    unfold World.wiring
    rw [mac, gateway, vlan, ← retagged]
    rfl
  have sound : state.wiring.Sound := wiring ▸ sound.revlaned device tags.1
  refine (targetSetTrigger_running (by rw [entry]; exact running) true).bind
    (fun _ _ _ => nofun) fun _ reached ignored => ?_
  obtain ⟨same, registered⟩ := ignored rfl
  subst same
  rw [Exec.holds_bind, Exec.holds_get, Exec.then_ok, Exec.holds_whenSome]
  refine ⟨fun _ _ => sound, fun gateway attached => ?_⟩
  refine (directDeviceTraffic_tunes attached).mono fun outcome after tuned returned => ?_
  obtain ⟨_, vlan, directed⟩ := tuned returned
  rw [directed]
  exact sound.tuned ⟨registered, attached⟩ vlan

end Retrigger

section Detach

variable {world : World} {device : DeviceId} {gateway : GatewayId}

theorem detached_empty (sound : world.wiring.Sound)
    (last : ∀ other, world.wiring.Attached other gateway → other = device) :
    ((world.detached gateway device).gateways gateway).targets.size = 0 := by
  have targets : ((world.detached gateway device).gateways gateway).targets =
      (world.gateways gateway).targets.erase (world.device device).mac := by
    unfold World.detached
    simp only [World.note]
    rw [setGateway_gateways, if_pos rfl]
  rw [Dict.size_eq_zero_iff, targets]
  intro mac
  rw [Dict.get?_erase]
  split
  · rfl
  · rename_i different
    cases present : (world.gateways gateway).targets.get? mac with
    | none => rfl
    | some other =>
        obtain ⟨attached, same⟩ := (sound.targets gateway mac other).mp present
        rw [last other attached] at same
        exact absurd same.symm different

/-- The gateway of the device is shut down, and its number is free. -/
def World.shut (world : World) (gateway : GatewayId) (device : DeviceId) : World :=
  let down := (((world.detached gateway device).setGateway gateway fun entry =>
    { entry with hostUp := false }).note [.terminated gateway]).ticked
  { down with
    gatewaySets := insert (down.gateways gateway).portSet down.gatewaySets
    trail := down.trail ++ [.returned (down.gateways gateway).portSet] }

theorem shut_wiring : (world.shut gateway device).wiring = { world.wiring with
    targets := Function.update world.wiring.targets gateway
      ((world.wiring.targets gateway).erase (world.wiring.mac device))
    gatewaySets := insert (world.wiring.portSet gateway) world.wiring.gatewaySets } := by
  have portSet : ∀ other, ((world.shut gateway device).gateways other).portSet =
      (world.gateways other).portSet := by
    intro other
    refine (@setGateway_view _ (world.detached gateway device) Gateway.portSet gateway
      (fun entry => { entry with hostUp := false }) rfl other).trans ?_
    exact @setGateway_view _ world Gateway.portSet gateway (fun entry =>
      { entry with targets := entry.targets.erase (world.device device).mac }) rfl other
  have targets : (fun other => ((world.shut gateway device).gateways other).targets) =
      Function.update (fun other => (world.gateways other).targets) gateway
        ((world.gateways gateway).targets.erase (world.device device).mac) := by
    funext other
    refine (@setGateway_view _ (world.detached gateway device) Gateway.targets gateway
      (fun entry => { entry with hostUp := false }) rfl other).trans ?_
    exact Function.apply_update (fun _ => Gateway.targets) world.gateways gateway _ other
  have pool : (world.shut gateway device).gatewaySets =
      insert (world.gateways gateway).portSet world.gatewaySets := by
    rw [← portSet gateway]
    rfl
  unfold World.wiring
  rw [funext portSet, targets, pool]
  rfl

theorem ungated_wiring (world : World) (device : DeviceId) :
    (world.setDevice device fun entry => { entry with gateway := none }).wiring =
      { world.wiring with gateway := Function.update world.wiring.gateway device none } := by
  have gateway : (fun other => ((world.setDevice device fun entry =>
      { entry with gateway := none }).device other).gateway) =
      Function.update (fun other => (world.device other).gateway) device none :=
    funext fun other =>
      Function.apply_update (fun _ => Device.gateway) world.devices.heap device _ other
  have mac : (fun other => ((world.setDevice device fun entry =>
      { entry with gateway := none }).device other).mac) = fun other => (world.device other).mac :=
    funext (setDevice_view Device.mac rfl)
  have vlan : (fun other => ((world.setDevice device fun entry =>
      { entry with gateway := none }).device other).vlan) = fun other => (world.device other).vlan :=
    funext (setDevice_view Device.vlan rfl)
  unfold World.wiring
  rw [gateway, mac, vlan]
  rfl

theorem detachGateway_sound (sound : world.wiring.Sound)
    (registered : device ∈ registeredDevices world)
    (last : ∀ gateway, (world.device device).gateway = some gateway →
      ∀ other, world.wiring.Attached other gateway → other = device) :
    (detachGateway env device).Holds world
      (fun outcome after => outcome = .ok () → after.wiring.Sound) := by
  unfold detachGateway
  rw [Exec.holds_bind, Exec.holds_read, Exec.then_ok, Exec.holds_whenSome]
  refine ⟨fun _ _ => sound, fun gateway attached => ?_⟩
  have wired : world.wiring.Attached device gateway := ⟨registered, attached⟩
  have last := last gateway attached
  have present : (world.gateways gateway).targets.get? (world.device device).mac ≠ none := by
    intro absent
    cases absent.symm.trans ((sound.targets gateway _ device).mpr ⟨wired, rfl⟩)
  have empty := detached_empty sound last
  have only : (world.topology.setDevices (world.gateways gateway).portSet.val).getD ∅ =
      {device} := by
    ext other
    rw [Finset.mem_singleton]
    refine (sound.listed _ other).trans ((sound.attachedToSet_iff wired other).trans ?_)
    exact ⟨last other, fun same => same ▸ wired⟩
  have tag : Truthy (world.device device).vlan := sound.tagged device gateway wired
  rw [Exec.holds_bind, Exec.holds_of_run (detachTarget_run present), Exec.then_ok,
    Exec.holds_bind, Exec.holds_when]
  refine ⟨fun _ => ?_, fun remaining => absurd empty remaining⟩
  unfold retireGateway gatewayTerminate
  rw [Exec.holds_bind, Exec.holds_bind, Exec.holds_get, Exec.then_ok, Exec.holds_bind,
    Exec.holds_require]
  refine ⟨fun _ => ?_, fun remaining => absurd empty remaining⟩
  rw [Exec.then_ok, Exec.holds_bind, Exec.holds_modify, Exec.then_ok, holds_callOut]
  refine ⟨fun _ => ?_, fun _ _ => nofun⟩
  rw [Exec.then_ok, Exec.holds_bind, Exec.holds_modify, Exec.then_ok]
  change (Exec.when (Truthy (world.device device).vlan)
    (directDeviceTraffic env device none)).Holds (world.shut gateway device) _
  rw [Exec.holds_when]
  refine ⟨fun _ => ?_, fun untagged => absurd tag untagged⟩
  have portSet : ((world.shut gateway device).gateways gateway).portSet =
      (world.gateways gateway).portSet :=
    congrFun (congrArg Wiring.portSet shut_wiring) gateway
  have dumped := @directDeviceTraffic_dumps env (world.shut gateway device) device gateway attached
    (by rw [portSet]; exact only)
  refine dumped.mono ?_
  intro outcome reached kept
  cases outcome with
  | error _ => exact nofun
  | ok _ =>
      intro _
      have wiring := (ungated_wiring reached device).trans
        (congrArg (fun wiring : Wiring =>
          { wiring with gateway := Function.update wiring.gateway device none }) (kept rfl))
      rw [portSet, shut_wiring] at wiring
      exact wiring ▸ sound.retired wired last

end Detach

/-- What is done with VLAN-triggered devices, and whatever the runner does
between two of these operations.  A remote trigger for a device that does not
run yet is an activation followed by a re-trigger. -/
inductive VlanOperation
  | activate (device : DeviceId)
  | retrigger (device : DeviceId) (deviceVlan assignedVlan : Option Nat)
  | detach (device : DeviceId)
  | elsewhere (world : World)

namespace VlanOperation

def perform (env : Env) : VlanOperation → Run Bool
  | .activate device => targetSetActivate env (handleReceivedEvents env) device
  | .retrigger device deviceVlan assignedVlan => do
      remoteTrigger env (handleReceivedEvents env) device deviceVlan assignedVlan
      pure true
  | .detach device => do
      detachGateway env device
      pure true
  | .elsewhere world => do
      Exec.modify fun _ => world
      pure true

def step (env : Env) (operation : VlanOperation) (world : World) : World :=
  ((operation.perform env).run world).2

/-- The operation is over without an exception; an activation that met with one
returns that it failed. -/
def Completes (env : Env) (world : World) (operation : VlanOperation) : Prop :=
  ((operation.perform env).run world).1 = .ok true

instance (env : Env) (world : World) (operation : VlanOperation) :
    Decidable (operation.Completes env world) := inferInstanceAs (Decidable (_ = _))

/-- Registered devices without a port number are activated when they have no
gateway, and re-triggered when they run. -/
def MadeByRunner (world : World) : VlanOperation → Prop
  | .activate device => device ∈ registeredDevices world ∧
      (world.device device).gateway = none ∧ (world.portInfo device).portNo = none
  | .retrigger device _ _ => (world.device device).host ≠ none
  | .detach device => device ∈ registeredDevices world
  | .elsewhere after => world.wiring.Untouched after.wiring

/-- No device is detached while another one is attached to its gateway. -/
def Alone (world : World) : VlanOperation → Prop
  | .detach device => ∀ gateway, (world.device device).gateway = some gateway →
      ∀ other, world.wiring.Attached other gateway → other = device
  | _ => True

theorem step_sound {world : World} (operation : VlanOperation)
    (completes : operation.Completes env world) (made : operation.MadeByRunner world)
    (alone : operation.Alone world) (sound : world.wiring.Sound) :
    (operation.step env world).wiring.Sound := by
  have concluded : ∀ {body : Run Unit}, body.Holds world
      (fun outcome after => outcome = .ok () → after.wiring.Sound) →
      (body >>= fun _ => pure true : Run Bool).Holds world
        (fun outcome after => outcome = .ok true → after.wiring.Sound) :=
    fun holds => holds.bind (fun _ _ _ => nofun) fun _ _ kept _ => kept rfl
  cases operation with
  | activate device =>
      obtain ⟨registered, free, untethered⟩ := made
      exact targetSetActivate_sound sound registered free untethered completes
  | retrigger device deviceVlan assignedVlan =>
      exact concluded (remoteTrigger_sound sound made deviceVlan assignedVlan) completes
  | detach device => exact concluded (detachGateway_sound sound made alone) completes
  | elsewhere after => exact sound.untouched made

end VlanOperation

theorem initialWorld_sound (vlanTrigger : env.config.vlanTrigger = true) :
    (initialWorld env).wiring.Sound := by
  have unattached : ∀ device gateway, ¬ (initialWorld env).wiring.Attached device gateway :=
    fun device gateway attached => absurd attached.1 List.not_mem_nil
  have unset : ∀ device set, ¬ (initialWorld env).wiring.AttachedToSet device set := by
    rintro device set ⟨gateway, attached, _⟩
    exact unattached device gateway attached
  constructor
  case native => rfl
  case made => exact fun device gateway attached => absurd attached (unattached device gateway)
  case targets =>
    exact fun gateway mac device => iff_of_false nofun fun now => unattached device gateway now.1
  case exclusive =>
    exact fun device _ gateway _ attached => absurd attached (unattached device gateway)
  case taken => exact fun device gateway attached => absurd attached (unattached device gateway)
  case tagged => exact fun device gateway attached => absurd attached (unattached device gateway)
  case listed => exact fun set device => iff_of_false (by simp [World.wiring, initialWorld]) (unset device set)
  case dumped => exact fun set _ => by simp [World.wiring, initialWorld, vlanTrigger]

/-- As long as a gateway only ever loses its last device, the switches follow
the attachments. -/
theorem reached_tidy {world : World} (vlanTrigger : env.config.vlanTrigger = true)
    (reached : Reaches (VlanOperation.step env)
      (fun world operation => operation.Completes env world ∧ operation.MadeByRunner world ∧
        operation.Alone world) (initialWorld env) world) :
    world.wiring.Tidy := by
  have sound := reached.invariant (fun world => world.wiring.Sound)
    (initialWorld_sound vlanTrigger)
    fun _ operation kept made => operation.step_sound made.1 made.2.1 made.2.2 kept
  exact sound.tidy

section Example

/-- Two devices of one group. -/
def trunkConfig : Config where
  secPort := 7
  vlanTrigger := true
  deviceSpecs := some ((Dict.empty.insert "9a:02:57:1e:8f:01" (some "lab")).insert
    "9a:02:57:1e:8f:02" (some "lab"))

/-- Both are learned, each on its VLAN. -/
def trunkWorld : World :=
  let learn (mac : Mac) (vlan : Nat) (world : World) : World :=
    ((createIfAbsent mac none (some vlan)).run world).2
  learn "9a:02:57:1e:8f:02" 122 (learn "9a:02:57:1e:8f:01" 121 (initialWorld (.quiet trunkConfig)))

def trunkStep (operation : VlanOperation) (world : World) : World :=
  operation.step (.quiet trunkConfig) world

theorem trunkWorld_untouched :
    (initialWorld (.quiet trunkConfig)).wiring.Untouched trunkWorld.wiring := by
  have unattached : ∀ device gateway,
      ¬ (initialWorld (.quiet trunkConfig)).wiring.Attached device gateway :=
    fun device gateway attached => absurd attached.1 List.not_mem_nil
  have free : ∀ device ∈ registeredDevices trunkWorld,
      (trunkWorld.device device).gateway = none := by decide +kernel
  have learned : ∀ device gateway, ¬ trunkWorld.wiring.Attached device gateway := by
    rintro device gateway ⟨registered, attached⟩
    cases attached.symm.trans (free device registered)
  constructor
  case attached =>
    exact fun device gateway => iff_of_false (learned device gateway) (unattached device gateway)
  case mac => exact fun device gateway attached => absurd attached (unattached device gateway)
  case vlan => exact fun device gateway attached => absurd attached (unattached device gateway)
  all_goals rfl

/-- One device comes, gets another VLAN, and leaves; then the other one comes. -/
theorem trunk_tidy :
    (trunkStep (.activate 1) (trunkStep (.detach 0) (trunkStep (.retrigger 0 (some 123) (some 3))
      (trunkStep (.activate 0) trunkWorld)))).wiring.Tidy := by
  refine @reached_tidy (.quiet trunkConfig) _ rfl ?_
  refine .step _ (.step _ (.step _ (.step _ (.step (VlanOperation.elsewhere trunkWorld) .start
    ⟨rfl, trunkWorld_untouched, trivial⟩) ⟨by decide +kernel, ?_, trivial⟩)
    ⟨by decide +kernel, ?_, trivial⟩) ⟨by decide +kernel, ?_, ?_⟩) ⟨by decide +kernel, ?_, trivial⟩
  · exact ⟨by decide +kernel, by decide +kernel, by decide +kernel⟩
  · change ((trunkStep (.activate 0) trunkWorld).device 0).host ≠ none
    decide +kernel
  · change (0 : DeviceId) ∈ registeredDevices _
    decide +kernel
  · rintro gateway attached other ⟨registered, theirs⟩
    have free : ∀ other ∈ registeredDevices (trunkStep (.retrigger 0 (some 123) (some 3))
        (trunkStep (.activate 0) trunkWorld)), other ≠ 0 →
        ((trunkStep (.retrigger 0 (some 123) (some 3))
          (trunkStep (.activate 0) trunkWorld)).device other).gateway = none := by decide +kernel
    by_contra different
    cases theirs.symm.trans (free other registered different)
  · exact ⟨by decide +kernel, by decide +kernel, by decide +kernel⟩

/-- The first of two devices leaves, and then the second one: the port set stays
on its VLAN. -/
theorem not_every_trunk_tidy :
    ¬ ∀ (env : Env) (world : World), env.config.vlanTrigger = true →
      Reaches (VlanOperation.step env)
        (fun world operation => operation.Completes env world ∧ operation.MadeByRunner world)
        (initialWorld env) world →
      world.wiring.Tidy := by
  intro always
  have tidy := always (.quiet trunkConfig)
    (trunkStep (.detach 1) (trunkStep (.detach 0) (trunkStep (.activate 1)
      (trunkStep (.activate 0) trunkWorld)))) rfl
    (.step _ (.step _ (.step _ (.step _ (.step (VlanOperation.elsewhere trunkWorld) .start
      ⟨rfl, trunkWorld_untouched⟩)
      ⟨by decide +kernel, by decide +kernel, by decide +kernel, by decide +kernel⟩)
      ⟨by decide +kernel, by decide +kernel, by decide +kernel, by decide +kernel⟩)
      ⟨by decide +kernel, by change (0 : DeviceId) ∈ registeredDevices _; decide +kernel⟩)
      ⟨by decide +kernel, by change (1 : DeviceId) ∈ registeredDevices _; decide +kernel⟩)
  have member : (0 : DeviceId) ∈ ((trunkStep (.detach 1) (trunkStep (.detach 0)
      (trunkStep (.activate 1) (trunkStep (.activate 0) trunkWorld)))).wiring.setDevices
        1).getD ∅ := by decide +kernel
  obtain ⟨gateway, attached, _⟩ := (tidy.listed 1 0).mp member
  have free : (trunkStep (.detach 1) (trunkStep (.detach 0) (trunkStep (.activate 1)
      (trunkStep (.activate 0) trunkWorld)))).wiring.gateway 0 = none := by decide +kernel
  cases attached.2.symm.trans free

end Example

end Daq
