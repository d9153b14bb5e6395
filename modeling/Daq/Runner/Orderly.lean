import Daq.Host.Regular
import Daq.Runner.Registry

namespace Daq

/-! What is true in every state the runner reaches, and what later states keep
of earlier ones, whatever fails on the way. -/

/-- The device has a host, or is neither registered nor queued.  Only another
device is ever given a host, so this is for good. -/
def World.Engaged (world : World) (device : DeviceId) : Prop :=
  (world.device device).host ≠ none ∨
    (¬ world.Registered device ∧ device ∉ world.targetSetQueue)

structure Orderly (env : Env) (world : World) : Prop where
  regular : world.Regular env
  keyed : ∀ mac device, world.devices.table.get? mac = some device →
    device < world.devices.next ∧ (world.device device).mac = mac
  hosted : ∀ device host, (world.device device).host = some host →
    host < world.nextHost ∧ (world.hosts host).device = device
  engaged : ∀ host < world.nextHost, (world.hosts host).device < world.devices.next ∧
    world.Engaged (world.hosts host).device
  /-- No device is ever given a second host. -/
  sole : ∀ first < world.nextHost, ∀ second < world.nextHost,
    (world.hosts first).device = (world.hosts second).device → first = second
  queued : world.targetSetQueue.Nodup
  waiting : ∀ device ∈ world.targetSetQueue,
    device < world.devices.next ∧ (world.device device).host = none

/-- No host was ever made for the device, and it does not wait for one. -/
structure Unserved (world : World) (device : DeviceId) : Prop where
  made : device < world.devices.next
  unqueued : device ∉ world.targetSetQueue
  fresh : ∀ host < world.nextHost, (world.hosts host).device ≠ device

/-- What a state keeps of an earlier one, but for a device that is being
brought up. -/
structure Succeeds (env : Env) (except : Option DeviceId) (before after : World) : Prop where
  orderly : Orderly env after
  next : before.devices.next ≤ after.devices.next
  nextHost : before.nextHost ≤ after.nextHost
  mishaps : before.mishaps <+: after.mishaps
  mac : ∀ device < before.devices.next,
    (after.device device).mac = (before.device device).mac
  unregistered : ∀ device < before.devices.next,
    ¬ before.Registered device → ¬ after.Registered device
  engaged : ∀ device < before.devices.next, some device ≠ except → before.Engaged device →
    after.Engaged device
  host : ∀ device < before.devices.next, some device ≠ except → before.Engaged device →
    (after.device device).host = (before.device device).host ∨ (after.device device).host = none
  gateway : ∀ device < before.devices.next, some device ≠ except → before.Engaged device →
    (after.device device).gateway = (before.device device).gateway ∨
      (after.device device).gateway = none
  device : ∀ host < before.nextHost, (after.hosts host).device = (before.hosts host).device

/-- The part of the state that order is about. -/
structure World.Roll where
  table : Dict Mac DeviceId
  next : DeviceId
  mac : DeviceId → Mac
  host : DeviceId → Option HostId
  gateway : DeviceId → Option GatewayId
  nextHost : HostId
  device : HostId → DeviceId
  queue : List DeviceId
  mishaps : List Mishap

def World.roll (world : World) : World.Roll where
  table := world.devices.table
  next := world.devices.next
  mac := fun device => (world.device device).mac
  host := fun device => (world.device device).host
  gateway := fun device => (world.device device).gateway
  nextHost := world.nextHost
  device := fun host => (world.hosts host).device
  queue := world.targetSetQueue
  mishaps := world.mishaps

/-- The roll without what changes while devices come and go. -/
def World.Roll.steady (roll : World.Roll) : World.Roll :=
  { roll with gateway := fun _ => none, queue := [], mishaps := [] }

def World.Core.roll (core : World.Core) : World.Roll where
  table := core.table
  next := core.next
  mac := fun device => (core.device device).mac
  host := fun device => (core.device device).host
  gateway := fun device => (core.device device).gateway
  nextHost := core.nextHost
  device := fun host => (core.host host).device
  queue := core.targetSetQueue
  mishaps := core.mishaps

theorem roll_of_core {before after : World} (core : after.core = before.core) :
    after.roll = before.roll :=
  (congrArg World.Core.roll core :)

theorem Unserved.of_roll {before after : World} {device : DeviceId}
    (unserved : Unserved before device) (same : after.roll = before.roll) :
    Unserved after device where
  made := unserved.made.trans_le (congrArg World.Roll.next same).ge
  unqueued := by
    have queue : after.targetSetQueue = before.targetSetQueue := congrArg World.Roll.queue same
    exact queue ▸ unserved.unqueued
  fresh := by
    intro host made
    have nextHost : after.nextHost = before.nextHost := congrArg World.Roll.nextHost same
    have own : (after.hosts host).device = (before.hosts host).device :=
      congrFun (congrArg World.Roll.device same) host
    rw [own]
    exact unserved.fresh host (nextHost ▸ made)

variable {env : Env}

namespace Orderly

variable {world : World} {device : DeviceId} {host : HostId}

theorem registered_of_get (orderly : Orderly env world) {mac : Mac}
    (stored : world.devices.table.get? mac = some device) : world.Registered device := by
  unfold World.Registered
  rw [(orderly.keyed mac device stored).2]
  exact stored

theorem registered_of_mem (orderly : Orderly env world)
    (member : device ∈ registeredDevices world) : world.Registered device := by
  obtain ⟨mac, stored⟩ := Dict.mem_values_iff.mp member
  exact orderly.registered_of_get stored

theorem lt_of_registered (orderly : Orderly env world) (registered : world.Registered device) :
    device < world.devices.next :=
  (orderly.keyed _ device registered).1

theorem lt_of_hosted (orderly : Orderly env world) (hosted : (world.device device).host ≠ none) :
    device < world.devices.next := by
  obtain ⟨host, hosted⟩ := Option.ne_none_iff_exists'.mp hosted
  obtain ⟨made, own⟩ := orderly.hosted device host hosted
  exact own ▸ (orderly.engaged host made).1

theorem unqueued_of_engaged (orderly : Orderly env world) (engaged : world.Engaged device) :
    device ∉ world.targetSetQueue := by
  rcases engaged with hosted | ⟨_, unqueued⟩
  · exact fun queued => hosted (orderly.waiting device queued).2
  · exact unqueued

/-- A queued device, or one that is triggered, has no host yet. -/
theorem unserved_of_wanted (orderly : Orderly env world)
    (wanted : device ∈ world.targetSetQueue ∨ (world.Registered device ∧
      (world.device device).host = none ∧ device ∉ world.targetSetQueue)) :
    (device < world.devices.next ∧ (world.device device).host = none ∧ ¬ world.Engaged device) ∧
      Unserved { world with targetSetQueue := world.targetSetQueue.erase device } device := by
  have free : device < world.devices.next ∧ (world.device device).host = none ∧
      ¬ world.Engaged device := by
    rcases wanted with queued | ⟨registered, free, _⟩
    · obtain ⟨made, free⟩ := orderly.waiting device queued
      exact ⟨made, free, fun busy => orderly.unqueued_of_engaged busy queued⟩
    · refine ⟨orderly.lt_of_registered registered, free, ?_⟩
      rintro (hosted | ⟨unregistered, _⟩)
      · exact hosted free
      · exact unregistered registered
  refine ⟨free, free.1, orderly.queued.not_mem_erase, ?_⟩
  intro host made same
  have own : (world.hosts host).device = device := same
  exact free.2.2 (own ▸ (orderly.engaged host made).2)

theorem registered_nodup (orderly : Orderly env world) : (registeredDevices world).Nodup := by
  have keys : (registeredDevices world).map (fun device => (world.device device).mac) =
      world.devices.table.entries.map Prod.fst := by
    unfold registeredDevices Dict.values
    rw [List.map_map]
    refine List.map_congr_left fun entry member => ?_
    exact (orderly.keyed entry.1 entry.2 (Dict.get?_eq_some_iff.mpr member)).2
  exact List.Nodup.of_map _ (keys ▸ world.devices.table.nodup)

theorem triggered_engaged (orderly : Orderly env world) :
    ∀ device ∈ getTriggeredDevices world,
      device < world.devices.next ∧ world.Engaged device := by
  intro device member
  have hosted := (List.mem_filter.mp member).2
  rw [Option.isSome_iff_ne_none] at hosted
  exact ⟨orderly.lt_of_hosted hosted, .inl hosted⟩

end Orderly

namespace Succeeds

variable {before middle after : World} {except : Option DeviceId}

/-- Devices and hosts are the same.  The queue may lose devices and gain a
registered one without a host. -/
theorem of_steady (orderly : Orderly env before) (same : after.roll.steady = before.roll.steady)
    (regular : after.Regular env) (queued : after.targetSetQueue.Nodup)
    (joined : ∀ device ∈ after.targetSetQueue, device ∈ before.targetSetQueue ∨
      (before.Registered device ∧ (before.device device).host = none))
    (mishaps : before.mishaps <+: after.mishaps)
    (gateway : ∀ device, some device ≠ except →
      (after.device device).gateway = (before.device device).gateway ∨
        (after.device device).gateway = none) : Succeeds env except before after := by
  have table : after.devices.table = before.devices.table := congrArg World.Roll.table same
  have next : after.devices.next = before.devices.next := congrArg World.Roll.next same
  have nextHost : after.nextHost = before.nextHost := congrArg World.Roll.nextHost same
  have mac : ∀ device, (after.device device).mac = (before.device device).mac :=
    congrFun (congrArg World.Roll.mac same)
  have hosts : ∀ device, (after.device device).host = (before.device device).host :=
    congrFun (congrArg World.Roll.host same)
  have devices : ∀ host, (after.hosts host).device = (before.hosts host).device :=
    congrFun (congrArg World.Roll.device same)
  have registered : ∀ device, after.Registered device ↔ before.Registered device := by
    intro device
    unfold World.Registered
    rw [table, mac]
  have engaged : ∀ device, before.Engaged device → after.Engaged device := by
    rintro device (hosted | ⟨unregistered, unqueued⟩)
    · exact .inl (hosts device ▸ hosted)
    · refine .inr ⟨mt (registered device).mp unregistered, fun member => ?_⟩
      rcases joined device member with old | ⟨known, _⟩
      · exact unqueued old
      · exact unregistered known
  constructor
  case next => exact next.ge
  case nextHost => exact nextHost.ge
  case mishaps => exact mishaps
  case mac => exact fun device _ => mac device
  case unregistered => exact fun device _ => mt (registered device).mp
  case engaged => exact fun device _ _ => engaged device
  case host => exact fun device _ _ _ => .inl (hosts device)
  case gateway => exact fun device _ other _ => gateway device other
  case device => exact fun host _ => devices host
  case orderly =>
    constructor
    case regular => exact regular
    case keyed =>
      rw [table, next]
      intro mac' device stored
      rw [mac]
      exact orderly.keyed mac' device stored
    case hosted =>
      intro device host
      rw [hosts, devices, nextHost]
      exact orderly.hosted device host
    case engaged =>
      intro host
      rw [devices, next, nextHost]
      exact fun made => (orderly.engaged host made).imp id (engaged _)
    case sole =>
      intro first made second made'
      rw [devices, devices]
      exact orderly.sole first (nextHost ▸ made) second (nextHost ▸ made')
    case queued => exact queued
    case waiting =>
      intro device member
      rw [hosts, next]
      rcases joined device member with old | ⟨known, free⟩
      · exact orderly.waiting device old
      · exact ⟨orderly.lt_of_registered known, free⟩

theorem of_roll (orderly : Orderly env before) (same : after.roll = before.roll)
    (regular : after.Regular env) : Succeeds env except before after := by
  have queue : after.targetSetQueue = before.targetSetQueue := congrArg World.Roll.queue same
  have mishaps : after.mishaps = before.mishaps := congrArg World.Roll.mishaps same
  refine .of_steady orderly (congrArg World.Roll.steady same) regular (queue ▸ orderly.queued)
    (fun device member => .inl (queue ▸ member)) (mishaps ▸ List.prefix_refl _)
    fun device _ => .inl ?_
  exact congrFun (congrArg World.Roll.gateway same) device

theorem trans (first : Succeeds env except before middle)
    (second : Succeeds env except middle after) : Succeeds env except before after where
  orderly := second.orderly
  next := first.next.trans second.next
  nextHost := first.nextHost.trans second.nextHost
  mishaps := first.mishaps.trans second.mishaps
  mac := fun device made =>
    (second.mac device (made.trans_le first.next)).trans (first.mac device made)
  unregistered := fun device made unregistered =>
    second.unregistered device (made.trans_le first.next)
      (first.unregistered device made unregistered)
  engaged := fun device made other engaged =>
    second.engaged device (made.trans_le first.next) other
      (first.engaged device made other engaged)
  host := by
    intro device made other engaged
    have later := made.trans_le first.next
    rcases second.host device later other (first.engaged device made other engaged) with same | gone
    · rw [same]
      exact first.host device made other engaged
    · exact .inr gone
  gateway := by
    intro device made other engaged
    have later := made.trans_le first.next
    rcases second.gateway device later other (first.engaged device made other engaged) with
      same | free
    · rw [same]
      exact first.gateway device made other engaged
    · exact .inr free
  device := fun host made =>
    (second.device host (made.trans_le first.nextHost)).trans (first.device host made)

/-- Nothing was said of a device that was not engaged anyway. -/
theorem of_except {device : DeviceId} (succeeds : Succeeds env (some device) before after)
    (free : ¬ before.Engaged device) : Succeeds env none before after where
  orderly := succeeds.orderly
  next := succeeds.next
  nextHost := succeeds.nextHost
  mishaps := succeeds.mishaps
  mac := succeeds.mac
  unregistered := succeeds.unregistered
  engaged := fun other made _ engaged => succeeds.engaged other made
    (fun same => free (Option.some.inj same ▸ engaged)) engaged
  host := fun other made _ engaged => succeeds.host other made
    (fun same => free (Option.some.inj same ▸ engaged)) engaged
  gateway := fun other made _ engaged => succeeds.gateway other made
    (fun same => free (Option.some.inj same ▸ engaged)) engaged
  device := succeeds.device

theorem weaken (succeeds : Succeeds env none before after) :
    Succeeds env except before after where
  orderly := succeeds.orderly
  next := succeeds.next
  nextHost := succeeds.nextHost
  mishaps := succeeds.mishaps
  mac := succeeds.mac
  unregistered := succeeds.unregistered
  engaged := fun other made _ => succeeds.engaged other made nofun
  host := fun other made _ => succeeds.host other made nofun
  gateway := fun other made _ => succeeds.gateway other made nofun
  device := succeeds.device

end Succeeds

/-- Succession but for one device. -/
def succeedsBut (env : Env) (except : Option DeviceId) : Frame World where
  rel before after := Orderly env before → Succeeds env except before after
  refl := fun _ orderly => .of_roll orderly rfl orderly.regular
  trans := fun first second orderly =>
    (first orderly).trans (second (first orderly).orderly)

def succeeds (env : Env) : Frame World := succeedsBut env none

/-! Creating a device. -/

section Create

variable {world : World} {mac : Mac} {port : Option PortId} {vlan : Option Nat}

/-- The number of a given port. -/
def World.givenPort (world : World) (port : Option PortId) : Option Nat :=
  port.bind fun info => (world.portInfos info).portNo

/-- The state in which a new device is entered: its port is noted, and there is
a port info for it. -/
def World.prepared (world : World) (mac : Mac) (port : Option PortId) : World :=
  let noted := notePort mac (world.givenPort port) world
  if port = none then
    { noted with
      nextPort := noted.nextPort + 1
      portInfos := Function.update noted.portInfos noted.nextPort {} }
  else noted

theorem createIfAbsent_run_present {device : DeviceId}
    (present : world.devices.table.get? mac = some device) :
    (createIfAbsent mac port vlan).run world = (.ok device, world) := by
  have noted : notePort mac (world.givenPort port) world = world := by simp [notePort, present]
  unfold createIfAbsent
  rw [Exec.get_bind_run, Exec.modify_bind_run]
  unfold World.givenPort at noted
  simp [noted, present, Exec.when, Exec.zoom, Devices.createIfAbsent, Bind.bind, Exec.read, Pure.pure]

theorem notePort_devices (portNo : Option Nat) :
    (notePort mac portNo world).devices = world.devices := by
  unfold notePort
  split <;> rfl

theorem prepared_devices : (world.prepared mac port).devices = world.devices := by
  unfold World.prepared
  split <;> exact notePort_devices _

theorem createIfAbsent_run_absent (absent : world.devices.table.get? mac = none) :
    (createIfAbsent mac port vlan).run world =
      (((Devices.newDevice mac (port.getD world.nextPort) (world.givenPort port) vlan).run
          world.devices).1,
        { world.prepared mac port with devices :=
            ((Devices.newDevice mac (port.getD world.nextPort) (world.givenPort port) vlan).run
              world.devices).2 }) := by
  have created : (Devices.createIfAbsent mac (port.getD world.nextPort) (world.givenPort port)
      vlan).run world.devices =
      (Devices.newDevice mac (port.getD world.nextPort) (world.givenPort port) vlan).run
        world.devices := by
    unfold Devices.createIfAbsent
    rw [Exec.read_bind_run, absent]
  unfold createIfAbsent
  rw [Exec.get_bind_run, Exec.modify_bind_run]
  have prepared : (Exec.when (port = none ∧ world.devices.table.get? mac = none)
      (Exec.modify fun world => { world with
        nextPort := world.nextPort + 1
        portInfos := Function.update world.portInfos world.nextPort {} }) : Run Unit).run
      (notePort mac (world.givenPort port) world) = (.ok (), world.prepared mac port) := by
    unfold World.prepared Exec.when
    cases port with
    | none => simp [absent]
    | some info => simp
  refine (Exec.bind_run_ok prepared).trans ?_
  simp only [Exec.zoom, prepared_devices]
  exact congrArg (fun run : Except Exc DeviceId × Devices =>
    (run.1, { world.prepared mac port with devices := run.2 })) created

/-- A new device is entered under its MAC.  If the number of its port is in use
as a set id, it stays without one and this is noted. -/
structure Entered (mac : Mac) (port : Option PortId) (vlan : Option Nat)
    (before after : World) : Prop where
  absent : before.devices.table.get? mac = none
  rest : { after with
    devices := before.devices
    portInfos := before.portInfos
    nextPort := before.nextPort
    mishaps := before.mishaps } = before
  next : after.devices.next = before.devices.next + 1
  table : after.devices.table = before.devices.table.insert mac before.devices.next
  others : ∀ other, other ≠ before.devices.next → after.device other = before.device other
  entry : ∃ setId, after.device before.devices.next =
    { mac := mac, port := port.getD before.nextPort, vlan := vlan, setId := setId } ∧
      (setId = none ∧ after.devices.setIds = before.devices.setIds ∧
        after.mishaps = before.mishaps ++ [.portTaken mac] ∨
      setId = some (before.devices.chooseSetId (before.givenPort port)) ∧
        before.devices.chooseSetId (before.givenPort port) ∉ before.devices.setIds ∧
        after.devices.setIds =
          insert (before.devices.chooseSetId (before.givenPort port)) before.devices.setIds ∧
        after.mishaps = before.mishaps)
  ports : port = none ∧ after.nextPort = before.nextPort + 1 ∧
      after.portInfos = Function.update before.portInfos before.nextPort {} ∨
    port ≠ none ∧ after.nextPort = before.nextPort ∧ after.portInfos = before.portInfos

theorem prepared_rest :
    { world.prepared mac port with
      devices := world.devices
      portInfos := world.portInfos
      nextPort := world.nextPort
      mishaps := world.mishaps } = world := by
  unfold World.prepared notePort
  split <;> split <;> rfl

theorem prepared_ports :
    port = none ∧ (world.prepared mac port).nextPort = world.nextPort + 1 ∧
        (world.prepared mac port).portInfos =
          Function.update world.portInfos world.nextPort {} ∨
      port ≠ none ∧ (world.prepared mac port).nextPort = world.nextPort ∧
        (world.prepared mac port).portInfos = world.portInfos := by
  have noted : (notePort mac (world.givenPort port) world).nextPort = world.nextPort ∧
      (notePort mac (world.givenPort port) world).portInfos = world.portInfos := by
    unfold notePort
    split <;> exact ⟨rfl, rfl⟩
  unfold World.prepared
  by_cases given : port = none
  · simp [given] at noted ⊢
    simp [noted]
  · simp [given, noted]

theorem prepared_mishaps (absent : world.devices.table.get? mac = none) :
    (world.prepared mac port).mishaps =
      if world.devices.chooseSetId (world.givenPort port) ∈ world.devices.setIds then
        world.mishaps ++ [.portTaken mac]
      else world.mishaps := by
  have noted : (world.prepared mac port).mishaps =
      (notePort mac (world.givenPort port) world).mishaps := by
    unfold World.prepared
    split <;> rfl
  rw [noted]
  unfold notePort
  by_cases taken : world.devices.chooseSetId (world.givenPort port) ∈ world.devices.setIds
  · obtain ⟨truthy, used⟩ := Devices.chooseSetId_taken taken
    simp [absent, truthy, used, taken]
  · rw [if_neg taken, if_neg]
    rintro ⟨_, truthy, used⟩
    exact taken (by simpa [Devices.chooseSetId, truthy] using used)

/-- Creating a device returns the one that is there, enters a new one, or
raises with a new one entered. -/
theorem createIfAbsent_holds (mac : Mac) (port : Option PortId) (vlan : Option Nat)
    (world : World) :
    (createIfAbsent mac port vlan).Holds world (fun outcome after =>
      (after = world ∧ ∃ device, outcome = .ok device ∧
        world.devices.table.get? mac = some device) ∨
      (Entered mac port vlan world after ∧
        ∀ device, outcome = .ok device → device = world.devices.next)) := by
  cases stored : world.devices.table.get? mac with
  | some present =>
      rw [Exec.holds_of_run (createIfAbsent_run_present stored)]
      exact .inl ⟨rfl, present, rfl, rfl⟩
  | none =>
      rw [Exec.holds_of_run (createIfAbsent_run_absent stored)]
      have mishaps := @prepared_mishaps world mac port stored
      by_cases taken : world.devices.chooseSetId (world.givenPort port) ∈ world.devices.setIds
      · rw [Devices.newDevice_taken _ _ stored taken]
        rw [if_pos taken] at mishaps
        refine .inr ⟨⟨stored, ?_, rfl, rfl, ?_, ⟨none, ?_, .inl ⟨rfl, rfl, mishaps⟩⟩,
          prepared_ports⟩, nofun⟩
        · exact prepared_rest
        · exact fun other different => Function.update_of_ne different _ _
        · exact Function.update_self _ _ _
      · rw [Devices.newDevice_fresh _ _ stored taken]
        rw [if_neg taken] at mishaps
        refine .inr ⟨⟨stored, ?_, rfl, rfl, ?_, ⟨_, ?_, .inr ⟨rfl, taken, rfl, mishaps⟩⟩,
          prepared_ports⟩, ?_⟩
        · exact prepared_rest
        · exact fun other different => Function.update_of_ne different _ _
        · exact Function.update_self _ _ _
        · intro device returned
          cases returned
          rfl

theorem createIfAbsent_registered (orderly : Orderly env world) :
    (createIfAbsent mac port vlan).Holds world (fun outcome reached =>
      ∀ device, outcome = .ok device → reached.Registered device) := by
  refine (createIfAbsent_holds mac port vlan world).mono ?_
  rintro outcome reached (⟨rfl, present, rfl, stored⟩ | ⟨entered, made⟩) device returned
  · cases returned
    exact orderly.registered_of_get stored
  · obtain ⟨setId, entry, _⟩ := entered.entry
    unfold World.Registered
    rw [made device returned, entry, entered.table]
    exact Dict.get?_insert_self _ _ _

end Create

end Daq
