import Daq.Runner.GroupActivation

namespace Daq

variable {env : Env}

/-! No activation of a group is lost.  What the members of a group have had so
far decides, whatever the order, whether the group has been triggered; the state
is characterised by this history alone. -/

/-- The latest address each member was notified of, and whether its host was
called to be ready. -/
structure Heard where
  address : DeviceId → Option String
  called : DeviceId → Bool

namespace Heard

/-- The member has had both. -/
def Both (heard : Heard) (device : DeviceId) : Prop :=
  heard.address device ≠ none ∧ heard.called device = true

def notified (heard : Heard) (device : DeviceId) (ip : String) : Heard :=
  { heard with address := Function.update heard.address device (some ip) }

def calledBy (heard : Heard) (device : DeviceId) : Heard :=
  { heard with called := Function.update heard.called device true }

end Heard

/-- How often a host went to the base stage. -/
def Host.launches (entry : Host) : Nat := entry.life.count (.moved .base)

/-- What becomes of a member on its way. -/
structure Standing where
  ipAddr : Option String
  dhcpReady : Bool
  dhcpMode : Option DhcpMode
  state : HostState
  targetIp : Option String
  launches : Nat

def standing (entry : Device) (own : Host) : Standing where
  ipAddr := entry.ipInfo.ipAddr
  dhcpReady := entry.dhcpReady
  dhcpMode := entry.dhcpMode
  state := own.state
  targetIp := own.targetIp
  launches := own.launches

/-- What a member keeps on its way. -/
structure Seat where
  host : Option HostId
  gateway : Option GatewayId
  group : Option String
  device : DeviceId
  ownGateway : GatewayId
  targetMac : Mac
  testHost : Option String
  dhcpListeners : Nat
  loadedConfig : ModuleConfig
  startupTime : Option Nat
  unreported : Bool

def seat (entry : Device) (own : Host) : Seat where
  host := entry.host
  gateway := entry.gateway
  group := entry.group
  device := own.device
  ownGateway := own.gateway
  targetMac := own.targetMac
  testHost := own.testHost
  dhcpListeners := own.dhcpListeners
  loadedConfig := own.loadedConfig
  startupTime := own.startupTime
  unreported := own.report.isNone

theorem seat_unrecorded (entry : Device) (own : Host) :
    seat entry own.unrecorded = seat entry own := by
  simp [seat, Host.unrecorded]

/-- Nothing but the affairs of one device and its host changed. -/
structure Affairs (device : DeviceId) (host : HostId) (before after : World) : Prop where
  devices : ∀ other, other ≠ device → after.device other = before.device other
  hosts : ∀ other, other ≠ host → after.hosts other = before.hosts other
  gateways : after.gateways = before.gateways
  table : after.devices.table = before.devices.table
  runTests : after.runTests = before.runTests
  seat : seat (after.device device) (after.hosts host) = seat (before.device device)
    (before.hosts host)

namespace Affairs

variable {device : DeviceId} {host : HostId} {before middle after : World}

theorem trans (first : Affairs device host before middle)
    (second : Affairs device host middle after) : Affairs device host before after :=
  ⟨fun other different => (second.devices other different).trans (first.devices other different),
    fun other different => (second.hosts other different).trans (first.hosts other different),
    second.gateways.trans first.gateways, second.table.trans first.table,
    second.runTests.trans first.runTests, second.seat.trans first.seat⟩

theorem ticked : Affairs device host before before.ticked :=
  ⟨fun _ _ => rfl, fun _ _ => rfl, rfl, rfl, rfl, rfl⟩

theorem setDevice {update : Device → Device}
    (same : Daq.seat (update (before.device device)) (before.hosts host) =
      Daq.seat (before.device device) (before.hosts host)) :
    Affairs device host before (before.setDevice device update) where
  devices := by
    intro other different
    rw [setDevice_device, if_neg different]
  hosts := fun _ _ => rfl
  gateways := rfl
  table := rfl
  runTests := rfl
  seat := by
    rw [setDevice_device, if_pos rfl]
    exact same

theorem setHost {update : Host → Host}
    (same : Daq.seat (before.device device) (update (before.hosts host)) =
      Daq.seat (before.device device) (before.hosts host)) :
    Affairs device host before (before.setHost host update) where
  devices := fun _ _ => rfl
  hosts := by
    intro other different
    rw [setHost_hosts, if_neg different]
  gateways := rfl
  table := rfl
  runTests := rfl
  seat := by
    rw [setHost_hosts, if_pos rfl]
    exact same

/-- Recording results is the host's affair, and changes nothing of its
standing. -/
theorem of_record (kept : KeepsHost host Host.unrecorded before after) :
    Affairs device host before after ∧
      standing (after.device device) (after.hosts host) =
        standing (before.device device) (before.hosts host) := by
  have entries : ∀ other, after.device other = before.device other := by
    intro other
    rw [World.device, World.device, kept.devices]
  refine ⟨⟨fun other _ => entries other, kept.others, kept.gateways,
    congrArg Devices.table kept.devices, (congrArg World.runTests kept.outside :), ?_⟩, ?_⟩
  · rw [entries]
    exact kept.field (Daq.seat (before.device device)) (seat_unrecorded _) host
  · rw [entries]
    exact kept.field (standing (before.device device)) (fun _ => rfl) host

end Affairs

/-- What a computation does to a member and its standing. -/
def Moves (device : DeviceId) (host : HostId) (change : Standing → Standing) (world : World)
    (outcome : Except Exc Unit) (reached : World) : Prop :=
  outcome = .ok () ∧ Affairs device host world reached ∧
    standing (reached.device device) (reached.hosts host) =
      change (standing (world.device device) (world.hosts host))

section Moves

variable {world : World} {device : DeviceId} {host : HostId}

theorem holds_bind_moves {first next : Run Unit} {change later : Standing → Standing}
    (head : first.Holds world (Moves device host change world))
    (tail : ∀ reached, Affairs device host world reached →
      standing (reached.device device) (reached.hosts host) =
        change (standing (world.device device) (world.hosts host)) →
      next.Holds reached (Moves device host later reached)) :
    (first >>= fun _ => next).Holds world (Moves device host (later ∘ change) world) := by
  refine head.bind (fun _ _ raised => by cases raised.1) ?_
  rintro _ middle ⟨_, affairs, changed⟩
  refine (tail middle affairs changed).mono ?_
  rintro outcome reached ⟨returned, more, last⟩
  refine ⟨returned, affairs.trans more, ?_⟩
  rw [last, changed]
  rfl

theorem recordResult_moves (device : DeviceId) (name : Option String) (record : Record)
    (reliable : ∀ state op, env.fault state op = none)
    (reported : (world.hosts host).report ≠ none) :
    (recordResult env host name record).Holds world (Moves device host id world) := by
  refine (recordResult_returns name record (fun _ => reliable _ _) reported).mono ?_
  rintro outcome reached ⟨returned, kept⟩
  obtain ⟨affairs, same⟩ := @Affairs.of_record device host world reached kept
  exact ⟨returned, affairs, same⟩

theorem startWaiting_moves (reliable : ∀ state op, env.fault state op = none)
    (starting : (world.hosts host).state = .init) (reported : (world.hosts host).report ≠ none) :
    (startWaiting env host).Holds world
      (Moves device host (fun standing => { standing with state := .waiting }) world) := by
  have moved : (stateTransition host .waiting (some .init)).Holds world
      (Moves device host (fun standing => { standing with state := .waiting }) world) := by
    unfold stateTransition
    rw [Exec.holds_bind, Exec.holds_read, Exec.then_ok, Exec.holds_bind, Exec.holds_require,
      starting]
    refine ⟨fun _ => ?_, fun unexpected => absurd (.inr rfl) unexpected⟩
    rw [Exec.then_ok, Exec.holds_bind, Exec.holds_require]
    refine ⟨fun _ => ?_, fun terminated => absurd (by decide) terminated⟩
    rw [Exec.then_ok, Exec.holds_modify]
    refine ⟨rfl, .setHost rfl, ?_⟩
    rw [setHost_hosts, if_pos rfl]
    simp [standing, Host.launches, World.setHost, World.device]
  have reports : ∀ {state : World}, Affairs device host world state →
      (state.hosts host).report ≠ none := by
    intro state affairs absent
    have same : (state.hosts host).report.isNone = (world.hosts host).report.isNone :=
      congrArg Seat.unreported affairs.seat
    rw [absent, Option.isNone_none] at same
    exact reported (Option.isNone_iff_eq_none.mp same.symm)
  have recorded : ∀ first, Affairs device host world first → (do
      recordResult env host (some "sanity") {}
      recordResult env host (some "acquire") {} : Run Unit).Holds first
        (Moves device host (id ∘ id) first) := by
    intro first affairs
    refine holds_bind_moves (recordResult_moves device _ _ reliable (reports affairs)) ?_
    intro second more _
    exact recordResult_moves device _ _ reliable (reports (affairs.trans more))
  unfold startWaiting
  have moves := holds_bind_moves moved fun first affairs _ => recorded first affairs
  exact moves

theorem hostIpNotify_moves (drain : Run Unit) (ip : String)
    (reliable : ∀ state op, env.fault state op = none)
    (idle : (world.hosts host).testHost = none) :
    (hostIpNotify env drain host ip).Holds world
      (Moves device host (fun standing => { standing with
        targetIp := if NonEmpty standing.targetIp then some ip else standing.targetIp }) world) := by
  unfold hostIpNotify
  rw [Exec.holds_bind, holds_callOut_of_returns (reliable _ _), Exec.then_ok, Exec.holds_bind,
    Exec.holds_modify, Exec.then_ok, Exec.holds_of_run (callModule_idle drain _ ?_)]
  · refine ⟨rfl, Affairs.ticked.trans (.setHost rfl), ?_⟩
    rw [setHost_hosts, if_pos rfl]
    rfl
  · rw [setHost_hosts, if_pos rfl]
    exact idle

end Moves

/-- A member of a group of this size, at its gateway, with a host that was
started for it. -/
structure Enrolled (env : Env) (gateway : GatewayId) (size : Nat) (device : DeviceId)
    (host : HostId) (table : Dict Mac DeviceId) (seat : Seat) : Prop where
  hosted : seat.host = some host
  attached : seat.gateway = some gateway
  sized : deviceGroupSize env seat.group = size
  back : seat.device = device
  placed : seat.ownGateway = gateway
  known : table.get? seat.targetMac = some device
  named : seat.targetMac ≠ ""
  /-- Notifications about the external gateway are ignored. -/
  ours : env.config.extMac ≠ some seat.targetMac
  idle : seat.testHost = none
  listened : seat.dhcpListeners = 1
  steady : seat.loadedConfig.dhcpMode ≠ .ipChange
  started : seat.startupTime ≠ none
  reported : seat.unreported = false

/-- A host that was not triggered yet, and waits or will do so. -/
structure Waits (stage : Bool) (standing : Standing) : Prop where
  state : standing.state = if stage then .waiting else .init
  unset : ¬ NonEmpty standing.targetIp
  launches : standing.launches = 0

/-- A host that was triggered once, with this address. -/
structure Runs (address : Option String) (standing : Standing) : Prop where
  state : standing.state = .base
  address : standing.targetIp = address
  launches : standing.launches = 1

/-- There is a way for the device to get an address. -/
def Answered (gateway : Gateway) (entry : Device) (own : Host) : Prop :=
  gateway.kind = .container ∨ NonEmpty own.loadedConfig.staticIp ∨
    configuredDhcpMode entry own.loadedConfig = some .external

section Muster

variable (env) (gateway : GatewayId) (members : List DeviceId) (host : DeviceId → HostId)

/-- The members of the group, with what they have heard. -/
structure Assembled (heard : Heard) (world : World) : Prop where
  runs : world.runTests = true
  distinct : members.Nodup
  separate : ∀ first ∈ members, ∀ second ∈ members, host first = host second → first = second
  enrolled : ∀ device ∈ members, Enrolled env gateway members.length device (host device)
    world.devices.table (seat (world.device device) (world.hosts (host device)))
  told : ∀ device ∈ members, (world.device device).ipInfo.ipAddr = heard.address device ∧
    (world.device device).dhcpReady = heard.called device
  proper : ∀ device ∈ members, heard.address device ≠ some ""

/-- Nobody was triggered, and those who had both are ready, but perhaps the one
that is due. -/
structure Gathers (heard : Heard) (stage : DeviceId → Bool) (due : Option DeviceId)
    (world : World) : Prop where
  inactive : (world.gateways gateway).activated = false
  waits : ∀ device ∈ members, Waits (stage device)
    (standing (world.device device) (world.hosts (host device)))
  answered : ∀ device ∈ members, stage device = false →
    Answered (world.gateways gateway) (world.device device) (world.hosts (host device))
  ready : ∀ device ∈ (world.gateways gateway).ready, device ∈ members ∧ heard.Both device
  counted : ∀ device ∈ members, heard.Both device →
    device ∈ (world.gateways gateway).ready ∨ due = some device
  nodup : (world.gateways gateway).ready.Nodup

/-- The gateway is activated and everybody runs with the latest address. -/
structure Proceeds (heard : Heard) (world : World) : Prop where
  activated : (world.gateways gateway).activated = true
  runs : ∀ device ∈ members, Runs (heard.address device)
    (standing (world.device device) (world.hosts (host device)))
  both : ∀ device ∈ members, heard.Both device

/-- The group was triggered if and only if everybody had both. -/
def Musters (heard : Heard) (world : World) : Prop :=
  Assembled env gateway members host heard world ∧
    (Proceeds gateway members host heard world ∨
      (Gathers gateway members host heard heard.called none world ∧
        ∃ device ∈ members, ¬ heard.Both device))

end Muster

section Affairs

variable {gateway : GatewayId} {members : List DeviceId} {host : DeviceId → HostId}
  {heard later : Heard} {world reached : World} {device : DeviceId}

/-- What the others have heard is the same. -/
def Heard.SameFor (heard later : Heard) (device : DeviceId) : Prop :=
  ∀ other, other ≠ device → later.address other = heard.address other ∧
    later.called other = heard.called other

theorem Heard.SameFor.both (same : heard.SameFor later device) {other : DeviceId}
    (different : other ≠ device) : later.Both other ↔ heard.Both other := by
  unfold Heard.Both
  rw [(same other different).1, (same other different).2]

namespace Assembled

theorem host_ne (assembled : Assembled env gateway members host heard world)
    (inside : device ∈ members) {other : DeviceId} (member : other ∈ members)
    (different : other ≠ device) : host other ≠ host device :=
  fun same => different (assembled.separate other member device inside same)

theorem affairs (assembled : Assembled env gateway members host heard world)
    (inside : device ∈ members) (affairs : Affairs device (host device) world reached)
    (same : heard.SameFor later device)
    (address : (reached.device device).ipInfo.ipAddr = later.address device)
    (called : (reached.device device).dhcpReady = later.called device)
    (proper : later.address device ≠ some "") :
    Assembled env gateway members host later reached where
  runs := affairs.runTests.trans assembled.runs
  distinct := assembled.distinct
  separate := assembled.separate
  enrolled := by
    intro other member
    rw [affairs.table]
    by_cases own : other = device
    · subst own
      rw [affairs.seat]
      exact assembled.enrolled other member
    · rw [affairs.devices other own, affairs.hosts _ (assembled.host_ne inside member own)]
      exact assembled.enrolled other member
  told := by
    intro other member
    by_cases own : other = device
    · subst own
      exact ⟨address, called⟩
    · rw [affairs.devices other own, (same other own).1, (same other own).2]
      exact assembled.told other member
  proper := by
    intro other member
    by_cases own : other = device
    · subst own
      exact proper
    · rw [(same other own).1]
      exact assembled.proper other member

theorem nonEmpty_iff (assembled : Assembled env gateway members host heard world)
    (inside : device ∈ members) :
    NonEmpty (world.device device).ipInfo.ipAddr ↔ heard.address device ≠ none := by
  rw [(assembled.told device inside).1]
  have proper := assembled.proper device inside
  cases address : heard.address device with
  | none => simp [NonEmpty]
  | some ip =>
      rw [address] at proper
      simp only [NonEmpty, Option.getD_some, ne_eq, reduceCtorEq, not_false_eq_true, iff_true]
      exact fun empty => proper (congrArg some empty)

end Assembled

theorem Gathers.affairs {stage now : DeviceId → Bool} {due : Option DeviceId}
    (assembled : Assembled env gateway members host heard world)
    (gathers : Gathers gateway members host heard stage due world) (inside : device ∈ members)
    (affairs : Affairs device (host device) world reached) (same : heard.SameFor later device)
    (onlyDue : due = none ∨ due = some device)
    (waits : Waits (now device) (standing (reached.device device) (reached.hosts (host device))))
    (answered : now device = false →
      Answered (world.gateways gateway) (reached.device device) (reached.hosts (host device)))
    (stages : ∀ other, other ≠ device → now other = stage other)
    (still : heard.Both device → later.Both device) :
    Gathers gateway members host later now (some device) reached where
  inactive := by
    rw [affairs.gateways]
    exact gathers.inactive
  waits := by
    intro other member
    by_cases own : other = device
    · subst own
      exact waits
    · rw [affairs.devices other own, affairs.hosts _ (assembled.host_ne inside member own),
        stages other own]
      exact gathers.waits other member
  answered := by
    intro other member
    rw [affairs.gateways]
    by_cases own : other = device
    · subst own
      exact answered
    · rw [affairs.devices other own, affairs.hosts _ (assembled.host_ne inside member own),
        stages other own]
      exact gathers.answered other member
  ready := by
    intro other
    rw [affairs.gateways]
    intro listed
    obtain ⟨member, both⟩ := gathers.ready other listed
    refine ⟨member, ?_⟩
    by_cases own : other = device
    · subst own
      exact still both
    · exact (same.both own).mpr both
  counted := by
    intro other member both
    rw [affairs.gateways]
    by_cases own : other = device
    · exact .inr (congrArg some own.symm)
    · rcases gathers.counted other member ((same.both own).mp both) with listed | dueNow
      · exact .inl listed
      · rcases onlyDue with none | device
        · cases none.symm.trans dueNow
        · exact .inr (device.symm.trans dueNow)
  nodup := by
    rw [affairs.gateways]
    exact gathers.nodup

theorem Proceeds.affairs (assembled : Assembled env gateway members host heard world)
    (proceeds : Proceeds gateway members host heard world) (inside : device ∈ members)
    (affairs : Affairs device (host device) world reached) (same : heard.SameFor later device)
    (runs : Runs (later.address device)
      (standing (reached.device device) (reached.hosts (host device))))
    (both : later.Both device) : Proceeds gateway members host later reached where
  activated := by
    rw [affairs.gateways]
    exact proceeds.activated
  runs := by
    intro other member
    by_cases own : other = device
    · subst own
      exact runs
    · rw [affairs.devices other own, affairs.hosts _ (assembled.host_ne inside member own),
        (same other own).1]
      exact proceeds.runs other member
  both := by
    intro other member
    by_cases own : other = device
    · subst own
      exact both
    · exact (same.both own).mpr (proceeds.both other member)

end Affairs

section Check

variable {gateway : GatewayId} {members : List DeviceId} {host : DeviceId → HostId}
  {heard : Heard} {world : World} {device : DeviceId}

theorem allM_triggerReady_true {entry : Host} (able : triggerReady entry = .ok true) :
    ∀ ready : List DeviceId, (ready.allM fun _ => triggerReady entry) = .ok true
  | [] => rfl
  | _ :: rest => by
      have others := allM_triggerReady_true able rest
      rw [able] at others ⊢
      exact others

namespace Gathers

theorem pending (assembled : Assembled env gateway members host heard world)
    {stage : DeviceId → Bool} {due : Option DeviceId}
    (gathers : Gathers gateway members host heard stage due world) (inside : device ∈ members) :
    Pending (world.hosts (host device)) := by
  have enrolled := assembled.enrolled device inside
  have waits := gathers.waits device inside
  refine ⟨?_, enrolled.started, ?_, waits.unset⟩
  · have state : (world.hosts (host device)).state = if stage device then .waiting else .init :=
      waits.state
    rw [state]
    split
    · exact .inr rfl
    · exact .inl rfl
  · intro absent
    have reported : (world.hosts (host device)).report.isNone = false := enrolled.reported
    rw [absent] at reported
    cases reported

theorem triggerable (assembled : Assembled env gateway members host heard world)
    {due : Option DeviceId} (gathers : Gathers gateway members host heard heard.called due world)
    (inside : device ∈ members) (both : heard.Both device) :
    (world.hosts (host device)).state = .waiting ∧
      triggerReady (world.hosts (host device)) = .ok true := by
  have waiting : (world.hosts (host device)).state = .waiting := by
    have state : (world.hosts (host device)).state =
        if heard.called device then .waiting else .init := (gathers.waits device inside).state
    rw [state, both.2]
    rfl
  refine ⟨waiting, (triggerReady_iff (gathers.pending assembled inside) waiting).mpr ?_⟩
  exact fun changing => absurd changing (assembled.enrolled device inside).steady

theorem readied (gathers : Gathers gateway members host heard heard.called (some device) world)
    (inside : device ∈ members) (both : heard.Both device) :
    Gathers gateway members host heard heard.called none (world.readied gateway device) := by
  have ready : ((world.readied gateway device).gateways gateway).ready =
      withReady device (world.gateways gateway).ready := by
    simp [World.readied, World.setGateway]
  have activated : ((world.readied gateway device).gateways gateway).activated =
      (world.gateways gateway).activated := by
    simp [World.readied, World.setGateway]
  have kind : ((world.readied gateway device).gateways gateway).kind =
      (world.gateways gateway).kind := by
    simp [World.readied, World.setGateway]
  constructor
  case inactive => exact activated.trans gathers.inactive
  case waits => exact gathers.waits
  case answered =>
    intro other member unstaged
    unfold Answered
    rw [kind]
    exact gathers.answered other member unstaged
  case ready =>
    intro other listed
    rw [ready, mem_withReady] at listed
    rcases listed with rfl | listed
    · exact ⟨inside, both⟩
    · exact gathers.ready other listed
  case counted =>
    intro other member had
    refine .inl ?_
    rw [ready, mem_withReady]
    rcases gathers.counted other member had with listed | due
    · exact .inr listed
    · exact .inl (Option.some.inj due).symm
  case nodup =>
    rw [ready]
    exact withReady_nodup gathers.nodup

end Gathers

theorem Gathers.complete_iff (assembled : Assembled env gateway members host heard world)
    (gathers : Gathers gateway members host heard heard.called none world) :
    (world.gateways gateway).ready.length = members.length ↔
      ∀ device ∈ members, heard.Both device := by
  have subset : (world.gateways gateway).ready ⊆ members :=
    fun device listed => (gathers.ready device listed).1
  have subperm := List.subperm_of_subset gathers.nodup subset
  constructor
  · intro count device member
    have perm := subperm.perm_of_length_le (le_of_eq count.symm)
    exact (gathers.ready device (perm.mem_iff.mpr member)).2
  · intro both
    have all : members ⊆ (world.gateways gateway).ready := fun device member =>
      (gathers.counted device member (both device member)).resolve_right nofun
    exact le_antisymm subperm.length_le
      (List.subperm_of_subset assembled.distinct all).length_le

/-- Once all members are ready, they proceed together. -/
theorem activateGateway_proceeds (reliable : ∀ state op, env.fault state op = none)
    (assembled : Assembled env gateway members host heard world)
    (gathers : Gathers gateway members host heard heard.called none world)
    (both : ∀ device ∈ members, heard.Both device) :
    (activateGateway env gateway (world.gateways gateway).ready).Holds world
      (fun outcome reached => outcome = .ok () ∧ Musters env gateway members host heard reached) := by
  have hosted : ∀ device ∈ members, (world.device device).host = some (host device) :=
    fun device member => (assembled.enrolled device member).hosted
  have able : Triggerable world (world.gateways gateway).ready := by
    refine ⟨fun device listed => ?_, fun first firstListed second secondListed same => ?_⟩
    · obtain ⟨member, had⟩ := gathers.ready device listed
      exact ⟨host device, hosted device member, gathers.pending assembled member,
        (gathers.triggerable assembled member had).2⟩
    · have firstMember := (gathers.ready first firstListed).1
      have secondMember := (gathers.ready second secondListed).1
      rw [hosted first firstMember, hosted second secondMember] at same
      exact assembled.separate first firstMember second secondMember (Option.some.inj same)
  refine (activateGateway_launches gateway reliable gathers.nodup able).mono ?_
  rintro outcome reached ⟨returned, bare, launched⟩
  have entries : ∀ device, reached.device device = world.device device :=
    fun device => (congrArg (fun world => world.device device) bare :)
  have gateways : reached.gateways = (world.setGateway gateway fun entry =>
      { entry with activated := true }).gateways := (congrArg World.gateways bare :)
  have launch : ∀ device ∈ members, Launched (world.hosts (host device))
      (reached.hosts (host device)) (heard.address device) := by
    intro device member
    have listed := (gathers.counted device member (both device member)).resolve_right nofun
    rw [← (assembled.told device member).1]
    exact launched device listed (host device) (hosted device member)
  refine ⟨returned, ?_, .inl ?_⟩
  · refine ⟨(congrArg World.runTests bare :).trans assembled.runs, assembled.distinct,
      assembled.separate, fun device member => ?_, fun device member => ?_, assembled.proper⟩
    · have table : reached.devices.table = world.devices.table :=
        (congrArg (fun world => world.devices.table) bare :)
      have same : seat (reached.device device) (reached.hosts (host device)) =
          seat (world.device device) (world.hosts (host device)) := by
        rw [entries, ← seat_unrecorded _ (reached.hosts (host device)),
          (launch device member).entry, ← seat_unrecorded _ (world.hosts (host device))]
        rfl
      rw [same, table]
      exact assembled.enrolled device member
    · rw [entries]
      exact assembled.told device member
  · refine ⟨?_, fun device member => ?_, both⟩
    · rw [gateways]
      simp [World.setGateway]
    · have entry := (launch device member).entry
      have unlaunched := (gathers.waits device member).launches
      refine ⟨(congrArg Host.state entry :), (congrArg Host.targetIp entry :), ?_⟩
      have life : (reached.hosts (host device)).life =
          (world.hosts (host device)).life ++ [.moved .base] := (congrArg Host.life entry :)
      have none : (world.hosts (host device)).life.count (.moved .base) = 0 := unlaunched
      change (reached.hosts (host device)).life.count (.moved .base) = 1
      rw [life, List.count_append, none]
      rfl

theorem checkAndActivateGateway_early
    (early : ¬ (NonEmpty (world.device device).ipInfo.ipAddr ∧
      (world.device device).dhcpReady = true)) :
    (checkAndActivateGateway env device).run world = (.ok (), world) := by
  unfold checkAndActivateGateway
  rw [Exec.read_bind_run, if_neg early]
  rfl

/-- While the group gathers, a member's check counts it, and the last one's
triggers everybody. -/
theorem checkAndActivateGateway_gathers (reliable : ∀ state op, env.fault state op = none)
    (assembled : Assembled env gateway members host heard world)
    (gathers : Gathers gateway members host heard heard.called (some device) world)
    (inside : device ∈ members) :
    (checkAndActivateGateway env device).Holds world
      (fun outcome reached => outcome = .ok () ∧ Musters env gateway members host heard reached) := by
  have enrolled := assembled.enrolled device inside
  have both_iff : NonEmpty (world.device device).ipInfo.ipAddr ∧
      (world.device device).dhcpReady = true ↔ heard.Both device := by
    rw [assembled.nonEmpty_iff inside, (assembled.told device inside).2]
    exact Iff.rfl
  by_cases both : heard.Both device
  · have hosted : (world.device device).host = some (host device) := enrolled.hosted
    have attached : (world.device device).gateway = some gateway := enrolled.attached
    have sized : deviceGroupSize env (world.device device).group = members.length := enrolled.sized
    obtain ⟨waiting, able⟩ := gathers.triggerable assembled inside both
    have counted := gathers.readied inside both
    have assembled : Assembled env gateway members host heard (world.readied gateway device) :=
      ⟨assembled.runs, assembled.distinct, assembled.separate, assembled.enrolled, assembled.told,
        assembled.proper⟩
    have ready : ((world.readied gateway device).gateways gateway).ready =
        withReady device (world.gateways gateway).ready := by
      simp [World.readied, World.setGateway]
    have complete := counted.complete_iff assembled
    have nonempty : withReady device (world.gateways gateway).ready ≠ [] :=
      List.ne_nil_of_mem (mem_withReady.mpr (.inl rfl))
    rw [ready] at complete
    unfold checkAndActivateGateway shouldActivateTarget
    rw [Exec.holds_bind, Exec.holds_read, Exec.then_ok, if_pos (both_iff.mpr both),
      Exec.holds_bind, Exec.holds_bind, Exec.holds_get, Exec.then_ok, hosted, attached]
    simp only [gathers.inactive, Bool.false_eq_true, ↓reduceIte]
    rw [Exec.holds_bind, Exec.holds_of_run (notifyActivate_waiting waiting), Exec.then_ok,
      if_pos rfl, Exec.holds_bind, Exec.holds_of_run (targetReady_run world gateway device),
      Exec.then_ok, sized, Exec.holds_ite]
    refine ⟨fun remaining => ?_, fun enough => ?_⟩
    · refine ⟨rfl, assembled, .inr ⟨counted, ?_⟩⟩
      by_contra everybody
      have count := complete.mpr fun other member => by
        by_contra missing
        exact everybody ⟨other, member, missing⟩
      exact remaining.1 (by rw [count]; omega)
    · have count : (withReady device (world.gateways gateway).ready).length = members.length := by
        by_contra different
        exact enough ⟨by omega, assembled.runs⟩
      have own : (world.readied gateway device).hosts (host device) = world.hosts (host device) :=
        rfl
      rw [Exec.holds_bind, Exec.holds_read, Exec.then_ok, own,
        allM_triggerReady_true able, Exec.holds_bind]
      change Exec.Then _ _ (.ok true) (world.readied gateway device)
      rw [Exec.then_ok, if_pos rfl]
      change Exec.Then _ _ (.ok (Readiness.group gateway _)) (world.readied gateway device)
      rw [Exec.then_ok]
      have proceeds := activateGateway_proceeds reliable assembled counted (complete.mp count)
      rw [ready] at proceeds
      cases listed : withReady device (world.gateways gateway).ready with
      | nil => exact absurd listed nonempty
      | cons first rest =>
          rw [listed] at proceeds
          exact proceeds
  · rw [Exec.holds_of_run (checkAndActivateGateway_early (mt both_iff.mp both))]
    refine ⟨rfl, assembled, .inr ⟨⟨gathers.inactive, gathers.waits, gathers.answered,
      gathers.ready, fun other member had => ?_, gathers.nodup⟩, device, inside, both⟩⟩
    refine .inl ((gathers.counted other member had).resolve_right fun due => ?_)
    cases due
    exact both had

/-- Once it runs, a member with its latest address is left alone. -/
theorem checkAndActivateGateway_proceeds
    (assembled : Assembled env gateway members host heard world)
    (proceeds : Proceeds gateway members host heard world) (inside : device ∈ members) :
    (checkAndActivateGateway env device).run world = (.ok (), world) := by
  have enrolled := assembled.enrolled device inside
  have hosted : (world.device device).host = some (host device) := enrolled.hosted
  have attached : (world.device device).gateway = some gateway := enrolled.attached
  have nonempty := (assembled.nonEmpty_iff inside).mpr (proceeds.both device inside).1
  have called : (world.device device).dhcpReady = true :=
    (assembled.told device inside).2.trans (proceeds.both device inside).2
  have address : (world.hosts (host device)).targetIp = (world.device device).ipInfo.ipAddr :=
    (proceeds.runs device inside).address.trans (assembled.told device inside).1.symm
  have readiness : (shouldActivateTarget env device).run world = (.ok .activated, world) := by
    unfold shouldActivateTarget
    rw [Exec.get_bind_run, hosted, attached]
    simp only [proceeds.activated, ↓reduceIte]
    rfl
  have triggered : (triggerHost env (host device) (world.device device).ipInfo.ipAddr).run world =
      (.ok true, world) := by
    unfold triggerHost
    rw [Exec.read_bind_run, if_pos (address.symm ▸ nonempty), Exec.require_bind_run _ _ address]
    rfl
  unfold checkAndActivateGateway
  rw [Exec.read_bind_run, if_pos ⟨nonempty, called⟩, Exec.bind_run_ok readiness, hosted]
  exact Exec.bind_run_ok triggered

end Check

section Events

variable {gateway : GatewayId} {members : List DeviceId} {host : DeviceId → HostId}
  {heard : Heard} {world : World} {device : DeviceId}

/-- A notification that concerns a member: it is noted, and the group is
checked. -/
theorem ipNotify_checks (drain : Run Unit) {state : String} {target : IpTarget} {own : HostId}
    {post : Except Exc Unit → World → Prop} (reliable : ∀ state op, env.fault state op = none)
    (ours : env.config.extMac ≠ some target.mac) (expected : state ≠ "NEW")
    (acknowledged : target.type = "ACK" ∨ target.type = "STATIC")
    (proper : target.mac ≠ "" ∧ target.ip ≠ "" ∧ target.delta.isSome)
    (known : world.devices.table.get? target.mac = some device)
    (hosted : (world.device device).host = some own)
    (idle : (world.hosts own).testHost = none)
    (checks : ∀ reached, Affairs device own world reached →
      standing (reached.device device) (reached.hosts own) =
        { standing (world.device device) (world.hosts own) with
          ipAddr := some target.ip
          targetIp := if NonEmpty (world.hosts own).targetIp then some target.ip
            else (world.hosts own).targetIp } →
      (checkAndActivateGateway env device).Holds reached post) :
    (ipNotify env drain state target).Holds world post := by
  unfold ipNotify
  rw [Exec.holds_ite]
  refine ⟨fun ignored => absurd ignored ours, fun _ => ?_⟩
  rw [Exec.holds_bind, Exec.holds_when]
  refine ⟨fun unexpected => absurd unexpected expected, fun _ => ?_⟩
  rw [Exec.then_ok, Exec.holds_bind, Exec.holds_require]
  refine ⟨fun _ => ?_, fun improper => absurd proper improper⟩
  rw [Exec.then_ok, Exec.holds_bind, Exec.holds_get, Exec.then_ok, known]
  rw [Exec.holds_bind, Exec.holds_modify, Exec.then_ok, hosted, Exec.holds_whenSome]
  refine ⟨nofun, ?_⟩
  rintro other equality
  cases equality
  rw [Exec.holds_when]
  refine ⟨fun _ => ?_, fun ignored => absurd acknowledged ignored⟩
  have stillIdle : ∀ update, ((world.setDevice device update).hosts own).testHost = none :=
    fun _ => idle
  refine (@hostIpNotify_moves env _ device own drain target.ip reliable (stillIdle _)).bind
    (fun _ _ raised => by cases raised.1) ?_
  rintro _ reached ⟨_, affairs, changed⟩
  refine checks reached ((Affairs.setDevice rfl).trans affairs) (changed.trans ?_)
  rw [setDevice_device, if_pos rfl]
  rfl

theorem ipNotify_musters (drain : Run Unit) {state : String} {target : IpTarget}
    (reliable : ∀ state op, env.fault state op = none) (expected : state ≠ "NEW")
    (acknowledged : target.type = "ACK" ∨ target.type = "STATIC")
    (proper : target.ip ≠ "" ∧ target.delta.isSome) (inside : device ∈ members)
    (addressed : (world.hosts (host device)).targetMac = target.mac)
    (musters : Musters env gateway members host heard world) :
    (ipNotify env drain state target).Holds world (fun outcome reached => outcome = .ok () ∧
      Musters env gateway members host (heard.notified device target.ip) reached) := by
  obtain ⟨assembled, phase⟩ := musters
  have enrolled := assembled.enrolled device inside
  have known : world.devices.table.get? (world.hosts (host device)).targetMac = some device :=
    enrolled.known
  have same : heard.SameFor (heard.notified device target.ip) device :=
    fun other different => ⟨Function.update_of_ne different _ _, rfl⟩
  have latest : (heard.notified device target.ip).address device = some target.ip :=
    Function.update_self _ _ _
  refine ipNotify_checks drain reliable (addressed ▸ enrolled.ours) expected acknowledged
    ⟨addressed ▸ enrolled.named, proper⟩ (addressed ▸ known) enrolled.hosted enrolled.idle ?_
  intro reached affairs changed
  have still : Assembled env gateway members host (heard.notified device target.ip) reached := by
    refine assembled.affairs inside affairs same ?_ ?_ ?_
    · exact (congrArg Standing.ipAddr changed).trans latest.symm
    · exact (congrArg Standing.dhcpReady changed).trans (assembled.told device inside).2
    · rw [latest]
      exact fun empty => proper.1 (Option.some.inj empty)
  rcases phase with proceeds | ⟨gathers, _⟩
  · have runs := proceeds.runs device inside
    have nonempty : NonEmpty (world.hosts (host device)).targetIp := by
      have address : (world.hosts (host device)).targetIp = heard.address device := runs.address
      rw [address, ← (assembled.told device inside).1]
      exact (assembled.nonEmpty_iff inside).mpr (proceeds.both device inside).1
    have proceeding : Proceeds gateway members host (heard.notified device target.ip) reached := by
      refine proceeds.affairs assembled inside affairs same ?_ ⟨?_, (proceeds.both device inside).2⟩
      · rw [changed, latest, if_pos nonempty]
        exact ⟨runs.state, rfl, runs.launches⟩
      · rw [latest]
        nofun
    rw [Exec.holds_of_run (checkAndActivateGateway_proceeds still proceeding inside)]
    exact ⟨rfl, still, .inl proceeding⟩
  · have waits := gathers.waits device inside
    refine checkAndActivateGateway_gathers reliable still ?_ inside
    refine gathers.affairs assembled inside affairs same (.inl rfl) ?_ ?_ (fun _ _ => rfl) ?_
    · have unset : ¬ NonEmpty (world.hosts (host device)).targetIp := waits.unset
      rw [changed, if_neg unset]
      exact ⟨waits.state, unset, waits.launches⟩
    · intro uncalled
      have mode : (reached.device device).dhcpMode = (world.device device).dhcpMode :=
        congrArg Standing.dhcpMode changed
      have config : (reached.hosts (host device)).loadedConfig =
          (world.hosts (host device)).loadedConfig := congrArg Seat.loadedConfig affairs.seat
      have answered := gathers.answered device inside uncalled
      unfold Answered configuredDhcpMode at answered ⊢
      rw [mode, config]
      exact answered
    · rintro ⟨_, called⟩
      refine ⟨?_, called⟩
      rw [latest]
      nofun

/-- The host asks for an address; a configured one is notified at once, to no
effect yet. -/
theorem requestAddress_moves (drain : Run Unit) {own : HostId}
    (reliable : ∀ state op, env.fault state op = none)
    (enrolled : Enrolled env gateway members.length device own world.devices.table
      (seat (world.device device) (world.hosts own)))
    (uncalled : (world.device device).dhcpReady = false)
    (unset : ¬ NonEmpty (world.hosts own).targetIp)
    (answered : Answered (world.gateways gateway) (world.device device) (world.hosts own)) :
    ∃ mode, (requestAddress env drain own (world.hosts own)).Holds world
      (Moves device own (fun standing => { standing with
        dhcpMode := mode
        ipAddr := if NonEmpty (world.hosts own).loadedConfig.staticIp then
            some ((world.hosts own).loadedConfig.staticIp.getD "")
          else standing.ipAddr }) world) := by
  have back : (world.hosts own).device = device := enrolled.back
  have placed : (world.hosts own).gateway = gateway := enrolled.placed
  unfold requestAddress
  by_cases static : NonEmpty (world.hosts own).loadedConfig.staticIp
  · refine ⟨some .staticIp, ?_⟩
    rw [if_pos static, Exec.holds_bind, Exec.holds_modify, Exec.then_ok, back]
    generalize moded : (world.setDevice device fun entry =>
      { entry with dhcpMode := some .staticIp }) = state
    have affairs : Affairs device own world state := moded ▸ .setDevice rfl
    have entry : state.device device = { world.device device with dhcpMode := some .staticIp } := by
      rw [← moded, setDevice_device, if_pos rfl]
    have hosts : state.hosts own = world.hosts own := by rw [← moded]; rfl
    have table : state.devices.table = world.devices.table := affairs.table
    refine ipNotify_checks drain reliable enrolled.ours (by decide) (.inr rfl)
      ⟨enrolled.named, static, rfl⟩ (table ▸ enrolled.known) (by rw [entry]; exact enrolled.hosted)
      (hosts ▸ enrolled.idle) ?_
    intro reached more changed
    have early : (reached.device device).dhcpReady = false := by
      refine (congrArg Standing.dhcpReady changed).trans ?_
      change (state.device device).dhcpReady = false
      rw [entry]
      exact uncalled
    rw [Exec.holds_of_run (checkAndActivateGateway_early (by rw [early]; simp))]
    refine ⟨rfl, affairs.trans more, changed.trans ?_⟩
    rw [hosts, if_neg unset, entry]
    simp only [if_pos static]
    rfl
  · have reads : ∀ update, (world.setDevice device update).device device =
        update (world.device device) := by
      intro update
      rw [setDevice_device, if_pos rfl]
    refine ⟨configuredDhcpMode (world.device device) (world.hosts own).loadedConfig, ?_⟩
    rw [if_neg static, Exec.holds_bind, Exec.holds_modify, Exec.then_ok, back, Exec.holds_bind,
      Exec.holds_read, Exec.then_ok, reads, Exec.holds_ite]
    refine ⟨fun _ => ?_, fun internal => ?_⟩
    · rw [Exec.holds_modify]
      refine ⟨rfl, (Affairs.setDevice rfl).trans (.setHost rfl), ?_⟩
      rw [setHost_hosts, if_pos rfl]
      simp only [if_neg static]
      exact (congrArg (fun entry => standing entry (world.hosts own)) (reads fun entry =>
        { entry with dhcpMode := configuredDhcpMode entry (world.hosts own).loadedConfig }) :)
    · rw [Exec.holds_bind, Exec.holds_read, Exec.then_ok]
      have container : (world.gateways gateway).kind = .container := by
        rcases answered with container | configured | external
        · exact container
        · exact absurd configured static
        · exact absurd external internal
      have kind : ((world.setDevice device fun entry => { entry with
          dhcpMode := configuredDhcpMode entry (world.hosts own).loadedConfig }).gateways
          (world.hosts own).gateway).kind = .container := by
        rw [placed]
        exact container
      rw [kind]
      dsimp only
      rw [holds_callOut_of_returns (reliable _ _)]
      refine ⟨rfl, (Affairs.setDevice rfl).trans .ticked, ?_⟩
      simp only [if_neg static]
      exact (congrArg (fun entry => standing entry (world.hosts own)) (reads fun entry =>
        { entry with dhcpMode := configuredDhcpMode entry (world.hosts own).loadedConfig }) :)

/-- What a member has heard once its host is called. -/
def Heard.prepared (heard : Heard) (device : DeviceId) (config : ModuleConfig) : Heard :=
  (if NonEmpty config.staticIp then heard.notified device (config.staticIp.getD "")
    else heard).calledBy device

theorem Heard.prepared_address (device : DeviceId) (config : ModuleConfig) :
    (heard.prepared device config).address device =
      if NonEmpty config.staticIp then some (config.staticIp.getD "")
      else heard.address device := by
  unfold Heard.prepared
  split
  · exact Function.update_self _ _ _
  · rfl

theorem Heard.prepared_called (device : DeviceId) (config : ModuleConfig) :
    (heard.prepared device config).called device = true := Function.update_self _ _ _

theorem Heard.prepared_sameFor (device : DeviceId) (config : ModuleConfig) :
    heard.SameFor (heard.prepared device config) device := by
  intro other different
  unfold Heard.prepared
  split
  · exact ⟨Function.update_of_ne different _ _, Function.update_of_ne different _ _⟩
  · exact ⟨rfl, Function.update_of_ne different _ _⟩

/-- The host's turn: it waits, asks for an address, and its ready callback makes
up for any notification that came too early. -/
theorem prepare_musters (drain : Run Unit) (reliable : ∀ state op, env.fault state op = none)
    (inside : device ∈ members) (starting : (world.hosts (host device)).state = .init)
    (musters : Musters env gateway members host heard world) :
    (prepare env drain (host device)).Holds world (fun outcome reached => outcome = .ok () ∧
      Musters env gateway members host
        (heard.prepared device (world.hosts (host device)).loadedConfig) reached) := by
  obtain ⟨assembled, phase⟩ := musters
  have enrolled := assembled.enrolled device inside
  have gathers : Gathers gateway members host heard heard.called none world := by
    rcases phase with proceeds | ⟨gathers, _⟩
    · exact absurd (starting.symm.trans (proceeds.runs device inside).state) (by decide)
    · exact gathers
  have waits := gathers.waits device inside
  have uncalled : heard.called device = false := by
    by_contra called
    have state : (world.hosts (host device)).state =
        if heard.called device then .waiting else .init := waits.state
    rw [Bool.not_eq_false _ |>.mp called] at state
    exact absurd (starting.symm.trans state) (by decide)
  have pending := gathers.pending assembled inside
  unfold prepare
  refine (@startWaiting_moves env world device (host device) reliable starting
    pending.reported).bind (fun _ _ raised => by cases raised.1) ?_
  rintro _ waiting ⟨_, affairs, moved⟩
  have seats := affairs.seat
  have config : (waiting.hosts (host device)).loadedConfig =
      (world.hosts (host device)).loadedConfig := congrArg Seat.loadedConfig seats
  have answered : Answered (waiting.gateways gateway) (waiting.device device)
      (waiting.hosts (host device)) := by
    have mode : (waiting.device device).dhcpMode = (world.device device).dhcpMode :=
      congrArg Standing.dhcpMode moved
    have before := gathers.answered device inside uncalled
    unfold Answered configuredDhcpMode at before ⊢
    rw [affairs.gateways, mode, config]
    exact before
  have unset : ¬ NonEmpty (waiting.hosts (host device)).targetIp := by
    rw [show (waiting.hosts (host device)).targetIp = (world.hosts (host device)).targetIp from
      congrArg Standing.targetIp moved]
    exact waits.unset
  obtain ⟨mode, requested⟩ := @requestAddress_moves env gateway members waiting device drain
    (host device) reliable (by rw [seats, affairs.table]; exact enrolled)
    ((congrArg Standing.dhcpReady moved).trans ((assembled.told device inside).2.trans uncalled))
    unset answered
  rw [Exec.holds_bind, Exec.holds_read, Exec.then_ok]
  refine requested.bind (fun _ _ raised => by cases raised.1) ?_
  rintro _ asked ⟨_, more, changed⟩
  have back : (waiting.hosts (host device)).device = device :=
    (congrArg Seat.device seats).trans enrolled.back
  have listened : (waiting.hosts (host device)).dhcpListeners = 1 :=
    (congrArg Seat.dhcpListeners seats).trans enrolled.listened
  rw [back, listened, List.replicate_one]
  -- one listener: the member is marked, and then the group is checked
  have listener : (dhcpReadyListener env device).Holds asked (fun outcome reached =>
      outcome = .ok () ∧ Musters env gateway members host
        (heard.prepared device (world.hosts (host device)).loadedConfig) reached) := by
    unfold dhcpReadyListener
    rw [Exec.holds_bind, Exec.holds_modify, Exec.then_ok]
    generalize marked : (asked.setDevice device fun entry => { entry with dhcpReady := true }) =
      state
    have all : Affairs device (host device) world state :=
      (affairs.trans more).trans (marked ▸ .setDevice rfl)
    have final : standing (state.device device) (state.hosts (host device)) =
        { standing (asked.device device) (asked.hosts (host device)) with dhcpReady := true } := by
      rw [← marked, setDevice_device, if_pos rfl]
      rfl
    rw [changed, moved] at final
    have same := @Heard.prepared_sameFor heard device (world.hosts (host device)).loadedConfig
    have assembled' : Assembled env gateway members host
        (heard.prepared device (world.hosts (host device)).loadedConfig) state := by
      refine assembled.affairs inside all same ?_ ?_ ?_
      · refine (congrArg Standing.ipAddr final).trans ?_
        rw [Heard.prepared_address, ← (assembled.told device inside).1, ← config]
        rfl
      · rw [Heard.prepared_called]
        exact congrArg Standing.dhcpReady final
      · rw [Heard.prepared_address]
        split
        · rename_i static
          exact fun empty => static (Option.some.inj empty)
        · exact assembled.proper device inside
    refine checkAndActivateGateway_gathers reliable assembled' ?_ inside
    refine gathers.affairs assembled inside all same (.inl rfl) ?_ ?_ ?_ ?_
    · rw [Heard.prepared_called, final]
      exact ⟨rfl, waits.unset, waits.launches⟩
    · rw [Heard.prepared_called]
      nofun
    · exact fun other different => (same other different).2
    · rintro ⟨_, called⟩
      exact absurd (called.symm.trans uncalled) (by decide)
  refine Exec.Holds.bind listener (fun _ _ raised => by cases raised.1) ?_
  exact fun _ _ kept => ⟨rfl, kept.2⟩

end Events

/-- What happens to the members of a group: an address is notified, or a host
has its turn, which ends with its ready callback. -/
inductive MemberEvent
  | address (state : String) (target : IpTarget)
  | prepare (device : DeviceId)

namespace MemberEvent

def perform (env : Env) : MemberEvent → Run Unit
  | .address state target => ipNotify env (handleReceivedEvents env) state target
  | .prepare device => Notice.ofHost device (Daq.prepare env (handleReceivedEvents env))

/-- What the members have heard after the event. -/
def note (world : World) (heard : Heard) : MemberEvent → Heard
  | .address _ target =>
      match world.devices.table.get? target.mac with
      | none => heard
      | some device => heard.notified device target.ip
  | .prepare device =>
      match (world.device device).host with
      | none => heard
      | some host => heard.prepared device (world.hosts host).loadedConfig

def step (env : Env) (event : MemberEvent) (before : World × Heard) : World × Heard :=
  (((event.perform env).run before.1).2, event.note before.1 before.2)

/-- The address of a member is notified with a DHCP acknowledgement or as a
static one, any number of times; a host has its turn in its first stage. -/
def OfMember (members : List DeviceId) (before : World × Heard) : MemberEvent → Prop
  | .address state target => state ≠ "NEW" ∧ (target.type = "ACK" ∨ target.type = "STATIC") ∧
      (target.ip ≠ "" ∧ target.delta.isSome) ∧
      ∃ device ∈ members, ∃ host, (before.1.device device).host = some host ∧
        (before.1.hosts host).targetMac = target.mac
  | .prepare device => device ∈ members ∧ ∃ host, (before.1.device device).host = some host ∧
      (before.1.hosts host).state = .init

end MemberEvent

/-- A group whose members were just attached to their gateway, each with a new
host; an address may have been noted before. -/
structure Formed (env : Env) (gateway : GatewayId) (members : List DeviceId)
    (host : DeviceId → HostId) (world : World) : Prop where
  nonempty : members ≠ []
  runs : world.runTests = true
  distinct : members.Nodup
  separate : ∀ first ∈ members, ∀ second ∈ members, host first = host second → first = second
  enrolled : ∀ device ∈ members, Enrolled env gateway members.length device (host device)
    world.devices.table (seat (world.device device) (world.hosts (host device)))
  proper : ∀ device ∈ members, (world.device device).ipInfo.ipAddr ≠ some ""
  uncalled : ∀ device ∈ members, (world.device device).dhcpReady = false
  waits : ∀ device ∈ members, Waits false
    (standing (world.device device) (world.hosts (host device)))
  answered : ∀ device ∈ members,
    Answered (world.gateways gateway) (world.device device) (world.hosts (host device))
  inactive : (world.gateways gateway).activated = false
  unready : (world.gateways gateway).ready = []

/-- What the members have heard when the group is formed. -/
def World.heard (world : World) : Heard where
  address := fun device => (world.device device).ipInfo.ipAddr
  called := fun _ => false

section Runs

variable {gateway : GatewayId} {members : List DeviceId} {host : DeviceId → HostId}

theorem Formed.musters {start : World} (formed : Formed env gateway members host start) :
    Musters env gateway members host start.heard start := by
  have unheard : ∀ device, ¬ start.heard.Both device := fun _ both => by cases both.2
  obtain ⟨device, inside⟩ := List.exists_mem_of_ne_nil members formed.nonempty
  refine ⟨⟨formed.runs, formed.distinct, formed.separate, formed.enrolled,
    fun device member => ⟨rfl, formed.uncalled device member⟩, formed.proper⟩,
    .inr ⟨⟨formed.inactive, formed.waits, fun device member _ => formed.answered device member,
      ?_, fun device _ both => absurd both (unheard device), ?_⟩, device, inside, unheard device⟩⟩
  · intro device listed
    rw [formed.unready] at listed
    cases listed
  · rw [formed.unready]
    exact List.nodup_nil

theorem MemberEvent.step_musters (reliable : ∀ state op, env.fault state op = none)
    (before : World × Heard) (event : MemberEvent) (allowed : event.OfMember members before)
    (musters : Musters env gateway members host before.2 before.1) :
    Musters env gateway members host (event.step env before).2 (event.step env before).1 := by
  obtain ⟨world, heard⟩ := before
  have enrolled := musters.1.enrolled
  cases event with
  | address state target =>
      obtain ⟨expected, acknowledged, proper, device, inside, own, hosted, addressed⟩ := allowed
      have same : own = host device :=
        Option.some.inj (hosted.symm.trans (enrolled device inside).hosted)
      subst same
      have known : world.devices.table.get? target.mac = some device :=
        addressed ▸ (enrolled device inside).known
      have kept := ipNotify_musters (handleReceivedEvents env) reliable expected acknowledged proper
        inside addressed musters
      have noted : (MemberEvent.address state target).note world heard =
          heard.notified device target.ip := by
        simp only [MemberEvent.note, known]
      change Musters env gateway members host
        ((MemberEvent.address state target).note world heard) _
      rw [noted]
      exact kept.2
  | prepare device =>
      obtain ⟨inside, own, hosted, starting⟩ := allowed
      have same : own = host device :=
        Option.some.inj (hosted.symm.trans (enrolled device inside).hosted)
      subst same
      have kept := prepare_musters (handleReceivedEvents env) reliable inside starting musters
      have noted : (MemberEvent.prepare device).note world heard =
          heard.prepared device (world.hosts (host device)).loadedConfig := by
        simp only [MemberEvent.note, hosted]
      have turn : (Notice.ofHost device (Daq.prepare env (handleReceivedEvents env))).run world =
          (Daq.prepare env (handleReceivedEvents env) (host device)).run world := by
        unfold Notice.ofHost
        rw [Exec.read_bind_run, hosted]
        rfl
      change Musters env gateway members host ((MemberEvent.prepare device).note world heard)
        ((Notice.ofHost device (Daq.prepare env (handleReceivedEvents env))).run world).2
      rw [noted, turn]
      exact kept.2

/-- In every order of its members' events: a group is triggered as soon as every
member has had both, each member once and with its latest address, and nobody is
triggered before. -/
theorem reached_triggered_together {start world : World} {heard : Heard}
    (reliable : ∀ state op, env.fault state op = none)
    (formed : Formed env gateway members host start)
    (reached : Reaches (MemberEvent.step env) (fun before event => event.OfMember members before)
      (start, start.heard) (world, heard)) :
    ((∀ device ∈ members, heard.Both device) →
      (world.gateways gateway).activated = true ∧ ∀ device ∈ members,
        Runs (heard.address device) (standing (world.device device) (world.hosts (host device)))) ∧
    ((∃ device ∈ members, ¬ heard.Both device) →
      (world.gateways gateway).activated = false ∧ ∀ device ∈ members,
        Waits (heard.called device)
          (standing (world.device device) (world.hosts (host device)))) := by
  have musters := reached.invariant
    (fun state => Musters env gateway members host state.2 state.1) formed.musters
    fun state event kept allowed => event.step_musters reliable state allowed kept
  rcases musters.2 with proceeds | ⟨gathers, missing⟩
  · refine ⟨fun _ => ⟨proceeds.activated, proceeds.runs⟩, ?_⟩
    rintro ⟨device, inside, missing⟩
    exact absurd (proceeds.both device inside) missing
  · refine ⟨fun everybody => ?_, fun _ => ⟨gathers.inactive, gathers.waits⟩⟩
    obtain ⟨device, inside, lacking⟩ := missing
    exact absurd (everybody device inside) lacking

end Runs

section Example

/-- Two members of a group of two that were just attached. -/
def formedPair : World :=
  let member (mac : Mac) (host : HostId) : Device :=
    { mac := mac, port := 0, host := some host, gateway := some 0, group := some "lab" }
  let starting (device : DeviceId) (mac : Mac) : Host :=
    { device := device, gateway := 0, targetMac := mac, targetPort := none, state := .init
      startupTime := some 1, dhcpListeners := 1 }
  { initialWorld (.quiet pairConfig) with
    devices :=
      { table := (Dict.empty.insert "9a:02:57:1e:8f:01" 0).insert "9a:02:57:1e:8f:02" 1
        setIds := {1, 2}
        heap := fun device => if device = 0 then member "9a:02:57:1e:8f:01" 0
          else member "9a:02:57:1e:8f:02" 1
        next := 2 }
    hosts := fun host => if host = 0 then starting 0 "9a:02:57:1e:8f:01"
      else starting 1 "9a:02:57:1e:8f:02" }

theorem formedPair_formed : Formed (.quiet pairConfig) 0 [0, 1] id formedPair := by
  have member : ∀ {property : DeviceId → Prop}, property 0 → property 1 →
      ∀ device ∈ [0, 1], property device := by
    intro property first second device inside
    rcases List.mem_cons.mp inside with rfl | inside
    · exact first
    · exact List.mem_singleton.mp inside ▸ second
  constructor
  case nonempty => nofun
  case runs => rfl
  case distinct => decide
  case separate => exact fun _ _ _ _ same => same
  case enrolled =>
    refine member ?_ ?_
    all_goals exact ⟨rfl, rfl, by decide, rfl, rfl, rfl, by decide, nofun, rfl, rfl, nofun, nofun, rfl⟩
  case proper => exact member nofun nofun
  case uncalled => exact member rfl rfl
  case waits => exact member ⟨rfl, by decide, rfl⟩ ⟨rfl, by decide, rfl⟩
  case answered => exact member (.inl rfl) (.inl rfl)
  case inactive => rfl
  case unready => rfl

def pairAddress (mac : Mac) (ip : String) : MemberEvent :=
  .address "done" { type := "ACK", mac := mac, ip := ip, delta := some 1 }

def pairStep (event : MemberEvent) (before : World × Heard) : World × Heard :=
  event.step (.quiet pairConfig) before

/-- The first member's addresses come before its host is ready, the second one's
after. -/
def pairRun : World × Heard :=
  pairStep (pairAddress "9a:02:57:1e:8f:02" "10.20.99.9") (pairStep (.prepare 0)
    (pairStep (pairAddress "9a:02:57:1e:8f:01" "10.20.99.8") (pairStep (.prepare 1)
      (pairStep (pairAddress "9a:02:57:1e:8f:01" "10.20.99.7") (formedPair, formedPair.heard)))))

theorem pairRun_triggered :
    (pairRun.1.gateways 0).activated = true ∧ ∀ device ∈ [0, 1],
      Runs (pairRun.2.address device) (standing (pairRun.1.device device)
        (pairRun.1.hosts device)) := by
  refine (@reached_triggered_together (.quiet pairConfig) 0 [0, 1] id formedPair pairRun.1 pairRun.2
    (fun _ _ => rfl) formedPair_formed ?_).1 ?_
  · refine .step _ (.step _ (.step _ (.step _ (.step _ .start ?_) ?_) ?_) ?_) ?_
    · exact ⟨by decide, .inl rfl, by decide, 0, by decide, 0, rfl, rfl⟩
    · exact ⟨by decide, 1, rfl, rfl⟩
    · exact ⟨by decide, .inl rfl, by decide, 0, by decide, 0, rfl, rfl⟩
    · exact ⟨by decide, 0, rfl, rfl⟩
    · exact ⟨by decide, .inl rfl, by decide, 1, by decide, 1, rfl, rfl⟩
  · intro device inside
    rcases List.mem_cons.mp inside with rfl | inside
    · exact ⟨by decide, by decide⟩
    · exact List.mem_singleton.mp inside ▸ ⟨by decide, by decide⟩

end Example

end Daq
