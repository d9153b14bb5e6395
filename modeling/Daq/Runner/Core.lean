import Daq.Runner.Loop

namespace Daq

variable {env : Env}

/-! What the parts of the runner leave alone.  A host's bookkeeping only
touches the host, and the way a host goes through its stages, apart from
reporting to the runner, keeps the core of the state: who is registered, who
holds which gateway, and where traffic goes. -/

/-! Whatever a write of one object does not change looks the same of every
object. -/

section Views

variable {β : Type} {world : World}

theorem setDevice_view (view : Device → β) {device : DeviceId} {update : Device → Device}
    (same : view (update (world.device device)) = view (world.device device))
    (other : DeviceId) :
    view ((world.setDevice device update).device other) = view (world.device other) :=
  congrFun (Frame.view_update view same) other

theorem setGateway_view (view : Gateway → β) {gateway : GatewayId} {update : Gateway → Gateway}
    (same : view (update (world.gateways gateway)) = view (world.gateways gateway))
    (other : GatewayId) :
    view ((world.setGateway gateway update).gateways other) = view (world.gateways other) :=
  congrFun (Frame.view_update view same) other

theorem setHost_view (view : Host → β) {host : HostId} {update : Host → Host}
    (same : view (update (world.hosts host)) = view (world.hosts host)) (other : HostId) :
    view ((world.setHost host update).hosts other) = view (world.hosts other) :=
  congrFun (Frame.view_update view same) other

theorem setPortInfo_view (view : PortInfo → β) {info : PortId} {update : PortInfo → PortInfo}
    (same : view (update (world.portInfos info)) = view (world.portInfos info))
    (other : PortId) :
    view ((world.setPortInfo info update).portInfos other) = view (world.portInfos other) :=
  congrFun (Frame.view_update view same) other

theorem setDevice_device {device other : DeviceId} {update : Device → Device} :
    (world.setDevice device update).device other =
      if other = device then update (world.device device) else world.device other := by
  unfold World.setDevice World.device
  exact Function.update_apply _ _ _ _

theorem setGateway_gateways {gateway other : GatewayId} {update : Gateway → Gateway} :
    (world.setGateway gateway update).gateways other =
      if other = gateway then update (world.gateways gateway) else world.gateways other :=
  Function.update_apply _ _ _ _

theorem setHost_hosts {host other : HostId} {update : Host → Host} :
    (world.setHost host update).hosts other =
      if other = host then update (world.hosts host) else world.hosts other :=
  Function.update_apply _ _ _ _

end Views

section Attachment

variable {world : World} {gateway : GatewayId} {device : DeviceId}

/-- The device is a target of the gateway. -/
def World.attached (world : World) (gateway : GatewayId) (device : DeviceId) : World :=
  (world.setGateway gateway fun entry =>
    { entry with targets := entry.targets.insert (world.device device).mac device }).note
    [.attached gateway device (decide (StrayMember world gateway device))]

/-- Nothing is a target of the gateway under the device's MAC. -/
def World.detached (world : World) (gateway : GatewayId) (device : DeviceId) : World :=
  (world.setGateway gateway fun entry =>
    { entry with targets := entry.targets.erase (world.device device).mac }).note
    [.detached gateway device
      ((world.gateways gateway).targets.erase (world.device device).mac).size]

theorem attachTarget_run
    (absent : (world.gateways gateway).targets.get? (world.device device).mac = none) :
    (attachTarget gateway device).run world = (.ok (), world.attached gateway device) := by
  unfold attachTarget
  rw [Exec.get_bind_run]
  exact (Exec.require_bind_run _ _ absent).trans rfl

theorem attachTarget_run_present
    (present : (world.gateways gateway).targets.get? (world.device device).mac ≠ none) :
    (attachTarget gateway device).run world = (.error (.assertionError
      ("target " ++ sanitizeMac (world.device device).mac ++ " already attached to gw")),
      world) := by
  unfold attachTarget
  rw [Exec.get_bind_run]
  exact Exec.require_bind_run_not _ _ present

theorem detachTarget_run
    (present : (world.gateways gateway).targets.get? (world.device device).mac ≠ none) :
    (detachTarget gateway device).run world =
      (.ok ((world.detached gateway device).gateways gateway).targets.size,
        world.detached gateway device) := by
  unfold detachTarget
  rw [Exec.get_bind_run]
  exact (Exec.require_bind_run _ _ present).trans rfl

theorem detachTarget_run_absent
    (absent : (world.gateways gateway).targets.get? (world.device device).mac = none) :
    (detachTarget gateway device).run world = (.error (.assertionError
      ("target " ++ sanitizeMac (world.device device).mac ++ " not attached to gw")),
      world) := by
  unfold detachTarget
  rw [Exec.get_bind_run]
  exact Exec.require_bind_run_not _ _ (not_not_intro absent)

end Attachment

theorem chooseGatewaySet_mem {world : World} {device : DeviceId} {number : SetNumber}
    (chosen : chooseGatewaySet env world device = some number) : number ∈ world.gatewaySets := by
  simp only [chooseGatewaySet] at chosen
  split at chosen
  · rename_i own
    cases chosen
    exact (Finset.mem_filter.mp (Finset.min'_mem _ own)).1
  · split at chosen
    · rename_i member
      cases chosen
      exact member
    · split at chosen
      · rename_i free
        cases chosen
        exact Finset.min'_mem _ free
      · cases chosen

/-- A host without its recorded results. -/
def Host.unrecorded (host : Host) : Host :=
  { host with
    results := .empty
    testName := none
    report := host.report.map fun _ => .empty }

/-- A host without its progress; whether it is terminated stays. -/
def Host.unstaged (host : Host) : Host :=
  { host with
    state := if host.state = .term then .term else .ready
    startupTime := none
    monitorRef := none
    targetIp := none
    life := [] }

/-- A host without what its bookkeeping writes. -/
def Host.bare (host : Host) : Host := host.unrecorded.unstaged

structure Host.Core where
  device : DeviceId
  terminated : Bool
  terminations : Nat
  reported : Bool
  enabledTests : List String

def Host.core (host : Host) : Host.Core where
  device := host.device
  terminated := decide (host.state = .term)
  terminations := host.terminations
  reported := host.report.isNone
  enabledTests := host.enabledTests

theorem Host.core_bare (host : Host) : host.bare.core = host.core := by
  unfold Host.core Host.bare Host.unstaged Host.unrecorded
  by_cases terminated : host.state = .term
  · simp [terminated]
  · simp [terminated]

/-- The state without its hosts and its clock. -/
def World.bare (world : World) : World :=
  { world with
    tick := 0
    hosts := fun _ => { device := 0, gateway := 0, targetMac := "", targetPort := none } }

/-- A computation of one host keeps everything else, and this view of the host
itself. -/
structure KeepsHost (host : HostId) (view : Host → Host) (before after : World) : Prop where
  outside : after.bare = before.bare
  others : ∀ other, other ≠ host → after.hosts other = before.hosts other
  inside : view (after.hosts host) = view (before.hosts host)

def keepsHost (host : HostId) (view : Host → Host) : Frame World where
  rel := KeepsHost host view
  refl := fun _ => ⟨rfl, fun _ _ => rfl, rfl⟩
  trans := fun first second =>
    ⟨second.outside.trans first.outside,
      fun other different => (second.others other different).trans (first.others other different),
      second.inside.trans first.inside⟩

/-- Recording results of a host. -/
def hostRecord (host : HostId) : Frame World := keepsHost host Host.unrecorded

/-- All bookkeeping of a host. -/
def hostLocal (host : HostId) : Frame World := keepsHost host Host.bare

structure Device.Core where
  mac : Mac
  host : Option HostId
  gateway : Option GatewayId
  port : PortId
  setId : Option Nat

def Device.core (device : Device) : Device.Core where
  mac := device.mac
  host := device.host
  gateway := device.gateway
  port := device.port
  setId := device.setId

structure Gateway.Core where
  portSet : SetNumber
  targets : Dict Mac DeviceId
  resultLinger : Bool

def Gateway.core (gateway : Gateway) : Gateway.Core where
  portSet := gateway.portSet
  targets := gateway.targets
  resultLinger := gateway.resultLinger

structure World.Core where
  table : Dict Mac DeviceId
  setIds : Finset Nat
  next : DeviceId
  device : DeviceId → Device.Core
  portNo : PortId → Option Nat
  nextPort : PortId
  ports : Dict Nat PortId
  gateway : GatewayId → Gateway.Core
  nextGateway : GatewayId
  nativeGateway : Option GatewayId
  host : HostId → Host.Core
  nextHost : HostId
  gatewaySets : Finset SetNumber
  portTargets : Dict Nat PortTarget
  setDevices : Nat → Option (Finset DeviceId)
  targetSetQueue : List DeviceId
  resultSets : Dict DeviceId ResultSet
  deliveries : List Delivery
  mishaps : List Mishap

def World.core (world : World) : World.Core where
  table := world.devices.table
  setIds := world.devices.setIds
  next := world.devices.next
  device := fun device => (world.devices.heap device).core
  portNo := fun info => (world.portInfos info).portNo
  nextPort := world.nextPort
  ports := world.ports
  gateway := fun gateway => (world.gateways gateway).core
  nextGateway := world.nextGateway
  nativeGateway := world.nativeGateway
  host := fun host => (world.hosts host).core
  nextHost := world.nextHost
  gatewaySets := world.gatewaySets
  portTargets := world.topology.portTargets
  setDevices := world.topology.setDevices
  targetSetQueue := world.targetSetQueue
  resultSets := world.resultSets
  deliveries := world.deliveries
  mishaps := world.mishaps

theorem note_core (world : World) (notes : List Happening) :
    (world.note notes).core = world.core := rfl

section CoreWrites

variable {world : World}

theorem setDevice_core {device : DeviceId} {update : Device → Device}
    (same : (update (world.device device)).core = (world.device device).core) :
    (world.setDevice device update).core = world.core := by
  have devices : (fun other => ((world.setDevice device update).device other).core) =
      fun other => (world.device other).core := funext (setDevice_view Device.core same)
  calc
    (world.setDevice device update).core = { world.core with device := fun other =>
        ((world.setDevice device update).device other).core } := rfl
    _ = world.core := by rw [devices]; rfl

theorem setGateway_core {gateway : GatewayId} {update : Gateway → Gateway}
    (same : (update (world.gateways gateway)).core = (world.gateways gateway).core) :
    (world.setGateway gateway update).core = world.core := by
  have gateways : (fun other => ((world.setGateway gateway update).gateways other).core) =
      fun other => (world.gateways other).core := funext (setGateway_view Gateway.core same)
  calc
    (world.setGateway gateway update).core = { world.core with gateway := fun other =>
        ((world.setGateway gateway update).gateways other).core } := rfl
    _ = world.core := by rw [gateways]; rfl

theorem setHost_core {host : HostId} {update : Host → Host}
    (same : (update (world.hosts host)).core = (world.hosts host).core) :
    (world.setHost host update).core = world.core := by
  have hosts : (fun other => ((world.setHost host update).hosts other).core) =
      fun other => (world.hosts other).core := funext (setHost_view Host.core same)
  calc
    (world.setHost host update).core = { world.core with host := fun other =>
        ((world.setHost host update).hosts other).core } := rfl
    _ = world.core := by rw [hosts]; rfl

theorem setPortInfo_core {info : PortId} {update : PortInfo → PortInfo}
    (same : (update (world.portInfos info)).portNo = (world.portInfos info).portNo) :
    (world.setPortInfo info update).core = world.core := by
  have numbers : (fun other => ((world.setPortInfo info update).portInfos other).portNo) =
      fun other => (world.portInfos other).portNo :=
    funext (setPortInfo_view PortInfo.portNo same)
  calc
    (world.setPortInfo info update).core = { world.core with portNo := fun other =>
        ((world.setPortInfo info update).portInfos other).portNo } := rfl
    _ = world.core := by rw [numbers]; rfl

end CoreWrites

namespace KeepsHost

variable {host : HostId} {view : Host → Host} {before after : World}

theorem view_eq (kept : KeepsHost host view before after) (other : HostId) :
    view (after.hosts other) = view (before.hosts other) := by
  by_cases same : other = host
  · subst same
    exact kept.inside
  · rw [kept.others other same]

/-- What the view does not hide is the same, of any host. -/
theorem field {β : Type} (kept : KeepsHost host view before after) (component : Host → β)
    (shown : ∀ entry, component (view entry) = component entry) (other : HostId) :
    component (after.hosts other) = component (before.hosts other) := by
  rw [← shown (after.hosts other), kept.view_eq other, shown]

theorem devices (kept : KeepsHost host view before after) : after.devices = before.devices :=
  (congrArg World.devices kept.outside : after.bare.devices = before.bare.devices)

theorem gateways (kept : KeepsHost host view before after) : after.gateways = before.gateways :=
  (congrArg World.gateways kept.outside : after.bare.gateways = before.bare.gateways)

theorem core (kept : KeepsHost host Host.bare before after) : after.core = before.core := by
  have hosts : (fun other => (after.hosts other).core) = fun other => (before.hosts other).core := by
    funext other
    calc
      (after.hosts other).core = (after.hosts other).bare.core := (Host.core_bare _).symm
      _ = (before.hosts other).bare.core := congrArg Host.core (kept.view_eq other)
      _ = (before.hosts other).core := Host.core_bare _
  calc
    after.core = { after.bare.core with host := fun other => (after.hosts other).core } := rfl
    _ = { before.bare.core with host := fun other => (before.hosts other).core } := by
      rw [kept.outside, hosts]
    _ = before.core := rfl

theorem hostLocal (kept : KeepsHost host Host.unrecorded before after) :
    KeepsHost host Host.bare before after :=
  ⟨kept.outside, kept.others, congrArg Host.unstaged kept.inside⟩

end KeepsHost

section HostLocal

variable {view : Host → Host}

theorem keepsHost_setHost {world : World} {host : HostId} {update : Host → Host}
    (same : view (update (world.hosts host)) = view (world.hosts host)) :
    KeepsHost host view world (world.setHost host update) where
  outside := rfl
  others := by
    intro other different
    rw [setHost_hosts, if_neg different]
  inside := setHost_view view same host

theorem within_setHost {host : HostId} {change : World → Host → Host}
    (same : ∀ world, view (change world (world.hosts host)) = view (world.hosts host)) :
    (Exec.modify fun world => world.setHost host (change world) : Run Unit).Within
      (keepsHost host view) :=
  Exec.within_modify fun world => keepsHost_setHost (same world)

theorem callOut_keepsHost (host : HostId) (op : Op) :
    (callOut env op).Within (keepsHost host view) := by
  intro world
  rw [callOut_run_snd]
  exact ⟨rfl, fun _ _ => rfl, rfl⟩

theorem publishResult_hostRecord (host : HostId) (name : Option String) (record : Record) :
    (publishResult env host name record).Within (hostRecord host) := by
  unfold publishResult
  exact Exec.within_bind (Exec.within_when (within_setHost fun _ => rfl)) fun _ =>
    callOut_keepsHost _ _

theorem accumulate_hostRecord (host : HostId) (name : String)
    (change : ReportItem → ReportItem) :
    (accumulate host name change).Within (hostRecord host) := by
  intro world
  unfold accumulate
  rw [Exec.read_bind_run]
  cases report : (world.hosts host).report with
  | none => exact (hostRecord host).refl world
  | some items =>
      simp only [Exec.modify_run]
      refine keepsHost_setHost ?_
      simp [Host.unrecorded, report]

theorem recordResult_hostRecord (host : HostId) (name : Option String) (record : Record) :
    (recordResult env host name record).Within (hostRecord host) := by
  unfold recordResult
  refine Exec.within_bind (within_setHost fun _ => rfl) fun _ => ?_
  refine Exec.within_when ?_
  refine Exec.within_bind (publishResult_hostRecord host name record) fun _ => ?_
  refine Exec.within_bind (Exec.within_whenSome _ fun _ => accumulate_hostRecord _ _ _) fun _ => ?_
  exact Exec.within_bind (Exec.within_whenSome _ fun _ => accumulate_hostRecord _ _ _) fun _ =>
    accumulate_hostRecord _ _ _

theorem recordException_hostRecord (host : HostId) (raised : Exc) :
    (recordException env host raised).Within (hostRecord host) :=
  Exec.within_bind (Exec.within_read _) fun _ => recordResult_hostRecord _ _ _

theorem publishResult_hostLocal (host : HostId) (name : Option String) (record : Record) :
    (publishResult env host name record).Within (hostLocal host) :=
  (publishResult_hostRecord host name record).mono fun _ _ => KeepsHost.hostLocal

theorem recordResult_hostLocal (host : HostId) (name : Option String) (record : Record) :
    (recordResult env host name record).Within (hostLocal host) :=
  (recordResult_hostRecord host name record).mono fun _ _ => KeepsHost.hostLocal

theorem recordException_hostLocal (host : HostId) (raised : Exc) :
    (recordException env host raised).Within (hostLocal host) :=
  (recordException_hostRecord host raised).mono fun _ _ => KeepsHost.hostLocal

theorem stateTransition_hostLocal (host : HostId) {target : HostState}
    (expected : Option HostState) (running : target ≠ .term) :
    (stateTransition host target expected).Within (hostLocal host) := by
  intro world
  unfold stateTransition
  rw [Exec.read_bind_run]
  by_cases awaited : expected = none ∨ expected = some (world.hosts host).state
  · rw [Exec.require_bind_run _ _ awaited]
    by_cases alive : (world.hosts host).state ≠ .term
    · rw [Exec.require_bind_run _ _ alive]
      simp only [Exec.modify_run]
      refine keepsHost_setHost ?_
      simp [Host.bare, Host.unstaged, Host.unrecorded, running, alive]
    · rw [Exec.require_bind_run_not _ _ alive]
      exact (hostLocal host).refl world
  · rw [Exec.require_bind_run_not _ _ awaited]
    exact (hostLocal host).refl world

theorem monitorScan_hostLocal (host : HostId) (timeout : Option Nat) :
    (monitorScan env host timeout).Within (hostLocal host) := by
  unfold monitorScan
  refine Exec.within_bind (Exec.within_read _) fun _ => ?_
  refine Exec.within_bind (Exec.within_require _) fun _ => ?_
  refine Exec.within_bind (callOut_keepsHost _ _) fun _ => ?_
  exact Exec.within_bind (within_setHost fun _ => rfl) fun _ => callOut_keepsHost _ _

theorem monitorCleanup_hostLocal (host : HostId) (forget : Bool) :
    (monitorCleanup env host forget).Within (hostLocal host) := by
  unfold monitorCleanup
  refine Exec.within_bind (Exec.within_read _) fun _ => Exec.within_whenSome _ fun _ => ?_
  refine Exec.within_bind (Exec.within_require _) fun _ => ?_
  refine Exec.within_bind (callOut_keepsHost _ _) fun _ => ?_
  exact Exec.within_bind (Exec.within_when (callOut_keepsHost _ _)) fun _ =>
    within_setHost fun _ => rfl

theorem startRun_hostLocal (host : HostId) : (startRun env host).Within (hostLocal host) := by
  unfold startRun markSkippedTests
  refine Exec.within_bind (stateTransition_hostLocal _ _ (by decide)) fun _ => ?_
  refine Exec.within_bind (Exec.within_bind (Exec.within_read _) fun _ =>
    Exec.within_forEach (fun _ => publishResult_hostLocal _ _ _) _) fun _ => ?_
  refine Exec.within_bind (recordResult_hostLocal _ _ _) fun _ => ?_
  refine Exec.within_bind (recordResult_hostLocal _ _ _) fun _ => ?_
  exact Exec.within_bind (within_setHost fun _ => rfl) fun _ => monitorScan_hostLocal _ _

theorem initializeHost_hostLocal (host : HostId) :
    (initializeHost env host).Within (hostLocal host) := by
  unfold initializeHost
  refine Exec.within_bind (callOut_keepsHost _ _) fun _ => ?_
  refine Exec.within_ite (startRun_hostLocal _) ?_
  refine Exec.within_bind (Exec.within_read _) fun _ => ?_
  exact Exec.within_bind (Exec.within_require _) fun _ => recordResult_hostLocal _ _ _

theorem check_within {α : Type} {frame : Frame World} (outcome : Except Exc α) :
    (check outcome).Within frame := by
  unfold check
  split
  · exact Exec.within_pure _
  · exact Exec.within_raise _

theorem triggerHost_hostLocal (host : HostId) (targetIp : Option String) :
    (triggerHost env host targetIp).Within (hostLocal host) := by
  unfold triggerHost
  refine Exec.within_bind (Exec.within_read _) fun _ => Exec.within_ite ?_ ?_
  · exact Exec.within_bind (Exec.within_require _) fun _ => Exec.within_pure _
  · refine Exec.within_bind (check_within _) fun _ => Exec.within_ite ?_ (Exec.within_pure _)
    refine Exec.within_bind (within_setHost fun _ => rfl) fun _ => ?_
    refine Exec.within_bind (publishResult_hostLocal _ _ _) fun _ => ?_
    refine Exec.within_bind (recordResult_hostLocal _ _ _) fun _ => ?_
    exact Exec.within_bind (stateTransition_hostLocal _ _ (by decide)) fun _ =>
      Exec.within_pure _

theorem notifyActivate_hostLocal (host : HostId) :
    (notifyActivate env host).Within (hostLocal host) := by
  unfold notifyActivate
  refine Exec.within_bind (Exec.within_read _) fun _ => ?_
  exact Exec.within_bind (Exec.within_when (publishResult_hostLocal _ _ _)) fun _ =>
    Exec.within_pure _

end HostLocal

/-! When recording returns. -/

section Returns

variable {world : World} {host : HostId}

theorem report_of_unrecorded {first second : Host} (same : first.unrecorded = second.unrecorded) :
    first.report = none ↔ second.report = none := by
  have reports : first.report.map (fun _ => (Dict.empty : Dict String ReportItem)) =
      second.report.map fun _ => .empty := congrArg Host.report same
  constructor
  · intro absent
    rw [absent, Option.map_none] at reports
    exact Option.map_eq_none_iff.mp reports.symm
  · intro absent
    rw [absent, Option.map_none] at reports
    exact Option.map_eq_none_iff.mp reports

theorem publishResult_returns (name : Option String) (record : Record)
    (publishes : ∀ state, env.fault state (.publishResult host) = none) :
    (publishResult env host name record).Holds world (fun outcome reached =>
      outcome = .ok () ∧ KeepsHost host Host.unrecorded world reached) := by
  refine Exec.Holds.and ?_ ((publishResult_hostRecord host name record).holds world)
  unfold publishResult
  rw [Exec.holds_bind, Exec.holds_when]
  refine ⟨fun _ => ?_, fun _ => ?_⟩
  · rw [Exec.holds_modify, Exec.then_ok, holds_callOut_of_returns (publishes _)]
  · rw [Exec.then_ok, holds_callOut_of_returns (publishes _)]

theorem accumulate_returns (name : String) (change : ReportItem → ReportItem)
    (reported : (world.hosts host).report ≠ none) :
    (accumulate host name change).Holds world (fun outcome reached =>
      outcome = .ok () ∧ KeepsHost host Host.unrecorded world reached) := by
  refine Exec.Holds.and ?_ ((accumulate_hostRecord host name change).holds world)
  obtain ⟨items, present⟩ := Option.ne_none_iff_exists'.mp reported
  unfold accumulate
  rw [Exec.holds_bind, Exec.holds_read, Exec.then_ok, present]
  rfl

/-- A host whose report was not finalized can record anything. -/
theorem recordResult_returns (name : Option String) (record : Record)
    (publishes : ∀ state, env.fault state (.publishResult host) = none)
    (reported : (world.hosts host).report ≠ none) :
    (recordResult env host name record).Holds world (fun outcome reached =>
      outcome = .ok () ∧ KeepsHost host Host.unrecorded world reached) := by
  -- every step returns and leaves a report for the next one
  have step : ∀ {state : World} {program : Run Unit},
      program.Holds state (fun outcome reached =>
        outcome = .ok () ∧ KeepsHost host Host.unrecorded state reached) →
      (state.hosts host).report ≠ none →
      program.Holds state (fun outcome reached =>
        outcome = .ok () ∧ (reached.hosts host).report ≠ none) := by
    intro state program returned present
    refine returned.mono ?_
    rintro outcome reached ⟨equality, kept⟩
    exact ⟨equality, fun absent => present ((report_of_unrecorded kept.inside).mp absent)⟩
  have option : ∀ {α : Type} (value : Option α) (change : α → ReportItem → ReportItem)
      {state : World}, (state.hosts host).report ≠ none →
      (Exec.whenSome value fun given => accumulate host (name.getD "") (change given)).Holds
        state (fun outcome reached =>
          outcome = .ok () ∧ (reached.hosts host).report ≠ none) := by
    intro α value change state present
    rw [Exec.holds_whenSome]
    exact ⟨fun _ => ⟨rfl, present⟩, fun given _ =>
      step (accumulate_returns _ _ present) present⟩
  refine Exec.Holds.and ?_ ((recordResult_hostRecord host name record).holds world)
  unfold recordResult
  rw [Exec.holds_bind, Exec.holds_modify, Exec.then_ok, Exec.holds_when]
  refine ⟨fun _ => ?_, fun _ => rfl⟩
  have still : ((world.setHost host fun entry => { entry with testName := name }).hosts
      host).report ≠ none := by
    rw [setHost_hosts, if_pos rfl]
    exact reported
  refine (step (publishResult_returns name record publishes) still).bind nofun ?_
  rintro _ published ⟨_, present⟩
  refine (option record.exception (fun raised item =>
    { item with exception := some raised.message }) present).bind nofun ?_
  rintro _ excepted ⟨_, present⟩
  refine (option record.code (fun code item => { item with returnCode := code }) present).bind
    nofun ?_
  rintro _ coded ⟨_, present⟩
  exact (accumulate_returns _ _ present).mono fun _ _ returned => returned.1

end Returns

end Daq
