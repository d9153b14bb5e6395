import Daq.Runner.Loop
import Daq.Runner.Traffic

namespace Daq

variable {env : Env}

/-! Which ports are connected.  The VLAN of a device port is written beside the
map of targets, and the two have to agree after every call. -/

namespace Topology

/-- The VLAN a port has by its target. -/
def getPortVlan (topology : Topology) (port : Nat) : Nat :=
  portSetVlan ((topology.portTargets.get? port).map PortTarget.portSet)

/-- The port's target belongs to the gateway of the port set. -/
def TargetsSet (topology : Topology) (port set : Nat) : Prop :=
  ∃ target, topology.portTargets.get? port = some target ∧ target.portSet = set

/-- The switches of a port-triggered network: VLANs are as the targets say. -/
structure Directed (topology : Topology) (secPort : Nat) : Prop where
  native : ∀ port, 1 ≤ port → port < secPort →
    topology.portVlan port = topology.getPortVlan port
  gateways : ∀ set, topology.setVlan set = portSetVlan (some set)
  targets : ∀ port target, topology.portTargets.get? port = some target → 1 ≤ target.portSet

/-- Device groups are completely sequestered from each other. -/
structure Sequestered (topology : Topology) (secPort : Nat) : Prop where
  directed : ∀ port, 1 ≤ port → port < secPort → ∀ target,
    topology.portTargets.get? port = some target →
      topology.portVlan port = 1000 + target.portSet
  dumped : ∀ port, 1 ≤ port → port < secPort →
    topology.portTargets.get? port = none → topology.portVlan port = dumpVlan
  gateways : ∀ set, 1 ≤ set → set < secPort → topology.setVlan set = 1000 + set
  /-- Two ports are connected exactly if their targets are of one gateway. -/
  ports : ∀ first second, 1 ≤ first → first < secPort → 1 ≤ second → second < secPort →
    (topology.portVlan first = topology.portVlan second ∧ topology.portVlan first ≠ dumpVlan ↔
      ∃ set, topology.TargetsSet first set ∧ topology.TargetsSet second set)
  /-- A port and a gateway are connected exactly if the target is of the
  gateway. -/
  uplinks : ∀ port set, 1 ≤ port → port < secPort → 1 ≤ set → set < secPort →
    (topology.portVlan port = topology.setVlan set ↔ topology.TargetsSet port set)

end Topology

theorem portSetVlan_some {set : Nat} (positive : 1 ≤ set) :
    portSetVlan (some set) = 1000 + set := by
  have truthy : Truthy (some set) := by
    simp only [Truthy, Option.getD_some]
    omega
  unfold portSetVlan
  rw [if_pos truthy, Option.getD_some]

theorem portSetVlan_none : portSetVlan none = dumpVlan := rfl

namespace Topology.Directed

variable {topology : Topology} {secPort port : Nat}

theorem vlan_of_target (directed : topology.Directed secPort) (low : 1 ≤ port)
    (high : port < secPort) {target : PortTarget}
    (present : topology.portTargets.get? port = some target) :
    topology.portVlan port = 1000 + target.portSet := by
  rw [directed.native port low high, getPortVlan, present, Option.map_some]
  exact portSetVlan_some (directed.targets port target present)

theorem vlan_of_absent (directed : topology.Directed secPort) (low : 1 ≤ port)
    (high : port < secPort) (absent : topology.portTargets.get? port = none) :
    topology.portVlan port = dumpVlan := by
  rw [directed.native port low high, getPortVlan, absent]
  rfl

/-- The VLAN of a port is that of a port set exactly for a target of the set. -/
theorem vlan_eq_iff (directed : topology.Directed secPort) (low : 1 ≤ port)
    (high : port < secPort) (set : Nat) (positive : 1 ≤ set) :
    topology.portVlan port = 1000 + set ↔ topology.TargetsSet port set := by
  cases current : topology.portTargets.get? port with
  | none =>
      rw [directed.vlan_of_absent low high current]
      constructor
      · intro same
        unfold dumpVlan at same
        omega
      · rintro ⟨target, present, _⟩
        cases current.symm.trans present
  | some target =>
      rw [directed.vlan_of_target low high current]
      constructor
      · intro same
        exact ⟨target, current, by omega⟩
      · rintro ⟨other, present, belongs⟩
        cases current.symm.trans present
        rw [belongs]

theorem vlan_ne_dump (directed : topology.Directed secPort) (low : 1 ≤ port)
    (high : port < secPort) (connected : topology.portVlan port ≠ dumpVlan) :
    ∃ set, 1 ≤ set ∧ topology.portVlan port = 1000 + set := by
  cases current : topology.portTargets.get? port with
  | none => exact absurd (directed.vlan_of_absent low high current) connected
  | some target =>
      exact ⟨target.portSet, directed.targets port target current,
        directed.vlan_of_target low high current⟩

theorem sequestered (directed : topology.Directed secPort) : topology.Sequestered secPort where
  directed := fun _ low high _ present => directed.vlan_of_target low high present
  dumped := fun _ low high absent => directed.vlan_of_absent low high absent
  gateways := by
    intro set positive _
    rw [directed.gateways set, portSetVlan_some positive]
  ports := by
    intro first second low high low' high'
    constructor
    · rintro ⟨shared, connected⟩
      obtain ⟨set, positive, vlan⟩ := directed.vlan_ne_dump low high connected
      refine ⟨set, (directed.vlan_eq_iff low high set positive).mp vlan, ?_⟩
      exact (directed.vlan_eq_iff low' high' set positive).mp (shared ▸ vlan)
    · rintro ⟨set, ours, theirs⟩
      obtain ⟨target, present, belongs⟩ := ours
      have positive : 1 ≤ set := belongs ▸ directed.targets first target present
      have vlan := (directed.vlan_eq_iff low high set positive).mpr ⟨target, present, belongs⟩
      refine ⟨vlan.trans ((directed.vlan_eq_iff low' high' set positive).mpr theirs).symm, ?_⟩
      rw [vlan]
      unfold dumpVlan
      omega
  uplinks := by
    intro port set low high positive _
    rw [directed.gateways set, portSetVlan_some positive]
    exact directed.vlan_eq_iff low high set positive

theorem retarget (directed : topology.Directed secPort) (target : Option PortTarget)
    {targets : Dict Nat PortTarget} (entered : targets.get? port = target)
    (others : ∀ other, other ≠ port → targets.get? other = topology.portTargets.get? other)
    (positive : ∀ chosen, target = some chosen → 1 ≤ chosen.portSet) :
    ({ topology with
        portTargets := targets
        portVlan := Function.update topology.portVlan port
          (portSetVlan (target.map PortTarget.portSet)) } : Topology).Directed secPort where
  native := by
    intro other low high
    simp only [getPortVlan]
    by_cases same : other = port
    · rw [same, Function.update_self, entered]
    · rw [Function.update_of_ne same, others other same]
      exact directed.native other low high
  gateways := directed.gateways
  targets := by
    intro other chosen present
    by_cases same : other = port
    · rw [same, entered] at present
      exact positive chosen present
    · rw [others other same] at present
      exact directed.targets other chosen present

/-- A port that is no device port has no VLAN to follow its target. -/
theorem retarget_outside (directed : topology.Directed secPort) (target : Option PortTarget)
    {targets : Dict Nat PortTarget} (entered : targets.get? port = target)
    (others : ∀ other, other ≠ port → targets.get? other = topology.portTargets.get? other)
    (positive : ∀ chosen, target = some chosen → 1 ≤ chosen.portSet)
    (outside : ¬ (1 ≤ port ∧ port < secPort)) :
    ({ topology with portTargets := targets } : Topology).Directed secPort where
  native := by
    intro other low high
    have different : other ≠ port := fun same => outside (same ▸ ⟨low, high⟩)
    simp only [getPortVlan]
    rw [others other different]
    exact directed.native other low high
  gateways := directed.gateways
  targets := (directed.retarget target entered others positive).targets

end Topology.Directed

/-- The entry `setPortTarget` makes. -/
def retargeted (targets : Dict Nat PortTarget) (port : Nat) :
    Option PortTarget → Dict Nat PortTarget
  | none => targets.erase port
  | some target => targets.insert port target

theorem retargeted_self (targets : Dict Nat PortTarget) (port : Nat)
    (target : Option PortTarget) : (retargeted targets port target).get? port = target := by
  cases target with
  | none => exact Dict.get?_erase_self targets port
  | some target => exact Dict.get?_insert_self targets port target

theorem retargeted_of_ne (targets : Dict Nat PortTarget) {port other : Nat}
    (different : other ≠ port) (target : Option PortTarget) :
    (retargeted targets port target).get? other = targets.get? other := by
  cases target with
  | none => exact Dict.get?_erase_of_ne targets different
  | some target => exact Dict.get?_insert_of_ne targets target different

variable {world : World}

theorem setPortTarget_directed (port : Nat) (target : Option PortTarget)
    (generates : ∀ world, env.fault world .generateAcls = none)
    (positive : ∀ chosen, target = some chosen → 1 ≤ chosen.portSet)
    (directed : world.topology.Directed env.config.secPort) :
    (setPortTarget env port target).Holds world
      (fun _ after => after.topology.Directed env.config.secPort) := by
  have entered := retargeted_self world.topology.portTargets port target
  have others : ∀ other, other ≠ port →
      (retargeted world.topology.portTargets port target).get? other =
        world.topology.portTargets.get? other :=
    fun _ different => retargeted_of_ne world.topology.portTargets different target
  unfold setPortTarget
  rw [Exec.holds_bind, Exec.holds_read, Exec.then_ok, Exec.holds_ite]
  refine ⟨fun changed => ?_, fun same => ?_⟩
  · rw [Exec.holds_bind, Exec.holds_modify, Exec.then_ok, Exec.holds_bind,
      holds_callOut_of_returns (generates _), Exec.then_ok, Exec.holds_bind, Exec.holds_require]
    refine ⟨fun inside => ?_, fun outside => ?_⟩
    · rw [Exec.then_ok, Exec.holds_modify]
      have next := directed.retarget target entered others positive
      cases target <;> exact next
    · rw [Exec.then_error]
      have next := directed.retarget_outside target entered others positive outside
      cases target <;> exact next
  · -- the no-change shortcut: nothing is written, whichever way it ends
    rw [Exec.holds_bind, Exec.holds_require]
    refine ⟨fun _ => ?_, fun _ => ?_⟩
    · rw [Exec.then_ok, Exec.holds_require]
      exact ⟨fun _ => directed, fun _ => directed⟩
    · exact directed

theorem directPortTraffic_directed (device : DeviceId) (port : Nat) (target : Option PortTarget)
    (generates : ∀ world, env.fault world .generateAcls = none)
    (positive : ∀ chosen, target = some chosen → 1 ≤ chosen.portSet)
    (directed : world.topology.Directed env.config.secPort) :
    (directPortTraffic env device port target).Holds world
      (fun _ after => after.topology.Directed env.config.secPort) := by
  cases attached : (world.device device).gateway with
  | none =>
      rw [Exec.holds_of_run (directPortTraffic_run_detached target attached)]
      exact directed
  | some gateway =>
      rw [Exec.holds_congr (directPortTraffic_run target attached)]
      -- the set of devices is not read for a VLAN
      have populated : (world.populated device
          (world.gateways gateway).portSet.val).topology.Directed env.config.secPort :=
        ⟨directed.native, directed.gateways, directed.targets⟩
      refine (setPortTarget_directed port target generates positive populated).bind
        (fun _ _ kept => kept) fun _ reached kept => ?_
      exact (callOut_ticks env _ reached).mono fun _ _ ticked => ticked ▸ kept

/-- Calls that direct the traffic of a device port, and whatever the runner
does between two of them. -/
inductive TrafficCall
  | direct (device : DeviceId) (port : Nat) (target : Option PortTarget)
  | elsewhere (world : World)

namespace TrafficCall

def perform (env : Env) : TrafficCall → Run Unit
  | .direct device port target => directPortTraffic env device port target
  | .elsewhere world => Exec.modify fun _ => world

def step (env : Env) (call : TrafficCall) (world : World) : World :=
  ((call.perform env).run world).2

/-- Activation directs a device's port to the device's gateway, cancellation to
nowhere; nothing else touches the topology. -/
def MadeByRunner (world : World) : TrafficCall → Prop
  | .direct _ _ none => True
  | .direct device _ (some target) => ∃ gateway,
      (world.device device).gateway = some gateway ∧
        target.portSet = (world.gateways gateway).portSet.val
  | .elsewhere after => after.topology = world.topology

theorem step_directed (generates : ∀ world, env.fault world .generateAcls = none)
    (call : TrafficCall) (made : call.MadeByRunner world)
    (directed : world.topology.Directed env.config.secPort) :
    (call.step env world).topology.Directed env.config.secPort := by
  cases call with
  | elsewhere after =>
      have same : after.topology = world.topology := made
      exact same ▸ directed
  | direct device port target =>
      refine directPortTraffic_directed device port target generates ?_ directed
      rintro chosen rfl
      obtain ⟨gateway, _, belongs⟩ := made
      rw [belongs]
      exact (world.gateways gateway).portSet.property.1

end TrafficCall

theorem initialWorld_directed (portTrigger : env.config.vlanTrigger = false) :
    (initialWorld env).topology.Directed env.config.secPort := by
  constructor
  · intro port _ _
    simp [initialWorld, portTrigger, Topology.getPortVlan, portSetVlan_none]
  · intro set
    simp [initialWorld, portTrigger]
  · intro port target present
    cases present

/-- VLAN isolation of device groups. -/
theorem reached_sequestered (portTrigger : env.config.vlanTrigger = false)
    (generates : ∀ world, env.fault world .generateAcls = none)
    (reached : Reaches (TrafficCall.step env) TrafficCall.MadeByRunner (initialWorld env) world) :
    world.topology.Sequestered env.config.secPort := by
  have directed := reached.invariant (fun world => world.topology.Directed env.config.secPort)
    (initialWorld_directed portTrigger)
    fun _ call kept made => call.step_directed generates made kept
  exact directed.sequestered

section Example

def labConfig : Config where
  secPort := 7

/-- Two devices of one gateway and a device of another one. -/
def labWorld : World :=
  let member (gateway : GatewayId) (mac : Mac) : Device :=
    { mac := mac, port := 0, gateway := some gateway }
  ((((initialWorld (.quiet labConfig)).setDevice 0 fun _ => member 0 "9a:02:57:1e:8f:01").setDevice
    1 fun _ => member 0 "9a:02:57:1e:8f:02").setDevice
    2 fun _ => member 1 "9a:02:57:1e:8f:03").setGateway
    1 fun entry => { entry with portSet := ⟨2, by decide⟩ }

def labTarget (port portSet : Nat) (mac : Mac) : PortTarget where
  port := port
  group := "lab"
  fake := "192.168.84.1"
  portSet := portSet
  mac := mac

/-- All three devices are directed, and then one is cancelled. -/
def labRun : World :=
  let env := Env.quiet labConfig
  TrafficCall.step env (.direct 1 2 none)
    (TrafficCall.step env (.direct 2 3 (some (labTarget 3 2 "9a:02:57:1e:8f:03")))
      (TrafficCall.step env (.direct 1 2 (some (labTarget 2 1 "9a:02:57:1e:8f:02")))
        (TrafficCall.step env (.direct 0 1 (some (labTarget 1 1 "9a:02:57:1e:8f:01")))
          (TrafficCall.step env (.elsewhere labWorld) (initialWorld env)))))

theorem labRun_sequestered :
    [1, 2, 3].map labRun.topology.portVlan = [1001, dumpVlan, 1002] ∧
      labRun.topology.Sequestered 7 := by
  refine ⟨by decide, ?_⟩
  refine @reached_sequestered (.quiet labConfig) labRun rfl (fun _ => rfl) ?_
  refine .step _ (.step _ (.step _ (.step _ (.step _ .start ?_) ?_) ?_) ?_) ?_
  · rfl
  · exact ⟨0, rfl, rfl⟩
  · exact ⟨0, rfl, rfl⟩
  · exact ⟨1, rfl, rfl⟩
  · trivial

end Example

end Daq
