import Daq.Runner.Core

namespace Daq

variable {env : Env}

/-! Directing traffic: what it does to the topology and when it raises. -/

/-- The device is among the devices of a port set. -/
def World.populated (world : World) (device : DeviceId) (portSet : Nat) : World :=
  world.setTopology fun topology => { topology with
    setDevices := Function.update topology.setDevices portSet
      (some (insert device ((world.topology.setDevices portSet).getD ∅))) }

/-- The port has no target. -/
def World.undirected (world : World) (port : Nat) : World :=
  world.setTopology fun topology => { topology with
    portTargets := topology.portTargets.erase port }

/-- The state without its topology and its clock. -/
def World.offline (world : World) : World :=
  { world with
    tick := 0
    topology := { portVlan := fun _ => 0, setVlan := fun _ => 0 } }

/-- Directing traffic is about the topology only. -/
def topologyOnly : Frame World := .unchanged World.offline

theorem callOut_topologyOnly (op : Op) : (callOut env op).Within topologyOnly := by
  intro world
  rw [callOut_run_snd]
  rfl

theorem setTopology_topologyOnly (change : World → Topology → Topology) :
    (Exec.modify fun world => world.setTopology (change world) : Run Unit).Within topologyOnly :=
  Exec.within_modify fun _ => rfl

theorem gatewaySet_within {frame : Frame World} (device : DeviceId) :
    (gatewaySet device).Within frame := by
  unfold gatewaySet
  refine Exec.within_bind Exec.within_get fun world => ?_
  split
  · exact Exec.within_raise _
  · exact Exec.within_pure _

theorem populateSetDevices_topologyOnly (device : DeviceId) (portSet : Option Nat) :
    (populateSetDevices device portSet).Within topologyOnly := by
  unfold populateSetDevices
  refine Exec.within_bind (gatewaySet_within device) fun _ => ?_
  refine Exec.within_bind (Exec.within_require _) fun _ => ?_
  refine Exec.within_bind (Exec.within_read _) fun _ => ?_
  refine Exec.within_bind (Exec.within_read _) fun _ => ?_
  refine Exec.within_bind (Exec.within_require _) fun _ => ?_
  refine Exec.within_bind (setTopology_topologyOnly _) fun _ => ?_
  exact Exec.within_bind Exec.within_get fun _ => Exec.within_pure _

theorem directDeviceTraffic_topologyOnly (device : DeviceId) (portSet : Option Nat) :
    (directDeviceTraffic env device portSet).Within topologyOnly := by
  unfold directDeviceTraffic
  refine Exec.within_bind (populateSetDevices_topologyOnly device portSet) fun chosen => ?_
  refine Exec.within_bind (Exec.within_require _) fun _ => ?_
  refine Exec.within_bind (Exec.within_require _) fun _ => ?_
  refine Exec.within_bind (setTopology_topologyOnly _) fun _ => ?_
  exact Exec.within_bind (callOut_topologyOnly _) fun _ => callOut_topologyOnly _

theorem setPortTarget_topologyOnly (port : Nat) (target : Option PortTarget) :
    (setPortTarget env port target).Within topologyOnly := by
  unfold setPortTarget
  refine Exec.within_bind (Exec.within_read _) fun _ => Exec.within_ite ?_ ?_
  · refine Exec.within_bind (setTopology_topologyOnly _) fun _ => ?_
    refine Exec.within_bind (callOut_topologyOnly _) fun _ => ?_
    exact Exec.within_bind (Exec.within_require _) fun _ => setTopology_topologyOnly _
  · exact Exec.within_bind (Exec.within_require _) fun _ => Exec.within_require _

theorem directPortTraffic_topologyOnly (device : DeviceId) (port : Nat)
    (target : Option PortTarget) :
    (directPortTraffic env device port target).Within topologyOnly := by
  unfold directPortTraffic
  refine Exec.within_bind (gatewaySet_within device) fun _ => ?_
  refine Exec.within_bind (populateSetDevices_topologyOnly _ _) fun _ => ?_
  exact Exec.within_bind (setPortTarget_topologyOnly _ _) fun _ => callOut_topologyOnly _

variable {world : World} {device : DeviceId} {gateway : GatewayId} {port : Nat}

theorem truthy_setNumber (number : SetNumber) : Truthy (some number.val) := by
  have positive := number.property.1
  simp only [Truthy, Option.getD_some]
  omega

theorem gatewaySet_run (attached : (world.device device).gateway = some gateway) :
    (gatewaySet device).run world = (.ok (world.gateways gateway).portSet.val, world) := by
  unfold gatewaySet
  rw [Exec.get_bind_run, attached]
  rfl

theorem gatewaySet_run_detached (detached : (world.device device).gateway = none) :
    (gatewaySet device).run world = (.error
      (.attributeError "'NoneType' object has no attribute 'port_set'"), world) := by
  unfold gatewaySet
  rw [Exec.get_bind_run, detached]
  rfl

theorem populateSetDevices_run (attached : (world.device device).gateway = some gateway) :
    (populateSetDevices device (some (world.gateways gateway).portSet.val)).run world =
      (.ok ((world.gateways gateway).portSet.val, (world.device device).vlan),
        world.populated device (world.gateways gateway).portSet.val) := by
  have truthy := truthy_setNumber (world.gateways gateway).portSet
  unfold populateSetDevices
  rw [Exec.bind_run_ok (gatewaySet_run attached)]
  rw [Exec.require_bind_run _ _ (Or.inl rfl), Exec.read_bind_run, Exec.read_bind_run]
  rw [Exec.require_bind_run _ _ (Or.inl truthy), Exec.modify_bind_run, Exec.get_bind_run]
  simp only [truthy, ↓reduceIte]
  have active : ((world.populated device (world.gateways gateway).portSet.val).topology.setDevices
      (world.gateways gateway).portSet.val).getD ∅ ≠ ∅ := by
    simp [World.populated, World.setTopology]
  exact congrArg (fun vlan => (Except.ok (_, vlan), _)) (if_pos active)

theorem directPortTraffic_run_detached (target : Option PortTarget)
    (detached : (world.device device).gateway = none) :
    (directPortTraffic env device port target).run world = (.error
      (.attributeError "'NoneType' object has no attribute 'port_set'"), world) :=
  Exec.bind_run_error (gatewaySet_run_detached detached)

theorem directPortTraffic_run (target : Option PortTarget)
    (attached : (world.device device).gateway = some gateway) :
    (directPortTraffic env device port target).run world =
      (do setPortTarget env port target; callOut env .behavioralConfig).run
        (world.populated device (world.gateways gateway).portSet.val) := by
  unfold directPortTraffic
  rw [Exec.bind_run_ok (gatewaySet_run attached), Exec.bind_run_ok (populateSetDevices_run attached)]

theorem setPortTarget_run_absent (absent : world.topology.portTargets.get? port = none) :
    (setPortTarget env port none).run world = (.error (.keyError s!"{port}"), world) := by
  unfold setPortTarget
  rw [Exec.read_bind_run]
  simp only [absent, Option.isNone_none, ne_eq, not_true_eq_false, ↓reduceIte]
  exact Exec.require_bind_run_not _ _ (by simp)

theorem setPortTarget_run_present
    (present : world.topology.portTargets.get? port ≠ none) :
    (setPortTarget env port none).run world =
      (do
        callOut env .generateAcls
        Exec.require (1 ≤ port ∧ port < env.config.secPort) (.keyError s!"{port}")
        Exec.modify fun world => world.setTopology fun topology => { topology with
          portVlan := Function.update topology.portVlan port (portSetVlan none) }).run
        (world.undirected port) := by
  obtain ⟨target, current⟩ := Option.ne_none_iff_exists'.mp present
  unfold setPortTarget
  rw [Exec.read_bind_run]
  simp only [current, Option.isNone_none, Option.isNone_some, ne_eq, Bool.true_eq_false,
    not_false_eq_true, ↓reduceIte]
  rfl

end Daq
