import Daq.Data

namespace Daq

variable (env : Env)

/-- The VLAN nothing is connected to. -/
def dumpVlan : Nat := 999

/-- VLAN that connects the devices of one port set with their gateway. -/
def portSetVlan (portSet : Option Nat) : Nat :=
  if Truthy portSet then 1000 + portSet.getD 0 else dumpVlan

/-- The port set of a device's gateway. -/
def gatewaySet (device : DeviceId) : Run Nat := do
  let world ← Exec.get
  match (world.device device).gateway with
  | none => Exec.raise (.attributeError "'NoneType' object has no attribute 'port_set'")
  | some gateway => pure (world.gateways gateway).portSet.val

def World.setTopology (world : World) (update : Topology → Topology) : World :=
  { world with topology := update world.topology }

/-- Add a device to the devices of its gateway's port set, or, without a port
set to direct it to, remove it; returns the port set and the VLAN to use. -/
def populateSetDevices (device : DeviceId) (portSet : Option Nat) :
    Run (Nat × Option Nat) := do
  let deviceSet ← gatewaySet device
  Exec.require (portSet = some deviceSet ∨ ¬ Truthy portSet) (.assertionError "")
  let before ← Exec.read fun world => world.topology.setDevices deviceSet
  let entry ← Exec.read fun world => world.device device
  Exec.require (Truthy portSet ∨ device ∈ before.getD ∅)
    (.keyError (if before = none then toString deviceSet else sanitizeMac entry.mac))
  Exec.modify fun world => world.setTopology fun topology => { topology with
    setDevices := Function.update topology.setDevices deviceSet
      (some (if Truthy portSet then insert device (before.getD ∅)
        else (before.getD ∅).erase device)) }
  let world ← Exec.get
  let active := (world.topology.setDevices deviceSet).getD ∅ ≠ ∅
  pure (deviceSet, if active then (world.device device).vlan else some dumpVlan)

/-- Modify gateway set's vlan to match triggering vlan. -/
def directDeviceTraffic (device : DeviceId) (portSet : Option Nat) : Run Unit := do
  let (deviceSet, vlan) ← populateSetDevices device portSet
  Exec.require (Truthy vlan) (.assertionError "device has no vlan to direct")
  Exec.require (1 ≤ deviceSet ∧ deviceSet < env.config.secPort)
    (.keyError (toString (deviceSet * 10)))
  Exec.modify fun world => world.setTopology fun topology => { topology with
    setVlan := Function.update topology.setVlan deviceSet (vlan.getD 0) }
  callOut env .generateAcls
  callOut env .behavioralConfig

/-- Enter or delete the target of a port; a port that is directed already only
takes the same target again. -/
def setPortTarget (portNo : Nat) (target : Option PortTarget) : Run Unit := do
  let current ← Exec.read fun world => world.topology.portTargets.get? portNo
  if target.isNone ≠ current.isNone then do
    Exec.modify fun world => world.setTopology fun topology => { topology with
      portTargets := match target with
        | none => topology.portTargets.erase portNo
        | some target => topology.portTargets.insert portNo target }
    callOut env .generateAcls
    Exec.require (1 ≤ portNo ∧ portNo < env.config.secPort) (.keyError s!"{portNo}")
    Exec.modify fun world => world.setTopology fun topology => { topology with
      portVlan := Function.update topology.portVlan portNo
        (portSetVlan (target.map PortTarget.portSet)) }
  else do
    Exec.require (current.isSome = true) (.keyError s!"{portNo}")
    Exec.require (current = target) (.assertionError "")

/-- Direct traffic from a port to specified port set, or, without a target, to
nowhere. -/
def directPortTraffic (device : DeviceId) (portNo : Nat) (target : Option PortTarget) :
    Run Unit := do
  let deviceSet ← gatewaySet device
  let _ ← populateSetDevices device (some deviceSet)
  setPortTarget env portNo target
  callOut env .behavioralConfig

/-- Return the target device group for the given device. -/
def deviceGroupFor (device : Device) : String :=
  if env.config.extFaucet then
    "vlan-" ++ match device.vlan with
      | none => "None"
      | some vlan => toString vlan
  else match env.config.deviceSpecs with
    | none => sanitizeMac device.mac
    | some specs =>
        match specs.get? device.mac with
        | some (some group) => group
        | _ => sanitizeMac device.mac

/-- Return the size of the device group. -/
def deviceGroupSize (group : Option String) : Nat :=
  match env.config.deviceSpecs with
  | none => 1
  | some specs =>
      let count := (specs.values.filter fun member => decide (member = group)).length
      if count = 0 then 1 else count

end Daq
