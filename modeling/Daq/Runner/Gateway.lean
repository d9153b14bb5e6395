import Daq.Data

namespace Daq

variable (env : Env)

/-! Operations of one gateway.  The gateway's own containers and monitors are
the environment's. -/

def fakeTarget (gateway : Gateway) : String := "192.168.84." ++ toString gateway.portSet.val

/-- Initialize the gateway host. -/
def gatewayInitialize (gateway : GatewayId) : Run Unit := do
  callOut env (.gatewayInitialize gateway)
  Exec.modify fun world =>
    (world.setGateway gateway fun entry => { entry with hostUp := true }).note [.opened gateway]

/-- Mark this gateway as activated once all hosts are present. -/
def gatewayActivate (gateway : GatewayId) : Run Unit := do
  Exec.modify fun world => world.setGateway gateway fun entry => { entry with activated := true }
  callOut env (.gatewayActivate gateway)

/-- The targets as they are printed; a MAC has neither quotes nor backslashes. -/
def World.targetsText (world : World) (gateway : GatewayId) : String :=
  "\x7b" ++ ", ".intercalate ((world.gateways gateway).targets.entries.map fun entry =>
    "'" ++ entry.1 ++ "': " ++ sanitizeMac (world.device entry.2).mac) ++ "\x7d"

/-- Terminate this instance. -/
def gatewayTerminate (gateway : GatewayId) : Run Unit := do
  let world ← Exec.get
  Exec.require ((world.gateways gateway).targets.size = 0)
    (.assertionError ("gw " ++ (world.gateways gateway).name ++ " has targets " ++
      world.targetsText gateway))
  Exec.modify fun world =>
    (world.setGateway gateway fun entry => { entry with hostUp := false }).note
      [.terminated gateway]
  callOut env (.gatewayTerminate gateway)

/-- Stops DHCP response for the device; only a gateway that runs a DHCP server
can. -/
def stopDhcpResponse (gateway : GatewayId) (device : DeviceId) : Run Unit := do
  let entry ← Exec.read fun world => world.gateways gateway
  match entry.kind with
  | .external =>
      Exec.raise (.attributeError
        "'ExternalGateway' object has no attribute 'stop_dhcp_response'")
  | .container => callOut env (.stopDhcpResponse gateway device)

/-- A registered member of the device's group has the gateway, and is not among
the gateway's targets. -/
def StrayMember (world : World) (gateway : GatewayId) (device : DeviceId) : Prop :=
  ∃ member ∈ world.devices.table.values,
    (world.device member).group = (world.device device).group ∧
      (world.device member).gateway = some gateway ∧
      (world.gateways gateway).targets.get? (world.device member).mac ≠ some member

instance (world : World) (gateway : GatewayId) (device : DeviceId) :
    Decidable (StrayMember world gateway device) :=
  inferInstanceAs (Decidable (∃ member ∈ world.devices.table.values, _))

/-- Attach the given target to this gateway. -/
def attachTarget (gateway : GatewayId) (device : DeviceId) : Run Unit := do
  let world ← Exec.get
  let mac := (world.device device).mac
  Exec.require ((world.gateways gateway).targets.get? mac = none)
    (.assertionError ("target " ++ sanitizeMac mac ++ " already attached to gw"))
  Exec.modify fun world =>
    (world.setGateway gateway fun entry =>
      { entry with targets := entry.targets.insert mac device }).note
      [.attached gateway device (decide (StrayMember world gateway device))]

/-- Detach the given target from this gateway; return number of remaining
targets.  The ready set is left alone. -/
def detachTarget (gateway : GatewayId) (device : DeviceId) : Run Nat := do
  let world ← Exec.get
  let mac := (world.device device).mac
  Exec.require ((world.gateways gateway).targets.get? mac ≠ none)
    (.assertionError ("target " ++ sanitizeMac mac ++ " not attached to gw"))
  Exec.modify fun world =>
    (world.setGateway gateway fun entry =>
      { entry with targets := entry.targets.erase mac }).note
      [.detached gateway device ((world.gateways gateway).targets.erase mac).size]
  Exec.read fun world => (world.gateways gateway).targets.size

/-- Mark a target ready, and return set of ready targets. -/
def targetReady (gateway : GatewayId) (device : DeviceId) : Run (List DeviceId) := do
  Exec.modify fun world => world.setGateway gateway fun entry =>
    { entry with ready := if device ∈ entry.ready then entry.ready
        else entry.ready ++ [device] }
  Exec.read fun world => (world.gateways gateway).ready

def switchPort (gateway : Gateway) (offset : Nat) : Nat := gateway.portSet.val * 10 + offset

/-- The search of `allocate_test_port`, bounded by the ports in use. -/
def testPortFrom (taken : Finset Nat) : Nat → Nat → Nat
  | 0, candidate => candidate
  | fuel + 1, candidate =>
      if candidate ∈ taken then testPortFrom taken fuel (candidate + 1) else candidate

/-- Get the test port to use for this gateway setup. -/
def allocateTestPort (gateway : GatewayId) : Run Nat := do
  let entry ← Exec.read fun world => world.gateways gateway
  let testPort := testPortFrom entry.testPorts entry.testPorts.card (switchPort entry 2)
  Exec.require (testPort < switchPort entry 6) (.assertionError "no test ports available")
  Exec.modify fun world => world.setGateway gateway fun entry =>
    { entry with testPorts := insert testPort entry.testPorts }
  pure testPort

/-- Release the given port from the gateway. -/
def releaseTestPort (gateway : GatewayId) (testPort : Option Nat) : Run Unit := do
  let entry ← Exec.read fun world => world.gateways gateway
  match testPort with
  | none => Exec.raise (.assertionError "test port not allocated")
  | some port => do
      Exec.require (port ∈ entry.testPorts) (.assertionError "test port not allocated")
      Exec.modify fun world => world.setGateway gateway fun entry =>
        { entry with testPorts := entry.testPorts.erase port }

end Daq
