import Daq.Runner.Teardown
import Mathlib.Data.Finset.Max

namespace Daq

variable (env : Env)

/-! Bringing a device up: its gateway, its host and the first traffic to it. -/

def registeredDevices (world : World) : List DeviceId := world.devices.table.values

/-- Get devices with hosts. -/
def getTriggeredDevices (world : World) : List DeviceId :=
  (registeredDevices world).filter fun device => (world.device device).host.isSome

def getByGroup (world : World) (group : Option String) : List DeviceId :=
  (registeredDevices world).filter fun device => decide ((world.device device).group = group)

/-- Get devices under specified gateway. -/
def getByGateway (world : World) (gateway : GatewayId) : List DeviceId :=
  (registeredDevices world).filter fun device =>
    decide ((world.device device).gateway = some gateway)

/-- The free set number with the device's port number if there is one, else
any free one. -/
def chooseGatewaySet (world : World) (device : DeviceId) : Option SetNumber :=
  let sets := world.gatewaySets
  let preferred := sets.filter fun setNum => (world.portInfo device).portNo = some setNum.val
  if own : preferred.Nonempty then some (preferred.min' own)
  else if env.popSet world ∈ sets then some (env.popSet world)
  else if free : sets.Nonempty then some (sets.min' free)
  else none

def findGatewaySet (device : DeviceId) : Run SetNumber := do
  let world ← Exec.get
  match chooseGatewaySet env world device with
  | none => Exec.raise (.exception "Could not allocate open gateway set")
  | some setNum => do
      Exec.modify fun world => { world with
        gatewaySets := world.gatewaySets.erase setNum
        trail := world.trail ++ [.taken setNum] }
      pure setNum

/-- The gateway of the device's group, new if the group has none. -/
def createGateway (device : DeviceId) : Run GatewayId := do
  let world ← Exec.get
  match world.nativeGateway with
  | some gateway => pure gateway
  | none => do
      let group := (world.device device).group
      let existing := ((getByGroup world group).filterMap fun member =>
        (world.device member).gateway).dedup
      Exec.require (existing.length ≤ 1)
        (.assertionError "only one existing gateway per group allowed")
      match existing with
      | gateway :: _ => pure gateway
      | [] => do
          let setNum ← findGatewaySet env device
          let gateway ← Exec.read World.nextGateway
          Exec.modify fun world => { world with
            nextGateway := gateway + 1
            gateways := Function.update world.gateways gateway
              { name := group.getD "None"
                portSet := setNum
                kind := if (world.device device).dhcpMode = some .external then .external
                  else .container } }
          Exec.attempt (gatewayInitialize env gateway) fun raised => do
            Exec.modify fun world => { world with
              gatewaySets := insert setNum world.gatewaySets
              trail := world.trail ++ [.returned setNum] }
            Exec.raise raised
          pure gateway

def enabledTests (config : ModuleConfig) : List String :=
  env.config.testList.filter config.enabled

/-- Construct a host for a device; a failing construction leaves no object. -/
def connectedHost (device : DeviceId) : Run HostId := do
  callOut env (.connectedHost device)
  let world ← Exec.get
  let config := env.loadConfig world (world.device device).mac
  let started : Result := { name := some "startup" }
  Exec.modify fun world => { world with
    nextHost := world.nextHost + 1
    hosts := Function.update world.hosts world.nextHost
      { device := device
        gateway := (world.device device).gateway.getD 0
        targetMac := (world.device device).mac
        targetPort := (world.portInfo device).portNo
        loadedConfig := config
        enabledTests := enabledTests env config
        remainingTests := enabledTests env config
        testName := some "startup"
        report := some (Dict.empty.insert "startup" {})
        results := (Dict.empty.insert "startup" started).insert "info" { name := some "info" } }
    trail := world.trail ++ [.created device] }
  pure world.nextHost

/-- Tests that are not enabled get a result of their own. -/
def markSkippedTests (host : HostId) : Run Unit := do
  let entry ← Exec.read fun world => world.hosts host
  Exec.forEach (env.config.testList.filter fun test => !entry.loadedConfig.enabled test)
    fun test => publishResult env host (some test) {}

def startRun (host : HostId) : Run Unit := do
  stateTransition host .init (some .ready)
  markSkippedTests env host
  recordResult env host (some "startup") {}
  recordResult env host (some "sanity") {}
  Exec.modify fun world => world.setHost host fun entry =>
    { entry with startupTime := some (env.now world) }
  monitorScan env host none

/-- Fully initialize a new host set. -/
def initializeHost (host : HostId) : Run Unit := do
  callOut env (.hostInitialize host)
  if env.config.testList ≠ [] then startRun env host
  else do
    let entry ← Exec.read fun world => world.hosts host
    Exec.require (entry.state = .ready) (.assertionError "state is not holding")
    recordResult env host (some "startup") {}

def TargetSetHasCapacity (world : World) : Prop :=
  ¬ Truthy env.config.maxHosts ∨
    (getTriggeredDevices world).length < env.config.maxHosts.getD 0

instance (world : World) : Decidable (TargetSetHasCapacity env world) :=
  inferInstanceAs (Decidable (_ ∨ _))

variable (drain : Run Unit)

/-- The gateway a device is to use, unless there is none to be had. -/
def targetSetGateway (device : DeviceId) (externalDhcp : Bool) :
    Run (Option GatewayId) :=
  Exec.attempt
    (do
      Exec.modify fun world => world.setDevice device fun entry =>
        { entry with group := some (deviceGroupFor env entry) }
      let gateway ← createGateway env device
      let entry ← Exec.read fun world => world.gateways gateway
      -- a group that is already being tested takes no further members
      if entry.activated ∧ ¬ externalDhcp then pure none else pure (some gateway))
    (fun _ => do
      Exec.when (env.config.failMode = true) <|
        Exec.modify fun world => { world with runTests := false }
      pure none)

/-- Create the device's host and direct traffic to it. -/
def targetSetHost (device : DeviceId) (gateway : GatewayId) : Run Unit := do
  Exec.modify fun world => { world with runCount := world.runCount + 1 }
  let host ← connectedHost env device
  Exec.modify fun world => world.setDevice device fun entry => { entry with host := some host }
  Exec.modify fun world => world.setHost host fun entry =>
    { entry with dhcpListeners := entry.dhcpListeners + 1 }
  initializeHost env host
  let world ← Exec.get
  let entry := world.gateways gateway
  match (world.portInfo device).portNo with
  | some portNo => directPortTraffic env device portNo (some
      { port := portNo
        group := (world.device device).group.getD ""
        fake := fakeTarget entry
        portSet := entry.portSet.val
        mac := (world.device device).mac })
  | none => directDeviceTraffic env device (some entry.portSet.val)

def targetSetActivate (device : DeviceId) : Run Bool := do
  let world ← Exec.get
  let externalDhcp := decide ((world.device device).dhcpMode = some .external)
  let portInfo := world.portInfo device
  Exec.require (portInfo.portNo = none ∨ portInfo.active)
    (.assertionError s!"Target port {portInfo.portNo.getD 0} is not active")
  let gateway ← targetSetGateway env device externalDhcp
  match gateway with
  | none => pure false
  | some gateway => do
      Exec.when (externalDhcp = false) (stopDhcpResponse env gateway device)
      attachTarget gateway device
      Exec.modify fun world => world.setDevice device fun entry =>
        { entry with gateway := some gateway }
      Exec.attempt
        (do
          targetSetHost env device gateway
          pure true)
        (fun raised => do
          targetSetError env drain device raised
          pure false)

def targetSetTrigger (device : DeviceId) (remoteTrigger : Bool) : Run Unit := do
  let world ← Exec.get
  let entry := world.device device
  Exec.require (world.Registered device)
    (.assertionError ("Target device " ++ sanitizeMac entry.mac ++ " is not expected"))
  if ¬ world.systemActive ∨ entry.host.isSome ∨ ¬ world.runTests ∨
      (entry.waitRemote ∧ ¬ remoteTrigger) ∨ device ∈ world.targetSetQueue then pure ()
  else do
    Exec.modify fun world =>
      (world.setDevice device fun entry => { entry with waitRemote := false }).note
        (.triggered device :: if TargetSetHasCapacity env world then
          [.activated device false world.targetSetQueue] else [])
    if TargetSetHasCapacity env world then do
      let _ ← targetSetActivate env drain device
      pure ()
    else
      Exec.modify fun world => { world with
        targetSetQueue := world.targetSetQueue ++ [device]
        trail := world.trail ++ [.queued device] }

def targetSetConsider : Run Unit := do
  let world ← Exec.get
  match world.targetSetQueue with
  | [] => pure ()
  | device :: rest =>
      if TargetSetHasCapacity env world then do
        Exec.modify fun world => { world with
          targetSetQueue := rest
          trail := world.trail ++ [.activated device true rest] }
        let _ ← targetSetActivate env drain device
        pure ()
      else pure ()

end Daq
