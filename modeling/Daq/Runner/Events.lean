import Daq.Runner.Activation

namespace Daq

variable (env : Env)

/-! Faucet events, sessions and what they trigger. -/

/-- The runner's own heartbeat, also sent to every open session.  A session
that has not been streamed for too long is closed. -/
def sendHeartbeat : Run Unit := do
  callOut env .publishHeartbeat
  Exec.when (env.config.deviceReporting = true) <|
    Exec.modify fun world => { world with
      sessions := world.sessions.mapValues fun mac items =>
        items ++ [if env.stale world mac then .close else .progress] }

def IsPortActive (world : World) (port : Nat) : Prop :=
  ∃ info, world.ports.get? port = some info ∧ (world.portInfos info).active = true

/-- Get a device using its port info object. -/
def getByPortInfo (world : World) (info : PortId) : Option DeviceId :=
  (registeredDevices world).find? fun device => decide ((world.device device).port = info)

def deactivatePort (info : PortId) : Run Unit :=
  Exec.modify fun world => world.setPortInfo info fun entry => { entry with active := false }

/-- Check if the dpid/port combo is the system trunk port. -/
def IsSystemPort (dpid port : Nat) : Prop := dpid = 1 ∧ port = 1

instance (dpid port : Nat) : Decidable (IsSystemPort dpid port) :=
  inferInstanceAs (Decidable (_ ∧ _))

/-- Check if the dpid/port combo is for a valid device. -/
def IsDevicePort (dpid port : Nat) : Prop :=
  (if Truthy env.config.secDpid then env.config.secDpid else none) = some dpid ∧
    port < env.config.secPort

instance (dpid port : Nat) : Decidable (IsDevicePort env dpid port) :=
  inferInstanceAs (Decidable (_ ∧ _))

/-- A device port going down.  A running device starts flapping; traffic of a
device that is not running is directed away before the port is marked. -/
def handlePortDown (port : Nat) (info : PortId) : Run Unit := do
  let world ← Exec.get
  let device := getByPortInfo world info
  let running := device.any fun device => (world.device device).host.isSome
  Exec.when (running = true ∧ ¬ Truthy (world.portInfos info).flappingStart) <|
    Exec.modify fun world =>
      (world.setPortInfo info fun entry =>
        { entry with flappingStart := some (env.now world) }).note
        [.portDown info (env.now world)]
  let entry ← Exec.read fun world => world.portInfos info
  Exec.when (entry.active = true) do
    Exec.whenSome device fun device =>
      Exec.when (¬ Truthy entry.flappingStart) (directPortTraffic env device port none)
    deactivatePort info

section Reentrant

variable (drain : Run Unit)

/-- Every device with a host is failed, one after the other. -/
def terminateAll : Run Unit := do
  let world ← Exec.get
  Exec.forEach (getTriggeredDevices world) fun device =>
    targetSetError env drain device (.daqException "terminated")

/-- Shutdown this runner by closing all active components. -/
def shutdown : Run Unit := do
  terminateAll env drain
  Exec.modify fun world => { world with faucetEvents := false }
  sendHeartbeat env

def handlePortState (dpid port : Nat) (active : Bool) : Run Unit := do
  let world ← Exec.get
  if IsSystemPort dpid port then do
    Exec.when (world.systemActive = true ∧ active = false) do
      Exec.modify fun world =>
        { world with exception := some (.daqException "System port inactive") }
      shutdown env drain
    Exec.modify fun world => { world with systemActive := active }
  else Exec.when (IsDevicePort env dpid port) do
    Exec.when (active = true) (activatePort port)
    Exec.when (active = false) <|
      Exec.whenSome (world.ports.get? port) (handlePortDown env port)
    sendHeartbeat env

/-- History only: the device is new, and its port's number is a set id. -/
def notePort (mac : Mac) (portNo : Option Nat) (world : World) : World :=
  if world.devices.table.get? mac = none ∧ Truthy portNo ∧
      portNo.getD 0 ∈ world.devices.setIds then
    { world with mishaps := world.mishaps ++ [.portTaken mac] }
  else world

/-- The registry's own creation, with a fresh port info if none is given. -/
def createIfAbsent (mac : Mac) (port : Option PortId) (vlan : Option Nat) : Run DeviceId := do
  let world ← Exec.get
  let info := port.getD world.nextPort
  let portNo := port.bind fun info => (world.portInfos info).portNo
  Exec.modify (notePort mac portNo)
  Exec.when (port = none ∧ world.devices.table.get? mac = none) <|
    Exec.modify fun world => { world with
      nextPort := world.nextPort + 1
      portInfos := Function.update world.portInfos world.nextPort {} }
  Exec.zoom World.devices (fun devices world => { world with devices := devices })
    (Devices.createIfAbsent mac info portNo vlan)

def handlePortLearn (dpid port : Nat) (mac : Mac) : Run Unit := do
  let world ← Exec.get
  match world.ports.get? port with
  | none => pure ()
  | some info =>
      if IsDevicePort env dpid port ∧ (world.portInfos info).active then do
        let device ← createIfAbsent mac (some info) none
        targetSetTrigger env drain device false
      else pure ()

/-- Give a device a port info object of its own. -/
def freshPort (device : DeviceId) : Run Unit :=
  Exec.modify fun world =>
    { world with
      nextPort := world.nextPort + 1
      portInfos := Function.update world.portInfos world.nextPort { active := true }
      devices := world.devices.update device fun entry =>
        { entry with port := world.nextPort, waitRemote := true } }

def handleDeviceLearn (mac : Mac) (vid : Option Nat) : Run Unit := do
  let device ← createIfAbsent mac none vid
  Exec.modify fun world => world.setDevice device fun entry =>
    { entry with dhcpMode := some .external }
  if env.config.deviceReporting then do
    let entry ← Exec.read fun world => world.device device
    Exec.when (entry.waitRemote = false) (freshPort device)
  else targetSetTrigger env drain device false

def processFaucetEvent : FaucetEvent → Run Unit
  | .portState dpid port active =>
      if dpid ≠ 0 ∧ port ≠ 0 then handlePortState env drain dpid port active
      else pure ()
  | .portLearn dpid port mac vid =>
      if dpid ≠ 0 ∧ port ≠ 0 ∧ vid ≠ 0 then
        if env.config.vlanTrigger then
          if IsSystemPort dpid port then handleDeviceLearn env drain mac (some vid)
          else pure ()
        else handlePortLearn env drain dpid port mac
      else pure ()
  | .configChange _ => pure ()

/-- A remote request to test a device, which names the device's VLANs. -/
def remoteTrigger (device : DeviceId) (deviceVlan assignedVlan : Option Nat) : Run Unit := do
  Exec.require (Truthy deviceVlan ∧ Truthy assignedVlan)
    (.assertionError "expected both device_ and assigned_ vlans")
  let port ← Exec.read fun world => (world.device device).port
  Exec.modify fun world =>
    (world.setPortInfo port fun entry =>
      { entry with flappingStart := some 0, active := true }).note [.sessionStarted port]
  Exec.modify fun world => world.setDevice device fun entry =>
    { entry with vlan := deviceVlan, assigned := assignedVlan }
  targetSetTrigger env drain device true
  let world ← Exec.get
  Exec.whenSome (world.device device).gateway fun gateway =>
    directDeviceTraffic env device (some (world.gateways gateway).portSet.val)

def onSession (mac : Mac) (deviceVlan assignedVlan : Option Nat) (remoteIp : String) :
    Run Unit := do
  Exec.require (remoteIp ≠ "") (.assertionError "remote request ip not specified")
  callOut env .remoteTap
  let device ← createIfAbsent mac none none
  let port ← Exec.read fun world => (world.device device).port
  Exec.modify fun world => world.setPortInfo port fun entry =>
    { entry with flappingStart := none }
  Exec.modify fun world => world.setDevice device fun entry =>
    { entry with dhcpMode := some .external }
  remoteTrigger env drain device deviceVlan assignedVlan

/-- A new session: its client is registered and greeted before the runner
hears of it. -/
def initSession (mac : Mac) (deviceVlan assignedVlan : Option Nat) (remoteIp : String) :
    Run Unit := do
  let sessions ← Exec.read World.sessions
  Exec.require (sessions.get? mac = none) (.assertionError ("already registered " ++ mac))
  Exec.modify fun world =>
    { world with sessions := world.sessions.insert mac [.endpoint, .result .started] }
  onSession env drain mac deviceVlan assignedVlan remoteIp

end Reentrant

/-- The end of a session's stream. -/
def reapSession (mac : Mac) : Run Unit := do
  let world ← Exec.get
  Exec.whenSome (world.devices.table.get? mac) fun device =>
    Exec.when (¬ Truthy (world.portInfo device).flappingStart) <|
      Exec.modify fun world =>
        (world.setPortInfo (world.device device).port fun entry =>
          { entry with flappingStart := some (env.now world) }).note
          [.sessionEnded (world.device device).port (env.now world)]
  Exec.modify fun world => { world with sessions := world.sessions.erase mac }

/-- The event loop over received faucet events.  Handling an event may come
back here through `targetSetFinalize`; every fetched event is one unit of
fuel, so the number of received events is enough fuel.  After an exception of
`next_event` the previous event, if there was one, is handled again, without
the connection it needs. -/
def handleFaucetEvents : Nat → Option FaucetEvent → Run Unit
  | 0, _ => pure ()
  | fuel + 1, previous => do
      let world ← Exec.get
      match world.faucetEvents, world.pending with
      | false, _ | true, [] => pure ()
      | true, item :: rest => do
          Exec.modify fun world => { world with pending := rest }
          match item with
          | .disconnected => do
              callOut env .reconnect
              handleFaucetEvents fuel previous
          | .failure _ => do
              Exec.modify fun world => { world with faucetEvents := false }
              shutdown env (handleFaucetEvents fuel none)
              Exec.whenSome previous fun _ => Exec.raise (.attributeError
                "'NoneType' object has no attribute 'as_port_state'")
          | .event event => do
              processFaucetEvent env (handleFaucetEvents fuel none) event
              handleFaucetEvents fuel (some event)

end Daq
