import Daq.Host.Core
import Daq.Runner.Devices
import Daq.Runner.Topology
import Mathlib.Data.List.Sort

namespace Daq

variable (env : Env)

/-! Taking a device down.  Finalizing a device may process pending faucet
events before the device has left the registry; `drain` is that processing. -/

/-- One line of the combined results, `device:name:status`. -/
structure Failure where
  device : DeviceId
  name : String
  status : Int ⊕ String
deriving DecidableEq

def resultStatus (result : Result) : Int ⊕ String :=
  if NonEmpty result.exception then .inr (result.exception.getD "")
  else .inl (result.code.getD 0)

def combineResultSet (device : DeviceId) (results : Option (Dict String Result)) :
    List Failure :=
  match results with
  | none => []
  | some results =>
      (results.keys.insertionSort (· ≤ ·)).filterMap fun key =>
        (results.get? key).bind fun result =>
          if resultStatus result = .inl 0 then none
          else some ⟨device, result.name.getD key, resultStatus result⟩

def combineResults (world : World) : List Failure :=
  world.resultSets.entries.flatMap fun entry =>
    combineResultSet entry.1 (some (world.results entry.2))

/-- Finalize this instance, returning error result code. -/
def finalizeRunner (world : World) : Nat :=
  if combineResults world ≠ [] ∨ world.exception ≠ none then 1 else 0

def activatePort (port : Nat) : Run Unit := do
  let ports ← Exec.read World.ports
  match ports.get? port with
  | none => Exec.modify fun world =>
      { world with
        portInfos := Function.update world.portInfos world.nextPort
          { active := true, flappingStart := some 0, portNo := some port }
        nextPort := world.nextPort + 1
        ports := world.ports.insert port world.nextPort
        trail := world.trail ++ [.portUp world.nextPort] }
  | some info => Exec.modify fun world =>
      (world.setPortInfo info fun entry =>
        { entry with active := true, flappingStart := some 0 }).note [.portUp info]

/-- `send_device_result` followed by `close_stream`; without an open session
the first does nothing and the second's exception is only logged. -/
def queueSessionResult (mac : Mac) (code : ResultCode) (world : World) : World :=
  match world.sessions.get? mac with
  | none => world
  | some items =>
      { world with sessions := world.sessions.insert mac (items ++ [.result code, .close]) }

/-- Queue a result, and keep what was queued. -/
def deliverResult (device : DeviceId) (report : Option DeviceReport) (code : ResultCode)
    (world : World) : World :=
  let mac := (world.device device).mac
  let queued := queueSessionResult mac code world
  let delivery : Delivery :=
    { device := device
      subject := (world.device device).host.map world.hosts
      report := report
      code := code
      sessionOpen := (world.sessions.get? mac).isSome
      queued := ((queued.sessions.get? mac).getD []).drop
        ((world.sessions.get? mac).getD []).length }
  { queued with deliveries := world.deliveries ++ [delivery] }

def sendDeviceResult (device : DeviceId) (testResults : Option DeviceReport) : Run Unit := do
  if env.config.deviceReporting then do
    let world ← Exec.get
    match testResults, (world.device device).host with
    | none, _ => Exec.modify (deliverResult device none .failed)
    | some _, none =>
        Exec.raise (.attributeError "'NoneType' object has no attribute 'enabled_tests'")
    | some report, some host => Exec.modify (deliverResult device (some report)
        (calculateDeviceResult (world.hosts host).enabledTests report))
  else pure ()

/-- A gateway that lost its last device ends, and its set number goes back to
the pool. -/
def retireGateway (gateway : GatewayId) (device : DeviceId) : Run Unit := do
  gatewayTerminate env gateway
  Exec.modify fun world => { world with
    gatewaySets := insert (world.gateways gateway).portSet world.gatewaySets
    trail := world.trail ++ [.returned (world.gateways gateway).portSet] }
  let entry ← Exec.read fun world => world.device device
  Exec.when (Truthy entry.vlan) (directDeviceTraffic env device none)

def detachGateway (device : DeviceId) : Run Unit := do
  let entry ← Exec.read fun world => world.device device
  Exec.whenSome entry.gateway fun gateway => do
    let remaining ← detachTarget gateway device
    Exec.when (remaining = 0) (retireGateway env gateway device)
    Exec.modify fun world => world.setDevice device fun entry => { entry with gateway := none }

/-- A lingering result keeps the device's port and gateway as they are. -/
def lingerResult (gateway : Option GatewayId) (port : Option Nat) : Run Unit := do
  Exec.when (Truthy port) (activatePort (port.getD 0))
  match gateway with
  | none => Exec.raise (.attributeError "'NoneType' object has no attribute 'result_linger'")
  | some gateway => Exec.modify fun world => world.setGateway gateway fun entry =>
      { entry with resultLinger := true }

/-- Traffic, gateway and host of a device are let go in this order, and then
its result is sent; the first exception ends it all. -/
def releaseDevice (device : DeviceId) (host : HostId) : Run Unit := do
  let world ← Exec.get
  let port := (world.portInfo device).portNo
  Exec.when (Truthy port) (directPortTraffic env device (port.getD 0) none)
  -- the test for a gateway is made once more inside
  detachGateway env device
  let testResults ← terminateHost env host
  sendDeviceResult env device (some testResults)

/-- The results of an earlier finalization, or the gateway, make the device
linger. -/
def Lingers (world : World) (device : DeviceId) : Prop :=
  ((world.device device).gateway.any fun gateway => (world.gateways gateway).resultLinger) = true ∨
    (combineResultSet device ((world.resultSets.get? device).map world.results) ≠ [] ∧
      env.config.resultLinger = true)

instance (world : World) (device : DeviceId) : Decidable (Lingers env world device) :=
  inferInstanceAs (Decidable (_ ∨ _))

def targetSetCancel (device : DeviceId) : Run Unit := do
  Exec.modify fun world => { world with
    targetSetQueue := world.targetSetQueue.erase device
    trail := world.trail ++ [.cancelled device] }
  let world ← Exec.get
  Exec.whenSome (world.device device).host fun host =>
    if Lingers env world device then
      lingerResult (world.device device).gateway (world.portInfo device).portNo
    else releaseDevice env device host

/-- History only: there are events to process, and the device has its gateway. -/
def noteDrain (device : DeviceId) (world : World) : World :=
  if (world.device device).gateway ≠ none ∧ world.faucetEvents ∧ world.pending ≠ [] then
    { world with mishaps := world.mishaps ++
        [.drained device (world.device device).host.isNone] }
  else world

variable (drain : Run Unit)

def recordResultSet (device : DeviceId) (resultSet : ResultSet) : Run Unit := do
  let results ← Exec.read fun world => world.results resultSet
  callOut env (.resultLog device)
  Exec.when (combineResultSet device (some results) ≠ [] ∧
      (env.config.failMode = true ∨ env.config.resultLinger = true)) <|
    Exec.modify fun world => { world with
      runTests := false
      lingerExit := if env.config.resultLinger then 1 else world.lingerExit }
  Exec.modify fun world => { world with
    resultSets := world.resultSets.insert device resultSet
    trail := world.trail ++
      [.finalized device (decide (combineResultSet device (some results) ≠ []))] }
  let world ← Exec.get
  Exec.when (env.config.runLimit ≠ 0 ∧ env.config.runLimit ≤ world.runCount ∧
      world.runTests = true) <|
    Exec.modify fun world => { world with runTests := false }

/-- In single shot mode pending events are processed one last time. -/
def drainSingleShot (device : DeviceId) : Run Unit := do
  let world ← Exec.get
  Exec.when (env.config.singleShot = true ∧ world.runTests = true) do
    Exec.modify (noteDrain device)
    drain
    Exec.modify fun world => { world with runTests := false }

def removeDevice (device : DeviceId) : Run Unit :=
  Exec.zoom World.devices (fun devices world => { world with devices := devices })
    (Devices.remove device)

def targetSetFinalize (device : DeviceId) (resultSet : ResultSet) : Run Unit := do
  recordResultSet env device resultSet
  drainSingleShot env drain device
  Exec.modify fun world => world.setDevice device fun entry => { entry with host := none }
  removeDevice device

/-- Handle completion of a target_set. -/
def targetSetComplete (device : DeviceId) : Run Unit := do
  Exec.attempt (targetSetCancel env device) fun raised => do
    let host ← Exec.read fun world => (world.device device).host
    match host with
    | none => Exec.raise (.attributeError "'NoneType' object has no attribute 'record_result'")
    | some host => recordException env host raised
  let world ← Exec.get
  match (world.device device).host with
  | none => Exec.raise (.attributeError "'NoneType' object has no attribute 'results'")
  | some host => targetSetFinalize env drain device (.host host)

/-- Handle an error in the target set. -/
def targetSetError (device : DeviceId) (raised : Exc) : Run Unit := do
  let host ← Exec.read fun world => (world.device device).host
  match host with
  | some host => do
      recordException env host raised
      targetSetComplete env drain device
  | none => do
      targetSetFinalize env drain device (.exception raised.message)
      sendDeviceResult env device none
      detachGateway env device

end Daq
