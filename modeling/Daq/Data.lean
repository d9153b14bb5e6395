import Mathlib.Data.Finset.Basic
import Mathlib.Data.Fintype.Sets
import Mathlib.Order.Interval.Finset.Nat
import Daq.Lib.Dict
import Daq.Lib.Exec

namespace Daq

/-! Objects with an identity (devices, port infos, gateways and hosts) live in
heaps and are referred to by number; two references are the same object when
the numbers are equal. -/

abbrev Mac := String
abbrev DeviceId := Nat
abbrev PortId := Nat
abbrev GatewayId := Nat
abbrev HostId := Nat

/-- `mac.replace(':', '')`, which is also how a device prints. -/
def sanitizeMac (mac : Mac) : String :=
  String.ofList (mac.toList.filter (· ≠ ':'))

/-- Truth value of an optional number: neither `None` nor zero. -/
def Truthy (value : Option Nat) : Prop := value.getD 0 ≠ 0

instance (value : Option Nat) : Decidable (Truthy value) :=
  inferInstanceAs (Decidable (value.getD 0 ≠ 0))

/-- Truth value of an optional text: neither `None` nor empty. -/
def NonEmpty (text : Option String) : Prop := text.getD "" ≠ ""

instance (text : Option String) : Decidable (NonEmpty text) :=
  inferInstanceAs (Decidable (text.getD "" ≠ ""))

/-- A raised exception: the name of its class, which is never empty, and the
text `str` gives, which may well be. -/
structure Exc where
  className : String
  message : String
  named : className ≠ ""
deriving DecidableEq

namespace Exc

def assertionError (message : String) : Exc := ⟨"AssertionError", message, by decide⟩
def attributeError (message : String) : Exc := ⟨"AttributeError", message, by decide⟩
def keyError (message : String) : Exc := ⟨"KeyError", message, by decide⟩
def typeError (message : String) : Exc := ⟨"TypeError", message, by decide⟩
def valueError (message : String) : Exc := ⟨"ValueError", message, by decide⟩
def daqException (message : String) : Exc := ⟨"DaqException", message, by decide⟩
def timeoutError (message : String) : Exc := ⟨"TimeoutError", message, by decide⟩
def fileNotFoundError (message : String) : Exc := ⟨"FileNotFoundError", message, by decide⟩
def recursionError (message : String) : Exc := ⟨"RecursionError", message, by decide⟩
def exception (message : String) : Exc := ⟨"Exception", message, by decide⟩

end Exc

inductive DhcpMode
  | normal
  | staticIp
  | external
  | longResponse
  | ipChange
deriving DecidableEq, Repr

/-- Host state enum for testing cycle. -/
inductive HostState
  | error
  | ready
  | init
  | waiting
  | base
  | monitor
  | next
  | testing
  | done
  | hold
  | term
deriving DecidableEq, Repr

def HostState.text : HostState → String
  | .error => "Error condition"
  | .ready => "Ready but not initialized"
  | .init => "Initialization"
  | .waiting => "Waiting for activation"
  | .base => "Baseline tests"
  | .monitor => "Network monitor"
  | .next => "Ready for next"
  | .testing => "Active test"
  | .done => "Done with sequence"
  | .hold => "Holding with no test"
  | .term => "Host terminated"

/-- Simple container for device port info.  `flappingStart` distinguishes
`None` from `0`, although every reader only asks whether it is truthy. -/
structure PortInfo where
  active : Bool := false
  flappingStart : Option Nat := none
  portNo : Option Nat := none

/-- Simple container for device ip info. -/
structure IpInfo where
  ipAddr : Option String := none
  state : Option String := none
  deltaSec : Option Int := none

structure Device where
  mac : Mac
  host : Option HostId := none
  gateway : Option GatewayId := none
  group : Option String := none
  port : PortId
  dhcpReady : Bool := false
  dhcpMode : Option DhcpMode := none
  ipInfo : IpInfo := {}
  vlan : Option Nat := none
  setId : Option Nat := none
  assigned : Option Nat := none
  waitRemote : Bool := false

/-- Container for all devices: the registry itself (`_devices`, `_set_ids`)
and the heap its device objects live in. -/
structure Devices where
  table : Dict Mac DeviceId
  setIds : Finset Nat
  heap : DeviceId → Device
  next : DeviceId

inductive GatewayKind
  | container
  | external
deriving DecidableEq, Repr

def maxGateways : Nat := 9

/-- A gateway set number, `1..MAX_GATEWAYS`. -/
abbrev SetNumber := { number : Nat // 1 ≤ number ∧ number ≤ maxGateways }

instance : Fintype SetNumber :=
  Fintype.subtype (Finset.Icc 1 maxGateways) fun _ => Finset.mem_Icc

structure Gateway where
  name : String
  portSet : SetNumber
  kind : GatewayKind
  /-- Whether the gateway's own network host exists. -/
  hostUp : Bool := false
  targets : Dict Mac DeviceId := .empty
  testPorts : Finset Nat := ∅
  ready : List DeviceId := []
  activated : Bool := false
  resultLinger : Bool := false

def Gateway.text (gateway : Gateway) : String :=
  "Gateway group " ++ gateway.name ++ " set " ++ toString gateway.portSet.val

/-- One entry of a host's `results`: the fields that are read back. -/
structure Result where
  name : Option String
  code : Option Int := none
  exception : Option String := none
deriving DecidableEq

/-- The results kept for a device: its host's, as they are whenever they are
looked at, or the exception it failed with. -/
inductive ResultSet
  | host (host : HostId)
  | exception (message : String)
deriving DecidableEq

/-- What the report accumulated for one module.  An absent return code and a
return code of `None` read the same. -/
structure ReportItem where
  exception : Option String := none
  returnCode : Option Int := none
  /-- The `RESULT` lines of the module's report file, as (test, result). -/
  reportLines : Option (List (String × String)) := none
deriving DecidableEq

structure ModuleResult where
  exception : Option String
  returnCode : Option Int
  tests : Dict String String

/-- The part of the dictionary returned by the report that decides the device
result: one entry for each module that accumulated anything. -/
structure DeviceReport where
  modules : Dict String ModuleResult

structure TestInfo where
  category : String := "Other"
  expected : String := "Other"
  required : Option String := none

/-- The merged configuration of one device. -/
structure ModuleConfig where
  staticIp : Option String := none
  dhcpMode : DhcpMode := .normal
  enabled : String → Bool := fun _ => true
  timeoutSec : String → Option Nat := fun _ => none
  portFlapTimeoutSec : String → Option Nat := fun _ => none
  categories : List String := []
  tests : List (String × TestInfo) := []

/-- A running packet capture. -/
structure Monitor where
  /-- The stream has not been closed. -/
  active : Bool
  timeout : Option Nat

inductive TimeoutHandler
  | aux
  | main
  | externalDhcp
deriving DecidableEq, Repr

/-- What the life of a host consists of: the stages it goes to, the tests it
takes from the remaining ones, and those that go through `_end_test`. -/
inductive LifeEvent
  | moved (target : HostState)
  | taken (test : String)
  | ended (test : String)
deriving DecidableEq, Repr

/-- A device under test.  The last four fields are history only: how often
`terminate` was called, the tests that went through `_end_test` with the return
code they went through it with, the host's life so far, and the answers to the
pings of its last base tests. -/
structure Host where
  device : DeviceId
  gateway : GatewayId
  targetMac : Mac
  targetPort : Option Nat
  state : HostState := .ready
  results : Dict String Result := .empty
  testName : Option String := none
  testHost : Option String := none
  testPort : Option Nat := none
  startupTime : Option Nat := none
  monitorRef : Option Monitor := none
  targetIp : Option String := none
  dhcpListeners : Nat := 0
  loadedConfig : ModuleConfig := {}
  enabledTests : List String := []
  remainingTests : List String := []
  report : Option (Dict String ReportItem) := some .empty
  timeoutHandler : Option TimeoutHandler := some .aux
  allIps : List String := []
  terminations : Nat := 0
  endedTests : List (String × Option Int) := []
  life : List LifeEvent := []
  pings : List Bool := []

/-- The destination recorded for a device port. -/
structure PortTarget where
  port : Nat
  group : String
  fake : String
  portSet : Nat
  mac : Mac
deriving DecidableEq

structure Topology where
  portTargets : Dict Nat PortTarget := .empty
  setDevices : Nat → Option (Finset DeviceId) := fun _ => none
  /-- Native VLAN of a device port of the secondary switch. -/
  portVlan : Nat → Nat
  /-- Native VLAN of the gateway ports of a port set. -/
  setVlan : Nat → Nat

inductive FaucetEvent
  | portState (dpid port : Nat) (active : Bool)
  | portLearn (dpid port : Nat) (mac : Mac) (vid : Nat)
  | configChange (dpid : Nat)
deriving DecidableEq

/-- One outcome of `next_event`. -/
inductive FaucetItem
  | event (event : FaucetEvent)
  | disconnected
  | failure (raised : Exc)
deriving DecidableEq

inductive ResultCode
  | pending
  | started
  | failed
  | passed
deriving DecidableEq, Repr

/-- An item of a session's return queue; `close` is the queued `False`. -/
inductive SessionItem
  | endpoint
  | result (code : ResultCode)
  | progress
  | close
deriving DecidableEq, Repr

/-- One result handed to the session server: the device's host at that time,
the report the verdict was calculated from, the verdict, whether the device's
MAC had an open session, and what was queued for that session. -/
structure Delivery where
  device : DeviceId
  subject : Option Host
  report : Option DeviceReport
  code : ResultCode
  sessionOpen : Bool
  queued : List SessionItem

/-- Situations that are only recorded: a new device comes with the number of a
port whose number is in use as a set id, and pending events are processed
before a device that still has its gateway is removed. -/
inductive Mishap
  | portTaken (mac : Mac)
  | drained (device : DeviceId) (hostless : Bool)
deriving DecidableEq

/-- What has happened to the target queue, the hosts, the gateways and their
sets, and the ports.  An activation is told whether its device was taken from
the queue, and who was left waiting there; an attachment whether a registered
member of the device's group has the gateway without being its target; a
detachment how many targets remain. -/
inductive Happening
  | triggered (device : DeviceId)
  | queued (device : DeviceId)
  | cancelled (device : DeviceId)
  | activated (device : DeviceId) (popped : Bool) (waiting : List DeviceId)
  | created (device : DeviceId)
  | finalized (device : DeviceId) (failed : Bool)
  | taken (set : SetNumber)
  | returned (set : SetNumber)
  | opened (gateway : GatewayId)
  | attached (gateway : GatewayId) (device : DeviceId) (stray : Bool)
  | detached (gateway : GatewayId) (device : DeviceId) (remaining : Nat)
  | terminated (gateway : GatewayId)
  | portUp (info : PortId)
  | portDown (info : PortId) (time : Nat)
  | sessionStarted (info : PortId)
  | sessionEnded (info : PortId) (time : Nat)
  | reaped (device : DeviceId) (info : PortId) (time timeoutSec : Nat)
deriving DecidableEq

/-- The runner with everything it owns.  `deliveries`, `mishaps` and `trail` are
history only. -/
structure World where
  /-- Number of environment calls made so far. -/
  tick : Nat := 0
  devices : Devices
  portInfos : PortId → PortInfo
  nextPort : PortId := 0
  ports : Dict Nat PortId := .empty
  gateways : GatewayId → Gateway
  nextGateway : GatewayId := 0
  nativeGateway : Option GatewayId := none
  hosts : HostId → Host
  nextHost : HostId := 0
  gatewaySets : Finset SetNumber
  topology : Topology
  targetSetQueue : List DeviceId := []
  resultSets : Dict DeviceId ResultSet := .empty
  runTests : Bool := true
  runCount : Nat := 0
  lingerExit : Nat := 0
  systemActive : Bool := false
  /-- Whether `faucet_events` is set. -/
  faucetEvents : Bool := true
  /-- Received faucet events that have not been fetched yet. -/
  pending : List FaucetItem := []
  exception : Option Exc := none
  /-- Return queues of the open sessions, by device MAC. -/
  sessions : Dict Mac (List SessionItem) := .empty
  deliveries : List Delivery := []
  mishaps : List Mishap := []
  trail : List Happening := []

/-- Operations whose outcome is decided outside the runner. -/
inductive Op
  | gatewayInitialize (gateway : GatewayId)
  | gatewayActivate (gateway : GatewayId)
  | gatewayTerminate (gateway : GatewayId)
  | stopDhcpResponse (gateway : GatewayId) (device : DeviceId)
  | changeDhcpResponse (host : HostId)
  | discoverHost (host : HostId)
  | connectedHost (device : DeviceId)
  | hostInitialize (host : HostId)
  | generateAcls
  | behavioralConfig
  | releaseConfig (host : HostId)
  | uploadFile (host : HostId)
  | monitorScan (host : HostId)
  | monitorStream (host : HostId)
  | monitorForget (host : HostId)
  | deleteMirror (host : HostId)
  | newTest (host : HostId)
  | writeConfig (host : HostId)
  | moduleStart (host : HostId)
  | moduleTerminate (host : HostId)
  | moduleHeartbeat (host : HostId)
  | moduleIpListener (host : HostId)
  | ping (host : HostId)
  | ipTriggers (host : HostId)
  | reportFinalize (host : HostId)
  | publishResult (host : HostId)
  | publishHeartbeat
  | resultLog (device : DeviceId)
  | remoteTap
  | reconnect
deriving DecidableEq

structure Config where
  testList : List String := []
  noTest : Bool := false
  maxHosts : Option Nat := none
  singleShot : Bool := false
  failMode : Bool := false
  resultLinger : Bool := false
  runLimit : Nat := 0
  vlanTrigger : Bool := false
  nativeVlan : Option Nat := none
  extFaucet : Bool := false
  /-- `macAddrs` of the device specs with the group of each device, if any. -/
  deviceSpecs : Option (Dict Mac (Option String)) := none
  secDpid : Option Nat := some 2
  secPort : Nat
  portFlapTimeoutSec : Nat := 0
  defaultTimeoutSec : Option Nat := none
  monitorScanSec : Nat := 0
  /-- A session server is configured. -/
  deviceReporting : Bool := false
  extMac : Option Mac := none

/-- Everything the runner does not decide itself.  Outcomes may depend on the
whole state, and through `World.tick` on the individual call. -/
structure Env where
  config : Config
  fault : World → Op → Option Exc
  now : World → Nat
  now_pos : ∀ world, 0 < now world
  /-- Which element `set.pop` removes. -/
  popSet : World → SetNumber
  /-- Iteration order of a set. -/
  order : World → (elements : List DeviceId) → { result : List DeviceId // result.Perm elements }
  pingTest : World → HostId → Bool
  loadConfig : World → Mac → ModuleConfig
  reportFile : World → HostId → Option (List (String × String))
  /-- The running test exceeded its time limit. -/
  expired : World → HostId → Nat → Bool
  /-- The running capture lasted for its whole time. -/
  scanned : World → HostId → Nat → Bool
  /-- The test module reports to its host from inside a call of the host. -/
  moduleCall : World → HostId → Option (Option Int × Option Exc)
  /-- The session's stream has not been read for too long. -/
  stale : World → Mac → Bool

abbrev Run (α : Type) := Exec World Exc α

namespace World

def device (world : World) (device : DeviceId) : Device := world.devices.heap device

def portInfo (world : World) (device : DeviceId) : PortInfo :=
  world.portInfos (world.device device).port

/-- The device is the one registered under its own MAC. -/
def Registered (world : World) (device : DeviceId) : Prop :=
  world.devices.table.get? (world.device device).mac = some device

instance (world : World) (device : DeviceId) : Decidable (world.Registered device) :=
  inferInstanceAs (Decidable (_ = _))

/-- The results of a device that failed without a host are its exception. -/
def results (world : World) : ResultSet → Dict String Result
  | .host host => (world.hosts host).results
  | .exception message =>
      Dict.empty.insert "exception" { name := none, exception := some message }

def setDevice (world : World) (device : DeviceId) (update : Device → Device) : World :=
  { world with devices := { world.devices with
      heap := Function.update world.devices.heap device (update (world.device device)) } }

def setPortInfo (world : World) (port : PortId) (update : PortInfo → PortInfo) : World :=
  { world with portInfos :=
      Function.update world.portInfos port (update (world.portInfos port)) }

def setGateway (world : World) (gateway : GatewayId)
    (update : Gateway → Gateway) : World :=
  { world with gateways :=
      Function.update world.gateways gateway (update (world.gateways gateway)) }

def setHost (world : World) (host : HostId) (update : Host → Host) : World :=
  { world with hosts := Function.update world.hosts host (update (world.hosts host)) }

/-- History only: something happened. -/
def note (world : World) (happenings : List Happening) : World :=
  { world with trail := world.trail ++ happenings }

end World

/-- The state after an environment call. -/
def World.ticked (world : World) : World := { world with tick := world.tick + 1 }

/-- Make an environment call: it returns or raises. -/
def callOut (env : Env) (op : Op) : Run Unit := ⟨fun world =>
  match env.fault world op with
  | none => (.ok (), world.ticked)
  | some raised => (.error raised, world.ticked)⟩

theorem callOut_run_snd (env : Env) (op : Op) (world : World) :
    ((callOut env op).run world).2 = world.ticked := by
  simp only [callOut]
  split <;> rfl

theorem callOut_ticks (env : Env) (op : Op) (world : World) :
    (callOut env op).Holds world (fun _ reached => reached = world.ticked) :=
  callOut_run_snd env op world

theorem holds_callOut {env : Env} {op : Op} {world : World}
    {post : Except Exc Unit → World → Prop} :
    (callOut env op).Holds world post ↔
      (env.fault world op = none → post (.ok ()) world.ticked) ∧
        ∀ raised, env.fault world op = some raised → post (.error raised) world.ticked := by
  unfold Exec.Holds callOut
  cases fault : env.fault world op with
  | none => simp [fault]
  | some raised => simp [fault]

theorem holds_callOut_of_returns {env : Env} {op : Op} {world : World}
    {post : Except Exc Unit → World → Prop} (returns : env.fault world op = none) :
    (callOut env op).Holds world post ↔ post (.ok ()) world.ticked := by
  rw [holds_callOut, returns]
  simp

end Daq
