import Daq.Host.Lifecycle
import Daq.Lib.Reach

namespace Daq

variable (env : Env)

/-! The main loop, and the runner as a system of the commands that reach it
from outside. -/

/-- Process all faucet events received so far. -/
def handleReceivedEvents : Run Unit := do
  let world ← Exec.get
  handleFaucetEvents env world.pending.length none

def IsRunning (entry : Host) : Prop := entry.state ≠ .error ∧ entry.state ≠ .done

instance (entry : Host) : Decidable (IsRunning entry) := inferInstanceAs (Decidable (_ ∧ _))

/-- A triggered device in an idle pass: its host goes on or is complete. -/
def idleDevice (device : DeviceId) : Run Unit := do
  let world ← Exec.get
  match (world.device device).host with
  | none => Exec.raise (.attributeError "'NoneType' object has no attribute 'is_running'")
  | some host =>
      if IsRunning (world.hosts host) then idleHandler env (handleReceivedEvents env) host
      else targetSetComplete env (handleReceivedEvents env) device

def idleTriggered (device : DeviceId) : Run Unit :=
  Exec.attempt (idleDevice env device) fun raised =>
    targetSetError env (handleReceivedEvents env) device raised

def handleSystemIdleRaw : Run Unit := do
  handleReceivedEvents env
  let triggered ← Exec.read getTriggeredDevices
  Exec.forEach triggered (idleTriggered env)
  let devices ← Exec.read registeredDevices
  Exec.forEach devices fun device =>
    targetSetTrigger env (handleReceivedEvents env) device false
  targetSetConsider env (handleReceivedEvents env)
  let world ← Exec.get
  Exec.when (getTriggeredDevices world = [] ∧ world.runTests = false) do
    Exec.when (world.faucetEvents = true ∧ world.lingerExit = 0)
      (shutdown env (handleReceivedEvents env))
    Exec.modify fun world =>
      { world with lingerExit := if world.lingerExit = 1 then 2 else world.lingerExit }

def handleSystemIdle : Run Unit := do
  handleSystemIdleRaw env
  sendHeartbeat env

def portFlapTimeout (entry : Host) : Nat :=
  (entry.testName.bind entry.loadedConfig.portFlapTimeoutSec).getD
    env.config.portFlapTimeoutSec

/-- A triggered device whose port has been down for too long is failed. -/
def reapDevice (device : DeviceId) : Run Unit := do
  let world ← Exec.get
  let info := world.portInfo device
  if Truthy info.flappingStart then
    match (world.device device).host with
    | none => Exec.raise (.attributeError
        "'NoneType' object has no attribute 'get_port_flap_timeout'")
    | some host => do
        let timeoutSec := portFlapTimeout env (world.hosts host)
        Exec.when (info.flappingStart.getD 0 + timeoutSec ≤ env.now world) do
          Exec.modify fun after => after.note
            [.reaped device (world.device device).port (env.now world) timeoutSec]
          targetSetError env (handleReceivedEvents env) device
            (.daqException s!"port not active for {timeoutSec}s")
          Exec.modify fun world => world.setPortInfo (world.device device).port fun entry =>
            { entry with flappingStart := some 0 }
  else pure ()

def reapStalePorts : Run Unit := do
  let triggered ← Exec.read getTriggeredDevices
  Exec.forEach triggered (reapDevice env)

def heartbeatDevice (device : DeviceId) : Run Unit := do
  let host ← Exec.read fun world => (world.device device).host
  match host with
  | none => Exec.raise (.attributeError "'NoneType' object has no attribute 'heartbeat'")
  | some host => heartbeat env (handleReceivedEvents env) host

def moduleHeartbeat : Run Unit := do
  let triggered ← Exec.read getTriggeredDevices
  Exec.forEach triggered (heartbeatDevice env)

/-- One pass of the main loop in which no stream has anything to report.
Exceptions of the idle handler are logged by the event loop; the other two
steps run outside of it. -/
def mainLoopPass : Run Unit := do
  Exec.attempt (handleSystemIdle env) fun _ => pure ()
  reapStalePorts env
  moduleHeartbeat env

/-- An exception that ends the main loop, which then terminates every
device. -/
def endMainLoop (raised : Exc) : Run Unit := do
  Exec.modify fun world => { world with exception := some raised }
  terminateAll env (handleReceivedEvents env)

/-- Ask the stream monitor's error handler for a host's capture; it has none
of its own. -/
def captureError (host : HostId) (raised : Exc) : Run Unit :=
  Exec.attempt (monitorError env (handleReceivedEvents env) host raised false) fun _ => pure ()

/-- The capture's stream is closed before its owner is told. -/
def captureHangup (host : HostId) : Run Unit := do
  let entry ← Exec.read fun world => world.hosts host
  Exec.whenSome entry.monitorRef fun monitor => do
    Exec.modify fun world => world.setHost host fun entry =>
      { entry with monitorRef := some { monitor with active := false } }
    Exec.attempt (monitorTimeout env (handleReceivedEvents env) host monitor.timeout)
      (captureError env host)

def controlUpdated (host : HostId) (paused : Bool) : Run Unit := do
  let entry ← Exec.read fun world => world.hosts host
  Exec.when (paused = false ∧ entry.state = .ready) (startRun env host)

/-- A changed configuration only reaches a host that has not started. -/
def reloadConfig (host : HostId) : Run Unit := do
  Exec.modify fun world => world.setHost host fun entry =>
    { entry with loadedConfig :=
        if entry.state = .ready then env.loadConfig world entry.targetMac
        else entry.loadedConfig }
  publishResult env host none {}

inductive Command
  | receive (item : FaucetItem)
  | faucet
  | idle
  | reap
  | heartbeats
  | startSession (mac : Mac) (deviceVlan assignedVlan : Option Nat) (remoteIp : String)
  | endSession (mac : Mac)
  | dhcp (gateway : GatewayId) (long : Bool) (target : IpTarget)
  | gatewayException (gateway : GatewayId)
  | moduleCallback (host : HostId) (returnCode : Option Int) (exception : Option Exc)
  | captureHangup (host : HostId)
  | captureError (host : HostId) (raised : Exc)
  | discovered (host : HostId) (ip : Option String)
  | control (host : HostId) (paused : Bool)
  | reloadConfig (host : HostId)
  | terminate

namespace Command

/-- A callback only reaches a host that exists. -/
def ofHost (host : HostId) (body : Run Unit) : Run Unit := do
  let bound ← Exec.read World.nextHost
  Exec.when (host < bound) body

def perform : Command → Run Unit
  | .receive item => Exec.modify fun world => { world with pending := world.pending ++ [item] }
  | .faucet => handleReceivedEvents env
  | .idle => handleSystemIdle env
  | .reap => reapStalePorts env
  | .heartbeats => Daq.moduleHeartbeat env
  | .startSession mac deviceVlan assignedVlan remoteIp =>
      initSession env (handleReceivedEvents env) mac deviceVlan assignedVlan remoteIp
  | .endSession mac => reapSession env mac
  | .dhcp gateway long target => dhcpCallback env (handleReceivedEvents env) gateway
      (if long then "long" else "done") target
  | .gatewayException gateway => terminateGatewaySet env (handleReceivedEvents env) gateway
  | .moduleCallback host returnCode exception =>
      ofHost host (Daq.moduleCallback env (handleReceivedEvents env) host returnCode exception)
  | .captureHangup host => ofHost host (Daq.captureHangup env host)
  | .captureError host raised => ofHost host (Daq.captureError env host raised)
  | .discovered host ip => ofHost host (Daq.discovered env (handleReceivedEvents env) host ip)
  | .control host paused => ofHost host (controlUpdated env host paused)
  | .reloadConfig host => ofHost host (Daq.reloadConfig env host)
  | .terminate => terminateAll env (handleReceivedEvents env)

/-- The state a command ends in, whether it raises or not: whoever runs it
logs the exception and goes on. -/
def step (command : Command) (world : World) : World := ((perform env command).run world).2

end Command

/-- The runner after its initialization, without a native gateway. -/
def initialWorld : World where
  devices := .empty
  portInfos := fun _ => {}
  gateways := fun _ => { name := "", portSet := ⟨1, by decide⟩, kind := .container }
  hosts := fun _ => { device := 0, gateway := 0, targetMac := "", targetPort := none }
  gatewaySets := Finset.univ
  topology :=
    { portVlan := fun port => if env.config.vlanTrigger then portSetVlan (some port) else dumpVlan
      setVlan := fun set => if env.config.vlanTrigger then dumpVlan else portSetVlan (some set) }

/-- The runner after its initialization with a native gateway, whose set number
is not taken from the free ones. -/
def nativeWorld : World :=
  { initialWorld env with
    nextGateway := 1
    nativeGateway := some 0
    gateways := Function.update (initialWorld env).gateways 0
      { name := "native"
        portSet := ⟨1, by decide⟩
        kind := .container
        hostUp := true
        activated := true } }

/-- A native gateway is created if a native VLAN is configured. -/
def startWorld : World :=
  if Truthy env.config.nativeVlan then nativeWorld env else initialWorld env

/-- States the runner reaches from its initialization by any commands, with or
without a native gateway. -/
def Started (world : World) : Prop :=
  Reaches (Command.step env) (fun _ _ => True) (startWorld env) world

/-- The state after a list of commands. -/
def runCommands : List Command → World → World
  | [], world => world
  | command :: rest, world => runCommands rest (command.step env world)

theorem started_runCommands {world : World} (reached : Started env world) :
    ∀ commands, Started env (runCommands env commands world)
  | [] => reached
  | command :: rest => by
      have next : Started env (command.step env world) := .step command reached trivial
      exact started_runCommands next rest

variable {env} in
/-- A run without a native gateway. -/
theorem started_of_commands (unconfigured : ¬ Truthy env.config.nativeVlan)
    (commands : List Command) : Started env (runCommands env commands (initialWorld env)) := by
  have start : startWorld env = initialWorld env := if_neg unconfigured
  have begun : Started env (startWorld env) := .start
  rw [start] at begun
  exact started_runCommands env begun commands

/-- An environment in which every operation returns, devices answer, and no
time passes. -/
def Env.quiet (config : Config) : Env where
  config := config
  fault := fun _ _ => none
  now := fun _ => 1
  now_pos := fun _ => Nat.one_pos
  popSet := fun _ => ⟨1, by decide⟩
  order := fun _ elements => ⟨elements, .refl elements⟩
  pingTest := fun _ _ => true
  loadConfig := fun _ _ => {}
  reportFile := fun _ _ => none
  expired := fun _ _ _ => false
  scanned := fun _ _ _ => true
  moduleCall := fun _ _ => none
  stale := fun _ _ => false

end Daq
