import Daq.Runner.Events

namespace Daq

variable (env : Env)

/-! A host's way through its stages.  Its callbacks run inside the runner's
event loop and report failures to the runner at once. -/

/-- Check if this host is ready to be triggered. -/
def triggerReady (entry : Host) : Except Exc Bool :=
  if entry.state ≠ .waiting then .ok false
  else match entry.startupTime with
    | none => .error (.typeError "unsupported operand type(s) for -")
    | some _ =>
        if entry.loadedConfig.dhcpMode = .ipChange then
          .ok (decide (1 < entry.allIps.dedup.length))
        else .ok true

/-- Evaluate a pure check that may raise. -/
def check {α : Type} (outcome : Except Exc α) : Run α :=
  match outcome with
  | .ok value => pure value
  | .error raised => Exec.raise raised

/-- Handle device trigger. -/
def triggerHost (host : HostId) (targetIp : Option String) : Run Bool := do
  let entry ← Exec.read fun world => world.hosts host
  if NonEmpty entry.targetIp then do
    Exec.require (entry.targetIp = targetIp) (.assertionError "target_ip mismatch")
    pure true
  else do
    let ready ← check (triggerReady entry)
    if ready then do
      Exec.modify fun world => world.setHost host fun entry => { entry with targetIp := targetIp }
      publishResult env host (some "info") {}
      recordResult env host (some "acquire") {}
      stateTransition host .base (some .waiting)
      pure true
    else pure false

/-- Return True if ready to be activated in response to an ip notification. -/
def notifyActivate (host : HostId) : Run Bool := do
  let entry ← Exec.read fun world => world.hosts host
  Exec.when (entry.state = .ready) (publishResult env host (some "startup") {})
  pure (decide (entry.state = .waiting))

/-- What an address notification of a device leads to. -/
inductive Readiness
  | waiting
  | activated
  | group (gateway : GatewayId) (devices : List DeviceId)

/-- The check that all ready devices can be triggered asks the notified
device's host once for each of them. -/
def shouldActivateTarget (device : DeviceId) : Run Readiness := do
  let world ← Exec.get
  match (world.device device).host, (world.device device).gateway with
  | none, _ => pure .waiting
  | some _, none =>
      Exec.raise (.attributeError "'NoneType' object has no attribute 'activated'")
  | some host, some gateway =>
      if (world.gateways gateway).activated then pure .activated
      else do
        let notified ← notifyActivate env host
        if notified then do
          let ready ← targetReady gateway device
          let groupSize : Int := deviceGroupSize env (world.device device).group
          let remaining : Int := groupSize - ready.length
          if remaining ≠ 0 ∧ world.runTests then pure .waiting
          else do
            let entry ← Exec.read fun world => world.hosts host
            let allReady ← check (ready.allM fun _ => triggerReady entry)
            if allReady then pure (.group gateway ready) else pure .waiting
        else pure .waiting

/-- Trigger every ready device; all of them have to follow. -/
def activateGateway (gateway : GatewayId) (ready : List DeviceId) : Run Unit := do
  gatewayActivate env gateway
  let world ← Exec.get
  Exec.forEach (env.order world ready).val fun device => do
    let entry ← Exec.read fun world => world.device device
    match entry.host with
    | none => Exec.raise (.attributeError "'NoneType' object has no attribute 'trigger'")
    | some host => do
        let triggered ← triggerHost env host entry.ipInfo.ipAddr
        Exec.require triggered
          (.assertionError ("Device " ++ sanitizeMac entry.mac ++ " not triggered"))

def checkAndActivateGateway (device : DeviceId) : Run Unit := do
  let entry ← Exec.read fun world => world.device device
  if NonEmpty entry.ipInfo.ipAddr ∧ entry.dhcpReady then do
    let readiness ← shouldActivateTarget env device
    match readiness, entry.host with
    | .waiting, _ | .group _ [], _ | .activated, none => pure ()
    | .activated, some host => do
        let _ ← triggerHost env host entry.ipInfo.ipAddr
        pure ()
    | .group gateway ready, _ => activateGateway env gateway ready
  else pure ()

def dhcpReadyListener (device : DeviceId) : Run Unit := do
  Exec.modify fun world => world.setDevice device fun entry => { entry with dhcpReady := true }
  checkAndActivateGateway env device

section Reentrant

variable (drain : Run Unit)

def monitorError (host : HostId) (raised : Exc) (forget : Bool) : Run Unit := do
  monitorCleanup env host forget
  recordException env host raised
  stateTransition host .error none
  let entry ← Exec.read fun world => world.hosts host
  targetSetError env drain entry.device raised

def startTest (host : HostId) (test : String) : Run Unit := do
  Exec.modify fun world => world.setHost host fun entry => { entry with testName := some test }
  callOut env (.writeConfig host)
  publishResult env host (some test) {}
  recordResult env host (some test) {}
  monitorScan env host none
  stateTransition host .testing (some .next)

/-- Parameters of a module come from the gateway's network host. -/
def getModuleParams (host : HostId) : Run Unit := do
  let world ← Exec.get
  Exec.require (world.gateways (world.hosts host).gateway).hostUp
    (.attributeError "'NoneType' object has no attribute 'IP'")

def runTest (host : HostId) (test : String) : Run Unit := do
  Exec.modify fun world => world.setHost host fun entry => { entry with timeoutHandler := some .main }
  callOut env (.newTest host)
  Exec.modify fun world => world.setHost host fun entry => { entry with testHost := some test }
  let gateway ← Exec.read fun world => (world.hosts host).gateway
  Exec.attempt
    (do
      let testPort ← allocateTestPort gateway
      Exec.modify fun world => world.setHost host fun entry => { entry with testPort := some testPort })
    (fun raised => do
      Exec.modify fun world => world.setHost host fun entry => { entry with testHost := none }
      Exec.raise raised)
  Exec.attempt
    (do
      startTest env host test
      getModuleParams host
      callOut env (.moduleStart host))
    (fun raised => do
      Exec.modify fun world => world.setHost host fun entry => { entry with testHost := none }
      let testPort ← Exec.read fun world => (world.hosts host).testPort
      releaseTestPort gateway testPort
      Exec.modify fun world => world.setHost host fun entry => { entry with testPort := none }
      monitorCleanup env host true
      Exec.raise raised)

/-- With no test left a run is done, or holds if there were no tests to run. -/
def finishRun (host : HostId) : Run Unit := do
  if env.config.noTest then stateTransition host .hold (some .next)
  else do
    Exec.modify fun world => world.setHost host fun entry =>
      { entry with timeoutHandler := some .aux }
    stateTransition host .done (some .next)
    recordResult env host (some "finish") {}

/-- Run the first of the remaining tests, or finish. -/
def runRemaining (host : HostId) : List String → Run Unit
  | test :: rest => do
      Exec.modify fun world => world.setHost host fun entry =>
        { entry with remainingTests := rest, life := entry.life ++ [.taken test] }
      runTest env host test
  | [] => finishRun env host

def runNextTest (host : HostId) : Run Unit := do
  let entry ← Exec.read fun world => world.hosts host
  Exec.require (¬ NonEmpty entry.testName)
    (.assertionError ("test_name defined: " ++ entry.testName.getD ""))
  Exec.attempt (runRemaining env host entry.remainingTests) fun raised => do
    stateTransition host .error none
    targetSetError env drain entry.device raised

/-- The files a test left behind go into the report before its result does. -/
def accumulateFiles (host : HostId) : Run Unit := do
  let world ← Exec.get
  Exec.whenSome (env.reportFile world host) fun lines => do
    accumulate host ((world.hosts host).testName.getD "") fun item =>
      { item with reportLines := some lines }
    callOut env (.uploadFile host)

/-- The end of a test up to the point where the next one is chosen. -/
def closeTest (host : HostId) (returnCode : Option Int) (exception : Option Exc) : Run Unit := do
  monitorCleanup env host true
  stateTransition host .next (some .testing)
  accumulateFiles env host
  let entry ← Exec.read fun world => world.hosts host
  Exec.modify fun world => world.setHost host fun entry =>
    { entry with
      endedTests := entry.endedTests ++ [(entry.testName.getD "", returnCode)]
      life := entry.life ++ [.ended (entry.testName.getD "")] }
  recordResult env host entry.testName { code := some returnCode, exception := exception }
  Exec.modify fun world => world.setHost host fun entry =>
    { entry with testName := none, testHost := none, timeoutHandler := none }

def endTest (host : HostId) (returnCode : Option Int) (exception : Option Exc) : Run Unit := do
  closeTest env host returnCode exception
  runNextTest env drain host

def moduleCallback (host : HostId) (returnCode : Option Int) (exception : Option Exc) :
    Run Unit := do
  let entry ← Exec.read fun world => world.hosts host
  releaseTestPort entry.gateway entry.testPort
  Exec.require entry.testHost.isSome
    (.assertionError "_module_callback with no test_host defined")
  endTest env drain host returnCode exception

/-- A call into the test module, during which the module may call back. -/
def callModule (host : HostId) (op : Op) : Run Unit := do
  let world ← Exec.get
  Exec.when ((world.hosts host).testHost.isSome = true) do
    callOut env op
    Exec.whenSome (env.moduleCall world host) fun (returnCode, exception) =>
      moduleCallback env drain host returnCode exception

def monitorContinue (host : HostId) : Run Unit := do
  stateTransition host .next (some .monitor)
  Exec.modify fun world => world.setHost host fun entry => { entry with testName := none }
  runNextTest env drain host

def backgroundScan (host : HostId) : Run Unit := do
  stateTransition host .monitor (some .base)
  if env.config.monitorScanSec = 0 then monitorContinue env drain host
  else do
    recordResult env host (some "monitor") {}
    monitorScan env host (some env.config.monitorScanSec)

def pingTest (host : HostId) : Run Bool := do
  callOut env (.ping host)
  Exec.read fun world => env.pingTest world host

/-- A ping of the base tests, whose answer is kept. -/
def basePing (host : HostId) : Run Bool := do
  let answered ← pingTest env host
  Exec.modify fun world => world.setHost host fun entry =>
    { entry with pings := entry.pings ++ [answered] }
  pure answered

/-- The two results are paired with a message before they are tested, and a
pair is never false: only an exception makes the base stage fail. -/
def baseTests (host : HostId) : Run Unit := do
  Exec.modify fun world => world.setHost host fun entry => { entry with pings := [] }
  recordResult env host (some "base") {}
  let _ ← basePing env host
  Exec.attempt
    (do
      let _ ← basePing env host
      let _ ← basePing env host
      pure ())
    (fun raised => do
      recordResult env host (some "base") { exception := some raised }
      monitorCleanup env host true
      Exec.raise raised)
  recordResult env host (some "base") {}

def baseStart (host : HostId) : Run Unit :=
  Exec.attempt
    (do
      baseTests env host
      monitorCleanup env host true
      backgroundScan env drain host)
    (fun raised => do
      monitorCleanup env host true
      monitorError env drain host raised false)

/-- The end of a packet capture. -/
def monitorTimeout (host : HostId) (timeout : Option Nat) : Run Unit := do
  let world ← Exec.get
  if Truthy timeout ∧ env.scanned world host (timeout.getD 0) then do
    monitorCleanup env host false
    recordResult env host (some "monitor") {}
    monitorContinue env drain host
  else monitorError env drain host (.exception "tcpdump pcap hangup") false

/-- The notified target of a DHCP or static address. -/
structure IpTarget where
  type : String
  mac : Mac
  ip : String
  delta : Option Int

def staticTarget (mac : Mac) (ip : String) : IpTarget where
  type := "STATIC"
  mac := mac
  ip := ip
  delta := some (-1)

/-- The host's own handling of a notified address. -/
def hostIpNotify (host : HostId) (ip : String) : Run Unit := do
  callOut env (.ipTriggers host)
  Exec.modify fun world => world.setHost host fun entry => { entry with
    allIps := entry.allIps ++ [ip]
    targetIp := if NonEmpty entry.targetIp then some ip else entry.targetIp }
  callModule env drain host (.moduleIpListener host)

/-- Handle a DHCP / Static IP notification. -/
def ipNotify (state : String) (target : IpTarget) : Run Unit := do
  if env.config.extMac = some target.mac then pure ()
  else do
    Exec.when (state = "NEW") (handleDeviceLearn env drain target.mac env.config.nativeVlan)
    Exec.require (target.mac ≠ "" ∧ target.ip ≠ "" ∧ target.delta.isSome) (.assertionError "")
    let world ← Exec.get
    match world.devices.table.get? target.mac with
    | none =>
        Exec.raise (.assertionError
          ("Count not find " ++ target.mac ++ ", " ++ target.type ++ ", " ++ state))
    | some device => do
        Exec.modify fun world => world.setDevice device fun entry => { entry with ipInfo :=
          { ipAddr := some target.ip, state := some state, deltaSec := target.delta } }
        Exec.whenSome (world.device device).host fun host =>
          Exec.when (target.type = "ACK" ∨ target.type = "STATIC") do
            hostIpNotify env drain host target.ip
            checkAndActivateGateway env device

def terminateGatewaySet (gateway : GatewayId) : Run Unit := do
  let world ← Exec.get
  let devices := getByGateway world gateway
  Exec.require (devices ≠ []) (.assertionError ((world.gateways gateway).text ++ " not found"))
  Exec.forEach devices fun device =>
    targetSetError env drain device (.daqException "terminated")

/-- A gateway hears of a DHCP packet.  Only its own targets are of interest. -/
def dhcpCallback (gateway : GatewayId) (state : String) (target : IpTarget) : Run Unit := do
  let world ← Exec.get
  let expected := ((world.gateways gateway).targets.get? target.mac).isSome
  let isNative := decide (world.nativeGateway = some gateway)
  Exec.when (expected = true ∨ isNative = true) <|
    ipNotify env drain (if isNative ∧ ¬ expected then "NEW" else state) target

/-- The configured mode, unless the device has one; the normal mode counts as
none. -/
def configuredDhcpMode (device : Device) (config : ModuleConfig) : Option DhcpMode :=
  if device.dhcpMode = none ∨ device.dhcpMode = some .normal then some config.dhcpMode
  else device.dhcpMode

/-- A configured address is notified at once; any other comes by DHCP. -/
def requestAddress (host : HostId) (entry : Host) : Run Unit := do
  if NonEmpty entry.loadedConfig.staticIp then do
    Exec.modify fun world => world.setDevice entry.device fun device => { device with
      dhcpMode := some .staticIp }
    ipNotify env drain "nope"
      (staticTarget entry.targetMac (entry.loadedConfig.staticIp.getD ""))
  else do
    Exec.modify fun world => world.setDevice entry.device fun device => { device with
      dhcpMode := configuredDhcpMode device entry.loadedConfig }
    let device ← Exec.read fun world => world.device entry.device
    if device.dhcpMode = some .external then
      Exec.modify fun world => world.setHost host fun entry =>
        { entry with timeoutHandler := some .externalDhcp }
    else do
      let kind ← Exec.read fun world => (world.gateways entry.gateway).kind
      match kind with
      | .external => Exec.raise (.attributeError
          "'ExternalGateway' object has no attribute 'change_dhcp_response_time'")
      | .container => callOut env (.changeDhcpResponse host)

def startWaiting (host : HostId) : Run Unit := do
  stateTransition host .waiting (some .init)
  recordResult env host (some "sanity") {}
  recordResult env host (some "acquire") {}

def prepare (host : HostId) : Run Unit := do
  startWaiting env host
  let entry ← Exec.read fun world => world.hosts host
  requestAddress env drain host entry
  Exec.forEach (List.replicate entry.dhcpListeners entry.device) fun device =>
    dhcpReadyListener env device

/-- Trigger events from idle state. -/
def idleHandler (host : HostId) : Run Unit := do
  let entry ← Exec.read fun world => world.hosts host
  match entry.state with
  | .init => prepare env drain host
  | .base => baseStart env drain host
  | _ => pure ()

def getTestTimeout (entry : Host) : Option Nat :=
  match entry.testName with
  | none => env.config.defaultTimeoutSec
  | some test =>
      if test = "hold" then none
      else (entry.loadedConfig.timeoutSec test).or env.config.defaultTimeoutSec

def timeoutException : Exc := .timeoutError "Timeout expired"

def handleTimeout (host : HostId) : TimeoutHandler → Run Unit
  | .aux => monitorError env drain host timeoutException true
  | .main => do
      let entry ← Exec.read fun world => world.hosts host
      Exec.require entry.testHost.isSome
        (.attributeError "'NoneType' object has no attribute 'terminate'")
      callOut env (.moduleTerminate host)
      moduleCallback env drain host none (some timeoutException)
  | .externalDhcp => callOut env (.discoverHost host)

/-- Checks module run time for each event loop. -/
def heartbeat (host : HostId) : Run Unit := do
  let entry ← Exec.read fun world => world.hosts host
  let timeoutSec := getTestTimeout env entry
  callModule env drain host (.moduleHeartbeat host)
  let world ← Exec.get
  Exec.when (Truthy timeoutSec ∧ env.config.noTest = false ∧
      env.expired world host (timeoutSec.getD 0) = true) <|
    Exec.whenSome (world.hosts host).timeoutHandler fun handler => do
      -- each handler is called once
      Exec.modify fun world => world.setHost host fun entry => { entry with timeoutHandler := none }
      handleTimeout env drain host handler

/-- The scan for a device whose address an external server gave has ended. -/
def discovered (host : HostId) (ip : Option String) : Run Unit := do
  let entry ← Exec.read fun world => world.hosts host
  match ip with
  | none => handleTimeout env drain host .aux
  | some ip =>
      Exec.when (entry.state = .waiting)
        (ipNotify env drain "nope" (staticTarget entry.targetMac ip))

end Reentrant

end Daq
