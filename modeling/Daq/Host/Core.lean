import Daq.Host.Report
import Daq.Runner.Gateway

namespace Daq

variable (env : Env)

/-! What a host does to itself: recording results, changing state, packet
captures and termination. -/

/-- The keyword arguments of a recorded result that are read back; `code` is
given (even as `None`) or not given. -/
structure Record where
  code : Option (Option Int) := none
  exception : Option Exc := none

def Record.result (record : Record) (name : Option String) : Result where
  name := name
  code := record.code.join
  exception := record.exception.map Exc.className

/-- `_record_result`: the result is stored before it is published. -/
def publishResult (host : HostId) (name : Option String) (record : Record) : Run Unit := do
  Exec.when (NonEmpty name) <|
    Exec.modify fun world => world.setHost host fun entry =>
      { entry with results := entry.results.insert (name.getD "") (record.result name) }
  callOut env (.publishResult host)

/-- Accumulate test reports into the overall device report, which is gone once
it was finalized. -/
def accumulate (host : HostId) (name : String) (change : ReportItem → ReportItem) :
    Run Unit := do
  let entry ← Exec.read fun world => world.hosts host
  match entry.report with
  | none => Exec.raise (.attributeError "'NoneType' object has no attribute 'accumulate'")
  | some items => Exec.modify fun world => world.setHost host fun entry =>
      { entry with report := some (items.insert name (change ((items.get? name).getD {}))) }

/-- Record a named result for this test.  The name becomes the host's current
test name, and without a name nothing is recorded. -/
def recordResult (host : HostId) (name : Option String) (record : Record) : Run Unit := do
  Exec.modify fun world => world.setHost host fun entry => { entry with testName := name }
  Exec.when (NonEmpty name) do
    publishResult env host name record
    Exec.whenSome record.exception fun raised =>
      accumulate host (name.getD "") fun item => { item with exception := some raised.message }
    Exec.whenSome record.code fun code =>
      accumulate host (name.getD "") fun item => { item with returnCode := code }
    accumulate host (name.getD "") id

/-- Record an exception under whatever test name the host has right now. -/
def recordException (host : HostId) (raised : Exc) : Run Unit := do
  let entry ← Exec.read fun world => world.hosts host
  recordResult env host entry.testName { exception := some raised }

def stateTransition (host : HostId) (target : HostState) (expected : Option HostState) :
    Run Unit := do
  let entry ← Exec.read fun world => world.hosts host
  Exec.require (expected = none ∨ expected = some entry.state)
    (.assertionError ("state was " ++ entry.state.text ++ " expected " ++
      expected.elim "None" HostState.text))
  Exec.require (entry.state ≠ .term) (.assertionError "host already terminated")
  Exec.modify fun world => world.setHost host fun entry =>
    { entry with state := target, life := entry.life ++ [.moved target] }

/-- Start a packet capture. -/
def monitorScan (host : HostId) (timeout : Option Nat) : Run Unit := do
  let entry ← Exec.read fun world => world.hosts host
  Exec.require entry.monitorRef.isNone (.assertionError "tcp_monitor already active")
  callOut env (.monitorScan host)
  Exec.modify fun world => world.setHost host fun entry =>
    { entry with monitorRef := some { active := true, timeout := timeout } }
  callOut env (.monitorStream host)

def monitorCleanup (host : HostId) (forget : Bool) : Run Unit := do
  let entry ← Exec.read fun world => world.hosts host
  Exec.whenSome entry.monitorRef fun monitor => do
    Exec.require (monitor.active = forget) (.assertionError "forget and active mismatch")
    callOut env (.uploadFile host)
    Exec.when (forget = true) (callOut env (.monitorForget host))
    Exec.modify fun world => world.setHost host fun entry => { entry with monitorRef := none }

def finalizeReport (host : HostId) : Run DeviceReport := do
  let entry ← Exec.read fun world => world.hosts host
  match entry.report with
  | none => Exec.raise (.attributeError "'NoneType' object has no attribute 'finalize'")
  | some items => do
      callOut env (.reportFinalize host)
      match Report.finalizeItems entry.loadedConfig items with
      | .error raised => Exec.raise raised
      | .ok report => do
          callOut env (.uploadFile host)
          recordResult env host (some "terminate") {}
          Exec.modify fun world => world.setHost host fun entry => { entry with report := none }
          pure report

/-- Terminate this host, without notifying the runner: the runner is the only
caller and asks for that. -/
def terminateHost (host : HostId) : Run DeviceReport := do
  Exec.modify fun world => world.setHost host fun entry =>
    { entry with terminations := entry.terminations + 1 }
  stateTransition host .term none
  callOut env (.releaseConfig host)
  monitorCleanup env host true
  let entry ← Exec.read fun world => world.hosts host
  Exec.when (Truthy entry.targetPort) (callOut env (.deleteMirror host))
  Exec.when (entry.testHost.isSome = true) <|
    Exec.attempt
      (do
        callOut env (.moduleTerminate host)
        Exec.modify fun world => world.setHost host fun entry =>
          { entry with testHost := none, timeoutHandler := none })
      (fun _ => pure ())
  finalizeReport env host

end Daq
