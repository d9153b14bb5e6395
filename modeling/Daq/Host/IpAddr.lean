import Daq.Data

namespace Daq.IpAddr

/-! The sequence of tests of the address of a device. -/

inductive Test
  | dhcpPortToggle
  | multiSubnet
  | ipChange
  | dhcpChange
  | analyze
deriving DecidableEq

def declared : List Test := [.dhcpPortToggle, .multiSubnet, .ipChange, .dhcpChange, .analyze]

structure DhcpRange where
  start : Option String := none
  last : Option String := none
  prefixLength : Option Nat := none
deriving DecidableEq

/-- What `_ip_callback` may refer to. -/
inductive IpCallback
  | nextTest
  | multiSubnetTest
deriving DecidableEq

/-- The docker module of the analysis: whether it has a start time, whether its
stream is monitored, and whether it has called back. -/
structure DockerHost where
  startTime : Bool := false
  running : Bool := false
  completed : Bool := false

structure Call where
  returnCode : Option Int := none
  exception : Option Exc := none
deriving DecidableEq

structure IpAddrModule where
  tests : List Test := declared
  testDhcpRanges : List DhcpRange := []
  ipCallback : Option IpCallback := none
  hasLeaseTime : Bool := false
  timeout : Bool := false
  forceTerminated : Bool := false
  dockerHost : DockerHost := {}
  /-- The tests that have been run, and the ranges that have been applied. -/
  ran : List Test := []
  applied : List DhcpRange := []
  calls : List Call := []
  /-- The host refers to the module no more. -/
  dropped : Bool := false

/-- What the calls of others come to while something is handled. -/
structure Answers where
  connectPort : Bool → Except Exc Bool := fun _ => .ok true
  changeDhcpRange : Except Exc Unit := .ok ()
  requestNewIp : Except Exc Unit := .ok ()
  dockerStart : Except Exc Unit := .ok ()
  dockerTerminate : Except Exc Unit := .ok ()
  stillMonitored : Bool := false
  pingTest : Except Exc Bool := .ok true
  expired : Bool := false

theorem indexError_named : "IndexError" ≠ "" := by decide

def emptyListError : Exc := ⟨"IndexError", "pop from empty list", indexError_named⟩

def timeoutException : Exc := .timeoutError "DHCP analysis step timeout expired"

abbrev Action := Exec IpAddrModule Exc

section Handling

variable (answers : Answers)

def setTimeout : Action Unit := do
  let module ← .get
  .when (module.hasLeaseTime = true) (.modify fun module => { module with timeout := true })

/-- The host's callback, after which the host drops the module. -/
def callback (call : Call) : Action Unit :=
  .modify fun module => { module with calls := module.calls ++ [call], dropped := true }

def finalize (call : Call) : Action Unit := do
  .modify fun module => { module with ipCallback := none }
  let module ← .get
  .when (module.forceTerminated = false) (callback call)

def listen (ipCallback : Option IpCallback) : Action Unit :=
  .modify fun module => { module with ipCallback := ipCallback }

def dhcpPortToggleTest : Action Unit := do
  setTimeout
  let disconnected ← .ofExcept (answers.connectPort false)
  .when (disconnected = true) do
    let _ ← .ofExcept (answers.connectPort true)
    listen (some .nextTest)

/-- The arguments that are read of a range. -/
def DhcpRange.arguments (range : DhcpRange) : Except Exc (String × String × Nat) :=
  match range.start, range.last, range.prefixLength with
  | none, _, _ => .error (.keyError "start")
  | some _, none, _ => .error (.keyError "end")
  | some _, some _, none => .error (.keyError "prefix_length")
  | some start, some last, some prefixLength => .ok (start, last, prefixLength)

/-- `next` is what `_next_test` does. -/
def multiSubnetTest (next : Action Unit) : Action Unit := do
  setTimeout
  let module ← .get
  match module.testDhcpRanges with
  | [] => next
  | range :: rest => do
      .modify fun module => { module with testDhcpRanges := rest }
      let _ ← .ofExcept range.arguments
      .modify fun module => { module with applied := module.applied ++ [range] }
      .ofExcept answers.changeDhcpRange
      listen (some (if rest = [] then .nextTest else .multiSubnetTest))

def ipChangeTest : Action Unit := do
  setTimeout
  .ofExcept answers.requestNewIp
  listen (some .nextTest)

def dhcpChangeTest : Action Unit := do
  setTimeout
  let disconnected ← .ofExcept (answers.connectPort false)
  .when (disconnected = true) do
    .ofExcept answers.requestNewIp
    let _ ← .ofExcept (answers.connectPort true)
    listen (some .nextTest)

/-- A start that fails leaves a start time and no stream. -/
def dockerStart : Action Unit := do
  .modify fun module => { module with dockerHost := { module.dockerHost with startTime := true } }
  .ofExcept answers.dockerStart
  .modify fun module => { module with dockerHost := { module.dockerHost with running := true } }

def analyze : Action Unit := do
  setTimeout
  listen none
  dockerStart answers

def testFunction (next : Action Unit) : Test → Action Unit
  | .dhcpPortToggle => dhcpPortToggleTest answers
  | .multiSubnet => multiSubnetTest answers next
  | .ipChange => ipChangeTest answers
  | .dhcpChange => dhcpChangeTest answers
  | .analyze => analyze answers

/-- `_next_test` where these tests are left; a test may go on to the next. -/
def nextOf : List Test → Action Unit
  | [] => .attempt (do
      .modify fun module => { module with timeout := false }
      .raise emptyListError)
      fun raised => finalize { exception := some raised }
  | test :: rest => .attempt (do
      .modify fun module => { module with timeout := false }
      .modify fun module => { module with tests := rest, ran := module.ran ++ [test] }
      testFunction answers (nextOf rest) test)
      fun raised => finalize { exception := some raised }

def nextTest : Action Unit := do
  let module ← .get
  nextOf answers module.tests

/-- A terminated container has no stream; one that is not terminated may keep
its stream. -/
def dockerTerminate : Action Unit :=
  match answers.dockerTerminate with
  | .ok _ => .modify fun module =>
      { module with dockerHost := { module.dockerHost with running := false } }
  | .error raised => do
      .modify fun module => { module with
        dockerHost := { module.dockerHost with
          running := module.dockerHost.running && answers.stillMonitored } }
      .raise raised

def terminate : Action Unit := do
  .modify fun module => { module with forceTerminated := true }
  let module ← .get
  .when (module.dockerHost.startTime = true) (dockerTerminate answers)
  finalize {}

/-- `ip_listener` for a state that is done. -/
def ipListener : Action Unit := do
  let _ ← .ofExcept answers.pingTest
  let module ← .get
  match module.ipCallback with
  | none => pure ()
  | some .nextTest => nextTest answers
  | some .multiSubnetTest => multiSubnetTest answers (nextTest answers)

def heartbeat : Action Unit := do
  let module ← .get
  .when (module.timeout = true ∧ answers.expired = true) do
    if module.dockerHost.startTime = true then do
      terminate answers
      callback { exception := some timeoutException }
    else do
      .modify fun module => { module with tests := module.tests.drop (module.tests.length - 1) }
      nextTest answers

end Handling

/-- What happens to a module.  The host drops it when it has terminated it. -/
inductive Event
  | ipNotify (isDone : Bool) (answers : Answers)
  | heartbeat (answers : Answers)
  | completed (returnCode : Option Int) (exception : Option Exc)
  | terminate (answers : Answers)

/-- The host calls the module as long as it refers to it, and the container
calls back while its stream is monitored. -/
def IpAddrModule.step (module : IpAddrModule) : Event → IpAddrModule
  | .ipNotify isDone answers =>
      if module.dropped = false ∧ isDone = true then ((ipListener answers).run module).2 else module
  | .heartbeat answers =>
      if module.dropped = false then ((heartbeat answers).run module).2 else module
  | .completed returnCode exception =>
      if module.dockerHost.running = true then
        ((finalize { returnCode, exception }).run { module with
          dockerHost := { module.dockerHost with running := false, completed := true } }).2
      else module
  | .terminate answers =>
      if module.dropped = false then
        { ((IpAddr.terminate answers).run module).2 with dropped := true }
      else module

def IpAddrModule.run (module : IpAddrModule) (events : List Event) : IpAddrModule :=
  events.foldl IpAddrModule.step module

/-- The module when it has been started. -/
def started (dhcpRanges : List DhcpRange) (hasLeaseTime : Bool) : IpAddrModule where
  testDhcpRanges := dhcpRanges
  ipCallback := some .nextTest
  hasLeaseTime := hasLeaseTime

end Daq.IpAddr
