import Daq.Host.TestPorts
import Daq.Runner.Settling

namespace Daq

variable {env : Env}

/-! The packet capture of a host, as the stream monitor dispatches its events.
The stream monitor calls the same error handler whether the capture's stream is
open or has been closed because of a hangup. -/

/-- The runner, and whether the stream monitor has the stream of the capture
that an event is for. -/
structure Watch where
  world : World
  registered : Bool := true

namespace Watch

def inWorld (program : Run Unit) : Exec Watch Exc Unit :=
  Exec.zoom Watch.world (fun world watch => { watch with world := world }) program

/-- `next_line` raises; neither it nor the error handler forgets the stream. -/
def triggerCallback (env : Env) (host : HostId) (raised : Exc) : Exec Watch Exc Unit :=
  Exec.attempt (Exec.raise raised) fun raised => inWorld (captureError env host raised)

/-- The stream is closed and forgotten before the hangup callback. -/
def triggerHangup (env : Env) (host : HostId) : Exec Watch Exc Unit := do
  Exec.modify fun watch => { watch with registered := false }
  inWorld (captureHangup env host)

/-- The capture is put away, its stream is forgotten, and the device has been
finalized: it is removed from the registry, which nothing else does. -/
structure Handled (host : HostId) (watch : Watch) : Prop where
  quiet : (watch.world.hosts host).monitorRef = none
  forgotten : watch.registered = false
  finalized : ¬ watch.world.Registered (watch.world.hosts host).device

end Watch

deriving instance DecidableEq for Monitor

/-- The stream of the host's capture is closed. -/
def World.hangup (world : World) (host : HostId) (monitor : Monitor) : World :=
  world.setHost host fun entry => { entry with monitorRef := some { monitor with active := false } }

/-! What a test that does not start leaves of the capture. -/

def sameCapture (host : HostId) : Frame World := .unchanged fun world => (world.hosts host).monitorRef

section Starting

variable {host : HostId} {world : World} {α : Type} {program : Run α}

theorem sameCapture_of_keepsHost {view : Host → Host} (within : program.Within (keepsHost host view))
    (shown : ∀ entry, (view entry).monitorRef = entry.monitorRef) :
    program.Within (sameCapture host) :=
  within.mono fun _ _ kept => kept.field Host.monitorRef shown host

theorem sameCapture_of_hosts {update : World → World}
    (hosts : ∀ world, (update world).hosts = world.hosts) :
    (Exec.modify update : Run Unit).Within (sameCapture host) :=
  Exec.within_modify fun world =>
    congrArg (fun hosts : HostId → Host => (hosts host).monitorRef) (hosts world)

theorem callOut_sameCapture (op : Op) : (callOut env op).Within (sameCapture host) :=
  sameCapture_of_keepsHost
    (callOut_keepsHost host op : (callOut env op).Within (keepsHost host id)) fun _ => rfl

theorem setHost_sameCapture {change : World → Host → Host}
    (same : ∀ world entry, (change world entry).monitorRef = entry.monitorRef) :
    (Exec.modify fun world => world.setHost host (change world) : Run Unit).Within
      (sameCapture host) :=
  Exec.within_modify fun world => setHost_view Host.monitorRef (same world _) host

theorem recordResult_sameCapture (name : Option String) (record : Record) :
    (recordResult env host name record).Within (sameCapture host) :=
  sameCapture_of_keepsHost (recordResult_hostRecord host name record) fun _ => rfl

theorem stateTransition_sameCapture (target : HostState) (expected : Option HostState) :
    (stateTransition host target expected).Within (sameCapture host) := by
  unfold stateTransition
  refine Exec.within_bind (Exec.within_read _) fun _ => ?_
  refine Exec.within_bind (Exec.within_require _) fun _ => ?_
  exact Exec.within_bind (Exec.within_require _) fun _ => setHost_sameCapture fun _ _ => rfl

/-- If the host has a capture, its stream is open. -/
def Fits (host : HostId) (world : World) : Prop :=
  ∀ monitor, (world.hosts host).monitorRef = some monitor → monitor.active = true

theorem fits_of_quiet (quiet : (world.hosts host).monitorRef = none) : Fits host world := by
  intro monitor current
  cases quiet.symm.trans current

theorem Fits.of_same {before after : World} (fits : Fits host before)
    (same : (sameCapture host).rel before after) : Fits host after :=
  fun monitor current => fits monitor (Eq.trans (Eq.symm same) current)

theorem within_fits (within : program.Within (sameCapture host)) :
    program.Within (.invariant (Fits host)) :=
  within.mono fun _ _ same fits => fits.of_same same

theorem monitorScan_fits (timeout : Option Nat) :
    (monitorScan env host timeout).Within (.invariant (Fits host)) := by
  unfold monitorScan
  refine Exec.within_bind (Exec.within_read _) fun _ => ?_
  refine Exec.within_bind (Exec.within_require _) fun _ => ?_
  refine Exec.within_bind (within_fits (callOut_sameCapture _)) fun _ => ?_
  refine Exec.within_bind (Exec.within_modify fun _ _ monitor current => ?_) fun _ =>
    within_fits (callOut_sameCapture _)
  rw [setHost_hosts, if_pos rfl] at current
  cases current
  rfl

theorem startTest_fits (test : String) :
    (startTest env host test).Within (.invariant (Fits host)) := by
  unfold startTest
  refine Exec.within_bind (within_fits (setHost_sameCapture fun _ _ => rfl)) fun _ => ?_
  refine Exec.within_bind (within_fits (callOut_sameCapture _)) fun _ => ?_
  refine Exec.within_bind (within_fits (sameCapture_of_keepsHost
    (publishResult_hostRecord host _ _) fun _ => rfl)) fun _ => ?_
  refine Exec.within_bind (within_fits (recordResult_sameCapture _ _)) fun _ => ?_
  exact Exec.within_bind (monitorScan_fits _) fun _ =>
    within_fits (stateTransition_sameCapture _ _)

theorem monitorCleanup_clears (books : env.KeepsBooksOf host) (fits : Fits host world) :
    (monitorCleanup env host true).Holds world (fun _ after =>
      (after.hosts host).monitorRef = none) := by
  have cleaned := (@monitorCleanup_returns env host world books true fits).and
    (@monitorCleanup_cleared env host world true)
  exact cleaned.mono fun _ _ done => done.2 done.1

theorem leaveSeat_clears (books : env.KeepsBooksOf host) {before : World} (seated : Seated host before world)
    (fits : Fits host world) (raised : Exc) :
    (do
      Exec.modify fun world => world.setHost host fun entry => { entry with testHost := none }
      let testPort ← Exec.read fun world => (world.hosts host).testPort
      releaseTestPort (before.hosts host).gateway testPort
      Exec.modify fun world => world.setHost host fun entry => { entry with testPort := none }
      monitorCleanup env host true
      Exec.raise raised : Run Unit).Holds world (fun _ after =>
        (after.hosts host).monitorRef = none) := by
  obtain ⟨port, held, _, _, ports⟩ := seated.port
  have still : ((world.setHost host fun entry => { entry with testHost := none }).hosts
      host).testPort = some port := by
    rw [setHost_hosts, if_pos rfl]
    exact held
  have inUse : port ∈ ((world.setHost host fun entry =>
      { entry with testHost := none }).gateways (before.hosts host).gateway).testPorts :=
    (congrArg (port ∈ ·) ports).mpr (Finset.mem_insert_self _ _)
  rw [Exec.holds_bind, Exec.holds_modify, Exec.then_ok, Exec.holds_bind, Exec.holds_read,
    Exec.then_ok, still, Exec.holds_congr (Exec.bind_run_ok (releaseTestPort_run inUse)),
    Exec.holds_bind, Exec.holds_modify, Exec.then_ok]
  refine (monitorCleanup_clears books ?_).bind (fun _ _ quiet => quiet) fun _ _ quiet => quiet
  have first := @setHost_sameCapture host (fun _ entry => { entry with testHost := none })
    (fun _ _ => rfl) world
  have second := @setHost_sameCapture host (fun _ entry => { entry with testPort := none })
    (fun _ _ => rfl) ((world.setHost host fun entry => { entry with testHost := none }).setGateway
      (before.hosts host).gateway fun entry =>
        { entry with testPorts := entry.testPorts.erase port })
  exact fits.of_same (Eq.trans second first)

theorem runTest_clears (books : env.KeepsBooksOf host) (test : String)
    (quiet : (world.hosts host).monitorRef = none) :
    (runTest env host test).Holds world (fun outcome after =>
      (∃ raised, outcome = .error raised) → (after.hosts host).monitorRef = none) := by
  have begun : KeepsHost host Host.seat world (world.setHost host fun entry =>
      { entry with timeoutHandler := some .main }).ticked :=
    ⟨rfl, fun other different => by simp [World.ticked, setHost_hosts, different],
      by simp [World.ticked, setHost_hosts, Host.seat]⟩
  have calm : ((world.setHost host fun entry =>
      { entry with timeoutHandler := some .main }).ticked.hosts host).monitorRef = none :=
    Eq.trans (@setHost_sameCapture host (fun _ entry => { entry with timeoutHandler := some .main })
      (fun _ _ => rfl) world) quiet
  unfold runTest
  rw [Exec.holds_bind, Exec.holds_modify, Exec.then_ok]
  refine (callOut_ticks env _ _).bind ?_ ?_
  · rintro raised _ rfl _
    exact calm
  rintro _ _ rfl
  rw [Exec.holds_bind, Exec.holds_modify, Exec.then_ok, Exec.holds_bind, Exec.holds_read,
    Exec.then_ok]
  have ready : Lodges host world ((world.setHost host fun entry =>
      { entry with timeoutHandler := some .main }).ticked.setHost host fun entry =>
        { entry with testHost := some test }) :=
    Lodges.setHost (.of_keepsHost begun fun _ => rfl) rfl
  rw [ready.gateway]
  have allocated : (Exec.attempt
      (do
        let testPort ← allocateTestPort (world.hosts host).gateway
        Exec.modify fun world => world.setHost host fun entry =>
          { entry with testPort := some testPort })
      (fun raised => do
        Exec.modify fun world => world.setHost host fun entry => { entry with testHost := none }
        Exec.raise raised) : Run Unit).Within (sameCapture host) := by
    unfold allocateTestPort
    refine Exec.within_attempt (Exec.within_bind ?_ fun _ => setHost_sameCapture fun _ _ => rfl)
      fun _ => Exec.within_bind (setHost_sameCapture fun _ _ => rfl) fun _ => Exec.within_raise _
    refine Exec.within_bind (Exec.within_read _) fun _ => ?_
    refine Exec.within_bind (Exec.within_require _) fun _ => ?_
    exact Exec.within_bind (sameCapture_of_hosts fun _ => rfl) fun _ => Exec.within_pure _
  have starts : (do
      startTest env host test
      getModuleParams host
      callOut env (.moduleStart host) : Run Unit).Within (.invariant (Fits host)) :=
    Exec.within_bind (startTest_fits test) fun _ => Exec.within_bind getModuleParams_within fun _ =>
      within_fits (callOut_sameCapture _)
  have seats : (do
      startTest env host test
      getModuleParams host
      callOut env (.moduleStart host) : Run Unit).Within (keepsHost host Host.seat) :=
    Exec.within_bind startTest_seat fun _ => Exec.within_bind getModuleParams_within fun _ =>
      callOut_keepsHost _ _
  have still : (((world.setHost host fun entry =>
      { entry with timeoutHandler := some .main }).ticked.setHost host fun entry =>
        { entry with testHost := some test }).hosts host).monitorRef = none :=
    Eq.trans (@setHost_sameCapture host (fun _ entry => { entry with testHost := some test })
      (fun _ _ => rfl) _) calm
  have found := findSeat_holds ready rfl (by
    rw [setHost_hosts, if_pos rfl]
    exact Option.some_ne_none test)
  refine (found.and (allocated.holds _)).bind ?_ ?_
  · exact fun _ _ done _ => Eq.trans done.2 still
  · rintro _ after ⟨⟨⟨_, impossible⟩, _⟩ | ⟨_, seated⟩, same⟩
    · cases impossible
    · have fits : Fits host after := fits_of_quiet (Eq.trans same still)
      refine ((seats.holds after).and (starts.holds after)).attempt ?_ ?_
      · rintro _ _ _ ⟨_, impossible⟩
        cases impossible
      · rintro raised failed ⟨kept, fitting⟩
        exact (leaveSeat_clears books (seated.kept kept) (fitting fits) raised).mono
          fun _ _ quiet _ => quiet

theorem finishRun_sameCapture : (finishRun env host).Within (sameCapture host) := by
  unfold finishRun
  refine Exec.within_ite (stateTransition_sameCapture _ _) ?_
  refine Exec.within_bind (setHost_sameCapture fun _ _ => rfl) fun _ => ?_
  exact Exec.within_bind (stateTransition_sameCapture _ _) fun _ => recordResult_sameCapture _ _

theorem runRemaining_clears (books : env.KeepsBooksOf host) (quiet : (world.hosts host).monitorRef = none)
    (tests : List String) :
    (runRemaining env host tests).Holds world (fun outcome after =>
      (∃ raised, outcome = .error raised) → (after.hosts host).monitorRef = none) := by
  cases tests with
  | nil => exact fun _ => Eq.trans (finishRun_sameCapture world) quiet
  | cons test rest =>
      unfold runRemaining
      rw [Exec.holds_bind, Exec.holds_modify, Exec.then_ok]
      refine runTest_clears books test (Eq.trans ?_ quiet)
      exact @setHost_sameCapture host (fun _ entry =>
        { entry with remainingTests := rest, life := entry.life ++ [.taken test] })
        (fun _ _ => rfl) world

end Starting

/-! A failure that is reported finalizes the device. -/

/-- What has come of an earlier state, with nothing received in between. -/
structure Since (env : Env) (start world : World) : Prop where
  succeeds : Succeeds env none start world
  intake : keepsIntake.rel start world

theorem Since.trans {start middle world : World} (first : Since env start middle)
    (second : Since env middle world) : Since env start world :=
  ⟨first.succeeds.trans second.succeeds, keepsIntake.trans first.intake second.intake⟩

theorem Since.of_core {before after : World} (orderly : Orderly env before)
    (core : after.core = before.core) (regular : after.Regular env)
    (intake : keepsIntake.rel before after) : Since env before after :=
  ⟨.of_roll orderly (roll_of_core core) regular, intake⟩

/-- In single shot mode, the events that are left are processed without an
exception, whatever has come of the state. -/
def Processes (env : Env) (start : World) : Prop :=
  ∀ state, Since env start state → env.config.singleShot = true → state.runTests = true →
    (handleReceivedEvents env).Holds state (fun outcome _ => outcome = .ok ())

theorem processes_of_idle {start : World}
    (idle : start.faucetEvents = false ∨ start.pending = []) : Processes env start := by
  intro state since _ _
  have still : state.faucetEvents = false ∨ state.pending = [] := by
    rw [since.intake.1, since.intake.2.1]
    exact idle
  have drained : Drains (succeeds env) (handleReceivedEvents env) :=
    succession.handleReceivedEvents
  rw [Exec.holds_of_run (drained.idle state still)]

/-- The results of the host and of its device are published, uploaded and
logged without an exception, and its captures are forgotten. -/
structure Env.Serves (env : Env) (host : HostId) (device : DeviceId) : Prop
    extends env.KeepsBooksOf host where
  logs : ∀ state, env.fault state (.resultLog device) = none

section Failing

variable {host : HostId} {device : DeviceId} {start world : World}

/-- A finalization gets to the registry, unless the events it processes fail. -/
theorem targetSetFinalize_removes (logs : ∀ state, env.fault state (.resultLog device) = none)
    (processes : Processes env start) (since : Since env start world) (set : ResultSet) :
    (targetSetFinalize env (handleReceivedEvents env) device set).Holds world (fun _ after =>
      ¬ after.Registered device) := by
  have stored := ((@recordResultSet_returns env world device set (logs world)).and
    ((recordResultSet_sameRoll device set).holds world)).and
      ((recordResultSet_keepsIntake device set).holds world)
  unfold targetSetFinalize
  refine stored.bind ?_ ?_
  · rintro _ _ ⟨⟨impossible, _⟩, _⟩
    cases impossible
  rintro _ middle ⟨⟨_, roll⟩, intake⟩
  obtain ⟨same, regular⟩ := roll since.succeeds.orderly.regular
  have since : Since env start middle :=
    since.trans ⟨.of_roll since.succeeds.orderly same regular, intake⟩
  have drained : (drainSingleShot env (handleReceivedEvents env) device).Holds middle
      (fun outcome _ => outcome = .ok ()) := by
    unfold drainSingleShot
    rw [Exec.holds_bind, Exec.holds_get, Exec.then_ok, Exec.holds_when]
    refine ⟨fun shot => ?_, fun _ => rfl⟩
    have noted : Since env middle (noteDrain device middle) :=
      ⟨noteDrain_succeeds device middle since.succeeds.orderly, noteDrain_keepsIntake device middle⟩
    have running : (noteDrain device middle).runTests = true := by
      unfold noteDrain
      split
      · exact shot.2
      · exact shot.2
    rw [Exec.holds_bind, Exec.holds_modify, Exec.then_ok]
    refine (processes _ (since.trans noted) shot.1 running).bind nofun fun _ _ _ => ?_
    exact Exec.holds_modify.mpr rfl
  refine drained.bind nofun fun _ reached _ => ?_
  exact (letGo_holds reached device).mono fun _ _ gone => gone.gone

/-- Whatever it raises in the end, reporting an error of a host's device removes
the device. -/
theorem targetSetError_removes (serves : env.Serves host device) (processes : Processes env start)
    (since : Since env start world) (made : host < world.nextHost)
    (own : (world.hosts host).device = device) (reported : (world.hosts host).report ≠ none)
    (raised : Exc) :
    (targetSetError env (handleReceivedEvents env) device raised).Holds world (fun _ after =>
      ¬ after.Registered device) := by
  have orderly := since.succeeds.orderly
  obtain ⟨known, engaged⟩ := orderly.engaged host made
  rw [own] at known engaged
  rcases engaged with hosted | ⟨unregistered, _⟩
  · obtain ⟨other, hosted⟩ := Option.ne_none_iff_exists'.mp hosted
    obtain ⟨there, theirs⟩ := orderly.hosted device other hosted
    obtain rfl := orderly.sole host made other there (own.trans theirs.symm)
    have later : (recordException env host raised >>= fun _ => cancelling env device).Within
        (succeeds env) :=
      Exec.within_bind (recordException_succeeds host raised) fun _ => cancelling_succeeds device
    have unheard : (recordException env host raised >>= fun _ => cancelling env device).Within
        keepsIntake :=
      Exec.within_bind (keepsIntake_rule.exception host raised) fun _ =>
        cancelling_keepsIntake device
    have recorded := (recordException_cancelling serves.publishes orderly hosted reported
      raised).and ((later.holds world).and (unheard.holds world))
    unfold targetSetError
    rw [Exec.holds_bind, Exec.holds_read, Exec.then_ok, hosted]
    dsimp only
    unfold targetSetComplete
    show Exec.Holds (recordException env host raised >>= fun _ =>
      cancelling env device >>= fun _ => _) world _
    rw [← Exec.bind_assoc]
    refine recorded.bind (fun _ _ done => nomatch done.1.1) ?_
    rintro _ middle ⟨⟨_, _, still, _⟩, succession, intake⟩
    rw [Exec.holds_bind, Exec.holds_get, Exec.then_ok, still]
    exact targetSetFinalize_removes serves.logs processes
      (since.trans ⟨succession orderly, intake⟩) _
  · have kept := targetSetError_succeeds (succession.handleReceivedEvents :
      Drains (succeeds env) (handleReceivedEvents env)).within device raised
    exact (kept.holds world).mono fun _ _ later =>
      (later orderly).unregistered device known unregistered

/-- The host's capture is put away, and its device is removed. -/
structure Settled (env : Env) (host : HostId) (world : World) : Prop where
  orderly : Orderly env world
  made : host < world.nextHost
  quiet : (world.hosts host).monitorRef = none
  removed : ¬ world.Registered (world.hosts host).device

theorem Settled.stays {before after : World} (settled : Settled env host before)
    (kept : (settling env host).rel before after) : Settled env host after := by
  obtain ⟨succession, calm⟩ := kept settled.orderly
  constructor
  case orderly => exact succession.orderly
  case made => exact settled.made.trans_le succession.nextHost
  case quiet => exact calm settled.made settled.quiet
  case removed =>
    rw [succession.device host settled.made]
    exact succession.unregistered _ (settled.orderly.engaged host settled.made).1 settled.removed

/-- An error of the host's device can be recorded, unless the device is
removed. -/
structure Ready (env : Env) (start : World) (host : HostId) (world : World) : Prop where
  since : Since env start world
  made : host < world.nextHost
  device : (world.hosts host).device = (start.hosts host).device
  reported : (world.hosts host).report ≠ none
  ended : (world.hosts host).state = .term → ¬ world.Registered (world.hosts host).device

theorem host_device {before after : World} (core : after.core = before.core) (host : HostId) :
    (after.hosts host).device = (before.hosts host).device :=
  congrArg (fun view => (view.host host).device) core

theorem host_terminated {before after : World} (core : after.core = before.core) (host : HostId) :
    (after.hosts host).state = .term ↔ (before.hosts host).state = .term := by
  have same : decide ((after.hosts host).state = .term) =
      decide ((before.hosts host).state = .term) :=
    congrArg (fun view => (view.host host).terminated) core
  exact decide_eq_decide.mp same

theorem registered_of_core {before after : World} (core : after.core = before.core)
    (device : DeviceId) : after.Registered device ↔ before.Registered device := by
  have table : after.devices.table = before.devices.table := congrArg World.Core.table core
  have mac : (after.device device).mac = (before.device device).mac :=
    congrArg (fun view => (view.device device).mac) core
  unfold World.Registered
  rw [table, mac]

theorem Ready.advance {before after : World} (ready : Ready env start host before)
    (core : after.core = before.core) (regular : after.Regular env)
    (intake : keepsIntake.rel before after) : Ready env start host after := by
  have next := Since.of_core ready.since.succeeds.orderly core regular intake
  constructor
  case since => exact ready.since.trans next
  case made => exact ready.made.trans_le next.succeeds.nextHost
  case device => exact (host_device core host).trans ready.device
  case reported => exact fun absent => ready.reported ((host_report core host).mp absent)
  case ended =>
    rw [host_terminated core, registered_of_core core, host_device core]
    exact ready.ended

variable (serves : env.Serves host (start.hosts host).device) (processes : Processes env start)
include serves processes

theorem Ready.error (ready : Ready env start host world)
    (quiet : (world.hosts host).monitorRef = none) (raised : Exc) :
    (targetSetError env (handleReceivedEvents env) (world.hosts host).device raised).Holds world
      (fun _ after => Settled env host after) := by
  have removed := targetSetError_removes serves processes ready.since ready.made ready.device
    ready.reported raised
  have kept := (@targetSetError_settling env host _ settling_events.handleReceivedEvents
    (start.hosts host).device raised).holds world
  rw [ready.device]
  refine (removed.and kept).mono ?_
  rintro _ after ⟨gone, later⟩
  obtain ⟨succession, calm⟩ := later ready.since.succeeds.orderly
  constructor
  case orderly => exact succession.orderly
  case made => exact ready.made.trans_le succession.nextHost
  case quiet => exact calm ready.made quiet
  case removed =>
    rw [succession.device host ready.made, ready.device]
    exact gone

omit serves processes in
theorem Ready.transition (ready : Ready env start host world)
    (quiet : (world.hosts host).monitorRef = none) :
    (stateTransition host .error none).Holds world (fun outcome after =>
      (∃ raised, outcome = .error raised) ∧ Settled env host after ∨
        outcome = .ok () ∧ Ready env start host after ∧ (after.hosts host).monitorRef = none ∧
          (after.hosts host).device = (world.hosts host).device) := by
  have orderly := ready.since.succeeds.orderly
  have advanced := stateTransition_leads host orderly.regular
    (by decide : Leads none HostState.error)
  have kept := ((@stateTransition_sameCapture host HostState.error none).holds world).and
    (((@keepsIntake_rule env).stateTransition host .error none).holds world)
  have ended : (stateTransition host .error none).Holds world (fun outcome after =>
      outcome = .ok () ∨ (∃ raised, outcome = .error raised) ∧ after = world ∧
        (world.hosts host).state = .term) := by
    unfold stateTransition
    rw [Exec.holds_bind, Exec.holds_read, Exec.then_ok, Exec.holds_bind, Exec.holds_require]
    refine ⟨fun _ => ?_, fun unexpected => absurd (.inl rfl) unexpected⟩
    rw [Exec.then_ok, Exec.holds_bind, Exec.holds_require]
    refine ⟨fun _ => ?_, fun ended => .inr ⟨⟨_, rfl⟩, rfl, not_not.mp ended⟩⟩
    rw [Exec.then_ok, Exec.holds_modify]
    exact .inl rfl
  refine ((advanced.and kept).and ended).mono ?_
  rintro outcome after ⟨⟨⟨core, regular, _⟩, same, intake⟩, rfl | ⟨failed, rfl, halted⟩⟩
  · exact .inr ⟨rfl, ready.advance core regular intake, Eq.trans same quiet,
      host_device core host⟩
  · refine .inl ⟨failed, ?_⟩
    constructor
    case orderly => exact orderly
    case made => exact ready.made
    case quiet => exact quiet
    case removed => exact ready.ended halted

/-- An error is recorded and reported; a host that is terminated already has
its device removed. -/
theorem Ready.report (ready : Ready env start host world)
    (quiet : (world.hosts host).monitorRef = none) (raised : Exc) :
    (do
      recordException env host raised
      stateTransition host .error none
      let entry ← Exec.read fun world => world.hosts host
      targetSetError env (handleReceivedEvents env) entry.device raised : Run Unit).Holds world
        (fun _ after => Settled env host after) := by
  have recorded := ((recordException_returns serves.publishes ready.reported raised).and
    ((@recordException_stays env host raised).holds world)).and
      (((@keepsIntake_rule env).exception host raised).holds world)
  refine recorded.bind ?_ ?_
  · rintro _ _ ⟨⟨⟨impossible, _⟩, _⟩, _⟩
    cases impossible
  rintro _ noted ⟨⟨⟨_, kept⟩, stays⟩, intake⟩
  obtain ⟨core, regular, _⟩ := stays ready.since.succeeds.orderly.regular
  have ready := ready.advance core regular intake
  have quiet := (kept.field Host.monitorRef (fun _ => rfl) host).trans quiet
  refine (ready.transition quiet).bind ?_ ?_
  · rintro _ _ (⟨_, settled⟩ | ⟨impossible, _⟩)
    · exact settled
    · cases impossible
  · rintro _ moved (⟨⟨_, impossible⟩, _⟩ | ⟨_, ready, quiet, _⟩)
    · cases impossible
    · rw [Exec.holds_bind, Exec.holds_read, Exec.then_ok]
      exact ready.error serves processes quiet raised

theorem Ready.monitorError (ready : Ready env start host world)
    (quiet : (world.hosts host).monitorRef = none) (raised : Exc) :
    (monitorError env (handleReceivedEvents env) host raised false).Holds world
      (fun _ after => Settled env host after) := by
  have cleaned : (monitorCleanup env host false).run world = (.ok (), world) := by
    unfold monitorCleanup
    rw [Exec.read_bind_run, quiet]
    rfl
  unfold Daq.monitorError
  rw [Exec.holds_congr (Exec.bind_run_ok cleaned)]
  exact ready.report serves processes quiet raised

/-- If the next test cannot be started then the device is removed, or nothing
is in the way of it. -/
theorem Ready.runNextTest (ready : Ready env start host world)
    (quiet : (world.hosts host).monitorRef = none) (between : Between host world) :
    (runNextTest env (handleReceivedEvents env) host).Holds world (fun outcome after =>
      (∃ raised, outcome = .error raised) → Settled env host after ∨
        Ready env start host after ∧ (after.hosts host).monitorRef = none) := by
  unfold Daq.runNextTest
  rw [Exec.holds_bind, Exec.holds_read, Exec.then_ok, Exec.holds_bind, Exec.holds_require]
  refine ⟨fun _ => ?_, fun _ _ => .inr ⟨ready, quiet⟩⟩
  rw [Exec.then_ok]
  have ran := ((runRemaining_holds ready.since.succeeds.orderly.regular between).and
    (runRemaining_clears serves.toKeepsBooksOf quiet (world.hosts host).remainingTests)).and
      ((runRemaining_keepsIntake (world.hosts host).remainingTests).holds world)
  refine ran.attempt ?_ ?_
  · rintro _ _ _ ⟨_, impossible⟩
    cases impossible
  rintro raised failed ⟨⟨⟨core, regular⟩, clears⟩, intake⟩
  have device := host_device core host
  refine ((ready.advance core regular intake).transition (clears ⟨raised, rfl⟩)).bind ?_ ?_
  · rintro _ _ (⟨_, settled⟩ | ⟨impossible, _⟩) _
    · exact .inl settled
    · cases impossible
  · rintro _ moved (⟨⟨_, impossible⟩, _⟩ | ⟨_, ready, quiet, same⟩)
    · cases impossible
    · rw [← device, ← same]
      exact (ready.error serves processes quiet raised).mono fun _ _ settled _ => .inl settled

theorem Ready.monitorContinue (ready : Ready env start host world)
    (quiet : (world.hosts host).monitorRef = none) :
    (monitorContinue env (handleReceivedEvents env) host).Holds world (fun outcome after =>
      (∃ raised, outcome = .error raised) → Settled env host after ∨
        Ready env start host after ∧ (after.hosts host).monitorRef = none) := by
  have calm : (do
      stateTransition host .next (some .monitor)
      Exec.modify fun world => world.setHost host fun entry =>
        { entry with testName := none } : Run Unit).Within (sameCapture host) :=
    Exec.within_bind (stateTransition_sameCapture _ _) fun _ => setHost_sameCapture fun _ _ => rfl
  have unheard : (do
      stateTransition host .next (some .monitor)
      Exec.modify fun world => world.setHost host fun entry =>
        { entry with testName := none } : Run Unit).Within keepsIntake :=
    Exec.within_bind ((@keepsIntake_rule env).stateTransition host _ _) fun _ =>
      modify_keepsIntake fun _ => rfl
  have left := ((@leaveMonitor_between env host world ready.since.succeeds.orderly.regular
    trivial).and (calm.holds world)).and (unheard.holds world)
  unfold Daq.monitorContinue
  rw [← Exec.bind_assoc]
  refine left.bind ?_ ?_
  · rintro raised after ⟨⟨⟨core, regular, _⟩, same⟩, intake⟩ _
    exact .inr ⟨ready.advance core regular intake, Eq.trans same quiet⟩
  · rintro _ after ⟨⟨⟨core, regular, between⟩, same⟩, intake⟩
    exact (ready.advance core regular intake).runNextTest serves processes (Eq.trans same quiet)
      (between () rfl)

/-- The end of a capture, if it raises an exception. -/
theorem Ready.monitorTimeout {monitor : Monitor} (ready : Ready env start host world)
    (current : (world.hosts host).monitorRef = some monitor) :
    (monitorTimeout env (handleReceivedEvents env) host monitor.timeout).Holds
      (world.hangup host monitor) (fun outcome after =>
        (∃ raised, outcome = .error raised) → Settled env host after ∨
          Ready env start host after ∧ (after.hosts host).monitorRef = none) := by
  have own := ready.since.succeeds.orderly.regular host
  have fits : ∀ capture, ((world.hangup host monitor).hosts host).monitorRef = some capture →
      capture.active = false := by
    intro capture found
    unfold World.hangup at found
    rw [setHost_hosts, if_pos rfl] at found
    cases found
    rfl
  have closed : keepsIntake.rel world (world.hangup host monitor) := keepsIntake_of_same rfl
  have cleaned := (((hangup_holds ready.since.succeeds.orderly.regular current).and
    (@monitorCleanup_returns env host (world.hangup host monitor) serves.toKeepsBooksOf false
      fits)).and (@monitorCleanup_cleared env host (world.hangup host monitor) false)).and
        (((@keepsIntake_rule env).monitorCleanup host false).holds (world.hangup host monitor))
  unfold Daq.monitorTimeout
  rw [Exec.holds_bind, Exec.holds_get, Exec.then_ok, Exec.holds_ite]
  refine ⟨fun scanned => ?_, fun _ => ?_⟩
  · refine cleaned.bind ?_ ?_
    · rintro _ _ ⟨⟨⟨_, impossible⟩, _⟩, _⟩
      cases impossible
    rintro _ reached ⟨⟨⟨⟨core, regular, state⟩, _⟩, cleared⟩, intake⟩
    have ready := ready.advance core regular (keepsIntake.trans closed intake)
    have idle : (reached.hosts host).state ≠ .testing := fun testing =>
      own.scanning (state ▸ testing) monitor current scanned.1
    have recorded := ((recordResult_returns (some "monitor") {} serves.publishes
      ready.reported).and (@recordResult_holds env host reached (some "monitor") {} regular nofun
        (.inr ⟨idle, ready.reported⟩))).and
          ((keepsIntake_of_keepsHost (recordResult_hostRecord host _ _)).holds reached)
    refine recorded.bind ?_ ?_
    · rintro _ _ ⟨⟨⟨impossible, _⟩, _⟩, _⟩
      cases impossible
    · rintro _ noted ⟨⟨⟨_, kept⟩, core, regular, _⟩, intake⟩
      refine (ready.advance core regular intake).monitorContinue serves processes ?_
      exact (kept.field Host.monitorRef (fun _ => rfl) host).trans (cleared rfl)
  · unfold Daq.monitorError
    refine cleaned.bind ?_ ?_
    · rintro _ _ ⟨⟨⟨_, impossible⟩, _⟩, _⟩
      cases impossible
    rintro _ reached ⟨⟨⟨⟨core, regular, _⟩, _⟩, cleared⟩, intake⟩
    have ready := ready.advance core regular (keepsIntake.trans closed intake)
    exact (ready.report serves processes (cleared rfl) _).mono fun _ _ settled _ => .inl settled

end Failing

section Dispatch

variable {host : HostId} {world : World} {monitor : Monitor}

/-- The error handler finds the stream open where it asserts that it is
closed. -/
theorem captureError_active (current : (world.hosts host).monitorRef = some monitor)
    (active : monitor.active = true) (raised : Exc) :
    (captureError env host raised).run world = (.ok (), world) := by
  have cleaned : (monitorCleanup env host false).run world =
      (.error (.assertionError "forget and active mismatch"), world) := by
    unfold monitorCleanup
    rw [Exec.read_bind_run, current]
    refine Exec.require_bind_run_not _ _ ?_
    rw [active]
    exact Bool.noConfusion
  unfold captureError monitorError
  rw [Exec.attempt_run_error (Exec.bind_run_error cleaned)]
  rfl

theorem monitorError_settling (raised : Exc) (forget : Bool) :
    (monitorError env (handleReceivedEvents env) host raised forget).Within
      (settling env host) := by
  unfold monitorError
  refine Exec.within_bind (within_settling (within_succeedsBut (within_sameRoll_of_advances
    (within_advances (@monitorCleanup_stays env host forget)))) (calms_rule.monitorCleanup host _))
    fun _ => ?_
  refine Exec.within_bind (within_settling (recordException_succeeds host raised)
    (recordException_calms raised)) fun _ => ?_
  refine Exec.within_bind (within_settling (within_succeedsBut (within_sameRoll_of_advances
    (stateTransition_advances (by decide)))) ((@calms_rule env host).stateTransition host _ _)) fun _ => ?_
  exact Exec.within_bind (Exec.within_read _) fun entry =>
    targetSetError_settling settling_events.handleReceivedEvents _ raised

/-- A host that is terminated moves no more, and nothing follows its moving. -/
theorem stateTransition_refused {next : Unit → Run Unit}
    (ended : (world.hosts host).state = .term) (target : HostState)
    (expected : Option HostState) :
    (stateTransition host target expected >>= next).Holds world (fun _ after =>
      after = world) := by
  unfold stateTransition
  rw [Exec.bind_assoc, Exec.holds_bind, Exec.holds_read, Exec.then_ok, Exec.bind_assoc,
    Exec.holds_bind, Exec.holds_require]
  refine ⟨fun _ => ?_, fun _ => rfl⟩
  rw [Exec.then_ok, Exec.bind_assoc, Exec.holds_bind, Exec.holds_require]
  exact ⟨fun alive => absurd ended alive, fun _ => rfl⟩

/-- The error of a host that is terminated is recorded, and goes no further. -/
theorem report_terminated (raised : Exc) :
    (do
      recordException env host raised
      stateTransition host .error none
      let entry ← Exec.read fun world => world.hosts host
      targetSetError env (handleReceivedEvents env) entry.device raised : Run Unit).Within
        (during env host .term) := by
  refine Exec.within_bind (within_during (recordException_stays raised)) fun _ => ?_
  intro world regular ended
  have refused := @stateTransition_refused host world (fun _ => do
    let entry ← Exec.read fun world => world.hosts host
    targetSetError env (handleReceivedEvents env) entry.device raised) ended .error none
  unfold Exec.Holds at refused
  rw [refused]
  exact ⟨rfl, regular, ended⟩

theorem monitorError_terminated (raised : Exc) (forget : Bool) :
    (monitorError env (handleReceivedEvents env) host raised forget).Within
      (during env host .term) := by
  unfold monitorError
  exact Exec.within_bind (within_during (monitorCleanup_stays forget)) fun _ =>
    report_terminated raised

theorem monitorTimeout_terminated (regular : world.Regular env)
    (current : (world.hosts host).monitorRef = some monitor)
    (ended : (world.hosts host).state = .term) :
    (monitorTimeout env (handleReceivedEvents env) host monitor.timeout).Holds
      (world.hangup host monitor) (fun _ after => after.core = world.core ∧ after.Regular env ∧
        (after.hosts host).state = .term) := by
  have cleaned := hangup_holds regular current
  have reported : (world.hosts host).report ≠ none := by
    intro absent
    cases ((regular host).closed absent).2.2.symm.trans current
  unfold monitorTimeout
  rw [Exec.holds_bind, Exec.holds_get, Exec.then_ok, Exec.holds_ite]
  refine ⟨fun _ => ?_, fun _ => ?_⟩
  · refine cleaned.bind (fun _ _ done => ⟨done.1, done.2.1, done.2.2.trans ended⟩) ?_
    rintro _ reached ⟨core, regular, state⟩
    have still : (reached.hosts host).state = .term := state.trans ended
    have recorded := @recordResult_holds env host reached (some "monitor") {} regular nofun
      (.inr ⟨fun testing => HostState.noConfusion (still.symm.trans testing),
        fun absent => reported ((host_report core host).mp absent)⟩)
    have ended : ∀ noted : World, (noted.hosts host).course =
        { (reached.hosts host).course with testName := some "monitor" } →
        (noted.hosts host).state = .term :=
      fun _ course => (congrArg Host.Course.state course :).trans still
    refine recorded.bind (fun _ noted done => ⟨done.1.trans core, done.2.1, ended noted done.2.2⟩)
      ?_
    rintro _ noted ⟨noticed, regular, course⟩
    unfold monitorContinue
    refine (stateTransition_refused (ended noted course) .next (some .monitor)).mono ?_
    intro _ after same
    rw [same]
    exact ⟨noticed.trans core, regular, ended noted course⟩
  · unfold monitorError
    refine cleaned.bind (fun _ _ done => ⟨done.1, done.2.1, done.2.2.trans ended⟩) ?_
    rintro _ reached ⟨core, regular, state⟩
    obtain ⟨same, regular, still⟩ := report_terminated (.exception "tcpdump pcap hangup") reached
      regular (state.trans ended)
    exact ⟨same.trans core, regular, still⟩

/-- The exception of a hangup callback is reported once more. -/
theorem captureHangup_run {raised : Exc} {failed : World}
    (current : (world.hosts host).monitorRef = some monitor)
    (ran : (monitorTimeout env (handleReceivedEvents env) host monitor.timeout).run
      (world.hangup host monitor) = (.error raised, failed)) :
    (captureHangup env host).run world = (captureError env host raised).run failed := by
  unfold captureHangup
  rw [Exec.read_bind_run, current]
  dsimp only [Exec.whenSome]
  rw [Exec.bind_run_ok (Exec.modify_run _ _)]
  exact Exec.attempt_run_error ran

theorem captureHangup_settles (started : Started env world) (made : host < world.nextHost)
    (serves : env.Serves host (world.hosts host).device) (processes : Processes env world)
    (current : (world.hosts host).monitorRef = some monitor)
    (ended : (world.hosts host).state = .term → ¬ world.Registered (world.hosts host).device)
    {raised : Exc} {failed : World}
    (ran : (monitorTimeout env (handleReceivedEvents env) host monitor.timeout).run
      (world.hangup host monitor) = (.error raised, failed)) :
    (captureError env host raised).Holds failed (fun _ after => Settled env host after) := by
  have orderly := started_orderly started
  have reported : (world.hosts host).report ≠ none := by
    intro absent
    cases ((orderly.regular host).closed absent).2.2.symm.trans current
  have since : Since env world world := ⟨(succeeds env).refl world orderly, keepsIntake.refl world⟩
  have ready : Ready env world host world := ⟨since, made, rfl, reported, ended⟩
  have told := ready.monitorTimeout serves processes current
  unfold Exec.Holds at told
  rw [ran] at told
  have handled : (monitorError env (handleReceivedEvents env) host raised false).Holds failed
      (fun _ after => Settled env host after) := by
    rcases told ⟨raised, rfl⟩ with settled | ⟨ready, quiet⟩
    · exact settled.stays (monitorError_settling raised false failed)
    · exact ready.monitorError serves processes quiet raised
  unfold captureError
  exact handled.attempt (fun _ _ settled => settled) fun _ _ settled => settled

/-- The registry keeps the device of a host that is terminated. -/
theorem captureHangup_keeps (regular : world.Regular env)
    (current : (world.hosts host).monitorRef = some monitor)
    (ended : (world.hosts host).state = .term)
    {raised : Exc} {failed : World}
    (ran : (monitorTimeout env (handleReceivedEvents env) host monitor.timeout).run
      (world.hangup host monitor) = (.error raised, failed)) :
    (captureError env host raised).Holds failed (fun _ after => after.core = world.core) := by
  have told := monitorTimeout_terminated regular current ended
  unfold Exec.Holds at told
  rw [ran] at told
  obtain ⟨core, regular, still⟩ := told
  obtain ⟨same, _, _⟩ := monitorError_terminated raised false failed regular still
  have handled : (monitorError env (handleReceivedEvents env) host raised false).Holds failed
      (fun _ after => after.core = world.core) := same.trans core
  unfold captureError
  exact handled.attempt (fun _ _ kept => kept) fun _ _ kept => kept

end Dispatch

/-- The capture of a host is started. -/
def capturing : List Command :=
  [.receive (.event (.portState 1 1 true)), .receive (.event (.portState 2 1 true)),
    .receive (.event (.portLearn 2 1 "9a:02:57:1e:8f:01" 10)), .faucet, .control 0 false]

/-- No traffic can be directed to a device, so that its device is finalized at
once and its host goes on. -/
def undirected : Env :=
  { Env.quiet { secPort := 7 } with
    fault := fun _ op => if op = .generateAcls then some (.exception "No ACLs") else none }

def undirectedWorld : World := runCommands undirected capturing (initialWorld undirected)

/-- The capture that was started with the host. -/
def startupCapture : Monitor where
  active := true
  timeout := none

def captured : World := runCommands (.quiet { secPort := 7 }) capturing
  (initialWorld (.quiet { secPort := 7 }))

end Daq
