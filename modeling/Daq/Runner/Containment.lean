import Daq.Host.Termination
import Daq.Lib.Loops
import Daq.Runner.Traffic

namespace Daq

variable {env : Env}

/-! What an exception in a pass of the main loop does to the other devices.
Only the idle step of a device is wrapped; whatever else a pass does for a
device ends the loop it is done in, or the main loop. -/

section Sparing

/-- The hosts but this one, the host of this device, and the received events. -/
def World.spared (device : DeviceId) (host : Option HostId) (world : World) :
    (HostId → Option Host) × Option HostId × List FaucetItem :=
  (fun other => if host = some other then none else some (world.hosts other),
    (world.device device).host, world.pending)

/-- Nothing happens to the other hosts while this device is taken down. -/
def sparing (device : DeviceId) (host : Option HostId) : Frame World :=
  .unchanged (World.spared device host)

variable {α : Type} {program : Run α} {device : DeviceId} {host : Option HostId}
  {world after : World}

theorem hosts_of_spared (same : after.spared device host = world.spared device host)
    {other : HostId} (apart : host ≠ some other) : after.hosts other = world.hosts other := by
  have entry := congrFun (congrArg Prod.fst same) other
  simp only [World.spared, if_neg apart] at entry
  exact Option.some.inj entry

theorem within_sparing_of_topologyOnly (within : program.Within topologyOnly) :
    program.Within (sparing device host) :=
  within.mono fun _ _ same => (congrArg (World.spared device host) same :)

theorem within_sparing_of_keepsHost {own : HostId} {view : Host → Host}
    (within : program.Within (keepsHost own view)) :
    program.Within (sparing device (some own)) := by
  refine within.mono fun before after kept => ?_
  have hosts : (fun other => if some own = some other then none else some (after.hosts other)) =
      fun other => if some own = some other then none else some (before.hosts other) := by
    funext other
    by_cases same : other = own
    · rw [if_pos (congrArg some same.symm), if_pos (congrArg some same.symm)]
    · rw [kept.others other same]
  have owner : (after.device device).host = (before.device device).host :=
    (congrArg (fun bare : World => (bare.device device).host) kept.outside :)
  have events : after.pending = before.pending := (congrArg World.pending kept.outside :)
  change (_, _, _) = (_, _, _)
  rw [hosts, owner, events]

theorem modify_sparing {update : World → World}
    (same : ∀ world, (update world).spared device host = world.spared device host) :
    (Exec.modify update : Run Unit).Within (sparing device host) :=
  Exec.within_modify same

theorem detachGateway_sparing :
    (detachGateway env device).Within (sparing device host) := by
  unfold detachGateway detachTarget retireGateway gatewayTerminate
  refine Exec.within_bind (Exec.within_read _) fun _ => Exec.within_whenSome _ fun gateway => ?_
  refine Exec.within_bind ?_ fun _ => Exec.within_bind (Exec.within_when ?_) fun _ =>
    modify_sparing fun world => ?_
  · refine Exec.within_bind Exec.within_get fun _ => ?_
    refine Exec.within_bind (Exec.within_require _) fun _ => ?_
    exact Exec.within_bind (modify_sparing fun _ => rfl) fun _ => Exec.within_read _
  · refine Exec.within_bind ?_ fun _ => ?_
    · refine Exec.within_bind Exec.within_get fun _ => ?_
      refine Exec.within_bind (Exec.within_require _) fun _ => ?_
      exact Exec.within_bind (modify_sparing fun _ => rfl) fun _ =>
        within_sparing_of_topologyOnly (callOut_topologyOnly _)
    · refine Exec.within_bind (modify_sparing fun _ => rfl) fun _ => ?_
      refine Exec.within_bind (Exec.within_read _) fun _ => ?_
      exact Exec.within_when
        (within_sparing_of_topologyOnly (directDeviceTraffic_topologyOnly _ _))
  · have owner : ((world.setDevice device fun entry =>
        { entry with gateway := none }).device device).host = (world.device device).host :=
      setDevice_view Device.host rfl device
    exact congrArg (fun own => (_, own, world.pending)) owner

theorem sendDeviceResult_sparing (testResults : Option DeviceReport) :
    (sendDeviceResult env device testResults).Within (sparing device host) := by
  have delivers : ∀ report code, (Exec.modify (deliverResult device report code) :
      Run Unit).Within (sparing device host) := by
    intro report code
    refine modify_sparing fun world => ?_
    unfold deliverResult queueSessionResult
    dsimp only
    split <;> rfl
  unfold sendDeviceResult
  refine Exec.within_ite (Exec.within_bind Exec.within_get fun world => ?_) (Exec.within_pure _)
  split
  · exact delivers _ _
  · exact Exec.within_raise _
  · exact delivers _ _

theorem lingerResult_sparing (gateway : Option GatewayId) (port : Option Nat) :
    (lingerResult gateway port).Within (sparing device host) := by
  unfold lingerResult activatePort
  refine Exec.within_bind (Exec.within_when ?_) fun _ => ?_
  · refine Exec.within_bind (Exec.within_read _) fun ports => ?_
    split
    · exact modify_sparing fun _ => rfl
    · exact modify_sparing fun _ => rfl
  · cases gateway with
    | none => exact Exec.within_raise _
    | some gateway => exact modify_sparing fun _ => rfl

theorem recordException_sparing (device : DeviceId) (own : HostId) (raised : Exc) :
    (recordException env own raised).Within (sparing device (some own)) :=
  within_sparing_of_keepsHost (recordException_hostRecord own raised)

theorem releaseDevice_sparing (own : HostId) :
    (releaseDevice env device own).Within (sparing device (some own)) := by
  unfold releaseDevice
  refine Exec.within_bind Exec.within_get fun world => ?_
  refine Exec.within_bind (Exec.within_when
    (within_sparing_of_topologyOnly (directPortTraffic_topologyOnly _ _ _))) fun _ => ?_
  refine Exec.within_bind detachGateway_sparing fun _ => ?_
  exact Exec.within_bind (within_sparing_of_keepsHost terminateHost_lasting) fun _ =>
    sendDeviceResult_sparing _

theorem recordResultSet_sparing (resultSet : ResultSet) :
    (recordResultSet env device resultSet).Within (sparing device host) := by
  unfold recordResultSet
  refine Exec.within_bind (Exec.within_read _) fun _ => ?_
  refine Exec.within_bind (within_sparing_of_topologyOnly (callOut_topologyOnly _)) fun _ => ?_
  refine Exec.within_bind (Exec.within_when (modify_sparing fun _ => rfl)) fun _ => ?_
  refine Exec.within_bind (modify_sparing fun _ => rfl) fun _ => ?_
  exact Exec.within_bind Exec.within_get fun _ =>
    Exec.within_when (modify_sparing fun _ => rfl)

theorem targetSetCancel_sparing (hosted : (world.device device).host = host) :
    (targetSetCancel env device).Holds world (fun _ after =>
      (sparing device host).rel world after) := by
  unfold targetSetCancel
  rw [Exec.holds_bind, Exec.holds_modify, Exec.then_ok, Exec.holds_bind, Exec.holds_get,
    Exec.then_ok, Exec.holds_whenSome]
  refine ⟨fun _ => rfl, fun own present => ?_⟩
  obtain rfl : host = some own := hosted.symm.trans present
  rw [Exec.holds_ite]
  exact ⟨fun _ => lingerResult_sparing _ _ _, fun _ => releaseDevice_sparing own _⟩

/-- No event is processed while a device is finalized. -/
def Undrained (env : Env) (world : World) : Prop :=
  env.config.singleShot = false ∨ world.pending = []

theorem handleReceivedEvents_run_idle (idle : world.pending = []) :
    (handleReceivedEvents env).run world = (.ok (), world) := by
  unfold handleReceivedEvents
  rw [Exec.get_bind_run, idle]
  rfl

theorem drainSingleShot_spares (undrained : Undrained env world) :
    (drainSingleShot env (handleReceivedEvents env) device).Holds world
      (fun _ after => after.hosts = world.hosts) := by
  unfold drainSingleShot
  rw [Exec.holds_bind, Exec.holds_get, Exec.then_ok, Exec.holds_when]
  refine ⟨fun last => ?_, fun _ => rfl⟩
  have idle : world.pending = [] := by
    refine undrained.resolve_left fun ordinary => ?_
    cases ordinary.symm.trans last.1
  have noted : noteDrain device world = world := by
    unfold noteDrain
    rw [if_neg fun both => both.2.2 idle]
  rw [Exec.holds_bind, Exec.holds_modify, Exec.then_ok, noted, Exec.holds_bind,
    Exec.holds_of_run (handleReceivedEvents_run_idle idle), Exec.then_ok, Exec.holds_modify]

theorem targetSetFinalize_spares (resultSet : ResultSet) (undrained : Undrained env world) :
    (targetSetFinalize env (handleReceivedEvents env) device resultSet).Holds world
      (fun _ after => after.hosts = world.hosts) := by
  have spared : ∀ {after}, (sparing device none).rel world after → after.hosts = world.hosts :=
    fun same => funext fun _ => hosts_of_spared same (Option.some_ne_none _).symm
  unfold targetSetFinalize
  refine ((recordResultSet_sparing resultSet).holds world).bind (fun _ _ same => spared same)
    fun _ recorded same => ?_
  have events : recorded.pending = world.pending := congrArg (fun view => view.2.2) same
  have undrained : Undrained env recorded := undrained.imp_right events.trans
  refine (drainSingleShot_spares undrained).bind (fun _ _ kept => kept.trans (spared same))
    fun _ drained kept => ?_
  rw [Exec.holds_bind, Exec.holds_modify, Exec.then_ok]
  exact kept.trans (spared same)

section Taken

variable {own : HostId} (undrained : Undrained env world)
include undrained

theorem Undrained.kept (same : (sparing device host).rel world after) : Undrained env after :=
  undrained.imp_right (congrArg (fun view => view.2.2) same :).trans

theorem targetSetComplete_spares (hosted : (world.device device).host = some own) :
    (targetSetComplete env (handleReceivedEvents env) device).Holds world
      (fun _ after => ∀ other, some own ≠ some other → after.hosts other = world.hosts other) := by
  have owner : ∀ {state}, (sparing device (some own)).rel world state →
      (state.device device).host = some own := fun same =>
    (congrArg (fun view => view.2.1) same :).trans hosted
  unfold targetSetComplete
  refine Exec.Holds.bind (?cancelled : Exec.Holds _ world fun _ state =>
    (sparing device (some own)).rel world state) (fun _ _ same _ apart => hosts_of_spared same apart)
    fun _ state same => ?_
  case cancelled =>
    refine (targetSetCancel_sparing hosted).attempt (fun _ _ same => same) fun raised state same => ?_
    rw [Exec.holds_bind, Exec.holds_read, Exec.then_ok, owner same]
    exact ((recordException_sparing device own raised).holds state).mono fun _ _ later =>
      (sparing device (some own)).trans same later
  rw [Exec.holds_bind, Exec.holds_get, Exec.then_ok, owner same]
  refine (targetSetFinalize_spares _ (undrained.kept same)).mono fun _ after hosts other apart => ?_
  rw [hosts, hosts_of_spared same apart]

/-- Whatever goes wrong with a device, its error leaves the other hosts alone. -/
theorem targetSetError_spares (raised : Exc) :
    (targetSetError env (handleReceivedEvents env) device raised).Holds world
      (fun _ after => ∀ other, (world.device device).host ≠ some other →
        after.hosts other = world.hosts other) := by
  unfold targetSetError
  rw [Exec.holds_bind, Exec.holds_read, Exec.then_ok]
  cases hosted : (world.device device).host with
  | none =>
      refine (targetSetFinalize_spares _ undrained).bind (fun _ _ same other _ => by rw [same])
        fun _ finalized same => ?_
      have detached : (do sendDeviceResult env device none; detachGateway env device :
          Run Unit).Within (sparing device none) :=
        Exec.within_bind (sendDeviceResult_sparing _) fun _ => detachGateway_sparing
      refine (detached.holds finalized).mono fun _ after kept other _ => ?_
      rw [hosts_of_spared kept (Option.some_ne_none _).symm, same]
  | some own =>
      refine ((recordException_sparing device own raised).holds world).bind
        (fun _ _ same _ apart => hosts_of_spared same apart) fun _ state same => ?_
      have owner : (state.device device).host = some own :=
        (congrArg (fun view => view.2.1) same :).trans hosted
      refine (targetSetComplete_spares (undrained.kept same) owner).mono fun _ after hosts other
        apart => ?_
      rw [hosts other apart, hosts_of_spared same apart]

end Taken

end Sparing

/-- What a pass of the main loop does for one device after the other. -/
inductive Phase
  | idle
  | retrigger
  | reap
  | heartbeat
deriving DecidableEq

namespace Phase

/-- What a phase does for a device. -/
def process (env : Env) : Phase → DeviceId → Run Unit
  | .idle => idleDevice env
  | .retrigger => fun device => targetSetTrigger env (handleReceivedEvents env) device false
  | .reap => reapDevice env
  | .heartbeat => heartbeatDevice env

/-- The body of a phase's loop; only the idle step is wrapped. -/
def body (env : Env) : Phase → DeviceId → Run Unit
  | .idle => idleTriggered env
  | phase => phase.process env

/-- Whoever a phase is for. -/
def due : Phase → World → List DeviceId
  | .retrigger => registeredDevices
  | .idle | .reap | .heartbeat => getTriggeredDevices

/-- The phase's loop. -/
def loop (env : Env) (phase : Phase) : Run Unit := do
  let devices ← Exec.read phase.due
  Exec.forEach devices (phase.body env)

/-- What is done about an exception of a device: its error, nothing but a line
in the log, or the end of the main loop. -/
def handle (env : Env) : Phase → DeviceId → Exc → Run Unit
  | .idle, device, raised => targetSetError env (handleReceivedEvents env) device raised
  | .retrigger, _, _ => pure ()
  | .reap, _, raised | .heartbeat, _, raised => endMainLoop env raised

/-- The state in which a pass gets to a phase. -/
def Starts (env : Env) (world : World) : Phase → World → Prop
  | .idle, start => (handleReceivedEvents env).run world = (.ok (), start)
  | .retrigger, start => ∃ first, (handleReceivedEvents env).run world = (.ok (), first) ∧
      (loop env .idle).run first = (.ok (), start)
  | .reap, start => start = ((handleSystemIdle env).run world).2
  | .heartbeat, start =>
      (loop env .reap).run ((handleSystemIdle env).run world).2 = (.ok (), start)

/-- Each of the devices that are due is processed. -/
def Serves (env : Env) (phase : Phase) (start : World) : Prop :=
  Exec.Completes (phase.body env) (phase.due start) start

end Phase

/-- A pass comes to a device, and what it does for the device raises. -/
structure Interruption (env : Env) (world : World) where
  phase : Phase
  start : World
  before : List DeviceId
  device : DeviceId
  after : List DeviceId
  reached : World
  raised : Exc
  failed : World
  starts : phase.Starts env world start
  due : phase.due start = before ++ device :: after
  arrives : (Exec.forEach before (phase.body env)).run start = (.ok (), reached)
  raises : (phase.process env device).run reached = (.error raised, failed)

/-- Whatever is raised for a device, the pass processes the other ones, their
hosts are not terminated for it, and the main loop goes on. -/
structure Contained (env : Env) (world : World) : Prop where
  idle : ∀ start, Phase.idle.Starts env world start → Phase.idle.Serves env start ∧
    ∃ next, Phase.retrigger.Starts env world next ∧ Phase.retrigger.Serves env next
  reap : ∀ start, Phase.reap.Starts env world start → Phase.reap.Serves env start
  heartbeat : ∃ start, Phase.heartbeat.Starts env world start ∧ Phase.heartbeat.Serves env start
  goesOn : (mainLoopPass env).Returns world
  /-- Events that were received before may be processed on the way. -/
  spared : ∀ stop : Interruption env world, Undrained env stop.failed →
    (stop.phase.handle env stop.device stop.raised).Holds stop.failed (fun _ after =>
      ∀ other, (stop.failed.device stop.device).host ≠ some other →
        (after.hosts other).terminations = (stop.failed.hosts other).terminations)

/-- The exception ends nothing but what is done for the device: it is one of the
idle step, and the device's error returns; or the last one is triggered again. -/
def Interruption.Caught {world : World} (stop : Interruption env world) : Prop :=
  match stop.phase with
  | .idle =>
      (targetSetError env (handleReceivedEvents env) stop.device stop.raised).Returns stop.failed
  | .retrigger => stop.after = []
  | .reap | .heartbeat => False

section Pass

variable {world start : World} {phase : Phase}

theorem loop_returns_iff : (phase.loop env).Returns start ↔
    IsEmpty (Exec.Stop (phase.body env) (phase.due start) start) :=
  Exec.forEach_returns_iff

theorem mainLoopPass_run : (mainLoopPass env).run world =
    (do Phase.loop env .reap; Phase.loop env .heartbeat : Run Unit).run
      ((handleSystemIdle env).run world).2 := by
  unfold mainLoopPass
  cases outcome : (handleSystemIdle env).run world with
  | mk ended reached =>
      have logged : (Exec.attempt (handleSystemIdle env) fun _ => pure ()).run world =
          (.ok (), reached) := by
        cases ended with
        | ok _ => simp only [Exec.attempt, outcome]
        | error raised =>
            rw [Exec.attempt_run_error outcome]
            rfl
      exact Exec.bind_run_ok logged

/-- A loop that is not wrapped stops where a device is interrupted. -/
def Interruption.ofStop (starts : phase.Starts env world start)
    (plain : phase.body env = phase.process env)
    (stop : Exec.Stop (phase.body env) (phase.due start) start) : Interruption env world :=
  ⟨phase, start, stop.before, stop.item, stop.after, stop.reached, stop.raised, stop.failed, starts,
    stop.split, stop.arrives, plain ▸ stop.raises⟩

theorem idle_returns (caught : ∀ stop : Interruption env world, stop.Caught)
    (starts : Phase.idle.Starts env world start) : (Phase.loop env .idle).Returns start := by
  refine loop_returns_iff.mpr ⟨?_⟩
  rintro ⟨before, device, after, reached, raised, failed, split, arrives, raises⟩
  obtain ⟨first, between, interrupts, again⟩ := Exec.raises_of_attempt raises
  obtain ⟨_, returns⟩ := caught ⟨.idle, start, before, device, after, reached, first, between,
    starts, split, arrives, interrupts⟩
  cases again.symm.trans returns

theorem reap_returns (caught : ∀ stop : Interruption env world, stop.Caught) :
    (Phase.loop env .reap).Returns ((handleSystemIdle env).run world).2 := by
  have starts : Phase.reap.Starts env world ((handleSystemIdle env).run world).2 := rfl
  exact loop_returns_iff.mpr ⟨fun stop => caught (.ofStop starts rfl stop)⟩

theorem heartbeat_returns (caught : ∀ stop : Interruption env world, stop.Caught)
    (starts : Phase.heartbeat.Starts env world start) :
    (Phase.loop env .heartbeat).Returns start :=
  loop_returns_iff.mpr ⟨fun stop => caught (.ofStop starts rfl stop)⟩

theorem serves_of_returns (returns : (phase.loop env).Returns start) : phase.Serves env start :=
  Exec.completes_iff.mpr fun stop => (loop_returns_iff.mp returns).elim stop

theorem Contained.caught (contained : Contained env world) (stop : Interruption env world) :
    stop.Caught := by
  unfold Interruption.Caught
  obtain ⟨phase, start, before, device, after, reached, raised, failed, starts, due, arrives,
    raises⟩ := stop
  cases phase with
  | idle =>
      obtain ⟨_, next, ⟨first, same, returns⟩, _⟩ := contained.idle start starts
      cases starts.symm.trans same
      refine (Exec.returns_or_raises _ failed).resolve_right ?_
      rintro ⟨again, left, raisesAgain⟩
      have stops : (idleTriggered env device).run reached = (.error again, left) :=
        (Exec.attempt_run_error raises).trans raisesAgain
      exact (loop_returns_iff.mp ⟨next, returns⟩).elim
        ⟨before, device, after, reached, again, left, due, arrives, stops⟩
  | retrigger =>
      obtain ⟨first, received, idled⟩ := starts
      obtain ⟨_, next, ⟨second, same, returns⟩, serves⟩ := contained.idle first received
      cases received.symm.trans same
      cases idled.symm.trans returns
      exact Exec.completes_iff.mp serves
        ⟨before, device, after, reached, raised, failed, due, arrives, raises⟩
  | reap =>
      obtain ⟨next, returns, _⟩ := contained.heartbeat
      cases starts
      exact (loop_returns_iff.mp ⟨next, returns⟩).elim
        ⟨before, device, after, reached, raised, failed, due, arrives, raises⟩
  | heartbeat =>
      obtain ⟨final, returns⟩ := contained.goesOn
      rw [mainLoopPass_run, Exec.bind_run_ok starts] at returns
      exact (loop_returns_iff.mp ⟨final, returns⟩).elim
        ⟨before, device, after, reached, raised, failed, due, arrives, raises⟩

theorem handle_spares {stop : Interruption env world} (caught : stop.Caught)
    (undrained : Undrained env stop.failed) :
    (stop.phase.handle env stop.device stop.raised).Holds stop.failed (fun _ after =>
      ∀ other, (stop.failed.device stop.device).host ≠ some other →
        (after.hosts other).terminations = (stop.failed.hosts other).terminations) := by
  unfold Interruption.Caught at caught
  obtain ⟨phase, start, before, device, after, reached, raised, failed, starts, due, arrives,
    raises⟩ := stop
  cases phase with
  | idle =>
      refine (targetSetError_spares undrained raised).mono fun _ after hosts other apart => ?_
      rw [hosts other apart]
  | retrigger => exact fun _ _ => rfl
  | reap => exact caught.elim
  | heartbeat => exact caught.elim

/-- A pass of the main loop keeps the trouble of one device from the others
exactly if every exception it meets is one of an idle step whose error returns,
or of the last device that is triggered again. -/
theorem contained_iff_caught :
    Contained env world ↔ ∀ stop : Interruption env world, stop.Caught := by
  refine ⟨Contained.caught, fun caught => ?_⟩
  obtain ⟨reaped, reaps⟩ := reap_returns caught
  obtain ⟨final, beats⟩ := heartbeat_returns caught reaps
  constructor
  case idle =>
    intro start starts
    obtain ⟨next, idled⟩ := idle_returns caught starts
    have retriggers : Phase.retrigger.Starts env world next := ⟨start, starts, idled⟩
    refine ⟨serves_of_returns ⟨next, idled⟩, next, retriggers, Exec.completes_iff.mpr fun stop => ?_⟩
    exact caught (.ofStop retriggers rfl stop)
  case reap =>
    rintro start rfl
    exact serves_of_returns ⟨reaped, reaps⟩
  case heartbeat => exact ⟨reaped, reaps, serves_of_returns ⟨final, beats⟩⟩
  case goesOn => exact ⟨final, mainLoopPass_run.trans ((Exec.bind_run_ok reaps).trans beats)⟩
  case spared => exact fun stop undrained => handle_spares (caught stop) undrained

end Pass

namespace Containment

/-- The log of the results cannot be written for the first device. -/
def unlogged : Env :=
  { Env.quiet { secPort := 7 } with
    fault := fun _ op =>
      if op = .resultLog 0 then some ⟨"OSError", "No space left on device", by decide⟩ else none }

/-- Two devices are learned, and the port of the first one goes down. -/
def firstDown : World :=
  runCommands unlogged
    [.receive (.event (.portState 1 1 true)), .receive (.event (.portState 2 1 true)),
      .receive (.event (.portState 2 2 true)),
      .receive (.event (.portLearn 2 1 "9a:02:57:1e:8f:01" 10)),
      .receive (.event (.portLearn 2 2 "9a:02:57:1e:8f:02" 10)), .faucet,
      .receive (.event (.portState 2 1 false)), .faucet] (initialWorld unlogged)

/-- The first device is reaped, which ends the main loop for the second one. -/
theorem reaping_not_contained :
    ¬ ∀ (env : Env) (world : World), Started env world → Contained env world := by
  intro always
  have reached : Started unlogged firstDown := started_of_commands (by decide) _
  obtain ⟨final, returns⟩ := (always unlogged firstDown reached).goesOn
  have raises : ((mainLoopPass unlogged).run firstDown).1.isOk = false := by decide +kernel
  rw [returns] at raises
  cases raises

end Containment

end Daq
