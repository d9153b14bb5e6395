import Daq.Runner.Traffic

namespace Daq

variable {env : Env}

/-! A port-state event and the activity recorded for its port. -/

/-- Configuration files can be written and heartbeats can be published. -/
structure Env.PortIo (env : Env) : Prop where
  acls : ∀ world, env.fault world .generateAcls = none
  config : ∀ world, env.fault world .behavioralConfig = none
  heartbeat : ∀ world, env.fault world .publishHeartbeat = none

/-- The active port of a device that does not run and does not flap. -/
structure Stranded (world : World) (info : PortId) (device : DeviceId) : Prop where
  found : getByPortInfo world info = some device
  idle : (world.device device).host = none
  active : (world.portInfos info).active = true
  steady : ¬ Truthy (world.portInfos info).flappingStart

/-- Handling returned, and the port is recorded with the given activity. -/
def Tracks (port : Nat) (active : Bool) (outcome : Except Exc Unit) (reached : World) : Prop :=
  outcome = .ok () ∧ (IsPortActive reached port ↔ active = true)

theorem isPortActive_iff {world : World} {port : Nat} {info : PortId}
    (known : world.ports.get? port = some info) :
    IsPortActive world port ↔ (world.portInfos info).active = true := by
  unfold IsPortActive
  rw [known]
  simp

section Handling

variable {world : World} {device : DeviceId} {port : Nat} {info : PortId}

theorem sendHeartbeat_tracks (io : env.PortIo) {active : Bool}
    (tracked : IsPortActive world port ↔ active = true) :
    (sendHeartbeat env).Holds world (Tracks port active) := by
  unfold sendHeartbeat
  rw [Exec.holds_bind, holds_callOut_of_returns (io.heartbeat world), Exec.then_ok, Exec.holds_when]
  exact ⟨fun _ => ⟨rfl, tracked⟩, fun _ => ⟨rfl, tracked⟩⟩

/-- Directing traffic away from a device port returns exactly for a device with
a gateway, on a port that has a target. -/
theorem directPortTraffic_away (io : env.PortIo)
    (range : 1 ≤ port ∧ port < env.config.secPort) :
    (directPortTraffic env device port none).Holds world (fun outcome reached =>
      (outcome = .ok () ↔ (world.device device).gateway ≠ none ∧
        world.topology.portTargets.get? port ≠ none) ∧
      reached.ports = world.ports ∧ reached.portInfos = world.portInfos) := by
  cases attached : (world.device device).gateway with
  | none =>
      rw [Exec.holds_of_run (directPortTraffic_run_detached none attached)]
      simp
  | some gateway =>
      rw [Exec.holds_congr (directPortTraffic_run none attached), Exec.holds_bind]
      cases current : world.topology.portTargets.get? port with
      | none =>
          have absent : (world.populated device
              (world.gateways gateway).portSet.val).topology.portTargets.get? port = none := current
          rw [Exec.holds_of_run (setPortTarget_run_absent absent), Exec.then_error]
          exact ⟨by simp, rfl, rfl⟩
      | some target =>
          have present : (world.populated device
              (world.gateways gateway).portSet.val).topology.portTargets.get? port ≠ none := by
            intro absent
            cases current.symm.trans absent
          rw [Exec.holds_congr (setPortTarget_run_present present), Exec.holds_bind,
            holds_callOut_of_returns (io.acls _), Exec.then_ok, Exec.holds_bind, Exec.holds_require]
          refine ⟨fun _ => ?_, fun outside => absurd range outside⟩
          rw [Exec.then_ok, Exec.holds_modify, Exec.then_ok, holds_callOut_of_returns (io.config _)]
          exact ⟨by simp, rfl, rfl⟩

/-- The flap start of a running device is noted first. -/
def World.flapNoted (env : Env) (world : World) (info : PortId) : World :=
  if ((getByPortInfo world info).any fun device => (world.device device).host.isSome) = true ∧
      ¬ Truthy (world.portInfos info).flappingStart then
    (world.setPortInfo info fun entry => { entry with flappingStart := some (env.now world) }).note
      [.portDown info (env.now world)]
  else world

theorem flapNoted_active :
    ((world.flapNoted env info).portInfos info).active = (world.portInfos info).active := by
  unfold World.flapNoted
  split
  · simp [World.note, World.setPortInfo]
  · rfl

theorem flapNoted_same (env : Env) (world : World) (info : PortId) :
    (world.flapNoted env info).devices = world.devices ∧
      (world.flapNoted env info).topology = world.topology ∧
      (world.flapNoted env info).ports = world.ports := by
  unfold World.flapNoted
  split <;> exact ⟨rfl, rfl, rfl⟩

theorem flapNoted_steady_iff (found : getByPortInfo world info = some device) :
    ¬ Truthy ((world.flapNoted env info).portInfos info).flappingStart ↔
      (world.device device).host = none ∧ ¬ Truthy (world.portInfos info).flappingStart := by
  have now := env.now_pos world
  unfold World.flapNoted
  rw [found]
  cases host : (world.device device).host with
  | none => simp [host]
  | some running =>
      by_cases flapping : Truthy (world.portInfos info).flappingStart
      · simp [host, flapping]
      · simp only [Option.any_some, host, Option.isSome_some, flapping, not_false_eq_true,
          and_self, ↓reduceIte, reduceCtorEq, false_and, iff_false, not_not]
        simp only [World.note, World.setPortInfo, Function.update_self, Truthy, Option.getD_some]
        omega

theorem handlePortDown_run :
    (handlePortDown env port info).run world =
      (Exec.when (((world.flapNoted env info).portInfos info).active = true) do
        Exec.whenSome (getByPortInfo world info) fun device =>
          Exec.when (¬ Truthy ((world.flapNoted env info).portInfos info).flappingStart)
            (directPortTraffic env device port none)
        deactivatePort info).run (world.flapNoted env info) := by
  unfold handlePortDown World.flapNoted
  rw [Exec.get_bind_run]
  split
  · rename_i flaps
    rw [Exec.bind_run_ok (by rw [Exec.when, if_pos flaps]; rfl), Exec.read_bind_run]
  · rename_i steady
    rw [Exec.bind_run_ok (by rw [Exec.when, if_neg steady]; rfl), Exec.read_bind_run]

/-- The down event of a known port is handled, unless there is traffic to be
directed away that was never directed anywhere. -/
theorem handlePortDown_tracks (io : env.PortIo)
    (range : 1 ≤ port ∧ port < env.config.secPort)
    (known : world.ports.get? port = some info) :
    (handlePortDown env port info).Holds world (fun outcome reached =>
      (outcome = .ok () ↔ ∀ device, Stranded world info device →
        (world.device device).gateway ≠ none ∧
          world.topology.portTargets.get? port ≠ none) ∧
      (outcome = .ok () → ¬ IsPortActive reached port)) := by
  obtain ⟨devices, topology, ports⟩ := flapNoted_same env world info
  have closed : ∀ reached : World, reached.ports = world.ports →
      ¬ IsPortActive (reached.setPortInfo info fun entry => { entry with active := false })
        port := by
    intro reached same active
    rw [isPortActive_iff (same ▸ known)] at active
    simp [World.setPortInfo] at active
  rw [Exec.holds_congr handlePortDown_run, Exec.holds_when, flapNoted_active]
  refine ⟨fun active => ?_, fun inactive => ?_⟩
  · rw [Exec.holds_bind, Exec.holds_whenSome]
    refine ⟨fun nobody => ?_, fun device found => ?_⟩
    · refine ⟨⟨fun _ device stranded => ?_, fun _ => rfl⟩, fun _ => closed _ ports⟩
      cases nobody.symm.trans stranded.found
    · rw [Exec.holds_when, flapNoted_steady_iff found]
      refine ⟨fun idle => ?_, fun busy => ?_⟩
      · have stranded : Stranded world info device := ⟨found, idle.1, active, idle.2⟩
        refine (directPortTraffic_away io range).mono ?_
        rintro outcome reached ⟨returned, samePorts, _⟩
        have directed : outcome = .ok () ↔ (world.device device).gateway ≠ none ∧
            world.topology.portTargets.get? port ≠ none := by
          simpa only [World.device, devices, topology] using returned
        cases outcome with
        | error raised =>
            have impossible : ∀ {claim : Prop},
                (Except.error raised : Except Exc Unit) = .ok () → claim := by rintro _ ⟨⟩
            exact ⟨⟨impossible, fun claim => directed.mpr (claim device stranded)⟩, impossible⟩
        | ok value =>
            refine ⟨⟨fun _ other strandedOther => ?_, fun _ => rfl⟩,
              fun _ => closed _ (samePorts.trans ports)⟩
            have same : device = other := Option.some.inj (found.symm.trans strandedOther.found)
            subst same
            exact directed.mp rfl
      · refine ⟨⟨fun _ other stranded => ?_, fun _ => rfl⟩, fun _ => closed _ ports⟩
        have same : device = other := Option.some.inj (found.symm.trans stranded.found)
        subst same
        exact absurd ⟨stranded.idle, stranded.steady⟩ busy
  · refine ⟨⟨fun _ device stranded => absurd stranded.active inactive, fun _ => rfl⟩, fun _ => ?_⟩
    rw [isPortActive_iff (ports ▸ known), flapNoted_active]
    exact inactive

end Handling

/-- For every event on a known device port: handling it returns with the port's
activity recorded if and only if the event is not a down event of a port whose
idle device has no gateway or no traffic on that port. -/
theorem handlePortState_tracks_iff {world : World} {dpid port : Nat} {info : PortId}
    (active : Bool) (io : env.PortIo) (trunk : ¬ IsSystemPort dpid port)
    (devicePort : IsDevicePort env dpid port) (positive : port ≠ 0)
    (known : world.ports.get? port = some info) :
    (handlePortState env (handleReceivedEvents env) dpid port active).Holds world
        (Tracks port active) ↔
      (active = false → ∀ device, Stranded world info device →
        (world.device device).gateway ≠ none ∧
          world.topology.portTargets.get? port ≠ none) := by
  have range : 1 ≤ port ∧ port < env.config.secPort :=
    ⟨Nat.one_le_iff_ne_zero.mpr positive, devicePort.2⟩
  unfold handlePortState
  rw [Exec.holds_bind, Exec.holds_get, Exec.then_ok, if_neg trunk, Exec.holds_when]
  simp only [devicePort, forall_const, not_true_eq_false, false_implies, and_true]
  cases active with
  | true =>
      refine iff_of_true ?_ (by rintro ⟨⟩)
      unfold activatePort
      rw [Exec.holds_bind, Exec.holds_when]
      refine ⟨fun _ => ?_, fun impossible => absurd rfl impossible⟩
      rw [Exec.holds_bind, Exec.holds_read, Exec.then_ok, known]
      rw [Exec.holds_modify, Exec.then_ok, Exec.holds_bind, Exec.holds_when]
      refine ⟨by rintro ⟨⟩, fun _ => sendHeartbeat_tracks io ?_⟩
      have still : ((world.setPortInfo info fun entry =>
          { entry with active := true, flappingStart := some 0 }).note [.portUp info]).ports.get?
            port = some info := known
      rw [isPortActive_iff still]
      simp [World.note, World.setPortInfo]
  | false =>
      rw [Exec.holds_bind, Exec.holds_when]
      simp only [Bool.false_eq_true, false_implies, not_false_eq_true, forall_const, true_and]
      rw [Exec.then_ok, Exec.holds_bind, Exec.holds_when]
      simp only [forall_const, not_true_eq_false, false_implies, and_true]
      rw [Exec.holds_whenSome, known]
      simp only [reduceCtorEq, false_implies, Option.some.injEq, forall_eq', true_and]
      have down := handlePortDown_tracks io range known
      unfold Exec.Holds at down ⊢
      cases outcome : ((handlePortDown env port info).run world).1 with
      | error raised =>
          rw [outcome] at down
          refine iff_of_false ?_ (fun claim => by cases down.1.mpr claim)
          rintro ⟨impossible, _⟩
          cases impossible
      | ok value =>
          rw [outcome] at down
          refine iff_of_true (sendHeartbeat_tracks io ?_) (down.1.mp rfl)
          simpa using down.2 rfl

/-- A device learned on port 1 before the system became active. -/
def learnedIdle : World :=
  runCommands (.quiet { secPort := 7 })
    [.receive (.event (.portState 2 1 true)),
      .receive (.event (.portLearn 2 1 "9a:02:57:1e:8f:01" 10)), .faucet]
    (initialWorld (.quiet { secPort := 7 }))

theorem quiet_portIo (config : Config) : (Env.quiet config).PortIo where
  acls := fun _ => rfl
  config := fun _ => rfl
  heartbeat := fun _ => rfl

/-- The idle device's port going down is not tracked: there is no gateway to
ask for a port set. -/
theorem not_every_portState_tracked :
    ¬ ∀ (env : Env) (world : World) (dpid port : Nat) (info : PortId) (active : Bool),
      env.PortIo → Started env world → ¬ IsSystemPort dpid port →
      IsDevicePort env dpid port → port ≠ 0 → world.ports.get? port = some info →
      (handlePortState env (handleReceivedEvents env) dpid port active).Holds world
        (Tracks port active) := by
  intro always
  have tracked := always _ learnedIdle 2 1 0 false (quiet_portIo { secPort := 7 })
    (started_of_commands (by decide) _) (by decide) (by decide) (by decide) (by decide)
  have returned := congrArg Except.toOption tracked.1
  revert returned
  decide

/-- The same device, learned while the system is active. -/
def learnedRunning : World :=
  runCommands (.quiet { secPort := 7 })
    [.receive (.event (.portState 1 1 true)), .receive (.event (.portState 2 1 true)),
      .receive (.event (.portLearn 2 1 "9a:02:57:1e:8f:01" 10)), .faucet]
    (initialWorld (.quiet { secPort := 7 }))

theorem learnedRunning_down_tracked :
    (handlePortState (.quiet { secPort := 7 }) (handleReceivedEvents (.quiet { secPort := 7 }))
      2 1 false).Holds learnedRunning (Tracks 1 false) := by
  have known : learnedRunning.ports.get? 1 = some 0 := by decide
  refine (handlePortState_tracks_iff false (quiet_portIo { secPort := 7 }) (by decide)
    (by decide) (by decide) known).mpr ?_
  intro _ device stranded
  have same : device = 0 := Option.some.inj (stranded.found.symm.trans (by decide))
  subst same
  have running : (learnedRunning.device 0).host ≠ none := by decide
  exact absurd stranded.idle running

end Daq
