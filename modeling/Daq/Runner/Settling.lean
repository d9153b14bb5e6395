import Daq.Runner.Failures

namespace Daq

variable {env : Env}

/-! What stays done.  A host that has put its capture away gets no other while
devices fail and events are processed. -/

/-- A host without a capture stays without. -/
def calms (host : HostId) : Frame World where
  rel before after :=
    (before.hosts host).monitorRef = none → (after.hosts host).monitorRef = none
  refl := fun _ => id
  trans := fun first second => second ∘ first

section Calms

variable {host other : HostId} {α : Type} {program : Run α}

theorem calms_of_same {before after : World}
    (same : (after.hosts host).monitorRef = (before.hosts host).monitorRef) :
    (calms host).rel before after :=
  fun quiet => same.trans quiet

theorem calms_of_hosts {before after : World} (hosts : after.hosts = before.hosts) :
    (calms host).rel before after :=
  calms_of_same (by rw [hosts])

theorem calms_of_sameHosts (within : program.Within sameHosts) : program.Within (calms host) :=
  within.mono fun _ _ same => calms_of_hosts (congrArg Prod.fst same)

theorem calms_of_keepsHost {view : Host → Host} (within : program.Within (keepsHost other view))
    (shown : ∀ entry, (view entry).monitorRef = entry.monitorRef) :
    program.Within (calms host) :=
  within.mono fun _ _ kept => calms_of_same (kept.field Host.monitorRef shown host)

theorem calms_of_other {view : Host → Host} (within : program.Within (keepsHost other view))
    (different : host ≠ other) : program.Within (calms host) :=
  within.mono fun _ _ kept => calms_of_same (congrArg Host.monitorRef (kept.others host different))

theorem setHost_calms {change : World → Host → Host}
    (same : ∀ world entry, (change world entry).monitorRef = entry.monitorRef ∨
      (change world entry).monitorRef = none) :
    (Exec.modify fun world => world.setHost other (change world) : Run Unit).Within
      (calms host) := by
  refine Exec.within_modify fun world quiet => ?_
  rw [setHost_hosts]
  split
  · rename_i own
    cases same world (world.hosts other) with
    | inl unchanged => exact unchanged.trans (own ▸ quiet)
    | inr cleared => exact cleared
  · exact quiet

theorem recordException_calms (raised : Exc) :
    (recordException env other raised).Within (calms host) :=
  calms_of_keepsHost (recordException_hostRecord other raised) fun _ => rfl

theorem calms_rule : ReleaseRule env (calms host) where
  still := fun _ _ same => calms_of_hosts (congrArg Prod.fst same)
  write := fun _ _ same => setHost_calms fun world entry => (same world entry).2
  exception := fun _ raised => recordException_calms raised
  termination := fun other => calms_of_keepsHost (recordResult_hostRecord other _ _) fun _ => rfl

theorem recordResultSet_calms (device : DeviceId) (set : ResultSet) :
    (recordResultSet env device set).Within (calms host) := by
  intro world
  obtain ⟨hosts, _⟩ := @recordResultSet_stores env device set world
  exact calms_of_hosts hosts

end Calms

/-! Nothing is received on the way. -/

/-- The received events stay, and tests are at most suppressed. -/
def keepsIntake : Frame World where
  rel before after := after.pending = before.pending ∧
    after.faucetEvents = before.faucetEvents ∧ (after.runTests = true → before.runTests = true)
  refl := fun _ => ⟨rfl, rfl, id⟩
  trans := fun first second =>
    ⟨second.1.trans first.1, second.2.1.trans first.2.1, first.2.2 ∘ second.2.2⟩

section Intake

variable {host : HostId} {α : Type} {program : Run α}

theorem keepsIntake_of_same {before after : World} (same : after.intake = before.intake) :
    keepsIntake.rel before after := by
  have runTests : after.runTests = before.runTests := congrArg (·.2.2) same
  exact ⟨congrArg Prod.fst same, congrArg (·.2.1) same, fun runs => runTests ▸ runs⟩

theorem modify_keepsIntake {update : World → World}
    (same : ∀ world, (update world).intake = world.intake) :
    (Exec.modify update : Run Unit).Within keepsIntake :=
  Exec.within_modify fun world => keepsIntake_of_same (same world)

theorem keepsIntake_of_keepsHost {view : Host → Host} (within : program.Within (keepsHost host view)) :
    program.Within keepsIntake :=
  within.mono fun _ _ kept => keepsIntake_of_same (congrArg World.intake kept.outside :)

theorem keepsIntake_rule : ReleaseRule env keepsIntake where
  still := fun _ _ same => keepsIntake_of_same (congrArg (·.2.2) same)
  write := fun _ _ _ => modify_keepsIntake fun _ => rfl
  exception := fun host raised => keepsIntake_of_keepsHost (recordException_hostRecord host raised)
  termination := fun host => keepsIntake_of_keepsHost (recordResult_hostRecord host _ _)

theorem recordResultSet_keepsIntake (device : DeviceId) (set : ResultSet) :
    (recordResultSet env device set).Within keepsIntake := by
  unfold recordResultSet
  have suppressed : ∀ update : World → World, (∀ world, (update world).pending = world.pending ∧
      (update world).faucetEvents = world.faucetEvents ∧ (update world).runTests = false) →
      (Exec.modify update : Run Unit).Within keepsIntake := by
    intro update same
    refine Exec.within_modify fun world => ⟨(same world).1, (same world).2.1, fun runs => ?_⟩
    exact nomatch (same world).2.2.symm.trans runs
  refine Exec.within_bind (Exec.within_read _) fun _ => ?_
  refine Exec.within_bind (keepsIntake_rule.callOut _) fun _ => ?_
  refine Exec.within_bind (Exec.within_when (suppressed _ fun _ => ⟨rfl, rfl, rfl⟩)) fun _ => ?_
  refine Exec.within_bind (modify_keepsIntake fun _ => rfl) fun _ => ?_
  refine Exec.within_bind Exec.within_get fun _ => ?_
  exact Exec.within_when (suppressed _ fun _ => ⟨rfl, rfl, rfl⟩)

theorem noteDrain_keepsIntake (device : DeviceId) :
    (Exec.modify (noteDrain device) : Run Unit).Within keepsIntake := by
  refine modify_keepsIntake fun world => ?_
  unfold noteDrain
  split <;> rfl

theorem cancelling_keepsIntake (device : DeviceId) :
    (cancelling env device).Within keepsIntake := by
  refine Exec.within_attempt (keepsIntake_rule.targetSetCancel device) fun raised => ?_
  refine Exec.within_bind (Exec.within_read _) fun _ => ?_
  split
  · exact Exec.within_raise _
  · exact keepsIntake_rule.exception _ raised

/-- Nothing comes in while a test is started. -/
theorem runRemaining_keepsIntake (tests : List String) :
    (runRemaining env host tests).Within keepsIntake := by
  have set : ∀ change : World → Host → Host,
      (Exec.modify fun world => world.setHost host (change world) : Run Unit).Within keepsIntake :=
    fun _ => modify_keepsIntake fun _ => rfl
  have call : ∀ op, (callOut env op).Within keepsIntake := keepsIntake_rule.callOut
  have record : ∀ name entry, (recordResult env host name entry).Within keepsIntake :=
    fun name entry => keepsIntake_of_keepsHost (recordResult_hostRecord host name entry)
  have transit : ∀ target expected,
      (stateTransition host target expected).Within keepsIntake :=
    fun target expected => (@keepsIntake_rule env).stateTransition host target expected
  have allocates : ∀ gateway, (do
      let testPort ← allocateTestPort gateway
      Exec.modify fun world => world.setHost host fun entry =>
        { entry with testPort := some testPort } : Run Unit).Within keepsIntake := by
    intro gateway
    unfold allocateTestPort
    refine Exec.within_bind ?_ fun _ => set _
    refine Exec.within_bind (Exec.within_read _) fun _ => ?_
    refine Exec.within_bind (Exec.within_require _) fun _ => ?_
    exact Exec.within_bind (modify_keepsIntake fun _ => rfl) fun _ => Exec.within_pure _
  have releases : ∀ gateway testPort,
      (releaseTestPort gateway testPort).Within keepsIntake := by
    intro gateway testPort
    unfold releaseTestPort
    refine Exec.within_bind (Exec.within_read _) fun _ => ?_
    cases testPort with
    | none => exact Exec.within_raise _
    | some port =>
        exact Exec.within_bind (Exec.within_require _) fun _ => modify_keepsIntake fun _ => rfl
  have starts : ∀ test, (startTest env host test).Within keepsIntake := by
    intro test
    unfold startTest
    refine Exec.within_bind (set _) fun _ => Exec.within_bind (call _) fun _ => ?_
    refine Exec.within_bind (keepsIntake_of_keepsHost (publishResult_hostRecord host _ _))
      fun _ => Exec.within_bind (record _ _) fun _ => ?_
    exact Exec.within_bind (keepsIntake_of_keepsHost (monitorScan_hostLocal host _)) fun _ =>
      transit _ _
  cases tests with
  | nil =>
      unfold runRemaining finishRun
      refine Exec.within_ite (transit _ _) (Exec.within_bind (set _) fun _ => ?_)
      exact Exec.within_bind (transit _ _) fun _ => record _ _
  | cons test rest =>
      unfold runRemaining runTest
      refine Exec.within_bind (set _) fun _ => ?_
      refine Exec.within_bind (set _) fun _ => Exec.within_bind (call _) fun _ => ?_
      refine Exec.within_bind (set _) fun _ => Exec.within_bind (Exec.within_read _) fun _ => ?_
      refine Exec.within_bind (Exec.within_attempt (allocates _) fun _ =>
        Exec.within_bind (set _) fun _ => Exec.within_raise _) fun _ => ?_
      refine Exec.within_attempt ?_ fun _ => ?_
      · exact Exec.within_bind (starts _) fun _ =>
          Exec.within_bind getModuleParams_within fun _ => call _
      · refine Exec.within_bind (set _) fun _ => Exec.within_bind (Exec.within_read _) fun _ => ?_
        refine Exec.within_bind (releases _ _) fun _ => Exec.within_bind (set _) fun _ => ?_
        exact Exec.within_bind (keepsIntake_rule.monitorCleanup host true) fun _ =>
          Exec.within_raise _

end Intake

/-- Order is kept, and a host that exists stays calm. -/
def settling (env : Env) (host : HostId) : Frame World where
  rel before after := Orderly env before → Succeeds env none before after ∧
    (host < before.nextHost → (calms host).rel before after)
  refl := fun _ orderly => ⟨.of_roll orderly rfl orderly.regular, fun _ => (calms host).refl _⟩
  trans := by
    intro first second third earlier later orderly
    obtain ⟨succession, calm⟩ := earlier orderly
    obtain ⟨next, still⟩ := later succession.orderly
    exact ⟨succession.trans next, fun made =>
      (calms host).trans (calm made) (still (made.trans_le succession.nextHost))⟩

section Settling

variable {device : DeviceId} {host : HostId} {α : Type} {program : Run α} {world : World}

theorem within_settling (succession : program.Within (succeeds env))
    (calm : program.Within (calms host)) : program.Within (settling env host) :=
  fun world orderly => ⟨succession world orderly, fun _ => calm world⟩

variable {drain : Run Unit} (drained : Drains (settling env host) drain)
include drained

/-- The rest of a finalization, once the results are kept. -/
theorem removal_settling (device : DeviceId) :
    (do
      drainSingleShot env drain device
      Exec.modify fun world => world.setDevice device fun entry => { entry with host := none }
      removeDevice device : Run Unit).Within (settling env host) := by
  unfold drainSingleShot
  refine Exec.within_bind ?_ fun _ => ?_
  · refine Exec.within_bind Exec.within_get fun _ => Exec.within_when ?_
    refine Exec.within_bind (within_settling (noteDrain_succeeds device)
      (Exec.within_modify fun world => calms_of_hosts ?_)) fun _ => ?_
    · unfold noteDrain
      split <;> rfl
    refine Exec.within_bind drained.within fun _ => ?_
    exact within_settling (within_succeedsBut (modify_sameRoll (fun _ => rfl) fun _ => rfl))
      (Exec.within_modify fun _ => calms_of_hosts rfl)
  · refine within_settling (fun world orderly => (letGo_holds world device).succeeds orderly) ?_
    intro world
    exact calms_of_hosts (letGo_holds world device).hosts

theorem targetSetFinalize_settling (device : DeviceId) (set : ResultSet) :
    (targetSetFinalize env drain device set).Within (settling env host) :=
  Exec.within_bind (within_settling (within_succeedsBut (recordResultSet_sameRoll device set))
    (recordResultSet_calms device set)) fun _ => removal_settling drained device

theorem targetSetComplete_settling (device : DeviceId) :
    (targetSetComplete env drain device).Within (settling env host) := by
  have recorded : ∀ other raised, (recordException env other raised).Within (settling env host) :=
    fun other raised => within_settling (recordException_succeeds other raised)
      (recordException_calms raised)
  unfold targetSetComplete
  refine Exec.within_bind ?_ fun _ => ?_
  · refine Exec.within_attempt (within_settling (targetSetCancel_succeeds device)
      (calms_rule.targetSetCancel device)) fun raised => ?_
    refine Exec.within_bind (Exec.within_read _) fun own => ?_
    split
    · exact Exec.within_raise _
    · exact recorded _ raised
  · refine Exec.within_bind Exec.within_get fun _ => ?_
    split
    · exact Exec.within_raise _
    · exact targetSetFinalize_settling drained device _

theorem targetSetError_settling (device : DeviceId) (raised : Exc) :
    (targetSetError env drain device raised).Within (settling env host) := by
  unfold targetSetError
  refine Exec.within_bind (Exec.within_read _) fun own => ?_
  split
  · exact Exec.within_bind (within_settling (recordException_succeeds _ raised)
      (recordException_calms raised)) fun _ => targetSetComplete_settling drained device
  · refine Exec.within_bind (targetSetFinalize_settling drained device _) fun _ => ?_
    refine Exec.within_bind (within_settling (within_succeedsBut
      (sendDeviceResult_sameRoll device none))
      (calms_of_sameHosts (sendDeviceResult_sameHosts device none))) fun _ => ?_
    exact within_settling (detachGateway_succeeds device)
      (calms_of_sameHosts (detachGateway_sameHosts device))

/-- A new host captures for itself. -/
theorem bringUp_calms (gateway : GatewayId) (orderly : Orderly env world)
    (existing : host < world.nextHost) (unserved : Unserved world device) :
    (bringUp env drain device gateway).Holds world (fun _ after =>
      (calms host).rel world after) := by
  have counted : Succeeds env none world
      { world with runCount := world.runCount + 1, tick := world.tick + 1 } :=
    .of_roll orderly rfl orderly.regular
  have started : (targetSetHost env device gateway).Holds world (fun _ after =>
      Orderly env after ∧ host < after.nextHost ∧ (calms host).rel world after) := by
    refine targetSetHost_holds
      (fun _ _ => ⟨counted.orderly, existing, calms_of_hosts rfl⟩) fun _ => ?_
    have hosted := hosted_succeeds counted.orderly (unserved.of_roll rfl)
    have older : host ≠ world.nextHost := Nat.ne_of_lt existing
    have began : (calms host).rel world (World.hosted
        { world with runCount := world.runCount + 1, tick := world.tick + 1 } env device) :=
      calms_of_same (congrArg Host.monitorRef (Function.update_of_ne older _ _))
    have within : (startHost env device gateway world.nextHost).Within (settling env host) := by
      refine within_settling (within_succeedsBut (startHost_sameRoll gateway _)) ?_
      unfold startHost
      refine Exec.within_bind (setHost_calms fun _ _ => .inl rfl) fun _ => ?_
      refine Exec.within_bind (calms_of_other (initializeHost_hostLocal _) older) fun _ => ?_
      refine Exec.within_bind Exec.within_get fun _ => ?_
      split
      · exact calms_of_sameHosts (sameHosts_of_topologyOnly (directPortTraffic_topologyOnly _ _ _))
      · exact calms_of_sameHosts (sameHosts_of_topologyOnly (directDeviceTraffic_topologyOnly _ _))
    have there := existing.trans_le hosted.nextHost
    obtain ⟨succession, later⟩ := within _ hosted.orderly
    exact ⟨succession.orderly, there.trans_le succession.nextHost,
      (calms host).trans began (later there)⟩
  have returned : (do
      targetSetHost env device gateway
      pure true : Run Bool).Holds world (fun _ after =>
        Orderly env after ∧ host < after.nextHost ∧ (calms host).rel world after) :=
    started.bind (fun _ _ done => done) fun _ _ done => done
  unfold bringUp
  refine returned.attempt (fun _ _ done => done.2.2) fun raised reached done => ?_
  obtain ⟨orderly, there, calm⟩ := done
  refine ((targetSetError_settling drained device raised).holds reached).bind ?_ ?_
  · exact fun _ _ later => (calms host).trans calm ((later orderly).2 there)
  · exact fun _ _ later => (calms host).trans calm ((later orderly).2 there)

theorem targetSetActivate_calms (orderly : Orderly env world) (existing : host < world.nextHost)
    (unserved : Unserved world device) :
    (targetSetActivate env drain device).Holds world (fun _ after =>
      (calms host).rel world after) := by
  refine targetSetActivate_holds (fun after hosts _ => calms_of_hosts hosts) ?_ ?_
  · exact fun _ _ hosts _ _ after _ still => calms_of_hosts (still.trans hosts)
  · intro reached gateway hosts found _
    have roll := provided_roll found
    have chosen : Succeeds env (some device) world reached :=
      .of_roll orderly roll (orderly.regular.of_hosts hosts)
    have joined := @joined_succeeds env reached device chosen.orderly gateway
    have began : (calms host).rel world (reached.joined gateway device) := calms_of_hosts hosts
    refine (bringUp_calms drained gateway joined.orderly (existing.trans_le chosen.nextHost)
      (unserved.of_roll roll).joined).mono ?_
    exact fun _ _ later => (calms host).trans began later

end Settling

/-- Whatever events are processed, what is done stays done. -/
theorem settling_events {host : HostId} : EventRule env (settling env host) where
  disorderly := fun _ _ disorderly orderly => absurd orderly disorderly
  succeeds := fun _ _ kept orderly => (kept orderly).1
  still := by
    intro before after core hosts orderly
    exact ⟨.of_roll orderly (roll_of_core core) (orderly.regular.of_hosts hosts),
      fun _ => calms_of_hosts hosts⟩
  activatePort := fun port => within_settling (within_succeedsBut (activatePort_sameRoll port))
    (calms_of_sameHosts (activatePort_sameHosts port))
  createIfAbsent := by
    intro world mac info vlan _ _
    refine within_settling (createIfAbsent_succeeds mac info vlan) (fun world => ?_) world
    rcases createIfAbsent_holds mac info vlan world with ⟨same, _⟩ | ⟨entered, _⟩
    · rw [same]
      exact (calms host).refl _
    · exact calms_of_hosts (congrArg World.hosts entered.rest :)
  freshPort := by
    intro world device _ _ orderly
    exact ⟨.of_roll orderly (freshPort_roll device world) orderly.regular, fun _ =>
      calms_of_hosts rfl⟩
  undirect := fun world device port _ _ _ => within_settling
    (within_succeedsBut (within_sameRoll_of_topologyOnly
      (directPortTraffic_topologyOnly device port none)))
    (calms_of_sameHosts (sameHosts_of_topologyOnly
      (directPortTraffic_topologyOnly device port none))) world
  enqueue := by
    intro world device _ registered free unqueued orderly
    exact ⟨enqueue_succeeds orderly registered free unqueued, fun _ => calms_of_hosts rfl⟩
  activate := by
    intro drain drained world device orderly wanted capacity
    have succeeding : Drains (succeeds env) drain :=
      ⟨fun world orderly => (drained.within world orderly).1, drained.idle⟩
    have succession := succession.activate drain succeeding world device orderly wanted capacity
    have dequeued : Succeeds env none world
        { world with targetSetQueue := world.targetSetQueue.erase device } :=
      dequeue_succeeds device World.trail world orderly
    intro again
    refine ⟨succession again, fun existing => ?_⟩
    exact targetSetActivate_calms drained dequeued.orderly existing
      (orderly.unserved_of_wanted wanted).2
  terminate := fun drain drained world device _ _ _ =>
    targetSetError_settling drained device _ world

end Daq
