import Daq.Host.TestPorts
import Daq.Runner.Simulation

namespace Daq

variable {env : Env} {reaps : Mac → Prop}

/-! The ledger writes of events, of a host's stages and of the main loop. -/

section Events

theorem sendHeartbeat_posts : (sendHeartbeat env).Within (posts env reaps) := by
  unfold sendHeartbeat
  refine Exec.within_bind (callOut_posts _) fun _ => Exec.within_when ?_
  refine Exec.within_modify fun world => posts_of_step (.converse world.ledger _ ?_) rfl
  intro mac present
  obtain ⟨items, stored⟩ := Option.ne_none_iff_exists'.mp present
  intro absent
  cases absent.symm.trans (Dict.get?_mapValues.mpr ⟨items, stored, rfl⟩)

theorem handlePortDown_posts (port : Nat) (info : PortId) :
    (handlePortDown env port info).Within (posts env reaps) := by
  refine Exec.within_of_holds fun world => ?_
  have rest : (do
      let entry ← Exec.read fun world => world.portInfos info
      Exec.when (entry.active = true) do
        Exec.whenSome (getByPortInfo world info) fun device =>
          Exec.when (¬ Truthy entry.flappingStart) (directPortTraffic env device port none)
        deactivatePort info : Run Unit).Within (posts env reaps) := by
    refine Exec.within_bind (Exec.within_read _) fun _ => Exec.within_when ?_
    refine Exec.within_bind (Exec.within_whenSome _ fun _ => Exec.within_when
      (topologyOnly_posts (directPortTraffic_topologyOnly _ _ _))) fun _ => ?_
    refine within_quiet fun world => ?_
    rw [setPortInfo_ledger]
    have same : Function.update world.ledger.flapping info (world.portInfos info).flappingStart =
        world.ledger.flapping := Function.update_eq_self _ _
    rw [same]
  unfold handlePortDown
  rw [Exec.holds_bind, Exec.holds_get, Exec.then_ok, Exec.holds_bind, Exec.holds_when]
  refine ⟨fun running => ?_, fun _ => rest world⟩
  have flapping : (posts env reaps).rel world ((world.setPortInfo info fun entry =>
      { entry with flappingStart := some (env.now world) }).note
        [.portDown info (env.now world)]) := by
    refine posts_of_step (.flap world.ledger info (env.now world) (.portDown info (env.now world))
      running.2 (.inl rfl)) ?_
    rw [note_ledger, setPortInfo_ledger]
    rfl
  exact (rest.holds _).mono fun _ _ later => (posts env reaps).trans flapping later

theorem createIfAbsent_posts (mac : Mac) (port : Option PortId) (vlan : Option Nat) :
    (createIfAbsent mac port vlan).Within (posts env reaps) := by
  unfold createIfAbsent
  refine Exec.within_bind Exec.within_get fun world => ?_
  refine Exec.within_bind (within_quiet fun state => ?_) fun _ => ?_
  · unfold notePort
    split <;> rfl
  refine Exec.within_bind (Exec.within_when (Exec.within_modify fun state => ?_)) fun _ => ?_
  · refine posts_of_step (.settle state.ledger state.nextPort none [] (by decide) (.inl rfl)) ?_
    have added := @setPortInfo_ledger state state.nextPort fun _ => {}
    rw [List.append_nil]
    exact added
  · exact fun state => posts_of_ledger rfl

theorem freshPort_posts (device : DeviceId) : (freshPort device).Within (posts env reaps) := by
  refine Exec.within_modify fun state => ?_
  refine posts_of_step (.settle state.ledger state.nextPort none [] (by decide) (.inl rfl)) ?_
  have added := @setPortInfo_ledger state state.nextPort fun _ => { active := true }
  rw [List.append_nil]
  exact added

theorem reapSession_posts (mac : Mac) (reaped : reaps mac) :
    (reapSession env mac).Within (posts env reaps) := by
  refine Exec.within_of_holds fun world => ?_
  have left : ∀ state : World, (posts env reaps).rel world state →
      (Exec.modify fun world =>
        { world with sessions := world.sessions.erase mac } : Run Unit).Holds state
          (fun _ after => (posts env reaps).rel world after) := fun state kept =>
    (posts env reaps).trans kept (posts_of_step (.leave state.ledger mac reaped) rfl)
  unfold reapSession
  rw [Exec.holds_bind, Exec.holds_get, Exec.then_ok, Exec.holds_bind, Exec.holds_whenSome]
  refine ⟨fun _ => left world .refl, fun device _ => ?_⟩
  rw [Exec.holds_when]
  refine ⟨fun steady => ?_, fun _ => left world .refl⟩
  have flapping : (posts env reaps).rel world
      ((world.setPortInfo (world.device device).port fun entry =>
        { entry with flappingStart := some (env.now world) }).note
          [.sessionEnded (world.device device).port (env.now world)]) := by
    refine posts_of_step (.flap world.ledger (world.device device).port (env.now world)
      (.sessionEnded (world.device device).port (env.now world)) steady (.inr rfl)) ?_
    rw [note_ledger, setPortInfo_ledger]
    rfl
  exact left _ flapping

variable {drain : Run Unit} (drained : drain.Within (posts env reaps))
include drained

theorem terminateAll_posts : (terminateAll env drain).Within (posts env reaps) := by
  unfold terminateAll
  exact Exec.within_bind Exec.within_get fun _ =>
    Exec.within_forEach (fun device => targetSetError_posts drained device _) _

theorem shutdown_posts : (shutdown env drain).Within (posts env reaps) := by
  unfold shutdown
  refine Exec.within_bind (terminateAll_posts drained) fun _ => ?_
  exact Exec.within_bind (within_quiet fun _ => rfl) fun _ => sendHeartbeat_posts

theorem handlePortState_posts (dpid port : Nat) (active : Bool) :
    (handlePortState env drain dpid port active).Within (posts env reaps) := by
  unfold handlePortState
  refine Exec.within_bind Exec.within_get fun world => Exec.within_ite ?_ ?_
  · refine Exec.within_bind (Exec.within_when ?_) fun _ => within_quiet fun _ => rfl
    exact Exec.within_bind (within_quiet fun _ => rfl) fun _ => shutdown_posts drained
  · refine Exec.within_when (Exec.within_bind (Exec.within_when (activatePort_posts port))
      fun _ => ?_)
    exact Exec.within_bind (Exec.within_when (Exec.within_whenSome _ fun info =>
      handlePortDown_posts port info)) fun _ => sendHeartbeat_posts

theorem targetSetTrigger_posts (device : DeviceId) (remote : Bool) :
    (targetSetTrigger env drain device remote).Within (posts env reaps) := by
  refine Exec.within_of_holds fun world => ?_
  unfold targetSetTrigger
  rw [Exec.holds_bind, Exec.holds_get, Exec.then_ok, Exec.holds_bind, Exec.holds_require]
  refine ⟨fun _ => ?_, fun _ => .refl⟩
  rw [Exec.then_ok, Exec.holds_ite]
  refine ⟨fun _ => .refl, fun wanted => ?_⟩
  have running : world.runTests = true := by
    by_contra suppressed
    exact wanted (.inr (.inr (.inl suppressed)))
  have unqueued : device ∉ world.targetSetQueue := fun queued =>
    wanted (.inr (.inr (.inr (.inr queued))))
  rw [Exec.holds_bind, Exec.holds_modify, Exec.then_ok, Exec.holds_ite]
  refine ⟨fun capacity => ?_, fun full => ?_⟩
  · rw [if_pos capacity]
    have triggered : (posts env reaps).rel world ((world.setDevice device fun entry =>
        { entry with waitRemote := false }).note
          [.triggered device, .activated device false world.targetSetQueue]) :=
      posts_of_step (.trigger world.ledger device running unqueued) rfl
    have starting : ((world.setDevice device fun entry => { entry with waitRemote := false }).note
        [.triggered device, .activated device false world.targetSetQueue]).ledger.Starting
          device := by
      refine ⟨world.trail ++ [.triggered device], .activated device false world.targetSetQueue,
        [], ?_, ⟨_, _, rfl⟩, List.forall_mem_nil _⟩
      rw [note_ledger, List.append_assoc]
      rfl
    exact (targetSetActivate_posts drained starting).bind
      (fun _ _ later => (posts env reaps).trans triggered later)
      fun _ _ later => (posts env reaps).trans triggered later
  · rw [if_neg full, Exec.holds_modify]
    refine posts_of_step (.enqueue world.ledger device unqueued) ?_
    change ({ world.ledger with
      queue := world.targetSetQueue ++ [device]
      trail := (world.trail ++ [.triggered device]) ++ [.queued device] } : Ledger) = _
    rw [List.append_assoc]
    rfl

theorem targetSetConsider_posts : (targetSetConsider env drain).Within (posts env reaps) := by
  refine Exec.within_of_holds fun world => ?_
  unfold targetSetConsider
  rw [Exec.holds_bind, Exec.holds_get, Exec.then_ok]
  cases queue : world.targetSetQueue with
  | nil => exact .refl
  | cons device rest =>
      rw [Exec.holds_ite]
      refine ⟨fun _ => ?_, fun _ => .refl⟩
      rw [Exec.holds_bind, Exec.holds_modify, Exec.then_ok]
      have popped : (posts env reaps).rel world { world with
          targetSetQueue := rest
          trail := world.trail ++ [.activated device true rest] } :=
        posts_of_step (.consider world.ledger device rest queue) rfl
      have starting : ({ world with
          targetSetQueue := rest
          trail := world.trail ++ [.activated device true rest] } : World).ledger.Starting device :=
        ⟨world.trail, .activated device true rest, [], rfl, ⟨_, _, rfl⟩, List.forall_mem_nil _⟩
      exact (targetSetActivate_posts drained starting).bind
        (fun _ _ later => (posts env reaps).trans popped later)
        fun _ _ later => (posts env reaps).trans popped later

theorem handlePortLearn_posts (dpid port : Nat) (mac : Mac) :
    (handlePortLearn env drain dpid port mac).Within (posts env reaps) := by
  unfold handlePortLearn
  refine Exec.within_bind Exec.within_get fun world => ?_
  split
  · exact Exec.within_pure _
  · refine Exec.within_ite ?_ (Exec.within_pure _)
    exact Exec.within_bind (createIfAbsent_posts _ _ _) fun device =>
      targetSetTrigger_posts drained device false

theorem handleDeviceLearn_posts (mac : Mac) (vid : Option Nat) :
    (handleDeviceLearn env drain mac vid).Within (posts env reaps) := by
  unfold handleDeviceLearn
  refine Exec.within_bind (createIfAbsent_posts _ _ _) fun device => ?_
  refine Exec.within_bind (within_quiet fun _ => rfl) fun _ => Exec.within_ite ?_ ?_
  · exact Exec.within_bind (Exec.within_read _) fun _ => Exec.within_when (freshPort_posts device)
  · exact targetSetTrigger_posts drained device false

theorem processFaucetEvent_posts (event : FaucetEvent) :
    (processFaucetEvent env drain event).Within (posts env reaps) := by
  cases event with
  | portState dpid port active =>
      exact Exec.within_ite (handlePortState_posts drained dpid port active) (Exec.within_pure _)
  | portLearn dpid port mac vid =>
      refine Exec.within_ite (Exec.within_ite ?_ ?_) (Exec.within_pure _)
      · exact Exec.within_ite (handleDeviceLearn_posts drained mac _) (Exec.within_pure _)
      · exact handlePortLearn_posts drained dpid port mac
  | configChange _ => exact Exec.within_pure _

theorem onSession_posts (mac : Mac) (deviceVlan assignedVlan : Option Nat) (remoteIp : String) :
    (onSession env drain mac deviceVlan assignedVlan remoteIp).Within (posts env reaps) := by
  unfold onSession remoteTrigger
  refine Exec.within_bind (Exec.within_require _) fun _ => ?_
  refine Exec.within_bind (callOut_posts _) fun _ => ?_
  refine Exec.within_bind (createIfAbsent_posts _ _ _) fun device => ?_
  refine Exec.within_bind (Exec.within_read _) fun port => ?_
  refine Exec.within_bind (within_setPort fun _ flapping => flapping rfl) fun _ => ?_
  refine Exec.within_bind (within_quiet fun _ => rfl) fun _ => ?_
  refine Exec.within_bind (Exec.within_require _) fun _ => ?_
  refine Exec.within_bind (Exec.within_read _) fun port => ?_
  refine Exec.within_bind (Exec.within_modify fun world => ?_) fun _ => ?_
  · refine posts_of_step (.settle world.ledger port (some 0) [.sessionStarted port] (by decide)
      (.inr (.inr rfl))) ?_
    rw [note_ledger, setPortInfo_ledger]
    rfl
  refine Exec.within_bind (within_quiet fun _ => rfl) fun _ => ?_
  refine Exec.within_bind (targetSetTrigger_posts drained device true) fun _ => ?_
  refine Exec.within_bind Exec.within_get fun _ => Exec.within_whenSome _ fun _ => ?_
  exact topologyOnly_posts (directDeviceTraffic_topologyOnly _ _)

theorem initSession_posts (mac : Mac) (deviceVlan assignedVlan : Option Nat) (remoteIp : String) :
    (initSession env drain mac deviceVlan assignedVlan remoteIp).Within (posts env reaps) := by
  unfold initSession
  refine Exec.within_bind (Exec.within_read _) fun _ => ?_
  refine Exec.within_bind (Exec.within_require _) fun _ => ?_
  refine Exec.within_bind (Exec.within_modify fun world => ?_) fun _ =>
    onSession_posts drained mac deviceVlan assignedVlan remoteIp
  refine posts_of_step (.converse world.ledger _ fun other present => ?_) rfl
  rw [Dict.get?_insert]
  split
  · exact Option.some_ne_none _
  · exact present

end Events

theorem handleFaucetEvents_posts : ∀ (fuel : Nat) (previous : Option FaucetEvent),
    (handleFaucetEvents env fuel previous).Within (posts env reaps)
  | 0, _ => Exec.within_pure _
  | fuel + 1, previous => by
      have drained := handleFaucetEvents_posts fuel none
      unfold handleFaucetEvents
      refine Exec.within_bind Exec.within_get fun world => ?_
      split
      · exact Exec.within_pure _
      · exact Exec.within_pure _
      · rename_i item rest _ _
        refine Exec.within_bind (within_quiet fun _ => rfl) fun _ => ?_
        cases item with
        | disconnected =>
            exact Exec.within_bind (callOut_posts _) fun _ => handleFaucetEvents_posts fuel _
        | failure raised =>
            refine Exec.within_bind (within_quiet fun _ => rfl) fun _ => ?_
            exact Exec.within_bind (shutdown_posts drained) fun _ =>
              Exec.within_whenSome _ fun _ => Exec.within_raise _
        | event event =>
            exact Exec.within_bind (processFaucetEvent_posts drained event) fun _ =>
              handleFaucetEvents_posts fuel _

theorem handleReceivedEvents_posts : (handleReceivedEvents env).Within (posts env reaps) := by
  unfold handleReceivedEvents
  exact Exec.within_bind Exec.within_get fun _ => handleFaucetEvents_posts _ _

/-! A host's stages. -/

section Stages

theorem within_ownHost {host : HostId} {change : World → Host → Host} :
    (Exec.modify fun world => world.setHost host (change world) : Run Unit).Within
      (posts env reaps) :=
  within_quiet fun _ => rfl

theorem recordResult_posts (host : HostId) (name : Option String) (record : Record) :
    (recordResult env host name record).Within (posts env reaps) :=
  keepsHost_posts (recordResult_hostLocal host name record)

theorem publishResult_posts (host : HostId) (name : Option String) (record : Record) :
    (publishResult env host name record).Within (posts env reaps) :=
  keepsHost_posts (publishResult_hostLocal host name record)

theorem stateTransition_posts (host : HostId) (target : HostState)
    (expected : Option HostState) :
    (stateTransition host target expected).Within (posts env reaps) :=
  keepsHost_posts (stateTransition_lasting target expected)

theorem monitorCleanup_posts (host : HostId) (forget : Bool) :
    (monitorCleanup env host forget).Within (posts env reaps) :=
  keepsHost_posts (monitorCleanup_hostLocal host forget)

theorem targetReady_posts (gateway : GatewayId) (device : DeviceId) :
    (targetReady gateway device).Within (posts env reaps) :=
  Exec.within_bind (within_quiet fun _ => setGateway_ledger_same gateway _ rfl rfl) fun _ =>
    Exec.within_read _

theorem allocateTestPort_posts (gateway : GatewayId) :
    (allocateTestPort gateway).Within (posts env reaps) := by
  unfold allocateTestPort
  refine Exec.within_bind (Exec.within_read _) fun _ => ?_
  refine Exec.within_bind (Exec.within_require _) fun _ => ?_
  exact Exec.within_bind (within_quiet fun _ => setGateway_ledger_same gateway _ rfl rfl) fun _ =>
    Exec.within_pure _

theorem releaseTestPort_posts (gateway : GatewayId) (testPort : Option Nat) :
    (releaseTestPort gateway testPort).Within (posts env reaps) := by
  unfold releaseTestPort
  refine Exec.within_bind (Exec.within_read _) fun _ => ?_
  cases testPort with
  | none => exact Exec.within_raise _
  | some port =>
      exact Exec.within_bind (Exec.within_require _) fun _ =>
        within_quiet fun _ => setGateway_ledger_same gateway _ rfl rfl

theorem shouldActivateTarget_posts (device : DeviceId) :
    (shouldActivateTarget env device).Within (posts env reaps) := by
  unfold shouldActivateTarget
  refine Exec.within_bind Exec.within_get fun world => ?_
  split
  · exact Exec.within_pure _
  · exact Exec.within_raise _
  · rename_i host gateway _ _
    refine Exec.within_ite (Exec.within_pure _) ?_
    refine Exec.within_bind (keepsHost_posts (notifyActivate_hostLocal host)) fun notified => ?_
    refine Exec.within_ite ?_ (Exec.within_pure _)
    refine Exec.within_bind (targetReady_posts gateway device) fun ready => ?_
    refine Exec.within_ite (Exec.within_pure _) ?_
    refine Exec.within_bind (Exec.within_read _) fun _ => ?_
    refine Exec.within_bind (check_within _) fun _ => ?_
    exact Exec.within_ite (Exec.within_pure _) (Exec.within_pure _)

theorem activateGateway_posts (gateway : GatewayId) (ready : List DeviceId) :
    (activateGateway env gateway ready).Within (posts env reaps) := by
  unfold activateGateway gatewayActivate
  refine Exec.within_bind (Exec.within_bind
    (within_quiet fun _ => setGateway_ledger_same gateway _ rfl rfl) fun _ => callOut_posts _)
    fun _ => ?_
  refine Exec.within_bind Exec.within_get fun _ => Exec.within_forEach (fun device => ?_) _
  refine Exec.within_bind (Exec.within_read _) fun entry => ?_
  split
  · exact Exec.within_raise _
  · exact Exec.within_bind (keepsHost_posts (triggerHost_hostLocal _ _)) fun _ =>
      Exec.within_require _

theorem checkAndActivateGateway_posts (device : DeviceId) :
    (checkAndActivateGateway env device).Within (posts env reaps) := by
  unfold checkAndActivateGateway
  refine Exec.within_bind (Exec.within_read _) fun entry => ?_
  refine Exec.within_ite ?_ (Exec.within_pure _)
  refine Exec.within_bind (shouldActivateTarget_posts device) fun readiness => ?_
  split
  · exact Exec.within_pure _
  · exact Exec.within_pure _
  · exact Exec.within_pure _
  · exact Exec.within_bind (keepsHost_posts (triggerHost_hostLocal _ _)) fun _ =>
      Exec.within_pure _
  · exact activateGateway_posts _ _

theorem dhcpReadyListener_posts (device : DeviceId) :
    (dhcpReadyListener env device).Within (posts env reaps) :=
  Exec.within_bind (within_quiet fun _ => rfl) fun _ => checkAndActivateGateway_posts device

theorem startTest_posts (host : HostId) (test : String) :
    (startTest env host test).Within (posts env reaps) := by
  unfold startTest
  refine Exec.within_bind within_ownHost fun _ => ?_
  refine Exec.within_bind (callOut_posts _) fun _ => ?_
  refine Exec.within_bind (publishResult_posts host _ _) fun _ => ?_
  refine Exec.within_bind (recordResult_posts host _ _) fun _ => ?_
  refine Exec.within_bind (keepsHost_posts (monitorScan_hostLocal host none)) fun _ => ?_
  exact stateTransition_posts host _ _

theorem runTest_posts (host : HostId) (test : String) :
    (runTest env host test).Within (posts env reaps) := by
  unfold runTest
  refine Exec.within_bind within_ownHost fun _ => ?_
  refine Exec.within_bind (callOut_posts _) fun _ => ?_
  refine Exec.within_bind within_ownHost fun _ => ?_
  refine Exec.within_bind (Exec.within_read _) fun gateway => ?_
  refine Exec.within_bind (Exec.within_attempt ?_ fun raised => ?_) fun _ => ?_
  · exact Exec.within_bind (allocateTestPort_posts gateway) fun _ => within_ownHost
  · exact Exec.within_bind within_ownHost fun _ => Exec.within_raise _
  refine Exec.within_attempt ?_ fun raised => ?_
  · refine Exec.within_bind (startTest_posts host test) fun _ => ?_
    refine Exec.within_bind ?_ fun _ => callOut_posts _
    exact Exec.within_bind Exec.within_get fun _ => Exec.within_require _
  · refine Exec.within_bind within_ownHost fun _ => ?_
    refine Exec.within_bind (Exec.within_read _) fun _ => ?_
    refine Exec.within_bind (releaseTestPort_posts gateway _) fun _ => ?_
    refine Exec.within_bind within_ownHost fun _ => ?_
    exact Exec.within_bind (monitorCleanup_posts host true) fun _ => Exec.within_raise _

theorem runRemaining_posts (host : HostId) (tests : List String) :
    (runRemaining env host tests).Within (posts env reaps) := by
  cases tests with
  | cons test rest =>
      exact Exec.within_bind within_ownHost fun _ => runTest_posts host test
  | nil =>
      unfold runRemaining finishRun
      refine Exec.within_ite (stateTransition_posts host _ _) ?_
      refine Exec.within_bind within_ownHost fun _ => ?_
      exact Exec.within_bind (stateTransition_posts host _ _) fun _ => recordResult_posts host _ _

theorem closeTest_posts (host : HostId) (returnCode : Option Int) (exception : Option Exc) :
    (closeTest env host returnCode exception).Within (posts env reaps) := by
  unfold closeTest accumulateFiles
  refine Exec.within_bind (monitorCleanup_posts host true) fun _ => ?_
  refine Exec.within_bind (stateTransition_posts host _ _) fun _ => ?_
  refine Exec.within_bind (Exec.within_bind Exec.within_get fun _ =>
    Exec.within_whenSome _ fun lines => Exec.within_bind
      (keepsHost_posts (accumulate_hostRecord host _ _)) fun _ => callOut_posts _) fun _ => ?_
  refine Exec.within_bind (Exec.within_read _) fun _ => ?_
  refine Exec.within_bind within_ownHost fun _ => ?_
  exact Exec.within_bind (recordResult_posts host _ _) fun _ => within_ownHost

theorem baseTests_posts (host : HostId) : (baseTests env host).Within (posts env reaps) := by
  have pinged : (basePing env host).Within (posts env reaps) := by
    unfold basePing pingTest
    refine Exec.within_bind (Exec.within_bind (callOut_posts _) fun _ => Exec.within_read _)
      fun _ => ?_
    exact Exec.within_bind within_ownHost fun _ => Exec.within_pure _
  unfold baseTests
  refine Exec.within_bind within_ownHost fun _ => ?_
  refine Exec.within_bind (recordResult_posts host _ _) fun _ => ?_
  refine Exec.within_bind pinged fun _ => ?_
  refine Exec.within_bind (Exec.within_attempt ?_ fun raised => ?_) fun _ =>
    recordResult_posts host _ _
  · exact Exec.within_bind pinged fun _ => Exec.within_bind pinged fun _ => Exec.within_pure _
  · refine Exec.within_bind (recordResult_posts host _ _) fun _ => ?_
    exact Exec.within_bind (monitorCleanup_posts host true) fun _ => Exec.within_raise _

theorem startWaiting_posts (host : HostId) : (startWaiting env host).Within (posts env reaps) := by
  unfold startWaiting
  refine Exec.within_bind (stateTransition_posts host _ _) fun _ => ?_
  exact Exec.within_bind (recordResult_posts host _ _) fun _ => recordResult_posts host _ _

variable {drain : Run Unit} (drained : drain.Within (posts env reaps))
include drained

theorem monitorError_posts (host : HostId) (raised : Exc) (forget : Bool) :
    (monitorError env drain host raised forget).Within (posts env reaps) := by
  unfold monitorError
  refine Exec.within_bind (monitorCleanup_posts host forget) fun _ => ?_
  refine Exec.within_bind (recordException_posts host raised) fun _ => ?_
  refine Exec.within_bind (stateTransition_posts host _ _) fun _ => ?_
  exact Exec.within_bind (Exec.within_read _) fun _ => targetSetError_posts drained _ raised

theorem runNextTest_posts (host : HostId) : (runNextTest env drain host).Within (posts env reaps) := by
  unfold runNextTest
  refine Exec.within_bind (Exec.within_read _) fun _ => ?_
  refine Exec.within_bind (Exec.within_require _) fun _ => ?_
  refine Exec.within_attempt (runRemaining_posts host _) fun raised => ?_
  exact Exec.within_bind (stateTransition_posts host _ _) fun _ =>
    targetSetError_posts drained _ raised

omit drained in
theorem callBack_posts (host : HostId) (returnCode : Option Int) (exception : Option Exc) :
    (callBack env host returnCode exception).Within (posts env reaps) := by
  unfold callBack
  refine Exec.within_bind (Exec.within_read _) fun _ => ?_
  refine Exec.within_bind (releaseTestPort_posts _ _) fun _ => ?_
  refine Exec.within_bind (Exec.within_require _) fun _ => ?_
  exact closeTest_posts host returnCode exception

theorem moduleCallback_posts (host : HostId) (returnCode : Option Int) (exception : Option Exc) :
    (moduleCallback env drain host returnCode exception).Within (posts env reaps) := by
  rw [moduleCallback_eq]
  exact Exec.within_bind (callBack_posts host returnCode exception) fun _ =>
    runNextTest_posts drained host

theorem callModule_posts (host : HostId) (op : Op) :
    (callModule env drain host op).Within (posts env reaps) := by
  unfold callModule
  refine Exec.within_bind Exec.within_get fun _ => Exec.within_when ?_
  refine Exec.within_bind (callOut_posts _) fun _ => ?_
  exact Exec.within_whenSome _ fun _ => moduleCallback_posts drained host _ _

theorem monitorContinue_posts (host : HostId) :
    (monitorContinue env drain host).Within (posts env reaps) := by
  unfold monitorContinue
  refine Exec.within_bind (stateTransition_posts host _ _) fun _ => ?_
  exact Exec.within_bind within_ownHost fun _ => runNextTest_posts drained host

theorem baseStart_posts (host : HostId) : (baseStart env drain host).Within (posts env reaps) := by
  unfold baseStart backgroundScan
  refine Exec.within_attempt ?_ fun raised => ?_
  · refine Exec.within_bind (baseTests_posts host) fun _ => ?_
    refine Exec.within_bind (monitorCleanup_posts host true) fun _ => ?_
    refine Exec.within_bind (stateTransition_posts host _ _) fun _ => ?_
    refine Exec.within_ite (monitorContinue_posts drained host) ?_
    exact Exec.within_bind (recordResult_posts host _ _) fun _ =>
      keepsHost_posts (monitorScan_hostLocal host _)
  · exact Exec.within_bind (monitorCleanup_posts host true) fun _ =>
      monitorError_posts drained host raised false

theorem monitorTimeout_posts (host : HostId) (timeout : Option Nat) :
    (monitorTimeout env drain host timeout).Within (posts env reaps) := by
  unfold monitorTimeout
  refine Exec.within_bind Exec.within_get fun _ => Exec.within_ite ?_ ?_
  · refine Exec.within_bind (monitorCleanup_posts host false) fun _ => ?_
    exact Exec.within_bind (recordResult_posts host _ _) fun _ => monitorContinue_posts drained host
  · exact monitorError_posts drained host _ false

theorem ipNotify_posts (state : String) (target : IpTarget) :
    (ipNotify env drain state target).Within (posts env reaps) := by
  unfold ipNotify hostIpNotify
  refine Exec.within_ite (Exec.within_pure _) ?_
  refine Exec.within_bind (Exec.within_when (handleDeviceLearn_posts drained _ _)) fun _ => ?_
  refine Exec.within_bind (Exec.within_require _) fun _ => ?_
  refine Exec.within_bind Exec.within_get fun world => ?_
  split
  · exact Exec.within_raise _
  · rename_i device _
    refine Exec.within_bind (within_quiet fun _ => rfl) fun _ => ?_
    refine Exec.within_whenSome _ fun host => Exec.within_when ?_
    refine Exec.within_bind ?_ fun _ => checkAndActivateGateway_posts device
    refine Exec.within_bind (callOut_posts _) fun _ => ?_
    exact Exec.within_bind within_ownHost fun _ => callModule_posts drained host _

theorem terminateGatewaySet_posts (gateway : GatewayId) :
    (terminateGatewaySet env drain gateway).Within (posts env reaps) := by
  unfold terminateGatewaySet
  refine Exec.within_bind Exec.within_get fun _ => ?_
  refine Exec.within_bind (Exec.within_require _) fun _ => ?_
  exact Exec.within_forEach (fun device => targetSetError_posts drained device _) _

theorem dhcpCallback_posts (gateway : GatewayId) (state : String) (target : IpTarget) :
    (dhcpCallback env drain gateway state target).Within (posts env reaps) := by
  unfold dhcpCallback
  exact Exec.within_bind Exec.within_get fun _ => Exec.within_when (ipNotify_posts drained _ target)

theorem requestAddress_posts (host : HostId) (entry : Host) :
    (requestAddress env drain host entry).Within (posts env reaps) := by
  unfold requestAddress
  refine Exec.within_ite ?_ ?_
  · exact Exec.within_bind (within_quiet fun _ => rfl) fun _ => ipNotify_posts drained _ _
  · refine Exec.within_bind (within_quiet fun _ => rfl) fun _ => ?_
    refine Exec.within_bind (Exec.within_read _) fun _ => Exec.within_ite within_ownHost ?_
    refine Exec.within_bind (Exec.within_read _) fun kind => ?_
    cases kind with
    | external => exact Exec.within_raise _
    | container => exact callOut_posts _

theorem idleHandler_posts (host : HostId) : (idleHandler env drain host).Within (posts env reaps) := by
  unfold idleHandler prepare
  refine Exec.within_bind (Exec.within_read _) fun entry => ?_
  split
  · refine Exec.within_bind (startWaiting_posts host) fun _ => ?_
    refine Exec.within_bind (Exec.within_read _) fun _ => ?_
    refine Exec.within_bind (requestAddress_posts drained host _) fun _ => ?_
    exact Exec.within_forEach (fun device => dhcpReadyListener_posts device) _
  · exact baseStart_posts drained host
  · exact Exec.within_pure _

theorem handleTimeout_posts (host : HostId) (handler : TimeoutHandler) :
    (handleTimeout env drain host handler).Within (posts env reaps) := by
  cases handler with
  | aux => exact monitorError_posts drained host _ true
  | main =>
      rw [handleTimeout_main_eq]
      refine Exec.within_bind ?_ fun _ => runNextTest_posts drained host
      unfold timeOut
      refine Exec.within_bind (Exec.within_read _) fun _ => ?_
      refine Exec.within_bind (Exec.within_require _) fun _ => ?_
      exact Exec.within_bind (callOut_posts _) fun _ => callBack_posts host _ _
  | externalDhcp => exact callOut_posts _

theorem heartbeat_posts (host : HostId) : (heartbeat env drain host).Within (posts env reaps) := by
  unfold heartbeat
  refine Exec.within_bind (Exec.within_read _) fun _ => ?_
  refine Exec.within_bind (callModule_posts drained host _) fun _ => ?_
  refine Exec.within_bind Exec.within_get fun _ => Exec.within_when ?_
  refine Exec.within_whenSome _ fun handler => ?_
  exact Exec.within_bind within_ownHost fun _ => handleTimeout_posts drained host handler

theorem discovered_posts (host : HostId) (ip : Option String) :
    (discovered env drain host ip).Within (posts env reaps) := by
  unfold discovered
  refine Exec.within_bind (Exec.within_read _) fun _ => ?_
  cases ip with
  | none => exact handleTimeout_posts drained host .aux
  | some ip => exact Exec.within_when (ipNotify_posts drained _ _)

end Stages

/-! The main loop and the commands. -/

section Commands

theorem idleTriggered_posts (device : DeviceId) :
    (idleTriggered env device).Within (posts env reaps) := by
  unfold idleTriggered idleDevice
  refine Exec.within_attempt ?_ fun raised =>
    targetSetError_posts handleReceivedEvents_posts device raised
  refine Exec.within_bind Exec.within_get fun world => ?_
  split
  · exact Exec.within_raise _
  · exact Exec.within_ite (idleHandler_posts handleReceivedEvents_posts _)
      (targetSetComplete_posts handleReceivedEvents_posts device)

theorem handleSystemIdle_posts : (handleSystemIdle env).Within (posts env reaps) := by
  unfold handleSystemIdle handleSystemIdleRaw
  refine Exec.within_bind ?_ fun _ => sendHeartbeat_posts
  refine Exec.within_bind handleReceivedEvents_posts fun _ => ?_
  refine Exec.within_bind (Exec.within_read _) fun _ => ?_
  refine Exec.within_bind (Exec.within_forEach idleTriggered_posts _) fun _ => ?_
  refine Exec.within_bind (Exec.within_read _) fun _ => ?_
  refine Exec.within_bind (Exec.within_forEach (fun device =>
    targetSetTrigger_posts handleReceivedEvents_posts device false) _) fun _ => ?_
  refine Exec.within_bind (targetSetConsider_posts handleReceivedEvents_posts) fun _ => ?_
  refine Exec.within_bind Exec.within_get fun _ => Exec.within_when ?_
  exact Exec.within_bind (Exec.within_when (shutdown_posts handleReceivedEvents_posts)) fun _ =>
    within_quiet fun _ => rfl

theorem reapDevice_posts (device : DeviceId) : (reapDevice env device).Within (posts env reaps) := by
  refine Exec.within_of_holds fun world => ?_
  have failing : ∀ raised, (do
      targetSetError env (handleReceivedEvents env) device raised
      Exec.modify fun world => world.setPortInfo (world.device device).port fun entry =>
        { entry with flappingStart := some 0 } : Run Unit).Within (posts env reaps) := fun raised =>
    Exec.within_bind (targetSetError_posts handleReceivedEvents_posts device raised) fun _ =>
      within_setPort fun _ flapping => flapping rfl
  unfold reapDevice
  rw [Exec.holds_bind, Exec.holds_get, Exec.then_ok, Exec.holds_ite]
  refine ⟨fun flapping => ?_, fun _ => .refl⟩
  cases (world.device device).host with
  | none => exact .refl
  | some host =>
      simp only [Exec.holds_when]
      refine ⟨fun overdue => ?_, fun _ => .refl⟩
      rw [Exec.holds_bind, Exec.holds_modify, Exec.then_ok]
      have reaped : (posts env reaps).rel world (world.note [.reaped device
          (world.device device).port (env.now world) (portFlapTimeout env (world.hosts host))]) :=
        posts_of_step (.reap world.ledger device (world.device device).port (env.now world)
          (portFlapTimeout env (world.hosts host)) flapping overdue) rfl
      exact ((failing _).holds _).mono fun _ _ later => (posts env reaps).trans reaped later

theorem heartbeatDevice_posts (device : DeviceId) :
    (heartbeatDevice env device).Within (posts env reaps) := by
  unfold heartbeatDevice
  refine Exec.within_bind (Exec.within_read _) fun host => ?_
  cases host with
  | none => exact Exec.within_raise _
  | some host => exact heartbeat_posts handleReceivedEvents_posts host

theorem captureError_posts (host : HostId) (raised : Exc) :
    (captureError env host raised).Within (posts env reaps) :=
  Exec.within_attempt (monitorError_posts handleReceivedEvents_posts host raised false) fun _ =>
    Exec.within_pure _

theorem captureHangup_posts (host : HostId) :
    (captureHangup env host).Within (posts env reaps) := by
  unfold captureHangup
  refine Exec.within_bind (Exec.within_read _) fun _ => Exec.within_whenSome _ fun monitor => ?_
  refine Exec.within_bind within_ownHost fun _ => ?_
  exact Exec.within_attempt (monitorTimeout_posts handleReceivedEvents_posts host _)
    (captureError_posts host)

theorem ofHost_posts {host : HostId} {body : Run Unit} (within : body.Within (posts env reaps)) :
    (Command.ofHost host body).Within (posts env reaps) :=
  Exec.within_bind (Exec.within_read _) fun _ => Exec.within_when within

/-- What a command does to the ledger; only the end of a session reaps one. -/
theorem perform_posts (command : Command) (reaped : ∀ mac, command = .endSession mac → reaps mac) :
    (command.perform env).Within (posts env reaps) := by
  cases command with
  | receive item => exact within_quiet fun _ => rfl
  | faucet => exact handleReceivedEvents_posts
  | idle => exact handleSystemIdle_posts
  | reap =>
      exact Exec.within_bind (Exec.within_read _) fun _ => Exec.within_forEach reapDevice_posts _
  | heartbeats =>
      exact Exec.within_bind (Exec.within_read _) fun _ =>
        Exec.within_forEach heartbeatDevice_posts _
  | startSession mac deviceVlan assignedVlan remoteIp =>
      exact initSession_posts handleReceivedEvents_posts mac deviceVlan assignedVlan remoteIp
  | endSession mac => exact reapSession_posts mac (reaped mac rfl)
  | dhcp gateway long target => exact dhcpCallback_posts handleReceivedEvents_posts gateway _ target
  | gatewayException gateway => exact terminateGatewaySet_posts handleReceivedEvents_posts gateway
  | moduleCallback host returnCode exception =>
      exact ofHost_posts (moduleCallback_posts handleReceivedEvents_posts host _ _)
  | captureHangup host => exact ofHost_posts (captureHangup_posts host)
  | captureError host raised => exact ofHost_posts (captureError_posts host raised)
  | discovered host ip => exact ofHost_posts (discovered_posts handleReceivedEvents_posts host ip)
  | control host paused =>
      exact ofHost_posts (Exec.within_bind (Exec.within_read _) fun _ =>
        Exec.within_when (keepsHost_posts (startRun_hostLocal host)))
  | reloadConfig host =>
      exact ofHost_posts (Exec.within_bind within_ownHost fun _ => publishResult_posts host _ _)
  | terminate => exact terminateAll_posts handleReceivedEvents_posts

theorem startWorld_ledger :
    (startWorld env).ledger = .initial (decide (Truthy env.config.nativeVlan)) := by
  unfold startWorld
  split
  · rename_i native
    have entries : ∀ gateway, ((nativeWorld env).gateways gateway).targets = .empty ∧
        ((nativeWorld env).gateways gateway).portSet = ⟨1, by decide⟩ := by
      intro gateway
      by_cases same : gateway = 0
      · subst same
        exact ⟨rfl, rfl⟩
      · have other : (nativeWorld env).gateways gateway = (initialWorld env).gateways gateway :=
          Function.update_of_ne same _ _
        rw [other]
        exact ⟨rfl, rfl⟩
    have targets := funext fun gateway => (entries gateway).1
    have sets := funext fun gateway => (entries gateway).2
    unfold World.ledger
    rw [targets, sets, decide_eq_true native]
    rfl
  · rename_i plain
    rw [decide_eq_false plain]
    rfl

theorem started_ledger {world : World} (invariant : Ledger → Prop)
    (initial : ∀ native, invariant (.initial native))
    (step : ∀ before after, Ledger.Step env.config (fun _ => True) before after →
      invariant before → invariant after)
    (reached : Started env world) : invariant world.ledger := by
  have posted : Relation.ReflTransGen (Ledger.Step env.config fun _ => True)
      (startWorld env).ledger world.ledger := by
    induction reached with
    | start => exact .refl
    | step command _ _ before =>
        exact before.trans (perform_posts command (fun _ _ => trivial) _)
  rw [startWorld_ledger] at posted
  generalize world.ledger = final at posted ⊢
  induction posted with
  | refl => exact initial _
  | tail _ last before => exact step _ _ last before

end Commands

end Daq
