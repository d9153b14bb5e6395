import Daq.Runner.Invariant

namespace Daq

variable {env : Env}

/-! What letting a device go leaves alone.  Its traffic and its gateway are
nothing to any host; only its own host is terminated. -/

/-- What is received, and whether it may start tests. -/
def World.intake (world : World) : List FaucetItem × Bool × Bool :=
  (world.pending, world.faucetEvents, world.runTests)

/-- No host changes, no results are kept, and nothing is received. -/
def sameHosts : Frame World :=
  .unchanged fun world => (world.hosts, world.resultSets, world.intake)

section SameHosts

variable {α : Type} {program : Run α}

theorem modify_sameHosts {update : World → World}
    (hosts : ∀ world, (update world).hosts = world.hosts)
    (results : ∀ world, (update world).resultSets = world.resultSets)
    (intake : ∀ world, (update world).intake = world.intake) :
    (Exec.modify update : Run Unit).Within sameHosts :=
  Exec.within_modify fun world => Prod.ext (hosts world) (Prod.ext (results world) (intake world))

theorem sameHosts_of_topologyOnly (within : program.Within topologyOnly) :
    program.Within sameHosts :=
  fun world => Prod.ext (congrArg World.hosts (within world) :)
    (Prod.ext (congrArg World.resultSets (within world) :)
      (congrArg World.intake (within world) :))

theorem callOut_sameHosts (op : Op) : (callOut env op).Within sameHosts :=
  sameHosts_of_topologyOnly (callOut_topologyOnly op)

theorem detachGateway_sameHosts (device : DeviceId) :
    (detachGateway env device).Within sameHosts := by
  unfold detachGateway detachTarget retireGateway gatewayTerminate
  refine Exec.within_bind (Exec.within_read _) fun _ => Exec.within_whenSome _ fun gateway => ?_
  refine Exec.within_bind ?_ fun _ => Exec.within_bind (Exec.within_when ?_) fun _ =>
    modify_sameHosts (fun _ => rfl) (fun _ => rfl) fun _ => rfl
  · refine Exec.within_bind Exec.within_get fun _ => ?_
    refine Exec.within_bind (Exec.within_require _) fun _ => ?_
    exact Exec.within_bind (modify_sameHosts (fun _ => rfl) (fun _ => rfl) fun _ => rfl) fun _ =>
      Exec.within_read _
  · refine Exec.within_bind ?_ fun _ => ?_
    · refine Exec.within_bind Exec.within_get fun _ => ?_
      refine Exec.within_bind (Exec.within_require _) fun _ => ?_
      exact Exec.within_bind (modify_sameHosts (fun _ => rfl) (fun _ => rfl) fun _ => rfl) fun _ =>
        callOut_sameHosts _
    · refine Exec.within_bind (modify_sameHosts (fun _ => rfl) (fun _ => rfl) fun _ => rfl) fun _ => ?_
      refine Exec.within_bind (Exec.within_read _) fun _ => ?_
      exact Exec.within_when (sameHosts_of_topologyOnly (directDeviceTraffic_topologyOnly _ _))

theorem deliverResult_resultSets (device : DeviceId) (report : Option DeviceReport)
    (code : ResultCode) (world : World) :
    (deliverResult device report code world).resultSets = world.resultSets := by
  simp only [deliverResult, queueSessionResult]
  split <;> rfl

theorem deliverResult_intake (device : DeviceId) (report : Option DeviceReport)
    (code : ResultCode) (world : World) :
    (deliverResult device report code world).intake = world.intake := by
  simp only [deliverResult, queueSessionResult]
  split <;> rfl

theorem sendDeviceResult_sameHosts (device : DeviceId) (testResults : Option DeviceReport) :
    (sendDeviceResult env device testResults).Within sameHosts := by
  have delivers : ∀ report code,
      (Exec.modify (deliverResult device report code) : Run Unit).Within sameHosts :=
    fun report code => modify_sameHosts (deliverResult_hosts device report code)
      (deliverResult_resultSets device report code) (deliverResult_intake device report code)
  unfold sendDeviceResult
  refine Exec.within_ite (Exec.within_bind Exec.within_get fun world => ?_) (Exec.within_pure _)
  split
  · exact delivers _ _
  · exact Exec.within_raise _
  · exact delivers _ _

theorem activatePort_sameHosts (port : Nat) : (activatePort port).Within sameHosts := by
  unfold activatePort
  refine Exec.within_bind (Exec.within_read _) fun ports => ?_
  split
  · exact modify_sameHosts (fun _ => rfl) (fun _ => rfl) fun _ => rfl
  · exact modify_sameHosts (fun _ => rfl) (fun _ => rfl) fun _ => rfl

theorem lingerResult_sameHosts (gateway : Option GatewayId) (port : Option Nat) :
    (lingerResult gateway port).Within sameHosts := by
  unfold lingerResult
  refine Exec.within_bind (Exec.within_when (activatePort_sameHosts _)) fun _ => ?_
  split
  · exact Exec.within_raise _
  · exact modify_sameHosts (fun _ => rfl) (fun _ => rfl) fun _ => rfl

end SameHosts

/-- The frame is kept by what a host records about a failure or its end, and by
what else ending it writes. -/
structure ReleaseRule (env : Env) (frame : Frame World) : Prop where
  still : ∀ before after : World, sameHosts.rel before after → frame.rel before after
  write : ∀ (host : HostId) (change : World → Host → Host),
    (∀ world entry, (change world entry).results = entry.results ∧
      ((change world entry).monitorRef = entry.monitorRef ∨
        (change world entry).monitorRef = none)) →
    (Exec.modify fun world => world.setHost host (change world) : Run Unit).Within frame
  exception : ∀ host raised, (recordException env host raised).Within frame
  termination : ∀ host, (recordResult env host (some "terminate") {}).Within frame

namespace ReleaseRule

variable {frame : Frame World} (rule : ReleaseRule env frame)
include rule

theorem sameHosts {α : Type} {program : Run α} (within : program.Within sameHosts) :
    program.Within frame :=
  within.mono rule.still

theorem callOut (op : Op) : (callOut env op).Within frame :=
  rule.sameHosts (callOut_sameHosts op)

theorem monitorCleanup (host : HostId) (forget : Bool) :
    (monitorCleanup env host forget).Within frame := by
  unfold Daq.monitorCleanup
  refine Exec.within_bind (Exec.within_read _) fun _ => Exec.within_whenSome _ fun _ => ?_
  refine Exec.within_bind (Exec.within_require _) fun _ => ?_
  refine Exec.within_bind (rule.callOut _) fun _ => ?_
  exact Exec.within_bind (Exec.within_when (rule.callOut _)) fun _ =>
    rule.write host _ fun _ _ => ⟨rfl, .inr rfl⟩

theorem stateTransition (host : HostId) (target : HostState) (expected : Option HostState) :
    (stateTransition host target expected).Within frame := by
  unfold Daq.stateTransition
  refine Exec.within_bind (Exec.within_read _) fun _ => ?_
  refine Exec.within_bind (Exec.within_require _) fun _ => ?_
  exact Exec.within_bind (Exec.within_require _) fun _ =>
    rule.write host _ fun _ _ => ⟨rfl, .inl rfl⟩

theorem terminateHost (host : HostId) : (terminateHost env host).Within frame := by
  unfold Daq.terminateHost finalizeReport
  refine Exec.within_bind (rule.write host _ fun _ _ => ⟨rfl, .inl rfl⟩) fun _ => ?_
  refine Exec.within_bind (rule.stateTransition host _ _) fun _ => ?_
  refine Exec.within_bind (rule.callOut _) fun _ => ?_
  refine Exec.within_bind (rule.monitorCleanup host _) fun _ => ?_
  refine Exec.within_bind (Exec.within_read _) fun _ => ?_
  refine Exec.within_bind (Exec.within_when (rule.callOut _)) fun _ => ?_
  refine Exec.within_bind (Exec.within_when (Exec.within_attempt
    (Exec.within_bind (rule.callOut _) fun _ =>
      rule.write host _ fun _ _ => ⟨rfl, .inl rfl⟩) fun _ => Exec.within_pure _)) fun _ => ?_
  refine Exec.within_bind (Exec.within_read _) fun entry => ?_
  split
  · exact Exec.within_raise _
  · refine Exec.within_bind (rule.callOut _) fun _ => ?_
    split
    · exact Exec.within_raise _
    · refine Exec.within_bind (rule.callOut _) fun _ => ?_
      refine Exec.within_bind (rule.termination host) fun _ => ?_
      exact Exec.within_bind (rule.write host _ fun _ _ => ⟨rfl, .inl rfl⟩) fun _ =>
        Exec.within_pure _

theorem targetSetCancel (device : DeviceId) : (targetSetCancel env device).Within frame := by
  unfold Daq.targetSetCancel releaseDevice
  refine Exec.within_bind (rule.sameHosts (modify_sameHosts (fun _ => rfl) (fun _ => rfl) fun _ => rfl))
    fun _ => ?_
  refine Exec.within_bind Exec.within_get fun world => Exec.within_whenSome _ fun host => ?_
  refine Exec.within_ite (rule.sameHosts (lingerResult_sameHosts _ _)) ?_
  refine Exec.within_bind Exec.within_get fun _ => ?_
  refine Exec.within_bind (Exec.within_when (rule.sameHosts (sameHosts_of_topologyOnly
    (directPortTraffic_topologyOnly _ _ _)))) fun _ => ?_
  refine Exec.within_bind (rule.sameHosts (detachGateway_sameHosts device)) fun _ => ?_
  exact Exec.within_bind (rule.terminateHost host) fun _ =>
    rule.sameHosts (sendDeviceResult_sameHosts device _)

end ReleaseRule

end Daq
