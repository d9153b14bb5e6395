import Daq.Runner.Invariant

namespace Daq

variable {env : Env}

/-! What a passed device result says about the run it was calculated for. -/

/-- Return codes in the report are those that enabled tests ended with. -/
def Attested (entry : Host) (report : DeviceReport) : Prop :=
  ∀ name module code, report.modules.get? name = some module → module.returnCode = some code →
    name ∈ entry.enabledTests ∧ (name, some code) ∈ entry.endedTests

/-- Every enabled test is enabled once and ended with zero, and nothing in the
report speaks against the device. -/
structure SoundVerdict (entry : Host) (report : DeviceReport) : Prop where
  distinct : entry.enabledTests.Nodup
  ended : ∀ test ∈ entry.enabledTests, (test, some 0) ∈ entry.endedTests
  unexcepted : ∀ module ∈ report.modules.values, module.exception = none
  results : ∀ module ∈ report.modules.values, ∀ result ∈ module.tests.values,
    result = "pass" ∨ result = "skip"

section Verdict

variable {entry : Host} {report : DeviceReport}

theorem calculateDeviceResult_passed {enabled : List String}
    (passed : calculateDeviceResult enabled report = .passed) :
    (∀ module ∈ report.modules.values, ¬ module.Fails) ∧
      enabled.length = report.processed.length := by
  unfold calculateDeviceResult at passed
  split at passed
  · cases passed
  · rename_i fine
    refine ⟨fun module member fails => fine (.inl ⟨module, member, fails⟩), ?_⟩
    by_contra different
    exact fine (.inr different)

theorem processed_nodup (report : DeviceReport) : report.processed.Nodup :=
  (List.filter_sublist.map Prod.fst).nodup report.modules.nodup

theorem mem_processed {name : String} (member : name ∈ report.processed) :
    ∃ module code, report.modules.get? name = some module ∧ module.returnCode = some code := by
  obtain ⟨⟨key, module⟩, inside, rfl⟩ := List.mem_map.mp member
  obtain ⟨stored, coded⟩ := List.mem_filter.mp inside
  obtain ⟨code, equality⟩ := Option.isSome_iff_exists.mp coded
  exact ⟨module, code, Dict.get?_eq_some_iff.mpr stored, equality⟩

/-- The counted modules are enabled tests, and as many: they are all of them. -/
theorem Attested.enabled_perm (attested : Attested entry report)
    (counted : entry.enabledTests.length = report.processed.length) :
    report.processed.Perm entry.enabledTests := by
  have subset : report.processed ⊆ entry.enabledTests := by
    intro name member
    obtain ⟨module, code, found, coded⟩ := mem_processed member
    exact (attested name module code found coded).1
  exact ((processed_nodup report).subperm subset).perm_of_length_le counted.le

/-- An exception is only noticed if it has a text. -/
theorem Attested.sound_iff (attested : Attested entry report)
    (passed : calculateDeviceResult entry.enabledTests report = .passed) :
    SoundVerdict entry report ↔
      ∀ module ∈ report.modules.values, module.exception ≠ some "" := by
  obtain ⟨fine, counted⟩ := calculateDeviceResult_passed passed
  refine ⟨fun sound module member empty => ?_, fun texted => ⟨?_, ?_, ?_, ?_⟩⟩
  · rw [sound.unexcepted module member] at empty
    cases empty
  · exact (attested.enabled_perm counted).nodup (processed_nodup report)
  · intro test enabled
    have processed := (attested.enabled_perm counted).mem_iff.mpr enabled
    obtain ⟨module, code, found, coded⟩ := mem_processed processed
    have zero : code = 0 := by
      by_contra nonzero
      refine fine module (Dict.mem_values_iff.mpr ⟨test, found⟩) (.inr (.inl ?_))
      rw [coded]
      exact nonzero
    exact zero ▸ (attested test module code found coded).2
  · intro module member
    cases text : module.exception with
    | none => rfl
    | some message =>
        refine absurd (.inl ?_) (fine module member)
        unfold NonEmpty
        rw [text]
        rintro rfl
        exact texted module member text
  · intro module member result reported
    by_contra neither
    rw [not_or] at neither
    exact fine module member (.inr (.inr ⟨result, reported, neither⟩))

end Verdict

/-! The report a host returns when it is terminated. -/

section Report

variable {world : World} {host : HostId}

theorem finalizeItems_attested {entry : Host} {items : Dict String ReportItem}
    {report : DeviceReport} (regular : entry.Regular env) (present : entry.report = some items)
    (finalized : Report.finalizeItems entry.loadedConfig items = .ok report) :
    Attested entry report := by
  intro name module code found coded
  simp only [Report.finalizeItems, bind, Except.bind, pure, Except.pure] at finalized
  split at finalized
  · cases finalized
  · cases finalized
    obtain ⟨item, stored, rfl⟩ := Dict.get?_mapValues.mp found
    exact regular.ended items name item code present stored coded

theorem Attested.of_keepsHost {view : Host → Host} {before after : World} {report : DeviceReport}
    (attested : Attested (before.hosts host) report) (kept : KeepsHost host view before after)
    (enabled : ∀ entry, (view entry).enabledTests = entry.enabledTests)
    (ended : ∀ entry, (view entry).endedTests = entry.endedTests) :
    Attested (after.hosts host) report := by
  unfold Attested
  rw [kept.field Host.enabledTests enabled, kept.field Host.endedTests ended]
  exact attested

theorem finalizeReport_attested (regular : world.Regular env) :
    (finalizeReport env host).Holds world (fun outcome reached =>
      ∀ report, outcome = .ok report → Attested (reached.hosts host) report) := by
  unfold finalizeReport
  rw [Exec.holds_bind, Exec.holds_read, Exec.then_ok]
  cases present : (world.hosts host).report with
  | none => exact nofun
  | some items =>
      refine (callOut_ticks env _ _).bind (fun _ _ _ => nofun) ?_
      rintro _ reached rfl
      cases finalized : Report.finalizeItems (world.hosts host).loadedConfig items with
      | error raised => exact nofun
      | ok report =>
          refine (callOut_ticks env _ _).bind (fun _ _ _ => nofun) ?_
          rintro _ reached rfl
          have attested : Attested (world.ticked.ticked.hosts host) report :=
            finalizeItems_attested (regular host) present finalized
          refine ((recordResult_hostRecord host (some "terminate") {}).holds _).bind
            (fun _ _ _ => nofun) fun _ reached kept => ?_
          have still : Attested (reached.hosts host) report :=
            attested.of_keepsHost kept (fun _ => rfl) fun _ => rfl
          intro other equality
          cases equality
          show Attested ((reached.setHost host fun entry =>
            { entry with report := none }).hosts host) report
          rw [setHost_hosts, if_pos rfl]
          exact still

theorem terminateHost_attested (regular : world.Regular env) :
    (terminateHost env host).Holds world (fun outcome reached =>
      ∀ report, outcome = .ok report → Attested (reached.hosts host) report) :=
  terminateHost_finalizes regular (fun _ _ _ => nofun) fun _ regular _ =>
    finalizeReport_attested regular

end Report

/-! Results are only ever delivered for reports that were attested. -/

/-- Every delivered result was calculated from an attested report of the
device's host. -/
def World.Attests (world : World) : Prop :=
  ∀ delivery ∈ world.deliveries, ∀ entry report, delivery.subject = some entry →
    delivery.report = some report →
    Attested entry report ∧ delivery.code = calculateDeviceResult entry.enabledTests report

def attesting (env : Env) : Frame World where
  rel before after := Orderly env before → before.Attests → Orderly env after ∧ after.Attests
  refl := fun _ orderly attests => ⟨orderly, attests⟩
  trans := by
    intro first second third earlier later orderly attests
    obtain ⟨orderly, attests⟩ := earlier orderly attests
    exact later orderly attests

theorem attesting_of_upholding {drain : Run Unit}
    (drained : Drains (upholding env (fun _ => True) World.Attests) drain) :
    drain.Within (attesting env) := by
  intro world orderly attests
  obtain ⟨succession, kept⟩ := drained.within world orderly
  exact ⟨succession.orderly, kept (fun _ => attests) fun _ _ => trivial⟩

/-- The deliveries and the devices' hosts. -/
def World.subjects (world : World) : List Delivery × (DeviceId → Option HostId) :=
  (world.deliveries, fun device => (world.device device).host)

def keepsSubjects : Frame World := .unchanged World.subjects

section Attesting

variable {α : Type} {program : Run α} {world : World} {device : DeviceId} {host : HostId}

theorem World.Attests.of_same {before after : World} (attests : before.Attests)
    (same : after.deliveries = before.deliveries) : after.Attests := by
  unfold World.Attests
  rw [same]
  exact attests

theorem within_attesting (succession : program.Within (succeeds env))
    (same : program.Within keepsSubjects) : program.Within (attesting env) :=
  fun world orderly attests => ⟨(succession world orderly).orderly,
    attests.of_same (congrArg Prod.fst (same world))⟩

theorem within_keepsSubjects_of_topologyOnly (within : program.Within topologyOnly) :
    program.Within keepsSubjects :=
  within.mono fun _ _ same => (congrArg World.subjects same :)

theorem within_keepsSubjects_of_keepsHost {view : Host → Host}
    (within : program.Within (keepsHost host view)) : program.Within keepsSubjects :=
  within.mono fun _ _ kept => (congrArg World.subjects kept.outside :)

theorem modify_keepsSubjects {update : World → World}
    (same : ∀ world, (update world).subjects = world.subjects) :
    (Exec.modify update : Run Unit).Within keepsSubjects :=
  Exec.within_modify same

theorem activatePort_keepsSubjects (port : Nat) :
    (activatePort port).Within keepsSubjects := by
  unfold activatePort
  refine Exec.within_bind (Exec.within_read _) fun ports => ?_
  split
  · exact modify_keepsSubjects fun _ => rfl
  · exact modify_keepsSubjects fun _ => rfl

theorem detachGateway_keepsSubjects (device : DeviceId) :
    (detachGateway env device).Within keepsSubjects := by
  unfold detachGateway detachTarget retireGateway gatewayTerminate
  refine Exec.within_bind (Exec.within_read _) fun _ => Exec.within_whenSome _ fun gateway => ?_
  refine Exec.within_bind ?_ fun _ => Exec.within_bind (Exec.within_when ?_) fun _ =>
    modify_keepsSubjects fun world => ?_
  · refine Exec.within_bind Exec.within_get fun _ => ?_
    refine Exec.within_bind (Exec.within_require _) fun _ => ?_
    exact Exec.within_bind (modify_keepsSubjects fun _ => rfl) fun _ => Exec.within_read _
  · refine Exec.within_bind ?_ fun _ => ?_
    · refine Exec.within_bind Exec.within_get fun _ => ?_
      refine Exec.within_bind (Exec.within_require _) fun _ => ?_
      exact Exec.within_bind (modify_keepsSubjects fun _ => rfl) fun _ =>
        within_keepsSubjects_of_topologyOnly (callOut_topologyOnly _)
    · refine Exec.within_bind (modify_keepsSubjects fun _ => rfl) fun _ => ?_
      refine Exec.within_bind (Exec.within_read _) fun _ => ?_
      exact Exec.within_when
        (within_keepsSubjects_of_topologyOnly (directDeviceTraffic_topologyOnly _ _))
  · exact congrArg (Prod.mk world.deliveries) (funext (setDevice_view Device.host rfl))

theorem recordResultSet_keepsSubjects (device : DeviceId) (resultSet : ResultSet) :
    (recordResultSet env device resultSet).Within keepsSubjects := by
  unfold recordResultSet
  refine Exec.within_bind (Exec.within_read _) fun _ => ?_
  refine Exec.within_bind (within_keepsSubjects_of_topologyOnly (callOut_topologyOnly _))
    fun _ => ?_
  refine Exec.within_bind (Exec.within_when (modify_keepsSubjects fun _ => rfl)) fun _ => ?_
  refine Exec.within_bind (modify_keepsSubjects fun _ => rfl) fun _ => ?_
  exact Exec.within_bind Exec.within_get fun _ =>
    Exec.within_when (modify_keepsSubjects fun _ => rfl)

theorem recordException_attesting (host : HostId) (raised : Exc) :
    (recordException env host raised).Within (attesting env) :=
  within_attesting (recordException_succeeds host raised)
    (within_keepsSubjects_of_keepsHost (recordException_hostRecord host raised))

theorem deliverResult_attests {report : Option DeviceReport} {code : ResultCode}
    (attests : world.Attests)
    (own : ∀ host given, (world.device device).host = some host → report = some given →
      Attested (world.hosts host) given ∧
        code = calculateDeviceResult (world.hosts host).enabledTests given) :
    (deliverResult device report code world).Attests := by
  intro delivery member entry given subject reported
  rcases List.mem_append.mp member with old | new
  · exact attests delivery old entry given subject reported
  · cases List.mem_singleton.mp new
    obtain ⟨host, hosted, rfl⟩ := Option.map_eq_some_iff.mp subject
    exact own host given hosted reported

theorem sendDeviceResult_attesting {report : Option DeviceReport} (orderly : Orderly env world)
    (attests : world.Attests)
    (own : ∀ host given, (world.device device).host = some host → report = some given →
      Attested (world.hosts host) given) :
    (sendDeviceResult env device report).Holds world (fun _ after =>
      Orderly env after ∧ after.Attests) := by
  refine Exec.Holds.and ?_ ?_
  · have within : (sendDeviceResult env device report).Within (succeeds env) :=
      within_succeedsBut (sendDeviceResult_sameRoll device report)
    exact (within world orderly).orderly
  · unfold sendDeviceResult
    rw [Exec.holds_ite]
    refine ⟨fun _ => ?_, fun _ => attests⟩
    rw [Exec.holds_bind, Exec.holds_get, Exec.then_ok]
    split
    · exact deliverResult_attests attests nofun
    · exact attests
    · rename_i given host hosted
      refine deliverResult_attests attests fun other report same equality => ?_
      cases equality
      cases hosted.symm.trans same
      exact ⟨own host given same rfl, rfl⟩

theorem releaseDevice_attesting (hosted : (world.device device).host = some host)
    (orderly : Orderly env world) (attests : world.Attests) :
    (releaseDevice env device host).Holds world (fun _ after =>
      Orderly env after ∧ after.Attests) := by
  -- up to the delivery nothing is delivered and the device keeps its host
  let before : Frame World :=
    { rel := fun first second => (attesting env).rel first second ∧
        keepsSubjects.rel first second
      refl := fun state => ⟨(attesting env).refl state, keepsSubjects.refl state⟩
      trans := fun earlier later => ⟨(attesting env).trans earlier.1 later.1,
        keepsSubjects.trans earlier.2 later.2⟩ }
  have both : ∀ {β : Type} {program : Run β}, program.Within (succeeds env) →
      program.Within keepsSubjects → program.Within before :=
    fun succession same state => ⟨within_attesting succession same state, same state⟩
  unfold releaseDevice
  rw [Exec.holds_bind, Exec.holds_get, Exec.then_ok]
  have undirected : (Exec.when (Truthy (world.portInfo device).portNo)
      (directPortTraffic env device ((world.portInfo device).portNo.getD 0) none)).Within before :=
    have within := directPortTraffic_topologyOnly device ((world.portInfo device).portNo.getD 0) none
    Exec.within_when (both (within_succeedsBut (within_sameRoll_of_topologyOnly within))
      (within_keepsSubjects_of_topologyOnly within))
  have detached : (detachGateway env device).Within before :=
    both (detachGateway_succeeds device) (detachGateway_keepsSubjects device)
  have terminated : (terminateHost env host).Within before :=
    both (within_succeedsBut (terminateHost_sameRoll host))
      (within_keepsSubjects_of_keepsHost terminateHost_lasting)
  refine (undirected.holds world).bind (fun _ _ kept => kept.1 orderly attests) fun _ first kept => ?_
  obtain ⟨orderly, attests⟩ := kept.1 orderly attests
  have hosted := (congrFun (congrArg Prod.snd kept.2) device).trans hosted
  refine (detached.holds first).bind (fun _ _ kept => kept.1 orderly attests) fun _ second kept => ?_
  obtain ⟨orderly, attests⟩ := kept.1 orderly attests
  have hosted := (congrFun (congrArg Prod.snd kept.2) device).trans hosted
  refine ((terminated.holds second).and (terminateHost_attested orderly.regular)).bind
    (fun _ _ kept => kept.1.1 orderly attests) fun report third kept => ?_
  obtain ⟨⟨attesting, same⟩, attested⟩ := kept
  obtain ⟨orderly, attests⟩ := attesting orderly attests
  have hosted := (congrFun (congrArg Prod.snd same) device).trans hosted
  refine sendDeviceResult_attesting orderly attests fun other given found equality => ?_
  cases equality
  cases hosted.symm.trans found
  exact attested report rfl

theorem targetSetCancel_attesting (device : DeviceId) :
    (targetSetCancel env device).Within (attesting env) := by
  unfold targetSetCancel
  refine Exec.within_bind (within_attesting (dequeue_succeeds device _)
    (modify_keepsSubjects fun _ => rfl)) fun _ world orderly attests => ?_
  have lingers : ∀ gateway port,
      (lingerResult gateway port).Within (attesting env) := by
    intro gateway port
    unfold lingerResult
    refine Exec.within_bind (Exec.within_when (within_attesting
      (within_succeedsBut (activatePort_sameRoll _)) (activatePort_keepsSubjects _))) fun _ => ?_
    split
    · exact Exec.within_raise _
    · exact within_attesting (within_succeedsBut (modify_sameRoll (fun _ => rfl) fun _ => rfl))
        (modify_keepsSubjects fun _ => rfl)
  have cancelled : (Exec.whenSome (world.device device).host fun host =>
      if Lingers env world device then
        lingerResult (world.device device).gateway (world.portInfo device).portNo
      else releaseDevice env device host).Holds world (fun _ after =>
        Orderly env after ∧ after.Attests) := by
    rw [Exec.holds_whenSome]
    refine ⟨fun _ => ⟨orderly, attests⟩, fun host hosted => ?_⟩
    rw [Exec.holds_ite]
    exact ⟨fun _ => lingers _ _ world orderly attests, fun _ =>
      releaseDevice_attesting hosted orderly attests⟩
  exact cancelled

theorem startHost_attesting (gateway : GatewayId) (host : HostId) :
    (startHost env device gateway host).Within (attesting env) := by
  refine within_attesting (within_succeedsBut (startHost_sameRoll gateway host)) ?_
  unfold startHost
  refine Exec.within_bind (modify_keepsSubjects fun _ => rfl) fun _ => ?_
  refine Exec.within_bind (within_keepsSubjects_of_keepsHost (initializeHost_hostLocal host))
    fun _ => ?_
  refine Exec.within_bind Exec.within_get fun _ => ?_
  split
  · exact within_keepsSubjects_of_topologyOnly (directPortTraffic_topologyOnly _ _ _)
  · exact within_keepsSubjects_of_topologyOnly (directDeviceTraffic_topologyOnly _ _)

section Drain

variable {drain : Run Unit} (drained : drain.Within (attesting env))
include drained

theorem targetSetFinalize_attesting (device : DeviceId) (resultSet : ResultSet) :
    (targetSetFinalize env drain device resultSet).Within (attesting env) := by
  unfold targetSetFinalize drainSingleShot
  refine Exec.within_bind (within_attesting
    (within_succeedsBut (recordResultSet_sameRoll device resultSet))
    (recordResultSet_keepsSubjects device resultSet)) fun _ => ?_
  refine Exec.within_bind ?_ fun _ => ?_
  · refine Exec.within_bind Exec.within_get fun _ => Exec.within_when ?_
    refine Exec.within_bind (within_attesting (noteDrain_succeeds device)
      (modify_keepsSubjects fun world => ?_)) fun _ => ?_
    · unfold noteDrain
      split <;> rfl
    refine Exec.within_bind drained fun _ => ?_
    exact within_attesting (within_succeedsBut (modify_sameRoll (fun _ => rfl) fun _ => rfl))
      (modify_keepsSubjects fun _ => rfl)
  · intro world orderly attests
    have letGo := letGo_holds world device
    have succession : Succeeds env none world _ := LetGo.succeeds letGo orderly
    exact ⟨succession.orderly, attests.of_same (congrArg World.deliveries letGo.rest :)⟩

theorem targetSetComplete_attesting (device : DeviceId) :
    (targetSetComplete env drain device).Within (attesting env) := by
  unfold targetSetComplete
  refine Exec.within_bind ?_ fun _ => ?_
  · refine Exec.within_attempt (targetSetCancel_attesting device) fun raised => ?_
    refine Exec.within_bind (Exec.within_read _) fun host => ?_
    split
    · exact Exec.within_raise _
    · exact recordException_attesting _ raised
  · refine Exec.within_bind Exec.within_get fun world => ?_
    split
    · exact Exec.within_raise _
    · exact targetSetFinalize_attesting drained device _

theorem targetSetError_attesting (device : DeviceId) (raised : Exc) :
    (targetSetError env drain device raised).Within (attesting env) := by
  unfold targetSetError
  refine Exec.within_bind (Exec.within_read _) fun host => ?_
  split
  · exact Exec.within_bind (recordException_attesting _ raised) fun _ =>
      targetSetComplete_attesting drained device
  · refine Exec.within_bind (targetSetFinalize_attesting drained device _) fun _ => ?_
    refine Exec.within_bind (fun world orderly attests => ?_) fun _ =>
      within_attesting (detachGateway_succeeds device)
        (detachGateway_keepsSubjects device)
    exact sendDeviceResult_attesting orderly attests nofun

theorem bringUp_attesting (gateway : GatewayId) (orderly : Orderly env world)
    (attests : world.Attests) (unserved : Unserved world device) :
    (bringUp env drain device gateway).Holds world (fun _ after => after.Attests) := by
  have counted : Succeeds env (some device) world
      { world with runCount := world.runCount + 1, tick := world.tick + 1 } :=
    .of_roll orderly rfl orderly.regular
  have started : (targetSetHost env device gateway).Holds world (fun _ after =>
      Orderly env after ∧ after.Attests) := by
    refine targetSetHost_holds (fun _ _ => ⟨counted.orderly, attests⟩) fun _ => ?_
    have hosted := hosted_succeeds counted.orderly (unserved.of_roll rfl)
    exact startHost_attesting gateway _ _ hosted.orderly attests
  have returned : (do
      targetSetHost env device gateway
      pure true : Run Bool).Holds world (fun _ after => Orderly env after ∧ after.Attests) :=
    started.bind (fun _ _ kept => kept) fun _ _ kept => kept
  unfold bringUp
  refine returned.attempt (fun _ _ kept => kept.2) fun raised reached kept => ?_
  refine ((targetSetError_attesting drained device raised).holds reached).bind ?_ ?_
  · exact fun _ _ later => (later kept.1 kept.2).2
  · exact fun _ _ later => (later kept.1 kept.2).2

theorem targetSetActivate_attesting (orderly : Orderly env world) (attests : world.Attests)
    (unserved : Unserved world device) :
    (targetSetActivate env drain device).Holds world (fun _ after => after.Attests) := by
  have kept : ∀ {after : World}, after.core.deliveries = world.core.deliveries → after.Attests :=
    fun same => attests.of_same same
  have provided : ∀ {gateway : GatewayId} {after : World}, Provided device gateway world after →
      after.core.deliveries = world.core.deliveries := by
    rintro gateway after (shared | ⟨_, ⟨number, _, core⟩, _⟩)
    · rw [shared.core]
    · rw [core]
  refine targetSetActivate_holds ?_ ?_ ?_
  · rintro after _ (core | ⟨number, core⟩)
    · exact kept (by rw [core])
    · exact kept (by rw [core])
  · intro reached gateway _ found _ after core _
    exact kept (by rw [core, provided found])
  · intro reached gateway hosts found _
    have roll := provided_roll found
    have chosen : Succeeds env (some device) world reached :=
      .of_roll orderly roll (orderly.regular.of_hosts hosts)
    have joined := @joined_succeeds env reached device chosen.orderly gateway
    have same : reached.deliveries = world.deliveries := provided found
    exact bringUp_attesting drained gateway joined.orderly (attests.of_same same)
      (unserved.of_roll roll).joined

end Drain

theorem attests_invariant : RunnerInvariant env (fun _ => True) World.Attests where
  advance := fun _ _ _ core _ attests => attests.of_same (congrArg World.Core.deliveries core)
  activatePort := fun world port _ upheld =>
    upheld.holds.of_same (congrArg Prod.fst (activatePort_keepsSubjects port world))
  createIfAbsent := fun _ _ _ _ _ upheld _ _ entered _ =>
    upheld.holds.of_same (congrArg World.deliveries entered.rest :)
  freshPort := fun _ _ _ upheld _ => upheld.holds
  undirect := fun world device port _ upheld _ _ => upheld.holds.of_same
    (congrArg World.deliveries (directPortTraffic_topologyOnly device port none world) :)
  enqueue := fun _ _ _ upheld _ _ _ => upheld.holds
  activate := by
    intro drain drained world device orderly upheld wanted _
    have dequeued : Succeeds env none world
        { world with targetSetQueue := world.targetSetQueue.erase device } :=
      dequeue_succeeds device World.trail world orderly
    exact (targetSetActivate_attesting (attesting_of_upholding drained) dequeued.orderly
      upheld.holds (orderly.unserved_of_wanted wanted).2).mono fun _ _ kept _ => kept
  error := fun drain drained world device raised orderly upheld _ _ _ =>
    (targetSetError_attesting (attesting_of_upholding drained) device raised world orderly
      upheld.holds).2
  complete := fun drain drained world device _ orderly upheld _ _ _ =>
    (targetSetComplete_attesting (attesting_of_upholding drained) device world orderly
      upheld.holds).2
  terminateGatewaySet := by
    intro drain drained world gateway orderly upheld _
    have within : (terminateGatewaySet env drain gateway).Within (attesting env) := by
      unfold terminateGatewaySet
      refine Exec.within_bind Exec.within_get fun _ => ?_
      refine Exec.within_bind (Exec.within_require _) fun _ => ?_
      exact Exec.within_forEach (fun device =>
        targetSetError_attesting (attesting_of_upholding drained) device _) _
    exact (within world orderly upheld.holds).2
  direct := fun world device _ _ upheld _ => upheld.holds.of_same
    (congrArg World.deliveries (directDeviceTraffic_topologyOnly device _ world) :)

end Attesting

/-- A passed result is sound unless the report holds an exception without a
text, which is taken for none. -/
theorem delivered_passed_sound_iff {world : World} (reached : Started env world)
    {delivery : Delivery} (delivered : delivery ∈ world.deliveries) {entry : Host}
    {report : DeviceReport} (subject : delivery.subject = some entry)
    (reported : delivery.report = some report) (passed : delivery.code = .passed) :
    SoundVerdict entry report ↔
      ∀ module ∈ report.modules.values, module.exception ≠ some "" := by
  have initial : (startWorld env).Attests := by
    unfold startWorld
    split
    · exact fun _ member => absurd member List.not_mem_nil
    · exact fun _ member => absurd member List.not_mem_nil
  have attests := attests_invariant.started initial reached fun _ _ => trivial
  obtain ⟨attested, calculated⟩ := attests delivery delivered entry report subject reported
  exact attested.sound_iff (calculated.symm.trans passed)

/-- One device that runs one test, which ends with zero. -/
def verdictConfig : Config :=
  { secPort := 7, testList := ["pass"], deviceReporting := true }

def passingRun : List Command :=
  [.receive (.event (.portState 1 1 true)), .receive (.event (.portState 2 1 true)),
    .receive (.event (.portLearn 2 1 "9a:02:57:1e:8f:01" 10)), .faucet, .idle,
    .dhcp 0 false { type := "ACK", mac := "9a:02:57:1e:8f:01", ip := "10.20.99.7", delta := some 0 },
    .idle, .moduleCallback 0 (some 0) none, .idle]

/-- Publishing the result of the last stage is cancelled; the exception of a
cancelled call has no text. -/
def cancelsFinish : Env :=
  { Env.quiet verdictConfig with
    fault := fun world op => match op with
      | .publishResult host =>
          if (world.hosts host).state = .done then some ⟨"CancelledError", "", by decide⟩ else none
      | _ => none }

/-- A passed result was delivered for a report with this property. -/
def deliversPassed (world : World) (property : DeviceReport → Bool) : Bool :=
  world.deliveries.any fun delivery =>
    decide (delivery.code = .passed) && delivery.subject.isSome && delivery.report.any property

theorem exists_of_deliversPassed {world : World} {property : DeviceReport → Bool}
    (delivers : deliversPassed world property = true) :
    ∃ delivery ∈ world.deliveries, ∃ entry report, delivery.subject = some entry ∧
      delivery.report = some report ∧ delivery.code = .passed ∧ property report = true := by
  obtain ⟨delivery, delivered, holds⟩ := List.any_eq_true.mp delivers
  simp only [Bool.and_eq_true, decide_eq_true_eq] at holds
  obtain ⟨⟨passed, some⟩, any⟩ := holds
  obtain ⟨entry, subject⟩ := Option.isSome_iff_exists.mp some
  obtain ⟨report, reported, property⟩ := (Option.any_eq_true _ _).mp any
  exact ⟨delivery, delivered, entry, report, subject, reported, passed, property⟩

/-- The cancelled publication is recorded as an exception of the last stage,
and the device passes. -/
theorem not_every_passed_sound :
    ¬ ∀ (env : Env) (world : World) (delivery : Delivery) (entry : Host) (report : DeviceReport),
      Started env world → delivery ∈ world.deliveries → delivery.subject = some entry →
      delivery.report = some report → delivery.code = .passed → SoundVerdict entry report := by
  intro always
  have delivers : deliversPassed (runCommands cancelsFinish passingRun (initialWorld cancelsFinish))
      (fun report => report.modules.values.any fun module =>
        decide (module.exception = some "")) = true := by decide +kernel
  obtain ⟨delivery, delivered, entry, report, subject, reported, passed, silent⟩ :=
    exists_of_deliversPassed delivers
  have sound := always _ _ delivery entry report (started_of_commands (by decide) _) delivered subject
    reported passed
  obtain ⟨module, member, empty⟩ := List.any_eq_true.mp silent
  have none := sound.unexcepted module member
  rw [of_decide_eq_true empty] at none
  cases none

theorem passingRun_sound :
    ∃ delivery ∈ (runCommands (.quiet verdictConfig) passingRun
        (initialWorld (.quiet verdictConfig))).deliveries,
      ∃ entry report, delivery.subject = some entry ∧ delivery.report = some report ∧
        SoundVerdict entry report := by
  have delivers : deliversPassed (runCommands (.quiet verdictConfig) passingRun
      (initialWorld (.quiet verdictConfig))) (fun report =>
        report.modules.values.all fun module => decide (module.exception ≠ some "")) = true := by
    decide +kernel
  obtain ⟨delivery, delivered, entry, report, subject, reported, passed, texted⟩ :=
    exists_of_deliversPassed delivers
  refine ⟨delivery, delivered, entry, report, subject, reported, ?_⟩
  refine (delivered_passed_sound_iff (started_of_commands (by decide) _) delivered subject reported
    passed).mpr fun module member => ?_
  exact of_decide_eq_true (List.all_eq_true.mp texted module member)

end Daq
