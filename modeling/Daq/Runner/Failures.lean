import Daq.Runner.Release

namespace Daq

variable {env : Env}

/-! Whether a failure that is reported to the runner is among the results it is
judged by in the end. -/

/-- The result counts as a failure. -/
def Result.Fails (result : Result) : Prop := resultStatus result ≠ .inl 0

def FailsUnder (results : Dict String Result) (key : String) : Prop :=
  ∃ result, results.get? key = some result ∧ result.Fails

/-- The combined results hold a failure of the device. -/
def Filed (device : DeviceId) (world : World) : Prop :=
  ∃ failure ∈ combineResults world, failure.device = device

section Combined

variable {device : DeviceId} {results : Dict String Result}

theorem exception_fails (name : Option String) (raised : Exc) :
    (Record.result { exception := some raised } name).Fails := by
  have nonempty : NonEmpty (some raised.className) := raised.named
  unfold Result.Fails resultStatus Record.result
  simp [nonempty]

theorem mem_combineResultSet {failure : Failure} :
    failure ∈ combineResultSet device (some results) ↔
      ∃ key result, results.get? key = some result ∧ result.Fails ∧
        failure = ⟨device, result.name.getD key, resultStatus result⟩ := by
  unfold combineResultSet Result.Fails
  simp only [List.mem_filterMap, List.mem_insertionSort, Option.bind_eq_some_iff]
  constructor
  · rintro ⟨key, _, result, found, listed⟩
    split at listed
    · cases listed
    · rename_i fails
      exact ⟨key, result, found, fails, (Option.some.inj listed).symm⟩
  · rintro ⟨key, result, found, fails, rfl⟩
    refine ⟨key, Dict.mem_keys_iff.mpr ⟨result, found⟩, result, found, ?_⟩
    rw [if_neg fails]

theorem filed_iff {world : World} :
    Filed device world ↔ ∃ set, world.resultSets.get? device = some set ∧
      ∃ key, FailsUnder (world.results set) key := by
  unfold Filed combineResults
  constructor
  · rintro ⟨failure, member, own⟩
    obtain ⟨⟨other, set⟩, stored, listed⟩ := List.mem_flatMap.mp member
    obtain ⟨key, result, found, fails, rfl⟩ := mem_combineResultSet.mp listed
    cases own
    exact ⟨set, Dict.get?_eq_some_iff.mpr stored, key, result, found, fails⟩
  · rintro ⟨set, stored, key, result, found, fails⟩
    refine ⟨⟨device, result.name.getD key, resultStatus result⟩, ?_, rfl⟩
    exact List.mem_flatMap.mpr ⟨(device, set), Dict.get?_eq_some_iff.mp stored,
      mem_combineResultSet.mpr ⟨key, result, found, fails, rfl⟩⟩

theorem finalizeRunner_of_filed {world : World} (filed : Filed device world) :
    finalizeRunner world = 1 := by
  obtain ⟨failure, member, _⟩ := filed
  unfold finalizeRunner
  exact if_pos (.inl (List.ne_nil_of_mem member))

end Combined

/-! What a host has recorded, and how recording goes on. -/

/-- Results, current test and report of a host. -/
def Host.records (entry : Host) :
    Dict String Result × Option String × Option (Dict String ReportItem) :=
  (entry.results, entry.testName, entry.report)

/-- Failures of a host stay on record, but for what is recorded about its
termination. -/
def retains (host : HostId) : Frame World where
  rel before after := after.resultSets = before.resultSets ∧
    ∀ key, key ≠ "terminate" → FailsUnder (before.hosts host).results key →
      FailsUnder (after.hosts host).results key
  refl := fun _ => ⟨rfl, fun _ _ fails => fails⟩
  trans := fun first second => ⟨second.1.trans first.1,
    fun key other fails => second.2 key other (first.2 key other fails)⟩

section Records

variable {host other : HostId} {world : World} {α : Type} {program : Run α}

theorem within_retains_of_hosts
    (same : ∀ world, ((program.run world).2).hosts host = world.hosts host ∧
      ((program.run world).2).resultSets = world.resultSets) :
    program.Within (retains host) :=
  fun world => ⟨(same world).2, fun _ _ fails => (same world).1 ▸ fails⟩

theorem within_retains_of_topologyOnly (within : program.Within topologyOnly) :
    program.Within (retains host) :=
  within_retains_of_hosts fun world =>
    ⟨congrFun (congrArg World.hosts (within world) :) host,
      (congrArg World.resultSets (within world) :)⟩

theorem modify_retains {update : World → World}
    (hosts : ∀ world, (update world).hosts host = world.hosts host)
    (results : ∀ world, (update world).resultSets = world.resultSets) :
    (Exec.modify update : Run Unit).Within (retains host) :=
  within_retains_of_hosts fun world => ⟨hosts world, results world⟩

theorem within_retains_of_keepsHost {view : Host → Host}
    (within : program.Within (keepsHost other view)) (different : host ≠ other) :
    program.Within (retains host) :=
  within_retains_of_hosts fun world =>
    ⟨(within world).others host different, (congrArg World.resultSets (within world).outside :)⟩

theorem setHost_retains {change : World → Host → Host}
    (same : ∀ world entry, (change world entry).results = entry.results) :
    (Exec.modify fun world => world.setHost other (change world) : Run Unit).Within
      (retains host) := by
  intro world
  refine ⟨rfl, fun key _ fails => ?_⟩
  have kept := @setHost_view _ world Host.results other (change world) (same _ _) host
  exact (congrArg (fun results => FailsUnder results key) kept).mpr fails

theorem FailsUnder.insert {results : Dict String Result} {key name : String} {result : Result}
    (fails : FailsUnder results key) (own : name = key → result.Fails) :
    FailsUnder (results.insert name result) key := by
  obtain ⟨stored, found, bad⟩ := fails
  unfold FailsUnder
  rw [Dict.get?_insert]
  split
  · rename_i same
    exact ⟨result, rfl, own same.symm⟩
  · exact ⟨stored, found, bad⟩

theorem publishResult_retains {name : Option String} {record : Record}
    (harmless : name = some "terminate" ∨ (record.result name).Fails) :
    (publishResult env other name record).Within (retains host) := by
  unfold publishResult
  refine Exec.within_bind (Exec.within_when fun world => ?_) fun _ =>
    within_retains_of_topologyOnly (callOut_topologyOnly _)
  refine ⟨rfl, fun key different fails => ?_⟩
  simp only [Exec.modify_run, setHost_hosts]
  split
  · rename_i same
    subst same
    refine fails.insert fun equality => ?_
    rcases harmless with terminal | bad
    · rw [terminal] at equality
      exact absurd equality.symm different
    · exact bad
  · exact fails

theorem accumulate_retains (name : String) (change : ReportItem → ReportItem) :
    (accumulate other name change).Within (retains host) := by
  unfold accumulate
  refine Exec.within_bind (Exec.within_read _) fun entry => ?_
  split
  · exact Exec.within_raise _
  · exact setHost_retains fun _ _ => rfl

theorem recordResult_retains {name : Option String} {record : Record}
    (harmless : name = some "terminate" ∨ (record.result name).Fails) :
    (recordResult env other name record).Within (retains host) := by
  unfold recordResult
  refine Exec.within_bind (setHost_retains fun _ _ => rfl) fun _ => Exec.within_when ?_
  refine Exec.within_bind (publishResult_retains harmless) fun _ => ?_
  refine Exec.within_bind (Exec.within_whenSome _ fun _ => accumulate_retains _ _) fun _ => ?_
  exact Exec.within_bind (Exec.within_whenSome _ fun _ => accumulate_retains _ _) fun _ =>
    accumulate_retains _ _

theorem recordException_retains (raised : Exc) :
    (recordException env other raised).Within (retains host) :=
  Exec.within_bind (Exec.within_read _) fun _ =>
    recordResult_retains (.inr (exception_fails _ raised))

theorem retains_of_same {before after : World} (same : sameHosts.rel before after) :
    (retains host).rel before after := by
  have hosts : after.hosts = before.hosts := congrArg Prod.fst same
  exact ⟨congrArg (·.2.1) same, fun _ _ fails => hosts ▸ fails⟩

theorem retains_of_sameHosts (within : program.Within sameHosts) :
    program.Within (retains host) :=
  within.mono fun _ _ same => retains_of_same same

theorem retains_rule : ReleaseRule env (retains host) where
  still := fun _ _ same => retains_of_same same
  write := fun _ _ same => setHost_retains fun world entry => (same world entry).1
  exception := fun _ raised => recordException_retains raised
  termination := fun _ => recordResult_retains (.inl rfl)

end Records

/-! Events that are processed meanwhile do not touch what is on record. -/

/-- A failure of the device is on record: its host has one, and the host's
results are kept for the device, or an exception is. -/
structure Kept (device : DeviceId) (host : HostId) (world : World) : Prop where
  made : host < world.nextHost
  own : (world.hosts host).device = device
  only : ∀ other, (world.device device).host = some other → other = host
  failing : ∃ key, key ≠ "terminate" ∧ FailsUnder (world.hosts host).results key
  stored : world.resultSets.get? device = some (.host host) ∨
    ∃ message, message ≠ "" ∧ world.resultSets.get? device = some (.exception message)

namespace Kept

variable {device : DeviceId} {host : HostId} {before after : World}

theorem filed {world : World} (kept : Kept device host world) : Filed device world := by
  rw [filed_iff]
  rcases kept.stored with stored | ⟨message, text, stored⟩
  · obtain ⟨key, _, fails⟩ := kept.failing
    exact ⟨_, stored, key, fails⟩
  · refine ⟨_, stored, "exception", _, Dict.get?_insert_self _ _ _, ?_⟩
    have nonempty : NonEmpty (some message) := text
    simp [Result.Fails, resultStatus, nonempty]

theorem of_same (kept : Kept device host before) (hosts : after.hosts host = before.hosts host)
    (next : before.nextHost ≤ after.nextHost)
    (own : (after.device device).host = (before.device device).host)
    (results : after.resultSets = before.resultSets) : Kept device host after where
  made := kept.made.trans_le next
  own := hosts ▸ kept.own
  only := fun other hosted => kept.only other (own ▸ hosted)
  failing := hosts ▸ kept.failing
  stored := results ▸ kept.stored

/-- A device that has or had this host gets no other. -/
theorem of_succeeds (kept : Kept device host before) (orderly : Orderly env before)
    (succession : Succeeds env none before after)
    (retained : ∀ key, key ≠ "terminate" → FailsUnder (before.hosts host).results key →
      FailsUnder (after.hosts host).results key)
    (stored : after.resultSets.get? device = some (.host host) ∨
      ∃ message, message ≠ "" ∧ after.resultSets.get? device = some (.exception message)) :
    Kept device host after where
  made := kept.made.trans_le succession.nextHost
  own := (succession.device host kept.made).trans kept.own
  only := by
    intro other hosted
    obtain ⟨made, engaged⟩ := orderly.engaged host kept.made
    rw [kept.own] at made engaged
    rcases succession.host device made (by rintro ⟨⟩) engaged with same | gone
    · exact kept.only other (same ▸ hosted)
    · rw [gone] at hosted
      cases hosted
  failing := by
    obtain ⟨key, other, fails⟩ := kept.failing
    exact ⟨key, other, retained key other fails⟩
  stored := stored

end Kept

def filing (env : Env) (device : DeviceId) (host : HostId) : Frame World :=
  upholding env (fun _ => True) (Kept device host)

section Filing

variable {device subject : DeviceId} {host : HostId} {α : Type} {program : Run α} {world : World}

theorem holds_filing
    (succession : program.Holds world (fun _ after => (succeeds env).rel world after))
    (kept : Orderly env world → Kept subject host world →
      program.Holds world (fun _ after => Kept subject host after)) :
    program.Holds world (fun _ after => (filing env subject host).rel world after) :=
  upholding_holds succession fun orderly upheld =>
    (kept orderly upheld.holds).mono fun _ _ after _ => after

theorem within_filing (succession : program.Within (succeeds env))
    (retained : program.Within (retains host)) : program.Within (filing env subject host) := by
  intro world
  refine holds_filing (succession world) fun orderly kept => ?_
  obtain ⟨results, fails⟩ := retained world
  exact kept.of_succeeds orderly (succession world orderly) fails (results ▸ kept.stored)

theorem recordException_filing (other : HostId) (raised : Exc) :
    (recordException env other raised).Within (filing env subject host) :=
  within_filing (recordException_succeeds other raised) (recordException_retains raised)

/-- Results that may be kept for the device. -/
def Telling (device subject : DeviceId) (host : HostId) (set : ResultSet) : Prop :=
  device = subject → set = .host host ∨ ∃ message, message ≠ "" ∧ set = .exception message

theorem recordResultSet_stores (device : DeviceId) (set : ResultSet) (world : World) :
    (recordResultSet env device set).Holds world (fun outcome after =>
      after.hosts = world.hosts ∧
        (after.resultSets = world.resultSets ∨
          after.resultSets = world.resultSets.insert device set) ∧
        (outcome = .ok () → after.resultSets = world.resultSets.insert device set)) := by
  unfold recordResultSet
  rw [Exec.holds_bind, Exec.holds_read, Exec.then_ok]
  refine (callOut_ticks env _ _).bind ?_ ?_
  · rintro _ _ rfl
    exact ⟨rfl, .inl rfl, nofun⟩
  · rintro _ _ rfl
    rw [Exec.holds_bind, Exec.holds_when]
    refine ⟨fun _ => ?_, fun _ => ?_⟩
    all_goals
      simp only [Exec.holds_modify, Exec.then_ok, Exec.holds_bind, Exec.holds_get,
        Exec.holds_when]
      exact ⟨fun _ => ⟨rfl, .inr rfl, fun _ => rfl⟩, fun _ => ⟨rfl, .inr rfl, fun _ => rfl⟩⟩

theorem recordResultSet_filing {set : ResultSet} (telling : Telling device subject host set) :
    (recordResultSet env device set).Within (filing env subject host) := by
  have succession : (recordResultSet env device set).Within (succeeds env) :=
    within_succeedsBut (recordResultSet_sameRoll device set)
  intro world
  refine holds_filing (succession world) fun orderly kept => ?_
  have stored : ∀ after : World,
      after.resultSets = world.resultSets ∨ after.resultSets = world.resultSets.insert device set →
      after.resultSets.get? subject = some (.host host) ∨
        ∃ message, message ≠ "" ∧ after.resultSets.get? subject = some (.exception message) := by
    rintro after (same | inserted)
    · exact same ▸ kept.stored
    · rw [inserted, Dict.get?_insert]
      split
      · rename_i own
        rcases telling own.symm with rfl | ⟨message, text, rfl⟩
        · exact .inl rfl
        · exact .inr ⟨message, text, rfl⟩
      · exact kept.stored
  refine ((recordResultSet_stores device set world).and (succession.holds world)).mono ?_
  rintro outcome after ⟨⟨hosts, results, _⟩, succeeded⟩
  exact kept.of_succeeds orderly (succeeded orderly) (fun _ _ fails => hosts ▸ fails)
    (stored after results)

variable {drain : Run Unit} (drained : Drains (filing env subject host) drain)
include drained

/-- The rest of a finalization, once the results are kept. -/
theorem removal_filing (device : DeviceId) :
    (do
      drainSingleShot env drain device
      Exec.modify fun world => world.setDevice device fun entry => { entry with host := none }
      removeDevice device : Run Unit).Within (filing env subject host) := by
  unfold drainSingleShot
  refine Exec.within_bind ?_ fun _ => ?_
  · refine Exec.within_bind Exec.within_get fun _ => Exec.within_when ?_
    refine Exec.within_bind (within_filing (noteDrain_succeeds device)
      (modify_retains (fun world => ?_) fun world => ?_)) fun _ => ?_
    · unfold noteDrain
      split <;> rfl
    · unfold noteDrain
      split <;> rfl
    refine Exec.within_bind drained.within fun _ => ?_
    exact within_filing (within_succeedsBut (modify_sameRoll (fun _ => rfl) fun _ => rfl))
      (modify_retains (fun _ => rfl) fun _ => rfl)
  · refine within_filing (fun world orderly => (letGo_holds world device).succeeds orderly) ?_
    exact within_retains_of_hosts fun world =>
      ⟨congrFun (letGo_holds world device).hosts host,
        (congrArg World.resultSets (letGo_holds world device).rest :)⟩

theorem targetSetFinalize_filing {set : ResultSet} (telling : Telling device subject host set) :
    (targetSetFinalize env drain device set).Within (filing env subject host) :=
  Exec.within_bind (recordResultSet_filing telling) fun _ => removal_filing drained device

theorem targetSetComplete_filing (device : DeviceId) :
    (targetSetComplete env drain device).Within (filing env subject host) := by
  unfold targetSetComplete
  refine Exec.within_bind ?_ fun _ => ?_
  · refine Exec.within_attempt (within_filing (targetSetCancel_succeeds device)
      (retains_rule.targetSetCancel device)) fun raised => ?_
    refine Exec.within_bind (Exec.within_read _) fun host => ?_
    split
    · exact Exec.within_raise _
    · exact recordException_filing _ raised
  · intro world
    refine holds_filing ?_ fun orderly kept => ?_
    · refine Exec.within_bind Exec.within_get (fun world => ?_) world
      split
      · exact Exec.within_raise _
      · exact targetSetFinalize_succeeds drained.succeeds.within device _
    · rw [Exec.holds_bind, Exec.holds_get, Exec.then_ok]
      split
      · exact kept
      · rename_i other hosted
        have telling : Telling device subject host (.host other) := by
          rintro rfl
          exact .inl (congrArg ResultSet.host (kept.only other hosted))
        exact (targetSetFinalize_filing drained telling world orderly).2 (fun _ => kept) fun _ _ =>
          trivial

theorem targetSetError_filing (device : DeviceId) (raised : Exc)
    (texted : device = subject → raised.message ≠ "") :
    (targetSetError env drain device raised).Within (filing env subject host) := by
  unfold targetSetError
  refine Exec.within_bind (Exec.within_read _) fun own => ?_
  split
  · exact Exec.within_bind (recordException_filing _ raised) fun _ =>
      targetSetComplete_filing drained device
  · refine Exec.within_bind (targetSetFinalize_filing drained fun same =>
      .inr ⟨raised.message, texted same, rfl⟩) fun _ => ?_
    refine Exec.within_bind (within_filing (within_succeedsBut
      (sendDeviceResult_sameRoll device none)) (retains_of_sameHosts (sendDeviceResult_sameHosts device none))) fun _ => ?_
    exact within_filing (detachGateway_succeeds device) (retains_of_sameHosts (detachGateway_sameHosts device))

theorem bringUp_filing (gateway : GatewayId) (orderly : Orderly env world)
    (kept : Kept subject host world) (different : device ≠ subject)
    (unserved : Unserved world device) :
    (bringUp env drain device gateway).Holds world (fun _ after => Kept subject host after) := by
  have counted : Succeeds env none world
      { world with runCount := world.runCount + 1, tick := world.tick + 1 } :=
    .of_roll orderly rfl orderly.regular
  have started : (targetSetHost env device gateway).Holds world (fun _ after =>
      Orderly env after ∧ Kept subject host after) := by
    refine targetSetHost_holds (fun _ _ => ⟨counted.orderly, kept.of_same rfl (le_refl _) rfl rfl⟩)
      fun _ => ?_
    have hosted := hosted_succeeds counted.orderly (unserved.of_roll rfl)
    have older : host ≠ world.nextHost := Nat.ne_of_lt kept.made
    have began : Kept subject host (World.hosted
        { world with runCount := world.runCount + 1, tick := world.tick + 1 } env device) :=
      kept.of_same (Function.update_of_ne older _ _) (Nat.le_succ _)
        (congrArg Device.host (hosted_other different.symm)) rfl
    have within : (startHost env device gateway world.nextHost).Within (filing env subject host) := by
      refine within_filing (within_succeedsBut (startHost_sameRoll gateway _)) ?_
      unfold startHost
      refine Exec.within_bind (modify_retains (fun state => ?_) fun _ => rfl) fun _ => ?_
      · rw [setHost_hosts, if_neg older]
      refine Exec.within_bind (within_retains_of_keepsHost (initializeHost_hostLocal _) older)
        fun _ => ?_
      refine Exec.within_bind Exec.within_get fun _ => ?_
      split
      · exact within_retains_of_topologyOnly (directPortTraffic_topologyOnly _ _ _)
      · exact within_retains_of_topologyOnly (directDeviceTraffic_topologyOnly _ _)
    obtain ⟨succession, later⟩ := within _ hosted.orderly
    exact ⟨succession.orderly, later (fun _ => began) fun _ _ => trivial⟩
  have returned : (do
      targetSetHost env device gateway
      pure true : Run Bool).Holds world (fun _ after => Orderly env after ∧ Kept subject host after) :=
    started.bind (fun _ _ done => done) fun _ _ done => done
  unfold bringUp
  refine returned.attempt (fun _ _ done => done.2) fun raised reached done => ?_
  have failed := targetSetError_filing drained device raised (fun same => absurd same different)
  refine (failed.holds reached).bind ?_ ?_
  · exact fun _ _ later => (later done.1).2 (fun _ => done.2) fun _ _ => trivial
  · exact fun _ _ later => (later done.1).2 (fun _ => done.2) fun _ _ => trivial

theorem targetSetActivate_filing (orderly : Orderly env world) (kept : Kept subject host world)
    (different : device ≠ subject) (unserved : Unserved world device) :
    (targetSetActivate env drain device).Holds world (fun _ after => Kept subject host after) := by
  have same : ∀ {after : World}, after.hosts = world.hosts → after.roll = world.roll →
      after.core.resultSets = world.core.resultSets → Kept subject host after := by
    intro after hosts roll results
    exact kept.of_same (congrFun hosts host) (congrArg World.Roll.nextHost roll).ge
      (congrFun (congrArg World.Roll.host roll) subject) results
  have provided : ∀ {gateway : GatewayId} {after : World}, Provided device gateway world after →
      after.core.resultSets = world.core.resultSets := by
    rintro gateway after (shared | ⟨_, ⟨number, _, core⟩, _⟩)
    · rw [shared.core]
    · rw [core]
  refine targetSetActivate_holds ?_ ?_ ?_
  · rintro after hosts (core | spent)
    · exact same hosts (roll_of_core core) (by rw [core])
    · obtain ⟨number, core⟩ := spent
      exact same hosts (spent_roll ⟨number, core⟩) (by rw [core])
  · intro reached gateway hosts found _ after core still
    refine same (still.trans hosts) ((roll_of_core core).trans (provided_roll found)) ?_
    rw [core, provided found]
  · intro reached gateway hosts found _
    have roll := provided_roll found
    have chosen : Succeeds env (some device) world reached :=
      .of_roll orderly roll (orderly.regular.of_hosts hosts)
    have joined := @joined_succeeds env reached device chosen.orderly gateway
    have began : Kept subject host (reached.joined gateway device) :=
      (same hosts roll (provided found)).of_same rfl (le_refl _) (joined_host subject) rfl
    exact bringUp_filing drained gateway joined.orderly began different
      (unserved.of_roll roll).joined

end Filing

/-- Whatever events are processed, a failure that is on record stays so. -/
theorem filing_events {subject : DeviceId} {host : HostId} :
    EventRule env (filing env subject host) where
  disorderly := fun _ _ disorderly orderly => absurd orderly disorderly
  succeeds := fun _ _ kept orderly => (kept orderly).1
  still := by
    intro before after core hosts orderly
    refine ⟨.of_roll orderly (roll_of_core core) (orderly.regular.of_hosts hosts),
      fun kept _ => (kept fun _ _ => trivial).of_same (congrFun hosts host) ?_ ?_ ?_⟩
    · exact (congrArg World.Core.nextHost core).ge
    · exact congrFun (congrArg World.Roll.host (roll_of_core core)) subject
    · exact (congrArg World.Core.resultSets core :)
  activatePort := fun port =>
    within_filing (within_succeedsBut (activatePort_sameRoll port)) (retains_of_sameHosts (activatePort_sameHosts port))
  createIfAbsent := by
    intro world mac info vlan _ _
    refine holds_filing (createIfAbsent_succeeds mac info vlan world) fun orderly kept => ?_
    refine (createIfAbsent_holds mac info vlan world).mono ?_
    rintro outcome after (⟨rfl, _⟩ | ⟨entered, _⟩)
    · exact kept
    · have hosts : after.hosts = world.hosts := (congrArg World.hosts entered.rest :)
      have results : after.resultSets = world.resultSets :=
        (congrArg World.resultSets entered.rest :)
      exact kept.of_succeeds orderly (entered.succeeds orderly) (fun _ _ fails => hosts ▸ fails)
        (results ▸ kept.stored)
  freshPort := by
    intro world device _ _
    refine holds_filing (fun orderly => .of_roll orderly (freshPort_roll device world)
      orderly.regular) fun _ kept => ?_
    exact kept.of_same rfl (le_refl _)
      (congrFun (congrArg World.Roll.host (freshPort_roll device world)) subject) rfl
  undirect := fun world device port _ _ _ => within_filing
    (within_succeedsBut (within_sameRoll_of_topologyOnly
      (directPortTraffic_topologyOnly device port none)))
    (within_retains_of_topologyOnly (directPortTraffic_topologyOnly device port none)) world
  enqueue := by
    intro world device _ registered free unqueued orderly
    exact ⟨enqueue_succeeds orderly registered free unqueued, fun kept _ =>
      (kept fun _ _ => trivial).of_same rfl (le_refl _) rfl rfl⟩
  activate := by
    intro drain drained world device orderly wanted capacity
    refine upholding_holds (succession.activate drain drained.succeeds world device orderly wanted
      capacity) fun orderly upheld => ?_
    have kept := upheld.holds
    obtain ⟨_, engaged⟩ := orderly.engaged host kept.made
    rw [kept.own] at engaged
    obtain ⟨⟨_, _, free⟩, unserved⟩ := orderly.unserved_of_wanted wanted
    have different : device ≠ subject := fun same => free (same ▸ engaged)
    have dequeued : Succeeds env none world
        { world with targetSetQueue := world.targetSetQueue.erase device } :=
      dequeue_succeeds device World.trail world orderly
    exact (targetSetActivate_filing drained dequeued.orderly
      (kept.of_same rfl (le_refl _) rfl rfl) different unserved).mono fun _ _ after _ => after
  terminate := fun drain drained world device _ _ _ =>
    targetSetError_filing drained device _ (fun _ => by decide) world

/-! What taking a device down does to the records of its host. -/

def sameRecords (host : HostId) : Frame World :=
  .unchanged fun world => (world.hosts host).records

section Recording

variable {device : DeviceId} {host : HostId} {world : World} {α : Type} {program : Run α}

theorem within_sameRecords_of_hosts
    (same : ∀ world, ((program.run world).2).hosts = world.hosts) :
    program.Within (sameRecords host) :=
  fun world => congrArg (fun hosts : HostId → Host => (hosts host).records) (same world)

theorem callOut_sameRecords (op : Op) : (callOut env op).Within (sameRecords host) :=
  within_sameRecords_of_hosts fun world => by rw [callOut_run_snd]; rfl

theorem setHost_sameRecords {change : World → Host → Host}
    (same : ∀ world entry, (change world entry).records = entry.records) :
    (Exec.modify fun world => world.setHost host (change world) : Run Unit).Within
      (sameRecords host) :=
  Exec.within_modify fun world => setHost_view Host.records (same world _) host

theorem accumulate_results (name : String) (change : ReportItem → ReportItem) :
    (accumulate host name change).Within
      (.unchanged fun world => ((world.hosts host).results, (world.hosts host).testName)) := by
  unfold accumulate
  refine Exec.within_bind (Exec.within_read _) fun entry => ?_
  split
  · exact Exec.within_raise _
  · exact Exec.within_modify fun world =>
      setHost_view (fun entry => (entry.results, entry.testName)) rfl host

/-- The results of a host with one more. -/
def Host.withResult (entry : Host) (name : Option String) (record : Record) :
    Dict String Result :=
  if NonEmpty name then entry.results.insert (name.getD "") (record.result name)
  else entry.results

theorem publishResult_results (name : Option String) (record : Record) :
    (publishResult env host name record).Holds world (fun _ after =>
      (after.hosts host).testName = (world.hosts host).testName ∧
        (after.hosts host).results = (world.hosts host).withResult name record) := by
  unfold publishResult
  rw [Exec.holds_bind, Exec.holds_when]
  refine ⟨fun named => ?_, fun unnamed => ?_⟩
  · rw [Exec.holds_modify, Exec.then_ok]
    refine (callOut_ticks env _ _).mono ?_
    rintro _ _ rfl
    simp [World.ticked, setHost_hosts, Host.withResult, named]
  · rw [Exec.then_ok]
    refine (callOut_ticks env _ _).mono ?_
    rintro _ _ rfl
    simp [World.ticked, Host.withResult, unnamed]

theorem recordResult_results (name : Option String) (record : Record) :
    (recordResult env host name record).Holds world (fun _ after =>
      (after.hosts host).testName = name ∧
        (after.hosts host).results = (world.hosts host).withResult name record) := by
  have renamed : ((world.setHost host fun entry => { entry with testName := name }).hosts
      host).testName = name ∧ ((world.setHost host fun entry =>
        { entry with testName := name }).hosts host).results = (world.hosts host).results := by
    simp [setHost_hosts]
  unfold recordResult
  rw [Exec.holds_bind, Exec.holds_modify, Exec.then_ok, Exec.holds_when]
  refine ⟨fun _ => ?_, fun unnamed => ?_⟩
  · have rest : (do
        Exec.whenSome record.exception fun raised => accumulate host (name.getD "") fun item =>
          { item with exception := some raised.message }
        Exec.whenSome record.code fun code =>
          accumulate host (name.getD "") fun item => { item with returnCode := code }
        accumulate host (name.getD "") id : Run Unit).Within (.unchanged fun world =>
          ((world.hosts host).results, (world.hosts host).testName)) := by
      refine Exec.within_bind (Exec.within_whenSome _ fun _ => accumulate_results _ _) fun _ => ?_
      exact Exec.within_bind (Exec.within_whenSome _ fun _ => accumulate_results _ _) fun _ =>
        accumulate_results _ _
    have published := @publishResult_results env host
      (world.setHost host fun entry => { entry with testName := name }) name record
    unfold Host.withResult at published ⊢
    rw [renamed.1, renamed.2] at published
    refine published.bind (fun _ _ done => done) fun _ middle done => ?_
    refine (rest.holds middle).mono fun _ after same => ?_
    exact ⟨(congrArg Prod.snd same).trans done.1, (congrArg Prod.fst same).trans done.2⟩
  · unfold Host.withResult
    rw [if_neg unnamed]
    exact renamed

theorem recordException_results (raised : Exc) :
    (recordException env host raised).Holds world (fun _ after =>
      (after.hosts host).testName = (world.hosts host).testName ∧
        (after.hosts host).results = (world.hosts host).withResult (world.hosts host).testName
          { exception := some raised }) := by
  unfold recordException
  rw [Exec.holds_bind, Exec.holds_read, Exec.then_ok]
  exact recordResult_results _ _

theorem recordException_returns
    (publishes : ∀ state, env.fault state (.publishResult host) = none)
    (reported : (world.hosts host).report ≠ none) (raised : Exc) :
    (recordException env host raised).Holds world (fun outcome after =>
      outcome = .ok () ∧ KeepsHost host Host.unrecorded world after) := by
  unfold recordException
  rw [Exec.holds_bind, Exec.holds_read, Exec.then_ok]
  exact recordResult_returns _ _ publishes reported

/-- What a host that was terminated has on record. -/
def Host.Concluded (entry concluded : Host) : Prop :=
  concluded.results = entry.results.insert "terminate" { name := some "terminate" }

theorem finalizeReport_records
    (publishes : ∀ state, env.fault state (.publishResult host) = none)
    (reported : (world.hosts host).report ≠ none) :
    (finalizeReport env host).Holds world (fun outcome after =>
      (after.hosts host).records = (world.hosts host).records ∨
        (∃ report, outcome = .ok report) ∧
          (world.hosts host).Concluded (after.hosts host)) := by
  unfold finalizeReport
  rw [Exec.holds_bind, Exec.holds_read, Exec.then_ok]
  obtain ⟨items, present⟩ := Option.ne_none_iff_exists'.mp reported
  simp only [present]
  refine (callOut_ticks env _ _).bind (fun _ _ same => .inl (same ▸ rfl)) ?_
  rintro _ _ rfl
  split
  · exact .inl rfl
  · refine (callOut_ticks env _ _).bind (fun _ _ same => .inl (same ▸ rfl)) ?_
    rintro _ _ rfl
    have recorded := (@recordResult_returns env world.ticked.ticked host (some "terminate") {}
      publishes reported).and (recordResult_results (some "terminate") {})
    refine recorded.bind (fun _ _ done => nomatch done.1.1) ?_
    rintro _ after ⟨_, _, results⟩
    refine .inr ⟨⟨_, rfl⟩, ?_⟩
    have kept : ((after.setHost host fun entry => { entry with report := none }).hosts
        host).results = (after.hosts host).results := setHost_view Host.results rfl host
    exact kept.trans results

theorem monitorCleanup_sameRecords (forget : Bool) :
    (monitorCleanup env host forget).Within (sameRecords host) := by
  unfold monitorCleanup
  refine Exec.within_bind (Exec.within_read _) fun _ => Exec.within_whenSome _ fun _ => ?_
  refine Exec.within_bind (Exec.within_require _) fun _ => ?_
  refine Exec.within_bind (callOut_sameRecords _) fun _ => ?_
  exact Exec.within_bind (Exec.within_when (callOut_sameRecords _)) fun _ =>
    setHost_sameRecords fun _ _ => rfl

/-- The records of a terminated host are as before, or its termination is one
of them. -/
def Host.Ends (entry : Host) {β : Type} (outcome : Except Exc β) (after : Host) : Prop :=
  after.records = entry.records ∨ (∃ value, outcome = .ok value) ∧ entry.Concluded after

theorem Host.Ends.congr {β : Type} {entry other after : Host} {outcome : Except Exc β}
    (ends : other.Ends outcome after) (same : other.records = entry.records) :
    entry.Ends outcome after := by
  refine ends.imp (fun kept => kept.trans same) fun ⟨returned, concluded⟩ => ⟨returned, ?_⟩
  have results : other.results = entry.results := congrArg Prod.fst same
  unfold Host.Concluded at concluded ⊢
  rw [concluded, results]

theorem terminateHost_records
    (publishes : ∀ state, env.fault state (.publishResult host) = none)
    (reported : (world.hosts host).report ≠ none) :
    (terminateHost env host).Holds world (fun outcome after =>
      (world.hosts host).Ends outcome (after.hosts host)) := by
  have same : ∀ {program : Run Unit} {next : Unit → Run DeviceReport} {state : World},
      program.Within (sameRecords host) → (state.hosts host).records = (world.hosts host).records →
      (∀ value reached, (reached.hosts host).records = (world.hosts host).records →
        (next value).Holds reached (fun outcome after =>
          (world.hosts host).Ends outcome (after.hosts host))) →
      (program >>= next).Holds state (fun outcome after =>
        (world.hosts host).Ends outcome (after.hosts host)) := by
    intro program next state within before tail
    refine (within.holds state).bind ?_ fun value reached kept => tail value reached ?_
    · exact fun _ _ kept => .inl (Eq.trans kept before)
    · exact Eq.trans kept before
  unfold terminateHost
  refine same (setHost_sameRecords fun _ _ => rfl) rfl fun _ _ before => ?_
  refine same ?_ before fun _ _ before => ?_
  · unfold stateTransition
    refine Exec.within_bind (Exec.within_read _) fun _ => ?_
    refine Exec.within_bind (Exec.within_require _) fun _ => ?_
    exact Exec.within_bind (Exec.within_require _) fun _ => setHost_sameRecords fun _ _ => rfl
  refine same (callOut_sameRecords _) before fun _ _ before => ?_
  refine same (monitorCleanup_sameRecords _) before fun _ state before => ?_
  rw [Exec.holds_bind, Exec.holds_read, Exec.then_ok]
  refine same (Exec.within_when (callOut_sameRecords _)) before fun _ _ before => ?_
  refine same (Exec.within_when (Exec.within_attempt ?_ fun _ => Exec.within_pure _)) before
    fun _ last before => ?_
  · exact Exec.within_bind (callOut_sameRecords _) fun _ => setHost_sameRecords fun _ _ => rfl
  have report : (last.hosts host).report = (world.hosts host).report :=
    congrArg (fun records => records.2.2) before
  exact (finalizeReport_records publishes (report ▸ reported)).mono fun _ _ ends =>
    Host.Ends.congr ends before

theorem within_sameRecords {α : Type} {program : Run α} (within : program.Within sameHosts) :
    program.Within (sameRecords host) :=
  within.mono fun _ _ same =>
    congrArg (fun hosts : (HostId → Host) × _ => (hosts.1 host).records) same

theorem sendDeviceResult_returns (hosted : (world.device device).host ≠ none)
    (testResults : Option DeviceReport) :
    (sendDeviceResult env device testResults).Holds world (fun outcome after =>
      outcome = .ok () ∧ after.hosts = world.hosts) := by
  unfold sendDeviceResult
  rw [Exec.holds_ite]
  refine ⟨fun _ => ?_, fun _ => ⟨rfl, rfl⟩⟩
  rw [Exec.holds_bind, Exec.holds_get, Exec.then_ok]
  split
  · exact ⟨rfl, deliverResult_hosts _ _ _ _⟩
  · rename_i unhosted
    exact absurd unhosted hosted
  · exact ⟨rfl, deliverResult_hosts _ _ _ _⟩

theorem releaseDevice_records
    (publishes : ∀ state, env.fault state (.publishResult host) = none)
    (regular : world.Regular env) (hosted : (world.device device).host = some host)
    (reported : (world.hosts host).report ≠ none) :
    (releaseDevice env device host).Holds world (fun outcome after =>
      (world.hosts host).Ends outcome (after.hosts host)) := by
  unfold releaseDevice
  rw [Exec.holds_bind, Exec.holds_get, Exec.then_ok]
  have undirected : (Exec.when (Truthy (world.portInfo device).portNo)
      (directPortTraffic env device ((world.portInfo device).portNo.getD 0) none)).Within
        topologyOnly :=
    Exec.within_when (directPortTraffic_topologyOnly _ _ _)
  refine (undirected.holds world).bind (fun _ after same => .inl ?_) fun _ first same => ?_
  · exact congrArg (fun hosts : HostId → Host => (hosts host).records)
      (congrArg World.hosts same :)
  have hosts : first.hosts = world.hosts := (congrArg World.hosts same :)
  have stays : (first.device device).host = some host :=
    (congrFun (congrArg World.Roll.host (roll_of_offline same)) device).trans hosted
  have regular := regular.of_hosts hosts
  have detached := ((@within_sameRecords host _ _ (@detachGateway_sameHosts env device)).holds first).and
    ((@detachGateway_steady env device).holds first)
  refine detached.bind (fun _ _ done => .inl ?_) fun _ second done => ?_
  · exact Eq.trans done.1 (congrArg (fun hosts : HostId → Host => (hosts host).records) hosts)
  obtain ⟨records, steady⟩ := done
  obtain ⟨steady, regular⟩ := steady regular
  have same : (second.hosts host).records = (world.hosts host).records :=
    Eq.trans records (congrArg (fun hosts : HostId → Host => (hosts host).records) hosts)
  have stays : (second.device device).host = some host :=
    (congrFun (congrArg World.Roll.host steady) device).trans stays
  have report : (second.hosts host).report = (world.hosts host).report :=
    congrArg (fun records => records.2.2) same
  have terminated := (@terminateHost_records env host second publishes (report ▸ reported)).and
    ((@terminateHost_sameRoll env host).holds second)
  refine terminated.bind (fun _ _ done => ?_) fun report third done => ?_
  · rcases Host.Ends.congr done.1 same with kept | ⟨⟨_, impossible⟩, _⟩
    · exact .inl kept
    · cases impossible
  obtain ⟨ends, roll⟩ := done
  have stays : (third.device device).host = some host :=
    (congrFun (congrArg World.Roll.host (roll regular).1) device).trans stays
  refine (sendDeviceResult_returns (stays ▸ nofun) _).mono ?_
  rintro outcome after ⟨rfl, hosts⟩
  rw [hosts]
  exact (Host.Ends.congr ends same).imp_right fun concluded => ⟨⟨_, rfl⟩, concluded.2⟩

theorem targetSetCancel_records
    (publishes : ∀ state, env.fault state (.publishResult host) = none)
    (regular : world.Regular env) (hosted : (world.device device).host = some host)
    (reported : (world.hosts host).report ≠ none) :
    (targetSetCancel env device).Holds world (fun outcome after =>
      (world.hosts host).Ends outcome (after.hosts host)) := by
  unfold targetSetCancel
  rw [Exec.holds_bind, Exec.holds_modify, Exec.then_ok, Exec.holds_bind, Exec.holds_get,
    Exec.then_ok, Exec.holds_whenSome]
  refine ⟨fun unhosted => absurd (hosted.symm.trans unhosted) nofun, fun other same => ?_⟩
  cases hosted.symm.trans same
  rw [Exec.holds_ite]
  refine ⟨fun _ => ?_, fun _ => ?_⟩
  · exact ((within_sameRecords (lingerResult_sameHosts _ _)).holds _).mono fun _ _ kept => .inl kept
  · exact @releaseDevice_records env device host
      { world with
        targetSetQueue := world.targetSetQueue.erase device
        trail := world.trail ++ [.cancelled device] } publishes regular hosted
      reported

theorem targetSetCancel_steady (device : DeviceId) :
    (targetSetCancel env device).Within (sameSteady env) := by
  unfold targetSetCancel releaseDevice lingerResult
  refine Exec.within_bind (Exec.within_modify fun world regular => ⟨rfl, regular⟩) fun _ => ?_
  refine Exec.within_bind Exec.within_get fun world => Exec.within_whenSome _ fun host => ?_
  refine Exec.within_ite ?_ ?_
  · refine Exec.within_bind (Exec.within_when (within_sameSteady (activatePort_sameRoll _)))
      fun _ => ?_
    split
    · exact Exec.within_raise _
    · exact within_sameSteady (modify_sameRoll (fun _ => rfl) fun _ => rfl)
  · refine Exec.within_bind Exec.within_get fun _ => ?_
    refine Exec.within_bind (Exec.within_when (within_sameSteady
      (within_sameRoll_of_topologyOnly (directPortTraffic_topologyOnly _ _ _)))) fun _ => ?_
    refine Exec.within_bind (detachGateway_steady device) fun _ => ?_
    refine Exec.within_bind (within_sameSteady (terminateHost_sameRoll host)) fun _ => ?_
    exact within_sameSteady (sendDeviceResult_sameRoll device _)

/-- The cancellation of a device, with what becomes of an exception. -/
def cancelling (env : Env) (device : DeviceId) : Run Unit :=
  Exec.attempt (targetSetCancel env device) fun raised => do
    let host ← Exec.read fun world => (world.device device).host
    match host with
    | none => Exec.raise (.attributeError "'NoneType' object has no attribute 'record_result'")
    | some host => recordException env host raised

/-- Cancelling returns; the host's results are as they were, or with its
termination, or with an exception under the test it was at. -/
theorem cancelling_holds (publishes : ∀ state, env.fault state (.publishResult host) = none)
    (regular : world.Regular env) (hosted : (world.device device).host = some host)
    (reported : (world.hosts host).report ≠ none) :
    (cancelling env device).Holds world (fun outcome after => outcome = .ok () ∧
      (after.device device).host = some host ∧
      ((after.hosts host).results = (world.hosts host).results ∨
        (world.hosts host).Concluded (after.hosts host) ∨
        ∃ raised : Exc, (after.hosts host).results =
          (world.hosts host).withResult (world.hosts host).testName
            { exception := some raised })) := by
  have cancelled := (targetSetCancel_records publishes regular hosted reported).and
    ((@targetSetCancel_steady env device).holds world)
  unfold cancelling
  refine cancelled.attempt ?_ ?_
  · rintro _ after ⟨ends, steady⟩
    have stays : (after.device device).host = some host :=
      (congrFun (congrArg World.Roll.host (steady regular).1) device).trans hosted
    refine ⟨rfl, stays, ?_⟩
    rcases ends with same | ⟨_, concluded⟩
    · exact .inl (congrArg Prod.fst same)
    · exact .inr (.inl concluded)
  · rintro raised middle ⟨ends, steady⟩
    have stays : (middle.device device).host = some host :=
      (congrFun (congrArg World.Roll.host (steady regular).1) device).trans hosted
    rcases ends with same | ⟨⟨_, impossible⟩, _⟩
    · have results : (middle.hosts host).results = (world.hosts host).results :=
        congrArg Prod.fst same
      have name : (middle.hosts host).testName = (world.hosts host).testName :=
        congrArg (fun records => records.2.1) same
      have report : (middle.hosts host).report = (world.hosts host).report :=
        congrArg (fun records => records.2.2) same
      rw [Exec.holds_bind, Exec.holds_read, Exec.then_ok]
      simp only [stays]
      have recorded := (@recordResult_returns env middle host (middle.hosts host).testName
        { exception := some raised } publishes (report ▸ reported)).and
          (recordResult_results (middle.hosts host).testName { exception := some raised })
      unfold recordException
      rw [Exec.holds_bind, Exec.holds_read, Exec.then_ok]
      refine recorded.mono ?_
      rintro outcome after ⟨⟨returned, kept⟩, _, stored⟩
      refine ⟨returned, ?_, .inr (.inr ⟨raised, ?_⟩)⟩
      · have devices : after.devices = middle.devices := kept.devices
        unfold World.device
        rw [devices]
        exact stays
      · rw [stored]
        unfold Host.withResult
        rw [results, name]
    · cases impossible

theorem cancelling_succeeds (device : DeviceId) : (cancelling env device).Within (succeeds env) := by
  refine Exec.within_attempt (targetSetCancel_succeeds device) fun raised => ?_
  refine Exec.within_bind (Exec.within_read _) fun host => ?_
  split
  · exact Exec.within_raise _
  · exact recordException_succeeds _ raised

theorem cancelling_retains {device : DeviceId} :
    (cancelling env device).Within (retains host) := by
  refine Exec.within_attempt (retains_rule.targetSetCancel device) fun raised => ?_
  refine Exec.within_bind (Exec.within_read _) fun _ => ?_
  split
  · exact Exec.within_raise _
  · exact recordException_retains raised

/-- A host whose report is finalized stores an exception and then raises. -/
theorem recordException_closed (raised : Exc) (closed : (world.hosts host).report = none)
    (named : NonEmpty (world.hosts host).testName) :
    (recordException env host raised).Holds world (fun outcome _ =>
      ∃ other, outcome = .error other) := by
  unfold recordException recordResult
  rw [Exec.holds_bind, Exec.holds_read, Exec.then_ok, Exec.holds_bind, Exec.holds_modify,
    Exec.then_ok, Exec.holds_when]
  refine ⟨fun _ => ?_, fun unnamed => absurd named unnamed⟩
  have published := (@publishResult_hostRecord env host (world.hosts host).testName
    { exception := some raised }).holds (world.setHost host fun entry =>
      { entry with testName := (world.hosts host).testName })
  refine published.bind (fun other _ _ => ⟨other, rfl⟩) fun _ middle kept => ?_
  have still : (middle.hosts host).report = none := by
    refine (report_of_unrecorded kept.inside).mpr ?_
    rw [setHost_hosts, if_pos rfl]
    exact closed
  rw [Exec.holds_bind]
  simp only [Exec.whenSome]
  unfold accumulate
  rw [Exec.holds_bind, Exec.holds_read, Exec.then_ok]
  simp only [still]
  exact ⟨_, rfl⟩

/-- There is a name to file an exception of the device's host under, or a
failure is on record already. -/
def OnRecord (device : DeviceId) (host : HostId) (world : World) : Prop :=
  if (world.hosts host).report = none then
    world.resultSets.get? device = some (.host host) ∨ Filed device world
  else
    (NonEmpty (world.hosts host).testName ∧ (world.hosts host).testName ≠ some "terminate") ∨
      ∃ key, key ≠ "terminate" ∧ FailsUnder (world.hosts host).results key

/-- No test shares its name with the termination. -/
def Unmistakable (host : HostId) (world : World) : Prop :=
  (world.hosts host).report ≠ none → (world.hosts host).testName ≠ some "terminate" ∧
    ¬ FailsUnder (world.hosts host).results "terminate"

/-- An exception for a host that has finalized its report is stored with the
results the runner may have kept already. -/
theorem targetSetError_closed (orderly : Orderly env world)
    (hosted : (world.device device).host = some host)
    (closed : (world.hosts host).report = none) (drain : Run Unit) (raised : Exc) :
    (targetSetError env drain device raised).Holds world (fun _ after =>
      Filed device after ↔ OnRecord device host world) := by
  have named : (world.hosts host).testName = some "terminate" :=
    ((orderly.regular host).closed closed).2.1
  have nonempty : NonEmpty (world.hosts host).testName := named ▸ (by decide : NonEmpty (some _))
  unfold targetSetError
  rw [Exec.holds_bind, Exec.holds_read, Exec.then_ok]
  simp only [hosted]
  have recorded := ((recordException_closed raised closed nonempty).and
    (@recordException_results env host world raised)).and
      ((recordException_hostRecord host raised).holds world)
  refine recorded.bind ?_ (fun _ _ done => ?_)
  · rintro other after ⟨⟨_, _, results⟩, kept⟩
    have sets : after.resultSets = world.resultSets :=
      (congrArg World.resultSets kept.outside :)
    have fails : FailsUnder (after.hosts host).results "terminate" := by
      rw [results]
      unfold Host.withResult
      rw [if_pos nonempty, named]
      exact ⟨_, Dict.get?_insert_self _ _ _, exception_fails _ raised⟩
    unfold OnRecord
    rw [if_pos closed, filed_iff, filed_iff, sets]
    constructor
    · rintro ⟨set, stored, key, bad⟩
      by_cases own : set = .host host
      · exact .inl (own ▸ stored)
      · refine .inr ⟨set, stored, key, ?_⟩
        cases set with
        | exception message => exact bad
        | host other =>
            have different : other ≠ host := fun same => own (same ▸ rfl)
            have same : (after.hosts other).results = (world.hosts other).results :=
              congrArg Host.results (kept.others other different)
            exact (congrArg (fun results => FailsUnder results key) same).mp bad
    · rintro (stored | ⟨set, stored, key, bad⟩)
      · exact ⟨_, stored, "terminate", fails⟩
      · by_cases own : set = .host host
        · exact ⟨set, stored, "terminate", own ▸ fails⟩
        · refine ⟨set, stored, key, ?_⟩
          cases set with
          | exception message => exact bad
          | host other =>
              have different : other ≠ host := fun same => own (same ▸ rfl)
              have same : (after.hosts other).results = (world.hosts other).results :=
                congrArg Host.results (kept.others other different)
              exact (congrArg (fun results => FailsUnder results key) same).mpr bad
  · obtain ⟨⟨⟨_, impossible⟩, _⟩, _⟩ := done
    cases impossible

/-- Recording an exception of a host and cancelling its device leave a failure
on record exactly if there was a name for it, or one was on record already. -/
theorem recordException_cancelling
    (publishes : ∀ state, env.fault state (.publishResult host) = none)
    (orderly : Orderly env world) (hosted : (world.device device).host = some host)
    (reported : (world.hosts host).report ≠ none) (raised : Exc) :
    (do
      recordException env host raised
      cancelling env device : Run Unit).Holds world (fun outcome after =>
        outcome = .ok () ∧ Orderly env after ∧ (after.device device).host = some host ∧
        (OnRecord device host world →
          ∃ key, key ≠ "terminate" ∧ FailsUnder (after.hosts host).results key) ∧
        (Unmistakable host world → (∃ key, FailsUnder (after.hosts host).results key) →
          OnRecord device host world)) := by
  have recorded := (((recordException_returns publishes reported raised).and
    (recordException_results raised)).and ((@recordException_succeeds env none host
      raised).holds world)).and ((@recordException_retains env host host raised).holds world)
  refine recorded.bind (fun _ _ done => nomatch done.1.1.1.1) ?_
  rintro _ middle ⟨⟨⟨⟨_, kept⟩, name, results⟩, succession⟩, retained⟩
  have devices : middle.devices = world.devices := kept.devices
  have still : (middle.device device).host = some host := by
    unfold World.device
    rw [devices]
    exact hosted
  have open_ : (middle.hosts host).report ≠ none :=
    fun closed => reported ((report_of_unrecorded kept.inside).mp closed)
  have regular := (succession orderly).orderly.regular
  have cancelled := ((cancelling_holds publishes regular still open_).and
    ((cancelling_succeeds device).holds middle)).and
      ((@cancelling_retains env host device).holds middle)
  refine cancelled.mono ?_
  rintro _ after ⟨⟨⟨rfl, hosted, outcome⟩, next⟩, kept⟩
  refine ⟨rfl, (next (succession orderly).orderly).orderly, hosted, fun record => ?_,
    fun unmistakable => ?_⟩
  · unfold OnRecord at record
    rw [if_neg reported] at record
    rcases record with ⟨named, other⟩ | ⟨key, other, fails⟩
    · have present : (world.hosts host).testName ≠ none := by
        intro missing
        rw [missing] at named
        exact named rfl
      obtain ⟨text, present⟩ := Option.ne_none_iff_exists'.mp present
      have different : text ≠ "terminate" := fun same => other (same ▸ present)
      refine ⟨text, different, kept.2 text different ?_⟩
      rw [results, Host.withResult, if_pos named, present]
      exact ⟨_, Dict.get?_insert_self _ _ _, exception_fails _ raised⟩
    · exact ⟨key, other, kept.2 key other (retained.2 key other fails)⟩
  · obtain ⟨unterminated, silent⟩ := unmistakable reported
    unfold OnRecord
    rw [if_neg reported]
    contrapose!
    rintro ⟨unnamed, clean⟩ key
    have noname : ¬ NonEmpty (world.hosts host).testName :=
      fun named => unterminated (unnamed named)
    have spotless : ∀ key, ¬ FailsUnder (world.hosts host).results key := by
      intro key fails
      by_cases terminal : key = "terminate"
      · exact silent (terminal ▸ fails)
      · exact clean key terminal fails
    have same : (middle.hosts host).results = (world.hosts host).results := by
      rw [results, Host.withResult, if_neg noname]
    rcases outcome with stay | concluded | ⟨other, added⟩
    · rw [stay, same]
      exact spotless key
    · rw [concluded, same]
      rintro ⟨result, found, fails⟩
      rw [Dict.get?_insert] at found
      split at found
      · cases found
        exact fails rfl
      · exact spotless key ⟨result, found, fails⟩
    · rw [added, Host.withResult, name, if_neg noname, same]
      exact spotless key

/-- Results of a host that are finalized without an error are filed as they
are, failures and all. -/
theorem targetSetFinalize_files {drain : Run Unit} (drained : Drains (filing env device host) drain)
    (logs : ∀ state, env.fault state (.resultLog device) = none) (orderly : Orderly env world)
    (hosted : (world.device device).host = some host) :
    (targetSetFinalize env drain device (.host host)).Holds world (fun _ after =>
      ((∃ key, key ≠ "terminate" ∧ FailsUnder (world.hosts host).results key) →
        Filed device after) ∧
      (env.config.singleShot = false → Filed device after →
        ∃ key, FailsUnder (world.hosts host).results key)) := by
  have stored := ((@recordResultSet_returns env world device (.host host) (logs world)).and
    (recordResultSet_stores device (.host host) world)).and
      ((recordResultSet_sameRoll device (.host host)).holds world)
  unfold targetSetFinalize
  refine stored.bind (fun _ _ done => nomatch done.1.1) ?_
  rintro _ middle ⟨⟨_, hosts, _, kept⟩, roll⟩
  have inserted : middle.resultSets = world.resultSets.insert device (.host host) := kept rfl
  obtain ⟨same, regular⟩ := roll orderly.regular
  have succession : Succeeds env none world middle := .of_roll orderly same regular
  have still : (middle.device device).host = some host :=
    (congrFun (congrArg World.Roll.host same) device).trans hosted
  have found : middle.resultSets.get? device = some (.host host) :=
    inserted ▸ Dict.get?_insert_self _ _ _
  have removed := (removal_filing drained device).holds middle
  refine Exec.Holds.and (removed.mono fun _ after kept failing => ?_) ?_
  · obtain ⟨made, own⟩ := succession.orderly.hosted device host still
    have kept := (kept succession.orderly).2 (fun _ =>
      { made := made
        own := own
        only := fun other second => Option.some.inj (second.symm.trans still)
        failing := hosts ▸ failing
        stored := .inl found }) fun _ _ => trivial
    exact kept.filed
  · -- without a last round of events the results are as they were kept
    unfold drainSingleShot
    by_cases single : env.config.singleShot = true
    · exact fun repeated => absurd single (by simp [repeated])
    · rw [Exec.holds_bind, Exec.holds_bind, Exec.holds_get, Exec.then_ok, Exec.holds_when]
      refine ⟨fun shot => absurd shot.1 single, fun _ => ?_⟩
      rw [Exec.then_ok]
      refine (letGo_holds middle device).mono fun _ after gone _ filed => ?_
      have sets : after.resultSets = middle.resultSets :=
        (congrArg World.resultSets gone.rest :)
      obtain ⟨set, stored, key, fails⟩ := filed_iff.mp filed
      rw [sets, found] at stored
      cases stored
      refine ⟨key, ?_⟩
      rw [← hosts, ← gone.hosts]
      exact fails

/-- An error of a device with a host, whenever it comes. -/
theorem targetSetError_files (publishes : ∀ state, env.fault state (.publishResult host) = none)
    (logs : ∀ state, env.fault state (.resultLog device) = none) (orderly : Orderly env world)
    (hosted : (world.device device).host = some host) (raised : Exc) :
    (targetSetError env (handleReceivedEvents env) device raised).Holds world (fun _ after =>
      (OnRecord device host world → Filed device after ∧ finalizeRunner after = 1) ∧
      (env.config.singleShot = false → Unmistakable host world → Filed device after →
        OnRecord device host world)) := by
  have drained : Drains (filing env device host) (handleReceivedEvents env) :=
    filing_events.handleReceivedEvents
  by_cases closed : (world.hosts host).report = none
  · refine (targetSetError_closed orderly hosted closed _ raised).mono fun _ after same => ?_
    exact ⟨fun record => ⟨same.mpr record, finalizeRunner_of_filed (same.mpr record)⟩,
      fun _ _ filed => same.mp filed⟩
  · unfold targetSetError
    rw [Exec.holds_bind, Exec.holds_read, Exec.then_ok]
    simp only [hosted]
    have recorded := recordException_cancelling publishes orderly hosted closed raised
    unfold targetSetComplete
    show Exec.Holds (recordException env host raised >>= fun _ => cancelling env device >>= fun _ =>
      _) world _
    rw [← Exec.bind_assoc]
    refine recorded.bind (fun _ _ done => nomatch done.1) ?_
    rintro _ middle ⟨_, next, still, kept, needed⟩
    rw [Exec.holds_bind, Exec.holds_get, Exec.then_ok]
    simp only [still]
    refine (targetSetFinalize_files drained logs next still).mono fun _ after files => ?_
    refine ⟨fun record => ?_, fun single unmistakable filed => ?_⟩
    · have filed := files.1 (kept record)
      exact ⟨filed, finalizeRunner_of_filed filed⟩
    · exact needed unmistakable (files.2 single filed)

/-- An error of a device with a host ends in a failure on file exactly if the
host has a name to record it under, or has failed before. -/
theorem error_filed_iff_onRecord (reached : Started env world)
    (hosted : (world.device device).host = some host)
    (publishes : ∀ state, env.fault state (.publishResult host) = none)
    (logs : ∀ state, env.fault state (.resultLog device) = none) (raised : Exc) :
    (targetSetError env (handleReceivedEvents env) device raised).Holds world (fun _ after =>
      (OnRecord device host world → Filed device after ∧ finalizeRunner after = 1) ∧
      (env.config.singleShot = false → Unmistakable host world → Filed device after →
        OnRecord device host world)) :=
  targetSetError_files publishes logs (started_orderly reached) hosted raised

end Recording

/-- A device that is to be held after its base tests. -/
def holdingRun : List Command :=
  [.receive (.event (.portState 1 1 true)), .receive (.event (.portState 2 1 true)),
    .receive (.event (.portLearn 2 1 "9a:02:57:1e:8f:01" 10)), .faucet, .control 0 false, .idle,
    .dhcp 0 false { type := "ACK", mac := "9a:02:57:1e:8f:01", ip := "10.20.99.7", delta := some 0 }]

def holdsDevice : Config := { secPort := 7, noTest := true }

/-- A held device is at no test, so that an error of it is not recorded. -/
theorem not_every_error_filed :
    ¬ ∀ (env : Env) (world : World) (device : DeviceId) (host : HostId) (raised : Exc),
      Started env world → (world.device device).host = some host →
      (targetSetError env (handleReceivedEvents env) device raised).Holds world (fun _ after =>
        Filed device after ∧ finalizeRunner after = 1) := by
  intro always
  have reached : Started (.quiet holdsDevice) (runCommands (.quiet holdsDevice)
      (holdingRun ++ [.idle]) (initialWorld (.quiet holdsDevice))) :=
    started_of_commands (by decide) _
  have hosted : ((runCommands (.quiet holdsDevice) (holdingRun ++ [.idle])
      (initialWorld (.quiet holdsDevice))).device 0).host = some 0 := by decide +kernel
  have clean : finalizeRunner ((targetSetError (.quiet holdsDevice)
      (handleReceivedEvents (.quiet holdsDevice)) 0 (.daqException "port not active for 10s")).run
        (runCommands (.quiet holdsDevice) (holdingRun ++ [.idle])
          (initialWorld (.quiet holdsDevice)))).2 = 0 := by decide +kernel
  have failed := (always _ _ 0 0 (.daqException "port not active for 10s") reached hosted).2
  exact absurd (clean.symm.trans failed) (by decide)

theorem holdingRun_filed :
    (targetSetError (.quiet holdsDevice) (handleReceivedEvents (.quiet holdsDevice)) 0
      (.daqException "port not active for 10s")).Holds
        (runCommands (.quiet holdsDevice) holdingRun (initialWorld (.quiet holdsDevice)))
        (fun _ after => Filed 0 after ∧ finalizeRunner after = 1) := by
  have hosted : ((runCommands (.quiet holdsDevice) holdingRun
      (initialWorld (.quiet holdsDevice))).device 0).host = some 0 := by decide +kernel
  have name : ((runCommands (.quiet holdsDevice) holdingRun
      (initialWorld (.quiet holdsDevice))).hosts 0).testName = some "acquire" := by decide +kernel
  have reported : ((runCommands (.quiet holdsDevice) holdingRun
      (initialWorld (.quiet holdsDevice))).hosts 0).report.isSome = true := by decide +kernel
  refine (error_filed_iff_onRecord (started_of_commands (by decide) _) hosted (fun _ => rfl)
    (fun _ => rfl) _).mono fun _ _ files => files.1 ?_
  unfold OnRecord
  rw [if_neg (Option.isSome_iff_ne_none.mp reported), name]
  exact .inl ⟨by decide, by decide⟩

/-- A module that cannot be made fails a device with one test in the same way. -/
example :
    let env : Env := { Env.quiet { secPort := 7, testList := ["pass"] } with
      fault := fun _ op => if op = .newTest 0 then some (.exception "no such module") else none }
    let world := runCommands env
      (holdingRun.filter (fun | .control .. => false | _ => true) ++ [.idle]) (initialWorld env)
    world.resultSets.get? 0 = some (.host 0) ∧ finalizeRunner world = 0 := by decide +kernel

end Daq
