import Daq.Runner.Invariant

namespace Daq

variable {env : Env}

/-! How many devices run, and which devices wait for their turn. -/

structure World.Capacious (world : World) (env : Env) : Prop where
  bounded : Truthy env.config.maxHosts →
    (getTriggeredDevices world).length ≤ env.config.maxHosts.getD 0
  queued : ∀ device ∈ world.targetSetQueue,
    world.Registered device ∧ (world.device device).gateway = none
  /-- A registered device that has a gateway is running. -/
  attached : ∀ device, world.Registered device → (world.device device).gateway ≠ none →
    (world.device device).host ≠ none

/-- Pending events are only processed for a failed device that ran or has no
gateway. -/
def Mishap.RanBefore : Mishap → Prop
  | .drained _ hostless => hostless = false
  | .portTaken _ => True

/-- The result log can be written for a device that did not run. -/
def Env.LogsUnstarted (env : Env) : Prop :=
  ∀ world device, (world.device device).host = none → env.fault world (.resultLog device) = none

namespace World.Capacious

variable {before after world : World} {device : DeviceId}

theorem of_roll (same : after.roll = before.roll) (capacious : before.Capacious env) :
    after.Capacious env := by
  have table : after.devices.table = before.devices.table := congrArg World.Roll.table same
  have queue : after.targetSetQueue = before.targetSetQueue := congrArg World.Roll.queue same
  have mac : ∀ device, (after.device device).mac = (before.device device).mac :=
    congrFun (congrArg World.Roll.mac same)
  have hosts : ∀ device, (after.device device).host = (before.device device).host :=
    congrFun (congrArg World.Roll.host same)
  have gateways : ∀ device, (after.device device).gateway = (before.device device).gateway :=
    congrFun (congrArg World.Roll.gateway same)
  constructor
  case bounded =>
    unfold getTriggeredDevices registeredDevices
    simp only [table, hosts]
    exact capacious.bounded
  case queued =>
    unfold World.Registered
    simp only [table, queue, mac, gateways]
    exact capacious.queued
  case attached =>
    unfold World.Registered
    simp only [table, mac, hosts, gateways]
    exact capacious.attached

theorem dequeued (capacious : world.Capacious env) (device : DeviceId)
    (history : List Happening) :
    ({ world with
      targetSetQueue := world.targetSetQueue.erase device
      trail := history } : World).Capacious env where
  bounded := capacious.bounded
  queued := fun other member => capacious.queued other (List.mem_of_mem_erase member)
  attached := capacious.attached

theorem enqueued (capacious : world.Capacious env) (registered : world.Registered device)
    (free : (world.device device).host = none) :
    ({ world with targetSetQueue := world.targetSetQueue ++ [device] } : World).Capacious env where
  bounded := capacious.bounded
  queued := by
    intro other member
    rcases List.mem_append.mp member with old | new
    · exact capacious.queued other old
    · cases List.mem_singleton.mp new
      refine ⟨registered, ?_⟩
      by_contra attached
      exact capacious.attached device registered attached free
  attached := capacious.attached

theorem ungated (capacious : world.Capacious env) (device : DeviceId) :
    (world.setDevice device fun entry => { entry with gateway := none }).Capacious env := by
  have mac : ∀ other, ((world.setDevice device fun entry =>
      { entry with gateway := none }).device other).mac = (world.device other).mac :=
    setDevice_view Device.mac rfl
  have host : ∀ other, ((world.setDevice device fun entry =>
      { entry with gateway := none }).device other).host = (world.device other).host :=
    setDevice_view Device.host rfl
  have gateway : ∀ other, ((world.setDevice device fun entry =>
      { entry with gateway := none }).device other).gateway ≠ none →
      (world.device other).gateway ≠ none := by
    intro other
    rw [setDevice_device]
    split
    · exact fun present => absurd rfl present
    · exact id
  constructor
  case bounded =>
    unfold getTriggeredDevices registeredDevices
    simp only [host]
    exact capacious.bounded
  case queued =>
    intro other member
    obtain ⟨registered, free⟩ := capacious.queued other member
    refine ⟨?_, not_not.mp (mt (gateway other) (not_not_intro free))⟩
    unfold World.Registered
    rw [mac]
    exact registered
  case attached =>
    intro other registered present
    unfold World.Registered at registered
    rw [mac] at registered
    rw [host]
    exact capacious.attached other registered (gateway other present)

/-- A device that is let go was not queued. -/
theorem letGo (capacious : before.Capacious env) (gone : LetGo device before after)
    (unqueued : device ∉ before.targetSetQueue) : after.Capacious env := by
  have queue : after.targetSetQueue = before.targetSetQueue :=
    (congrArg World.targetSetQueue gone.rest :)
  constructor
  case bounded =>
    intro limited
    refine le_trans (List.Sublist.length_le ?_) (capacious.bounded limited)
    refine (gone.values.filter _).trans (List.monotone_filter_right _ fun other => ?_)
    by_cases same : other = device
    · subst same
      rw [gone.entry]
      nofun
    · rw [gone.others other same]
      exact id
  case queued =>
    intro other member
    rw [queue] at member
    have different : other ≠ device := fun same => unqueued (same ▸ member)
    rw [gone.registered_iff different, gone.others other different]
    exact capacious.queued other member
  case attached =>
    intro other registered
    have different : other ≠ device := fun same => gone.gone (same ▸ registered)
    rw [gone.others other different]
    exact capacious.attached other ((gone.registered_iff different).mp registered)

theorem entered {mac : Mac} {port : Option PortId} {vlan : Option Nat} (orderly : Orderly env before)
    (capacious : before.Capacious env) (entered : Entered mac port vlan before after) :
    after.Capacious env := by
  obtain ⟨setId, entry, _⟩ := entered.entry
  have queue : after.targetSetQueue = before.targetSetQueue :=
    (congrArg World.targetSetQueue entered.rest :)
  have old : ∀ other < before.devices.next, after.device other = before.device other :=
    fun other made => entered.others other (Nat.ne_of_lt made)
  constructor
  case bounded =>
    have values : after.devices.table.values =
        before.devices.table.values ++ [before.devices.next] := by
      rw [entered.table, Dict.values_insert_of_absent _ entered.absent]
    have same : getTriggeredDevices after = getTriggeredDevices before := by
      unfold getTriggeredDevices registeredDevices
      rw [values, List.filter_append]
      have fresh : [before.devices.next].filter
          (fun other => (after.device other).host.isSome) = [] := by
        simp [entry]
      rw [fresh, List.append_nil]
      refine List.filter_congr fun other member => ?_
      rw [old other (orderly.lt_of_registered (orderly.registered_of_mem member))]
    rw [same]
    exact capacious.bounded
  case queued =>
    intro other member
    rw [queue] at member
    have made := (orderly.waiting other member).1
    rw [entered.registered_iff made, old other made]
    exact capacious.queued other member
  case attached =>
    intro other present
    by_cases fresh : other = before.devices.next
    · rw [fresh, entry]
      exact fun attached => absurd rfl attached
    · have stored : before.Registered other := by
        unfold World.Registered at present ⊢
        rw [entered.others other fresh, entered.table, Dict.get?_insert] at present
        split at present
        · exact absurd (Option.some.inj present).symm fresh
        · exact present
      rw [entered.others other fresh]
      exact capacious.attached other stored

end World.Capacious

/-- Succession with a bounded number of running devices and a proper queue. -/
def spacing (env : Env) : Frame World :=
  upholding env Mishap.RanBefore fun world => world.Capacious env

section Teardown

variable {α : Type} {program : Run α} {world : World} {device : DeviceId}

theorem within_spacing (within : program.Within (sameRoll env)) : program.Within (spacing env) :=
  within_upholding_of_sameRoll (fun _ _ same => .of_roll same) within

theorem modify_spacing {update : World → World}
    (succession : (Exec.modify update : Run Unit).Within (succeeds env))
    (kept : ∀ world : World, world.Capacious env → (update world).Capacious env) :
    (Exec.modify update : Run Unit).Within (spacing env) := by
  intro world orderly
  have succeeds := succession world orderly
  exact ⟨succeeds, fun holds fine => kept world (holds (Upheld.of_succeeds succeeds fine))⟩

theorem detachGateway_spacing (device : DeviceId) :
    (detachGateway env device).Within (spacing env) := by
  unfold detachGateway
  refine Exec.within_bind (Exec.within_read _) fun _ => Exec.within_whenSome _ fun gateway => ?_
  refine Exec.within_bind (within_spacing (detachTarget_sameRoll gateway device)) fun _ => ?_
  refine Exec.within_bind (Exec.within_when
    (within_spacing (retireGateway_sameRoll gateway device))) fun _ => ?_
  exact modify_spacing (setDevice_ungated device) fun _ capacious => capacious.ungated device

theorem targetSetCancel_spacing (device : DeviceId) :
    (targetSetCancel env device).Within (spacing env) := by
  unfold targetSetCancel
  refine Exec.within_bind (modify_spacing (dequeue_succeeds device _) fun _ capacious =>
    capacious.dequeued device _) fun _ => ?_
  refine Exec.within_bind Exec.within_get fun world => Exec.within_whenSome _ fun host => ?_
  refine Exec.within_ite ?_ ?_
  · unfold lingerResult
    refine Exec.within_bind (Exec.within_when (within_spacing (activatePort_sameRoll _)))
      fun _ => ?_
    split
    · exact Exec.within_raise _
    · exact within_spacing (modify_sameRoll (fun _ => rfl) fun _ => rfl)
  · unfold releaseDevice
    refine Exec.within_bind Exec.within_get fun _ => ?_
    refine Exec.within_bind (Exec.within_when (within_spacing
      (within_sameRoll_of_topologyOnly (directPortTraffic_topologyOnly _ _ _)))) fun _ => ?_
    refine Exec.within_bind (detachGateway_spacing device) fun _ => ?_
    refine Exec.within_bind (within_spacing (terminateHost_sameRoll host)) fun _ => ?_
    exact within_spacing (sendDeviceResult_sameRoll device _)

theorem recordException_spacing (host : HostId) (raised : Exc) :
    (recordException env host raised).Within (spacing env) :=
  within_spacing (within_sameRoll_of_advances (within_advances (recordException_stays raised)))

theorem noteDrain_capacious (capacious : world.Capacious env) :
    (noteDrain device world).Capacious env := by
  unfold noteDrain
  split
  · exact ⟨capacious.bounded, capacious.queued, capacious.attached⟩
  · exact capacious

/-- Programs that serve an engaged device. -/
def servingSpaced (env : Env) (device : DeviceId) : Frame World :=
  serving env Mishap.RanBefore (fun world => world.Capacious env) device

variable {drain : Run Unit} (drained : Drains (spacing env) drain)
include drained

theorem targetSetFinalize_spacing (device : DeviceId) (resultSet : ResultSet) :
    (targetSetFinalize env drain device resultSet).Within (servingSpaced env device) := by
  unfold targetSetFinalize drainSingleShot
  refine Exec.within_bind (within_serving
    (within_spacing (recordResultSet_sameRoll device resultSet))) fun _ => ?_
  refine Exec.within_bind (within_serving ?_) fun _ => ?_
  · refine Exec.within_bind Exec.within_get fun _ => Exec.within_when ?_
    refine Exec.within_bind (modify_spacing (noteDrain_succeeds device) fun _ capacious =>
      noteDrain_capacious capacious) fun _ => ?_
    refine Exec.within_bind drained.within fun _ => ?_
    exact within_spacing (modify_sameRoll (fun _ => rfl) fun _ => rfl)
  · intro world _ engaged orderly
    have letGo := letGo_holds world device
    have succession : Succeeds env none world _ := LetGo.succeeds letGo orderly
    refine ⟨succession, fun holds fine => ?_⟩
    exact (holds (Upheld.of_succeeds succession fine)).letGo letGo
      (orderly.unqueued_of_engaged engaged)

theorem targetSetComplete_spacing (device : DeviceId) :
    (targetSetComplete env drain device).Within (servingSpaced env device) := by
  unfold targetSetComplete
  refine Exec.within_bind (within_serving ?_) fun _ => ?_
  · refine Exec.within_attempt (targetSetCancel_spacing device) fun raised => ?_
    refine Exec.within_bind (Exec.within_read _) fun host => ?_
    split
    · exact Exec.within_raise _
    · exact recordException_spacing _ raised
  · refine Exec.within_bind Exec.within_get fun world => ?_
    split
    · exact Exec.within_raise _
    · exact targetSetFinalize_spacing drained device _

theorem targetSetError_spacing (device : DeviceId) (raised : Exc) :
    (targetSetError env drain device raised).Within (servingSpaced env device) := by
  unfold targetSetError
  refine Exec.within_bind (Exec.within_read _) fun host => ?_
  split
  · exact Exec.within_bind (within_serving (recordException_spacing _ raised)) fun _ =>
      targetSetComplete_spacing drained device
  · refine Exec.within_bind (targetSetFinalize_spacing drained device _) fun _ => within_serving ?_
    exact Exec.within_bind (within_spacing (sendDeviceResult_sameRoll device none)) fun _ =>
      detachGateway_spacing device

end Teardown

section Bringing

variable {world : World} {device : DeviceId}

/-- The device is about to get a host, for which there is room. -/
structure Joining (env : Env) (device : DeviceId) (world : World) : Prop
    extends Unserved world device where
  orderly : Orderly env world
  free : (world.device device).host = none
  gateway : (world.device device).gateway ≠ none
  room : TargetSetHasCapacity env world
  queued : ∀ other ∈ world.targetSetQueue,
    world.Registered other ∧ (world.device other).gateway = none
  attached : ∀ other, other ≠ device → world.Registered other →
    (world.device other).gateway ≠ none → (world.device other).host ≠ none

/-- One more device runs. -/
theorem triggered_hosted (orderly : Orderly env world) :
    (getTriggeredDevices (world.hosted env device)).length ≤
      (getTriggeredDevices world).length + 1 := by
  have distinct : (getTriggeredDevices (world.hosted env device)).Nodup :=
    List.filter_sublist.nodup orderly.registered_nodup
  have subset : getTriggeredDevices (world.hosted env device) ⊆
      device :: getTriggeredDevices world := by
    intro other member
    by_cases same : other = device
    · exact same ▸ .head _
    · obtain ⟨listed, running⟩ := List.mem_filter.mp member
      rw [hosted_other same] at running
      exact .tail _ (List.mem_filter.mpr ⟨listed, running⟩)
  exact (distinct.subperm subset).length_le

namespace Joining

theorem hosted (joining : Joining env device world) :
    (world.hosted env device).Capacious env := by
  constructor
  case bounded =>
    intro limited
    rcases joining.room with unlimited | room
    · exact absurd limited unlimited
    · exact (triggered_hosted joining.orderly).trans room
  case queued =>
    intro other member
    have different : other ≠ device := fun same => joining.unqueued (same ▸ member)
    rw [hosted_registered, hosted_other different]
    exact joining.queued other member
  case attached =>
    intro other known present
    by_cases same : other = device
    · rw [same, hosted_entry]
      nofun
    · rw [hosted_other same] at present ⊢
      exact joining.attached other same ((hosted_registered other).mp known) present

/-- The device is let go without having run. -/
theorem letGo (joining : Joining env device world) {middle after : World}
    (same : middle.roll = world.roll) (gone : LetGo device middle after) :
    after.Capacious env := by
  have table : middle.devices.table = world.devices.table := congrArg World.Roll.table same
  have queue : after.targetSetQueue = world.targetSetQueue :=
    (congrArg World.targetSetQueue gone.rest :).trans (congrArg World.Roll.queue same)
  have mac : ∀ other, (middle.device other).mac = (world.device other).mac :=
    congrFun (congrArg World.Roll.mac same)
  have host : ∀ other, (middle.device other).host = (world.device other).host :=
    congrFun (congrArg World.Roll.host same)
  have gateway : ∀ other, (middle.device other).gateway = (world.device other).gateway :=
    congrFun (congrArg World.Roll.gateway same)
  have registered : ∀ other, other ≠ device → (after.Registered other ↔ world.Registered other) := by
    intro other different
    rw [gone.registered_iff different]
    unfold World.Registered
    rw [table, mac]
  constructor
  case bounded =>
    intro limited
    rcases joining.room with unlimited | room
    · exact absurd limited unlimited
    · have fewer : (getTriggeredDevices after).Sublist (getTriggeredDevices world) := by
        unfold getTriggeredDevices registeredDevices
        rw [← table]
        refine (gone.values.filter _).trans (List.monotone_filter_right _ fun other => ?_)
        by_cases same : other = device
        · rw [same, gone.entry]
          nofun
        · rw [gone.others other same, host]
          exact id
      exact fewer.length_le.trans room.le
  case queued =>
    intro other member
    rw [queue] at member
    have different : other ≠ device := fun same => joining.unqueued (same ▸ member)
    rw [registered other different, gone.others other different, gateway]
    exact joining.queued other member
  case attached =>
    intro other known
    have different : other ≠ device := fun same => gone.gone (same ▸ known)
    rw [gone.others other different, gateway, host]
    exact joining.attached other different ((registered other different).mp known)

end Joining

variable {drain : Run Unit} (drained : Drains (spacing env) drain)
include drained

/-- A device that got no host is let go at once. -/
theorem targetSetError_unstarted (logs : env.LogsUnstarted) (joining : Joining env device world)
    (raised : Exc) :
    (targetSetError env drain device raised).Holds world (fun _ after =>
      (∀ mishap ∈ after.mishaps, mishap.RanBefore) → after.Capacious env) := by
  unfold targetSetError
  rw [Exec.holds_bind, Exec.holds_read, Exec.then_ok]
  simp only [joining.free]
  have finalized := @targetSetFinalize_attached env world device drain (.exception raised.message)
    drained.succeeds joining.orderly joining.gateway (logs world device joining.free)
  have ordered := (targetSetFinalize_succeeds drained.succeeds.within device
    (.exception raised.message)).holds world
  have capacious : ∀ {after : World}, (Mishap.drained device (world.device device).host.isNone ∈
        after.mishaps ∨ ∃ middle : World, middle.core =
          { world.core with resultSets := middle.resultSets } ∧ LetGo device middle after) →
      (∀ mishap ∈ after.mishaps, mishap.RanBefore) → after.Capacious env := by
    rintro after (noted | ⟨middle, core, letGo⟩) fine
    · have ran : (world.device device).host.isNone = false := fine _ noted
      rw [joining.free] at ran
      cases ran
    · exact joining.letGo (congrArg World.Core.roll core :) letGo
  refine (finalized.and ordered).bind ?_ ?_
  · rintro raised after ⟨done, _⟩
    exact capacious (done.imp_right fun ⟨middle, core, _, letGo, _⟩ => ⟨middle, core, letGo⟩)
  · rintro _ after ⟨done, succession⟩
    have rest : (do
        sendDeviceResult env device none
        detachGateway env device : Run Unit).Within (spacing env) :=
      Exec.within_bind (within_spacing (sendDeviceResult_sameRoll device none)) fun _ =>
        detachGateway_spacing device
    refine (rest.holds after).mono fun _ last kept => (kept (succession joining.orderly).orderly).2 ?_
    exact capacious (done.imp_right fun ⟨middle, core, _, letGo, _⟩ => ⟨middle, core, letGo⟩)

theorem bringUp_spacing (logs : env.LogsUnstarted) (joining : Joining env device world)
    (gateway : GatewayId) :
    (bringUp env drain device gateway).Holds world (fun _ after =>
      (∀ mishap ∈ after.mishaps, mishap.RanBefore) → after.Capacious env) := by
  have counted : Succeeds env none world
      { world with runCount := world.runCount + 1, tick := world.tick + 1 } :=
    .of_roll joining.orderly rfl joining.orderly.regular
  have ready : Joining env device
      { world with runCount := world.runCount + 1, tick := world.tick + 1 } :=
    { joining with orderly := counted.orderly }
  -- the host was made and started, or there is none
  have started : (targetSetHost env device gateway).Holds world (fun outcome after =>
      (∃ raised, outcome = .error raised ∧ Joining env device after) ∨
        Orderly env after ∧ after.Capacious env ∧ device < after.devices.next ∧
          (after.device device).host ≠ none) := by
    refine targetSetHost_holds (fun raised _ => .inl ⟨raised, rfl, ready⟩) fun _ => .inr ?_
    have hosted := hosted_succeeds ready.orderly ready.toUnserved
    have begun : (startHost env device gateway world.nextHost).Within (sameRoll env) :=
      startHost_sameRoll gateway world.nextHost
    obtain ⟨same, regular⟩ := begun _ hosted.orderly.regular
    have succession : Succeeds env none _ _ := .of_roll hosted.orderly same regular
    refine ⟨succession.orderly, ready.hosted.of_roll same,
      (ready.made.trans_le hosted.next).trans_le succession.next, ?_⟩
    have host := congrFun (congrArg World.Roll.host same) device
    have own : ((World.hosted { world with runCount := world.runCount + 1, tick := world.tick + 1 }
        env device).device device).host = some world.nextHost := congrArg Device.host hosted_entry
    exact fun absent => nomatch (host.symm.trans absent).symm.trans own
  unfold bringUp
  rw [Exec.holds_attempt, Exec.holds_bind]
  refine started.mono fun outcome after done => ?_
  cases outcome with
  | ok value =>
      rcases done with ⟨_, impossible, _⟩ | ⟨_, capacious, _⟩
      · cases impossible
      · exact fun _ => capacious
  | error raised =>
      rw [Exec.then_error, Exec.rescued_error]
      have failed : (targetSetError env drain device raised).Holds after (fun _ last =>
          (∀ mishap ∈ last.mishaps, mishap.RanBefore) → last.Capacious env) := by
        rcases done with ⟨_, _, unstarted⟩ | ⟨orderly, capacious, made, hosted⟩
        · exact targetSetError_unstarted drained logs unstarted raised
        · exact (targetSetError_spacing drained device raised after made (.inl hosted) orderly).2
            fun _ => capacious
      exact failed.bind (fun _ _ kept => kept) fun _ _ kept => kept

theorem targetSetActivate_spacing (logs : env.LogsUnstarted) (orderly : Orderly env world)
    (capacious : world.Capacious env) (unserved : Unserved world device)
    (free : (world.device device).host = none)
    (room : TargetSetHasCapacity env world) :
    (targetSetActivate env drain device).Holds world (fun _ after =>
      (∀ mishap ∈ after.mishaps, mishap.RanBefore) → after.Capacious env) := by
  refine targetSetActivate_holds ?_ ?_ ?_
  · rintro after _ (core | spent) _
    · exact capacious.of_roll (roll_of_core core)
    · exact capacious.of_roll (spent_roll spent)
  · intro reached gateway _ provided _ after core _ _
    exact capacious.of_roll ((roll_of_core core).trans (provided_roll provided))
  · intro reached gateway hosts provided _
    have roll := provided_roll provided
    have chosen : Succeeds env (some device) world reached :=
      .of_roll orderly roll (orderly.regular.of_hosts hosts)
    have kept := capacious.of_roll roll
    have queue : reached.targetSetQueue = world.targetSetQueue := congrArg World.Roll.queue roll
    have host := congrFun (congrArg World.Roll.host roll)
    have joining : Joining env device (reached.joined gateway device) := by
      constructor
      case toUnserved => exact (unserved.of_roll roll).joined
      case orderly => exact (joined_succeeds chosen.orderly gateway).orderly
      case free => exact (joined_host device).trans ((host device).trans free)
      case gateway =>
        rw [joined_entry]
        nofun
      case room =>
        have table : reached.devices.table = world.devices.table := congrArg World.Roll.table roll
        have same : getTriggeredDevices (reached.joined gateway device) =
            getTriggeredDevices world := by
          have joined : (reached.joined gateway device).devices.table = world.devices.table := table
          unfold getTriggeredDevices registeredDevices
          rw [joined]
          refine List.filter_congr fun other _ => ?_
          rw [joined_host]
          exact congrArg Option.isSome (host other)
        unfold TargetSetHasCapacity
        rw [same]
        exact room
      case queued =>
        intro other member
        have different : other ≠ device := by
          rintro rfl
          exact unserved.unqueued (queue ▸ member)
        rw [joined_registered, joined_other different]
        exact kept.queued other member
      case attached =>
        intro other different registered
        rw [joined_other different]
        exact kept.attached other ((joined_registered other).mp registered)
    exact bringUp_spacing drained logs joining gateway

end Bringing

theorem capacious_events (logs : env.LogsUnstarted) :
    EventInvariant env Mishap.RanBefore fun world => world.Capacious env where
  advance := fun _ _ _ core _ capacious => capacious.of_roll (roll_of_core core)
  activatePort := by
    intro world port orderly upheld
    obtain ⟨same, _⟩ := activatePort_sameRoll port world orderly.regular
    exact upheld.holds.of_roll same
  createIfAbsent := fun _ _ _ _ orderly upheld _ _ entered _ =>
    upheld.holds.entered orderly entered
  freshPort := fun world device _ upheld _ => upheld.holds.of_roll (freshPort_roll device world)
  undirect := fun world device port _ upheld _ _ => upheld.holds.of_roll
    (roll_of_offline (directPortTraffic_topologyOnly device port none world))
  enqueue := fun _ _ _ upheld registered free _ => upheld.holds.enqueued registered free
  activate := by
    intro drain drained world device orderly upheld wanted capacity
    obtain ⟨⟨_, free, _⟩, unserved⟩ := orderly.unserved_of_wanted wanted
    have dequeued : Succeeds env none world
        { world with targetSetQueue := world.targetSetQueue.erase device } :=
      dequeue_succeeds device World.trail world orderly
    exact targetSetActivate_spacing drained logs dequeued.orderly (upheld.holds.dequeued device _)
      unserved free capacity
  error := fun drain drained world device raised orderly upheld made engaged =>
    (targetSetError_spacing drained device raised world made engaged orderly).2 fun _ => upheld.holds

theorem capacious_invariant (logs : env.LogsUnstarted) :
    RunnerInvariant env Mishap.RanBefore fun world => world.Capacious env where
  toEventInvariant := capacious_events logs
  complete := by
    intro drain drained world device host orderly upheld hosted _
    have running : (world.device device).host ≠ none := hosted ▸ nofun
    exact (targetSetComplete_spacing drained device world (orderly.lt_of_hosted running)
      (.inl running) orderly).2 fun _ => upheld.holds
  terminateGatewaySet := fun _ drained world gateway orderly upheld =>
    (capacious_events logs).terminateGatewaySet
      (fun _ device _ capacious => capacious.attached device) drained world gateway orderly upheld
  direct := fun world device _ _ upheld _ => upheld.holds.of_roll
    (roll_of_offline (directDeviceTraffic_topologyOnly device _ world))

/-- The number of running devices stays within the limit and the queue proper,
as long as nothing intervenes while a device that did not run is removed. -/
theorem reachable_capacity_and_queue (logs : env.LogsUnstarted) {world : World}
    (reached : Started env world) (fine : ∀ mishap ∈ world.mishaps, mishap.RanBefore) :
    (Truthy env.config.maxHosts →
        (getTriggeredDevices world).length ≤ env.config.maxHosts.getD 0) ∧
      world.targetSetQueue.Nodup ∧
      ∀ device ∈ world.targetSetQueue, world.Registered device ∧
        (world.device device).host = none ∧ (world.device device).gateway = none := by
  have initial : (startWorld env).Capacious env := by
    unfold startWorld
    split
    · exact ⟨fun _ => Nat.zero_le _, nofun, nofun⟩
    · exact ⟨fun _ => Nat.zero_le _, nofun, nofun⟩
  have capacious := (capacious_invariant logs).started initial reached fine
  have orderly := started_orderly reached
  refine ⟨capacious.bounded, orderly.queued, fun device member => ?_⟩
  obtain ⟨registered, free⟩ := capacious.queued device member
  exact ⟨registered, (orderly.waiting device member).2, free⟩

/-- Two devices are learned on two ports, the first of them twice. -/
def relearningRun : List Command :=
  [.receive (.event (.portState 1 1 true)), .receive (.event (.portState 2 1 true)),
    .receive (.event (.portState 2 2 true)),
    .receive (.event (.portLearn 2 1 "9a:02:57:1e:8f:01" 10)),
    .receive (.event (.portLearn 2 2 "9a:02:57:1e:8f:02" 10)),
    .receive (.event (.portLearn 2 1 "9a:02:57:1e:8f:01" 10)), .faucet]

/-- One device at a time, in single shot mode. -/
def oneByOne : Config := { secPort := 7, maxHosts := some 1, singleShot := true }

/-- No host can be made for the first device. -/
def failsFirst : Env :=
  { Env.quiet oneByOne with
    fault := fun _ op =>
      if op = .connectedHost 0 then some (.exception "no such interface") else none }

/-- The events that are processed before the first device is removed start the
second one and queue the first one again. -/
theorem not_every_queued_registered :
    ¬ ∀ (env : Env) (world : World), Started env world →
      (Truthy env.config.maxHosts →
          (getTriggeredDevices world).length ≤ env.config.maxHosts.getD 0) ∧
        world.targetSetQueue.Nodup ∧
        ∀ device ∈ world.targetSetQueue, world.Registered device ∧
          (world.device device).host = none ∧ (world.device device).gateway = none := by
  intro always
  have reached : Started failsFirst
      (runCommands failsFirst relearningRun (initialWorld failsFirst)) :=
    started_of_commands (by decide) _
  obtain ⟨_, _, queued⟩ := always _ _ reached
  have stale : 0 ∈ (runCommands failsFirst relearningRun
      (initialWorld failsFirst)).targetSetQueue := by decide +kernel
  have removed : ¬ (runCommands failsFirst relearningRun
      (initialWorld failsFirst)).Registered 0 := by decide +kernel
  exact removed (queued 0 stale).1

theorem relearningRun_queued :
    1 ∈ (runCommands (.quiet oneByOne) relearningRun
        (initialWorld (.quiet oneByOne))).targetSetQueue ∧
      (runCommands (.quiet oneByOne) relearningRun
        (initialWorld (.quiet oneByOne))).Registered 1 := by
  have waiting : 1 ∈ (runCommands (.quiet oneByOne) relearningRun
      (initialWorld (.quiet oneByOne))).targetSetQueue := by decide +kernel
  have calm : (runCommands (.quiet oneByOne) relearningRun
      (initialWorld (.quiet oneByOne))).mishaps = [] := by decide +kernel
  have reached : Started (.quiet oneByOne) (runCommands (.quiet oneByOne) relearningRun
      (initialWorld (.quiet oneByOne))) := started_of_commands (by decide) relearningRun
  obtain ⟨_, _, queued⟩ := reachable_capacity_and_queue (fun _ _ _ => rfl) reached
    (calm ▸ nofun)
  exact ⟨waiting, (queued 1 waiting).1⟩

end Daq
