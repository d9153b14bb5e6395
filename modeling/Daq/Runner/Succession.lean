import Daq.Runner.Provision

namespace Daq

variable {env : Env}

/-! Order and succession are kept by everything, without any condition. -/

/-- The roll is the same, and hosts stay regular. -/
def sameRoll (env : Env) : Frame World where
  rel before after := before.Regular env → after.roll = before.roll ∧ after.Regular env
  refl := fun _ regular => ⟨rfl, regular⟩
  trans := by
    intro first second third earlier later regular
    obtain ⟨same, regular⟩ := earlier regular
    obtain ⟨next, regular⟩ := later regular
    exact ⟨next.trans same, regular⟩

section Roll

variable {except : Option DeviceId} {α : Type} {program : Run α} {world : World}

theorem within_succeedsBut (within : program.Within (sameRoll env)) :
    program.Within (succeedsBut env except) := by
  intro world orderly
  obtain ⟨same, regular⟩ := within world orderly.regular
  exact .of_roll orderly same regular

theorem within_sameRoll_of_advances (within : program.Within (advances env)) :
    program.Within (sameRoll env) := by
  intro world regular
  obtain ⟨core, regular, _⟩ := within world regular trivial
  exact ⟨roll_of_core core, regular⟩

theorem roll_of_offline {before after : World} (same : after.offline = before.offline) :
    after.roll = before.roll :=
  (congrArg World.roll same :)

theorem within_sameRoll_of_topologyOnly (within : program.Within topologyOnly) :
    program.Within (sameRoll env) := by
  intro world regular
  have same : (program.run world).2.offline = world.offline := within world
  exact ⟨roll_of_offline same, regular.of_hosts (congrArg World.hosts same :)⟩

theorem modify_sameRoll {update : World → World} (roll : ∀ world, (update world).roll = world.roll)
    (hosts : ∀ world, (update world).hosts = world.hosts) :
    (Exec.modify update : Run Unit).Within (sameRoll env) :=
  Exec.within_modify fun world regular => ⟨roll world, regular.of_hosts (hosts world)⟩

theorem keepsHost_roll {host : HostId} {before after : World}
    (kept : KeepsHost host Host.lasting before after) : after.roll = before.roll := by
  have devices : (fun other => (after.hosts other).device) =
      fun other => (before.hosts other).device :=
    funext (kept.field Host.device fun _ => rfl)
  calc
    after.roll = { after.bare.roll with device := fun other => (after.hosts other).device } := rfl
    _ = { before.bare.roll with device := fun other => (before.hosts other).device } := by
      rw [kept.outside, devices]
    _ = before.roll := rfl

theorem terminateHost_sameRoll (host : HostId) :
    (terminateHost env host).Within (sameRoll env) :=
  fun world regular => ⟨keepsHost_roll (terminateHost_lasting world), terminateHost_regular regular⟩

theorem activatePort_sameRoll (port : Nat) : (activatePort port).Within (sameRoll env) := by
  unfold activatePort
  refine Exec.within_bind (Exec.within_read _) fun ports => ?_
  split
  · exact modify_sameRoll (fun _ => rfl) fun _ => rfl
  · exact modify_sameRoll (fun _ => rfl) fun _ => rfl

theorem deliverResult_roll (device : DeviceId) (report : Option DeviceReport) (code : ResultCode)
    (world : World) : (deliverResult device report code world).roll = world.roll := by
  simp only [deliverResult, queueSessionResult]
  split <;> rfl

theorem deliverResult_hosts (device : DeviceId) (report : Option DeviceReport)
    (code : ResultCode) (world : World) :
    (deliverResult device report code world).hosts = world.hosts := by
  simp only [deliverResult, queueSessionResult]
  split <;> rfl

theorem sendDeviceResult_sameRoll (device : DeviceId) (testResults : Option DeviceReport) :
    (sendDeviceResult env device testResults).Within (sameRoll env) := by
  unfold sendDeviceResult
  refine Exec.within_ite ?_ (Exec.within_pure _)
  refine Exec.within_bind Exec.within_get fun world => ?_
  split
  · exact modify_sameRoll (deliverResult_roll _ _ _) (deliverResult_hosts _ _ _)
  · exact Exec.within_raise _
  · exact modify_sameRoll (deliverResult_roll _ _ _) (deliverResult_hosts _ _ _)

theorem retireGateway_sameRoll (gateway : GatewayId) (device : DeviceId) :
    (retireGateway env gateway device).Within (sameRoll env) := by
  unfold retireGateway gatewayTerminate
  refine Exec.within_bind ?_ fun _ => ?_
  · refine Exec.within_bind Exec.within_get fun _ => ?_
    refine Exec.within_bind (Exec.within_require _) fun _ => ?_
    exact Exec.within_bind (modify_sameRoll (fun _ => rfl) fun _ => rfl) fun _ =>
      within_sameRoll_of_topologyOnly (callOut_topologyOnly _)
  · refine Exec.within_bind (modify_sameRoll (fun _ => rfl) fun _ => rfl) fun _ => ?_
    refine Exec.within_bind (Exec.within_read _) fun _ => ?_
    exact Exec.within_when
      (within_sameRoll_of_topologyOnly (directDeviceTraffic_topologyOnly _ _))

theorem detachTarget_sameRoll (gateway : GatewayId) (device : DeviceId) :
    (detachTarget gateway device).Within (sameRoll env) := by
  unfold detachTarget
  refine Exec.within_bind Exec.within_get fun _ => ?_
  refine Exec.within_bind (Exec.within_require _) fun _ => ?_
  exact Exec.within_bind (modify_sameRoll (fun _ => rfl) fun _ => rfl) fun _ => Exec.within_read _

theorem ungated_steady (device : DeviceId) (world : World) :
    (world.setDevice device fun entry => { entry with gateway := none }).roll.steady =
      world.roll.steady := by
  have mac : ∀ other, ((world.setDevice device fun entry =>
      { entry with gateway := none }).device other).mac = (world.device other).mac :=
    setDevice_view Device.mac rfl
  have host : ∀ other, ((world.setDevice device fun entry =>
      { entry with gateway := none }).device other).host = (world.device other).host :=
    setDevice_view Device.host rfl
  unfold World.roll World.Roll.steady
  simp only [funext mac, funext host]
  rfl

/-- A device may lose its gateway at any time. -/
theorem setDevice_ungated (device : DeviceId) :
    (Exec.modify fun world => world.setDevice device fun entry =>
      { entry with gateway := none } : Run Unit).Within (succeedsBut env except) := by
  intro world orderly
  refine .of_steady orderly (ungated_steady device world) orderly.regular orderly.queued (fun _ member => .inl member)
    (List.prefix_refl _) fun other _ => ?_
  simp only [Exec.modify_run, setDevice_device]
  split
  · exact .inr rfl
  · exact .inl rfl

theorem detachGateway_succeeds (device : DeviceId) :
    (detachGateway env device).Within (succeedsBut env except) := by
  unfold detachGateway
  refine Exec.within_bind (Exec.within_read _) fun _ => Exec.within_whenSome _ fun gateway => ?_
  refine Exec.within_bind (within_succeedsBut (detachTarget_sameRoll gateway device)) fun _ => ?_
  refine Exec.within_bind (Exec.within_when
    (within_succeedsBut (retireGateway_sameRoll gateway device))) fun _ => ?_
  exact setDevice_ungated device

theorem dequeue_succeeds (device : DeviceId) (history : World → List Happening) :
    (Exec.modify fun world => { world with
      targetSetQueue := world.targetSetQueue.erase device
      trail := history world } : Run Unit).Within (succeedsBut env except) := by
  intro world orderly
  exact .of_steady orderly rfl orderly.regular (orderly.queued.erase _)
    (fun _ member => .inl (List.mem_of_mem_erase member)) (List.prefix_refl _) fun _ _ => .inl rfl

theorem targetSetCancel_succeeds (device : DeviceId) :
    (targetSetCancel env device).Within (succeedsBut env except) := by
  unfold targetSetCancel
  refine Exec.within_bind (dequeue_succeeds device _) fun _ => ?_
  refine Exec.within_bind Exec.within_get fun world => Exec.within_whenSome _ fun host => ?_
  refine Exec.within_ite ?_ ?_
  · unfold lingerResult
    refine Exec.within_bind (Exec.within_when (within_succeedsBut (activatePort_sameRoll _)))
      fun _ => ?_
    cases (world.device device).gateway with
    | none => exact Exec.within_raise _
    | some gateway => exact within_succeedsBut (modify_sameRoll (fun _ => rfl) fun _ => rfl)
  · unfold releaseDevice
    refine Exec.within_bind Exec.within_get fun _ => ?_
    refine Exec.within_bind (Exec.within_when (within_succeedsBut
      (within_sameRoll_of_topologyOnly (directPortTraffic_topologyOnly _ _ _)))) fun _ => ?_
    refine Exec.within_bind (detachGateway_succeeds device) fun _ => ?_
    refine Exec.within_bind (within_succeedsBut (terminateHost_sameRoll host)) fun _ => ?_
    exact within_succeedsBut (sendDeviceResult_sameRoll device _)

/-- All but gateways, queue and mishaps of the roll is the same. -/
def sameSteady (env : Env) : Frame World where
  rel before after := before.Regular env →
    after.roll.steady = before.roll.steady ∧ after.Regular env
  refl := fun _ regular => ⟨rfl, regular⟩
  trans := by
    intro first second third earlier later regular
    obtain ⟨same, regular⟩ := earlier regular
    obtain ⟨next, regular⟩ := later regular
    exact ⟨next.trans same, regular⟩

theorem within_sameSteady (within : program.Within (sameRoll env)) :
    program.Within (sameSteady env) :=
  within.mono fun _ _ same regular =>
    ⟨congrArg World.Roll.steady (same regular).1, (same regular).2⟩

theorem detachGateway_steady (device : DeviceId) :
    (detachGateway env device).Within (sameSteady env) := by
  unfold detachGateway
  refine Exec.within_bind (Exec.within_read _) fun _ => Exec.within_whenSome _ fun gateway => ?_
  refine Exec.within_bind (within_sameSteady (detachTarget_sameRoll gateway device)) fun _ => ?_
  refine Exec.within_bind (Exec.within_when
    (within_sameSteady (retireGateway_sameRoll gateway device))) fun _ => ?_
  exact Exec.within_modify fun world regular => ⟨ungated_steady device world, regular⟩

theorem recordException_succeeds (host : HostId) (raised : Exc) :
    (recordException env host raised).Within (succeedsBut env except) :=
  within_succeedsBut (within_sameRoll_of_advances (within_advances (recordException_stays raised)))

theorem recordResultSet_sameRoll (device : DeviceId) (resultSet : ResultSet) :
    (recordResultSet env device resultSet).Within (sameRoll env) := by
  unfold recordResultSet
  refine Exec.within_bind (Exec.within_read _) fun _ => ?_
  refine Exec.within_bind (within_sameRoll_of_topologyOnly (callOut_topologyOnly _)) fun _ => ?_
  refine Exec.within_bind (Exec.within_when (modify_sameRoll (fun _ => rfl) fun _ => rfl))
    fun _ => ?_
  refine Exec.within_bind (modify_sameRoll (fun _ => rfl) fun _ => rfl) fun _ => ?_
  exact Exec.within_bind Exec.within_get fun _ =>
    Exec.within_when (modify_sameRoll (fun _ => rfl) fun _ => rfl)

theorem noteDrain_succeeds (device : DeviceId) :
    (Exec.modify (noteDrain device) : Run Unit).Within (succeedsBut env except) := by
  intro world orderly
  have noted : Succeeds env except world (noteDrain device world) := by
    unfold noteDrain
    split
    · exact .of_steady orderly rfl orderly.regular orderly.queued (fun _ member => .inl member)
        (List.prefix_append _ _) fun _ _ => .inl rfl
    · exact .of_roll orderly rfl orderly.regular
  exact noted

theorem drainSingleShot_succeeds {drain : Run Unit} (drained : drain.Within (succeedsBut env except))
    (device : DeviceId) :
    (drainSingleShot env drain device).Within (succeedsBut env except) := by
  unfold drainSingleShot
  refine Exec.within_bind Exec.within_get fun _ => Exec.within_when ?_
  refine Exec.within_bind (noteDrain_succeeds device) fun _ => ?_
  refine Exec.within_bind drained fun _ => ?_
  exact within_succeedsBut (modify_sameRoll (fun _ => rfl) fun _ => rfl)

theorem recordResultSet_returns {device : DeviceId} {resultSet : ResultSet}
    (logged : env.fault world (.resultLog device) = none) :
    (recordResultSet env device resultSet).Holds world (fun outcome _ => outcome = .ok ()) := by
  unfold recordResultSet
  rw [Exec.holds_bind, Exec.holds_read, Exec.then_ok, Exec.holds_bind, holds_callOut_of_returns logged, Exec.then_ok, Exec.holds_bind,
    Exec.holds_when]
  refine ⟨fun _ => ?_, fun _ => ?_⟩
  all_goals
    simp only [Exec.holds_modify, Exec.then_ok, Exec.holds_bind, Exec.holds_get, Exec.holds_when,
      implies_true, and_self]

/-- Processing events for a device that has its gateway is noted, unless there
are no events. -/
theorem drainSingleShot_attached {drain : Run Unit} {device : DeviceId}
    (drained : Drains (succeeds env) drain) (orderly : Orderly env world)
    (attached : (world.device device).gateway ≠ none) :
    (drainSingleShot env drain device).Holds world (fun outcome after =>
      Mishap.drained device (world.device device).host.isNone ∈ after.mishaps ∨
        outcome = .ok () ∧ after.core = world.core ∧ after.hosts = world.hosts) := by
  unfold drainSingleShot
  rw [Exec.holds_bind, Exec.holds_get, Exec.then_ok, Exec.holds_when]
  refine ⟨fun _ => ?_, fun _ => .inr ⟨rfl, rfl, rfl⟩⟩
  rw [Exec.holds_bind, Exec.holds_modify, Exec.then_ok]
  by_cases events : world.faucetEvents = true ∧ world.pending ≠ []
  · have noted : Mishap.drained device (world.device device).host.isNone ∈
        (noteDrain device world).mishaps := by
      unfold noteDrain
      rw [if_pos ⟨attached, events⟩]
      exact List.mem_append_right _ (List.mem_singleton_self _)
    have ordered : Succeeds env none world (noteDrain device world) :=
      noteDrain_succeeds device world orderly
    refine (drained.within.holds _).bind ?_ ?_
    · exact fun _ _ kept => .inl ((kept ordered.orderly).mishaps.subset noted)
    · intro _ _ kept
      rw [Exec.holds_modify]
      exact .inl ((kept ordered.orderly).mishaps.subset noted)
  · have quiet : noteDrain device world = world := by
      unfold noteDrain
      exact if_neg fun noted => events noted.2
    have idle : world.faucetEvents = false ∨ world.pending = [] := by
      rw [not_and_or, not_not, Bool.not_eq_true] at events
      exact events
    rw [quiet, Exec.holds_bind, Exec.holds_of_run (drained.idle world idle), Exec.then_ok,
      Exec.holds_modify]
    exact .inr ⟨rfl, rfl, rfl⟩

end Roll

section Removal

variable {world : World} {device : DeviceId}

/-- A device without a host. -/
def World.unhosted (world : World) (device : DeviceId) : World :=
  world.setDevice device fun entry => { entry with host := none }

/-- The registry without a device; its set id may stay behind. -/
def World.dropped (world : World) (device : DeviceId) (setIds : Finset Nat) : World :=
  { world with devices := { world.devices with
      table := world.devices.table.erase (world.device device).mac
      setIds := setIds } }

theorem removeDevice_holds (device : DeviceId) (world : World) :
    (removeDevice device).Holds world (fun _ reached =>
      (¬ world.Registered device ∧ reached = world) ∨
        (world.Registered device ∧ ∃ setIds, reached = world.dropped device setIds)) := by
  unfold removeDevice
  rw [Exec.holds_zoom]
  by_cases registered : world.Registered device
  · unfold Devices.remove
    have contained : world.devices.Contains device := registered
    rw [Exec.holds_bind, Exec.holds_get, Exec.then_ok, Exec.holds_bind, Exec.holds_require]
    refine ⟨fun _ => ?_, fun absent => absurd contained absent⟩
    rw [Exec.then_ok, Exec.holds_bind, Exec.holds_modify, Exec.then_ok]
    cases (world.devices.heap device).setId with
    | none => exact .inr ⟨registered, _, rfl⟩
    | some setId =>
        simp only [Exec.holds_bind, Exec.holds_require]
        exact ⟨fun _ => .inr ⟨registered, _, rfl⟩, fun _ => .inr ⟨registered, _, rfl⟩⟩
  · have absent : ¬ world.devices.Contains device := registered
    rw [Exec.holds_of_run (Devices.remove_absent absent)]
    exact .inl ⟨registered, rfl⟩

/-- Letting a device go leaves it without a host and out of the registry,
whether its set id is found or not. -/
structure LetGo (device : DeviceId) (before after : World) : Prop where
  rest : { after with devices := before.devices } = before
  next : after.devices.next = before.devices.next
  entry : after.device device = { before.device device with host := none }
  others : ∀ other, other ≠ device → after.device other = before.device other
  gone : ¬ after.Registered device
  table : ∀ mac other, after.devices.table.get? mac = some other →
    before.devices.table.get? mac = some other
  values : after.devices.table.values.Sublist before.devices.table.values
  registered : ∀ other, other ≠ device → before.Registered other → after.Registered other

theorem letGo_holds (world : World) (device : DeviceId) :
    (do
      Exec.modify fun world => world.setDevice device fun entry => { entry with host := none }
      removeDevice device : Run Unit).Holds world (fun _ after => LetGo device world after) := by
  rw [Exec.holds_bind, Exec.holds_modify, Exec.then_ok]
  have mac : ∀ other, ((world.unhosted device).device other).mac = (world.device other).mac :=
    setDevice_view Device.mac rfl
  have entry : (world.unhosted device).device device =
      { world.device device with host := none } := by
    simp [World.unhosted, setDevice_device]
  have others : ∀ other, other ≠ device →
      (world.unhosted device).device other = world.device other := by
    intro other different
    simp [World.unhosted, setDevice_device, different]
  refine (removeDevice_holds device (world.unhosted device)).mono ?_
  rintro outcome after (⟨absent, rfl⟩ | ⟨present, setIds, rfl⟩)
  · refine ⟨rfl, rfl, entry, others, absent, fun _ _ stored => stored, List.Sublist.refl _, ?_⟩
    intro other _ registered
    unfold World.Registered
    rw [mac]
    exact registered
  · have erased : ((world.unhosted device).dropped device setIds).devices.table =
        world.devices.table.erase (world.device device).mac := by
      rw [← mac device]
      rfl
    refine ⟨rfl, rfl, entry, others, ?_, ?_, erased ▸ Dict.values_erase_sublist _ _, ?_⟩
    · unfold World.Registered
      rw [erased]
      have same : (((world.unhosted device).dropped device setIds).device device).mac =
          (world.device device).mac := mac device
      rw [same, Dict.get?_erase_self]
      nofun
    · intro key other stored
      rw [erased, Dict.get?_erase] at stored
      split at stored
      · cases stored
      · exact stored
    · intro other different registered
      unfold World.Registered
      rw [erased]
      have same : (((world.unhosted device).dropped device setIds).device other).mac =
          (world.device other).mac := mac other
      have holder : world.Registered device := by
        unfold World.Registered at present ⊢
        rw [mac] at present
        exact present
      rw [same, Dict.get?_erase_of_ne]
      · exact registered
      · intro clash
        unfold World.Registered at registered holder
        rw [clash, holder] at registered
        exact different (Option.some.inj registered).symm

/-- A registered device with a set id in use is let go without an exception. -/
theorem letGo_returns {setId : Nat} (registered : world.Registered device)
    (numbered : (world.device device).setId = some setId) (used : setId ∈ world.devices.setIds) :
    (do
      Exec.modify fun world => world.setDevice device fun entry => { entry with host := none }
      removeDevice device : Run Unit).Holds world (fun outcome after =>
        outcome = .ok () ∧ after.devices.setIds = world.devices.setIds.erase setId) := by
  rw [Exec.holds_bind, Exec.holds_modify, Exec.then_ok]
  unfold removeDevice
  rw [Exec.holds_zoom]
  have present : (world.unhosted device).devices.Contains device := by
    have mac := @setDevice_view _ world Device.mac device (fun entry => { entry with host := none })
      rfl device
    unfold Devices.Contains
    exact (congrArg _ mac).trans registered
  have same := @setDevice_view _ world Device.setId device (fun entry => { entry with host := none })
    rfl device
  exact (Exec.holds_of_run (Devices.remove_numbered present (same.trans numbered) used)).mpr
    ⟨rfl, rfl⟩

namespace LetGo

variable {before after : World} {except : Option DeviceId}

theorem hosts (letGo : LetGo device before after) : after.hosts = before.hosts :=
  (congrArg World.hosts letGo.rest :)

theorem registered_iff (letGo : LetGo device before after) {other : DeviceId}
    (different : other ≠ device) : after.Registered other ↔ before.Registered other := by
  refine ⟨fun registered => ?_, letGo.registered other different⟩
  unfold World.Registered at registered ⊢
  rw [letGo.others other different] at registered
  exact letGo.table _ _ registered

theorem succeeds (letGo : LetGo device before after) (orderly : Orderly env before) :
    Succeeds env except before after := by
  have nextHost : after.nextHost = before.nextHost := (congrArg World.nextHost letGo.rest :)
  have queue : after.targetSetQueue = before.targetSetQueue :=
    (congrArg World.targetSetQueue letGo.rest :)
  have mishaps : after.mishaps = before.mishaps := (congrArg World.mishaps letGo.rest :)
  have mac : ∀ other, (after.device other).mac = (before.device other).mac := by
    intro other
    by_cases same : other = device
    · rw [same, letGo.entry]
    · rw [letGo.others other same]
  have engaged : ∀ other, before.Engaged other → after.Engaged other := by
    intro other engaged
    have unqueued := orderly.unqueued_of_engaged engaged
    by_cases same : other = device
    · exact .inr ⟨same ▸ letGo.gone, queue ▸ unqueued⟩
    · unfold World.Engaged
      rw [letGo.others other same, letGo.registered_iff same, queue]
      exact engaged
  constructor
  case next => exact letGo.next.ge
  case nextHost => exact nextHost.ge
  case mishaps => exact mishaps ▸ List.prefix_refl _
  case mac => exact fun other _ => mac other
  case unregistered =>
    intro other _ unregistered
    by_cases same : other = device
    · exact same ▸ letGo.gone
    · exact mt (letGo.registered_iff same).mp unregistered
  case engaged => exact fun other _ _ => engaged other
  case host =>
    intro other _ _ _
    by_cases same : other = device
    · exact .inr (by rw [same, letGo.entry])
    · exact .inl (by rw [letGo.others other same])
  case gateway =>
    intro other _ _ _
    by_cases same : other = device
    · exact .inl (by rw [same, letGo.entry])
    · exact .inl (by rw [letGo.others other same])
  case device => exact fun host _ => by rw [letGo.hosts]
  case orderly =>
    constructor
    case regular => exact orderly.regular.of_hosts letGo.hosts
    case keyed =>
      intro key other stored
      rw [mac, letGo.next]
      exact orderly.keyed key other (letGo.table key other stored)
    case hosted =>
      intro other host hosted
      rw [nextHost, letGo.hosts]
      by_cases same : other = device
      · rw [same, letGo.entry] at hosted
        cases hosted
      · rw [letGo.others other same] at hosted
        exact orderly.hosted other host hosted
    case engaged =>
      intro host made
      rw [nextHost] at made
      rw [letGo.hosts, letGo.next]
      exact (orderly.engaged host made).imp id (engaged _)
    case sole =>
      rw [nextHost, letGo.hosts]
      exact orderly.sole
    case queued => exact queue ▸ orderly.queued
    case waiting =>
      intro other member
      rw [queue] at member
      rw [letGo.next]
      refine ⟨(orderly.waiting other member).1, ?_⟩
      by_cases same : other = device
      · rw [same, letGo.entry]
      · rw [letGo.others other same]
        exact (orderly.waiting other member).2

end LetGo

theorem recordResultSet_core (device : DeviceId) (resultSet : ResultSet) (world : World) :
    (recordResultSet env device resultSet).Holds world (fun _ after =>
      after.core = { world.core with resultSets := after.resultSets } ∧
        after.hosts = world.hosts) := by
  unfold recordResultSet
  rw [Exec.holds_bind, Exec.holds_read, Exec.then_ok]
  refine (callOut_ticks env _ _).bind ?_ ?_
  · rintro _ _ rfl
    exact ⟨rfl, rfl⟩
  · rintro _ _ rfl
    rw [Exec.holds_bind, Exec.holds_when]
    refine ⟨fun _ => ?_, fun _ => ?_⟩
    all_goals
      simp only [Exec.holds_modify, Exec.then_ok, Exec.holds_bind, Exec.holds_get, Exec.holds_when]
      exact ⟨fun _ => ⟨rfl, rfl⟩, fun _ => ⟨rfl, rfl⟩⟩

/-- A device that has its gateway and whose results can be logged is let go as
it is, unless events are processed before. -/
theorem targetSetFinalize_attached {drain : Run Unit} {resultSet : ResultSet}
    (drained : Drains (succeeds env) drain) (orderly : Orderly env world)
    (attached : (world.device device).gateway ≠ none)
    (logged : env.fault world (.resultLog device) = none) :
    (targetSetFinalize env drain device resultSet).Holds world (fun outcome after =>
      Mishap.drained device (world.device device).host.isNone ∈ after.mishaps ∨
        ∃ middle, middle.core = { world.core with resultSets := middle.resultSets } ∧
          middle.hosts = world.hosts ∧ LetGo device middle after ∧
          ∀ setId ∈ world.devices.setIds, (world.device device).setId = some setId →
            world.Registered device → outcome = .ok ()) := by
  unfold targetSetFinalize
  have recorded := (@recordResultSet_core env device resultSet world).and
    (recordResultSet_returns logged)
  refine recorded.bind (fun _ _ done => nomatch done.2) ?_
  rintro _ reached ⟨⟨core, hosts⟩, _⟩
  have roll : reached.roll = world.roll := (congrArg World.Core.roll core :)
  have succession : Succeeds env none world reached :=
    .of_roll orderly roll (orderly.regular.of_hosts hosts)
  have orderly := succession.orderly
  have device' := congrFun (congrArg World.Core.device core) device
  have gateway : (reached.device device).gateway = (world.device device).gateway :=
    congrArg Device.Core.gateway device'
  have host : (reached.device device).host = (world.device device).host :=
    congrArg Device.Core.host device'
  have drains := (drainSingleShot_attached drained orderly (gateway ▸ attached)).and
    ((drainSingleShot_succeeds drained.within device).holds reached)
  rw [host] at drains
  refine drains.bind ?_ ?_
  · rintro raised after ⟨noted | ⟨returned, _⟩, _⟩
    · exact .inl noted
    · cases returned
  · rintro _ middle ⟨noted | ⟨_, same, kept⟩, succession⟩
    · refine (letGo_holds middle device).mono fun _ after letGo => .inl ?_
      have later : Succeeds env none middle after := letGo.succeeds (succession orderly).orderly
      exact later.mishaps.subset noted
    · have last : middle.core = { world.core with resultSets := middle.resultSets } := by
        have results : middle.resultSets = reached.resultSets :=
          congrArg World.Core.resultSets same
        rw [same, core, results]
      have returns : (do
          Exec.modify fun world => world.setDevice device fun entry => { entry with host := none }
          removeDevice device : Run Unit).Holds middle (fun outcome _ =>
            ∀ setId ∈ world.devices.setIds, (world.device device).setId = some setId →
              world.Registered device → outcome = .ok ()) := by
        intro setId used numbered registered
        have entry := congrFun (congrArg World.Core.device last) device
        have table : middle.devices.table = world.devices.table := congrArg World.Core.table last
        have setIds : middle.devices.setIds = world.devices.setIds :=
          congrArg World.Core.setIds last
        refine (letGo_returns ?_ ((congrArg Device.Core.setId entry).trans numbered)
          (setIds ▸ used)).1
        unfold World.Registered
        rw [table]
        exact (congrArg (fun mac => world.devices.table.get? mac)
          (congrArg Device.Core.mac entry)).trans registered
      refine ((letGo_holds middle device).and returns).mono fun outcome after done => ?_
      exact .inr ⟨middle, last, kept.trans hosts, done.1, done.2⟩

end Removal

section Taking

variable {except : Option DeviceId} {drain : Run Unit}
  (drained : drain.Within (succeedsBut env except))
include drained

theorem targetSetFinalize_succeeds (device : DeviceId) (resultSet : ResultSet) :
    (targetSetFinalize env drain device resultSet).Within (succeedsBut env except) := by
  unfold targetSetFinalize
  refine Exec.within_bind (within_succeedsBut (recordResultSet_sameRoll device resultSet))
    fun _ => ?_
  refine Exec.within_bind (drainSingleShot_succeeds drained device) fun _ => ?_
  exact fun world orderly => (letGo_holds world device).succeeds orderly

theorem targetSetComplete_succeeds (device : DeviceId) :
    (targetSetComplete env drain device).Within (succeedsBut env except) := by
  unfold targetSetComplete
  refine Exec.within_bind (Exec.within_attempt (targetSetCancel_succeeds device) fun raised => ?_)
    fun _ => ?_
  · refine Exec.within_bind (Exec.within_read _) fun host => ?_
    cases host with
    | none => exact Exec.within_raise _
    | some host => exact recordException_succeeds host raised
  · refine Exec.within_bind Exec.within_get fun world => ?_
    cases (world.device device).host with
    | none => exact Exec.within_raise _
    | some host => exact targetSetFinalize_succeeds drained device _

theorem targetSetError_succeeds (device : DeviceId) (raised : Exc) :
    (targetSetError env drain device raised).Within (succeedsBut env except) := by
  unfold targetSetError
  refine Exec.within_bind (Exec.within_read _) fun host => ?_
  cases host with
  | some host =>
      exact Exec.within_bind (recordException_succeeds host raised) fun _ =>
        targetSetComplete_succeeds drained device
  | none =>
      refine Exec.within_bind (targetSetFinalize_succeeds drained device _) fun _ => ?_
      exact Exec.within_bind (within_succeedsBut (sendDeviceResult_sameRoll device none)) fun _ =>
        detachGateway_succeeds device

end Taking

section Bringing

variable {world : World} {device : DeviceId} {except : Option DeviceId}

theorem Entered.registered_iff {before after : World} {mac : Mac} {port : Option PortId}
    {vlan : Option Nat} (entered : Entered mac port vlan before after) {other : DeviceId}
    (made : other < before.devices.next) : after.Registered other ↔ before.Registered other := by
  unfold World.Registered
  rw [entered.others other (Nat.ne_of_lt made), entered.table, Dict.get?_insert]
  split
  · rename_i same
    rw [same, entered.absent]
    simp [Nat.ne_of_gt made]
  · exact Iff.rfl

theorem Entered.succeeds {before after : World} {mac : Mac} {port : Option PortId}
    {vlan : Option Nat} (entered : Entered mac port vlan before after)
    (orderly : Orderly env before) : Succeeds env except before after := by
  have hosts : after.hosts = before.hosts := (congrArg World.hosts entered.rest :)
  have nextHost : after.nextHost = before.nextHost := (congrArg World.nextHost entered.rest :)
  have queue : after.targetSetQueue = before.targetSetQueue :=
    (congrArg World.targetSetQueue entered.rest :)
  obtain ⟨setId, entry, numbered⟩ := entered.entry
  have old : ∀ other < before.devices.next, after.device other = before.device other :=
    fun other made => entered.others other (Nat.ne_of_lt made)
  have engaged : ∀ other < before.devices.next,
      (after.Engaged other ↔ before.Engaged other) := by
    intro other made
    unfold World.Engaged
    rw [old other made, entered.registered_iff made, queue]
  constructor
  case next => exact entered.next ▸ Nat.le_succ _
  case nextHost => exact nextHost.ge
  case mishaps =>
    rcases numbered with ⟨_, _, noted⟩ | ⟨_, _, _, same⟩
    · exact noted ▸ List.prefix_append _ _
    · exact same ▸ List.prefix_refl _
  case mac => exact fun other made => congrArg Device.mac (old other made)
  case unregistered => exact fun other made => mt (entered.registered_iff made).mp
  case engaged => exact fun other made _ => (engaged other made).mpr
  case host => exact fun other made _ _ => .inl (congrArg Device.host (old other made))
  case gateway => exact fun other made _ _ => .inl (congrArg Device.gateway (old other made))
  case device => exact fun host _ => by rw [hosts]
  case orderly =>
    constructor
    case regular => exact orderly.regular.of_hosts hosts
    case keyed =>
      intro key other stored
      rw [entered.next]
      rw [entered.table, Dict.get?_insert] at stored
      split at stored
      · rename_i same
        cases stored
        exact ⟨Nat.lt_succ_self _, by rw [entry, same]⟩
      · obtain ⟨made, named⟩ := orderly.keyed key other stored
        exact ⟨Nat.lt_succ_of_lt made, (old other made).symm ▸ named⟩
    case hosted =>
      intro other host hosted
      rw [nextHost, hosts]
      by_cases fresh : other = before.devices.next
      · rw [fresh, entry] at hosted
        cases hosted
      · rw [entered.others other fresh] at hosted
        exact orderly.hosted other host hosted
    case engaged =>
      intro host made
      rw [nextHost] at made
      obtain ⟨own, busy⟩ := orderly.engaged host made
      rw [hosts, entered.next]
      exact ⟨Nat.lt_succ_of_lt own, (engaged _ own).mpr busy⟩
    case sole =>
      rw [nextHost, hosts]
      exact orderly.sole
    case queued => exact queue ▸ orderly.queued
    case waiting =>
      intro other member
      rw [queue] at member
      obtain ⟨made, free⟩ := orderly.waiting other member
      rw [entered.next, old other made]
      exact ⟨Nat.lt_succ_of_lt made, free⟩

theorem createIfAbsent_succeeds (mac : Mac) (port : Option PortId) (vlan : Option Nat) :
    (createIfAbsent mac port vlan).Within (succeedsBut env except) := by
  intro world orderly
  rcases createIfAbsent_holds mac port vlan world with ⟨same, _⟩ | ⟨entered, _⟩
  · rw [same]
    exact .of_roll orderly rfl orderly.regular
  · exact entered.succeeds orderly

theorem newHost_regular : (newHost env world device).Regular env where
  remaining := fun _ member => member
  testing := nofun
  scanning := nofun
  ended := by
    intro items name item code present found coded
    cases present
    rw [Dict.get?_insert] at found
    split at found
    · cases found
      cases coded
    · cases found
  closed := nofun
  capturing := nofun
  owned := by
    intro owner _ items name item lines present found given
    cases present
    rw [Dict.get?_insert] at found
    split at found
    · cases found
      cases given
    · cases found
  lived := ⟨none, rfl, nofun⟩
  gated := by
    rintro (past | taken)
    · exact absurd past (by decide : ¬ HostState.PastBase .ready)
    · exact absurd rfl taken

theorem hosted_succeeds (orderly : Orderly env world) (unserved : Unserved world device) :
    Succeeds env (some device) world (world.hosted env device) := by
  have hosts : ∀ host < world.nextHost,
      (world.hosted env device).hosts host = world.hosts host :=
    fun host old => Function.update_of_ne (Nat.ne_of_lt old) _ _
  have fresh : (world.hosted env device).hosts world.nextHost = newHost env world device :=
    Function.update_self _ _ _
  have engaged : ∀ other, world.Engaged other → (world.hosted env device).Engaged other := by
    intro other busy
    by_cases same : other = device
    · exact .inl (by rw [same, hosted_entry]; nofun)
    · unfold World.Engaged
      rw [hosted_other same, hosted_registered]
      exact busy
  constructor
  case next => exact le_refl _
  case nextHost => exact Nat.le_succ _
  case mishaps => exact List.prefix_refl _
  case mac => exact fun other _ => hosted_mac other
  case unregistered => exact fun other _ => mt (hosted_registered other).mp
  case engaged => exact fun other _ _ => engaged other
  case host =>
    intro other _ different _
    exact .inl (congrArg Device.host (hosted_other fun same => different (same ▸ rfl)))
  case gateway =>
    intro other _ different _
    exact .inl (congrArg Device.gateway (hosted_other fun same => different (same ▸ rfl)))
  case device => exact fun host old => congrArg Host.device (hosts host old)
  case orderly =>
    constructor
    case regular =>
      intro host
      by_cases new : host = world.nextHost
      · rw [new, fresh]
        exact newHost_regular
      · have same : (world.hosted env device).hosts host = world.hosts host :=
          Function.update_of_ne new _ _
        rw [same]
        exact orderly.regular host
    case keyed =>
      intro key other stored
      rw [hosted_mac]
      exact orderly.keyed key other stored
    case hosted =>
      intro other host hosted
      by_cases same : other = device
      · rw [same, hosted_entry] at hosted
        cases hosted
        rw [fresh, same]
        exact ⟨Nat.lt_succ_self _, rfl⟩
      · rw [hosted_other same] at hosted
        obtain ⟨old, own⟩ := orderly.hosted other host hosted
        rw [hosts host old]
        exact ⟨Nat.lt_succ_of_lt old, own⟩
    case engaged =>
      intro host old
      rcases Nat.lt_succ_iff_lt_or_eq.mp old with older | rfl
      · rw [hosts host older]
        exact (orderly.engaged host older).imp id (engaged _)
      · rw [fresh]
        refine ⟨unserved.made, .inl ?_⟩
        show ((world.hosted env device).device device).host ≠ none
        rw [hosted_entry]
        nofun
    case sole =>
      intro first made second made' same
      rcases Nat.lt_succ_iff_lt_or_eq.mp made with older | rfl <;>
        rcases Nat.lt_succ_iff_lt_or_eq.mp made' with older' | rfl
      · rw [hosts first older, hosts second older'] at same
        exact orderly.sole first older second older' same
      · rw [hosts first older, fresh] at same
        exact absurd same (unserved.fresh first older)
      · rw [fresh, hosts second older'] at same
        exact absurd same.symm (unserved.fresh second older')
      · rfl
    case queued => exact orderly.queued
    case waiting =>
      intro other member
      have different : other ≠ device := fun same => unserved.unqueued (same ▸ member)
      rw [hosted_other different]
      exact orderly.waiting other member

theorem within_except {α : Type} {program : Run α} (within : program.Within (succeeds env)) :
    program.Within (succeedsBut env except) :=
  fun world orderly => (within world orderly).weaken

theorem startHost_sameRoll (gateway : GatewayId) (host : HostId) :
    (startHost env device gateway host).Within (sameRoll env) := by
  unfold startHost
  refine Exec.within_bind (within_sameRoll_of_advances
    (within_advances (setHost_stays (fun _ _ => rfl) (fun _ _ => rfl)))) fun _ => ?_
  refine Exec.within_bind (within_sameRoll_of_advances initializeHost_advances) fun _ => ?_
  refine Exec.within_bind Exec.within_get fun _ => ?_
  split
  · exact within_sameRoll_of_topologyOnly (directPortTraffic_topologyOnly _ _ _)
  · exact within_sameRoll_of_topologyOnly (directDeviceTraffic_topologyOnly _ _)

theorem bringUp_succeeds {drain : Run Unit} (drained : drain.Within (succeeds env))
    (gateway : GatewayId) (orderly : Orderly env world) (unserved : Unserved world device) :
    (bringUp env drain device gateway).Holds world (fun _ after =>
      Succeeds env (some device) world after) := by
  have counted : Succeeds env (some device) world
      { world with runCount := world.runCount + 1, tick := world.tick + 1 } :=
    .of_roll orderly rfl orderly.regular
  have started : (targetSetHost env device gateway).Holds world (fun _ after =>
      Succeeds env (some device) world after) := by
    refine targetSetHost_holds (fun _ _ => counted) fun _ => ?_
    have hosted := hosted_succeeds counted.orderly (unserved.of_roll rfl)
    have begun : (startHost env device gateway world.nextHost).Within
        (succeedsBut env (some device)) := within_succeedsBut (startHost_sameRoll gateway world.nextHost)
    refine (begun.holds _).mono fun _ after later => ?_
    exact (counted.trans hosted).trans (later hosted.orderly)
  have returned : (do
      targetSetHost env device gateway
      pure true : Run Bool).Holds world (fun _ after => Succeeds env (some device) world after) :=
    started.bind (fun _ _ kept => kept) fun _ _ kept => kept
  unfold bringUp
  refine returned.attempt (fun _ _ kept => kept) fun raised reached kept => ?_
  have failed : (targetSetError env drain device raised).Within (succeedsBut env (some device)) :=
    targetSetError_succeeds (within_except drained) device raised
  exact (failed.holds reached).bind (fun _ _ later => kept.trans (later kept.orderly)) fun _ _ later =>
    kept.trans (later kept.orderly)

theorem joined_succeeds (orderly : Orderly env world) (gateway : GatewayId) :
    Succeeds env (some device) world (world.joined gateway device) := by
  have mac : ∀ other, ((world.joined gateway device).device other).mac =
      (world.device other).mac := setDevice_view Device.mac rfl
  have host : ∀ other, ((world.joined gateway device).device other).host =
      (world.device other).host := setDevice_view Device.host rfl
  have same : (world.joined gateway device).roll.steady = world.roll.steady := by
    unfold World.roll World.Roll.steady
    simp only [funext mac, funext host]
    rfl
  refine .of_steady orderly same orderly.regular orderly.queued (fun _ member => .inl member)
    (List.prefix_refl _) fun other different => .inl ?_
  have elsewhere : other ≠ device := fun equality => different (equality ▸ rfl)
  have untouched : (world.joined gateway device).device other = world.device other :=
    Function.update_of_ne elsewhere _ _
  rw [untouched]

theorem Unserved.joined {gateway : GatewayId} (unserved : Unserved world device) :
    Unserved (world.joined gateway device) device :=
  ⟨unserved.made, unserved.unqueued, unserved.fresh⟩

theorem spent_roll {before after : World} (spent : Spent before after) :
    after.roll = before.roll := by
  obtain ⟨number, core⟩ := spent
  exact (congrArg World.Core.roll core :)

theorem provided_roll {gateway : GatewayId} {before after : World}
    (provided : Provided device gateway before after) : after.roll = before.roll := by
  rcases provided with shared | ⟨_, ⟨number, _, core⟩, _⟩
  · exact roll_of_core shared.core
  · exact (congrArg World.Core.roll core :)

theorem targetSetActivate_succeeds {drain : Run Unit} (drained : drain.Within (succeeds env))
    (orderly : Orderly env world) (unserved : Unserved world device) :
    (targetSetActivate env drain device).Holds world (fun _ after =>
      Succeeds env (some device) world after) := by
  refine targetSetActivate_holds ?_ ?_ ?_
  · rintro after hosts (core | spent)
    · exact .of_roll orderly (roll_of_core core) (orderly.regular.of_hosts hosts)
    · exact .of_roll orderly (spent_roll spent) (orderly.regular.of_hosts hosts)
  · intro reached gateway hosts provided _ after core same
    exact .of_roll orderly ((roll_of_core core).trans (provided_roll provided))
      (orderly.regular.of_hosts (same.trans hosts))
  · intro reached gateway hosts provided _
    have roll := provided_roll provided
    have chosen : Succeeds env (some device) world reached :=
      .of_roll orderly roll (orderly.regular.of_hosts hosts)
    have joined := @joined_succeeds env reached device chosen.orderly gateway
    refine (bringUp_succeeds drained gateway joined.orderly
      (unserved.of_roll roll).joined).mono ?_
    exact fun _ after later => (chosen.trans joined).trans later

theorem enqueue_succeeds (orderly : Orderly env world) (registered : world.Registered device)
    (free : (world.device device).host = none) (unqueued : device ∉ world.targetSetQueue) :
    Succeeds env except world
      { world with targetSetQueue := world.targetSetQueue ++ [device] } := by
  refine .of_steady orderly rfl orderly.regular ?_ ?_ (List.prefix_refl _) fun _ _ => .inl rfl
  · exact List.nodup_append_comm.mp (List.nodup_cons.mpr ⟨unqueued, orderly.queued⟩)
  · intro other member
    rcases List.mem_append.mp member with old | new
    · exact .inl old
    · exact .inr (List.mem_singleton.mp new ▸ ⟨registered, free⟩)

theorem freshPort_roll (device : DeviceId) (world : World) :
    ((freshPort device).run world).2.roll = world.roll := by
  have mac := @setDevice_view _ world Device.mac device
    (fun entry => { entry with port := world.nextPort, waitRemote := true }) rfl
  have host := @setDevice_view _ world Device.host device
    (fun entry => { entry with port := world.nextPort, waitRemote := true }) rfl
  have gateway := @setDevice_view _ world Device.gateway device
    (fun entry => { entry with port := world.nextPort, waitRemote := true }) rfl
  calc
    _ = { world.roll with
          mac := fun other => ((world.setDevice device fun entry =>
            { entry with port := world.nextPort, waitRemote := true }).device other).mac
          host := fun other => ((world.setDevice device fun entry =>
            { entry with port := world.nextPort, waitRemote := true }).device other).host
          gateway := fun other => ((world.setDevice device fun entry =>
            { entry with port := world.nextPort, waitRemote := true }).device other).gateway } :=
      rfl
    _ = world.roll := by
      rw [funext mac, funext host, funext gateway]
      rfl

end Bringing

/-- Order and succession hold along every run. -/
theorem succession : CommandRule env (succeeds env) where
  disorderly := fun _ _ disorderly orderly => absurd orderly disorderly
  succeeds := fun _ _ kept => kept
  still := fun _ _ core hosts orderly =>
    .of_roll orderly (roll_of_core core) (orderly.regular.of_hosts hosts)
  activatePort := fun port => within_succeedsBut (activatePort_sameRoll port)
  createIfAbsent := fun world mac info vlan _ _ => createIfAbsent_succeeds mac info vlan world
  freshPort := fun world device orderly _ _ =>
    .of_roll orderly (freshPort_roll device world) orderly.regular
  undirect := fun world device port _ _ _ => within_succeedsBut
    (within_sameRoll_of_topologyOnly (directPortTraffic_topologyOnly device port none)) world
  enqueue := fun world device _ registered free unqueued orderly =>
    enqueue_succeeds orderly registered free unqueued
  activate := by
    intro drain drained world device orderly wanted _
    obtain ⟨⟨_, _, free⟩, unserved⟩ := orderly.unserved_of_wanted wanted
    have dequeued : Succeeds env (some device) world
        { world with targetSetQueue := world.targetSetQueue.erase device } :=
      dequeue_succeeds device World.trail world orderly
    exact (targetSetActivate_succeeds drained.within dequeued.orderly unserved).mono
      fun _ after later _ => (dequeued.trans later).of_except free
  terminate := fun drain drained world device _ _ _ =>
    targetSetError_succeeds drained.within device _ world
  error := fun drain drained world device raised _ _ _ =>
    targetSetError_succeeds drained.within device raised world
  advance := fun _ _ _ core regular orderly => .of_roll orderly (roll_of_core core) regular
  complete := fun drain drained world device _ _ _ _ =>
    targetSetComplete_succeeds drained.within device world
  terminateGatewaySet := by
    intro drain drained gateway
    unfold terminateGatewaySet
    refine Exec.within_bind Exec.within_get fun _ => ?_
    refine Exec.within_bind (Exec.within_require _) fun _ => ?_
    exact Exec.within_forEach (fun device => targetSetError_succeeds drained.within device _) _
  direct := fun world device gateway _ _ => within_succeedsBut
    (within_sameRoll_of_topologyOnly (directDeviceTraffic_topologyOnly device _)) world

end Daq
