import Daq.Runner.Succession

namespace Daq

variable {env : Env}

/-! Invariants of the runner.  An invariant may be lost in a mishap; what is
recorded as one never goes away, so a state without mishaps had none before. -/

/-- Succession, and an invariant for as long as all mishaps are harmless. -/
def upholding (env : Env) (harmless : Mishap → Prop) (invariant : World → Prop) :
    Frame World where
  rel before after := Orderly env before → Succeeds env none before after ∧
    (((∀ mishap ∈ before.mishaps, harmless mishap) → invariant before) →
      (∀ mishap ∈ after.mishaps, harmless mishap) → invariant after)
  refl := fun _ orderly => ⟨.of_roll orderly rfl orderly.regular, id⟩
  trans := by
    intro first second third earlier later orderly
    obtain ⟨succession, kept⟩ := earlier orderly
    obtain ⟨next, still⟩ := later succession.orderly
    exact ⟨succession.trans next, still ∘ kept⟩

/-- The state has seen harmless mishaps only, and satisfies the invariant. -/
structure Upheld (harmless : Mishap → Prop) (invariant : World → Prop) (world : World) :
    Prop where
  fine : ∀ mishap ∈ world.mishaps, harmless mishap
  holds : invariant world

variable {harmless : Mishap → Prop} {invariant : World → Prop}

/-- What an invariant has to withstand while events are handled. -/
structure EventInvariant (env : Env) (harmless : Mishap → Prop) (invariant : World → Prop) :
    Prop where
  advance : ∀ before after, Orderly env before → after.core = before.core →
    after.Regular env → invariant before → invariant after
  activatePort : ∀ world port, Orderly env world → Upheld harmless invariant world →
    (activatePort port).Holds world (fun _ after => invariant after)
  createIfAbsent : ∀ world mac info vlan, Orderly env world → Upheld harmless invariant world →
    (∀ port, info = some port → env.config.vlanTrigger = false ∧
      ∃ number, world.ports.get? number = some port ∧ 0 < number ∧
        number < env.config.secPort) →
    ∀ after, Entered mac info vlan world after → (∀ mishap ∈ after.mishaps, harmless mishap) →
      invariant after
  freshPort : ∀ world device, Orderly env world → Upheld harmless invariant world →
    world.Registered device →
    (freshPort device).Holds world (fun _ after => invariant after)
  undirect : ∀ world device port, Orderly env world → Upheld harmless invariant world →
    world.Registered device → (world.device device).host = none →
    (directPortTraffic env device port none).Holds world (fun _ after => invariant after)
  enqueue : ∀ world device, Orderly env world → Upheld harmless invariant world →
    world.Registered device → (world.device device).host = none → device ∉ world.targetSetQueue →
    invariant { world with targetSetQueue := world.targetSetQueue ++ [device] }
  activate : ∀ drain : Run Unit, Drains (upholding env harmless invariant) drain →
    ∀ world device, Orderly env world → Upheld harmless invariant world →
    device ∈ world.targetSetQueue ∨ (world.Registered device ∧
      (world.device device).host = none ∧ device ∉ world.targetSetQueue) →
    TargetSetHasCapacity env world →
    (targetSetActivate env drain device).Holds
      { world with targetSetQueue := world.targetSetQueue.erase device }
      (fun _ after => (∀ mishap ∈ after.mishaps, harmless mishap) → invariant after)
  error : ∀ drain : Run Unit, Drains (upholding env harmless invariant) drain →
    ∀ world device raised, Orderly env world → Upheld harmless invariant world →
    device < world.devices.next → world.Engaged device →
    (targetSetError env drain device raised).Holds world
      (fun _ after => (∀ mishap ∈ after.mishaps, harmless mishap) → invariant after)

/-- What an invariant has to withstand. -/
structure RunnerInvariant (env : Env) (harmless : Mishap → Prop) (invariant : World → Prop) :
    Prop extends EventInvariant env harmless invariant where
  complete : ∀ drain : Run Unit, Drains (upholding env harmless invariant) drain →
    ∀ world device host, Orderly env world → Upheld harmless invariant world →
    (world.device device).host = some host → ¬ IsRunning (world.hosts host) →
    (targetSetComplete env drain device).Holds world
      (fun _ after => (∀ mishap ∈ after.mishaps, harmless mishap) → invariant after)
  terminateGatewaySet : ∀ drain : Run Unit, Drains (upholding env harmless invariant) drain →
    ∀ world gateway, Orderly env world → Upheld harmless invariant world →
    (terminateGatewaySet env drain gateway).Holds world
      (fun _ after => (∀ mishap ∈ after.mishaps, harmless mishap) → invariant after)
  direct : ∀ world device gateway, Orderly env world → Upheld harmless invariant world →
    (world.device device).gateway = some gateway →
    (directDeviceTraffic env device (some (world.gateways gateway).portSet.val)).Holds world
      (fun _ after => invariant after)

theorem Upheld.of_succeeds {except : Option DeviceId} {before after : World}
    (succeeds : Succeeds env except before after)
    (fine : ∀ mishap ∈ after.mishaps, harmless mishap) :
    ∀ mishap ∈ before.mishaps, harmless mishap :=
  fun mishap member => fine mishap (succeeds.mishaps.subset member)

theorem upholding_holds {α : Type} {program : Run α} {world start : World}
    (succession : program.Holds start (fun _ after => (succeeds env).rel world after))
    (kept : Orderly env world → Upheld harmless invariant world →
      program.Holds start (fun _ after =>
        (∀ mishap ∈ after.mishaps, harmless mishap) → invariant after)) :
    program.Holds start (fun _ after => (upholding env harmless invariant).rel world after) := by
  intro orderly
  have succeeds := succession orderly
  refine ⟨succeeds, fun before fine => ?_⟩
  have earlier := Upheld.of_succeeds succeeds fine
  exact kept orderly ⟨earlier, before earlier⟩ fine

theorem Drains.succeeds {drain : Run Unit}
    (drained : Drains (upholding env harmless invariant) drain) :
    Drains (succeeds env) drain :=
  ⟨fun world orderly => (drained.within world orderly).1, drained.idle⟩

/-- What is upheld by programs that concern a device that is engaged, which it
stays. -/
def serving (env : Env) (harmless : Mishap → Prop) (invariant : World → Prop)
    (device : DeviceId) : Frame World where
  rel before after := device < before.devices.next → before.Engaged device →
    (upholding env harmless invariant).rel before after
  refl := fun _ _ _ => (upholding env harmless invariant).refl _
  trans := by
    intro first second third earlier later made engaged orderly
    have kept := earlier made engaged
    have succession := (kept orderly).1
    exact (upholding env harmless invariant).trans kept
      (later (made.trans_le succession.next) (succession.engaged device made nofun engaged)) orderly

theorem within_serving {α : Type} {program : Run α} {device : DeviceId}
    (within : program.Within (upholding env harmless invariant)) :
    program.Within (serving env harmless invariant device) :=
  fun world _ _ => within world

theorem within_upholding_of_sameRoll {α : Type} {program : Run α}
    (stable : ∀ before after : World, after.roll = before.roll → invariant before →
      invariant after)
    (within : program.Within (sameRoll env)) :
    program.Within (upholding env harmless invariant) := by
  intro world orderly
  obtain ⟨same, regular⟩ := within world orderly.regular
  have mishaps : ((program.run world).2).mishaps = world.mishaps := congrArg World.Roll.mishaps same
  exact ⟨.of_roll orderly same regular, fun holds fine => stable _ _ same (holds (mishaps ▸ fine))⟩

namespace EventInvariant

theorem still (upholds : EventInvariant env harmless invariant) {before after : World}
    (core : after.core = before.core) (hosts : after.hosts = before.hosts) :
    (upholding env harmless invariant).rel before after := by
  intro orderly
  have mishaps : after.mishaps = before.mishaps := congrArg World.Core.mishaps core
  have regular := orderly.regular.of_hosts hosts
  refine ⟨.of_roll orderly (roll_of_core core) regular, fun holds fine => ?_⟩
  exact upholds.advance before after orderly core regular (holds (mishaps ▸ fine))

theorem rule (upholds : EventInvariant env harmless invariant) :
    EventRule env (upholding env harmless invariant) where
  disorderly := fun _ _ disorderly orderly => absurd orderly disorderly
  succeeds := fun _ _ kept orderly => (kept orderly).1
  still := fun _ _ => upholds.still
  activatePort := fun port world => upholding_holds (succession.activatePort port world)
    fun orderly upheld => (upholds.activatePort world port orderly upheld).mono
      fun _ _ after _ => after
  createIfAbsent := by
    intro world mac info vlan orderly known
    refine upholding_holds (succession.createIfAbsent world mac info vlan orderly known)
      fun orderly upheld => ?_
    refine (createIfAbsent_holds mac info vlan world).mono ?_
    rintro outcome after (⟨rfl, _⟩ | ⟨entered, _⟩) fine
    · exact upheld.holds
    · exact upholds.createIfAbsent world mac info vlan orderly upheld known after entered fine
  freshPort := fun world device orderly registered => upholding_holds
    (succession.freshPort world device orderly registered)
    fun orderly upheld => (upholds.freshPort world device orderly upheld registered).mono
      fun _ _ after _ => after
  undirect := fun world device port orderly registered free => upholding_holds
    (succession.undirect world device port orderly registered free)
    fun orderly upheld => (upholds.undirect world device port orderly upheld registered free).mono
      fun _ _ after _ => after
  enqueue := by
    intro world device _ registered free unqueued orderly
    refine ⟨succession.enqueue world device orderly registered free unqueued orderly,
      fun holds fine => ?_⟩
    exact upholds.enqueue world device orderly ⟨fine, holds fine⟩ registered free unqueued
  activate := fun drain drained world device orderly wanted capacity => upholding_holds
    (succession.activate drain drained.succeeds world device orderly wanted
      capacity)
    fun orderly upheld => upholds.activate drain drained world device orderly upheld wanted capacity
  terminate := fun drain drained world device orderly made engaged => upholding_holds
    (succession.error drain drained.succeeds world device _ orderly made engaged)
    fun orderly upheld => upholds.error drain drained world device _ orderly upheld made engaged

/-- A gateway's devices are failed one after the other; where all registered
devices with a gateway have a host, this is like any other failure. -/
theorem terminateGatewaySet (upholds : EventInvariant env harmless invariant)
    (occupied : ∀ world device, Orderly env world → invariant world → world.Registered device →
      (world.device device).gateway ≠ none → (world.device device).host ≠ none)
    {drain : Run Unit} (drained : Drains (upholding env harmless invariant) drain)
    (world : World) (gateway : GatewayId) (orderly : Orderly env world)
    (upheld : Upheld harmless invariant world) :
    (terminateGatewaySet env drain gateway).Holds world
      (fun _ after => (∀ mishap ∈ after.mishaps, harmless mishap) → invariant after) := by
  unfold Daq.terminateGatewaySet
  rw [Exec.holds_bind, Exec.holds_get, Exec.then_ok, Exec.holds_bind, Exec.holds_require]
  refine ⟨fun _ => ?_, fun _ _ => upheld.holds⟩
  rw [Exec.then_ok]
  have looped := upholds.rule.forEach_engaged (fun world device orderly made engaged =>
    upholds.rule.terminate drain drained world device orderly made engaged)
    (getByGateway world gateway) orderly (by
      intro device member
      obtain ⟨listed, attached⟩ := List.mem_filter.mp member
      have registered := orderly.registered_of_mem listed
      have present : (world.device device).gateway ≠ none := by
        rw [of_decide_eq_true attached]
        nofun
      exact ⟨orderly.lt_of_registered registered,
        .inl (occupied world device orderly upheld.holds registered present)⟩)
  exact looped.mono fun _ after kept fine => (kept orderly).2 (fun _ => upheld.holds) fine

end EventInvariant

namespace RunnerInvariant

theorem rule (upholds : RunnerInvariant env harmless invariant) :
    CommandRule env (upholding env harmless invariant) where
  toEventRule := upholds.toEventInvariant.rule
  advance := by
    intro before after regular core regular' orderly
    have mishaps : after.mishaps = before.mishaps := congrArg World.Core.mishaps core
    refine ⟨.of_roll orderly (roll_of_core core) regular', fun holds fine => ?_⟩
    exact upholds.advance before after orderly core regular' (holds (mishaps ▸ fine))
  error := fun drain drained world device raised orderly made engaged => upholding_holds
    (succession.error drain drained.succeeds world device raised orderly made engaged)
    fun orderly upheld => upholds.error drain drained world device raised orderly upheld made engaged
  complete := fun drain drained world device host orderly hosted ended => upholding_holds
    (succession.complete drain drained.succeeds world device host orderly
      hosted ended)
    fun orderly upheld => upholds.complete drain drained world device host orderly upheld hosted ended
  terminateGatewaySet := fun drain drained gateway world => upholding_holds
    (succession.terminateGatewaySet drain drained.succeeds gateway world)
    fun orderly upheld => upholds.terminateGatewaySet drain drained world gateway orderly upheld
  direct := fun world device gateway orderly attached => upholding_holds
    (succession.direct world device gateway orderly attached)
    fun orderly upheld => (upholds.direct world device gateway orderly upheld attached).mono
      fun _ _ after _ => after

end RunnerInvariant

theorem initialWorld_orderly : Orderly env (initialWorld env) where
  regular := by
    intro host
    refine ⟨nofun, nofun, nofun, nofun, nofun, nofun, nofun, ⟨none, rfl, nofun⟩, ?_⟩
    rintro (past | taken)
    · exact absurd past (by decide : ¬ HostState.PastBase .ready)
    · exact absurd rfl taken
  keyed := nofun
  hosted := nofun
  engaged := nofun
  sole := nofun
  queued := List.nodup_nil
  waiting := nofun

theorem startWorld_orderly : Orderly env (startWorld env) := by
  unfold startWorld
  split
  · -- a native gateway is in no one's way
    have orderly : Orderly env (initialWorld env) := initialWorld_orderly
    exact ⟨orderly.regular, orderly.keyed, orderly.hosted, orderly.engaged, orderly.sole,
      orderly.queued, orderly.waiting⟩
  · exact initialWorld_orderly

theorem started_orderly {world : World} (reached : Started env world) : Orderly env world :=
  (succession.reaches reached startWorld_orderly).orderly

/-- An invariant that holds initially holds in every state that is reached
without a harmful mishap. -/
theorem RunnerInvariant.started (upholds : RunnerInvariant env harmless invariant)
    (initial : invariant (startWorld env)) {world : World} (reached : Started env world)
    (fine : ∀ mishap ∈ world.mishaps, harmless mishap) : invariant world :=
  (upholds.rule.reaches reached startWorld_orderly).2 (fun _ => initial) fine

end Daq
