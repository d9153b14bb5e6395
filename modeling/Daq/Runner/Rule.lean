import Daq.Runner.Orderly

namespace Daq

variable {env : Env}

/-! A rule for whatever the runner keeps.  Finalizing a device may process
events before the device has left the registry, so taking a device down and
bringing one up are judged with any event processing that keeps the frame; the
processing itself then keeps it by induction on the events.  The rest of the
runner is put together from these two and a few small writes. -/

/-- A way to process events that keeps the frame, and does nothing if there are
no events. -/
structure Drains (frame : Frame World) (drain : Run Unit) : Prop where
  within : drain.Within frame
  idle : ∀ world, world.faucetEvents = false ∨ world.pending = [] →
    drain.run world = (.ok (), world)

theorem handleFaucetEvents_idle {world : World}
    (idle : world.faucetEvents = false ∨ world.pending = []) (fuel : Nat)
    (previous : Option FaucetEvent) :
    (handleFaucetEvents env fuel previous).run world = (.ok (), world) := by
  cases fuel with
  | zero => rfl
  | succ fuel =>
      unfold handleFaucetEvents
      rw [Exec.get_bind_run]
      split
      · rfl
      · rfl
      · rename_i connected received
        rcases idle with disconnected | empty
        · exact absurd (connected.symm.trans disconnected) (by decide)
        · exact absurd (received.symm.trans empty) (by nofun)

/-- The frame is kept by all that handling a faucet event consists of. -/
structure EventRule (env : Env) (frame : Frame World) : Prop where
  disorderly : ∀ before after, ¬ Orderly env before → frame.rel before after
  succeeds : ∀ before after, frame.rel before after → (succeeds env).rel before after
  still : ∀ before after, after.core = before.core → after.hosts = before.hosts →
    frame.rel before after
  activatePort : ∀ port, (activatePort port).Within frame
  /-- A learned port is one of the runner's own. -/
  createIfAbsent : ∀ world mac info vlan, Orderly env world →
    (∀ port, info = some port → env.config.vlanTrigger = false ∧
      ∃ number, world.ports.get? number = some port ∧ 0 < number ∧
        number < env.config.secPort) →
    (createIfAbsent mac info vlan).Holds world (fun _ after => frame.rel world after)
  freshPort : ∀ world device, Orderly env world → world.Registered device →
    (freshPort device).Holds world (fun _ after => frame.rel world after)
  undirect : ∀ world device port, Orderly env world → world.Registered device →
    (world.device device).host = none →
    (directPortTraffic env device port none).Holds world (fun _ after => frame.rel world after)
  enqueue : ∀ world device, Orderly env world → world.Registered device →
    (world.device device).host = none → device ∉ world.targetSetQueue →
    frame.rel world { world with targetSetQueue := world.targetSetQueue ++ [device] }
  /-- The device is a queued one, or was not queued and is triggered. -/
  activate : ∀ drain : Run Unit, Drains frame drain → ∀ world device, Orderly env world →
    device ∈ world.targetSetQueue ∨ (world.Registered device ∧
      (world.device device).host = none ∧ device ∉ world.targetSetQueue) →
    TargetSetHasCapacity env world →
    (targetSetActivate env drain device).Holds
      { world with targetSetQueue := world.targetSetQueue.erase device }
      (fun _ after => frame.rel world after)
  terminate : ∀ drain : Run Unit, Drains frame drain → ∀ world device, Orderly env world →
    device < world.devices.next → world.Engaged device →
    (targetSetError env drain device (.daqException "terminated")).Holds world
      (fun _ after => frame.rel world after)

namespace EventRule

variable {frame : Frame World} (rule : EventRule env frame)
include rule

theorem within {α : Type} {program : Run α}
    (holds : ∀ world, Orderly env world →
      program.Holds world (fun _ after => frame.rel world after)) :
    program.Within frame := by
  intro world
  by_cases orderly : Orderly env world
  · exact holds world orderly
  · exact rule.disorderly _ _ orderly

theorem within_still {update : World → World}
    (core : ∀ world, (update world).core = world.core)
    (hosts : ∀ world, (update world).hosts = world.hosts) :
    (Exec.modify update : Run Unit).Within frame :=
  Exec.within_modify fun world => rule.still _ _ (core world) (hosts world)

theorem within_callOut (op : Op) : (callOut env op).Within frame := by
  intro world
  rw [callOut_run_snd]
  exact rule.still _ _ rfl rfl

theorem within_setPortInfo {info : PortId} {change : World → PortInfo → PortInfo}
    (same : ∀ world entry, (change world entry).portNo = entry.portNo) :
    (Exec.modify fun world => world.setPortInfo info (change world) : Run Unit).Within frame :=
  rule.within_still (fun _ => setPortInfo_core (same _ _)) fun _ => rfl

theorem within_notePort {info : World → PortId} {change : World → PortInfo → PortInfo}
    {notes : World → List Happening}
    (same : ∀ world entry, (change world entry).portNo = entry.portNo) :
    (Exec.modify fun world =>
      (world.setPortInfo (info world) (change world)).note (notes world) : Run Unit).Within frame :=
  rule.within_still (fun _ => (note_core _ _).trans (setPortInfo_core (same _ _))) fun _ => rfl

theorem within_setDevice {device : DeviceId} {change : World → Device → Device}
    (same : ∀ world entry, (change world entry).core = entry.core) :
    (Exec.modify fun world => world.setDevice device (change world) : Run Unit).Within frame :=
  rule.within_still (fun _ => setDevice_core (same _ _)) fun _ => rfl

theorem sendHeartbeat : (sendHeartbeat env).Within frame :=
  Exec.within_bind (rule.within_callOut _) fun _ =>
    Exec.within_when (rule.within_still (fun _ => rfl) fun _ => rfl)

theorem handlePortDown (port : Nat) (info : PortId) :
    (handlePortDown env port info).Within frame := by
  refine rule.within fun world orderly => ?_
  have tail : ∀ (entry : PortInfo) (world : World),
      (∀ device, getByPortInfo world info = some device → ¬ Truthy entry.flappingStart →
        (world.device device).host = none) → Orderly env world →
      (Exec.when (entry.active = true) do
        Exec.whenSome (getByPortInfo world info) fun device =>
          Exec.when (¬ Truthy entry.flappingStart) (directPortTraffic env device port none)
        deactivatePort info).Holds world (fun _ after => frame.rel world after) := by
    intro entry world idle orderly
    rw [Exec.holds_when]
    refine ⟨fun _ => ?_, fun _ => frame.refl _⟩
    have undirected : (Exec.whenSome (getByPortInfo world info) fun device =>
        Exec.when (¬ Truthy entry.flappingStart)
          (directPortTraffic env device port none)).Holds world
            (fun _ after => frame.rel world after) := by
      rw [Exec.holds_whenSome]
      refine ⟨fun _ => frame.refl _, fun device found => ?_⟩
      rw [Exec.holds_when]
      refine ⟨fun still => ?_, fun _ => frame.refl _⟩
      have registered := orderly.registered_of_mem (List.mem_of_find?_eq_some found)
      exact rule.undirect world device port orderly registered (idle device found still)
    refine undirected.bind (fun _ _ kept => kept) fun _ reached kept => ?_
    have marked : (deactivatePort info).Within frame := rule.within_setPortInfo fun _ _ => rfl
    exact (marked.holds reached).mono fun _ _ later => frame.trans kept later
  unfold Daq.handlePortDown
  rw [Exec.holds_bind, Exec.holds_get, Exec.then_ok, Exec.holds_bind, Exec.holds_when]
  refine ⟨fun running => ?_, fun running => ?_⟩
  · -- a running device starts flapping and keeps its traffic
    rw [Exec.holds_modify, Exec.then_ok, Exec.holds_bind, Exec.holds_read, Exec.then_ok]
    have flapping : (Exec.modify fun world => (world.setPortInfo info fun entry =>
        { entry with flappingStart := some (env.now world) }).note
          [.portDown info (env.now world)] : Run Unit).Within frame :=
      rule.within_notePort fun _ _ => rfl
    have kept := flapping world
    refine (tail _ _ (fun device _ still => absurd ?_ still) ?_).mono fun _ _ later =>
      frame.trans kept later
    · have started := env.now_pos world
      simp [World.note, World.setPortInfo, Truthy]
      omega
    · exact (rule.succeeds _ _ kept orderly).orderly
  · rw [Exec.then_ok, Exec.holds_bind, Exec.holds_read, Exec.then_ok]
    refine tail _ world (fun device found still => ?_) orderly
    by_contra hosted
    refine running ⟨?_, still⟩
    rw [found]
    simpa [Option.isSome_iff_ne_none] using hosted

theorem forEach_engaged {body : DeviceId → Run Unit}
    (each : ∀ world device, Orderly env world → device < world.devices.next →
      world.Engaged device → (body device).Holds world (fun _ after => frame.rel world after))
    (devices : List DeviceId) {world : World} (orderly : Orderly env world)
    (engaged : ∀ device ∈ devices, device < world.devices.next ∧ world.Engaged device) :
    (Exec.forEach devices body).Holds world (fun _ after => frame.rel world after) := by
  refine Exec.holds_forEach (fun rest reached => frame.rel world reached ∧ Orderly env reached ∧
    ∀ device ∈ rest, device < reached.devices.next ∧ reached.Engaged device)
    (fun _ before => before.1) ?_ devices ⟨frame.refl _, orderly, engaged⟩
  rintro head tail reached ⟨kept, orderly, engaged⟩
  obtain ⟨made, own⟩ := engaged head (.head _)
  refine (each reached head orderly made own).mono fun outcome after later => ?_
  have succession := rule.succeeds _ _ later orderly
  refine ⟨fun _ => ⟨frame.trans kept later, succession.orderly, fun device inside => ?_⟩,
    fun _ _ => frame.trans kept later⟩
  obtain ⟨made, own⟩ := engaged device (.tail _ inside)
  exact ⟨made.trans_le succession.next, succession.engaged device made nofun own⟩

section Drain

variable {drain : Run Unit} (drained : Drains frame drain)
include drained

theorem terminateAll : (terminateAll env drain).Within frame := by
  refine rule.within fun world orderly => ?_
  unfold Daq.terminateAll
  rw [Exec.holds_bind, Exec.holds_get, Exec.then_ok]
  exact rule.forEach_engaged (fun world device orderly made engaged =>
    rule.terminate drain drained world device orderly made engaged) _ orderly
    orderly.triggered_engaged

theorem shutdown : (shutdown env drain).Within frame :=
  Exec.within_bind (rule.terminateAll drained) fun _ =>
    Exec.within_bind (rule.within_still (fun _ => rfl) fun _ => rfl) fun _ => rule.sendHeartbeat

theorem handlePortState (dpid port : Nat) (active : Bool) :
    (handlePortState env drain dpid port active).Within frame := by
  unfold Daq.handlePortState
  refine Exec.within_bind Exec.within_get fun world => Exec.within_ite ?_ ?_
  · refine Exec.within_bind (Exec.within_when ?_) fun _ =>
      rule.within_still (fun _ => rfl) fun _ => rfl
    exact Exec.within_bind (rule.within_still (fun _ => rfl) fun _ => rfl) fun _ =>
      rule.shutdown drained
  · refine Exec.within_when (Exec.within_bind (Exec.within_when (rule.activatePort port))
      fun _ => ?_)
    refine Exec.within_bind (Exec.within_when (Exec.within_whenSome _ fun info =>
      rule.handlePortDown port info)) fun _ => rule.sendHeartbeat

theorem targetSetTrigger (device : DeviceId) (remote : Bool) :
    (targetSetTrigger env drain device remote).Within frame := by
  refine rule.within fun world orderly => ?_
  unfold Daq.targetSetTrigger
  rw [Exec.holds_bind, Exec.holds_get, Exec.then_ok, Exec.holds_bind, Exec.holds_require]
  refine ⟨fun registered => ?_, fun _ => frame.refl _⟩
  rw [Exec.then_ok, Exec.holds_ite]
  refine ⟨fun _ => frame.refl _, fun wanted => ?_⟩
  have hosted : (world.device device).host = none := by
    by_contra other
    exact wanted (.inr (.inl (Option.isSome_iff_ne_none.mpr other)))
  have unqueued : device ∉ world.targetSetQueue := fun queued =>
    wanted (.inr (.inr (.inr (.inr queued))))
  have own : ∀ other, ((world.setDevice device fun entry =>
      { entry with waitRemote := false }).device other).host = (world.device other).host :=
    setDevice_view Device.host rfl
  rw [Exec.holds_bind, Exec.holds_modify, Exec.then_ok]
  generalize (Happening.triggered device :: if TargetSetHasCapacity env world then
    [Happening.activated device false world.targetSetQueue] else []) = notes
  have kept : frame.rel world ((world.setDevice device fun entry =>
      { entry with waitRemote := false }).note notes) :=
    rule.still _ _ ((note_core _ _).trans (setDevice_core rfl)) rfl
  have later := (rule.succeeds _ _ kept orderly).orderly
  have free : (((world.setDevice device fun entry =>
      { entry with waitRemote := false }).note notes).device device).host = none :=
    (own device).trans hosted
  have still : ((world.setDevice device fun entry =>
      { entry with waitRemote := false }).note notes).Registered device := by
    have mac : ((world.setDevice device fun entry =>
        { entry with waitRemote := false }).device device).mac = (world.device device).mac :=
      setDevice_view Device.mac rfl device
    exact (congrArg world.devices.table.get? mac).trans registered
  rw [Exec.holds_ite]
  refine ⟨fun capacity => ?_, fun _ => ?_⟩
  · have room : TargetSetHasCapacity env ((world.setDevice device fun entry =>
        { entry with waitRemote := false }).note notes) := by
      unfold TargetSetHasCapacity getTriggeredDevices registeredDevices at capacity ⊢
      have triggered : ∀ other, (((world.setDevice device fun entry =>
          { entry with waitRemote := false }).note notes).device other).host =
            (world.device other).host := own
      simp only [triggered]
      exact capacity
    have activated := rule.activate drain drained _ device later
      (.inr ⟨still, free, unqueued⟩) room
    have same : ((world.setDevice device fun entry =>
        { entry with waitRemote := false }).note notes).targetSetQueue.erase device =
        ((world.setDevice device fun entry =>
          { entry with waitRemote := false }).note notes).targetSetQueue :=
      List.erase_of_not_mem unqueued
    rw [same] at activated
    refine activated.bind (fun _ _ last => frame.trans kept last) fun _ _ last => ?_
    exact frame.trans kept last
  · rw [Exec.holds_modify]
    have queued := rule.enqueue _ device later still free unqueued
    exact frame.trans kept (frame.trans queued (rule.still _ _ rfl rfl))

theorem targetSetConsider : (targetSetConsider env drain).Within frame := by
  refine rule.within fun world orderly => ?_
  unfold Daq.targetSetConsider
  rw [Exec.holds_bind, Exec.holds_get, Exec.then_ok]
  cases queue : world.targetSetQueue with
  | nil => exact frame.refl _
  | cons device rest =>
      rw [Exec.holds_ite]
      refine ⟨fun capacity => ?_, fun _ => frame.refl _⟩
      rw [Exec.holds_bind, Exec.holds_modify, Exec.then_ok]
      have noted : frame.rel world (world.note [.activated device true rest]) :=
        rule.still _ _ rfl rfl
      have later := (rule.succeeds _ _ noted orderly).orderly
      have first : device ∈ (world.note [.activated device true rest]).targetSetQueue :=
        queue ▸ .head _
      have activated := rule.activate drain drained _ device later (.inl first) capacity
      have popped : (world.note [.activated device true rest]).targetSetQueue.erase device =
          rest := by
        rw [show (world.note [.activated device true rest]).targetSetQueue = device :: rest from
          queue, List.erase_cons_head]
      rw [popped] at activated
      exact activated.bind (fun _ _ last => frame.trans noted last) fun _ _ last =>
        frame.trans noted last

theorem handlePortLearn (dpid port : Nat) (mac : Mac) (numbered : port ≠ 0)
    (untriggered : env.config.vlanTrigger = false) :
    (handlePortLearn env drain dpid port mac).Within frame := by
  refine rule.within fun world orderly => ?_
  unfold Daq.handlePortLearn
  rw [Exec.holds_bind, Exec.holds_get, Exec.then_ok]
  cases stored : world.ports.get? port with
  | none => exact frame.refl _
  | some info =>
      rw [Exec.holds_ite]
      refine ⟨fun usable => ?_, fun _ => frame.refl _⟩
      have learned := rule.createIfAbsent world mac (some info) none orderly (by
        intro other equality
        cases equality
        exact ⟨untriggered, port, stored, Nat.pos_of_ne_zero numbered, usable.1.2⟩)
      refine learned.bind (fun _ _ kept => kept) fun device reached kept => ?_
      exact ((rule.targetSetTrigger drained device false).holds reached).mono fun _ _ later =>
        frame.trans kept later

theorem handleDeviceLearn (mac : Mac) (vid : Option Nat) :
    (handleDeviceLearn env drain mac vid).Within frame := by
  refine rule.within fun world orderly => ?_
  unfold Daq.handleDeviceLearn
  have created := (rule.createIfAbsent world mac none vid orderly nofun).and
    (createIfAbsent_registered orderly)
  refine created.bind (fun _ _ kept => kept.1) fun device reached made => ?_
  obtain ⟨kept, registered⟩ := made
  have moded : frame.rel reached (reached.setDevice device fun entry =>
      { entry with dhcpMode := some .external }) :=
    rule.still _ _ (setDevice_core rfl) rfl
  have later := (rule.succeeds _ _ (frame.trans kept moded) orderly).orderly
  have still : (reached.setDevice device fun entry =>
      { entry with dhcpMode := some .external }).Registered device := by
    unfold World.Registered
    rw [setDevice_view Device.mac rfl]
    exact registered device rfl
  rw [Exec.holds_bind, Exec.holds_modify, Exec.then_ok, Exec.holds_ite]
  refine ⟨fun _ => ?_, fun _ => ?_⟩
  · rw [Exec.holds_bind, Exec.holds_read, Exec.then_ok, Exec.holds_when]
    refine ⟨fun _ => ?_, fun _ => frame.trans kept moded⟩
    exact (rule.freshPort _ device later still).mono fun _ _ last =>
      frame.trans (frame.trans kept moded) last
  · exact ((rule.targetSetTrigger drained device false).holds _).mono fun _ _ last =>
      frame.trans (frame.trans kept moded) last

theorem processFaucetEvent (event : FaucetEvent) :
    (processFaucetEvent env drain event).Within frame := by
  cases event with
  | configChange dpid => exact Exec.within_pure _
  | portState dpid port active =>
      exact Exec.within_ite (rule.handlePortState drained dpid port active) (Exec.within_pure _)
  | portLearn dpid port mac vid =>
      simp only [Daq.processFaucetEvent]
      split
      · rename_i given
        split
        · exact Exec.within_ite (rule.handleDeviceLearn drained mac _) (Exec.within_pure _)
        · rename_i untriggered
          exact rule.handlePortLearn drained dpid port mac given.2.1
            (Bool.eq_false_iff.mpr untriggered)
      · exact Exec.within_pure _

end Drain

theorem handleFaucetEvents : ∀ (fuel : Nat) (previous : Option FaucetEvent),
    (handleFaucetEvents env fuel previous).Within frame
  | 0, _ => Exec.within_pure _
  | fuel + 1, previous => by
      have inner := handleFaucetEvents fuel
      unfold Daq.handleFaucetEvents
      refine Exec.within_bind Exec.within_get fun world => ?_
      split
      · exact Exec.within_pure _
      · exact Exec.within_pure _
      · rename_i item rest _ _
        refine Exec.within_bind (rule.within_still (fun _ => rfl) fun _ => rfl) fun _ => ?_
        cases item with
        | disconnected => exact Exec.within_bind (rule.within_callOut _) fun _ => inner previous
        | failure raised =>
            refine Exec.within_bind (rule.within_still (fun _ => rfl) fun _ => rfl) fun _ => ?_
            exact Exec.within_bind (rule.shutdown ⟨inner none, fun _ idle =>
              handleFaucetEvents_idle idle fuel none⟩) fun _ =>
              Exec.within_whenSome _ fun _ => Exec.within_raise _
        | event event =>
            exact Exec.within_bind (rule.processFaucetEvent ⟨inner none, fun _ idle =>
              handleFaucetEvents_idle idle fuel none⟩ event) fun _ => inner (some event)

theorem handleReceivedEvents : Drains frame (handleReceivedEvents env) where
  within := Exec.within_bind Exec.within_get fun _ => rule.handleFaucetEvents _ none
  idle := fun _ idle => handleFaucetEvents_idle idle _ none

end EventRule

/-- The frame is also kept by hosts that go through their stages, by devices
that fail or complete, and by what sessions and gateways ask for. -/
structure CommandRule (env : Env) (frame : Frame World) : Prop extends EventRule env frame where
  advance : ∀ before after, before.Regular env → after.core = before.core →
    after.Regular env → frame.rel before after
  error : ∀ drain : Run Unit, Drains frame drain → ∀ world device raised, Orderly env world →
    device < world.devices.next → world.Engaged device →
    (targetSetError env drain device raised).Holds world (fun _ after => frame.rel world after)
  complete : ∀ drain : Run Unit, Drains frame drain → ∀ world device host, Orderly env world →
    (world.device device).host = some host → ¬ IsRunning (world.hosts host) →
    (targetSetComplete env drain device).Holds world (fun _ after => frame.rel world after)
  terminateGatewaySet : ∀ drain : Run Unit, Drains frame drain → ∀ gateway,
    (terminateGatewaySet env drain gateway).Within frame
  direct : ∀ world device gateway, Orderly env world →
    (world.device device).gateway = some gateway →
    (directDeviceTraffic env device (some (world.gateways gateway).portSet.val)).Holds world
      (fun _ after => frame.rel world after)

namespace CommandRule

variable {frame : Frame World} (rule : CommandRule env frame)

/-- What a program keeps from states in which the host exists. -/
def live (host : HostId) : Frame World where
  rel before after := host < before.nextHost → frame.rel before after
  refl := fun _ _ => frame.refl _
  trans := by
    intro first second third earlier later made
    by_cases orderly : Orderly env first
    · have kept := earlier made
      exact frame.trans kept
        (later (made.trans_le (rule.succeeds _ _ kept orderly).nextHost))
    · exact rule.disorderly _ _ orderly

variable {host : HostId} {α : Type} {program : Run α}

theorem within_live (within : program.Within frame) : program.Within (rule.live host) :=
  fun world _ => within world

include rule

theorem within_advances (within : program.Within (advances env)) : program.Within frame := by
  refine rule.within fun world orderly => ?_
  obtain ⟨core, regular, _⟩ := within world orderly.regular trivial
  exact rule.advance _ _ orderly.regular core regular

theorem advances_live (within : program.Within (advances env)) :
    program.Within (rule.live host) :=
  rule.within_live (rule.within_advances within)

/-- The device of a host that exists is engaged, and stays so. -/
theorem error_of_host {drain : Run Unit} (drained : Drains frame drain) {world reached : World}
    (orderly : Orderly env world) (made : host < world.nextHost)
    (kept : frame.rel world reached) (raised : Exc) :
    (targetSetError env drain (world.hosts host).device raised).Holds reached
      (fun _ after => frame.rel reached after) := by
  obtain ⟨own, engaged⟩ := orderly.engaged host made
  have succession := rule.succeeds _ _ kept orderly
  exact rule.error drain drained reached _ raised succession.orderly
    (own.trans_le succession.next) (succession.engaged _ own nofun engaged)

/-- Steps of a host that lead to a state with some property, and what follows
from there. -/
theorem advance_then {β : Type} {first : Run α} {next : α → Run β} {property middle : World → Prop}
    {world : World} (orderly : Orderly env world) (made : host < world.nextHost)
    (head : AdvancesTo env property middle first) (holds : property world)
    (tail : ∀ value reached, Orderly env reached → host < reached.nextHost → middle reached →
      (next value).Holds reached (fun _ after => frame.rel reached after)) :
    (first >>= next).Holds world (fun _ after => frame.rel world after) := by
  refine (head world orderly.regular holds).bind ?_ ?_
  · rintro raised reached ⟨core, regular, _⟩
    exact rule.advance _ _ orderly.regular core regular
  · rintro value reached ⟨core, regular, returned⟩
    have kept := rule.advance _ _ orderly.regular core regular
    have succession := rule.succeeds _ _ kept orderly
    exact (tail value reached succession.orderly (made.trans_le succession.nextHost)
      (returned value rfl)).mono fun _ _ later => frame.trans kept later

theorem within_live_of {program : Run α}
    (holds : ∀ world, Orderly env world → host < world.nextHost →
      program.Holds world (fun _ after => frame.rel world after)) :
    program.Within (rule.live host) := by
  intro world made
  by_cases orderly : Orderly env world
  · exact holds world orderly made
  · exact rule.disorderly _ _ orderly

section Drain

variable {drain : Run Unit} (drained : Drains frame drain)
include drained

theorem reportError (raised : Exc) :
    (do
      let entry ← Exec.read fun world => world.hosts host
      targetSetError env drain entry.device raised : Run Unit).Within (rule.live host) := by
  intro world made
  by_cases orderly : Orderly env world
  · exact rule.error_of_host drained orderly made (frame.refl _) raised
  · exact rule.disorderly _ _ orderly

theorem monitorError (raised : Exc) (forget : Bool) :
    (monitorError env drain host raised forget).Within (rule.live host) := by
  unfold Daq.monitorError
  refine Exec.within_bind (rule.advances_live (Daq.within_advances (monitorCleanup_stays _)))
    fun _ => ?_
  refine Exec.within_bind (rule.advances_live (Daq.within_advances (recordException_stays _)))
    fun _ => ?_
  exact Exec.within_bind
    (rule.advances_live (stateTransition_advances (by decide))) fun _ =>
    rule.reportError drained raised

theorem runNextTest {world : World} (orderly : Orderly env world) (made : host < world.nextHost)
    (between : Between host world) :
    (runNextTest env drain host).Holds world (fun _ after => frame.rel world after) := by
  unfold Daq.runNextTest
  rw [Exec.holds_bind, Exec.holds_read, Exec.then_ok, Exec.holds_bind, Exec.holds_require]
  refine ⟨fun _ => ?_, fun _ => frame.refl _⟩
  rw [Exec.then_ok]
  refine (runRemaining_holds orderly.regular between).attempt ?_ ?_
  · rintro _ reached ⟨core, regular⟩
    exact rule.advance _ _ orderly.regular core regular
  · rintro raised reached ⟨core, regular⟩
    have kept := rule.advance _ _ orderly.regular core regular
    have failed : (stateTransition host .error none).Within frame :=
      rule.within_advances (stateTransition_advances (by decide))
    refine (failed.holds reached).bind (fun _ _ later => frame.trans kept later) ?_
    intro _ middle later
    exact (rule.error_of_host drained orderly made (frame.trans kept later) raised).mono
      fun _ _ last => frame.trans (frame.trans kept later) last

theorem endTest (returnCode : Option Int) (exception : Option Exc) :
    (endTest env drain host returnCode exception).Within (rule.live host) :=
  rule.within_live_of fun _ orderly made =>
    rule.advance_then orderly made (closeTest_between returnCode exception) trivial
      fun _ _ orderly made between => rule.runNextTest drained orderly made between

theorem moduleCallback (returnCode : Option Int) (exception : Option Exc) :
    (moduleCallback env drain host returnCode exception).Within (rule.live host) := by
  unfold Daq.moduleCallback
  refine Exec.within_bind (Exec.within_read _) fun _ => ?_
  refine Exec.within_bind (rule.advances_live (releaseTestPort_advances _ _)) fun _ => ?_
  exact Exec.within_bind (Exec.within_require _) fun _ => rule.endTest drained _ _

theorem callModule (op : Op) : (callModule env drain host op).Within (rule.live host) := by
  unfold Daq.callModule
  refine Exec.within_bind Exec.within_get fun _ => Exec.within_when ?_
  refine Exec.within_bind (rule.advances_live (callOut_advances _)) fun _ => ?_
  exact Exec.within_whenSome _ fun called => rule.moduleCallback drained called.1 called.2

theorem monitorContinue : (monitorContinue env drain host).Within (rule.live host) := by
  refine rule.within_live_of fun world orderly made => ?_
  unfold Daq.monitorContinue
  rw [← Exec.bind_assoc]
  exact rule.advance_then orderly made leaveMonitor_between trivial
    fun _ _ orderly made between => rule.runNextTest drained orderly made between

theorem backgroundScan {world : World} (orderly : Orderly env world) (made : host < world.nextHost)
    (gated : (world.hosts host).Gated env) :
    (backgroundScan env drain host).Holds world (fun _ after => frame.rel world after) := by
  unfold Daq.backgroundScan
  refine rule.advance_then orderly made stateTransition_monitor gated
    fun _ reached orderly made monitor => ?_
  split
  · exact rule.monitorContinue drained reached made
  · have scans : (do
        recordResult env host (some "monitor") {}
        monitorScan env host (some env.config.monitorScanSec) : Run Unit).Within
          (during env host .monitor) :=
      Exec.within_bind (recordResult_during _ rfl (by decide) (by decide)) fun _ =>
        monitorScan_during _ (by decide) (by decide)
    obtain ⟨core, regular, _⟩ := scans reached orderly.regular monitor
    exact rule.advance _ _ orderly.regular core regular

theorem baseStart {world : World} (orderly : Orderly env world) (made : host < world.nextHost)
    (base : (world.hosts host).state = .base) :
    (baseStart env drain host).Holds world (fun _ after => frame.rel world after) := by
  have tested : AdvancesTo env (fun world => (world.hosts host).state = .base)
      (fun world => (world.hosts host).Gated env) (do
        baseTests env host
        monitorCleanup env host true) := by
    refine .step (fun world regular base => ?_) fun _ => .of_holding
      (within_holding (monitorCleanup_stays true) fun before after gated _ course => ?_)
    · refine (baseTests_bases world regular base trivial).mono ?_
      rintro outcome reached ⟨core, regular, _, returned⟩
      exact ⟨core, regular, returned⟩
    · unfold Host.Gated at gated ⊢
      rw [show (after.hosts host).pings = (before.hosts host).pings from
        congrArg Host.Course.pings course]
      exact gated
  have body : (do
      baseTests env host
      monitorCleanup env host true
      Daq.backgroundScan env drain host).Holds world (fun _ after => frame.rel world after) := by
    rw [← Exec.bind_assoc]
    exact rule.advance_then orderly made tested base
      fun _ _ orderly made gated => rule.backgroundScan drained orderly made gated
  refine body.attempt (fun _ _ kept => kept) fun raised reached kept => ?_
  have still := made.trans_le (rule.succeeds _ _ kept orderly).nextHost
  have handler : (do
      monitorCleanup env host true
      Daq.monitorError env drain host raised false).Within (rule.live host) :=
    Exec.within_bind (rule.advances_live (Daq.within_advances (monitorCleanup_stays _))) fun _ =>
      rule.monitorError drained raised false
  exact frame.trans kept (handler reached still)

/-- A capture ends; it may have been the scan between the base tests and the
first test. -/
theorem monitorTimeout_hangup {world : World} {monitor : Monitor} (orderly : Orderly env world)
    (made : host < world.nextHost) (current : (world.hosts host).monitorRef = some monitor) :
    (monitorTimeout env drain host monitor.timeout).Holds
      (world.setHost host fun entry =>
        { entry with monitorRef := some { monitor with active := false } })
      (fun _ after => frame.rel world after) := by
  have own := orderly.regular host
  have cleaned := hangup_holds orderly.regular current
  unfold monitorTimeout
  rw [Exec.holds_bind, Exec.holds_get, Exec.then_ok, Exec.holds_ite]
  refine ⟨fun scanned => ?_, fun _ => ?_⟩
  · refine cleaned.bind ?_ ?_
    · rintro raised reached ⟨core, regular, _⟩
      exact rule.advance _ _ orderly.regular core regular
    · rintro _ reached ⟨core, regular, state⟩
      have kept := rule.advance _ _ orderly.regular core regular
      have still := made.trans_le (rule.succeeds _ _ kept orderly).nextHost
      have idle : (reached.hosts host).state ≠ .testing := fun testing =>
        own.scanning (state ▸ testing) monitor current scanned.1
      have alive : (reached.hosts host).report ≠ none := fun absent => by
        have gone := (own.closed ((host_report core host).mp absent)).2.2
        rw [current] at gone
        cases gone
      have recorded := @recordResult_holds env host reached (some "monitor") {} regular nofun
        (.inr ⟨idle, alive⟩)
      refine recorded.bind ?_ ?_
      · rintro raised after ⟨next, regular', _⟩
        exact frame.trans kept (rule.advance _ _ regular next regular')
      · rintro _ after ⟨next, regular', _⟩
        have later := rule.advance _ _ regular next regular'
        have both := frame.trans kept later
        have last := made.trans_le (rule.succeeds _ _ both orderly).nextHost
        exact frame.trans both (rule.monitorContinue drained after last)
  · unfold Daq.monitorError
    have rest : (do
        recordException env host (.exception "tcpdump pcap hangup")
        stateTransition host .error none
        let entry ← Exec.read fun world => world.hosts host
        targetSetError env drain entry.device
          (.exception "tcpdump pcap hangup") : Run Unit).Within (rule.live host) := by
      refine Exec.within_bind
        (rule.advances_live (Daq.within_advances (recordException_stays _))) fun _ => ?_
      refine Exec.within_bind
        (rule.advances_live (stateTransition_advances (by decide))) fun _ => ?_
      exact rule.reportError drained _
    refine cleaned.bind ?_ ?_
    · rintro raised reached ⟨core, regular, _⟩
      exact rule.advance _ _ orderly.regular core regular
    · rintro _ reached ⟨core, regular, _⟩
      have kept := rule.advance _ _ orderly.regular core regular
      have still := made.trans_le (rule.succeeds _ _ kept orderly).nextHost
      exact frame.trans kept (rest reached still)

theorem hostIpNotify (ip : String) : (hostIpNotify env drain host ip).Within (rule.live host) := by
  unfold Daq.hostIpNotify
  refine Exec.within_bind (rule.advances_live (callOut_advances _)) fun _ => ?_
  refine Exec.within_bind (rule.advances_live
    (Daq.within_advances (setHost_stays (fun _ _ => rfl) (fun _ _ => rfl)))) fun _ => ?_
  exact rule.callModule drained _

theorem ipNotify (state : String) (target : IpTarget) :
    (ipNotify env drain state target).Within frame := by
  unfold Daq.ipNotify
  refine Exec.within_ite (Exec.within_pure _) ?_
  refine Exec.within_bind (Exec.within_when (rule.handleDeviceLearn drained _ _)) fun _ => ?_
  refine Exec.within_bind (Exec.within_require _) fun _ => ?_
  refine rule.within fun world orderly => ?_
  rw [Exec.holds_bind, Exec.holds_get, Exec.then_ok]
  cases stored : world.devices.table.get? target.mac with
  | none => exact frame.refl _
  | some device =>
      refine Exec.Within.then_holds (rule.within_setDevice fun _ _ => rfl) fun _ reached kept => ?_
      rw [Exec.holds_whenSome]
      refine ⟨fun _ => frame.refl _, fun host hosted => ?_⟩
      rw [Exec.holds_when]
      refine ⟨fun _ => ?_, fun _ => frame.refl _⟩
      have made := (orderly.hosted device host hosted).1.trans_le
        (rule.succeeds _ _ kept orderly).nextHost
      have notified : (do
          Daq.hostIpNotify env drain host target.ip
          checkAndActivateGateway env device).Within (rule.live host) :=
        Exec.within_bind (rule.hostIpNotify drained _) fun _ =>
          rule.advances_live checkAndActivateGateway_advances
      exact notified reached made

theorem dhcpCallback (gateway : GatewayId) (state : String) (target : IpTarget) :
    (dhcpCallback env drain gateway state target).Within frame := by
  unfold Daq.dhcpCallback
  exact Exec.within_bind Exec.within_get fun _ => Exec.within_when (rule.ipNotify drained _ target)

theorem requestAddress (entry : Host) :
    (requestAddress env drain host entry).Within frame := by
  unfold Daq.requestAddress
  refine Exec.within_ite ?_ ?_
  · exact Exec.within_bind (rule.within_setDevice fun _ _ => rfl) fun _ =>
      rule.ipNotify drained _ _
  · refine Exec.within_bind (rule.within_setDevice fun _ _ => rfl) fun _ => ?_
    refine Exec.within_bind (Exec.within_read _) fun _ => Exec.within_ite ?_ ?_
    · exact rule.within_advances
        (Daq.within_advances (setHost_stays (fun _ _ => rfl) (fun _ _ => rfl)))
    · refine Exec.within_bind (Exec.within_read _) fun kind => ?_
      cases kind with
      | external => exact Exec.within_raise _
      | container => exact rule.within_callOut _

theorem prepare : (prepare env drain host).Within frame := by
  unfold Daq.prepare
  refine Exec.within_bind (rule.within_advances startWaiting_advances) fun _ => ?_
  refine Exec.within_bind (Exec.within_read _) fun _ => ?_
  refine Exec.within_bind (rule.requestAddress drained _) fun _ => ?_
  exact Exec.within_forEach (fun _ => rule.within_advances dhcpReadyListener_advances) _

theorem idleHandler : (idleHandler env drain host).Within (rule.live host) := by
  intro world made
  by_cases orderly : Orderly env world
  · have holds : (Daq.idleHandler env drain host).Holds world
        (fun _ after => frame.rel world after) := by
      unfold Daq.idleHandler
      rw [Exec.holds_bind, Exec.holds_read, Exec.then_ok]
      split
      · exact rule.prepare drained world
      · rename_i base
        exact rule.baseStart drained orderly made base
      · exact frame.refl _
    exact holds
  · exact rule.disorderly _ _ orderly

theorem handleTimeout (handler : TimeoutHandler) :
    (handleTimeout env drain host handler).Within (rule.live host) := by
  cases handler with
  | aux => exact rule.monitorError drained _ _
  | main =>
      unfold Daq.handleTimeout
      refine Exec.within_bind (Exec.within_read _) fun _ => ?_
      refine Exec.within_bind (Exec.within_require _) fun _ => ?_
      exact Exec.within_bind (rule.advances_live (callOut_advances _)) fun _ =>
        rule.moduleCallback drained _ _
  | externalDhcp => exact rule.advances_live (callOut_advances _)

theorem heartbeat : (heartbeat env drain host).Within (rule.live host) := by
  unfold Daq.heartbeat
  refine Exec.within_bind (Exec.within_read _) fun _ => ?_
  refine Exec.within_bind (rule.callModule drained _) fun _ => ?_
  refine Exec.within_bind Exec.within_get fun _ => Exec.within_when ?_
  refine Exec.within_whenSome _ fun handler => ?_
  refine Exec.within_bind (rule.advances_live
    (Daq.within_advances (setHost_stays (fun _ _ => rfl) (fun _ _ => rfl)))) fun _ => ?_
  exact rule.handleTimeout drained handler

theorem discovered (ip : Option String) :
    (discovered env drain host ip).Within (rule.live host) := by
  unfold Daq.discovered
  refine Exec.within_bind (Exec.within_read _) fun _ => ?_
  cases ip with
  | none => exact rule.handleTimeout drained .aux
  | some ip => exact Exec.within_when (rule.within_live (rule.ipNotify drained _ _))

end Drain

theorem captureError (raised : Exc) : (captureError env host raised).Within (rule.live host) :=
  Exec.within_attempt (rule.monitorError rule.handleReceivedEvents raised false) fun _ =>
    Exec.within_pure _

theorem captureHangup : (captureHangup env host).Within (rule.live host) := by
  intro world made
  by_cases orderly : Orderly env world
  · have holds : (Daq.captureHangup env host).Holds world
        (fun _ after => frame.rel world after) := by
      unfold Daq.captureHangup
      rw [Exec.holds_bind, Exec.holds_read, Exec.then_ok, Exec.holds_whenSome]
      refine ⟨fun _ => frame.refl _, fun monitor current => ?_⟩
      rw [Exec.holds_bind, Exec.holds_modify, Exec.then_ok]
      refine (rule.monitorTimeout_hangup rule.handleReceivedEvents orderly made current).attempt
        (fun _ _ kept => kept) fun raised reached kept => ?_
      have still := made.trans_le (rule.succeeds _ _ kept orderly).nextHost
      exact frame.trans kept (rule.captureError raised reached still)
    exact holds
  · exact rule.disorderly _ _ orderly

theorem idleDevice {world : World} {device : DeviceId} (orderly : Orderly env world) :
    (idleDevice env device).Holds world (fun _ after => frame.rel world after) := by
  unfold Daq.idleDevice
  rw [Exec.holds_bind, Exec.holds_get, Exec.then_ok]
  cases hosted : (world.device device).host with
  | none => exact frame.refl _
  | some host =>
      rw [Exec.holds_ite]
      refine ⟨fun _ => ?_, fun ended => ?_⟩
      · exact rule.idleHandler rule.handleReceivedEvents world
          (orderly.hosted device host hosted).1
      · exact rule.complete _ rule.handleReceivedEvents world device host orderly hosted ended

theorem idleTriggered {world : World} {device : DeviceId} (orderly : Orderly env world)
    (made : device < world.devices.next) (engaged : world.Engaged device) :
    (idleTriggered env device).Holds world (fun _ after => frame.rel world after) := by
  refine (rule.idleDevice orderly).attempt (fun _ _ kept => kept) fun raised reached kept => ?_
  have succession := rule.succeeds _ _ kept orderly
  exact (rule.error _ rule.handleReceivedEvents reached device raised succession.orderly
    (made.trans_le succession.next) (succession.engaged device made nofun engaged)).mono fun _ _ later =>
    frame.trans kept later

theorem forEach_triggered {body : DeviceId → Run Unit}
    (each : ∀ world device, Orderly env world → device < world.devices.next →
      world.Engaged device → (body device).Holds world (fun _ after => frame.rel world after)) :
    (do
      let triggered ← Exec.read getTriggeredDevices
      Exec.forEach triggered body : Run Unit).Within frame := by
  refine rule.within fun world orderly => ?_
  rw [Exec.holds_bind, Exec.holds_read, Exec.then_ok]
  exact rule.forEach_engaged each _ orderly orderly.triggered_engaged

theorem handleSystemIdle : (handleSystemIdle env).Within frame := by
  have idle : (handleSystemIdleRaw env).Within frame := by
    unfold handleSystemIdleRaw
    refine Exec.within_bind rule.handleReceivedEvents.within fun _ => ?_
    rw [← Exec.bind_assoc]
    refine Exec.within_bind (rule.forEach_triggered fun _ _ orderly made engaged =>
      rule.idleTriggered orderly made engaged) fun _ => ?_
    refine Exec.within_bind (Exec.within_read _) fun _ => ?_
    refine Exec.within_bind (Exec.within_forEach
      (fun device => rule.targetSetTrigger rule.handleReceivedEvents device false) _) fun _ => ?_
    refine Exec.within_bind (rule.targetSetConsider rule.handleReceivedEvents) fun _ => ?_
    refine Exec.within_bind Exec.within_get fun _ => Exec.within_when ?_
    refine Exec.within_bind (Exec.within_when (rule.shutdown rule.handleReceivedEvents))
      fun _ => ?_
    exact rule.within_still (fun _ => rfl) fun _ => rfl
  exact Exec.within_bind idle fun _ => rule.sendHeartbeat

theorem reapStalePorts : (reapStalePorts env).Within frame := by
  refine rule.forEach_triggered fun world device orderly made engaged => ?_
  unfold reapDevice
  rw [Exec.holds_bind, Exec.holds_get, Exec.then_ok, Exec.holds_ite]
  refine ⟨fun _ => ?_, fun _ => frame.refl _⟩
  cases hosted : (world.device device).host with
  | none => exact frame.refl _
  | some host =>
      simp only [Exec.holds_when]
      refine ⟨fun _ => ?_, fun _ => frame.refl _⟩
      rw [Exec.holds_bind, Exec.holds_modify, Exec.then_ok]
      generalize [Happening.reaped device (world.device device).port (env.now world)
        (portFlapTimeout env (world.hosts host))] = notes
      have noted : frame.rel world (world.note notes) := rule.still _ _ rfl rfl
      have later := (rule.succeeds _ _ noted orderly).orderly
      refine (rule.error _ rule.handleReceivedEvents (world.note notes) device _ later made
        engaged).bind (fun _ _ kept => frame.trans noted kept) fun _ reached kept => ?_
      rw [Exec.holds_modify]
      exact frame.trans noted (frame.trans kept (rule.still _ _ (setPortInfo_core rfl) rfl))

theorem moduleHeartbeat : (moduleHeartbeat env).Within frame := by
  refine rule.forEach_triggered fun world device orderly made engaged => ?_
  unfold heartbeatDevice
  rw [Exec.holds_bind, Exec.holds_read, Exec.then_ok]
  cases hosted : (world.device device).host with
  | none => exact frame.refl _
  | some host =>
      exact rule.heartbeat rule.handleReceivedEvents world (orderly.hosted device host hosted).1

theorem remoteTrigger (device : DeviceId) (deviceVlan assignedVlan : Option Nat)
    {drain : Run Unit} (drained : Drains frame drain) :
    (remoteTrigger env drain device deviceVlan assignedVlan).Within frame := by
  unfold Daq.remoteTrigger
  refine Exec.within_bind (Exec.within_require _) fun _ => ?_
  refine Exec.within_bind (Exec.within_read _) fun port => ?_
  refine Exec.within_bind (rule.within_notePort fun _ _ => rfl) fun _ => ?_
  refine Exec.within_bind (rule.within_setDevice fun _ _ => rfl) fun _ => ?_
  refine Exec.within_bind (rule.targetSetTrigger drained device true) fun _ => ?_
  refine rule.within fun world orderly => ?_
  rw [Exec.holds_bind, Exec.holds_get, Exec.then_ok, Exec.holds_whenSome]
  exact ⟨fun _ => frame.refl _, fun gateway attached =>
    rule.direct world device gateway orderly attached⟩

theorem initSession (mac : Mac) (deviceVlan assignedVlan : Option Nat) (remoteIp : String) :
    (initSession env (Daq.handleReceivedEvents env) mac deviceVlan assignedVlan remoteIp).Within
      frame := by
  unfold Daq.initSession onSession
  refine Exec.within_bind (Exec.within_read _) fun _ => ?_
  refine Exec.within_bind (Exec.within_require _) fun _ => ?_
  refine Exec.within_bind (rule.within_still (fun _ => rfl) fun _ => rfl) fun _ => ?_
  refine Exec.within_bind (Exec.within_require _) fun _ => ?_
  refine Exec.within_bind (rule.within_callOut _) fun _ => ?_
  refine Exec.within_bind (rule.within fun world orderly =>
    rule.createIfAbsent world mac none none orderly nofun) fun device => ?_
  refine Exec.within_bind (Exec.within_read _) fun port => ?_
  refine Exec.within_bind (rule.within_setPortInfo fun _ _ => rfl) fun _ => ?_
  refine Exec.within_bind (rule.within_setDevice fun _ _ => rfl) fun _ => ?_
  exact rule.remoteTrigger device deviceVlan assignedVlan rule.handleReceivedEvents

theorem reapSession (mac : Mac) : (reapSession env mac).Within frame := by
  unfold Daq.reapSession
  refine Exec.within_bind Exec.within_get fun _ => ?_
  refine Exec.within_bind (Exec.within_whenSome _ fun device => Exec.within_when ?_) fun _ =>
    rule.within_still (fun _ => rfl) fun _ => rfl
  exact rule.within_notePort fun _ _ => rfl

theorem ofHost {body : Run Unit} (within : body.Within (rule.live host)) :
    (Command.ofHost host body).Within frame := by
  refine rule.within fun world orderly => ?_
  unfold Command.ofHost
  rw [Exec.holds_bind, Exec.holds_read, Exec.then_ok, Exec.holds_when]
  exact ⟨fun made => within world made, fun _ => frame.refl _⟩

theorem perform : ∀ command : Command, (command.perform env).Within frame
  | .receive _ => rule.within_still (fun _ => rfl) fun _ => rfl
  | .faucet => rule.handleReceivedEvents.within
  | .idle => rule.handleSystemIdle
  | .reap => rule.reapStalePorts
  | .heartbeats => rule.moduleHeartbeat
  | .startSession mac deviceVlan assignedVlan remoteIp =>
      rule.initSession mac deviceVlan assignedVlan remoteIp
  | .endSession mac => rule.reapSession mac
  | .dhcp gateway _ target => rule.dhcpCallback rule.handleReceivedEvents gateway _ target
  | .gatewayException gateway =>
      rule.terminateGatewaySet _ rule.handleReceivedEvents gateway
  | .moduleCallback _ returnCode exception =>
      rule.ofHost (rule.moduleCallback rule.handleReceivedEvents returnCode exception)
  | .captureHangup _ => rule.ofHost rule.captureHangup
  | .captureError _ raised => rule.ofHost (rule.captureError raised)
  | .discovered _ ip => rule.ofHost (rule.discovered rule.handleReceivedEvents ip)
  | .control _ paused => rule.ofHost (rule.advances_live (controlUpdated_advances paused))
  | .reloadConfig _ => rule.ofHost (rule.advances_live reloadConfig_advances)
  | .terminate => rule.terminateAll rule.handleReceivedEvents

theorem reaches {allowed : World → Command → Prop} {start world : World}
    (reached : Reaches (Command.step env) allowed start world) : frame.rel start world := by
  induction reached with
  | start => exact frame.refl _
  | step command _ _ kept => exact frame.trans kept (rule.perform command _)

end CommandRule

end Daq
