import Daq.Host.Termination
import Daq.Runner.Rule
import Daq.Runner.Traffic

namespace Daq

variable {env : Env}

/-! What bringing up a device can do before its host exists. -/

/-- A gateway was made and failed to start: its set number is free again. -/
def Spent (before after : World) : Prop :=
  ∃ number, after.core = { before.core with
    nextGateway := before.nextGateway + 1
    gateway := Function.update before.core.gateway before.nextGateway
      { portSet := number, targets := .empty, resultLinger := false } }

/-- The native gateway, or one that a registered device of the same group has. -/
structure Shared (device : DeviceId) (gateway : GatewayId) (before after : World) : Prop where
  core : after.core = before.core
  member : before.nativeGateway = some gateway ∨ ∃ mac member, before.devices.table.get? mac = some member ∧
    (before.device member).gateway = some gateway

/-- A new gateway, with a number taken from the pool. -/
structure Fresh (device : DeviceId) (gateway : GatewayId) (before after : World) : Prop where
  next : gateway = before.nextGateway
  number : ∃ number ∈ before.gatewaySets, after.core = { before.core with
    nextGateway := before.nextGateway + 1
    gatewaySets := before.gatewaySets.erase number
    gateway := Function.update before.core.gateway before.nextGateway
      { portSet := number, targets := .empty, resultLinger := false } }
  kind : (before.device device).dhcpMode ≠ some .external →
    (after.gateways gateway).kind = .container
  idle : (after.gateways gateway).activated = false

variable {world : World} {device : DeviceId}

/-- The state with a new gateway that is about to start. -/
def World.gatewayed (world : World) (device : DeviceId) (number : SetNumber) : World :=
  { world with
    gatewaySets := world.gatewaySets.erase number
    nextGateway := world.nextGateway + 1
    gateways := Function.update world.gateways world.nextGateway
      { name := (world.device device).group.getD "None"
        portSet := number
        kind := if (world.device device).dhcpMode = some .external then .external
          else .container }
    trail := world.trail ++ [.taken number] }

theorem gatewayed_core (world : World) (device : DeviceId) (number : SetNumber) :
    (world.gatewayed device number).core = { world.core with
      nextGateway := world.nextGateway + 1
      gatewaySets := world.gatewaySets.erase number
      gateway := Function.update world.core.gateway world.nextGateway
        { portSet := number, targets := .empty, resultLinger := false } } := by
  have gateways : (fun other => ((world.gatewayed device number).gateways other).core) =
      Function.update world.core.gateway world.nextGateway
        { portSet := number, targets := .empty, resultLinger := false } := by
    funext other
    unfold World.gatewayed
    by_cases same : other = world.nextGateway
    · subst same
      simp only [Function.update_self]
      rfl
    · simp only [Function.update_of_ne same]
      rfl
  calc
    (world.gatewayed device number).core = { world.core with
        nextGateway := world.nextGateway + 1
        gatewaySets := world.gatewaySets.erase number
        gateway := fun other => ((world.gatewayed device number).gateways other).core } := rfl
    _ = _ := by rw [gateways]

theorem startGateway_holds {number : SetNumber} (free : number ∈ world.gatewaySets) :
    (do
      Exec.attempt (gatewayInitialize env world.nextGateway) fun raised => do
        Exec.modify fun world => { world with
          gatewaySets := insert number world.gatewaySets
          trail := world.trail ++ [.returned number] }
        Exec.raise raised
      pure world.nextGateway : Run GatewayId).Holds (world.gatewayed device number)
        (fun outcome after => after.hosts = world.hosts ∧
          ((∃ raised, outcome = .error raised ∧ Spent world after) ∨
            ∃ gateway, outcome = .ok gateway ∧ Fresh device gateway world after)) := by
  have core := gatewayed_core world device number
  unfold gatewayInitialize
  rw [Exec.holds_bind, Exec.holds_attempt, Exec.holds_bind, holds_callOut]
  refine ⟨fun _ => ?_, fun raised _ => ?_⟩
  · rw [Exec.then_ok, Exec.holds_modify, Exec.rescued_ok, Exec.then_ok, Exec.holds_pure]
    refine ⟨rfl, .inr ⟨_, rfl, rfl, ⟨number, free, ?_⟩, fun normal => ?_, ?_⟩⟩
    · exact ((note_core _ _).trans (setGateway_core rfl)).trans core
    · simp [World.note, World.setGateway, World.ticked, World.gatewayed, normal]
    · simp [World.note, World.setGateway, World.ticked, World.gatewayed]
  · rw [Exec.then_error, Exec.rescued_error, Exec.holds_bind, Exec.holds_modify, Exec.then_ok,
      Exec.holds_raise, Exec.then_error]
    refine ⟨rfl, .inl ⟨raised, rfl, number, ?_⟩⟩
    have back : insert number (world.gatewaySets.erase number) = world.gatewaySets :=
      Finset.insert_erase free
    calc
      World.core { (world.gatewayed device number).ticked with
          gatewaySets := insert number (world.gatewaySets.erase number)
          trail := (world.gatewayed device number).trail ++ [.returned number] } =
          { (world.gatewayed device number).core with
            gatewaySets := insert number (world.gatewaySets.erase number) } := rfl
      _ = _ := by rw [core, back]; rfl

theorem createGateway_holds :
    (createGateway env device).Holds world (fun outcome after => after.hosts = world.hosts ∧
      ((∃ raised, outcome = .error raised ∧ (after.core = world.core ∨ Spent world after)) ∨
        ∃ gateway, outcome = .ok gateway ∧
          (Shared device gateway world after ∨ Fresh device gateway world after))) := by
  unfold createGateway
  rw [Exec.holds_bind, Exec.holds_get, Exec.then_ok]
  cases native : world.nativeGateway with
  | some gateway => exact ⟨rfl, .inr ⟨gateway, rfl, .inl ⟨rfl, .inl native⟩⟩⟩
  | none =>
  dsimp only
  rw [Exec.holds_bind, Exec.holds_require]
  refine ⟨fun _ => ?_, fun _ => ⟨rfl, .inl ⟨_, rfl, .inl rfl⟩⟩⟩
  rw [Exec.then_ok]
  split
  · rename_i gateway rest existing
    refine ⟨rfl, .inr ⟨gateway, rfl, .inl ⟨rfl, .inr ?_⟩⟩⟩
    have member : gateway ∈ ((getByGroup world (world.device device).group).filterMap fun member =>
        (world.device member).gateway).dedup := existing ▸ .head _
    obtain ⟨other, listed, attached⟩ := List.mem_filterMap.mp (List.mem_dedup.mp member)
    obtain ⟨mac, stored⟩ := Dict.mem_values_iff.mp (List.mem_filter.mp listed).1
    exact ⟨mac, other, stored, attached⟩
  · unfold findGatewaySet
    rw [Exec.holds_bind, Exec.holds_bind, Exec.holds_get, Exec.then_ok]
    cases chosen : chooseGatewaySet env world device with
    | none => exact ⟨rfl, .inl ⟨_, rfl, .inl rfl⟩⟩
    | some number =>
        dsimp only
        rw [Exec.holds_bind, Exec.holds_modify, Exec.then_ok, Exec.holds_pure, Exec.then_ok,
          Exec.holds_bind, Exec.holds_read, Exec.then_ok, Exec.holds_bind, Exec.holds_modify,
          Exec.then_ok]
        refine (@startGateway_holds env world device number (chooseGatewaySet_mem chosen)).mono ?_
        rintro outcome after ⟨hosts, ⟨raised, ended, spent⟩ | ⟨gateway, ended, fresh⟩⟩
        · exact ⟨hosts, .inl ⟨raised, ended, .inr spent⟩⟩
        · exact ⟨hosts, .inr ⟨gateway, ended, .inr fresh⟩⟩

/-- A gateway for the device, shared or new. -/
def Provided (device : DeviceId) (gateway : GatewayId) (before after : World) : Prop :=
  Shared device gateway before after ∨ Fresh device gateway before after

theorem targetSetGateway_holds (externalDhcp : Bool) :
    (targetSetGateway env device externalDhcp).Holds world (fun outcome after =>
      after.hosts = world.hosts ∧ ∃ chosen, outcome = .ok chosen ∧
        (chosen = none → after.core = world.core ∨ Spent world after) ∧
        ∀ gateway, chosen = some gateway → Provided device gateway world after) := by
  have grouped : (world.setDevice device fun entry =>
      { entry with group := some (deviceGroupFor env entry) }).core = world.core :=
    setDevice_core rfl
  have spent : ∀ after, Spent (world.setDevice device fun entry =>
      { entry with group := some (deviceGroupFor env entry) }) after → Spent world after := by
    rintro after ⟨number, core⟩
    rw [grouped] at core
    exact ⟨number, core⟩
  have shared : ∀ after gateway, Shared device gateway (world.setDevice device fun entry =>
      { entry with group := some (deviceGroupFor env entry) }) after →
      Shared device gateway world after := by
    rintro after gateway ⟨core, native | ⟨mac, member, stored, attached⟩⟩
    · exact ⟨core.trans grouped, .inl native⟩
    · rw [setDevice_view Device.gateway rfl] at attached
      exact ⟨core.trans grouped, .inr ⟨mac, member, stored, attached⟩⟩
  have fresh : ∀ after gateway, Fresh device gateway (world.setDevice device fun entry =>
      { entry with group := some (deviceGroupFor env entry) }) after →
      Fresh device gateway world after := by
    rintro after gateway ⟨next, ⟨number, free, core⟩, kind, idle⟩
    rw [grouped] at core
    rw [setDevice_view Device.dhcpMode rfl] at kind
    exact ⟨next, ⟨number, free, core⟩, kind, idle⟩
  unfold targetSetGateway
  rw [Exec.holds_attempt, Exec.holds_bind, Exec.holds_modify, Exec.then_ok]
  have created := @createGateway_holds env (world.setDevice device fun entry =>
    { entry with group := some (deviceGroupFor env entry) }) device
  refine created.bind ?_ ?_
  · rintro raised after ⟨hosts, ⟨_, _, kept⟩ | ⟨_, ended, _⟩⟩
    · have kept : after.core = world.core ∨ Spent world after :=
        kept.imp (fun core => core.trans grouped) (spent after)
      rw [Exec.rescued_error, Exec.holds_bind, Exec.holds_when]
      exact ⟨fun _ => ⟨hosts, none, rfl, fun _ => kept, nofun⟩,
        fun _ => ⟨hosts, none, rfl, fun _ => kept, nofun⟩⟩
    · cases ended
  · rintro gateway after ⟨hosts, ⟨_, ended, _⟩ | ⟨_, ended, provided⟩⟩
    · cases ended
    · cases ended
      rw [Exec.holds_bind, Exec.holds_read, Exec.then_ok, Exec.holds_ite]
      refine ⟨fun busy => ?_, fun _ => ?_⟩
      · refine ⟨hosts, none, rfl, fun _ => ?_, nofun⟩
        rcases provided with existing | made
        · exact .inl (shared after gateway existing).core
        · rw [made.idle] at busy
          exact absurd busy.1 (by decide)
      · refine ⟨hosts, some gateway, rfl, nofun, fun other same => ?_⟩
        cases same
        exact provided.imp (shared after gateway) (fresh after gateway)

/-- The device has the gateway and is among its targets. -/
def World.joined (world : World) (gateway : GatewayId) (device : DeviceId) : World :=
  (world.attached gateway device).setDevice device fun entry =>
    { entry with gateway := some gateway }

section Joined

variable {gateway : GatewayId}

theorem joined_entry : (world.joined gateway device).device device =
    { world.device device with gateway := some gateway } :=
  Function.update_self _ _ _

theorem joined_other {other : DeviceId} (different : other ≠ device) :
    (world.joined gateway device).device other = world.device other :=
  Function.update_of_ne different _ _

theorem joined_host (other : DeviceId) :
    ((world.joined gateway device).device other).host = (world.device other).host :=
  setDevice_view Device.host rfl other

theorem joined_registered (other : DeviceId) :
    (world.joined gateway device).Registered other ↔ world.Registered other := by
  unfold World.Registered
  have mac : ((world.joined gateway device).device other).mac = (world.device other).mac :=
    setDevice_view Device.mac rfl other
  rw [mac]
  rfl

end Joined

theorem Provided.ticked {gateway : GatewayId} {before after : World}
    (provided : Provided device gateway before after) :
    Provided device gateway before after.ticked :=
  provided.imp (fun shared => ⟨shared.core, shared.member⟩)
    fun fresh => ⟨fresh.next, fresh.number, fresh.kind, fresh.idle⟩

/-- The host that is made for a device. -/
def newHost (env : Env) (world : World) (device : DeviceId) : Host :=
  let config := env.loadConfig world (world.device device).mac
  { device := device
    gateway := (world.device device).gateway.getD 0
    targetMac := (world.device device).mac
    targetPort := (world.portInfo device).portNo
    loadedConfig := config
    enabledTests := enabledTests env config
    remainingTests := enabledTests env config
    testName := some "startup"
    report := some (Dict.empty.insert "startup" {})
    results := (Dict.empty.insert "startup" { name := some "startup" }).insert "info"
      { name := some "info" } }

/-- A device with its new host. -/
def World.hosted (world : World) (env : Env) (device : DeviceId) : World :=
  World.setDevice
    { world with
      nextHost := world.nextHost + 1
      hosts := Function.update world.hosts world.nextHost (newHost env world device)
      trail := world.trail ++ [.created device] }
    device fun entry => { entry with host := some world.nextHost }

section Hosted

theorem hosted_entry : (world.hosted env device).device device =
    { world.device device with host := some world.nextHost } :=
  Function.update_self _ _ _

theorem hosted_other {other : DeviceId} (different : other ≠ device) :
    (world.hosted env device).device other = world.device other :=
  Function.update_of_ne different _ _

theorem hosted_mac (other : DeviceId) :
    ((world.hosted env device).device other).mac = (world.device other).mac := by
  by_cases same : other = device
  · rw [same, hosted_entry]
  · rw [hosted_other same]

theorem hosted_registered (other : DeviceId) :
    (world.hosted env device).Registered other ↔ world.Registered other := by
  unfold World.Registered
  rw [hosted_mac]
  rfl

end Hosted

/-- A host is made and given to its device, or neither. -/
theorem connectedHost_holds {β : Type} {next : HostId → Run β} {post : Except Exc β → World → Prop}
    (raises : ∀ raised, env.fault world (.connectedHost device) = some raised →
      post (.error raised) world.ticked)
    (returns : env.fault world (.connectedHost device) = none →
      (next world.nextHost).Holds (world.ticked.hosted env device) post) :
    (do
      let host ← connectedHost env device
      Exec.modify fun world => world.setDevice device fun entry => { entry with host := some host }
      next host).Holds world post := by
  unfold connectedHost
  rw [Exec.holds_bind, Exec.holds_bind, holds_callOut]
  refine ⟨fun made => ?_, fun raised failed => raises raised failed⟩
  exact returns made

/-- What a new host does first: it starts, and traffic is directed to its
device. -/
def startHost (env : Env) (device : DeviceId) (gateway : GatewayId) (host : HostId) :
    Run Unit := do
  Exec.modify fun world => world.setHost host fun entry =>
    { entry with dhcpListeners := entry.dhcpListeners + 1 }
  initializeHost env host
  let world ← Exec.get
  let entry := world.gateways gateway
  match (world.portInfo device).portNo with
  | some portNo => directPortTraffic env device portNo (some
      { port := portNo
        group := (world.device device).group.getD ""
        fake := fakeTarget entry
        portSet := entry.portSet.val
        mac := (world.device device).mac })
  | none => directDeviceTraffic env device (some entry.portSet.val)

theorem targetSetHost_holds {gateway : GatewayId} {post : Except Exc Unit → World → Prop}
    (unmade : ∀ raised, env.fault { world with runCount := world.runCount + 1 }
        (.connectedHost device) = some raised → post (.error raised)
      { world with runCount := world.runCount + 1, tick := world.tick + 1 })
    (made : env.fault { world with runCount := world.runCount + 1 } (.connectedHost device) = none →
      (startHost env device gateway world.nextHost).Holds
        (World.hosted { world with runCount := world.runCount + 1, tick := world.tick + 1 }
          env device) post) :
    (targetSetHost env device gateway).Holds world post := by
  unfold targetSetHost
  rw [Exec.holds_bind, Exec.holds_modify, Exec.then_ok]
  exact connectedHost_holds unmade made

section Activate

variable {drain : Run Unit} {post : World → Prop}

/-- Creating the host, and failing the device if that fails. -/
def bringUp (env : Env) (drain : Run Unit) (device : DeviceId) (gateway : GatewayId) : Run Bool :=
  Exec.attempt
    (do
      targetSetHost env device gateway
      pure true)
    (fun raised => do
      targetSetError env drain device raised
      pure false)

/-- Why a device does not join a gateway that there is. -/
def Refused (env : Env) (world reached : World) (device : DeviceId) (gateway : GatewayId) : Prop :=
  (∃ raised, env.fault reached (.stopDhcpResponse gateway device) = some raised) ∨
    ((reached.gateways gateway).kind = .external ∧
      (world.device device).dhcpMode ≠ some .external) ∨
    (reached.gateways gateway).targets.get? (reached.device device).mac ≠ none

/-- Bringing up a device: there is no gateway for it, it does not get the
gateway, or it joins it. -/
theorem targetSetActivate_holds (unprovided : ∀ after, after.hosts = world.hosts →
      after.core = world.core ∨ Spent world after → post after)
    (refused : ∀ reached gateway, reached.hosts = world.hosts →
      Provided device gateway world reached → Refused env world reached device gateway →
      ∀ after, after.core = reached.core → after.hosts = reached.hosts → post after)
    (joined : ∀ reached gateway, reached.hosts = world.hosts →
      Provided device gateway world reached →
      (reached.gateways gateway).targets.get? (reached.device device).mac = none →
      (bringUp env drain device gateway).Holds (reached.joined gateway device)
        (fun _ after => post after)) :
    (targetSetActivate env drain device).Holds world (fun _ after => post after) := by
  have join : ∀ (gateway : GatewayId) (state : World), state.hosts = world.hosts →
      Provided device gateway world state →
      (do
        attachTarget gateway device
        Exec.modify fun world => world.setDevice device fun entry =>
          { entry with gateway := some gateway }
        bringUp env drain device gateway).Holds state (fun _ after => post after) := by
    intro gateway state hosts provided
    by_cases absent : (state.gateways gateway).targets.get? (state.device device).mac = none
    · rw [Exec.holds_bind, Exec.holds_of_run (attachTarget_run absent), Exec.then_ok,
        Exec.holds_bind, Exec.holds_modify, Exec.then_ok]
      exact joined state gateway hosts provided absent
    · rw [Exec.holds_bind, Exec.holds_of_run (attachTarget_run_present absent), Exec.then_error]
      exact refused state gateway hosts provided (.inr (.inr absent)) state rfl rfl
  unfold targetSetActivate
  rw [Exec.holds_bind, Exec.holds_get, Exec.then_ok, Exec.holds_bind, Exec.holds_require]
  refine ⟨fun _ => ?_, fun _ => unprovided world rfl (.inl rfl)⟩
  rw [Exec.then_ok]
  refine (targetSetGateway_holds _).bind ?_ ?_
  · rintro raised after ⟨hosts, chosen, ended, _⟩
    cases ended
  · rintro chosen reached ⟨hosts, _, ended, absent, present⟩
    cases ended
    cases chosen with
    | none => exact unprovided reached hosts (absent rfl)
    | some gateway =>
        have provided := present gateway rfl
        dsimp only
        rw [Exec.holds_bind, Exec.holds_when]
        refine ⟨fun internal => ?_, fun _ => join gateway reached hosts provided⟩
        have normal : (world.device device).dhcpMode ≠ some .external := of_decide_eq_false internal
        unfold stopDhcpResponse
        rw [Exec.holds_bind, Exec.holds_read, Exec.then_ok]
        cases kind : (reached.gateways gateway).kind with
        | external =>
            exact refused reached gateway hosts provided (.inr (.inl ⟨kind, normal⟩)) reached rfl rfl
        | container =>
            dsimp only
            rw [holds_callOut]
            refine ⟨fun _ => ?_, fun raised failed => ?_⟩
            · exact join gateway reached.ticked hosts provided.ticked
            · exact refused reached gateway hosts provided (.inl ⟨raised, failed⟩) reached.ticked
                rfl rfl

end Activate

end Daq
