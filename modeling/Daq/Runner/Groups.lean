import Daq.Runner.Core

namespace Daq

variable {env : Env}

/-! Groups of devices that share a gateway: which of them are ready, and what
happens when the group is complete. -/

/-- The devices are the same, and so are a gateway's attached and ready ones. -/
structure SameReadiness (before after : World) : Prop where
  devices : after.devices = before.devices
  targets : ∀ gateway, (after.gateways gateway).targets = (before.gateways gateway).targets
  ready : ∀ gateway, (after.gateways gateway).ready = (before.gateways gateway).ready

def sameReadiness : Frame World where
  rel := SameReadiness
  refl := fun _ => ⟨rfl, fun _ => rfl, fun _ => rfl⟩
  trans := fun first second =>
    ⟨second.devices.trans first.devices,
      fun gateway => (second.targets gateway).trans (first.targets gateway),
      fun gateway => (second.ready gateway).trans (first.ready gateway)⟩

theorem SameReadiness.of_keepsHost {host : HostId} {view : Host → Host} {before after : World}
    (kept : KeepsHost host view before after) : SameReadiness before after :=
  ⟨kept.devices, fun gateway => congrArg Gateway.targets (congrFun kept.gateways gateway),
    fun gateway => congrArg Gateway.ready (congrFun kept.gateways gateway)⟩

theorem triggerHost_sameReadiness (host : HostId) (targetIp : Option String) :
    (triggerHost env host targetIp).Within sameReadiness :=
  (triggerHost_hostLocal host targetIp).mono fun _ _ => .of_keepsHost

theorem gatewayActivate_sameReadiness (gateway : GatewayId) :
    (gatewayActivate env gateway).Within sameReadiness := by
  unfold gatewayActivate
  refine Exec.within_bind (Exec.within_modify fun world => ?_) fun _ =>
    fun world => .of_keepsHost (callOut_keepsHost 0 _ world : KeepsHost 0 id _ _)
  exact ⟨rfl, setGateway_view Gateway.targets rfl, setGateway_view Gateway.ready rfl⟩

theorem activateGateway_sameReadiness (gateway : GatewayId) (ready : List DeviceId) :
    (activateGateway env gateway ready).Within sameReadiness := by
  unfold activateGateway
  refine Exec.within_bind (gatewayActivate_sameReadiness gateway) fun _ => ?_
  refine Exec.within_bind Exec.within_get fun _ => Exec.within_forEach (fun _ => ?_) _
  refine Exec.within_bind (Exec.within_read _) fun _ => ?_
  split
  · exact Exec.within_raise _
  · exact Exec.within_bind (triggerHost_sameReadiness _ _) fun _ => Exec.within_require _

/-- The ready devices with one more. -/
def withReady (device : DeviceId) (ready : List DeviceId) : List DeviceId :=
  if device ∈ ready then ready else ready ++ [device]

/-- What a notification of a device does to the gateways: at most, the device
becomes ready at its own. -/
structure Notified (device : DeviceId) (before after : World) : Prop where
  devices : after.devices = before.devices
  targets : ∀ gateway, (after.gateways gateway).targets = (before.gateways gateway).targets
  ready : ∀ gateway, (after.gateways gateway).ready = (before.gateways gateway).ready ∨
    ((before.device device).gateway = some gateway ∧ (before.device device).host ≠ none ∧
      (after.gateways gateway).ready = withReady device (before.gateways gateway).ready)

namespace Notified

variable {device : DeviceId} {before middle after : World}

theorem of_same (same : SameReadiness before after) : Notified device before after :=
  ⟨same.devices, same.targets, fun gateway => .inl (same.ready gateway)⟩

theorem trans_same (first : Notified device before middle)
    (same : SameReadiness middle after) : Notified device before after := by
  refine ⟨same.devices.trans first.devices,
    fun gateway => (same.targets gateway).trans (first.targets gateway), fun gateway => ?_⟩
  rw [same.ready gateway]
  exact first.ready gateway

end Notified

/-- The device is ready at the gateway. -/
def World.readied (world : World) (gateway : GatewayId) (device : DeviceId) : World :=
  world.setGateway gateway fun entry => { entry with ready := withReady device entry.ready }

theorem readied_notified {world : World} {device : DeviceId} {gateway : GatewayId}
    (attached : (world.device device).gateway = some gateway)
    (running : (world.device device).host ≠ none) :
    Notified device world (world.readied gateway device) := by
  refine ⟨rfl, setGateway_view Gateway.targets rfl, fun other => ?_⟩
  by_cases same : other = gateway
  · subst same
    exact .inr ⟨attached, running, by simp [World.readied, World.setGateway]⟩
  · exact .inl (by simp [World.readied, World.setGateway, same])

theorem notifyActivate_waiting {world : World} {host : HostId}
    (waiting : (world.hosts host).state = .waiting) :
    (notifyActivate env host).run world = (.ok true, world) := by
  unfold notifyActivate
  rw [Exec.read_bind_run, waiting]
  rfl

theorem notifyActivate_not_waiting {world : World} {host : HostId}
    (elsewhere : (world.hosts host).state ≠ .waiting) :
    (notifyActivate env host).Holds world (fun outcome reached =>
      SameReadiness world reached ∧ outcome ≠ .ok true) := by
  refine (((notifyActivate_hostLocal host).holds world).mono
    (fun _ _ same => SameReadiness.of_keepsHost same)).and ?_
  unfold notifyActivate
  rw [Exec.holds_bind, Exec.holds_read, Exec.then_ok, Exec.holds_bind]
  unfold Exec.Holds
  generalize (Exec.when ((world.hosts host).state = .ready)
    (publishResult env host (some "startup") {})).run world = ended
  obtain ⟨outcome, reached⟩ := ended
  cases outcome with
  | error raised => simp
  | ok value => simp [elsewhere]

theorem targetReady_run (world : World) (gateway : GatewayId) (device : DeviceId) :
    (targetReady gateway device).run world =
      (.ok (withReady device (world.gateways gateway).ready), world.readied gateway device) := by
  have stored : ((world.readied gateway device).gateways gateway).ready =
      withReady device (world.gateways gateway).ready := by
    simp [World.readied, World.setGateway]
  rw [← stored]
  rfl

theorem mem_withReady {device other : DeviceId} {ready : List DeviceId} :
    other ∈ withReady device ready ↔ other = device ∨ other ∈ ready := by
  unfold withReady
  split
  · rename_i present
    constructor
    · exact .inr
    · rintro (rfl | member)
      · exact present
      · exact member
  · simp [or_comm]

/-- Asking one host for each of several devices is asking it at least once. -/
theorem allM_triggerReady {entry : Host} {ready : List DeviceId} (nonempty : ready ≠ [])
    (agreed : (ready.allM fun _ => triggerReady entry) = .ok true) :
    triggerReady entry = .ok true := by
  cases ready with
  | nil => exact absurd rfl nonempty
  | cons head tail =>
      cases asked : triggerReady entry with
      | error raised => simp [List.allM, asked, bind, Except.bind] at agreed
      | ok answer =>
          cases answer with
          | true => rfl
          | false => simp [List.allM, asked, bind, Except.bind, pure, Except.pure] at agreed

/-- The ready devices are handed out only for a device whose own host can be
triggered, at a gateway that was not activated before. -/
structure Complete (world : World) (device : DeviceId) (gateway : GatewayId)
    (ready : List DeviceId) (reached : World) : Prop where
  attached : (world.device device).gateway = some gateway
  inactive : (world.gateways gateway).activated = false
  members : ready = withReady device (world.gateways gateway).ready
  reached : reached = world.readied gateway device
  triggered : ∃ host, (world.device device).host = some host ∧
    (world.hosts host).state = .waiting ∧ triggerReady (world.hosts host) = .ok true

theorem shouldActivateTarget_spec (device : DeviceId) (world : World) :
    (shouldActivateTarget env device).Holds world (fun outcome reached =>
      Notified device world reached ∧
      ∀ gateway ready, outcome = .ok (.group gateway ready) →
        Complete world device gateway ready reached) := by
  have unchanged : Notified device world world := .of_same (sameReadiness.refl world)
  unfold shouldActivateTarget
  rw [Exec.holds_bind, Exec.holds_get, Exec.then_ok]
  split
  · exact ⟨unchanged, nofun⟩
  · exact ⟨unchanged, nofun⟩
  · rename_i host gateway hosted attached
    rw [Exec.holds_ite]
    refine ⟨fun _ => ⟨unchanged, nofun⟩, fun inactive => ?_⟩
    by_cases waiting : (world.hosts host).state = .waiting
    · rw [Exec.holds_bind, Exec.holds_of_run (notifyActivate_waiting waiting), Exec.then_ok]
      simp only [↓reduceIte]
      rw [Exec.holds_bind, Exec.holds_of_run (targetReady_run world gateway device), Exec.then_ok]
      have running : (world.device device).host ≠ none := by simp [hosted]
      have noted := readied_notified attached running
      rw [Exec.holds_ite]
      refine ⟨fun _ => ⟨noted, nofun⟩, fun _ => ?_⟩
      rw [Exec.holds_bind, Exec.holds_read, Exec.then_ok, Exec.holds_bind]
      unfold check
      split
      · rename_i answer agreed
        rw [Exec.holds_pure, Exec.then_ok, Exec.holds_ite]
        refine ⟨fun positive => ⟨noted, ?_⟩, fun _ => ⟨noted, nofun⟩⟩
        rintro other ready equality
        cases equality
        subst positive
        have nonempty : withReady device (world.gateways gateway).ready ≠ [] :=
          List.ne_nil_of_mem (mem_withReady.mpr (.inl rfl))
        exact ⟨attached, by simpa using inactive, rfl, rfl, host, hosted, waiting,
          allM_triggerReady nonempty agreed⟩
      · exact ⟨noted, nofun⟩
    · refine (notifyActivate_not_waiting waiting).bind ?_ ?_
      · rintro raised reached ⟨same, _⟩
        exact ⟨.of_same same, nofun⟩
      · rintro notified reached ⟨same, negative⟩
        cases notified with
        | true => exact absurd rfl negative
        | false => exact ⟨.of_same same, nofun⟩

theorem checkAndActivateGateway_notified (device : DeviceId) (world : World) :
    (checkAndActivateGateway env device).Holds world (fun _ reached =>
      Notified device world reached) := by
  have unchanged : Notified device world world := .of_same (sameReadiness.refl world)
  unfold checkAndActivateGateway
  rw [Exec.holds_bind, Exec.holds_read, Exec.then_ok, Exec.holds_ite]
  refine ⟨fun _ => ?_, fun _ => unchanged⟩
  refine (shouldActivateTarget_spec device world).bind (fun _ _ noted => noted.1) ?_
  rintro readiness reached ⟨noted, _⟩
  split
  · exact noted
  · exact noted
  · exact noted
  · refine ((triggerHost_sameReadiness _ _).holds reached).bind ?_ ?_
    · exact fun _ _ same => noted.trans_same same
    · exact fun _ _ same => noted.trans_same same
  · exact ((activateGateway_sameReadiness _ _).holds reached).mono
      fun _ _ same => noted.trans_same same

section Bookkeeping

/-- The runner's calls on one gateway, with what they do to the device itself:
an attached device gets the gateway and, unless its construction fails, a host;
a detached device loses both. -/
inductive GatewayCall
  | attach (device : DeviceId) (host : Option HostId)
  | notify (device : DeviceId)
  | detach (device : DeviceId)

namespace GatewayCall

def perform (env : Env) (gateway : GatewayId) : GatewayCall → Run Unit
  | .attach device host => do
      attachTarget gateway device
      Exec.modify fun world => world.setDevice device fun entry =>
        { entry with gateway := some gateway, host := host }
  | .notify device => checkAndActivateGateway env device
  | .detach device => do
      let _ ← detachTarget gateway device
      Exec.modify fun world => world.setDevice device fun entry =>
        { entry with gateway := none, host := none }

def step (env : Env) (gateway : GatewayId) (call : GatewayCall) (world : World) : World :=
  ((call.perform env gateway).run world).2

/-- Devices of the group are attached when they have no gateway, and notified
and detached while they have this one. -/
def MadeByRunner (gateway : GatewayId) (group : Option String) (world : World) :
    GatewayCall → Prop
  | .attach device _ => (world.device device).gateway = none ∧ (world.device device).group = group
  | .notify device | .detach device => (world.device device).gateway = some gateway

/-- No ready device is detached, and no more devices are attached than the
group has members. -/
def Orderly (env : Env) (gateway : GatewayId) (group : Option String) (world : World) :
    GatewayCall → Prop
  | .attach _ _ => (world.gateways gateway).targets.size < deviceGroupSize env group
  | .notify _ => True
  | .detach device => device ∉ (world.gateways gateway).ready

instance (gateway : GatewayId) (group : Option String) (world : World) :
    (call : GatewayCall) → Decidable (call.MadeByRunner gateway group world)
  | .attach _ _ => inferInstanceAs (Decidable (_ ∧ _))
  | .notify _ | .detach _ => inferInstanceAs (Decidable (_ = _))

instance (env : Env) (gateway : GatewayId) (group : Option String) (world : World) :
    (call : GatewayCall) → Decidable (call.Orderly env gateway group world)
  | .attach _ _ => inferInstanceAs (Decidable (_ < _))
  | .notify _ => inferInstanceAs (Decidable True)
  | .detach _ => inferInstanceAs (Decidable (¬ _))

end GatewayCall

/-- A gateway that was just made for a group. -/
structure JustCreated (gateway : GatewayId) (world : World) : Prop where
  targets : (world.gateways gateway).targets = .empty
  ready : (world.gateways gateway).ready = []
  unused : ∀ device, (world.device device).gateway ≠ some gateway

/-- Ready devices are attached and running, and not more than the group has. -/
structure Bookkept (env : Env) (gateway : GatewayId) (group : Option String)
    (world : World) : Prop where
  attached : ∀ device ∈ (world.gateways gateway).ready,
    (world.gateways gateway).targets.get? (world.device device).mac = some device
  remaining : (world.gateways gateway).ready.length ≤ deviceGroupSize env group
  running : ∀ device ∈ (world.gateways gateway).ready, (world.device device).host ≠ none

/-- What the calls keep: also, a device that has this gateway is a target. -/
structure Bookkeeping (env : Env) (gateway : GatewayId) (group : Option String)
    (world : World) : Prop where
  held : ∀ device, (world.device device).gateway = some gateway →
    (world.gateways gateway).targets.get? (world.device device).mac = some device
  holds : ∀ device ∈ (world.gateways gateway).ready,
    (world.device device).gateway = some gateway ∧ (world.device device).host ≠ none
  distinct : (world.gateways gateway).ready.Nodup
  bounded : (world.gateways gateway).targets.size ≤ deviceGroupSize env group
  grouped : ∀ device, (world.device device).gateway = some gateway →
    (world.device device).group = group

variable {gateway : GatewayId} {group : Option String} {world : World}

theorem Bookkeeping.bookkept (kept : Bookkeeping env gateway group world) :
    Bookkept env gateway group world := by
  have attached : ∀ device ∈ (world.gateways gateway).ready,
      (world.gateways gateway).targets.get? (world.device device).mac = some device :=
    fun device member => kept.held device (kept.holds device member).1
  refine ⟨attached, ?_, fun device member => (kept.holds device member).2⟩
  -- two ready devices with the same MAC would be the same target
  have distinct : ((world.gateways gateway).ready.map fun device =>
      (world.device device).mac).Nodup := by
    refine List.Nodup.map_on ?_ kept.distinct
    intro first firstMember second secondMember equality
    have same := attached first firstMember
    rw [equality, attached second secondMember] at same
    exact (Option.some.inj same).symm
  calc
    (world.gateways gateway).ready.length =
        ((world.gateways gateway).ready.map fun device => (world.device device).mac).length :=
      (List.length_map _).symm
    _ ≤ (world.gateways gateway).targets.size := by
      refine Dict.length_le_size distinct ?_
      intro mac member
      obtain ⟨device, ready, rfl⟩ := List.mem_map.mp member
      rw [attached device ready]
      simp
    _ ≤ deviceGroupSize env group := kept.bounded

theorem Bookkeeping.notified {device : DeviceId} {reached : World}
    (kept : Bookkeeping env gateway group world)
    (noted : Notified device world reached) : Bookkeeping env gateway group reached := by
  have same : ∀ other, reached.device other = world.device other := by
    intro other
    rw [World.device, World.device, noted.devices]
  refine ⟨?_, ?_, ?_, ?_, ?_⟩
  · intro other holds
    rw [same] at holds ⊢
    rw [noted.targets]
    exact kept.held other holds
  · intro other member
    rw [same]
    rcases noted.ready gateway with equality | ⟨attached, running, equality⟩
    · rw [equality] at member
      exact kept.holds other member
    · rw [equality, mem_withReady] at member
      rcases member with rfl | member
      · exact ⟨attached, running⟩
      · exact kept.holds other member
  · rcases noted.ready gateway with equality | ⟨_, _, equality⟩
    · rw [equality]
      exact kept.distinct
    · rw [equality]
      unfold withReady
      split
      · exact kept.distinct
      · rename_i absent
        rw [List.nodup_append]
        refine ⟨kept.distinct, by simp, ?_⟩
        rintro other member last lastMember rfl
        rw [List.mem_singleton] at lastMember
        subst lastMember
        exact absent member
  · rw [noted.targets]
    exact kept.bounded
  · intro other holds
    rw [same] at holds ⊢
    exact kept.grouped other holds

theorem attach_bookkeeping {device : DeviceId} (host : Option HostId)
    (kept : Bookkeeping env gateway group world)
    (made : (GatewayCall.attach device host).MadeByRunner gateway group world)
    (orderly : (GatewayCall.attach device host).Orderly env gateway group world) :
    Bookkeeping env gateway group ((GatewayCall.attach device host).step env gateway world) := by
  unfold GatewayCall.step GatewayCall.perform
  by_cases absent : (world.gateways gateway).targets.get? (world.device device).mac = none
  · rw [Exec.bind_run_ok (attachTarget_run absent), Exec.modify_run]
    have targets : (((world.attached gateway device).setDevice device fun entry =>
        { entry with gateway := some gateway, host := host }).gateways gateway).targets =
          (world.gateways gateway).targets.insert (world.device device).mac device := by
      simp [World.attached, World.note, World.setGateway, World.setDevice]
    have ready : (((world.attached gateway device).setDevice device fun entry =>
        { entry with gateway := some gateway, host := host }).gateways gateway).ready =
          (world.gateways gateway).ready := by
      simp [World.attached, World.note, World.setGateway, World.setDevice]
    have mac : ∀ other, (((world.attached gateway device).setDevice device fun entry =>
        { entry with gateway := some gateway, host := host }).device other).mac =
          (world.device other).mac := setDevice_view Device.mac rfl
    have others : ∀ other, other ≠ device → ((world.attached gateway device).setDevice device
        fun entry => { entry with gateway := some gateway, host := host }).device other =
          world.device other := by
      intro other different
      rw [setDevice_device, if_neg different]
      rfl
    have elsewhere : ∀ other, (world.device other).gateway = some gateway → other ≠ device := by
      rintro other holds rfl
      rw [made.1] at holds
      cases holds
    refine ⟨?_, ?_, ?_, ?_, ?_⟩
    · intro other holds
      rw [targets, mac]
      by_cases same : other = device
      · subst same
        exact Dict.get?_insert_self _ _ _
      · rw [others other same] at holds
        have stored := kept.held other holds
        rw [Dict.get?_insert_of_ne _ _ ?_, stored]
        intro equality
        rw [equality, absent] at stored
        cases stored
    · intro other member
      rw [ready] at member
      have holds := kept.holds other member
      rw [others other (elsewhere other holds.1)]
      exact holds
    · rw [ready]
      exact kept.distinct
    · rw [targets, Dict.size_insert_of_absent _ absent]
      exact orderly
    · intro other holds
      by_cases same : other = device
      · subst same
        rw [setDevice_device, if_pos rfl]
        exact made.2
      · rw [others other same] at holds ⊢
        exact kept.grouped other holds
  · rw [Exec.bind_run_error (attachTarget_run_present absent)]
    exact kept

theorem detach_bookkeeping {device : DeviceId} (kept : Bookkeeping env gateway group world)
    (made : (GatewayCall.detach device).MadeByRunner gateway group world)
    (orderly : (GatewayCall.detach device).Orderly env gateway group world) :
    Bookkeeping env gateway group ((GatewayCall.detach device).step env gateway world) := by
  have stored := kept.held device made
  have present : (world.gateways gateway).targets.get? (world.device device).mac ≠ none := by
    simp [stored]
  unfold GatewayCall.step GatewayCall.perform
  rw [Exec.bind_run_ok (detachTarget_run present), Exec.modify_run]
  have targets : (((world.detached gateway device).setDevice device fun entry =>
      { entry with gateway := none, host := none }).gateways gateway).targets =
        (world.gateways gateway).targets.erase (world.device device).mac := by
    simp [World.detached, World.note, World.setGateway, World.setDevice]
  have ready : (((world.detached gateway device).setDevice device fun entry =>
      { entry with gateway := none, host := none }).gateways gateway).ready =
        (world.gateways gateway).ready := by
    simp [World.detached, World.note, World.setGateway, World.setDevice]
  have others : ∀ other, other ≠ device → ((world.detached gateway device).setDevice device
      fun entry => { entry with gateway := none, host := none }).device other =
        world.device other := by
    intro other different
    rw [setDevice_device, if_neg different]
    rfl
  have elsewhere : ∀ other, (((world.detached gateway device).setDevice device fun entry =>
      { entry with gateway := none, host := none }).device other).gateway = some gateway →
        other ≠ device := by
    rintro other holds rfl
    rw [setDevice_device, if_pos rfl] at holds
    cases holds
  refine ⟨?_, ?_, ?_, ?_, ?_⟩
  · intro other holds
    have different := elsewhere other holds
    rw [others other different] at holds ⊢
    have storedOther := kept.held other holds
    rw [targets, Dict.get?_erase_of_ne _ ?_, storedOther]
    intro equality
    rw [equality, stored] at storedOther
    exact different (Option.some.inj storedOther).symm
  · intro other member
    rw [ready] at member
    rw [others other (fun same => orderly (same ▸ member))]
    exact kept.holds other member
  · rw [ready]
    exact kept.distinct
  · rw [targets]
    exact (Dict.size_erase_le _ _).trans kept.bounded
  · intro other holds
    have different := elsewhere other holds
    rw [others other different] at holds ⊢
    exact kept.grouped other holds

/-- In every state reached by calls of the runner among which no ready device is
detached and no more devices are attached than the group has, the ready devices
are attached and running; a notification never counts more ready devices than
the group has, and hands out none without a host. -/
theorem reached_bookkept {start : World} (created : JustCreated gateway start)
    (reached : Reaches (GatewayCall.step env gateway) (fun world call =>
      call.MadeByRunner gateway group world ∧ call.Orderly env gateway group world) start world) :
    Bookkept env gateway group world ∧
      ∀ device, (world.device device).gateway = some gateway →
        (world.device device).group = group ∧
        (shouldActivateTarget env device).Holds world (fun outcome after =>
          0 ≤ (deviceGroupSize env group : Int) - (after.gateways gateway).ready.length ∧
          ∀ other ready, outcome = .ok (.group other ready) →
            ∀ member ∈ ready, (after.device member).host ≠ none) := by
  have kept : Bookkeeping env gateway group world := by
    refine reached.invariant (Bookkeeping env gateway group) ?_ ?_
    · refine ⟨fun device holds => absurd holds (created.unused device), ?_, ?_, ?_, ?_⟩
      · rw [created.ready]
        nofun
      · rw [created.ready]
        exact List.nodup_nil
      · rw [created.targets]
        exact Nat.zero_le _
      · exact fun device holds => absurd holds (created.unused device)
    · rintro state call invariant ⟨made, orderly⟩
      cases call with
      | attach device host => exact attach_bookkeeping host invariant made orderly
      | notify device => exact invariant.notified (checkAndActivateGateway_notified device state)
      | detach device => exact detach_bookkeeping invariant made orderly
  refine ⟨kept.bookkept, fun device holds => ⟨kept.grouped device holds, ?_⟩⟩
  refine (shouldActivateTarget_spec device world).mono ?_
  rintro outcome after ⟨noted, complete⟩
  have bookkept := (kept.notified noted).bookkept
  refine ⟨?_, ?_⟩
  · have bound := bookkept.remaining
    omega
  · intro other ready equality member readyMember
    obtain ⟨attached, _, members, rest, _⟩ := complete other ready equality
    have same : other = gateway := Option.some.inj (attached.symm.trans holds)
    subst same
    refine bookkept.running member ?_
    rw [rest]
    simpa [World.readied, World.setGateway, ← members] using readyMember

/-- Two devices of one group of two, each with an address and a waiting host
that was made for it. -/
def pairConfig : Config where
  secPort := 7
  deviceSpecs := some ((Dict.empty.insert "9a:02:57:1e:8f:01" (some "lab")).insert
    "9a:02:57:1e:8f:02" (some "lab"))

def pairWorld : World :=
  let member (mac : Mac) : Device :=
    { mac := mac, port := 0, group := some "lab", dhcpReady := true
      ipInfo := { ipAddr := some "10.20.99.7" } }
  let waiting (entry : Host) : Host :=
    { entry with state := .waiting, startupTime := some 1 }
  ((((initialWorld (.quiet pairConfig)).setDevice 0 fun _ => member "9a:02:57:1e:8f:01").setDevice
    1 fun _ => member "9a:02:57:1e:8f:02").setHost 0 waiting).setHost 1 waiting

theorem pairWorld_justCreated : JustCreated 0 pairWorld where
  targets := rfl
  ready := rfl
  unused := by
    intro device
    have free : ∀ other, (pairWorld.device other).gateway = none := by
      intro other
      simp only [pairWorld, World.setHost, World.setDevice, World.device, Function.update_apply]
      split
      · rfl
      · split <;> rfl
    rw [free device]
    nofun

/-- The first member becomes ready and fails before the second one is ready. -/
theorem not_every_gateway_bookkept :
    ¬ ∀ (env : Env) (gateway : GatewayId) (group : Option String) (start world : World),
      JustCreated gateway start →
      Reaches (GatewayCall.step env gateway)
        (fun world call => call.MadeByRunner gateway group world) start world →
      Bookkept env gateway group world := by
  intro always
  have bookkept := always (.quiet pairConfig) 0 (some "lab") pairWorld _ pairWorld_justCreated
    (.step (.detach 0) (.step (.notify 0) (.step (.attach 1 (some 1)) (.step (.attach 0 (some 0))
      .start (by decide)) (by decide)) (by decide)) (by decide))
  have attached := bookkept.attached 0 (by decide)
  revert attached
  decide

/-- The second member fails before it is ready, and then the first one is ready. -/
def pairCalls : List GatewayCall :=
  [.attach 0 (some 0), .attach 1 (some 1), .detach 1, .notify 0]

def pairReady : World :=
  pairCalls.foldl (fun world call => call.step (.quiet pairConfig) 0 world) pairWorld

theorem pairReady_bookkept :
    Bookkept (.quiet pairConfig) 0 (some "lab") pairReady ∧
      (shouldActivateTarget (.quiet pairConfig) 0).Holds pairReady (fun outcome after =>
        0 ≤ (deviceGroupSize (.quiet pairConfig) (some "lab") : Int) -
            (after.gateways 0).ready.length ∧
          ∀ other ready, outcome = .ok (.group other ready) →
            ∀ member ∈ ready, (after.device member).host ≠ none) := by
  have permitted : Reaches.Permitted (GatewayCall.step (.quiet pairConfig) 0)
      (fun world call => call.MadeByRunner 0 (some "lab") world ∧
        call.Orderly (.quiet pairConfig) 0 (some "lab") world) pairWorld pairCalls :=
    ⟨⟨by decide, by decide⟩, ⟨by decide, by decide⟩, ⟨by decide, by decide⟩,
      ⟨by decide, by decide⟩, trivial⟩
  obtain ⟨bookkept, ready⟩ := reached_bookkept pairWorld_justCreated (.run .start permitted)
  exact ⟨bookkept, (ready 0 (by decide)).2⟩

end Bookkeeping

end Daq
