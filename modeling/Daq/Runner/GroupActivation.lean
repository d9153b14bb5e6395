import Daq.Runner.Groups

namespace Daq

variable {env : Env}

/-! A group that gathers at its gateway, one notification after the other, and
is triggered as a whole. -/

/-- The device's own host can be triggered. -/
def OwnReady (world : World) (device : DeviceId) : Prop :=
  ∃ host, (world.device device).host = some host ∧
    triggerReady (world.hosts host) = .ok true

/-- A host that went from waiting to the base stage. -/
def TriggeredOnce (before after : World) (device : DeviceId) : Prop :=
  ∃ host, (before.device device).host = some host ∧
    (before.hosts host).state = .waiting ∧ (after.hosts host).state = .base

/-- A host that was started and has not been triggered. -/
structure Pending (entry : Host) : Prop where
  stage : entry.state = .init ∨ entry.state = .waiting
  started : entry.startupTime ≠ none
  reported : entry.report ≠ none
  unset : ¬ NonEmpty entry.targetIp

theorem triggerReady_iff {entry : Host} (pending : Pending entry)
    (waiting : entry.state = .waiting) :
    triggerReady entry = .ok true ↔
      (entry.loadedConfig.dhcpMode = .ipChange → 1 < entry.allIps.dedup.length) := by
  obtain ⟨time, started⟩ := Option.ne_none_iff_exists'.mp pending.started
  unfold triggerReady
  rw [waiting, started]
  by_cases changing : entry.loadedConfig.dhcpMode = .ipChange
  · simp [changing]
  · simp [changing]

theorem waiting_of_triggerReady {entry : Host} (able : triggerReady entry = .ok true) :
    entry.state = .waiting := by
  by_contra elsewhere
  unfold triggerReady at able
  rw [if_pos elsewhere] at able
  cases able

section Trigger

variable {world : World}

/-- A host that was triggered with an address, and what it has recorded. -/
structure Launched (before after : Host) (targetIp : Option String) : Prop where
  entry : after.unrecorded = { before.unrecorded with
    targetIp := targetIp
    state := .base
    life := before.life ++ [.moved .base] }

theorem Launched.state {before after : Host} {targetIp : Option String}
    (launched : Launched before after targetIp) : after.state = .base :=
  (congrArg Host.state launched.entry :)

theorem triggerHost_triggers {host : HostId} (targetIp : Option String)
    (publishes : ∀ state, env.fault state (.publishResult host) = none)
    (pending : Pending (world.hosts host))
    (able : triggerReady (world.hosts host) = .ok true) :
    (triggerHost env host targetIp).Holds world (fun outcome reached =>
      (outcome = .ok true ∧ Launched (world.hosts host) (reached.hosts host) targetIp) ∧
        KeepsHost host Host.bare world reached) := by
  refine Exec.Holds.and ?_ ((triggerHost_hostLocal host targetIp).holds world)
  unfold triggerHost
  rw [Exec.holds_bind, Exec.holds_read, Exec.then_ok, if_neg pending.unset, able]
  rw [Exec.holds_bind, check, Exec.holds_pure, Exec.then_ok, if_pos rfl]
  rw [Exec.holds_bind, Exec.holds_modify, Exec.then_ok]
  have addressed : ((world.setHost host fun entry => { entry with targetIp := targetIp }).hosts
      host) = { world.hosts host with targetIp := targetIp } := by
    rw [setHost_hosts, if_pos rfl]
  have reported : ((world.setHost host fun entry => { entry with targetIp := targetIp }).hosts
      host).report ≠ none := by
    rw [addressed]
    exact pending.reported
  refine (publishResult_returns _ _ publishes).bind nofun ?_
  rintro _ published ⟨_, keptPublished⟩
  have stillReported : (published.hosts host).report ≠ none := fun absent =>
    reported ((report_of_unrecorded keptPublished.inside).mp absent)
  refine (recordResult_returns _ _ publishes stillReported).bind nofun ?_
  rintro _ recorded ⟨_, keptRecorded⟩
  have entry : (recorded.hosts host).unrecorded =
      { (world.hosts host).unrecorded with targetIp := targetIp } := by
    rw [keptRecorded.inside, keptPublished.inside, addressed]
    rfl
  have stillWaiting : (recorded.hosts host).state = .waiting :=
    (congrArg Host.state entry).trans (waiting_of_triggerReady able)
  unfold stateTransition
  rw [Exec.holds_bind, Exec.holds_bind, Exec.holds_read, Exec.then_ok, Exec.holds_bind,
    Exec.holds_require]
  refine ⟨fun _ => ?_, fun unexpected => absurd (Or.inr (by rw [stillWaiting])) unexpected⟩
  rw [Exec.then_ok, Exec.holds_bind, Exec.holds_require]
  refine ⟨fun _ => ?_, fun terminated => absurd (by rw [stillWaiting]; decide) terminated⟩
  rw [Exec.then_ok, Exec.holds_modify, Exec.then_ok, Exec.holds_pure]
  refine ⟨rfl, ⟨?_⟩⟩
  rw [setHost_hosts, if_pos rfl]
  exact congrArg (fun entry : Host =>
    { entry with state := .base, life := entry.life ++ [LifeEvent.moved .base] }) entry

/-- Devices that can be triggered, each with a host of its own. -/
structure Triggerable (world : World) (ready : List DeviceId) : Prop where
  able : ∀ device ∈ ready, ∃ host, (world.device device).host = some host ∧
    Pending (world.hosts host) ∧ triggerReady (world.hosts host) = .ok true
  separate : ∀ first ∈ ready, ∀ second ∈ ready,
    (world.device first).host = (world.device second).host → first = second

/-- The devices that were passed are triggered, those to come are untouched. -/
structure Underway (world : World) (ready rest : List DeviceId) (state : World) : Prop where
  outside : state.bare = world.bare
  subset : rest ⊆ ready
  distinct : rest.Nodup
  coming : ∀ device ∈ rest, ∀ host, (world.device device).host = some host →
    state.hosts host = world.hosts host
  passed : ∀ device ∈ ready, device ∉ rest → ∀ host, (world.device device).host = some host →
    Launched (world.hosts host) (state.hosts host) (world.device device).ipInfo.ipAddr

theorem Underway.next {ready rest : List DeviceId} {device : DeviceId} {host : HostId}
    {state reached : World} (triggerable : Triggerable world ready)
    (underway : Underway world ready (device :: rest) state)
    (hosted : (world.device device).host = some host)
    (kept : KeepsHost host Host.bare state reached)
    (triggered : Launched (world.hosts host) (reached.hosts host)
      (world.device device).ipInfo.ipAddr) : Underway world ready rest reached := by
  obtain ⟨fresh, distinct⟩ := List.nodup_cons.mp underway.distinct
  have own : device ∈ ready := underway.subset (List.mem_cons_self ..)
  -- nobody else has this host
  have other : ∀ member ∈ ready, member ≠ device → ∀ second,
      (world.device member).host = some second → second ≠ host := by
    rintro member inside different second secondHosted rfl
    exact different (triggerable.separate member inside device own (secondHosted.trans hosted.symm))
  refine ⟨kept.outside.trans underway.outside, ?_, distinct, ?_, ?_⟩
  · exact fun member inside => underway.subset (List.mem_cons_of_mem _ inside)
  · intro member inside second secondHosted
    have different : member ≠ device := fun same => fresh (same ▸ inside)
    have ready := underway.subset (List.mem_cons_of_mem _ inside)
    rw [kept.others second (other member ready different second secondHosted)]
    exact underway.coming member (List.mem_cons_of_mem _ inside) second secondHosted
  · intro member inside absent second secondHosted
    by_cases same : member = device
    · subst same
      have equality : second = host := Option.some.inj (secondHosted.symm.trans hosted)
      rw [equality]
      exact triggered
    · rw [kept.others second (other member inside same second secondHosted)]
      exact underway.passed member inside (by simp [same, absent]) second secondHosted

theorem activateGateway_launches (gateway : GatewayId) {ready : List DeviceId}
    (reliable : ∀ state op, env.fault state op = none) (distinct : ready.Nodup)
    (triggerable : Triggerable world ready) :
    (activateGateway env gateway ready).Holds world (fun outcome reached =>
      outcome = .ok () ∧
      reached.bare = (world.setGateway gateway fun entry => { entry with activated := true }).bare ∧
      ∀ device ∈ ready, ∀ host, (world.device device).host = some host →
        Launched (world.hosts host) (reached.hosts host) (world.device device).ipInfo.ipAddr) := by
  unfold activateGateway gatewayActivate
  rw [Exec.holds_bind, Exec.holds_bind, Exec.holds_modify, Exec.then_ok,
    holds_callOut_of_returns (reliable _ _), Exec.then_ok, Exec.holds_bind, Exec.holds_get,
    Exec.then_ok]
  generalize env.order _ ready = order
  generalize activated : World.ticked (world.setGateway gateway fun entry =>
    { entry with activated := true }) = start
  have devices : start.devices = world.devices := by rw [← activated]; rfl
  have hosts : start.hosts = world.hosts := by rw [← activated]; rfl
  have entries : ∀ device, start.device device = world.device device := by
    intro device
    rw [World.device, World.device, devices]
  have triggerable : Triggerable start ready := by
    refine ⟨fun device inside => ?_, fun first firstInside second secondInside => ?_⟩
    · rw [entries, hosts]
      exact triggerable.able device inside
    · rw [entries, entries]
      exact triggerable.separate first firstInside second secondInside
  refine Exec.holds_forEach (Underway start ready) ?_ ?_ order.val ?_
  · intro state underway
    refine ⟨rfl, underway.outside.trans (by rw [← activated]; rfl), ?_⟩
    intro device inside host hosted
    rw [← hosts, ← entries]
    exact underway.passed device inside List.not_mem_nil host ((entries device).symm ▸ hosted)
  · intro device rest state underway
    obtain ⟨host, hosted, pending, able⟩ :=
      triggerable.able device (underway.subset (List.mem_cons_self ..))
    have same : state.device device = start.device device :=
      (congrArg (fun world => world.device device) underway.outside :)
    have untouched := underway.coming device (List.mem_cons_self ..) host hosted
    rw [Exec.holds_bind, Exec.holds_read, Exec.then_ok, same, hosted]
    refine (triggerHost_triggers _ (fun _ => reliable _ _) (untouched ▸ pending)
      (untouched ▸ able)).bind (by rintro _ _ ⟨⟨⟨⟩, _⟩, _⟩) ?_
    rintro triggered reached ⟨⟨positive, launched⟩, kept⟩
    cases positive
    rw [Exec.holds_require]
    refine ⟨fun _ => ⟨fun _ => ?_, by rintro _ ⟨⟩⟩, fun negative => absurd rfl negative⟩
    exact underway.next triggerable hosted kept (untouched ▸ launched)
  · refine ⟨rfl, fun device inside => order.property.mem_iff.mp inside,
      order.property.nodup_iff.mpr distinct, fun _ _ _ _ => rfl, ?_⟩
    intro device inside absent
    exact absurd (order.property.mem_iff.mpr inside) absent

theorem activateGateway_triggers (gateway : GatewayId) {ready : List DeviceId}
    (reliable : ∀ state op, env.fault state op = none) (distinct : ready.Nodup)
    (triggerable : Triggerable world ready) :
    (activateGateway env gateway ready).Holds world (fun outcome reached =>
      outcome = .ok () ∧ ∀ device ∈ ready, TriggeredOnce world reached device) := by
  refine (activateGateway_launches gateway reliable distinct triggerable).mono ?_
  rintro outcome reached ⟨returned, _, launched⟩
  refine ⟨returned, fun device inside => ?_⟩
  obtain ⟨host, hosted, _, able⟩ := triggerable.able device inside
  exact ⟨host, hosted, waiting_of_triggerReady able, (launched device inside host hosted).state⟩

end Trigger

section Gathering

variable {gateway : GatewayId} {members : List DeviceId} {world : World}

/-- The members of a group at its gateway, each with a host of its own that
runs no test. -/
structure Group (gateway : GatewayId) (members : List DeviceId) (world : World) : Prop where
  attached : ∀ device ∈ members, (world.device device).gateway = some gateway
  hosted : ∀ device ∈ members, ∃ host, (world.device device).host = some host ∧
    (world.hosts host).device = device ∧ (world.hosts host).testHost = none ∧
    world.devices.table.get? (world.hosts host).targetMac = some device
  separate : ∀ first ∈ members, ∀ second ∈ members,
    (world.device first).host = (world.device second).host → first = second

/-- Before its gateway is activated, nobody has been triggered, and whoever is
ready waits. -/
structure Gathering (gateway : GatewayId) (members : List DeviceId) (world : World) : Prop where
  pending : ∀ device ∈ members, ∀ host, (world.device device).host = some host →
    Pending (world.hosts host)
  ready : ∀ device ∈ (world.gateways gateway).ready, device ∈ members ∧
    ∀ host, (world.device device).host = some host → (world.hosts host).state = .waiting
  distinct : (world.gateways gateway).ready.Nodup

def GroupInvariant (gateway : GatewayId) (members : List DeviceId) (world : World) : Prop :=
  Group gateway members world ∧
    ((world.gateways gateway).activated = true ∨ Gathering gateway members world)

theorem Group.keepsHost {host : HostId} {reached : World} (group : Group gateway members world)
    (kept : KeepsHost host Host.bare world reached) : Group gateway members reached := by
  have devices : ∀ device, reached.device device = world.device device := by
    intro device
    rw [World.device, World.device, kept.devices]
  refine ⟨?_, ?_, ?_⟩
  · intro device inside
    rw [devices]
    exact group.attached device inside
  · intro device inside
    obtain ⟨own, hosted, back, idle, registered⟩ := group.hosted device inside
    refine ⟨own, (devices device).symm ▸ hosted, ?_, ?_, ?_⟩
    · rw [kept.field Host.device (fun _ => rfl)]
      exact back
    · rw [kept.field Host.testHost (fun _ => rfl)]
      exact idle
    · rw [kept.field Host.targetMac (fun _ => rfl), kept.devices]
      exact registered
  · intro first firstInside second secondInside
    rw [devices, devices]
    exact group.separate first firstInside second secondInside

/-- A change of the hosts that does not set a group back. -/
structure Undisturbed (before after : World) : Prop where
  devices : after.devices = before.devices
  gateways : after.gateways = before.gateways
  identity : ∀ host, (after.hosts host).device = (before.hosts host).device ∧
    (after.hosts host).targetMac = (before.hosts host).targetMac ∧
    (after.hosts host).testHost = (before.hosts host).testHost
  pending : ∀ host, Pending (before.hosts host) → Pending (after.hosts host) ∧
    ((before.hosts host).state = .waiting → (after.hosts host).state = .waiting)

def undisturbed : Frame World where
  rel := Undisturbed
  refl := fun _ => ⟨rfl, rfl, fun _ => ⟨rfl, rfl, rfl⟩, fun _ pending => ⟨pending, id⟩⟩
  trans := fun first second =>
    ⟨second.devices.trans first.devices, second.gateways.trans first.gateways,
      fun host =>
        ⟨(second.identity host).1.trans (first.identity host).1,
          (second.identity host).2.1.trans (first.identity host).2.1,
          (second.identity host).2.2.trans (first.identity host).2.2⟩,
      fun host pending =>
        have middle := first.pending host pending
        have last := second.pending host middle.1
        ⟨last.1, last.2 ∘ middle.2⟩⟩

theorem GroupInvariant.undisturbed {reached : World}
    (invariant : GroupInvariant gateway members world)
    (change : Undisturbed world reached) : GroupInvariant gateway members reached := by
  obtain ⟨group, phase⟩ := invariant
  have devices : ∀ device, reached.device device = world.device device := by
    intro device
    rw [World.device, World.device, change.devices]
  refine ⟨⟨?_, ?_, ?_⟩, ?_⟩
  · intro device inside
    rw [devices]
    exact group.attached device inside
  · intro device inside
    obtain ⟨own, hosted, back, idle, registered⟩ := group.hosted device inside
    obtain ⟨sameDevice, sameMac, sameTest⟩ := change.identity own
    rw [← sameDevice] at back
    rw [← sameTest] at idle
    rw [← sameMac, ← change.devices] at registered
    exact ⟨own, (devices device).symm ▸ hosted, back, idle, registered⟩
  · intro first firstInside second secondInside
    rw [devices, devices]
    exact group.separate first firstInside second secondInside
  · rw [change.gateways]
    refine phase.imp id fun gathering => ⟨?_, ?_, ?_⟩
    · intro device inside own hosted
      exact (change.pending own (gathering.pending device inside own (devices device ▸ hosted))).1
    · intro device inside
      rw [change.gateways] at inside
      obtain ⟨member, waiting⟩ := gathering.ready device inside
      refine ⟨member, fun own hosted => ?_⟩
      rw [devices] at hosted
      exact (change.pending own (gathering.pending device member own hosted)).2
        (waiting own hosted)
    · rw [change.gateways]
      exact gathering.distinct

theorem Undisturbed.of_record {host : HostId} {before after : World}
    (kept : KeepsHost host Host.unrecorded before after) : Undisturbed before after := by
  have state := kept.field Host.state (fun _ => rfl)
  refine ⟨kept.devices, kept.gateways, fun other => ⟨?_, ?_, ?_⟩, fun other pending => ⟨⟨?_, ?_, ?_, ?_⟩, ?_⟩⟩
  · exact kept.field Host.device (fun _ => rfl) other
  · exact kept.field Host.targetMac (fun _ => rfl) other
  · exact kept.field Host.testHost (fun _ => rfl) other
  · rw [state]
    exact pending.stage
  · rw [kept.field Host.startupTime (fun _ => rfl)]
    exact pending.started
  · exact fun absent => pending.reported ((report_of_unrecorded (kept.view_eq other)).mp absent)
  · rw [kept.field Host.targetIp (fun _ => rfl)]
    exact pending.unset
  · rw [state]
    exact id

theorem undisturbed_setHost {host : HostId} {update : Host → Host}
    (device : (update (world.hosts host)).device = (world.hosts host).device)
    (targetMac : (update (world.hosts host)).targetMac = (world.hosts host).targetMac)
    (testHost : (update (world.hosts host)).testHost = (world.hosts host).testHost)
    (pending : Pending (world.hosts host) → Pending (update (world.hosts host)) ∧
      ((world.hosts host).state = .waiting → (update (world.hosts host)).state = .waiting)) :
    Undisturbed world (world.setHost host update) := by
  refine ⟨rfl, rfl, fun other => ⟨?_, ?_, ?_⟩, fun other => ?_⟩
  · exact setHost_view Host.device device other
  · exact setHost_view Host.targetMac targetMac other
  · exact setHost_view Host.testHost testHost other
  · rw [setHost_hosts]
    split
    · rename_i same
      subst same
      exact pending
    · exact fun untouched => ⟨untouched, id⟩

/-- Hosts and gateways stay, and so do the parts of a device that matter. -/
theorem groupInvariant_setDevice (device : DeviceId) (update : Device → Device)
    (invariant : GroupInvariant gateway members world)
    (host : (update (world.device device)).host = (world.device device).host)
    (holds : (update (world.device device)).gateway = (world.device device).gateway) :
    GroupInvariant gateway members (world.setDevice device update) := by
  have hosts := setDevice_view Device.host host
  have gateways := setDevice_view Device.gateway holds
  obtain ⟨group, phase⟩ := invariant
  refine ⟨⟨?_, ?_, ?_⟩, phase.imp id fun gathering => ⟨?_, ?_, gathering.distinct⟩⟩
  · intro member inside
    rw [gateways]
    exact group.attached member inside
  · intro member inside
    rw [hosts]
    exact group.hosted member inside
  · intro first firstInside second secondInside
    rw [hosts, hosts]
    exact group.separate first firstInside second secondInside
  · intro member inside own
    rw [hosts]
    exact gathering.pending member inside own
  · intro member inside
    rw [hosts]
    exact gathering.ready member inside

theorem withReady_nodup {device : DeviceId} {ready : List DeviceId} (distinct : ready.Nodup) :
    (withReady device ready).Nodup := by
  unfold withReady
  split
  · exact distinct
  · rename_i absent
    rw [List.nodup_append]
    refine ⟨distinct, by simp, ?_⟩
    rintro other member last lastMember rfl
    rw [List.mem_singleton] at lastMember
    subst lastMember
    exact absent member

theorem readied_gathering {device : DeviceId} (gathering : Gathering gateway members world)
    (inside : device ∈ members)
    (waiting : ∀ host, (world.device device).host = some host →
      (world.hosts host).state = .waiting) :
    Gathering gateway members (world.readied gateway device) := by
  have ready : ((world.readied gateway device).gateways gateway).ready =
      withReady device (world.gateways gateway).ready := by
    simp [World.readied, World.setGateway]
  refine ⟨gathering.pending, ?_, ?_⟩
  · intro member readyMember
    rw [ready, mem_withReady] at readyMember
    rcases readyMember with rfl | readyMember
    · exact ⟨inside, waiting⟩
    · exact gathering.ready member readyMember
  · rw [ready]
    exact withReady_nodup gathering.distinct

theorem readied_group {device : DeviceId} (group : Group gateway members world) :
    Group gateway members (world.readied gateway device) :=
  ⟨group.attached, group.hosted, group.separate⟩

theorem triggerHost_invariant (host : HostId) (targetIp : Option String)
    (group : Group gateway members world)
    (activated : (world.gateways gateway).activated = true) :
    (triggerHost env host targetIp).Holds world (fun _ reached =>
      Group gateway members reached ∧ (reached.gateways gateway).activated = true) := by
  refine ((triggerHost_hostLocal host targetIp).holds world).mono ?_
  intro _ reached kept
  refine ⟨group.keepsHost kept, ?_⟩
  rw [KeepsHost.gateways kept]
  exact activated

theorem activateGateway_invariant (ready : List DeviceId) (group : Group gateway members world) :
    (activateGateway env gateway ready).Holds world (fun _ reached =>
      Group gateway members reached ∧ (reached.gateways gateway).activated = true) := by
  unfold activateGateway gatewayActivate
  have start : ∀ state : World, state = (world.setGateway gateway fun entry =>
      { entry with activated := true }).ticked →
      Group gateway members state ∧ (state.gateways gateway).activated = true := by
    rintro state rfl
    refine ⟨⟨group.attached, group.hosted, group.separate⟩, ?_⟩
    simp [World.setGateway, World.ticked]
  rw [Exec.holds_bind, Exec.holds_bind, Exec.holds_modify, Exec.then_ok, ← Exec.holds_bind]
  refine (callOut_ticks env _ _).bind (fun _ state equality => start state equality) ?_
  intro _ state equality
  rw [Exec.holds_bind, Exec.holds_get, Exec.then_ok]
  refine Exec.holds_forEach (fun _ state => Group gateway members state ∧
    (state.gateways gateway).activated = true) (fun _ holds => holds) ?_ _ (start state equality)
  intro device rest state holds
  rw [Exec.holds_bind, Exec.holds_read, Exec.then_ok]
  split
  · exact ⟨by rintro ⟨⟩, fun _ _ => holds⟩
  · refine (triggerHost_invariant _ _ holds.1 holds.2).bind (fun _ _ after =>
      ⟨by rintro ⟨⟩, fun _ _ => after⟩) ?_
    intro triggered reached after
    rw [Exec.holds_require]
    exact ⟨fun _ => ⟨fun _ => after, by rintro _ ⟨⟩⟩, fun _ => ⟨by rintro ⟨⟩, fun _ _ => after⟩⟩

/-- What a member's notification comes to. -/
structure Considered (gateway : GatewayId) (members : List DeviceId)
    (outcome : Except Exc Readiness) (reached : World) : Prop where
  invariant : GroupInvariant gateway members reached
  activated : outcome = .ok .activated → (reached.gateways gateway).activated = true
  own : ∀ other ready, outcome = .ok (.group other ready) → other = gateway

theorem shouldActivateTarget_considered {device : DeviceId} (inside : device ∈ members)
    (invariant : GroupInvariant gateway members world) :
    (shouldActivateTarget env device).Holds world (Considered gateway members) := by
  obtain ⟨group, phase⟩ := invariant
  obtain ⟨host, hosted, _, _⟩ := group.hosted device inside
  have attached := group.attached device inside
  unfold shouldActivateTarget
  rw [Exec.holds_bind, Exec.holds_get, Exec.then_ok, hosted, attached]
  simp only [Exec.holds_ite]
  refine ⟨fun activated => ⟨⟨group, phase⟩, fun _ => activated, nofun⟩, fun inactive => ?_⟩
  have gathering := phase.resolve_left inactive
  rcases (gathering.pending device inside host hosted).stage with starting | waiting
  · -- a member that is not waiting yet is not counted
    have unnotified : (notifyActivate env host).run world = (.ok false, world) := by
      unfold notifyActivate
      rw [Exec.read_bind_run, starting]
      rfl
    rw [Exec.holds_bind, Exec.holds_of_run unnotified, Exec.then_ok]
    exact ⟨⟨group, .inr gathering⟩, nofun, nofun⟩
  · have ready : GroupInvariant gateway members (world.readied gateway device) := by
      refine ⟨readied_group group, .inr (readied_gathering gathering inside ?_)⟩
      intro other otherHosted
      have same : other = host := Option.some.inj (otherHosted.symm.trans hosted)
      rw [same]
      exact waiting
    rw [Exec.holds_bind, Exec.holds_of_run (notifyActivate_waiting waiting), Exec.then_ok,
      if_pos rfl, Exec.holds_bind, Exec.holds_of_run (targetReady_run world gateway device),
      Exec.then_ok, Exec.holds_ite]
    refine ⟨fun _ => ⟨ready, nofun, nofun⟩, fun _ => ?_⟩
    rw [Exec.holds_bind, Exec.holds_read, Exec.then_ok, Exec.holds_bind]
    unfold check
    split
    · rw [Exec.holds_pure, Exec.then_ok, Exec.holds_ite]
      refine ⟨fun _ => ⟨ready, nofun, ?_⟩, fun _ => ⟨ready, nofun, nofun⟩⟩
      rintro other devices equality
      cases equality
      rfl
    · exact ⟨ready, nofun, nofun⟩

/-- A member's notification keeps the group together. -/
theorem checkAndActivateGateway_invariant {device : DeviceId} (inside : device ∈ members)
    (invariant : GroupInvariant gateway members world) :
    (checkAndActivateGateway env device).Holds world (fun _ reached =>
      GroupInvariant gateway members reached) := by
  unfold checkAndActivateGateway
  rw [Exec.holds_bind, Exec.holds_read, Exec.then_ok, Exec.holds_ite]
  refine ⟨fun _ => ?_, fun _ => invariant⟩
  refine (shouldActivateTarget_considered inside invariant).bind
    (fun _ _ considered => considered.invariant) ?_
  rintro readiness reached ⟨kept, activated, same⟩
  split
  · exact kept
  · exact kept
  · exact kept
  · refine (triggerHost_invariant _ _ kept.1 (activated rfl)).bind ?_ ?_
    · exact fun _ _ after => ⟨after.1, .inl after.2⟩
    · exact fun _ _ after => ⟨after.1, .inl after.2⟩
  · rename_i other ready _
    have equality := same other ready rfl
    subst equality
    exact (activateGateway_invariant ready kept.1).mono fun _ _ after => ⟨after.1, .inl after.2⟩

theorem undisturbed_ticked : Undisturbed world world.ticked :=
  ⟨rfl, rfl, fun _ => ⟨rfl, rfl, rfl⟩, fun _ pending => ⟨pending, id⟩⟩

theorem callModule_idle (drain : Run Unit) {host : HostId} (op : Op)
    (idle : (world.hosts host).testHost = none) :
    (callModule env drain host op).run world = (.ok (), world) := by
  unfold callModule
  rw [Exec.get_bind_run, idle]
  rfl

/-- A member's address is added to those its host has seen. -/
theorem hostIpNotify_undisturbed (drain : Run Unit) (world : World) {host : HostId}
    (ip : String) (idle : (world.hosts host).testHost = none) :
    (hostIpNotify env drain host ip).Holds world (fun _ reached =>
      Undisturbed world reached) := by
  unfold hostIpNotify
  refine (callOut_ticks env _ world).bind ?_ ?_
  · rintro _ _ rfl
    exact undisturbed_ticked
  · rintro _ _ rfl
    rw [Exec.holds_bind, Exec.holds_modify, Exec.then_ok, Exec.holds_of_run (callModule_idle _ _ ?_)]
    · refine undisturbed.trans undisturbed_ticked (undisturbed_setHost rfl rfl rfl ?_)
      intro pending
      refine ⟨⟨pending.stage, pending.started, pending.reported, ?_⟩, id⟩
      rw [if_neg pending.unset]
      exact pending.unset
    · rw [setHost_hosts, if_pos rfl]
      exact idle

theorem ipNotify_invariant (drain : Run Unit) {state : String} {target : IpTarget}
    {device : DeviceId} (expected : state ≠ "NEW") (inside : device ∈ members)
    (known : world.devices.table.get? target.mac = some device)
    (invariant : GroupInvariant gateway members world) :
    (ipNotify env drain state target).Holds world (fun _ reached =>
      GroupInvariant gateway members reached) := by
  obtain ⟨host, hosted, _, idle, _⟩ := invariant.1.hosted device inside
  unfold ipNotify
  rw [Exec.holds_ite]
  refine ⟨fun _ => invariant, fun _ => ?_⟩
  rw [Exec.holds_bind, Exec.holds_when]
  refine ⟨fun unexpected => absurd unexpected expected, fun _ => ?_⟩
  rw [Exec.then_ok, Exec.holds_bind, Exec.holds_require]
  refine ⟨fun _ => ?_, fun _ => invariant⟩
  rw [Exec.then_ok, Exec.holds_bind, Exec.holds_get, Exec.then_ok, known]
  have noted := groupInvariant_setDevice device (fun entry =>
    { entry with ipInfo :=
      { ipAddr := some target.ip, state := some state, deltaSec := target.delta } })
    invariant rfl rfl
  rw [Exec.holds_bind, Exec.holds_modify, Exec.then_ok, hosted, Exec.holds_whenSome]
  refine ⟨nofun, ?_⟩
  intro other equality
  cases equality
  rw [Exec.holds_when]
  refine ⟨fun _ => ?_, fun _ => noted⟩
  refine (hostIpNotify_undisturbed drain _ target.ip ?_).bind ?_ ?_
  · exact idle
  · exact fun _ _ change => noted.undisturbed change
  · exact fun _ _ change => checkAndActivateGateway_invariant inside (noted.undisturbed change)

theorem dhcpReadyListener_invariant {device : DeviceId} (inside : device ∈ members)
    (invariant : GroupInvariant gateway members world) :
    (dhcpReadyListener env device).Holds world (fun _ reached =>
      GroupInvariant gateway members reached) := by
  unfold dhcpReadyListener
  rw [Exec.holds_bind, Exec.holds_modify, Exec.then_ok]
  exact checkAndActivateGateway_invariant inside (groupInvariant_setDevice _ _ invariant rfl rfl)

theorem stateTransition_waiting (host : HostId) :
    (stateTransition host .waiting (some .init)).Within undisturbed := by
  intro state
  unfold stateTransition
  rw [Exec.read_bind_run]
  by_cases starting : some HostState.init = none ∨ some .init = some (state.hosts host).state
  · rw [Exec.require_bind_run _ _ starting]
    by_cases alive : (state.hosts host).state ≠ .term
    · rw [Exec.require_bind_run _ _ alive]
      simp only [Exec.modify_run]
      refine undisturbed_setHost rfl rfl rfl fun pending => ⟨?_, fun _ => rfl⟩
      exact ⟨.inr rfl, pending.started, pending.reported, pending.unset⟩
    · rw [Exec.require_bind_run_not _ _ alive]
      exact undisturbed.refl state
  · rw [Exec.require_bind_run_not _ _ starting]
    exact undisturbed.refl state

theorem startWaiting_undisturbed (host : HostId) :
    (startWaiting env host).Within undisturbed := by
  have recording : ∀ name record, (recordResult env host name record).Within undisturbed :=
    fun name record => (recordResult_hostRecord host name record).mono fun _ _ => .of_record
  unfold startWaiting
  refine Exec.within_bind (stateTransition_waiting host) fun _ => ?_
  exact Exec.within_bind (recording _ _) fun _ => recording _ _

theorem requestAddress_invariant (drain : Run Unit) {device : DeviceId} {host : HostId}
    (inside : device ∈ members) (hosted : (world.device device).host = some host)
    (invariant : GroupInvariant gateway members world) :
    (requestAddress env drain host (world.hosts host)).Holds world (fun _ reached =>
      GroupInvariant gateway members reached) := by
  obtain ⟨own, ownHosted, back, _, known⟩ := invariant.1.hosted device inside
  have same : own = host := Option.some.inj (ownHosted.symm.trans hosted)
  subst same
  unfold requestAddress
  rw [Exec.holds_ite]
  refine ⟨fun _ => ?_, fun _ => ?_⟩
  · rw [Exec.holds_bind, Exec.holds_modify, Exec.then_ok]
    exact ipNotify_invariant drain (by decide) inside known
      (groupInvariant_setDevice _ _ invariant rfl rfl)
  · rw [Exec.holds_bind, Exec.holds_modify, Exec.then_ok]
    have moded := groupInvariant_setDevice (world.hosts own).device
      (fun entry => { entry with
        dhcpMode := configuredDhcpMode entry (world.hosts own).loadedConfig }) invariant rfl rfl
    rw [Exec.holds_bind, Exec.holds_read, Exec.then_ok, Exec.holds_ite]
    refine ⟨fun _ => ?_, fun _ => ?_⟩
    · rw [Exec.holds_modify]
      exact moded.undisturbed (undisturbed_setHost rfl rfl rfl fun pending =>
        ⟨⟨pending.stage, pending.started, pending.reported, pending.unset⟩, id⟩)
    · rw [Exec.holds_bind, Exec.holds_read, Exec.then_ok]
      split
      · exact moded
      · refine (callOut_ticks env _ _).mono ?_
        rintro _ _ rfl
        exact moded.undisturbed undisturbed_ticked

theorem prepare_invariant (drain : Run Unit) {device : DeviceId} {host : HostId}
    (inside : device ∈ members) (hosted : (world.device device).host = some host)
    (invariant : GroupInvariant gateway members world) :
    (prepare env drain host).Holds world (fun _ reached =>
      GroupInvariant gateway members reached) := by
  unfold prepare
  refine ((startWaiting_undisturbed host).holds world).bind
    (fun _ _ change => invariant.undisturbed change) ?_
  intro _ acquiring change
  have kept := invariant.undisturbed change
  have stillHosted : (acquiring.device device).host = some host := by
    rw [World.device, Undisturbed.devices change]
    exact hosted
  rw [Exec.holds_bind, Exec.holds_read, Exec.then_ok]
  refine (requestAddress_invariant drain inside stillHosted kept).bind (fun _ _ after => after) ?_
  intro _ requested after
  obtain ⟨own, ownHosted, back, _⟩ := kept.1.hosted device inside
  have same : own = host := Option.some.inj (ownHosted.symm.trans stillHosted)
  subst same
  rw [back]
  refine Exec.holds_forEach (fun rest state => (∀ listener ∈ rest, listener = device) ∧
    GroupInvariant gateway members state) (fun _ holds => holds.2) ?_ _ ⟨?_, after⟩
  · rintro listener rest state ⟨own, holds⟩
    have equality := own listener (List.mem_cons_self ..)
    subst equality
    refine (dhcpReadyListener_invariant inside holds).mono ?_
    intro _ reached kept
    exact ⟨fun _ => ⟨fun other member => own other (List.mem_cons_of_mem _ member), kept⟩,
      fun _ _ => kept⟩
  · exact fun listener member => List.eq_of_mem_replicate member

/-- What reaches a member: an address, the end of a DHCP exchange, or its
host's turn to prepare itself.  The last three are what each of these does
before it asks for the group, so that the states in which the group is asked
for are among the reached ones. -/
inductive Notice
  | address (state : String) (target : IpTarget)
  | dhcpReady (device : DeviceId)
  | prepare (device : DeviceId)
  | addressSeen (device : DeviceId) (info : IpInfo) (ip : String)
  | dhcpMarked (device : DeviceId)
  | prepared (device : DeviceId) (mode : Option DhcpMode)

namespace Notice

/-- A notice for the device's host, if it has one. -/
def ofHost (device : DeviceId) (body : HostId → Run Unit) : Run Unit := do
  let entry ← Exec.read fun world => world.device device
  Exec.whenSome entry.host body

def perform (env : Env) : Notice → Run Unit
  | .address state target => ipNotify env (handleReceivedEvents env) state target
  | .dhcpReady device => dhcpReadyListener env device
  | .prepare device => ofHost device (Daq.prepare env (handleReceivedEvents env))
  | .addressSeen device info ip => ofHost device fun host => do
      Exec.modify fun world => world.setDevice device fun entry => { entry with ipInfo := info }
      hostIpNotify env (handleReceivedEvents env) host ip
  | .dhcpMarked device =>
      Exec.modify fun world => world.setDevice device fun entry => { entry with dhcpReady := true }
  | .prepared device mode => ofHost device fun host => do
      startWaiting env host
      Exec.modify fun world => world.setDevice device fun entry => { entry with dhcpMode := mode }

def step (env : Env) (notice : Notice) (world : World) : World :=
  ((notice.perform env).run world).2

/-- The notice is for a member; only a native gateway notifies new devices. -/
def ForMember (members : List DeviceId) (world : World) : Notice → Prop
  | .address state target => state ≠ "NEW" ∧
      ∃ device ∈ members, world.devices.table.get? target.mac = some device
  | .dhcpReady device | .prepare device | .addressSeen device _ _ | .dhcpMarked device
  | .prepared device _ => device ∈ members

end Notice

theorem ofHost_invariant {device : DeviceId} {body : HostId → Run Unit}
    (invariant : GroupInvariant gateway members world)
    (kept : ∀ host, (world.device device).host = some host →
      (body host).Holds world (fun _ after => GroupInvariant gateway members after)) :
    (Notice.ofHost device body).Holds world (fun _ after =>
      GroupInvariant gateway members after) := by
  rw [Notice.ofHost, Exec.holds_bind, Exec.holds_read, Exec.then_ok, Exec.holds_whenSome]
  exact ⟨fun _ => invariant, kept⟩

theorem reached_groupInvariant {start : World} (formed : GroupInvariant gateway members start)
    (reached : Reaches (Notice.step env) (Notice.ForMember members) start world) :
    GroupInvariant gateway members world := by
  refine reached.invariant (GroupInvariant gateway members) formed ?_
  intro state notice invariant allowed
  cases notice with
  | address kind target =>
      obtain ⟨expected, device, inside, known⟩ := allowed
      exact ipNotify_invariant _ expected inside known invariant
  | dhcpReady device => exact dhcpReadyListener_invariant allowed invariant
  | prepare device =>
      exact ofHost_invariant invariant fun host hosted =>
        prepare_invariant _ allowed hosted invariant
  | addressSeen device info ip =>
      refine ofHost_invariant invariant fun host hosted => ?_
      obtain ⟨own, ownHosted, _, idle, _⟩ := invariant.1.hosted device allowed
      have same : own = host := Option.some.inj (ownHosted.symm.trans hosted)
      subst same
      have seen := groupInvariant_setDevice device (fun entry => { entry with ipInfo := info })
        invariant rfl rfl
      rw [Exec.holds_bind, Exec.holds_modify, Exec.then_ok]
      refine (hostIpNotify_undisturbed _ _ ip ?_).mono fun _ _ change => seen.undisturbed change
      exact idle
  | dhcpMarked device =>
      exact groupInvariant_setDevice device (fun entry => { entry with dhcpReady := true })
        invariant rfl rfl
  | prepared device mode =>
      refine ofHost_invariant invariant fun host hosted => ?_
      refine ((startWaiting_undisturbed host).holds state).bind
        (fun _ _ change => invariant.undisturbed change) ?_
      intro _ reached change
      exact groupInvariant_setDevice device (fun entry => { entry with dhcpMode := mode })
        (invariant.undisturbed change) rfl rfl

/-- The handed out devices can all be triggered, and triggering the group
triggers each of them once. -/
def SoundActivation (env : Env) (gateway : GatewayId) (ready : List DeviceId)
    (reached : World) : Prop :=
  (∀ device ∈ ready, OwnReady reached device) ∧
    (activateGateway env gateway ready).Holds reached (fun outcome after =>
      outcome = .ok () ∧ ∀ device ∈ ready, TriggeredOnce reached after device)

/-- The host has to see a second address before it can be triggered. -/
def AwaitsChange (entry : Host) : Prop :=
  entry.loadedConfig.dhcpMode = .ipChange ∧ entry.allIps.dedup.length ≤ 1

/-- In every state a group reaches by notices of its members, in any order:
when the notification of a member hands out the ready devices, activating them
is sound if and only if no other ready device awaits a change of its address. -/
theorem shouldActivateTarget_sound_iff {start : World} {device : DeviceId}
    (reliable : ∀ state op, env.fault state op = none)
    (formed : GroupInvariant gateway members start)
    (reached : Reaches (Notice.step env) (Notice.ForMember members) start world)
    (inside : device ∈ members) :
    (shouldActivateTarget env device).Holds world (fun outcome after =>
      ∀ other ready, outcome = .ok (.group other ready) →
        (SoundActivation env other ready after ↔
          ∀ member ∈ (world.gateways other).ready, member ≠ device →
            ∀ host, (world.device member).host = some host →
              ¬ AwaitsChange (world.hosts host))) := by
  obtain ⟨group, phase⟩ := reached_groupInvariant formed reached
  refine (shouldActivateTarget_spec device world).mono ?_
  rintro outcome after ⟨_, complete⟩ other ready equality
  obtain ⟨attached, inactive, gathered, rest, own, hosted, waiting, able⟩ :=
    complete other ready equality
  have same : other = gateway := Option.some.inj (attached.symm.trans (group.attached device inside))
  subst same
  have gathering := phase.resolve_left (by simp [inactive])
  have grown : Gathering other members (world.readied other device) := by
    refine readied_gathering gathering inside fun second secondHosted => ?_
    have equality : second = own := Option.some.inj (secondHosted.symm.trans hosted)
    rw [equality]
    exact waiting
  have counted : ((world.readied other device).gateways other).ready = ready := by
    rw [gathered]
    simp [World.readied, World.setGateway]
  -- a ready device can be triggered exactly when it awaits no change
  have decided : ∀ member ∈ ready, ∀ host, (world.device member).host = some host →
      (triggerReady (world.hosts host) = .ok true ↔ ¬ AwaitsChange (world.hosts host)) := by
    intro member readyMember host memberHosted
    obtain ⟨belongs, waits⟩ := grown.ready member (counted ▸ readyMember)
    rw [triggerReady_iff (gathering.pending member belongs host memberHosted)
      (waits host memberHosted)]
    simp [AwaitsChange]
  rw [rest]
  constructor
  · rintro ⟨ownReady, _⟩ member readyMember _ host memberHosted
    have readyNow : member ∈ ready := by
      rw [gathered, mem_withReady]
      exact .inr readyMember
    obtain ⟨second, secondHosted, triggered⟩ := ownReady member readyNow
    have equality : second = host := Option.some.inj (secondHosted.symm.trans memberHosted)
    subst equality
    exact (decided member readyNow second memberHosted).mp triggered
  · intro settled
    have triggerable : Triggerable (world.readied other device) ready := by
      refine ⟨fun member readyMember => ?_, fun first firstReady second secondReady => ?_⟩
      · obtain ⟨belongs, _⟩ := grown.ready member (counted ▸ readyMember)
        obtain ⟨host, memberHosted, _⟩ := group.hosted member belongs
        refine ⟨host, memberHosted, gathering.pending member belongs host memberHosted, ?_⟩
        by_cases notified : member = device
        · subst notified
          have equality : host = own := Option.some.inj (memberHosted.symm.trans hosted)
          rw [equality]
          exact able
        · have before : member ∈ (world.gateways other).ready := by
            rw [gathered, mem_withReady] at readyMember
            exact readyMember.resolve_left notified
          exact (decided member readyMember host memberHosted).mpr
            (settled member before notified host memberHosted)
      · exact group.separate first (grown.ready first (counted ▸ firstReady)).1 second
          (grown.ready second (counted ▸ secondReady)).1
    refine ⟨fun member readyMember => ?_, ?_⟩
    · obtain ⟨host, memberHosted, _, triggered⟩ := triggerable.able member readyMember
      exact ⟨host, memberHosted, triggered⟩
    · exact activateGateway_triggers other reliable (counted ▸ grown.distinct) triggerable

/-- Two waiting members of a group of two that have seen one address each; the
second one's mode is given. -/
def waitingPair (mode : DhcpMode) : World :=
  let member (mac : Mac) (host : HostId) : Device :=
    { mac := mac, port := 0, host := some host, gateway := some 0, group := some "lab"
      dhcpReady := true, ipInfo := { ipAddr := some "10.20.99.7" } }
  let waiting (device : DeviceId) (mac : Mac) (mode : DhcpMode) : Host :=
    { device := device, gateway := 0, targetMac := mac, targetPort := none, state := .waiting
      startupTime := some 1, allIps := ["10.20.99.7"], loadedConfig := { dhcpMode := mode } }
  { initialWorld (.quiet pairConfig) with
    devices :=
      { table := (Dict.empty.insert "9a:02:57:1e:8f:01" 0).insert "9a:02:57:1e:8f:02" 1
        setIds := {1, 2}
        heap := fun device => if device = 0 then member "9a:02:57:1e:8f:01" 0
          else member "9a:02:57:1e:8f:02" 1
        next := 2 }
    hosts := fun host => if host = 0 then waiting 0 "9a:02:57:1e:8f:01" .normal
      else waiting 1 "9a:02:57:1e:8f:02" mode }

theorem waitingPair_invariant (mode : DhcpMode) :
    GroupInvariant 0 [0, 1] (waitingPair mode) := by
  have member : ∀ {property : DeviceId → Prop}, property 0 → property 1 →
      ∀ device ∈ [0, 1], property device := by
    intro property first second device inside
    rcases List.mem_cons.mp inside with rfl | inside
    · exact first
    · exact List.mem_singleton.mp inside ▸ second
  have hosts : ∀ device ∈ [0, 1], ((waitingPair mode).device device).host = some device :=
    member rfl rfl
  have pending : ∀ device ∈ [0, 1], Pending ((waitingPair mode).hosts device) :=
    member ⟨.inr rfl, nofun, nofun, fun nonempty => nonempty rfl⟩
      ⟨.inr rfl, nofun, nofun, fun nonempty => nonempty rfl⟩
  refine ⟨⟨member rfl rfl, ?_, ?_⟩, .inr ⟨?_, nofun, List.nodup_nil⟩⟩
  · exact member ⟨0, rfl, rfl, rfl, rfl⟩ ⟨1, rfl, rfl, rfl, rfl⟩
  · intro first firstInside second secondInside equality
    rw [hosts first firstInside, hosts second secondInside] at equality
    exact Option.some.inj equality
  · intro device inside host hosted
    have same : device = host := Option.some.inj ((hosts device inside).symm.trans hosted)
    exact same ▸ pending device inside

/-- The second member is notified first. -/
def gatheredPair (mode : DhcpMode) : World :=
  Notice.step (.quiet pairConfig) (.dhcpReady 1) (waitingPair mode)

theorem gatheredPair_reached (mode : DhcpMode) :
    Reaches (Notice.step (.quiet pairConfig)) (Notice.ForMember [0, 1]) (waitingPair mode)
      (gatheredPair mode) :=
  Reaches.step (Notice.dhcpReady 1) .start (List.mem_cons_of_mem _ (List.mem_singleton_self _))

/-- With a second member that awaits a change, the first one's notification
hands out both. -/
theorem not_every_activation_sound :
    ¬ ∀ (env : Env) (gateway : GatewayId) (members : List DeviceId) (start world : World)
        (device : DeviceId), (∀ state op, env.fault state op = none) →
      GroupInvariant gateway members start →
      Reaches (Notice.step env) (Notice.ForMember members) start world → device ∈ members →
      (shouldActivateTarget env device).Holds world (fun outcome after =>
        ∀ other ready, outcome = .ok (.group other ready) →
          SoundActivation env other ready after) := by
  intro always
  have sound := always (.quiet pairConfig) 0 [0, 1] _ _ 0 (fun _ _ => rfl)
    (waitingPair_invariant .ipChange) (gatheredPair_reached .ipChange) (List.mem_cons_self ..)
  obtain ⟨ready, _⟩ := sound 0 [1, 0] rfl
  obtain ⟨host, hosted, able⟩ := ready 1 (List.mem_cons_self ..)
  have same : host = 1 := Option.some.inj hosted.symm
  subst same
  have answered := congrArg Except.toOption able
  revert answered
  decide

theorem gatheredPair_activation_sound :
    SoundActivation (.quiet pairConfig) 0 [1, 0]
      ((shouldActivateTarget (.quiet pairConfig) 0).run (gatheredPair .normal)).2 := by
  have sound := shouldActivateTarget_sound_iff (fun _ _ => rfl) (waitingPair_invariant .normal)
    (gatheredPair_reached .normal) (List.mem_cons_self ..)
  refine (sound 0 [1, 0] rfl).mpr ?_
  rintro member inside _ host hosted ⟨changing, _⟩
  have second : member = 1 := List.mem_singleton.mp inside
  subst second
  have same : host = 1 := Option.some.inj hosted.symm
  subst same
  cases changing

end Gathering

end Daq
