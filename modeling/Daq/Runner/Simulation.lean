import Daq.Runner.Ledger

namespace Daq

variable {env : Env} {reaps : Mac → Prop}

/-! Every command of the runner makes ledger writes only. -/

section Writes

variable {world : World}

theorem note_ledger (world : World) (notes : List Happening) :
    (world.note notes).ledger = { world.ledger with trail := world.trail ++ notes } := rfl

theorem setPortInfo_ledger (info : PortId) (update : PortInfo → PortInfo) :
    (world.setPortInfo info update).ledger = { world.ledger with
      flapping := Function.update world.ledger.flapping info
        (update (world.portInfos info)).flappingStart } := by
  have flapping : (fun other => ((world.setPortInfo info update).portInfos other).flappingStart) =
      Function.update world.ledger.flapping info
        (update (world.portInfos info)).flappingStart :=
    funext fun other =>
      Function.apply_update (fun _ => PortInfo.flappingStart) world.portInfos info _ other
  calc
    (world.setPortInfo info update).ledger = { world.ledger with flapping := fun other =>
        ((world.setPortInfo info update).portInfos other).flappingStart } := rfl
    _ = _ := by rw [flapping]

theorem setGateway_ledger (gateway : GatewayId) (update : Gateway → Gateway)
    (set : (update (world.gateways gateway)).portSet = (world.gateways gateway).portSet) :
    (world.setGateway gateway update).ledger = { world.ledger with
      targets := Function.update world.ledger.targets gateway
        (update (world.gateways gateway)).targets } := by
  have targets : (fun other => ((world.setGateway gateway update).gateways other).targets) =
      Function.update world.ledger.targets gateway (update (world.gateways gateway)).targets :=
    funext fun other => Function.apply_update (fun _ => Gateway.targets) world.gateways gateway _ other
  have sets : (fun other => ((world.setGateway gateway update).gateways other).portSet) =
      world.ledger.portSet := funext (setGateway_view Gateway.portSet set)
  calc
    (world.setGateway gateway update).ledger = { world.ledger with
        targets := fun other => ((world.setGateway gateway update).gateways other).targets
        portSet := fun other => ((world.setGateway gateway update).gateways other).portSet } := rfl
    _ = _ := by rw [targets, sets]

theorem setGateway_ledger_same (gateway : GatewayId) (update : Gateway → Gateway)
    (set : (update (world.gateways gateway)).portSet = (world.gateways gateway).portSet)
    (targets : (update (world.gateways gateway)).targets = (world.gateways gateway).targets) :
    (world.setGateway gateway update).ledger = world.ledger := by
  rw [setGateway_ledger gateway update set, targets]
  have same : Function.update world.ledger.targets gateway (world.gateways gateway).targets =
      world.ledger.targets := Function.update_eq_self _ _
  rw [same]

theorem posts_of_ledger {before after : World} (same : after.ledger = before.ledger) :
    (posts env reaps).rel before after := by
  change Relation.ReflTransGen _ _ after.ledger
  rw [same]

theorem posts_of_step {before after : World} {ledger : Ledger}
    (step : Ledger.Step env.config reaps before.ledger ledger) (same : after.ledger = ledger) :
    (posts env reaps).rel before after := by
  subst same
  exact .single step

theorem within_quiet {update : World → World}
    (same : ∀ world, (update world).ledger = world.ledger) :
    (Exec.modify update : Run Unit).Within (posts env reaps) :=
  Exec.within_modify fun world => posts_of_ledger (same world)

theorem callOut_posts (op : Op) : (callOut env op).Within (posts env reaps) := by
  intro world
  rw [callOut_run_snd]
  exact posts_of_ledger rfl

/-- What concerns one host only. -/
theorem keepsHost_posts {α : Type} {program : Run α} {host : HostId} {view : Host → Host}
    (within : program.Within (keepsHost host view)) : program.Within (posts env reaps) :=
  within.mono fun before after kept => posts_of_ledger
    (congrArg World.ledger kept.outside : after.bare.ledger = before.bare.ledger)

theorem topologyOnly_posts {α : Type} {program : Run α} (within : program.Within topologyOnly) :
    program.Within (posts env reaps) :=
  within.mono fun before after kept => posts_of_ledger
    (congrArg World.ledger kept : after.offline.ledger = before.offline.ledger)

theorem within_setPort {info : World → PortId} {change : World → PortInfo → PortInfo}
    (steady : ∀ world, ¬ Truthy (change world (world.portInfos (info world))).flappingStart) :
    (Exec.modify fun world => world.setPortInfo (info world) (change world) : Run Unit).Within
      (posts env reaps) := by
  refine Exec.within_modify fun world => ?_
  refine posts_of_step (.settle world.ledger (info world) _ [] (steady world) (.inl rfl)) ?_
  rw [setPortInfo_ledger, List.append_nil]

end Writes

/-! Gateways that lose their devices. -/

section Detaching

variable {world : World}

theorem retireGateway_posts {gateway : GatewayId} {device : DeviceId}
    (left : world.ledger.Ends (.detached gateway device 0)) :
    (retireGateway env gateway device).Holds world (fun _ after =>
      (posts env reaps).rel world after) := by
  have directed : (do
      let entry ← Exec.read fun world => world.device device
      Exec.when (Truthy entry.vlan) (directDeviceTraffic env device none) : Run Unit).Within
        (posts env reaps) :=
    Exec.within_bind (Exec.within_read _) fun _ => Exec.within_when
      (topologyOnly_posts (directDeviceTraffic_topologyOnly device none))
  unfold retireGateway gatewayTerminate
  rw [Exec.holds_bind, Exec.holds_bind, Exec.holds_get, Exec.then_ok, Exec.holds_bind,
    Exec.holds_require]
  refine ⟨fun empty => ?_, fun _ => .refl⟩
  rw [Exec.then_ok, Exec.holds_bind, Exec.holds_modify, Exec.then_ok]
  generalize down : (world.setGateway gateway fun entry => { entry with hostUp := false }).note
    [.terminated gateway] = state
  have ledger : state.ledger =
      { world.ledger with trail := world.ledger.trail ++ [.terminated gateway] } := by
    rw [← down, note_ledger, setGateway_ledger_same gateway _ rfl rfl]
    rfl
  rw [holds_callOut]
  refine ⟨fun _ => ?_, fun _ _ => ?_⟩
  · rw [Exec.then_ok, Exec.holds_bind, Exec.holds_modify, Exec.then_ok]
    refine (directed.holds _).mono fun _ after later => (posts env reaps).trans ?_ later
    refine posts_of_step (.retire world.ledger gateway device left empty) ?_
    have returned : ({ state.ticked with
        gatewaySets := insert (state.ticked.gateways gateway).portSet state.ticked.gatewaySets
        trail := state.ticked.trail ++ [.returned (state.ticked.gateways gateway).portSet] } :
          World).ledger =
        { state.ledger with
          sets := insert (state.ledger.portSet gateway) state.ledger.sets
          trail := state.ledger.trail ++ [.returned (state.ledger.portSet gateway)] } := rfl
    rw [returned, ledger, List.append_assoc]
    rfl
  · exact posts_of_step (.terminate world.ledger gateway device left empty) ledger

theorem detachGateway_posts (device : DeviceId) :
    (detachGateway env device).Within (posts env reaps) := by
  refine Exec.within_of_holds fun world => ?_
  unfold detachGateway
  rw [Exec.holds_bind, Exec.holds_read, Exec.then_ok, Exec.holds_whenSome]
  refine ⟨fun _ => .refl, fun gateway _ => ?_⟩
  by_cases absent : (world.gateways gateway).targets.get? (world.device device).mac = none
  · rw [Exec.holds_bind, Exec.holds_of_run (detachTarget_run_absent absent), Exec.then_error]
    exact .refl
  rw [Exec.holds_bind, Exec.holds_of_run (detachTarget_run absent), Exec.then_ok]
  have detached : (posts env reaps).rel world (world.detached gateway device) := by
    refine posts_of_step (.detach world.ledger gateway device (world.device device).mac absent) ?_
    unfold World.detached
    rw [note_ledger, setGateway_ledger gateway _ rfl]
    rfl
  rw [Exec.holds_bind, Exec.holds_when]
  refine ⟨fun empty => ?_, fun _ => detached⟩
  have left : (world.detached gateway device).ledger.Ends (.detached gateway device 0) := by
    refine ⟨world.trail, ?_⟩
    rw [← empty]
    unfold World.detached
    simp only [World.ledger, World.note, World.setGateway, Function.update_self]
  have retired := @retireGateway_posts env reaps _ _ _ left
  rw [← Exec.holds_bind]
  exact retired.bind (fun _ _ kept => (posts env reaps).trans detached kept)
    fun _ _ kept => (posts env reaps).trans detached kept

end Detaching

section Teardown

theorem activatePort_posts (port : Nat) : (activatePort port).Within (posts env reaps) := by
  unfold activatePort
  refine Exec.within_bind (Exec.within_read _) fun ports => ?_
  split
  · refine Exec.within_modify fun world => ?_
    refine posts_of_step (.settle world.ledger world.nextPort (some 0) [.portUp world.nextPort]
      (by decide) (.inr (.inl rfl))) ?_
    have added := @setPortInfo_ledger world world.nextPort fun _ =>
      { active := true, flappingStart := some 0, portNo := some port }
    exact congrArg (fun ledger : Ledger => { ledger with
      trail := world.trail ++ [Happening.portUp world.nextPort] }) added
  · rename_i info _
    refine Exec.within_modify fun world => ?_
    refine posts_of_step (.settle world.ledger info (some 0) [.portUp info] (by decide)
      (.inr (.inl rfl))) ?_
    rw [note_ledger, setPortInfo_ledger]
    rfl

theorem deliverResult_posts (device : DeviceId) (report : Option DeviceReport)
    (code : ResultCode) :
    (Exec.modify (deliverResult device report code) : Run Unit).Within (posts env reaps) := by
  refine Exec.within_modify fun world => ?_
  refine posts_of_step (.converse world.ledger (deliverResult device report code world).sessions
    fun mac present => ?_) ?_
  · unfold deliverResult queueSessionResult
    dsimp only
    split
    · exact present
    · rw [Dict.get?_insert]
      split
      · exact Option.some_ne_none _
      · exact present
  · unfold deliverResult queueSessionResult
    dsimp only
    split <;> rfl

theorem sendDeviceResult_posts (device : DeviceId) (testResults : Option DeviceReport) :
    (sendDeviceResult env device testResults).Within (posts env reaps) := by
  unfold sendDeviceResult
  refine Exec.within_ite (Exec.within_bind Exec.within_get fun world => ?_) (Exec.within_pure _)
  split
  · exact deliverResult_posts device _ _
  · exact Exec.within_raise _
  · exact deliverResult_posts device _ _

theorem lingerResult_posts (gateway : Option GatewayId) (port : Option Nat) :
    (lingerResult gateway port).Within (posts env reaps) := by
  unfold lingerResult
  refine Exec.within_bind (Exec.within_when (activatePort_posts _)) fun _ => ?_
  cases gateway with
  | none => exact Exec.within_raise _
  | some gateway => exact within_quiet fun _ => setGateway_ledger_same gateway _ rfl rfl

theorem targetSetCancel_posts (device : DeviceId) :
    (targetSetCancel env device).Within (posts env reaps) := by
  unfold targetSetCancel releaseDevice
  refine Exec.within_bind (Exec.within_modify fun world =>
    posts_of_step (.cancel world.ledger device) rfl) fun _ => ?_
  refine Exec.within_bind Exec.within_get fun world => Exec.within_whenSome _ fun host => ?_
  refine Exec.within_ite (lingerResult_posts _ _) ?_
  refine Exec.within_bind Exec.within_get fun _ => ?_
  refine Exec.within_bind (Exec.within_when (topologyOnly_posts
    (directPortTraffic_topologyOnly _ _ _))) fun _ => ?_
  refine Exec.within_bind (detachGateway_posts device) fun _ => ?_
  exact Exec.within_bind (keepsHost_posts terminateHost_lasting) fun _ =>
    sendDeviceResult_posts device _

/-- A failure is only on record once tests are suppressed. -/
theorem recordResultSet_posts (device : DeviceId) (resultSet : ResultSet) :
    (recordResultSet env device resultSet).Within (posts env reaps) := by
  have suppressing : ∀ failed : Prop, [Decidable failed] →
      (do
        Exec.when (failed ∧ (env.config.failMode = true ∨ env.config.resultLinger = true)) <|
          Exec.modify fun world => { world with
            runTests := false
            lingerExit := if env.config.resultLinger then 1 else world.lingerExit }
        Exec.modify fun world => { world with
          resultSets := world.resultSets.insert device resultSet
          trail := world.trail ++ [.finalized device (decide failed)] } : Run Unit).Within
            (posts env reaps) := by
    intro failed _
    refine Exec.within_of_holds fun world => ?_
    have finalized : ∀ state : World, (posts env reaps).rel world state →
        (failed → env.config.failMode = true → state.runTests = false) →
        (Exec.modify fun world => { world with
          resultSets := world.resultSets.insert device resultSet
          trail := world.trail ++ [.finalized device (decide failed)] } : Run Unit).Holds state
            (fun _ after => (posts env reaps).rel world after) := fun state kept suppressed =>
      (posts env reaps).trans kept (posts_of_step (.finalize state.ledger device (decide failed)
        fun failure mode => suppressed (of_decide_eq_true failure) mode) rfl)
    rw [Exec.holds_bind, Exec.holds_when]
    refine ⟨fun _ => ?_, fun passed => ?_⟩
    · exact finalized _ (posts_of_step (.suppress world.ledger) rfl) fun _ _ => rfl
    · exact finalized _ .refl fun failure mode => absurd ⟨failure, .inl mode⟩ passed
  unfold recordResultSet
  refine Exec.within_bind (Exec.within_read _) fun results => ?_
  refine Exec.within_bind (callOut_posts _) fun _ => ?_
  rw [← Exec.bind_assoc]
  refine Exec.within_bind (suppressing (combineResultSet device (some results) ≠ [])) fun _ => ?_
  refine Exec.within_bind Exec.within_get fun _ => Exec.within_when ?_
  exact Exec.within_modify fun world => posts_of_step (.suppress world.ledger) rfl

theorem recordException_posts (host : HostId) (raised : Exc) :
    (recordException env host raised).Within (posts env reaps) :=
  keepsHost_posts (recordException_hostLocal host raised)

variable {drain : Run Unit} (drained : drain.Within (posts env reaps))
include drained

theorem drainSingleShot_posts (device : DeviceId) :
    (drainSingleShot env drain device).Within (posts env reaps) := by
  unfold drainSingleShot
  refine Exec.within_bind Exec.within_get fun _ => Exec.within_when ?_
  refine Exec.within_bind (within_quiet fun world => ?_) fun _ => ?_
  · unfold noteDrain
    split <;> rfl
  · exact Exec.within_bind drained fun _ => Exec.within_modify fun world =>
      posts_of_step (.suppress world.ledger) rfl

theorem targetSetFinalize_posts (device : DeviceId) (resultSet : ResultSet) :
    (targetSetFinalize env drain device resultSet).Within (posts env reaps) := by
  unfold targetSetFinalize removeDevice
  refine Exec.within_bind (recordResultSet_posts device resultSet) fun _ => ?_
  refine Exec.within_bind (drainSingleShot_posts drained device) fun _ => ?_
  refine Exec.within_bind (within_quiet fun _ => rfl) fun _ => ?_
  exact fun world => posts_of_ledger rfl

theorem targetSetComplete_posts (device : DeviceId) :
    (targetSetComplete env drain device).Within (posts env reaps) := by
  unfold targetSetComplete
  refine Exec.within_bind (Exec.within_attempt (targetSetCancel_posts device) fun raised => ?_)
    fun _ => Exec.within_bind Exec.within_get fun world => ?_
  · refine Exec.within_bind (Exec.within_read _) fun host => ?_
    cases host with
    | none => exact Exec.within_raise _
    | some host => exact recordException_posts host raised
  · split
    · exact Exec.within_raise _
    · exact targetSetFinalize_posts drained device _

theorem targetSetError_posts (device : DeviceId) (raised : Exc) :
    (targetSetError env drain device raised).Within (posts env reaps) := by
  unfold targetSetError
  refine Exec.within_bind (Exec.within_read _) fun host => ?_
  cases host with
  | some host =>
      exact Exec.within_bind (recordException_posts host raised) fun _ =>
        targetSetComplete_posts drained device
  | none =>
      refine Exec.within_bind (targetSetFinalize_posts drained device _) fun _ => ?_
      exact Exec.within_bind (sendDeviceResult_posts device none) fun _ =>
        detachGateway_posts device

end Teardown

/-- Nothing was finalized in between. -/
def preparing : Frame World where
  rel before after := ∃ since, after.trail = before.trail ++ since ∧
    ∀ happening ∈ since, ¬ happening.Finalizes
  refl := fun _ => ⟨[], (List.append_nil _).symm, fun _ => nofun⟩
  trans := by
    rintro first second third ⟨early, same, clean⟩ ⟨late, same', clean'⟩
    refine ⟨early ++ late, by rw [same', same, List.append_assoc], fun happening member => ?_⟩
    exact (List.mem_append.mp member).elim (clean happening) (clean' happening)

/-- A gateway for the device: the native one, one that was just opened, or that
of a registered member of the device's group. -/
def Offered (world : World) (device : DeviceId) (gateway : GatewayId) : Prop :=
  world.nativeGateway = some gateway ∨ world.ledger.Ends (.opened gateway) ∨
    ∃ member ∈ world.devices.table.values,
      (world.device member).group = (world.device device).group ∧
        (world.device member).gateway = some gateway

section Activation

variable {world : World} {device : DeviceId} {gateway : GatewayId}

theorem preparing_starting {after : World} (prepared : preparing.rel world after)
    (starting : world.ledger.Starting device) : after.ledger.Starting device := by
  obtain ⟨since, same, clean⟩ := prepared
  have extended := History.Since.append starting clean
  have trail : after.ledger.trail = world.ledger.trail ++ since := same
  unfold Ledger.Starting
  rwa [trail]

/-- A new gateway for the device is opened, or its number goes back. -/
theorem startGateway_posts {number : SetNumber} (free : number ∈ world.gatewaySets)
    (entry : World → Gateway) (empty : ∀ state, (entry state).targets = .empty)
    (own : ∀ state, (entry state).portSet = number) :
    (do
      Exec.modify fun state => { state with
        nextGateway := world.nextGateway + 1
        gateways := Function.update state.gateways world.nextGateway (entry state) }
      Exec.attempt (gatewayInitialize env world.nextGateway) fun raised => do
        Exec.modify fun state => { state with
          gatewaySets := insert number state.gatewaySets
          trail := state.trail ++ [.returned number] }
        Exec.raise raised
      pure world.nextGateway : Run GatewayId).Holds
        { world with
          gatewaySets := world.gatewaySets.erase number
          trail := world.trail ++ [.taken number] }
        (fun outcome after => (posts env reaps).rel world after ∧ preparing.rel world after ∧
          ∀ gateway, outcome = .ok gateway → after.ledger.Ends (.opened gateway)) := by
  rw [Exec.holds_bind, Exec.holds_modify, Exec.then_ok]
  generalize fresh : entry _ = made
  have empty : made.targets = .empty := fresh ▸ empty _
  have own : made.portSet = number := fresh ▸ own _
  generalize built : ({ world with
    gatewaySets := world.gatewaySets.erase number
    trail := world.trail ++ [.taken number]
    nextGateway := world.nextGateway + 1
    gateways := Function.update world.gateways world.nextGateway made } : World) = state
  have targets : (fun other => (state.gateways other).targets) =
      Function.update world.ledger.targets world.nextGateway .empty := by
    subst built
    rw [← empty]
    exact funext fun other => Function.apply_update (fun _ => Gateway.targets) world.gateways _ _ other
  have sets : (fun other => (state.gateways other).portSet) =
      Function.update world.ledger.portSet world.nextGateway number := by
    subst built
    rw [← own]
    exact funext fun other => Function.apply_update (fun _ => Gateway.portSet) world.gateways _ _ other
  have trail : state.trail = world.trail ++ [.taken number] := by rw [← built]
  have ledger : state.ledger = { world.ledger with
      sets := world.gatewaySets.erase number
      trail := world.trail ++ [.taken number]
      next := world.nextGateway + 1
      targets := Function.update world.ledger.targets world.nextGateway .empty
      portSet := Function.update world.ledger.portSet world.nextGateway number } := by
    rw [← targets, ← sets, ← built]
    rfl
  unfold gatewayInitialize
  rw [Exec.holds_bind, Exec.holds_attempt, Exec.holds_bind, holds_callOut]
  refine ⟨fun _ => ?_, fun raised _ => ?_⟩
  · rw [Exec.then_ok, Exec.holds_modify, Exec.rescued_ok, Exec.then_ok, Exec.holds_pure]
    refine ⟨posts_of_step (.openUp world.ledger number free) ?_,
      ⟨[.taken number, .opened world.nextGateway], ?_, ?_⟩, ?_⟩
    · have opened : ((state.ticked.setGateway world.nextGateway fun entry =>
          { entry with hostUp := true }).note [.opened world.nextGateway]).ledger =
            { state.ledger with trail := state.trail ++ [.opened world.nextGateway] } := by
        rw [note_ledger, setGateway_ledger_same world.nextGateway _ rfl rfl]
        rfl
      rw [opened, trail, ledger, List.append_assoc]
      rfl
    · change state.trail ++ _ = _
      rw [trail, List.append_assoc]
      rfl
    · simp [Happening.Finalizes]
    · rintro gateway ⟨⟩
      exact ⟨state.trail, rfl⟩
  · rw [Exec.then_error, Exec.rescued_error, Exec.holds_bind, Exec.holds_modify, Exec.then_ok,
      Exec.holds_raise, Exec.then_error]
    refine ⟨posts_of_step (.giveBack world.ledger number free) ?_,
      ⟨[.taken number, .returned number], ?_, ?_⟩, nofun⟩
    · have returned : ({ state.ticked with
          gatewaySets := insert number state.ticked.gatewaySets
          trail := state.ticked.trail ++ [.returned number] } : World).ledger =
            { state.ledger with
              sets := insert number state.gatewaySets
              trail := state.trail ++ [.returned number] } := rfl
      have pool : state.gatewaySets = world.gatewaySets.erase number := by rw [← built]
      rw [returned, trail, ledger, pool, Finset.insert_erase free, List.append_assoc]
      rfl
    · change state.trail ++ _ = _
      rw [trail, List.append_assoc]
      rfl
    · simp [Happening.Finalizes]

theorem createGateway_posts (world : World) (device : DeviceId) :
    (createGateway env device).Holds world (fun outcome after =>
      (posts env reaps).rel world after ∧ preparing.rel world after ∧
        ∀ gateway, outcome = .ok gateway → Offered after device gateway) := by
  unfold createGateway
  rw [Exec.holds_bind, Exec.holds_get, Exec.then_ok]
  cases native : world.nativeGateway with
  | some gateway =>
      refine ⟨.refl, preparing.refl _, ?_⟩
      rintro _ ⟨⟩
      exact .inl native
  | none =>
      dsimp only
      rw [Exec.holds_bind, Exec.holds_require]
      refine ⟨fun _ => ?_, fun _ => ⟨.refl, preparing.refl _, nofun⟩⟩
      rw [Exec.then_ok]
      split
      · rename_i gateway rest existing
        refine ⟨.refl, preparing.refl _, ?_⟩
        rintro _ ⟨⟩
        have listed : gateway ∈ ((getByGroup world (world.device device).group).filterMap
            fun member => (world.device member).gateway).dedup := existing ▸ .head _
        obtain ⟨member, grouped, held⟩ := List.mem_filterMap.mp (List.mem_dedup.mp listed)
        obtain ⟨registered, same⟩ := List.mem_filter.mp grouped
        exact .inr (.inr ⟨member, registered, of_decide_eq_true same, held⟩)
      · unfold findGatewaySet
        rw [Exec.holds_bind, Exec.holds_bind, Exec.holds_get, Exec.then_ok]
        cases chosen : chooseGatewaySet env world device with
        | none => exact ⟨.refl, preparing.refl _, nofun⟩
        | some number =>
            dsimp only
            rw [Exec.holds_bind, Exec.holds_modify, Exec.then_ok, Exec.holds_pure, Exec.then_ok,
              Exec.holds_bind, Exec.holds_read, Exec.then_ok]
            have started := @startGateway_posts env reaps world number
              (chooseGatewaySet_mem chosen)
              (fun state =>
                { name := (world.device device).group.getD "None"
                  portSet := number
                  kind := if (state.device device).dhcpMode = some .external then .external
                    else .container }) (fun _ => rfl) fun _ => rfl
            refine started.mono fun outcome after kept => ⟨kept.1, kept.2.1, ?_⟩
            exact fun gateway returned => .inr (.inl (kept.2.2 gateway returned))

theorem targetSetGateway_posts (world : World) (device : DeviceId) (externalDhcp : Bool) :
    (targetSetGateway env device externalDhcp).Holds world (fun outcome after =>
      (posts env reaps).rel world after ∧ preparing.rel world after ∧
        ∀ gateway, outcome = .ok (some gateway) → Offered after device gateway) := by
  unfold targetSetGateway
  rw [Exec.holds_attempt, Exec.holds_bind, Exec.holds_modify, Exec.then_ok]
  refine (@createGateway_posts env reaps _ device).bind ?_ ?_
  · rintro raised reached ⟨kept, prepared, _⟩
    rw [Exec.rescued_error, Exec.holds_bind, Exec.holds_when]
    refine ⟨fun _ => ?_, fun _ => ⟨kept, prepared, nofun⟩⟩
    exact ⟨(posts env reaps).trans kept (posts_of_step (.suppress reached.ledger) rfl), prepared,
      nofun⟩
  · rintro gateway reached ⟨kept, prepared, offered⟩
    rw [Exec.holds_bind, Exec.holds_read, Exec.then_ok, Exec.holds_ite]
    refine ⟨fun _ => ⟨kept, prepared, nofun⟩, fun _ => ⟨kept, prepared, ?_⟩⟩
    rintro _ ⟨⟩
    exact offered gateway rfl

theorem attachTarget_posts (offered : Offered world device gateway) :
    (attachTarget gateway device).Holds world (fun _ after =>
      (posts env reaps).rel world after ∧ preparing.rel world after) := by
  by_cases absent : (world.gateways gateway).targets.get? (world.device device).mac = none
  · rw [Exec.holds_of_run (attachTarget_run absent)]
    refine ⟨?_, _, rfl, by simp [Happening.Finalizes]⟩
    refine posts_of_step (.attach world.ledger gateway device (world.device device).mac
      (decide (StrayMember world gateway device)) ?_) ?_
    · rcases offered with native | opened | ⟨member, registered, grouped, held⟩
      · exact .inl native
      · exact .inr (.inl opened)
      · refine .inr (.inr fun straight empty => ?_)
        refine of_decide_eq_false straight ⟨member, registered, grouped, held, ?_⟩
        have absent : (world.gateways gateway).targets.get? (world.device member).mac = none :=
          Dict.size_eq_zero_iff.mp empty _
        rw [absent]
        exact nofun
    · unfold World.attached
      rw [note_ledger, setGateway_ledger gateway _ rfl]
      rfl
  · rw [Exec.holds_of_run (attachTarget_run_present absent)]
    exact ⟨.refl, preparing.refl _⟩

theorem stopDhcpResponse_posts (gateway : GatewayId) (device : DeviceId) :
    (stopDhcpResponse env gateway device).Holds world (fun _ after =>
      after = world ∨ after = world.ticked) := by
  unfold stopDhcpResponse
  rw [Exec.holds_bind, Exec.holds_read, Exec.then_ok]
  cases (world.gateways gateway).kind with
  | external => exact .inl rfl
  | container => exact .inr (callOut_run_snd env _ world)

theorem targetSetHost_posts (starting : world.ledger.Starting device) :
    (targetSetHost env device gateway).Holds world (fun _ after =>
      (posts env reaps).rel world after) := by
  unfold targetSetHost connectedHost
  rw [Exec.holds_bind, Exec.holds_modify, Exec.then_ok, Exec.holds_bind, Exec.holds_bind,
    holds_callOut]
  refine ⟨fun _ => ?_, fun _ _ => .refl⟩
  rw [Exec.then_ok, Exec.holds_bind, Exec.holds_get, Exec.then_ok, Exec.holds_bind,
    Exec.holds_modify, Exec.then_ok, Exec.holds_pure, Exec.then_ok]
  refine ((?rest : Exec.Within (posts env reaps) _).holds _).mono fun _ after later =>
    (posts env reaps).trans (posts_of_step (.create world.ledger device starting) rfl) later
  refine Exec.within_bind (within_quiet fun _ => rfl) fun _ => ?_
  refine Exec.within_bind (within_quiet fun _ => rfl) fun _ => ?_
  refine Exec.within_bind (keepsHost_posts (initializeHost_hostLocal _)) fun _ => ?_
  refine Exec.within_bind Exec.within_get fun _ => ?_
  dsimp only
  split
  · exact topologyOnly_posts (directPortTraffic_topologyOnly _ _ _)
  · exact topologyOnly_posts (directDeviceTraffic_topologyOnly _ _)

theorem targetSetActivate_posts {drain : Run Unit} (drained : drain.Within (posts env reaps))
    (starting : world.ledger.Starting device) :
    (targetSetActivate env drain device).Holds world (fun _ after =>
      (posts env reaps).rel world after) := by
  unfold targetSetActivate
  rw [Exec.holds_bind, Exec.holds_get, Exec.then_ok, Exec.holds_bind, Exec.holds_require]
  refine ⟨fun _ => ?_, fun _ => .refl⟩
  rw [Exec.then_ok]
  refine (targetSetGateway_posts world device _).bind (fun _ _ kept => kept.1) ?_
  rintro (_ | gateway) reached ⟨kept, prepared, offered⟩
  · exact kept
  have offered := offered gateway rfl
  have starting := preparing_starting prepared starting
  refine (Exec.holds_when.mpr ⟨fun _ => stopDhcpResponse_posts gateway device,
    fun _ => .inl rfl⟩ : (Exec.when _ (stopDhcpResponse env gateway device)).Holds reached
      (fun _ after => after = reached ∨ after = reached.ticked)).bind ?_ ?_
  · rintro raised after (rfl | rfl) <;> exact kept
  · intro value ready same
    have kept : (posts env reaps).rel world ready := by rcases same with rfl | rfl <;> exact kept
    have offered : Offered ready device gateway := by rcases same with rfl | rfl <;> exact offered
    have starting : ready.ledger.Starting device := by
      rcases same with rfl | rfl <;> exact starting
    refine (attachTarget_posts offered).bind (fun _ _ after => (posts env reaps).trans kept after.1) ?_
    rintro _ attached ⟨added, prepared⟩
    rw [Exec.holds_bind, Exec.holds_modify, Exec.then_ok]
    have starting := preparing_starting prepared starting
    have kept := (posts env reaps).trans kept added
    have hosted : (targetSetHost env device gateway).Holds (attached.setDevice device fun entry =>
        { entry with gateway := some gateway }) (fun _ after =>
          (posts env reaps).rel attached after) := targetSetHost_posts starting
    rw [Exec.holds_attempt, Exec.holds_bind]
    refine hosted.mono fun outcome after later => ?_
    have kept := (posts env reaps).trans kept later
    cases outcome with
    | ok _ => exact kept
    | error raised =>
        rw [Exec.then_error, Exec.rescued_error]
        exact ((targetSetError_posts drained device raised).holds after).bind
          (fun _ _ last => (posts env reaps).trans kept last)
          fun _ _ last => (posts env reaps).trans kept last

end Activation

end Daq
