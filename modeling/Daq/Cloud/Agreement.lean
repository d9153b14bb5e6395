import Daq.Cloud.Channel
import Mathlib.Data.List.Nodup

namespace Daq.Cloud

/-! No edit is lost: a handler that is still to come, or an update that is still
to be written, stands between the document and a runner with another config. -/

variable {γ τ : Type} {channel : Channel γ τ}

/-- The snapshots that wait for the main loop. -/
def Channel.handlers (channel : Channel γ τ) : List (Handler γ τ) :=
  channel.callbacks ++ channel.callbackQueue

def Channel.snapshots (channel : Channel γ τ) : List (Definition γ τ) :=
  channel.handlers.map Handler.snapshot ++ channel.unseen

/-- The timestamps that were ever put into the document. -/
def Channel.stamps (channel : Channel γ τ) : List τ := channel.writes.map Prod.snd

/-- The handler is about the config of the document, and will call back. -/
def Owes (definition : Definition γ τ) (handler : Handler γ τ) : Prop :=
  handler.snapshot.timestamp = definition.timestamp ∧
    handler.snapshot.saved ≠ handler.snapshot.timestamp

structure Sound (channel : Channel γ τ) : Prop where
  distinct : channel.stamps.Nodup
  written : ∀ snapshot ∈ channel.snapshots,
    (snapshot.config, snapshot.timestamp) ∈ channel.writes
  document : ∀ definition, channel.document = some definition →
    (definition.config, definition.timestamp) ∈ channel.writes ∧
      definition.saved ∈ channel.stamps
  update : ∀ timestamp, channel.update = some timestamp → timestamp ∈ channel.stamps
  paired : channel.subscription.isSome = channel.document.isSome
  newest : ∀ definition last, channel.document = some definition →
    channel.unseen.getLast? = some last → last = definition
  called : ∀ definition, channel.document = some definition →
    channel.update = some definition.timestamp → channel.applied = definition.config
  owed : channel.dropped = false → ∀ definition, channel.document = some definition →
    definition.saved ≠ definition.timestamp →
      channel.unseen ≠ [] ∨ (∃ handler ∈ channel.handlers, Owes definition handler) ∨
        channel.update = some definition.timestamp
  applied : channel.dropped = false → ∀ definition, channel.document = some definition →
    definition.saved ≠ definition.timestamp ∨
      (∃ handler ∈ channel.handlers, Owes definition handler) ∨
      (∃ timestamp, channel.update = some timestamp ∧ timestamp ≠ definition.timestamp) ∨
      channel.applied = definition.config

namespace Sound

theorem initial (config : γ) : Sound (.initial config : Channel γ τ) where
  distinct := List.nodup_nil
  written := fun _ => nofun
  document := fun _ => nofun
  update := fun _ => nofun
  paired := rfl
  newest := fun _ _ => nofun
  called := fun _ => nofun
  owed := fun _ _ => nofun
  applied := fun _ _ => nofun

theorem stamp_mem {config : γ} {timestamp : τ} (member : (config, timestamp) ∈ channel.writes) :
    timestamp ∈ channel.stamps :=
  List.mem_map.mpr ⟨_, member, rfl⟩

/-- A timestamp has one config. -/
theorem config_eq (sound : Sound channel) {config other : γ} {timestamp : τ}
    (member : (config, timestamp) ∈ channel.writes)
    (another : (other, timestamp) ∈ channel.writes) : config = other :=
  congrArg Prod.fst (List.inj_on_of_nodup_map sound.distinct member another rfl)

theorem registerConfig (sound : Sound channel) (config : γ) {timestamp : τ} (immediate : Bool)
    (fresh : timestamp ∉ channel.stamps) :
    Sound (channel.registerConfig config timestamp immediate) where
  distinct := by
    unfold Channel.stamps Channel.registerConfig
    rw [List.map_append]
    exact sound.distinct.append (List.nodup_singleton _)
      (List.disjoint_singleton.mpr fresh)
  written := by
    intro snapshot member
    rcases List.mem_append.mp member with waiting | unseen
    · exact List.mem_append_left _ (sound.written snapshot (List.mem_append_left _ waiting))
    · cases List.mem_singleton.mp unseen
      exact List.mem_append_right _ (List.mem_singleton_self _)
  document := by
    rintro _ ⟨⟩
    have here : (config, timestamp) ∈ channel.writes ++ [(config, timestamp)] :=
      List.mem_append_right _ (List.mem_singleton_self _)
    exact ⟨here, List.mem_map.mpr ⟨_, here, rfl⟩⟩
  update := by
    intro other running
    unfold Channel.stamps Channel.registerConfig
    rw [List.map_append]
    exact List.mem_append_left _ (sound.update other running)
  paired := rfl
  newest := by
    rintro _ _ ⟨⟩ ⟨⟩
    rfl
  called := by
    rintro _ ⟨⟩ _
    rfl
  owed := by
    rintro _ _ ⟨⟩ unsaved
    exact absurd rfl unsaved
  applied := by
    rintro _ _ ⟨⟩
    exact .inr (.inr (.inr rfl))

theorem releaseConfig (sound : Sound channel) : Sound channel.releaseConfig where
  distinct := sound.distinct
  written := by
    intro snapshot member
    rcases List.mem_append.mp member with waiting | unseen
    · exact sound.written snapshot (List.mem_append_left _ waiting)
    · cases unseen
  document := fun _ => nofun
  update := sound.update
  paired := rfl
  newest := fun _ _ => nofun
  called := fun _ => nofun
  owed := fun _ _ => nofun
  applied := fun _ _ => nofun

/-- What a new version of a document with a subscription adds to it. -/
theorem unseen_put (sound : Sound channel) {definition : Definition γ τ}
    (present : channel.document = some definition) (version : Definition γ τ) :
    (channel.put version).unseen = channel.unseen ++ [version] := by
  have subscribed : channel.subscription.isSome = true := by
    rw [sound.paired, present]
    rfl
  unfold Channel.put
  exact if_pos subscribed

theorem pushConfigChange (sound : Sound channel) (config : γ) {timestamp : τ}
    (fresh : timestamp ∉ channel.stamps) : Sound (channel.pushConfigChange config timestamp) := by
  unfold Channel.pushConfigChange
  cases present : channel.document with
  | none => exact sound
  | some definition =>
      have unseen := sound.unseen_put present { definition with config, timestamp }
      have stamps : (channel.writes ++ [(config, timestamp)]).map Prod.snd =
          channel.stamps ++ [timestamp] := by
        rw [List.map_append]
        rfl
      have saved := (sound.document definition present).2
      have new : definition.saved ≠ timestamp := fun same => fresh (same ▸ saved)
      refine ⟨?_, ?_, ?_, ?_, ?_, ?_, ?_, ?_, ?_⟩
      · unfold Channel.stamps
        rw [stamps]
        exact sound.distinct.append (List.nodup_singleton _) (List.disjoint_singleton.mpr fresh)
      · intro snapshot member
        rcases List.mem_append.mp member with waiting | member
        · exact List.mem_append_left _ (sound.written snapshot (List.mem_append_left _ waiting))
        · rw [unseen] at member
          rcases List.mem_append.mp member with earlier | last
          · exact List.mem_append_left _ (sound.written snapshot (List.mem_append_right _ earlier))
          · cases List.mem_singleton.mp last
            exact List.mem_append_right _ (List.mem_singleton_self _)
      · rintro _ ⟨⟩
        refine ⟨List.mem_append_right _ (List.mem_singleton_self _), ?_⟩
        unfold Channel.stamps
        rw [stamps]
        exact List.mem_append_left _ saved
      · intro other running
        unfold Channel.stamps
        rw [stamps]
        exact List.mem_append_left _ (sound.update other running)
      · have subscribed := sound.paired
        rw [present] at subscribed
        exact subscribed
      · rintro _ last ⟨⟩ ends
        rw [unseen, List.getLast?_concat] at ends
        exact (Option.some.inj ends).symm
      · rintro _ ⟨⟩ running
        exact absurd (sound.update timestamp running) fresh
      · rintro _ _ ⟨⟩ _
        rw [unseen]
        exact .inl (List.append_ne_nil_of_right_ne_nil _ (List.cons_ne_nil _ _))
      · rintro _ _ ⟨⟩
        exact .inl new

theorem onSnapshot (sound : Sound channel) (skipped : Nat) : Sound (channel.onSnapshot skipped) := by
  unfold Channel.onSnapshot
  split
  · rename_i immediate snapshot rest _ left
    have whole : channel.unseen = channel.unseen.take skipped ++ snapshot :: rest := by
      rw [← left, List.take_append_drop]
    have kept : ∀ definition, (∃ handler ∈ channel.handlers, Owes definition handler) →
        ∃ handler ∈ channel.callbacks ++ (channel.callbackQueue ++ [⟨immediate, snapshot⟩]),
          Owes definition handler := by
      rintro definition ⟨handler, member, owes⟩
      refine ⟨handler, ?_, owes⟩
      rw [← List.append_assoc]
      exact List.mem_append_left _ member
    refine ⟨sound.distinct, ?_, sound.document, sound.update, sound.paired, ?_, sound.called,
      ?_, ?_⟩
    · intro other member
      apply sound.written
      rcases List.mem_append.mp member with waiting | later
      · obtain ⟨handler, inside, rfl⟩ := List.mem_map.mp waiting
        rw [Channel.handlers, ← List.append_assoc] at inside
        rcases List.mem_append.mp inside with earlier | new
        · exact List.mem_append_left _ (List.mem_map_of_mem earlier)
        · cases List.mem_singleton.mp new
          rw [Channel.snapshots, whole]
          simp
      · rw [Channel.snapshots, whole]
        simp [show other ∈ rest from later]
    · intro definition last present ends
      apply sound.newest definition last present
      rw [whole, List.getLast?_append]
      cases rest with
      | nil => cases ends
      | cons first rest =>
          rw [List.getLast?_cons_cons, show (first :: rest).getLast? = some last from ends]
          rfl
    · intro unbroken definition present unsaved
      cases rest with
      | cons first rest => exact .inl (List.cons_ne_nil _ _)
      | nil =>
          -- the last version is the document itself
          have ends : channel.unseen.getLast? = some snapshot := by
            rw [whole, List.getLast?_concat]
          cases sound.newest definition snapshot present ends
          refine .inr (.inl ⟨⟨immediate, snapshot⟩, ?_, rfl, unsaved⟩)
          exact List.mem_append_right _ (List.mem_append_right _ (List.mem_singleton_self _))
    · intro unbroken definition present
      rcases sound.applied unbroken definition present with unsaved | waiting | rest
      · exact .inl unsaved
      · exact .inr (.inl (kept definition waiting))
      · exact .inr (.inr rest)
  · exact sound

theorem restartCallback (sound : Sound channel) : Sound channel.restartCallback := by
  unfold Channel.restartCallback
  split
  · rename_i immediate definition subscribed present
    refine ⟨sound.distinct, ?_, sound.document, sound.update, sound.paired, ?_, sound.called,
      ?_, sound.applied⟩
    · intro snapshot member
      rcases List.mem_append.mp member with waiting | unseen
      · exact sound.written snapshot (List.mem_append_left _ waiting)
      · cases List.mem_singleton.mp unseen
        exact (sound.document definition present).1
    · rintro other _ another ⟨⟩
      exact Option.some.inj (present.symm.trans another)
    · exact fun _ _ _ _ => .inl (List.cons_ne_nil _ _)
  · exact sound

theorem handleQueuedEvents (sound : Sound channel) : Sound channel.handleQueuedEvents := by
  unfold Channel.handleQueuedEvents
  split
  · rename_i idle
    have handlers : channel.callbackQueue ++ [] = channel.handlers := by
      rw [Channel.handlers, idle.1, List.append_nil]
      rfl
    refine ⟨sound.distinct, ?_, sound.document, sound.update, sound.paired, sound.newest,
      sound.called, ?_, ?_⟩
    · intro snapshot member
      apply sound.written
      unfold Channel.snapshots at member ⊢
      rw [← handlers]
      exact member
    · intro unbroken definition present unsaved
      have owed := sound.owed unbroken definition present unsaved
      rw [← handlers] at owed
      exact owed
    · intro unbroken definition present
      have applied := sound.applied unbroken definition present
      rw [← handlers] at applied
      exact applied
  · exact sound

/-- Dropping handlers keeps all but what they were to do. -/
theorem drop (sound : Sound channel) (config : γ) (calls : List (γ × τ)) :
    channel.update = none → Sound { channel with
      callbacks := [], applied := config, calls := calls, dropped := true } := by
  intro idle
  refine ⟨sound.distinct, ?_, sound.document, sound.update, sound.paired, sound.newest, ?_,
    nofun, nofun⟩
  · intro snapshot member
    apply sound.written
    rcases List.mem_append.mp member with waiting | unseen
    · obtain ⟨handler, inside, rfl⟩ := List.mem_map.mp waiting
      exact List.mem_append_left _ (List.mem_map_of_mem (List.mem_append_right _ inside))
    · exact List.mem_append_right _ unseen
  · intro definition _ running
    cases idle.symm.trans running

/-- When nothing is on its way, the runner has the config of the document. -/
theorem agrees (sound : Sound channel) (quiet : channel.Quiet)
    (unbroken : channel.dropped = false) {definition : Definition γ τ}
    (present : channel.document = some definition) :
    channel.applied = definition.config ∧ definition.saved = definition.timestamp := by
  have waiting : ¬ ∃ handler ∈ channel.handlers, Owes definition handler := by
    rintro ⟨handler, member, _⟩
    rw [Channel.handlers, quiet.callbacks, quiet.callbackQueue] at member
    cases member
  have saved : definition.saved = definition.timestamp := by
    by_contra unsaved
    rcases sound.owed unbroken definition present unsaved with unseen | some | running
    · exact unseen quiet.unseen
    · exact waiting some
    · cases quiet.update.symm.trans running
  refine ⟨?_, saved⟩
  rcases sound.applied unbroken definition present with unsaved | some | stale | applied
  · exact absurd saved unsaved
  · exact absurd some waiting
  · obtain ⟨timestamp, running, _⟩ := stale
    cases quiet.update.symm.trans running
  · exact applied

variable [DecidableEq τ]

theorem callBack (sound : Sound channel) : Sound channel.callBack := by
  unfold Channel.callBack
  split
  · rename_i handler rest idle taken
    have handlers : channel.handlers = handler :: (rest ++ channel.callbackQueue) := by
      rw [Channel.handlers, taken]
      rfl
    have written : (handler.snapshot.config, handler.snapshot.timestamp) ∈ channel.writes := by
      apply sound.written
      rw [Channel.snapshots, handlers]
      exact List.mem_cons_self
    have smaller : ∀ snapshot ∈ (rest ++ channel.callbackQueue).map Handler.snapshot ++
        channel.unseen, (snapshot.config, snapshot.timestamp) ∈ channel.writes := by
      intro snapshot member
      apply sound.written
      rw [Channel.snapshots, handlers]
      exact List.mem_cons_of_mem _ member
    -- the handler is about the document, or about an earlier config
    have current : ∀ definition, channel.document = some definition →
        handler.snapshot.timestamp = definition.timestamp →
        handler.snapshot.config = definition.config := by
      intro definition present same
      refine sound.config_eq written ?_
      rw [same]
      exact (sound.document definition present).1
    split
    · refine ⟨sound.distinct, smaller, sound.document, ?_, sound.paired, sound.newest, ?_, ?_, ?_⟩
      · rintro _ ⟨⟩
        exact stamp_mem written
      · intro definition present running
        exact current definition present (Option.some.inj running)
      · intro unbroken definition present unsaved
        by_cases same : handler.snapshot.timestamp = definition.timestamp
        · exact .inr (.inr (congrArg some same))
        · rcases sound.owed unbroken definition present unsaved with unseen | waiting | running
          · exact .inl unseen
          · obtain ⟨other, member, owes⟩ := waiting
            rw [handlers] at member
            rcases List.mem_cons.mp member with rfl | later
            · exact absurd owes.1 same
            · exact .inr (.inl ⟨other, later, owes⟩)
          · cases idle.symm.trans running
      · intro unbroken definition present
        by_cases same : handler.snapshot.timestamp = definition.timestamp
        · exact .inr (.inr (.inr (current definition present same)))
        · exact .inr (.inr (.inl ⟨_, rfl, same⟩))
    · rename_i silent
      have lasts : ∀ definition, (∃ handler ∈ channel.handlers, Owes definition handler) →
          ∃ handler ∈ rest ++ channel.callbackQueue, Owes definition handler := by
        rintro definition ⟨other, member, owes⟩
        rw [handlers] at member
        rcases List.mem_cons.mp member with rfl | later
        · exact absurd (.inr owes.2) silent
        · exact ⟨other, later, owes⟩
      refine ⟨sound.distinct, smaller, sound.document, sound.update, sound.paired, sound.newest,
        sound.called, ?_, ?_⟩
      · intro unbroken definition present unsaved
        rcases sound.owed unbroken definition present unsaved with unseen | waiting | running
        · exact .inl unseen
        · exact .inr (.inl (lasts definition waiting))
        · exact .inr (.inr running)
      · intro unbroken definition present
        rcases sound.applied unbroken definition present with unsaved | waiting | rest
        · exact .inl unsaved
        · exact .inr (.inl (lasts definition waiting))
        · exact .inr (.inr rest)
  · exact sound

theorem failBack (sound : Sound channel) (late : Bool) : Sound (channel.failBack late) := by
  unfold Channel.failBack
  split
  · rename_i idle taken
    split
    · exact sound.drop _ _ idle
    · exact sound
  · exact sound

theorem save (sound : Sound channel) : Sound channel.save := by
  unfold Channel.save
  split
  · rename_i timestamp definition running present
    have stamped := sound.update timestamp running
    have called := sound.called definition present
    split
    · rename_i same
      -- the document says so already
      refine ⟨sound.distinct, sound.written, sound.document, fun _ => nofun, sound.paired,
        sound.newest, fun _ _ => nofun, ?_, ?_⟩
      · intro unbroken other another unsaved
        cases present.symm.trans another
        rcases sound.owed unbroken definition present unsaved with unseen | waiting | own
        · exact .inl unseen
        · exact .inr (.inl waiting)
        · cases running.symm.trans own
          exact absurd same unsaved
      · intro unbroken other another
        cases present.symm.trans another
        rcases sound.applied unbroken definition present with unsaved | waiting | stale | applied
        · exact .inl unsaved
        · exact .inr (.inl waiting)
        · obtain ⟨other, own, different⟩ := stale
          cases running.symm.trans own
          exact .inl (same ▸ different)
        · exact .inr (.inr (.inr applied))
    · have unseen := sound.unseen_put present { definition with saved := timestamp }
      refine ⟨sound.distinct, ?_, ?_, fun _ => nofun, ?_, ?_, fun _ _ => nofun, ?_, ?_⟩
      · intro snapshot member
        rcases List.mem_append.mp member with waiting | later
        · exact sound.written snapshot (List.mem_append_left _ waiting)
        · rw [unseen] at later
          rcases List.mem_append.mp later with earlier | new
          · exact sound.written snapshot (List.mem_append_right _ earlier)
          · cases List.mem_singleton.mp new
            exact (sound.document definition present).1
      · rintro _ ⟨⟩
        exact ⟨(sound.document definition present).1, stamped⟩
      · have subscribed := sound.paired
        rw [present] at subscribed
        exact subscribed
      · rintro _ last ⟨⟩ ends
        rw [unseen, List.getLast?_concat] at ends
        exact (Option.some.inj ends).symm
      · rintro _ _ ⟨⟩ _
        rw [unseen]
        exact .inl (List.append_ne_nil_of_right_ne_nil _ (List.cons_ne_nil _ _))
      · rintro unbroken _ ⟨⟩
        by_cases own : timestamp = definition.timestamp
        · exact .inr (.inr (.inr (called (own ▸ running))))
        · exact .inl own
  · rename_i timestamp running gone
    refine ⟨sound.distinct, ?_, sound.document, fun _ => nofun, sound.paired, sound.newest,
      fun _ _ => nofun, nofun, nofun⟩
    intro snapshot member
    apply sound.written
    rcases List.mem_append.mp member with waiting | unseen
    · obtain ⟨handler, inside, rfl⟩ := List.mem_map.mp waiting
      exact List.mem_append_left _ (List.mem_map_of_mem (List.mem_append_right _ inside))
    · exact List.mem_append_right _ unseen
  · exact sound

theorem step (sound : Sound channel) {command : Command γ τ} (fresh : command.Fresh channel) :
    Sound (command.step channel) := by
  cases command with
  | register config timestamp immediate => exact sound.registerConfig config immediate fresh
  | release => exact sound.releaseConfig
  | edit config timestamp => exact sound.pushConfigChange config fresh
  | deliver skipped => exact sound.onSnapshot skipped
  | restart => exact sound.restartCallback
  | take => exact sound.handleQueuedEvents
  | call => exact sound.callBack
  | fail late => exact sound.failBack late
  | save => exact sound.save

theorem reached {config : γ} (reached : Reached config channel) : Sound channel :=
  Reaches.invariant Sound (.initial config) (fun _ _ sound fresh => sound.step fresh) reached

end Sound

/-- In every state that is reached, with any number of registrations and
releases of the config and of edits in between: when nothing is on its way and
no handler was dropped since the config last changed, the runner has the config
of the document, which says that it was saved. -/
theorem quiet_agrees [DecidableEq τ] {config : γ} (reached : Reached config channel)
    (quiet : channel.Quiet) (unbroken : channel.dropped = false)
    {definition : Definition γ τ} (present : channel.document = some definition) :
    channel.applied = definition.config ∧ definition.saved = definition.timestamp :=
  (Sound.reached reached).agrees quiet unbroken present

namespace Editing

/-- A config is registered and edited twice before the first edit is handled. -/
def commands : List (Command String Nat) :=
  [.register "off" 1 false, .deliver 0, .take, .call, .edit "on" 2, .deliver 0, .edit "auto" 3,
    .take, .call, .save, .deliver 1, .take, .call, .save, .deliver 0, .take, .call]

def edited : Channel String Nat :=
  commands.foldl (fun channel command => command.step channel) (.initial "off")

theorem edited_reached : Reached "off" edited := Reaches.run .start (by decide)

theorem edited_agrees : edited.document = some ⟨"auto", 3, 3⟩ ∧ edited.applied = "auto" := by
  have present : edited.document = some ⟨"auto", 3, 3⟩ := by decide
  have quiet : edited.Quiet := ⟨by decide, by decide, by decide, by decide⟩
  exact ⟨present, (quiet_agrees edited_reached quiet (by decide) present).1⟩

end Editing

end Daq.Cloud
