import Daq.Cloud.Agreement

namespace Daq.Cloud

/-! Callbacks are given configs in the order in which they were put into the
document. -/

variable {γ τ : Type} {channel : Channel γ τ} [DecidableEq τ]

/-- The timestamps come in the order in which they were put into the
document. -/
def InOrder (stamps line : List τ) : Prop :=
  line.Pairwise fun first second => stamps.idxOf first ≤ stamps.idxOf second

namespace InOrder

variable {stamps line : List τ} {timestamp : τ}

theorem grow (ordered : InOrder stamps line) (known : ∀ earlier ∈ line, earlier ∈ stamps) :
    InOrder (stamps ++ [timestamp]) line := by
  refine List.Pairwise.imp_of_mem (fun first second ahead => ?_) ordered
  rwa [List.idxOf_append_of_mem (known _ first), List.idxOf_append_of_mem (known _ second)]

/-- The latest timestamp comes last. -/
theorem concat (ordered : InOrder stamps line) (known : ∀ earlier ∈ line, earlier ∈ stamps)
    (distinct : stamps.Nodup) (latest : stamps.getLast? = some timestamp) :
    InOrder stamps (line ++ [timestamp]) := by
  obtain ⟨before, rfl⟩ := List.getLast?_eq_some_iff.mp latest
  have absent : timestamp ∉ before := by
    intro member
    exact (List.nodup_append.mp distinct).2.2 _ member _ (List.mem_singleton_self _) rfl
  refine List.pairwise_append.mpr ⟨ordered, List.pairwise_singleton _ _, ?_⟩
  intro earlier member last final
  cases List.mem_singleton.mp final
  have bound := List.idxOf_lt_length_of_mem (known earlier member)
  rw [List.length_append, List.length_singleton] at bound
  rw [List.idxOf_append_of_notMem (a := timestamp) absent]
  omega

theorem sublist (ordered : InOrder stamps line) {part : List τ} (inside : part.Sublist line) :
    InOrder stamps part :=
  List.Pairwise.sublist inside ordered

end InOrder

/-- The timestamps that callbacks were given, and those that still wait. -/
def Channel.line (channel : Channel γ τ) : List τ :=
  channel.calls.map Prod.snd ++ channel.snapshots.map Definition.timestamp

structure Ordered (channel : Channel γ τ) : Prop where
  line : InOrder channel.stamps channel.line
  given : ∀ call ∈ channel.calls, call ∈ channel.writes
  latest : ∀ definition, channel.document = some definition →
    channel.stamps.getLast? = some definition.timestamp

namespace Ordered

theorem initial (config : γ) : Ordered (.initial config : Channel γ τ) where
  line := .nil
  given := fun _ => nofun
  latest := fun _ => nofun

theorem known (ordered : Ordered channel) (sound : Sound channel) :
    ∀ timestamp ∈ channel.line, timestamp ∈ channel.stamps := by
  intro timestamp member
  rcases List.mem_append.mp member with given | waiting
  · obtain ⟨call, inside, rfl⟩ := List.mem_map.mp given
    exact List.mem_map_of_mem (ordered.given call inside)
  · obtain ⟨snapshot, inside, rfl⟩ := List.mem_map.mp waiting
    exact Sound.stamp_mem (sound.written snapshot inside)

/-- A config is put into the document and becomes the last in line. -/
theorem written (ordered : Ordered channel) (sound : Sound channel) {after : Channel γ τ}
    {config : γ} {timestamp : τ} (fresh : timestamp ∉ channel.stamps)
    (writes : after.writes = channel.writes ++ [(config, timestamp)])
    (calls : after.calls = channel.calls)
    (line : ∃ part, part.Sublist channel.line ∧ after.line = part ++ [timestamp])
    (document : ∀ definition, after.document = some definition →
      definition.timestamp = timestamp) : Ordered after := by
  have stamps : after.stamps = channel.stamps ++ [timestamp] := by
    unfold Channel.stamps
    rw [writes, List.map_append]
    rfl
  obtain ⟨part, inside, whole⟩ := line
  refine ⟨?_, fun call member => ?_, fun definition present => ?_⟩
  · rw [stamps, whole]
    apply InOrder.concat
    · exact (ordered.line.sublist inside).grow fun earlier member =>
        ordered.known sound earlier (inside.subset member)
    · exact fun earlier member =>
        List.mem_append_left _ (ordered.known sound earlier (inside.subset member))
    · rw [List.nodup_append]
      refine ⟨sound.distinct, List.nodup_singleton _, fun earlier member last final same => ?_⟩
      cases List.mem_singleton.mp final
      exact fresh (same ▸ member)
    · exact List.getLast?_concat
  · rw [writes]
    exact List.mem_append_left _ (ordered.given call (calls ▸ member))
  · rw [stamps, document definition present]
    exact List.getLast?_concat

/-- Nothing is put into the document but a version of what it has. -/
theorem kept (ordered : Ordered channel) {after : Channel γ τ}
    (writes : after.writes = channel.writes)
    (given : ∀ call ∈ after.calls, call ∈ channel.writes)
    (line : InOrder channel.stamps after.line)
    (document : ∀ definition, after.document = some definition →
      ∃ earlier, channel.document = some earlier ∧ definition.timestamp = earlier.timestamp) :
    Ordered after := by
  have stamps : after.stamps = channel.stamps := by
    unfold Channel.stamps
    rw [writes]
  refine ⟨stamps ▸ line, fun call member => writes ▸ given call member,
    fun definition present => ?_⟩
  obtain ⟨earlier, before, same⟩ := document definition present
  rw [stamps, same]
  exact ordered.latest earlier before

omit [DecidableEq τ] in
/-- The document's timestamp is that of the document before. -/
theorem still_present : ∀ definition, channel.document = some definition →
    ∃ earlier, channel.document = some earlier ∧ definition.timestamp = earlier.timestamp :=
  fun definition present => ⟨definition, present, rfl⟩

omit [DecidableEq τ] in
/-- What waits but for the versions that are not delivered. -/
theorem handlers_sublist_line : (channel.calls.map Prod.snd ++
    (channel.handlers.map Handler.snapshot).map Definition.timestamp).Sublist channel.line := by
  unfold Channel.line Channel.snapshots
  rw [List.map_append]
  exact (List.Sublist.refl _).append (List.sublist_append_left _ _)

theorem registerConfig (ordered : Ordered channel) (sound : Sound channel) (config : γ)
    {timestamp : τ} (immediate : Bool) (fresh : timestamp ∉ channel.stamps) :
    Ordered (channel.registerConfig config timestamp immediate) := by
  refine ordered.written sound fresh rfl rfl ⟨_, handlers_sublist_line, ?_⟩ ?_
  · unfold Channel.line Channel.snapshots
    rw [List.map_append, List.append_assoc]
    rfl
  · rintro _ ⟨⟩
    rfl

theorem releaseConfig (ordered : Ordered channel) : Ordered channel.releaseConfig := by
  refine ordered.kept rfl ordered.given (ordered.line.sublist ?_) fun _ => nofun
  unfold Channel.line Channel.snapshots
  rw [List.map_append, List.map_append]
  exact (List.Sublist.refl _).append ((List.Sublist.refl _).append (List.nil_sublist _))

theorem pushConfigChange (ordered : Ordered channel) (sound : Sound channel) (config : γ)
    {timestamp : τ} (fresh : timestamp ∉ channel.stamps) :
    Ordered (channel.pushConfigChange config timestamp) := by
  unfold Channel.pushConfigChange
  cases present : channel.document with
  | none => exact ordered
  | some definition =>
      refine ordered.written sound fresh rfl rfl ⟨channel.line, .refl _, ?_⟩ ?_
      · have unseen := sound.unseen_put present { definition with config, timestamp }
        unfold Channel.line Channel.snapshots
        simp only [unseen, List.map_append, ← List.append_assoc]
        rfl
      · rintro _ ⟨⟩
        rfl

theorem onSnapshot (ordered : Ordered channel) (skipped : Nat) :
    Ordered (channel.onSnapshot skipped) := by
  unfold Channel.onSnapshot
  split
  · rename_i immediate snapshot rest _ left
    refine ordered.kept rfl ordered.given (ordered.line.sublist ?_) still_present
    have part : (snapshot :: rest).Sublist channel.unseen := left ▸ List.drop_sublist _ _
    unfold Channel.line Channel.snapshots Channel.handlers
    simp only [List.map_append, List.append_assoc, List.map_cons, List.map_nil,
      List.singleton_append]
    exact (List.Sublist.refl _).append ((List.Sublist.refl _).append
      ((List.Sublist.refl _).append (part.map Definition.timestamp)))
  · exact ordered

theorem restartCallback (ordered : Ordered channel) (sound : Sound channel) :
    Ordered channel.restartCallback := by
  unfold Channel.restartCallback
  split
  · rename_i immediate definition _ present
    refine ordered.kept rfl ordered.given ?_ still_present
    have line := (ordered.line.sublist handlers_sublist_line).concat (fun earlier member =>
      ordered.known sound earlier (handlers_sublist_line.subset member)) sound.distinct
      (ordered.latest definition present)
    unfold Channel.line Channel.snapshots
    rw [List.map_append, ← List.append_assoc]
    exact line
  · exact ordered

theorem handleQueuedEvents (ordered : Ordered channel) : Ordered channel.handleQueuedEvents := by
  unfold Channel.handleQueuedEvents
  split
  · rename_i idle
    refine ordered.kept rfl ordered.given ?_ still_present
    have line := ordered.line
    unfold Channel.line Channel.snapshots Channel.handlers at line ⊢
    rw [idle.1, List.nil_append] at line
    rw [List.append_nil]
    exact line
  · exact ordered

/-- A handler that is called was given a config of the document. -/
theorem given_next (ordered : Ordered channel) (sound : Sound channel) {handler : Handler γ τ}
    {rest : List (Handler γ τ)} (taken : channel.callbacks = handler :: rest) :
    ∀ call ∈ channel.calls ++ [(handler.snapshot.config, handler.snapshot.timestamp)],
      call ∈ channel.writes := by
  intro call member
  rcases List.mem_append.mp member with earlier | new
  · exact ordered.given call earlier
  · cases List.mem_singleton.mp new
    apply sound.written
    unfold Channel.snapshots Channel.handlers
    rw [taken]
    exact List.mem_cons_self

theorem callBack (ordered : Ordered channel) (sound : Sound channel) : Ordered channel.callBack := by
  unfold Channel.callBack
  split
  · rename_i handler rest idle taken
    split
    · refine ordered.kept rfl (ordered.given_next sound taken) ?_ still_present
      have line := ordered.line
      unfold Channel.line Channel.snapshots Channel.handlers at line ⊢
      rw [taken] at line
      simpa using line
    · refine ordered.kept rfl ordered.given (ordered.line.sublist ?_) still_present
      unfold Channel.line Channel.snapshots Channel.handlers
      rw [taken]
      exact (List.Sublist.refl _).append (((List.sublist_cons_self _ _).append
        (.refl _)).map _ |>.append (.refl _) |>.map _)
  · exact ordered

theorem failBack (ordered : Ordered channel) (sound : Sound channel) (late : Bool) :
    Ordered (channel.failBack late) := by
  unfold Channel.failBack
  split
  · rename_i handler rest idle taken
    split
    · refine ordered.kept rfl (ordered.given_next sound taken) (ordered.line.sublist ?_)
        still_present
      unfold Channel.line Channel.snapshots Channel.handlers
      rw [taken]
      simp
    · exact ordered
  · exact ordered

theorem save (ordered : Ordered channel) (sound : Sound channel) : Ordered channel.save := by
  unfold Channel.save
  split
  · rename_i timestamp definition running present
    split
    · exact ordered.kept rfl ordered.given ordered.line still_present
    · refine ordered.kept rfl ordered.given ?_ ?_
      · have unseen := sound.unseen_put present { definition with saved := timestamp }
        have line := ordered.line.concat (ordered.known sound) sound.distinct
          (ordered.latest definition present)
        unfold Channel.line Channel.snapshots at line ⊢
        simp only [unseen, List.map_append, ← List.append_assoc] at line ⊢
        exact line
      · rintro _ ⟨⟩
        exact ⟨definition, present, rfl⟩
  · refine ordered.kept rfl ordered.given (ordered.line.sublist ?_) still_present
    unfold Channel.line Channel.snapshots Channel.handlers
    simp
  · exact ordered

theorem step (ordered : Ordered channel) (sound : Sound channel) {command : Command γ τ}
    (fresh : command.Fresh channel) : Ordered (command.step channel) := by
  cases command with
  | register config timestamp immediate =>
      exact ordered.registerConfig sound config immediate fresh
  | release => exact ordered.releaseConfig
  | edit config timestamp => exact ordered.pushConfigChange sound config fresh
  | deliver skipped => exact ordered.onSnapshot skipped
  | restart => exact ordered.restartCallback sound
  | take => exact ordered.handleQueuedEvents
  | call => exact ordered.callBack sound
  | fail late => exact ordered.failBack sound late
  | save => exact ordered.save sound

theorem reached {config : γ} (reached : Reached config channel) :
    Sound channel ∧ Ordered channel :=
  Reaches.invariant (fun channel => Sound channel ∧ Ordered channel)
    ⟨.initial config, .initial config⟩
    (fun _ _ both fresh => ⟨both.1.step fresh, both.2.step both.1 fresh⟩) reached

end Ordered

/-- In every state that is reached, callbacks were only given configs that were
registered or edited, and none after one that was put into the document later. -/
theorem calls_in_order {config : γ} (reached : Reached config channel) :
    (∀ call ∈ channel.calls, call ∈ channel.writes) ∧
      channel.calls.Pairwise fun first second =>
        (channel.writes.map Prod.snd).idxOf first.2 ≤
          (channel.writes.map Prod.snd).idxOf second.2 := by
  obtain ⟨_, ordered⟩ := Ordered.reached reached
  refine ⟨ordered.given, ?_⟩
  have line := ordered.line.sublist (List.sublist_append_left _ _)
  unfold InOrder Channel.stamps at line
  rwa [List.pairwise_map] at line

theorem Editing.edited_in_order : edited.calls = [("on", 2), ("auto", 3)] ∧
    edited.calls.Pairwise fun first second =>
      (edited.writes.map Prod.snd).idxOf first.2 ≤ (edited.writes.map Prod.snd).idxOf second.2 :=
  ⟨by decide, (calls_in_order edited_reached).2⟩

end Daq.Cloud
