import Daq.Cloud.Agreement
import Mathlib.Data.List.Count

namespace Daq.Cloud

/-! When users leave the document alone, the exchange about it comes to rest
after a bounded number of steps, and then the runner has its config, unless a
handler of it was dropped. -/

variable {γ τ : Type} [DecidableEq τ] {channel : Channel γ τ} {definition : Definition γ τ}

/-- Deliveries and the work of the main loop. -/
def Command.Internal : Command γ τ → Prop
  | .deliver _ | .take | .call | .save => True
  | _ => False

/-- Answering a snapshot of an earlier config costs another round. -/
def stale (definition : Definition γ τ) (timestamp : τ) : Nat :=
  if timestamp = definition.timestamp then 0 else 20

def Channel.staleness (channel : Channel γ τ) (definition : Definition γ τ) : Nat :=
  channel.snapshots.countP fun snapshot => decide (snapshot.timestamp ≠ definition.timestamp)

/-- What is left to be done about the document. -/
def Channel.cost (channel : Channel γ τ) (definition : Definition γ τ) : Nat :=
  4 * channel.unseen.length + 3 * channel.callbackQueue.length + 2 * channel.callbacks.length +
    20 * channel.staleness definition +
    (channel.update.elim 0 fun timestamp => 1 + stale definition timestamp) +
    if definition.saved = definition.timestamp then 0 else 10

/-- What is left to be done, with or without a document. -/
def Channel.work (channel : Channel γ τ) : Nat :=
  match channel.document with
  | some definition => channel.cost definition
  | none => 4 * channel.unseen.length + 3 * channel.callbackQueue.length +
      2 * channel.callbacks.length + channel.update.elim 0 fun _ => 1

/-- The step changes nothing, or it does part of what is left. -/
def Advances (definition : Definition γ τ) (before after : Channel γ τ) : Prop :=
  after = before ∨ ∃ version : Definition γ τ, after.document = some version ∧
    version.config = definition.config ∧ version.timestamp = definition.timestamp ∧
    after.dropped = before.dropped ∧ after.cost version < before.cost definition

section Steps

variable (present : channel.document = some definition)

include present

theorem onSnapshot_advances (skipped : Nat) :
    Advances definition channel (channel.onSnapshot skipped) := by
  unfold Channel.onSnapshot
  split
  · rename_i immediate snapshot rest _ left
    refine .inr ⟨definition, present, rfl, rfl, rfl, ?_⟩
    have whole : channel.unseen = channel.unseen.take skipped ++ snapshot :: rest := by
      rw [← left, List.take_append_drop]
    have shorter : rest.length + 1 ≤ channel.unseen.length := by
      rw [whole, List.length_append, List.length_cons]
      omega
    have fewer : Channel.staleness { channel with
        unseen := rest
        callbackQueue := channel.callbackQueue ++ [⟨immediate, snapshot⟩] } definition ≤
          channel.staleness definition := by
      apply List.Sublist.countP_le
      have part : (snapshot :: rest).Sublist channel.unseen := left ▸ List.drop_sublist _ _
      unfold Channel.snapshots Channel.handlers
      simp only [List.map_append, List.append_assoc, List.map_cons, List.map_nil,
        List.singleton_append]
      exact (List.Sublist.refl _).append ((List.Sublist.refl _).append part)
    unfold Channel.cost
    simp only [List.length_append, List.length_singleton]
    omega
  · exact .inl rfl

theorem handleQueuedEvents_advances :
    Advances definition channel channel.handleQueuedEvents := by
  unfold Channel.handleQueuedEvents
  split
  · rename_i idle
    cases queued : channel.callbackQueue with
    | nil =>
        obtain ⟨callbacks, _⟩ := idle
        cases channel
        dsimp only at queued callbacks
        subst queued callbacks
        exact .inl rfl
    | cons handler rest =>
        refine .inr ⟨definition, present, rfl, rfl, rfl, ?_⟩
        have same : Channel.staleness { channel with
            callbacks := handler :: rest, callbackQueue := [] } definition =
              channel.staleness definition := by
          unfold Channel.staleness Channel.snapshots Channel.handlers
          rw [idle.1, queued, List.append_nil]
          rfl
        unfold Channel.cost
        rw [same, idle.1, queued]
        simp only [List.length_cons, List.length_nil]
        omega
  · exact .inl rfl

theorem callBack_advances : Advances definition channel channel.callBack := by
  unfold Channel.callBack
  split
  · rename_i handler rest idle taken
    have counted : channel.staleness definition =
        (if handler.snapshot.timestamp = definition.timestamp then 0 else 1) +
          ((rest ++ channel.callbackQueue).map Handler.snapshot ++ channel.unseen).countP
            fun snapshot => decide (snapshot.timestamp ≠ definition.timestamp) := by
      unfold Channel.staleness Channel.snapshots Channel.handlers
      rw [taken, List.cons_append, List.map_cons, List.cons_append, List.countP_cons, Nat.add_comm]
      by_cases same : handler.snapshot.timestamp = definition.timestamp <;> simp [same]
    split
    · refine .inr ⟨definition, present, rfl, rfl, rfl, ?_⟩
      unfold Channel.cost
      rw [counted, taken, idle]
      unfold Channel.staleness Channel.snapshots Channel.handlers stale
      simp only [List.length_cons, Option.elim_some, Option.elim_none]
      split <;> omega
    · refine .inr ⟨definition, present, rfl, rfl, rfl, ?_⟩
      unfold Channel.cost
      rw [counted, taken]
      unfold Channel.staleness Channel.snapshots Channel.handlers
      simp only [List.length_cons]
      omega
  · exact .inl rfl

theorem save_advances : Advances definition channel channel.save := by
  unfold Channel.save
  split
  · rename_i timestamp other running another
    cases present.symm.trans another
    split
    · refine .inr ⟨definition, present, rfl, rfl, rfl, ?_⟩
      unfold Channel.cost
      rw [running]
      unfold Channel.staleness Channel.snapshots Channel.handlers
      simp only [Option.elim_some, Option.elim_none]
      omega
    · rename_i unsaved
      refine .inr ⟨{ definition with saved := timestamp }, rfl, rfl, rfl, rfl, ?_⟩
      generalize result : ({ channel.put { definition with saved := timestamp } with
        update := none } : Channel γ τ) = after
      have queue : after.callbackQueue = channel.callbackQueue := by rw [← result]; rfl
      have callbacks : after.callbacks = channel.callbacks := by rw [← result]; rfl
      have idle : after.update = none := by rw [← result]
      have unseen : after.unseen = channel.unseen ∨
          after.unseen = channel.unseen ++ [{ definition with saved := timestamp }] := by
        rw [← result]
        unfold Channel.put
        dsimp only
        split
        · exact .inr rfl
        · exact .inl rfl
      have staleness : after.staleness { definition with saved := timestamp } =
          channel.staleness definition := by
        unfold Channel.staleness Channel.snapshots Channel.handlers
        rw [queue, callbacks]
        rcases unseen with same | longer
        · rw [same]
        · rw [longer, ← List.append_assoc, List.countP_append]
          simp
      have length : after.unseen.length ≤ channel.unseen.length + 1 := by
        rcases unseen with same | longer
        · simp [same]
        · simp [longer]
      unfold Channel.cost
      rw [queue, callbacks, idle, staleness, running]
      simp only [Option.elim_some, Option.elim_none, stale]
      by_cases own : timestamp = definition.timestamp
      · have open' : definition.saved ≠ definition.timestamp := own ▸ unsaved
        rw [if_pos own, if_pos own, if_neg open']
        omega
      · rw [if_neg own, if_neg own]
        omega
  · rename_i gone
    cases present.symm.trans gone
  · exact .inl rfl

theorem step_advances {command : Command γ τ} (internal : command.Internal) :
    Advances definition channel (command.step channel) := by
  cases command with
  | deliver skipped => exact onSnapshot_advances present skipped
  | take => exact handleQueuedEvents_advances present
  | call => exact callBack_advances present
  | save => exact save_advances present
  | register | release | edit | restart | fail => exact internal.elim

end Steps

/-! Without a document, what is left is worked off. -/

/-- The step changes nothing, or there is less to be done and still no document. -/
def Lessens (before after : Channel γ τ) : Prop :=
  after = before ∨ after.document = none ∧ after.work < before.work

section Forgotten

variable (absent : channel.document = none)

include absent

theorem work_forgotten : channel.work = 4 * channel.unseen.length +
    3 * channel.callbackQueue.length + 2 * channel.callbacks.length +
      channel.update.elim 0 fun _ => 1 := by
  unfold Channel.work
  rw [absent]

theorem onSnapshot_lessens (skipped : Nat) : Lessens channel (channel.onSnapshot skipped) := by
  unfold Channel.onSnapshot
  split
  · rename_i immediate snapshot rest _ left
    have shorter : (snapshot :: rest).length ≤ channel.unseen.length := by
      rw [← left, List.length_drop]
      exact Nat.sub_le _ _
    refine .inr ⟨absent, ?_⟩
    rw [work_forgotten absent, work_forgotten (by exact absent)]
    simp only [List.length_append, List.length_cons, List.length_nil] at shorter ⊢
    omega
  · exact .inl rfl

theorem handleQueuedEvents_lessens : Lessens channel channel.handleQueuedEvents := by
  unfold Channel.handleQueuedEvents
  split
  · rename_i idle
    cases queued : channel.callbackQueue with
    | nil =>
        obtain ⟨callbacks, _⟩ := idle
        cases channel
        dsimp only at queued callbacks
        subst queued callbacks
        exact .inl rfl
    | cons handler rest =>
        refine .inr ⟨absent, ?_⟩
        rw [work_forgotten absent, work_forgotten (by exact absent), idle.1, queued]
        simp only [List.length_cons, List.length_nil]
        omega
  · exact .inl rfl

theorem callBack_lessens : Lessens channel channel.callBack := by
  unfold Channel.callBack
  split
  · rename_i handler rest idle taken
    split
    · refine .inr ⟨absent, ?_⟩
      rw [work_forgotten absent, work_forgotten (by exact absent), taken, idle]
      simp only [List.length_cons, Option.elim_some, Option.elim_none]
      omega
    · refine .inr ⟨absent, ?_⟩
      rw [work_forgotten absent, work_forgotten (by exact absent), taken]
      simp only [List.length_cons]
      omega
  · exact .inl rfl

theorem save_lessens : Lessens channel channel.save := by
  unfold Channel.save
  split
  · rename_i present
    cases absent.symm.trans present
  · rename_i running _
    refine .inr ⟨absent, ?_⟩
    rw [work_forgotten absent, work_forgotten (by exact absent), running]
    simp only [List.length_nil, Option.elim_some, Option.elim_none]
    omega
  · exact .inl rfl

theorem step_forgets {command : Command γ τ} (internal : command.Internal) :
    Lessens channel (command.step channel) := by
  cases command with
  | deliver skipped => exact onSnapshot_lessens absent skipped
  | take => exact handleQueuedEvents_lessens absent
  | call => exact callBack_lessens absent
  | save => exact save_lessens absent
  | register | release | edit | restart | fail => exact internal.elim

end Forgotten

theorem step_lessens {command : Command γ τ} (internal : command.Internal) :
    command.step channel = channel ∨ (command.step channel).work < channel.work := by
  cases present : channel.document with
  | none => exact (step_forgets present internal).imp_right And.right
  | some definition =>
      refine (step_advances present internal).imp_right ?_
      rintro ⟨version, next, _, _, _, cheaper⟩
      unfold Channel.work
      rw [present, next]
      exact cheaper

/-- A channel on which no internal step does anything is quiet. -/
theorem quiet_of_still (sound : Sound channel) (present : channel.document = some definition)
    (still : ∀ command : Command γ τ, command.Internal → command.step channel = channel) :
    channel.Quiet := by
  have update : channel.update = none := by
    cases running : channel.update with
    | none => rfl
    | some timestamp =>
        have same : channel.save = channel := still .save trivial
        have written : channel.save.update = none := by
          unfold Channel.save
          rw [running, present]
          dsimp only
          split <;> rfl
        rw [same, running] at written
        cases written
  have callbacks : channel.callbacks = [] := by
    cases taken : channel.callbacks with
    | nil => rfl
    | cons handler rest =>
        have same : channel.callBack = channel := still .call trivial
        have shorter : channel.callBack.callbacks = rest := by
          unfold Channel.callBack
          rw [update, taken]
          dsimp only
          split <;> rfl
        rw [same, taken] at shorter
        exact absurd shorter (List.cons_ne_self _ _)
  refine ⟨?_, ?_, callbacks, update⟩
  · cases left : channel.unseen with
    | nil => rfl
    | cons snapshot rest =>
        have same : channel.onSnapshot 0 = channel := still (.deliver 0) trivial
        have shorter : (channel.onSnapshot 0).unseen = rest := by
          obtain ⟨immediate, subscribed⟩ : ∃ immediate, channel.subscription = some immediate := by
            rw [← Option.isSome_iff_exists, sound.paired, present]
            rfl
          unfold Channel.onSnapshot
          rw [subscribed, left]
          rfl
        rw [same, left] at shorter
        exact absurd shorter (List.cons_ne_self _ _)
  · have same : channel.handleQueuedEvents = channel := still .take trivial
    have emptied : channel.handleQueuedEvents.callbackQueue = [] := by
      unfold Channel.handleQueuedEvents
      rw [if_pos ⟨callbacks, by rw [update]; rfl⟩]
    rwa [same] at emptied

/-- Internal steps each of which changes something, one after another. -/
def Settles (channel : Channel γ τ) (commands : List (Command γ τ)) : Prop :=
  Reaches.Permitted Command.step (fun channel command =>
    command.Internal ∧ command.step channel ≠ channel) channel commands

theorem Settles.fresh {commands : List (Command γ τ)} (settles : Settles channel commands) :
    Reaches.Permitted Command.step (fun channel command => command.Fresh channel) channel
      commands := by
  induction commands generalizing channel with
  | nil => trivial
  | cons command rest later =>
      refine ⟨?_, later settles.2⟩
      have internal := settles.1.1
      cases command with
      | deliver | take | call | save => trivial
      | register | release | edit | restart | fail => exact internal.elim

theorem settles_bounded {commands : List (Command γ τ)} (settles : Settles channel commands) :
    commands.length +
      (commands.foldl (fun state command => command.step state) channel).work ≤
        channel.work := by
  induction commands generalizing channel with
  | nil => simp
  | cons command rest later =>
      obtain ⟨⟨internal, moves⟩, settles⟩ := settles
      have cheaper := (step_lessens internal).resolve_left moves
      have bound := later settles
      rw [List.length_cons, List.foldl_cons]
      omega

/-- Neither the config of the document nor what was dropped of it changes. -/
theorem settles_keeps (present : channel.document = some definition)
    {commands : List (Command γ τ)} (settles : Settles channel commands) :
    ∃ version : Definition γ τ,
      (commands.foldl (fun state command => command.step state) channel).document = some version ∧
      version.config = definition.config ∧ version.timestamp = definition.timestamp ∧
      (commands.foldl (fun state command => command.step state) channel).dropped =
        channel.dropped := by
  induction commands generalizing channel definition with
  | nil => exact ⟨definition, present, rfl, rfl, rfl⟩
  | cons command rest later =>
      obtain ⟨⟨internal, moves⟩, settles⟩ := settles
      obtain ⟨version, next, config, timestamp, dropped, _⟩ :=
        (step_advances present internal).resolve_left moves
      obtain ⟨final, last, config', timestamp', dropped'⟩ := later next settles
      exact ⟨final, last, config'.trans config, timestamp'.trans timestamp,
        dropped'.trans dropped⟩

/-- From every state that is reached, deliveries and the main loop alone can only
take a bounded number of steps.  If there is a document, and no handler was
dropped since its config last changed, then once none of them has anything left
to do the runner has the config of the document, which says that it was saved. -/
theorem exchange_settles {config : γ} (reached : Reached config channel)
    {commands : List (Command γ τ)} (settles : Settles channel commands) :
    commands.length ≤ channel.work ∧
      ∀ definition, channel.document = some definition → channel.dropped = false →
        (∀ command : Command γ τ, command.Internal →
          command.step (commands.foldl (fun state command => command.step state) channel) =
            commands.foldl (fun state command => command.step state) channel) →
        (commands.foldl (fun state command => command.step state) channel).applied =
            definition.config ∧
          (commands.foldl (fun state command => command.step state) channel).document =
            some ⟨definition.config, definition.timestamp, definition.timestamp⟩ := by
  refine ⟨Nat.le_of_add_right_le (settles_bounded settles), ?_⟩
  intro definition present unbroken still
  obtain ⟨version, last, sameConfig, sameTimestamp, dropped⟩ := settles_keeps present settles
  have sound := Sound.reached (Reaches.run reached settles.fresh)
  obtain ⟨applied, saved⟩ := sound.agrees (quiet_of_still sound last still)
    (dropped.trans unbroken) last
  refine ⟨applied.trans sameConfig, ?_⟩
  rw [last, ← sameConfig, ← sameTimestamp]
  congr 1
  cases version
  simp_all

namespace Editing

/-- The second edit comes while the first one is handled. -/
def between : Channel String Nat :=
  (commands.take 7).foldl (fun channel command => command.step channel) (.initial "off")

theorem between_settles : (commands.drop 7).length ≤ between.work ∧
    edited.applied = "auto" := by
  have reached : Reached "off" between := Reaches.run .start (by decide)
  have moves : Settles between (commands.drop 7) := by
    refine ⟨⟨trivial, by decide⟩, ⟨trivial, by decide⟩, ⟨trivial, by decide⟩, ⟨trivial, by decide⟩,
      ⟨trivial, by decide⟩, ⟨trivial, by decide⟩, ⟨trivial, by decide⟩, ⟨trivial, by decide⟩,
      ⟨trivial, by decide⟩, ⟨trivial, by decide⟩, trivial⟩
  obtain ⟨bounded, agrees⟩ := exchange_settles reached moves
  have rest : edited =
      (commands.drop 7).foldl (fun channel command => command.step channel) between := by
    decide
  rw [← rest] at agrees
  refine ⟨bounded, (agrees ⟨"auto", 1, 3⟩ (by decide) (by decide) ?_).1⟩
  intro command internal
  cases command with
  | deliver skipped =>
      have seen : edited.unseen = [] := by decide
      show edited.onSnapshot skipped = edited
      unfold Channel.onSnapshot
      rw [seen, List.drop_nil]
      split
      · contradiction
      · rfl
  | take | call | save => decide
  | register | release | edit | restart | fail => exact internal.elim

end Editing

end Daq.Cloud
