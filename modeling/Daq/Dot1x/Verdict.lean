import Daq.Dot1x.Evolution
import Daq.Lib.Reach

namespace Daq.Dot1x

/-! Verdicts over whole runs: who gets one, when, and on what grounds. -/

/-- The states that any sequence of events leads to. -/
abbrev Reached (setup : Setup) (begun : Nat) : Authenticator → Prop :=
  Reaches (Authenticator.step setup) (fun _ _ => True) (Authenticator.initial setup begun)

namespace Authenticator

/-- The state of the machine of an address. -/
def stateOf (auth : Authenticator) (srcMac : Address) : Option AuthState :=
  (auth.stateMachines.get? srcMac).map AuthStateMachine.state

end Authenticator

/-- The timer of a machine has run out before a tick and runs again after it. -/
def Fires (now : Nat) (auth reached : Authenticator) (srcMac : Address) : Prop :=
  ∃ machine revised, auth.stateMachines.get? srcMac = some machine ∧ machine.Expired now ∧
    reached.stateMachines.get? srcMac = some revised ∧ ¬ revised.Expired now

/-- Since the machine of an address came into its present state, its timer has
fired `count` times. -/
inductive Unanswered (setup : Setup) (begun : Nat) (srcMac : Address) :
    Nat → Authenticator → Prop where
  | answered {auth : Authenticator} (event : Event) (reached : Reached setup begun auth)
      (changed : (Authenticator.step setup event auth).stateOf srcMac ≠ auth.stateOf srcMac) :
      Unanswered setup begun srcMac 0 (Authenticator.step setup event auth)
  | repeated {auth : Authenticator} {count : Nat} (now : Nat)
      (waiting : Unanswered setup begun srcMac count auth)
      (same : (Authenticator.step setup (.tick now) auth).stateOf srcMac = auth.stateOf srcMac)
      (fires : Fires now auth (Authenticator.step setup (.tick now) auth) srcMac) :
      Unanswered setup begun srcMac (count + 1) (Authenticator.step setup (.tick now) auth)
  | waited {auth : Authenticator} {count : Nat} (event : Event)
      (waiting : Unanswered setup begun srcMac count auth)
      (same : (Authenticator.step setup event auth).stateOf srcMac = auth.stateOf srcMac)
      (quiet : ∀ now, event = .tick now →
        ¬ Fires now auth (Authenticator.step setup event auth) srcMac) :
      Unanswered setup begun srcMac count (Authenticator.step setup event auth)

/-- What holds of every authenticator that is reached. -/
structure Consistent (setup : Setup) (begun : Nat) (auth : Authenticator) : Prop
    extends Filed auth where
  apart : ∀ {srcMac machine}, auth.stateMachines.get? srcMac = some machine →
    auth.results.get? srcMac = none
  pending : ∀ {srcMac machine}, auth.stateMachines.get? srcMac = some machine →
    machine.state = .start ∨ machine.state = .supplicant ∨ machine.state = .radius
  counted : ∀ {srcMac machine}, auth.stateMachines.get? srcMac = some machine →
    Unanswered setup begun srcMac machine.currentRetries auth
  bounded : ∀ {srcMac machine}, auth.stateMachines.get? srcMac = some machine →
    machine.currentRetries ≤ setup.retryCount

variable {setup : Setup} {begun : Nat} {auth : Authenticator}

theorem initial_consistent : Consistent setup begun (Authenticator.initial setup begun) := by
  have empty : ∀ {srcMac machine},
      (Authenticator.initial setup begun).stateMachines.get? srcMac ≠ some machine := by
    intro srcMac machine present
    cases present
  exact ⟨⟨fun present => absurd present empty, fun present => absurd present empty⟩,
    fun present => absurd present empty, fun present => absurd present empty,
    fun present => absurd present empty, fun present => absurd present empty⟩

/-- The facts about one machine that a step has to establish. -/
structure Upright (setup : Setup) (begun : Nat) (auth : Authenticator) (srcMac : Address)
    (machine : AuthStateMachine) : Prop where
  keyed : machine.srcMac = srcMac
  ported : machine.authenticationMac ≠ none
  apart : auth.results.get? srcMac = none
  pending : machine.state = .start ∨ machine.state = .supplicant ∨ machine.state = .radius
  counted : Unanswered setup begun srcMac machine.currentRetries auth
  bounded : machine.currentRetries ≤ setup.retryCount

theorem Consistent.upright (consistent : Consistent setup begun auth) {srcMac : Address}
    {machine : AuthStateMachine} (present : auth.stateMachines.get? srcMac = some machine) :
    Upright setup begun auth srcMac machine :=
  ⟨consistent.keyed present, consistent.ported present, consistent.apart present,
    consistent.pending present, consistent.counted present, consistent.bounded present⟩

theorem Consistent.of_upright
    (upright : ∀ srcMac machine, auth.stateMachines.get? srcMac = some machine →
      Upright setup begun auth srcMac machine) : Consistent setup begun auth :=
  ⟨⟨fun present => (upright _ _ present).keyed, fun present => (upright _ _ present).ported⟩,
    fun present => (upright _ _ present).apart, fun present => (upright _ _ present).pending,
    fun present => (upright _ _ present).counted, fun present => (upright _ _ present).bounded⟩

theorem Unanswered.linger {event : Event} {srcMac : Address}
    {machine revised : AuthStateMachine} {count : Nat}
    (waiting : Unanswered setup begun srcMac count auth)
    (before : auth.stateMachines.get? srcMac = some machine)
    (after : (Authenticator.step setup event auth).stateMachines.get? srcMac = some revised)
    (state : revised.state = machine.state)
    (timeout : revised.currentTimeout = machine.currentTimeout) :
    Unanswered setup begun srcMac count (Authenticator.step setup event auth) := by
  refine .waited event waiting ?_ ?_
  · simp [Authenticator.stateOf, before, after, state]
  · rintro now _ ⟨earlier, later, found, expired, stored, running⟩
    cases before.symm.trans found
    cases after.symm.trans stored
    apply running
    unfold AuthStateMachine.Expired at expired ⊢
    rw [timeout]
    exact expired

theorem step_consistent (reached : Reached setup begun auth)
    (consistent : Consistent setup begun auth) (event : Event) :
    Consistent setup begun (Authenticator.step setup event auth) := by
  refine Consistent.of_upright fun srcMac current present => ?_
  cases step_evolves setup consistent.toFiled event srcMac with
  | unaffected kept unjudged =>
      have before := kept.symm.trans present
      have upright := consistent.upright before
      exact ⟨upright.keyed, upright.ported, unjudged.trans upright.apart, upright.pending,
        upright.counted.linger before present rfl rfl, upright.bounded⟩
  | started machine absent fresh after keyed ported state retries unjudged =>
      cases present.symm.trans after
      refine ⟨keyed, ported, unjudged.trans fresh, .inr (.inl state), ?_, ?_⟩
      · rw [retries]
        refine .answered event reached ?_
        simp [Authenticator.stateOf, present, absent]
      · rw [retries]
        exact Nat.zero_le _
  | annotated machine revised before after keyed ported state retries timeout unjudged =>
      cases present.symm.trans after
      have upright := consistent.upright before
      refine ⟨keyed.trans upright.keyed, ported ▸ upright.ported, unjudged.trans upright.apart,
        state ▸ upright.pending, ?_, retries ▸ upright.bounded⟩
      rw [retries]
      exact upright.counted.linger before present state timeout
  | moved machine revised before after keyed ported change state retries unjudged =>
      cases present.symm.trans after
      have upright := consistent.upright before
      refine ⟨keyed.trans upright.keyed, ported ▸ upright.ported, unjudged.trans upright.apart,
        .inr state, ?_, ?_⟩
      · rw [retries]
        refine .answered event reached ?_
        simp [Authenticator.stateOf, before, present, change]
      · rw [retries]
        exact Nat.zero_le _
  | retried machine revised before after rearms unjudged =>
      cases present.symm.trans after
      have upright := consistent.upright before
      cases event with
      | tick now =>
          obtain ⟨expired, more, rfl⟩ := rearms
          refine ⟨upright.keyed, upright.ported, unjudged.trans upright.apart, upright.pending,
            ?_, more⟩
          refine .repeated now upright.counted ?_ ⟨machine, _, before, expired, present, ?_⟩
          · simp [Authenticator.stateOf, before, present]
          · simp [AuthStateMachine.Expired]
      | frame => exact rearms.elim
      | datagram => exact rearms.elim
      | send => exact rearms.elim
  | judged machine verdict before gone recorded grounds =>
      cases gone.symm.trans present

theorem reached_consistent (reached : Reached setup begun auth) :
    Consistent setup begun auth := by
  induction reached with
  | start => exact initial_consistent
  | step event before _ consistent => exact step_consistent before consistent event

/-- A response of the given type is delivered to the machine of an address while
it waits for the RADIUS server. -/
def Delivered (setup : Setup) (auth : Authenticator) (event : Event) (srcMac : Address)
    (packetType : PacketType) : Prop :=
  ∃ packedMessage now callback machine, event = .datagram packedMessage now ∧
    RadiusModule.decodeCallback setup auth (Authenticator.received packedMessage) =
      .ok (some callback) ∧
    callback.srcMac = srcMac ∧ callback.packetType = packetType ∧
    auth.stateMachines.get? srcMac = some machine ∧ machine.state = .radius

/-- The timer of a machine runs out once more after all retries went unanswered. -/
def UsedUp (setup : Setup) (begun : Nat) (auth : Authenticator) (event : Event)
    (srcMac : Address) : Prop :=
  ∃ now machine, event = .tick now ∧ auth.stateMachines.get? srcMac = some machine ∧
    machine.Expired now ∧ Unanswered setup begun srcMac setup.retryCount auth

theorem verdict_grounds (consistent : Consistent setup begun auth) {event : Event}
    {srcMac : Address} {machine : AuthStateMachine} {verdict : Bool}
    (before : auth.stateMachines.get? srcMac = some machine)
    (grounds : EventGrounds setup auth srcMac machine verdict event) :
    verdict = true ∧ Delivered setup auth event srcMac .accessAccept ∨
      verdict = false ∧ (Delivered setup auth event srcMac .accessReject ∨
        UsedUp setup begun auth event srcMac) := by
  cases event with
  | frame => exact grounds.elim
  | send => exact grounds.elim
  | datagram packedMessage now =>
      obtain ⟨callback, decoded, addressed, state, accepted | rejected⟩ := grounds
      · exact .inl ⟨accepted.1, packedMessage, now, callback, machine, rfl, decoded, addressed,
          accepted.2, before, state⟩
      · exact .inr ⟨rejected.1, .inl ⟨packedMessage, now, callback, machine, rfl, decoded,
          addressed, rejected.2, before, state⟩⟩
  | tick now =>
      obtain ⟨negative, expired, exhausted⟩ := grounds
      have all : machine.currentRetries = setup.retryCount :=
        Nat.le_antisymm (consistent.bounded before) exhausted
      exact .inr ⟨negative, .inr ⟨now, machine, rfl, before, expired,
        all ▸ consistent.counted before⟩⟩

/-- In every state that is reached an address has a machine or a result but not
both, its machine is still in progress, and the next event keeps its result or
gives it one on the grounds that the verdict stands for. -/
theorem reached_verdicts (reached : Reached setup begun auth) (event : Event)
    (srcMac : Address) :
    (auth.stateMachines.get? srcMac = none ∨ auth.results.get? srcMac = none) ∧
      (∀ machine, auth.stateMachines.get? srcMac = some machine →
        machine.state = .start ∨ machine.state = .supplicant ∨ machine.state = .radius) ∧
      (∀ verdict, auth.results.get? srcMac = some verdict →
        (Authenticator.step setup event auth).results.get? srcMac = some verdict) ∧
      (auth.results.get? srcMac = none →
        (Authenticator.step setup event auth).results.get? srcMac = some true →
        Delivered setup auth event srcMac .accessAccept) ∧
      (auth.results.get? srcMac = none →
        (Authenticator.step setup event auth).results.get? srcMac = some false →
        Delivered setup auth event srcMac .accessReject ∨
          UsedUp setup begun auth event srcMac) := by
  have consistent := reached_consistent reached
  refine ⟨?_, fun _ present => consistent.pending present, ?_⟩
  · cases present : auth.stateMachines.get? srcMac with
    | none => exact .inl rfl
    | some machine => exact .inr (consistent.apart present)
  · have unjudged_or := step_evolves setup consistent.toFiled event srcMac
    cases unjudged_or with
    | judged machine verdict before _ recorded grounds =>
        have supported := verdict_grounds consistent before grounds
        refine ⟨?_, ?_, ?_⟩
        · intro earlier judged
          cases (consistent.apart before).symm.trans judged
        · intro _ granted
          cases recorded.symm.trans granted
          simpa using supported
        · intro _ denied
          cases recorded.symm.trans denied
          simpa using supported
    | unaffected _ unjudged | started _ _ _ _ _ _ _ _ unjudged
    | annotated _ _ _ _ _ _ _ _ _ unjudged | moved _ _ _ _ _ _ _ _ _ unjudged
    | retried _ _ _ _ _ unjudged =>
        rw [unjudged]
        refine ⟨fun _ judged => judged, ?_, ?_⟩
        · intro absent granted
          cases absent.symm.trans granted
        · intro absent denied
          cases absent.symm.trans denied

theorem asked_reached :
    Reached Sample.setup 0 (Authenticator.runEvents Sample.setup Sample.asked Sample.begun) :=
  Reaches.foldl (fun _ _ => trivial) Sample.asked

/-- The server accepts the supplicant of the sample conversation. -/
theorem sample_verdicts :
    Delivered Sample.setup (Authenticator.runEvents Sample.setup Sample.asked Sample.begun)
      (.datagram (Sample.response .accessAccept 0 Sample.successAttribute) 12)
      Sample.supplicant .accessAccept :=
  (reached_verdicts asked_reached
    (.datagram (Sample.response .accessAccept 0 Sample.successAttribute) 12)
    Sample.supplicant).2.2.2.1 (by decide +kernel) (by decide +kernel)

end Daq.Dot1x
