import Daq.Dot1x.Frames

namespace Daq.Dot1x

open Exec

/-! What one event can do to the machine and to the result of one address. -/

/-- The machine and the result of an address after a step, in terms of those
before it.  `Rearms` says what the step may do to a machine whose time is up and
`Grounds` what a verdict may rest on. -/
inductive Evolves (Rearms : AuthStateMachine → AuthStateMachine → Prop)
    (Grounds : AuthStateMachine → Bool → Prop) (auth reached : Authenticator)
    (srcMac : Address) : Prop where
  | unaffected
      (kept : reached.stateMachines.get? srcMac = auth.stateMachines.get? srcMac)
      (unjudged : reached.results.get? srcMac = auth.results.get? srcMac)
  | started (machine : AuthStateMachine)
      (absent : auth.stateMachines.get? srcMac = none)
      (fresh : auth.results.get? srcMac = none)
      (present : reached.stateMachines.get? srcMac = some machine)
      (keyed : machine.srcMac = srcMac) (ported : machine.authenticationMac ≠ none)
      (state : machine.state = .supplicant) (retries : machine.currentRetries = 0)
      (unjudged : reached.results.get? srcMac = auth.results.get? srcMac)
  | annotated (machine revised : AuthStateMachine)
      (before : auth.stateMachines.get? srcMac = some machine)
      (after : reached.stateMachines.get? srcMac = some revised)
      (keyed : revised.srcMac = machine.srcMac)
      (ported : revised.authenticationMac = machine.authenticationMac)
      (state : revised.state = machine.state)
      (retries : revised.currentRetries = machine.currentRetries)
      (timeout : revised.currentTimeout = machine.currentTimeout)
      (unjudged : reached.results.get? srcMac = auth.results.get? srcMac)
  | moved (machine revised : AuthStateMachine)
      (before : auth.stateMachines.get? srcMac = some machine)
      (after : reached.stateMachines.get? srcMac = some revised)
      (keyed : revised.srcMac = machine.srcMac)
      (ported : revised.authenticationMac = machine.authenticationMac)
      (change : revised.state ≠ machine.state)
      (state : revised.state = .supplicant ∨ revised.state = .radius)
      (retries : revised.currentRetries = 0)
      (unjudged : reached.results.get? srcMac = auth.results.get? srcMac)
  | retried (machine revised : AuthStateMachine)
      (before : auth.stateMachines.get? srcMac = some machine)
      (after : reached.stateMachines.get? srcMac = some revised)
      (rearms : Rearms machine revised)
      (unjudged : reached.results.get? srcMac = auth.results.get? srcMac)
  | judged (machine : AuthStateMachine) (verdict : Bool)
      (before : auth.stateMachines.get? srcMac = some machine)
      (gone : reached.stateMachines.get? srcMac = none)
      (recorded : reached.results.get? srcMac = some verdict)
      (grounds : Grounds machine verdict)

/-- A step that concerns one address only. -/
structure Concerns (Rearms : AuthStateMachine → AuthStateMachine → Prop)
    (Grounds : AuthStateMachine → Bool → Prop) (srcMac : Address)
    (auth reached : Authenticator) : Prop where
  evolves : Evolves Rearms Grounds auth reached srcMac
  machines : ∀ other, other ≠ srcMac →
    reached.stateMachines.get? other = auth.stateMachines.get? other
  results : ∀ other, other ≠ srcMac →
    reached.results.get? other = auth.results.get? other

variable {Rearms : AuthStateMachine → AuthStateMachine → Prop}
  {Grounds : AuthStateMachine → Bool → Prop} {auth reached later : Authenticator}

theorem Concerns.refl {srcMac : Address} : Concerns Rearms Grounds srcMac auth auth :=
  ⟨.unaffected rfl rfl, fun _ _ => rfl, fun _ _ => rfl⟩

theorem Evolves.congr {start : Authenticator} {srcMac : Address}
    (evolves : Evolves Rearms Grounds auth reached srcMac)
    (startMachine : start.stateMachines.get? srcMac = auth.stateMachines.get? srcMac)
    (startResult : start.results.get? srcMac = auth.results.get? srcMac)
    (laterMachine : later.stateMachines.get? srcMac = reached.stateMachines.get? srcMac)
    (laterResult : later.results.get? srcMac = reached.results.get? srcMac) :
    Evolves Rearms Grounds start later srcMac := by
  cases evolves with
  | unaffected kept unjudged =>
      exact .unaffected (by rw [laterMachine, kept, startMachine])
        (by rw [laterResult, unjudged, startResult])
  | started machine absent fresh present keyed ported state retries unjudged =>
      exact .started machine (startMachine.trans absent) (startResult.trans fresh)
        (laterMachine.trans present) keyed ported state retries
        (by rw [laterResult, unjudged, startResult])
  | annotated machine revised before after keyed ported state retries timeout unjudged =>
      exact .annotated machine revised (startMachine.trans before) (laterMachine.trans after)
        keyed ported state retries timeout (by rw [laterResult, unjudged, startResult])
  | moved machine revised before after keyed ported change state retries unjudged =>
      exact .moved machine revised (startMachine.trans before) (laterMachine.trans after)
        keyed ported change state retries (by rw [laterResult, unjudged, startResult])
  | retried machine revised before after rearms unjudged =>
      exact .retried machine revised (startMachine.trans before) (laterMachine.trans after)
        rearms (by rw [laterResult, unjudged, startResult])
  | judged machine verdict before gone recorded grounds =>
      exact .judged machine verdict (startMachine.trans before) (laterMachine.trans gone)
        (laterResult.trans recorded) grounds

theorem Concerns.ledger_eq {srcMac : Address}
    (concerns : Concerns Rearms Grounds srcMac auth reached)
    (same : ledger later = ledger reached) : Concerns Rearms Grounds srcMac auth later where
  evolves := concerns.evolves.congr rfl rfl
    (congrArg (fun pair => pair.1.get? srcMac) same)
    (congrArg (fun pair => pair.2.get? srcMac) same)
  machines other different := by
    rw [← concerns.machines other different]
    exact congrArg (fun pair => pair.1.get? other) same
  results other different := by
    rw [← concerns.results other different]
    exact congrArg (fun pair => pair.2.get? other) same

/-- After the last change to the ledger a handler may go on with calls that leave
it alone. -/
theorem Concerns.holds_within {α : Type} {program : Handler α} {srcMac : Address}
    (concerns : Concerns Rearms Grounds srcMac auth reached)
    (within : program.Within coreFrame) :
    program.Holds reached fun _ later => Concerns Rearms Grounds srcMac auth later :=
  (within.holds reached).mono fun _ _ kept => concerns.ledger_eq kept.1

/-! The handlers. -/

theorem processTestResult_concerns {srcMac : Address} {machine : AuthStateMachine}
    {verdict : Bool} {current : Authenticator}
    (before : auth.stateMachines.get? srcMac = some machine)
    (grounds : Grounds machine verdict)
    (present : (current.stateMachines.get? srcMac).isSome = true)
    (others : ∀ other, other ≠ srcMac →
      current.stateMachines.get? other = auth.stateMachines.get? other)
    (results : current.results = auth.results) :
    (Authenticator.processTestResult (some srcMac) verdict).Holds current
      fun _ reached => Concerns Rearms Grounds srcMac auth reached := by
  unfold Authenticator.processTestResult Authenticator.recordResult
  simp only [whenSome, holds_bind, holds_modify, then_ok, holds_read, holds_require, present,
    not_true_eq_false, false_implies, and_true, forall_const]
  refine Concerns.holds_within ⟨?_, ?_, ?_⟩ endAuthentication_within
  · refine .judged machine verdict before ?_ ?_ grounds
    · simp
    · simp
  · intro other different
    simp only [Dict.get?_erase_of_ne _ different, others other different]
  · intro other different
    simp only [Dict.get?_insert_of_ne _ _ different, results]

variable (setup : Setup) (now : Nat)

theorem concerns_insert {srcMac : Address} {revised : AuthStateMachine}
    {current : Authenticator}
    (machines : current.stateMachines = auth.stateMachines.insert srcMac revised)
    (results : current.results = auth.results)
    (evolves : current.stateMachines.get? srcMac = some revised →
      current.results.get? srcMac = auth.results.get? srcMac →
      Evolves Rearms Grounds auth current srcMac) :
    Concerns Rearms Grounds srcMac auth current := by
  refine ⟨evolves ?_ (by rw [results]), ?_, ?_⟩
  · rw [machines, Dict.get?_insert_self]
  · intro other different
    rw [machines, Dict.get?_insert_of_ne _ _ different]
  · intro other _
    rw [results]

theorem startMachine_concerns {srcMac : Address}
    (absent : auth.stateMachines.get? srcMac = none)
    (fresh : auth.results.get? srcMac = none) (ported : auth.authenticatorMac ≠ none) :
    (Authenticator.startMachine setup now srcMac).Holds auth
      fun _ reached => Concerns Rearms Grounds srcMac auth reached := by
  unfold Authenticator.startMachine AuthStateMachine.receivedEapolStart Authenticator.store
  simp only [holds_bind, holds_read, then_ok, holds_modify, holds_ofExcept,
    AuthStateMachine.stateTransition, AuthStateMachine.initialized, if_true,
    Dict.insert_insert]
  refine Concerns.holds_within (concerns_insert rfl rfl ?_) (sendEapResponse_within _ _)
  exact fun present unjudged => .started _ absent fresh present rfl ported rfl rfl unjudged

theorem noteIdentity_annotates (machine : AuthStateMachine) (message : EapMessage) :
    (machine.noteIdentity message).srcMac = machine.srcMac ∧
      (machine.noteIdentity message).state = machine.state ∧
      (machine.noteIdentity message).currentRetries = machine.currentRetries ∧
      (machine.noteIdentity message).currentTimeout = machine.currentTimeout ∧
      (machine.noteIdentity message).authenticationMac = machine.authenticationMac := by
  unfold AuthStateMachine.noteIdentity
  split
  · split <;> exact ⟨rfl, rfl, rfl, rfl, rfl⟩
  · exact ⟨rfl, rfl, rfl, rfl, rfl⟩

theorem receivedEapRequest_concerns {machine : AuthStateMachine}
    (before : auth.stateMachines.get? machine.srcMac = some machine)
    (ported : machine.authenticationMac ≠ none) (message : EapMessage) :
    (machine.receivedEapRequest setup now message).Holds auth
      fun _ reached => Concerns Rearms Grounds machine.srcMac auth reached := by
  obtain ⟨keyed, state, retries, timeout, authMac⟩ := noteIdentity_annotates machine message
  obtain ⟨port, portEq⟩ := Option.ne_none_iff_exists'.mp ported
  unfold AuthStateMachine.receivedEapRequest Authenticator.store
  simp only [holds_bind, then_ok, holds_modify, holds_ofExcept,
    AuthStateMachine.stateTransition]
  by_cases expected : (machine.noteIdentity message).state = .supplicant
  · simp only [expected, if_true, then_ok, holds_bind, holds_modify, holds_ofExcept, authMac,
      portEq, portIdToInt, Dict.insert_insert]
    refine Concerns.holds_within (concerns_insert rfl rfl ?_) (sendRadiusPacket_within _)
    intro present unjudged
    refine .moved machine _ before present keyed (portEq ▸ rfl) ?_ (.inr rfl) rfl unjudged
    rw [← state, expected]
    simp [AuthStateMachine.await]
  · simp only [expected, if_false, then_error]
    refine concerns_insert rfl rfl ?_
    exact fun present unjudged =>
      .annotated machine _ before present keyed authMac state retries timeout unjudged

/-- The verdict that a response of some type stands for. -/
def Answers (packetType : PacketType) (machine : AuthStateMachine) (verdict : Bool) : Prop :=
  machine.state = .radius ∧
    (verdict = true ∧ packetType = .accessAccept ∨ verdict = false ∧ packetType = .accessReject)

/-- A verdict and the message that tells the supplicant about it. -/
theorem conclude_concerns {machine stored : AuthStateMachine} {verdict : Bool}
    {current : Authenticator}
    (before : auth.stateMachines.get? machine.srcMac = some machine)
    (grounds : Grounds machine verdict)
    (machines : current.stateMachines = auth.stateMachines.insert machine.srcMac stored)
    (results : current.results = auth.results) (message : Option EapMessage) :
    (Authenticator.processTestResult (some machine.srcMac) verdict).Holds current
      (Then (fun _ => Authenticator.sendEapResponse machine.srcMac message)
        fun _ reached => Concerns Rearms Grounds machine.srcMac auth reached) := by
  have present : (current.stateMachines.get? machine.srcMac).isSome = true := by
    simp [machines]
  have others : ∀ other, other ≠ machine.srcMac →
      current.stateMachines.get? other = auth.stateMachines.get? other := by
    intro other different
    rw [machines, Dict.get?_insert_of_ne _ _ different]
  have judged : (Authenticator.processTestResult (some machine.srcMac) verdict).Holds current
      fun _ reached => Concerns Rearms Grounds machine.srcMac auth reached :=
    processTestResult_concerns before grounds present others results
  rw [← holds_bind]
  exact judged.bind (fun _ _ concerns => concerns) fun _ _ concerns =>
    concerns.holds_within (sendEapResponse_within _ _)

theorem receivedRadiusResponse_concerns {machine : AuthStateMachine}
    (before : auth.stateMachines.get? machine.srcMac = some machine)
    (payload : Option EapMessage) (radiusState : Option Bytes) (packetType : PacketType) :
    (machine.receivedRadiusResponse setup now payload radiusState packetType).Holds auth
      fun _ reached => Concerns Rearms (Answers packetType) machine.srcMac auth reached := by
  unfold AuthStateMachine.receivedRadiusResponse Authenticator.store
  simp only [holds_bind, then_ok, holds_modify, AuthStateMachine.stateTransition]
  by_cases expected : machine.state = .radius
  · cases packetType with
    | accessReject =>
        simp only [expected, if_true, holds_bind, holds_ofExcept, then_ok, holds_modify,
          Dict.insert_insert]
        have grounds : Answers .accessReject machine false := ⟨expected, .inr ⟨rfl, rfl⟩⟩
        apply conclude_concerns before grounds
        · rfl
        · rfl
    | accessAccept =>
        simp only [expected, if_true, holds_bind, holds_ofExcept, then_ok, holds_modify,
          Dict.insert_insert]
        have grounds : Answers .accessAccept machine true := ⟨expected, .inl ⟨rfl, rfl⟩⟩
        apply conclude_concerns before grounds
        · rfl
        · rfl
    | accessRequest | accessChallenge =>
        simp only [expected, if_true, holds_bind, holds_ofExcept, then_ok, holds_modify,
          Dict.insert_insert]
        refine Concerns.holds_within (concerns_insert rfl rfl ?_) (sendEapResponse_within _ _)
        intro present unjudged
        exact .moved machine _ before present rfl rfl (by simp [AuthStateMachine.await, expected])
          (.inl rfl) rfl unjudged
  · -- The new state of the RADIUS conversation stays although the handler raises.
    cases packetType <;>
      simp only [expected, if_false, holds_bind, holds_ofExcept, then_error] <;>
      exact concerns_insert rfl rfl fun present unjudged =>
        .annotated machine _ before present rfl rfl rfl rfl rfl unjudged

/-- A machine whose time is up is armed again. -/
def RearmsAt (machine revised : AuthStateMachine) : Prop :=
  machine.Expired now ∧ machine.currentRetries < setup.retryCount ∧
    revised = { machine with
      currentRetries := machine.currentRetries + 1
      currentTimeout := some (now + setup.idleTime) }

/-- A machine whose time is up has no retries left. -/
def GivesUpAt (machine : AuthStateMachine) (verdict : Bool) : Prop :=
  verdict = false ∧ machine.Expired now ∧ setup.retryCount ≤ machine.currentRetries

theorem handleTimer_concerns {machine : AuthStateMachine}
    (before : auth.stateMachines.get? machine.srcMac = some machine) :
    (machine.handleTimer setup now).Holds auth fun _ reached =>
      Concerns (RearmsAt setup now) (GivesUpAt setup now) machine.srcMac auth reached := by
  unfold AuthStateMachine.handleTimer
  rw [holds_when]
  refine ⟨fun expired => ?_, fun _ => Concerns.refl⟩
  rw [holds_ite]
  constructor
  · intro more
    unfold Authenticator.store
    simp only [holds_bind, holds_modify, then_ok]
    refine Concerns.holds_within (concerns_insert rfl rfl ?_) (runRetry_within machine)
    exact fun present unjudged =>
      .retried machine _ before present ⟨expired, more, rfl⟩ unjudged
  · intro exhausted
    unfold AuthStateMachine.handleTimeout Authenticator.store
    simp only [holds_bind, holds_modify, then_ok]
    have grounds : GivesUpAt setup now machine false :=
      ⟨rfl, expired, Nat.le_of_not_lt exhausted⟩
    apply conclude_concerns before grounds
    · rfl
    · rfl

/-- Every machine is filed under its own address and knows the port it serves. -/
structure Filed (auth : Authenticator) : Prop where
  keyed : ∀ {srcMac machine}, auth.stateMachines.get? srcMac = some machine →
    machine.srcMac = srcMac
  ported : ∀ {srcMac machine}, auth.stateMachines.get? srcMac = some machine →
    machine.authenticationMac ≠ none

/-- Each machine is visited once, so it is visited as it was before the loop. -/
theorem sweep_evolves (filed : Filed auth) (size : Nat) :
    ∀ (addresses : List Address) (current : Authenticator), addresses.Nodup →
      (∀ srcMac ∈ addresses,
        current.stateMachines.get? srcMac = auth.stateMachines.get? srcMac ∧
          current.results.get? srcMac = auth.results.get? srcMac) →
      (∀ srcMac, Evolves (RearmsAt setup now) (GivesUpAt setup now) auth current srcMac) →
      (Authenticator.sweep setup now size addresses).Holds current fun _ reached =>
        ∀ srcMac, Evolves (RearmsAt setup now) (GivesUpAt setup now) auth reached srcMac
  | [], current, _, _, evolved => by
      unfold Authenticator.sweep
      simp only [holds_bind, holds_read, then_ok, holds_require]
      exact ⟨fun _ => evolved, fun _ => evolved⟩
  | srcMac :: rest, current, distinct, ahead, evolved => by
      obtain ⟨unseen, distinctRest⟩ := List.nodup_cons.mp distinct
      obtain ⟨sameMachine, sameResult⟩ := ahead srcMac List.mem_cons_self
      unfold Authenticator.sweep
      simp only [holds_bind, holds_read, then_ok, holds_require]
      refine ⟨fun _ => ?_, fun _ => evolved⟩
      rw [holds_whenSome]
      constructor
      · intro _
        exact sweep_evolves filed size rest current distinctRest
          (fun other member => ahead other (List.mem_cons_of_mem _ member)) evolved
      · intro machine found
        have keyed : machine.srcMac = srcMac := filed.keyed (sameMachine ▸ found)
        have visited := @handleTimer_concerns current setup now machine (keyed ▸ found)
        rw [keyed] at visited
        refine visited.mono ?_
        intro outcome reached concerns
        have after : ∀ other,
            Evolves (RearmsAt setup now) (GivesUpAt setup now) auth reached other := by
          intro other
          by_cases same : other = srcMac
          · subst same
            exact concerns.evolves.congr sameMachine.symm sameResult.symm rfl rfl
          · exact (evolved other).congr rfl rfl (concerns.machines other same)
              (concerns.results other same)
        cases outcome with
        | error raised => exact after
        | ok _ =>
            refine sweep_evolves filed size rest reached distinctRest ?_ after
            intro other member
            have different : other ≠ srcMac := fun same => unseen (same ▸ member)
            rw [concerns.machines other different, concerns.results other different]
            exact ahead other (List.mem_cons_of_mem _ member)

theorem handleSmTimeout_evolves (filed : Filed auth) :
    (Authenticator.handleSmTimeout setup now).Holds auth fun _ reached =>
      ∀ srcMac, Evolves (RearmsAt setup now) (GivesUpAt setup now) auth reached srcMac := by
  unfold Authenticator.handleSmTimeout
  rw [holds_bind, holds_get, then_ok, holds_ite]
  constructor
  · intro _
    rw [holds_when]
    refine ⟨fun _ => ?_, fun _ _ => .unaffected rfl rfl⟩
    unfold Authenticator.processTestResult
    simp only [whenSome, holds_bind, holds_pure, then_ok]
    refine ((keepsLedger endAuthentication_within).holds auth).mono fun _ _ same srcMac => ?_
    exact .unaffected (congrArg (fun pair => pair.1.get? srcMac) same)
      (congrArg (fun pair => pair.2.get? srcMac) same)
  · intro _
    exact sweep_evolves setup now filed _ _ auth auth.stateMachines.nodup
      (fun _ _ => ⟨rfl, rfl⟩) fun _ => .unaffected rfl rfl

theorem machineOf_holds {srcMac : Address} {post : Except Raised AuthStateMachine →
    Authenticator → Prop}
    (found : ∀ machine, auth.stateMachines.get? srcMac = some machine → post (.ok machine) auth)
    (missing : auth.stateMachines.get? srcMac = none → post (.error .keyError) auth) :
    (Authenticator.machineOf srcMac).Holds auth post := by
  unfold Authenticator.machineOf
  rw [holds_bind, holds_read, then_ok]
  cases lookup : auth.stateMachines.get? srcMac with
  | none => exact missing lookup
  | some machine => exact found machine lookup

theorem receivedResponse_concerns (filed : Filed auth) (srcMac : Address)
    (attributes : Authenticator.RadiusPacketAttributes) (packetType : PacketType) :
    (Authenticator.receivedRadiusResponse setup now srcMac attributes packetType).Holds auth
      fun _ reached => Concerns Rearms (Answers packetType) srcMac auth reached := by
  unfold Authenticator.receivedRadiusResponse
  rw [holds_bind]
  apply machineOf_holds
  · intro machine found
    have keyed := filed.keyed found
    subst keyed
    exact receivedRadiusResponse_concerns setup now found attributes.eapMessage
      attributes.state packetType
  · exact fun _ => Concerns.refl

theorem receivedRequest_concerns (filed : Filed auth) (srcMac : Address)
    (message : EapMessage) {isEapol : Bool}
    (ported : isEapol = true → auth.authenticatorMac ≠ none) :
    (Authenticator.receivedEapRequest setup now srcMac message isEapol).Holds auth
      fun _ reached => Concerns Rearms Grounds srcMac auth reached := by
  unfold Authenticator.receivedEapRequest
  cases isEapol with
  | true =>
      simp only [if_true, holds_bind, holds_get, then_ok, holds_when]
      refine ⟨fun new => ?_, fun _ => Concerns.refl⟩
      exact startMachine_concerns setup now new.1 new.2 (ported rfl)
  | false =>
      simp only [Bool.false_eq_true, if_false, holds_bind]
      apply machineOf_holds
      · intro machine found
        have keyed := filed.keyed found
        subst keyed
        exact receivedEapRequest_concerns setup now found (filed.ported found) message
      · exact fun _ => Concerns.refl

theorem Evolves.mono {WiderRearms : AuthStateMachine → AuthStateMachine → Prop}
    {WiderGrounds : AuthStateMachine → Bool → Prop} {srcMac : Address}
    (evolves : Evolves Rearms Grounds auth reached srcMac)
    (rearm : ∀ machine revised, Rearms machine revised → WiderRearms machine revised)
    (ground : ∀ machine verdict, Grounds machine verdict → WiderGrounds machine verdict) :
    Evolves WiderRearms WiderGrounds auth reached srcMac := by
  cases evolves with
  | unaffected kept unjudged => exact .unaffected kept unjudged
  | started machine absent fresh present keyed ported state retries unjudged =>
      exact .started machine absent fresh present keyed ported state retries unjudged
  | annotated machine revised before after keyed ported state retries timeout unjudged =>
      exact .annotated machine revised before after keyed ported state retries timeout unjudged
  | moved machine revised before after keyed ported change state retries unjudged =>
      exact .moved machine revised before after keyed ported change state retries unjudged
  | retried machine revised before after rearms unjudged =>
      exact .retried machine revised before after (rearm _ _ rearms) unjudged
  | judged machine verdict before gone recorded grounds =>
      exact .judged machine verdict before gone recorded (ground _ _ grounds)

theorem Concerns.everywhere {srcMac : Address}
    (concerns : Concerns Rearms Grounds srcMac auth reached)
    (WiderGrounds : Address → AuthStateMachine → Bool → Prop)
    (ground : ∀ machine verdict, Grounds machine verdict → WiderGrounds srcMac machine verdict)
    (other : Address) : Evolves Rearms (WiderGrounds other) auth reached other := by
  by_cases same : other = srcMac
  · subst same
    exact concerns.evolves.mono (fun _ _ rearms => rearms) ground
  · exact .unaffected (concerns.machines other same) (concerns.results other same)

theorem evolves_of_ledger_eq (same : ledger reached = ledger auth) (srcMac : Address) :
    Evolves Rearms Grounds auth reached srcMac :=
  .unaffected (congrArg (fun pair => pair.1.get? srcMac) same)
    (congrArg (fun pair => pair.2.get? srcMac) same)

/-- What the verdict on an address may rest on in one event. -/
def EventGrounds (auth : Authenticator) (srcMac : Address) (machine : AuthStateMachine)
    (verdict : Bool) : Event → Prop
  | .datagram packedMessage _ =>
      ∃ callback,
        RadiusModule.decodeCallback setup auth (Authenticator.received packedMessage) =
            .ok (some callback) ∧
          callback.srcMac = srcMac ∧ Answers callback.packetType machine verdict
  | .tick now => GivesUpAt setup now machine verdict
  | .frame _ _ | .send _ => False

/-- Only the timer arms a machine again. -/
def EventRearms (machine revised : AuthStateMachine) : Event → Prop
  | .tick now => RearmsAt setup now machine revised
  | .frame _ _ | .datagram _ _ | .send _ => False

theorem receiveEapMessage_evolves (filed : Filed auth) (packedMessage : Bytes) :
    (EapModule.receiveEapMessage setup now packedMessage).Holds auth fun _ reached =>
      ∀ srcMac, Evolves Rearms Grounds auth reached srcMac := by
  unfold EapModule.receiveEapMessage
  rw [holds_when]
  refine ⟨fun _ => ?_, fun _ _ => .unaffected rfl rfl⟩
  split
  · exact fun _ => .unaffected rfl rfl
  · exact fun _ => .unaffected rfl rfl
  · rename_i message _ _
    rw [holds_bind, holds_when]
    constructor
    · intro isStart
      rw [holds_modify, then_ok, holds_whenSome]
      refine ⟨fun _ _ => .unaffected rfl rfl, fun srcMac _ => ?_⟩
      have filedStill : Filed { auth with authenticatorMac := some setup.eapAddress } :=
        ⟨filed.keyed, filed.ported⟩
      have requested := @receivedRequest_concerns Rearms Grounds _ setup now filedStill srcMac
        message (EapModule.isEapolStart message) fun _ => Option.some_ne_none _
      refine requested.mono fun _ _ concerns other => ?_
      have evolves := concerns.everywhere (fun _ => Grounds) (fun _ _ grounds => grounds) other
      exact evolves.congr rfl rfl rfl rfl
    · intro notStart
      rw [then_ok, holds_whenSome]
      refine ⟨fun _ _ => .unaffected rfl rfl, fun srcMac _ => ?_⟩
      have requested := @receivedRequest_concerns Rearms Grounds _ setup now filed srcMac
        message (EapModule.isEapolStart message) fun isStart => absurd isStart notStart
      refine requested.mono fun _ _ concerns other => ?_
      exact concerns.everywhere (fun _ => Grounds) (fun _ _ grounds => grounds) other

theorem receiveRadiusMessage_evolves (filed : Filed auth) (packedMessage : Bytes) :
    (RadiusModule.receiveRadiusMessage setup now
      (Authenticator.received packedMessage)).Holds auth fun _ reached =>
        ∀ srcMac, Evolves Rearms
          (fun machine verdict =>
            EventGrounds setup auth srcMac machine verdict (.datagram packedMessage now))
          auth reached srcMac := by
  unfold RadiusModule.receiveRadiusMessage
  rw [holds_bind, holds_get, then_ok, holds_bind, holds_ofExcept]
  cases decoded : RadiusModule.decodeCallback setup auth
      (Authenticator.received packedMessage) with
  | error raised => exact fun _ => .unaffected rfl rfl
  | ok callback =>
      rw [then_ok, holds_whenSome]
      refine ⟨fun _ _ => .unaffected rfl rfl, ?_⟩
      rintro delivered rfl
      have responded := @receivedResponse_concerns Rearms _ setup now filed delivered.srcMac
        delivered.attributes delivered.packetType
      refine responded.mono fun _ _ concerns => ?_
      exact concerns.everywhere _ fun _ _ answers => ⟨delivered, decoded, rfl, answers⟩

/-- One event, seen from one address. -/
theorem step_evolves (filed : Filed auth) (event : Event) (srcMac : Address) :
    Evolves (fun machine revised => EventRearms setup machine revised event)
      (fun machine verdict => EventGrounds setup auth srcMac machine verdict event)
      auth (Authenticator.step setup event auth) srcMac := by
  cases event with
  | frame packedMessage now =>
      rw [Authenticator.step, Authenticator.takeFrame]
      by_cases serving : auth.eapReceiver = .serving
      · rw [if_pos serving]
        exact (receiveEapMessage_evolves setup now filed _ srcMac).congr rfl rfl rfl rfl
      · rw [if_neg serving]
        exact .unaffected rfl rfl
  | datagram packedMessage now =>
      rw [Authenticator.step, Authenticator.takeDatagram]
      by_cases serving : auth.radiusReceiver = .serving
      · rw [if_pos serving]
        exact (receiveRadiusMessage_evolves setup now filed packedMessage srcMac).congr
          rfl rfl rfl rfl
      · rw [if_neg serving]
        exact .unaffected rfl rfl
  | tick now =>
      rw [Authenticator.step, Authenticator.takeTick]
      by_cases running : auth.timerRunning = true
      · rw [if_pos running]
        exact handleSmTimeout_evolves setup now filed srcMac
      · rw [if_neg running]
        exact .unaffected rfl rfl
  | send requestAuthenticator =>
      rw [Authenticator.step, Authenticator.takePacket]
      cases auth.radiusQueue with
      | nil => exact .unaffected rfl rfl
      | cons outbound rest =>
          dsimp only
          by_cases serving : auth.radiusSender = .serving
          · rw [if_pos serving]
            have same := sendRadiusMessage_within setup requestAuthenticator.1 outbound
              { auth with radiusQueue := rest }
            exact (evolves_of_ledger_eq same srcMac).congr rfl rfl rfl rfl
          · rw [if_neg serving]
            exact .unaffected rfl rfl

end Daq.Dot1x
