import Daq.Dot1x.Survival
import Daq.Dot1x.Verdict

namespace Daq.Dot1x

open Exec Fallible

/-! A supplicant that stays silent: how often it is asked again, and when the
authenticator gives it up. -/

/-- A machine that waits for an answer: its retry can be sent, and it has a deadline. -/
structure Answerable (machine : AuthStateMachine) : Prop where
  relayable : ∀ message, machine.retry = .eapSend (some message) → Relayable message
  timed : machine.currentTimeout ≠ none

def Answering (auth : Authenticator) : Prop :=
  ∀ srcMac machine, auth.stateMachines.get? srcMac = some machine → Answerable machine

/-- What every handler observes: retries stay answerable, and a timer that has
been stopped is not started again. -/
def watchFrame : Frame Authenticator where
  rel auth reached :=
    (Answering auth → Answering reached) ∧
      (reached.timerRunning = true → auth.timerRunning = true)
  refl _ := ⟨id, id⟩
  trans former latter := ⟨latter.1 ∘ former.1, former.2 ∘ latter.2⟩

variable {setup : Setup} {begun now : Nat} {auth reached : Authenticator} {srcMac : Address}
  {machine : AuthStateMachine}

theorem Answerable.stateTransition (answerable : Answerable machine) {moved : AuthStateMachine}
    {target expected : AuthState} (done : machine.stateTransition target expected = .ok moved) :
    Answerable moved := by
  unfold AuthStateMachine.stateTransition at done
  split at done <;> cases done
  exact ⟨answerable.relayable, answerable.timed⟩

theorem Answerable.noteIdentity (answerable : Answerable machine) (message : EapMessage) :
    Answerable (machine.noteIdentity message) := by
  unfold AuthStateMachine.noteIdentity
  split
  · split
    · exact ⟨answerable.relayable, answerable.timed⟩
    · exact answerable
  · exact answerable

theorem Answerable.await_eap {machine : AuthStateMachine} {timeout : Nat}
    {payload : Option EapMessage}
    (relayable : ∀ message, payload = some message → Relayable message) :
    Answerable (machine.await timeout (.eapSend payload)) := by
  refine ⟨fun message same => ?_, Option.some_ne_none _⟩
  cases same
  exact relayable message rfl

theorem Answerable.await_radius {machine : AuthStateMachine} {timeout : Nat}
    {info : RadiusPacketInfo} : Answerable (machine.await timeout (.radiusSend info)) := by
  refine ⟨fun message same => ?_, Option.some_ne_none _⟩
  cases same

theorem initialized_answerable (authMac : Option Address) (timeout : Nat) :
    Answerable (AuthStateMachine.initialized srcMac authMac timeout) := by
  refine ⟨fun message same => ?_, Option.some_ne_none _⟩
  cases same

namespace Watch

theorem sendEapResponse_within (message : Option EapMessage) :
    (Authenticator.sendEapResponse srcMac message).Within watchFrame := by
  have sent : ∀ data, (EapModule.sendEapMessage srcMac data).Within watchFrame :=
    fun data => within_bind (within_read _) fun _ => within_bind (within_ofExcept _) fun _ =>
      within_modify fun _ => ⟨id, id⟩
  cases message with
  | none => exact sent _
  | some data => exact sent data

theorem sendRadiusPacket_within (info : RadiusPacketInfo) :
    (RadiusModule.sendRadiusPacket info).Within watchFrame :=
  within_modify fun _ => ⟨id, id⟩

theorem runRetry_within (machine : AuthStateMachine) : machine.runRetry.Within watchFrame := by
  unfold AuthStateMachine.runRetry
  cases machine.retry with
  | eapSend message => exact sendEapResponse_within message
  | radiusSend info => exact sendRadiusPacket_within info

theorem endAuthentication_within : Authenticator.endAuthentication.Within watchFrame := by
  unfold Authenticator.endAuthentication RadiusModule.shutDownModule EapModule.shutDownModule
  apply within_bind
  · apply within_modify
    intro auth
    exact ⟨id, fun running => absurd running Bool.false_ne_true⟩
  · intro _
    refine within_bind ?_ fun _ => within_modify fun _ => ⟨id, id⟩
    exact within_bind (within_modify fun _ => ⟨id, id⟩) fun _ => within_bind (within_read _)
      fun _ => within_bind (within_require _) fun _ => within_modify fun _ => ⟨id, id⟩

theorem store_within (answerable : Answerable machine) :
    (Authenticator.store srcMac machine).Within watchFrame := by
  apply within_modify
  intro auth
  refine ⟨fun answering other found present => ?_, id⟩
  rw [Dict.get?_insert] at present
  split at present
  · cases present
    exact answerable
  · exact answering other found present

theorem processTestResult_within (srcMac : Option Address) (isSuccess : Bool) :
    (Authenticator.processTestResult srcMac isSuccess).Within watchFrame := by
  unfold Authenticator.processTestResult Authenticator.recordResult
  apply within_bind
  · apply within_whenSome
    intro present
    refine within_bind (within_modify fun _ => ⟨id, id⟩) fun _ =>
      within_bind (within_read _) fun _ => within_bind (within_require _) fun _ =>
        within_modify fun auth => ⟨fun answering other found stored => ?_, id⟩
    rw [Dict.get?_erase] at stored
    split at stored
    · cases stored
    · exact answering other found stored
  · intro _
    exact endAuthentication_within

/-- What is stored of a machine that gets its verdict does not last. -/
theorem conclude_within (machine : AuthStateMachine) (isSuccess : Bool) :
    (do
      Authenticator.store srcMac machine
      Authenticator.processTestResult (some srcMac) isSuccess : Handler Unit).Within
        watchFrame := by
  apply within_of_holds
  intro auth
  unfold Authenticator.store Authenticator.processTestResult Authenticator.recordResult
  simp only [holds_bind, holds_modify, then_ok, whenSome, holds_read, holds_require,
    Dict.get?_insert_self, Option.isSome_some, true_implies, not_true_eq_false, false_implies,
    and_true]
  refine (endAuthentication_within.holds _).mono fun _ reached kept => ?_
  apply watchFrame.trans _ kept
  refine ⟨fun answering other found stored => ?_, id⟩
  rw [Dict.get?_erase] at stored
  split at stored
  · cases stored
  · rename_i different
    rw [Dict.get?_insert_of_ne _ _ different] at stored
    exact answering other found stored

variable (setup now)

theorem startMachine_within :
    (Authenticator.startMachine setup now srcMac).Within watchFrame := by
  unfold Authenticator.startMachine AuthStateMachine.receivedEapolStart
  refine within_bind (within_read _) fun authMac =>
    within_bind (store_within (initialized_answerable _ _)) fun _ =>
      within_bind (within_ofExcept _) fun moved => within_bind (store_within ?_) fun _ =>
        sendEapResponse_within _
  apply Answerable.await_eap
  intro message wrong
  cases wrong

theorem receivedEapRequest_within (answerable : Answerable machine) (message : EapMessage) :
    (machine.receivedEapRequest setup now message).Within watchFrame := by
  have named := answerable.noteIdentity message
  unfold AuthStateMachine.receivedEapRequest
  exact within_bind (store_within named) fun _ => within_ofExcept_bind fun _ done =>
    within_bind (store_within (named.stateTransition done)) fun _ =>
      within_bind (within_ofExcept _) fun _ =>
        within_bind (store_within Answerable.await_radius) fun _ => sendRadiusPacket_within _

theorem receivedRadiusResponse_within (answerable : Answerable machine)
    {payload : Option EapMessage}
    (relayable : ∀ message, payload = some message → Relayable message)
    (radiusState : Option Bytes) (packetType : PacketType) :
    (machine.receivedRadiusResponse setup now payload radiusState packetType).Within
      watchFrame := by
  have told : Answerable { machine with radiusState } :=
    ⟨answerable.relayable, answerable.timed⟩
  unfold AuthStateMachine.receivedRadiusResponse
  apply within_bind (store_within told)
  intro _
  cases packetType with
  | accessReject | accessAccept =>
      exact within_ofExcept_bind fun _ done =>
        within_bind (store_within (told.stateTransition done)) fun _ =>
          within_bind (processTestResult_within _ _) fun _ => sendEapResponse_within _
  | accessRequest | accessChallenge =>
      exact within_bind (within_ofExcept _) fun _ =>
        within_bind (store_within (Answerable.await_eap relayable)) fun _ =>
          sendEapResponse_within _

theorem handleTimer_within (answerable : Answerable machine) :
    (machine.handleTimer setup now).Within watchFrame := by
  unfold AuthStateMachine.handleTimer AuthStateMachine.handleTimeout
  refine within_when (within_ite ?_ ?_)
  · exact within_bind (store_within ⟨answerable.relayable, Option.some_ne_none _⟩) fun _ =>
      runRetry_within machine
  · rw [← bind_assoc]
    exact within_bind (conclude_within _ _) fun _ => sendEapResponse_within _

theorem sendRadiusMessage_within (nonce : Bytes) (outbound : Option RadiusPacketInfo) :
    (RadiusModule.sendRadiusMessage setup nonce outbound).Within watchFrame := by
  unfold RadiusModule.sendRadiusMessage RadiusModule.encodeRadiusResponse
    RadiusModule.socketSend
  refine within_whenSome _ fun info => within_bind ?_ fun packed => ?_
  · exact within_bind (within_read _) fun _ => within_bind (within_modify fun _ => ⟨id, id⟩)
      fun _ => within_bind (within_ofExcept _) fun _ => within_ofExcept _
  · exact within_bind (within_read _) fun _ => within_bind (within_require _) fun _ =>
      within_modify fun _ => ⟨id, id⟩

end Watch

variable (setup now)

/-- What a tick leaves of the machine of an address: its time is not up, or it is
armed again. -/
def Attended (auth reached : Authenticator) (srcMac : Address) : Prop :=
  ∃ machine revised, auth.stateMachines.get? srcMac = some machine ∧
    reached.stateMachines.get? srcMac = some revised ∧
    (¬ machine.Expired now ∧ revised = machine ∨ RearmsAt setup now machine revised)

theorem runRetry_returns (port : auth.authenticatorMac ≠ none)
    (answerable : Answerable machine) : Returns machine.runRetry auth := by
  unfold AuthStateMachine.runRetry
  cases retry : machine.retry with
  | eapSend message =>
      apply sendEapResponse_returns _ port
      intro data same
      exact answerable.relayable data (by rw [retry, same])
  | radiusSend info =>
      unfold Returns RadiusModule.sendRadiusPacket
      rw [holds_modify]
      exact ⟨(), rfl⟩

/-- Whatever becomes of the sockets, a verdict stops the timer. -/
theorem processTestResult_stops {isSuccess : Bool}
    (present : (auth.stateMachines.get? srcMac).isSome = true) :
    (Authenticator.processTestResult (some srcMac) isSuccess).Holds auth fun _ reached =>
      reached.timerRunning = false := by
  unfold Authenticator.processTestResult Authenticator.recordResult
    Authenticator.endAuthentication RadiusModule.shutDownModule EapModule.shutDownModule
  simp [whenSome, holds_bind, present]

theorem handleTimeout_stops :
    (machine.handleTimeout).Holds auth fun _ reached => reached.timerRunning = false := by
  unfold AuthStateMachine.handleTimeout Authenticator.store
  rw [holds_bind, holds_modify, then_ok]
  refine Holds.bind (processTestResult_stops (by simp)) (fun _ _ stopped => stopped) ?_
  intro _ current stopped
  refine ((Watch.sendEapResponse_within _).holds current).mono fun _ later watched => ?_
  exact Bool.eq_false_iff.mpr fun running => by simp [watched.2 running] at stopped

/-- The authenticator once a machine has been armed again. -/
def extended (machine : AuthStateMachine) (auth : Authenticator) : Authenticator :=
  { auth with
    stateMachines := auth.stateMachines.insert machine.srcMac
      { machine with
        currentRetries := machine.currentRetries + 1
        currentTimeout := some (now + setup.idleTime) } }

/-- A machine that is visited has its time extended, or the timer is stopped. -/
theorem handleTimer_attends (port : auth.authenticatorMac ≠ none)
    (answerable : Answerable machine)
    (present : auth.stateMachines.get? machine.srcMac = some machine) :
    (machine.handleTimer setup now).Holds auth fun outcome reached =>
      reached.timerRunning = false ∨
        outcome = .ok () ∧ reached.stateMachines.size = auth.stateMachines.size ∧
          Attended setup now auth reached machine.srcMac := by
  unfold AuthStateMachine.handleTimer
  rw [holds_when]
  refine ⟨fun expired => ?_, fun waiting =>
    .inr ⟨rfl, rfl, machine, machine, present, present, .inl ⟨waiting, rfl⟩⟩⟩
  rw [holds_ite]
  constructor
  · intro more
    unfold Authenticator.store
    rw [holds_bind, holds_modify, then_ok]
    have returns : Returns machine.runRetry (extended setup now machine auth) :=
      runRetry_returns port answerable
    refine (returns.and ((runRetry_within machine).holds _)).mono ?_
    rintro outcome reached ⟨⟨_, rfl⟩, same, _⟩
    have machines : reached.stateMachines = auth.stateMachines.insert machine.srcMac _ :=
      congrArg Prod.fst same
    have stored := Dict.get?_insert_self auth.stateMachines machine.srcMac
      { machine with
        currentRetries := machine.currentRetries + 1
        currentTimeout := some (now + setup.idleTime) }
    refine .inr ⟨rfl, ?_, machine, _, present, machines ▸ stored, .inr ⟨expired, more, rfl⟩⟩
    rw [machines, Dict.size_insert_of_present _ (Dict.mem_keys_iff.mpr ⟨machine, present⟩)]
  · intro _
    exact handleTimeout_stops.mono fun _ _ stopped => .inl stopped

theorem sweep_watched (size : Nat) (addresses : List Address) (answering : Answering auth) :
    (Authenticator.sweep setup now size addresses).Holds auth fun _ reached =>
      watchFrame.rel auth reached := by
  induction addresses generalizing auth with
  | nil =>
      unfold Authenticator.sweep
      simp only [holds_bind, holds_read, then_ok, holds_require]
      exact ⟨fun _ => watchFrame.refl auth, fun _ => watchFrame.refl auth⟩
  | cons srcMac rest later =>
      unfold Authenticator.sweep
      simp only [holds_bind, holds_read, then_ok, holds_require]
      refine ⟨fun _ => ?_, fun _ => watchFrame.refl auth⟩
      rw [holds_whenSome]
      refine ⟨fun _ => later answering, fun machine found => ?_⟩
      have visited := Watch.handleTimer_within setup now (answering srcMac machine found)
      rw [← holds_bind]
      refine Holds.bind (visited.holds auth) (fun _ _ watched => watched) ?_
      intro _ current watched
      exact (later (watched.1 answering)).mono fun _ _ after => watchFrame.trans watched after

/-- Unless the timer is stopped on the way, the loop attends to every machine. -/
theorem sweep_attends (addresses : List Address) (distinct : addresses.Nodup) (armed : Armed auth)
    (answering : Answering auth)
    (keyed : ∀ srcMac ∈ addresses, ∀ machine,
      auth.stateMachines.get? srcMac = some machine → machine.srcMac = srcMac) :
    (Authenticator.sweep setup now auth.stateMachines.size addresses).Holds auth fun _ reached =>
      reached.timerRunning = true →
        (∀ srcMac ∈ addresses, auth.stateMachines.get? srcMac ≠ none →
          Attended setup now auth reached srcMac) ∧
        ∀ other, other ∉ addresses →
          reached.stateMachines.get? other = auth.stateMachines.get? other := by
  induction addresses generalizing auth with
  | nil =>
      unfold Authenticator.sweep
      simp only [holds_bind, holds_read, then_ok, holds_require]
      simp
  | cons srcMac rest later =>
      obtain ⟨unseen, distinctRest⟩ := List.nodup_cons.mp distinct
      unfold Authenticator.sweep
      simp only [holds_bind, holds_read, then_ok, holds_require]
      refine ⟨fun _ => ?_, fun wrong => absurd trivial wrong⟩
      rw [holds_whenSome]
      constructor
      · intro absent
        have behind := later distinctRest armed answering fun other member =>
          keyed other (List.mem_cons_of_mem _ member)
        rw [then_ok]
        refine behind.mono fun _ reached attends running => ?_
        obtain ⟨attended, kept⟩ := attends running
        refine ⟨fun other member present => ?_, fun other apart => ?_⟩
        · rcases List.mem_cons.mp member with rfl | inside
          · exact absurd absent present
          · exact attended other inside present
        · exact kept other fun inside => apart (List.mem_cons_of_mem _ inside)
      · intro machine found
        have named := keyed srcMac List.mem_cons_self machine found
        subst named
        have visited := (handleTimer_attends setup now armed.port
            (answering _ machine found) found).and
          (((handleTimer_concerns setup now found).and
            ((Supply.handleTimer_within setup now (armed.machines _ machine found)).holds auth)).and
          ((Watch.handleTimer_within setup now (answering _ machine found)).holds auth))
        rw [← holds_bind]
        refine Holds.bind visited ?_ ?_
        · rintro raised reached ⟨stopped | ⟨wrong, _⟩, _⟩ running
          · simp [stopped] at running
          · cases wrong
        · rintro _ current ⟨progress, ⟨concerns, kept⟩, watched⟩
          rcases progress with stopped | ⟨_, sized, attended⟩
          · refine (sweep_watched setup now _ rest (watched.1 answering)).mono ?_
            intro _ reached after running
            simp [after.2 running] at stopped
          · have aside : ∀ other ∈ rest, other ≠ machine.srcMac :=
              fun other member same => unseen (same ▸ member)
            have behind := later distinctRest (kept armed) (watched.1 answering) (by
              intro other member found present
              rw [concerns.machines other (aside other member)] at present
              exact keyed other (List.mem_cons_of_mem _ member) found present)
            rw [← sized]
            refine behind.mono fun _ reached attends running => ?_
            obtain ⟨ahead, same⟩ := attends running
            refine ⟨fun other member present => ?_, fun other apart => ?_⟩
            · rcases List.mem_cons.mp member with rfl | inside
              · obtain ⟨earlier, revised, before, stored, visit⟩ := attended
                exact ⟨earlier, revised, before, (same _ unseen).trans stored, visit⟩
              · have unmoved := concerns.machines other (aside other inside)
                obtain ⟨earlier, revised, before, stored, visit⟩ :=
                  ahead other inside (unmoved ▸ present)
                exact ⟨earlier, revised, unmoved.symm.trans before, stored, visit⟩
            · rw [List.mem_cons, not_or] at apart
              rw [same other apart.2, concerns.machines other apart.1]

theorem handleSmTimeout_attends (supplied : Supplied auth) (answering : Answering auth)
    (filed : Filed auth) :
    (Authenticator.handleSmTimeout setup now).Holds auth fun _ reached =>
      watchFrame.rel auth reached ∧ (reached.timerRunning = true → ∀ srcMac,
        auth.stateMachines.get? srcMac ≠ none → Attended setup now auth reached srcMac) := by
  unfold Authenticator.handleSmTimeout
  rw [holds_bind, holds_get, then_ok, holds_ite]
  constructor
  · intro empty
    have absent := Dict.size_eq_zero_iff.mp empty
    have watched : (Exec.when (auth.currentTimeout < now)
        (Authenticator.processTestResult none false)).Within watchFrame :=
      within_when (Watch.processTestResult_within _ _)
    refine (watched.holds auth).mono fun _ _ kept => ⟨kept, fun _ srcMac present => ?_⟩
    exact absurd (absent srcMac) present
  · intro nonempty
    obtain ⟨occupied, found⟩ : ∃ srcMac, auth.stateMachines.get? srcMac ≠ none := by
      by_contra none
      simp only [ne_eq, not_exists, not_not] at none
      exact nonempty (Dict.size_eq_zero_iff.mpr none)
    obtain ⟨machine, stored⟩ := Option.ne_none_iff_exists'.mp found
    have attends := sweep_attends setup now auth.stateMachines.keys auth.stateMachines.nodup
      (supplied.armed stored) answering fun srcMac _ machine present => filed.keyed present
    refine ((sweep_watched setup now _ _ answering).and attends).mono ?_
    rintro _ reached ⟨watched, after⟩
    refine ⟨watched, fun running srcMac present => ?_⟩
    obtain ⟨known, there⟩ := Option.ne_none_iff_exists'.mp present
    exact (after running).1 srcMac (Dict.mem_keys_iff.mpr ⟨known, there⟩) present

theorem receiveEapMessage_watched (answering : Answering auth) (packedMessage : Bytes) :
    (EapModule.receiveEapMessage setup now packedMessage).Holds auth
      fun _ reached => watchFrame.rel auth reached := by
  unfold EapModule.receiveEapMessage
  rw [holds_when]
  refine ⟨fun _ => ?_, fun _ => watchFrame.refl auth⟩
  split
  · exact watchFrame.refl auth
  · exact watchFrame.refl auth
  · rename_i message _ _
    rw [holds_bind, holds_when]
    constructor
    · intro isStart
      rw [holds_modify, then_ok, holds_whenSome]
      refine ⟨fun _ => ⟨id, id⟩, fun srcMac _ => ?_⟩
      unfold Authenticator.receivedEapRequest
      simp only [isStart, if_true, holds_bind, holds_get, then_ok]
      rw [holds_when]
      refine ⟨fun _ => ?_, fun _ => ⟨id, id⟩⟩
      exact (Watch.startMachine_within setup now).holds _
    · intro notStart
      rw [then_ok, holds_whenSome]
      refine ⟨fun _ => watchFrame.refl auth, fun srcMac _ => ?_⟩
      unfold Authenticator.receivedEapRequest
      rw [if_neg notStart, holds_bind]
      apply machineOf_holds
      · intro machine found
        exact (Watch.receivedEapRequest_within setup now (answering srcMac machine found)
          message).holds auth
      · exact fun _ => watchFrame.refl auth

theorem receiveRadiusMessage_watched (answering : Answering auth) (packedMessage : Bytes) :
    (RadiusModule.receiveRadiusMessage setup now (Authenticator.received packedMessage)).Holds auth
      fun _ reached => watchFrame.rel auth reached := by
  unfold RadiusModule.receiveRadiusMessage
  rw [holds_bind, holds_get, then_ok, holds_bind, holds_ofExcept]
  cases decoded : RadiusModule.decodeCallback setup auth
      (Authenticator.received packedMessage) with
  | error raised => exact watchFrame.refl auth
  | ok callback =>
      rw [then_ok, holds_whenSome]
      refine ⟨fun _ => watchFrame.refl auth, ?_⟩
      rintro delivered rfl
      unfold Authenticator.receivedRadiusResponse
      rw [holds_bind]
      apply machineOf_holds
      · intro machine found
        exact (Watch.receivedRadiusResponse_within setup now (answering _ machine found)
          (passedOn_fit decoded).2 _ _).holds auth
      · exact fun _ => watchFrame.refl auth

/-- What holds in every state that is reached. -/
structure Tended (auth : Authenticator) : Prop where
  supplied : Supplied auth
  answering : Answering auth
  filed : Filed auth

variable {now}

theorem step_watched (tended : Tended auth) (event : Event) :
    watchFrame.rel auth (Authenticator.step setup event auth) := by
  cases event with
  | frame packedMessage now =>
      rw [Authenticator.step, Authenticator.takeFrame]
      split
      · exact receiveEapMessage_watched setup now tended.answering _
      · exact watchFrame.refl auth
  | datagram packedMessage now =>
      rw [Authenticator.step, Authenticator.takeDatagram]
      split
      · exact receiveRadiusMessage_watched setup now tended.answering packedMessage
      · exact watchFrame.refl auth
  | tick now =>
      rw [Authenticator.step, Authenticator.takeTick]
      split
      · exact ((handleSmTimeout_attends setup now tended.supplied tended.answering
          tended.filed).mono fun _ _ both => both.1)
      · exact watchFrame.refl auth
  | send nonce =>
      rw [Authenticator.step, Authenticator.takePacket]
      split
      · exact watchFrame.refl auth
      · split
        · rename_i outbound rest _ _
          exact (Watch.sendRadiusMessage_within setup nonce.1 outbound).holds
            { auth with radiusQueue := rest }
        · exact watchFrame.refl auth

theorem reached_tended (reached : Reached setup begun auth) : Tended auth := by
  induction reached with
  | start =>
      refine ⟨initial_supplied begun, ?_, initial_consistent.toFiled⟩
      intro srcMac machine present
      cases present
  | step event before _ tended =>
      have consistent := step_consistent before (reached_consistent before) event
      exact ⟨step_supplied tended.supplied event,
        (step_watched setup tended event).1 tended.answering, consistent.toFiled⟩

/-- No frame and no datagram changes the state of the machine of an address. -/
def Unheeded (srcMac : Address) (auth : Authenticator) : Event → Prop
  | .tick _ => True
  | event => (Authenticator.step setup event auth).stateOf srcMac = auth.stateOf srcMac

/-- How many ticks find a deadline passed that each of them puts off. -/
def overdue (idleTime : Nat) : List Event → Nat → Nat
  | [], _ => 0
  | .tick now :: rest, deadline =>
      if deadline < now then overdue idleTime rest (now + idleTime) + 1
      else overdue idleTime rest deadline
  | _ :: rest, deadline => overdue idleTime rest deadline

variable {setup} {event : Event} {events : List Event}

/-- The machine of an address waits on as it did, and there is no new result. -/
structure WaitsOn (auth reached : Authenticator) (srcMac : Address)
    (machine revised : AuthStateMachine) : Prop where
  unjudged : reached.results.get? srcMac = auth.results.get? srcMac
  stored : reached.stateMachines.get? srcMac = some revised
  state : revised.state = machine.state
  retries : revised.currentRetries = machine.currentRetries
  timeout : revised.currentTimeout = machine.currentTimeout

theorem Evolves.waitsOn {Rearms : AuthStateMachine → AuthStateMachine → Prop}
    {Grounds : AuthStateMachine → Bool → Prop}
    (evolves : Evolves Rearms Grounds auth reached srcMac)
    (never : ∀ earlier later, ¬ Rearms earlier later)
    (same : reached.stateOf srcMac = auth.stateOf srcMac)
    (present : auth.stateMachines.get? srcMac = some machine) :
    ∃ revised, WaitsOn auth reached srcMac machine revised := by
  cases evolves with
  | unaffected kept unjudged =>
      exact ⟨machine, unjudged, kept.trans present, rfl, rfl, rfl⟩
  | started other absent => cases absent.symm.trans present
  | annotated other revised before after keyed ported state retries timeout unjudged =>
      cases before.symm.trans present
      exact ⟨revised, unjudged, after, state, retries, timeout⟩
  | moved other revised before after keyed ported change =>
      simp only [Authenticator.stateOf, before, after, Option.map_some, Option.some.injEq] at same
      exact absurd same change
  | retried other revised before after rearms => exact absurd rearms (never other revised)
  | judged other verdict before gone =>
      simp [Authenticator.stateOf, before, gone] at same

/-- An event that the timer does not bring about leaves the machine of a silent
address waiting. -/
theorem step_unheeded (tended : Tended auth) (unheeded : Unheeded setup srcMac auth event)
    (present : auth.stateMachines.get? srcMac = some machine)
    (idle : ∀ now, event = .tick now → auth.timerRunning = false) :
    ∃ revised, WaitsOn auth (Authenticator.step setup event auth) srcMac machine revised := by
  have evolves := step_evolves setup tended.filed event srcMac
  cases event with
  | tick now =>
      have stopped := idle now rfl
      rw [Authenticator.step, Authenticator.takeTick, if_neg (by simp [stopped])]
      exact ⟨machine, rfl, present, rfl, rfl, rfl⟩
  | frame | datagram | send =>
      exact evolves.waitsOn (fun _ _ rearms => rearms) unheeded present

/-- A tick that does not stop the timer leaves a machine alone whose time is not up
and arms any other again. -/
theorem step_ticked (tended : Tended auth) {now : Nat}
    (running : (Authenticator.step setup (.tick now) auth).timerRunning = true)
    (present : auth.stateMachines.get? srcMac = some machine) :
    ∃ revised, (Authenticator.step setup (.tick now) auth).stateMachines.get? srcMac =
        some revised ∧
      (¬ machine.Expired now ∧ revised = machine ∨ RearmsAt setup now machine revised) := by
  rw [Authenticator.step, Authenticator.takeTick] at running ⊢
  split at running
  · rename_i started
    rw [if_pos started]
    have attends := handleSmTimeout_attends setup now tended.supplied tended.answering tended.filed
    obtain ⟨earlier, revised, before, stored, visit⟩ :=
      attends.2 running srcMac (by simp [present])
    cases before.symm.trans present
    exact ⟨revised, stored, visit⟩
  · rename_i stopped
    exact absurd running stopped

/-- Without the timer a silent address gets no result. -/
theorem run_stopped (reached : Reached setup begun auth) (stopped : auth.timerRunning = false)
    (present : auth.stateMachines.get? srcMac = some machine)
    (silent : Reaches.Permitted (Authenticator.step setup) (Unheeded setup srcMac) auth events) :
    (Authenticator.runEvents setup events auth).results.get? srcMac =
      auth.results.get? srcMac := by
  induction events generalizing auth machine with
  | nil => rfl
  | cons event rest later =>
      obtain ⟨unheeded, restSilent⟩ := silent
      have tended := reached_tended setup reached
      obtain ⟨revised, waits⟩ := step_unheeded tended unheeded present fun _ _ => stopped
      have still : (Authenticator.step setup event auth).timerRunning = false :=
        Bool.eq_false_iff.mpr fun running => by
          simp [(step_watched setup tended event).2 running] at stopped
      exact (later (reached.step event trivial) still waits.stored restSilent).trans waits.unjudged

theorem run_reached (reached : Reached setup begun auth) :
    Reached setup begun (Authenticator.runEvents setup events auth) := by
  induction events generalizing auth with
  | nil => exact reached
  | cons event rest later => exact later (reached.step event trivial)

/-- A timer that runs in the end has run all along. -/
theorem run_running (reached : Reached setup begun auth)
    (running : (Authenticator.runEvents setup events auth).timerRunning = true) :
    auth.timerRunning = true := by
  induction events generalizing auth with
  | nil => exact running
  | cons event rest later =>
      exact (step_watched setup (reached_tended setup reached) event).2
        (later (reached.step event trivial) running)

theorem run_judged (reached : Reached setup begun auth) {verdict : Bool}
    (judged : auth.results.get? srcMac = some verdict) :
    (Authenticator.runEvents setup events auth).results.get? srcMac = some verdict := by
  induction events generalizing auth with
  | nil => exact judged
  | cons event rest later =>
      have kept := (reached_verdicts reached event srcMac).2.2.1 verdict judged
      exact later (reached.step event trivial) kept

/-- The tick that stops the timer either gives up the silent machine or leaves it
without a result for good. -/
theorem stopping_tick (reached : Reached setup begun auth) {now : Nat}
    (present : auth.stateMachines.get? srcMac = some machine)
    (stopped : (Authenticator.step setup (.tick now) auth).timerRunning = false)
    (silent : Reaches.Permitted (Authenticator.step setup) (Unheeded setup srcMac)
      (Authenticator.step setup (.tick now) auth) events) {verdict : Bool}
    (judged : (Authenticator.runEvents setup events
      (Authenticator.step setup (.tick now) auth)).results.get? srcMac = some verdict) :
    GivesUpAt setup now machine verdict := by
  have after : Reached setup begun (Authenticator.step setup (.tick now) auth) :=
    reached.step (Event.tick now) trivial
  cases left : (Authenticator.step setup (.tick now) auth).stateMachines.get? srcMac with
  | some revised =>
      rw [run_stopped after stopped left silent, (reached_consistent after).apart left] at judged
      cases judged
  | none =>
      cases step_evolves setup (reached_tended setup reached).filed (.tick now) srcMac with
      | unaffected kept unjudged => simp [kept, present] at left
      | started other absent => cases absent.symm.trans present
      | annotated other revised before stored => cases left.symm.trans stored
      | moved other revised before stored => cases left.symm.trans stored
      | retried other revised before stored => cases left.symm.trans stored
      | judged other given before gone recorded grounds =>
          cases before.symm.trans present
          cases (run_judged after recorded).symm.trans judged
          exact grounds

theorem run_silent (reached : Reached setup begun auth)
    (present : auth.stateMachines.get? srcMac = some machine) {deadline : Nat}
    (timed : machine.currentTimeout = some deadline)
    (silent : Reaches.Permitted (Authenticator.step setup) (Unheeded setup srcMac) auth events) :
    ((Authenticator.runEvents setup events auth).timerRunning = true →
      ∃ revised, (Authenticator.runEvents setup events auth).stateMachines.get? srcMac =
          some revised ∧ revised.state = machine.state ∧
        revised.currentRetries =
          machine.currentRetries + overdue setup.idleTime events deadline) ∧
      ∀ verdict, (Authenticator.runEvents setup events auth).results.get? srcMac =
          some verdict →
        verdict = false ∧
          setup.retryCount < machine.currentRetries + overdue setup.idleTime events deadline := by
  induction events generalizing auth machine deadline with
  | nil =>
      refine ⟨fun _ => ⟨machine, present, rfl, rfl⟩, fun verdict judged => ?_⟩
      cases judged.symm.trans ((reached_consistent reached).apart present)
  | cons event rest later =>
      obtain ⟨unheeded, restSilent⟩ := silent
      have tended := reached_tended setup reached
      have after := reached.step event trivial
      cases event with
      | frame | datagram | send =>
          obtain ⟨revised, waits⟩ := step_unheeded tended unheeded present fun _ wrong => by
            cases wrong
          have ahead := later after waits.stored (waits.timeout.trans timed) restSilent
          rw [waits.retries, waits.state] at ahead
          exact ahead
      | tick now =>
          rw [overdue]
          cases running : (Authenticator.step setup (.tick now) auth).timerRunning with
          | false =>
              constructor
              · intro still
                have restarted := run_running after still
                simp [running] at restarted
              · intro verdict judged
                obtain ⟨rejected, ⟨limit, stored, passed⟩, exhausted⟩ :=
                  stopping_tick reached present running restSilent judged
                cases stored.symm.trans timed
                rw [if_pos passed]
                exact ⟨rejected, by omega⟩
          | true =>
              obtain ⟨revised, stored, ⟨waiting, rfl⟩ | ⟨⟨limit, found, passed⟩, _, rfl⟩⟩ :=
                step_ticked tended running present
              · have early : ¬ deadline < now := fun passed => waiting ⟨deadline, timed, passed⟩
                rw [if_neg early]
                exact later after stored timed restSilent
              · cases found.symm.trans timed
                rw [if_pos passed, Nat.add_comm _ 1, ← Nat.add_assoc]
                exact later after stored rfl restSilent

/-- In every state that is reached a supplicant whose authentication is going on has
a deadline.  As long as nothing that arrives moves it on, it is asked again at each tick that
finds the deadline passed, at most `retryCount` times, unless the timer is stopped;
and if it gets a result then it is a failure after more such ticks than that. -/
theorem silent_supplicant (reached : Reached setup begun auth)
    (present : auth.stateMachines.get? srcMac = some machine)
    (silent : Reaches.Permitted (Authenticator.step setup) (Unheeded setup srcMac) auth events) :
    ∃ deadline, machine.currentTimeout = some deadline ∧
      ((Authenticator.runEvents setup events auth).timerRunning = true →
        ∃ revised, (Authenticator.runEvents setup events auth).stateMachines.get? srcMac =
            some revised ∧ revised.state = machine.state ∧
          revised.currentRetries =
            machine.currentRetries + overdue setup.idleTime events deadline ∧
          revised.currentRetries ≤ setup.retryCount) ∧
      ∀ verdict, (Authenticator.runEvents setup events auth).results.get? srcMac =
          some verdict →
        verdict = false ∧
          setup.retryCount < machine.currentRetries + overdue setup.idleTime events deadline := by
  have answerable := (reached_tended setup reached).answering srcMac machine present
  obtain ⟨deadline, timed⟩ := Option.ne_none_iff_exists'.mp answerable.timed
  obtain ⟨waits, judged⟩ := run_silent reached present timed silent
  refine ⟨deadline, timed, fun running => ?_, judged⟩
  obtain ⟨revised, stored, state, retries⟩ := waits running
  have whole : Reached setup begun (Authenticator.runEvents setup events auth) :=
    run_reached reached
  exact ⟨revised, stored, state, retries, (reached_consistent whole).bounded stored⟩

namespace Sample

/-- The supplicant starts and is not heard of again. -/
def leaving : Authenticator := Authenticator.runEvents Sample.setup [.frame startFrame 10] Sample.begun

def unanswered : List Event := [.tick 15, .tick 20, .tick 30, .tick 40, .tick 50]

/-- It is asked three more times before it is given up. -/
theorem leaving_silent :
    (Authenticator.runEvents Sample.setup unanswered leaving).results.get? supplicant = some false ∧
      ∃ machine deadline, leaving.stateMachines.get? supplicant = some machine ∧
        machine.currentTimeout = some deadline ∧
        Sample.setup.retryCount <
          machine.currentRetries + overdue Sample.setup.idleTime unanswered deadline := by
  have failed : (Authenticator.runEvents Sample.setup unanswered leaving).results.get? supplicant =
      some false := by
    decide +kernel
  have registered : (leaving.stateMachines.get? supplicant).isSome = true := by
    decide +kernel
  have started : Reached Sample.setup 0 leaving := Reaches.foldl (fun _ _ => trivial) _
  obtain ⟨machine, present⟩ := Option.isSome_iff_exists.mp registered
  obtain ⟨deadline, timed, _, judged⟩ := @silent_supplicant Sample.setup 0 leaving supplicant machine
    unanswered started present ⟨trivial, trivial, trivial, trivial, trivial, trivial⟩
  exact ⟨failed, machine, deadline, present, timed, (judged false failed).2⟩

end Sample

end Daq.Dot1x
