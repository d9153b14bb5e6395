import Daq.Dot1x.Transcript
import Daq.Lib.Fallible

namespace Daq.Dot1x

open Exec

/-! Where everything comes from that is queued for the server or for a supplicant. -/

/-- The message that ends a part of the transcript goes to the server, with what that
part says about its supplicant. -/
structure Backed (setup : Setup) (log : List Delivery) (info : RadiusPacketInfo) : Prop where
  spoken : ∃ spoken, spoken <+: log ∧
    spoken.getLast? = some (.heard info.srcMac info.payload) ∧
    info.identity.getD [] = (identityIn (about info.srcMac spoken)).getD [] ∧
    info.state = stateIn (about info.srcMac spoken)
  port : info.portId = Bytes.toNat (setup.eapAddress.1.drop 3)

/-- The server has sent the message for the supplicant. -/
def Relayed (log : List Delivery) (srcMac : Address) (message : EapMessage) : Prop :=
  ∃ callback, .told callback ∈ log ∧ callback.srcMac = srcMac ∧
    callback.attributes.eapMessage = some message

/-- The server has accepted the supplicant. -/
def Granted (log : List Delivery) (srcMac : Address) : Prop :=
  ∃ callback, .told callback ∈ log ∧ callback.srcMac = srcMac ∧
    callback.packetType = .accessAccept

/-- What a supplicant may be sent. -/
inductive Sendable (log : List Delivery) (results : Dict Address Bool) (srcMac : Address) :
    EapMessage → Prop where
  | question : Sendable log results srcMac (.eap (some srcMac) (.identity Eap.REQUEST 255 []))
  | failure (rejected : results.get? srcMac = some false) :
      Sendable log results srcMac (AuthStateMachine.failureMessage srcMac)
  | relayed {message : EapMessage} (relayed : Relayed log srcMac message) :
      Sendable log results srcMac message

def Carried (setup : Setup) (log : List Delivery) (results : Dict Address Bool)
    (frame : Bytes) : Prop :=
  ∃ srcMac message, Sendable log results srcMac message ∧
    MessagePacker.ethernetPack message (some setup.eapAddress) srcMac = .ok frame

/-- The datagram is the request for a message that may go to the server. -/
def Issued (setup : Setup) (log : List Delivery) (datagram : Bytes) : Prop :=
  ∃ (info : RadiusPacketInfo) (packetId : UInt8) (requestAuthenticator : Nonce)
    (extras : List Attribute), Backed setup log info ∧
    RadiusModule.prepareExtraRadiusAttributes setup = .ok extras ∧
    MessagePacker.radiusPack setup.hashes info.payload info.srcMac info.identity packetId
      requestAuthenticator.1 info.state setup.radiusSecret info.portId extras = .ok datagram

/-- A machine that knows of its supplicant what the transcript says. -/
structure Remembers (setup : Setup) (log : List Delivery) (srcMac : Address)
    (machine : AuthStateMachine) : Prop where
  keyed : machine.srcMac = srcMac
  ported : ∀ mac, machine.authenticationMac = some mac → mac = setup.eapAddress
  identity : machine.identity.getD [] = (identityIn (about srcMac log)).getD []
  state : machine.radiusState = stateIn (about srcMac log)
  asks : ∀ info, machine.retry = .radiusSend info → Backed setup log info
  repeats : ∀ message, machine.retry = .eapSend (some message) → Relayed log srcMac message

structure Founded (setup : Setup) (log : List Delivery) (auth : Authenticator) : Prop where
  port : ∀ mac, auth.authenticatorMac = some mac → mac = setup.eapAddress
  machines : ∀ srcMac machine, auth.stateMachines.get? srcMac = some machine →
    Remembers setup log srcMac machine
  apart : ∀ srcMac machine, auth.stateMachines.get? srcMac = some machine →
    auth.results.get? srcMac = none
  fresh : ∀ srcMac, auth.stateMachines.get? srcMac = none → auth.results.get? srcMac = none →
    about srcMac log = []
  asked : ∀ info, some info ∈ auth.radiusQueue → Backed setup log info
  answered : ∀ frame, some frame ∈ auth.eapQueue → Carried setup log auth.results frame
  issued : ∀ datagram ∈ auth.transmitted, Issued setup log datagram
  granted : ∀ srcMac, auth.results.get? srcMac = some true → Granted log srcMac

def foundedFrame (setup : Setup) (log : List Delivery) : Frame Authenticator :=
  Frame.invariant (Founded setup log)

section Growing

variable {setup : Setup} {log extra : List Delivery} {results judged : Dict Address Bool}
  {srcMac : Address} {message : EapMessage} {machine : AuthStateMachine}

theorem Backed.append {info : RadiusPacketInfo} (backed : Backed setup log info) :
    Backed setup (log ++ extra) info := by
  obtain ⟨spoken, part, known⟩ := backed.spoken
  exact ⟨⟨spoken, part.trans (List.prefix_append log extra), known⟩, backed.port⟩

theorem Relayed.append (relayed : Relayed log srcMac message) :
    Relayed (log ++ extra) srcMac message := by
  obtain ⟨callback, told, known⟩ := relayed
  exact ⟨callback, List.mem_append_left extra told, known⟩

theorem Granted.append (granted : Granted log srcMac) : Granted (log ++ extra) srcMac := by
  obtain ⟨callback, told, known⟩ := granted
  exact ⟨callback, List.mem_append_left extra told, known⟩

theorem Sendable.append (sendable : Sendable log results srcMac message)
    (kept : results.get? srcMac = some false → judged.get? srcMac = some false) :
    Sendable (log ++ extra) judged srcMac message := by
  cases sendable with
  | question => exact .question
  | failure rejected => exact .failure (kept rejected)
  | relayed relayed => exact .relayed relayed.append

theorem Carried.append {frame : Bytes} (carried : Carried setup log results frame)
    (kept : ∀ srcMac, results.get? srcMac = some false → judged.get? srcMac = some false) :
    Carried setup (log ++ extra) judged frame := by
  obtain ⟨srcMac, message, sendable, packed⟩ := carried
  exact ⟨srcMac, message, sendable.append (kept srcMac), packed⟩

theorem Issued.append {datagram : Bytes} (issued : Issued setup log datagram) :
    Issued setup (log ++ extra) datagram := by
  obtain ⟨info, packetId, requestAuthenticator, extras, backed, packed⟩ := issued
  exact ⟨info, packetId, requestAuthenticator, extras, backed.append, packed⟩

theorem Remembers.append (remembers : Remembers setup log srcMac machine)
    (silent : about srcMac extra = []) : Remembers setup (log ++ extra) srcMac machine where
  keyed := remembers.keyed
  ported := remembers.ported
  identity := by rw [about_append, silent, List.append_nil, remembers.identity]
  state := by rw [about_append, silent, List.append_nil, remembers.state]
  asks info retry := (remembers.asks info retry).append
  repeats message retry := (remembers.repeats message retry).append

/-- What is handed to a machine changes nothing for the others. -/
theorem Founded.append {auth : Authenticator} (founded : Founded setup log auth)
    (mine : ∀ other, other ≠ srcMac → about other extra = [])
    (remembers : Remembers setup (log ++ extra) srcMac machine)
    (unjudged : auth.results.get? srcMac = none) :
    Founded setup (log ++ extra)
      { auth with stateMachines := auth.stateMachines.insert srcMac machine } := by
  constructor
  · exact founded.port
  · intro other found present
    rw [Dict.get?_insert] at present
    split at present
    · rename_i same
      cases present
      exact same ▸ remembers
    · rename_i different
      exact (founded.machines other found present).append (mine other different)
  · intro other found present
    rw [Dict.get?_insert] at present
    split at present
    · rename_i same
      exact same ▸ unjudged
    · exact founded.apart other found present
  · intro other absent fresh
    have different : other ≠ srcMac := by
      rintro rfl
      rw [Dict.get?_insert_self] at absent
      cases absent
    rw [Dict.get?_insert_of_ne _ _ different] at absent
    rw [about_append, founded.fresh other absent fresh, mine other different, List.append_nil]
  · exact fun info queued => (founded.asked info queued).append
  · exact fun frame queued => (founded.answered frame queued).append fun _ rejected => rejected
  · exact fun datagram sent => (founded.issued datagram sent).append
  · exact fun other accepted => (founded.granted other accepted).append

theorem Founded.store {auth : Authenticator} (founded : Founded setup log auth)
    (remembers : Remembers setup log srcMac machine)
    (unjudged : auth.results.get? srcMac = none) :
    Founded setup log
      { auth with stateMachines := auth.stateMachines.insert srcMac machine } := by
  have stored := @Founded.append setup log [] srcMac machine auth founded (fun _ _ => rfl)
  rw [List.append_nil] at stored
  exact stored remembers unjudged

/-- A verdict contradicts nothing that was sent before. -/
theorem Founded.judge {auth : Authenticator} (founded : Founded setup log auth)
    (unjudged : auth.results.get? srcMac = none) {verdict : Bool}
    (supported : verdict = true → Granted log srcMac) :
    Founded setup log
      { auth with
        results := auth.results.insert srcMac verdict
        stateMachines := auth.stateMachines.erase srcMac } := by
  have others : ∀ other, other ≠ srcMac →
      (auth.results.insert srcMac verdict).get? other = auth.results.get? other :=
    fun other different => Dict.get?_insert_of_ne _ _ different
  constructor
  · exact founded.port
  · intro other found present
    rw [Dict.get?_erase] at present
    split at present
    · cases present
    · exact founded.machines other found present
  · intro other found present
    rw [Dict.get?_erase] at present
    split at present
    · cases present
    · rename_i different
      exact (others other different).trans (founded.apart other found present)
  · intro other absent fresh
    have different : other ≠ srcMac := by
      rintro rfl
      rw [Dict.get?_insert_self] at fresh
      cases fresh
    rw [Dict.get?_erase_of_ne _ different] at absent
    rw [others other different] at fresh
    exact founded.fresh other absent fresh
  · exact founded.asked
  · intro frame queued
    have carried := @Carried.append setup log [] auth.results
      (auth.results.insert srcMac verdict) frame (founded.answered frame queued)
    rw [List.append_nil] at carried
    apply carried
    intro other rejected
    have different : other ≠ srcMac := by
      rintro rfl
      cases unjudged.symm.trans rejected
    exact (others other different).trans rejected
  · exact founded.issued
  · intro other accepted
    rw [Dict.get?_insert] at accepted
    split at accepted
    · rename_i same
      exact same ▸ supported (Option.some.inj accepted)
    · exact founded.granted other accepted

end Growing

section Sending

variable {setup : Setup} {log : List Delivery} {auth : Authenticator} {srcMac : Address}

theorem sendEapMessage_founded (founded : Founded setup log auth) {data : EapMessage}
    (sendable : Sendable log auth.results srcMac data) :
    (EapModule.sendEapMessage srcMac data).Holds auth fun _ reached =>
      Founded setup log reached := by
  unfold EapModule.sendEapMessage EapModule.sendPackedEapMessage
  rw [holds_bind, holds_read, then_ok, holds_bind, holds_ofExcept]
  cases packed : MessagePacker.ethernetPack data auth.authenticatorMac srcMac with
  | error raised => exact founded
  | ok frame =>
      rw [then_ok, holds_modify]
      refine { founded with answered := fun other queued => ?_ }
      rcases List.mem_append.mp queued with old | new
      · exact founded.answered other old
      · cases List.mem_singleton.mp new
        refine ⟨srcMac, data, sendable, ?_⟩
        cases source : auth.authenticatorMac with
        | none =>
            rw [source, MessagePacker.ethernetPack] at packed
            obtain ⟨_, _, wrong⟩ := Fallible.bind_eq_ok_iff.mp packed
            cases wrong
        | some mac =>
            rw [← founded.port mac source, ← source]
            exact packed

theorem sendEapResponse_founded (founded : Founded setup log auth) {message : Option EapMessage}
    (sendable : ∀ data, message = some data → Sendable log auth.results srcMac data) :
    (Authenticator.sendEapResponse srcMac message).Holds auth fun _ reached =>
      Founded setup log reached := by
  cases message with
  | none => exact sendEapMessage_founded founded .question
  | some data => exact sendEapMessage_founded founded (sendable data rfl)

theorem sendRadiusPacket_founded (founded : Founded setup log auth) {info : RadiusPacketInfo}
    (backed : Backed setup log info) :
    (RadiusModule.sendRadiusPacket info).Holds auth fun _ reached =>
      Founded setup log reached := by
  unfold RadiusModule.sendRadiusPacket
  rw [holds_modify]
  refine { founded with asked := fun other queued => ?_ }
  rcases List.mem_append.mp queued with old | new
  · exact founded.asked other old
  · cases List.mem_singleton.mp new
    exact backed

theorem endAuthentication_founded :
    Authenticator.endAuthentication.Within (foundedFrame setup log) := by
  unfold Authenticator.endAuthentication RadiusModule.shutDownModule EapModule.shutDownModule
  have ended : ∀ {α : Type} {item : α} {queue : List (Option α)},
      some item ∈ queue ++ [none] → some item ∈ queue := by
    intro α item queue queued
    simpa using queued
  refine within_bind (within_modify fun _ founded => { founded with }) fun _ =>
    within_bind ?_ fun _ => within_modify fun _ founded =>
      { founded with answered := fun frame queued => founded.answered frame (ended queued) }
  exact within_bind (within_modify fun _ founded =>
      { founded with asked := fun info queued => founded.asked info (ended queued) }) fun _ =>
    within_bind (within_read _) fun _ => within_bind (within_require _) fun _ =>
      within_modify fun _ founded => { founded with }

/-- A verdict is recorded before the supplicant is told about it. -/
theorem conclude_founded (founded : Founded setup log auth)
    (present : (auth.stateMachines.get? srcMac).isSome = true) {verdict : Bool}
    (supported : verdict = true → Granted log srcMac) {message : Option EapMessage}
    (sendable : ∀ results data, results.get? srcMac = some verdict → message = some data →
      Sendable log results srcMac data) :
    (Authenticator.processTestResult (some srcMac) verdict).Holds auth
      (Then (fun _ => Authenticator.sendEapResponse srcMac message)
        fun _ reached => Founded setup log reached) := by
  obtain ⟨machine, found⟩ := Option.isSome_iff_exists.mp present
  have judged := founded.judge (founded.apart srcMac machine found) supported
  unfold Authenticator.processTestResult Authenticator.recordResult
  simp only [whenSome, holds_bind, holds_modify, then_ok, holds_read, holds_require, present,
    not_true_eq_false, false_implies, and_true, forall_const]
  refine (((@endAuthentication_founded setup log).holds _).and
    (endAuthentication_within.holds _)).mono fun outcome reached after => ?_
  have still : Founded setup log reached := after.1 judged
  cases outcome with
  | error raised => exact still
  | ok _ =>
      rw [then_ok]
      apply sendEapResponse_founded still
      intro data same
      apply sendable _ data _ same
      have kept := congrArg (fun pair => pair.2.get? srcMac) after.2.1
      simpa [ledger] using kept

end Sending

section Remembering

variable {setup : Setup} {log : List Delivery} {srcMac : Address} {machine : AuthStateMachine}

theorem noteIdentity_eq (machine : AuthStateMachine) (message : EapMessage) :
    ∃ identity, machine.noteIdentity message = { machine with identity } := by
  unfold AuthStateMachine.noteIdentity
  split
  · split
    · exact ⟨_, rfl⟩
    · exact ⟨machine.identity, rfl⟩
  · exact ⟨machine.identity, rfl⟩

theorem Remembers.heard (remembers : Remembers setup log srcMac machine) (message : EapMessage) :
    Remembers setup (log ++ [.heard srcMac message]) srcMac (machine.noteIdentity message) := by
  obtain ⟨name, noted⟩ := noteIdentity_eq machine message
  have identity := identityIn_heard remembers.identity srcMac message
  have mine : about srcMac (log ++ [.heard srcMac message]) =
      about srcMac log ++ [.heard srcMac message] := by
    rw [about_append]
    exact congrArg _ (about_self (.heard srcMac message))
  rw [noted] at identity ⊢
  constructor
  · exact remembers.keyed
  · exact remembers.ported
  · rw [mine]
    exact identity
  · rw [mine, stateIn_heard]
    exact remembers.state
  · exact fun info retry => (remembers.asks info retry).append
  · exact fun other retry => (remembers.repeats other retry).append

theorem Remembers.told (remembers : Remembers setup log srcMac machine)
    {callback : RadiusModule.Callback} (addressed : callback.srcMac = srcMac) :
    Remembers setup (log ++ [.told callback]) srcMac
      { machine with radiusState := callback.attributes.state } := by
  subst addressed
  have mine : about callback.srcMac (log ++ [.told callback]) =
      about callback.srcMac log ++ [.told callback] := by
    rw [about_append]
    exact congrArg _ (about_self (.told callback))
  constructor
  · exact remembers.keyed
  · exact remembers.ported
  · rw [mine, identityIn_told]
    exact remembers.identity
  · rw [mine, stateIn_told]
  · exact fun info retry => (remembers.asks info retry).append
  · exact fun message retry => (remembers.repeats message retry).append

theorem Remembers.goto (remembers : Remembers setup log srcMac machine) (state : AuthState) :
    Remembers setup log srcMac { machine with state } :=
  { remembers with }

theorem Remembers.await_eap (remembers : Remembers setup log srcMac machine) (timeout : Nat)
    {payload : Option EapMessage}
    (relayed : ∀ message, payload = some message → Relayed log srcMac message) :
    Remembers setup log srcMac (machine.await timeout (.eapSend payload)) := by
  refine { remembers with asks := ?_, repeats := ?_ }
  · intro info wrong
    cases wrong
  · intro message same
    cases same
    exact relayed message rfl

theorem Remembers.await_radius (remembers : Remembers setup log srcMac machine) (timeout : Nat)
    {info : RadiusPacketInfo} (backed : Backed setup log info) :
    Remembers setup log srcMac (machine.await timeout (.radiusSend info)) := by
  refine { remembers with asks := ?_, repeats := ?_ }
  · intro other same
    cases same
    exact backed
  · intro message wrong
    cases wrong

/-- A machine that has just heard its supplicant knows all that goes with the message. -/
theorem Remembers.backed {message : EapMessage}
    (remembers : Remembers setup (log ++ [.heard srcMac message]) srcMac machine) {portId : Nat}
    (numbered : portIdToInt machine.authenticationMac = .ok portId) :
    Backed setup (log ++ [.heard srcMac message])
      { payload := message, srcMac := machine.srcMac, identity := machine.identity,
        state := machine.radiusState, portId } := by
  obtain rfl := remembers.keyed
  constructor
  · exact ⟨_, List.prefix_rfl, List.getLast?_concat, remembers.identity, remembers.state⟩
  · cases port : machine.authenticationMac with
    | none => simp [portIdToInt, port] at numbered
    | some mac =>
        rw [port] at numbered
        cases numbered
        rw [remembers.ported mac port]

end Remembering

section Handling

variable {setup : Setup} {now : Nat} {log : List Delivery} {auth : Authenticator}
  {srcMac : Address} {machine : AuthStateMachine}

theorem receivedEapRequest_founded (founded : Founded setup log auth)
    (present : auth.stateMachines.get? srcMac = some machine) (message : EapMessage) :
    (machine.receivedEapRequest setup now message).Holds auth fun _ reached =>
      Founded setup (log ++ [.heard srcMac message]) reached := by
  have heard := (founded.machines srcMac machine present).heard message
  have unjudged := founded.apart srcMac machine present
  have mine : ∀ other, other ≠ srcMac → about other [.heard srcMac message] = [] :=
    fun other different => about_other different.symm
  have keyed := (founded.machines srcMac machine present).keyed
  unfold AuthStateMachine.receivedEapRequest Authenticator.store
  simp only [holds_bind, then_ok, holds_modify, holds_ofExcept,
    AuthStateMachine.stateTransition, keyed]
  by_cases expected : (machine.noteIdentity message).state = .supplicant
  · have moved := heard.goto .radius
    simp only [expected, if_true, then_ok, holds_bind, holds_modify, holds_ofExcept,
      Dict.insert_insert]
    cases numbered : portIdToInt (machine.noteIdentity message).authenticationMac with
    | error raised => exact founded.append mine moved unjudged
    | ok portId =>
        have backed := moved.backed numbered
        simp only [then_ok, holds_bind, holds_modify, Dict.insert_insert]
        apply sendRadiusPacket_founded _ backed
        exact founded.append mine (moved.await_radius _ backed) unjudged
  · simp only [expected, if_false, then_error]
    exact founded.append mine heard unjudged

theorem receivedRadiusResponse_founded (founded : Founded setup log auth)
    (present : auth.stateMachines.get? srcMac = some machine)
    {callback : RadiusModule.Callback} (addressed : callback.srcMac = srcMac) :
    (machine.receivedRadiusResponse setup now callback.attributes.eapMessage
      callback.attributes.state callback.packetType).Holds auth fun _ reached =>
        Founded setup (log ++ [.told callback]) reached := by
  have told := (founded.machines srcMac machine present).told addressed
  have unjudged := founded.apart srcMac machine present
  have mine : ∀ other, other ≠ srcMac → about other [.told callback] = [] :=
    fun other different => about_other fun same => different (same.symm.trans addressed)
  have relayed : ∀ message, callback.attributes.eapMessage = some message →
      Relayed (log ++ [.told callback]) srcMac message :=
    fun message carries => ⟨callback, List.mem_concat_self, addressed, carries⟩
  have stored : ∀ revised, Remembers setup (log ++ [.told callback]) srcMac revised →
      Founded setup (log ++ [.told callback])
        { auth with stateMachines := auth.stateMachines.insert srcMac revised } :=
    fun revised remembers => founded.append mine remembers unjudged
  obtain rfl := (founded.machines srcMac machine present).keyed
  unfold AuthStateMachine.receivedRadiusResponse Authenticator.store
  simp only [holds_bind, then_ok, holds_modify, AuthStateMachine.stateTransition]
  by_cases expected : machine.state = .radius
  · cases answer : callback.packetType with
    | accessReject =>
        simp only [expected, if_true, holds_bind, holds_ofExcept, then_ok, holds_modify,
          Dict.insert_insert]
        have failed := stored _ (told.goto .fail)
        apply conclude_founded failed (by simp) fun wrong => absurd wrong Bool.false_ne_true
        intro results data rejected same
        cases same
        exact .failure rejected
    | accessAccept =>
        simp only [expected, if_true, holds_bind, holds_ofExcept, then_ok, holds_modify,
          Dict.insert_insert]
        have granted : Granted (log ++ [.told callback]) machine.srcMac :=
          ⟨callback, List.mem_concat_self, addressed, answer⟩
        apply conclude_founded (stored _ (told.goto .success)) (by simp) fun _ => granted
        exact fun results data _ same => .relayed (relayed data same)
    | accessRequest | accessChallenge =>
        simp only [expected, if_true, holds_bind, holds_ofExcept, then_ok, holds_modify,
          Dict.insert_insert]
        apply sendEapResponse_founded
        · exact stored _ ((told.goto .supplicant).await_eap _ relayed)
        · exact fun data same => .relayed (relayed data same)
  · cases callback.packetType <;>
      simp only [expected, if_false, holds_bind, holds_ofExcept, then_error] <;>
      exact stored _ told

theorem startMachine_founded (founded : Founded setup log auth)
    (absent : auth.stateMachines.get? srcMac = none)
    (unjudged : auth.results.get? srcMac = none) :
    (Authenticator.startMachine setup now srcMac).Holds auth fun _ reached =>
      Founded setup log reached := by
  have silent := founded.fresh srcMac absent unjudged
  unfold Authenticator.startMachine AuthStateMachine.receivedEapolStart Authenticator.store
  simp only [holds_bind, holds_read, then_ok, holds_modify, holds_ofExcept,
    AuthStateMachine.stateTransition, AuthStateMachine.initialized, if_true,
    Dict.insert_insert]
  apply sendEapResponse_founded
  · apply founded.store _ unjudged
    constructor
    · rfl
    · exact founded.port
    · rw [silent]
      rfl
    · rw [silent]
      rfl
    · intro info wrong
      cases wrong
    · intro message wrong
      cases wrong
  · intro data wrong
    cases wrong

theorem runRetry_founded (founded : Founded setup log auth)
    (remembers : Remembers setup log srcMac machine) :
    machine.runRetry.Holds auth fun _ reached => Founded setup log reached := by
  unfold AuthStateMachine.runRetry
  cases retry : machine.retry with
  | eapSend message =>
      rw [remembers.keyed]
      apply sendEapResponse_founded founded
      rintro data rfl
      exact .relayed (remembers.repeats data retry)
  | radiusSend info => exact sendRadiusPacket_founded founded (remembers.asks info retry)

theorem handleTimer_founded (founded : Founded setup log auth)
    (present : auth.stateMachines.get? srcMac = some machine) :
    (machine.handleTimer setup now).Holds auth fun _ reached => Founded setup log reached := by
  have remembers := founded.machines srcMac machine present
  have unjudged := founded.apart srcMac machine present
  obtain rfl := remembers.keyed
  unfold AuthStateMachine.handleTimer AuthStateMachine.handleTimeout Authenticator.store
  rw [holds_when, holds_ite]
  refine ⟨fun _ => ⟨fun _ => ?_, fun _ => ?_⟩, fun _ => founded⟩
  · rw [holds_bind, holds_modify, then_ok]
    exact runRetry_founded (founded.store { remembers with } unjudged) remembers
  · have failed : Remembers setup log machine.srcMac
        { machine with state := .fail, currentTimeout := none } := { remembers with }
    rw [holds_bind, holds_modify, then_ok, holds_bind]
    apply conclude_founded (founded.store failed unjudged) (by simp)
      fun wrong => absurd wrong Bool.false_ne_true
    intro results data rejected same
    cases same
    exact .failure rejected

theorem sweep_founded (founded : Founded setup log auth) (size : Nat) {addresses : List Address} :
    (Authenticator.sweep setup now size addresses).Holds auth fun _ reached =>
      Founded setup log reached := by
  induction addresses generalizing auth with
  | nil =>
      rw [Authenticator.sweep, holds_bind, holds_read, then_ok, holds_require]
      exact ⟨fun _ => founded, fun _ => founded⟩
  | cons srcMac rest later =>
      rw [Authenticator.sweep, holds_bind, holds_read, then_ok, holds_bind, holds_require]
      refine ⟨fun _ => ?_, fun _ => founded⟩
      rw [then_ok, holds_bind, holds_whenSome]
      refine ⟨fun _ => later founded, fun machine present => ?_⟩
      refine (handleTimer_founded founded present).mono fun outcome reached kept => ?_
      cases outcome with
      | error raised => exact kept
      | ok _ => exact later kept

theorem handleSmTimeout_founded (founded : Founded setup log auth) :
    (Authenticator.handleSmTimeout setup now).Holds auth fun _ reached =>
      Founded setup log reached := by
  rw [Authenticator.handleSmTimeout, holds_bind, holds_get, then_ok, holds_ite]
  refine ⟨fun _ => ?_, fun _ => sweep_founded founded _⟩
  rw [holds_when, Authenticator.processTestResult, holds_bind, holds_whenSome]
  refine ⟨fun _ => ⟨fun _ => endAuthentication_founded auth founded, ?_⟩, fun _ => founded⟩
  intro srcMac wrong
  cases wrong

theorem machineOf_some (present : auth.stateMachines.get? srcMac = some machine)
    {next : AuthStateMachine → Handler Unit} {post : Except Raised Unit → Authenticator → Prop}
    (rest : (next machine).Holds auth post) :
    (Authenticator.machineOf srcMac >>= next).Holds auth post := by
  rw [holds_bind]
  apply machineOf_holds
  · intro found stored
    cases present.symm.trans stored
    exact rest
  · intro absent
    cases present.symm.trans absent

theorem machineOf_none (absent : auth.stateMachines.get? srcMac = none)
    {next : AuthStateMachine → Handler Unit} {post : Except Raised Unit → Authenticator → Prop}
    (rest : post (.error .keyError) auth) :
    (Authenticator.machineOf srcMac >>= next).Holds auth post := by
  rw [holds_bind]
  apply machineOf_holds
  · intro found stored
    cases absent.symm.trans stored
  · exact fun _ => rest

theorem startRequest_founded (founded : Founded setup log auth) (message : EapMessage) :
    (Authenticator.receivedEapRequest setup now srcMac message true).Holds auth
      fun _ reached => Founded setup log reached := by
  rw [Authenticator.receivedEapRequest, if_pos rfl, holds_bind, holds_get, then_ok, holds_when]
  exact ⟨fun new => startMachine_founded founded new.1 new.2, fun _ => founded⟩

theorem messageRequest_founded (founded : Founded setup log auth) (message : EapMessage) :
    (Authenticator.receivedEapRequest setup now srcMac message false).Holds auth
      fun _ reached => Founded setup
        (log ++ ((some (Delivery.heard srcMac message)).filter auth.attends).toList) reached := by
  rw [Authenticator.receivedEapRequest, if_neg Bool.false_ne_true, filter_attends]
  cases present : auth.stateMachines.get? srcMac with
  | none =>
      have unattended : auth.attends (.heard srcMac message) = false := by
        simp [Authenticator.attends, Delivery.address, present]
      apply machineOf_none present
      simpa [unattended] using founded
  | some machine =>
      have attended : auth.attends (.heard srcMac message) = true := by
        simp [Authenticator.attends, Delivery.address, present]
      have requested := @receivedEapRequest_founded setup now log auth srcMac machine founded
        present message
      apply machineOf_some present
      simpa [attended] using requested

theorem receiveEapMessage_founded (founded : Founded setup log auth) (packedMessage : Bytes) :
    (EapModule.receiveEapMessage setup now packedMessage).Holds auth fun _ reached =>
      Founded setup
        (log ++ ((Delivery.ofFrame packedMessage).filter auth.attends).toList) reached := by
  have blank : MessageParser.ethernetParse [] = .error (.messageParse .ethernetHeader) := rfl
  rw [EapModule.receiveEapMessage, holds_when, Delivery.ofFrame]
  refine ⟨fun _ => ?_, fun empty => by simpa [not_not.mp empty, blank] using founded⟩
  cases parsed : MessageParser.ethernetParse packedMessage with
  | error raised =>
      dsimp only
      split
      · simpa using founded
      · simpa using founded
      · rename_i wrong
        cases wrong
  | ok found =>
      obtain ⟨message, dstMac⟩ := found
      dsimp only
      rw [holds_bind, holds_when]
      cases started : EapModule.isEapolStart message with
      | true =>
          have ported : Founded setup log { auth with authenticatorMac := some setup.eapAddress } :=
            { founded with port := fun mac same => (Option.some.inj same).symm }
          refine ⟨fun _ => ?_, fun wrong => absurd rfl wrong⟩
          rw [holds_modify, then_ok, holds_whenSome]
          refine ⟨fun _ => by simpa using ported, fun srcMac _ => ?_⟩
          simpa using @startRequest_founded setup now log _ srcMac ported message
      | false =>
          refine ⟨fun wrong => absurd wrong Bool.false_ne_true, fun _ => ?_⟩
          rw [then_ok, holds_whenSome]
          refine ⟨fun anonymous => by simpa [anonymous] using founded, fun srcMac known => ?_⟩
          have requested := @messageRequest_founded setup now log auth srcMac founded message
          simpa [known] using requested

theorem receiveRadiusMessage_founded (founded : Founded setup log auth) (packedMessage : Bytes) :
    (RadiusModule.receiveRadiusMessage setup now packedMessage).Holds auth fun _ reached =>
      Founded setup
        (log ++ ((Delivery.ofDatagram setup auth packedMessage).filter auth.attends).toList)
        reached := by
  rw [RadiusModule.receiveRadiusMessage, holds_bind, holds_get, then_ok, holds_bind,
    holds_ofExcept, Delivery.ofDatagram]
  cases decoded : RadiusModule.decodeCallback setup auth packedMessage with
  | error raised => simpa using founded
  | ok delivered =>
      rw [then_ok, holds_whenSome]
      constructor
      · rintro rfl
        simpa using founded
      · rintro callback rfl
        cases present : auth.stateMachines.get? callback.srcMac with
        | none =>
            have unattended : auth.attends (.told callback) = false := by
              simp [Authenticator.attends, Delivery.address, present]
            apply machineOf_none present
            simpa [filter_attends, unattended] using founded
        | some machine =>
            have attended : auth.attends (.told callback) = true := by
              simp [Authenticator.attends, Delivery.address, present]
            have responded := @receivedRadiusResponse_founded setup now log auth _ machine founded
              present callback rfl
            apply machineOf_some present
            simpa [filter_attends, attended] using responded

theorem sendRadiusMessage_founded (founded : Founded setup log auth)
    (requestAuthenticator : Nonce) {outbound : Option RadiusPacketInfo}
    (backed : ∀ info, outbound = some info → Backed setup log info) :
    (RadiusModule.sendRadiusMessage setup requestAuthenticator.1 outbound).Holds auth
      fun _ reached => Founded setup log reached := by
  rw [RadiusModule.sendRadiusMessage, holds_whenSome]
  refine ⟨fun _ => founded, fun info present => ?_⟩
  have registered : Founded setup log
      (RadiusModule.registerRequest info requestAuthenticator.1 auth) := { founded with }
  unfold RadiusModule.encodeRadiusResponse RadiusModule.socketSend
  simp only [holds_bind, holds_read, then_ok, holds_modify, holds_ofExcept]
  cases prepared : RadiusModule.prepareExtraRadiusAttributes setup with
  | error raised => exact registered
  | ok extras =>
      rw [then_ok, holds_ofExcept]
      cases packed : MessagePacker.radiusPack setup.hashes info.payload info.srcMac info.identity
          auth.nextRadiusId requestAuthenticator.1 info.state setup.radiusSecret info.portId
          extras with
      | error raised => exact registered
      | ok datagram =>
          simp only [then_ok, holds_bind, holds_read, holds_require, holds_modify, then_error]
          refine ⟨fun _ => ?_, fun _ => registered⟩
          refine { registered with issued := fun other sent => ?_ }
          rcases List.mem_append.mp sent with old | new
          · exact founded.issued other old
          · cases List.mem_singleton.mp new
            exact ⟨info, auth.nextRadiusId, requestAuthenticator, extras, backed info present,
              prepared, packed⟩

end Handling

section Running

variable {setup : Setup} {log : List Delivery} {auth : Authenticator}

theorem initial_founded (begun : Nat) : Founded setup [] (Authenticator.initial setup begun) := by
  constructor
  · intro mac wrong
    cases wrong
  · intro srcMac machine wrong
    cases wrong
  · intro srcMac machine wrong
    cases wrong
  · exact fun _ _ _ => rfl
  · intro info wrong
    cases wrong
  · intro frame wrong
    cases wrong
  · intro datagram wrong
    cases wrong
  · intro srcMac wrong
    cases wrong

theorem step_founded (founded : Founded setup log auth) (event : Event) :
    Founded setup (log ++ (auth.delivery setup event).toList)
      (Authenticator.step setup event auth) := by
  cases event with
  | frame packedMessage now =>
      rw [Authenticator.step, Authenticator.takeFrame, Authenticator.delivery]
      split
      · have handled := @receiveEapMessage_founded setup now log auth founded
          (Authenticator.received packedMessage)
        exact { handled with }
      · simpa using founded
  | datagram packedMessage now =>
      rw [Authenticator.step, Authenticator.takeDatagram, Authenticator.delivery]
      split
      · have handled := @receiveRadiusMessage_founded setup now log auth founded
          (Authenticator.received packedMessage)
        exact { handled with }
      · simpa using founded
  | tick now =>
      rw [Authenticator.step, Authenticator.takeTick, Authenticator.delivery, Option.toList_none,
        List.append_nil]
      split
      · exact handleSmTimeout_founded founded
      · exact founded
  | send requestAuthenticator =>
      rw [Authenticator.step, Authenticator.takePacket, Authenticator.delivery,
        Option.toList_none, List.append_nil]
      cases queue : auth.radiusQueue with
      | nil => exact founded
      | cons outbound rest =>
          dsimp only
          split
          · have queued : ∀ info, some info ∈ outbound :: rest → Backed setup log info :=
              fun info member => founded.asked info (queue ▸ member)
            have taken : Founded setup log { auth with radiusQueue := rest } :=
              { founded with
                asked := fun info member => queued info (List.mem_cons_of_mem _ member) }
            have handled := @sendRadiusMessage_founded setup log _ taken requestAuthenticator
              outbound fun info same => queued info (same ▸ List.mem_cons_self)
            exact { handled with }
          · exact founded

theorem run_founded (founded : Founded setup log auth) (events : List Event) :
    Founded setup (log ++ auth.transcript setup events)
      (Authenticator.runEvents setup events auth) := by
  induction events generalizing auth log with
  | nil =>
      rw [Authenticator.transcript, List.append_nil]
      exact founded
  | cons event rest later =>
      rw [Authenticator.transcript, ← List.append_assoc]
      exact later (step_founded founded event)

end Running

end Daq.Dot1x
