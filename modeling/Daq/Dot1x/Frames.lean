import Daq.Dot1x.Authenticator

namespace Daq.Dot1x

open Exec

/-! Which handlers leave which part of the authenticator alone. -/

/-- The part of the authenticator that holds machines and verdicts. -/
def ledger (auth : Authenticator) : Dict Address AuthStateMachine × Dict Address Bool :=
  (auth.stateMachines, auth.results)

/-- The part that only `_encode_radius_response` and the loops themselves write. -/
def registry (auth : Authenticator) :=
  (auth.nextRadiusId, auth.packetIdToRequestAuthenticator, auth.packetIdToMac, auth.requests,
    auth.eapReceiver, auth.radiusReceiver, auth.radiusSender)

def ledgerFrame : Frame Authenticator := Frame.unchanged ledger

/-- The registry is the same and a module that was shut down stays so. -/
structure Settled (auth reached : Authenticator) : Prop where
  registry : registry reached = registry auth
  eap : auth.eapShutDown = true → reached.eapShutDown = true
  radius : auth.radiusShutDown = true → reached.radiusShutDown = true

theorem Settled.trans {first second third : Authenticator} (former : Settled first second)
    (latter : Settled second third) : Settled first third :=
  ⟨latter.registry.trans former.registry, latter.eap ∘ former.eap, latter.radius ∘ former.radius⟩

def registryFrame : Frame Authenticator where
  rel := Settled
  refl _ := ⟨rfl, id, id⟩
  trans := Settled.trans

/-- Both parts at once: what sending and shutting down leave alone. -/
def coreFrame : Frame Authenticator where
  rel auth reached := ledger reached = ledger auth ∧ Settled auth reached
  refl _ := ⟨rfl, rfl, id, id⟩
  trans former latter := ⟨latter.1.trans former.1, former.2.trans latter.2⟩

theorem keepsLedger {α : Type} {program : Handler α} (within : program.Within coreFrame) :
    program.Within ledgerFrame :=
  within.mono fun _ _ kept => kept.1

theorem keepsRegistry {α : Type} {program : Handler α} (within : program.Within coreFrame) :
    program.Within registryFrame :=
  within.mono fun _ _ kept => kept.2

theorem sendEapResponse_within (srcMac : Address) (message : Option EapMessage) :
    (Authenticator.sendEapResponse srcMac message).Within coreFrame := by
  have sent : ∀ data, (EapModule.sendEapMessage srcMac data).Within coreFrame :=
    fun data => within_bind (within_read _) fun _ => within_bind (within_ofExcept _) fun _ =>
      within_modify fun _ => ⟨rfl, rfl, id, id⟩
  cases message with
  | none => exact sent _
  | some data => exact sent data

theorem sendRadiusPacket_within (info : RadiusPacketInfo) :
    (RadiusModule.sendRadiusPacket info).Within coreFrame :=
  within_modify fun _ => ⟨rfl, rfl, id, id⟩

theorem runRetry_within (machine : AuthStateMachine) :
    machine.runRetry.Within coreFrame := by
  unfold AuthStateMachine.runRetry
  cases machine.retry with
  | eapSend message => exact sendEapResponse_within _ message
  | radiusSend info => exact sendRadiusPacket_within info

theorem endAuthentication_within : Authenticator.endAuthentication.Within coreFrame := by
  unfold Authenticator.endAuthentication RadiusModule.shutDownModule EapModule.shutDownModule
  refine within_bind (within_modify fun _ => ⟨rfl, rfl, id, id⟩) fun _ => within_bind ?_ fun _ => ?_
  · exact within_bind (within_modify fun _ => ⟨rfl, rfl, id, fun _ => rfl⟩) fun _ =>
      within_bind (within_read _) fun _ => within_bind (within_require _) fun _ =>
        within_modify fun _ => ⟨rfl, rfl, id, id⟩
  · exact within_modify fun _ => ⟨rfl, rfl, fun _ => rfl, id⟩

theorem sendRadiusMessage_within (setup : Setup) (requestAuthenticator : Bytes)
    (outbound : Option RadiusPacketInfo) :
    (RadiusModule.sendRadiusMessage setup requestAuthenticator outbound).Within ledgerFrame := by
  unfold RadiusModule.sendRadiusMessage RadiusModule.encodeRadiusResponse
    RadiusModule.socketSend
  refine within_whenSome _ fun info => within_bind ?_ fun packed => ?_
  · exact within_bind (within_read _) fun _ => within_bind (within_modify fun _ => rfl) fun _ =>
      within_bind (within_ofExcept _) fun _ => within_ofExcept _
  · exact within_bind (within_read _) fun _ => within_bind (within_require _) fun _ =>
      within_modify fun _ => rfl

namespace Registry

theorem store_within (srcMac : Address) (machine : AuthStateMachine) :
    (Authenticator.store srcMac machine).Within registryFrame :=
  within_modify fun _ => ⟨rfl, id, id⟩

theorem processTestResult_within (srcMac : Option Address) (isSuccess : Bool) :
    (Authenticator.processTestResult srcMac isSuccess).Within registryFrame := by
  unfold Authenticator.processTestResult Authenticator.recordResult
  refine within_bind (within_whenSome _ fun present => ?_) fun _ =>
    keepsRegistry endAuthentication_within
  exact within_bind (within_modify fun _ => ⟨rfl, id, id⟩) fun _ => within_bind (within_read _) fun _ =>
    within_bind (within_require _) fun _ => within_modify fun _ => ⟨rfl, id, id⟩

variable (setup : Setup) (now : Nat)

theorem receivedEapolStart_within (machine : AuthStateMachine) :
    (machine.receivedEapolStart setup now).Within registryFrame :=
  within_bind (within_ofExcept _) fun _ => within_bind (store_within _ _) fun _ =>
    keepsRegistry (sendEapResponse_within _ _)

theorem receivedEapRequest_within (machine : AuthStateMachine) (message : EapMessage) :
    (machine.receivedEapRequest setup now message).Within registryFrame :=
  within_bind (store_within _ _) fun _ => within_bind (within_ofExcept _) fun _ =>
    within_bind (store_within _ _) fun _ => within_bind (within_ofExcept _) fun _ =>
      within_bind (store_within _ _) fun _ => keepsRegistry (sendRadiusPacket_within _)

theorem receivedRadiusResponse_within (machine : AuthStateMachine)
    (payload : Option EapMessage) (radiusState : Option Bytes) (packetType : PacketType) :
    (machine.receivedRadiusResponse setup now payload radiusState packetType).Within
      registryFrame := by
  unfold AuthStateMachine.receivedRadiusResponse
  refine within_bind (store_within _ _) fun _ => ?_
  cases packetType with
  | accessReject | accessAccept =>
      exact within_bind (within_ofExcept _) fun _ => within_bind (store_within _ _) fun _ =>
        within_bind (processTestResult_within _ _) fun _ => keepsRegistry (sendEapResponse_within _ _)
  | accessRequest | accessChallenge =>
      exact within_bind (within_ofExcept _) fun _ => within_bind (store_within _ _) fun _ =>
        keepsRegistry (sendEapResponse_within _ _)

theorem handleTimer_within (machine : AuthStateMachine) :
    (machine.handleTimer setup now).Within registryFrame := by
  unfold AuthStateMachine.handleTimer
  refine within_when (within_ite ?_ ?_)
  · exact within_bind (store_within _ _) fun _ => keepsRegistry (runRetry_within machine)
  · exact within_bind (store_within _ _) fun _ =>
      within_bind (processTestResult_within _ _) fun _ => keepsRegistry (sendEapResponse_within _ _)

theorem sweep_within (size : Nat) :
    ∀ addresses, (Authenticator.sweep setup now size addresses).Within registryFrame
  | [] => within_bind (within_read _) fun _ => within_require _
  | _ :: rest =>
      within_bind (within_read _) fun _ => within_bind (within_require _) fun _ =>
        within_bind (within_whenSome _ fun machine => handleTimer_within setup now machine)
          fun _ => sweep_within size rest

theorem handleSmTimeout_within :
    (Authenticator.handleSmTimeout setup now).Within registryFrame :=
  within_bind within_get fun _ =>
    within_ite (within_when (processTestResult_within _ _))
      (sweep_within setup now _ _)

theorem machineOf_within (srcMac : Address) :
    (Authenticator.machineOf srcMac).Within registryFrame := by
  refine within_bind (within_read _) fun machines => ?_
  cases machines.get? srcMac with
  | none => exact within_raise _
  | some machine => exact within_pure machine

theorem receiveEapMessage_within (packedMessage : Bytes) :
    (EapModule.receiveEapMessage setup now packedMessage).Within registryFrame := by
  unfold EapModule.receiveEapMessage
  refine within_when ?_
  split
  · exact within_pure ()
  · exact within_raise _
  · refine within_bind (within_when (within_modify fun _ => ⟨rfl, id, id⟩)) fun _ =>
      within_whenSome _ fun srcMac => within_ite ?_ ?_
    · exact within_bind within_get fun _ => within_when (within_bind (within_read _) fun _ =>
        within_bind (store_within _ _) fun _ => receivedEapolStart_within setup now _)
    · exact within_bind (machineOf_within srcMac) fun machine =>
        receivedEapRequest_within setup now machine _

theorem receiveRadiusMessage_within (packedMessage : Bytes) :
    (RadiusModule.receiveRadiusMessage setup now packedMessage).Within registryFrame :=
  within_bind within_get fun _ => within_bind (within_ofExcept _) fun _ =>
    within_whenSome _ fun _ => within_bind (machineOf_within _) fun machine =>
      receivedRadiusResponse_within setup now machine _ _ _

end Registry

/-- The tables of outstanding requests, with the history of all requests. -/
def tables (auth : Authenticator) :=
  (auth.nextRadiusId, auth.packetIdToRequestAuthenticator, auth.packetIdToMac, auth.requests)

theorem tables_eq_of_registry {auth reached : Authenticator}
    (same : registry reached = registry auth) : tables reached = tables auth := by
  simp only [registry, Prod.mk.injEq] at same
  obtain ⟨next, authenticators, macs, requests, _⟩ := same
  simp only [tables, next, authenticators, macs, requests]

theorem socketSend_within (packed : Bytes) :
    (RadiusModule.socketSend packed).Within registryFrame :=
  within_bind (within_read _) fun _ => within_bind (within_require _) fun _ =>
    within_modify fun _ => ⟨rfl, id, id⟩

/-- Sending a packet registers it, also when it cannot be encoded. -/
theorem sendRadiusMessage_tables (setup : Setup) (authenticator : Bytes)
    (info : RadiusPacketInfo) (auth : Authenticator) :
    (RadiusModule.sendRadiusMessage setup authenticator (some info)).Holds auth
      fun _ reached => tables reached = tables (RadiusModule.registerRequest info authenticator
        auth) := by
  unfold RadiusModule.sendRadiusMessage RadiusModule.encodeRadiusResponse
  simp only [whenSome, holds_bind, holds_read, then_ok, holds_modify, holds_ofExcept]
  cases RadiusModule.prepareExtraRadiusAttributes setup with
  | error raised => exact rfl
  | ok extras =>
      rw [then_ok, holds_ofExcept]
      cases MessagePacker.radiusPack setup.hashes info.payload info.srcMac info.identity
          auth.nextRadiusId authenticator info.state setup.radiusSecret info.portId extras with
      | error raised => exact rfl
      | ok packed =>
          exact ((socketSend_within packed).holds _).mono fun _ _ same =>
            tables_eq_of_registry same.registry

/-- Only sending a packet changes the tables, and then by one request. -/
theorem step_tables (setup : Setup) (event : Event) (auth : Authenticator) :
    tables (Authenticator.step setup event auth) = tables auth ∨
      ∃ nonce info, event = .send nonce ∧
        tables (Authenticator.step setup event auth) =
          tables (RadiusModule.registerRequest info nonce.1 auth) := by
  cases event with
  | frame packedMessage now =>
      rw [Authenticator.step, Authenticator.takeFrame]
      split
      · have same := tables_eq_of_registry
          (Registry.receiveEapMessage_within setup now (Authenticator.received packedMessage)
            auth).registry
        exact .inl same
      · exact .inl rfl
  | datagram packedMessage now =>
      rw [Authenticator.step, Authenticator.takeDatagram]
      split
      · have same := tables_eq_of_registry
          (Registry.receiveRadiusMessage_within setup now
            (Authenticator.received packedMessage) auth).registry
        exact .inl same
      · exact .inl rfl
  | tick now =>
      rw [Authenticator.step, Authenticator.takeTick]
      split
      · exact .inl (tables_eq_of_registry (Registry.handleSmTimeout_within setup now auth).registry)
      · exact .inl rfl
  | send nonce =>
      rw [Authenticator.step, Authenticator.takePacket]
      split
      · exact .inl rfl
      · rename_i outbound rest _
        split
        · cases outbound with
          | none => exact .inl rfl
          | some info =>
              exact .inr ⟨nonce, info, rfl,
                sendRadiusMessage_tables setup nonce.1 info { auth with radiusQueue := rest }⟩
        · exact .inl rfl

end Daq.Dot1x
