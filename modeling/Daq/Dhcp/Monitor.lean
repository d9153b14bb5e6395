import Daq.Data
import Daq.Dhcp.Line
import Daq.Lib.Loops

namespace Daq.Dhcp

/-! The monitor of the DHCP traffic of a gateway. -/

inductive Mode
  | done
  | long
deriving DecidableEq

structure Target where
  type : String
  ip : String
  mac : String
  delta : Int
deriving DecidableEq

/-- What the callback is called with. -/
inductive Call
  | target (mode : Mode) (target : Target)
  | error (raised : Exc)
deriving DecidableEq

/-- The monitor, with the calls that have been made of its callback. -/
structure Monitor where
  scanStart : Int := 0
  deviceDhcps : Dict Mac Int := .empty
  targetIp : Option String := none
  targetMac : Option String := none
  dhcpTraffic : Bool := true
  calls : List Call := []

/-- A line as it is read, empty if there is none yet, with what the clock says
when the message is complete and a little later, and what the callback raises if
it is called. -/
structure Input where
  line : String
  now : Int
  later : Int
  answer : Option Exc

def dhcpThreshholdSec : Int := 80

/-- The types of messages that are a reason to call. -/
def Completing (dhcpType : String) : Prop :=
  dhcpType = "ACK" ∨ dhcpType = "Offer" ∨ dhcpType = "STATIC"

instance (dhcpType : String) : Decidable (Completing dhcpType) :=
  inferInstanceAs (Decidable (_ ∨ _ ∨ _))

def Monitor.targetOf (monitor : Monitor) (dhcpType : String) (now : Int) : Target where
  type := dhcpType
  ip := monitor.targetIp.getD ""
  mac := monitor.targetMac.getD ""
  delta := now - (monitor.deviceDhcps.get? (monitor.targetMac.getD "")).getD monitor.scanStart

def modeOf (target : Target) : Mode :=
  if target.type ≠ "STATIC" ∧ target.delta > dhcpThreshholdSec then .long else .done

def dhcpComplete (dhcpType : String) (input : Input) : Exec Monitor Exc Unit :=
  if ¬ Completing dhcpType then pure ()
  else do
    let monitor ← .get
    .require (NonEmpty monitor.targetIp) (.assertionError "dhcp missing ip address")
    .require (NonEmpty monitor.targetMac) (.assertionError "dhcp missing mac address")
    let target := monitor.targetOf dhcpType input.now
    .when (dhcpType = "ACK") (.modify fun monitor =>
      { monitor with deviceDhcps := monitor.deviceDhcps.insert target.mac input.later })
    .modify fun monitor => { monitor with calls := monitor.calls ++ [.target (modeOf target) target] }
    .whenSome input.answer .raise

/-- What becomes of the part of a line that matches. -/
def dhcpMatch (found : Match) (input : Input) : Exec Monitor Exc Unit :=
  match found with
  | .start => .modify fun monitor => { monitor with targetMac := none, targetIp := none }
  | .yourIp ip => do
      let monitor ← .get
      .require (¬ NonEmpty monitor.targetIp) (.assertionError "")
      .modify fun monitor => { monitor with targetIp := some ip.1 }
  | .clientMac mac => do
      let monitor ← .get
      .require (¬ NonEmpty monitor.targetMac) (.assertionError "")
      .modify fun monitor => { monitor with targetMac := some mac.1 }
  | .messageType name => dhcpComplete name.1 input
  | .arp mac ip => do
      .modify fun monitor => { monitor with targetMac := some mac.1, targetIp := some ip.1 }
      dhcpComplete "STATIC" input

def dhcpLine (input : Input) : Exec Monitor Exc Unit :=
  if input.line = "" then pure ()
  else .whenSome (searchLine input.line) (dhcpMatch · input)

def dhcpError (raised : Exc) : Exec Monitor Exc Unit := do
  .modify fun monitor => { monitor with dhcpTraffic := false }
  .modify fun monitor => { monitor with calls := monitor.calls ++ [.error raised] }

/-- The lines of a stream, until one of them raises. -/
def monitorStream (inputs : List Input) : Exec Monitor Exc Unit :=
  .attempt (.forEach inputs dhcpLine) dhcpError

/-! Packets, and the lines they come in. -/

inductive Packet
  | dhcp (ip : Option Captured) (mac messageType : Captured)
  | arp (mac ip : Captured)

def Packet.parts : Packet → List Match
  | .dhcp none mac messageType => [.start, .clientMac mac, .messageType messageType]
  | .dhcp (some ip) mac messageType =>
      [.start, .yourIp ip, .clientMac mac, .messageType messageType]
  | .arp mac ip => [.arp mac ip]

def Packet.ip : Packet → Option Captured
  | .dhcp ip _ _ => ip
  | .arp _ ip => some ip

def Packet.mac : Packet → Captured
  | .dhcp _ mac _ => mac
  | .arp mac _ => mac

def Packet.typeName : Packet → String
  | .dhcp _ _ messageType => messageType.1
  | .arp _ _ => "STATIC"

/-- The address is that of the packet, and so is the MAC. -/
def Packet.Gives (packet : Packet) (target : Target) : Prop :=
  packet.ip.map Subtype.val = some target.ip ∧ packet.mac.1 = target.mac

/-- A line that matches nothing may stand anywhere. -/
def LinesOf (packets : List Packet) (inputs : List Input) : Prop :=
  inputs.filterMap (fun input => searchLine input.line) = packets.flatMap Packet.parts

instance (packets : List Packet) (inputs : List Input) : Decidable (LinesOf packets inputs) :=
  inferInstanceAs (Decidable (_ = _))

/-- What has been called is for targets that the packets give. -/
def Called (packets : List Packet) (before after : List Call) : Prop :=
  ∃ targets : List (Mode × Target),
    after = before ++ targets.map (fun call => .target call.1 call.2) ∧
      ∀ call ∈ targets, ∃ packet ∈ packets, packet.Gives call.2

/-- No line raises, and every call of the callback is for the address and the
MAC of one packet. -/
def Robust (packets : List Packet) (inputs : List Input) (monitor : Monitor) : Prop :=
  ((Exec.forEach inputs dhcpLine).run monitor).1 = .ok () ∧
    Called packets monitor.calls ((monitorStream inputs).run monitor).2.calls

/-- The line completes a message that is a reason to call. -/
def Match.Completes : Match → Prop
  | .messageType name => Completing name.1
  | .arp _ _ => True
  | _ => False

/-- A packet that is a reason to call has an address. -/
def Packet.Addressed (packet : Packet) : Prop := Completing packet.typeName → packet.ip ≠ none

/-- The callback returns where it is called for a line. -/
def Input.Answered (input : Input) (found : Match) : Prop :=
  found.Completes → input.answer = none

/-! A packet leads to one completion, from a state that depends on it alone. -/

section Packets

variable {monitor : Monitor} {input : Input} {packet : Packet} {packets : List Packet}

abbrev Part := Match × Input

def handle (part : Part) : Exec Monitor Exc Unit := dhcpMatch part.1 part.2

/-- The fields when the packet has been read. -/
def Monitor.reading (monitor : Monitor) (packet : Packet) : Monitor :=
  { monitor with targetIp := packet.ip.map Subtype.val, targetMac := some packet.mac.1 }

theorem nonEmpty_captured (captured : Captured) : NonEmpty (some captured.1) := captured.2

theorem not_nonEmpty_none : ¬ NonEmpty none := not_not.mpr rfl

theorem exists_last {parts : List Part} (same : parts.map Prod.fst = packet.parts) :
    ∃ last, (Exec.forEach parts handle).run monitor =
        (dhcpComplete packet.typeName last >>= fun _ => pure ()).run (monitor.reading packet) ∧
      ((∀ part ∈ parts, part.2.Answered part.1) ↔
        (Completing packet.typeName → last.answer = none)) := by
  cases packet with
  | arp mac ip =>
      obtain ⟨⟨_, last⟩, rest, rfl, rfl, ended⟩ := List.map_eq_cons_iff.mp same
      cases List.map_eq_nil_iff.mp ended
      refine ⟨last, rfl, ?_⟩
      simp [Input.Answered, Match.Completes, Packet.typeName, Completing]
  | dhcp ip mac messageType =>
      cases ip with
      | none =>
          obtain ⟨⟨_, first⟩, _, rfl, rfl, behindStart⟩ := List.map_eq_cons_iff.mp same
          obtain ⟨⟨_, second⟩, _, rfl, rfl, behindMac⟩ := List.map_eq_cons_iff.mp behindStart
          obtain ⟨⟨_, last⟩, _, rfl, rfl, ended⟩ := List.map_eq_cons_iff.mp behindMac
          cases List.map_eq_nil_iff.mp ended
          refine ⟨last, rfl, ?_⟩
          simp [Input.Answered, Match.Completes, Packet.typeName]
      | some ip =>
          obtain ⟨⟨_, first⟩, _, rfl, rfl, behindStart⟩ := List.map_eq_cons_iff.mp same
          obtain ⟨⟨_, second⟩, _, rfl, rfl, behindIp⟩ := List.map_eq_cons_iff.mp behindStart
          obtain ⟨⟨_, third⟩, _, rfl, rfl, behindMac⟩ := List.map_eq_cons_iff.mp behindIp
          obtain ⟨⟨_, last⟩, _, rfl, rfl, ended⟩ := List.map_eq_cons_iff.mp behindMac
          cases List.map_eq_nil_iff.mp ended
          refine ⟨last, rfl, ?_⟩
          simp [Input.Answered, Match.Completes, Packet.typeName]

theorem dhcpComplete_run_other {dhcpType : String} (other : ¬ Completing dhcpType) :
    (dhcpComplete dhcpType input).run monitor = (.ok (), monitor) := by
  rw [dhcpComplete, if_pos other]
  rfl

theorem dhcpComplete_run_missing {dhcpType : String} (completing : Completing dhcpType)
    (missing : monitor.targetIp = none) :
    (dhcpComplete dhcpType input).run monitor =
      (.error (.assertionError "dhcp missing ip address"), monitor) := by
  rw [dhcpComplete, if_neg (not_not.mpr completing), Exec.get_bind_run, missing,
    Exec.require_bind_run_not _ _ not_nonEmpty_none]

/-- With an address and a MAC the callback is called with both, and decides how
it ends. -/
theorem dhcpComplete_run {dhcpType : String} {ip mac : Captured}
    (completing : Completing dhcpType) (hasIp : monitor.targetIp = some ip.1)
    (hasMac : monitor.targetMac = some mac.1) :
    ∃ reached mode delta,
      (dhcpComplete dhcpType input).run monitor =
        ((Exec.whenSome input.answer Exec.raise).run reached) ∧
      reached.calls = monitor.calls ++ [.target mode ⟨dhcpType, ip.1, mac.1, delta⟩] := by
  have target : monitor.targetOf dhcpType input.now = ⟨dhcpType, ip.1, mac.1,
      (monitor.targetOf dhcpType input.now).delta⟩ := by
    rw [Monitor.targetOf, hasIp, hasMac]
    rfl
  rw [dhcpComplete, if_neg (not_not.mpr completing), Exec.get_bind_run,
    Exec.require_bind_run _ _ (by rw [hasIp]; exact nonEmpty_captured ip),
    Exec.require_bind_run _ _ (by rw [hasMac]; exact nonEmpty_captured mac)]
  dsimp only
  by_cases acknowledged : dhcpType = "ACK"
  · rw [Exec.when, if_pos acknowledged, Exec.modify_bind_run, Exec.modify_bind_run]
    exact ⟨_, _, _, rfl, congrArg (fun target => monitor.calls ++ [Call.target _ target]) target⟩
  · rw [Exec.when, if_neg acknowledged]
    exact ⟨_, _, _, rfl, congrArg (fun target => monitor.calls ++ [Call.target _ target]) target⟩

theorem called_nil (calls : List Call) : Called packets calls calls :=
  ⟨[], (List.append_nil _).symm, List.forall_mem_nil _⟩

theorem Called.cons {before between after : List Call} (first : Called [packet] before between)
    (later : Called packets between after) : Called (packet :: packets) before after := by
  obtain ⟨early, rfl, given⟩ := first
  obtain ⟨late, rfl, others⟩ := later
  refine ⟨early ++ late, by rw [List.map_append, List.append_assoc], ?_⟩
  intro call member
  cases List.mem_append.mp member with
  | inl inside =>
      obtain ⟨found, single, gives⟩ := given call inside
      exact ⟨packet, List.mem_cons_self, List.mem_singleton.mp single ▸ gives⟩
  | inr inside =>
      obtain ⟨found, listed, gives⟩ := others call inside
      exact ⟨found, List.mem_cons_of_mem _ listed, gives⟩

theorem packet_run {parts : List Part} (same : parts.map Prod.fst = packet.parts) :
    (((Exec.forEach parts handle).run monitor).1 = .ok () ↔
        packet.Addressed ∧ ∀ part ∈ parts, part.2.Answered part.1) ∧
      Called [packet] monitor.calls ((Exec.forEach parts handle).run monitor).2.calls := by
  obtain ⟨last, ran, answered⟩ := @exists_last monitor packet parts same
  rw [ran, answered, Packet.Addressed]
  by_cases completing : Completing packet.typeName
  · cases address : packet.ip with
    | none =>
        have missing : (monitor.reading packet).targetIp = none := by
          rw [Monitor.reading, address]
          rfl
        rw [Exec.bind_run_error (dhcpComplete_run_missing completing missing)]
        exact ⟨by simp [completing], called_nil _⟩
    | some ip =>
        have present : (monitor.reading packet).targetIp = some ip.1 := by
          rw [Monitor.reading, address]
          rfl
        obtain ⟨reached, mode, delta, completed, calls⟩ :=
          @dhcpComplete_run _ last _ ip packet.mac completing present rfl
        have gives : Called [packet] monitor.calls reached.calls := by
          refine ⟨[(mode, ⟨packet.typeName, ip.1, packet.mac.1, delta⟩)], calls, ?_⟩
          exact List.forall_mem_singleton.mpr
            ⟨packet, List.mem_singleton_self _, congrArg _ address, rfl⟩
        cases answer : last.answer with
        | none =>
            rw [answer] at completed
            rw [Exec.bind_run_ok completed]
            exact ⟨by simp, gives⟩
        | some raised =>
            rw [answer] at completed
            rw [Exec.bind_run_error completed]
            exact ⟨by simp [completing], gives⟩
  · rw [Exec.bind_run_ok (dhcpComplete_run_other completing)]
    exact ⟨by simp [completing], called_nil _⟩

theorem packets_run {parts : List Part}
    (same : parts.map Prod.fst = packets.flatMap Packet.parts) :
    (((Exec.forEach parts handle).run monitor).1 = .ok () ↔
        (∀ packet ∈ packets, packet.Addressed) ∧ ∀ part ∈ parts, part.2.Answered part.1) ∧
      Called packets monitor.calls ((Exec.forEach parts handle).run monitor).2.calls := by
  induction packets generalizing parts monitor with
  | nil =>
      cases List.map_eq_nil_iff.mp same
      exact ⟨by simp [Exec.forEach], called_nil _⟩
  | cons packet rest induction =>
      rw [List.flatMap_cons] at same
      obtain ⟨first, others, rfl, here, behind⟩ := List.map_eq_append_iff.mp same
      obtain ⟨ends, called⟩ := @packet_run monitor packet first here
      rw [List.forall_mem_cons, List.forall_mem_append]
      cases ran : (Exec.forEach first handle).run monitor with
      | mk outcome reached =>
          rw [ran] at ends called
          cases outcome with
          | error raised =>
              have bad : ¬ (packet.Addressed ∧ ∀ part ∈ first, part.2.Answered part.1) := by
                intro good
                cases ends.mpr good
              rw [Exec.forEach_append_run_error ran]
              refine ⟨⟨fun impossible => ?_, fun good => ?_⟩, called.cons (called_nil _)⟩
              · cases impossible
              · exact absurd ⟨good.1.1, good.2.1⟩ bad
          | ok _ =>
              rw [Exec.forEach_append_run ran]
              have good := ends.mp rfl
              obtain ⟨otherEnds, otherCalled⟩ := @induction reached _ behind
              rw [otherEnds]
              refine ⟨⟨fun other => ?_, fun all => ?_⟩, called.cons otherCalled⟩
              · exact ⟨⟨good.1, other.1⟩, good.2, other.2⟩
              · exact ⟨all.1.2, all.2.2⟩

end Packets

/-! Lines that match nothing are passed over. -/

section Lines

variable {monitor : Monitor} {packets : List Packet} {inputs : List Input}

/-- The lines that match, with what they match. -/
def related (inputs : List Input) : List Part :=
  inputs.filterMap fun input => (searchLine input.line).map fun found => (found, input)

theorem dhcpLine_eq (input : Input) :
    dhcpLine input = .whenSome (searchLine input.line) (dhcpMatch · input) := by
  rw [dhcpLine]
  split
  · next empty =>
      rw [empty]
      rfl
  · rfl

theorem forEach_dhcpLine_run :
    (Exec.forEach inputs dhcpLine).run monitor = (Exec.forEach (related inputs) handle).run monitor := by
  induction inputs generalizing monitor with
  | nil => rfl
  | cons input rest induction =>
      rw [Exec.forEach, dhcpLine_eq, related, List.filterMap_cons]
      cases found : searchLine input.line with
      | none => exact induction
      | some part =>
          rw [Option.map_some, Exec.whenSome, Exec.forEach]
          cases ran : (dhcpMatch part input).run monitor with
          | mk outcome reached =>
              cases outcome with
              | error raised =>
                  exact (Exec.bind_run_error ran).trans (Exec.bind_run_error ran).symm
              | ok _ =>
                  exact ((Exec.bind_run_ok ran).trans induction).trans (Exec.bind_run_ok ran).symm

theorem fst_related (lines : LinesOf packets inputs) :
    (related inputs).map Prod.fst = packets.flatMap Packet.parts := by
  rw [related, List.map_filterMap, ← lines]
  simp only [Option.map_map, Function.comp_def, Option.map_id']

theorem forall_mem_related {property : Part → Prop} :
    (∀ part ∈ related inputs, property part) ↔
      ∀ input ∈ inputs, ∀ found, searchLine input.line = some found → property (found, input) := by
  simp only [related, List.mem_filterMap, Option.map_eq_some_iff]
  constructor
  · intro all input member found here
    exact all _ ⟨input, member, found, here, rfl⟩
  · rintro all _ ⟨input, member, found, here, rfl⟩
    exact all input member found here

/-- Whatever happens, the callback is called for targets of one packet only. -/
theorem called_of_lines (lines : LinesOf packets inputs) :
    Called packets monitor.calls ((Exec.forEach inputs dhcpLine).run monitor).2.calls := by
  rw [forEach_dhcpLine_run]
  exact (packets_run (fst_related lines)).2

theorem forEach_dhcpLine_ok_iff (lines : LinesOf packets inputs) :
    ((Exec.forEach inputs dhcpLine).run monitor).1 = .ok () ↔
      (∀ packet ∈ packets, packet.Addressed) ∧
        ∀ input ∈ inputs, ∀ found, searchLine input.line = some found → input.Answered found := by
  rw [forEach_dhcpLine_run, (packets_run (fst_related lines)).1, forall_mem_related]

theorem robust_iff (lines : LinesOf packets inputs) :
    Robust packets inputs monitor ↔
      (∀ packet ∈ packets, packet.Addressed) ∧
        ∀ input ∈ inputs, ∀ found, searchLine input.line = some found → input.Answered found := by
  rw [← forEach_dhcpLine_ok_iff lines]
  constructor
  · exact And.left
  · intro returns
    refine ⟨returns, ?_⟩
    have called := @called_of_lines monitor packets inputs lines
    rw [monitorStream, Exec.attempt]
    dsimp only
    cases ran : (Exec.forEach inputs dhcpLine).run monitor with
    | mk outcome reached =>
        rw [ran] at returns called
        cases returns
        exact called

end Lines

/-! A lease, and what a server answers to an INFORM: an ACK without an address. -/

namespace Informed

def said (line : String) : Input := ⟨line, 20, 20, none⟩

def lease : List Input := [
  said "    10.0.0.1.67 > 10.20.32.162.68: BOOTP/DHCP, Reply, length 300, xid 0x1e8f, Flags [none]\n",
  said "\t  Your-IP 10.20.32.162\n",
  said "\t  Client-Ethernet-Address 9a:02:57:1e:8f:01\n",
  said "\t  Vendor-rfc1048 Extensions\n",
  said "\t    DHCP-Message Option 53, length 1: ACK\n"]

def informed : List Input := lease.filter fun input => input.line ≠ "\t  Your-IP 10.20.32.162\n"

def mac : Captured := ⟨"9a:02:57:1e:8f:01", by decide⟩

def ack : Captured := ⟨"ACK", by decide⟩

theorem lease_lines : LinesOf [.dhcp (some ⟨"10.20.32.162", by decide⟩) mac ack] lease := by
  decide +kernel

theorem informed_lines : LinesOf [.dhcp none mac ack] informed := by
  decide +kernel

theorem lease_robust : Robust [.dhcp (some ⟨"10.20.32.162", by decide⟩) mac ack] lease {} := by
  apply (robust_iff lease_lines).mpr
  constructor
  · exact List.forall_mem_singleton.mpr fun _ => Option.some_ne_none _
  · intro input member _ _ _
    revert input
    simp [lease, said]

/-- The assertion that there is an address does not hold. -/
theorem informed_not_robust : ¬ Robust [.dhcp none mac ack] informed {} := by
  intro robust
  have good := (forEach_dhcpLine_ok_iff informed_lines).mp robust.1
  exact good.1 _ (List.mem_singleton_self _) (.inl rfl) rfl

end Informed

end Daq.Dhcp
