import Daq.Acl.Mirror

namespace Daq.Acl

/-! DHCP requests and replies of attached devices. -/

variable {topology : FaucetTopology} {frame : Frame}

/-- From a DHCP client to a server. -/
def Frame.Request (frame : Frame) : Prop :=
  frame.ethType = 0x800 ∧ frame.nwProto = some 17 ∧ frame.udpSrc = some 68 ∧
    frame.udpDst = some 67

/-- From a DHCP server to a client. -/
def Frame.Reply (frame : Frame) : Prop :=
  frame.ethType = 0x800 ∧ frame.nwProto = some 17 ∧ frame.udpSrc = some 67 ∧
    frame.udpDst = some 68

/-- The frame is sent back to where it came from with another VLAN. -/
def Reflected (acl : List Rule) (frame : Frame) (vlan : Option Nat) : Prop :=
  ∃ rule, firstMatch acl frame = some rule ∧
    rule.actions.output = some { port := some ofppInPort, swapVid := vlan }

/-- The frame goes nowhere, except that what a live target sends is mirrored. -/
def Dropped (topology : FaucetTopology) (acl : List Rule) (frame : Frame) : Prop :=
  ∃ rule, firstMatch acl frame = some rule ∧ rule.actions.allow ≠ some true ∧
    ∀ port ∈ rule.outputs, frame.vlan = none ∧
      ∃ target ∈ topology.targets, port = mirrorPort target.port

theorem requestRule_matches_iff (device : Attached) :
    (requestRule topology device).matches frame = true ↔
      frame.Request ∧ ∀ vlan, device.vlan = some vlan → frame.vlan = some vlan := by
  simp [Rule.matches, requestRule, Keywords.rule, Frame.Request, and_assoc]

theorem replyRule_matches_iff (device : Attached) :
    (replyRule topology device).matches frame = true ↔
      frame.Reply ∧ frame.dlDst = device.mac ∧
        ∀ vlan, egressVlan topology device = some vlan → frame.vlan = some vlan := by
  simp [Rule.matches, replyRule, Keywords.rule, Frame.Reply, and_assoc, and_left_comm]

theorem learnRule_matches_iff : learnRule.matches frame = true ↔ frame.Request := by
  simp [Rule.matches, learnRule, Keywords.rule, Frame.Request, and_assoc]

theorem denyRule_matches_iff : denyRule.matches frame = true ↔ frame.Reply := by
  simp [Rule.matches, denyRule, Keywords.rule, Frame.Reply, and_assoc]

theorem Frame.Request.not_reply (request : frame.Request) : ¬ frame.Reply := by
  rintro ⟨_, _, reply, _⟩
  cases request.2.2.1.symm.trans reply

theorem Frame.Reply.not_request (reply : frame.Reply) : ¬ frame.Request :=
  fun request => request.not_reply reply

/-! The rules that come before. -/

theorem dot1x_ip (ip : frame.ethType = 0x800) :
    ∀ rule ∈ topology.devices.flatMap (dot1xRules topology), rule.matches frame = false := by
  intro rule member
  obtain ⟨device, _, member⟩ := List.mem_flatMap.mp member
  obtain ⟨portSet, _, rfl⟩ := List.mem_map.mp member
  rw [Bool.eq_false_iff]
  intro fits
  cases ip.symm.trans ((dot1xRule_matches_iff device portSet).mp fits).1

theorem mirroring_tagged {vlan : Nat} (tagged : frame.vlan = some vlan) :
    ∀ rule ∈ topology.mirroring, rule.matches frame = false := by
  intro rule member
  obtain ⟨tuples, _, member⟩ := List.mem_flatMap.mp member
  obtain ⟨source, _, member⟩ := List.mem_flatMap.mp member
  rw [Bool.eq_false_iff]
  intro fits
  cases tagged.symm.trans (mirrorRules_source member fits).2

/-- A rule for mirroring is no more than that. -/
theorem mirroring_only {rule : Rule} (member : rule ∈ topology.mirroring) :
    rule.actions.allow = none ∧
      ∀ port ∈ rule.outputs, ∃ target ∈ topology.targets, port = mirrorPort target.port := by
  obtain ⟨tuples, listed, member⟩ := List.mem_flatMap.mp member
  obtain ⟨source, inside, member⟩ := List.mem_flatMap.mp member
  obtain ⟨portSet, rfl⟩ := mem_mirrors_values listed
  have mirrors : ∀ tuple ∈ (topology.members portSet).map mirrorTuple,
      ∃ target ∈ topology.targets, tuple.2 = mirrorPort target.port := by
    intro tuple inside
    obtain ⟨target, grouped, rfl⟩ := List.mem_map.mp inside
    exact ⟨target, List.mem_of_mem_filter grouped, rfl⟩
  rcases List.mem_cons.mp member with rfl | member
  · refine ⟨rfl, fun port output => ?_⟩
    rw [broadcastRule, Keywords.rule_outputs] at output
    obtain ⟨tuple, inside, rfl⟩ := List.mem_map.mp output
    exact mirrors tuple inside
  · rcases List.mem_append.mp member with paired | single
    · obtain ⟨destination, present, paired⟩ := List.mem_flatMap.mp paired
      unfold pairRules at paired
      split at paired
      · rw [List.mem_singleton.mp paired]
        refine ⟨rfl, fun port output => ?_⟩
        rw [pairRule, Keywords.rule_outputs] at output
        rcases List.mem_pair.mp output with rfl | rfl
        · exact mirrors source inside
        · exact mirrors destination present
      · exact absurd paired List.not_mem_nil
    · rw [List.mem_singleton.mp single]
      refine ⟨rfl, fun port output => ?_⟩
      rw [sourceRule, Keywords.rule_outputs] at output
      rw [List.mem_singleton.mp output]
      exact mirrors source inside

/-! The rules of the devices. -/

/-- The rules that reflect what an attached device sends and gets. -/
def reflectors (topology : FaucetTopology) (device : Attached) : List Rule :=
  [requestRule topology device, replyRule topology device]

theorem dhcpRules_external (external : topology.extFaucet = true) :
    dhcpRules topology = topology.devices.flatMap (reflectors topology) ++ [learnRule, denyRule] :=
  if_pos external

/-- The device's requests, or all requests if it has no VLAN, come in here. -/
def Attached.takes (vlan : Nat) (device : Attached) : Bool :=
  device.vlan.all fun number => decide (number = vlan)

theorem find?_request {vlan : Nat} (request : frame.Request) (tagged : frame.vlan = some vlan)
    (devices : List Attached) :
    (devices.flatMap (reflectors topology)).find? (·.matches frame) =
      (devices.find? (Attached.takes vlan)).map (requestRule topology) := by
  induction devices with
  | nil => rfl
  | cons device devices later =>
      have reply : (replyRule topology device).matches frame ≠ true := fun fits =>
        request.not_reply ((replyRule_matches_iff device).mp fits).1
      rw [List.flatMap_cons, List.find?_append, later, reflectors]
      by_cases takes : Attached.takes vlan device = true
      · have fits : (requestRule topology device).matches frame = true := by
          rw [requestRule_matches_iff]
          refine ⟨request, fun number present => ?_⟩
          rw [Attached.takes, present] at takes
          rw [tagged, of_decide_eq_true takes]
        rw [List.find?_cons_of_pos (p := fun rule : Rule => rule.matches frame) fits,
          List.find?_cons_of_pos takes]
        rfl
      · have fails : (requestRule topology device).matches frame ≠ true := by
          intro fits
          refine takes ?_
          rw [Attached.takes]
          cases present : device.vlan with
          | none => rfl
          | some number =>
              have same := ((requestRule_matches_iff device).mp fits).2 number present
              rw [tagged] at same
              exact decide_eq_true (Option.some.inj same).symm
        rw [List.find?_cons_of_neg (p := fun rule : Rule => rule.matches frame) fails,
          List.find?_cons_of_neg (p := fun rule : Rule => rule.matches frame) reply,
          List.find?_cons_of_neg takes]
        rfl

theorem find?_reply {device : Attached} (attached : device ∈ topology.devices)
    (distinct : (topology.devices.map Attached.mac).Nodup) (reply : frame.Reply)
    (addressed : frame.dlDst = device.mac)
    (egress : ∀ vlan, egressVlan topology device = some vlan → frame.vlan = some vlan) :
    (topology.devices.flatMap (reflectors topology)).find? (·.matches frame) =
      some (replyRule topology device) := by
  have request : ∀ other, (requestRule topology other).matches frame ≠ true := fun other fits =>
    reply.not_request ((requestRule_matches_iff other).mp fits).1
  rw [FirstMatch.find?_flatMap_of_unique attached, reflectors,
    List.find?_cons_of_neg (p := fun rule : Rule => rule.matches frame) (request _)]
  · exact List.find?_cons_of_pos ((replyRule_matches_iff device).mpr ⟨reply, addressed, egress⟩)
  · intro other present another
    refine List.find?_eq_none.mpr fun rule listed fits => ?_
    rcases List.mem_pair.mp listed with rfl | rfl
    · exact request other fits
    · have same := ((replyRule_matches_iff other).mp fits).2.1.symm.trans addressed
      exact another (List.inj_on_of_nodup_map distinct present attached same)

theorem find?_reply_stray (reply : frame.Reply)
    (stray : ∀ device ∈ topology.devices, frame.dlDst ≠ device.mac) :
    (topology.devices.flatMap (reflectors topology) ++ [learnRule, denyRule]).find?
      (·.matches frame) = some denyRule := by
  rw [FirstMatch.find?_append_right, List.find?_cons_of_neg, List.find?_cons_of_pos]
  · exact denyRule_matches_iff.mpr reply
  · exact fun fits => reply.not_request (learnRule_matches_iff.mp fits)
  · intro rule member
    obtain ⟨device, attached, listed⟩ := List.mem_flatMap.mp member
    rw [Bool.eq_false_iff]
    intro fits
    rcases List.mem_pair.mp listed with rfl | rfl
    · exact reply.not_request ((requestRule_matches_iff device).mp fits).1
    · exact stray device attached ((replyRule_matches_iff device).mp fits).2.1

section Generated

variable {acls : MainAcls} (generated : generateMainAcls topology = .ok acls)
variable (external : topology.extFaucet = true)

include generated external

theorem firstMatch_dhcp {vlan : Nat} (ip : frame.ethType = 0x800) (tagged : frame.vlan = some vlan)
    {rule : Rule}
    (found : (topology.devices.flatMap (reflectors topology)).find? (·.matches frame) = some rule) :
    firstMatch acls.priIncoming frame = some rule := by
  rw [firstMatch, generateMainAcls_incoming generated,
    FirstMatch.find?_append_right (dot1x_ip ip),
    FirstMatch.find?_append_right (mirroring_tagged tagged), dhcpRules_external external,
    List.append_assoc, List.find?_append, found, Option.some_or]

theorem request_reflected_iff {vlan : Nat} (request : frame.Request)
    (tagged : frame.vlan = some vlan) {taker : Attached}
    (takes : topology.devices.find? (Attached.takes vlan) = some taker) (egress : Option Nat) :
    Reflected acls.priIncoming frame egress ↔ egressVlan topology taker = egress := by
  have found : (topology.devices.flatMap (reflectors topology)).find? (·.matches frame) =
      some (requestRule topology taker) := by
    rw [find?_request request tagged, takes, Option.map_some]
  have first := firstMatch_dhcp generated external request.1 tagged found
  have output : (requestRule topology taker).actions.output =
      some { port := some ofppInPort, swapVid := egressVlan topology taker } :=
    Keywords.rule_output rfl
  constructor
  · rintro ⟨rule, found, reflects⟩
    cases first.symm.trans found
    rw [output] at reflects
    exact congrArg Output.swapVid (Option.some.inj reflects)
  · rintro rfl
    exact ⟨_, first, output⟩

theorem reply_reflected {vlan : Nat} {device : Attached} (attached : device ∈ topology.devices)
    (distinct : (topology.devices.map Attached.mac).Nodup)
    (egress : egressVlan topology device = some vlan) (reply : frame.Reply)
    (addressed : frame.dlDst = device.mac) (tagged : frame.vlan = some vlan) :
    Reflected acls.priIncoming frame device.vlan := by
  have found := find?_reply attached distinct reply addressed fun number same =>
    tagged.trans (egress.symm.trans same)
  exact ⟨_, firstMatch_dhcp generated external reply.1 tagged found, Keywords.rule_output rfl⟩

theorem stray_dropped (reply : frame.Reply)
    (stray : ∀ device ∈ topology.devices, frame.dlDst ≠ device.mac) :
    Dropped topology acls.priIncoming frame := by
  unfold Dropped firstMatch
  rw [generateMainAcls_incoming generated, FirstMatch.find?_append_right (dot1x_ip reply.1),
    List.find?_append]
  cases mirrored : topology.mirroring.find? (·.matches frame) with
  | some rule =>
      have member := List.mem_of_find?_eq_some mirrored
      have untagged : frame.vlan = none := by
        by_contra tagged
        obtain ⟨vlan, tagged⟩ := Option.ne_none_iff_exists'.mp tagged
        have fits := List.find?_some mirrored
        rw [mirroring_tagged tagged rule member] at fits
        exact Bool.false_ne_true fits
      obtain ⟨silent, mirrors⟩ := mirroring_only member
      refine ⟨rule, rfl, ?_, fun port output => ⟨untagged, mirrors port output⟩⟩
      exact silent ▸ (Option.some_ne_none true).symm
  | none =>
      rw [Option.none_or, dhcpRules_external external, List.find?_append,
        find?_reply_stray reply stray, Option.some_or]
      refine ⟨denyRule, rfl, by decide, fun port output => ?_⟩
      rw [denyRule, Keywords.rule_outputs] at output
      exact absurd output List.not_mem_nil

end Generated

/-- A device looks for a server. -/
def discover (mac : Mac) (vlan : Nat) : Frame where
  dlSrc := mac
  dlDst := broadcastMac
  ethType := 0x800
  vlan := some vlan
  nwProto := some 17
  udpSrc := some 68
  udpDst := some 67

/-- With an external stack, requests are reflected to the VLAN that is assigned
to their device, replies to the device's own, and other replies dropped, if and
only if of the devices that take the requests of a VLAN the first has the same
VLAN to send them to as the device they are from. -/
theorem dhcp_reflected_iff {topology : FaucetTopology} {acls : MainAcls}
    (generated : generateMainAcls topology = .ok acls) (external : topology.extFaucet = true)
    (distinct : (topology.setDevices.values.flatten.map Attached.mac).Nodup) :
    ((∀ device ∈ topology.setDevices.values.flatten, ∀ vlan, device.vlan = some vlan →
        ∀ frame : Frame, frame.Request → frame.dlSrc = device.mac → frame.vlan = some vlan →
          Reflected acls.priIncoming frame (egressVlan topology device)) ∧
      (∀ device ∈ topology.setDevices.values.flatten, ∀ vlan,
        egressVlan topology device = some vlan →
        ∀ frame : Frame, frame.Reply → frame.dlDst = device.mac → frame.vlan = some vlan →
          Reflected acls.priIncoming frame device.vlan) ∧
      (∀ frame : Frame, frame.Reply →
        (∀ device ∈ topology.setDevices.values.flatten, frame.dlDst ≠ device.mac) →
          Dropped topology acls.priIncoming frame)) ↔
      ∀ device ∈ topology.setDevices.values.flatten, ∀ vlan, device.vlan = some vlan →
        ∀ taker, topology.setDevices.values.flatten.find? (Attached.takes vlan) = some taker →
          egressVlan topology taker = egressVlan topology device := by
  constructor
  · rintro ⟨requests, _, _⟩ device attached vlan present taker takes
    have request : (discover device.mac vlan).Request := ⟨rfl, rfl, rfl, rfl⟩
    exact (request_reflected_iff generated external request rfl takes _).mp
      (requests device attached vlan present _ request rfl rfl)
  · intro agree
    refine ⟨?_, ?_, ?_⟩
    · intro device attached vlan present frame request _ tagged
      have some : (topology.devices.find? (Attached.takes vlan)).isSome := by
        refine List.find?_isSome.mpr ⟨device, attached, ?_⟩
        rw [Attached.takes, present]
        exact decide_eq_true rfl
      obtain ⟨taker, takes⟩ := Option.isSome_iff_exists.mp some
      exact (request_reflected_iff generated external request tagged takes _).mpr
        (agree device attached vlan present taker takes)
    · intro device attached vlan egress frame reply addressed tagged
      exact reply_reflected generated external attached distinct egress reply addressed tagged
    · intro frame reply stray
      exact stray_dropped generated external reply stray

namespace Reflect

def meter : Attached := { mac := "9a:02:57:1e:8f:06", vlan := some 272, gateway := some 1 }
def gauge : Attached := { mac := "9a:02:57:1e:8f:07", vlan := some 272, gateway := some 1 }

/-- Two devices of a VLAN for which the configured one is used. -/
def shared : FaucetTopology where
  secPort := 7
  extFaucet := true
  egressVlan := some 121
  setDevices := Dict.empty.insert 1 [meter, gauge]

theorem shared_generates : ∃ acls, generateMainAcls shared = .ok acls := ⟨_, rfl⟩

theorem shared_reflects : ∃ acls, generateMainAcls shared = .ok acls ∧
    Reflected acls.priIncoming (discover gauge.mac 272) (some 121) := by
  obtain ⟨acls, generated⟩ := shared_generates
  refine ⟨acls, generated, ?_⟩
  have requests := ((dhcp_reflected_iff generated rfl (by decide +kernel)).mpr ?_).1
  · exact requests gauge (by decide +kernel) 272 rfl _ ⟨rfl, rfl, rfl, rfl⟩ rfl rfl
  · intro device attached vlan present taker takes
    rcases List.mem_pair.mp attached with rfl | rfl
    · cases present
      cases takes
      rfl
    · cases present
      cases takes
      rfl

/-- The same devices, to which different VLANs are assigned. -/
def apart : FaucetTopology where
  secPort := 7
  extFaucet := true
  egressVlan := some 121
  setDevices := Dict.empty.insert 1
    [{ meter with assigned := some 30 }, { gauge with assigned := some 31 }]

theorem apart_generates : ∃ acls, generateMainAcls apart = .ok acls := ⟨_, rfl⟩

/-- The second device's requests leave on the VLAN of the first. -/
theorem apart_misdirected : ¬ ∀ (topology : FaucetTopology) (acls : MainAcls),
    generateMainAcls topology = .ok acls → topology.extFaucet = true →
    (topology.setDevices.values.flatten.map Attached.mac).Nodup →
    (∀ device ∈ topology.setDevices.values.flatten, ∀ vlan, device.vlan = some vlan →
        ∀ frame : Frame, frame.Request → frame.dlSrc = device.mac → frame.vlan = some vlan →
          Reflected acls.priIncoming frame (egressVlan topology device)) ∧
      (∀ device ∈ topology.setDevices.values.flatten, ∀ vlan,
        egressVlan topology device = some vlan →
        ∀ frame : Frame, frame.Reply → frame.dlDst = device.mac → frame.vlan = some vlan →
          Reflected acls.priIncoming frame device.vlan) ∧
      (∀ frame : Frame, frame.Reply →
        (∀ device ∈ topology.setDevices.values.flatten, frame.dlDst ≠ device.mac) →
          Dropped topology acls.priIncoming frame) := by
  intro reflects
  obtain ⟨acls, generated⟩ := apart_generates
  obtain ⟨requests, _, _⟩ := reflects apart acls generated rfl (by decide +kernel)
  have request : (discover gauge.mac 272).Request := ⟨rfl, rfl, rfl, rfl⟩
  have reflected := requests { gauge with assigned := some 31 } (by decide +kernel) 272 rfl _
    request rfl rfl
  have same := (request_reflected_iff generated rfl request rfl rfl _).mp reflected
  exact absurd same (by decide +kernel)

end Reflect

end Daq.Acl
