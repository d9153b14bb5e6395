import Daq.Acl.Incoming

namespace Daq.Acl

/-! Mirroring: where the frames of a live target are copied to. -/

variable {topology : FaucetTopology} {frame : Frame}

theorem dot1xRule_matches_iff (device : Attached) (portSet : Nat) :
    (dot1xRule topology device portSet).matches frame = true ↔
      frame.ethType = dot1xEthType ∧ frame.vlan = some (getPortVlan topology device.portNo) := by
  simp [Rule.matches, dot1xRule, Keywords.rule, VlanVid.matches]

theorem broadcastRule_matches_iff (tuples : List (Mac × Nat)) (source : Mac × Nat) :
    (broadcastRule tuples source).matches frame = true ↔
      frame.dlSrc = source.1 ∧ frame.dlDst = broadcastMac ∧ frame.vlan = none := by
  simp [Rule.matches, broadcastRule, Keywords.rule, VlanVid.matches, and_assoc]

theorem pairRule_matches_iff (source destination : Mac × Nat) :
    (pairRule source destination).matches frame = true ↔
      frame.dlSrc = source.1 ∧ frame.dlDst = destination.1 ∧ frame.vlan = none := by
  simp [Rule.matches, pairRule, Keywords.rule, VlanVid.matches, and_assoc]

theorem sourceRule_matches_iff (source : Mac × Nat) :
    (sourceRule source).matches frame = true ↔
      frame.dlSrc = source.1 ∧ frame.vlan = none := by
  simp [Rule.matches, sourceRule, Keywords.rule, VlanVid.matches]

theorem mirrorRules_source {tuples : List (Mac × Nat)} {source : Mac × Nat} {rule : Rule}
    (member : rule ∈ mirrorRules tuples source) (fits : rule.matches frame = true) :
    frame.dlSrc = source.1 ∧ frame.vlan = none := by
  rcases List.mem_cons.mp member with rfl | member
  · obtain ⟨same, _, untagged⟩ := (broadcastRule_matches_iff tuples source).mp fits
    exact ⟨same, untagged⟩
  · rcases List.mem_append.mp member with paired | single
    · obtain ⟨destination, _, paired⟩ := List.mem_flatMap.mp paired
      unfold pairRules at paired
      split at paired
      · rw [List.mem_singleton.mp paired, pairRule_matches_iff] at fits
        exact ⟨fits.1, fits.2.2⟩
      · exact absurd paired List.not_mem_nil
    · rw [List.mem_singleton.mp single, sourceRule_matches_iff] at fits
      exact fits

section Source

variable {tuples : List (Mac × Nat)} {source : Mac × Nat}

theorem find?_mirrorRules_broadcast (sent : frame.dlSrc = source.1) (untagged : frame.vlan = none)
    (broadcast : frame.dlDst = broadcastMac) :
    (mirrorRules tuples source).find? (·.matches frame) = some (broadcastRule tuples source) :=
  List.find?_cons_of_pos ((broadcastRule_matches_iff _ _).mpr ⟨sent, broadcast, untagged⟩)

theorem find?_mirrorRules_rest (unicast : frame.dlDst ≠ broadcastMac) :
    (mirrorRules tuples source).find? (·.matches frame) =
      (tuples.flatMap (pairRules source) ++ [sourceRule source]).find? (·.matches frame) :=
  List.find?_cons_of_neg fun fits =>
    unicast ((broadcastRule_matches_iff _ _).mp fits).2.1

theorem find?_pairRules (sent : frame.dlSrc = source.1) (untagged : frame.vlan = none)
    {destination : Mac × Nat} (member : destination ∈ tuples) (addressed : frame.dlDst = destination.1)
    (different : destination.1 ≠ source.1)
    (distinct : ∀ other ∈ tuples, other.1 = destination.1 → other = destination) :
    (tuples.flatMap (pairRules source)).find? (·.matches frame) =
      some (pairRule source destination) := by
  rw [FirstMatch.find?_flatMap_of_unique member, pairRules, if_pos different]
  · exact List.find?_cons_of_pos ((pairRule_matches_iff _ _).mpr ⟨sent, addressed, untagged⟩)
  · intro other inside another
    refine List.find?_eq_none.mpr fun rule listed fits => ?_
    unfold pairRules at listed
    split at listed
    · rw [List.mem_singleton.mp listed, pairRule_matches_iff] at fits
      exact another (distinct other inside (fits.2.1.symm.trans addressed))
    · exact absurd listed List.not_mem_nil

theorem find?_mirrorRules_pair (sent : frame.dlSrc = source.1) (untagged : frame.vlan = none)
    (unicast : frame.dlDst ≠ broadcastMac)
    {destination : Mac × Nat} (member : destination ∈ tuples) (addressed : frame.dlDst = destination.1)
    (different : destination.1 ≠ source.1)
    (distinct : ∀ other ∈ tuples, other.1 = destination.1 → other = destination) :
    (mirrorRules tuples source).find? (·.matches frame) = some (pairRule source destination) := by
  rw [find?_mirrorRules_rest unicast, List.find?_append,
    find?_pairRules sent untagged member addressed different distinct, Option.some_or]

theorem find?_mirrorRules_single (sent : frame.dlSrc = source.1) (untagged : frame.vlan = none)
    (unicast : frame.dlDst ≠ broadcastMac)
    (elsewhere : ∀ destination ∈ tuples, destination.1 ≠ source.1 →
      frame.dlDst ≠ destination.1) :
    (mirrorRules tuples source).find? (·.matches frame) = some (sourceRule source) := by
  rw [find?_mirrorRules_rest unicast, FirstMatch.find?_append_right]
  · exact List.find?_cons_of_pos ((sourceRule_matches_iff _).mpr ⟨sent, untagged⟩)
  · intro rule paired
    obtain ⟨destination, inside, paired⟩ := List.mem_flatMap.mp paired
    unfold pairRules at paired
    split at paired
    · rename_i different
      rw [List.mem_singleton.mp paired, Bool.eq_false_iff]
      exact fun fits => elsewhere destination inside different
        ((pairRule_matches_iff _ _).mp fits).2.1
    · exact absurd paired List.not_mem_nil

end Source

/-! The mirrors of a port set. -/

/-- The live targets of a port set. -/
def FaucetTopology.members (topology : FaucetTopology) (portSet : Nat) : List PortTarget :=
  topology.targets.filter fun target => decide (target.portSet = portSet)

/-- The MAC address and the mirror port of a target. -/
def mirrorTuple (target : PortTarget) : Mac × Nat := (target.mac, mirrorPort target.port)

theorem get?_foldl_addMirror (targets : List PortTarget) (portSet : Nat) :
    (targets.foldl addMirror .empty).get? portSet =
      if targets.filter (fun target => decide (target.portSet = portSet)) = [] then none
      else some ((targets.filter fun target => decide (target.portSet = portSet)).map
        mirrorTuple) := by
  induction targets using List.reverseRecOn with
  | nil => rfl
  | append_singleton targets target before =>
      rw [List.foldl_append, List.foldl_cons, List.foldl_nil, addMirror, List.filter_append]
      by_cases same : target.portSet = portSet
      · subst same
        rw [Dict.get?_insert_self, before]
        simp only [decide_true, List.filter_cons_of_pos, List.filter_nil, List.map_append]
        split
        · rename_i empty
          rw [empty, List.nil_append, if_neg (List.cons_ne_nil _ _)]
          rfl
        · rw [if_neg (List.append_ne_nil_of_right_ne_nil _ (List.cons_ne_nil _ _))]
          rfl
      · rw [Dict.get?_insert_of_ne _ _ (Ne.symm same), before]
        simp [same]

theorem mirrors_get? (portSet : Nat) :
    topology.mirrors.get? portSet = if topology.members portSet = [] then none
      else some ((topology.members portSet).map mirrorTuple) :=
  get?_foldl_addMirror topology.targets portSet

theorem mem_mirrors_values {tuples : List (Mac × Nat)} (listed : tuples ∈ topology.mirrors.values) :
    ∃ portSet, tuples = (topology.members portSet).map mirrorTuple := by
  obtain ⟨portSet, found⟩ := Dict.mem_values_iff.mp listed
  rw [mirrors_get?] at found
  split at found
  · cases found
  · exact ⟨portSet, (Option.some.inj found).symm⟩

theorem members_mem {target : PortTarget} (live : target ∈ topology.targets) :
    target ∈ topology.members target.portSet :=
  List.mem_filter.mpr ⟨live, decide_eq_true rfl⟩

theorem mirrors_values_mem {target : PortTarget} (live : target ∈ topology.targets) :
    (topology.members target.portSet).map mirrorTuple ∈ topology.mirrors.values := by
  refine Dict.mem_values_iff.mpr ⟨target.portSet, ?_⟩
  rw [mirrors_get?, if_neg (List.ne_nil_of_mem (members_mem live))]

/-- The live targets have different MAC addresses, none of them the broadcast
address. -/
structure FaucetTopology.Distinct (topology : FaucetTopology) : Prop where
  macs : (topology.targets.map PortTarget.mac).Nodup
  unicast : ∀ target ∈ topology.targets, target.mac ≠ broadcastMac

section Live

variable {target : PortTarget} (distinct : topology.Distinct)

include distinct

theorem FaucetTopology.Distinct.eq_of_mac {other : PortTarget} (live : target ∈ topology.targets)
    (another : other ∈ topology.targets) (same : other.mac = target.mac) : other = target :=
  List.inj_on_of_nodup_map distinct.macs another live same

theorem FaucetTopology.Distinct.eq_of_tuple {portSet : Nat} {tuple : Mac × Nat}
    (live : target ∈ topology.targets)
    (listed : tuple ∈ (topology.members portSet).map mirrorTuple) (same : tuple.1 = target.mac) :
    tuple = mirrorTuple target ∧ portSet = target.portSet := by
  obtain ⟨other, member, rfl⟩ := List.mem_map.mp listed
  obtain ⟨another, inSet⟩ := List.mem_filter.mp member
  obtain rfl := distinct.eq_of_mac live another same
  exact ⟨rfl, (of_decide_eq_true inSet).symm⟩

theorem find?_mirrors (live : target ∈ topology.targets) (sent : frame.dlSrc = target.mac) :
    topology.mirroring.find? (·.matches frame) =
      (mirrorRules ((topology.members target.portSet).map mirrorTuple) (mirrorTuple target)).find?
        (·.matches frame) := by
  rw [FaucetTopology.mirroring, FirstMatch.find?_flatMap_of_unique (mirrors_values_mem live),
    FirstMatch.find?_flatMap_of_unique (List.mem_map_of_mem (members_mem live))]
  · intro source listed another
    refine List.find?_eq_none.mpr fun rule member fits => another ?_
    have same := (mirrorRules_source member fits).1.symm.trans sent
    exact (distinct.eq_of_tuple live listed same).1
  · intro tuples listed another
    obtain ⟨portSet, rfl⟩ := mem_mirrors_values listed
    refine List.find?_eq_none.mpr fun rule member fits => another ?_
    obtain ⟨source, inside, member⟩ := List.mem_flatMap.mp member
    have same := (mirrorRules_source member fits).1.symm.trans sent
    rw [(distinct.eq_of_tuple live inside same).2]

end Live

theorem dot1x_untagged (untagged : frame.vlan = none) :
    ∀ rule ∈ topology.devices.flatMap (dot1xRules topology), rule.matches frame = false := by
  intro rule member
  obtain ⟨device, _, member⟩ := List.mem_flatMap.mp member
  obtain ⟨portSet, _, rfl⟩ := List.mem_map.mp member
  rw [Bool.eq_false_iff]
  intro fits
  cases untagged.symm.trans ((dot1xRule_matches_iff device portSet).mp fits).2

/-- What comes after the mirrors outputs to no port but the one a frame came in
on. -/
theorem reflects_only {rule : Rule} (member : rule ∈ dhcpRules topology ++ [allowRule]) :
    ∀ port ∈ rule.outputs, port = ofppInPort := by
  have reflected : ∀ kwargs : Keywords, kwargs.port = some ofppInPort → kwargs.ports = none →
      ∀ port ∈ kwargs.rule.outputs, port = ofppInPort := by
    intro kwargs single several port output
    rw [Keywords.rule_outputs, single, several] at output
    exact List.mem_singleton.mp output
  have silent : ∀ kwargs : Keywords, kwargs.port = none → kwargs.ports = none →
      ∀ port ∈ kwargs.rule.outputs, port = ofppInPort := by
    intro kwargs single several port output
    rw [Keywords.rule_outputs, single, several] at output
    exact absurd output List.not_mem_nil
  rcases List.mem_append.mp member with dhcp | allow
  · unfold dhcpRules at dhcp
    split at dhcp
    · rcases List.mem_append.mp dhcp with device | rest
      · obtain ⟨device, _, device⟩ := List.mem_flatMap.mp device
        rcases List.mem_pair.mp device with rfl | rfl
        · exact reflected _ rfl rfl
        · exact reflected _ rfl rfl
      · rcases List.mem_pair.mp rest with rfl | rfl
        · exact silent _ rfl rfl
        · exact silent _ rfl rfl
    · exact absurd dhcp List.not_mem_nil
  · rw [List.mem_singleton.mp allow]
    exact silent _ rfl rfl

section Generated

variable {acls : MainAcls} (generated : generateMainAcls topology = .ok acls)
variable (untagged : frame.vlan = none)

include generated untagged

theorem firstMatch_live (distinct : topology.Distinct) {target : PortTarget}
    (live : target ∈ topology.targets) (sent : frame.dlSrc = target.mac) {rule : Rule}
    (found : (mirrorRules ((topology.members target.portSet).map mirrorTuple)
      (mirrorTuple target)).find? (·.matches frame) = some rule) :
    firstMatch acls.priIncoming frame = some rule := by
  rw [firstMatch, generateMainAcls_incoming generated,
    FirstMatch.find?_append_right (dot1x_untagged untagged), List.find?_append,
    find?_mirrors distinct live sent, found, Option.some_or]

theorem firstMatch_other (strange : ∀ target ∈ topology.targets, frame.dlSrc ≠ target.mac)
    {rule : Rule} (found : firstMatch acls.priIncoming frame = some rule) :
    rule ∈ dhcpRules topology ++ [allowRule] := by
  rw [firstMatch, generateMainAcls_incoming generated,
    FirstMatch.find?_append_right (dot1x_untagged untagged),
    FirstMatch.find?_append_right] at found
  · exact List.mem_of_find?_eq_some found
  · intro rule member
    obtain ⟨tuples, listed, member⟩ := List.mem_flatMap.mp member
    obtain ⟨source, inside, member⟩ := List.mem_flatMap.mp member
    obtain ⟨portSet, rfl⟩ := mem_mirrors_values listed
    obtain ⟨target, inSet, rfl⟩ := List.mem_map.mp inside
    rw [Bool.eq_false_iff]
    intro fits
    exact strange target (List.mem_of_mem_filter inSet) (mirrorRules_source member fits).1

end Generated

/-- The first rule of the list for what comes in that an untagged frame matches
outputs, for the frame of a live target, to the mirror ports of all targets of
its port set, of the two targets or of the one, as the destination is; for any
other frame it outputs to no mirror port. -/
theorem mirrored_exactly {topology : FaucetTopology} {acls : MainAcls}
    (generated : generateMainAcls topology = .ok acls)
    (distinct : (topology.portTargets.values.map PortTarget.mac).Nodup)
    (unicast : ∀ target ∈ topology.portTargets.values, target.mac ≠ broadcastMac)
    {frame : Frame} (untagged : frame.vlan = none) :
    (∀ target ∈ topology.portTargets.values, frame.dlSrc = target.mac →
      ∃ rule, firstMatch acls.priIncoming frame = some rule ∧
        (frame.dlDst = broadcastMac →
          rule.outputs = (topology.portTargets.values.filter fun member =>
            decide (member.portSet = target.portSet)).map fun member => mirrorPort member.port) ∧
        (∀ other ∈ topology.portTargets.values, other.portSet = target.portSet →
          other ≠ target → frame.dlDst = other.mac →
          rule.outputs = [mirrorPort target.port, mirrorPort other.port]) ∧
        (frame.dlDst ≠ broadcastMac →
          (∀ other ∈ topology.portTargets.values, other.portSet = target.portSet →
            other ≠ target → frame.dlDst ≠ other.mac) →
          rule.outputs = [mirrorPort target.port])) ∧
      ((∀ target ∈ topology.portTargets.values, frame.dlSrc ≠ target.mac) →
        ∀ rule, firstMatch acls.priIncoming frame = some rule →
          ∀ portNo, mirrorPort portNo ≠ ofppInPort → mirrorPort portNo ∉ rule.outputs) := by
  have apart : topology.Distinct := ⟨distinct, unicast⟩
  constructor
  · intro target live sent
    have sent' : frame.dlSrc = (mirrorTuple target).1 := sent
    by_cases broadcast : frame.dlDst = broadcastMac
    · refine ⟨_, firstMatch_live generated untagged apart live sent
        (find?_mirrorRules_broadcast sent' untagged broadcast), fun _ => ?_, ?_, ?_⟩
      · rw [broadcastRule, Keywords.rule_outputs]
        exact List.map_map
      · intro other another _ _ addressed
        exact absurd (addressed.symm.trans broadcast) (unicast other another)
      · exact fun elsewhere => absurd broadcast elsewhere
    · by_cases paired : ∃ other ∈ topology.portTargets.values, other.portSet = target.portSet ∧
        other ≠ target ∧ frame.dlDst = other.mac
      · obtain ⟨other, another, grouped, different, addressed⟩ := paired
        have member : mirrorTuple other ∈ (topology.members target.portSet).map mirrorTuple :=
          List.mem_map_of_mem (grouped ▸ members_mem another)
        have apart' : (mirrorTuple other).1 ≠ (mirrorTuple target).1 := fun same =>
          different (apart.eq_of_mac live another same)
        refine ⟨_, firstMatch_live generated untagged apart live sent
          (find?_mirrorRules_pair sent' untagged broadcast member addressed apart' ?_),
          fun broadcasts => absurd broadcasts broadcast, ?_, ?_⟩
        · intro tuple listed same
          exact (apart.eq_of_tuple another listed same).1
        · intro third present _ _ addressed'
          obtain rfl := apart.eq_of_mac another present (addressed'.symm.trans addressed)
          rw [pairRule, Keywords.rule_outputs]
          rfl
        · exact fun _ elsewhere => absurd addressed (elsewhere other another grouped different)
      · refine ⟨_, firstMatch_live generated untagged apart live sent
          (find?_mirrorRules_single sent' untagged broadcast ?_),
          fun broadcasts => absurd broadcasts broadcast, ?_, fun _ _ => ?_⟩
        · intro tuple listed different addressed
          obtain ⟨other, member, rfl⟩ := List.mem_map.mp listed
          obtain ⟨another, grouped⟩ := List.mem_filter.mp member
          exact paired ⟨other, another, of_decide_eq_true grouped,
            fun same => different (same ▸ rfl), addressed⟩
        · intro other another grouped different addressed
          exact absurd ⟨other, another, grouped, different, addressed⟩ paired
        · rw [sourceRule, Keywords.rule_outputs]
          rfl
  · intro strange rule found portNo reserved output
    exact reserved (reflects_only (firstMatch_other generated untagged strange found) _ output)

namespace Mirror

def pump : PortTarget := ⟨3, "water", "none", 1, "9a:02:57:1e:8f:03"⟩
def valve : PortTarget := ⟨4, "water", "none", 1, "9a:02:57:1e:8f:04"⟩
def lamp : PortTarget := ⟨5, "light", "none", 2, "9a:02:57:1e:8f:05"⟩

/-- Two targets in one port set and one in another. -/
def plant : FaucetTopology where
  secPort := 7
  portTargets := ((Dict.empty.insert 3 pump).insert 5 lamp).insert 4 valve

/-- The pump speaks to the valve. -/
def command : Frame := { dlSrc := pump.mac, dlDst := valve.mac, ethType := 0x800 }

theorem plant_generates : ∃ acls, generateMainAcls plant = .ok acls := ⟨_, rfl⟩

theorem command_mirrored : ∃ acls, generateMainAcls plant = .ok acls ∧
    ∃ rule, firstMatch acls.priIncoming command = some rule ∧ rule.outputs = [1003, 1004] := by
  obtain ⟨acls, generated⟩ := plant_generates
  obtain ⟨rule, found, _, paired, _⟩ := (mirrored_exactly generated (by decide +kernel)
    (by decide +kernel) (rfl : command.vlan = none)).1 pump (by decide +kernel) rfl
  exact ⟨acls, generated, rule, found,
    paired valve (by decide +kernel) rfl (by decide +kernel) rfl⟩

end Mirror

end Daq.Acl
