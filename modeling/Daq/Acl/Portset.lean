import Daq.Acl.Consent
import Daq.Acl.Mirror

namespace Daq.Acl

/-! The lists for what the gateway ports of a set send, part by part, and where
such frames are copied to. -/

variable (topology : FaucetTopology)

def localRule : Rule :=
  { ports := some [switchLocalPort], ipv4Dst := topology.extOfip,
    dlType := some ipv4DlType : Keywords }.rule

def localRules : List Rule := if NonEmpty topology.extOfip then [localRule topology] else []

/-- The copy of what is sent to one target. -/
def targetRule (destination : Mac × Nat) : Rule :=
  { dlDst := some destination.1, ports := some [destination.2], allow := some true :
    Keywords }.rule

/-- The copies of what is sent to all targets. -/
def setRule (mirrorTuples : List (Mac × Nat)) : Rule :=
  { dlDst := some broadcastMac, ports := some (mirrorTuples.map Prod.snd ++ [switchLocalPort]),
    allow := some true : Keywords }.rule

def trunkRule (portSet : Nat) : Rule :=
  { ethType := some dot1xEthType, ports := some [priTrunkPort],
    outVid := some (portSetVlan (some portSet)) : Keywords }.rule

/-- The mirror rules of a port set. -/
def FaucetTopology.setMirroring (portSet : Nat) : List Rule :=
  (topology.members portSet).map (fun target => targetRule (mirrorTuple target)) ++
    if topology.members portSet = [] then []
    else [setRule ((topology.members portSet).map mirrorTuple)]

variable {topology} {portSet : Nat} {acl : List Rule}

theorem portNumbers_nodup : topology.portNumbers.Nodup :=
  List.nodup_range.map fun _ _ same => Nat.add_left_cancel same

theorem addPortsetRule_get? {portsets after : Dict Nat (List Rule)} {number : Nat}
    {kwargs : Keywords} (plain : kwargs.inVlan = none)
    (added : addPortsetRule portsets number kwargs = .ok after)
    (listed : portsets.get? portSet = some acl) :
    after.get? portSet = some (acl ++ if number = portSet then [kwargs.rule] else []) := by
  unfold addPortsetRule at added
  cases present : portsets.get? number with
  | none =>
      rw [present] at added
      cases added
  | some earlier =>
      rw [present] at added
      dsimp only at added
      rw [addAclRule_ok plain] at added
      cases added
      rw [Dict.get?_insert]
      by_cases same : number = portSet
      · subst same
        rw [if_pos rfl, if_pos rfl, Option.some.inj (present.symm.trans listed)]
      · rw [if_neg (Ne.symm same), if_neg same, List.append_nil]
        exact listed

/-- What only one of several numbers has. -/
theorem flatMap_number {α : Type} {numbers : List Nat} (distinct : numbers.Nodup)
    (member : portSet ∈ numbers) (items : List α) :
    numbers.flatMap (fun number => if number = portSet then items else []) = items := by
  induction numbers with
  | nil => exact absurd member List.not_mem_nil
  | cons number rest later =>
      rw [List.nodup_cons] at distinct
      rw [List.flatMap_cons]
      rcases List.mem_cons.mp member with rfl | behind
      · have absent : rest.flatMap (fun number => if number = portSet then items else []) = [] := by
          rw [List.flatMap_eq_nil_iff]
          intro number inside
          apply if_neg
          rintro rfl
          exact distinct.1 inside
        rw [absent, if_pos rfl, List.append_nil]
      · have different : number ≠ portSet := fun same => distinct.1 (same ▸ behind)
        rw [if_neg different, later distinct.2 behind, List.nil_append]

theorem emptyPortsets_get? {numbers : List Nat} (numbered : portSet ∈ numbers)
    (portsets : Dict Nat (List Rule)) :
    (numbers.foldl (fun portsets number => portsets.insert number []) portsets).get? portSet =
      some [] := by
  induction numbers using List.reverseRecOn with
  | nil => exact absurd numbered List.not_mem_nil
  | append_singleton numbers last before =>
      rw [List.foldl_append, List.foldl_cons, List.foldl_nil, Dict.get?_insert]
      by_cases same : portSet = last
      · exact if_pos same
      · rw [if_neg same]
        refine before ?_
        simpa [same] using numbered

section Numbered

variable (numbered : portSet ∈ topology.portNumbers)

include numbered

theorem generateSwitchLocalAcls_get? {portsets : Dict Nat (List Rule)} {localAcl : List Rule}
    {after : Dict Nat (List Rule) × List Rule}
    (ran : generateSwitchLocalAcls topology portsets localAcl = .ok after)
    (listed : portsets.get? portSet = some acl) :
    after.1.get? portSet = some (acl ++ localRules topology) := by
  unfold generateSwitchLocalAcls at ran
  obtain ⟨⟨middle, allPorts⟩, loop, ran⟩ := Fallible.bind_eq_ok_iff.mp ran
  dsimp only at ran
  rw [addAclRule_ok rfl] at ran
  cases ran
  unfold localRules
  split at loop
  · rename_i external
    have extended := Fallible.foldlM_extends
      (fun state : Dict Nat (List Rule) × List Nat => state.1.get? portSet)
      (fun number => if number = portSet then [localRule topology] else []) ?_ loop listed
    · rw [if_pos external, extended, flatMap_number portNumbers_nodup numbered]
    · intro state number next items step present
      obtain ⟨portsets, added, step⟩ := Fallible.bind_eq_ok_iff.mp step
      cases step
      exact addPortsetRule_get? rfl added present
  · rename_i plain
    cases loop
    rw [if_neg plain, List.append_nil]
    exact listed

theorem finishPortsets_get? {portsets after : Dict Nat (List Rule)}
    (ran : topology.portNumbers.foldlM finishPortset portsets = .ok after)
    (listed : portsets.get? portSet = some acl) :
    after.get? portSet = some (acl ++ [trunkRule portSet, allowRule]) := by
  have extended := Fallible.foldlM_extends (fun state => state.get? portSet)
    (fun number => if number = portSet then [trunkRule portSet, allowRule] else []) ?_ ran listed
  · rw [extended, flatMap_number portNumbers_nodup numbered]
  · intro state number next items step present
    unfold finishPortset at step
    cases found : state.get? number with
    | none =>
        rw [found] at step
        cases step
    | some earlier =>
        rw [found] at step
        have tagged : Truthy (some (portSetVlan (some number))) := portSetVlan_truthy _
        dsimp only at step
        rw [addDot1xAllowRule, if_neg (by decide), if_pos tagged, addAclRule_ok rfl,
          Fallible.ok_bind, addAclRule_ok rfl] at step
        cases step
        rw [Dict.get?_insert]
        by_cases same : number = portSet
        · subst same
          rw [if_pos rfl, if_pos rfl, Option.some.inj (found.symm.trans present),
            List.append_assoc]
          rfl
        · rw [if_neg (Ne.symm same), if_neg same, List.append_nil]
          exact present

end Numbered

theorem generatePortTargetAcls_get? {portsets : Dict Nat (List Rule)}
    {after : Mirrors × Dict Nat (List Rule)}
    (ran : generatePortTargetAcls topology portsets = .ok after)
    (listed : portsets.get? portSet = some acl) :
    after.2.get? portSet = some (acl ++
      (topology.members portSet).map fun target => targetRule (mirrorTuple target)) := by
  have extended := Fallible.foldlM_extends
    (fun state : Mirrors × Dict Nat (List Rule) => state.2.get? portSet)
    (fun target : PortTarget =>
      if target.portSet = portSet then [targetRule (mirrorTuple target)] else []) ?_ ran listed
  · rw [extended]
    have chosen : ∀ targets : List PortTarget,
        targets.flatMap (fun target =>
          if target.portSet = portSet then [targetRule (mirrorTuple target)] else []) =
        (targets.filter fun target => decide (target.portSet = portSet)).map
          fun target => targetRule (mirrorTuple target) := by
      intro targets
      induction targets with
      | nil => rfl
      | cons target rest later =>
          rw [List.flatMap_cons, later]
          by_cases same : target.portSet = portSet
          · simp [same]
          · simp [same]
    rw [chosen]
    rfl
  · intro state target next items step present
    obtain ⟨portsets, added, step⟩ := Fallible.bind_eq_ok_iff.mp step
    cases step
    exact addPortsetRule_get? rfl added present

theorem generateMirrorAcls_get? {mirrors : Mirrors} {incoming : List Rule}
    {portsets : Dict Nat (List Rule)} {after : List Rule × Dict Nat (List Rule)}
    (ran : generateMirrorAcls mirrors incoming portsets = .ok after)
    (listed : portsets.get? portSet = some acl) :
    after.2.get? portSet =
      some (acl ++ (mirrors.get? portSet).elim [] fun tuples => [setRule tuples]) := by
  have extended := Fallible.foldlM_extends
    (fun state : List Rule × Dict Nat (List Rule) => state.2.get? portSet)
    (fun entry : Nat × List (Mac × Nat) =>
      if entry.1 = portSet then [setRule entry.2] else []) ?_ ran listed
  · rw [extended, Dict.flatMap_entries mirrors portSet fun tuples => [setRule tuples]]
  · intro state entry next items step present
    obtain ⟨sources, _, step⟩ := Fallible.bind_eq_ok_iff.mp step
    obtain ⟨portsets, added, step⟩ := Fallible.bind_eq_ok_iff.mp step
    cases step
    exact addPortsetRule_get? rfl added present

/-- The list of a port set: the local switch, mirrors, 802.1X and all the
rest. -/
theorem generateMainAcls_portset {acls : MainAcls} (generated : generateMainAcls topology = .ok acls)
    (numbered : portSet ∈ topology.portNumbers) :
    acls.portsets.get? portSet = some (localRules topology ++
      (topology.setMirroring portSet ++ [trunkRule portSet, allowRule])) := by
  unfold generateMainAcls at generated
  obtain ⟨dot1x, _, generated⟩ := Fallible.bind_eq_ok_iff.mp generated
  obtain ⟨⟨localized, _⟩, first, generated⟩ := Fallible.bind_eq_ok_iff.mp generated
  obtain ⟨⟨mirrors, targeted⟩, second, generated⟩ := Fallible.bind_eq_ok_iff.mp generated
  obtain ⟨⟨_, mirrored⟩, third, generated⟩ := Fallible.bind_eq_ok_iff.mp generated
  obtain ⟨reflected, _, generated⟩ := Fallible.bind_eq_ok_iff.mp generated
  rw [addAclRule_ok rfl, Fallible.ok_bind, addAclRule_ok rfl, Fallible.ok_bind] at generated
  obtain ⟨finished, fourth, generated⟩ := Fallible.bind_eq_ok_iff.mp generated
  cases generated
  have localized := generateSwitchLocalAcls_get? numbered first
    (emptyPortsets_get? numbered _)
  have targeted' := generatePortTargetAcls_get? second localized
  have mirrored := generateMirrorAcls_get? third targeted'
  have same : mirrors = topology.mirrors := generatePortTargetAcls_mirrors second
  have finished := finishPortsets_get? numbered fourth mirrored
  rw [finished, same, mirrors_get?, FaucetTopology.setMirroring]
  by_cases none : topology.members portSet = []
  · simp [none]
  · simp [none]

/-! Which of them a frame is subject to. -/

/-- An IP frame for the address of the external switch. -/
def Frame.ToSwitch (topology : FaucetTopology) (frame : Frame) : Prop :=
  NonEmpty topology.extOfip ∧ frame.ethType = ipv4DlType ∧ frame.nwDst = topology.extOfip

section Matches

variable {frame : Frame}

theorem localRules_find? (elsewhere : ¬ frame.ToSwitch topology) :
    ∀ rule ∈ localRules topology, rule.matches frame = false := by
  unfold localRules
  split
  · rename_i external
    intro rule member
    rw [List.mem_singleton.mp member, Bool.eq_false_iff]
    intro fits
    cases address : topology.extOfip with
    | none => exact external (by rw [address]; rfl)
    | some text =>
        have matched : frame.ethType = ipv4DlType ∧ frame.nwDst = some text := by
          simpa [Rule.matches, localRule, Keywords.rule, address] using fits
        exact elsewhere ⟨external, matched.1, matched.2.trans address.symm⟩
  · exact fun _ member => absurd member List.not_mem_nil

theorem localRules_match (addressed : frame.ToSwitch topology) (rest : List Rule) :
    firstMatch (localRules topology ++ rest) frame = some (localRule topology) := by
  obtain ⟨external, ip, destination⟩ := addressed
  unfold localRules firstMatch
  rw [if_pos external]
  apply List.find?_cons_of_pos
  simp [Rule.matches, localRule, Keywords.rule, ip, destination, fits]

theorem matches_of_find? {rules : List Rule} {rule : Rule}
    (found : rules.find? (·.matches frame) = some rule) : rule.matches frame = true :=
  List.find?_some (p := fun rule : Rule => rule.matches frame) found

theorem targetRule_matches_iff (destination : Mac × Nat) :
    (targetRule destination).matches frame = true ↔ frame.dlDst = destination.1 := by
  simp [Rule.matches, targetRule, Keywords.rule]

theorem setRule_matches_iff (tuples : List (Mac × Nat)) :
    (setRule tuples).matches frame = true ↔ frame.dlDst = broadcastMac := by
  simp [Rule.matches, setRule, Keywords.rule]

theorem trunkRule_matches_iff (portSet : Nat) :
    (trunkRule portSet).matches frame = true ↔ frame.ethType = dot1xEthType := by
  simp [Rule.matches, trunkRule, Keywords.rule]

theorem allowRule_matches : allowRule.matches frame = true := by
  simp [Rule.matches, allowRule, Keywords.rule]

end Matches

/-- What a rule for a frame from a gateway port of the set may do: what it copies
the frame to, and whether it lets it through. -/
structure Copies (topology : FaucetTopology) (portSet : Nat) (frame : Frame) (rule : Rule) :
    Prop where
  mirrors : ∀ target ∈ topology.targets, target.port ≠ 0 →
    (mirrorPort target.port ∈ rule.outputs ↔
      target.portSet = portSet ∧ (frame.dlDst = target.mac ∨ frame.dlDst = broadcastMac))
  only : ∀ port ∈ rule.outputs,
    (∃ target ∈ topology.targets, target.portSet = portSet ∧ port = mirrorPort target.port) ∨
      port = switchLocalPort ∨ (port = priTrunkPort ∧ frame.ethType = dot1xEthType)
  allow : frame.ethType ≠ dot1xEthType → rule.actions.allow = some true

namespace Copies

variable {frame : Frame}

theorem mirrorPort_inj {port other : Nat} : mirrorPort port = mirrorPort other ↔ port = other :=
  Nat.add_left_cancel_iff

theorem mirrorPort_ne {port : Nat} (positive : port ≠ 0) : mirrorPort port ≠ switchLocalPort := by
  unfold mirrorPort switchLocalPort
  omega

theorem mirrorPort_ne_trunk (port : Nat) : mirrorPort port ≠ priTrunkPort := by
  unfold mirrorPort priTrunkPort
  omega

theorem members_iff {target : PortTarget} :
    target ∈ topology.members portSet ↔ target ∈ topology.targets ∧ target.portSet = portSet := by
  rw [FaucetTopology.members, List.mem_filter, decide_eq_true_iff]

theorem target (distinct : topology.Distinct) {target : PortTarget}
    (member : target ∈ topology.members portSet) (addressed : frame.dlDst = target.mac) :
    Copies topology portSet frame (targetRule (mirrorTuple target)) := by
  obtain ⟨live, inSet⟩ := members_iff.mp member
  have outputs : (targetRule (mirrorTuple target)).outputs = [mirrorPort target.port] := by
    rw [targetRule, Keywords.rule_outputs]
    rfl
  refine ⟨fun other another _ => ?_, fun port output => ?_, fun _ => rfl⟩
  · rw [outputs, List.mem_singleton, mirrorPort_inj]
    constructor
    · intro same
      obtain rfl := targets_unique another live same
      exact ⟨inSet, .inl addressed⟩
    · rintro ⟨_, same | broadcast⟩
      · exact congrArg PortTarget.port (distinct.eq_of_mac live another (same.symm.trans addressed))
      · exact absurd (addressed.symm.trans broadcast) (distinct.unicast target live)
  · rw [outputs, List.mem_singleton] at output
    exact .inl ⟨target, live, inSet, output⟩

theorem set (broadcast : frame.dlDst = broadcastMac) :
    Copies topology portSet frame (setRule ((topology.members portSet).map mirrorTuple)) := by
  have outputs : (setRule ((topology.members portSet).map mirrorTuple)).outputs =
      (topology.members portSet).map (fun target => mirrorPort target.port) ++
        [switchLocalPort] := by
    rw [setRule, Keywords.rule_outputs, List.map_map]
    rfl
  refine ⟨fun other another positive => ?_, fun port output => ?_, fun _ => rfl⟩
  · rw [outputs, List.mem_append, List.mem_singleton, or_iff_left (mirrorPort_ne positive),
      List.mem_map]
    constructor
    · rintro ⟨target, member, same⟩
      obtain ⟨live, inSet⟩ := members_iff.mp member
      obtain rfl := targets_unique live another (mirrorPort_inj.mp same)
      exact ⟨inSet, .inr broadcast⟩
    · exact fun ⟨inSet, _⟩ => ⟨other, members_iff.mpr ⟨another, inSet⟩, rfl⟩
  · rw [outputs, List.mem_append, List.mem_singleton, List.mem_map] at output
    rcases output with ⟨target, member, same⟩ | here
    · obtain ⟨live, inSet⟩ := members_iff.mp member
      exact .inl ⟨target, live, inSet, same.symm⟩
    · exact .inr (.inl here)

/-- The last two rules copy to no mirror port. -/
theorem last {rule : Rule} (listed : rule ∈ [trunkRule portSet, allowRule])
    (fits : rule.matches frame = true)
    (elsewhere : ∀ target ∈ topology.members portSet,
      frame.dlDst ≠ target.mac ∧ frame.dlDst ≠ broadcastMac)
    (untagged : rule = trunkRule portSet ∨ frame.ethType ≠ dot1xEthType) :
    Copies topology portSet frame rule := by
  have unmirrored : ∀ target ∈ topology.targets, ¬ (target.portSet = portSet ∧
      (frame.dlDst = target.mac ∨ frame.dlDst = broadcastMac)) := by
    rintro target live ⟨inSet, addressed⟩
    have other := elsewhere target (members_iff.mpr ⟨live, inSet⟩)
    exact addressed.elim other.1 other.2
  rcases List.mem_pair.mp listed with rfl | rfl
  · have dot1x := (trunkRule_matches_iff portSet).mp fits
    have outputs : (trunkRule portSet).outputs = [priTrunkPort] := by
      rw [trunkRule, Keywords.rule_outputs]
      rfl
    refine ⟨fun target live _ => ?_, fun port output => ?_, fun other => absurd dot1x other⟩
    · refine iff_of_false (fun output => ?_) (unmirrored target live)
      rw [outputs, List.mem_singleton] at output
      exact mirrorPort_ne_trunk target.port output
    · rw [outputs, List.mem_singleton] at output
      exact .inr (.inr ⟨output, dot1x⟩)
  · have outputs : allowRule.outputs = [] := by
      rw [allowRule, Keywords.rule_outputs]
      rfl
    refine ⟨fun target live _ => ?_, fun port output => ?_, fun _ => rfl⟩
    · refine iff_of_false (fun output => ?_) (unmirrored target live)
      rw [outputs] at output
      exact absurd output List.not_mem_nil
    · rw [outputs] at output
      exact absurd output List.not_mem_nil

/-- The first rule of the mirror rules and the last two that a frame matches. -/
theorem exists_first (distinct : topology.Distinct) (frame : Frame) :
    ∃ rule, (topology.setMirroring portSet ++ [trunkRule portSet, allowRule]).find?
      (·.matches frame) = some rule ∧ Copies topology portSet frame rule := by
  have some : ∃ rule, (topology.setMirroring portSet ++ [trunkRule portSet, allowRule]).find?
      (·.matches frame) = some rule := by
    rw [← Option.isSome_iff_exists, List.find?_isSome]
    exact ⟨allowRule, by simp, allowRule_matches⟩
  obtain ⟨rule, found⟩ := some
  refine ⟨rule, found, ?_⟩
  rw [FaucetTopology.setMirroring, List.append_assoc, List.find?_append,
    Option.or_eq_some_iff] at found
  rcases found with targeted | ⟨untargeted, found⟩
  · obtain ⟨target, member, rfl⟩ := List.mem_map.mp (List.mem_of_find?_eq_some targeted)
    exact .target distinct member ((targetRule_matches_iff _).mp (matches_of_find? targeted))
  · rw [List.find?_append, Option.or_eq_some_iff] at found
    rcases found with wide | ⟨narrow, found⟩
    · have listed := List.mem_of_find?_eq_some wide
      split at listed
      · exact absurd listed List.not_mem_nil
      · cases List.mem_singleton.mp listed
        exact .set ((setRule_matches_iff _).mp (matches_of_find? wide))
    · refine .last (List.mem_of_find?_eq_some found) (matches_of_find? found)
        (fun target member => ⟨fun addressed => ?_, fun broadcast => ?_⟩) ?_
      · have listed := List.mem_map_of_mem (f := fun target => targetRule (mirrorTuple target)) member
        exact List.find?_eq_none.mp untargeted _ listed ((targetRule_matches_iff _).mpr addressed)
      · rw [if_neg (List.ne_nil_of_mem member)] at narrow
        exact List.find?_eq_none.mp narrow _ List.mem_cons_self
          ((setRule_matches_iff _).mpr broadcast)
      · by_cases dot1x : frame.ethType = dot1xEthType
        · rw [List.find?_cons, (trunkRule_matches_iff portSet).mpr dot1x] at found
          exact .inl (Option.some.inj found).symm
        · exact .inr dot1x

end Copies

/-- Of the frames that gateway ports of a set send, those for the external switch
go to the local port only.  Any other is copied to the mirror port of a live
target exactly when the target is in the set and the frame is for it or for all,
and is let through unless it is an 802.1X frame. -/
theorem portset_mirrored_exactly {topology : FaucetTopology} {acls : MainAcls}
    (generated : generateMainAcls topology = .ok acls)
    (distinct : (topology.portTargets.values.map PortTarget.mac).Nodup)
    (unicast : ∀ target ∈ topology.portTargets.values, target.mac ≠ broadcastMac)
    {portSet : Nat} (positive : 1 ≤ portSet) (below : portSet < topology.secPort) :
    ∃ acl, acls.portsets.get? portSet = some acl ∧
      ∀ frame, ∃ rule, firstMatch acl frame = some rule ∧
        (frame.ToSwitch topology → rule.outputs = [switchLocalPort]) ∧
        (¬ frame.ToSwitch topology → Copies topology portSet frame rule) := by
  have numbered : portSet ∈ topology.portNumbers := by
    refine List.mem_map.mpr ⟨portSet - 1, List.mem_range.mpr ?_, ?_⟩
    · omega
    · omega
  refine ⟨_, generateMainAcls_portset generated numbered, fun frame => ?_⟩
  by_cases addressed : frame.ToSwitch topology
  · refine ⟨_, localRules_match addressed _, fun _ => ?_, fun other => absurd addressed other⟩
    rw [localRule, Keywords.rule_outputs]
    rfl
  · have apart : topology.Distinct := ⟨distinct, unicast⟩
    obtain ⟨rule, found, copies⟩ := @Copies.exists_first topology portSet apart frame
    refine ⟨rule, ?_, fun other => absurd other addressed, fun _ => copies⟩
    rw [firstMatch, FirstMatch.find?_append_right (localRules_find? addressed)]
    exact found

namespace Mirror

/-- The gateway of the water set calls the valve. -/
def call : Frame := { dlSrc := "9a:02:57:1e:8f:00", dlDst := valve.mac, ethType := 0x800 }

theorem call_mirrored : ∃ acls, generateMainAcls plant = .ok acls ∧
    ∃ acl rule, acls.portsets.get? 1 = some acl ∧ firstMatch acl call = some rule ∧
      1004 ∈ rule.outputs ∧ 1003 ∉ rule.outputs := by
  obtain ⟨acls, generated⟩ := plant_generates
  obtain ⟨acl, listed, rules⟩ := portset_mirrored_exactly generated (by decide +kernel)
    (by decide +kernel) (by decide : 1 ≤ 1) (by decide)
  obtain ⟨rule, found, _, copies⟩ := rules call
  have copies := copies fun addressed => absurd rfl addressed.1
  refine ⟨acls, generated, acl, rule, listed, found, ?_, fun output => ?_⟩
  · exact (copies.mirrors valve (by decide +kernel) (by decide)).mpr ⟨rfl, .inl rfl⟩
  · have addressed := ((copies.mirrors pump (by decide +kernel) (by decide)).mp output).2
    revert addressed
    decide +kernel

end Mirror

end Daq.Acl
