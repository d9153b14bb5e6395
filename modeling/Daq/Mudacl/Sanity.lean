import Daq.Mudacl.Generator

namespace Daq.Mudacl

open Fallible

/-! What a map of ACLs contains when there is one. -/

/-- The ports that no rule is for. -/
structure Whitelisted (rule : Rule) : Prop where
  udp : ∀ port, rule.udpSrc = some port ∨ rule.udpDst = some port → port ∉ [123, 53, 67, 68]
  tcp : ∀ port, rule.tcpSrc = some port ∨ rule.tcpDst = some port → port ≠ 53

/-- A rule gives a port or an address at the far end. -/
def Guarded (isEdge : Bool) (rule : Rule) : Prop :=
  if isEdge then rule.dstPort.isSome ∨ rule.nwDst.isSome
  else rule.srcPort.isSome ∨ rule.nwSrc.isSome

/-- What the generator checks of a rule. -/
def Passes (isEdge : Bool) (rule : Rule) : Prop := Whitelisted rule ∧ Guarded isEdge rule

def AclAce.tcp (ace : AclAce) : Option TpSpec := ace.aclMatches.bind fun aclMatches => aclMatches.tcp

/-- A sane rule for an ACE of a target. -/
structure Sane (isEdge : Bool) (target : String) (ace : AclAce) (rule : Rule) : Prop where
  ipv4 : rule.dlType = some AclHelper.dlTypeIPv4
  protocol : rule.nwProto = some AclHelper.nwProtoTcp ∨ rule.nwProto = some AclHelper.nwProtoUdp
  whitelisted : Whitelisted rule
  target : (if isEdge then rule.dlSrc else rule.dlDst) = some target
  guarded : Guarded isEdge rule
  initiated : rule.nwProto = some AclHelper.nwProtoTcp →
    ∃ tcp fromDevice, ace.tcp = some tcp ∧
      tcp.directionInitiated = some (direction fromDevice) ∧
      (if isEdge = fromDevice then rule.tcpDst else rule.tcpSrc).isSome

section Checks

variable {isEdge : Bool} {rule : Rule}

theorem checkWhitelistedRules_eq_ok_iff :
    checkWhitelistedRules rule = .ok () ↔ Whitelisted rule := by
  rw [checkWhitelistedRules, ite_error_eq_ok_iff, ite_error_eq_ok_iff, ite_error_eq_ok_iff]
  simp only [AclHelper.udpNtpPort, AclHelper.udpDnsPort, AclHelper.tcpDnsPort,
    AclHelper.udpDhcpClientPort, AclHelper.udpDhcpServerPort, not_or, and_true]
  constructor
  · rintro ⟨ntp, dns, dhcp⟩
    constructor
    · intro port given listed
      simp only [List.mem_cons, List.not_mem_nil, or_false] at listed
      rcases given with given | given <;> rcases listed with rfl | rfl | rfl | rfl <;> simp_all
    · rintro port given rfl
      rcases given with given | given <;> simp_all
  · rintro ⟨udp, tcp⟩
    have free : ∀ port ∈ [(123 : Int), 53, 67, 68],
        rule.udpSrc ≠ some port ∧ rule.udpDst ≠ some port :=
      fun port listed => ⟨fun given => udp port (.inl given) listed,
        fun given => udp port (.inr given) listed⟩
    refine ⟨free 123 (by simp), ?_, ?_⟩
    · exact ⟨(free 53 (by simp)).1, (free 53 (by simp)).2, fun given => tcp 53 (.inl given) rfl,
        fun given => tcp 53 (.inr given) rfl⟩
    · exact ⟨(free 68 (by simp)).1, (free 68 (by simp)).2, (free 67 (by simp)).1,
        (free 67 (by simp)).2⟩

theorem checkWildcardedAcls_eq_ok_iff :
    checkWildcardedAcls isEdge rule = .ok () ↔ Guarded isEdge rule := by
  rw [checkWildcardedAcls, ite_error_eq_ok_iff, ite_error_eq_ok_iff, Guarded]
  cases isEdge with
  | true => simp [Option.isSome_iff_ne_none, imp_iff_not_or]
  | false => simp [Option.isSome_iff_ne_none, imp_iff_not_or]

theorem aclSanity_eq_ok_iff {aces acl : Acl} :
    aclSanity aces isEdge = .ok acl ↔ acl = aces ∧ ∀ rule ∈ aces, Passes isEdge rule := by
  have checked : ∀ rule : Rule, (processing rule.description do
      checkWhitelistedRules rule
      checkWildcardedAcls isEdge rule) = .ok () ↔ Passes isEdge rule := by
    intro rule
    rw [processing_eq_ok_iff, bind_eq_ok_iff, Passes, ← checkWhitelistedRules_eq_ok_iff,
      ← checkWildcardedAcls_eq_ok_iff]
    exact ⟨fun ⟨_, ports, wild⟩ => ⟨ports, wild⟩, fun ⟨ports, wild⟩ => ⟨(), ports, wild⟩⟩
  rw [aclSanity, bind_eq_ok_iff]
  constructor
  · rintro ⟨_, ran, same⟩
    cases same
    exact ⟨rfl, fun rule member => (checked rule).mp (forM_eq_ok_iff.mp ran rule member)⟩
  · rintro ⟨rfl, passes⟩
    exact ⟨(), forM_eq_ok_iff.mpr fun rule member => (checked rule).mpr (passes rule member), rfl⟩

end Checks

/-! The rules of one target. -/

section Targets

variable {converter : MudConverter} {device : DeviceSpec} {edgeDevice : String}

theorem foldl_remove_sublist (toRemove acl : Acl) : (toRemove.foldl Acl.remove acl).Sublist acl := by
  induction toRemove generalizing acl with
  | nil => exact List.Sublist.refl acl
  | cons rule rest later => exact (later (acl.remove rule)).trans List.eraseP_sublist

theorem maybeResolveRule_frame {rule : Rule} {entry : Rule × Bool}
    (ran : converter.maybeResolveRule rule edgeDevice = .ok entry) :
    ∃ nwSrc nwDst, entry.1 = { rule with nwSrc := nwSrc, nwDst := nwDst } := by
  obtain ⟨nwDst, _, ran⟩ := bind_eq_ok_iff.mp ran
  split at ran
  · cases ran
    exact ⟨rule.nwSrc, nwDst, rfl⟩
  · obtain ⟨nwSrc, _, ran⟩ := bind_eq_ok_iff.mp ran
    cases ran
    exact ⟨nwSrc, nwDst, rfl⟩

theorem makeEdgeAcl_compiles {acl : Acl} (made : converter.makeEdgeAcl device edgeDevice = .ok acl) :
    ∃ aces, converter.deviceAces device true = .ok aces ∧
      (∀ ace ∈ aces, ∃ rule, Compiles converter.dns device.isTemplate true ace rule) ∧
      ∀ made ∈ acl, ∃ ace ∈ aces, ∃ rule nwSrc nwDst,
        Compiles converter.dns device.isTemplate true ace rule ∧
        made = { describe device rule with
          dlSrc := some edgeDevice, nwSrc := nwSrc, nwDst := nwDst } := by
  obtain ⟨compiledAcl, ran, made⟩ := bind_eq_ok_iff.mp made
  obtain ⟨resolved, resolving, made⟩ := bind_eq_ok_iff.mp made
  cases made
  obtain ⟨aces, rules, listed, compiled, rfl⟩ := deviceAcl_compiles ran
  refine ⟨aces, listed, fun ace member => ?_, fun made member => ?_⟩
  · obtain ⟨rule, _, compiledRule⟩ := exists_mem_left compiled.flip member
    exact ⟨rule, compiledRule⟩
  · obtain ⟨entry, inside, rfl⟩ := List.mem_map.mp ((foldl_remove_sublist _ _).subset member)
    obtain ⟨_, described, resolvedRule⟩ := (mem_of_mapM resolving).mp inside
    obtain ⟨rule, memberRule, rfl⟩ := List.mem_map.mp described
    obtain ⟨ace, memberAce, compiledRule⟩ := exists_mem_left compiled memberRule
    refine ⟨ace, memberAce, rule, ?_⟩
    dsimp only at resolvedRule
    split at resolvedRule
    · cases resolvedRule
      exact ⟨_, _, compiledRule, rfl⟩
    · obtain ⟨nwSrc, nwDst, same⟩ := maybeResolveRule_frame resolvedRule
      exact ⟨nwSrc, nwDst, compiledRule, same⟩

theorem makeUpstreamAcl_compiles {acl : Acl}
    (made : converter.makeUpstreamAcl device edgeDevice = .ok acl) :
    ∃ aces, converter.deviceAces device false = .ok aces ∧
      (∀ ace ∈ aces, ∃ rule, Compiles converter.dns device.isTemplate false ace rule) ∧
      ∀ made ∈ acl, ∃ ace ∈ aces, ∃ rule,
        Compiles converter.dns device.isTemplate false ace rule ∧
        made = { describe device rule with dlDst := some edgeDevice } := by
  obtain ⟨compiledAcl, ran, made⟩ := bind_eq_ok_iff.mp made
  cases made
  obtain ⟨aces, rules, listed, compiled, rfl⟩ := deviceAcl_compiles ran
  refine ⟨aces, listed, fun ace member => ?_, fun made member => ?_⟩
  · obtain ⟨rule, _, compiledRule⟩ := exists_mem_left compiled.flip member
    exact ⟨rule, compiledRule⟩
  · obtain ⟨_, described, rfl⟩ := List.mem_map.mp member
    obtain ⟨rule, memberRule, rfl⟩ := List.mem_map.mp described
    obtain ⟨ace, memberAce, compiledRule⟩ := exists_mem_left compiled memberRule
    exact ⟨ace, memberAce, rule, compiledRule, rfl⟩

/-- A rule that passes is sane, whatever its addresses have become. -/
theorem Compiles.sane {dns : String → Option String} {isTemplate isEdge : Bool} {ace : AclAce}
    {rule made : Rule} {target : String} (compiled : Compiles dns isTemplate isEdge ace rule)
    (passes : Passes isEdge made)
    (dlType : made.dlType = rule.dlType) (nwProto : made.nwProto = rule.nwProto)
    (tcpSrc : made.tcpSrc = rule.tcpSrc) (tcpDst : made.tcpDst = rule.tcpDst)
    (given : (if isEdge then made.dlSrc else made.dlDst) = some target) :
    Sane isEdge target ace made := by
  cases compiled with
  | tcp _ _ _ _ initiated required =>
      refine ⟨dlType, .inl nwProto, passes.1, given, passes.2, fun _ => ⟨_, _, rfl, initiated, ?_⟩⟩
      rw [tcpSrc, tcpDst]
      exact required
  | udp _ _ _ _ _ =>
      refine ⟨dlType, .inr nwProto, passes.1, given, passes.2, fun tcp => ?_⟩
      rw [nwProto] at tcp
      cases tcp

end Targets

/-! The map of all placements. -/

section Maps

variable (generator : MudAclGenerator)

/-- Both policies of a target are valid ACEs, and the rules that come of them pass. -/
def MudAclGenerator.Accepts (target : String) : Prop :=
  ∀ isEdge, ∃ aces acl,
    generator.aclProvider.deviceAces (generator.getDeviceSpec target) isEdge = .ok aces ∧
      (∀ ace ∈ aces, ∃ rule, Compiles generator.aclProvider.dns
        (generator.getDeviceSpec target).isTemplate isEdge ace rule) ∧
      generator.makeAcl isEdge (generator.getDeviceSpec target) target = .ok acl ∧
      ∀ rule ∈ acl, Passes isEdge rule

/-- A sane rule for one of the ACEs of a target. -/
def MudAclGenerator.SaneFor (isEdge : Bool) (target : String) (rule : Rule) : Prop :=
  ∃ aces, generator.aclProvider.deviceAces (generator.getDeviceSpec target) isEdge = .ok aces ∧
    ∃ ace ∈ aces, Sane isEdge target ace rule

/-- The rules of a map are those of the targets that have been gone through. -/
structure MudAclGenerator.Made (done : List (String × Placement))
    (portAclMap : Dict String PortAcl) : Prop where
  accepted : ∀ target ∈ done, generator.Accepts target.1
  edge : ∀ name portAcl, portAclMap.get? name = some portAcl → ∀ rule ∈ portAcl.edgeAcl,
    ∃ target ∈ done, target.2.edgeName = name ∧ generator.SaneFor true target.1 rule
  upstream : ∀ name portAcl, portAclMap.get? name = some portAcl → ∀ rule ∈ portAcl.upstreamAcl,
    ∃ target ∈ done, target.2.edgeName = name ∧ generator.SaneFor false target.1 rule

variable {generator}

theorem makeAcl_sane {isEdge : Bool} {target : String} {acl : Acl}
    (made : (generator.makeAcl isEdge (generator.getDeviceSpec target) target >>=
      (aclSanity · isEdge)) = .ok acl) :
    (∃ aces, generator.aclProvider.deviceAces (generator.getDeviceSpec target) isEdge = .ok aces ∧
      ∀ ace ∈ aces, ∃ rule, Compiles generator.aclProvider.dns
        (generator.getDeviceSpec target).isTemplate isEdge ace rule) ∧
      generator.makeAcl isEdge (generator.getDeviceSpec target) target = .ok acl ∧
      (∀ rule ∈ acl, Passes isEdge rule) ∧ ∀ rule ∈ acl, generator.SaneFor isEdge target rule := by
  obtain ⟨other, made, checked⟩ := bind_eq_ok_iff.mp made
  obtain ⟨rfl, passes⟩ := aclSanity_eq_ok_iff.mp checked
  cases isEdge with
  | true =>
      obtain ⟨aces, listed, valid, rules⟩ := makeEdgeAcl_compiles made
      refine ⟨⟨aces, listed, valid⟩, made, passes, fun rule member => ⟨aces, listed, ?_⟩⟩
      obtain ⟨ace, memberAce, source, _, _, compiled, rfl⟩ := rules rule member
      exact ⟨ace, memberAce, compiled.sane (passes _ member) rfl rfl rfl rfl rfl⟩
  | false =>
      obtain ⟨aces, listed, valid, rules⟩ := makeUpstreamAcl_compiles made
      refine ⟨⟨aces, listed, valid⟩, made, passes, fun rule member => ⟨aces, listed, ?_⟩⟩
      obtain ⟨ace, memberAce, source, compiled, rfl⟩ := rules rule member
      exact ⟨ace, memberAce, compiled.sane (passes _ member) rfl rfl rfl rfl rfl⟩

theorem validatePlacement_eq_ok {value placement : Placement}
    (valid : generator.validatePlacement value = .ok placement) : placement = value := by
  unfold MudAclGenerator.validatePlacement at valid
  split at valid
  · cases valid
    rfl
  · split at valid
    · cases valid
    · split at valid
      · cases valid
      · obtain ⟨_, same⟩ := ite_error_eq_ok_iff.mp valid
        cases same
        rfl

/-- The entry of a placement has the rules of earlier targets at it. -/
theorem MudAclGenerator.Made.portAclAt {done : List (String × Placement)}
    {portAclMap : Dict String PortAcl} (made : generator.Made done portAclMap)
    (placement : Placement) :
    (∀ rule ∈ (Mudacl.portAclAt portAclMap placement).edgeAcl,
      ∃ target ∈ done, target.2.edgeName = placement.edgeName ∧
        generator.SaneFor true target.1 rule) ∧
      ∀ rule ∈ (Mudacl.portAclAt portAclMap placement).upstreamAcl,
        ∃ target ∈ done, target.2.edgeName = placement.edgeName ∧
          generator.SaneFor false target.1 rule := by
  rw [Mudacl.portAclAt]
  cases there : portAclMap.get? placement.edgeName with
  | none => exact ⟨List.forall_mem_nil _, List.forall_mem_nil _⟩
  | some portAcl => exact ⟨made.edge _ portAcl there, made.upstream _ portAcl there⟩

theorem MudAclGenerator.Made.add {done : List (String × Placement)}
    {portAclMap : Dict String PortAcl} (made : generator.Made done portAclMap)
    {target : String × Placement} (accepted : generator.Accepts target.1) {edgeAcl upstreamAcl : Acl}
    (edge : ∀ rule ∈ edgeAcl, generator.SaneFor true target.1 rule)
    (upstream : ∀ rule ∈ upstreamAcl, generator.SaneFor false target.1 rule) {portAcl : PortAcl}
    (edgeIs : portAcl.edgeAcl = (Mudacl.portAclAt portAclMap target.2).edgeAcl ++ edgeAcl)
    (upstreamIs : portAcl.upstreamAcl =
      (Mudacl.portAclAt portAclMap target.2).upstreamAcl ++ upstreamAcl) :
    generator.Made (done ++ [target]) (portAclMap.insert target.2.edgeName portAcl) := by
  obtain ⟨edgeBefore, upstreamBefore⟩ := made.portAclAt target.2
  have earlier : ∀ {isEdge name rule}, (∃ other ∈ done, other.2.edgeName = name ∧
      generator.SaneFor isEdge other.1 rule) → ∃ other ∈ done ++ [target], other.2.edgeName = name ∧
        generator.SaneFor isEdge other.1 rule := by
    rintro isEdge name rule ⟨other, member, same, sane⟩
    exact ⟨other, List.mem_append_left _ member, same, sane⟩
  have last : target ∈ done ++ [target] := by simp
  constructor
  case accepted =>
    exact List.forall_mem_append.mpr ⟨made.accepted, List.forall_mem_singleton.mpr accepted⟩
  case edge =>
    apply Dict.forall_get?_insert
    · exact fun name stored there rule member => earlier (made.edge name stored there rule member)
    · intro rule member
      rw [edgeIs] at member
      rcases List.mem_append.mp member with member | member
      · exact earlier (edgeBefore rule member)
      · exact ⟨target, last, rfl, edge rule member⟩
  case upstream =>
    apply Dict.forall_get?_insert
    · exact fun name stored there rule member =>
        earlier (made.upstream name stored there rule member)
    · intro rule member
      rw [upstreamIs] at member
      rcases List.mem_append.mp member with member | member
      · exact earlier (upstreamBefore rule member)
      · exact ⟨target, last, rfl, upstream rule member⟩

theorem addTarget_made {done : List (String × Placement)}
    {state : Dict String PortAcl × Dict String Raised} {target : String × Placement}
    (clear : (generator.addTarget state target).2.size = 0) :
    state.2.size = 0 ∧ (generator.Made done state.1 →
      generator.Made (done ++ [target]) (generator.addTarget state target).1) := by
  unfold MudAclGenerator.addTarget at clear ⊢
  dsimp only at clear ⊢
  cases valid : generator.validatePlacement target.2 with
  | error raised =>
      rw [valid] at clear
      exact absurd clear (size_insert_ne_zero _ _ _)
  | ok placement =>
      obtain rfl := validatePlacement_eq_ok valid
      rw [valid] at clear
      dsimp only at clear ⊢
      cases edgeMade : generator.makeAcl true (generator.getDeviceSpec target.1) target.1 >>=
          (aclSanity · true) with
      | error raised =>
          rw [edgeMade] at clear
          exact absurd clear (size_insert_ne_zero _ _ _)
      | ok edgeAcl =>
          rw [edgeMade] at clear
          dsimp only at clear ⊢
          cases upstreamMade : generator.makeAcl false (generator.getDeviceSpec target.1) target.1 >>=
              (aclSanity · false) with
          | error raised =>
              rw [upstreamMade] at clear
              exact absurd clear (size_insert_ne_zero _ _ _)
          | ok upstreamAcl =>
              rw [upstreamMade] at clear
              obtain ⟨⟨fromAces, fromListed, fromValid⟩, fromMade, fromPasses, edge⟩ :=
                makeAcl_sane edgeMade
              obtain ⟨⟨toAces, toListed, toValid⟩, toMade, toPasses, upstream⟩ :=
                makeAcl_sane upstreamMade
              have accepted : generator.Accepts target.1 := by
                intro isEdge
                cases isEdge with
                | true => exact ⟨fromAces, edgeAcl, fromListed, fromValid, fromMade, fromPasses⟩
                | false => exact ⟨toAces, upstreamAcl, toListed, toValid, toMade, toPasses⟩
              exact ⟨clear, fun made => made.add accepted edge upstream rfl rfl⟩

theorem foldl_addTarget_made {done targets : List (String × Placement)}
    {state : Dict String PortAcl × Dict String Raised}
    (clear : (targets.foldl generator.addTarget state).2.size = 0) :
    state.2.size = 0 ∧ (generator.Made done state.1 →
      generator.Made (done ++ targets) (targets.foldl generator.addTarget state).1) := by
  induction targets generalizing done state with
  | nil =>
      refine ⟨clear, fun made => ?_⟩
      rw [List.append_nil]
      exact made
  | cons target rest later =>
      rw [List.foldl_cons] at clear ⊢
      obtain ⟨clearHere, run⟩ := @later (done ++ [target]) _ clear
      obtain ⟨clearBefore, step⟩ := addTarget_made clearHere
      refine ⟨clearBefore, fun made => ?_⟩
      have after := run (step made)
      rwa [List.append_assoc] at after

/-- What every entry of a map has, with the rules that are the same for all. -/
structure MudAclGenerator.SaneMap (generator : MudAclGenerator) (portAclMap : Dict String PortAcl) :
    Prop where
  edge : ∀ name portAcl, portAclMap.get? name = some portAcl → ∀ rule ∈ portAcl.edgeAcl,
    rule ∈ AclHelper.baselineRules ∨ rule ∈ AclHelper.rawRules ∨
      ∃ target ∈ generator.getDeviceTargetMap.entries, target.2.edgeName = name ∧
        generator.SaneFor true target.1 rule
  upstream : ∀ name portAcl, portAclMap.get? name = some portAcl → ∀ rule ∈ portAcl.upstreamAcl,
    ∃ target ∈ generator.getDeviceTargetMap.entries, target.2.edgeName = name ∧
      generator.SaneFor false target.1 rule

theorem MudAclGenerator.SaneMap.addRules {portAclMap : Dict String PortAcl}
    (sane : generator.SaneMap portAclMap) (keyword : String) {add : Acl → Acl}
    (added : ∀ acl, ∀ rule ∈ add acl,
      rule ∈ acl ∨ rule ∈ AclHelper.baselineRules ∨ rule ∈ AclHelper.rawRules) :
    generator.SaneMap (MudAclGenerator.addRules portAclMap keyword add) := by
  have before : (∀ rule ∈ (portAclAt portAclMap ⟨keyword, none⟩).edgeAcl,
      rule ∈ AclHelper.baselineRules ∨ rule ∈ AclHelper.rawRules ∨
        ∃ target ∈ generator.getDeviceTargetMap.entries,
          target.2.edgeName = (Placement.mk keyword none).edgeName ∧
            generator.SaneFor true target.1 rule) ∧
      ∀ rule ∈ (portAclAt portAclMap ⟨keyword, none⟩).upstreamAcl,
        ∃ target ∈ generator.getDeviceTargetMap.entries,
          target.2.edgeName = (Placement.mk keyword none).edgeName ∧
            generator.SaneFor false target.1 rule := by
    rw [portAclAt]
    cases there : portAclMap.get? (Placement.mk keyword none).edgeName with
    | none => exact ⟨List.forall_mem_nil _, List.forall_mem_nil _⟩
    | some portAcl => exact ⟨sane.edge _ portAcl there, sane.upstream _ portAcl there⟩
  constructor
  case edge =>
    apply Dict.forall_get?_insert sane.edge
    intro rule member
    rcases added _ rule member with old | new
    · exact before.1 rule old
    · exact new.imp_right .inl
  case upstream => exact Dict.forall_get?_insert sane.upstream before.2

/-- There is a map only if the ACEs of all targets are valid and their rules pass, and all rules of
it are sane but for those that are the same for all. -/
theorem makePortAclMap_sane (generator : MudAclGenerator) :
    (∀ portAclMap, generator.makePortAclMap = .ok portAclMap →
        (∀ target ∈ generator.getDeviceTargetMap.entries, generator.Accepts target.1) ∧
          generator.SaneMap portAclMap) ∧
      ((∃ target ∈ generator.getDeviceTargetMap.entries, ¬ generator.Accepts target.1) →
        ∃ raised, generator.makePortAclMap = .error raised) := by
  have sane : ∀ portAclMap, generator.makePortAclMap = .ok portAclMap →
      (∀ target ∈ generator.getDeviceTargetMap.entries, generator.Accepts target.1) ∧
        generator.SaneMap portAclMap := by
    intro portAclMap returned
    obtain ⟨clear, returned⟩ := ite_error_eq_ok_iff.mp returned
    have empty : generator.Made [] Dict.empty :=
      ⟨List.forall_mem_nil _, nofun, nofun⟩
    have made := (foldl_addTarget_made (not_not.mp clear)).2 empty
    have targets : generator.SaneMap
        (generator.getDeviceTargetMap.entries.foldl generator.addTarget (.empty, .empty)).1 :=
      ⟨fun name portAcl there rule member => .inr (.inr (made.edge name portAcl there rule member)),
        made.upstream⟩
    refine ⟨made.accepted, ?_⟩
    split_ifs at returned with template
    · cases returned
      refine (targets.addRules "raw" fun acl rule member => ?_).addRules "baseline"
        fun acl rule member => ?_
      · exact (List.mem_append.mp member).imp_right .inr
      · exact (List.mem_append.mp member).imp_right .inl
    · cases returned
      constructor
      case edge =>
        intro name portAcl there rule member
        obtain ⟨stored, found, rfl⟩ := Dict.get?_mapValues.mp there
        rcases List.mem_append.mp member with member | member
        · exact targets.edge name stored found rule member
        · exact .inl member
      case upstream =>
        intro name portAcl there rule member
        obtain ⟨stored, found, rfl⟩ := Dict.get?_mapValues.mp there
        exact targets.upstream name stored found rule member
  refine ⟨sane, fun ⟨target, member, refused⟩ => ?_⟩
  cases returned : generator.makePortAclMap with
  | error raised => exact ⟨raised, rfl⟩
  | ok portAclMap => exact absurd ((sane portAclMap returned).1 target member) refused

end Maps

namespace Sample

/-- An ACE for the clock of a controller. -/
def ntp : AclAce where
  name := "ntp"
  aclMatches := some {
    mud := some ⟨some "ntp"⟩
    ipv4 := some { dnsSrc := none, dnsDst := none, protocol := some 17 }
    ipv6 := none
    tcp := none
    udp := some {
      directionInitiated := none
      sourcePort := none
      destinationPort := some ⟨some "eq", some 123⟩ } }
  actions := some ⟨some "accept"⟩

/-- A MUD file with a policy for one direction. -/
def fromDevice (ace : AclAce) : MudSpec where
  mudDescriptor := some { fromDevicePolicy := some ⟨some [⟨some "acl"⟩]⟩, toDevicePolicy := none }
  accessLists := some [accessList [ace]]

theorem topology_nodup : ([("9a:02:57:1e:8f:01", Placement.mk "sec" (some 1))].map Prod.fst).Nodup :=
  List.nodup_singleton _

theorem interfaces_nodup : ([((1 : Int), Interface.mk (some "dp_sec_port_1_acl"))].map
    Prod.fst).Nodup := List.nodup_singleton _

theorem switch_nodup : ([("sec", DataPlane.mk ⟨_, interfaces_nodup⟩)].map Prod.fst).Nodup :=
  List.nodup_singleton _

/-- One device at one port. -/
def generator (ace : AclAce) : MudAclGenerator where
  deviceTopology := some ⟨_, topology_nodup⟩
  switchTopology := ⟨_, switch_nodup⟩
  aclProvider := { converter [ace] with mudFile := fun _ => .ok (fromDevice ace) }
  targetTypes := []
  placementText _ := "placement"

theorem bacnet_sane : ∃ portAclMap, (generator bacnet).makePortAclMap = .ok portAclMap ∧
    (generator bacnet).Accepts "9a:02:57:1e:8f:01" ∧ (generator bacnet).SaneMap portAclMap := by
  have returned : ∃ portAclMap, (generator bacnet).makePortAclMap = .ok portAclMap := ⟨_, rfl⟩
  obtain ⟨portAclMap, returned⟩ := returned
  obtain ⟨accepted, sane⟩ := (makePortAclMap_sane (generator bacnet)).1 portAclMap returned
  have target := accepted ("9a:02:57:1e:8f:01", ⟨"sec", some 1⟩) List.mem_cons_self
  exact ⟨portAclMap, returned, target, sane⟩

/-- A map is returned though the rule for an ACE would not pass: its controller has no host. -/
theorem ntp_returned : (∃ portAclMap, (generator ntp).makePortAclMap = .ok portAclMap) ∧
    (generator ntp).getDeviceTargetMap.keys = ["9a:02:57:1e:8f:01"] ∧
    (generator ntp).getDeviceSpec "9a:02:57:1e:8f:01" = lightbulb ∧
    (generator ntp).aclProvider.deviceAces lightbulb true = .ok [ntp] ∧
    ∃ rule, Compiles (generator ntp).aclProvider.dns false true ntp rule ∧
      checkWhitelistedRules rule = .error (.plain "Should not include NTP ports in ACLs") := by
  have made : ∃ rule, makeAclRule (generator ntp).aclProvider.dns ntp false true = .ok rule ∧
      checkWhitelistedRules rule = .error (.plain "Should not include NTP ports in ACLs") :=
    ⟨_, rfl, rfl⟩
  refine ⟨⟨_, rfl⟩, rfl, rfl, rfl, ?_⟩
  obtain ⟨rule, compiled, refused⟩ := made
  exact ⟨rule, makeAclRule_eq_ok_iff.mp compiled, refused⟩

end Sample

end Daq.Mudacl
