import Daq.Lib.Fallible
import Daq.Mudacl.Converter
import Mathlib.Data.List.Forall2

namespace Daq.Mudacl

/-! Which ACEs are valid, and which rules are made of them. -/

section Valid

variable (dns : String → Option String) (isTemplate isEdge : Bool)

/-- The address for a DNS name; no name stands for any address. -/
inductive NameAddress : Option String → Option String → Prop
  | any : NameAddress none none
  | template {name : String} (template : isTemplate = true) :
      NameAddress (some name) (some (dnsTemplate name))
  | resolved {name address : String} (device : isTemplate = false)
      (found : resolveIpv4Dst dns name = .ok address) : NameAddress (some name) (some address)

/-- The source and the destination address of an ACE. -/
inductive Addresses : Option MudMatch → NwSpec → Option String → Option String → Prop
  | controller {mud : MudMatch} {ipv4 : NwSpec} (noSrc : ipv4.dnsSrc = none)
      (noDst : ipv4.dnsDst = none) :
      Addresses (some mud) ipv4 (if isEdge then none else some (controllerTemplate mud.controller))
        (if isEdge then some (controllerTemplate mud.controller) else none)
  | names {ipv4 : NwSpec} {nwSrc nwDst : Option String}
      (source : NameAddress dns isTemplate ipv4.dnsSrc nwSrc)
      (destination : NameAddress dns isTemplate ipv4.dnsDst nwDst) :
      Addresses none ipv4 nwSrc nwDst

/-- The port for a section; no section stands for any port. -/
inductive PortIs : Option PortSpec → Option Int → Prop
  | any : PortIs none none
  | eq (port : Option Int) : PortIs (some ⟨some "eq", port⟩) port

def direction (fromDevice : Bool) : String := if fromDevice then "from-device" else "to-device"

def clause (accept : Bool) : String := if accept then "accept" else "drop"

/-- A valid ACE and its rule. -/
inductive Compiles : AclAce → Rule → Prop
  | tcp {name : String} {accept : Bool} {mud : Option MudMatch} {ipv4 : NwSpec} {tcp : TpSpec}
      {nwSrc nwDst : Option String} {tcpSrc tcpDst : Option Int} {fromDevice : Bool}
      (protocol : ipv4.protocol = some AclHelper.nwProtoTcp)
      (addresses : Addresses dns isTemplate isEdge mud ipv4 nwSrc nwDst)
      (source : PortIs tcp.sourcePort tcpSrc) (destination : PortIs tcp.destinationPort tcpDst)
      (initiated : tcp.directionInitiated = some (direction fromDevice))
      (required : (if isEdge = fromDevice then tcpDst else tcpSrc).isSome) :
      Compiles
        { name := name
          aclMatches := some { mud := mud, ipv4 := some ipv4, ipv6 := none, tcp := some tcp, udp := none }
          actions := some { forwarding := some (clause accept) } }
        { description := name, allow := if accept then 1 else 0
          dlType := some AclHelper.dlTypeIPv4, nwProto := some AclHelper.nwProtoTcp
          nwSrc := nwSrc, nwDst := nwDst, tcpSrc := tcpSrc, tcpDst := tcpDst }
  | udp {name : String} {accept : Bool} {mud : Option MudMatch} {ipv4 : NwSpec} {udp : TpSpec}
      {nwSrc nwDst : Option String} {udpSrc udpDst : Option Int}
      (protocol : ipv4.protocol = some AclHelper.nwProtoUdp)
      (addresses : Addresses dns isTemplate isEdge mud ipv4 nwSrc nwDst)
      (source : PortIs udp.sourcePort udpSrc) (destination : PortIs udp.destinationPort udpDst)
      (required : udpSrc.isSome ∨ udpDst.isSome) :
      Compiles
        { name := name
          aclMatches := some { mud := mud, ipv4 := some ipv4, ipv6 := none, tcp := none, udp := some udp }
          actions := some { forwarding := some (clause accept) } }
        { description := name, allow := if accept then 1 else 0
          dlType := some AclHelper.dlTypeIPv4, nwProto := some AclHelper.nwProtoUdp
          nwSrc := nwSrc, nwDst := nwDst, udpSrc := udpSrc, udpDst := udpDst }

end Valid

open Fallible

section Steps

variable {dns : String → Option String} {isTemplate isEdge : Bool}

theorem notNull_eq_ok_iff {α : Type} {given : Option α} {value : α} :
    notNull given = .ok value ↔ given = some value := by
  cases given with
  | none => simp [notNull]
  | some other => simp [notNull]

theorem processing_eq_ok_iff {α : Type} {what : String} {ran : Except Raised α} {value : α} :
    processing what ran = .ok value ↔ ran = .ok value := by
  cases ran with
  | error raised => simp [processing, Except.mapError]
  | ok other => simp [processing, Except.mapError]

theorem resolvePort_eq_ok_iff {portSpec : Option PortSpec} {port : Option Int} :
    resolvePort portSpec = .ok port ↔ PortIs portSpec port := by
  constructor
  · intro resolved
    cases portSpec with
    | none =>
        cases resolved
        exact .any
    | some portSpec =>
        obtain ⟨operator, number⟩ := portSpec
        rw [resolvePort] at resolved
        split_ifs at resolved with other
        obtain rfl := of_not_not other
        cases resolved
        exact .eq number
  · rintro (_ | _)
    · rfl
    · rfl

theorem isFromDevice_eq_ok_iff {given : Option String} {fromDevice : Bool} :
    isFromDevice given = .ok fromDevice ↔ given = some (direction fromDevice) := by
  cases given with
  | none => simp [isFromDevice]
  | some text =>
      rw [isFromDevice]
      split_ifs with fromIt toIt
      · subst fromIt
        cases fromDevice <;> simp [direction]
      · subst toIt
        cases fromDevice <;> simp [direction]
      · cases fromDevice <;> simp [direction, fromIt, toIt]

theorem resolveNwAddr_name {aclMatches : Matches} (noMud : aclMatches.mud = none) {ipv4 : NwSpec}
    {isSrc : Bool} {address : Option String} :
    resolveNwAddr dns aclMatches ipv4 isSrc isTemplate isEdge = .ok address ↔
      NameAddress dns isTemplate (if isSrc then ipv4.dnsSrc else ipv4.dnsDst) address := by
  rw [resolveNwAddr, noMud]
  cases entry : (if isSrc then ipv4.dnsSrc else ipv4.dnsDst) with
  | none =>
      constructor
      · intro resolved
        cases resolved
        exact .any
      · rintro ⟨⟩
        rfl
  | some name =>
      dsimp only
      constructor
      · intro resolved
        split_ifs at resolved with template
        · cases resolved
          exact .template template
        · obtain ⟨found, ran, same⟩ := bind_eq_ok_iff.mp resolved
          cases same
          exact .resolved (Bool.eq_false_iff.mpr template) ran
      · intro stands
        cases stands with
        | template template => rw [if_pos template]
        | resolved device found =>
            rw [if_neg (Bool.eq_false_iff.mp device), found]
            rfl

theorem resolveNwAddr_controller {aclMatches : Matches} {mud : MudMatch}
    (given : aclMatches.mud = some mud) {ipv4 : NwSpec} {isSrc : Bool} {address : Option String} :
    resolveNwAddr dns aclMatches ipv4 isSrc isTemplate isEdge = .ok address ↔
      (if isSrc then ipv4.dnsSrc else ipv4.dnsDst) = none ∧
        address = if isEdge = isSrc then none else some (controllerTemplate mud.controller) := by
  rw [resolveNwAddr, given]
  cases entry : (if isSrc then ipv4.dnsSrc else ipv4.dnsDst) with
  | none => simp [eq_comm]
  | some name => simp

theorem resolveNw_eq_ok_iff {rule after : Rule} {aclMatches : Matches} {ipv4 : NwSpec}
    {protocol : Int} :
    resolveNw dns rule aclMatches ipv4 protocol isTemplate isEdge = .ok after ↔
      ∃ nwSrc nwDst, Addresses dns isTemplate isEdge aclMatches.mud ipv4 nwSrc nwDst ∧
        after = { rule with nwProto := some protocol, nwDst := nwDst, nwSrc := nwSrc } := by
  rw [resolveNw]
  simp only [bind_eq_ok_iff, pure_eq_ok_iff]
  cases given : aclMatches.mud with
  | none =>
      simp only [resolveNwAddr_name given]
      constructor
      · rintro ⟨nwDst, destination, nwSrc, source, rfl⟩
        exact ⟨nwSrc, nwDst, .names source destination, rfl⟩
      · rintro ⟨nwSrc, nwDst, addresses, rfl⟩
        cases addresses with
        | names source destination => exact ⟨nwDst, destination, nwSrc, source, rfl⟩
  | some mud =>
      simp only [resolveNwAddr_controller given]
      constructor
      · rintro ⟨nwDst, ⟨noDst, rfl⟩, nwSrc, ⟨noSrc, rfl⟩, rfl⟩
        refine ⟨_, _, .controller noSrc noDst, ?_⟩
        cases isEdge <;> rfl
      · rintro ⟨nwSrc, nwDst, addresses, rfl⟩
        cases addresses with
        | controller noSrc noDst =>
            refine ⟨_, ⟨noDst, rfl⟩, _, ⟨noSrc, rfl⟩, ?_⟩
            cases isEdge <;> rfl

theorem resolveTcp_eq_ok_iff {rule after : Rule} {aclMatches : Matches} :
    resolveTcp rule aclMatches AclHelper.nwProtoTcp isEdge = .ok after ↔
      ∃ tcp tcpSrc tcpDst fromDevice, aclMatches.udp = none ∧ aclMatches.tcp = some tcp ∧
        PortIs tcp.sourcePort tcpSrc ∧ PortIs tcp.destinationPort tcpDst ∧
        tcp.directionInitiated = some (direction fromDevice) ∧
        (if isEdge = fromDevice then tcpDst else tcpSrc).isSome ∧
        after = { rule with tcpDst := tcpDst, tcpSrc := tcpSrc } := by
  have required : ∀ (fromDevice : Bool) (tcpDst tcpSrc : Option Int),
      ¬ (if isEdge != fromDevice then tcpSrc else tcpDst) = none ↔
        (if isEdge = fromDevice then tcpDst else tcpSrc).isSome := by
    intro fromDevice tcpDst tcpSrc
    cases isEdge <;> cases fromDevice <;> simp [Option.isSome_iff_ne_none]
  rw [resolveTcp, if_neg (not_not.mpr rfl)]
  cases noUdp : aclMatches.udp with
  | some other => simp
  | none =>
      cases given : aclMatches.tcp with
      | none => simp
      | some tcp =>
          simp only [bind_eq_ok_iff, resolvePort_eq_ok_iff, isFromDevice_eq_ok_iff,
            ite_error_eq_ok_iff, required]
          constructor
          · rintro ⟨tcpDst, destination, tcpSrc, source, fromDevice, initiated, there, same⟩
            cases same
            exact ⟨tcp, tcpSrc, tcpDst, fromDevice, trivial, rfl, source, destination, initiated,
              there, rfl⟩
          · rintro ⟨_, tcpSrc, tcpDst, fromDevice, _, same, source, destination, initiated, there, rfl⟩
            cases same
            exact ⟨tcpDst, destination, tcpSrc, source, fromDevice, initiated, there, rfl⟩

theorem resolveUdp_eq_ok_iff {rule after : Rule} {aclMatches : Matches} :
    resolveUdp rule aclMatches AclHelper.nwProtoUdp = .ok after ↔
      ∃ udp udpSrc udpDst, aclMatches.tcp = none ∧ aclMatches.udp = some udp ∧
        PortIs udp.sourcePort udpSrc ∧ PortIs udp.destinationPort udpDst ∧
        (udpSrc.isSome ∨ udpDst.isSome) ∧
        after = { rule with udpSrc := udpSrc, udpDst := udpDst } := by
  have required : ∀ udpDst udpSrc : Option Int,
      ¬ (udpDst = none ∧ udpSrc = none) ↔ udpSrc.isSome ∨ udpDst.isSome := by
    intro udpDst udpSrc
    cases udpDst <;> cases udpSrc <;> simp
  rw [resolveUdp, if_neg (not_not.mpr rfl)]
  cases noTcp : aclMatches.tcp with
  | some other => simp
  | none =>
      cases given : aclMatches.udp with
      | none => simp
      | some udp =>
          simp only [bind_eq_ok_iff, resolvePort_eq_ok_iff, ite_error_eq_ok_iff, required]
          constructor
          · rintro ⟨udpSrc, source, udpDst, destination, there, same⟩
            cases same
            exact ⟨udp, udpSrc, udpDst, trivial, rfl, source, destination, there, rfl⟩
          · rintro ⟨_, udpSrc, udpDst, _, same, source, destination, there, rfl⟩
            cases same
            exact ⟨udpSrc, source, udpDst, destination, there, rfl⟩

theorem resolveIp_eq_ok_iff {rule after : Rule} {aclMatches : Matches} {ipv4 : NwSpec}
    {protocol : Int} :
    resolveIp rule aclMatches = .ok (after, ipv4, protocol) ↔
      aclMatches.ipv4 = some ipv4 ∧ aclMatches.ipv6 = none ∧ ipv4.protocol = some protocol ∧
        (protocol = AclHelper.nwProtoTcp ∨ protocol = AclHelper.nwProtoUdp) ∧
        after = { rule with dlType := some AclHelper.dlTypeIPv4 } := by
  rw [resolveIp]
  cases given : aclMatches.ipv4 with
  | none => simp
  | some ipv4Given =>
      cases other : aclMatches.ipv6 with
      | some ipv6 => simp
      | none =>
          dsimp only
          cases number : ipv4Given.protocol with
          | none =>
              constructor
              · intro ran
                cases ran
              · rintro ⟨same, _, found, _, _⟩
                cases same
                cases number.symm.trans found
          | some numberGiven =>
              dsimp only
              constructor
              · intro ran
                split_ifs at ran with unknown
                cases ran
                refine ⟨rfl, rfl, number, ?_, rfl⟩
                by_contra neither
                exact unknown (not_or.mp neither)
              · rintro ⟨same, _, found, known, rfl⟩
                cases same
                cases number.symm.trans found
                exact if_neg fun neither => known.elim neither.1 neither.2

theorem resolveForwarding_eq_ok_iff {actions : Option Actions} {accept : Bool} :
    resolveForwarding actions = .ok accept ↔ actions = some ⟨some (clause accept)⟩ := by
  rcases actions with _ | _ | forwarding
  · simp [resolveForwarding, notNull]
  · simp [resolveForwarding, notNull]
  · have read : resolveForwarding (some ⟨some forwarding⟩) =
        if forwarding = "accept" then .ok true
        else if forwarding = "drop" then .ok false
        else .error (.plain s!"Unrecognized forwarding clause {forwarding}") := rfl
    rw [read]
    split_ifs with accepts drops
    · subst accepts
      cases accept <;> simp [clause]
    · subst drops
      cases accept <;> simp [clause]
    · cases accept <;> simp [clause, accepts, drops]

theorem makeAclRule_eq_ok_iff {aclAce : AclAce} {rule : Rule} :
    makeAclRule dns aclAce isTemplate isEdge = .ok rule ↔
      Compiles dns isTemplate isEdge aclAce rule := by
  have noUdp : ∀ (rule : Rule) aclMatches, resolveUdp rule aclMatches AclHelper.nwProtoTcp = .ok rule :=
    fun _ _ => rfl
  have noTcp : ∀ (rule : Rule) aclMatches,
      resolveTcp rule aclMatches AclHelper.nwProtoUdp isEdge = .ok rule := fun _ _ => rfl
  rw [makeAclRule, processing_eq_ok_iff]
  simp only [bind_eq_ok_iff, resolveForwarding_eq_ok_iff, notNull_eq_ok_iff, Prod.exists,
    resolveIp_eq_ok_iff, resolveNw_eq_ok_iff]
  constructor
  · rintro ⟨accept, actions, ⟨mud, ipv4, ipv6, tcp, udp⟩, given, _, section4, protocol,
      ⟨same4, same6, found, known, rfl⟩, _, ⟨nwSrc, nwDst, addresses, rfl⟩, _, ranTcp, ranUdp⟩
    obtain ⟨name, aclMatches, actions⟩ := aclAce
    cases same4
    cases same6
    cases given
    cases actions
    rcases known with rfl | rfl
    · cases (noUdp _ _).symm.trans ranUdp
      obtain ⟨section6, tcpSrc, tcpDst, fromDevice, none, given, source, destination, initiated,
        required, rfl⟩ := resolveTcp_eq_ok_iff.mp ranTcp
      cases none
      cases given
      exact .tcp found addresses source destination initiated required
    · cases (noTcp _ _).symm.trans ranTcp
      obtain ⟨section17, udpSrc, udpDst, none, given, source, destination, required, rfl⟩ :=
        resolveUdp_eq_ok_iff.mp ranUdp
      cases none
      cases given
      exact .udp found addresses source destination required
  · intro valid
    cases valid with
    | tcp protocol addresses source destination initiated required =>
        exact ⟨_, rfl, _, rfl, _, _, _, ⟨rfl, rfl, protocol, .inl rfl, rfl⟩, _,
          ⟨_, _, addresses, rfl⟩, _, resolveTcp_eq_ok_iff.mpr
            ⟨_, _, _, _, rfl, rfl, source, destination, initiated, required, rfl⟩, rfl⟩
    | udp protocol addresses source destination required =>
        exact ⟨_, rfl, _, rfl, _, _, _, ⟨rfl, rfl, protocol, .inr rfl, rfl⟩, _,
          ⟨_, _, addresses, rfl⟩, _, rfl, resolveUdp_eq_ok_iff.mpr
            ⟨_, _, _, rfl, rfl, source, destination, required, rfl⟩⟩

end Steps

/-- The ACEs of a policy, in its order. -/
def policyAces (accessLists : Option (List AclSpec)) :
    Option DevicePolicy → Except Raised (List AclAce)
  | none => .ok []
  | some devicePolicy => do
      let parts ← (← notNull devicePolicy.accessList).mapM fun policySpec => do
        notNull (← getAclSpec accessLists policySpec).aces
      return parts.flatten

section Policies

variable {dns : String → Option String} {isTemplate isEdge : Bool}
variable {accessLists : Option (List AclSpec)}

theorem size_insert_ne_zero {ν : Type} (dict : Dict String ν) (key : String) (value : ν) :
    (dict.insert key value).size ≠ 0 := by
  intro none
  have absent := Dict.size_eq_zero_iff.mp none key
  rw [Dict.get?_insert_self] at absent
  cases absent

/-- If no error has been collected, each ACE has its rule. -/
theorem foldl_addAce {policyName : String} {aces : List AclAce} {state : Acl × Dict String Raised}
    (clear : (aces.foldl (addAce dns policyName isTemplate isEdge) state).2.size = 0) :
    state.2.size = 0 ∧ ∃ rules, List.Forall₂ (Compiles dns isTemplate isEdge) aces rules ∧
      (aces.foldl (addAce dns policyName isTemplate isEdge) state).1 = state.1 ++ rules := by
  induction aces generalizing state with
  | nil => exact ⟨clear, [], .nil, (List.append_nil _).symm⟩
  | cons ace rest later =>
      rw [List.foldl_cons] at clear ⊢
      obtain ⟨clearHere, rules, compiled, same⟩ := later clear
      cases made : makeAclRule dns ace isTemplate isEdge with
      | ok rule =>
          have step : addAce dns policyName isTemplate isEdge state ace =
              (state.1 ++ [rule], state.2) := by
            rw [addAce, made]
          rw [step] at clearHere same
          refine ⟨clearHere, rule :: rules, .cons (makeAclRule_eq_ok_iff.mp made) compiled, ?_⟩
          rw [step, same, List.append_assoc]
          rfl
      | error raised =>
          rw [addAce, made] at clearHere
          exact absurd clearHere (size_insert_ne_zero _ _ _)

theorem foldl_addAce_errors {policyName : String} {aces : List AclAce}
    {state : Acl × Dict String Raised}
    (valid : ∀ ace ∈ aces, ∃ rule, Compiles dns isTemplate isEdge ace rule) :
    (aces.foldl (addAce dns policyName isTemplate isEdge) state).2 = state.2 := by
  induction aces generalizing state with
  | nil => rfl
  | cons ace rest later =>
      obtain ⟨⟨rule, compiled⟩, behind⟩ := List.forall_mem_cons.mp valid
      rw [List.foldl_cons, later behind, addAce, makeAclRule_eq_ok_iff.mpr compiled]

theorem foldlM_addPolicy {policies : List PolicySpec} {state after : Acl × Dict String Raised}
    (ran : policies.foldlM (addPolicy dns accessLists isTemplate isEdge) state = .ok after)
    (clear : after.2.size = 0) :
    state.2.size = 0 ∧ ∃ parts rules,
      (policies.mapM fun policySpec => do
        notNull (← getAclSpec accessLists policySpec).aces) = .ok parts ∧
      List.Forall₂ (Compiles dns isTemplate isEdge) parts.flatten rules ∧
        after.1 = state.1 ++ rules := by
  induction policies generalizing state with
  | nil =>
      cases ran
      exact ⟨clear, [], [], rfl, .nil, (List.append_nil _).symm⟩
  | cons policySpec rest later =>
      rw [List.foldlM_cons] at ran
      obtain ⟨middle, first, ran⟩ := bind_eq_ok_iff.mp ran
      obtain ⟨clearMiddle, parts, rules, listed, compiled, same⟩ := later ran
      obtain ⟨aclSpec, found, first⟩ := bind_eq_ok_iff.mp first
      obtain ⟨aces, given, first⟩ := bind_eq_ok_iff.mp first
      cases first
      obtain ⟨clearHere, rulesHere, compiledHere, sameHere⟩ := foldl_addAce clearMiddle
      refine ⟨clearHere, aces :: parts, rulesHere ++ rules, ?_, List.rel_append compiledHere compiled,
        ?_⟩
      · rw [List.mapM_cons, found, ok_bind, given, ok_bind, listed]
        rfl
      · rw [same, sameHere, List.append_assoc]

theorem foldlM_addPolicy_errors {policies : List PolicySpec} {parts : List (List AclAce)}
    (listed : (policies.mapM fun policySpec => do
      notNull (← getAclSpec accessLists policySpec).aces) = .ok parts)
    (valid : ∀ ace ∈ parts.flatten, ∃ rule, Compiles dns isTemplate isEdge ace rule)
    (state : Acl × Dict String Raised) :
    ∃ after, policies.foldlM (addPolicy dns accessLists isTemplate isEdge) state = .ok after ∧
      after.2 = state.2 := by
  induction policies generalizing parts state with
  | nil => exact ⟨state, rfl, rfl⟩
  | cons policySpec rest later =>
      rw [List.mapM_cons] at listed
      obtain ⟨aces, here, listed⟩ := bind_eq_ok_iff.mp listed
      obtain ⟨others, behind, listed⟩ := bind_eq_ok_iff.mp listed
      cases listed
      obtain ⟨validHere, validRest⟩ := List.forall_mem_append.mp valid
      obtain ⟨aclSpec, found, given⟩ := bind_eq_ok_iff.mp here
      obtain ⟨after, ran, same⟩ := later behind validRest
        (aces.foldl (addAce dns (orNull policySpec.name) isTemplate isEdge) state)
      refine ⟨after, ?_, same.trans (foldl_addAce_errors validHere)⟩
      rw [List.foldlM_cons, addPolicy, found, ok_bind, given, ok_bind]
      exact ran

theorem expandAcl_compiles {devicePolicy : Option DevicePolicy} {acl : Acl}
    (expanded : expandAcl dns devicePolicy accessLists isTemplate isEdge = .ok acl) :
    ∃ aces, policyAces accessLists devicePolicy = .ok aces ∧
      List.Forall₂ (Compiles dns isTemplate isEdge) aces acl := by
  cases devicePolicy with
  | none =>
      cases expanded
      exact ⟨[], rfl, .nil⟩
  | some devicePolicy =>
      obtain ⟨policies, given, expanded⟩ := bind_eq_ok_iff.mp expanded
      obtain ⟨⟨rules, errors⟩, ran, expanded⟩ := bind_eq_ok_iff.mp expanded
      obtain ⟨clear, same⟩ := ite_error_eq_ok_iff.mp expanded
      cases same
      obtain ⟨_, parts, rules, listed, compiled, rfl⟩ := foldlM_addPolicy ran (not_not.mp clear)
      refine ⟨parts.flatten, ?_, compiled⟩
      rw [policyAces, given, ok_bind, listed]
      rfl

theorem exists_expandAcl {devicePolicy : Option DevicePolicy} {aces : List AclAce}
    (listed : policyAces accessLists devicePolicy = .ok aces)
    (valid : ∀ ace ∈ aces, ∃ rule, Compiles dns isTemplate isEdge ace rule) :
    ∃ acl, expandAcl dns devicePolicy accessLists isTemplate isEdge = .ok acl := by
  cases devicePolicy with
  | none => exact ⟨[], rfl⟩
  | some devicePolicy =>
      obtain ⟨policies, given, listed⟩ := bind_eq_ok_iff.mp listed
      obtain ⟨parts, found, same⟩ := bind_eq_ok_iff.mp listed
      cases same
      obtain ⟨⟨acl, errors⟩, ran, rfl⟩ := foldlM_addPolicy_errors found valid ([], .empty)
      refine ⟨acl, ?_⟩
      rw [expandAcl, given, ok_bind, ran, ok_bind]
      rfl

end Policies

end Daq.Mudacl
