import Daq.Mudacl.Templates

namespace Daq.Mudacl

open Fallible

/-! What the list of a device port makes of the policy of the device: from the MUD
file of its type, over the template that is written and resolved, to the first rule that
matches a frame. -/

/-- What becomes of a frame: the ports it is put out to, and whether it is let through. -/
structure Treatment where
  outputs : List Nat
  allowed : Bool
deriving DecidableEq

def Treatment.dropped : Treatment := ⟨[], false⟩

def treat (rule : Acl.Rule) : Treatment := ⟨rule.outputs, rule.actions.allow = some true⟩

/-- A list drops what none of its rules matches. -/
def treatment (acl : List Acl.Rule) (frame : Acl.Frame) : Treatment :=
  ((Acl.firstMatch acl frame).map treat).getD .dropped

/-! The policy. -/

namespace AclAce

def tcpSrc (ace : AclAce) : Option Int := (ace.tcp.bind TpSpec.sourcePort).bind PortSpec.port

def tcpDst (ace : AclAce) : Option Int := (ace.tcp.bind TpSpec.destinationPort).bind PortSpec.port

def udp (ace : AclAce) : Option TpSpec := ace.aclMatches.bind fun aclMatches => aclMatches.udp

def udpSrc (ace : AclAce) : Option Int := (ace.udp.bind TpSpec.sourcePort).bind PortSpec.port

def udpDst (ace : AclAce) : Option Int := (ace.udp.bind TpSpec.destinationPort).bind PortSpec.port

def accepts (ace : AclAce) : Bool :=
  ace.actions.bind Actions.forwarding = some "accept"

/-- A port that is given is the port of the frame. -/
def portFits (wanted : Option Int) (actual : Option Nat) : Bool :=
  match wanted with
  | none => true
  | some port => actual.map Int.ofNat = some port

/-- An ACE is about a frame of IPv4 with its protocol and ports.  A name for the
source is never resolved. -/
def selects (ace : AclAce) (frame : Acl.Frame) : Bool :=
  frame.ethType = Acl.ipv4DlType && frame.nwProto.map Int.ofNat = ace.ipv4.bind NwSpec.protocol &&
    portFits ace.tcpSrc frame.tcpSrc && portFits ace.tcpDst frame.tcpDst &&
    portFits ace.udpSrc frame.udpSrc && portFits ace.udpDst frame.udpDst &&
    Acl.fits ((ace.ipv4.bind NwSpec.dnsSrc).map dnsTemplate) frame.nwSrc

/-- Ports of two ACEs that do not contradict one another. -/
def portsAgree (port other : Option Int) : Bool :=
  match port, other with
  | some number, some another => number = 0 || another = 0 || number = another
  | _, _ => true

/-- Two ACEs for the two ends of one exchange. -/
def agrees (ace other : AclAce) : Bool :=
  portsAgree ace.udpSrc other.udpSrc && portsAgree ace.udpDst other.udpDst &&
    portsAgree ace.tcpSrc other.tcpSrc && portsAgree ace.tcpDst other.tcpDst

/-- No port is negative. -/
def Numbered (ace : AclAce) : Prop :=
  ∀ port ∈ [ace.tcpSrc, ace.tcpDst, ace.udpSrc, ace.udpDst], ∀ number ∈ port, 0 ≤ number

end AclAce

section Policy

variable (converter : MudConverter) (topology : Acl.FaucetTopology)
  (specs : Dict Mac Acl.DeviceSpec) (mac : Mac)

/-- The ACEs for what a type of device sends, or receives. -/
def typeAces (type : String) (isEdge : Bool) : List AclAce :=
  (converter.deviceAces (templateSpec type) isEdge).toOption.getD []

/-- The addresses that a spec gives for a controller. -/
def controllerMacs (spec : Acl.DeviceSpec) (controller : String) : Option (List Mac) :=
  (spec.controllers.bind (·.get? controller)).bind fun entry =>
    (entry.controlees.bind (·.get? controller)).bind Acl.Controlee.macAddrs

/-- The policy of the device at an address has an ACE for the other end. -/
def consents (ace : AclAce) (controller : String) (other : Mac) : Bool :=
  (specs.get? other).isSome &&
    (typeAces converter (Acl.getDeviceType specs other) false).any fun back =>
      back.controller = some controller && ace.agrees back

/-- The live targets that the controller of an ACE stands for and that consent; none
without such a controller. -/
def farTargets (ace : AclAce) : Option (List PortTarget) :=
  ace.controller.bind fun controller =>
    ((specs.get? mac).bind (controllerMacs · controller)).map fun macs =>
      macs.flatMap fun other =>
        if consents converter specs ace controller other then
          topology.portTargets.values.filter fun target => decide (target.mac = other)
        else []

/-- What becomes of a frame that is accepted or not, by the targets at the far end: to
targets it goes by their address, and nowhere else. -/
def ruleTreatment (accepts : Bool) (targets : Option (List PortTarget)) (dlDst : Mac) :
    Option Treatment :=
  if accepts then
    match targets with
    | none => some ⟨[topology.secPort], true⟩
    | some targets =>
        if dlDst = Acl.broadcastMac then
          some ⟨targets.map PortTarget.port ++ [topology.secPort], false⟩
        else
          (targets.find? fun target => decide (target.mac = dlDst)).map fun target =>
            ⟨[target.port, topology.secPort], false⟩
  else some .dropped

/-- What an ACE has to say on a frame that the device sends. -/
def aceTreatment (ace : AclAce) (frame : Acl.Frame) : Option Treatment :=
  if frame.dlSrc = mac ∧ ace.selects frame then
    ruleTreatment topology ace.accepts (farTargets converter topology specs mac ace) frame.dlDst
  else none

/-- What every device may send. -/
def baselineAllows (frame : Acl.Frame) : Bool :=
  frame.ethType = 0x0806 ||
    (frame.ethType = Acl.ipv4DlType &&
      (frame.nwProto = some 1 ||
        (frame.nwProto = some 17 &&
          (frame.udpDst = some 53 || (frame.udpSrc = some 68 && frame.udpDst = some 67)))))

/-- What is to become of a frame from a port: 802.1X goes to the uplink only, else
the first ACE with something to say decides, then the baseline, then the default of the
device. -/
def policyTreatment (aces : List AclAce) (frame : Acl.Frame) : Treatment :=
  if frame.ethType = Acl.dot1xEthType then ⟨[topology.secPort], false⟩
  else
    (((aces.findSome? (aceTreatment converter topology specs mac · frame)).or
        (if baselineAllows frame then some ⟨[topology.secPort], true⟩ else none)).or
      (((specs.get? mac).bind Acl.DeviceSpec.defaultAllow).map fun allow =>
        if allow then ⟨[topology.secPort], true⟩ else .dropped)).getD .dropped

end Policy

/-! The rules of a template. -/

/-- The fields of the rule that a template has for an ACE. -/
structure TemplateFields (isEdge : Bool) (ace : AclAce) (rule : Rule) : Prop where
  accepted : decide (rule.allow ≠ 0) = ace.accepts
  dlType : rule.dlType = some AclHelper.dlTypeIPv4
  nwProto : ∃ protocol, ace.ipv4.bind NwSpec.protocol = some protocol ∧
    rule.nwProto = some protocol ∧ 0 ≤ protocol
  tcpSrc : rule.tcpSrc = ace.tcpSrc
  tcpDst : rule.tcpDst = ace.tcpDst
  udpSrc : rule.udpSrc = ace.udpSrc
  udpDst : rule.udpDst = ace.udpDst
  near : (if isEdge then rule.nwSrc else rule.nwDst) =
    (ace.ipv4.bind fun ipv4 => if isEdge then ipv4.dnsSrc else ipv4.dnsDst).map dnsTemplate
  far : (if isEdge then rule.nwDst else rule.nwSrc) =
    match ace.controller with
    | some controller => some (controlerPrefix ++ controller)
    | none => (ace.ipv4.bind fun ipv4 => if isEdge then ipv4.dnsDst else ipv4.dnsSrc).map
        dnsTemplate
  dlSrc : rule.dlSrc = none
  dlDst : rule.dlDst = none

section Fields

variable {dns : String → Option String} {isEdge : Bool} {ace : AclAce} {rule : Rule}

theorem NameAddress.template_eq {name address : Option String}
    (named : NameAddress dns true name address) : address = name.map dnsTemplate := by
  cases named with
  | any => rfl
  | template _ => rfl
  | resolved device _ => cases device

theorem PortIs.port_eq {portSpec : Option PortSpec} {port : Option Int}
    (is : PortIs portSpec port) : port = portSpec.bind PortSpec.port := by
  cases is with
  | any => rfl
  | eq _ => rfl

/-- Both addresses of a rule of a template. -/
theorem Addresses.template_eq {mud : Option MudMatch} {ipv4 : NwSpec}
    {nwSrc nwDst : Option String} (addresses : Addresses dns true isEdge mud ipv4 nwSrc nwDst) :
    (if isEdge then nwSrc else nwDst) =
        (if isEdge then ipv4.dnsSrc else ipv4.dnsDst).map dnsTemplate ∧
      (if isEdge then nwDst else nwSrc) =
        match mud.map fun mud => orNull mud.controller with
        | some name => some (controlerPrefix ++ name)
        | none => (if isEdge then ipv4.dnsDst else ipv4.dnsSrc).map dnsTemplate := by
  cases addresses with
  | controller noSrc noDst =>
      cases isEdge with
      | true => simp [noSrc, controllerTemplate]
      | false => simp [noDst, controllerTemplate]
  | names source destination =>
      rw [source.template_eq, destination.template_eq]
      cases isEdge with
      | true => simp
      | false => simp

theorem Compiles.templateFields (compiled : Compiles dns true isEdge ace rule) :
    TemplateFields isEdge ace rule := by
  cases compiled with
  | @tcp name accept mud ipv4 tcp nwSrc nwDst tcpSrc tcpDst fromDevice protocol addresses source
      destination _ _ =>
      obtain ⟨near, far⟩ := addresses.template_eq
      refine ⟨?_, rfl, ⟨_, protocol, rfl, by decide⟩, source.port_eq, destination.port_eq, rfl, rfl,
        ?_, ?_, rfl, rfl⟩
      · cases accept <;> rfl
      · exact near
      · exact far
  | @udp name accept mud ipv4 udp nwSrc nwDst udpSrc udpDst protocol addresses source destination
      _ =>
      obtain ⟨near, far⟩ := addresses.template_eq
      refine ⟨?_, rfl, ⟨_, protocol, rfl, by decide⟩, rfl, rfl, source.port_eq,
        destination.port_eq, ?_, ?_, rfl, rfl⟩
      · cases accept <;> rfl
      · exact near
      · exact far

theorem fits_toNat {wanted : Option Int} {actual : Option Nat}
    (numbered : ∀ number ∈ wanted, 0 ≤ number) :
    Acl.fits (wanted.map Int.toNat) actual = AclAce.portFits wanted actual := by
  cases wanted with
  | none => rfl
  | some port =>
      have natural := Int.toNat_of_nonneg (numbered port rfl)
      cases actual with
      | none => simp [AclAce.portFits]
      | some number =>
          simp only [Option.map_some, Acl.fits_some, AclAce.portFits, Option.some.injEq]
          apply decide_eq_decide.mpr
          constructor
          · intro same
            rw [same]
            exact natural
          · intro same
            rw [← same]
            rfl

theorem hexNumber_ipv4 : hexNumber AclHelper.dlTypeIPv4 = some Acl.ipv4DlType := by decide

theorem hexNumber_arp : hexNumber AclHelper.dlTypeArp = some 0x0806 := by decide

/-- The rule as the template of a type has it. -/
def templateRuleOf (type : String) (rule : Rule) : Rule :=
  { describe (templateSpec type) rule with dlSrc := some (macTemplatePrefix ++ type) }

theorem resolve_mac (type : String) (mac : Mac) :
    (Acl.resolveTemplateField (some (macTemplatePrefix ++ type)) (some mac)).2 = some mac := by
  have prefixed : Acl.afterPrefix Acl.macPrefix (macTemplatePrefix ++ type) = some type :=
    Acl.afterPrefix_eq_some_iff.mpr rfl
  simp [Acl.resolveTemplateField, prefixed]

/-- What an address stands for is taken out of the rule. -/
theorem resolve_far (fields : TemplateFields true ace rule) :
    (Acl.resolveTemplateField rule.nwDst none).2 = none := by
  have far : rule.nwDst = _ := fields.far
  rw [far]
  cases ace.controller with
  | some controller =>
      have prefixed : Acl.afterPrefix Acl.ctlPrefix (controlerPrefix ++ controller) =
          some controller := Acl.afterPrefix_eq_some_iff.mpr rfl
      simp [Acl.resolveTemplateField, prefixed]
  | none =>
      cases ace.ipv4.bind fun ipv4 => if true then ipv4.dnsDst else ipv4.dnsSrc with
      | none => rfl
      | some name =>
          have prefixed : Acl.afterPrefix Acl.dnsPrefix (dnsTemplate name) = some name :=
            Acl.afterPrefix_eq_some_iff.mpr rfl
          simp [Acl.resolveTemplateField, prefixed]

theorem resolved_matches (fields : TemplateFields true ace rule) (numbered : ace.Numbered)
    {type : String} {mac : Mac} {frame : Acl.Frame} :
    (Acl.resolvedRule (some mac) (templateRuleOf type rule).written).matches frame =
      decide (frame.dlSrc = mac ∧ ace.selects frame = true) := by
  obtain ⟨protocol, given, written, natural⟩ := fields.nwProto
  have ports := numbered
  simp only [AclAce.Numbered, List.forall_mem_cons, List.not_mem_nil, false_implies,
    implies_true, and_true] at ports
  obtain ⟨tcpSrc, tcpDst, udpSrc, udpDst⟩ := ports
  have near : rule.nwSrc = (ace.ipv4.bind NwSpec.dnsSrc).map dnsTemplate := fields.near
  have protocolFits : Acl.fits ((some protocol).map Int.toNat) frame.nwProto =
      decide (frame.nwProto.map Int.ofNat = some protocol) := by
    apply fits_toNat
    rintro _ ⟨⟩
    exact natural
  unfold Acl.Rule.matches Acl.resolvedRule templateRuleOf Rule.written describe AclAce.selects
  simp only [fields.dlType, Option.bind_some, hexNumber_ipv4, resolve_mac, resolve_far fields,
    fields.tcpSrc, fields.tcpDst, fields.udpSrc, fields.udpDst, fields.dlDst, near, written,
    protocolFits, fits_toNat tcpSrc, fits_toNat tcpDst, fits_toNat udpSrc, fits_toNat udpDst,
    Acl.fits_none, Acl.fits_some, Option.all_none, given]
  rw [Bool.eq_iff_iff]
  simp only [Bool.and_eq_true, decide_eq_true_eq, Option.some.injEq, and_true]
  tauto

theorem conditionalMatch_toNat {port other : Option Int} (natural : ∀ number ∈ port, 0 ≤ number)
    (otherNatural : ∀ number ∈ other, 0 ≤ number) :
    Acl.conditionalMatch (port.map Int.toNat) (other.map Int.toNat) =
      AclAce.portsAgree port other := by
  cases port with
  | none => simp [Acl.conditionalMatch, AclAce.portsAgree, Truthy]
  | some number =>
      cases other with
      | none => simp [Acl.conditionalMatch, AclAce.portsAgree, Truthy]
      | some another =>
          have first := natural number rfl
          have second := otherNatural another rfl
          rw [Bool.eq_iff_iff]
          simp only [Acl.conditionalMatch, AclAce.portsAgree, Truthy, Option.map_some,
            Option.getD_some, Option.some.injEq, Bool.or_eq_true, decide_eq_true_eq]
          split_ifs with nonzero
          · simp only [decide_eq_true_eq]
            omega
          · simp only [true_iff]
            omega

/-- The rule of the other end that is written for an ACE. -/
def templateBackOf (type : String) (rule : Rule) : Rule :=
  { describe (templateSpec type) rule with dlDst := some (macTemplatePrefix ++ type) }

theorem ctrl_ne_dns (controller name : String) :
    controlerPrefix ++ controller ≠ dnsTemplate name := by
  intro same
  have start := congrArg (fun text : String => text.toList.take 2) same
  simp [controlerPrefix, dnsTemplate] at start

theorem ruleMatch_templates {back : AclAce} {backRule : Rule}
    (fields : TemplateFields true ace rule) (numbered : ace.Numbered)
    (backFields : TemplateFields false back backRule) (backNumbered : back.Numbered)
    {mac : Option Mac} {type backType controller : String} :
    Acl.ruleMatch (Acl.resolvedRule mac (templateRuleOf type rule).written)
        (templateBackOf backType backRule).written controller =
      (decide (back.controller = some controller) && ace.agrees back) := by
  have ports := numbered
  simp only [AclAce.Numbered, List.forall_mem_cons, List.not_mem_nil, false_implies,
    implies_true, and_true] at ports
  have others := backNumbered
  simp only [AclAce.Numbered, List.forall_mem_cons, List.not_mem_nil, false_implies,
    implies_true, and_true] at others
  have far : backRule.nwSrc = _ := backFields.far
  have named : decide ((templateBackOf backType backRule).written.nwSrc =
      some (Acl.ctlPrefix ++ controller)) = decide (back.controller = some controller) := by
    apply decide_eq_decide.mpr
    show backRule.nwSrc = some (controlerPrefix ++ controller) ↔ _
    rw [far]
    cases back.controller with
    | some name =>
        rw [Option.some.injEq, Option.some.injEq, String.append_right_inj]
    | none =>
        cases back.ipv4.bind fun ipv4 => if false then ipv4.dnsDst else ipv4.dnsSrc with
        | none => simp
        | some name => simpa using (ctrl_ne_dns controller name).symm
  have udpSrc := conditionalMatch_toNat ports.2.2.1 others.2.2.1
  have udpDst := conditionalMatch_toNat ports.2.2.2 others.2.2.2
  have tcpSrc := conditionalMatch_toNat ports.1 others.1
  have tcpDst := conditionalMatch_toNat ports.2.1 others.2.1
  rw [← fields.tcpSrc, ← backFields.tcpSrc] at tcpSrc
  rw [← fields.tcpDst, ← backFields.tcpDst] at tcpDst
  rw [← fields.udpSrc, ← backFields.udpSrc] at udpSrc
  rw [← fields.udpDst, ← backFields.udpDst] at udpDst
  unfold Acl.ruleMatch AclAce.agrees
  rw [named, ← fields.tcpSrc, ← fields.tcpDst, ← fields.udpSrc, ← fields.udpDst,
    ← backFields.tcpSrc, ← backFields.tcpDst, ← backFields.udpSrc, ← backFields.udpDst,
    ← udpSrc, ← udpDst, ← tcpSrc, ← tcpDst]
  simp only [Bool.and_assoc]
  rfl

end Fields

section Types

variable {converter : MudConverter} {type : String}

theorem makeEdgeAcl_template {acl : Acl}
    (made : converter.makeEdgeAcl (templateSpec type) (macTemplatePrefix ++ type) = .ok acl) :
    ∃ rules, List.Forall₂ (Compiles converter.dns true true) (typeAces converter type true) rules ∧
      acl = rules.map (templateRuleOf type) := by
  obtain ⟨compiledAcl, ran, made⟩ := bind_eq_ok_iff.mp made
  obtain ⟨aces, rules, listed, compiled, rfl⟩ := deviceAcl_compiles ran
  have all : typeAces converter type true = aces := by
    rw [typeAces, listed]
    rfl
  have kept : ((rules.map (describe (templateSpec type))).mapM fun rule =>
      (pure ({ rule with dlSrc := some (macTemplatePrefix ++ type) }, true) :
        Except Raised (Rule × Bool))) =
      pure ((rules.map (describe (templateSpec type))).map fun rule =>
        ({ rule with dlSrc := some (macTemplatePrefix ++ type) }, true)) := List.mapM_pure
  obtain ⟨resolved, ran, made⟩ := bind_eq_ok_iff.mp made
  have same := Except.ok.inj (kept.symm.trans ran)
  subst same
  cases made
  refine ⟨rules, all ▸ compiled, ?_⟩
  rw [List.filter_eq_nil_iff.mpr]
  · rw [List.map_nil, List.foldl_nil, List.map_map, List.map_map]
    rfl
  · intro entry member
    obtain ⟨rule, _, rfl⟩ := List.mem_map.mp member
    exact Bool.false_ne_true

theorem makeUpstreamAcl_template {acl : Acl}
    (made : converter.makeUpstreamAcl (templateSpec type) (macTemplatePrefix ++ type) = .ok acl) :
    ∃ rules,
      List.Forall₂ (Compiles converter.dns true false) (typeAces converter type false) rules ∧
        acl = rules.map (templateBackOf type) := by
  obtain ⟨compiledAcl, ran, made⟩ := bind_eq_ok_iff.mp made
  obtain ⟨aces, rules, listed, compiled, rfl⟩ := deviceAcl_compiles ran
  have all : typeAces converter type false = aces := by
    rw [typeAces, listed]
    rfl
  cases made
  refine ⟨rules, all ▸ compiled, ?_⟩
  rw [List.map_map]
  rfl

end Types

/-- A topology whose templates are the files that the generator has written for types
of devices, with live targets that have addresses. -/
structure Deployment (generator : MudAclGenerator) (portAclMap : Dict String PortAcl)
    (topology : Acl.FaucetTopology) (specs : Dict Mac Acl.DeviceSpec) : Prop where
  template : generator.deviceTopology = none
  made : generator.makePortAclMap = .ok portAclMap
  loaded : ∀ type, topology.templates type = templateFile portAclMap type
  known : topology.deviceSpecs = some specs
  typed : ∀ mac, Acl.getDeviceType specs mac ∉ keywords
  baseline : "baseline" ∉ generator.targetTypes
  numbered : ∀ type isEdge, ∀ ace ∈ typeAces generator.aclProvider type isEdge, ace.Numbered
  addressed : ∀ target ∈ topology.portTargets.values, target.mac ≠ ""

/-! What the list of a port does with a frame. -/

section Emitted

variable {topology : Acl.FaucetTopology} {acl : Acl.Rule} {emitted : List Acl.Rule}
  {frame : Acl.Frame}

theorem augmentSecPortAcl_denied (silent : acl.actions.output = none)
    (denied : acl.actions.allow = some false) (ports : Option (List Nat)) (dlDst : Option Mac) :
    Acl.augmentSecPortAcl topology acl ports dlDst = .ok acl := by
  simp [Acl.augmentSecPortAcl, silent, denied]

/-- The rule for what goes to the uplink. -/
def uplinked (topology : Acl.FaucetTopology) (acl : Acl.Rule) : Acl.Rule :=
  { acl with
    actions := { acl.actions with
      output := some { ports := some [topology.secPort] }, allow := some true } }

theorem augmentSecPortAcl_uplinked (silent : acl.actions.output = none)
    (allowed : acl.actions.allow = some true) :
    Acl.augmentSecPortAcl topology acl none none = .ok (uplinked topology acl) := by
  simp [Acl.augmentSecPortAcl, silent, allowed, NonEmpty, uplinked]

theorem uplinked_matches : (uplinked topology acl).matches frame = acl.matches frame := rfl

theorem treat_uplinked : treat (uplinked topology acl) = ⟨[topology.secPort], true⟩ := by
  simp [treat, uplinked, Acl.Rule.outputs]

/-- The rule for what goes to an address. -/
def directed (topology : Acl.FaucetTopology) (acl : Acl.Rule) (ports : List Nat) (mac : Mac) :
    Acl.Rule :=
  { acl with
    dlDst := some mac
    actions := { acl.actions with
      output := some { ports := some (ports ++ [topology.secPort]) }, allow := none } }

theorem augmentSecPortAcl_directed (silent : acl.actions.output = none)
    (allowed : acl.actions.allow = some true) (notDhcp : acl.udpSrc ≠ some 68) (ports : List Nat)
    {mac : Mac} (given : mac ≠ "") :
    Acl.augmentSecPortAcl topology acl (some ports) (some mac) =
      .ok (directed topology acl ports mac) := by
  simp [Acl.augmentSecPortAcl, silent, allowed, notDhcp, NonEmpty, given, directed]

theorem directed_matches (anyone : acl.dlDst = none) (ports : List Nat) (mac : Mac) :
    (directed topology acl ports mac).matches frame =
      (acl.matches frame && decide (frame.dlDst = mac)) := by
  unfold Acl.Rule.matches directed
  rw [Bool.eq_iff_iff]
  simp only [anyone, Acl.fits_none, Acl.fits_some, Bool.and_eq_true, decide_eq_true_eq,
    Option.some.injEq, and_true]
  tauto

theorem treat_directed (ports : List Nat) (mac : Mac) :
    treat (directed topology acl ports mac) = ⟨ports ++ [topology.secPort], false⟩ := by
  simp [treat, directed, Acl.Rule.outputs]

theorem augmentedRules_denied (silent : acl.actions.output = none)
    (denied : acl.actions.allow = some false) {targets : Option (List PortTarget)}
    (ran : Acl.augmentedRules topology acl targets = .ok emitted) :
    ∃ count, emitted = List.replicate (count + 1) acl := by
  cases targets with
  | none =>
      rw [Acl.augmentedRules, augmentSecPortAcl_denied silent denied] at ran
      cases ran
      exact ⟨0, rfl⟩
  | some targets =>
      have each : (targets.mapM fun target =>
          Acl.augmentSecPortAcl topology acl (some [target.port]) (some target.mac)) =
          .ok (targets.map fun _ => acl) := by
        simp only [augmentSecPortAcl_denied silent denied]
        exact List.mapM_pure
      rw [Acl.augmentedRules, augmentSecPortAcl_denied silent denied, ok_bind, each] at ran
      cases ran
      refine ⟨targets.length, ?_⟩
      rw [List.map_const', List.replicate_succ]

theorem augmentedRules_treat {accepts : Bool} (silent : acl.actions.output = none)
    (allow : acl.actions.allow = some accepts) (anyone : acl.dlDst = none)
    (notDhcp : acl.udpSrc ≠ some 68) {targets : Option (List PortTarget)}
    (addressed : ∀ target ∈ targets.getD [], target.mac ≠ "")
    (ran : Acl.augmentedRules topology acl targets = .ok emitted) :
    (emitted.find? (·.matches frame)).map treat =
      if acl.matches frame then ruleTreatment topology accepts targets frame.dlDst else none := by
  cases accepts with
  | false =>
      obtain ⟨count, rfl⟩ := augmentedRules_denied silent allow ran
      rw [List.find?_replicate]
      cases acl.matches frame with
      | true => simp [ruleTreatment, treat, Acl.Rule.outputs, silent, allow, Treatment.dropped]
      | false => simp
  | true =>
      cases targets with
      | none =>
          rw [Acl.augmentedRules, augmentSecPortAcl_uplinked silent allow] at ran
          cases ran
          rw [List.find?_singleton, uplinked_matches]
          cases acl.matches frame with
          | true => simp [ruleTreatment, treat_uplinked]
          | false => simp
      | some targets =>
          have each : (targets.mapM fun target =>
              Acl.augmentSecPortAcl topology acl (some [target.port]) (some target.mac)) =
              .ok (targets.map fun target => directed topology acl [target.port] target.mac) := by
            apply mapM_eq_ok
            intro target member
            exact augmentSecPortAcl_directed silent allow notDhcp _ (addressed target member)
          rw [Acl.augmentedRules, augmentSecPortAcl_directed silent allow notDhcp _ (by decide),
            ok_bind, each] at ran
          cases ran
          rw [List.find?_cons, directed_matches anyone]
          cases matched : acl.matches frame with
          | false => simp [directed_matches anyone, matched]
          | true =>
              rw [ruleTreatment, if_pos rfl, if_pos rfl, Bool.true_and]
              split_ifs with broadcast
              · simp [broadcast, treat_directed]
              · rw [decide_eq_false broadcast]
                simp only [List.find?_map, Option.map_map]
                have wanted : ((fun rule : Acl.Rule => rule.matches frame) ∘
                    fun target : PortTarget => directed topology acl [target.port] target.mac) =
                    fun target => decide (target.mac = frame.dlDst) := by
                  funext target
                  simp [directed_matches anyone, matched, eq_comm]
                have treated : (treat ∘ fun target : PortTarget =>
                    directed topology acl [target.port] target.mac) =
                    fun target => ⟨[target.port, topology.secPort], false⟩ := by
                  funext target
                  exact treat_directed _ _
                rw [wanted, treated]

end Emitted

/-! The templates in place. -/

theorem getDeviceSpec_template (generator : MudAclGenerator) (type : String) :
    generator.getDeviceSpec (macTemplatePrefix ++ type) = templateSpec type := by
  rw [MudAclGenerator.getDeviceSpec, Acl.afterPrefix_eq_some_iff.mpr rfl]

namespace Deployment

variable {generator : MudAclGenerator} {portAclMap : Dict String PortAcl}
  {topology : Acl.FaucetTopology} {specs : Dict Mac Acl.DeviceSpec}

variable (deployment : Deployment generator portAclMap topology specs)

include deployment

theorem templates : generator.Templates portAclMap :=
  makePortAclMap_templates deployment.template deployment.made

/-- The entry of a type whose template is there. -/
theorem entry {type : String} (plain : type ∉ keywords) {template : Option Acl.Template}
    (loaded : Acl.getAclTemplate topology type = .ok template) :
    ∃ portAcl, generator.EntryOf (templateTarget type) portAcl ∧
      topology.fromRules type = portAcl.edgeAcl.map Rule.written ∧
      topology.toRules type = portAcl.upstreamAcl.map Rule.written := by
  have present := Acl.getAclTemplate_some deployment.known loaded
  rw [deployment.loaded] at present
  have listed := (templateFile_listed deployment.templates.filed present).resolve_right plain
  obtain ⟨portAcl, found, entry⟩ := deployment.templates.types type listed plain
  have file := templateFile_found deployment.templates.filed found
  rw [← deployment.loaded] at file
  have isTemplate : portAcl.placement.isTemplate = true := by
    rw [entry.placement]
    rfl
  exact ⟨portAcl, entry, makeAclInclude_rules isTemplate file⟩

/-- The rules for what devices of a type send, one for each ACE. -/
theorem fromRules {type : String} (plain : type ∉ keywords) {template : Option Acl.Template}
    (loaded : Acl.getAclTemplate topology type = .ok template) :
    ∃ rules, List.Forall₂ (fun ace rule => TemplateFields true ace rule ∧ rule.udpSrc ≠ some 68)
        (typeAces generator.aclProvider type true) rules ∧
      topology.fromRules type = rules.map fun rule => (templateRuleOf type rule).written := by
  obtain ⟨portAcl, entry, listed, _⟩ := deployment.entry plain loaded
  have edge := entry.edge
  unfold templateTarget at edge
  dsimp only at edge
  rw [getDeviceSpec_template] at edge
  obtain ⟨rules, compiled, same⟩ := makeEdgeAcl_template edge
  refine ⟨rules, ?_, ?_⟩
  · have notDhcp : ∀ rule ∈ rules, rule.udpSrc ≠ some 68 := by
      intro rule member dhcp
      have passes := entry.passes (templateRuleOf type rule) (same ▸ List.mem_map_of_mem member)
      exact passes.1.udp 68 (.inl dhcp) (by decide)
    have both := (List.forall₂_and_left rules _).mpr ⟨notDhcp, compiled.flip⟩
    exact both.flip.imp fun ace rule ⟨other, compiledRule⟩ => ⟨compiledRule.templateFields, other⟩
  · rw [listed, same, List.map_map]
    rfl

/-- The rules for what every device may send. -/
theorem baselineRules :
    topology.fromRules "baseline" = AclHelper.baselineRules.map Rule.written := by
  obtain ⟨portAcl, found, edge⟩ := deployment.templates.baseline deployment.baseline
  obtain ⟨placed, placement, named, _⟩ := deployment.templates.filed _ portAcl found
  have isTemplate : portAcl.placement.isTemplate = true := by
    rw [placement]
    rfl
  have file := templateFile_found deployment.templates.filed found
  rw [← deployment.loaded] at file
  rw [(makeAclInclude_rules isTemplate file).1, edge]

/-- The rules for what devices of a type receive. -/
theorem toRules {type : String} (plain : type ∉ keywords) {template : Option Acl.Template}
    (loaded : Acl.getAclTemplate topology type = .ok template) :
    ∃ rules, List.Forall₂ (TemplateFields false) (typeAces generator.aclProvider type false) rules ∧
      topology.toRules type = rules.map fun rule => (templateBackOf type rule).written := by
  obtain ⟨portAcl, entry, _, listed⟩ := deployment.entry plain loaded
  have upstream := entry.upstream
  unfold templateTarget at upstream
  dsimp only at upstream
  rw [getDeviceSpec_template] at upstream
  obtain ⟨rules, compiled, same⟩ := makeUpstreamAcl_template upstream
  refine ⟨rules, compiled.imp fun _ _ => Compiles.templateFields, ?_⟩
  rw [listed, same, List.map_map]
  rfl

section Resolve

variable {ace : AclAce} {rule : Rule} {type : String} {mac : Mac}

/-- A device is allowed as a target if its policy consents. -/
theorem allowTargetMac_consents (fields : TemplateFields true ace rule) (numbered : ace.Numbered)
    {controller : String} {other : Mac} {allowed : Bool}
    (decided : Acl.allowTargetMac topology specs
      (Acl.resolvedRule (some mac) (templateRuleOf type rule).written) controller other =
        .ok allowed) :
    allowed = consents generator.aclProvider specs ace controller other := by
  obtain ⟨template, loaded, _⟩ := bind_eq_ok_iff.mp decided
  obtain ⟨rules, all, listed⟩ := deployment.toRules (deployment.typed other) loaded
  have iff := Acl.allowTargetMac_iff deployment.known decided
  rw [listed] at iff
  rw [Bool.eq_iff_iff, iff, consents, Bool.and_eq_true, List.any_eq_true]
  apply and_congr_right
  intro _
  constructor
  · rintro ⟨toRule, member, matched⟩
    obtain ⟨backRule, inside, rfl⟩ := List.mem_map.mp member
    obtain ⟨back, backListed, backFields⟩ := exists_mem_left all inside
    rw [ruleMatch_templates fields numbered backFields
      (deployment.numbered _ _ back backListed)] at matched
    exact ⟨back, backListed, matched⟩
  · rintro ⟨back, backListed, matched⟩
    obtain ⟨backRule, inside, backFields⟩ := exists_mem_left all.flip backListed
    rw [← ruleMatch_templates fields numbered backFields
      (deployment.numbered _ _ back backListed)] at matched
    exact ⟨_, List.mem_map_of_mem inside, matched⟩

theorem controllerTargets_eq (fields : TemplateFields true ace rule) (numbered : ace.Numbered)
    {controller : String} {bridge : Acl.DeviceSpec} {targets : Option (List PortTarget)}
    (ran : Acl.controllerTargets topology specs
      (Acl.resolvedRule (some mac) (templateRuleOf type rule).written) controller bridge =
        .ok targets) :
    targets = (controllerMacs bridge controller).map fun macs => macs.flatMap fun other =>
      if consents generator.aclProvider specs ace controller other then
        topology.portTargets.values.filter fun target => decide (target.mac = other)
      else [] := by
  unfold Acl.controllerTargets at ran
  unfold controllerMacs
  cases given : bridge.controllers.bind (·.get? controller) with
  | none =>
      rw [given] at ran
      cases ran
      rfl
  | some entry =>
      rw [given] at ran
      dsimp only at ran
      rw [Option.bind_some]
      cases middle : entry.controlees with
      | none =>
          rw [middle] at ran
          cases ran
      | some controlees =>
          rw [middle] at ran
          dsimp only at ran
          rw [Option.bind_some]
          cases found : controlees.get? controller with
          | none =>
              rw [found] at ran
              cases ran
              rfl
          | some controlee =>
              rw [found] at ran
              dsimp only at ran
              rw [Option.bind_some]
              cases macs : controlee.macAddrs with
              | none =>
                  rw [macs] at ran
                  cases ran
              | some targetMacs =>
                  rw [macs] at ran
                  obtain ⟨all, allowed, done⟩ := bind_eq_ok_iff.mp ran
                  cases done
                  rw [Option.map_some, Option.some.injEq]
                  apply foldlM_appends id _ _ allowed
                  intro before other after step
                  obtain ⟨decision, decided, step⟩ := bind_eq_ok_iff.mp step
                  rw [← deployment.allowTargetMac_consents fields numbered decided]
                  cases decision with
                  | false =>
                      cases step
                      simp
                  | true =>
                      cases step
                      simp

theorem resolveTargets_eq (fields : TemplateFields true ace rule) (numbered : ace.Numbered)
    {targets : Option (List PortTarget)}
    (resolved : Acl.resolveTargets topology rule.nwDst (some mac)
      (Acl.resolvedRule (some mac) (templateRuleOf type rule).written) = .ok targets) :
    targets = farTargets generator.aclProvider topology specs mac ace := by
  have far : rule.nwDst = _ := fields.far
  unfold Acl.resolveTargets at resolved
  unfold farTargets
  rw [far] at resolved
  cases named : ace.controller with
  | none =>
      rw [named] at resolved
      have unnamed : ((ace.ipv4.bind fun ipv4 => ipv4.dnsDst).map dnsTemplate).bind
          (Acl.afterPrefix Acl.ctlPrefix) = none := by
        rw [Option.bind_eq_none_iff]
        intro text member
        obtain ⟨name, _, rfl⟩ := Option.map_eq_some_iff.mp member
        rw [Option.eq_none_iff_forall_ne_some]
        intro controller same
        exact ctrl_ne_dns controller name (Acl.afterPrefix_eq_some_iff.mp same).symm
      have unnamed' : (match (none : Option String) with
        | some controller => some (controlerPrefix ++ controller)
        | none => (ace.ipv4.bind fun ipv4 => if true then ipv4.dnsDst else ipv4.dnsSrc).map
            dnsTemplate).bind (Acl.afterPrefix Acl.ctlPrefix) = none := unnamed
      rw [unnamed'] at resolved
      cases resolved
      rfl
  | some controller =>
      rw [named] at resolved
      dsimp only at resolved
      have prefixed : (some (controlerPrefix ++ controller)).bind
          (Acl.afterPrefix Acl.ctlPrefix) = some controller :=
        Acl.afterPrefix_eq_some_iff.mpr rfl
      rw [prefixed, deployment.known] at resolved
      dsimp only at resolved
      rw [Option.bind_some] at resolved ⊢
      cases given : specs.get? mac with
      | none =>
          rw [given] at resolved
          cases resolved
      | some bridge =>
          rw [given] at resolved
          rw [Option.bind_some]
          exact deployment.controllerTargets_eq fields numbered resolved

theorem farTargets_addressed {target : PortTarget}
    (member : target ∈ (farTargets generator.aclProvider topology specs mac ace).getD []) :
    target.mac ≠ "" := by
  cases targets : farTargets generator.aclProvider topology specs mac ace with
  | none =>
      rw [targets] at member
      cases member
  | some _ =>
      rw [targets, Option.getD_some] at member
      obtain ⟨controller, _, given⟩ := Option.bind_eq_some_iff.mp targets
      obtain ⟨macs, _, rfl⟩ := Option.map_eq_some_iff.mp given
      obtain ⟨other, _, inside⟩ := List.mem_flatMap.mp member
      split at inside
      · exact deployment.addressed target (List.mem_filter.mp inside).1
      · cases inside

/-- The rules that the rule for an ACE comes to do what it says. -/
theorem templateRule_treat (fields : TemplateFields true ace rule) (notDhcp : rule.udpSrc ≠ some 68)
    (numbered : ace.Numbered) {emitted : List Acl.Rule} {frame : Acl.Frame}
    (ran : Acl.templateRule topology (some mac) (templateRuleOf type rule).written = .ok emitted) :
    (emitted.find? (·.matches frame)).map treat =
      aceTreatment generator.aclProvider topology specs mac ace frame := by
  obtain ⟨targets, resolved, augmented⟩ := bind_eq_ok_iff.mp ran
  rw [Acl.resolveTemplateField_fst] at resolved
  have same := deployment.resolveTargets_eq fields numbered resolved
  subst same
  have allow : (Acl.resolvedRule (some mac) (templateRuleOf type rule).written).actions.allow =
      some ace.accepts := congrArg some fields.accepted
  have dhcp :
      (Acl.resolvedRule (some mac) (templateRuleOf type rule).written).udpSrc ≠ some 68 := by
    intro client
    obtain ⟨port, given, number⟩ := Option.map_eq_some_iff.mp client
    have client : port = 68 := by omega
    exact notDhcp (client ▸ given)
  have anyone : (Acl.resolvedRule (some mac) (templateRuleOf type rule).written).dlDst = none :=
    fields.dlDst
  rw [augmentedRules_treat rfl allow anyone dhcp
    (fun target member => deployment.farTargets_addressed member) augmented,
    resolved_matches fields numbered, aceTreatment]
  simp only [decide_eq_true_eq]

end Resolve

end Deployment

/-! The list of a port. -/

section Lists

variable {topology : Acl.FaucetTopology} {specs : Dict Mac Acl.DeviceSpec}

/-- A template adds what its rules come to. -/
theorem appendAclTemplate_eq {rules after : List Acl.Rule} {type : String} {mac : Option Mac}
    {found : Bool} (known : topology.deviceSpecs = some specs)
    (ran : Acl.appendAclTemplate topology rules type mac = .ok (after, found)) :
    after = rules ++ (topology.fromRules type).flatMap fun acl =>
        (Acl.templateRule topology mac acl).toOption.getD [] := by
  obtain ⟨template, loaded, rest⟩ := bind_eq_ok_iff.mp ran
  have present := Acl.getAclTemplate_some known loaded
  cases template with
  | none =>
      cases rest
      unfold Acl.FaucetTopology.fromRules Acl.FaucetTopology.templateRules
      rw [present]
      simp
  | some template =>
      obtain ⟨acls, listed, rest⟩ := bind_eq_ok_iff.mp rest
      obtain ⟨all, loop, done⟩ := bind_eq_ok_iff.mp rest
      cases done
      have stated : topology.fromRules type = acls := Acl.rules_templateRules present listed
      rw [stated]
      apply foldlM_appends id _ _ loop
      intro before acl next step
      obtain ⟨emitted, ran, done⟩ := bind_eq_ok_iff.mp step
      cases done
      rw [ran]
      rfl

/-- What the first rule of a template with something to say on a frame does with it. -/
theorem find?_template {acls : List Acl.Rule} {mac : Option Mac} {frame : Acl.Frame} :
    ((acls.flatMap fun acl => (Acl.templateRule topology mac acl).toOption.getD []).find?
        (·.matches frame)).map treat =
      acls.findSome? fun acl => (((Acl.templateRule topology mac acl).toOption.getD []).find?
        (·.matches frame)).map treat := by
  rw [List.find?_flatMap, List.map_findSome?]
  rfl

/-- A rule for every device goes to the uplink as it is. -/
theorem templateRule_plain {rule : Rule} (noSrc : rule.dlSrc = none) (noDst : rule.nwDst = none)
    (allowed : rule.allow ≠ 0) :
    Acl.templateRule topology none rule.written = .ok [uplinked topology rule.written] := by
  have src : rule.written.dlSrc = none := noSrc
  have dst : rule.written.nwDst = none := noDst
  have keptSrc : (Acl.resolveTemplateField rule.written.dlSrc none).2 = rule.written.dlSrc := by
    rw [src]
    rfl
  have keptDst : (Acl.resolveTemplateField rule.written.nwDst none).2 = rule.written.nwDst := by
    rw [dst]
    rfl
  have same : Acl.resolvedRule none rule.written = rule.written := by
    rw [Acl.resolvedRule, keptSrc, keptDst]
  have allow : rule.written.actions.allow = some true := congrArg some (decide_eq_true allowed)
  have unresolved : Acl.resolveTargets topology none none rule.written = .ok none := rfl
  rw [Acl.templateRule, Acl.resolveTemplateField_fst, dst, same, unresolved, ok_bind,
    Acl.augmentedRules, augmentSecPortAcl_uplinked rfl allow]
  rfl

theorem baselineRules_any {frame : Acl.Frame} :
    (AclHelper.baselineRules.any fun rule => rule.written.matches frame) =
      baselineAllows frame := by
  have icmp : AclHelper.icmpAllow.written.matches frame = true ↔
      frame.ethType = Acl.ipv4DlType ∧ frame.nwProto = some 1 := by
    simp [AclHelper.icmpAllow, Rule.written, Acl.Rule.matches, hexNumber_ipv4,
      AclHelper.ipProtoIcmp]
  have arp : AclHelper.arpAllow.written.matches frame = true ↔ frame.ethType = 0x0806 := by
    simp [AclHelper.arpAllow, Rule.written, Acl.Rule.matches, hexNumber_arp]
  have dhcp : AclHelper.dhcpAllow.written.matches frame = true ↔ frame.ethType = Acl.ipv4DlType ∧
      frame.nwProto = some 17 ∧ frame.udpSrc = some 68 ∧ frame.udpDst = some 67 := by
    simp [AclHelper.dhcpAllow, Rule.written, Acl.Rule.matches, hexNumber_ipv4,
      AclHelper.nwProtoUdp, AclHelper.udpDhcpClientPort, AclHelper.udpDhcpServerPort, and_assoc]
  have dns : AclHelper.dnsAllow.written.matches frame = true ↔ frame.ethType = Acl.ipv4DlType ∧
      frame.nwProto = some 17 ∧ frame.udpDst = some 53 := by
    simp [AclHelper.dnsAllow, Rule.written, Acl.Rule.matches, hexNumber_ipv4,
      AclHelper.nwProtoUdp, AclHelper.udpDnsPort, and_assoc]
  -- what the rule for broadcasts matches, the one for DHCP matches before it
  have bcast : AclHelper.dhcpBcast.written.matches frame = true ↔ frame.ethType = Acl.ipv4DlType ∧
      frame.dlDst = AclHelper.dlBroadcast ∧ frame.nwProto = some 17 ∧ frame.udpSrc = some 68 ∧
        frame.udpDst = some 67 := by
    simp [AclHelper.dhcpBcast, Rule.written, Acl.Rule.matches, hexNumber_ipv4,
      AclHelper.nwProtoUdp, AclHelper.udpDhcpClientPort, AclHelper.udpDhcpServerPort, and_assoc]
  rw [Bool.eq_iff_iff, baselineAllows]
  simp only [AclHelper.baselineRules, List.any_cons, List.any_nil, Bool.or_eq_true,
    Bool.and_eq_true, decide_eq_true_eq, Bool.false_eq_true, or_false, icmp, arp, dhcp, dns, bcast]
  grind

theorem baselineRules_treat {frame : Acl.Frame} :
    (((AclHelper.baselineRules.map Rule.written).flatMap fun acl =>
        (Acl.templateRule topology none acl).toOption.getD []).find? (·.matches frame)).map treat =
      if baselineAllows frame then some ⟨[topology.secPort], true⟩ else none := by
  have plain : ∀ rule ∈ AclHelper.baselineRules, rule.dlSrc = none ∧ rule.nwDst = none ∧
      rule.allow ≠ 0 := by decide
  rw [find?_template, List.findSome?_map]
  have each : ∀ rule ∈ AclHelper.baselineRules,
      (((Acl.templateRule topology none rule.written).toOption.getD []).find?
        (·.matches frame)).map treat =
      if rule.written.matches frame then some ⟨[topology.secPort], true⟩ else none := by
    intro rule member
    obtain ⟨noSrc, noDst, allowed⟩ := plain rule member
    rw [templateRule_plain noSrc noDst allowed]
    show (([uplinked topology rule.written].find? (·.matches frame)).map treat) = _
    rw [List.find?_singleton, uplinked_matches]
    split_ifs
    · rw [Option.map_some, treat_uplinked]
    · rfl
  rw [← baselineRules_any]
  exact FirstMatch.findSome?_any each

/-- The first rule of the list of a port. -/
theorem addDot1xAllowRule_treat {port : Nat} {first : List Acl.Rule}
    (ran : Acl.addDot1xAllowRule [] [topology.secPort] none
      (some (Acl.getPortVlan topology (some port))) = .ok first) (frame : Acl.Frame) :
    (first.find? (·.matches frame)).map treat =
      if frame.ethType = Acl.dot1xEthType then some ⟨[topology.secPort], false⟩ else none := by
  have vlan : Truthy (some (Acl.getPortVlan topology (some port))) := by
    unfold Acl.getPortVlan portSetVlan
    split_ifs with given
    · show 1000 + _ ≠ 0
      omega
    · show dumpVlan ≠ 0
      decide
  unfold Acl.addDot1xAllowRule at ran
  rw [if_neg fun missing => missing rfl, if_pos vlan, Acl.addAclRule_ok rfl] at ran
  cases ran
  rw [List.nil_append, List.find?_singleton]
  split_ifs with matched other other
  · rw [Option.map_some, treat, Acl.Keywords.rule_outputs]
    rfl
  · simp [Acl.Keywords.rule, Acl.Rule.matches] at matched
    exact absurd matched other
  · simp [Acl.Keywords.rule, Acl.Rule.matches] at matched
    exact absurd other matched
  · rfl

/-- The last rule of the list of a port, if the specs have one. -/
theorem appendDeviceDefaultAllow_treat {rules after : List Acl.Rule} {mac : Mac}
    (ran : Acl.appendDeviceDefaultAllow topology specs rules mac = .ok after) :
    ∃ default, after = rules ++ default ∧ ∀ frame : Acl.Frame,
      (default.find? (·.matches frame)).map treat =
        ((specs.get? mac).bind Acl.DeviceSpec.defaultAllow).map fun allow =>
          if allow then ⟨[topology.secPort], true⟩ else .dropped := by
  unfold Acl.appendDeviceDefaultAllow at ran
  cases given : (specs.get? mac).bind Acl.DeviceSpec.defaultAllow with
  | none =>
      rw [given] at ran
      cases ran
      exact ⟨[], (List.append_nil _).symm, fun _ => rfl⟩
  | some allow =>
      rw [given] at ran
      obtain ⟨default, augmented, done⟩ := bind_eq_ok_iff.mp ran
      cases done
      refine ⟨default, rfl, fun frame => ?_⟩
      have all : Acl.Rule.matches
          { actions := { allow := some allow }, description := some "device_spec default_allow" }
          frame = true := by
        simp [Acl.Rule.matches]
      rw [augmentedRules_treat rfl rfl rfl (Option.some_ne_none 68).symm (List.forall_mem_nil _)
        augmented, if_pos all, ruleTreatment]
      cases allow <;> rfl

end Lists

/-- The rules of the template of a type carry out its ACEs. -/
theorem Deployment.typeRules_treat {generator : MudAclGenerator} {portAclMap : Dict String PortAcl}
    {topology : Acl.FaucetTopology} {specs : Dict Mac Acl.DeviceSpec}
    (deployment : Deployment generator portAclMap topology specs) {type : String} {mac : Mac}
    (plain : type ∉ keywords) {template : Option Acl.Template}
    (loaded : Acl.getAclTemplate topology type = .ok template)
    (each : ∀ acl ∈ topology.fromRules type,
      ∃ emitted, Acl.templateRule topology (some mac) acl = .ok emitted) {frame : Acl.Frame} :
    (((topology.fromRules type).flatMap fun acl =>
        (Acl.templateRule topology (some mac) acl).toOption.getD []).find?
          (·.matches frame)).map treat =
      (typeAces generator.aclProvider type true).findSome?
        (aceTreatment generator.aclProvider topology specs mac · frame) := by
  obtain ⟨rules, all, listed⟩ := deployment.fromRules plain loaded
  rw [listed] at each
  rw [find?_template, listed, List.findSome?_map]
  apply FirstMatch.findSome?_of_forall₂
  have ran : ∀ rule ∈ rules, ∃ emitted,
      Acl.templateRule topology (some mac) (templateRuleOf type rule).written = .ok emitted :=
    fun rule member => each _ (List.mem_map_of_mem member)
  have both := (List.forall₂_and_left (typeAces generator.aclProvider type true) rules).mpr
    ⟨deployment.numbered type true,
      ((List.forall₂_and_left rules (typeAces generator.aclProvider type true)).mpr
        ⟨ran, all.flip⟩).flip⟩
  apply both.imp
  rintro ace rule ⟨numbered, ⟨emitted, comes⟩, fields, notDhcp⟩
  rw [← deployment.templateRule_treat fields notDhcp numbered comes, Function.comp_apply, comes]
  rfl

/-- The list of a port with a live target carries out the policy of the target's type. -/
theorem port_enforces_policy {generator : MudAclGenerator} {portAclMap : Dict String PortAcl}
    {topology : Acl.FaucetTopology} {specs : Dict Mac Acl.DeviceSpec}
    (deployment : Deployment generator portAclMap topology specs) {port : Nat} {source : PortTarget}
    (live : topology.portTargets.get? port = some source) {acl : List Acl.Rule}
    (generated : Acl.generatePortAcl topology port = .ok acl) (frame : Acl.Frame) :
    treatment acl frame = policyTreatment generator.aclProvider topology specs source.mac
      (typeAces generator.aclProvider (Acl.getDeviceType specs source.mac) true) frame := by
  obtain ⟨first, dot1x, generated⟩ := bind_eq_ok_iff.mp generated
  rw [deployment.known, live] at generated
  obtain ⟨⟨typed, _⟩, template, generated⟩ := bind_eq_ok_iff.mp generated
  obtain ⟨each, _⟩ := Acl.appendAclTemplate_mem deployment.known template
  obtain ⟨_, loaded, _⟩ := bind_eq_ok_iff.mp template
  have typedIs := appendAclTemplate_eq deployment.known template
  have present : source ∈ topology.portTargets.values := Dict.mem_values_iff.mpr ⟨port, live⟩
  dsimp only at generated
  rw [if_neg (deployment.addressed source present)] at generated
  obtain ⟨⟨based, found⟩, baseline, generated⟩ := bind_eq_ok_iff.mp generated
  have basedIs := appendAclTemplate_eq deployment.known baseline
  dsimp only at generated
  split at generated
  · obtain ⟨default, aclIs, last⟩ := appendDeviceDefaultAllow_treat generated
    rw [treatment, policyTreatment, Acl.firstMatch, aclIs, basedIs, typedIs,
      deployment.baselineRules]
    simp only [List.find?_append, Option.map_or]
    rw [addDot1xAllowRule_treat dot1x, baselineRules_treat, last,
      deployment.typeRules_treat (deployment.typed _) loaded each]
    by_cases dot1xFrame : frame.ethType = Acl.dot1xEthType
    · rw [if_pos dot1xFrame, if_pos dot1xFrame]
      rfl
    · rw [if_neg dot1xFrame, if_neg dot1xFrame, Option.none_or]
  · cases generated

namespace Sample

/-- A generator of the template of one type. -/
def templateGenerator : MudAclGenerator where
  deviceTopology := none
  switchTopology := .empty
  aclProvider := converter [bacnet]
  targetTypes := ["bacnet"]
  placementText _ := "placement"

def templateMap : Dict String PortAcl := templateGenerator.makePortAclMap.toOption.getD .empty

open Acl.Consent in
/-- A bridge, which is the controller of a sensor. -/
def bridgeSpecs : Dict Mac Acl.DeviceSpec :=
  (Dict.empty.insert bridgeMac linked).insert sensorMac { type := some "bacnet" }

open Acl.Consent in
def bridgeFloor : Acl.FaucetTopology :=
  { floor todev 1 with deviceSpecs := some bridgeSpecs, templates := templateFile templateMap }

theorem bridgeSpecs_type (mac : Mac) : Acl.getDeviceType bridgeSpecs mac ∉ keywords := by
  have types : Acl.getDeviceType bridgeSpecs mac = "default" ∨
      Acl.getDeviceType bridgeSpecs mac = "bacnet" := by
    unfold Acl.getDeviceType
    cases found : bridgeSpecs.get? mac with
    | none => exact .inl rfl
    | some info =>
        rcases List.mem_pair.mp (Dict.get?_eq_some_iff.mp found) with same | same
        · cases same
          exact .inr rfl
        · cases same
          exact .inr rfl
  rcases types with type | type
  · rw [type]
    decide
  · rw [type]
    decide

theorem bacnet_numbered : bacnet.Numbered := by
  unfold AclAce.Numbered
  decide

theorem bridgeFloor_deployment :
    Deployment templateGenerator templateMap bridgeFloor bridgeSpecs where
  template := rfl
  made := rfl
  loaded _ := rfl
  known := rfl
  typed := bridgeSpecs_type
  baseline := by decide
  numbered := by
    intro type isEdge
    have listed : typeAces templateGenerator.aclProvider type isEdge = [bacnet] := by
      cases isEdge
      · rfl
      · rfl
    rw [listed]
    exact List.forall_mem_singleton.mpr bacnet_numbered
  addressed := by
    intro target member
    rcases List.mem_pair.mp member with rfl | rfl
    · decide
    · decide

/-- A frame from the bridge to the sensor. -/
def bacnetFrame : Acl.Frame where
  dlSrc := Acl.Consent.bridgeMac
  dlDst := Acl.Consent.sensorMac
  ethType := Acl.ipv4DlType
  nwProto := some 17
  udpSrc := some 47808
  udpDst := some 47808

/-- It goes to the port of the sensor and to no other device. -/
theorem bridge_enforced : ∃ acl, Acl.generatePortAcl bridgeFloor 3 = .ok acl ∧
    treatment acl bacnetFrame = ⟨[4, 7], false⟩ := by
  have generated : ∃ acl, Acl.generatePortAcl bridgeFloor 3 = .ok acl := ⟨_, rfl⟩
  obtain ⟨acl, generated⟩ := generated
  refine ⟨acl, generated, ?_⟩
  have live : bridgeFloor.portTargets.get? 3 = some Acl.Consent.source := rfl
  rw [port_enforces_policy bridgeFloor_deployment live generated]
  decide +kernel

end Sample

end Daq.Mudacl
