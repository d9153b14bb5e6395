import Daq.Acl.Main

namespace Daq.Acl

/-! The list of a device port: the template of the device's type, the baseline
and what the device specs add. -/

def macPrefix : String := "@mac:"
def dnsPrefix : String := "@dns:"
def ctlPrefix : String := "@ctrl:"

/-- What follows a given start of a text. -/
def afterPrefix (start text : String) : Option String :=
  if start.toList.isPrefixOf text.toList then some (String.ofList (text.toList.drop start.length))
  else none

def fromAclKey (deviceType : String) : String := "@from:template_" ++ deviceType ++ "_acl"
def toAclKey (deviceType : String) : String := "@to:template_" ++ deviceType ++ "_acl"

def getDeviceType (specs : Dict Mac DeviceSpec) (targetMac : Mac) : String :=
  match specs.get? targetMac with
  | none => "default"
  | some info => info.type.getD "default"

variable (topology : FaucetTopology)

def getAclTemplate (deviceType : String) : Except Exc (Option Template) :=
  if topology.deviceSpecs.isNone then .ok none
  else match topology.templates deviceType with
    | none => .error (.exception ("File " ++ topology.runDir ++ "/acl_templates/template_" ++
        deviceType ++ "_acl.yaml does not exist."))
    | some template => .ok template

/-- `template_acl['acls'][template_key]`. -/
def Template.rules (template : Template) (key : String) : Except Exc (List Rule) :=
  match template.acls with
  | none => .error (.keyError "acls")
  | some acls =>
      match acls.get? key with
      | none => .error (.keyError key)
      | some rules => .ok rules

def conditionalMatch (src dst : Option Nat) : Bool :=
  if Truthy src ∧ Truthy dst then decide (src = dst) else true

def ruleMatch (srcRule dstRule : Rule) (controller : String) : Bool :=
  decide (dstRule.nwSrc = some (ctlPrefix ++ controller)) &&
    conditionalMatch srcRule.udpSrc dstRule.udpSrc &&
    conditionalMatch srcRule.udpDst dstRule.udpDst &&
    conditionalMatch srcRule.tcpSrc dstRule.tcpSrc &&
    conditionalMatch srcRule.tcpDst dstRule.tcpDst

def allowTargetMac (specs : Dict Mac DeviceSpec) (srcRule : Rule) (controller : String)
    (targetMac : Mac) : Except Exc Bool := do
  let deviceType := getDeviceType specs targetMac
  let template ← getAclTemplate topology deviceType
  match template with
  | none => pure false
  | some template =>
      if (specs.get? targetMac).isNone then pure false
      else do
        let acls ← template.rules (toAclKey deviceType)
        pure (acls.any (ruleMatch srcRule · controller))

/-- The text of a field and what becomes of it. -/
def resolveTemplateField (field : Option String) (targetMac : Option Mac) :
    Option String × Option String :=
  match field with
  | none => (none, none)
  | some placeholder =>
      (some placeholder,
        if (afterPrefix macPrefix placeholder).isSome then targetMac
        else if (afterPrefix dnsPrefix placeholder).isSome then none
        else if (afterPrefix ctlPrefix placeholder).isSome then none
        else some placeholder)

/-- The live targets with MAC addresses that are allowed. -/
def allowedTargets (specs : Dict Mac DeviceSpec) (srcRule : Rule) (controller : String)
    (targetMacs : List Mac) : Except Exc (List PortTarget) :=
  targetMacs.foldlM (fun targetPorts targetMac => do
    let allowed ← allowTargetMac topology specs srcRule controller targetMac
    pure (if allowed then
        targetPorts ++ topology.portTargets.values.filter fun target =>
          decide (target.mac = targetMac)
      else targetPorts)) []

/-- The targets that a controller stands for, with the spec of the device the
rule is for. -/
def controllerTargets (specs : Dict Mac DeviceSpec) (srcRule : Rule) (controller : String)
    (bridge : DeviceSpec) : Except Exc (Option (List PortTarget)) :=
  match bridge.controllers.bind (·.get? controller) with
  | none => .ok none
  | some entry =>
      match entry.controlees with
      | none => .error (.keyError "controlees")
      | some middle =>
          match middle.get? controller with
          | none => .ok none
          | some controlee =>
              match controlee.macAddrs with
              | none => .error (.keyError "mac_addrs")
              | some targetMacs => do
                  let targets ← allowedTargets topology specs srcRule controller targetMacs
                  pure (some targets)

def resolveTargets (target : Option String) (srcMac : Option Mac) (srcRule : Rule) :
    Except Exc (Option (List PortTarget)) :=
  match target.bind (afterPrefix ctlPrefix) with
  | none => .ok none
  | some controller =>
      match topology.deviceSpecs with
      | none => .error (.typeError "'NoneType' object is not subscriptable")
      | some specs =>
          match srcMac.bind specs.get? with
          | none => .error (.keyError (srcMac.getD "None"))
          | some bridge => controllerTargets topology specs srcRule controller bridge

def augmentSecPortAcl (acl : Rule) (ports : Option (List Nat)) (dlDst : Option Mac) :
    Except Exc Rule :=
  if acl.actions.output.isSome then .error (.assertionError "output actions explicitly defined")
  else match acl.actions.allow with
    | none => .error (.keyError "allow")
    | some false => .ok acl
    | some true => .ok { acl with
        dlDst := if NonEmpty dlDst then dlDst else acl.dlDst
        actions := { acl.actions with
          output := some { ports := some (ports.getD [] ++ [topology.secPort]) }
          -- an output to targets is all there is, except for DHCP
          allow := if ports.isSome ∧ acl.udpSrc ≠ some 68 then none else some true } }

/-- What `_append_augmented_rule` appends: with targets, one rule for broadcasts
to all of them and one for each. -/
def augmentedRules (acl : Rule) (targets : Option (List PortTarget)) : Except Exc (List Rule) :=
  match targets with
  | none => do
      let rule ← augmentSecPortAcl topology acl none none
      pure [rule]
  | some targets => do
      let broadcast ← augmentSecPortAcl topology acl (some (targets.map PortTarget.port))
        (some broadcastMac)
      let unicast ← targets.mapM fun target =>
        augmentSecPortAcl topology acl (some [target.port]) (some target.mac)
      pure (broadcast :: unicast)

def appendAugmentedRule (rules : List Rule) (acl : Rule) (targets : Option (List PortTarget)) :
    Except Exc (List Rule) := do
  let more ← augmentedRules topology acl targets
  pure (rules ++ more)

/-- A rule of a template with its fields resolved. -/
def resolvedRule (targetMac : Option Mac) (acl : Rule) : Rule :=
  { acl with
    dlSrc := (resolveTemplateField acl.dlSrc targetMac).2
    nwDst := (resolveTemplateField acl.nwDst none).2 }

/-- What one rule of a template comes to. -/
def templateRule (targetMac : Option Mac) (acl : Rule) : Except Exc (List Rule) := do
  let newRule := resolvedRule targetMac acl
  let targets ← resolveTargets topology (resolveTemplateField acl.nwDst none).1 targetMac newRule
  augmentedRules topology newRule targets

/-- The rules with those of a template, and whether there is one. -/
def appendAclTemplate (rules : List Rule) (deviceType : String) (targetMac : Option Mac) :
    Except Exc (List Rule × Bool) := do
  let template ← getAclTemplate topology deviceType
  match template with
  | none => pure (rules, false)
  | some template => do
      let acls ← template.rules (fromAclKey deviceType)
      let rules ← acls.foldlM (fun rules acl => do
        let more ← templateRule topology targetMac acl
        pure (rules ++ more)) rules
      pure (rules, true)

def makeDefaultAllowRule : Rule where
  actions := { allow := some true }

def makeDefaultAclRules : Except Exc (List Rule) := do
  let (rules, found) ← appendAclTemplate topology [] "raw" none
  if found then pure rules else appendAugmentedRule topology rules makeDefaultAllowRule none

def appendDeviceDefaultAllow (specs : Dict Mac DeviceSpec) (rules : List Rule) (targetMac : Mac) :
    Except Exc (List Rule) :=
  match (specs.get? targetMac).bind DeviceSpec.defaultAllow with
  | none => pure rules
  | some allow => appendAugmentedRule topology rules
      { actions := { allow := some allow }, description := some "device_spec default_allow" } none

/-- The rules for a port with a live target. -/
def targetAcl (specs : Dict Mac DeviceSpec) (targetMac : Mac) (rules : List Rule) :
    Except Exc (List Rule) := do
  let (rules, _) ← appendAclTemplate topology rules (getDeviceType specs targetMac) (some targetMac)
  -- an empty address is as good as none from here on
  if targetMac = "" then do
    let others ← makeDefaultAclRules topology
    pure (rules ++ others)
  else do
    let (rules, found) ← appendAclTemplate topology rules "baseline" none
    if found then appendDeviceDefaultAllow topology specs rules targetMac
    else .error (.assertionError "Missing ACL template baseline")

/-- The rules that are written for a port. -/
def generatePortAcl (port : Nat) : Except Exc (List Rule) := do
  let rules ← addDot1xAllowRule [] [topology.secPort] none
    (some (getPortVlan topology (some port)))
  match topology.deviceSpecs, topology.portTargets.get? port with
  | some specs, some target => targetAcl topology specs target.mac rules
  | _, _ => do
      let others ← makeDefaultAclRules topology
      pure (rules ++ others)

end Daq.Acl
