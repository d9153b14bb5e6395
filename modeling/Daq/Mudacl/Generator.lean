import Daq.Mudacl.Policy

namespace Daq.Mudacl

open Fallible

/-! `MudAclGenerator`: the ACLs of all targets, for each placement. -/

/-- A place at a port of a switch; a template has no port. -/
structure Placement where
  dpName : String
  portNum : Option Int

def Placement.edgeName (placement : Placement) : String :=
  match placement.portNum with
  | none => s!"template_{placement.dpName}"
  | some portNum => s!"dp_{placement.dpName}_port_{portNum}"

structure Interface where
  aclIn : Option String

structure DataPlane where
  interfaces : Dict Int Interface

structure PortAcl where
  placement : Placement
  edgeAcl : Acl := []
  upstreamAcl : Acl := []

/-- A generator has no device topology while it makes templates. -/
structure MudAclGenerator where
  deviceTopology : Option (Dict String Placement)
  switchTopology : Dict String DataPlane
  aclProvider : MudConverter
  targetTypes : List String
  placementText : Placement → String

def macTemplatePrefix : String := "@mac:"

def makeAclName (root : String) : String := s!"{root}_acl"

def checkWhitelistedRules (rule : Rule) : Except Raised Unit :=
  if rule.udpSrc = some AclHelper.udpNtpPort ∨ rule.udpDst = some AclHelper.udpNtpPort then
    .error (.plain "Should not include NTP ports in ACLs")
  else if rule.udpSrc = some AclHelper.udpDnsPort ∨ rule.udpDst = some AclHelper.udpDnsPort ∨
      rule.tcpSrc = some AclHelper.tcpDnsPort ∨ rule.tcpDst = some AclHelper.tcpDnsPort then
    .error (.plain "Should not include DNS ports in ACLs")
  else if rule.udpSrc = some AclHelper.udpDhcpClientPort ∨
      rule.udpDst = some AclHelper.udpDhcpClientPort ∨
      rule.udpSrc = some AclHelper.udpDhcpServerPort ∨
      rule.udpDst = some AclHelper.udpDhcpServerPort then
    .error (.plain "Should not include DHCP ports in ACLs")
  else .ok ()

def Rule.dstPort (rule : Rule) : Option Int :=
  if rule.nwProto = some AclHelper.nwProtoTcp then rule.tcpDst else rule.udpDst

def Rule.srcPort (rule : Rule) : Option Int :=
  if rule.nwProto = some AclHelper.nwProtoTcp then rule.tcpSrc else rule.udpSrc

def checkWildcardedAcls (isEdge : Bool) (rule : Rule) : Except Raised Unit :=
  if isEdge ∧ rule.dstPort = none ∧ rule.nwDst = none then
    .error (.plain s!"Cowardly refusing to create wildcarded edge ACL {rule.description}")
  else if !isEdge ∧ rule.srcPort = none ∧ rule.nwSrc = none then
    .error (.plain s!"Cowardly refusing to create wildcarded upstream ACL {rule.description}")
  else .ok ()

def aclSanity (aces : Acl) (isEdge : Bool) : Except Raised Acl := do
  aces.forM fun rule => processing rule.description do
    checkWhitelistedRules rule
    checkWildcardedAcls isEdge rule
  return aces

/-- `computeIfAbsent` -/
def portAclAt (portAclMap : Dict String PortAcl) (placement : Placement) : PortAcl :=
  (portAclMap.get? placement.edgeName).getD { placement := placement }

namespace MudAclGenerator

variable (generator : MudAclGenerator)

def isTemplate : Bool := generator.deviceTopology.isNone

def makeTemplateDeviceTargetMap : Dict String Placement :=
  generator.targetTypes.foldl (fun templateMap targetType =>
    templateMap.insert (macTemplatePrefix ++ targetType) ⟨targetType, none⟩) .empty

def getDeviceTargetMap : Dict String Placement :=
  generator.deviceTopology.getD generator.makeTemplateDeviceTargetMap

def getDeviceSpec (targetSrc : String) : DeviceSpec :=
  match Acl.afterPrefix macTemplatePrefix targetSrc with
  | some templateName => templateSpec templateName
  | none => (generator.aclProvider.deviceMaps.get? targetSrc).getD (templateSpec "default")

def validatePlacement (value : Placement) : Except Raised Placement :=
  if generator.isTemplate then .ok value
  else
    match generator.switchTopology.get? value.dpName with
    | none => .error (.plain s!"Invalid data plane for {generator.placementText value}")
    | some dataPlane =>
        match value.portNum.bind dataPlane.interfaces.get? with
        | none => .error (.plain s!"Invalid port for {generator.placementText value}")
        | some port =>
            if port.aclIn ≠ some (makeAclName value.edgeName) then
              .error (.plain
                s!"Bad acl_in {orNull port.aclIn} for {generator.placementText value}")
            else .ok value

def makeAcl (isEdge : Bool) (deviceSpec : DeviceSpec) (targetSrc : String) : Except Raised Acl :=
  if isEdge then generator.aclProvider.makeEdgeAcl deviceSpec targetSrc
  else generator.aclProvider.makeUpstreamAcl deviceSpec targetSrc

/-- One target: what has been added to the map stays there when an error comes up. -/
def addTarget (state : Dict String PortAcl × Dict String Raised) (target : String × Placement) :
    Dict String PortAcl × Dict String Raised :=
  let deviceSpec := generator.getDeviceSpec target.1
  match generator.validatePlacement target.2 with
  | .error raised => (state.1, state.2.insert deviceSpec.type raised)
  | .ok placement =>
      let portAcl := portAclAt state.1 placement
      match generator.makeAcl true deviceSpec target.1 >>= (aclSanity · true) with
      | .error raised =>
          (state.1.insert placement.edgeName portAcl, state.2.insert deviceSpec.type raised)
      | .ok edgeAcl =>
          let portAcl := { portAcl with edgeAcl := portAcl.edgeAcl ++ edgeAcl }
          match generator.makeAcl false deviceSpec target.1 >>= (aclSanity · false) with
          | .error raised =>
              (state.1.insert placement.edgeName portAcl, state.2.insert deviceSpec.type raised)
          | .ok upstreamAcl =>
              (state.1.insert placement.edgeName
                { portAcl with upstreamAcl := portAcl.upstreamAcl ++ upstreamAcl }, state.2)

/-- One more entry, or more rules in the entry of that name. -/
def addRules (portAclMap : Dict String PortAcl) (keyword : String) (add : Acl → Acl) :
    Dict String PortAcl :=
  let placement : Placement := ⟨keyword, none⟩
  let portAcl := portAclAt portAclMap placement
  portAclMap.insert placement.edgeName { portAcl with edgeAcl := add portAcl.edgeAcl }

def addTemplateEntries (portAclMap : Dict String PortAcl) : Dict String PortAcl :=
  addRules (addRules portAclMap "raw" AclHelper.addRawRules) "baseline" AclHelper.addBaselineRules

def makePortAclMap : Except Raised (Dict String PortAcl) :=
  let (portAclMap, errors) :=
    generator.getDeviceTargetMap.entries.foldl generator.addTarget (.empty, .empty)
  if errors.size ≠ 0 then .error (.tree s!"{errors.size} type errors" errors.entries)
  else if generator.isTemplate then .ok (addTemplateEntries portAclMap)
  else
    .ok (portAclMap.mapValues fun _ portAcl =>
      { portAcl with edgeAcl := AclHelper.addBaselineRules portAcl.edgeAcl })

end MudAclGenerator

end Daq.Mudacl
