import Daq.Acl.Consent
import Daq.Mudacl.Spec

namespace Daq.Mudacl

/-! `MudConverter`: the rules of a device from the MUD file of its type. -/

def controlerPrefix : String := "@ctrl:"

/-- The text of what may be null. -/
def orNull (text : Option String) : String := text.getD "null"

def controllerTemplate (controller : Option String) : String :=
  controlerPrefix ++ orNull controller

def dnsTemplate (dnsName : String) : String := "@dns:" ++ dnsName

def testDnsName : String := "unit.test.address"

def testIpAddress : String := "127.0.1.1"

/-- What is raised while something is done is the cause of another exception. -/
def processing {α : Type} (what : String) (ran : Except Raised α) : Except Raised α :=
  ran.mapError fun raised => .caused s!"While processing {what}" raised

/-- A use of a value that may be null. -/
def notNull {α : Type} : Option α → Except Raised α
  | none => .error .nullPointer
  | some value => .ok value

section Aces

variable (dns : String → Option String)

/-- The lookup of a name is `Inet4Address.getByName`, with the text of the address. -/
def resolveIpv4Dst (dnsDst : String) : Except Raised String :=
  if dnsDst = testDnsName then .ok testIpAddress
  else
    match dns dnsDst with
    | some address => .ok address
    | none => .error (.plain s!"Could not resolve hostname {dnsDst}")

def resolveNwAddr (aclMatches : Matches) (ipv4 : NwSpec) (isSrc isTemplate isEdge : Bool) :
    Except Raised (Option String) :=
  let dnsEntry := if isSrc then ipv4.dnsSrc else ipv4.dnsDst
  match aclMatches.mud, dnsEntry with
  | some _, some _ => .error (.plain "Both DNS and controller specified")
  | some mud, none =>
      .ok (if isEdge = isSrc then none else some (controllerTemplate mud.controller))
  | none, none => .ok none
  | none, some dnsName =>
      if isTemplate then .ok (some (dnsTemplate dnsName))
      else return some (← resolveIpv4Dst dns dnsName)

def resolvePort : Option PortSpec → Except Raised (Option Int)
  | none => .ok none
  | some portSpec =>
      if portSpec.operator ≠ some "eq" then
        .error (.plain s!"Invalid port operator {orNull portSpec.operator}")
      else .ok portSpec.port

def isFromDevice : Option String → Except Raised Bool
  | none => .error (.plain "Missing direction-initiated")
  | some direction =>
      if direction = "from-device" then .ok true
      else if direction = "to-device" then .ok false
      else .error (.plain s!"Invalid direction-initiated: {direction}")

/-- `resolveIp`, with the section that it has found. -/
def resolveIp (rule : Rule) (aclMatches : Matches) : Except Raised (Rule × NwSpec × Int) :=
  match aclMatches.ipv4, aclMatches.ipv6 with
  | none, _ => .error (.plain "Missing ipv4 match criteria")
  | some _, some _ => .error (.plain "ipv6 criteria not supported")
  | some ipv4, none =>
      match ipv4.protocol with
      | none => .error (.plain "IP protocol not supported: null")
      | some protocol =>
          if protocol ≠ AclHelper.nwProtoTcp ∧ protocol ≠ AclHelper.nwProtoUdp then
            .error (.plain s!"IP protocol not supported: {protocol}")
          else .ok ({ rule with dlType := some AclHelper.dlTypeIPv4 }, ipv4, protocol)

def resolveNw (rule : Rule) (aclMatches : Matches) (ipv4 : NwSpec) (protocol : Int)
    (isTemplate isEdge : Bool) : Except Raised Rule := do
  let nwDst ← resolveNwAddr dns aclMatches ipv4 false isTemplate isEdge
  let nwSrc ← resolveNwAddr dns aclMatches ipv4 true isTemplate isEdge
  return { rule with nwProto := some protocol, nwDst := nwDst, nwSrc := nwSrc }

def resolveTcp (rule : Rule) (aclMatches : Matches) (protocol : Int) (isEdge : Bool) :
    Except Raised Rule :=
  if protocol ≠ AclHelper.nwProtoTcp then .ok rule
  else
    match aclMatches.udp, aclMatches.tcp with
    | some _, _ => .error (.plain "Superfluous udp section")
    | none, none => .error (.plain "Missing tcp section")
    | none, some tcp => do
        let tcpDst ← resolvePort tcp.destinationPort
        let tcpSrc ← resolvePort tcp.sourcePort
        let requireSrc := isEdge != (← isFromDevice tcp.directionInitiated)
        if (if requireSrc then tcpSrc else tcpDst) = none then
          let missing := if requireSrc then "src" else "dst"
          .error (.plain s!"Tcp {missing} missing for tcp initiated direction")
        else .ok { rule with tcpDst := tcpDst, tcpSrc := tcpSrc }

def resolveUdp (rule : Rule) (aclMatches : Matches) (protocol : Int) : Except Raised Rule :=
  if protocol ≠ AclHelper.nwProtoUdp then .ok rule
  else
    match aclMatches.tcp, aclMatches.udp with
    | some _, _ => .error (.plain "Superfluous tcp section")
    | none, none => .error (.plain "Missing udp section")
    | none, some udp => do
        let udpSrc ← resolvePort udp.sourcePort
        let udpDst ← resolvePort udp.destinationPort
        if udpDst = none ∧ udpSrc = none then .error (.plain "No udp src/dst port")
        else .ok { rule with udpSrc := udpSrc, udpDst := udpDst }

/-- Whether an ACE accepts or drops. -/
def resolveForwarding (actions : Option Actions) : Except Raised Bool := do
  let forwarding ← notNull (← notNull actions).forwarding
  if forwarding = "accept" then .ok true
  else if forwarding = "drop" then .ok false
  else .error (.plain s!"Unrecognized forwarding clause {forwarding}")

def makeAclRule (aclAce : AclAce) (isTemplate isEdge : Bool) : Except Raised Rule :=
  processing s!"rule {aclAce.name}" do
    let accept ← resolveForwarding aclAce.actions
    let aclMatches ← notNull aclAce.aclMatches
    let (rule, ipv4, protocol) ←
      resolveIp { description := aclAce.name, allow := if accept then 1 else 0 } aclMatches
    let rule ← resolveNw dns rule aclMatches ipv4 protocol isTemplate isEdge
    let rule ← resolveTcp rule aclMatches protocol isEdge
    resolveUdp rule aclMatches protocol

def validateAcl (aclSpec : AclSpec) : Except Raised String := do
  let name ←
    match aclSpec.name with
    | none => throw (.plain "Missing acl name")
    | some name => pure name
  let type ← notNull aclSpec.type
  if type ≠ "ipv4-acl-type" then throw (.plain s!"type was {type}, expected ipv4-acl-type")
  return name

/-- The loop over the ACLs, which validates those that it passes. -/
def findAcl (policyName : Option String) : List AclSpec → Except Raised AclSpec
  | [] => .error (.plain "Acl policy not found")
  | aclSpec :: rest => do
      let name ← validateAcl aclSpec
      if name = (← notNull policyName) then return aclSpec
      findAcl policyName rest

def getAclSpec (accessLists : Option (List AclSpec)) (policySpec : PolicySpec) :
    Except Raised AclSpec :=
  processing s!"policy {orNull policySpec.name}" do
    findAcl policySpec.name (← notNull accessLists)

/-- One ACE: its rule, or its error. -/
def addAce (policyName : String) (isTemplate isEdge : Bool)
    (state : Acl × Dict String Raised) (aclAce : AclAce) : Acl × Dict String Raised :=
  match makeAclRule dns aclAce isTemplate isEdge with
  | .ok rule => (state.1 ++ [rule], state.2)
  | .error raised => (state.1, state.2.insert s!"{policyName}/{aclAce.name}" raised)

def addPolicy (accessLists : Option (List AclSpec)) (isTemplate isEdge : Bool)
    (state : Acl × Dict String Raised) (policySpec : PolicySpec) :
    Except Raised (Acl × Dict String Raised) := do
  let aclSpec ← getAclSpec accessLists policySpec
  let aces ← notNull aclSpec.aces
  return aces.foldl (addAce dns (orNull policySpec.name) isTemplate isEdge) state

def expandAcl (devicePolicy : Option DevicePolicy) (accessLists : Option (List AclSpec))
    (isTemplate isEdge : Bool) : Except Raised Acl :=
  match devicePolicy with
  | none => .ok []
  | some devicePolicy => do
      let policies ← notNull devicePolicy.accessList
      let (acl, errors) ← policies.foldlM (addPolicy dns accessLists isTemplate isEdge) ([], .empty)
      if errors.size ≠ 0 then .error (.tree s!"{errors.size} ACL errors" errors.entries)
      else .ok acl

end Aces

/-- A converter that has the device maps. -/
structure MudConverter where
  mudFile : String → Except Raised MudSpec
  dns : String → Option String
  deviceMaps : Dict String DeviceSpec
  hostLookup : Dict String (Option String)

/-- One device: its host is entered, unless it has an address already. -/
def enterHost (hostLookup : Dict String (Option String)) (device : DeviceSpec) :
    Except Raised (Dict String (Option String)) :=
  match device.hostname with
  | none => .ok hostLookup
  | some hostname =>
      if ((hostLookup.get? hostname).join).isSome then
        .error (.plain s!"Duplicate hosts specified for host {hostname}")
      else .ok (hostLookup.insert hostname device.ipAddr)

/-- `setDeviceMaps`: the address of each host. -/
def setDeviceMaps (deviceMaps : Dict String DeviceSpec) :
    Except Raised (Dict String (Option String)) :=
  deviceMaps.values.foldlM enterHost .empty

/-- The hosts of a controller, none where the device does not have it. -/
def DeviceSpec.targets (device : DeviceSpec) (controllerId : String) :
    Except Raised (Option (List String)) := do
  match (← notNull device.controllers).get? controllerId with
  | none => return none
  | some controller =>
      let hosts ← (← notNull controller.controlees).values.mapM fun controlee =>
        notNull controlee.hostnames
      return some hosts.flatten

namespace MudConverter

variable (converter : MudConverter)

def maybeResolveController (nwEntry : Option String) (edgeDevice : String) :
    Except Raised (Option String) :=
  match nwEntry.bind (Acl.afterPrefix controlerPrefix) with
  | none => .ok nwEntry
  | some controllerId =>
      match converter.deviceMaps.get? edgeDevice with
      | none => .error (.plain s!"Missing device mapping for {edgeDevice}")
      | some deviceSpec => do
          match ← deviceSpec.targets controllerId with
          | none => return none
          | some [] => return none
          | some [target] => return (converter.hostLookup.get? target).join
          | some _ =>
              throw (.plain s!"Multiple controllers not supported for {edgeDevice}")

/-- The destination is resolved, and the source if there is no destination then; the rule is kept
if either is there. -/
def maybeResolveRule (rule : Rule) (edgeDevice : String) : Except Raised (Rule × Bool) := do
  let nwDst ← converter.maybeResolveController rule.nwDst edgeDevice
  if nwDst.isSome then return ({ rule with nwDst := nwDst }, true)
  let nwSrc ← converter.maybeResolveController rule.nwSrc edgeDevice
  return ({ rule with nwDst := nwDst, nwSrc := nwSrc }, nwSrc.isSome)

def getMudSpec (device : DeviceSpec) : Except Raised MudSpec :=
  (converter.mudFile device.type).mapError (.caused s!"While looking up mud type {device.type}")

def deviceAcl (device : DeviceSpec) (isEdge : Bool) : Except Raised Acl :=
  let direction := if isEdge then "edge" else "upstream"
  processing s!"{direction} acl for {device.type}" do
    let mudSpec ← converter.getMudSpec device
    let mudDescriptor ← notNull mudSpec.mudDescriptor
    let acl ← expandAcl converter.dns
      (if isEdge then mudDescriptor.fromDevicePolicy else mudDescriptor.toDevicePolicy)
      mudSpec.accessLists device.isTemplate isEdge
    return acl.map fun rule =>
      { rule with description := s!"type {device.type} rule {rule.description}" }

def makeEdgeAcl (device : DeviceSpec) (edgeDevice : String) : Except Raised Acl := do
  let acl ← converter.deviceAcl device true
  let resolved ← acl.mapM fun rule =>
    let rule := { rule with dlSrc := some edgeDevice }
    if device.isTemplate then .ok (rule, true) else converter.maybeResolveRule rule edgeDevice
  let toRemove := (resolved.filter fun entry => !entry.2).map Prod.fst
  return toRemove.foldl Acl.remove (resolved.map Prod.fst)

def makeUpstreamAcl (device : DeviceSpec) (edgeDevice : String) : Except Raised Acl := do
  let acl ← converter.deviceAcl device false
  return acl.map fun rule => { rule with dlDst := some edgeDevice }

end MudConverter

end Daq.Mudacl
