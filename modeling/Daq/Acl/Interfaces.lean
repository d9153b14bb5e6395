import Daq.Acl.Port
import Daq.Lib.Exec

namespace Daq.Acl

/-! The network topology that FAUCET is configured with: the interfaces of the
two switches, and the files of access control lists that it includes. -/

/-- Entry of `interfaces`. -/
structure Interface where
  aclIn : Option String := none
  nativeVlan : Option Nat := none
  taggedVlans : Option (List Nat) := none
  name : Option String := none
  description : Option String := none
  outputOnly : Bool := false
deriving DecidableEq

/-- Entry of `dps`. -/
structure Dataplane where
  dpId : Nat
  interfaces : Dict Nat Interface

/-- What a VLAN is described by. -/
structure VlanDescription where
  unicastFlood : Bool

structure NetworkTopology where
  dps : Dict String Dataplane
  vlans : Dict Nat VlanDescription
  includes : List String

/-- The options of `switch_setup` and `run_trigger` that the interfaces depend
on. -/
structure SwitchSetup where
  secPort : Nat
  secDpid : Nat
  extIntf : Option String := none
  nativeVlan : Option Nat := none
  vlanStart : Option Nat := none
  vlanEnd : Option Nat := none

/-- The numbers of `range(1, sec_port)`. -/
def SwitchSetup.portNumbers (setup : SwitchSetup) : List Nat :=
  (List.range (setup.secPort - 1)).map (1 + ·)

def priName : String := "pri"
def secName : String := "sec"
def priDpid : Nat := 1
def localVlan : Nat := 1000

def incomingAclName (dp : String) : String := "dp_" ++ dp ++ "_incoming_acl"
def portsetAclName (dp : String) (portSet : Nat) : String :=
  "dp_" ++ dp ++ "_portset_" ++ toString portSet ++ "_acl"
def localAclName (dp : String) : String := "dp_" ++ dp ++ "_local_acl"
def portAclName (dp : String) (port : Nat) : String :=
  "dp_" ++ dp ++ "_port_" ++ toString port ++ "_acl"

def dpAclFile : String := "dp_port_acls.yaml"
def portAclFile (dp : String) (port : Nat) : String :=
  "port_acls/dp_" ++ dp ++ "_port_" ++ toString port ++ "_acl.yaml"

def mirrorIfaceName (inputPort : Nat) : String := "mirror-" ++ toString inputPort

section Interfaces

variable (setup : SwitchSetup)

def useVlanTriggers : Prop := Truthy setup.vlanStart

instance : Decidable (useVlanTriggers setup) := inferInstanceAs (Decidable (Truthy _))

def vlanTags : Except Exc (List Nat) :=
  if useVlanTriggers setup then
    match setup.vlanEnd with
    | none => .error (.typeError "unsupported operand type(s) for +: 'NoneType' and 'int'")
    | some vlanEnd =>
        let vlanStart := setup.vlanStart.getD 0
        .ok ((List.range (vlanEnd + 1 - vlanStart)).map (vlanStart + ·) ++ [localVlan])
  else .ok ((List.range setup.secPort).map (localVlan + ·))

def makeMirrorInterface (inputPort : Nat) : Interface where
  name := some (mirrorIfaceName inputPort)
  outputOnly := true

def makeLocalInterface : Interface where
  name := some "local_switch"
  nativeVlan := some localVlan
  aclIn := some (localAclName priName)

def makeGwInterface (portSet : Nat) : Interface where
  aclIn := some (portsetAclName priName portSet)
  nativeVlan := some (if useVlanTriggers setup then dumpVlan else portSetVlan (some portSet))

def makeInPortInterface : Interface where
  description := some "OFPP_IN_PORT"
  outputOnly := true

def makePriTrunkInterface : Except Exc Interface :=
  if Truthy setup.nativeVlan then
    .ok {
      aclIn := some (incomingAclName priName)
      nativeVlan := setup.nativeVlan
      name := some "trunk_pri" }
  else do
    let tags ← vlanTags setup
    pure {
      aclIn := some (incomingAclName priName)
      taggedVlans := some tags
      name := some "trunk_pri" }

def makeSecTrunkInterface : Except Exc Interface := do
  let tags ← vlanTags setup
  pure {
    aclIn := some (incomingAclName secName)
    taggedVlans := some tags
    name := if NonEmpty setup.extIntf then setup.extIntf else some "trunk_sec" }

def makeSecPortInterface (portNo : Nat) : Interface where
  aclIn := some (portAclName secName portNo)
  nativeVlan := some (if useVlanTriggers setup then portSetVlan (some portNo) else dumpVlan)

/-- The interfaces of one port set: those of its gateway, and the mirror of the
device port with the same number. -/
def addPortSet (interfaces : Dict Nat Interface) (portSet : Nat) : Dict Nat Interface :=
  ((getGwPorts portSet).foldl (fun interfaces port =>
    interfaces.insert port (makeGwInterface setup portSet)) interfaces).insert
    (mirrorPort portSet) (makeMirrorInterface portSet)

def makePriInterfaces : Except Exc (Dict Nat Interface) := do
  let trunk ← makePriTrunkInterface setup
  let interfaces := (Dict.empty.insert priTrunkPort trunk).insert ofppInPort makeInPortInterface
  pure ((setup.portNumbers.foldl (addPortSet setup) interfaces).insert
    switchLocalPort makeLocalInterface)

def makeSecInterfaces : Except Exc (Dict Nat Interface) := do
  let trunk ← makeSecTrunkInterface setup
  pure (setup.portNumbers.foldl (fun interfaces port =>
    interfaces.insert port (makeSecPortInterface setup port))
    (Dict.empty.insert setup.secPort trunk))

def makeAclInclude : List String :=
  dpAclFile :: setup.portNumbers.map (portAclFile secName)

def hasSecSwitch : Prop := setup.secDpid ≠ 0 ∧ setup.secPort ≠ 0

instance : Decidable (hasSecSwitch setup) := inferInstanceAs (Decidable (_ ∧ _))

def makeBaseNetworkTopology : Except Exc NetworkTopology := do
  let priInterfaces ← makePriInterfaces setup
  let pri : Dict String Dataplane :=
    Dict.empty.insert priName { dpId := priDpid, interfaces := priInterfaces }
  let dps ←
    (if hasSecSwitch setup then do
      let secInterfaces ← makeSecInterfaces setup
      pure (pri.insert secName { dpId := setup.secDpid, interfaces := secInterfaces })
    else pure pri)
  pure {
    dps
    vlans := Dict.empty.insert 10 { unicastFlood := false }
    includes := makeAclInclude setup }

end Interfaces

/-! The files that the lists are written to, by name. -/

abbrev AclFile := Dict String (List Rule)

/-- The directory of the instance: its files of lists. -/
abbrev AclFiles := Dict String AclFile

variable (topology : FaucetTopology)

/-- `acls` as `_generate_main_acls` fills it. -/
def mainAclFile (acls : MainAcls) : AclFile :=
  let named := (Dict.empty.insert (incomingAclName priName) acls.priIncoming).insert
    (incomingAclName secName) acls.secIncoming
  let named := topology.portNumbers.foldl (fun named portSet =>
    named.insert (portsetAclName priName portSet)
      ((acls.portsets.get? portSet).getD [])) named
  named.insert (localAclName priName) acls.priLocal

def writeMainAcls : Exec AclFiles Exc Unit := do
  let acls ← Exec.ofExcept (generateMainAcls topology)
  Exec.modify fun files => files.insert dpAclFile (mainAclFile topology acls)

def writePortAcl (port : Nat) : Exec AclFiles Exc Unit := do
  let rules ← Exec.ofExcept (generatePortAcl topology port)
  Exec.modify fun files => files.insert (portAclFile secName port)
    (Dict.empty.insert (portAclName secName port) rules)

/-- Files are written as they are generated: where one raises, those before it
are there already. -/
def generateAcls : Exec AclFiles Exc Unit := do
  writeMainAcls topology
  Exec.forEach topology.portNumbers (writePortAcl topology)

end Daq.Acl
