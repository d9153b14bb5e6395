import Daq.Acl.Rule
import Daq.Runner.Topology

namespace Daq.Acl

/-! The lists of the primary switch and of the trunk of the secondary one. -/

/-- What the lists depend on in a device of `_set_devices`: for its gateway, the
port set. -/
structure Attached where
  mac : Mac
  vlan : Option Nat := none
  assigned : Option Nat := none
  portNo : Option Nat := none
  gateway : Option Nat := none
deriving DecidableEq

/-- The values that hold `macAddrs` for one controller. -/
structure Controlee where
  macAddrs : Option (List Mac) := none

structure Controller where
  controlees : Option (Dict String Controlee) := none

/-- Entry of `macAddrs` of the device specs. -/
structure DeviceSpec where
  type : Option String := none
  defaultAllow : Option Bool := none
  controllers : Option (Dict String Controller) := none

structure Template where
  acls : Option (Dict String (List Rule)) := none

/-- The topology manager.  A set of devices is listed in the order in which it
iterates; a template is missing, empty or has content; a target is recorded
under its own port. -/
structure FaucetTopology where
  secPort : Nat
  runDir : String := "inst"
  extOfip : Option String := none
  extFaucet : Bool := false
  egressVlan : Option Nat := none
  deviceSpecs : Option (Dict Mac DeviceSpec) := none
  templates : String → Option (Option Template) := fun _ => none
  portTargets : Dict Nat PortTarget := .empty
  setDevices : Dict Nat (List Attached) := .empty
  keyed : ∀ entry ∈ portTargets.entries, entry.2.port = entry.1 := by decide +kernel

def broadcastMac : Mac := "ff:ff:ff:ff:ff:ff"
def ipv4DlType : Nat := 0x0800
def dot1xEthType : Nat := 0x888e
def ofppInPort : Nat := 0xfffffff8
def switchLocalPort : Nat := 1000
def priTrunkPort : Nat := 1

def mirrorPort (inputPort : Nat) : Nat := 1000 + inputPort

def getGwPorts (portSet : Nat) : List Nat := (List.range 6).map (10 * portSet + ·)

/-- Return test ports associated with gateway. -/
def getPossibleTestPorts (portSet : Nat) : List Nat := (List.range 4).map (10 * portSet + 2 + ·)

/-- The numbers of `range(1, sec_port)`. -/
def FaucetTopology.portNumbers (topology : FaucetTopology) : List Nat :=
  (List.range (topology.secPort - 1)).map (1 + ·)

variable (topology : FaucetTopology)

def getPortVlan (portNo : Option Nat) : Nat :=
  portSetVlan ((portNo.bind topology.portTargets.get?).map PortTarget.portSet)

/-- Add dot1x reflection rule to acl. -/
def addDot1xAllowRule (acl : List Rule) (ports : List Nat) (vlanVid outVid : Option Nat) :
    Except Exc (List Rule) :=
  if Truthy vlanVid then
    addAclRule acl
      { ethType := some dot1xEthType, ports := some ports, vlanVid := vlanVid.map .vid }
  else if Truthy outVid then
    addAclRule acl { ethType := some dot1xEthType, ports := some ports, outVid }
  else pure acl

def addDot1xDevice (acls : List Rule × List Rule) (device : Attached) :
    Except Exc (List Rule × List Rule) :=
  match device.gateway with
  | none => pure acls
  | some portSet => do
      let vlan := getPortVlan topology device.portNo
      let incoming ←
        (if getPossibleTestPorts portSet = [] then pure acls.1
        else addDot1xAllowRule acls.1 (getPossibleTestPorts portSet) (some vlan) none)
      let secondary ←
        (if Truthy device.portNo then
          addDot1xAllowRule acls.2 [device.portNo.getD 0] (some vlan) none
        else pure acls.2)
      pure (incoming, secondary)

def addDot1xIncomingRule (incoming secondary : List Rule) : Except Exc (List Rule × List Rule) :=
  topology.setDevices.values.flatten.foldlM (addDot1xDevice topology) (incoming, secondary)

def addPortsetRule (portsets : Dict Nat (List Rule)) (portSet : Nat) (kwargs : Keywords) :
    Except Exc (Dict Nat (List Rule)) :=
  match portsets.get? portSet with
  | none => throw (.keyError (toString portSet))
  | some acl => do
      let rules ← addAclRule acl kwargs
      pure (portsets.insert portSet rules)

def generateSwitchLocalAcls (portsets : Dict Nat (List Rule)) (localAcl : List Rule) :
    Except Exc (Dict Nat (List Rule) × List Rule) := do
  let (portsets, allPorts) ←
    (if NonEmpty topology.extOfip then
      topology.portNumbers.foldlM (fun (portsets, allPorts) portSet => do
        let portsets ← addPortsetRule portsets portSet
          { ports := some [switchLocalPort], ipv4Dst := topology.extOfip,
            dlType := some ipv4DlType }
        pure (portsets, allPorts ++ getGwPorts portSet)) (portsets, [])
    else pure (portsets, []))
  let localAcl ← addAclRule localAcl { ports := some allPorts }
  pure (portsets, localAcl)

/-- The MAC addresses and mirror ports of the targets of each port set. -/
abbrev Mirrors := Dict Nat (List (Mac × Nat))

/-- `setdefault(port_set, []).append(...)`. -/
def addMirror (mirrors : Mirrors) (target : PortTarget) : Mirrors :=
  mirrors.insert target.portSet
    ((mirrors.get? target.portSet).getD [] ++ [(target.mac, mirrorPort target.port)])

def generatePortTargetAcls (portsets : Dict Nat (List Rule)) :
    Except Exc (Mirrors × Dict Nat (List Rule)) :=
  topology.portTargets.values.foldlM (fun (mirrors, portsets) target => do
    let portsets ← addPortsetRule portsets target.portSet
      { dlDst := some target.mac, ports := some [mirrorPort target.port], allow := some true }
    pure (addMirror mirrors target, portsets)) (.empty, portsets)

/-- Mirror what one target sends. -/
def addSourceMirrors (mirrorTuples : List (Mac × Nat)) (acl : List Rule) (source : Mac × Nat) :
    Except Exc (List Rule) := do
  let acl ← addAclRule acl
    { dlSrc := some source.1, dlDst := some broadcastMac, vlanVid := some .noVlan,
      ports := some (mirrorTuples.map Prod.snd) }
  let acl ← mirrorTuples.foldlM (fun acl destination =>
    if destination.1 ≠ source.1 then
      addAclRule acl
        { dlSrc := some source.1, dlDst := some destination.1, vlanVid := some .noVlan,
          ports := some [source.2, destination.2] }
    else pure acl) acl
  addAclRule acl { dlSrc := some source.1, vlanVid := some .noVlan, ports := some [source.2] }

def generateMirrorAcls (mirrors : Mirrors) (incoming : List Rule)
    (portsets : Dict Nat (List Rule)) : Except Exc (List Rule × Dict Nat (List Rule)) :=
  mirrors.entries.foldlM (fun (incoming, portsets) (portSet, mirrorTuples) => do
    let incoming ← mirrorTuples.foldlM (addSourceMirrors mirrorTuples) incoming
    let portsets ← addPortsetRule portsets portSet
      { dlDst := some broadcastMac, ports := some (mirrorTuples.map Prod.snd ++ [switchLocalPort]),
        allow := some true }
    pure (incoming, portsets)) (incoming, portsets)

/-- The VLAN that a device's DHCP requests leave on. -/
def egressVlan (device : Attached) : Option Nat :=
  if Truthy device.assigned then device.assigned else topology.egressVlan

def addDhcpReflector (acl : List Rule) (device : Attached) : Except Exc (List Rule) := do
  -- Rule for DHCP request to server. Convert device vlan to egress vlan.
  let acl ← addAclRule acl
    { dlType := some 0x800, nwProto := some 17, udpSrc := some 68, udpDst := some 67,
      vlanVid := device.vlan.map .vid, swapVid := egressVlan topology device,
      port := some ofppInPort }
  addAclRule acl
    { dlType := some 0x800, dlDst := some device.mac, nwProto := some 17, udpSrc := some 67,
      udpDst := some 68, vlanVid := (egressVlan topology device).map .vid,
      swapVid := device.vlan, port := some ofppInPort, allow := some true }

def addDhcpReflectors (acl : List Rule) : Except Exc (List Rule) :=
  if topology.extFaucet then do
    let acl ← topology.setDevices.values.flatten.foldlM (addDhcpReflector topology) acl
    -- Allow any unrecognized DHCP requests for learning, but don't reflect.
    let acl ← addAclRule acl
      { dlType := some 0x800, allow := some true, nwProto := some 17, udpSrc := some 68,
        udpDst := some 67 }
    -- Deny any unrecognized replies.
    addAclRule acl
      { dlType := some 0x800, allow := some false, nwProto := some 17, udpSrc := some 67,
        udpDst := some 68 }
  else pure acl

/-- The lists of `_generate_main_acls`, each under the switch or port set it is
named for. -/
structure MainAcls where
  priIncoming : List Rule
  secIncoming : List Rule
  portsets : Dict Nat (List Rule)
  priLocal : List Rule

/-- What ends the list of a port set. -/
def finishPortset (portsets : Dict Nat (List Rule)) (portSet : Nat) :
    Except Exc (Dict Nat (List Rule)) :=
  match portsets.get? portSet with
  | none => throw (.keyError (toString portSet))
  | some acl => do
      let acl ← addDot1xAllowRule acl [priTrunkPort] none (some (portSetVlan (some portSet)))
      let acl ← addAclRule acl { allow := some true }
      pure (portsets.insert portSet acl)

def generateMainAcls : Except Exc MainAcls := do
  let (incoming, secondary) ← addDot1xIncomingRule topology [] []
  let portsets := topology.portNumbers.foldl
    (fun portsets portSet => portsets.insert portSet []) (.empty : Dict Nat (List Rule))
  let (portsets, localAcl) ← generateSwitchLocalAcls topology portsets []
  let (mirrors, portsets) ← generatePortTargetAcls topology portsets
  let (incoming, portsets) ← generateMirrorAcls mirrors incoming portsets
  let incoming ← addDhcpReflectors topology incoming
  let priIncoming ← addAclRule incoming { allow := some true }
  let secIncoming ← addAclRule secondary { allow := some true }
  let portsets ← topology.portNumbers.foldlM finishPortset portsets
  pure { priIncoming, secIncoming, portsets, priLocal := localAcl }

end Daq.Acl
