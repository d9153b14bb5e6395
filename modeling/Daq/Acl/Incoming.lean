import Daq.Acl.Main
import Daq.Lib.Fallible

namespace Daq.Acl

/-! The list for what comes in at the trunk of the primary switch, part by
part. -/

variable (topology : FaucetTopology)

def FaucetTopology.devices : List Attached := topology.setDevices.values.flatten

def FaucetTopology.targets : List PortTarget := topology.portTargets.values

def dot1xRule (device : Attached) (portSet : Nat) : Rule :=
  { ethType := some dot1xEthType, ports := some (getPossibleTestPorts portSet),
    vlanVid := some (.vid (getPortVlan topology device.portNo)) : Keywords }.rule

def dot1xRules (device : Attached) : List Rule :=
  device.gateway.toList.map (dot1xRule topology device)

def broadcastRule (mirrorTuples : List (Mac × Nat)) (source : Mac × Nat) : Rule :=
  { dlSrc := some source.1, dlDst := some broadcastMac, vlanVid := some .noVlan,
    ports := some (mirrorTuples.map Prod.snd) : Keywords }.rule

def pairRule (source destination : Mac × Nat) : Rule :=
  { dlSrc := some source.1, dlDst := some destination.1, vlanVid := some .noVlan,
    ports := some [source.2, destination.2] : Keywords }.rule

def pairRules (source destination : Mac × Nat) : List Rule :=
  if destination.1 ≠ source.1 then [pairRule source destination] else []

def sourceRule (source : Mac × Nat) : Rule :=
  { dlSrc := some source.1, vlanVid := some .noVlan, ports := some [source.2] : Keywords }.rule

/-- The rules for what one target sends. -/
def mirrorRules (mirrorTuples : List (Mac × Nat)) (source : Mac × Nat) : List Rule :=
  broadcastRule mirrorTuples source ::
    (mirrorTuples.flatMap (pairRules source) ++ [sourceRule source])

def requestRule (device : Attached) : Rule :=
  { dlType := some 0x800, nwProto := some 17, udpSrc := some 68, udpDst := some 67,
    vlanVid := device.vlan.map .vid, swapVid := egressVlan topology device,
    port := some ofppInPort : Keywords }.rule

def replyRule (device : Attached) : Rule :=
  { dlType := some 0x800, dlDst := some device.mac, nwProto := some 17, udpSrc := some 67,
    udpDst := some 68, vlanVid := (egressVlan topology device).map .vid,
    swapVid := device.vlan, port := some ofppInPort, allow := some true : Keywords }.rule

def learnRule : Rule :=
  { dlType := some 0x800, allow := some true, nwProto := some 17, udpSrc := some 68,
    udpDst := some 67 : Keywords }.rule

def denyRule : Rule :=
  { dlType := some 0x800, allow := some false, nwProto := some 17, udpSrc := some 67,
    udpDst := some 68 : Keywords }.rule

def dhcpRules : List Rule :=
  if topology.extFaucet then
    topology.devices.flatMap (fun device => [requestRule topology device, replyRule topology device])
      ++ [learnRule, denyRule]
  else []

def allowRule : Rule := { allow := some true : Keywords }.rule

/-- The mirrors of all targets. -/
def FaucetTopology.mirrors : Mirrors := topology.targets.foldl addMirror .empty

def FaucetTopology.mirroring : List Rule :=
  topology.mirrors.values.flatMap fun tuples => tuples.flatMap (mirrorRules tuples)

variable {topology}

theorem portSetVlan_truthy (portSet : Option Nat) : Truthy (some (portSetVlan portSet)) := by
  rw [Truthy, Option.getD_some, portSetVlan]
  split
  · omega
  · decide

theorem addDot1xDevice_incoming {acls after : List Rule × List Rule} {device : Attached}
    (added : addDot1xDevice topology acls device = .ok after) :
    after.1 = acls.1 ++ dot1xRules topology device := by
  unfold addDot1xDevice at added
  cases attached : device.gateway with
  | none =>
      rw [attached] at added
      cases added
      rw [dot1xRules, attached]
      exact (List.append_nil _).symm
  | some portSet =>
      rw [attached] at added
      obtain ⟨incoming, first, added⟩ := Fallible.bind_eq_ok_iff.mp added
      obtain ⟨secondary, _, added⟩ := Fallible.bind_eq_ok_iff.mp added
      cases added
      have ports : getPossibleTestPorts portSet ≠ [] := List.cons_ne_nil _ _
      have tagged : Truthy (some (getPortVlan topology device.portNo)) := portSetVlan_truthy _
      rw [if_neg ports, addDot1xAllowRule, if_pos tagged, addAclRule_ok rfl] at first
      cases first
      rw [dot1xRules, attached]
      rfl

theorem addSourceMirrors_ok {mirrorTuples : List (Mac × Nat)} {acl after : List Rule}
    {source : Mac × Nat} (added : addSourceMirrors mirrorTuples acl source = .ok after) :
    after = acl ++ mirrorRules mirrorTuples source := by
  unfold addSourceMirrors at added
  rw [addAclRule_ok rfl, Fallible.ok_bind] at added
  obtain ⟨paired, pairs, added⟩ := Fallible.bind_eq_ok_iff.mp added
  rw [addAclRule_ok rfl] at added
  cases added
  have listed : paired = acl ++ [broadcastRule mirrorTuples source] ++
      mirrorTuples.flatMap (pairRules source) := by
    refine Fallible.foldlM_appends id _ ?_ pairs
    intro acl destination after added
    unfold pairRules
    split at added
    · rename_i different
      rw [addAclRule_ok rfl] at added
      cases added
      rw [if_pos different]
      rfl
    · rename_i same
      cases added
      rw [if_neg same]
      exact (List.append_nil _).symm
  rw [listed, mirrorRules, List.append_assoc, List.append_assoc]
  rfl

theorem generatePortTargetAcls_mirrors {portsets : Dict Nat (List Rule)}
    {generated : Mirrors × Dict Nat (List Rule)}
    (ran : generatePortTargetAcls topology portsets = .ok generated) :
    generated.1 = topology.mirrors := by
  have loop : ∀ {targets : List PortTarget} {state after : Mirrors × Dict Nat (List Rule)},
      targets.foldlM (fun (state : Mirrors × Dict Nat (List Rule)) target => do
        let portsets ← addPortsetRule state.2 target.portSet
          { dlDst := some target.mac, ports := some [mirrorPort target.port], allow := some true }
        pure (addMirror state.1 target, portsets)) state = .ok after →
      after.1 = targets.foldl addMirror state.1 := by
    intro targets
    induction targets with
    | nil =>
        intro state after ran
        cases ran
        rfl
    | cons target targets later =>
        intro state after ran
        rw [List.foldlM_cons] at ran
        obtain ⟨middle, first, ran⟩ := Fallible.bind_eq_ok_iff.mp ran
        obtain ⟨portsets, _, first⟩ := Fallible.bind_eq_ok_iff.mp first
        cases first
        exact later ran
  exact loop ran

theorem generateMirrorAcls_incoming {mirrors : Mirrors} {incoming : List Rule}
    {portsets : Dict Nat (List Rule)} {generated : List Rule × Dict Nat (List Rule)}
    (ran : generateMirrorAcls mirrors incoming portsets = .ok generated) :
    generated.1 = incoming ++
      mirrors.values.flatMap fun tuples => tuples.flatMap (mirrorRules tuples) := by
  have appended := Fallible.foldlM_appends (fun state : List Rule × Dict Nat (List Rule) => state.1)
    (fun entry : Nat × List (Mac × Nat) => entry.2.flatMap (mirrorRules entry.2)) ?_ ran
  · rw [appended, Dict.values, List.flatMap_map]
  · intro state entry after step
    obtain ⟨sources, first, step⟩ := Fallible.bind_eq_ok_iff.mp step
    obtain ⟨portsets, _, step⟩ := Fallible.bind_eq_ok_iff.mp step
    cases step
    exact Fallible.foldlM_appends id (mirrorRules entry.2) (fun _ _ _ => addSourceMirrors_ok) first

theorem addDhcpReflectors_ok {acl after : List Rule}
    (added : addDhcpReflectors topology acl = .ok after) : after = acl ++ dhcpRules topology := by
  unfold addDhcpReflectors at added
  unfold dhcpRules
  split at added
  · rename_i external
    rw [if_pos external]
    obtain ⟨reflected, loop, added⟩ := Fallible.bind_eq_ok_iff.mp added
    rw [addAclRule_ok rfl, Fallible.ok_bind, addAclRule_ok rfl] at added
    cases added
    have appended : reflected = acl ++ topology.devices.flatMap
        (fun device => [requestRule topology device, replyRule topology device]) := by
      refine Fallible.foldlM_appends id _ ?_ loop
      intro acl device after step
      unfold addDhcpReflector at step
      rw [addAclRule_ok rfl, Fallible.ok_bind, addAclRule_ok rfl] at step
      cases step
      exact List.append_assoc _ _ _
    rw [appended, List.append_assoc, List.append_assoc]
    rfl
  · rename_i external
    rw [if_neg external, List.append_nil]
    cases added
    rfl

/-- The list for what comes in: 802.1X, mirrors, DHCP and all the rest. -/
theorem generateMainAcls_incoming {acls : MainAcls}
    (generated : generateMainAcls topology = .ok acls) :
    acls.priIncoming = topology.devices.flatMap (dot1xRules topology) ++
      (topology.mirroring ++ (dhcpRules topology ++ [allowRule])) := by
  unfold generateMainAcls at generated
  obtain ⟨dot1x, first, generated⟩ := Fallible.bind_eq_ok_iff.mp generated
  obtain ⟨⟨_, _⟩, _, generated⟩ := Fallible.bind_eq_ok_iff.mp generated
  obtain ⟨targeted, mirrored, generated⟩ := Fallible.bind_eq_ok_iff.mp generated
  obtain ⟨mirrors, second, generated⟩ := Fallible.bind_eq_ok_iff.mp generated
  obtain ⟨reflected, third, generated⟩ := Fallible.bind_eq_ok_iff.mp generated
  rw [addAclRule_ok rfl, Fallible.ok_bind, addAclRule_ok rfl, Fallible.ok_bind] at generated
  obtain ⟨_, _, generated⟩ := Fallible.bind_eq_ok_iff.mp generated
  cases generated
  have started : dot1x.1 = [] ++ topology.devices.flatMap (dot1xRules topology) :=
    Fallible.foldlM_appends Prod.fst (dot1xRules topology)
      (fun _ _ _ => addDot1xDevice_incoming) first
  have reflects := addDhcpReflectors_ok third
  have mirrors := generateMirrorAcls_incoming second
  rw [generatePortTargetAcls_mirrors mirrored] at mirrors
  rw [reflects, mirrors, started, List.nil_append, List.append_assoc, List.append_assoc]
  rfl

end Daq.Acl
