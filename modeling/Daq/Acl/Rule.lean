import Daq.Data
import Daq.Lib.FirstMatch

namespace Daq.Acl

/-! Rules of the access control lists that are written for FAUCET, and which of
a list a frame is subject to. -/

/-- What a rule asks of the VLAN of a frame: `_NO_VLAN`, or a number. -/
inductive VlanVid
  | noVlan
  | vid (number : Nat)
deriving DecidableEq

structure Output where
  port : Option Nat := none
  ports : Option (List Nat) := none
  vlanVid : Option Nat := none
  swapVid : Option Nat := none
  popVlans : Bool := false
deriving DecidableEq

structure Actions where
  output : Option Output := none
  allow : Option Bool := none
  mirror : Option Nat := none
deriving DecidableEq

/-- What stands under `rule`.  Types of frames are written as numbers, whether
the source has them as such or as hexadecimal text. -/
structure Rule where
  actions : Actions
  description : Option String := none
  dlType : Option Nat := none
  ethType : Option Nat := none
  dlSrc : Option Mac := none
  dlDst : Option Mac := none
  nwProto : Option Nat := none
  nwSrc : Option String := none
  nwDst : Option String := none
  udpSrc : Option Nat := none
  udpDst : Option Nat := none
  tcpSrc : Option Nat := none
  tcpDst : Option Nat := none
  vlanVid : Option VlanVid := none
  ipv4Dst : Option String := none
deriving DecidableEq

/-- The keyword arguments of `_make_acl_rule`. -/
structure Keywords where
  inVlan : Option Nat := none
  port : Option Nat := none
  ports : Option (List Nat) := none
  outVid : Option Nat := none
  swapVid : Option Nat := none
  allow : Option Bool := none
  mirror : Option Nat := none
  dlType : Option Nat := none
  dlSrc : Option Mac := none
  dlDst : Option Mac := none
  nwProto : Option Nat := none
  udpSrc : Option Nat := none
  udpDst : Option Nat := none
  vlanVid : Option VlanVid := none
  ipv4Dst : Option String := none
  ethType : Option Nat := none

def Keywords.output (kwargs : Keywords) : Output where
  port := kwargs.port
  ports := kwargs.ports
  vlanVid := kwargs.outVid
  swapVid := kwargs.swapVid
  popVlans := kwargs.inVlan.isSome

/-- The rule, with a VLAN to pop or one to match but not both. -/
def Keywords.rule (kwargs : Keywords) : Rule where
  actions := {
    output := if kwargs.output = {} then none else some kwargs.output
    allow := kwargs.allow
    mirror := kwargs.mirror }
  dlType := kwargs.dlType
  dlSrc := kwargs.dlSrc
  dlDst := kwargs.dlDst
  nwProto := kwargs.nwProto
  udpSrc := kwargs.udpSrc
  udpDst := kwargs.udpDst
  vlanVid := kwargs.vlanVid.or (kwargs.inVlan.map .vid)
  ipv4Dst := kwargs.ipv4Dst
  ethType := kwargs.ethType

def makeAclRule (kwargs : Keywords) : Except Exc Rule :=
  if kwargs.inVlan.isSome ∧ kwargs.vlanVid.isSome then
    .error (.assertionError "duplicate acl rule keyword vlan_vid")
  else .ok kwargs.rule

def addAclRule (acl : List Rule) (kwargs : Keywords) : Except Exc (List Rule) := do
  let rule ← makeAclRule kwargs
  pure (acl ++ [rule])

/-- All the ports a rule outputs to. -/
def Rule.outputs (rule : Rule) : List Nat :=
  match rule.actions.output with
  | none => []
  | some output => output.port.toList ++ output.ports.getD []

/-- A frame as a switch receives it. -/
structure Frame where
  dlSrc : Mac
  dlDst : Mac
  ethType : Nat
  vlan : Option Nat := none
  nwProto : Option Nat := none
  nwSrc : Option String := none
  nwDst : Option String := none
  udpSrc : Option Nat := none
  udpDst : Option Nat := none
  tcpSrc : Option Nat := none
  tcpDst : Option Nat := none

def VlanVid.matches (wanted : VlanVid) (vlan : Option Nat) : Bool :=
  match wanted with
  | .noVlan => vlan.isNone
  | .vid number => vlan = some number

/-- A field that the rule does not give fits every frame. -/
def fits {α : Type} [DecidableEq α] (wanted actual : Option α) : Bool :=
  wanted = none || wanted = actual

def Rule.matches (rule : Rule) (frame : Frame) : Bool :=
  fits rule.dlType (some frame.ethType) && fits rule.ethType (some frame.ethType) &&
    fits rule.dlSrc (some frame.dlSrc) && fits rule.dlDst (some frame.dlDst) &&
    fits rule.nwProto frame.nwProto && fits rule.nwSrc frame.nwSrc &&
    fits rule.nwDst frame.nwDst && fits rule.udpSrc frame.udpSrc &&
    fits rule.udpDst frame.udpDst && fits rule.tcpSrc frame.tcpSrc &&
    fits rule.tcpDst frame.tcpDst && rule.vlanVid.all (·.matches frame.vlan) &&
    fits rule.ipv4Dst frame.nwDst

/-- The rule that a list has for a frame. -/
def firstMatch (acl : List Rule) (frame : Frame) : Option Rule := acl.find? (·.matches frame)

theorem addAclRule_ok {kwargs : Keywords} (plain : kwargs.inVlan = none) (acl : List Rule) :
    addAclRule acl kwargs = .ok (acl ++ [kwargs.rule]) := by
  unfold addAclRule makeAclRule
  rw [plain]
  rfl

theorem Keywords.rule_outputs (kwargs : Keywords) :
    kwargs.rule.outputs = kwargs.port.toList ++ kwargs.ports.getD [] := by
  unfold Rule.outputs Keywords.rule
  by_cases empty : kwargs.output = {}
  · have port : kwargs.port = none := congrArg Output.port empty
    have ports : kwargs.ports = none := congrArg Output.ports empty
    simp [empty, port, ports]
  · simp only [empty, ↓reduceIte]
    rfl

theorem Keywords.rule_output {kwargs : Keywords} {port : Nat} (single : kwargs.port = some port) :
    kwargs.rule.actions.output = some kwargs.output := by
  refine if_neg fun empty => ?_
  cases single.symm.trans (congrArg Output.port empty)

@[simp] theorem fits_none {α : Type} [DecidableEq α] (actual : Option α) :
    fits none actual = true := by
  simp [fits]

@[simp] theorem fits_some {α : Type} [DecidableEq α] (wanted : α) (actual : Option α) :
    fits (some wanted) actual = decide (actual = some wanted) := by
  simp [fits, eq_comm]

@[simp] theorem vid_matches_iff (wanted vlan : Option Nat) :
    (wanted.map VlanVid.vid).all (·.matches vlan) = true ↔
      ∀ number, wanted = some number → vlan = some number := by
  cases wanted with
  | none => simp
  | some number => simp [VlanVid.matches]

end Daq.Acl
