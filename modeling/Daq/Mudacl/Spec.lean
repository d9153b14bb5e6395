import Daq.Lib.Dict

namespace Daq.Mudacl

/-! MUD files, the rules that are made of them, and the maps of devices. What may be null is
optional. -/

/-- An exception: its message, and what has caused it or the errors that it collects. -/
inductive Raised where
  | nullPointer
  | plain (message : String)
  | caused (message : String) (cause : Raised)
  | tree (description : String) (errors : List (String × Raised))

structure PortSpec where
  operator : Option String
  port : Option Int
deriving DecidableEq

/-- The `tcp` or the `udp` section of an ACE. -/
structure TpSpec where
  directionInitiated : Option String
  sourcePort : Option PortSpec
  destinationPort : Option PortSpec
deriving DecidableEq

/-- The `ipv4` or the `ipv6` section of an ACE. -/
structure NwSpec where
  dnsSrc : Option String
  dnsDst : Option String
  protocol : Option Int
deriving DecidableEq

structure MudMatch where
  controller : Option String
deriving DecidableEq

structure Matches where
  mud : Option MudMatch
  ipv4 : Option NwSpec
  ipv6 : Option NwSpec
  tcp : Option TpSpec
  udp : Option TpSpec
deriving DecidableEq

structure Actions where
  forwarding : Option String
deriving DecidableEq

structure AclAce where
  name : String
  aclMatches : Option Matches
  actions : Option Actions
deriving DecidableEq

structure AclSpec where
  name : Option String
  type : Option String
  aces : Option (List AclAce)

structure PolicySpec where
  name : Option String

structure DevicePolicy where
  accessList : Option (List PolicySpec)

structure MudDescriptor where
  fromDevicePolicy : Option DevicePolicy
  toDevicePolicy : Option DevicePolicy

structure MudSpec where
  mudDescriptor : Option MudDescriptor
  accessLists : Option (List AclSpec)

/-- A rule of a switch; what it does not give matches anything. -/
structure Rule where
  description : String
  allow : Int
  dlType : Option String := none
  dlSrc : Option String := none
  dlDst : Option String := none
  nwProto : Option Int := none
  nwSrc : Option String := none
  nwDst : Option String := none
  tcpSrc : Option Int := none
  tcpDst : Option Int := none
  udpSrc : Option Int := none
  udpDst : Option Int := none
deriving DecidableEq

abbrev Acl := List Rule

/-- `Rule.equals`, which leaves out the description and the action. -/
def Rule.equals (rule other : Rule) : Bool :=
  rule.dlType = other.dlType ∧ rule.dlSrc = other.dlSrc ∧ rule.dlDst = other.dlDst ∧
    rule.nwProto = other.nwProto ∧ rule.nwSrc = other.nwSrc ∧ rule.nwDst = other.nwDst ∧
    rule.tcpSrc = other.tcpSrc ∧ rule.tcpDst = other.tcpDst ∧ rule.udpSrc = other.udpSrc ∧
    rule.udpDst = other.udpDst

/-- `acl.remove`: the first rule that is equal goes. -/
def Acl.remove (acl : Acl) (rule : Rule) : Acl := acl.eraseP rule.equals

structure Controlee where
  hostnames : Option (List String)

structure Controller where
  controlees : Option (Dict String Controlee)

structure DeviceSpec where
  type : String
  hostname : Option String := none
  ipAddr : Option String := none
  controllers : Option (Dict String Controller) := none
  isTemplate : Bool := false

/-- `DeviceMaps.templateSpec` -/
def templateSpec (type : String) : DeviceSpec where
  type := type
  isTemplate := true

namespace AclHelper

def dlTypeIPv4 : String := "0x0800"

def nwProtoTcp : Int := 6

def nwProtoUdp : Int := 17

def udpNtpPort : Int := 123

def udpDnsPort : Int := 53

def tcpDnsPort : Int := 53

def udpDhcpServerPort : Int := 67

def udpDhcpClientPort : Int := 68

def dlTypeArp : String := "0x0806"

def ipProtoIcmp : Int := 1

def dlBroadcast : String := "ff:ff:ff:ff:ff:ff"

def dhcpBcast : Rule where
  description := "DHCP Broadcast"
  allow := 1
  dlType := some dlTypeIPv4
  nwProto := some nwProtoUdp
  dlDst := some dlBroadcast
  udpSrc := some udpDhcpClientPort
  udpDst := some udpDhcpServerPort

def arpAllow : Rule where
  description := "ARP Allow"
  allow := 1
  dlType := some dlTypeArp

def icmpAllow : Rule where
  description := "ICMP Allow"
  allow := 1
  dlType := some dlTypeIPv4
  nwProto := some ipProtoIcmp

def dhcpAllow : Rule where
  description := "DHCP Allow"
  allow := 1
  dlType := some dlTypeIPv4
  nwProto := some nwProtoUdp
  udpSrc := some udpDhcpClientPort
  udpDst := some udpDhcpServerPort

def dnsAllow : Rule where
  description := "DNS Allow"
  allow := 1
  dlType := some dlTypeIPv4
  nwProto := some nwProtoUdp
  udpDst := some udpDnsPort

def baselineRules : Acl := [icmpAllow, arpAllow, dhcpAllow, dnsAllow, dhcpBcast]

def rawRules : Acl := [dhcpBcast]

def addBaselineRules (acl : Acl) : Acl := acl ++ baselineRules

def addRawRules (acl : Acl) : Acl := acl ++ rawRules

end AclHelper

end Daq.Mudacl
