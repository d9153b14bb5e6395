import Daq.Dot1x.Data

namespace Daq.Dot1x

/-! Frames between the authenticator and the supplicant: Ethernet, EAPOL and EAP. -/

/-- The three packet types that share the TLS layout. -/
inductive TlsKind where
  | tls | ttls | peap
  deriving DecidableEq, Repr

/-- A parsed EAP packet.  The identity is kept as the UTF-8 encoding of its text. -/
inductive Eap where
  | identity (code packetId : UInt8) (identity : Bytes)
  | md5Challenge (code packetId : UInt8) (challenge extraData : Bytes)
  | success (packetId : UInt8)
  | failure (packetId : UInt8)
  | legacyNak (code packetId : UInt8) (desiredAuthTypes : List Bytes)
  | tls (kind : TlsKind) (code packetId flags : UInt8) (extraData : Bytes)
  deriving DecidableEq, Repr

def TlsKind.packetType : TlsKind → UInt8
  | .tls => 13
  | .ttls => 21
  | .peap => 25

namespace Eap

def REQUEST : UInt8 := 1
def RESPONSE : UInt8 := 2
def SUCCESS : UInt8 := 3
def FAILURE : UInt8 := 4
def IDENTITY : UInt8 := 1
def LEGACY_NAK : UInt8 := 3
def MD5_CHALLENGE : UInt8 := 4

def parseIdentity (code packetId : UInt8) (packedMessage : Bytes) : Except Raised Eap := do
  let text ← reportedAs [.unicodeDecodeError] .undecodableIdentity
    (if packedMessage.isUtf8 then .ok packedMessage else .error .unicodeDecodeError)
  return .identity code packetId text

def parseMd5Challenge (code packetId : UInt8) (packedMessage : Bytes) : Except Raised Eap := do
  let valueLength ← reportedAs [.structError] .md5FirstByte (unpackB (packedMessage.take 1))
  let challenge := packedMessage.slice 1 (1 + valueLength.toNat)
  let extraData := packedMessage.drop (1 + valueLength.toNat)
  return .md5Challenge code packetId challenge extraData

/-- The tuple that `struct.unpack` returns, here of one string, is stored as it is. -/
def parseLegacyNak (code packetId : UInt8) (packedMessage : Bytes) : Except Raised Eap := do
  let desiredAuthTypes ← reportedAs [.structError] .legacyNakUnpack
    (unpackChars packedMessage.length packedMessage)
  return .legacyNak code packetId desiredAuthTypes

def parseTls (kind : TlsKind) (code packetId : UInt8) (packedMessage : Bytes) :
    Except Raised Eap := do
  let (flags, extraData) ← reportedAs [.structError] .tlsUnpack (unpackBs packedMessage)
  return .tls kind code packetId flags extraData

/-- `PARSERS[packet_type]`. -/
def parsers (packetType : UInt8) :
    Except Raised (UInt8 → UInt8 → Bytes → Except Raised Eap) :=
  if packetType = IDENTITY then .ok parseIdentity
  else if packetType = MD5_CHALLENGE then .ok parseMd5Challenge
  else if packetType = LEGACY_NAK then .ok parseLegacyNak
  else if packetType = TlsKind.packetType .tls then .ok (parseTls .tls)
  else if packetType = TlsKind.packetType .ttls then .ok (parseTls .ttls)
  else if packetType = TlsKind.packetType .peap then .ok (parseTls .peap)
  else .error .keyError

def parse (packedMessage : Bytes) : Except Raised Eap := do
  let (code, packetId, length) ←
    reportedAs [.structError] .eapHeader (unpackBBH (packedMessage.take 4))
  if code = REQUEST ∨ code = RESPONSE then
    let packetType ←
      reportedAs [.structError] .eapPacketType (unpackB (packedMessage.slice 4 5))
    let data := packedMessage.slice 5 length
    reportedAs [.keyError] (.unsupportedPacketType packetType) (do
      let parser ← parsers packetType
      parser code packetId data)
  else if code = SUCCESS then
    return .success packetId
  else if code = FAILURE then
    return .failure packetId
  else
    throw (.messageParse (.badCode packedMessage))

/-- `Eap.pack`, shared by the packet types that carry a type byte. -/
def packTyped (code packetId packetType : UInt8) (packedBody : Bytes) :
    Except Raised Bytes := do
  let length ← packUnsigned 2 (4 + 1 + packedBody.length)
  return [code, packetId] ++ length ++ [packetType] ++ packedBody

/-- The header of a packet without a type byte. -/
def packUntyped (code packetId : UInt8) : Except Raised Bytes := do
  let length ← packUnsigned 2 4
  return [code, packetId] ++ length

def pack : Eap → Except Raised Bytes
  | .identity code packetId text => packTyped code packetId IDENTITY text
  | .md5Challenge code packetId challenge extraData => do
      let valueLength ← packUnsigned 1 challenge.length
      packTyped code packetId MD5_CHALLENGE (valueLength ++ challenge ++ extraData)
  | .success packetId => packUntyped SUCCESS packetId
  | .failure packetId => packUntyped FAILURE packetId
  -- The width is the length of the tuple, not of the string in it.
  | .legacyNak code packetId desiredAuthTypes => do
      let packed ← packChars desiredAuthTypes.length desiredAuthTypes
      packTyped code packetId LEGACY_NAK packed
  | .tls kind code packetId flags extraData =>
      packTyped code packetId (TlsKind.packetType kind) (flags :: extraData)

end Eap

/-- A message of the parser module.  The message classes for EAP repeat the
fields of their packet classes and add the source, absent when the packet came
from the RADIUS server. -/
inductive EapMessage where
  | eap (srcMac : Option Address) (packet : Eap)
  | eapolStart (srcMac : Option Address)
  | eapolLogoff (srcMac : Option Address)
  deriving DecidableEq, Repr

namespace MessageParser

def eapParse (data : Bytes) (srcMac : Option Address) : Except Raised EapMessage := do
  let eap ← Eap.parse data
  return .eap srcMac eap

/-- `Auth8021x.parse`, giving the packet type and the data. -/
def auth8021xParse (packedMessage : Bytes) : Except Raised (UInt8 × Bytes) := do
  let (_, packetType, length) ←
    reportedAs [.structError] .auth8021xHeader (unpackBBH (packedMessage.take 4))
  return (packetType, packedMessage.slice 4 (4 + length))

def oneXParse (data : Bytes) (srcMac : Address) : Except Raised EapMessage := do
  let (packetType, payload) ← auth8021xParse data
  if packetType = 0 then
    eapParse payload (some srcMac)
  else if packetType = 1 then
    return .eapolStart (some srcMac)
  else if packetType = 2 then
    return .eapolLogoff (some srcMac)
  else
    throw (.messageParse (.badPacketType packetType))

/-- An Ethernet frame as `EthernetPacket.parse` splits it. -/
structure EthernetPacket where
  dstMac : Address
  srcMac : Address
  ethertype : Nat
  data : Bytes

def ethernetPacketParse (packedMessage : Bytes) : Except Raised EthernetPacket := do
  let (dstMac, srcMac, ethertype) ←
    reportedAs [.structError] .ethernetHeader (unpack6s6sH (packedMessage.take 14))
  return { dstMac, srcMac, ethertype, data := packedMessage.drop 14 }

def ethernetParse (packedMessage : Bytes) : Except Raised (EapMessage × Address) := do
  let packet ← ethernetPacketParse packedMessage
  if packet.ethertype ≠ 0x888e then
    throw (.messageParse (.badEthertype packet.ethertype))
  let message ← oneXParse packet.data packet.srcMac
  return (message, packet.dstMac)

end MessageParser

namespace MessagePacker

/-- The version, the packet type and the packed EAP packet of a message. -/
def eapPack : EapMessage → Except Raised (UInt8 × UInt8 × Bytes)
  | .eap _ packet => do
      let data ← packet.pack
      return (1, 0, data)
  | .eapolStart _ => .ok (1, 1, [])
  | .eapolLogoff _ => .ok (1, 2, [])

/-- `MessagePacker.pack` with the `Auth8021x.pack` it ends in. -/
def pack (message : EapMessage) : Except Raised Bytes := do
  let (version, packetType, data) ← eapPack message
  let length ← packUnsigned 2 data.length
  return [version, packetType] ++ length ++ data

/-- The source is `None` as long as no EAPOL start has been received. -/
def ethernetPack (message : EapMessage) (srcMac : Option Address) (dstMac : Address) :
    Except Raised Bytes := do
  let data ← pack message
  match srcMac with
  | none => throw .attributeError
  | some source => return dstMac.1 ++ source.1 ++ Bytes.ofNat 2 0x888e ++ data

end MessagePacker

end Daq.Dot1x
