import Daq.Dot1x.Message
import Daq.Lib.Dict

namespace Daq.Dot1x

/-! Packets between the authenticator and the RADIUS server. -/

/-- The hash functions of the standard library, left uninterpreted. -/
structure Hashes where
  md5 : Bytes → Bytes
  hmacMd5 : (key message : Bytes) → Bytes
  length_md5 : ∀ message, (md5 message).length = 16
  length_hmacMd5 : ∀ key message, (hmacMd5 key message).length = 16

namespace DataType

def minDataLength : DataType → Nat
  | .integer | .enum => 4
  | .text | .string | .concat => 1
  | .vsa => 5

def maxDataLength : DataType → Nat
  | .integer | .enum => 4
  | .text | .string | .concat | .vsa => 253

def isValidLength (dataType : DataType) (packedValue : Bytes) : Except Raised Unit :=
  if packedValue.length < dataType.minDataLength ∨ dataType.maxDataLength < packedValue.length
  then .error .valueError
  else .ok ()

/-- The lengths of concatenated attributes are not checked. -/
def parse (dataType : DataType) (packedValue : Bytes) : Except Raised Bytes :=
  match dataType with
  | .concat => .ok packedValue
  | _ => reportedAs [.valueError, .structError] (.unpackable dataType) (do
      dataType.isValidLength packedValue
      return packedValue)

end DataType

/-- The registered attributes. -/
inductive AttributeType where
  | userName | userPassword | nasIpAddress | nasPort | serviceType | filterId | framedMtu
  | replyMessage | state | vendorSpecific | sessionTimeout | calledStationId
  | callingStationId | nasIdentifier | acctSessionId | nasPortType | tunnelType
  | tunnelMediumType | connectInfo | eapMessage | messageAuthenticator
  | tunnelPrivateGroupId | nasFilterRule
  deriving DecidableEq, Repr

namespace AttributeType

def all : List AttributeType :=
  [.userName, .userPassword, .nasIpAddress, .nasPort, .serviceType, .filterId, .framedMtu,
    .replyMessage, .state, .vendorSpecific, .sessionTimeout, .calledStationId,
    .callingStationId, .nasIdentifier, .acctSessionId, .nasPortType, .tunnelType,
    .tunnelMediumType, .connectInfo, .eapMessage, .messageAuthenticator,
    .tunnelPrivateGroupId, .nasFilterRule]

def type : AttributeType → UInt8
  | .userName => 1
  | .userPassword => 2
  | .nasIpAddress => 4
  | .nasPort => 5
  | .serviceType => 6
  | .filterId => 11
  | .framedMtu => 12
  | .replyMessage => 18
  | .state => 24
  | .vendorSpecific => 26
  | .sessionTimeout => 27
  | .calledStationId => 30
  | .callingStationId => 31
  | .nasIdentifier => 32
  | .acctSessionId => 44
  | .nasPortType => 61
  | .tunnelType => 64
  | .tunnelMediumType => 65
  | .connectInfo => 77
  | .eapMessage => 79
  | .messageAuthenticator => 80
  | .tunnelPrivateGroupId => 81
  | .nasFilterRule => 92

def dataType : AttributeType → DataType
  | .userName | .filterId | .replyMessage | .calledStationId | .callingStationId
  | .nasIdentifier | .acctSessionId | .connectInfo => .text
  | .userPassword | .nasIpAddress | .state | .messageAuthenticator
  | .tunnelPrivateGroupId | .nasFilterRule => .string
  | .nasPort | .framedMtu | .sessionTimeout => .integer
  | .serviceType | .nasPortType | .tunnelType | .tunnelMediumType => .enum
  | .vendorSpecific => .vsa
  | .eapMessage => .concat

def description : AttributeType → String
  | .userName => "User-Name"
  | .userPassword => "User-Password"
  | .nasIpAddress => "NAS-IP-Address"
  | .nasPort => "NAS-Port"
  | .serviceType => "Service-Type"
  | .filterId => "Filter-Id"
  | .framedMtu => "Framed-MTU"
  | .replyMessage => "Reply-Message"
  | .state => "State"
  | .vendorSpecific => "Vendor-Specific"
  | .sessionTimeout => "Session-Timeout"
  | .calledStationId => "Called-Station-Id"
  | .callingStationId => "Calling-Station-Id"
  | .nasIdentifier => "NAS-Identifier"
  | .acctSessionId => "Acct-Session-Id"
  | .nasPortType => "NAS-Port-Type"
  | .tunnelType => "Tunnel-Type"
  | .tunnelMediumType => "Tunnel-Medium-Type"
  | .connectInfo => "Connect-Info"
  | .eapMessage => "EAP-Message"
  | .messageAuthenticator => "Message-Authenticator"
  | .tunnelPrivateGroupId => "Tunnel-Private-Group-ID"
  | .nasFilterRule => "NAS-Filter-Rule"

/-- `ATTRIBUTE_TYPES[type_]`. -/
def lookup (type : UInt8) : Except Raised AttributeType :=
  match all.find? (fun registered => registered.type == type) with
  | some registered => .ok registered
  | none => .error .keyError

end AttributeType

/-- An attribute with the bytes of its value. -/
structure Attribute where
  type : AttributeType
  bytesData : Bytes
  deriving DecidableEq, Repr

namespace Attribute

def parse (type : AttributeType) (packedValue : Bytes) : Except Raised Attribute := do
  let bytesData ← type.dataType.parse packedValue
  return { type, bytesData }

/-- `create` for the text and string types. -/
def createString (type : AttributeType) (rawData : Bytes) : Except Raised Attribute := do
  type.dataType.isValidLength rawData
  return { type, bytesData := rawData }

/-- `create` for the number types, from a number other than zero. -/
def createNumber (type : AttributeType) (rawData : Nat) : Except Raised Attribute :=
  if rawData < 256 ^ 4 then .ok { type, bytesData := Bytes.ofNat 4 rawData }
  else .error .valueError

/-- `EAPMessage.create` of a message. -/
def createEapMessage (message : EapMessage) : Except Raised Attribute := do
  let (_, _, data) ← MessagePacker.eapPack message
  return { type := .eapMessage, bytesData := data }

/-- How many pieces a concatenated value is packed into. -/
def pieces (attr : Attribute) : Nat := (attr.bytesData.length + 252) / 253

def dataLength (attr : Attribute) : Nat :=
  match attr.type.dataType with
  | .integer | .enum => 4
  | _ => attr.bytesData.length

def fullLength (attr : Attribute) : Nat :=
  match attr.type.dataType with
  | .concat => 2 * (attr.pieces + 1) + attr.bytesData.length - 2
  | _ => attr.dataLength + 2

/-- `Concat.pack`: pieces of at most 253 bytes, each with a header of its own. -/
def packPieces (type : AttributeType) : Nat → Bytes → Bytes
  | 0, _ => []
  | remaining + 1, data =>
      [type.type, UInt8.ofNat ((data.take 253).length + 2)] ++ data.take 253 ++
        packPieces type remaining (data.drop 253)

def packValue (attr : Attribute) : Except Raised Bytes :=
  match attr.type.dataType with
  | .integer | .enum => packChars 4 [attr.bytesData]
  | _ => .ok attr.bytesData

def pack (attr : Attribute) : Except Raised Bytes :=
  match attr.type.dataType with
  | .concat => .ok (packPieces attr.type attr.pieces attr.bytesData)
  | _ => do
      let length ← packUnsigned 1 attr.fullLength
      let value ← attr.packValue
      return [attr.type.type] ++ length ++ value

end Attribute

namespace RadiusAttributesList

/-- The variables of the loop that extracts attributes. -/
structure Extraction where
  attributes : List Attribute
  attributesToConcat : Dict AttributeType (List (Attribute × Int))
  index : Int
  lastAttribute : Option AttributeType

def Extraction.start : Extraction where
  attributes := []
  attributesToConcat := Dict.empty
  index := -1
  lastAttribute := none

/-- The end of an iteration: where the attribute goes. -/
def Extraction.add (extraction : Extraction) (attr : Attribute) : Extraction :=
  let index :=
    if attr.type.dataType ≠ .concat ∨ extraction.lastAttribute ≠ some attr.type
    then extraction.index + 1
    else extraction.index
  { attributes := extraction.attributes ++ [attr]
    attributesToConcat :=
      if attr.type.dataType = .concat then
        extraction.attributesToConcat.insert attr.type
          ((extraction.attributesToConcat.get? attr.type).getD [] ++ [(attr, index)])
      else extraction.attributesToConcat
    index
    lastAttribute := some attr.type }

/-- One iteration: the attribute at the front of the data and the data behind it. -/
def extractAttribute (attributesData : Bytes) : Except Raised (Attribute × Bytes) := do
  let (type, attrLength) ←
    reportedAs [.structError] .attributeHeader (unpackBB (attributesData.take 2))
  let data := attributesData.slice 2 attrLength.toNat
  let packedValue := data.take (attrLength.toNat - 2)
  let attr ← reportedAs [.keyError] (.unknownAttribute type) (do
    let registered ← AttributeType.lookup type
    Attribute.parse registered packedValue)
  return (attr, attributesData.drop attrLength.toNat)

/-- The loop over the data that is left.  An attribute of length zero leaves the
data as it was, so the number of iterations is bounded by the caller. -/
def extractAttributes : Nat → Bytes → Extraction → Except Raised Extraction
  | _, [], extraction => .ok extraction
  | 0, _ :: _, _ => .error .unending
  | fuel + 1, byte :: rest, extraction => do
      let (attr, remaining) ← extractAttribute (byte :: rest)
      extractAttributes fuel remaining (extraction.add attr)

def insertAt (attributes : List Attribute) (index : Int) (attr : Attribute) :
    List Attribute :=
  attributes.take index.toNat ++ attr :: attributes.drop index.toNat

/-- Join the pieces of one concatenated attribute; it goes where the last was. -/
def joinPieces (type : AttributeType) (list : List (Attribute × Int)) :
    Except Raised (Attribute × Int) := do
  let attr ← Attribute.parse type (list.flatMap fun piece => piece.1.bytesData)
  return (attr, (list.getLast?.map Prod.snd).getD 0)

def mergeConcatAttributes (attributes : List Attribute)
    (attributesToConcat : Dict AttributeType (List (Attribute × Int))) :
    Except Raised (List Attribute) := do
  let concatenated ←
    attributesToConcat.entries.mapM fun entry => joinPieces entry.1 entry.2
  let kept := concatenated.foldl
    (fun attributes joined => attributes.filter fun attr => attr.type ≠ joined.1.type)
    attributes
  return concatenated.foldl
    (fun attributes joined => insertAt attributes joined.2 joined.1) kept

def parse (attributesData : Bytes) : Except Raised (List Attribute) := do
  let extraction ←
    extractAttributes attributesData.length attributesData Extraction.start
  mergeConcatAttributes extraction.attributes extraction.attributesToConcat

def find (attributes : List Attribute) (item : String) : Option Attribute :=
  attributes.find? fun attr => item == attr.type.description

def indexof : List Attribute → String → Except Raised Nat
  | [], _ => .error .valueError
  | attr :: rest, item =>
      if item = attr.type.description then .ok 0
      else do
        let index ← indexof rest item
        return attr.fullLength + index

def length (attributes : List Attribute) : Nat :=
  (attributes.map Attribute.fullLength).sum

def pack (attributes : List Attribute) : Except Raised Bytes := do
  let packed ← attributes.mapM Attribute.pack
  return packed.flatten

end RadiusAttributesList

/-- The registered packet classes. -/
inductive PacketType where
  | accessRequest | accessAccept | accessReject | accessChallenge
  deriving DecidableEq, Repr

namespace PacketType

def all : List PacketType := [.accessRequest, .accessAccept, .accessReject, .accessChallenge]

def code : PacketType → UInt8
  | .accessRequest => 1
  | .accessAccept => 2
  | .accessReject => 3
  | .accessChallenge => 11

end PacketType

structure RadiusPacket where
  packetType : PacketType
  packetId : UInt8
  authenticator : Bytes
  attributes : List Attribute
  deriving DecidableEq, Repr

namespace RadiusPacket

def pack (packet : RadiusPacket) : Except Raised Bytes := do
  let length ← packUnsigned 2 (20 + RadiusAttributesList.length packet.attributes)
  let authenticator ← packChars 16 [packet.authenticator]
  let packedAttributes ← RadiusAttributesList.pack packet.attributes
  return [packet.packetType.code, packet.packetId] ++ length ++ authenticator ++ packedAttributes

def build (hashes : Hashes) (packet : RadiusPacket) (secret : Bytes) :
    Except Raised Bytes := do
  let packed ← packet.pack
  match RadiusAttributesList.indexof packet.attributes
      (AttributeType.description .messageAuthenticator) with
  | .error _ => return packed
  | .ok index =>
      let position := index + 20 + 2
      if secret ≠ [] then
        return packed.take position ++ hashes.hmacMd5 secret packed ++ packed.drop (position + 16)
      else
        return packed

/-- Only the three kinds of response carry a response authenticator. -/
def validateResponseAuthenticator (hashes : Hashes) (packet : RadiusPacket)
    (requestAuthenticator secret : Bytes) : Except Raised Unit :=
  if requestAuthenticator ≠ [] ∧ packet.packetType ≠ .accessRequest then do
    let packed ← { packet with authenticator := requestAuthenticator }.pack
    if hashes.md5 (packed ++ secret) ≠ packet.authenticator then
      throw .invalidResponseAuthenticator
  else .ok ()

/-- The attributes with the value of the first Message-Authenticator zeroed. -/
def zeroMessageAuthenticator : List Attribute → List Attribute
  | [] => []
  | attr :: rest =>
      if attr.type = .messageAuthenticator then
        { attr with bytesData := List.replicate 16 0 } :: rest
      else attr :: zeroMessageAuthenticator rest

def validateMessageAuthenticator (hashes : Hashes) (packet : RadiusPacket)
    (secret requestAuthenticator : Bytes) : Except Raised Unit :=
  match RadiusAttributesList.find packet.attributes
      (AttributeType.description .messageAuthenticator) with
  | none => .ok ()
  | some messageAuthenticator => do
      let packed ← { packet with
        authenticator := requestAuthenticator
        attributes := zeroMessageAuthenticator packet.attributes }.pack
      if messageAuthenticator.bytesData ≠ hashes.hmacMd5 secret packed then
        throw .invalidMessageAuthenticator

def validatePacket (hashes : Hashes) (packet : RadiusPacket)
    (secret requestAuthenticator : Bytes) : Except Raised RadiusPacket := do
  if secret = [] then
    throw .valueError
  packet.validateResponseAuthenticator hashes requestAuthenticator secret
  packet.validateMessageAuthenticator hashes secret requestAuthenticator
  return packet

end RadiusPacket

namespace Radius

/-- `struct.unpack("!BBH16s", ...)`; the length field is read and not used. -/
def unpackHeader (packed : Bytes) : Except Raised (UInt8 × UInt8 × Bytes) :=
  match packed with
  | code :: packetId :: _ :: _ :: authenticator =>
      if authenticator.length = 16 then .ok (code, packetId, authenticator)
      else .error .structError
  | _ => .error .structError

/-- The authenticator of the request that a packet belongs to. -/
def requestAuthenticator (packet : RadiusPacket)
    (packetIdToRequestAuthenticator : Dict UInt8 Bytes) : Except Raised Bytes :=
  if packet.packetType = .accessRequest then .ok packet.authenticator
  else reportedAs [.keyError] (.unknownPacketId packet.packetId)
    (match packetIdToRequestAuthenticator.get? packet.packetId with
    | some authenticator => .ok authenticator
    | none => .error .keyError)

/-- The packet that stands in a datagram, before its hashes are checked. -/
def readPacket (packedMessage : Bytes) : Except Raised RadiusPacket := do
  let (code, packetId, authenticator) ←
    reportedAs [.structError] .radiusHeader (unpackHeader (packedMessage.take 20))
  match PacketType.all.find? (fun registered => registered.code == code) with
  | none => throw (.messageParse (.unknownCode code))
  | some packetType =>
      let attributes ← RadiusAttributesList.parse (packedMessage.drop 20)
      return { packetType, packetId, authenticator, attributes }

def parse (hashes : Hashes) (packedMessage secret : Bytes)
    (packetIdToRequestAuthenticator : Dict UInt8 Bytes) : Except Raised RadiusPacket := do
  let packet ← readPacket packedMessage
  let request ← requestAuthenticator packet packetIdToRequestAuthenticator
  reportedAs [.invalidMessageAuthenticator, .invalidResponseAuthenticator] .invalidPacket
    (packet.validatePacket hashes secret request)

end Radius

namespace Address

def hexDigit (value : Nat) : UInt8 := UInt8.ofNat (if value < 10 then 48 + value else 87 + value)

/-- `"%02x"` of every octet, joined with colons. -/
def text (address : Address) : Bytes :=
  List.intercalate [58] (address.1.map fun octet =>
    [hexDigit (octet.toNat / 16), hexDigit (octet.toNat % 16)])

end Address

namespace MessagePacker

/-- An attribute that is appended under a condition. -/
def createWhen (wanted : Prop) [Decidable wanted] (create : Except Raised Attribute) :
    Except Raised (List Attribute) :=
  if wanted then do
    let attr ← create
    return [attr]
  else .ok []

/-- An attribute created from `None` holds no bytes, and taking its length raises. -/
def radiusPack (hashes : Hashes) (eapMessage : EapMessage) (srcMac : Address)
    (username : Option Bytes) (radiusPacketId : UInt8) (requestAuthenticator : Bytes)
    (state : Option Bytes) (secret : Bytes) (nasPort : Nat)
    (extraAttributes : List Attribute) : Except Raised Bytes := do
  let userName ← username.mapM (Attribute.createString .userName)
  let callingStationId ← Attribute.createString .callingStationId (Address.text srcMac)
  let port ← createWhen (nasPort ≠ 0) (Attribute.createNumber .nasPort nasPort)
  let message ← Attribute.createEapMessage eapMessage
  let stateAttribute ←
    createWhen (state.getD [] ≠ []) (Attribute.createString .state (state.getD []))
  let messageAuthenticator ←
    Attribute.createString .messageAuthenticator (List.replicate 16 0)
  match userName with
  | none => throw .typeError
  | some name =>
      let attributes := [name, callingStationId] ++ port ++ extraAttributes ++ [message] ++
        stateAttribute ++ [messageAuthenticator]
      RadiusPacket.build hashes
        { packetType := .accessRequest, packetId := radiusPacketId,
          authenticator := requestAuthenticator, attributes } secret

end MessagePacker

end Daq.Dot1x
