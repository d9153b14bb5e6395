import Daq.Lib.Bytes

namespace Daq.Dot1x

/-- A hardware address.  Its text form is the key of every table of the
authenticator; the two determine each other. -/
abbrev Address := { octets : Bytes // octets.length = 6 }

/-- The data types of RADIUS attributes. -/
inductive DataType where
  | integer | enum | text | string | concat | vsa
  deriving DecidableEq, Repr

/-- What a `MessageParseError` reports. -/
inductive ParseError where
  | ethernetHeader
  | badEthertype (ethertype : Nat)
  | auth8021xHeader
  | badPacketType (packetType : UInt8)
  | eapHeader
  | eapPacketType
  | unsupportedPacketType (packetType : UInt8)
  | badCode (packedMessage : Bytes)
  | undecodableIdentity
  | md5FirstByte
  | tlsUnpack
  | legacyNakUnpack
  | radiusHeader
  | unknownPacketId (packetId : UInt8)
  | invalidPacket
  | unknownCode (code : UInt8)
  | attributeHeader
  | unknownAttribute (type : UInt8)
  | unpackable (dataType : DataType)
  deriving DecidableEq, Repr

/-- What a call raises.  `unending` stands for a call that never returns. -/
inductive Raised where
  | messageParse (error : ParseError)
  | structError
  | unicodeDecodeError
  | invalidResponseAuthenticator
  | invalidMessageAuthenticator
  | keyError
  | assertionError
  | typeError
  | valueError
  | attributeError
  | osError
  | runtimeError
  | unending
  deriving DecidableEq, Repr

/-- `try` with `except caught as exception: raise MessageParseError(...)`. -/
def reportedAs {α : Type} (caught : List Raised) (error : ParseError) :
    Except Raised α → Except Raised α
  | .ok value => .ok value
  | .error raised =>
      if raised ∈ caught then .error (.messageParse error) else .error raised

/-! `struct.unpack` and `struct.pack` for the formats in use. -/

def unpackB : Bytes → Except Raised UInt8
  | [byte] => .ok byte
  | _ => .error .structError

def unpackBB : Bytes → Except Raised (UInt8 × UInt8)
  | [first, second] => .ok (first, second)
  | _ => .error .structError

def unpackBBH : Bytes → Except Raised (UInt8 × UInt8 × Nat)
  | [first, second, high, low] => .ok (first, second, Bytes.toNat [high, low])
  | _ => .error .structError

/-- `struct.unpack("!B%ds" % ...)` of the whole string, or `"!B"` of a single byte. -/
def unpackBs : Bytes → Except Raised (UInt8 × Bytes)
  | byte :: rest => .ok (byte, rest)
  | [] => .error .structError

/-- `struct.unpack("!%ds" % width, packed)`, a tuple of one string. -/
def unpackChars (width : Nat) (packed : Bytes) : Except Raised (List Bytes) :=
  if packed.length = width then .ok [packed] else .error .structError

def unpack6s6sH (packed : Bytes) : Except Raised (Address × Address × Nat) :=
  if exact : packed.length = 14 then
    .ok (⟨packed.take 6, by simp; omega⟩, ⟨(packed.drop 6).take 6, by simp; omega⟩,
      Bytes.toNat (packed.drop 12))
  else .error .structError

/-- `struct.pack` of one unsigned number of `width` bytes. -/
def packUnsigned (width value : Nat) : Except Raised Bytes :=
  if value < 256 ^ width then .ok (Bytes.ofNat width value) else .error .structError

/-- `struct.pack("!%ds" % width, *values)`: one string, cut or padded with zeros. -/
def packChars (width : Nat) : List Bytes → Except Raised Bytes
  | [value] => .ok ((value ++ List.replicate width 0).take width)
  | _ => .error .structError

end Daq.Dot1x
