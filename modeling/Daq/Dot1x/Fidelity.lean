import Daq.Dot1x.Provenance
import Daq.Dot1x.Signing

namespace Daq.Dot1x

open Exec Fallible

/-! What the server and the supplicants are sent says what was said to the
authenticator, to the byte. -/

/-- The values of all attributes of a type. -/
def RadiusPacket.values (packet : RadiusPacket) (type : AttributeType) : List Bytes :=
  (packet.attributes.filter fun attr => attr.type = type).map Attribute.bytesData

/-- A request that hands on the message which ends a part of a transcript. -/
structure HandsOn (spoken : List Delivery) (srcMac : Address) (message : EapMessage)
    (packet : RadiusPacket) : Prop where
  last : spoken.getLast? = some (.heard srcMac message)
  packetType : packet.packetType = .accessRequest
  userName : ∃ name, identityIn (about srcMac spoken) = some name ∧
    packet.values .userName = [name]
  callingStationId : packet.values .callingStationId = [Address.text srcMac]
  state : packet.values .state =
    ((stateIn (about srcMac spoken)).filter (· ≠ [])).toList
  eapMessage : ∃ version packetType data,
    MessagePacker.eapPack message = .ok (version, packetType, data) ∧
    packet.values .eapMessage = [data].filter (· ≠ [])

section Requests

theorem createString_encodable {type : AttributeType} {bytes : Bytes} {attr : Attribute}
    (kind : type.dataType = .text ∨ type.dataType = .string)
    (created : Attribute.createString type bytes = .ok attr) : Encodable bytes := by
  obtain ⟨_, valid, _⟩ := bind_eq_ok_iff.mp created
  unfold DataType.isValidLength at valid
  split at valid
  · cases valid
  · rename_i bounded
    rcases kind with text | string
    · rw [text] at bounded
      exact ⟨Nat.le_of_not_lt fun short => bounded (.inl short),
        Nat.le_of_not_lt fun long => bounded (.inr long)⟩
    · rw [string] at bounded
      exact ⟨Nat.le_of_not_lt fun short => bounded (.inl short),
        Nat.le_of_not_lt fun long => bounded (.inr long)⟩

/-- The attributes that every request carries besides those of its supplicant. -/
def extraAttributes (moduleId : Bytes) : List Attribute :=
  [⟨.calledStationId, moduleId⟩, ⟨.nasPortType, Bytes.ofNat 4 15⟩, ⟨.nasIdentifier, moduleId⟩]

theorem prepareExtra_eq_ok {setup : Setup} {extras : List Attribute}
    (prepared : RadiusModule.prepareExtraRadiusAttributes setup = .ok extras) :
    Encodable setup.moduleId ∧ extras = extraAttributes setup.moduleId := by
  obtain ⟨called, calledOk, later⟩ := bind_eq_ok_iff.mp prepared
  obtain ⟨port, portOk, later⟩ := bind_eq_ok_iff.mp later
  obtain ⟨identifier, identifierOk, same⟩ := bind_eq_ok_iff.mp later
  have named : Encodable setup.moduleId := createString_encodable (.inl rfl) calledOk
  rw [Inquiry.createString_eq named (.inl rfl)] at calledOk
  rw [Inquiry.createString_eq named (.inl rfl)] at identifierOk
  cases calledOk
  cases portOk
  cases identifierOk
  cases same
  exact ⟨named, rfl⟩

theorem extraAttributes_sized {moduleId : Bytes} (named : Encodable moduleId) :
    ∀ attr ∈ extraAttributes moduleId, attr.WellSized := by
  intro attr member
  simp only [extraAttributes, List.mem_cons, List.not_mem_nil, or_false] at member
  rcases member with rfl | rfl | rfl
  · exact Inquiry.sized_of_encodable named (.inl rfl)
  · intro _
    decide
  · exact Inquiry.sized_of_encodable named (.inl rfl)

theorem extraAttributes_plain (moduleId : Bytes) :
    ∀ attr ∈ extraAttributes moduleId,
      attr.type ≠ .eapMessage ∧ attr.type ≠ .messageAuthenticator := by
  simp [extraAttributes]

theorem createWhen_eq_ok {wanted : Prop} [Decidable wanted] {create : Except Raised Attribute}
    {attributes : List Attribute}
    (done : MessagePacker.createWhen wanted create = .ok attributes) (asked : wanted) :
    ∃ attr, create = .ok attr := by
  rw [MessagePacker.createWhen, if_pos asked] at done
  obtain ⟨attr, created, _⟩ := bind_eq_ok_iff.mp done
  exact ⟨attr, created⟩

/-- A request that could be packed had everything that its attributes need. -/
theorem radiusPack_inquiry {setup : Setup} {info : RadiusPacketInfo} {packetId : UInt8}
    {requestAuthenticator : Nonce} {extras : List Attribute} {datagram : Bytes}
    (prepared : RadiusModule.prepareExtraRadiusAttributes setup = .ok extras)
    (packed : MessagePacker.radiusPack setup.hashes info.payload info.srcMac info.identity packetId
      requestAuthenticator.1 info.state setup.radiusSecret info.portId extras = .ok datagram) :
    ∃ inquiry : Inquiry, inquiry.srcMac = info.srcMac ∧ inquiry.message = info.payload ∧
      info.identity = some inquiry.username ∧ inquiry.state = info.state.filter (· ≠ []) ∧
      inquiry.extras = extraAttributes setup.moduleId ∧
      inquiry.radiusPack setup.hashes setup.radiusSecret = .ok datagram := by
  obtain ⟨moduleNamed, rfl⟩ := prepareExtra_eq_ok prepared
  have whole := packed
  obtain ⟨userName, userOk, packed⟩ := bind_eq_ok_iff.mp packed
  obtain ⟨_, _, packed⟩ := bind_eq_ok_iff.mp packed
  obtain ⟨_, portOk, packed⟩ := bind_eq_ok_iff.mp packed
  obtain ⟨_, messageOk, packed⟩ := bind_eq_ok_iff.mp packed
  obtain ⟨_, stateOk, packed⟩ := bind_eq_ok_iff.mp packed
  obtain ⟨⟨version, packetType, data⟩, eapPacked, _⟩ := bind_eq_ok_iff.mp messageOk
  have port : info.portId < 256 ^ 4 := by
    by_cases zero : info.portId = 0
    · rw [zero]
      decide
    · obtain ⟨_, created⟩ := createWhen_eq_ok portOk zero
      rw [Attribute.createNumber] at created
      split at created
      · assumption
      · cases created
  have stateful : ∀ text, info.state.filter (· ≠ []) = some text → Encodable text := by
    intro text kept
    obtain ⟨given, filled⟩ := Option.filter_eq_some_iff.mp kept
    rw [given, Option.getD_some] at stateOk
    obtain ⟨_, created⟩ := createWhen_eq_ok stateOk (of_decide_eq_true filled)
    exact createString_encodable (.inr rfl) created
  cases named : info.identity with
  | none =>
      rw [named] at userOk
      cases userOk
      cases packed
  | some name =>
      rw [named, Option.mapM_some] at userOk
      obtain ⟨_, created, _⟩ := bind_eq_ok_iff.mp userOk
      let inquiry : Inquiry :=
        { srcMac := info.srcMac
          message := info.payload
          data
          packed := ⟨version, packetType, eapPacked⟩
          username := name
          named := createString_encodable (.inl rfl) created
          packetId
          authenticator := requestAuthenticator.1
          sixteen := requestAuthenticator.2
          state := info.state.filter (· ≠ [])
          stateful
          nasPort := info.portId
          port
          extras := extraAttributes setup.moduleId
          sized := extraAttributes_sized moduleNamed
          plain := extraAttributes_plain setup.moduleId }
      refine ⟨inquiry, rfl, rfl, rfl, rfl, rfl, ?_⟩
      have text : (info.state.filter (· ≠ [])).getD [] = info.state.getD [] := by
        cases info.state with
        | none => rfl
        | some given =>
            cases given with
            | nil => rfl
            | cons => rfl
      rw [named] at whole
      rw [Inquiry.radiusPack, MessagePacker.radiusPack, text]
      exact whole

variable {inquiry : Inquiry} {mac : Bytes}

theorem received_values (sixteen : mac.length = 16) {type : AttributeType}
    (other : type ≠ .messageAuthenticator) :
    (inquiry.received mac).values type =
      ((inquiry.leading.filter fun attr => attr.type = type).map Attribute.bytesData).filter
        (· ≠ []) := by
  have unsigned : [(⟨.messageAuthenticator, mac⟩ : Attribute)].filter
      (fun attr => attr.type = type) = [] := by
    simp [other.symm]
  rw [RadiusPacket.values, inquiry.received_attributes sixteen, List.filter_append, unsigned,
    List.append_nil, List.filter_map, List.filter_filter, List.filter_filter]
  congr 2
  funext attr
  exact Bool.and_comm _ _

/-- The attributes of a request but for the port and the signature. -/
def described (inquiry : Inquiry) (moduleId : Bytes) : List Attribute :=
  [⟨.userName, inquiry.username⟩, ⟨.callingStationId, Address.text inquiry.srcMac⟩] ++
    extraAttributes moduleId ++ [⟨.eapMessage, inquiry.data⟩] ++
    inquiry.state.toList.map (Attribute.mk .state)

theorem leading_filter {moduleId : Bytes} (extras : inquiry.extras = extraAttributes moduleId)
    {type : AttributeType} (other : type ≠ .nasPort) :
    inquiry.leading.filter (fun attr => attr.type = type) =
      (described inquiry moduleId).filter (fun attr => attr.type = type) := by
  have port : (if inquiry.nasPort ≠ 0 then
      [(⟨.nasPort, Bytes.ofNat 4 inquiry.nasPort⟩ : Attribute)] else []).filter
        (fun attr => attr.type = type) = [] := by
    split
    · simp [other.symm]
    · rfl
  simp only [described, Inquiry.leading, List.filter_append, port, extras, List.append_nil]

theorem received_handsOn {spoken : List Delivery} {moduleId : Bytes} (sixteen : mac.length = 16)
    (last : spoken.getLast? = some (.heard inquiry.srcMac inquiry.message))
    (named : identityIn (about inquiry.srcMac spoken) = some inquiry.username)
    (state : inquiry.state = (stateIn (about inquiry.srcMac spoken)).filter (· ≠ []))
    (extras : inquiry.extras = extraAttributes moduleId) :
    HandsOn spoken inquiry.srcMac inquiry.message (inquiry.received mac) := by
  have filled : ∀ {text : Bytes}, Encodable text → text ≠ [] :=
    fun encodable => List.length_pos_iff.mp encodable.1
  constructor
  · exact last
  · exact (inquiry.received_header sixteen).2
  · refine ⟨inquiry.username, named, ?_⟩
    rw [received_values sixteen (by simp), leading_filter extras (by simp)]
    cases given : inquiry.state with
    | none => simp [described, extraAttributes, given, filled inquiry.named]
    | some text => simp [described, extraAttributes, given, filled inquiry.named]
  · rw [received_values sixteen (by simp), leading_filter extras (by simp)]
    have spelled := filled (text_encodable inquiry.srcMac)
    cases given : inquiry.state with
    | none => simp [described, extraAttributes, given, spelled]
    | some text => simp [described, extraAttributes, given, spelled]
  · rw [received_values sixteen (by simp), leading_filter extras (by simp), ← state]
    cases given : inquiry.state with
    | none => simp [described, extraAttributes, given]
    | some text => simp [described, extraAttributes, given, filled (inquiry.stateful text given)]
  · obtain ⟨version, packetType, packed⟩ := inquiry.packed
    refine ⟨version, packetType, inquiry.data, packed, ?_⟩
    rw [received_values sixteen (by simp), leading_filter extras (by simp)]
    cases given : inquiry.state with
    | none => simp [described, extraAttributes, given]
    | some text => simp [described, extraAttributes, given]

end Requests

section Runs

variable {setup : Setup} {begun : Nat} {events : List Event}

/-- Every datagram that a run sends can be read with the shared secret.  It is the
request for a message that a machine heard, and names its supplicant, the first identity
that the supplicant gave and the State that the server gave last, as of that message. -/
theorem requests_relayed (keyed : setup.radiusSecret ≠ []) {datagram : Bytes}
    (sent : datagram ∈
      (Authenticator.runEvents setup events (.initial setup begun)).transmitted)
    (table : Dict UInt8 Bytes) :
    ∃ spoken srcMac message packet,
      spoken <+: (Authenticator.initial setup begun).transcript setup events ∧
        Radius.parse setup.hashes datagram setup.radiusSecret table = .ok packet ∧
        HandsOn spoken srcMac message packet := by
  have founded := run_founded (@initial_founded setup begun) events
  rw [List.nil_append] at founded
  obtain ⟨info, packetId, requestAuthenticator, extras, backed, prepared, packed⟩ :=
    founded.issued datagram sent
  obtain ⟨spoken, part, last, identity, state⟩ := backed.spoken
  obtain ⟨inquiry, mac, payload, named, stated, extra, built⟩ :=
    radiusPack_inquiry prepared packed
  have identified : identityIn (about info.srcMac spoken) = some inquiry.username := by
    rw [named, Option.getD_some] at identity
    cases found : identityIn (about info.srcMac spoken) with
    | none =>
        rw [found, Option.getD_none] at identity
        exact absurd identity (List.length_pos_iff.mp inquiry.named.1)
    | some name =>
        rw [found, Option.getD_some] at identity
        rw [identity]
  rw [inquiry.radiusPack_eq] at built
  by_cases short : 38 + RadiusAttributesList.length inquiry.leading < 65536
  · rw [Inquiry.build_eq short keyed] at built
    cases built
    refine ⟨spoken, inquiry.srcMac, inquiry.message, _, part,
      Inquiry.parse_request short keyed rfl table, ?_⟩
    rw [← mac] at last identified state
    rw [← payload] at last
    exact received_handsOn (setup.hashes.length_hmacMd5 _ _) last identified
      (stated.trans (congrArg _ state)) extra
  · rw [Inquiry.build_too_long short] at built
    cases built

/-- Every frame that a run queues for a supplicant asks for its identity, hands on a
message that the server sent for it, or tells it of a failure that is on record. -/
theorem frames_relayed {frame : Bytes}
    (queued : some frame ∈
      (Authenticator.runEvents setup events (.initial setup begun)).eapQueue) :
    Carried setup ((Authenticator.initial setup begun).transcript setup events)
      (Authenticator.runEvents setup events (.initial setup begun)).results frame := by
  have founded := run_founded (@initial_founded setup begun) events
  rw [List.nil_append] at founded
  exact founded.answered frame queued

end Runs

namespace Sample

/-- The supplicant of the sample conversation gives its name, and the server is asked. -/
theorem user_relayed :
    ∃ datagram spoken srcMac message packet,
      datagram ∈ (Authenticator.runEvents Sample.setup asked Sample.begun).transmitted ∧
        spoken <+: Sample.begun.transcript Sample.setup asked ∧
        Radius.parse hashes datagram [115] Dict.empty = .ok packet ∧
        HandsOn spoken srcMac message packet := by
  have asking : 0 < (Authenticator.runEvents Sample.setup asked Sample.begun).transmitted.length := by
    decide +kernel
  obtain ⟨datagram, sent⟩ := List.exists_mem_of_length_pos asking
  obtain ⟨spoken, srcMac, message, packet, known⟩ :=
    @requests_relayed Sample.setup 0 asked (List.cons_ne_nil 115 []) datagram sent Dict.empty
  exact ⟨datagram, spoken, srcMac, message, packet, sent, known⟩

def successFrame : Bytes :=
  supplicant.1 ++ setup.eapAddress.1 ++ [0x88, 0x8e, 1, 0, 0, 4, 3, 255, 0, 4]

theorem success_relayed :
    some successFrame ∈
        (Authenticator.runEvents Sample.setup acceptance Sample.begun).eapQueue ∧
      Carried Sample.setup (Sample.begun.transcript Sample.setup acceptance)
        (Authenticator.runEvents Sample.setup acceptance Sample.begun).results successFrame := by
  have queued : some successFrame ∈
      (Authenticator.runEvents Sample.setup acceptance Sample.begun).eapQueue := by
    decide +kernel
  exact ⟨queued, @frames_relayed Sample.setup 0 acceptance successFrame queued⟩

end Sample

end Daq.Dot1x
