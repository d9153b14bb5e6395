import Daq.Dot1x.Parsing

namespace Daq.Dot1x

open Fallible

/-! Frames are parsed or reported as unparseable, and what was parsed can be
packed again. -/

/-- The only exception is `MessageParseError`. -/
def OnlyReports {α : Type} (call : Except Raised α) : Prop :=
  ∀ raised, call = .error raised → ∃ error, raised = .messageParse error

section

variable {α β : Type}

theorem onlyReports_ok (value : α) : OnlyReports (.ok value) := by
  intro raised failed
  cases failed

theorem onlyReports_pure (value : α) : OnlyReports (pure value) :=
  onlyReports_ok value

theorem onlyReports_report (error : ParseError) :
    OnlyReports (.error (.messageParse error) : Except Raised α) := by
  rintro raised ⟨⟩
  exact ⟨error, rfl⟩

theorem onlyReports_bind {first : Except Raised α} {next : α → Except Raised β}
    (head : OnlyReports first) (tail : ∀ value, first = .ok value → OnlyReports (next value)) :
    OnlyReports (first >>= next) := by
  intro raised failed
  rcases bind_eq_error_iff.mp failed with early | ⟨value, returned, late⟩
  · exact head raised early
  · exact tail value returned raised late

theorem onlyReports_reportedAs {caught : List Raised} {error : ParseError}
    {call : Except Raised α}
    (covered : ∀ raised, call = .error raised → raised ∈ caught ∨
      ∃ inner, raised = .messageParse inner) : OnlyReports (reportedAs caught error call) := by
  cases call with
  | ok value => exact onlyReports_ok value
  | error raised =>
      by_cases listed : raised ∈ caught
      · simp only [reportedAs, listed, if_true]
        exact onlyReports_report error
      · obtain ⟨inner, rfl⟩ := (covered raised rfl).resolve_left listed
        simp only [reportedAs, listed, if_false]
        exact onlyReports_report inner

end

theorem unpackB_error {packed : Bytes} {raised : Raised}
    (failed : unpackB packed = .error raised) : raised = .structError := by
  unfold unpackB at failed
  split at failed <;> cases failed
  rfl

theorem unpackBB_error {packed : Bytes} {raised : Raised}
    (failed : unpackBB packed = .error raised) : raised = .structError := by
  unfold unpackBB at failed
  split at failed <;> cases failed
  rfl

theorem unpackBBH_error {packed : Bytes} {raised : Raised}
    (failed : unpackBBH packed = .error raised) : raised = .structError := by
  unfold unpackBBH at failed
  split at failed <;> cases failed
  rfl

theorem onlyReports_unpack {α : Type} {error : ParseError} {call : Except Raised α}
    (raises : ∀ raised, call = .error raised → raised = .structError) :
    OnlyReports (reportedAs [.structError] error call) :=
  onlyReports_reportedAs fun raised failed => .inl (by simp [raises raised failed])

namespace Eap

theorem parseIdentity_onlyReports (code packetId : UInt8) (packed : Bytes) :
    OnlyReports (parseIdentity code packetId packed) := by
  refine onlyReports_bind (onlyReports_reportedAs fun raised failed => ?_)
    fun _ _ => onlyReports_pure _
  split at failed <;> cases failed
  exact .inl (by simp)

theorem parseMd5Challenge_onlyReports (code packetId : UInt8) (packed : Bytes) :
    OnlyReports (parseMd5Challenge code packetId packed) :=
  onlyReports_bind (onlyReports_unpack fun _ failed => unpackB_error failed)
    fun _ _ => onlyReports_pure _

theorem parseLegacyNak_onlyReports (code packetId : UInt8) (packed : Bytes) :
    OnlyReports (parseLegacyNak code packetId packed) := by
  refine onlyReports_bind (onlyReports_unpack fun raised failed => ?_)
    fun _ _ => onlyReports_pure _
  simp [unpackChars] at failed

theorem parseTls_onlyReports (kind : TlsKind) (code packetId : UInt8) (packed : Bytes) :
    OnlyReports (parseTls kind code packetId packed) := by
  refine onlyReports_bind (onlyReports_unpack fun raised failed => ?_)
    fun _ _ => onlyReports_pure _
  cases packed with
  | nil =>
      cases failed
      rfl
  | cons flags extra => cases failed

theorem parsers_eq_ok {packetType : UInt8} {parser : UInt8 → UInt8 → Bytes → Except Raised Eap}
    (found : parsers packetType = .ok parser) :
    parser = parseIdentity ∨ parser = parseMd5Challenge ∨ parser = parseLegacyNak ∨
      ∃ kind, parser = parseTls kind := by
  unfold parsers at found
  split_ifs at found <;> cases found
  · exact .inl rfl
  · exact .inr (.inl rfl)
  · exact .inr (.inr (.inl rfl))
  · exact .inr (.inr (.inr ⟨.tls, rfl⟩))
  · exact .inr (.inr (.inr ⟨.ttls, rfl⟩))
  · exact .inr (.inr (.inr ⟨.peap, rfl⟩))

theorem parsers_error {packetType : UInt8} {raised : Raised}
    (failed : parsers packetType = .error raised) : raised = .keyError := by
  unfold parsers at failed
  split_ifs at failed
  cases failed
  rfl

theorem parser_onlyReports {packetType : UInt8}
    {parser : UInt8 → UInt8 → Bytes → Except Raised Eap}
    (found : parsers packetType = .ok parser) (code packetId : UInt8) (data : Bytes) :
    OnlyReports (parser code packetId data) := by
  rcases parsers_eq_ok found with rfl | rfl | rfl | ⟨kind, rfl⟩
  · exact parseIdentity_onlyReports code packetId data
  · exact parseMd5Challenge_onlyReports code packetId data
  · exact parseLegacyNak_onlyReports code packetId data
  · exact parseTls_onlyReports kind code packetId data

theorem parse_onlyReports (packed : Bytes) : OnlyReports (Eap.parse packed) := by
  unfold Eap.parse
  refine onlyReports_bind (onlyReports_unpack fun _ failed => unpackBBH_error failed) ?_
  rintro ⟨code, packetId, length⟩ _
  dsimp only
  split_ifs
  · refine onlyReports_bind (onlyReports_unpack fun _ failed => unpackB_error failed)
      fun packetType _ => onlyReports_reportedAs fun raised failed => ?_
    rcases bind_eq_error_iff.mp failed with unknown | ⟨parser, found, inner⟩
    · exact .inl (by simp [parsers_error unknown])
    · exact .inr (parser_onlyReports found code packetId _ raised inner)
  · exact onlyReports_pure _
  · exact onlyReports_pure _
  · exact onlyReports_report _

end Eap

namespace MessageParser

theorem eapParse_onlyReports (data : Bytes) (srcMac : Option Address) :
    OnlyReports (eapParse data srcMac) :=
  onlyReports_bind (Eap.parse_onlyReports data) fun _ _ => onlyReports_pure _

theorem oneXParse_onlyReports (data : Bytes) (srcMac : Address) :
    OnlyReports (oneXParse data srcMac) := by
  unfold oneXParse auth8021xParse
  refine onlyReports_bind (onlyReports_bind
    (onlyReports_unpack fun _ failed => unpackBBH_error failed) fun _ _ => onlyReports_pure _) ?_
  rintro ⟨packetType, payload⟩ _
  dsimp only
  split_ifs
  · exact eapParse_onlyReports payload _
  · exact onlyReports_pure _
  · exact onlyReports_pure _
  · exact onlyReports_report _

theorem ethernetParse_onlyReports (packed : Bytes) : OnlyReports (ethernetParse packed) := by
  unfold ethernetParse ethernetPacketParse
  refine onlyReports_bind (onlyReports_bind (onlyReports_unpack fun raised failed => ?_)
    fun _ _ => onlyReports_pure _) fun packet _ => ?_
  · unfold unpack6s6sH at failed
    split at failed <;> cases failed
    rfl
  · split_ifs
    · exact onlyReports_bind (onlyReports_report _) fun _ _ =>
        onlyReports_bind (oneXParse_onlyReports _ _) fun _ _ => onlyReports_pure _
    · exact onlyReports_bind (oneXParse_onlyReports _ _) fun _ _ => onlyReports_pure _

end MessageParser

/-! Packing. -/

theorem packUnsigned_eq_ok {width value : Nat} (fits : value < 256 ^ width) :
    packUnsigned width value = .ok (Bytes.ofNat width value) := by
  rw [packUnsigned, if_pos fits]

namespace Eap

theorem packTyped_eq_ok (code packetId packetType : UInt8) {body : Bytes}
    (short : body.length ≤ 4096) :
    ∃ data, packTyped code packetId packetType body = .ok data ∧
      data.length = 5 + body.length := by
  have fits : 4 + 1 + body.length < 256 ^ 2 := by omega
  refine ⟨_, by rw [packTyped, packUnsigned_eq_ok fits]; rfl, ?_⟩
  simp
  omega

theorem parser_packs {packetType : UInt8} {parser : UInt8 → UInt8 → Bytes → Except Raised Eap}
    (found : parsers packetType = .ok parser) {code packetId : UInt8} {body : Bytes} {eap : Eap}
    (short : body.length ≤ 4091) (parsed : parser code packetId body = .ok eap) :
    ∃ data, eap.pack = .ok data ∧ data.length ≤ 6 + body.length := by
  rcases parsers_eq_ok found with rfl | rfl | rfl | ⟨kind, rfl⟩
  · obtain ⟨text, decoded, ⟨⟩⟩ := bind_eq_ok_iff.mp parsed
    rw [reportedAs_eq_ok_iff] at decoded
    split at decoded
    · cases decoded
      obtain ⟨data, packed, length⟩ := packTyped_eq_ok code packetId IDENTITY
        (show body.length ≤ 4096 by omega)
      exact ⟨data, packed, by omega⟩
    · cases decoded
  · obtain ⟨valueLength, unpacked, ⟨⟩⟩ := bind_eq_ok_iff.mp parsed
    have nonempty : 1 ≤ body.length := by
      rw [reportedAs_eq_ok_iff] at unpacked
      cases body with
      | nil => cases unpacked
      | cons => simp
    have byte : (body.slice 1 (1 + valueLength.toNat)).length < 256 ^ 1 := by
      have width := Bytes.length_slice_le_width body 1 (1 + valueLength.toNat)
      have bound := valueLength.toNat_lt
      omega
    have total : (Bytes.ofNat 1 (body.slice 1 (1 + valueLength.toNat)).length ++
        body.slice 1 (1 + valueLength.toNat) ++ body.drop (1 + valueLength.toNat)).length ≤
          body.length := by
      simp only [List.length_append, Bytes.length_ofNat, Bytes.slice, List.length_drop,
        List.length_take]
      omega
    obtain ⟨data, packed, length⟩ := packTyped_eq_ok code packetId MD5_CHALLENGE
      (Nat.le_trans total (show body.length ≤ 4096 by omega))
    refine ⟨data, ?_, by omega⟩
    rw [Eap.pack, packUnsigned_eq_ok byte]
    exact packed
  · obtain ⟨types, unpacked, ⟨⟩⟩ := bind_eq_ok_iff.mp parsed
    rw [reportedAs_eq_ok_iff, unpackChars, if_pos rfl] at unpacked
    cases unpacked
    have one : ((body ++ List.replicate 1 (0 : UInt8)).take 1).length = 1 := by
      simp
    obtain ⟨data, packed, length⟩ := packTyped_eq_ok code packetId LEGACY_NAK
      (show ((body ++ List.replicate 1 (0 : UInt8)).take 1).length ≤ 4096 by omega)
    exact ⟨data, packed, by omega⟩
  · obtain ⟨⟨flags, extra⟩, unpacked, ⟨⟩⟩ := bind_eq_ok_iff.mp parsed
    rw [reportedAs_eq_ok_iff] at unpacked
    cases body with
    | nil => cases unpacked
    | cons first rest =>
        cases unpacked
        obtain ⟨data, packed, length⟩ := packTyped_eq_ok code packetId (TlsKind.packetType kind)
          (show (flags :: extra).length ≤ 4096 by omega)
        exact ⟨data, packed, by omega⟩

/-- What was parsed can be packed, and grows by at most one byte. -/
theorem parse_packs {packed : Bytes} {eap : Eap} (short : packed.length ≤ 4096)
    (parsed : Eap.parse packed = .ok eap) :
    ∃ data, eap.pack = .ok data ∧ data.length ≤ packed.length + 1 := by
  obtain ⟨⟨code, packetId, length⟩, header, rest⟩ := bind_eq_ok_iff.mp parsed
  rw [reportedAs_eq_ok_iff] at header
  have four : 4 ≤ packed.length := by
    unfold unpackBBH at header
    split at header
    · rename_i shape
      have counted := congrArg List.length shape
      simp only [List.length_take, List.length_cons, List.length_nil] at counted
      omega
    · cases header
  dsimp only at rest
  split_ifs at rest
  · obtain ⟨packetType, typed, inner⟩ := bind_eq_ok_iff.mp rest
    rw [reportedAs_eq_ok_iff] at typed inner
    obtain ⟨parser, found, returned⟩ := bind_eq_ok_iff.mp inner
    have five : 5 ≤ packed.length := by
      unfold unpackB at typed
      split at typed
      · rename_i shape
        have counted := congrArg List.length shape
        simp only [Bytes.slice, List.length_drop, List.length_take, List.length_cons,
          List.length_nil] at counted
        omega
      · cases typed
    have body := Bytes.length_slice_le packed 5 length
    obtain ⟨data, done, bound⟩ := parser_packs found (by omega) returned
    exact ⟨data, done, by omega⟩
  · cases rest
    exact ⟨_, rfl, by simpa [packUntyped] using Nat.le_succ_of_le four⟩
  · cases rest
    exact ⟨_, rfl, by simpa [packUntyped] using Nat.le_succ_of_le four⟩

end Eap

/-- A message that can be packed into a packet of moderate length. -/
def Relayable (message : EapMessage) : Prop :=
  ∃ version packetType data, MessagePacker.eapPack message = .ok (version, packetType, data) ∧
    data.length ≤ 4097

theorem eapParse_relayable {data : Bytes} {srcMac : Option Address} {message : EapMessage}
    (short : data.length ≤ 4096) (parsed : MessageParser.eapParse data srcMac = .ok message) :
    Relayable message := by
  obtain ⟨eap, inner, ⟨⟩⟩ := bind_eq_ok_iff.mp parsed
  obtain ⟨packed, done, bound⟩ := Eap.parse_packs short inner
  refine ⟨1, 0, packed, ?_, by omega⟩
  rw [MessagePacker.eapPack, done]
  rfl

theorem eapolStart_relayable (srcMac : Option Address) : Relayable (.eapolStart srcMac) :=
  ⟨1, 1, [], rfl, by simp⟩

theorem eapolLogoff_relayable (srcMac : Option Address) : Relayable (.eapolLogoff srcMac) :=
  ⟨1, 2, [], rfl, by simp⟩

theorem oneXParse_relayable {data : Bytes} {srcMac : Address} {message : EapMessage}
    (short : data.length ≤ 4096) (parsed : MessageParser.oneXParse data srcMac = .ok message) :
    Relayable message := by
  obtain ⟨⟨packetType, payload⟩, outer, rest⟩ := bind_eq_ok_iff.mp parsed
  obtain ⟨⟨version, type, length⟩, _, ⟨⟩⟩ := bind_eq_ok_iff.mp outer
  dsimp only at rest
  split_ifs at rest
  · have inner := Bytes.length_slice_le data 4 (4 + length)
    exact eapParse_relayable (by omega) rest
  · cases rest
    exact eapolStart_relayable _
  · cases rest
    exact eapolLogoff_relayable _

theorem ethernetParse_relayable {packed : Bytes} {message : EapMessage} {dstMac : Address}
    (short : packed.length ≤ 4096)
    (parsed : MessageParser.ethernetParse packed = .ok (message, dstMac)) :
    Relayable message := by
  obtain ⟨packet, outer, rest⟩ := bind_eq_ok_iff.mp parsed
  obtain ⟨⟨dst, src, ethertype⟩, _, ⟨⟩⟩ := bind_eq_ok_iff.mp outer
  dsimp only at rest
  split_ifs at rest
  · cases rest
  · obtain ⟨inner, returned, ⟨⟩⟩ := bind_eq_ok_iff.mp rest
    refine oneXParse_relayable ?_ returned
    rw [List.length_drop]
    omega

theorem ethernetPack_eq_ok {message : EapMessage} (relayable : Relayable message)
    (srcMac dstMac : Address) :
    ∃ packed, MessagePacker.ethernetPack message (some srcMac) dstMac = .ok packed := by
  obtain ⟨version, packetType, data, done, bound⟩ := relayable
  have fits : data.length < 256 ^ 2 := by omega
  have packed : MessagePacker.pack message =
      .ok ([version, packetType] ++ Bytes.ofNat 2 data.length ++ data) := by
    rw [MessagePacker.pack, done, ok_bind]
    dsimp only
    rw [packUnsigned_eq_ok fits]
    rfl
  exact ⟨_, by rw [MessagePacker.ethernetPack, packed, ok_bind]; rfl⟩

end Daq.Dot1x
