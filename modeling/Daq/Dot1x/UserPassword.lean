import Daq.Dot1x.Radius
import Daq.Lib.Chunks
import Daq.Lib.Feedback
import Daq.Lib.Utf8
import Mathlib.Data.Bool.AllAny
import Mathlib.Data.List.DropRight
import Mathlib.Order.Bounds.Defs

namespace Daq.Dot1x

/-! The encryption of a password under the secret that is shared with the RADIUS
server. -/

/-- The secret is text or bytes. -/
inductive Secret
  | str (secret : String)
  | bytes (secret : Bytes)

def Secret.encode : Secret → Bytes
  | .str secret => Utf8.encode secret.toList
  | .bytes secret => secret

/-- A request authenticator is a number or bytes. -/
inductive ReqAuthenticator
  | int (value : Nat) (fits : value < 256 ^ 16)
  | bytes (value : Bytes) (width : value.length = 16)

def ReqAuthenticator.toBytes : ReqAuthenticator → Bytes
  | .int value _ => Bytes.ofNat 16 value
  | .bytes value _ => value

namespace UserPassword

def stringPop (s : Bytes) (length : Nat) : Bytes × Bytes := (s.take length, s.drop length)

def xor (key block : Bytes) : Bytes := List.zipWith (· ^^^ ·) key block

def base : Nat := 16

def encryptLoop (hashes : Hashes) (secret ciphertext paddedPassword bSec : Bytes) : Bytes :=
  if 0 < paddedPassword.length then
    let popped := stringPop paddedPassword base
    let cSec := xor bSec popped.1
    encryptLoop hashes secret (ciphertext ++ cSec) popped.2 (hashes.md5 (secret ++ cSec))
  else ciphertext
termination_by paddedPassword.length
decreasing_by
  change (List.drop base _).length < _
  rw [List.length_drop, base]
  omega

def nul : Char := Char.ofNat 0

def paddedWidth (password : String) : Nat := (password.length + (base - 1)) / base * base

/-- `password.ljust(padded_width, chr(0)).encode()` -/
def padded (password : String) : Bytes :=
  Utf8.encode (password.toList ++ List.replicate (paddedWidth password - password.length) nul)

def encrypt (hashes : Hashes) (secret : Secret) (reqAuthenticator : ReqAuthenticator)
    (password : String) : Bytes :=
  let bSec := hashes.md5 (secret.encode ++ reqAuthenticator.toBytes)
  encryptLoop hashes secret.encode [] (padded password) bSec

/-- `decode('ascii')` -/
def decodeAscii (bytes : Bytes) : Except Raised (List Char) :=
  if bytes.all (· < 128) then .ok (bytes.map fun byte => Char.ofNat byte.toNat)
  else .error .unicodeDecodeError

theorem decodeAscii_eq_ok {bytes : Bytes} (ascii : ∀ byte ∈ bytes, byte < 128) :
    decodeAscii bytes = .ok (bytes.map fun byte => Char.ofNat byte.toNat) :=
  if_pos (List.all_iff_forall_prop.mpr ascii)

def decryptLoop (hashes : Hashes) (secret : Bytes) (cleartext : List Char)
    (ciphertext bSec : Bytes) : Except Raised (List Char) :=
  if 0 < ciphertext.length then
    let popped := stringPop ciphertext base
    match decodeAscii (xor bSec popped.1) with
    | .error raised => .error raised
    | .ok text =>
        decryptLoop hashes secret (cleartext ++ text) popped.2 (hashes.md5 (secret ++ popped.1))
  else .ok cleartext
termination_by ciphertext.length
decreasing_by
  change (List.drop base _).length < _
  rw [List.length_drop, base]
  omega

def strip (text : List Char) : List Char :=
  (text.dropWhile (· = nul)).rdropWhile (· = nul)

def decrypt (hashes : Hashes) (secret : Secret) (reqAuthenticator : ReqAuthenticator)
    (ciphertext : Bytes) : Except Raised String :=
  let bSec := hashes.md5 (secret.encode ++ reqAuthenticator.toBytes)
  match decryptLoop hashes secret.encode [] ciphertext bSec with
  | .error raised => .error raised
  | .ok cleartext => .ok (String.ofList (strip cleartext))

/-! The loops work on blocks of sixteen bytes. -/

section Blocks

variable (hashes : Hashes) (secret : Bytes)

def nextKey (cSec : Bytes) : Bytes := hashes.md5 (secret ++ cSec)

variable {hashes secret} {padded bSec ciphertext : Bytes} {cleartext : List Char}

theorem cut_of_pos {bytes : Bytes} (filled : 0 < bytes.length) :
    Chunks.cut base bytes = (stringPop bytes base).1 ::
      Chunks.cut base (stringPop bytes base).2 := by
  by_cases short : bytes.length ≤ base
  · have whole : stringPop bytes base = (bytes, []) := by
      rw [stringPop, List.take_of_length_le short, List.drop_of_length_le short]
    rw [whole, Chunks.cut_nil (by decide), Chunks.cut_of_le (List.length_pos_iff.mp filled) short]
  · have full : (bytes.take base).length = base := by
      rw [List.length_take]
      omega
    have parts : Chunks.cut base (bytes.take base ++ bytes.drop base) =
        bytes.take base :: Chunks.cut base (bytes.drop base) := Chunks.cut_append (by decide) full
    rw [List.take_append_drop] at parts
    exact parts

theorem cut_of_not_pos {bytes : Bytes} (empty : ¬ 0 < bytes.length) :
    bytes = [] ∧ Chunks.cut base bytes = [] := by
  have none : bytes = [] := List.length_eq_zero_iff.mp (by omega)
  rw [none]
  exact ⟨rfl, Chunks.cut_nil (by decide)⟩

theorem encryptLoop_eq :
    encryptLoop hashes secret ciphertext padded bSec = ciphertext ++
      (Feedback.encipher xor (nextKey hashes secret) bSec (Chunks.cut base padded)).flatten := by
  fun_induction encryptLoop hashes secret ciphertext padded bSec with
  | case1 ciphertext padded bSec filled popped cSec later =>
      rw [later, cut_of_pos filled, Feedback.encipher, List.flatten_cons, List.append_assoc]
      rfl
  | case2 ciphertext padded bSec empty =>
      rw [(cut_of_not_pos empty).2, Feedback.encipher, List.flatten_nil, List.append_nil]

theorem decryptLoop_eq (ascii : ∀ byte ∈
      (Feedback.decipher xor (nextKey hashes secret) bSec (Chunks.cut base ciphertext)).flatten,
      byte < 128) :
    decryptLoop hashes secret cleartext ciphertext bSec = .ok (cleartext ++
      (Feedback.decipher xor (nextKey hashes secret) bSec
        (Chunks.cut base ciphertext)).flatten.map fun byte => Char.ofNat byte.toNat) := by
  fun_induction decryptLoop hashes secret cleartext ciphertext bSec with
  | case1 cleartext ciphertext bSec filled popped raised failed =>
      rw [cut_of_pos filled, Feedback.decipher, List.flatten_cons, List.forall_mem_append] at ascii
      rw [decodeAscii_eq_ok ascii.1] at failed
      cases failed
  | case2 cleartext ciphertext bSec filled popped text decoded later =>
      rw [cut_of_pos filled, Feedback.decipher, List.flatten_cons, List.forall_mem_append] at ascii
      rw [decodeAscii_eq_ok ascii.1] at decoded
      cases decoded
      rw [later ascii.2, cut_of_pos filled, Feedback.decipher, List.flatten_cons, List.map_append,
        List.append_assoc]
      rfl
  | case3 cleartext ciphertext bSec empty =>
      rw [(cut_of_not_pos empty).2, Feedback.decipher, List.flatten_nil, List.map_nil,
        List.append_nil]

end Blocks

/-! Text of ASCII characters. -/

section Text

variable {text : List Char}

theorem decode_ascii (ascii : ∀ char ∈ text, char.toNat < 128) :
    (∀ byte ∈ text.map fun char => UInt8.ofNat char.toNat, byte < 128) ∧
      (text.map fun char => UInt8.ofNat char.toNat).map (fun byte => Char.ofNat byte.toNat) =
        text := by
  have small : ∀ char ∈ text, (UInt8.ofNat char.toNat).toNat = char.toNat := by
    intro char member
    rw [UInt8.toNat_ofNat']
    exact Nat.mod_eq_of_lt ((ascii char member).trans (by decide))
  constructor
  · intro byte member
    obtain ⟨char, inside, rfl⟩ := List.mem_map.mp member
    rw [UInt8.lt_iff_toNat_lt, small char inside]
    exact ascii char inside
  · rw [List.map_map]
    have same : text.map (fun char => Char.ofNat (UInt8.ofNat char.toNat).toNat) = text.map id := by
      apply List.map_congr_left
      intro char member
      rw [small char member, Char.ofNat_toNat, id]
    rw [List.map_id] at same
    exact same

theorem rdropWhile_padded (width : Nat) (last : ∀ char ∈ text.getLast?, char ≠ nul) :
    (text ++ List.replicate width nul).rdropWhile (· = nul) = text := by
  rw [List.rdropWhile, List.reverse_append, List.dropWhile_append_of_pos]
  · change text.rdropWhile (· = nul) = text
    apply List.rdropWhile_eq_self_iff.mpr
    intro filled dropped
    exact last _ (List.getLast?_eq_some_getLast filled) (of_decide_eq_true dropped)
  · intro char member
    exact decide_eq_true (List.eq_of_mem_replicate (List.mem_reverse.mp member))

theorem strip_padded (width : Nat) (first : ∀ char ∈ text.head?, char ≠ nul)
    (last : ∀ char ∈ text.getLast?, char ≠ nul) :
    strip (text ++ List.replicate width nul) = text := by
  cases text with
  | nil =>
      have dropped : (List.replicate width nul).dropWhile (· = nul) = [] := by
        rw [List.dropWhile_replicate, if_pos (decide_eq_true rfl)]
      rw [strip, List.nil_append, dropped, List.rdropWhile_nil]
  | cons char rest =>
      have kept : ¬ decide (char = nul) = true := fun same =>
        first char rfl (of_decide_eq_true same)
      rw [strip, List.cons_append, List.dropWhile_cons, if_neg kept, ← List.cons_append,
        rdropWhile_padded width last]

end Text

theorem xor_xor {key block : Bytes} (fits : block.length ≤ key.length) :
    xor key (xor key block) = block := by
  induction block generalizing key with
  | nil => rw [xor, xor, List.zipWith_nil_right, List.zipWith_nil_right]
  | cons byte rest later =>
      cases key with
      | nil => exact absurd fits (Nat.not_succ_le_zero _)
      | cons first key =>
          have behind := later (Nat.le_of_succ_le_succ fits)
          change (first ^^^ (first ^^^ byte)) :: xor key (xor key rest) = byte :: rest
          rw [behind, ← UInt8.xor_assoc, UInt8.xor_self, UInt8.zero_xor]

theorem length_xor {key block : Bytes} (fits : block.length ≤ key.length) :
    (xor key block).length = block.length := by
  rw [xor, List.length_zipWith]
  omega

section RoundTrip

variable (hashes : Hashes) (secret : Bytes) {bSec bytes : Bytes}

theorem closed : Feedback.Closed xor (nextKey hashes secret) (fun key => key.length = 16)
    (fun block => block.length ≤ 16) where
  mixed key block width fits := by
    rw [length_xor (by omega)]
    exact fits
  key _ _ := hashes.length_md5 _

/-- The blocks that come out have the lengths of those that went in. -/
theorem encipher_lengths (key : bSec.length = 16) (bytes : Bytes) :
    (Feedback.encipher xor (nextKey hashes secret) bSec (Chunks.cut base bytes)).map List.length =
      (Chunks.cut base bytes).map List.length := by
  apply Feedback.map_encipher (closed hashes secret)
  · intro key block width fits
    exact length_xor (by omega)
  · exact key
  · exact fun block member => (Chunks.isCut_cut (by decide) bytes).1.length_le member

theorem decipher_encipher (key : bSec.length = 16) (bytes : Bytes) :
    Feedback.decipher xor (nextKey hashes secret) bSec (Chunks.cut base
        (Feedback.encipher xor (nextKey hashes secret) bSec (Chunks.cut base bytes)).flatten) =
      Chunks.cut base bytes := by
  have isCut := (Chunks.isCut_cut (by decide : 0 < base) bytes).1
  have again := isCut.of_lengths (encipher_lengths hashes secret key bytes)
  rw [Chunks.cut_flatten (by decide) again]
  apply Feedback.decipher_encipher (closed hashes secret)
  · intro key block width fits
    exact xor_xor (by omega)
  · exact key
  · exact fun block member => isCut.length_le member

end RoundTrip

section Password

variable {password : String}

theorem forall_mem_padding (ascii : ∀ char ∈ password.toList, char.toNat < 128) :
    ∀ char ∈ password.toList ++ List.replicate (paddedWidth password - password.length) nul,
      char.toNat < 128 := by
  intro char member
  rcases List.mem_append.mp member with inside | padding
  · exact ascii char inside
  · rw [List.eq_of_mem_replicate padding]
    decide

theorem padded_ascii (ascii : ∀ char ∈ password.toList, char.toNat < 128) :
    padded password = (password.toList ++ List.replicate (paddedWidth password - password.length)
      nul).map fun char => UInt8.ofNat char.toNat :=
  Utf8.encode_ascii (forall_mem_padding ascii)

theorem paddedWidth_isLeast (password : String) :
    IsLeast { width | 16 ∣ width ∧ password.length ≤ width } (paddedWidth password) := by
  constructor
  · refine ⟨Nat.dvd_mul_left _ _, ?_⟩
    unfold paddedWidth base
    omega
  · rintro width ⟨⟨blocks, rfl⟩, fits⟩
    unfold paddedWidth base
    omega

theorem length_padded (ascii : ∀ char ∈ password.toList, char.toNat < 128) :
    (padded password).length = paddedWidth password := by
  have fits := (paddedWidth_isLeast password).1.2
  rw [padded_ascii ascii, List.length_map, List.length_append, List.length_replicate,
    String.length_toList]
  omega

/-- An ASCII password that neither starts nor ends with NUL comes back, and its
ciphertext has the least number of blocks. -/
theorem decrypt_encrypt (hashes : Hashes) (secret : Secret) (reqAuthenticator : ReqAuthenticator)
    (ascii : ∀ char ∈ password.toList, char.toNat < 128)
    (first : ∀ char ∈ password.toList.head?, char ≠ nul)
    (last : ∀ char ∈ password.toList.getLast?, char ≠ nul) :
    decrypt hashes secret reqAuthenticator (encrypt hashes secret reqAuthenticator password) =
        .ok password ∧
      IsLeast { width | 16 ∣ width ∧ password.length ≤ width }
        (encrypt hashes secret reqAuthenticator password).length := by
  have key := hashes.length_md5 (secret.encode ++ reqAuthenticator.toBytes)
  have encrypted : encrypt hashes secret reqAuthenticator password =
      (Feedback.encipher xor (nextKey hashes secret.encode)
        (hashes.md5 (secret.encode ++ reqAuthenticator.toBytes))
        (Chunks.cut base (padded password))).flatten := by
    rw [encrypt, encryptLoop_eq, List.nil_append]
  constructor
  · have blocks := decipher_encipher hashes secret.encode key (padded password)
    rw [← encrypted] at blocks
    have all := congrArg List.flatten blocks
    rw [Chunks.flatten_cut (by decide), padded_ascii ascii] at all
    obtain ⟨small, decoded⟩ := decode_ascii (forall_mem_padding ascii)
    rw [decrypt, decryptLoop_eq, all, decoded, List.nil_append]
    · dsimp only
      rw [strip_padded _ first last, String.ofList_toList]
    · rw [all]
      exact small
  · have length : (encrypt hashes secret reqAuthenticator password).length =
        paddedWidth password := by
      rw [encrypted, List.length_flatten, encipher_lengths hashes secret.encode key,
        ← List.length_flatten, Chunks.flatten_cut (by decide), length_padded ascii]
    rw [length]
    exact paddedWidth_isLeast password

end Password

namespace Sample

/-- Hashes of the right length. -/
def hashes : Hashes where
  md5 message := (message ++ List.replicate 16 0).take 16
  hmacMd5 key message := (key ++ message ++ List.replicate 16 0).take 16
  length_md5 message := by simp
  length_hmacMd5 key message := by
    rw [List.length_take, List.length_append, List.length_replicate]
    omega

theorem seven_fits : 7 < 256 ^ 16 := by decide

def reqAuthenticator : ReqAuthenticator := .int 7 seven_fits

def macPassword : String := "02421cb3d4e50a1b2c3d"

theorem mac_decrypts :
    decrypt hashes (.str "SECRET") reqAuthenticator
        (encrypt hashes (.str "SECRET") reqAuthenticator macPassword) = .ok macPassword ∧
      IsLeast { width | 16 ∣ width ∧ macPassword.length ≤ width }
        (encrypt hashes (.str "SECRET") reqAuthenticator macPassword).length :=
  decrypt_encrypt hashes (.str "SECRET") reqAuthenticator
    (List.all_iff_forall_prop.mp (by decide)) (by simp [nul, macPassword])
    (by simp [nul, macPassword])

end Sample

end UserPassword

end Daq.Dot1x
