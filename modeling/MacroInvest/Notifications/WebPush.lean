import MacroInvest.Library.Base64
import MacroInvest.Library.Fallible

/-! # Web push encryption

The body is a header and one encrypted record; the payload ends in a delimiter of its own before
it is encrypted. A receiver reads the header, derives the same keys from the other half of the
agreement and takes the padding off the decrypted record.
-/
namespace MacroInvest.Notifications
open Base64

abbrev Bytes := List UInt8

/-- `_b64url` -/
def b64url (bytes : Bytes) : String := String.ofList (stripPadding (encode bytes))

/-- `_b64url_decode` -/
def b64urlDecode (s : String) : Except DecodeError Bytes := decode (restorePadding s.toList)

theorem b64urlDecode_b64url (bytes : Bytes) : b64urlDecode (b64url bytes) = .ok bytes := by
  rw [b64urlDecode,b64url,String.toList_ofList,restorePadding_stripPadding,decode_encode]

/-- The key agreement on the curve, the key derivation and the authenticated cipher. -/
structure Cryptography where
  PrivateKey : Type
  PublicKey : Type
  publicKey : PrivateKey → PublicKey
  /-- The uncompressed point, and the point of an encoding if it has one. -/
  encodePoint : PublicKey → Bytes
  fromEncodedPoint : Bytes → Option PublicKey
  exchange : PrivateKey → PublicKey → Bytes
  /-- The derived key of a length from a salt, an info and the key material. -/
  hkdf : ℕ → Bytes → Bytes → Bytes → Bytes
  encrypt : Bytes → Bytes → Bytes → Bytes
  decrypt : Bytes → Bytes → Bytes → Option Bytes

/-- What is relied on: points of 65 bytes that can be read back, a symmetric agreement, and a
decryption that inverts the encryption with its tag of 16 bytes. -/
structure Cryptography.Documented (c : Cryptography) : Prop where
  length_encodePoint : ∀ p, (c.encodePoint p).length = 65
  fromEncodedPoint_encodePoint : ∀ p, c.fromEncodedPoint (c.encodePoint p) = some p
  exchange_symmetric : ∀ a b, c.exchange a (c.publicKey b) = c.exchange b (c.publicKey a)
  length_encrypt : ∀ key nonce data, (c.encrypt key nonce data).length = data.length + 16
  decrypt_encrypt : ∀ key nonce data, c.decrypt key nonce (c.encrypt key nonce data) = some data

section Encrypt

def ascii (text : String) : Bytes := text.toList.map (fun c => UInt8.ofNat c.toNat)

/-- `struct.pack(">I", n)`, an error from 2^32 on. -/
def packU32 (n : ℕ) : Option Bytes :=
  if n < 2 ^ 32 then
    some [UInt8.ofNat (n / 2 ^ 24),UInt8.ofNat (n / 2 ^ 16 % 256),UInt8.ofNat (n / 2 ^ 8 % 256),
      UInt8.ofNat (n % 256)]
  else none

/-- `bytes([n])`, an error from 256 on. -/
def byteOf (n : ℕ) : Option Bytes := if n < 256 then some [UInt8.ofNat n] else none

/-- What `os.urandom(16)` draws. -/
structure Salt where
  bytes : Bytes
  length : bytes.length = 16

inductive PushError where
  | base64 (exc : DecodeError)
  | invalidPoint
  | structError
  | valueError
  deriving DecidableEq

/-- The content encryption key and the nonce of both sides. -/
def keyAndNonce (c : Cryptography) (shared auth receiverPub senderPub salt : Bytes) :
    Bytes × Bytes :=
  let ikm := c.hkdf 32 auth (ascii "WebPush: info\x00" ++ receiverPub ++ senderPub) shared
  (c.hkdf 16 salt (ascii "Content-Encoding: aes128gcm\x00") ikm,
    c.hkdf 12 salt (ascii "Content-Encoding: nonce\x00") ikm)

def orRaise {α : Type} (exc : PushError) : Option α → Except PushError α
  | none => .error exc
  | some a => .ok a

def decodeKey (s : String) : Except PushError Bytes := (b64urlDecode s).mapError .base64

/-- `_encrypt_push_payload` with the sender key and the salt that it draws. -/
def encryptPushPayload (c : Cryptography) (senderKey : c.PrivateKey) (salt : Salt)
    (plaintext : Bytes) (p256dh authSecret : String) : Except PushError (Bytes × String) := do
  let subscriberPubBytes ← decodeKey p256dh
  let authBytes ← decodeKey authSecret
  let senderPub := c.encodePoint (c.publicKey senderKey)
  let subscriberPub ← orRaise .invalidPoint (c.fromEncodedPoint subscriberPubBytes)
  let shared := c.exchange senderKey subscriberPub
  let keys := keyAndNonce c shared authBytes subscriberPubBytes senderPub salt.bytes
  let ciphertext := c.encrypt keys.1 keys.2 (plaintext ++ [2])
  let rs ← orRaise .structError (packU32 (ciphertext.length + 16 + 1))
  let idlen ← orRaise .valueError (byteOf senderPub.length)
  return (salt.bytes ++ rs ++ idlen ++ senderPub ++ ciphertext,"aes128gcm")

end Encrypt

section Receive

/-- An encrypted content coding by its header and its records. -/
structure EncryptedContent where
  salt : Bytes
  rs : ℕ
  keyId : Bytes
  records : List Bytes

/-- A big-endian number. -/
def bigEndian (bytes : Bytes) : ℕ := bytes.foldl (fun n b => n * 256 + b.toNat) 0

/-- The records of a body, each of the declared size but the last, by at most as many steps as it
has bytes. -/
def recordsOf (rs : ℕ) : ℕ → Bytes → List Bytes
  | 0, _ => []
  | steps + 1, bytes =>
    if bytes.length ≤ rs then [bytes] else bytes.take rs :: recordsOf rs steps (bytes.drop rs)

/-- The header of 21 bytes and the key id, then records of the declared size, the last of which
may be shorter. A record holds at least a delimiter and a tag. -/
def parseContent (body : Bytes) : Option EncryptedContent :=
  let rs := bigEndian ((body.drop 16).take 4)
  match body.drop 20 with
  | [] => none
  | idlen :: rest =>
    if idlen.toNat ≤ rest.length ∧ 18 ≤ rs then
      some ⟨body.take 16,rs,rest.take idlen.toNat,
        recordsOf rs (rest.length - idlen.toNat) (rest.drop idlen.toNat)⟩
    else none

/-- The content of the last record: up to the delimiter two, behind which there are zeros only. -/
def removePadding (padded : Bytes) : Option Bytes :=
  let content := padded.rdropWhile (· = 0)
  if content.getLast? = some 2 then some content.dropLast else none

/-- What a receiver decrypts a body of one record to. -/
def receive (c : Cryptography) (receiverKey : c.PrivateKey) (auth body : Bytes) : Option Bytes := do
  let content ← parseContent body
  let senderPub ← c.fromEncodedPoint content.keyId
  let shared := c.exchange receiverKey senderPub
  let keys := keyAndNonce c shared auth (c.encodePoint (c.publicKey receiverKey)) content.keyId
    content.salt
  match content.records with
  | [record] => (c.decrypt keys.1 keys.2 record).bind removePadding
  | _ => none

end Receive

section Header

theorem packU32_spec {n : ℕ} (h : n < 2 ^ 32) :
    ∃ bytes, packU32 n = some bytes ∧ bytes.length = 4 ∧ bigEndian bytes = n := by
  refine ⟨_,if_pos h,rfl,?_⟩
  simp only [bigEndian,List.foldl_cons,List.foldl_nil,UInt8.toNat_ofNat']
  omega

theorem recordsOf_single {rs : ℕ} {bytes : Bytes} (hne : bytes ≠ []) (hsize : bytes.length ≤ rs) :
    recordsOf rs bytes.length bytes = [bytes] := by
  obtain ⟨steps,hsteps⟩ := Nat.exists_eq_succ_of_ne_zero (List.length_pos_iff.mpr hne).ne'
  rw [hsteps]
  exact if_pos hsize

/-- A body is read back as the parts that it is put together from. -/
theorem parseContent_append {salt rs keyId ciphertext : Bytes} {idlen : UInt8}
    (hsalt : salt.length = 16) (hrs : rs.length = 4) (hid : idlen.toNat = keyId.length)
    (hsize : 18 ≤ bigEndian rs) :
    parseContent (salt ++ rs ++ [idlen] ++ keyId ++ ciphertext) =
      some ⟨salt,bigEndian rs,keyId,recordsOf (bigEndian rs) ciphertext.length ciphertext⟩ := by
  have hdrop : (salt ++ rs ++ [idlen] ++ keyId ++ ciphertext).drop 20 =
      idlen :: (keyId ++ ciphertext) := by
    have hlength : (salt ++ rs).length = 20 := by rw [List.length_append,hsalt,hrs]
    rw [List.append_assoc,List.append_assoc (salt ++ rs),← hlength,List.drop_left]
    rfl
  have htake : (salt ++ rs ++ [idlen] ++ keyId ++ ciphertext).take 16 = salt := by
    rw [← hsalt]
    simp [List.append_assoc]
  have hsizes : ((salt ++ rs ++ [idlen] ++ keyId ++ ciphertext).drop 16).take 4 = rs := by
    rw [← hsalt,← hrs]
    simp [List.append_assoc]
  simp only [parseContent,hdrop,htake,hsizes,hid]
  rw [if_pos ⟨by rw [List.length_append]; omega,hsize⟩,List.take_left,List.drop_left,
    List.length_append,Nat.add_sub_cancel_left]

theorem removePadding_delimited (plaintext : Bytes) :
    removePadding (plaintext ++ [2]) = some plaintext := by
  rw [removePadding,List.rdropWhile_concat_neg _ _ _ (by decide)]
  simp

end Header

section Agreement
variable {c : Cryptography} {senderKey receiverKey : c.PrivateKey} {salt : Salt}
  {auth payload : Bytes} {p256dh authSecret : String}

/-- The keys that the sender derives for a receiver. -/
def senderKeys (c : Cryptography) (senderKey receiverKey : c.PrivateKey) (auth : Bytes)
    (salt : Salt) : Bytes × Bytes :=
  keyAndNonce c (c.exchange senderKey (c.publicKey receiverKey)) auth
    (c.encodePoint (c.publicKey receiverKey)) (c.encodePoint (c.publicKey senderKey)) salt.bytes

/-- The record of a payload. -/
def pushRecord (c : Cryptography) (senderKey receiverKey : c.PrivateKey) (auth : Bytes)
    (salt : Salt) (payload : Bytes) : Bytes :=
  let keys := senderKeys c senderKey receiverKey auth salt
  c.encrypt keys.1 keys.2 (payload ++ [2])

theorem length_pushRecord (hc : c.Documented) :
    (pushRecord c senderKey receiverKey auth salt payload).length = payload.length + 17 := by
  rw [pushRecord,hc.length_encrypt,List.length_append,List.length_singleton]

theorem decodeKey_ok {s : String} {bytes : Bytes} (h : b64urlDecode s = .ok bytes) :
    decodeKey s = .ok bytes := by
  rw [decodeKey,h]
  rfl

theorem encryptPushPayload_eq (hc : c.Documented)
    (hreceiver : b64urlDecode p256dh = .ok (c.encodePoint (c.publicKey receiverKey)))
    (hauth : b64urlDecode authSecret = .ok auth) {rs : Bytes}
    (hrs : packU32 (payload.length + 17 + 16 + 1) = some rs) :
    encryptPushPayload c senderKey salt payload p256dh authSecret =
      .ok (salt.bytes ++ rs ++ [65] ++ c.encodePoint (c.publicKey senderKey) ++
        pushRecord c senderKey receiverKey auth salt payload,"aes128gcm") := by
  have hlength : (pushRecord c senderKey receiverKey auth salt payload).length =
    payload.length + 17 := length_pushRecord hc
  unfold pushRecord senderKeys at hlength
  have hid : byteOf 65 = some [65] := rfl
  simp only [encryptPushPayload,decodeKey_ok hreceiver,decodeKey_ok hauth,Fallible.ok_bind,
    hc.fromEncodedPoint_encodePoint,hc.length_encodePoint,hlength,hrs,hid,orRaise]
  rfl

/-- The receiver derives the keys of the sender. -/
theorem receive_pushRecord (hc : c.Documented) {body : Bytes} {rs : ℕ}
    (hbody : parseContent body = some ⟨salt.bytes,rs,c.encodePoint (c.publicKey senderKey),
      [pushRecord c senderKey receiverKey auth salt payload]⟩) :
    receive c receiverKey auth body = some payload := by
  unfold receive
  rw [hbody,Option.bind_eq_bind,Option.bind_some,hc.fromEncodedPoint_encodePoint]
  dsimp only
  rw [Option.bind_eq_bind,Option.bind_some,hc.exchange_symmetric receiverKey senderKey]
  exact (congrArg (fun padded => padded.bind removePadding) (hc.decrypt_encrypt _ _ _)).trans
    (removePadding_delimited payload)

end Agreement

/-- The body that is built parses as a header and one record within its declared size, which the
receiver decrypts to the payload; and the decoder undoes the encoder on all byte strings. -/
theorem webPush_decodes (c : Cryptography) (hc : c.Documented)
    (senderKey receiverKey : c.PrivateKey) (salt : Salt) (auth payload : Bytes)
    (p256dh authSecret : String)
    (hreceiver : b64urlDecode p256dh = .ok (c.encodePoint (c.publicKey receiverKey)))
    (hauth : b64urlDecode authSecret = .ok auth) (hsize : payload.length < 2 ^ 31) :
    (∃ body content record,
      encryptPushPayload c senderKey salt payload p256dh authSecret = .ok (body,"aes128gcm") ∧
      parseContent body = some content ∧ content.salt = salt.bytes ∧
      content.keyId = c.encodePoint (c.publicKey senderKey) ∧ content.records = [record] ∧
      record.length ≤ content.rs ∧ receive c receiverKey auth body = some payload) ∧
    ∀ bytes, b64urlDecode (b64url bytes) = .ok bytes := by
  refine ⟨?_,b64urlDecode_b64url⟩
  obtain ⟨rs,hpack,hrs,hvalue⟩ := packU32_spec (n := payload.length + 17 + 16 + 1) (by omega)
  have hlength : (pushRecord c senderKey receiverKey auth salt payload).length =
    payload.length + 17 := length_pushRecord hc
  have hfits : (pushRecord c senderKey receiverKey auth salt payload).length ≤ bigEndian rs := by
    omega
  have hid : (65 : UInt8).toNat = (c.encodePoint (c.publicKey senderKey)).length :=
    (hc.length_encodePoint _).symm
  have hcontent : ∀ ciphertext, parseContent
      (salt.bytes ++ rs ++ [65] ++ c.encodePoint (c.publicKey senderKey) ++ ciphertext) =
        some ⟨salt.bytes,bigEndian rs,c.encodePoint (c.publicKey senderKey),
          recordsOf (bigEndian rs) ciphertext.length ciphertext⟩ :=
    fun _ => parseContent_append salt.length hrs hid (by omega)
  have hparse := hcontent (pushRecord c senderKey receiverKey auth salt payload)
  rw [recordsOf_single (List.ne_nil_of_length_pos (by omega)) hfits] at hparse
  exact ⟨_,_,_,encryptPushPayload_eq hc hreceiver hauth hpack,hparse,rfl,rfl,rfl,hfits,
    receive_pushRecord hc hparse⟩

section Example

/-- "When I grow up, I want to be a watermelon" -/
def watermelon : Bytes :=
  [87,104,101,110,32,73,32,103,114,111,119,32,117,112,44,32,73,32,119,97,110,
   116,32,116,111,32,98,101,32,97,32,119,97,116,101,114,109,101,108,111,110]

def sampleReceiver : Bytes :=
  [4,37,113,178,190,205,253,227,96,85,26,175,30,208,244,205,54,108,17,206,
   190,85,95,137,188,183,177,134,165,51,57,23,49,104,236,226,235,224,24,89,
   123,211,4,121,184,110,60,143,142,206,213,119,202,89,24,126,146,70,153,13,
   182,130,0,139,14]

def sampleSender : Bytes :=
  [4,254,51,244,171,13,234,113,145,77,181,88,35,247,59,84,148,143,65,48,109,
   146,7,50,219,185,165,154,83,40,100,130,32,14,89,122,123,123,194,96,186,28,
   34,121,152,88,9,146,233,57,115,0,47,48,18,162,138,232,240,107,187,120,229,
   236,15]

def sampleShared : Bytes :=
  [147,42,203,214,50,8,56,113,51,131,123,12,217,149,145,28,52,65,235,102,0,
   9,152,97,74,89,39,39,174,246,145,43]

def sampleSaltBytes : Bytes :=
  [12,107,250,173,173,103,149,136,3,9,45,69,70,118,243,151]

def sampleAuth : Bytes :=
  [5,48,89,50,161,199,234,190,19,182,206,201,253,164,136,130]

def sampleIkm : Bytes :=
  [75,137,88,49,191,203,208,92,66,122,173,22,132,60,124,215,114,160,73,138,
   148,219,169,14,203,53,148,118,197,216,202,184]

def sampleKey : Bytes :=
  [160,136,85,91,78,12,69,220,182,92,223,66,136,162,241,78]

def sampleNonce : Bytes :=
  [226,31,253,230,73,87,39,145,63,170,122,13]

def sampleRecord : Bytes :=
  [242,151,222,91,66,155,186,113,83,211,164,174,12,170,9,31,212,37,243,180,
   181,65,74,221,138,179,122,25,193,187,176,92,245,203,91,42,46,5,98,213,88,
   99,86,65,236,82,129,44,108,143,244,46,149,204,184,107,231,205]

def samplePadded : Bytes := watermelon ++ [2]

theorem length_sampleSaltBytes : sampleSaltBytes.length = 16 := by decide +kernel

def sampleSalt : Salt := ⟨sampleSaltBytes,length_sampleSaltBytes⟩

/-- The two key pairs of the worked example of RFC 8291, with the values it gives of the agreement,
the derivations and the cipher; elsewhere the cipher appends a tag of zeros. -/
def sampleCryptography : Cryptography where
  PrivateKey := Bool
  PublicKey := Bool
  publicKey := id
  encodePoint
    | true => sampleSender
    | false => sampleReceiver
  fromEncodedPoint bytes :=
    if bytes = sampleSender then some true else if bytes = sampleReceiver then some false else none
  exchange a b := if a = b then [] else sampleShared
  hkdf length salt info material :=
    if length = 32 ∧ salt = sampleAuth ∧ material = sampleShared ∧
        info = ascii "WebPush: info\x00" ++ sampleReceiver ++ sampleSender then sampleIkm
    else if salt = sampleSalt.bytes ∧ material = sampleIkm then
      if length = 16 then sampleKey else sampleNonce
    else []
  encrypt key nonce data :=
    if key = sampleKey ∧ nonce = sampleNonce ∧ data = samplePadded then sampleRecord
    else data ++ List.replicate 16 0
  decrypt key nonce data :=
    if key = sampleKey ∧ nonce = sampleNonce ∧ data = sampleRecord then some samplePadded
    else if 16 ≤ data.length then some (data.take (data.length - 16))
    else none

theorem zeroTag_ne (data : Bytes) : data ++ List.replicate 16 0 ≠ sampleRecord := by
  intro heq
  have hlast : (data ++ List.replicate 16 0).getLast? = some 0 := by
    rw [List.getLast?_append]
    rfl
  rw [heq] at hlast
  exact absurd hlast (by decide +kernel)

theorem sampleCryptography_documented : sampleCryptography.Documented where
  length_encodePoint := by
    rintro (_ | _) <;> decide +kernel
  fromEncodedPoint_encodePoint := by
    have hdistinct : sampleReceiver ≠ sampleSender := by decide +kernel
    rintro (_ | _)
    · dsimp only [sampleCryptography]
      rw [if_neg hdistinct,if_pos rfl]
    · dsimp only [sampleCryptography]
      rw [if_pos rfl]
  exchange_symmetric := by
    rintro (_ | _) (_ | _) <;> rfl
  length_encrypt key nonce data := by
    dsimp only [sampleCryptography]
    split
    · rename_i h
      rw [h.2.2]
      decide +kernel
    · rw [List.length_append,List.length_replicate]
  decrypt_encrypt key nonce data := by
    dsimp only [sampleCryptography]
    by_cases h : key = sampleKey ∧ nonce = sampleNonce ∧ data = samplePadded
    · rw [if_pos h,if_pos ⟨h.1,h.2.1,rfl⟩,h.2.2]
    · rw [if_neg h,if_neg (fun h' => zeroTag_ne data h'.2.2),if_pos (by simp)]
      simp

theorem watermelon_decodes :
    (∃ body content record,
      encryptPushPayload sampleCryptography true sampleSalt watermelon (b64url sampleReceiver)
        (b64url sampleAuth) = .ok (body,"aes128gcm") ∧
      parseContent body = some content ∧ content.salt = sampleSalt.bytes ∧
      content.keyId = sampleSender ∧ content.records = [record] ∧
      record.length ≤ content.rs ∧
      receive sampleCryptography false sampleAuth body = some watermelon) ∧
    ∀ bytes, b64urlDecode (b64url bytes) = .ok bytes :=
  webPush_decodes sampleCryptography sampleCryptography_documented true false sampleSalt sampleAuth
    watermelon (b64url sampleReceiver) (b64url sampleAuth) (b64urlDecode_b64url sampleReceiver)
    (b64urlDecode_b64url sampleAuth) (by decide +kernel)

end Example

end MacroInvest.Notifications
