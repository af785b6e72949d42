import DrogonPay.Channels.PlatformCerts
import DrogonPay.Form.Pairs

/-!
Contract: the checks a channel client makes of what it receives (`WechatChannel.cc`,
`AlipayChannel.cc`).

Owns:
- `verifyMessageWithCert` and the WeChat `verifyCallback` and `verifyResponse`, with
  the text that is signed;
- `decryptAesGcm` and `decryptResource`;
- the Alipay `verifyCallback`, with the text that is signed;
- what it takes to pass each of them.

Does not own: RSA, AES-GCM and base64, which are parameters, and faults of OpenSSL
that no input causes.
-/

namespace DrogonPay

namespace WechatChannel

/-- OpenSSL and Drogon's base64. `publicKey` is the key of a certificate,
`verifies` a signature under a key, `opens` the authenticated decryption under a
key, a nonce, associated data, a text and a tag. -/
structure Crypto extends Host where
  base64Decode : Bytes → Bytes
  publicKey : Bytes → Option Bytes
  digestVerifies : Bytes → Bytes → Bytes → Bool
  opens : Bytes → Bytes → Bytes → Bytes → Bytes → Option Bytes

variable (crypto : Crypto)

/-! ## Signatures -/

/-- Why a certificate does not serve now. -/
def validityError (cert : X509) (now : Int) : Option Bytes :=
  if now < cert.notBefore then some (ascii "certificate not yet valid")
  else if cert.notAfter ≤ now then some (ascii "certificate has expired")
  else none

/-- Why a message is not taken for signed, `none` when it is. -/
def verifyMessageWithCert (message signatureB64 certContent : Bytes) (now : Int) : Option Bytes :=
  if certContent.isEmpty then some (ascii "empty certificate content")
  else
    match parseCert crypto.toHost certContent with
    | none => some (ascii "failed to load platform cert from content")
    | some cert =>
        match validityError cert now with
        | some error => some (ascii "platform cert " ++ error)
        | none =>
            match crypto.publicKey certContent with
            | none => some (ascii "failed to extract public key")
            | some key =>
                let signature := crypto.base64Decode signatureB64
                if signature.isEmpty then some (ascii "failed to decode signature")
                else if crypto.digestVerifies key message signature then none
                else some (ascii "signature verify failed")

/-- The signature headers and the body of a notification or an answer. -/
structure Post where
  body : Bytes
  signature : Bytes
  timestamp : Bytes
  nonce : Bytes
  serialNo : Bytes

/-- What WeChat signs of one. -/
def Post.message (post : Post) : Bytes :=
  post.timestamp ++ ascii "\n" ++ post.nonce ++ ascii "\n" ++ post.body ++ ascii "\n"

def verifyCallback (client : Client) (post : Post) (now : Int) : Option Bytes :=
  match client.resolveTrustedPlatformCert crypto.toHost post.serialNo with
  | .error error => some error
  | .ok certContent => verifyMessageWithCert crypto post.message post.signature certContent now

def verifyResponse (client : Client) (answer : Post) (now : Int) : Option Bytes :=
  if answer.timestamp.isEmpty || answer.nonce.isEmpty || answer.signature.isEmpty then
    some (ascii "missing Wechatpay-Timestamp/Nonce/Signature answer headers")
  else verifyCallback crypto client answer now

/-! ## Sealed resources -/

def kTagLen : Nat := 16

def decryptAesGcm (ciphertextB64 nonce aad apiV3Key : Bytes) : Except Bytes Bytes :=
  if apiV3Key.length ≠ 32 then .error (ascii "api_v3_key must be 32 bytes")
  else
    let ciphertext := crypto.base64Decode ciphertextB64
    if ciphertext.length < kTagLen then .error (ascii "ciphertext too short")
    else if nonce.length ≠ 12 then .error (ascii "nonce must be 12 bytes")
    else
      let textLen := ciphertext.length - kTagLen
      match crypto.opens apiV3Key nonce aad (ciphertext.take textLen) (ciphertext.drop textLen) with
      | none => .error (ascii "decrypt final failed")
      | some plaintext => .ok plaintext

def decryptResource (apiV3Key ciphertext nonce associatedData : Bytes) : Except Bytes Bytes :=
  if apiV3Key.isEmpty then .error (ascii "api_v3_key is not configured")
  else decryptAesGcm crypto ciphertext nonce associatedData apiV3Key

/-! ## What it takes to pass -/

theorem validityError_eq_none {cert : X509} {now : Int} :
    validityError cert now = none ↔ isWithinValidity cert now = true := by
  unfold validityError isWithinValidity
  simp only [Bool.and_eq_true, decide_eq_true_eq]
  split_ifs with early late
  · simp [early]
  · simp [late]
  · simp only [true_iff]
    omega

/-- A message under the key of a certificate that is valid now. -/
structure Signed (message signatureB64 certContent : Bytes) (now : Int) : Prop where
  cert : ∃ cert, parseCert crypto.toHost certContent = some cert ∧
    isWithinValidity cert now = true
  signature : ∃ key, crypto.publicKey certContent = some key ∧
    crypto.digestVerifies key message (crypto.base64Decode signatureB64) = true

/-- The plaintext was sealed with the API key. -/
structure Sealed (apiV3Key ciphertext nonce associatedData plaintext : Bytes) : Prop where
  longKey : apiV3Key.length = 32
  longNonce : nonce.length = 12
  opens : ∃ text tag, crypto.base64Decode ciphertext = text ++ tag ∧ tag.length = kTagLen ∧
    crypto.opens apiV3Key nonce associatedData text tag = some plaintext

variable {crypto}

theorem signed_of_verified {message signatureB64 certContent : Bytes} {now : Int}
    (verified : verifyMessageWithCert crypto message signatureB64 certContent now = none) :
    Signed crypto message signatureB64 certContent now := by
  unfold verifyMessageWithCert at verified
  split at verified
  · cases verified
  · split at verified
    · cases verified
    · rename_i cert parsed
      split at verified
      · cases verified
      · rename_i valid
        split at verified
        · cases verified
        · rename_i key isKey
          dsimp only at verified
          split_ifs at verified with _ verifies
          exact ⟨⟨cert, parsed, validityError_eq_none.mp valid⟩, key, isKey, verifies⟩

theorem sealed_of_decrypted {apiV3Key ciphertext nonce associatedData plaintext : Bytes}
    (decrypted : decryptResource crypto apiV3Key ciphertext nonce associatedData =
      .ok plaintext) :
    Sealed crypto apiV3Key ciphertext nonce associatedData plaintext := by
  simp only [decryptResource, decryptAesGcm] at decrypted
  split_ifs at decrypted with _ longKey short longNonce
  split at decrypted
  · cases decrypted
  · rename_i opened isOpened
    cases decrypted
    refine ⟨not_ne_iff.mp longKey, not_ne_iff.mp longNonce, _, _,
      (List.take_append_drop _ _).symm, ?_, isOpened⟩
    rw [List.length_drop]
    omega

/-- A certificate that is trusted for a serial is filed under it, or is the deployed
one and carries it. -/
theorem Client.resolve_ok {host : Host} {client : Client} {serialNo certContent : Bytes}
    (resolved : client.resolveTrustedPlatformCert host serialNo = .ok certContent) :
    client.platformCerts (normalizeSerialHex serialNo) = some certContent ∨
      (host.readFile client.platformCertPath = some certContent ∧
        certificateSerialHex host certContent = normalizeSerialHex serialNo) := by
  simp only [resolveTrustedPlatformCert] at resolved
  split_ifs at resolved with _ _ cached _
  · cases resolved
    refine Or.inl ?_
    unfold getPlatformCert at cached ⊢
    cases found : client.platformCerts (normalizeSerialHex serialNo) with
    | none => simp [found] at cached
    | some filed => rfl
  · split at resolved
    · cases resolved
    · rename_i staticCert isStatic
      split_ifs at resolved with own _
      cases resolved
      exact Or.inr ⟨isStatic, own⟩

theorem verified_callback {client : Client} {post : Post} {now : Int}
    (verified : verifyCallback crypto client post now = none) :
    ∃ certContent,
      client.resolveTrustedPlatformCert crypto.toHost post.serialNo = .ok certContent ∧
      Signed crypto post.message post.signature certContent now := by
  unfold verifyCallback at verified
  split at verified
  · cases verified
  · rename_i certContent resolved
    exact ⟨certContent, resolved, signed_of_verified verified⟩

theorem verified_response {client : Client} {answer : Post} {now : Int}
    (verified : verifyResponse crypto client answer now = none) :
    verifyCallback crypto client answer now = none := by
  unfold verifyResponse at verified
  split at verified
  · cases verified
  · exact verified

end WechatChannel

namespace AlipayChannel

/-- A client with its own `app_id`; `verify` checks a signature of a text under the
public key of Alipay. -/
structure AlipayClient where
  appId : Bytes
  verify : Bytes → Bytes → Bool

/-- The marks of a form. -/
def formMarks : Form.Marks UInt8 := ⟨38, 61, by decide⟩

/-- The names that are not signed. -/
def unsigned (name : Bytes) : Bool := name = ascii "sign" || name = ascii "sign_type"

/-- The parameters but these and the empty ones, sorted and joined. -/
def signedContent (params : Form.Values UInt8) : Bytes :=
  Form.canonical formMarks (· ≤ ·) unsigned params

def verifyCallback (client : AlipayClient) (params : Form.Values UInt8) (signature : Bytes) :
    Bool :=
  client.verify (signedContent params) signature

end AlipayChannel
end DrogonPay
