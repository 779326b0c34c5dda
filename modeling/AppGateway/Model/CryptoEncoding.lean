import AppGateway.Codec.Base64
import AppGateway.Model.Crypto

/-! `utils/crypto.ts` over the base64 texts it passes between its functions. -/

namespace GatewayModel.Encoded

open Keys

variable (env : CryptoEnv)

def toBase64 (bytes : Buffer) : String := String.ofList (Codec.Base64.encode bytes)

def fromBase64 (text : String) : Buffer := Codec.Base64.decode text.toList

def encryptWithKey (key plaintext : Buffer) : Keys String := do
  let iv ← randomBytes gcmIvLength
  let (ciphertext, authTag) := env.aesGcmSeal key iv plaintext
  return toBase64 (iv ++ authTag ++ ciphertext)

def decryptWithKey (key : Buffer) (encoded : String) : Except Thrown Buffer :=
  let raw := fromBase64 encoded
  let iv := raw.take gcmIvLength
  let authTag := (raw.drop gcmIvLength).take gcmAuthTagLength
  let ciphertext := raw.drop (gcmIvLength + gcmAuthTagLength)
  match env.aesGcmOpen key iv authTag ciphertext with
  | some plaintext => .ok plaintext
  | none => .error .decryptionFailed

def writeUInt16BE (value : Int) : Except Thrown Buffer :=
  if 0 ≤ value ∧ value ≤ 65535 then .ok [UInt8.ofNat (value.toNat / 256), UInt8.ofNat (value.toNat % 256)]
  else .error (.error "ERR_OUT_OF_RANGE")

def encryptWithDek (dek : Buffer) (keyVersion : Int) (plaintext : String) : Keys String := do
  let versionPrefix ← .done (writeUInt16BE keyVersion)
  let encoded ← encryptWithKey env dek (utf8 plaintext)
  let body := fromBase64 encoded
  return toBase64 (versionPrefix ++ body)

structure DekCiphertextEnvelope where
  keyVersion : Nat
  body : String
deriving DecidableEq, Repr

def parseDekCiphertextEnvelope (encoded : String) : Except Thrown DekCiphertextEnvelope := do
  let raw := fromBase64 encoded
  let keyVersion ← readUInt16BE raw
  return { keyVersion, body := toBase64 (raw.drop 2) }

def decryptWithDek (dek : Buffer) (encoded : String) : Except Thrown String := do
  let envelope ← parseDekCiphertextEnvelope encoded
  let plaintext ← decryptWithKey env dek envelope.body
  return utf8Text plaintext

end GatewayModel.Encoded
