import AppGateway.Model.TenantKeyStore

namespace GatewayModel

open Keys

/-- The key-encrypting key, and `aes-256-gcm` of `node:crypto`: ciphertext and authentication tag from
    key, iv and plaintext, and back. -/
structure CryptoEnv where
  tenantKekKey : Buffer
  aesGcmSeal : Buffer → Buffer → Buffer → Buffer × Buffer
  aesGcmOpen : Buffer → Buffer → Buffer → Buffer → Option Buffer

variable (env : CryptoEnv)

def gcmIvLength : Nat := 12

def gcmAuthTagLength : Nat := 16

def utf8 (text : String) : Buffer := text.toUTF8.data.toList

/-- `toString('utf8')`; bytes that are no UTF-8 text are replaced. -/
def utf8Text (bytes : Buffer) : String := (String.fromUTF8? ⟨bytes.toArray⟩).getD "\uFFFD"

def sealed (key iv plaintext : Buffer) : Buffer :=
  let (ciphertext, authTag) := env.aesGcmSeal key iv plaintext
  iv ++ authTag ++ ciphertext

def encryptWithKey (key plaintext : Buffer) : Keys Buffer := do
  let iv ← randomBytes gcmIvLength
  return sealed env key iv plaintext

def decryptWithKey (key encoded : Buffer) : Except Thrown Buffer :=
  let iv := encoded.take gcmIvLength
  let authTag := (encoded.drop gcmIvLength).take gcmAuthTagLength
  let ciphertext := encoded.drop (gcmIvLength + gcmAuthTagLength)
  match env.aesGcmOpen key iv authTag ciphertext with
  | some plaintext => .ok plaintext
  | none => .error .decryptionFailed

def wrapDek (rawDek : Buffer) : Keys Buffer := encryptWithKey env env.tenantKekKey rawDek

def unwrapDek (wrapped : Buffer) : Except Thrown Buffer := decryptWithKey env env.tenantKekKey wrapped

def writeUInt16BE (value : Nat) : Except Thrown Buffer :=
  if value ≤ 65535 then .ok [UInt8.ofNat (value / 256), UInt8.ofNat (value % 256)]
  else .error (.error "ERR_OUT_OF_RANGE")

def readUInt16BE : Buffer → Except Thrown Nat
  | high :: low :: _ => .ok (high.toNat * 256 + low.toNat)
  | _ => .error (.error "ERR_BUFFER_OUT_OF_BOUNDS")

def encryptWithDek (dek : Buffer) (keyVersion : Nat) (plaintext : String) : Keys Buffer := do
  let versionPrefix ← .done (writeUInt16BE keyVersion)
  let body ← encryptWithKey env dek (utf8 plaintext)
  return versionPrefix ++ body

structure DekCiphertextEnvelope where
  keyVersion : Nat
  body : Buffer
deriving DecidableEq, Repr

def parseDekCiphertextEnvelope (encoded : Buffer) : Except Thrown DekCiphertextEnvelope := do
  let keyVersion ← readUInt16BE encoded
  return { keyVersion, body := encoded.drop 2 }

def decryptWithDek (dek encoded : Buffer) : Except Thrown String := do
  let envelope ← parseDekCiphertextEnvelope encoded
  let plaintext ← decryptWithKey env dek envelope.body
  return utf8Text plaintext

end GatewayModel
