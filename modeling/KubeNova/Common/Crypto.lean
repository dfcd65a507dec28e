import KubeNova.Foundation.Text

/-!
# Cryptographic primitives

The platform's primitives are parameters: the development uses their types, the
length of a SHA-1 digest and that encrypted data decrypts again under its key.
-/

namespace KubeNova.Common

open KubeNova.Foundation

structure Crypto where
  /-- Hexadecimal SHA-256 of a text. -/
  sha256 : String → String
  /-- HMAC-SHA-1 under a key. -/
  hmacSha1 : List UInt8 → List UInt8 → List UInt8
  length_hmacSha1 : ∀ key data, (hmacSha1 key data).length = 20
  /-- The 64-byte key derived from a password and a salt. -/
  scrypt : String → String → List UInt8
  /-- AES-256-GCM under a key, with the initialisation vector drawn for it. -/
  encrypt : String → String → String → String
  /-- The encrypted text, or `none` where decryption throws. -/
  decrypt : String → String → Option String
  decrypt_encrypt : ∀ iv text key, decrypt (encrypt iv text key) key = some text

/-- Primitives that know the digests of a table and seal nothing, for examples. -/
def Crypto.ofDigests (digests : List (String × String)) : Crypto where
  sha256 text := (digests.lookup text).getD ""
  hmacSha1 _ _ := List.replicate 20 0
  length_hmacSha1 _ _ := List.length_replicate
  scrypt _ _ := List.replicate 64 0
  encrypt _ text _ := text
  decrypt payload _ := some payload
  decrypt_encrypt _ _ _ := rfl

def hexDigit (n : Nat) : Char :=
  if n < 10 then Char.ofNat (48 + n) else Char.ofNat (87 + n)

/-- `buffer.toString('hex')`. -/
def toHex (bytes : List UInt8) : String :=
  String.ofList (bytes.flatMap fun b => [hexDigit (b.toNat / 16), hexDigit (b.toNat % 16)])

def hexValue (c : Char) : Nat :=
  if Text.isDigit c then c.toNat - 48 else (Char.toLower c).toNat - 87

def fromHexChars : List Char → List UInt8
  | a :: b :: cs =>
      if Text.isHex a && Text.isHex b then
        UInt8.ofNat (hexValue a * 16 + hexValue b) :: fromHexChars cs
      else []
  | _ => []

/-- `Buffer.from(s, 'hex')`, which stops at the first pair that is not hexadecimal. -/
def fromHex (s : String) : List UInt8 := fromHexChars s.toList

namespace Crypto

variable (crypto : Crypto)

def hashPassword (salt plain : String) : String :=
  salt ++ ":" ++ toHex (crypto.scrypt plain salt)

def verifyPassword (password : String) (passwordHash : Option String) : Bool :=
  match passwordHash with
  | none => false
  | some stored =>
      if stored = "" then false
      else match Text.split ':' stored with
        | [salt, storedHex] => crypto.scrypt password salt == fromHex storedHex
        | _ => false

end Crypto
end KubeNova.Common
