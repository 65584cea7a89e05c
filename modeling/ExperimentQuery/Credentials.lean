import ExperimentQuery.Codec.Base64
import ExperimentQuery.Codec.Gcm
import ExperimentQuery.Json.Parser
import ExperimentQuery.Json.Printer
import ExperimentQuery.Json.Record

/-!
# Sealed connection params

The credentials of an analytics project are stored as base 64 text that holds a nonce and, sealed
with it under a master key, their JSON form.

* `Key`, `Key.read`, `Key.text`; `Nonce`;
* `SealError`, `SealError.message`;
* `sealedText`, `openText`: bytes sealed as text, and opened;
* `ConnectionParams`, **`ConnectionParams.sealedText`**, **`ConnectionParams.openText`**.
-/

namespace ExperimentQuery

/-! ## Keys -/

/-- A master key. -/
abbrev Key := BitVec 256

/-- What keeps two seals under one key apart. -/
abbrev Nonce := BitVec 96

/-- The bytes of a key. -/
def Key.bytes (k : Key) : Bytes := Bytes.ofNat 32 k.toNat

/-- The bytes of a nonce. -/
def Nonce.bytes (n : Nonce) : Bytes := Bytes.ofNat 12 n.toNat

/-- The number of bytes of a nonce. -/
def nonceLength : Nat := 12

/-- Why something sealed cannot be opened. -/
inductive SealError where
  | decryptionFailed
  | invalidKeyLength
  | invalidCiphertext
  | invalidParams
  deriving Repr, DecidableEq

/-- What is said about a failure. -/
def SealError.message : SealError → String
  | .decryptionFailed => "decryption failed"
  | .invalidKeyLength => "invalid key length: expected 32 bytes"
  | .invalidCiphertext => "invalid ciphertext"
  | .invalidParams => "connection params are not valid JSON"

/-- The key that a base 64 text holds. -/
def Key.read (text : String) : Except SealError Key :=
  match Base64.read? text with
  | none => .error .invalidKeyLength
  | some bs =>
    if bs.length = 32 then .ok (BitVec.ofNat 256 bs.toNat) else .error .invalidKeyLength

/-- The base 64 text of a key. -/
def Key.text (k : Key) : String := Base64.text k.bytes

/-! ## Sealed bytes -/

/-- Bytes sealed under a key, as text. -/
def sealedText (key : Key) (nonce : Nonce) (plain : Bytes) : String :=
  Base64.text (nonce.bytes ++ Gcm.sealBytes (Aes.encrypt key.bytes) nonce.bytes plain)

/-- The bytes that a text holds sealed. -/
def openText (key : Key) (text : String) : Except SealError Bytes :=
  match Base64.read? text with
  | none => .error .invalidCiphertext
  | some bs =>
    if bs.length ≤ nonceLength then .error .invalidCiphertext
    else
      match Gcm.openBytes? (Aes.encrypt key.bytes) (bs.take nonceLength) (bs.drop nonceLength) with
      | some plain => .ok plain
      | none => .error .decryptionFailed

/-! ## Connection params -/

/-- The credentials of an analytics project. -/
structure ConnectionParams where
  projectId : String := ""
  secret : String := ""
  username : String := ""
  deriving Repr, DecidableEq

namespace ConnectionParams

/-- Connection params. -/
def ofJson? (v : Json) : Option ConnectionParams := do
  let r ← v.record? ["projectId", "secret", "username"]
  return {
    projectId := ← r.withDefault "projectId" "" Json.string?
    secret := ← r.withDefault "secret" "" Json.string?
    username := ← r.withDefault "username" "" Json.string? }

/-- The members of connection params. -/
def toJson (p : ConnectionParams) : Json :=
  .obj [("projectId", .str p.projectId), ("secret", .str p.secret), ("username", .str p.username)]

/-- **Connection params sealed under a key.** -/
def sealedText (key : Key) (nonce : Nonce) (p : ConnectionParams) : String :=
  ExperimentQuery.sealedText key nonce (.ofString p.toJson.compact)

/-- The connection params that bytes hold as JSON. -/
def ofBytes? (bs : Bytes) : Option ConnectionParams :=
  (Json.parseBytesWithFlaws? bs).bind ofJson?

/-- **The connection params that a text holds sealed.** -/
def openText (key : Key) (text : String) : Except SealError ConnectionParams :=
  match ExperimentQuery.openText key text with
  | .error e => .error e
  | .ok bs =>
    match ofBytes? bs with
    | some p => .ok p
    | none => .error .invalidParams

end ConnectionParams

end ExperimentQuery
