import ExperimentQuery.Codec.Aes

/-!
# Sealed bytes

Galois counter mode with a nonce of 96 bits and no further data. The text is combined with the
blocks that a cipher makes of a counter, and a tag of 128 bits is added, by which a change is
noticed.

* `Gcm.stream`, `Gcm.crypt`: the key stream, and bytes combined with it;
* `Gcm.product`, `Gcm.hash`: the product of blocks as polynomials, and the hash of bytes;
* `Gcm.tag`: the tag of a sealed text;
* **`Gcm.sealBytes`**, **`Gcm.openBytes?`**.
-/

namespace ExperimentQuery.Gcm

open Aes (Block)

/-! ## The key stream -/

/-- The counter after a counter; only its last 32 bits count. -/
def nextCounter (c : Block) : Block :=
  c.extractLsb' 32 96 ++ (c.extractLsb' 0 32 + 1)

/-- The key stream of some blocks from a counter on. -/
def stream (cipher : Block → Block) : Nat → Block → Bytes
  | 0, _ => []
  | count + 1, c => (cipher c).bytes ++ stream cipher count (nextCounter c)

/-- Bytes combined with the key stream from a counter on. -/
def crypt (cipher : Block → Block) (c : Block) (bs : Bytes) : Bytes :=
  Bytes.mask (stream cipher ((bs.length + 15) / 16) c) bs

/-! ## The hash -/

/-- A polynomial times `x`. The highest bit of a block is its constant term. -/
def shift (b : Block) : Block :=
  if b.getLsbD 0 then (b >>> 1) ^^^ (BitVec.ofNat 128 0xe1 <<< 120) else b >>> 1

/-- The product of polynomials by the `count` last terms of the first. -/
def productTerms (a : Block) : Nat → Block → Block
  | 0, _ => 0
  | count + 1, b => (if a.getLsbD count then b else 0) ^^^ productTerms a count (shift b)

/-- The product of two polynomials. -/
def product (a b : Block) : Block := productTerms a 128 b

/-- Bytes in whole blocks, zeros being added at the end. -/
def blocks (bs : Bytes) : List Block :=
  (chunks 16 bs).map fun part => .ofBytes (part ++ List.replicate (16 - part.length) 0)

/-- The hash of blocks under a key. -/
def hash (key : Block) (bs : List Block) : Block := bs.foldl (fun y b => product (y ^^^ b) key) 0

/-! ## Sealing -/

/-- The counter of the tag, which comes before those of the text. -/
def firstCounter (nonce : Bytes) : Block := .ofBytes (nonce ++ [0, 0, 0, 1])

/-- The tag of a sealed text. -/
def tag (cipher : Block → Block) (nonce sealedText : Bytes) : Bytes :=
  let length := BitVec.ofNat 128 (8 * sealedText.length)
  Block.bytes (hash (cipher 0) (blocks sealedText ++ [length]) ^^^ cipher (firstCounter nonce))

/-- **The sealed form of bytes**, which is as long as they are, **and its tag.** -/
def sealBytes (cipher : Block → Block) (nonce plain : Bytes) : Bytes :=
  let text := crypt cipher (nextCounter (firstCounter nonce)) plain
  text ++ tag cipher nonce text

/-- **The bytes whose sealed form these are**; none if the tag does not fit. -/
def openBytes? (cipher : Block → Block) (nonce sealedBytes : Bytes) : Option Bytes :=
  let text := sealedBytes.take (sealedBytes.length - 16)
  if 16 ≤ sealedBytes.length ∧ sealedBytes.drop text.length = tag cipher nonce text then
    some (crypt cipher (nextCounter (firstCounter nonce)) text)
  else none

end ExperimentQuery.Gcm
