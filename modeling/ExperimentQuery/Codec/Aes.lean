import ExperimentQuery.Chunks
import ExperimentQuery.Codec.Bytes

/-!
# AES with a key of 256 bits

The cipher works on sixteen bytes that stand in four columns of four. Bytes are polynomials over
two elements, taken modulo `x⁸ + x⁴ + x³ + x + 1`.

* `Aes.times`, `Aes.inverse`: the product and the inverse of bytes;
* `Aes.substitute`, `Aes.shiftRows`, `Aes.mixColumns`: the parts of a round;
* `Aes.roundKeys`: the keys of the rounds;
* **`Aes.encrypt`**: the cipher on a block of 128 bits.
-/

namespace ExperimentQuery.Aes

/-! ## Bytes as polynomials -/

/-- A byte times `x`. -/
def double (b : UInt8) : UInt8 := if b < 128 then b <<< 1 else (b <<< 1) ^^^ 0x1b

/-- The product of two bytes by the `count` lowest bits of the first. -/
def timesBits : Nat → UInt8 → UInt8 → UInt8
  | 0, _, _ => 0
  | count + 1, a, b => (if a % 2 = 1 then b else 0) ^^^ timesBits count (a / 2) (double b)

/-- The product of two bytes. -/
def times (a b : UInt8) : UInt8 := timesBits 8 a b

/-- The inverse of a byte, which is its 254th power; zero for zero. -/
def inverse (b : UInt8) : UInt8 := (List.replicate 254 b).foldl times 1

/-- A byte turned to the left. -/
def turn (b : UInt8) (n : UInt8) : UInt8 := (b <<< n) ||| (b >>> (8 - n))

/-- The byte that stands for a byte: an affine map of its inverse. -/
def substituteByte (b : UInt8) : UInt8 :=
  let i := inverse b
  i ^^^ turn i 1 ^^^ turn i 2 ^^^ turn i 3 ^^^ turn i 4 ^^^ 0x63

/-- The substitutes of all bytes. -/
def substitutes : Array UInt8 :=
  ((List.range 256).map fun n => substituteByte (UInt8.ofNat n)).toArray

/-! ## Rounds -/

/-- Each byte replaced by its substitute. -/
def substitute (bs : Bytes) : Bytes := bs.map fun b => substitutes.getD b.toNat 0

/-- The rows of a state turned, each by its number. -/
def shiftRows (bs : Bytes) : Bytes :=
  [0, 5, 10, 15, 4, 9, 14, 3, 8, 13, 2, 7, 12, 1, 6, 11].map fun i => bs.getD i 0

/-- A column times the polynomial of the cipher. -/
def mixColumn : Bytes → Bytes
  | [a, b, c, d] =>
    [double a ^^^ times 3 b ^^^ c ^^^ d, a ^^^ double b ^^^ times 3 c ^^^ d,
     a ^^^ b ^^^ double c ^^^ times 3 d, times 3 a ^^^ b ^^^ c ^^^ double d]
  | column => column

/-- Each column times the polynomial of the cipher. -/
def mixColumns (bs : Bytes) : Bytes := (chunks 4 bs).flatMap mixColumn

/-! ## Keys -/

/-- The word that follows eight words of the key; `number` is its place. -/
def nextWord (number : Nat) (last oldest : Bytes) : Bytes :=
  let changed :=
    if number % 8 = 0 then
      Bytes.mask [(List.replicate (number / 8 - 1) ()).foldl (fun c _ => double c) 1, 0, 0, 0]
        (substitute (last.drop 1 ++ last.take 1))
    else if number % 8 = 4 then substitute last
    else last
  Bytes.mask changed oldest

/-- The words of the key, made longer by `count` words; the last word stands first. -/
def expand : Nat → List Bytes → List Bytes
  | 0, ws => ws
  | count + 1, ws => expand count (nextWord ws.length (ws.headD []) (ws.getD 7 []) :: ws)

/-- The fifteen keys of the rounds. -/
def roundKeys (key : Bytes) : List Bytes :=
  (chunks 4 (expand 52 (chunks 4 key).reverse).reverse).map List.flatten

/-- The rounds after the first key; the last one leaves the columns as they are. -/
def rounds : List Bytes → Bytes → Bytes
  | [], bs => bs
  | [k], bs => Bytes.mask k (shiftRows (substitute bs))
  | k :: ks, bs => rounds ks (Bytes.mask k (mixColumns (shiftRows (substitute bs))))

/-! ## The cipher -/

/-- A block of 128 bits. -/
abbrev Block := BitVec 128

/-- The sixteen bytes of a block. -/
def Block.bytes (b : Block) : Bytes := Bytes.ofNat 16 b.toNat

/-- The block of sixteen bytes. -/
def Block.ofBytes (bs : Bytes) : Block := BitVec.ofNat 128 bs.toNat

/-- The cipher with the keys of its rounds. -/
def encryptWith (keys : List Bytes) (b : Block) : Block :=
  match keys with
  | [] => b
  | k :: ks => .ofBytes (rounds ks (Bytes.mask k b.bytes))

/-- **The cipher with a key of 32 bytes.** -/
def encrypt (key : Bytes) : Block → Block := encryptWith (roundKeys key)

end ExperimentQuery.Aes
