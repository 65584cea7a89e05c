import ExperimentQuery.Codec.Bytes

/-!
# Base 64

Three bytes are written as four characters of six bits each. A last group of one or two bytes is
filled up with equals signs. Each sequence of bytes has one written form only.

* `Base64.digit`, `Base64.value?`: the character of six bits, and its value;
* `Base64.encode`, `Base64.decode?`;
* `Base64.text`, `Base64.read?`: the same on texts.
-/

namespace ExperimentQuery.Base64

/-- The character of six bits. -/
def digit (n : Nat) : Char :=
  if n < 26 then Char.ofNat (n + 65)
  else if n < 52 then Char.ofNat (n + 71)
  else if n < 62 then Char.ofNat (n - 4)
  else if n = 62 then '+' else '/'

/-- The value of a character. -/
def value? (c : Char) : Option Nat :=
  if 'A' ≤ c ∧ c ≤ 'Z' then some (c.toNat - 65)
  else if 'a' ≤ c ∧ c ≤ 'z' then some (c.toNat - 71)
  else if '0' ≤ c ∧ c ≤ '9' then some (c.toNat + 4)
  else if c = '+' then some 62
  else if c = '/' then some 63
  else none

theorem value?_digit : ∀ n < 64, value? (digit n) = some n := by decide +kernel

/-- The written form of some bytes. -/
def encode : Bytes → List Char
  | [] => []
  | [x] =>
    let n := x.toNat * 16
    [digit (n / 64), digit (n % 64), '=', '=']
  | [x, y] =>
    let n := (x.toNat * 256 + y.toNat) * 4
    [digit (n / 4096), digit (n / 64 % 64), digit (n % 64), '=']
  | x :: y :: z :: rest =>
    let n := (x.toNat * 256 + y.toNat) * 256 + z.toNat
    digit (n / 262144) :: digit (n / 4096 % 64) :: digit (n / 64 % 64) :: digit (n % 64) ::
      encode rest

/-- The number that four characters stand for. -/
def group? (a b c d : Char) : Option Nat := do
  return (((← value? a) * 64 + (← value? b)) * 64 + (← value? c)) * 64 + (← value? d)

/-- The last group of one byte; the bits that are left over are zero. -/
def lastOne? (a b : Char) : Option Bytes := do
  let n := (← value? a) * 64 + (← value? b)
  if n % 16 = 0 then some [UInt8.ofNat (n / 16)] else none

/-- The last group of two bytes; the bits that are left over are zero. -/
def lastTwo? (a b c : Char) : Option Bytes := do
  let n := ((← value? a) * 64 + (← value? b)) * 64 + (← value? c)
  if n % 4 = 0 then some [UInt8.ofNat (n / 1024), UInt8.ofNat (n / 4)] else none

/-- The bytes that characters stand for. -/
def decode? : List Char → Option Bytes
  | [] => some []
  | [a, b, '=', '='] => lastOne? a b
  | [a, b, c, '='] => lastTwo? a b c
  | a :: b :: c :: d :: rest => do
    let n ← group? a b c d
    let bs ← decode? rest
    some (UInt8.ofNat (n / 65536) :: UInt8.ofNat (n / 256) :: UInt8.ofNat n :: bs)
  | _ => none

/-- The text of some bytes. -/
def text (bs : Bytes) : String := String.ofList (encode bs)

/-- The bytes of a text, white space around it being passed over. -/
def read? (s : String) : Option Bytes := decode? (Text.trimChars s.toList)

end ExperimentQuery.Base64
