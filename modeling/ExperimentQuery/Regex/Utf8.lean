import ExperimentQuery.Unicode.CodeSet

/-!
# Ranges of characters as ranges of bytes

The characters of a range are encoded in one to four bytes. A range is cut into pieces whose
encodings are all the choices of one byte from each of some ranges of bytes.

* `ByteRange`: a range of bytes;
* `cut?`: where a range has to be cut;
* **`Range.byteRanges`**: the ranges of bytes of each piece, in order.
-/

namespace ExperimentQuery.Unicode

/-- The bytes from `first` to `last`. -/
structure ByteRange where
  first : Nat
  last : Nat
  deriving Repr, DecidableEq

/-- The bytes that encode a code point. -/
def utf8Bytes (n : Nat) : List Nat :=
  if n < 0x80 then [n]
  else if n < 0x800 then [0xC0 + n / 64, 0x80 + n % 64]
  else if n < 0x10000 then [0xE0 + n / 4096, 0x80 + n / 64 % 64, 0x80 + n % 64]
  else [0xF0 + n / 262144, 0x80 + n / 4096 % 64, 0x80 + n / 64 % 64, 0x80 + n % 64]

/-- A cut of a range after a code point, if it is one that parts the range. -/
def cutAfter? (r : Range) (n : Nat) : Option Nat :=
  if r.first ≤ n ∧ n < r.last then some n else none

/-- Where a range has to be cut so that its last `k` continuation bytes are free of those before:
the two ends must agree before them, or the range must begin and end with a whole run of them. -/
def alignedCut? (r : Range) (k : Nat) : Option Nat :=
  let m := Nat.pow 64 k
  if r.first / m = r.last / m then none
  else if r.first % m ≠ 0 then some (r.first / m * m + m - 1)
  else if r.last % m ≠ m - 1 then some (r.last / m * m - 1)
  else none

/-- Where a range has to be cut: at the surrogates, where encodings grow longer, and where its ends
do not fill the last bytes. -/
def cut? (r : Range) : Option Nat :=
  cutAfter? r 0xD7FF <|> cutAfter? r 0x7F <|> cutAfter? r 0x7FF <|> cutAfter? r 0xFFFF <|>
    if r.last < 0x80 then none
    else alignedCut? r 1 <|> alignedCut? r 2 <|> alignedCut? r 3

/-- The pieces of a range, cut at most `n` times one within the other. -/
def pieces : Nat → Range → List Range
  | 0, r => [r]
  | n + 1, r =>
    match cut? r with
    | none => [r]
    | some m => pieces n ⟨r.first, m⟩ ++ pieces n ⟨next m, r.last⟩

/-- **The ranges of bytes of each piece of a range**, in order. A range is cut within a cut at most
once at the surrogates, three times between lengths and six times at its ends. -/
def Range.byteRanges (r : Range) : List (List ByteRange) :=
  (pieces 16 r).map fun p => List.zipWith ByteRange.mk (utf8Bytes p.first) (utf8Bytes p.last)

/-- The ranges of bytes of the characters of a set, in order. -/
def CodeSet.byteRanges (s : CodeSet) : List (List ByteRange) := s.ranges.flatMap Range.byteRanges

end ExperimentQuery.Unicode
