import ExperimentQuery.Text.Basic

/-!
# Bytes

A number is written in bytes with the highest byte first.

* `Bytes.toNat`, `Bytes.ofNat`: the number that some bytes stand for, and the bytes of a number;
* `Bytes.ofString`, `Bytes.chars`: the UTF-8 form of a text, and the characters in some bytes;
* `Bytes.hex`: two hexadecimal digits for each byte;
* `Bytes.mask`: bytes combined with others by exclusive or.
-/

namespace ExperimentQuery

/-- A sequence of bytes. -/
abbrev Bytes := List UInt8

namespace Bytes

/-- The number that some bytes stand for. -/
def toNat (bs : Bytes) : Nat := bs.foldl (fun n b => n * 256 + b.toNat) 0

/-- The `count` lowest bytes of a number. -/
def ofNat : Nat → Nat → Bytes
  | 0, _ => []
  | count + 1, n => ofNat count (n / 256) ++ [UInt8.ofNat n]

@[simp]
theorem length_ofNat (count n : Nat) : (ofNat count n).length = count := by
  induction count generalizing n with
  | zero => rfl
  | succ count ih => simp [ofNat, ih]

/-- The UTF-8 form of a text. -/
def ofString (s : String) : Bytes := s.toUTF8.data.toList

/-- The characters after some bytes, which are passed over. -/
def charsAfter : Nat → Bytes → List (Option Char)
  | _, [] => []
  | skipped + 1, _ :: bs => charsAfter skipped bs
  | 0, b :: bs =>
    match ByteArray.utf8DecodeChar? (b :: bs).toByteArray 0 with
    | some c => some c :: charsAfter (c.utf8Size - 1) bs
    | none => none :: charsAfter 0 bs

/-- **The characters in some bytes**; a byte of no character stands for none. -/
def chars (bs : Bytes) : List (Option Char) := charsAfter 0 bs

theorem charsAfter_length_append (bs more : Bytes) :
    charsAfter bs.length (bs ++ more) = chars more := by
  induction bs with
  | nil => rfl
  | cons b bs ih => exact ih

theorem chars_utf8EncodeChar_append (c : Char) (more : Bytes) :
    chars (String.utf8EncodeChar c ++ more) = some c :: chars more := by
  have hdecode : ByteArray.utf8DecodeChar? (String.utf8EncodeChar c ++ more).toByteArray 0 =
      some c := by
    rw [List.toByteArray_append, ByteArray.utf8DecodeChar?_utf8EncodeChar_append]
  have hlength := String.length_utf8EncodeChar c
  obtain ⟨b, bs, hbytes⟩ := List.exists_cons_of_ne_nil (String.utf8EncodeChar_ne_nil (c := c))
  rw [hbytes] at hdecode hlength ⊢
  have hsize : c.utf8Size - 1 = bs.length := by rw [← hlength]; rfl
  rw [List.cons_append] at hdecode ⊢
  rw [chars, charsAfter, hdecode]
  simp only [hsize, charsAfter_length_append]

@[simp]
theorem chars_ofString (s : String) : chars (ofString s) = s.toList.map some := by
  have hbytes : ofString s = s.toList.flatMap String.utf8EncodeChar := by
    rw [ofString, String.toUTF8_eq_toByteArray, ← String.utf8Encode_toList, List.utf8Encode,
      List.toList_data_toByteArray]
  rw [hbytes]
  induction s.toList with
  | nil => rfl
  | cons c cs ih => rw [List.flatMap_cons, chars_utf8EncodeChar_append, ih, List.map_cons]

/-- Two hexadecimal digits for each byte. -/
def hex (bs : Bytes) : String := String.ofList (bs.flatMap fun b => Text.hexDigits 2 b.toNat)

/-- The exclusive or of each byte with the one at its place; it ends where either does. -/
def mask (keys bs : Bytes) : Bytes := List.zipWith (· ^^^ ·) bs keys

@[simp]
theorem length_mask (keys bs : Bytes) : (mask keys bs).length = min bs.length keys.length := by
  simp [mask]

end Bytes

end ExperimentQuery
