/-!
# Code points

A character is named by its code point, a number below 110000 in hexadecimal digits. The numbers
from D800 to DFFF are no characters. White space is a handful of characters.

* `isBlank`: white space;
* `hexDigit?`, `hex?`: the value of hexadecimal digits;
* `char?`: the character of a code point;
* `next`, `prev`: the code points of the characters on either side.
-/

namespace ExperimentQuery.Unicode

/-- White space. -/
def isBlank (c : Char) : Bool :=
  ('\t' ≤ c && c ≤ '\x0d') || c == ' ' || c == '\x85' || c == '\xa0' || c == '\u1680' ||
    ('\u2000' ≤ c && c ≤ '\u200a') || c == '\u2028' || c == '\u2029' || c == '\u202f' ||
    c == '\u205f' || c == '\u3000'

/-- The value of a hexadecimal digit. -/
def hexDigit? (c : Char) : Option Nat :=
  if '0' ≤ c ∧ c ≤ '9' then some (c.toNat - '0'.toNat)
  else if 'A' ≤ c ∧ c ≤ 'F' then some (c.toNat - 'A'.toNat + 10)
  else if 'a' ≤ c ∧ c ≤ 'f' then some (c.toNat - 'a'.toNat + 10)
  else none

/-- The value of a nonempty run of hexadecimal digits. -/
def hex? (cs : List Char) : Option Nat :=
  if cs = [] then none
  else cs.foldlM (fun n c => (hexDigit? c).map (16 * n + ·)) 0

/-- The character of a code point. -/
def char? (n : Nat) : Option Char :=
  if n < 0xD800 ∨ (0xE000 ≤ n ∧ n < 0x110000) then some (Char.ofNat n) else none

/-- The greatest code point. -/
def greatest : Nat := 0x10FFFF

/-- The code point of the next character. -/
def next (n : Nat) : Nat := if n = 0xD7FF then 0xE000 else n + 1

/-- The code point of the character before. -/
def prev (n : Nat) : Nat := if n = 0xE000 then 0xD7FF else n - 1

end ExperimentQuery.Unicode
