import ExperimentQuery.Unicode.Property

/-!
# Characters of words and names

Words are made of alphabetic characters, marks, digits, connectors and joiners. Names follow a
newer version of the character database, which has more letters and numbers.

* `wordSet`, `isWord`: characters of words;
* `decimalDigitSet`, `isDecimalDigit`: digits;
* `isAlphabetic`, `isNumeric`, `isAlphanumeric`: letters and numbers of names.
-/

namespace ExperimentQuery.Unicode

open Category Property

/-- Characters of words. -/
def wordSet : CodeSet :=
  (alphabetic ∪ mark ∪ decimalNumber ∪ connectorPunctuation ∪ joinControl).codes

/-- Whether a character can stand in a word. -/
def isWord (c : Char) : Bool :=
  if c.toNat < 128 then c.isAlphanum || c == '_' else wordSet.has c

/-- Decimal digits. -/
def decimalDigitSet : CodeSet := decimalNumber.codes

/-- Whether a character is a decimal digit of some script. -/
def isDecimalDigit (c : Char) : Bool := if c.toNat < 128 then c.isDigit else decimalDigitSet.has c

/-- Alphabetic characters, those of the newer version included. -/
def alphabeticSet : CodeSet :=
  (alphabetic ∪ .table "
    88F C5C CDC A7CE-A7CF A7D2 A7D4 A7F1 10940-10959 10EC5-10EC7 10EFA-10EFB 11B60-11B67
    11DB0-11DDB 16EA0-16EB8 16EBB-16ED3 16FF2-16FF6 187F8-187FF 18D09-18D1E 18D80-18DF2
    1E6C0-1E6DE 1E6E0-1E6F5 1E6FE-1E6FF 2B73A-2B73F 2CEA2-2CEAD 323B0-33479").codes

/-- Numbers, those of the newer version included. -/
def numericSet : CodeSet :=
  (number ∪ .table "11DE0-11DE9 16FF4-16FF6").codes

/-- Characters of an alphabet or syllabary. -/
def isAlphabetic (c : Char) : Bool :=
  if c.toNat < 128 then c.isAlpha else alphabeticSet.has c

/-- Digits and other numbers. -/
def isNumeric (c : Char) : Bool := if c.toNat < 128 then c.isDigit else numericSet.has c

/-- Alphabetic characters and numbers. -/
def isAlphanumeric (c : Char) : Bool := isAlphabetic c || isNumeric c

end ExperimentQuery.Unicode
