import ExperimentQuery.Unicode.GraphemeBreak

/-!
# Breaks between words

Where a text can be parted into words hangs on the part that each character plays.

* one set for each part that a character can play;
* `WordBreak.names`: their names;
* `WordBreak.ofName?`: the part of a name.
-/

namespace ExperimentQuery.Unicode.WordBreak

open Category Property

/-- The carriage return. -/
def cr : SetExpr := .table "D"

/-- The line feed. -/
def lf : SetExpr := .table "A"

/-- Other characters that end a line. -/
def newline : SetExpr := .table "B-C 85 2028-2029"

/-- The joiner of no width. -/
def zwj : SetExpr := .table "200D"

/-- Characters that extend the one before. -/
def extend : SetExpr := (GraphemeBreak.extend ∪ spacingMark) \ zwj

/-- Format characters. -/
def format : SetExpr :=
  Category.format \ .table "600-605 6DD 70F 890-891 8E2 200B-200D 110BD 110CD E0020-E007F"

/-- Katakana. -/
def katakana : SetExpr := .table "
  3031-3035 309B-309C 30A0-30FA 30FC-30FF 31F0-31FF 32D0-32FE 3300-3357 FF66-FF9D 1AFF0-1AFF3
  1AFF5-1AFFB 1AFFD-1AFFE 1B000 1B120-1B122 1B155 1B164-1B167"

/-- Hebrew letters. -/
def hebrewLetter : SetExpr := .table "
  5D0-5EA 5EF-5F2 FB1D FB1F-FB28 FB2A-FB36 FB38-FB3C FB3E FB40-FB41 FB43-FB44 FB46-FB4F"

/-- Letters of words parted by blanks. -/
def aLetter : SetExpr :=
  alphabetic \ (ideographic ∪ extend ∪ katakana ∪ hebrewLetter ∪ .table "
    E01-E30 E32-E33 E40-E46 E81-E82 E84 E86-E8A E8C-EA3 EA5 EA7-EB0 EB2-EB3 EBD EC0-EC4 EC6
    EDC-EDF 1000-102A 103F 1050-1055 105A-105D 1061 1065-1066 106E-1070 1075-1081 108E 1780-17B3
    17D7 17DC 1950-196D 1970-1974 1980-19AB 19B0-19C9 1A20-1A54 1AA7 3041-3096 309D-309F A9E0-A9E4
    A9E6-A9EF A9FA-A9FE AA60-AA76 AA7A AA7E-AAAF AAB1 AAB5-AAB6 AAB9-AABD AAC0 AAC2 AADB-AADD
    11700-1171A 11740-11746 1B001-1B11F 1B132 1B150-1B152") ∪ .table "
    2C2-2C5 2D2-2D7 2DE-2DF 2E5-2EB 2ED 2EF-2FF 55A-55C 55E 58A 5F3 70F A708-A716 A720-A721
    A789-A78A AB5B"

/-- Punctuation between letters. -/
def midLetter : SetExpr := .table "3A B7 387 55F 5F4 2027 FE13 FE55 FF1A"

/-- Punctuation between digits. -/
def midNum : SetExpr := .table "2C 3B 37E 589 60C-60D 66C 7F8 2044 FE50 FE54 FF0C FF1B"

/-- Punctuation between letters or digits. -/
def midNumLet : SetExpr := .table "2E 2018-2019 2024 FE52 FF07 FF0E"

/-- Digits and their punctuation. -/
def numeric : SetExpr := decimalNumber ∪ .table "600-605 66B 6DD 890-891 8E2 19DA 110BD 110CD"

/-- Connectors. -/
def extendNumLet : SetExpr := connectorPunctuation ∪ .table "202F"

/-- The single quotation mark. -/
def singleQuote : SetExpr := .table "27"

/-- The double quotation mark. -/
def doubleQuote : SetExpr := .table "22"

/-- Letters of which two make a flag. -/
def regionalIndicator : SetExpr := Property.regionalIndicator

/-- Blanks that keep together. -/
def wSegSpace : SetExpr := .table "20 1680 2000-2006 2008-200A 205F 3000"

/-- The names of the parts. -/
def names : List NamedSet := [
  ⟨["cr"], cr⟩,
  ⟨["lf"], lf⟩,
  ⟨["nl", "newline"], newline⟩,
  ⟨["zwj"], zwj⟩,
  ⟨["extend"], extend⟩,
  ⟨["fo", "format"], format⟩,
  ⟨["ka", "katakana"], katakana⟩,
  ⟨["hl", "hebrewletter"], hebrewLetter⟩,
  ⟨["le", "aletter"], aLetter⟩,
  ⟨["ml", "midletter"], midLetter⟩,
  ⟨["mn", "midnum"], midNum⟩,
  ⟨["mb", "midnumlet"], midNumLet⟩,
  ⟨["nu", "numeric"], numeric⟩,
  ⟨["ex", "extendnumlet"], extendNumLet⟩,
  ⟨["sq", "singlequote"], singleQuote⟩,
  ⟨["dq", "doublequote"], doubleQuote⟩,
  ⟨["ri", "regionalindicator"], regionalIndicator⟩,
  ⟨["wsegspace"], wSegSpace⟩]

/-- The part with this name, in lower case without separators. -/
def ofName? (name : String) : Option SetExpr := NamedSet.find? names name

end ExperimentQuery.Unicode.WordBreak
