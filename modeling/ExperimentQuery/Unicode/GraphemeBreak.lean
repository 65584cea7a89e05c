import ExperimentQuery.Unicode.Property

/-!
# Breaks between written units

Where a text can be parted into the units that a reader sees hangs on the part that each
character plays.

* one set for each part that a character can play;
* `GraphemeBreak.names`: their names;
* `GraphemeBreak.ofName?`: the part of a name.
-/

namespace ExperimentQuery.Unicode.GraphemeBreak

open Category Property

/-- The carriage return. -/
def cr : SetExpr := .table "D"

/-- The line feed. -/
def lf : SetExpr := .table "A"

/-- The joiner of no width. -/
def zwj : SetExpr := .table "200D"

/-- Characters that extend the one before. -/
def extend : SetExpr := graphemeExtend ∪ emojiModifier

/-- Characters that belong to the one after. -/
def prepend : SetExpr :=
  prependedConcatenationMark ∪
    .table "D4E 111C2-111C3 113D1 1193F 11941 11A3A 11A84-11A89 11D46 11F02"

/-- Characters that stand apart. -/
def control : SetExpr :=
  (Category.control ∪ lineSeparator ∪ paragraphSeparator ∪ format ∪ defaultIgnorableCodePoint) \
    (extend ∪ prepend ∪ cr ∪ lf ∪ zwj ∪ .table "115F-1160 3164 FFA0")

/-- Marks that take room and belong to what is before. -/
def spacingMark : SetExpr :=
  Category.spacingMark \ (extend ∪ .table "
    102B-102C 1038 1062-1064 1067-106D 1083 1087-108C 108F 109A-109C 1A61 1A63-1A64 AA7B AA7D
    11720-11721") ∪ .table "E33 EB3"

/-- Letters of which two make a flag. -/
def regionalIndicator : SetExpr := Property.regionalIndicator

/-- Leading consonants of Hangul. -/
def l : SetExpr := .table "1100-115F A960-A97C"

/-- Vowels of Hangul. -/
def v : SetExpr := .table "1160-11A7 D7B0-D7C6 16D63 16D67-16D6A"

/-- Trailing consonants of Hangul. -/
def t : SetExpr := .table "11A8-11FF D7CB-D7FB"

/-- Syllables of Hangul without a trailing consonant. -/
def lv : SetExpr := .table "AC00-D788/1C"

/-- Syllables of Hangul with a trailing consonant. -/
def lvt : SetExpr := .table "AC00-D7A3" \ lv

/-- The names of the parts. -/
def names : List NamedSet := [
  ⟨["cr"], cr⟩,
  ⟨["lf"], lf⟩,
  ⟨["zwj"], zwj⟩,
  ⟨["ex", "extend"], extend⟩,
  ⟨["pp", "prepend"], prepend⟩,
  ⟨["cn", "control"], control⟩,
  ⟨["sm", "spacingmark"], spacingMark⟩,
  ⟨["ri", "regionalindicator"], regionalIndicator⟩,
  ⟨["l"], l⟩,
  ⟨["v"], v⟩,
  ⟨["t"], t⟩,
  ⟨["lv"], lv⟩,
  ⟨["lvt"], lvt⟩]

/-- The part with this name, in lower case without separators. -/
def ofName? (name : String) : Option SetExpr := NamedSet.find? names name

end ExperimentQuery.Unicode.GraphemeBreak
