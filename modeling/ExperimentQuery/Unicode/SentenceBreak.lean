import ExperimentQuery.Unicode.Property

/-!
# Breaks between sentences

Where a text can be parted into sentences hangs on the part that each character plays.

* one set for each part that a character can play;
* `SentenceBreak.names`: their names;
* `SentenceBreak.ofName?`: the part of a name.
-/

namespace ExperimentQuery.Unicode.SentenceBreak

open Category Property

/-- The carriage return. -/
def cr : SetExpr := .table "D"

/-- The line feed. -/
def lf : SetExpr := .table "A"

/-- Other characters that end a paragraph. -/
def sep : SetExpr := .table "85 2028-2029"

/-- Characters that extend the one before. -/
def extend : SetExpr := graphemeExtend ∪ spacingMark ∪ .table "200D"

/-- Format characters. -/
def format : SetExpr :=
  Category.format \ .table "600-605 6DD 890-891 8E2 200C-200D 110BD 110CD E0020-E007F"

/-- White space. -/
def sp : SetExpr := whiteSpace \ (cr ∪ lf ∪ sep)

/-- Lower-case characters. -/
def lower : SetExpr := lowercase \ (graphemeExtend ∪ .table "10D0-10FA 10FD-10FF")

/-- Upper-case characters. -/
def upper : SetExpr := (titlecaseLetter ∪ uppercase) \ .table "1C90-1CBA 1CBD-1CBF"

/-- Other letters. -/
def oLetter : SetExpr := alphabetic \ (lower ∪ upper ∪ extend) ∪ .table "5F3"

/-- Digits and their punctuation. -/
def numeric : SetExpr := decimalNumber ∪ .table "600-605 66B-66C 6DD 890-891 8E2 19DA 110BD 110CD"

/-- Full stops. -/
def aTerm : SetExpr := .table "2E 2024 FE52 FF0E"

/-- Other characters that end a sentence. -/
def sTerm : SetExpr := sentenceTerminal \ aTerm

/-- Punctuation within a sentence. -/
def sContinue : SetExpr := .table "
  2C-2D 3A-3B 37E 55D 60C-60D 7F8 1802 1808 2013-2014 3001 FE10-FE11 FE13-FE14 FE31-FE32 FE50-FE51
  FE54-FE55 FE58 FE63 FF0C-FF0D FF1A-FF1B FF64"

/-- Brackets and quotation marks. -/
def close : SetExpr :=
  (openPunctuation ∪ closePunctuation ∪ quotationMark) \ .table "FF02 FF07" ∪
    .table "275B-2760 2E00-2E0D 2E1C-2E1D 2E20-2E21 1F676-1F678"

/-- The names of the parts. -/
def names : List NamedSet := [
  ⟨["cr"], cr⟩,
  ⟨["lf"], lf⟩,
  ⟨["se", "sep"], sep⟩,
  ⟨["ex", "extend"], extend⟩,
  ⟨["fo", "format"], format⟩,
  ⟨["sp"], sp⟩,
  ⟨["lo", "lower"], lower⟩,
  ⟨["up", "upper"], upper⟩,
  ⟨["le", "oletter"], oLetter⟩,
  ⟨["nu", "numeric"], numeric⟩,
  ⟨["at", "aterm"], aTerm⟩,
  ⟨["st", "sterm"], sTerm⟩,
  ⟨["sc", "scontinue"], sContinue⟩,
  ⟨["cl", "close"], close⟩]

/-- The part with this name, in lower case without separators. -/
def ofName? (name : String) : Option SetExpr := NamedSet.find? names name

end ExperimentQuery.Unicode.SentenceBreak
