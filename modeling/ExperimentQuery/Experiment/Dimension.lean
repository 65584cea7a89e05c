import ExperimentQuery.Unicode.Word
import ExperimentQuery.Experiment.Basic

/-!
# Placeholders of dimensions

A dimension's expression may hold placeholders such as `{{ startDate }}`, which stand for a date
or the id of the experiment. A placeholder is a word between double braces, with white space
around it or not; one whose word is not known is kept as it is.

* `placeholder?`: the placeholder at the front of a text;
* `templateParts`: a text as characters and placeholders;
* **`Dimension.resolve`**: the expression with its placeholders replaced.
-/

namespace ExperimentQuery

/-- A placeholder: its word, and how it is written. -/
structure Placeholder where
  word : List Char
  written : List Char
  deriving Repr, DecidableEq

/-- The placeholder at the front of a text. -/
def placeholder? (cs : List Char) : Option Placeholder :=
  match cs with
  | '\x7b' :: '\x7b' :: inner =>
    let word := (Text.trimStart inner).takeWhile Unicode.isWord
    let rest := Text.trimStart ((Text.trimStart inner).dropWhile Unicode.isWord)
    match word, rest with
    | _ :: _, '\x7d' :: '\x7d' :: after => some ⟨word, cs.take (cs.length - after.length)⟩
    | _, _ => none
  | _ => none

/-- A part of a template: a character that stands for itself, or a placeholder. -/
inductive TemplatePart where
  | char (c : Char)
  | slot (p : Placeholder)
  deriving Repr, DecidableEq

/-- The parts of a text from the left; the first `skip` characters belong to a placeholder already
taken. -/
def templateParts : Nat → List Char → List TemplatePart
  | _, [] => []
  | skip + 1, _ :: cs => templateParts skip cs
  | 0, c :: cs =>
    match placeholder? (c :: cs) with
    | some p => .slot p :: templateParts (p.written.length - 1) cs
    | none => .char c :: templateParts 0 cs

/-- What the placeholders stand for. -/
structure PlaceholderValues where
  start : Time.Instant
  stop : Time.Instant
  experimentId : String

/-- The text that a placeholder's word stands for. -/
def PlaceholderValues.value? (vs : PlaceholderValues) (word : String) : Option String :=
  match word with
  | "startDate" => some vs.start.plainText
  | "endDate" => some vs.stop.plainText
  | "startDateISO" => some vs.start.rfc3339Millis
  | "endDateISO" => some vs.stop.rfc3339Millis
  | "experimentId" => some vs.experimentId
  | _ => none

/-- The characters that a part of a template stands for. -/
def TemplatePart.fill (vs : PlaceholderValues) : TemplatePart → List Char
  | .char c => [c]
  | .slot p => ((vs.value? (String.ofList p.word)).map String.toList).getD p.written

/-- A text with its placeholders replaced. -/
def fillTemplate (vs : PlaceholderValues) (cs : List Char) : List Char :=
  (templateParts 0 cs).flatMap (·.fill vs)

/-- **The expression of a dimension with its placeholders replaced.** -/
def Dimension.resolve (d : Dimension) (vs : PlaceholderValues) : String :=
  String.ofList (fillTemplate vs d.expression.toList)

end ExperimentQuery
