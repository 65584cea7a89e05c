/-!
# Samples

The numbers captured from events are told apart by their bits: two zeros have a sign each, and so
have the values that are no numbers.

* `Sample`: the bits of a double;
* `Sample.ofFloat`, `Sample.value`: the sample of a double and the double of a sample;
* `Sample.orderKey`: the place of a sample in the total order of all bits.
-/

namespace ExperimentQuery

/-- A number captured from an event. -/
structure Sample where
  bits : UInt64
  deriving Repr, DecidableEq

namespace Sample

/-- The sample of a double. -/
def ofFloat (x : Float) : Sample := ⟨x.toBits⟩

/-- The double of a sample. -/
def value (s : Sample) : Float := Float.ofBits s.bits

/-- The place of a sample in the total order of all bits: from the negative values, the greatest
magnitude first, to the positive ones. -/
def orderKey (s : Sample) : Int :=
  let bits := s.bits.toNat
  if bits < Nat.pow 2 63 then bits else (Nat.pow 2 63 : Int) - 1 - bits

end Sample

end ExperimentQuery
