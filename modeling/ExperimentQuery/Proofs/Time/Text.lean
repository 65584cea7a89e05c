import ExperimentQuery.Proofs.Decimal.Digits
import ExperimentQuery.Proofs.Time.Calendar
import ExperimentQuery.Time.Reader
import Mathlib.Tactic.IntervalCases
import Mathlib.Tactic.SplitIfs

/-!
# Instants and their texts

The text of an instant, as documents hold it, denotes the instant. The parts of the text are read
one after the other, each with the rest of the text after it.

* `Instant.Valid`: an instant on a day of the calendar, in a leap second at most at the end of a
  minute;
* `dateField_text`, `timeField_text`: the parts are read back;
* **`Instant.read?_rfc3339`**: so is the whole;
* `timeField_leap`, `offsetField_mod`: what the parts of any text denote;
* **`Instant.valid_of_read?`**: so whatever is read is valid.
-/

namespace ExperimentQuery.Time

open Decimal (spanDigits digitsValue)

/-- The instant lies on a day of the calendar, and a leap second follows the last second of a
minute. -/
structure Instant.Valid (t : Instant) : Prop where
  inCalendar : inCalendar t.day
  nanos_lt : t.nanos < 2 * nanosPerSecond
  leap : nanosPerSecond ≤ t.nanos → t.seconds % 60 = 59

/-! ## Numbers and separators -/

variable {rest : List Char}

theorem isBlank_of_isDigit {c : Char} (h : c.isDigit) : Unicode.isBlank c = false := by
  simp only [Char.isDigit, Bool.and_eq_true, decide_eq_true_eq, ge_iff_le,
    UInt32.le_iff_toNat_le] at h
  obtain ⟨hlow, hhigh⟩ := h
  have hlow : 48 ≤ c.val.toNat := hlow
  have hhigh : c.val.toNat ≤ 57 := hhigh
  have hc : c = Char.ofNat c.val.toNat := (Char.ofNat_toNat c).symm
  rw [hc]
  generalize c.val.toNat = n at *
  interval_cases n <;> rfl

theorem trimStart_cons {c : Char} (h : Unicode.isBlank c = false) :
    Text.trimStart (c :: rest) = c :: rest := by
  simp [Text.trimStart, h]

theorem exists_cons_padDigits (width n : Nat) :
    ∃ c cs, padDigits width n = c :: cs ∧ c.isDigit := by
  obtain ⟨c, cs, h⟩ := List.exists_cons_of_ne_nil (padDigits_ne_nil width n)
  exact ⟨c, cs, h, isDigit_of_mem_padDigits c (h ▸ List.mem_cons_self)⟩

theorem trimStart_padDigits (width n : Nat) :
    Text.trimStart (padDigits width n ++ rest) = padDigits width n ++ rest := by
  obtain ⟨c, cs, h, hc⟩ := exists_cons_padDigits width n
  rw [h, List.cons_append, trimStart_cons (isBlank_of_isDigit hc)]

theorem number_padDigits {limit width n : Nat} (hlimit : (padDigits width n).length ≤ limit)
    (hrest : EndsDigits rest) : number limit (padDigits width n ++ rest) = some (n, rest) := by
  unfold number takeDigits
  rw [spanDigits_append isDigit_of_mem_padDigits hrest]
  dsimp only
  rw [List.take_of_length_le hlimit, List.drop_of_length_le hlimit,
    if_neg (padDigits_ne_nil width n), digitsValue_padDigits, List.nil_append]

theorem field_padDigits {low high n : Nat} (hlow : low ≤ n) (hhigh : n ≤ high) (h : n < 100)
    (hrest : EndsDigits rest) : field low high (padDigits 2 n ++ rest) = some (n, rest) := by
  have hlength : (padDigits 2 n).length = 2 := length_padDigits (by decide) h
  unfold field
  rw [trimStart_padDigits, number_padDigits (Nat.le_of_eq hlength) hrest]
  simp [hlow, hhigh]

theorem separator_self {sep : Char} (h : Unicode.isBlank sep = false) :
    separator sep (sep :: rest) = some rest := by
  unfold separator
  rw [trimStart_cons h]
  simp

theorem separator_dash : separator '-' ('-' :: rest) = some rest := separator_self rfl

theorem separator_colon : separator ':' (':' :: rest) = some rest := separator_self rfl

/-! ## Dates -/

theorem yearField_digits {n : Nat} (h : n < 10000) (hrest : EndsDigits rest) :
    yearField (padDigits 4 n ++ rest) = some ((n : Int), rest) := by
  have hlength : (padDigits 4 n).length = 4 := length_padDigits (by decide) h
  have hnumber := number_padDigits (Nat.le_of_eq hlength) hrest
  obtain ⟨c, cs, hcs, hc⟩ := exists_cons_padDigits 4 n
  unfold yearField
  rw [trimStart_padDigits, hcs, List.cons_append]
  rw [hcs, List.cons_append] at hnumber
  split
  next heq => exact absurd ((List.cons.inj heq).1 ▸ hc) (by decide)
  next heq => exact absurd ((List.cons.inj heq).1 ▸ hc) (by decide)
  next => rw [hnumber, Option.map_some]

/-- After a sign a year may have any number of digits. -/
theorem number_padDigits_length (n : Nat) (hrest : EndsDigits rest) :
    number (padDigits 4 n ++ rest).length (padDigits 4 n ++ rest) = some (n, rest) :=
  number_padDigits (by rw [List.length_append]; exact Nat.le_add_right _ _) hrest

theorem yearField_minus (cs : List Char) :
    yearField ('-' :: cs) = (number cs.length cs).map fun (n, rest) => (-(n : Int), rest) := rfl

theorem yearField_plus (cs : List Char) :
    yearField ('+' :: cs) = (number cs.length cs).map fun (n, rest) => ((n : Int), rest) := rfl

theorem yearField_text (year : Int) (hrest : EndsDigits rest) :
    yearField ((yearText year).toList ++ rest) = some (year, rest) := by
  unfold yearText
  split_ifs with hplain hneg
  · have hn : (year.natAbs : Int) = year := by omega
    rw [toList_padNat, yearField_digits (by omega) hrest, hn]
  · have hn : -(year.natAbs : Int) = year := by omega
    have hsign : (("-" ++ Text.padNat 4 year.natAbs).toList ++ rest) =
        '-' :: (padDigits 4 year.natAbs ++ rest) := by simp
    rw [hsign, yearField_minus, number_padDigits_length _ hrest, Option.map_some]
    exact congrArg (fun n => some (n, rest)) hn
  · have hn : (year.natAbs : Int) = year := by omega
    have hsign : (("+" ++ Text.padNat 4 year.natAbs).toList ++ rest) =
        '+' :: (padDigits 4 year.natAbs ++ rest) := by simp
    rw [hsign, yearField_plus, number_padDigits_length _ hrest, Option.map_some]
    exact congrArg (fun n => some (n, rest)) hn

/-- **The text of a date is read back.** -/
theorem dateField_text {d : Date} (h : d.valid) (hrest : EndsDigits rest) :
    dateField (d.text.toList ++ rest) = some (d, rest) := by
  have hvalid := h
  simp only [Date.valid, Bool.and_eq_true, decide_eq_true_eq] at hvalid
  obtain ⟨⟨⟨⟨-, hmonth⟩, hmonth'⟩, hday⟩, hday'⟩ := hvalid
  have hlast : d.day ≤ 31 := by
    refine Nat.le_trans hday' ?_
    unfold daysInMonth
    split_ifs <;> decide
  have htext : d.text.toList ++ rest =
      (yearText d.year).toList ++
        '-' :: (padDigits 2 d.month ++ '-' :: (padDigits 2 d.day ++ rest)) := by
    simp [Date.text]
  have hyear := yearField_text d.year
    (show EndsDigits ('-' :: (padDigits 2 d.month ++ '-' :: (padDigits 2 d.day ++ rest))) from rfl)
  have hm := field_padDigits hmonth hmonth' (by omega)
    (show EndsDigits ('-' :: (padDigits 2 d.day ++ rest)) from rfl)
  have hd := field_padDigits hday hlast (by omega) hrest
  unfold dateField
  rw [htext, hyear]
  simp only [Option.bind_eq_bind, Option.bind_some, separator_dash, hm, hd, h, if_true]

/-! ## Times of day -/

theorem decimals_point (cs : List Char) :
    decimals ('.' :: cs) =
      if (Decimal.spanDigits cs).1 = [] then none
      else
        let kept := (Decimal.spanDigits cs).1.take 9
        some (Decimal.digitsValue kept * Nat.pow 10 (9 - kept.length),
          (Decimal.spanDigits cs).2) := rfl

theorem decimals_digits (width n : Nat) (hwidth : 0 < width) (hwidth' : width ≤ 9)
    (h : n < Nat.pow 10 width) (hrest : EndsDigits rest) :
    decimals ('.' :: (padDigits width n ++ rest)) = some (n * Nat.pow 10 (9 - width), rest) := by
  have hlength := length_padDigits hwidth h
  rw [decimals_point, spanDigits_append isDigit_of_mem_padDigits hrest]
  dsimp only
  rw [if_neg (padDigits_ne_nil width n), List.take_of_length_le (by omega), hlength,
    digitsValue_padDigits]

theorem decimals_text (t : Instant) :
    decimals (t.fractionText.toList ++ 'Z' :: rest) = some (t.fraction, 'Z' :: rest) := by
  have hend : EndsDigits ('Z' :: rest) := rfl
  have hlt : t.fraction < 1000000000 := Nat.mod_lt _ (by decide)
  have hpoint : ∀ width n, ("." ++ Text.padNat width n).toList ++ 'Z' :: rest =
      '.' :: (padDigits width n ++ 'Z' :: rest) := by simp
  unfold Instant.fractionText
  dsimp only
  split_ifs with h0 h3 h6
  · rw [h0]
    rfl
  · have hdigits := decimals_digits 3 (t.fraction / 1000000) (by decide) (by decide)
      (show _ < 1000 by omega) hend
    have hwhole : t.fraction / 1000000 * Nat.pow 10 (9 - 3) = t.fraction :=
      Nat.div_mul_cancel (Nat.dvd_of_mod_eq_zero h3)
    rw [hpoint, hdigits, hwhole]
  · have hdigits := decimals_digits 6 (t.fraction / 1000) (by decide) (by decide)
      (show _ < 1000000 by omega) hend
    have hwhole : t.fraction / 1000 * Nat.pow 10 (9 - 6) = t.fraction :=
      Nat.div_mul_cancel (Nat.dvd_of_mod_eq_zero h6)
    rw [hpoint, hdigits, hwhole]
  · have hdigits := decimals_digits 9 t.fraction (by decide) (by decide) hlt hend
    have hwhole : t.fraction * Nat.pow 10 (9 - 9) = t.fraction := Nat.mul_one _
    rw [hpoint, hdigits, hwhole]

theorem endsDigits_fractionText (t : Instant) :
    EndsDigits (t.fractionText.toList ++ 'Z' :: rest) := by
  unfold Instant.fractionText
  dsimp only
  split_ifs <;> simp [EndsDigits]

/-- The second that is shown: 60 stands for a leap second. -/
def shownSecond (t : Instant) : Nat := t.secondOfDay % 60 + t.nanos / nanosPerSecond

theorem clock_shownSecond {t : Instant} (h : t.Valid) :
    shownSecond t ≤ 60 ∧
      (if shownSecond t = 60 then
        (⟨t.secondOfDay / 3600 * 3600 + t.secondOfDay / 60 % 60 * 60 + 59,
          t.fraction + nanosPerSecond⟩ : Clock)
      else ⟨t.secondOfDay / 3600 * 3600 + t.secondOfDay / 60 % 60 * 60 + shownSecond t,
          t.fraction⟩) = ⟨t.secondOfDay, t.nanos⟩ := by
  have hnanos := h.nanos_lt
  have hleap : nanosPerSecond ≤ t.nanos → t.secondOfDay % 60 = 59 := by
    intro hle
    have hminute := h.leap hle
    unfold Instant.secondOfDay secondsPerDay
    omega
  unfold shownSecond Instant.fraction
  unfold nanosPerSecond at *
  split_ifs <;> simp only [Clock.mk.injEq] <;> omega

/-- **The text of a time of day is read back.** -/
theorem timeField_text {t : Instant} (h : t.Valid) :
    timeField (t.timeText.toList ++ (t.fractionText.toList ++ 'Z' :: rest)) =
      some (⟨t.secondOfDay, t.nanos⟩, 'Z' :: rest) := by
  obtain ⟨hshown, hclock⟩ := clock_shownSecond h
  have hday : t.secondOfDay < 86400 := by
    unfold Instant.secondOfDay secondsPerDay
    omega
  generalize hfraction : t.fractionText.toList ++ 'Z' :: rest = fraction
  have hend : EndsDigits fraction := hfraction ▸ endsDigits_fractionText t
  have htext : t.timeText.toList ++ fraction =
      padDigits 2 (t.secondOfDay / 3600) ++ ':' ::
        (padDigits 2 (t.secondOfDay / 60 % 60) ++ ':' ::
          (padDigits 2 (shownSecond t) ++ fraction)) := by
    simp [Instant.timeText, shownSecond]
  have hhour := field_padDigits (Nat.zero_le _) (show t.secondOfDay / 3600 ≤ 23 by omega) (by omega)
    (show EndsDigits (':' :: (padDigits 2 (t.secondOfDay / 60 % 60) ++ ':' ::
      (padDigits 2 (shownSecond t) ++ fraction))) from rfl)
  have hminute := field_padDigits (Nat.zero_le _) (show t.secondOfDay / 60 % 60 ≤ 59 by omega)
    (by omega) (show EndsDigits (':' :: (padDigits 2 (shownSecond t) ++ fraction)) from rfl)
  have hsecond := field_padDigits (Nat.zero_le _) hshown (by omega) hend
  have hdecimals : decimals fraction = some (t.fraction, 'Z' :: rest) :=
    hfraction ▸ decimals_text t
  unfold timeField
  rw [htext]
  simp only [Option.bind_eq_bind, hhour, Option.bind_some, separator_colon, hminute, hsecond,
    hdecimals]
  rw [← hclock]
  split_ifs <;> rfl

/-! ## Instants -/

/-- **The text of an instant denotes the instant.** -/
theorem Instant.read?_rfc3339 {t : Instant} (h : t.Valid) :
    Instant.read? t.rfc3339 = some t := by
  have hdate := dateField_text (Date.valid_ofDay h.inCalendar)
    (show EndsDigits ('T' :: (t.timeText.toList ++ (t.fractionText.toList ++ ['Z']))) from rfl)
  have htime : timeField (t.timeText.toList ++ (t.fractionText.toList ++ ['Z'])) =
      some (⟨t.secondOfDay, t.nanos⟩, ['Z']) := timeField_text h
  have htext : t.rfc3339.toList =
      (Date.ofDay t.day).text.toList ++
        'T' :: (t.timeText.toList ++ (t.fractionText.toList ++ ['Z'])) := by
    simp [Instant.rfc3339, Instant.date]
  have hoffset : offsetField (Text.trimStart ['Z']) = some (0, []) := rfl
  have hseconds : t.day * secondsPerDay + t.secondOfDay - 0 = t.seconds := by
    unfold Instant.day Instant.secondOfDay secondsPerDay
    omega
  have hcalendar : Time.inCalendar (t.seconds / secondsPerDay) := h.inCalendar
  unfold Instant.read?
  rw [htext, hdate]
  simp only [Option.bind_eq_bind, Option.bind_some, htime, hoffset, Date.toDay_ofDay, hseconds]
  rw [if_pos ⟨rfl, hcalendar⟩]

/-! ## What texts denote -/

theorem decimals_lt {n : Nat} {cs rest : List Char} (h : decimals cs = some (n, rest)) :
    n < nanosPerSecond := by
  unfold decimals at h
  split at h
  next cs =>
    obtain ⟨-, heq⟩ := Option.ite_none_left_eq_some.mp h
    obtain ⟨hn, -⟩ := Prod.mk.inj (Option.some.inj heq)
    have hdigits : ∀ c ∈ (spanDigits cs).1.take 9, c.isDigit :=
      fun c hc => isDigit_of_mem_spanDigits cs c (List.mem_of_mem_take hc)
    have hlength := List.length_take_le 9 (spanDigits cs).1
    have hvalue := digitsValue_lt hdigits
    change digitsValue ((spanDigits cs).1.take 9) *
      10 ^ (9 - ((spanDigits cs).1.take 9).length) = n at hn
    generalize (spanDigits cs).1.take 9 = kept at hn hlength hvalue
    calc n = digitsValue kept * 10 ^ (9 - kept.length) := hn.symm
      _ < 10 ^ kept.length * 10 ^ (9 - kept.length) :=
          Nat.mul_lt_mul_of_pos_right hvalue (Nat.pow_pos (by decide))
      _ = 10 ^ (kept.length + (9 - kept.length)) := (Nat.pow_add ..).symm
      _ = nanosPerSecond := by rw [Nat.add_sub_cancel' hlength]; rfl
  next => cases h; decide

theorem timeField_leap {clock : Clock} {cs rest : List Char}
    (h : timeField cs = some (clock, rest)) :
    clock.nanos < 2 * nanosPerSecond ∧
      (nanosPerSecond ≤ clock.nanos → clock.seconds % 60 = 59) := by
  obtain ⟨⟨hour, cs₁⟩, -, h⟩ := Option.bind_eq_some_iff.mp h
  obtain ⟨cs₂, -, h⟩ := Option.bind_eq_some_iff.mp h
  obtain ⟨⟨minute, cs₃⟩, -, h⟩ := Option.bind_eq_some_iff.mp h
  obtain ⟨cs₄, -, h⟩ := Option.bind_eq_some_iff.mp h
  obtain ⟨⟨second, cs₅⟩, -, h⟩ := Option.bind_eq_some_iff.mp h
  obtain ⟨⟨nanos, cs₆⟩, hdecimals, h⟩ := Option.bind_eq_some_iff.mp h
  have hnanos := decimals_lt hdecimals
  dsimp only at h
  split_ifs at h with hsecond
  · cases h
    dsimp only
    omega
  · cases h
    dsimp only
    omega

theorem hoursAndMinutes_mod {offset : Int} {cs rest : List Char}
    (h : hoursAndMinutes cs = some (offset, rest)) : offset % 60 = 0 := by
  obtain ⟨⟨hours, cs₁⟩, -, h⟩ := Option.bind_eq_some_iff.mp h
  obtain ⟨⟨minutes, cs₂⟩, -, h⟩ := Option.bind_eq_some_iff.mp h
  obtain ⟨-, heq⟩ := Option.ite_none_right_eq_some.mp h
  cases heq
  omega

theorem offsetField_mod {offset : Int} {cs rest : List Char}
    (h : offsetField cs = some (offset, rest)) : offset % 60 = 0 := by
  have hparts : ∀ x : Option (Int × List Char),
      (x.bind fun p => if p.1.natAbs < 86400 then some (p.1, p.2) else none) =
        some (offset, rest) → x = some (offset, rest) := by
    intro x hx
    obtain ⟨p, hp, hif⟩ := Option.bind_eq_some_iff.mp hx
    rw [hp, (Option.ite_none_right_eq_some.mp hif).2.symm]
  have hminus : ∀ cs : List Char,
      (hoursAndMinutes cs).map (fun p => (-p.1, p.2)) = some (offset, rest) →
        offset % 60 = 0 := by
    intro cs hcs
    obtain ⟨⟨n, _⟩, hn, heq⟩ := Option.map_eq_some_iff.mp hcs
    have hminutes := hoursAndMinutes_mod hn
    cases heq
    omega
  unfold offsetField at h
  dsimp only at h
  split at h
  · cases hparts _ h; rfl
  · cases hparts _ h; rfl
  · exact hoursAndMinutes_mod (hparts _ h)
  · exact hminus _ (hparts _ h)
  · exact hminus _ (hparts _ h)
  · split at h
    · cases hparts _ h; rfl
    · cases hparts _ h
  · cases hparts _ h

/-- **A text denotes an instant that has a text.** -/
theorem Instant.valid_of_read? {s : String} {t : Instant} (h : Instant.read? s = some t) :
    t.Valid := by
  obtain ⟨⟨date, cs₁⟩, -, h⟩ := Option.bind_eq_some_iff.mp h
  dsimp only at h
  split at h
  all_goals
    obtain ⟨cs₂, -, h⟩ := Option.bind_eq_some_iff.mp h
    obtain ⟨⟨clock, cs₃⟩, hclock, h⟩ := Option.bind_eq_some_iff.mp h
    obtain ⟨⟨offset, cs₄⟩, hoffset, h⟩ := Option.bind_eq_some_iff.mp h
    obtain ⟨⟨-, hcalendar⟩, heq⟩ := Option.ite_none_right_eq_some.mp h
    cases heq
    obtain ⟨hnanos, hleap⟩ := timeField_leap hclock
    have hminutes := offsetField_mod hoffset
    refine ⟨hcalendar, hnanos, fun hle => ?_⟩
    have hsecond := hleap hle
    unfold secondsPerDay
    dsimp only at *
    omega

/-- **An instant survives its text exactly if it is valid.** -/
theorem Instant.read?_rfc3339_iff {t : Instant} : Instant.read? t.rfc3339 = some t ↔ t.Valid :=
  ⟨Instant.valid_of_read?, Instant.read?_rfc3339⟩

end ExperimentQuery.Time
