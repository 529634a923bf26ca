import Orm.Proofs.Calendar.Pattern
import Orm.Value.Coercion

/-!
# Values that are kept in text columns

The text of a truth value, an integer, a date or a moment is converted back by a column of its own
kind, over the whole range of each kind. Nothing is lost but what the text of a moment does not
have: its fraction of a second, and that a second other than 59 was a leap second (`kept_as_text`).
-/

namespace Orm

open Text

/-! ## Texts without blanks at their ends -/

/-- A text that neither begins nor ends with a blank is left as it is. -/
theorem trim_blanks_eq {text : List Char} (hbegin : StopsAt isBlank text)
    (hend : StopsAt isBlank text.reverse) : trimBlanks text = text := by
  rw [trimBlanks, hbegin.drop_while, hend.drop_while, List.reverse_reverse]

/-- What ends with a padded number ends without a blank. -/
theorem stops_at_end (front : List Char) (width n : Nat) :
    StopsAt isBlank (front ++ paddedDigits width n).reverse := by
  have hsome : (paddedDigits width n).reverse ≠ [] :=
    mt List.reverse_eq_nil_iff.1 (padded_ne_nil width n)
  obtain ⟨c, rest, hdigits⟩ := List.exists_cons_of_ne_nil hsome
  have hmem : c ∈ paddedDigits width n :=
    List.mem_reverse.1 (hdigits ▸ List.mem_cons_self)
  rw [List.reverse_append, hdigits]
  rintro _ ⟨⟩
  exact is_blank_of_is_digit (is_digit_of_mem_padded hmem)

/-- Without a width a number is not padded. -/
theorem padded_zero (n : Nat) : paddedDigits 0 n = natDigits n := by
  rw [paddedDigits, Nat.zero_sub]
  rfl

/-- A written integer is not trimmed. -/
theorem trim_int_text (n : Int) : trimBlanks (intText n).toList = (intText n).toList := by
  rw [intText, String.toList_ofList, ← padded_zero]
  refine trim_blanks_eq ?_ (stops_at_end _ 0 n.natAbs)
  split
  · rintro _ ⟨⟩
    decide
  · simpa using stops_at_padded 0 n.natAbs []

/-- Digits are read as the natural number that they are written for. -/
theorem read_nat_digits (n : Nat) : readNat? (natDigits n) = some n := by
  have hsome : (natDigits n).isEmpty = false :=
    List.isEmpty_eq_false_iff.2 Nat.toDigits_ne_nil
  have hall : (natDigits n).all Char.isDigit = true :=
    List.all_eq_true.2 fun _ => Json.is_digit_of_mem
  have hvalue : digitsValue (natDigits n) = n :=
    padded_zero n ▸ digits_value_padded 0 n
  rw [readNat?, hsome, hall, hvalue]
  rfl

/-- A written integer is read back. -/
theorem read_int_text (n : Int) : readInt? (intText n).toList = some n := by
  rw [intText, String.toList_ofList, readInt?]
  by_cases hnegative : n < 0
  · have hsign : -(n.natAbs : Int) = n := by omega
    rw [if_pos hnegative, List.singleton_append, readSign]
    simp only [read_nat_digits, Option.bind_eq_bind, Option.bind_some, Option.map_some, pure,
      if_true, hsign]
  · have hsign : (n.natAbs : Int) = n := by omega
    have hplain : readSign (natDigits n.natAbs) = (false, natDigits n.natAbs) := by
      obtain ⟨c, rest, hdigits, hdigit⟩ := Json.digits_begin n.natAbs
      rw [hdigits, readSign]
      all_goals
        rintro _ ⟨⟩
        exact absurd hdigit (by decide)
    rw [if_neg hnegative, List.nil_append, hplain]
    simp only [read_nat_digits, Option.bind_eq_bind, Option.bind_some, Option.map_some, pure,
      Bool.false_eq_true, if_false, hsign]

namespace Pattern

variable (source : MomentParts)

/-- What is written by a pattern ends with its last element. -/
theorem write_concat (pattern : Pattern) (item : PatternItem) :
    write (pattern.concat item) source = write pattern source ++ writeItem source item := by
  simp [write]

/-- A written date is not trimmed. -/
theorem trim_date_written : trimBlanks (date.write source) = date.write source := by
  have hlast : date = date.dropLast.concat .day := rfl
  refine trim_blanks_eq (stops_at_year source.year _) ?_
  rw [hlast, write_concat]
  exact stops_at_end _ 2 source.day

/-- Nor is a written moment. -/
theorem trim_date_time_written : trimBlanks (dateTime.write source) = dateTime.write source := by
  have hlast : dateTime = dateTime.dropLast.concat .second := rfl
  refine trim_blanks_eq (stops_at_year source.year _) ?_
  rw [hlast, write_concat]
  exact stops_at_end _ 2 source.second

end Pattern

namespace Value

/-- The affinity of the columns that store truth values, integers, dates and moments as they are. -/
def ownAffinity? : Value → Option Affinity
  | .bool _ => some .boolean
  | .int _ => some .integer
  | .date _ => some .date
  | .dateTime _ => some .dateTime
  | .null | .float _ | .text _ | .blob _ | .array _ => none

/-- A value with a moment replaced by the whole second that a clock shows then. -/
def wholeSecond : Value → Value
  | .dateTime moment => .dateTime moment.wholeSecond
  | other => other

/-- The text of a truth value is converted back. -/
theorem bool_kept_as_text (flag : Bool) :
    (Value.text (Value.bool flag).display).coerce .boolean = .ok (.bool flag) := by
  cases flag <;> rfl

/-- So is that of an integer. -/
theorem int_kept_as_text (number : Int64) :
    (Value.text (Value.int number).display).coerce .integer = .ok (.int number) := by
  have hfits : FitsInt64 number.toInt := ⟨number.minValue_le_toInt, number.toInt_le⟩
  have hread : readInt? (trimBlanks (display (.int number)).toList) = some number.toInt := by
    rw [display, trim_int_text, read_int_text]
  have hcoerce (content : String) : (Value.text content).coerce .integer
      = ((Value.text content).toInt).map Value.int := rfl
  rw [hcoerce, toInt, hread]
  simp only [if_pos hfits, Int64.ofInt_toInt]
  rfl

/-- So is that of a date. -/
theorem date_kept_as_text (day : Date) :
    (Value.text (Value.date day).display).coerce .date = .ok (.date day) := by
  have hcoerce (content : String) : (Value.text content).coerce .date
      = ((Value.text content).toDate).map Value.date := rfl
  rw [hcoerce, toDate]
  simp only [display, String.toList_ofList, Pattern.trim_date_written, Pattern.read_date_written,
    Option.some_or]
  rfl

/-- That of a moment is converted back to its whole second. -/
theorem date_time_kept_as_text (moment : DateTime) :
    (Value.text (Value.dateTime moment).display).coerce .dateTime
      = .ok (.dateTime moment.wholeSecond) := by
  have hcoerce (content : String) : (Value.text content).coerce .dateTime
      = ((Value.text content).toDateTime).map Value.dateTime := rfl
  rw [hcoerce, toDateTime]
  simp only [display, String.toList_ofList, Pattern.trim_date_time_written, readDateTime?,
    Pattern.read_date_time_written, Option.some_or]
  rfl

/-- A value is a whole second already if and only if it is no moment, one without nanoseconds, or
the beginning of a leap second at second 59. -/
theorem whole_second_eq_iff {value : Value} :
    value.wholeSecond = value ↔ ∀ moment, value = .dateTime moment →
      moment.time.nanos = 0 ∨ moment.time.second = 59 ∧ moment.time.nanos = 1000000000 := by
  cases value with
  | dateTime moment =>
      have hwhole : moment.wholeSecond = moment ↔
          moment.time.nanos = 0 ∨ moment.time.second = 59 ∧ moment.time.nanos = 1000000000 := by
        obtain ⟨date, hour, minute, second, nanos, htime⟩ := moment
        simp only [DateTime.wholeSecond, TimeOfDay.wholeSecond, DateTime.mk.injEq,
          TimeOfDay.mk.injEq, true_and]
        split <;> split <;> omega
      simpa [wholeSecond] using hwhole
  | null | bool | int | float | text | date | blob | array => simp [wholeSecond]

/-- Every truth value, integer, date and moment is stored in a text column as its text, and a column
of its own affinity gives it back from there: every integer of 64 bits, every date whatever its
year, and every moment as the whole second that a clock shows then. So the value is the same again
if and only if it is no moment with a fraction of a second, and none at a leap second other than
that of second 59. -/
theorem kept_as_text (value : Value) {affinity : Affinity}
    (h : value.ownAffinity? = some affinity) :
    value.coerce .text = .ok (.text value.display) ∧
    (Value.text value.display).coerce affinity = .ok value.wholeSecond ∧
    (value.wholeSecond = value ↔ ∀ moment, value = .dateTime moment →
      moment.time.nanos = 0 ∨ moment.time.second = 59 ∧ moment.time.nanos = 1000000000) := by
  cases value with
  | bool flag =>
      obtain rfl := Option.some.inj h
      exact ⟨rfl, bool_kept_as_text flag, whole_second_eq_iff⟩
  | int number =>
      obtain rfl := Option.some.inj h
      exact ⟨rfl, int_kept_as_text number, whole_second_eq_iff⟩
  | date day =>
      obtain rfl := Option.some.inj h
      exact ⟨rfl, date_kept_as_text day, whole_second_eq_iff⟩
  | dateTime moment =>
      obtain rfl := Option.some.inj h
      exact ⟨rfl, date_time_kept_as_text moment, whole_second_eq_iff⟩
  | null | float | text | blob | array => cases h

/-- A leap second of a year with five digits is the same again. -/
theorem leap_second_kept_as_text :
    let moment : DateTime := ⟨⟨12345, 6, 30, by decide⟩, ⟨23, 59, 59, 1000000000, by decide⟩⟩
    (Value.dateTime moment).ownAffinity? = some .dateTime ∧
    (Value.dateTime moment).coerce .text = .ok (.text "+12345-06-30 23:59:60") ∧
    (Value.text "+12345-06-30 23:59:60").coerce .dateTime = .ok (.dateTime moment) := by
  intro moment
  have hdisplay : (Value.dateTime moment).display = "+12345-06-30 23:59:60" := by
    decide +kernel
  obtain ⟨htext, hback, hwhole⟩ := kept_as_text (.dateTime moment) rfl
  have hsame : (Value.dateTime moment).wholeSecond = .dateTime moment :=
    hwhole.2 fun other hother => by
      obtain rfl := Value.dateTime.inj hother
      exact .inr ⟨rfl, rfl⟩
  rw [hdisplay] at htext hback
  exact ⟨rfl, htext, hback.trans (congrArg Except.ok hsame)⟩

/-- A leap second at second 23 is the second 24. -/
example :
    let leap : DateTime := ⟨⟨2024, 1, 2, by decide⟩, ⟨20, 19, 23, 1000000000, by decide⟩⟩
    let next : DateTime := ⟨⟨2024, 1, 2, by decide⟩, ⟨20, 19, 24, 0, by decide⟩⟩
    (Value.dateTime leap).coerce .text = .ok (.text "2024-01-02 20:19:24") ∧
      (Value.text "2024-01-02 20:19:24").coerce .dateTime = .ok (.dateTime next) := by
  decide +kernel

/-- Half a second is lost. -/
theorem half_second_lost_as_text :
    let moment : DateTime := ⟨⟨2024, 1, 2, by decide⟩, ⟨3, 4, 5, 500000000, by decide⟩⟩
    let stored : DateTime := ⟨⟨2024, 1, 2, by decide⟩, ⟨3, 4, 5, 0, by decide⟩⟩
    (Value.dateTime moment).ownAffinity? = some .dateTime ∧
    (Value.dateTime moment).coerce .text = .ok (.text "2024-01-02 03:04:05") ∧
    (Value.text "2024-01-02 03:04:05").coerce .dateTime = .ok (.dateTime stored) ∧
    Value.dateTime stored ≠ .dateTime moment := by
  decide +kernel

end Value

end Orm
