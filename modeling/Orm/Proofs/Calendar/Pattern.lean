import Mathlib.Data.Nat.Digits.Defs
import Orm.Calendar.Pattern
import Orm.Proofs.Json.Text

/-!
# What a pattern writes is read back

An element that was written is read back before a text that does not go on with it
(`read_item_written`). So a pattern whose elements keep apart reads back all that it writes
(`read_written`), whatever the year is and also from a leap second.
-/

namespace Orm

open Text

/-! ## Digits -/

/-- A digit is not blank. -/
theorem is_blank_of_is_digit {c : Char} (h : c.isDigit = true) : isBlank c = false := by
  obtain ⟨hlow, hhigh⟩ : 48 ≤ c.toNat ∧ c.toNat ≤ 57 := by
    simpa [Char.isDigit, UInt32.le_iff_toNat_le] using h
  simp [isBlank, CodeRanges.contains, blanks, CodeRanges.containsPoint]
  omega

/-- All that is written of a padded number is digits. -/
theorem is_digit_of_mem_padded {width n : Nat} {c : Char} (h : c ∈ paddedDigits width n) :
    c.isDigit = true := by
  rcases List.mem_append.1 h with h | h
  · rw [List.eq_of_mem_replicate h]
    rfl
  · exact Json.is_digit_of_mem h

/-- A padded number that fits its width is as long as that. -/
theorem length_padded {width n : Nat} (hwidth : 0 < width) (h : n < 10 ^ width) :
    (paddedDigits width n).length = width := by
  have hdigits : (natDigits n).length ≤ width := Nat.toDigits_length 10 n width hwidth h
  rw [paddedDigits, List.length_append, List.length_replicate]
  omega

/-- Zeros in front of digits count nothing. -/
theorem digits_value_replicate (count : Nat) (digits : List Char) :
    digitsValue (List.replicate count '0' ++ digits) = digitsValue digits := by
  induction count with
  | zero => rfl
  | succ count ih => exact ih

/-- A padded number stands for itself. -/
theorem digits_value_padded (width n : Nat) : digitsValue (paddedDigits width n) = n := by
  rw [paddedDigits, digits_value_replicate]
  exact Nat.ofDigitChars_toDigits (by decide) (by decide)

/-- A padded number has digits. -/
theorem padded_ne_nil (width n : Nat) : paddedDigits width n ≠ [] :=
  List.append_ne_nil_of_right_ne_nil _ Nat.toDigits_ne_nil

/-- A padded number has a first digit. -/
theorem padded_begins (width n : Nat) :
    ∃ c rest, paddedDigits width n = c :: rest ∧ c.isDigit = true := by
  obtain ⟨c, rest, hdigits⟩ := List.exists_cons_of_ne_nil (padded_ne_nil width n)
  exact ⟨c, rest, hdigits, is_digit_of_mem_padded (hdigits ▸ List.mem_cons_self)⟩

/-- A text does not begin with a character that a test accepts. -/
abbrev StopsAt (test : Char → Bool) (text : List Char) : Prop := ∀ c ∈ text.head?, test c = false

/-- What a text does not begin with is not dropped. -/
theorem StopsAt.drop_while {test : Char → Bool} {text : List Char} (h : StopsAt test text) :
    text.dropWhile test = text := by
  cases text with
  | nil => rfl
  | cons c rest => rw [List.dropWhile_cons_of_neg (by simp [h c rfl])]

/-- A padded number begins without a blank. -/
theorem stops_at_padded (width n : Nat) (rest : List Char) :
    StopsAt isBlank (paddedDigits width n ++ rest) := by
  obtain ⟨c, tail, hdigits, hdigit⟩ := padded_begins width n
  rw [hdigits]
  rintro _ ⟨⟩
  exact is_blank_of_is_digit hdigit

namespace Pattern

/-- Digits are taken up to a limit that they reach, or to what is no digit. -/
theorem take_digits {limit : Nat} {digits rest : List Char}
    (hdigits : ∀ c ∈ digits, c.isDigit = true) (hlength : digits.length ≤ limit)
    (hstop : digits.length = limit ∨ StopsAt Char.isDigit rest) :
    takeDigits limit (digits ++ rest) = (digits, rest) := by
  induction limit generalizing digits with
  | zero =>
      obtain rfl := List.length_eq_zero_iff.1 (Nat.le_zero.1 hlength)
      rfl
  | succ limit ih =>
      cases digits with
      | nil =>
          obtain hfull | hstop := hstop
          · cases hfull
          · cases rest with
            | nil => rfl
            | cons c rest => rw [List.nil_append, takeDigits, if_neg (by simp [hstop c rfl])]
      | cons c digits =>
          obtain ⟨hc, hdigits⟩ := List.forall_mem_cons.1 hdigits
          rw [List.cons_append, takeDigits, if_pos hc,
            ih hdigits (Nat.le_of_succ_le_succ hlength) (hstop.imp_left Nat.succ.inj)]

/-- A padded number is read back. -/
theorem read_digits_padded {limit width n : Nat} {rest : List Char}
    (hlength : (paddedDigits width n).length ≤ limit)
    (hstop : (paddedDigits width n).length = limit ∨ StopsAt Char.isDigit rest) :
    readDigits? limit (paddedDigits width n ++ rest) = some (n, rest) := by
  have hsome : (paddedDigits width n).isEmpty = false :=
    List.isEmpty_eq_false_iff.2 (padded_ne_nil width n)
  rw [readDigits?, take_digits (fun _ => is_digit_of_mem_padded) hlength hstop]
  simp only [hsome, digits_value_padded, Bool.false_eq_true, if_false]

/-- A number below one hundred is read back, no blanks being in front of it. -/
theorem read_pair_padded {n : Nat} (h : n < 100) (rest : List Char) :
    readPair? ((paddedDigits 2 n ++ rest).dropWhile isBlank) = some (n, rest) := by
  rw [(stops_at_padded 2 n rest).drop_while]
  have hlength : (paddedDigits 2 n).length = 2 := length_padded (by decide) h
  exact read_digits_padded (Nat.le_of_eq hlength) (.inl hlength)

/-- Digits after a sign are read back before a text that does not go on with digits. -/
theorem read_signed_padded (width n : Nat) {rest : List Char}
    (hstop : StopsAt Char.isDigit rest) :
    readDigits? (paddedDigits width n ++ rest).length (paddedDigits width n ++ rest)
      = some (n, rest) := by
  refine read_digits_padded ?_ (.inr hstop)
  rw [List.length_append]
  exact Nat.le_add_right ..

/-- Every year is read back before a text that does not go on with digits. -/
theorem read_year_written (year : Int) {rest : List Char} (hstop : StopsAt Char.isDigit rest) :
    readYear? (writeYear year ++ rest) = some (year, rest) := by
  rw [writeYear]
  split
  · next hfour =>
    -- Without a sign the four digits reach the limit, whatever follows them.
    obtain ⟨c, tail, hdigits, hdigit⟩ := padded_begins 4 year.natAbs
    have hlength : (paddedDigits 4 year.natAbs).length = 4 := length_padded (by decide) (by omega)
    have hyear : (year.natAbs : Int) = year := Int.natAbs_of_nonneg hfour.1
    have hread : readDigits? 4 (paddedDigits 4 year.natAbs ++ rest) = some (year.natAbs, rest) :=
      read_digits_padded (Nat.le_of_eq hlength) (.inl hlength)
    rw [hdigits, List.cons_append] at hread ⊢
    rw [readYear?, hread, Option.map_some]
    · exact congrArg (fun year => some (year, rest)) hyear
    all_goals
      rintro _ ⟨⟩
      exact absurd hdigit (by decide)
  · next hsigned =>
    rw [List.cons_append]
    split
    · next hnegative =>
      have hyear : -(year.natAbs : Int) = year := by omega
      rw [readYear?, read_signed_padded 4 year.natAbs hstop, Option.map_some]
      exact congrArg (fun year => some (year, rest)) hyear
    · next hpositive =>
      have hyear : (year.natAbs : Int) = year := by omega
      rw [readYear?, read_signed_padded 4 year.natAbs hstop, Option.map_some]
      exact congrArg (fun year => some (year, rest)) hyear

/-- A year begins without a blank. -/
theorem stops_at_year (year : Int) (rest : List Char) :
    StopsAt isBlank (writeYear year ++ rest) := by
  rw [writeYear]
  split
  · exact stops_at_padded 4 year.natAbs rest
  · rintro _ ⟨⟩
    split <;> decide

/-- Groups of digits of a fraction are read back before a text that does not go on with digits. -/
theorem read_fraction_padded {width n : Nat} (hwidth : 0 < width ∧ width ≤ 9)
    (h : n < 10 ^ width) {rest : List Char} (hstop : StopsAt Char.isDigit rest) :
    readFraction? ('.' :: (paddedDigits width n ++ rest))
      = some (n * 10 ^ (9 - width), rest) := by
  have hlength : (paddedDigits width n).length = width := length_padded hwidth.1 h
  have hsome : (paddedDigits width n).isEmpty = false :=
    List.isEmpty_eq_false_iff.2 (padded_ne_nil width n)
  rw [readFraction?, take_digits (fun _ => is_digit_of_mem_padded) (hlength.le.trans hwidth.2)
    (.inr hstop)]
  simp only [hsome, digits_value_padded, hlength, hstop.drop_while, Bool.false_eq_true, if_false]
  rfl

/-- A fraction is read back before a text that does not go on with it. -/
theorem read_fraction_written {nanos : Nat} (h : nanos < 1000000000) {rest : List Char}
    (hdigit : StopsAt Char.isDigit rest) (hpoint : StopsAt (· = '.') rest) :
    readFraction? (writeFraction nanos ++ rest) = some (nanos, rest) := by
  rw [writeFraction]
  split
  · next hnone =>
    rw [List.nil_append, readFraction?, hnone]
    rintro tail rfl
    exact absurd (hpoint '.' rfl) (by decide)
  split
  · next hmillis =>
    rw [List.cons_append, read_fraction_padded (by decide) (by omega) hdigit]
    congr 2
    omega
  split
  · next hmicros =>
    rw [List.cons_append, read_fraction_padded (by decide) (by omega) hdigit]
    congr 2
    omega
  · rw [List.cons_append, read_fraction_padded (by decide) (by omega) hdigit, Nat.sub_self,
      Nat.pow_zero, Nat.mul_one]

/-! ## Elements -/

/-- The parts after the year fit two digits, and the nanoseconds are less than a second. -/
structure Fits (parts : MomentParts) : Prop where
  month : parts.month < 100
  day : parts.day < 100
  hour : parts.hour < 100
  minute : parts.minute < 100
  second : parts.second < 100
  nanos : parts.nanos < 1000000000

/-- The parts with the one that an element stands for as others have it. -/
def take (source parts : MomentParts) : PatternItem → MomentParts
  | .year => { parts with year := source.year }
  | .month => { parts with month := source.month }
  | .day => { parts with day := source.day }
  | .hour => { parts with hour := source.hour }
  | .minute => { parts with minute := source.minute }
  | .second => { parts with second := source.second }
  | .fraction => { parts with nanos := source.nanos }
  | .blanks | .literal _ => parts

/-- A text does not go on with what an element is. -/
def EndsAt (text : List Char) : PatternItem → Prop
  | .year => StopsAt Char.isDigit text
  | .fraction => StopsAt Char.isDigit text ∧ StopsAt (· = '.') text
  | .blanks => StopsAt isBlank text
  | .month | .day | .hour | .minute | .second | .literal _ => True

variable {source : MomentParts} {rest : List Char}

/-- An element that was written is read back before a text that does not go on with it. -/
theorem read_item_written (hfits : Fits source) {item : PatternItem} (hends : EndsAt rest item)
    (parts : MomentParts) :
    readItem? parts (writeItem source item ++ rest) item
      = some (take source parts item, rest) := by
  cases item with
  | year =>
      rw [writeItem, readItem?, (stops_at_year source.year rest).drop_while,
        read_year_written source.year hends]
      rfl
  | month =>
      rw [writeItem, readItem?, read_pair_padded hfits.month]
      rfl
  | day =>
      rw [writeItem, readItem?, read_pair_padded hfits.day]
      rfl
  | hour =>
      rw [writeItem, readItem?, read_pair_padded hfits.hour]
      rfl
  | minute =>
      rw [writeItem, readItem?, read_pair_padded hfits.minute]
      rfl
  | second =>
      rw [writeItem, readItem?, read_pair_padded hfits.second]
      rfl
  | fraction =>
      rw [writeItem, readItem?, read_fraction_written hfits.nanos hends.1 hends.2]
      rfl
  | blanks =>
      have hblanks : ([' '] ++ rest).dropWhile isBlank = rest :=
        (List.dropWhile_cons_of_pos (by decide)).trans (StopsAt.drop_while hends)
      rw [writeItem, readItem?, hblanks]
      rfl
  | literal c =>
      simp [writeItem, readItem?, take]

/-- No element of a pattern goes on with what the next ones write. -/
def KeepsApart (source : MomentParts) : Pattern → Prop
  | [] => True
  | item :: rest => EndsAt (write rest source) item ∧ KeepsApart source rest

/-- The elements of a pattern that keep apart are read back one after the other. -/
theorem read_items_written (hfits : Fits source) {pattern : Pattern}
    (hapart : KeepsApart source pattern) (parts : MomentParts) :
    readItems? pattern parts (write pattern source)
      = some (pattern.foldl (take source) parts, []) := by
  induction pattern generalizing parts with
  | nil => rfl
  | cons item pattern ih =>
      have hwritten : write (item :: pattern) source
          = writeItem source item ++ write pattern source := List.flatMap_cons
      rw [readItems?, hwritten, read_item_written hfits hapart.1]
      exact ih hapart.2 _

/-- A pattern whose elements keep apart reads back all that it writes. -/
theorem read_written (hfits : Fits source) {pattern : Pattern}
    (hapart : KeepsApart source pattern) :
    read? pattern (write pattern source) = some (pattern.foldl (take source) {}) := by
  rw [read?, read_items_written hfits hapart]

/-! ## Dates and moments -/

/-- The parts of a moment fit their digits. -/
theorem fits_of_date_time (moment : DateTime) : Fits (.ofDateTime moment) := by
  obtain ⟨⟨year, month, day, -, -, hmonth, -, hday⟩, ⟨hour, minute, second, nanos, htime⟩⟩ := moment
  have hlong : daysInMonth year month ≤ 31 := by
    unfold daysInMonth
    split_ifs <;> decide
  -- The shown second can be one more than the second, but not for two digits too many.
  have hshown : (if nanos < 1000000000 then second else second + 1) < 100 := by
    split <;> omega
  refine ⟨?_, ?_, ?_, ?_, hshown, Nat.mod_lt _ (by decide)⟩
  all_goals
    dsimp only [MomentParts.ofDateTime]
    omega

/-- The hyphens of a date keep its elements apart. -/
theorem date_keeps_apart (source : MomentParts) : KeepsApart source date := by
  refine ⟨?_, trivial, trivial, trivial, trivial, trivial⟩
  rintro _ ⟨⟩
  rfl

/-- The marks of a date and time keep the elements apart. -/
theorem date_time_keeps_apart (source : MomentParts) : KeepsApart source dateTime := by
  refine ⟨?_, trivial, trivial, trivial, trivial, ?_, trivial, trivial, trivial, trivial, trivial,
    trivial⟩
  · rintro _ ⟨⟩
    rfl
  · exact stops_at_padded 2 source.hour _

end Pattern

/-- The whole second that a clock shows at a time of day. A leap second at second 59 stays one, and
one at another second is the second after that. -/
def TimeOfDay.wholeSecond (time : TimeOfDay) : TimeOfDay where
  hour := time.hour
  minute := time.minute
  second := if 1000000000 ≤ time.nanos ∧ time.second ≠ 59 then time.second + 1 else time.second
  nanos := if 1000000000 ≤ time.nanos ∧ time.second = 59 then 1000000000 else 0
  exists_time := by
    obtain ⟨hhour, hminute, hsecond, -⟩ := time.exists_time
    refine ⟨hhour, hminute, ?_, ?_⟩ <;> split <;> omega

/-- The whole second that a clock shows at a moment. -/
def DateTime.wholeSecond (moment : DateTime) : DateTime := ⟨moment.date, moment.time.wholeSecond⟩

/-- The shown second of a time of day is that of its whole second. -/
theorem MomentParts.time_of_shown {parts : MomentParts} {time : TimeOfDay}
    (hhour : parts.hour = time.hour) (hminute : parts.minute = time.minute)
    (hsecond : parts.second = time.shownSecond) (hnanos : parts.nanos = 0) :
    parts.time? = some time.wholeSecond := by
  rw [time?, hhour, hminute, hsecond, hnanos, TimeOfDay.shownSecond, TimeOfDay.wholeSecond]
  obtain ⟨hour, minute, second, nanos, hbelow, hsixty, hlast, -⟩ := time
  dsimp only
  by_cases hleap : 1000000000 ≤ nanos
  · rw [if_neg (Nat.not_lt.2 hleap)]
    by_cases hfinal : second = 59
    · subst hfinal
      rw [if_pos rfl, TimeOfDay.ofParts?, dif_pos ⟨⟨hbelow, hsixty, hlast, by decide⟩, .inr rfl⟩]
      simp [hleap]
    · have hnext : second + 1 < 60 := by omega
      rw [if_neg (Nat.ne_of_lt hnext), TimeOfDay.ofParts?,
        dif_pos ⟨⟨hbelow, hsixty, hnext, by decide⟩, .inl (by decide)⟩]
      simp [hleap, hfinal]
  · rw [if_pos (Nat.lt_of_not_le hleap), if_neg (Nat.ne_of_lt hlast), TimeOfDay.ofParts?,
      dif_pos ⟨⟨hbelow, hsixty, hlast, by decide⟩, .inl (by decide)⟩]
    simp [hleap]

namespace Pattern

/-- A date that was written is read back. -/
theorem read_date_written (day : Date) :
    (date.read? (date.write (.ofDate day))).bind MomentParts.date? = some day := by
  have hread := read_written (fits_of_date_time ⟨day, .midnight⟩)
    (date_keeps_apart (.ofDateTime ⟨day, .midnight⟩))
  rw [MomentParts.ofDate, hread, Option.bind_some]
  exact dif_pos day.exists_day

/-- A moment that was written without a fraction is read back as its whole second. -/
theorem read_date_time_written (moment : DateTime) :
    (dateTime.read? (dateTime.write (.ofDateTime moment))).bind MomentParts.dateTime?
      = some moment.wholeSecond := by
  have hday : (dateTime.foldl (take (.ofDateTime moment)) {}).date? = some moment.date :=
    dif_pos moment.date.exists_day
  have htime : (dateTime.foldl (take (.ofDateTime moment)) {}).time?
      = some moment.time.wholeSecond :=
    MomentParts.time_of_shown rfl rfl rfl rfl
  rw [read_written (fits_of_date_time moment) (date_time_keeps_apart _), Option.bind_some,
    MomentParts.dateTime?, hday, htime]
  rfl

end Pattern

end Orm
