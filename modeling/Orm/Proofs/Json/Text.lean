import Mathlib.Data.List.Basic
import Orm.Json.Reading

/-!
# Texts and integers of JSON documents

A text between double quotes is read back as it was, whichever of its characters are escaped, and so
is an integer of 64 bits. What follows a text does not matter; what follows an integer must not go
on with it.
-/

namespace Orm.Json

/-! ## Texts -/

/-- The two hexadecimal digits of a control character stand for it. -/
theorem read_hex_of_control :
    ∀ n < 32,
      readHex? ('0' :: '0' :: (if n < 16 then ['0'] else []) ++ Nat.toDigits 16 n) = some n ∧
      ((if n < 16 then ['0'] else []) ++ Nat.toDigits 16 n).length = 2 := by
  decide +kernel

/-- A control character that is written by its number is read back. -/
theorem read_unicode_of_control {c : Char} (h : c.toNat < 32) (rest : List Char) :
    readUnicode? ('0' :: '0' :: (if c.toNat < 16 then ['0'] else []) ++ Nat.toDigits 16 c.toNat
      ++ rest) = some (some c, rest) := by
  obtain ⟨hvalue, hlength⟩ := read_hex_of_control c.toNat h
  obtain ⟨high, low, hdigits⟩ := List.length_eq_two.1 hlength
  have htext : '0' :: '0' :: (if c.toNat < 16 then ['0'] else []) ++ Nat.toDigits 16 c.toNat ++ rest
      = '0' :: '0' :: high :: low :: rest :=
    congrArg (fun digits => '0' :: '0' :: (digits ++ rest)) hdigits
  have hread : readHex? ['0', '0', high, low] = some c.toNat :=
    (congrArg (fun digits => readHex? ('0' :: '0' :: digits)) hdigits).symm.trans hvalue
  have hunit : readHex4? ('0' :: '0' :: high :: low :: rest) = some (c.toNat, rest) := by
    rw [readHex4?, hread]
    rfl
  rw [htext]
  rw [readUnicode?, hunit]
  simp [show c.toNat < 0xd800 by omega, Char.ofNat_toNat]

/-- A character is escaped by a letter, or by its number if it is a control character, or it stands
for itself. -/
theorem escaped_char_cases (c : Char) :
    (∃ letter, escapedChar c = ['\\', letter] ∧
        ∀ rest, readEscape? (letter :: rest) = some (some c, rest)) ∨
      (c.toNat < 32 ∧ escapedChar c = '\\' :: 'u' :: '0' :: '0' ::
        (if c.toNat < 16 then ['0'] else []) ++ Nat.toDigits 16 c.toNat) ∨
      (c ≠ '"' ∧ c ≠ '\\' ∧ ¬ c.toNat < 32 ∧ escapedChar c = [c]) := by
  unfold escapedChar
  by_cases hquote : c = '"'
  · exact .inl ⟨'"', if_pos hquote, fun rest => by rw [hquote]; rfl⟩
  rw [if_neg hquote]
  by_cases hslash : c = '\\'
  · exact .inl ⟨'\\', if_pos hslash, fun rest => by rw [hslash]; rfl⟩
  rw [if_neg hslash]
  by_cases hline : c = '\n'
  · exact .inl ⟨'n', if_pos hline, fun rest => by rw [hline]; rfl⟩
  rw [if_neg hline]
  by_cases hreturn : c = '\r'
  · exact .inl ⟨'r', if_pos hreturn, fun rest => by rw [hreturn]; rfl⟩
  rw [if_neg hreturn]
  by_cases htab : c = '\t'
  · exact .inl ⟨'t', if_pos htab, fun rest => by rw [htab]; rfl⟩
  rw [if_neg htab]
  by_cases hback : c.toNat = 8
  · exact .inl ⟨'b', if_pos hback, fun rest => by rw [← Char.ofNat_toNat c, hback]; rfl⟩
  rw [if_neg hback]
  by_cases hfeed : c.toNat = 12
  · exact .inl ⟨'f', if_pos hfeed, fun rest => by rw [← Char.ofNat_toNat c, hfeed]; rfl⟩
  rw [if_neg hfeed]
  by_cases hcontrol : c.toNat < 32
  · exact .inr (.inl ⟨hcontrol, if_pos hcontrol⟩)
  · exact .inr (.inr ⟨hquote, hslash, hcontrol, if_neg hcontrol⟩)

/-- A character of a text is read back from its written form. -/
theorem read_content_of_escaped (c : Char) (fuel : Nat) (rest : List Char)
    (done : List (Option Char)) :
    readContent? (fuel + 1) (escapedChar c ++ rest) done
      = readContent? fuel rest (some c :: done) := by
  obtain ⟨letter, hescaped, hread⟩ | ⟨hcontrol, hescaped⟩ |
    ⟨hquote, hslash, hcontrol, hescaped⟩ := escaped_char_cases c
  · rw [hescaped, List.cons_append, readContent?, if_neg (by decide), if_pos rfl]
    exact congrArg (· >>= _) (hread rest)
  · have hread : readEscape? ('u' :: '0' :: '0' :: (if c.toNat < 16 then ['0'] else []) ++
        Nat.toDigits 16 c.toNat ++ rest) = some (some c, rest) :=
      read_unicode_of_control hcontrol rest
    rw [hescaped, List.cons_append, List.cons_append, readContent?, if_neg (by decide),
      if_pos rfl]
    exact congrArg (· >>= _) hread
  · rw [hescaped, List.singleton_append, readContent?, if_neg hquote, if_neg hslash,
      if_neg hcontrol]

/-- The characters of a text are read back up to its closing quote. -/
theorem read_content (content rest : List Char) (fuel : Nat) (h : content.length < fuel)
    (done : List (Option Char)) :
    readContent? fuel (content.flatMap escapedChar ++ '"' :: rest) done
      = some (done.reverse ++ content.map some, rest) := by
  induction content generalizing fuel done with
  | nil =>
      obtain ⟨fuel, rfl⟩ := Nat.exists_eq_succ_of_ne_zero (Nat.ne_of_gt h)
      simp [readContent?]
  | cons c content ih =>
      obtain ⟨fuel, rfl⟩ := Nat.exists_eq_succ_of_ne_zero (Nat.ne_of_gt (Nat.zero_lt_of_lt h))
      rw [List.flatMap_cons, List.append_assoc, read_content_of_escaped,
        ih fuel (Nat.lt_of_succ_lt_succ h)]
      simp

/-- No character has an empty written form. -/
theorem length_le_length_escaped (content : List Char) :
    content.length ≤ (content.flatMap escapedChar).length := by
  induction content with
  | nil => exact Nat.le_refl 0
  | cons c content ih =>
      have hsome : 0 < (escapedChar c).length := by
        obtain ⟨letter, hescaped, -⟩ | ⟨-, hescaped⟩ | ⟨-, -, -, hescaped⟩ :=
          escaped_char_cases c
        all_goals rw [hescaped]; exact Nat.zero_lt_succ _
      rw [List.flatMap_cons, List.length_append, List.length_cons]
      omega

/-- A text is read back after its opening quote. -/
theorem read_text (content : String) (rest : List Char) :
    readText? (content.toList.flatMap escapedChar ++ '"' :: rest) = some (some content, rest) := by
  have hfuel : content.toList.length
      < (content.toList.flatMap escapedChar ++ '"' :: rest).length + 1 := by
    have hlength := length_le_length_escaped content.toList
    rw [List.length_append, List.length_cons]
    omega
  have hall : (content.toList.map some).mapM id = some content.toList := by
    induction content.toList with
    | nil => rfl
    | cons c content ih => rw [List.map_cons, List.mapM_cons, ih]; rfl
  rw [readText?, read_content _ _ _ hfuel]
  simp [hall]

/-! ## Integers -/

/-- What follows an element of a document on indented lines: nothing, a comma, or a new line. -/
def Ends (rest : List Char) : Prop := ∀ c ∈ rest.head?, c = ',' ∨ c = '\n'

/-- Digits are followed by no further one. -/
theorem Ends.span_digits {rest : List Char} (h : Ends rest) {digits : List Char}
    (hdigits : ∀ c ∈ digits, c.isDigit = true) :
    (digits ++ rest).takeWhile Char.isDigit = digits ∧
      (digits ++ rest).dropWhile Char.isDigit = rest := by
  rw [List.takeWhile_append_of_pos hdigits, List.dropWhile_append_of_pos hdigits]
  cases rest with
  | nil => simp
  | cons c rest =>
      have hc : c.isDigit = false := by
        obtain rfl | rfl := h c rfl <;> rfl
      simp [hc]

/-- An element is followed by neither a fraction nor an exponent. -/
theorem Ends.number_parts {rest : List Char} (h : Ends rest) :
    readFractionPart? rest = some (none, rest) ∧ readExponentPart? rest = some (none, rest) := by
  cases rest with
  | nil => exact ⟨rfl, rfl⟩
  | cons c rest => obtain rfl | rfl := h c rfl <;> exact ⟨rfl, rfl⟩

/-- A natural number is written with digits. -/
theorem is_digit_of_mem {n : Nat} {c : Char} (h : c ∈ natDigits n) : c.isDigit = true :=
  Nat.isDigit_of_mem_toDigits (by decide) (by decide) h

/-- It is written with at least one digit. -/
theorem digits_begin (n : Nat) : ∃ c rest, natDigits n = c :: rest ∧ c.isDigit = true := by
  obtain ⟨c, rest, hdigits⟩ := List.exists_cons_of_ne_nil (Nat.toDigits_ne_nil : natDigits n ≠ [])
  exact ⟨c, rest, hdigits, is_digit_of_mem (hdigits ▸ List.mem_cons_self)⟩

/-- The digits of a natural number have no zero in front of others. -/
theorem head_digits (n : Nat) : (Nat.toDigits 10 n).head? = some '0' → n = 0 := by
  induction n using Nat.strongRecOn with
  | ind n ih =>
      intro hhead
      by_cases hsmall : n < 10
      · rw [Nat.toDigits_of_lt_base hsmall] at hhead
        have hzero : n.digitChar = '0' := by
          simpa only [List.head?_cons, Option.some.injEq] using hhead
        have hdigits : ∀ n < 10, Nat.digitChar n = '0' → n = 0 := by decide
        exact hdigits n hsmall hzero
      · have hpositive : n / 10 ≠ 0 := by omega
        obtain ⟨c, rest, hdigits⟩ := List.exists_cons_of_ne_nil (Nat.toDigits_ne_nil :
          Nat.toDigits 10 (n / 10) ≠ [])
        rw [Nat.toDigits_of_base_le (by decide) (by omega), hdigits] at hhead
        have hbefore : (Nat.toDigits 10 (n / 10)).head? = some '0' := by rw [hdigits]; exact hhead
        exact absurd (ih (n / 10) (by omega) hbefore) hpositive

/-- The integers of 64 bits, with or without a sign. -/
def FitsWord (number : Int) : Prop := Int64.minValue.toInt ≤ number ∧ number < UInt64.size

instance (number : Int) : Decidable (FitsWord number) :=
  inferInstanceAs (Decidable (Int64.minValue.toInt ≤ number ∧ number < UInt64.size))

/-- An integer of 64 bits is read back after its sign. -/
theorem read_number {number : Int} (h : FitsWord number) {rest : List Char} (hends : Ends rest) :
    readNumber? (decide (number < 0)) (natDigits number.natAbs ++ rest)
      = some (.int number, rest) := by
  have hdigits : ∀ c ∈ natDigits number.natAbs, c.isDigit = true := fun _ => is_digit_of_mem
  have hvalue : digitsValue (natDigits number.natAbs) = number.natAbs :=
    Nat.ofDigitChars_toDigits (by decide) (by decide)
  have hsome : natDigits number.natAbs ≠ [] := Nat.toDigits_ne_nil
  have hzero : ¬ ((natDigits number.natAbs).head? = some '0' ∧
      1 < (natDigits number.natAbs).length) := by
    intro ⟨hhead, hlong⟩
    rw [head_digits _ hhead] at hlong
    exact absurd hlong (by decide)
  have hinteger : (if decide (number < 0) then -(number.natAbs : Int) else number.natAbs)
      = number := by
    by_cases hnegative : number < 0
    · rw [if_pos (decide_eq_true hnegative)]
      omega
    · rw [if_neg (by simpa using hnegative)]
      omega
  have hkept : isInteger (decide (number < 0)) number = true := by
    have hsign : (decide (number < 0) && number == 0) = false := by
      rw [Bool.and_eq_false_iff, decide_eq_false_iff_not, beq_eq_false_iff_ne]
      omega
    rw [isInteger, hsign, decide_eq_true h.1, decide_eq_true h.2]
    rfl
  obtain ⟨htake, hdrop⟩ := hends.span_digits hdigits
  obtain ⟨hfraction, hexponent⟩ := hends.number_parts
  have hwhole : ¬ ((natDigits number.natAbs).isEmpty = true ∨
      (natDigits number.natAbs).head? = some '0' ∧ 1 < (natDigits number.natAbs).length) := by
    rw [List.isEmpty_iff]
    exact not_or.2 ⟨hsome, hzero⟩
  unfold readNumber?
  simp only [htake, hdrop, hvalue, hinteger]
  rw [if_neg hwhole]
  simp [hfraction, hexponent, hkept]

end Orm.Json
