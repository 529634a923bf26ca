import Mathlib.Data.List.Basic
import Orm.Sql.Brackets

/-!
# Reading a text with bracketed names

`Brackets.read` splits a text into tokens. A name stands in brackets and goes on to the first
closing bracket that is not written twice; outside of brackets stand words, numbers, parameters,
operators and marks, and nothing else. The reader goes through a text one character at a time, so
what it makes of a text comes from what it makes of its parts: `feed_append`. `Reads` says of a part
which tokens it has wherever it stands, and `reads_quote` that a quoted name is one token, whatever
the name is.
-/

namespace Orm.Brackets

/-! ## The reader -/

/-- A token of a text. -/
inductive Token
  | identifier (name : String)
  | word (text : String)
  | number (value : Nat)
  | placeholder (index : Nat)
  | operator (sign : String)
  | mark (sign : Char)
deriving DecidableEq, Repr

/-- What a character outside of brackets belongs to. -/
inductive CharKind
  | blank
  | bracket
  | letter
  | sign
  | mark
  | other
deriving DecidableEq, Repr

/-- The kind of a character. Quotation marks and closing brackets are other characters, which cannot
stand outside of brackets. -/
def kindOf (c : Char) : CharKind :=
  if c = ' ' then .blank
  else if c = '[' then .bracket
  else if c.isAlphanum || c = '_' || c = '@' then .letter
  else if c ∈ ['=', '<', '>', '+', '-', '*', '/'] then .sign
  else if c ∈ ['(', ')', ',', '.', ';'] then .mark
  else .other

/-- The number that some digits stand for. -/
def decimal? (chars : List Char) : Option Nat :=
  if chars ≠ [] ∧ chars.all Char.isDigit then some (Nat.ofDigitChars 10 chars 0) else none

/-- The number of the parameter that a word stands for. -/
def parameter? : List Char → Option Nat
  | '@' :: 'p' :: digits => decimal? digits
  | _ => none

/-- The token of a run of letters and digits. -/
def wordToken (chars : List Char) : Token :=
  match decimal? chars, parameter? chars with
  | some value, _ => .number value
  | none, some index => .placeholder index
  | none, none => .word (String.ofList chars)

/-- How far a token has been read. Behind a closing bracket the name is read unless another closing
bracket follows. -/
inductive Mode
  | between
  | word (chars : List Char)
  | operator (chars : List Char)
  | quoted (chars : List Char)
  | closed (chars : List Char)
  | lost
deriving DecidableEq, Repr

namespace Mode

/-- The token that is read if nothing follows. -/
def ended : Mode → List Token
  | .word chars => [wordToken chars]
  | .operator chars => [.operator (String.ofList chars)]
  | .closed chars => [.identifier (String.ofList chars)]
  | .between | .quoted _ | .lost => []

/-- A token that goes on with a character. -/
def extend? : Mode → Char → Option Mode
  | .between, _ => none
  | .word chars, c => if kindOf c = .letter then some (.word (chars ++ [c])) else none
  | .operator chars, c => if kindOf c = .sign then some (.operator (chars ++ [c])) else none
  | .quoted chars, c => some (if c = ']' then .closed chars else .quoted (chars ++ [c]))
  | .closed chars, c => if c = ']' then some (.quoted (chars ++ [c])) else none
  | .lost, _ => some .lost

/-- Whether a token may begin here. `run` says whether it may also be one that does not go on with
the word or operator before it. -/
def rests (run : Bool) : Mode → Bool
  | .between | .closed _ => true
  | .word _ | .operator _ => run
  | .quoted _ | .lost => false

end Mode

/-- A token, or none, begins with a character. -/
def begun (c : Char) : List Token × Mode :=
  match kindOf c with
  | .blank => ([], .between)
  | .bracket => ([], .quoted [])
  | .letter => ([], .word [c])
  | .sign => ([], .operator [c])
  | .mark => ([.mark c], .between)
  | .other => ([], .lost)

/-- The tokens that end before a character, and how far the next one has been read behind it. -/
def step (mode : Mode) (c : Char) : List Token × Mode :=
  match mode.extend? c with
  | some longer => ([], longer)
  | none => (mode.ended ++ (begun c).1, (begun c).2)

/-- The tokens that end in a part of a text, and how far the next one has been read behind it. -/
def feed : Mode → List Char → List Token × Mode
  | mode, [] => ([], mode)
  | mode, c :: rest =>
      let first := step mode c
      let others := feed first.2 rest
      (first.1 ++ others.1, others.2)

/-- The tokens of a text. A text in which a bracket stays open, or in which something stands outside
of brackets that belongs to no token, has none. -/
def read (text : String) : Option (List Token) :=
  let (tokens, last) := feed .between text.toList
  if last.rests true then some (tokens ++ last.ended) else none

/-- A text goes on where its first part has been read to. -/
theorem feed_append (mode : Mode) (left right : List Char) :
    feed mode (left ++ right)
      = ((feed mode left).1 ++ (feed (feed mode left).2 right).1,
          (feed (feed mode left).2 right).2) := by
  induction left generalizing mode with
  | nil => rfl
  | cons c rest ih => simp only [List.cons_append, feed, ih, List.append_assoc]

/-! ## Parts of a text -/

/-- A part of a text has some tokens wherever it stands. `before` says whether it may stand directly
behind a word or operator, and `after` whether it may end in one. -/
def Reads (before after : Bool) (chars : List Char) (tokens : List Token) : Prop :=
  ∀ mode : Mode, mode.rests before = true → ∃ ended last, feed mode chars = (ended, last) ∧
    last.rests after = true ∧ ended ++ last.ended = mode.ended ++ tokens

/-- Where a token may begin behind no word, it may begin behind a word too. -/
theorem Mode.rests_mono {mode : Mode} {run longer : Bool} (hrun : run = true → longer = true)
    (h : mode.rests run = true) : mode.rests longer = true := by
  cases mode with
  | word | operator => exact hrun h
  | between | closed => rfl
  | quoted | lost => exact h

namespace Reads

variable {before between after : Bool} {chars left right : List Char} {tokens others : List Token}

/-- A part that may stand behind a word, or ends in none, can be taken for one that may not, or
may. -/
theorem mono {sooner later : Bool} (hbefore : sooner = true → before = true)
    (hafter : after = true → later = true) (h : Reads before after chars tokens) :
    Reads sooner later chars tokens := by
  intro mode hmode
  obtain ⟨ended, last, hfeed, hlast, htokens⟩ := h mode (Mode.rests_mono hbefore hmode)
  exact ⟨ended, last, hfeed, Mode.rests_mono hafter hlast, htokens⟩

/-- Nothing has no tokens. -/
theorem nil (before : Bool) : Reads before before [] [] := by
  intro mode hmode
  exact ⟨[], mode, rfl, hmode, by rw [List.append_nil, List.nil_append]⟩

/-- Two parts have the tokens of the first one and then those of the second one, unless a word at
the end of the first one goes on in the second one. -/
theorem append (hleft : Reads before between left tokens)
    (hright : Reads between after right others) :
    Reads before after (left ++ right) (tokens ++ others) := by
  intro mode hmode
  obtain ⟨first, middle, hfirst, hmiddle, htokens⟩ := hleft mode hmode
  obtain ⟨second, last, hsecond, hlast, hothers⟩ := hright middle hmiddle
  refine ⟨first ++ second, last, ?_, hlast, ?_⟩
  · rw [feed_append, hfirst, hsecond]
  · rw [List.append_assoc, hothers, ← List.append_assoc, htokens, List.append_assoc]

end Reads

/-- Whether a character begins a token, behind a word or operator too if that is asked for. -/
def begins (before : Bool) (c : Char) : Bool :=
  match kindOf c with
  | .blank | .bracket | .mark => true
  | .letter | .sign => !before
  | .other => false

/-- A token that has been read does not go on with a character that begins one. -/
theorem extend_eq_none {before : Bool} {mode : Mode} {c : Char} (hmode : mode.rests before = true)
    (hc : begins before c = true) : mode.extend? c = none := by
  cases mode with
  | between => rfl
  | word =>
      obtain rfl : before = true := hmode
      rw [Mode.extend?, if_neg]
      intro hkind
      simp [begins, hkind] at hc
  | operator =>
      obtain rfl : before = true := hmode
      rw [Mode.extend?, if_neg]
      intro hkind
      simp [begins, hkind] at hc
  | quoted | lost => cases hmode
  | closed =>
      rw [Mode.extend?, if_neg]
      rintro rfl
      revert hc
      cases before <;> decide

/-- A part of a text that begins a token has the tokens that it has at the beginning of a text. -/
theorem reads_of_feed {before after : Bool} {c : Char} {rest : List Char} {ended : List Token}
    {last : Mode} (hc : begins before c = true)
    (hfeed : feed .between (c :: rest) = (ended, last)) (hlast : last.rests after = true) :
    Reads before after (c :: rest) (ended ++ last.ended) := by
  intro mode hmode
  refine ⟨mode.ended ++ ended, last, ?_, hlast, List.append_assoc ..⟩
  have hstep : step mode c = (mode.ended ++ (step .between c).1, (step .between c).2) := by
    rw [step, extend_eq_none hmode hc]
    rfl
  have hended := congrArg Prod.fst hfeed
  have hrest := congrArg Prod.snd hfeed
  simp only [feed] at hended hrest
  rw [feed, hstep, List.append_assoc, hended, hrest]

/-! ## Names and numbers -/

/-- A name is read back from its characters with each closing bracket written twice. -/
theorem feed_doubled (known name : List Char) :
    feed (.quoted known) (doubled name) = ([], .quoted (known ++ name)) := by
  induction name generalizing known with
  | nil => rw [doubled, feed, List.append_nil]
  | cons c rest ih =>
      rw [doubled]
      split
      · next hclosing =>
        -- The second bracket takes back that the first one ends the name.
        simp only [feed, step, Mode.extend?, hclosing, if_true, ih, List.append_assoc,
          List.singleton_append, List.nil_append]
      · next hplain =>
        simp only [feed, step, Mode.extend?, hplain, if_false, ih, List.append_assoc,
          List.singleton_append, List.nil_append]

/-- A quoted name is one token. -/
theorem reads_quote (name : String) : Reads true false (quote name).toList [.identifier name] := by
  have hfeed : feed .between ('[' :: (doubled name.toList ++ [']']))
      = ([], .closed name.toList) := by
    rw [feed, show step .between '[' = ([], .quoted []) from rfl, feed_append, feed_doubled]
    rfl
  have hreads : Reads true false ('[' :: (doubled name.toList ++ [']'])) [.identifier name] := by
    simpa [Mode.ended] using reads_of_feed (by decide) hfeed rfl
  simpa [quote] using hreads

/-- A word goes on with letters and digits. -/
theorem feed_letters {chars : List Char} (h : ∀ c ∈ chars, kindOf c = .letter)
    (known : List Char) : feed (.word known) chars = ([], .word (known ++ chars)) := by
  induction chars generalizing known with
  | nil => rw [feed, List.append_nil]
  | cons c rest ih =>
      have hc := h c List.mem_cons_self
      simp only [feed, step, Mode.extend?, hc, if_true,
        ih (fun other hother => h other (List.mem_cons_of_mem _ hother)), List.append_assoc,
        List.singleton_append, List.nil_append]

/-- A run of letters and digits is one token. -/
theorem reads_letters {chars : List Char} (hsome : chars ≠ [])
    (h : ∀ c ∈ chars, kindOf c = .letter) : Reads false true chars [wordToken chars] := by
  obtain ⟨c, rest, rfl⟩ := List.exists_cons_of_ne_nil hsome
  have hc := h c List.mem_cons_self
  have hfeed : feed .between (c :: rest) = ([], .word (c :: rest)) := by
    have hbegun : step .between c = ([], .word [c]) := by
      simp [step, Mode.extend?, begun, hc, Mode.ended]
    rw [feed, hbegun, feed_letters fun other hother => h other (List.mem_cons_of_mem _ hother)]
    rfl
  exact reads_of_feed (by simp [begins, hc]) hfeed rfl

/-- A digit is a letter of a word. -/
theorem kind_of_digit {c : Char} (h : c.isDigit = true) : kindOf c = .letter := by
  have halnum : c.isAlphanum = true := by simp [Char.isAlphanum, h]
  have hblank : c ≠ ' ' := by
    rintro rfl
    cases h
  have hbracket : c ≠ '[' := by
    rintro rfl
    cases h
  simp [kindOf, hblank, hbracket, halnum]

/-- The digits of a number stand for it. -/
theorem decimal_to_string (n : Nat) : decimal? (toString n).toList = some n := by
  rw [Nat.toString_eq_repr, Nat.toList_repr, decimal?, if_pos,
    Nat.ofDigitChars_toDigits (by decide) (by decide)]
  refine ⟨Nat.toDigits_ne_nil, List.all_eq_true.2 fun c hc => ?_⟩
  exact Nat.isDigit_of_mem_toDigits (by decide) (by decide) hc

/-- The digits of a number are letters of a word. -/
theorem kind_of_mem_to_string {n : Nat} {c : Char} (h : c ∈ (toString n).toList) :
    kindOf c = .letter := by
  rw [Nat.toString_eq_repr, Nat.toList_repr] at h
  exact kind_of_digit (Nat.isDigit_of_mem_toDigits (by decide) (by decide) h)

/-- A number is one token. -/
theorem reads_number (n : Nat) : Reads false true (toString n).toList [.number n] := by
  have hsome : (toString n).toList ≠ [] := by
    rw [Nat.toString_eq_repr, Nat.toList_repr]
    exact Nat.toDigits_ne_nil
  have hreads := reads_letters hsome fun c hc => kind_of_mem_to_string hc
  simpa only [wordToken, decimal_to_string] using hreads

/-- A parameter is one token. -/
theorem reads_placeholder (index : Nat) :
    Reads false true ('@' :: 'p' :: (toString index).toList) [.placeholder index] := by
  have hletters : ∀ c ∈ '@' :: 'p' :: (toString index).toList, kindOf c = .letter := by
    intro c hc
    rcases List.mem_cons.1 hc with rfl | hc
    · decide
    rcases List.mem_cons.1 hc with rfl | hc
    · decide
    · exact kind_of_mem_to_string hc
  have hreads := reads_letters (List.cons_ne_nil _ _) hletters
  have hword : decimal? ('@' :: 'p' :: (toString index).toList) = none := by
    rw [decimal?, if_neg]
    simp [show Char.isDigit '@' = false from rfl]
  simpa only [wordToken, hword, parameter?, decimal_to_string] using hreads

/-- A text that is read as a whole has the tokens that it has as a part. -/
theorem Reads.read_eq {before : Bool} {text : String} {tokens : List Token}
    (h : Reads before true text.toList tokens) : read text = some tokens := by
  have hbetween : Mode.between.rests before = true := rfl
  obtain ⟨ended, last, hfeed, hlast, htokens⟩ := h .between hbetween
  rw [read, hfeed]
  simp only [hlast, if_true, htokens]
  rfl

end Orm.Brackets
