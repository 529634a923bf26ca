import Mathlib.Data.List.Nodup
import Orm.Audit.CommandEvent
import Orm.Proofs.Sql.Tokens

/-!
# Statements with their parameters replaced

Between its parameters a statement has no at sign, and what follows a parameter is no letter, digit
or underscore. At a parameter its own name is the only one that is a whole token, so its value is
written there and the reading goes on behind the name (`inlined_parameter`); everywhere else the
text is kept (`inlined_segment`). `raw_text_interleaved` puts both together for a whole statement.
-/

namespace Orm

open Text

/-! ## Names of parameters -/

/-- Whether a character can go on a token. -/
def continuesToken (c : Char) : Bool := isAlphanumeric c || c = '_'

/-- A digit goes on a token. -/
theorem continues_token_of_digit {c : Char} (h : c.isDigit = true) : continuesToken c = true := by
  have hdigit : '0'.val ≤ c.val ∧ c.val ≤ '9'.val := by simpa [Char.isDigit] using h
  have hfirst : 48 ≤ c.toNat := hdigit.1
  have hlast : c.toNat ≤ 57 := hdigit.2
  have halphanumeric : isAlphanumeric c = true := by
    rw [isAlphanumeric, CodeRanges.contains, alphanumerics, CodeRanges.containsPoint,
      if_neg (by omega), if_pos (by omega)]
  rw [continuesToken, halphanumeric, Bool.true_or]

/-- The characters of the name of a parameter behind its at sign. -/
def parameterTail (index : Nat) : List Char := 'p' :: (toString index).toList

/-- The name of a parameter begins with an at sign. -/
theorem to_list_parameter (index : Nat) :
    (Dialect.brackets.parameter index).toList = '@' :: parameterTail index := by
  show (toString "@p" ++ toString index).toList = '@' :: parameterTail index
  rw [String.toList_append]
  rfl

/-- Behind its at sign the name of a parameter goes on as a token. -/
theorem continues_token_of_mem {index : Nat} {c : Char} (h : c ∈ parameterTail index) :
    continuesToken c = true := by
  rcases List.mem_cons.1 h with rfl | hdigit
  · decide
  · rw [Nat.toString_eq_repr, Nat.toList_repr] at hdigit
    exact continues_token_of_digit (Nat.isDigit_of_mem_toDigits (by decide) (by decide) hdigit)

/-- The names of two parameters differ behind their at signs. -/
theorem parameter_tail_inj {index other : Nat} (h : parameterTail index = parameterTail other) :
    index = other := by
  have hdigits := congrArg Brackets.decimal? (List.cons.inj h).2
  rw [Brackets.decimal_to_string, Brackets.decimal_to_string] at hdigits
  exact Option.some.inj hdigits

/-- The names of two parameters differ. -/
theorem parameter_inj {index other : Nat}
    (h : Dialect.brackets.parameter index = Dialect.brackets.parameter other) : index = other := by
  have hchars := congrArg String.toList h
  rw [to_list_parameter, to_list_parameter] at hchars
  exact parameter_tail_inj (List.cons.inj hchars).2

/-! ## Tokens at the front of a text -/

/-- What follows a word at the front of a text is the rest of the text. -/
theorem after_front_eq_some_iff {word text rest : List Char} :
    afterFront? word text = some rest ↔ text = word ++ rest := by
  induction word generalizing text with
  | nil => simp [afterFront?]
  | cons c word ih =>
      cases text with
      | nil => simp [afterFront?]
      | cons d text =>
          rw [afterFront?, List.cons_append, List.cons_eq_cons]
          split
          · next hsame => rw [ih, and_iff_right hsame.symm]
          · next hother => exact iff_of_false nofun fun h => hother h.1.symm

/-- A token is all that goes on it. -/
theorem take_while_token {token rest : List Char} (h : ∀ c ∈ token, continuesToken c = true)
    (hrest : endsToken rest = true) : (token ++ rest).takeWhile continuesToken = token := by
  rw [List.takeWhile_append_of_pos h]
  cases rest with
  | nil => simp
  | cons c rest =>
      have hc : continuesToken c = false := by simpa [endsToken, continuesToken] using hrest
      simp [hc]

namespace CommandEvent

/-- Of all names of parameters only its own is a token at the front of a parameter. -/
theorem starts_with_token_iff {index other : Nat} {rest : List Char}
    (hrest : endsToken rest = true) :
    startsWithToken ((Dialect.brackets.parameter index).toList ++ rest)
      (Dialect.brackets.parameter other).toList = true ↔ other = index := by
  rw [to_list_parameter, to_list_parameter]
  constructor
  · intro hstarts
    rw [startsWithToken, List.isEmpty_cons, Bool.not_false, Bool.true_and] at hstarts
    split at hstarts
    · next after hafter =>
      have htails : parameterTail index ++ rest = parameterTail other ++ after :=
        (List.cons.inj (after_front_eq_some_iff.1 hafter)).2
      -- Both names go on up to the end of the same token.
      have hsame := congrArg (List.takeWhile continuesToken) htails
      rw [take_while_token (fun c => continues_token_of_mem) hrest,
        take_while_token (fun c => continues_token_of_mem) hstarts] at hsame
      exact (parameter_tail_inj hsame).symm
    · cases hstarts
  · rintro rfl
    have hafter : afterFront? ('@' :: parameterTail other) ('@' :: parameterTail other ++ rest)
        = some rest := after_front_eq_some_iff.2 rfl
    rw [startsWithToken, hafter]
    exact hrest

/-- No name of a parameter stands where there is no at sign. -/
theorem not_starts_with_token {c : Char} (hc : c ≠ '@') (index : Nat) (rest : List Char) :
    startsWithToken (c :: rest) (Dialect.brackets.parameter index).toList = false := by
  rw [to_list_parameter, startsWithToken, afterFront?, if_neg (Ne.symm hc)]
  rfl

/-- Items that change nothing leave a fold where it began. -/
theorem foldl_eq_start {α β : Type} {change : β → α → β} {start : β} {items : List α}
    (h : ∀ item ∈ items, change start item = start) : items.foldl change start = start := by
  induction items with
  | nil => rfl
  | cons item rest ih =>
      rw [List.foldl_cons, h item List.mem_cons_self]
      exact ih fun other hother => h other (List.mem_cons_of_mem _ hother)

/-- Where the name of no parameter is a token, none is found. -/
theorem token_at_eq_none {text : List Char} {params : List (String × Value)}
    (h : ∀ param ∈ params, startsWithToken text param.1.toList = false) :
    tokenAt? text params = none := by
  refine foldl_eq_start fun param hparam => if_neg ?_
  rw [h param hparam]
  exact Bool.false_ne_true

/-- Where the name of a single parameter is a token, that one is found. -/
theorem token_at_eq_some {text : List Char} {before after : List (String × Value)}
    {param : String × Value} (hparam : startsWithToken text param.1.toList = true)
    (hothers : ∀ other ∈ before ++ after, startsWithToken text other.1.toList = false) :
    tokenAt? text (before ++ param :: after) = some (param.1.toList, param.2) := by
  have hbefore : tokenAt? text before = none :=
    token_at_eq_none fun other hother => hothers other (List.mem_append_left _ hother)
  rw [tokenAt?] at hbefore
  rw [tokenAt?, List.foldl_append, hbefore, List.foldl_cons]
  simp only [hparam, if_true]
  refine foldl_eq_start fun other hother => if_neg ?_
  rw [hothers other (List.mem_append_right _ hother)]
  exact Bool.false_ne_true

/-! ## Replacing -/

/-- The parameters of some values by the names of the dialect, in any order. -/
def Numbered (values : List Value) (params : List (String × Value)) : Prop :=
  params.Perm (values.mapIdx fun index value => (Dialect.brackets.parameter index, value))

variable {params : List (String × Value)} {values : List Value}

/-- A parameter of some values has the name of the place of its value. -/
theorem Numbered.exists_of_mem (h : Numbered values params) {param : String × Value}
    (hparam : param ∈ params) : ∃ index value, values[index]? = some value ∧
      param = (Dialect.brackets.parameter index, value) := by
  obtain ⟨index, hindex, rfl⟩ := List.mem_mapIdx.1 (h.mem_iff.1 hparam)
  exact ⟨index, values[index], List.getElem?_eq_getElem hindex, rfl⟩

/-- No parameter of some values is there twice. -/
theorem Numbered.nodup (h : Numbered values params) : params.Nodup := by
  refine h.nodup_iff.2 (List.pairwise_iff_getElem.2 ?_)
  intro first second hfirst hsecond hless hsame
  rw [List.getElem_mapIdx, List.getElem_mapIdx] at hsame
  have hindex := parameter_inj (congrArg Prod.fst hsame)
  omega

/-- What is left of a replaced parameter is passed over. -/
theorem inlined_passed (word rest : List Char) :
    inlined params word.length (word ++ rest) = inlined params 0 rest := by
  induction word with
  | nil => rfl
  | cons c word ih => rw [List.cons_append, List.length_cons, inlined, ih]

/-- At a parameter its value is written, and the reading goes on behind its name. -/
theorem inlined_parameter (h : Numbered values params) {index : Nat} {value : Value}
    (hvalue : values[index]? = some value) {rest : List Char} (hrest : endsToken rest = true) :
    inlined params 0 ((Dialect.brackets.parameter index).toList ++ rest)
      = value.sqlText ++ inlined params 0 rest := by
  have hmem : (Dialect.brackets.parameter index, value) ∈ params := by
    obtain ⟨hindex, rfl⟩ := List.getElem?_eq_some_iff.1 hvalue
    exact h.mem_iff.2 (List.mem_mapIdx.2 ⟨index, hindex, rfl⟩)
  obtain ⟨before, after, hparams⟩ := List.append_of_mem hmem
  have hnodup := h.nodup
  rw [hparams, List.nodup_middle] at hnodup
  have hothers : ∀ other ∈ before ++ after, startsWithToken
      ((Dialect.brackets.parameter index).toList ++ rest) other.1.toList = false := by
    intro other hother
    have hin : other ∈ params := by
      rw [hparams, List.mem_append, List.mem_cons]
      exact (List.mem_append.1 hother).imp_right .inr
    obtain ⟨place, passed, hpassed, rfl⟩ := h.exists_of_mem hin
    rw [Bool.eq_false_iff, ne_eq, starts_with_token_iff hrest]
    rintro rfl
    -- The other one would be the same parameter once more.
    obtain rfl := Option.some.inj (hvalue.symm.trans hpassed)
    exact (List.nodup_cons.1 hnodup).1 hother
  have hfound : tokenAt? ((Dialect.brackets.parameter index).toList ++ rest) params
      = some ((Dialect.brackets.parameter index).toList, value) := by
    rw [hparams]
    exact token_at_eq_some ((starts_with_token_iff hrest).2 rfl) hothers
  rw [to_list_parameter, List.cons_append] at hfound ⊢
  rw [inlined, hfound]
  show value.sqlText ++ inlined params (parameterTail index).length (parameterTail index ++ rest)
    = value.sqlText ++ inlined params 0 rest
  rw [inlined_passed]

/-- A text without at signs is kept. -/
theorem inlined_segment (h : Numbered values params) {segment : List Char} (hnone : '@' ∉ segment)
    (rest : List Char) : inlined params 0 (segment ++ rest) = segment ++ inlined params 0 rest := by
  induction segment with
  | nil => rfl
  | cons c segment ih =>
      obtain ⟨hc, hsegment⟩ := List.ne_and_not_mem_of_not_mem_cons hnone
      have htoken : tokenAt? (c :: (segment ++ rest)) params = none := by
        refine token_at_eq_none fun param hparam => ?_
        obtain ⟨index, value, -, rfl⟩ := h.exists_of_mem hparam
        exact not_starts_with_token hc.symm index _
      rw [List.cons_append, inlined, htoken, ih hsegment]
      rfl

/-! ## Statements -/

/-- A text of segments with numbered parameters between them. -/
def interleaved {count : Nat} (write : Fin count → List Char) (first : List Char)
    (parts : List (Fin count × List Char)) : List Char :=
  first ++ parts.flatMap fun part => write part.1 ++ part.2

/-- A segment behind a parameter has no at sign, and begins with nothing that goes on the name. -/
def Segment (segment : List Char) : Prop :=
  '@' ∉ segment ∧ ∀ c, segment.head? = some c → isAlphanumeric c = false ∧ c ≠ '_'

/-- Where a segment follows a parameter its name ends. -/
theorem Segment.ends_token {segment : List Char} (h : Segment segment) {count : Nat}
    (parts : List (Fin count × List Char)) :
    endsToken (interleaved (fun index => (Dialect.brackets.parameter index).toList) segment parts)
      = true := by
  cases segment with
  | cons c segment =>
      obtain ⟨hletter, hunderscore⟩ := h.2 c rfl
      simp [interleaved, endsToken, hletter, hunderscore]
  | nil =>
      cases parts with
      | nil => rfl
      | cons part rest =>
          -- The at sign of the next parameter follows.
          have hat : isAlphanumeric '@' = false := by decide
          simp [interleaved, to_list_parameter, endsToken, hat]

/-- Segments with parameters between them are replaced one parameter after the other. -/
theorem inlined_interleaved (h : Numbered values params) {first : List Char} (hfirst : '@' ∉ first)
    {parts : List (Fin values.length × List Char)} (hparts : ∀ part ∈ parts, Segment part.2) :
    inlined params 0
        (interleaved (fun index => (Dialect.brackets.parameter index).toList) first parts)
      = interleaved (fun index => values[index].sqlText) first parts := by
  induction parts generalizing first with
  | nil =>
      have hkept := inlined_segment h hfirst []
      simpa [interleaved, inlined] using hkept
  | cons part rest ih =>
      obtain ⟨index, segment⟩ := part
      have hsegment := hparts (index, segment) List.mem_cons_self
      have hrest := ih hsegment.1 fun other hother => hparts other (List.mem_cons_of_mem _ hother)
      calc inlined params 0 (interleaved (fun index => (Dialect.brackets.parameter index).toList)
            first ((index, segment) :: rest))
          = inlined params 0 (first ++ ((Dialect.brackets.parameter index).toList ++
              interleaved (fun index => (Dialect.brackets.parameter index).toList)
                segment rest)) := by
            simp [interleaved]
        _ = first ++ (values[index].sqlText ++ inlined params 0
              (interleaved (fun index => (Dialect.brackets.parameter index).toList)
                segment rest)) := by
            rw [inlined_segment h hfirst,
              inlined_parameter h (List.getElem?_eq_getElem index.isLt) (hsegment.ends_token rest)]
            rfl
        _ = interleaved (fun index => values[index].sqlText) first ((index, segment) :: rest) := by
            rw [hrest]
            simp [interleaved]

/-- A statement of segments and parameters is shown with the value of each parameter in its place
and with its segments as they are, whatever the values are. -/
theorem raw_text_interleaved (hparams : Numbered values params) {first : List Char}
    (hfirst : '@' ∉ first) {parts : List (Fin values.length × List Char)}
    (hparts : ∀ part ∈ parts, Segment part.2) (hash : String) :
    (CommandEvent.mk (String.ofList (interleaved
        (fun index => (Dialect.brackets.parameter index).toList) first parts)) params hash).rawText
      = String.ofList (interleaved (fun index => values[index].sqlText) first parts) := by
  rw [rawText, String.toList_ofList, inlined_interleaved hparams hfirst hparts]

/-- Eleven values, the second of which looks like the last parameter. -/
def elevenValues : List Value :=
  [.null, .text "@p10", .null, .null, .null, .null, .null, .null, .null, .null, .text "it's"]

/-- The second of eleven parameters is not taken for the last one, and its value is left alone. -/
theorem value_like_parameter_kept :
    let params := (elevenValues.mapIdx fun index value =>
      (Dialect.brackets.parameter index, value)).reverse
    let parts : List (Fin elevenValues.length × List Char) :=
      [(⟨1, by decide⟩, ", ".toList), (⟨10, by decide⟩, [')']), (⟨10, by decide⟩, [])]
    Numbered elevenValues params ∧ '@' ∉ "VALUES (".toList ∧ (∀ part ∈ parts, Segment part.2) ∧
      (CommandEvent.mk "VALUES (@p1, @p10)@p10" params "").rawText
        = "VALUES ('@p10', 'it''s')'it''s'" := by
  intro params parts
  have hparams : Numbered elevenValues params := List.reverse_perm _
  have hfirst : '@' ∉ "VALUES (".toList := by decide
  have hparts : ∀ part ∈ parts, Segment part.2 := by
    intro part hpart
    simp only [parts, List.mem_cons, List.not_mem_nil, or_false] at hpart
    rcases hpart with rfl | rfl | rfl
    · refine ⟨by decide, fun c hc => ?_⟩
      obtain rfl : ',' = c := Option.some.inj hc
      exact ⟨rfl, by decide⟩
    · refine ⟨by decide, fun c hc => ?_⟩
      obtain rfl : ')' = c := Option.some.inj hc
      exact ⟨rfl, by decide⟩
    · exact ⟨by decide, fun c hc => by cases hc⟩
  have htext : String.ofList (interleaved (fun index => (Dialect.brackets.parameter index).toList)
      "VALUES (".toList parts) = "VALUES (@p1, @p10)@p10" := by rfl
  have hshown := raw_text_interleaved hparams hfirst hparts ""
  rw [htext] at hshown
  exact ⟨hparams, hfirst, hparts, hshown.trans (by decide +kernel)⟩

end CommandEvent

end Orm
