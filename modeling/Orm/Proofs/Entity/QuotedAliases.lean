import Orm.Proofs.Entity.QualifiedNames
import Orm.Sql.Brackets

/-!
# Aliases and columns in brackets

A column is written as its alias and its name, both in brackets, with the closing brackets of a name
written twice. An alias is looked for without doubled brackets, and what is left for the column
keeps them: `quoted_column_stripped_iff` says that a column is read back exactly if neither name has
a closing bracket.
-/

namespace Orm

open Text

/-! ## Names with doubled brackets -/

namespace Brackets

/-- Each closing bracket of a name is one character more. -/
theorem length_doubled (name : List Char) :
    (doubled name).length = name.length + name.count ']' := by
  induction name with
  | nil => rfl
  | cons c rest ih =>
      rw [doubled]
      split
      · next hbracket =>
        simp only [List.length_cons, ih, hbracket, List.count_cons_self]
        omega
      · next hother =>
        simp only [List.length_cons, ih, List.count_cons_of_ne hother]
        omega

/-- A name is the same with its closing brackets doubled if and only if it has none. -/
theorem doubled_eq_self_iff {name : List Char} : doubled name = name ↔ ']' ∉ name := by
  constructor
  · intro hsame
    have hlength := length_doubled name
    rw [hsame] at hlength
    exact List.count_eq_zero.1 (by omega)
  · intro hnone
    induction name with
    | nil => rfl
    | cons c rest ih =>
        obtain ⟨hc, hrest⟩ := List.ne_and_not_mem_of_not_mem_cons hnone
        rw [doubled, if_neg hc.symm, ih hrest]

end Brackets

/-- What stands in brackets is what is left without them. -/
theorem unquoted_bracketed (content : List Char) :
    unquoted ('[' :: content ++ [']']) = content := by
  have hlast : (content ++ [']']).getLast? = some ']' := by simp
  have hbetween : between? '[' ']' ('[' :: content ++ [']']) = some content := by
    rw [List.cons_append, between?, if_pos ⟨rfl, hlast⟩, List.dropLast_concat]
  rw [unquoted, hbetween]
  rfl

/-! ## Fronts of names in brackets -/

/-- Only a closing bracket counts as the same as a closing bracket. -/
theorem to_lower_ne_of_bracket {c : Char} (hne : c ≠ ']') : c.toLower ≠ ']'.toLower :=
  (to_lower_ne_of_no_letter rfl (by decide) hne).symm

/-- A word stands at the front of a text that begins with it in other letters. -/
theorem after_front_of_same_case {word written : List Char}
    (hcase : word.map Char.toLower = written.map Char.toLower) (rest : List Char) :
    afterFrontIgnoringCase? word (written ++ rest) = some rest := by
  induction word generalizing written with
  | nil =>
      obtain rfl := List.map_eq_nil_iff.1 hcase.symm
      rfl
  | cons c word ih =>
      obtain ⟨d, others, rfl, hletter, hothers⟩ := List.map_eq_cons_iff.1 hcase.symm
      rw [List.cons_append, afterFrontIgnoringCase?, if_pos hletter.symm, ih hothers.symm]

/-- Behind one closing bracket or more a name with its own closing bracket and a dot does not stand
at the front of that name with doubled brackets: each bracket of the name leaves one more behind. -/
theorem after_front_of_excess {name written : List Char}
    (hcase : name.map Char.toLower = written.map Char.toLower) (excess : Nat) (rest : List Char) :
    afterFrontIgnoringCase? (name ++ [']', '.']) (List.replicate (excess + 1) ']' ++
      (Brackets.doubled written ++ ']' :: rest)) = none := by
  induction name generalizing written excess with
  | nil =>
      obtain rfl := List.map_eq_nil_iff.1 hcase.symm
      cases excess with
      | zero => simp [afterFrontIgnoringCase?, Brackets.doubled]
      | succ excess => simp [afterFrontIgnoringCase?, List.replicate_succ]
  | cons c name ih =>
      obtain ⟨d, others, rfl, hletter, hothers⟩ := List.map_eq_cons_iff.1 hcase.symm
      rw [List.replicate_succ, List.cons_append, List.cons_append, afterFrontIgnoringCase?]
      by_cases hbracket : c = ']'
      · subst hbracket
        have hsame : d = ']' := by
          by_contra hne
          exact to_lower_ne_of_bracket hne hletter
        have hnext := ih hothers.symm (excess + 1)
        rw [if_pos rfl, hsame, Brackets.doubled, if_pos rfl]
        simpa [List.replicate_succ'] using hnext
      · exact if_neg (to_lower_ne_of_bracket hbracket)

/-- An alias in brackets does not stand at the front of itself with doubled brackets if it has a
closing bracket. -/
theorem after_front_of_doubled {name written : List Char}
    (hcase : name.map Char.toLower = written.map Char.toLower) (hbracket : ']' ∈ name)
    (rest : List Char) :
    afterFrontIgnoringCase? (name ++ [']', '.']) (Brackets.doubled written ++ ']' :: rest)
      = none := by
  induction name generalizing written with
  | nil => cases hbracket
  | cons c name ih =>
      obtain ⟨d, others, rfl, hletter, hothers⟩ := List.map_eq_cons_iff.1 hcase.symm
      rw [List.cons_append, Brackets.doubled]
      split
      · next hclosing =>
        have hfirst : c = ']' := by
          by_contra hne
          exact to_lower_ne_of_bracket hne (hletter.symm.trans (congrArg Char.toLower hclosing))
        rw [hfirst, List.cons_append, afterFrontIgnoringCase?, if_pos rfl]
        exact after_front_of_excess hothers.symm 0 rest
      · next hother =>
        have hfirst : ']' ≠ c := by
          rintro rfl
          exact to_lower_ne_of_bracket hother hletter
        rw [List.cons_append, afterFrontIgnoringCase?, if_pos hletter.symm]
        exact ih hothers.symm ((List.mem_cons.1 hbracket).resolve_left hfirst)

/-- A name with a separator behind does not stand at the front of the same name in brackets. -/
theorem after_front_of_opened {separator : Char} (hseparator : separator ∈ ['.', '_'])
    {name written : List Char} (hcase : name.map Char.toLower = written.map Char.toLower)
    (rest : List Char) :
    afterFrontIgnoringCase? (name ++ [separator]) ('[' :: (Brackets.doubled written ++ rest))
      = none := by
  induction name generalizing written with
  | nil =>
      have hne : '[' ≠ separator := by
        rintro rfl
        exact absurd hseparator (by decide)
      exact if_neg (to_lower_ne_of_mark (List.mem_append_left _ hseparator) hne)
  | cons c name ih =>
      obtain ⟨d, others, rfl, hletter, hothers⟩ := List.map_eq_cons_iff.1 hcase.symm
      have hopening : '[' ∈ aliasMarks := by decide
      rw [List.cons_append, afterFrontIgnoringCase?]
      by_cases hfirst : c = '['
      · have hsecond : d = '[' := by
          by_contra hne
          exact to_lower_ne_of_mark hopening hne (hfirst ▸ hletter.symm)
        rw [if_pos (congrArg Char.toLower hfirst), hsecond, Brackets.doubled, if_neg (by decide)]
        exact ih hothers.symm
      · exact if_neg (to_lower_ne_of_mark hopening hfirst).symm

/-- A name without closing brackets has none in other letters. -/
theorem bracket_not_mem_of_same_case {name written : List Char}
    (hcase : name.map Char.toLower = written.map Char.toLower) (hnone : ']' ∉ name) :
    ']' ∉ written := by
  intro hbracket
  have hletter : ']'.toLower ∈ name.map Char.toLower := by
    rw [hcase]
    exact List.mem_map_of_mem hbracket
  obtain ⟨c, hmem, hsame⟩ := List.mem_map.1 hletter
  have hother : c ≠ ']' := fun hc => hnone (hc ▸ hmem)
  exact to_lower_ne_of_bracket hother hsame

/-! ## Columns in brackets -/

/-- What an alias leaves of a column in brackets. An alias with a closing bracket leaves nothing;
any other one leaves the name of the column with its closing brackets doubled. -/
theorem strip_alias_bracketed {aliasName written : String}
    (hcase : asciiEqual aliasName written = true) (column : String) :
    stripAlias (Dialect.brackets.pieceText (.column written column)) aliasName
      = if ']' ∈ aliasName.toList ∨ column = "" then none
        else some (String.ofList (Brackets.doubled column.toList)) := by
  have hletters : aliasName.toList.map Char.toLower = written.toList.map Char.toLower :=
    eq_of_beq hcase
  have htext : (Dialect.brackets.pieceText (.column written column)).toList
      = '[' :: (Brackets.doubled written.toList ++
        ']' :: '.' :: ('[' :: Brackets.doubled column.toList ++ [']'])) := by
    simp [Dialect.pieceText, Dialect.brackets, Brackets.quote]
  have hquoted : ∀ mark, mark ∈ ['`', '"'] → ∀ more rest,
      afterFrontIgnoringCase? (mark :: more) ('[' :: rest) = none := by
    intro mark hmark more rest
    have hother : '[' ≠ mark := by
      rintro rfl
      exact absurd hmark (by decide)
    exact if_neg (to_lower_ne_of_mark (List.mem_append_right _ (List.mem_cons_of_mem _ hmark))
      hother)
  have hopened : ∀ more rest, afterFrontIgnoringCase? ('[' :: more) ('[' :: rest)
      = afterFrontIgnoringCase? more rest := fun _ _ => if_pos rfl
  rw [stripAlias, htext, aliasFronts]
  simp only [List.findSome?_cons, List.findSome?_nil, List.cons_append, hopened,
    hquoted '`' (by decide), hquoted '"' (by decide),
    after_front_of_opened (by decide : '.' ∈ ['.', '_']) hletters,
    after_front_of_opened (by decide : '_' ∈ ['.', '_']) hletters]
  by_cases hbracket : ']' ∈ aliasName.toList
  · rw [after_front_of_doubled hletters hbracket, if_pos (.inl hbracket)]
  · have hfront : (aliasName.toList ++ [']', '.']).map Char.toLower
        = (written.toList ++ [']', '.']).map Char.toLower := by
      rw [List.map_append, List.map_append, hletters]
    have hrest := after_front_of_same_case hfront ('[' :: (Brackets.doubled column.toList ++ [']']))
    rw [List.append_assoc] at hrest
    have hname := unquoted_bracketed (Brackets.doubled column.toList)
    rw [List.cons_append] at hname
    have hempty : (Brackets.doubled column.toList).isEmpty = true ↔ column = "" := by
      have hlength := Brackets.length_doubled column.toList
      rw [List.isEmpty_iff, ← String.toList_eq_nil_iff]
      constructor
      · intro hnone
        rw [hnone, List.length_nil] at hlength
        exact List.length_eq_zero_iff.1 (by omega)
      · intro hnone
        rw [hnone]
        rfl
    rw [Brackets.doubled_eq_self_iff.2 (bracket_not_mem_of_same_case hletters hbracket)]
    simp only [List.cons_append, List.nil_append] at hrest
    simp only [hrest, hname, hempty, hbracket, false_or]

/-- A column in brackets is read back under its alias, in whatever letters, exactly if neither the
alias nor the column has a closing bracket: nothing is read under an alias that has one, and any
other alias leaves the closing brackets of the column doubled. -/
theorem quoted_column_stripped_iff {aliasName written column : String}
    (hcase : asciiEqual aliasName written = true) (hcolumn : column ≠ "") :
    (stripAlias (Dialect.brackets.pieceText (.column written column)) aliasName = some column ↔
      ']' ∉ aliasName.toList ∧ ']' ∉ column.toList) ∧
    stripAlias (Dialect.brackets.pieceText (.column written column)) aliasName
      = if ']' ∈ aliasName.toList then none
        else some (String.ofList (Brackets.doubled column.toList)) := by
  have hstripped := strip_alias_bracketed hcase column
  simp only [hcolumn, or_false] at hstripped
  refine ⟨?_, hstripped⟩
  rw [hstripped]
  by_cases hbracket : ']' ∈ aliasName.toList
  · simp [hbracket]
  · have hdoubled : Brackets.doubled column.toList = column.toList ↔ ']' ∉ column.toList :=
      Brackets.doubled_eq_self_iff
    rw [if_neg hbracket, Option.some.injEq, ← hdoubled, and_iff_right hbracket]
    constructor
    · intro hsame
      have hchars := congrArg String.toList hsame
      rwa [String.toList_ofList] at hchars
    · intro hsame
      rw [hsame, String.ofList_toList]

/-- The column `a]b` of the alias `o` is read under the alias `O` as `a]]b`. -/
theorem closing_bracket_left_doubled :
    let stripped := stripAlias (Dialect.brackets.pieceText (.column "o" "a]b")) "O"
    asciiEqual "O" "o" = true ∧ "a]b" ≠ "" ∧ stripped = some "a]]b" ∧ stripped ≠ some "a]b" := by
  intro stripped
  have hcase : asciiEqual "O" "o" = true := by decide
  have hcolumn : "a]b" ≠ "" := by decide
  obtain ⟨hiff, hstripped⟩ := quoted_column_stripped_iff hcase hcolumn
  refine ⟨hcase, hcolumn, hstripped.trans (by decide), fun hsame => ?_⟩
  exact (hiff.1 hsame).2 (by decide)

end Orm
