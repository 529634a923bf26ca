import Mathlib.Data.List.Basic
import Orm.Entity.Derived

/-!
# Which columns of a joined row an alias has

A joined query names its columns by alias and column with a dot between. `strip_alias_qualified`
says what is left of such a name for its own alias, and `strip_alias_of_apart` that nothing is left
for another one, if neither of the two aliases is the front of the other in a way that could be
taken for an alias before a column (`AliasApart`).
-/

namespace Orm

/-! ## Fronts, the case of letters not counting -/

/-- The marks that can open a quoted alias. -/
def openingMarks : List Char := ['[', '`', '"']

/-- The marks that can stand around an alias before a column. -/
def aliasMarks : List Char := ['.', '_'] ++ openingMarks

/-- No mark is a capital letter. -/
theorem to_lower_of_mark : ∀ mark ∈ aliasMarks, mark.toLower = mark := by
  simp [aliasMarks, openingMarks]

/-- No mark is a small letter. -/
theorem not_small_of_mark :
    ∀ mark ∈ aliasMarks, ¬ ('a'.val ≤ mark.val ∧ mark.val ≤ 'z'.val) := by
  simp [aliasMarks, openingMarks]

/-- A capital letter becomes a small one. -/
theorem small_of_capital {c : Char} (hcapital : c.val ≥ 'A'.val ∧ c.val ≤ 'Z'.val) :
    'a'.val ≤ c.toLower.val ∧ c.toLower.val ≤ 'z'.val := by
  have hlower : c.toLower.val = c.val + 32 := congrArg Char.val (dif_pos hcapital)
  have hfirst : 65 ≤ c.val.toNat := hcapital.1
  have hlast : c.val.toNat ≤ 90 := hcapital.2
  show 97 ≤ c.toLower.val.toNat ∧ c.toLower.val.toNat ≤ 122
  have hoffset : (32 : UInt32).toNat = 32 := rfl
  rw [hlower, UInt32.toNat_add, hoffset]
  omega

/-- Only a character itself counts as the same as the character if that is no letter. -/
theorem to_lower_ne_of_no_letter {mark c : Char} (hlower : mark.toLower = mark)
    (hsmall : ¬ ('a'.val ≤ mark.val ∧ mark.val ≤ 'z'.val)) (hne : c ≠ mark) :
    mark.toLower ≠ c.toLower := by
  intro hsame
  rw [hlower] at hsame
  by_cases hcapital : c.val ≥ 'A'.val ∧ c.val ≤ 'Z'.val
  · exact hsmall (hsame ▸ small_of_capital hcapital)
  · have hsmall : c.toLower = c := dif_neg hcapital
    exact hne (hsame.trans hsmall).symm

/-- Only a mark itself counts as the same as the mark. -/
theorem to_lower_ne_of_mark {mark c : Char} (hmark : mark ∈ aliasMarks) (hne : c ≠ mark) :
    mark.toLower ≠ c.toLower :=
  to_lower_ne_of_no_letter (to_lower_of_mark mark hmark) (not_small_of_mark mark hmark) hne

/-- A word stands at the front of itself with something behind. -/
theorem after_front_append (word rest : List Char) :
    afterFrontIgnoringCase? word (word ++ rest) = some rest := by
  induction word with
  | nil => rfl
  | cons c word ih => rw [List.cons_append, afterFrontIgnoringCase?, if_pos rfl, ih]

/-- A mark before a name does not stand at the front of the name with a dot behind. -/
theorem after_front_eq_none_of_marked {mark : Char} (hmark : mark.toLower ≠ '.'.toLower)
    (name more rest : List Char) :
    afterFrontIgnoringCase? (mark :: name ++ more) (name ++ '.' :: rest) = none := by
  induction name generalizing mark with
  | nil => exact if_neg hmark
  | cons c name ih =>
      by_cases hsame : mark.toLower = c.toLower
      · exact (if_pos hsame).trans (ih (hsame ▸ hmark))
      · exact if_neg hsame

/-- Nothing that begins with another character stands at the front. -/
theorem after_front_eq_none_of_head {mark : Char} (hmark : mark ∈ openingMarks)
    {name : List Char} (hname : ∀ c, name.head? = some c → c ∉ openingMarks)
    (more rest : List Char) :
    afterFrontIgnoringCase? (mark :: more) (name ++ '.' :: rest) = none := by
  have hmarks : mark ∈ aliasMarks := List.mem_append_right _ hmark
  cases name with
  | nil =>
      have hdot : '.' ≠ mark := by
        rintro rfl
        exact absurd hmark (by decide)
      rw [List.nil_append, afterFrontIgnoringCase?, if_neg (to_lower_ne_of_mark hmarks hdot)]
  | cons c name =>
      have hne : c ≠ mark := fun hsame => hname c rfl (hsame ▸ hmark)
      rw [List.cons_append, afterFrontIgnoringCase?, if_neg (to_lower_ne_of_mark hmarks hne)]

/-! ## Names with their own alias -/

/-- The characters of a name with its alias. -/
theorem to_list_qualified (aliasName column : String) :
    (aliasName ++ "." ++ column).toList = aliasName.toList ++ '.' :: column.toList := by
  simp

/-- What an alias leaves of the name of a column of its own is the column without marks. -/
theorem strip_alias_qualified (aliasName column : String) :
    stripAlias (aliasName ++ "." ++ column) aliasName
      = if (unquoted column.toList).isEmpty then none
        else some (String.ofList (unquoted column.toList)) := by
  have hquoted : ∀ mark ∈ openingMarks, ∀ more,
      afterFrontIgnoringCase? (mark :: aliasName.toList ++ more)
        (aliasName.toList ++ '.' :: column.toList) = none := fun mark hmark more =>
    after_front_eq_none_of_marked (to_lower_ne_of_mark (List.mem_append_right _ hmark)
      (by rintro rfl; exact absurd hmark (by decide))) _ _ _
  have hplain : afterFrontIgnoringCase? (aliasName.toList ++ ['.'])
      (aliasName.toList ++ '.' :: column.toList) = some column.toList := by
    simpa using after_front_append (aliasName.toList ++ ['.']) column.toList
  rw [stripAlias, to_list_qualified, aliasFronts]
  simp only [List.findSome?_cons, hquoted _ (by decide : '[' ∈ openingMarks),
    hquoted _ (by decide : '`' ∈ openingMarks), hquoted _ (by decide : '"' ∈ openingMarks), hplain]

/-- An alias leaves a column of its own as it is if it has a name without quoting marks. -/
theorem strip_alias_eq_column_iff (aliasName column : String) :
    stripAlias (aliasName ++ "." ++ column) aliasName = some column ↔
      column ≠ "" ∧ unquoted column.toList = column.toList := by
  rw [strip_alias_qualified]
  constructor
  · intro h
    split at h
    · cases h
    · next hsome =>
      have hsame : unquoted column.toList = column.toList := by
        simpa using congrArg String.toList (Option.some.inj h)
      refine ⟨?_, hsame⟩
      rintro rfl
      exact hsome (by rw [hsame]; rfl)
  · rintro ⟨hsome, hsame⟩
    rw [hsame, if_neg (by simpa using hsome), String.ofList_toList]

/-! ## Names with another alias -/

/-- If an alias is the front of another one, the case of letters not counting, then more follows,
and that with neither a dot nor an underscore. -/
def AliasApart (aliasName other : String) : Prop :=
  ∀ rest, afterFrontIgnoringCase? aliasName.toList other.toList = some rest →
    ∃ c more, rest = c :: more ∧ c ≠ '.' ∧ c ≠ '_'

instance (aliasName other : String) : Decidable (AliasApart aliasName other) :=
  decidable_of_iff (∀ rest ∈ afterFrontIgnoringCase? aliasName.toList other.toList,
      rest.head?.any (fun c => c ≠ '.' ∧ c ≠ '_') = true) (by
    simp only [AliasApart, Option.mem_def, Option.any_eq_true, List.head?_eq_some_iff]
    refine forall₂_congr fun rest _ => exists_congr fun c => ?_
    simp)

/-- A separator behind a name does not stand in front of another name with a dot behind if the two
names are apart. -/
theorem after_front_eq_none_of_apart {separator : Char} (hseparator : separator ∈ ['.', '_'])
    {name other : List Char}
    (hname : ∀ rest, afterFrontIgnoringCase? name other = some rest →
      ∃ c more, rest = c :: more ∧ c ≠ '.' ∧ c ≠ '_')
    (hother : ∀ rest, afterFrontIgnoringCase? other name = some rest →
      ∃ c more, rest = c :: more ∧ c ≠ '.' ∧ c ≠ '_') (rest : List Char) :
    afterFrontIgnoringCase? (name ++ [separator]) (other ++ '.' :: rest) = none := by
  induction name generalizing other with
  | nil =>
      obtain ⟨c, more, rfl, hdot, hunderscore⟩ := hname other rfl
      have hne : c ≠ separator := by
        rintro rfl
        simp [hdot, hunderscore] at hseparator
      rw [List.nil_append, List.cons_append, afterFrontIgnoringCase?,
        if_neg (to_lower_ne_of_mark (List.mem_append_left _ hseparator) hne)]
  | cons c name ih =>
      cases other with
      | nil =>
          obtain ⟨d, more, hrest, hdot, -⟩ := hother (c :: name) rfl
          obtain ⟨rfl, -⟩ := List.cons.inj hrest
          have hne : c.toLower ≠ '.'.toLower :=
            (to_lower_ne_of_mark (by decide : '.' ∈ aliasMarks) hdot).symm
          rw [List.nil_append, List.cons_append, afterFrontIgnoringCase?, if_neg hne]
      | cons d other =>
          rw [List.cons_append, List.cons_append, afterFrontIgnoringCase?]
          split
          · next hsame =>
            rw [afterFrontIgnoringCase?, if_pos hsame] at hname
            rw [afterFrontIgnoringCase?, if_pos hsame.symm] at hother
            exact ih hname hother
          · rfl

/-- An alias leaves nothing of the name of a column of another one that is apart from it and begins
with no mark. -/
theorem strip_alias_of_apart {aliasName other : String}
    (hmarks : ∀ c, other.toList.head? = some c → c ∉ openingMarks)
    (hname : AliasApart aliasName other) (hother : AliasApart other aliasName) (column : String) :
    stripAlias (other ++ "." ++ column) aliasName = none := by
  have hquoted : ∀ mark ∈ openingMarks, ∀ more, afterFrontIgnoringCase? (mark :: more)
      (other.toList ++ '.' :: column.toList) = none := fun mark hmark more =>
    after_front_eq_none_of_head hmark hmarks more column.toList
  have hplain : ∀ separator ∈ ['.', '_'], afterFrontIgnoringCase?
      (aliasName.toList ++ [separator]) (other.toList ++ '.' :: column.toList) = none :=
    fun separator hseparator => after_front_eq_none_of_apart hseparator hname hother column.toList
  rw [stripAlias, to_list_qualified, aliasFronts]
  simp only [List.cons_append, List.findSome?_cons, List.findSome?_nil,
    hquoted _ (by decide : '[' ∈ openingMarks), hquoted _ (by decide : '`' ∈ openingMarks),
    hquoted _ (by decide : '"' ∈ openingMarks), hplain _ (by decide : '.' ∈ ['.', '_']),
    hplain _ (by decide : '_' ∈ ['.', '_'])]

end Orm
