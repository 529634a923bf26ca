import Mathlib.Data.List.Infix
import Orm.Text.LowerCase
import Orm.Text.Search

/-!
# Words in texts

A word occurs in a text if it is a part of it (`occurs_iff_infix`). A text in lower case is that of
its parts on both sides of an underscore: the only letter whose lower-case form depends on others
looks for letters, and an underscore ends what it looks at (`lower_split`).
-/

namespace Orm.Text

/-- A text begins with a word if the word is a prefix of it. -/
theorem begins_iff_prefix {word text : List Char} :
    beginsWith word text = true ↔ word <+: text := by
  induction word generalizing text with
  | nil => simp [beginsWith]
  | cons c word ih =>
      cases text with
      | nil => simp [beginsWith]
      | cons d text => simp [beginsWith, ih, List.cons_prefix_cons]

/-- A word occurs in a text if it is a part of it. -/
theorem occurs_iff_infix {word text : List Char} : occursIn word text = true ↔ word <:+: text := by
  induction text with
  | nil => simp [occursIn]
  | cons c text ih =>
      rw [occursIn, Bool.or_eq_true, begins_iff_prefix, ih, List.infix_cons_iff]

/-- Whether a letter follows is decided before an underscore. -/
theorem meets_cased_append (text after other : List Char) :
    meetsCased (text ++ '_' :: after) = meetsCased (text ++ '_' :: other) := by
  induction text with
  | nil =>
      have hstays : caseIgnorables.contains '_' = false := by decide +kernel
      simp [meetsCased, hstays]
  | cons c text ih =>
      unfold meetsCased at ih ⊢
      cases hpassed : caseIgnorables.contains c with
      | true => simpa [hpassed] using ih
      | false => simp [hpassed]

/-- The lower-case form of a text after an underscore does not depend on what is before. -/
theorem lower_after_underscore (text before first second : List Char) :
    lowerAfter (before ++ '_' :: first) text = lowerAfter (before ++ '_' :: second) text := by
  induction text generalizing before with
  | nil => rfl
  | cons c text ih =>
      rw [lowerAfter, lowerAfter, meets_cased_append before first second]
      exact congrArg _ (ih (c :: before))

/-- The lower-case form of a text up to an underscore does not depend on what follows. -/
theorem lower_append (text before rest : List Char) :
    lowerAfter before (text ++ '_' :: rest)
      = lowerAfter before (text ++ ['_']) ++ lowerAfter ('_' :: (text.reverse ++ before)) rest := by
  induction text generalizing before with
  | nil => simp [lowerAfter]
  | cons c text ih =>
      rw [List.cons_append, List.cons_append, lowerAfter, lowerAfter, ih,
        meets_cased_append text rest []]
      simp

/-- A text in lower case ends with an underscore if the text does. -/
theorem underscore_suffix_lower (text before : List Char) :
    ['_'] <:+ lowerAfter before (text ++ ['_']) := by
  induction text generalizing before with
  | nil => exact List.suffix_refl _
  | cons c text ih => exact (ih (c :: before)).trans (List.suffix_append _ _)

/-- A text in lower case has the part up to an underscore in lower case at its beginning, and that
from the underscore on at its end. -/
theorem lower_split (text rest : String) :
    (lower (text ++ "_")).toList <+: (lower (text ++ "_" ++ rest)).toList ∧
      (lower ("_" ++ rest)).toList <:+ (lower (text ++ "_" ++ rest)).toList := by
  have hwhole : (lower (text ++ "_" ++ rest)).toList
      = (lower (text ++ "_")).toList ++ lowerAfter ['_'] rest.toList := by
    have happend := lower_append text.toList [] rest.toList
    have hbefore : lowerAfter ('_' :: text.toList.reverse) rest.toList
        = lowerAfter ['_'] rest.toList :=
      lower_after_underscore rest.toList [] text.toList.reverse []
    rw [List.append_nil, hbefore] at happend
    simpa [lower] using happend
  rw [hwhole]
  refine ⟨List.prefix_append _ _, ?_⟩
  have hrest : (lower ("_" ++ rest)).toList = ['_'] ++ lowerAfter ['_'] rest.toList := by
    simp [lower, lowerAfter, lowerChar]
  obtain ⟨shown, hshown⟩ := underscore_suffix_lower text.toList []
  have htext : (lower (text ++ "_")).toList = shown ++ ['_'] := by simpa [lower] using hshown.symm
  rw [hrest, htext, List.append_assoc]
  exact List.suffix_append _ _

end Orm.Text
