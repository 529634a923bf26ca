import Orm.Query.Expr

/-!
# The grammar of conditions

A condition is a list of tokens, and `SqlTree` is what can be read in it, with its parentheses.
Arithmetic binds more strongly than comparisons and tests, these more strongly than `NOT`, then come
`AND` and `OR`. `SqlTree.Fits` says that no operand of a tree belongs to a stronger operator beside
it. A tree is known by its tokens and by what remains of it without parentheses:
`eq_of_ungrouped_eq`.
-/

namespace Orm

/-- A token of a condition, or another one. The sign of a product also stands for all rows. -/
inductive SqlToken
  | column (aliasName name : String)
  | slot (index : Nat)
  | number (digits : String)
  | name (text : String)
  | sign (op : BinaryOp)
  | opening
  | closing
  | comma
  | not
  | is
  | null
  | among
  | like
  | other
deriving DecidableEq, Repr

/-- Whether a token is other than a parenthesis. -/
def SqlToken.hasWeight : SqlToken → Bool
  | .opening | .closing => false
  | _ => true

/-- How strongly an operator binds its operands. -/
def BinaryOp.strength : BinaryOp → Nat
  | .or => 1
  | .and => 2
  | .eq | .notEq | .lt | .ltEq | .gt | .gtEq => 4
  | .add | .sub => 5
  | .mul | .div => 6

/-- How strongly `NOT` binds its operand. -/
def notStrength : Nat := 3

/-- How strongly `IS NULL`, `IN` and `LIKE` bind their operands. -/
def testStrength : Nat := 4

/-- Every operator binds its operands. -/
theorem BinaryOp.strength_pos (op : BinaryOp) : 0 < op.strength := by cases op <;> decide

/-- What can be read in a condition. A test for null may be denied, the slots of a list are one or
more, and a function without a column is applied to all rows. -/
inductive SqlTree
  | column (aliasName name : String)
  | slot (index : Nat)
  | number (digits : String)
  | null
  | call (function : String) (argument : Option (String × String))
  | group (inner : SqlTree)
  | binary (op : BinaryOp) (left right : SqlTree)
  | not (inner : SqlTree)
  | nullTest (denied : Bool) (inner : SqlTree)
  | oneOf (inner : SqlTree) (first : Nat) (others : List Nat)
  | like (inner pattern : SqlTree)
deriving DecidableEq, Repr

namespace SqlTree

variable {tree other inner left right pattern : SqlTree}

/-- The tokens of a test for null. -/
def nullTokens (denied : Bool) : List SqlToken :=
  if denied then [.is, .not, .null] else [.is, .null]

/-- The tokens of what a function is applied to. -/
def argumentTokens : Option (String × String) → List SqlToken
  | none => [.sign .mul]
  | some ref => [.column ref.1 ref.2]

/-- The tokens of the slots of a list after the first. -/
def slotTokens (others : List Nat) : List SqlToken :=
  others.flatMap fun index => [.comma, .slot index]

/-- The tokens of a tree, from left to right. -/
def tokens : SqlTree → List SqlToken
  | column aliasName name => [.column aliasName name]
  | slot index => [.slot index]
  | number digits => [.number digits]
  | null => [.null]
  | call function argument => [.name function, .opening] ++ argumentTokens argument ++ [.closing]
  | group inner => [.opening] ++ tokens inner ++ [.closing]
  | binary op left right => tokens left ++ [.sign op] ++ tokens right
  | not inner => [.not] ++ tokens inner
  | nullTest denied inner => tokens inner ++ nullTokens denied
  | oneOf inner first others =>
      tokens inner ++ [.among, .opening, .slot first] ++ slotTokens others ++ [.closing]
  | like inner pattern => tokens inner ++ [.like] ++ tokens pattern

/-- Every operator that a tree begins with an operand of binds more strongly than a bound. -/
def LeftAbove (bound : Nat) : SqlTree → Prop
  | binary op left _ => bound < op.strength ∧ left.LeftAbove bound
  | nullTest _ inner | oneOf inner _ _ | like inner _ =>
      bound < testStrength ∧ inner.LeftAbove bound
  | column .. | slot _ | number _ | null | call .. | group _ | not _ => True

/-- Every operator that a tree ends with an operand of binds at least as strongly as a bound. -/
def RightFrom (bound : Nat) : SqlTree → Prop
  | binary op _ right => bound ≤ op.strength ∧ right.RightFrom bound
  | not inner => bound ≤ notStrength ∧ inner.RightFrom bound
  | like _ pattern => bound ≤ testStrength ∧ pattern.RightFrom bound
  | column .. | slot _ | number _ | null | call .. | group _ | nullTest .. | oneOf .. => True

/-- No operand belongs to an operator beside it that binds more strongly, or as strongly from the
left. -/
def Fits : SqlTree → Prop
  | column .. | slot _ | number _ | null | call .. => True
  | group inner => inner.Fits
  | binary op left right =>
      left.Fits ∧ right.Fits ∧ left.RightFrom op.strength ∧ right.LeftAbove op.strength
  | not inner => inner.Fits ∧ inner.LeftAbove notStrength
  | nullTest _ inner | oneOf inner _ _ => inner.Fits ∧ inner.RightFrom testStrength
  | like inner pattern =>
      inner.Fits ∧ pattern.Fits ∧ inner.RightFrom testStrength ∧ pattern.LeftAbove testStrength

/-- A tree without its parentheses. -/
def ungrouped : SqlTree → SqlTree
  | group inner => ungrouped inner
  | binary op left right => binary op (ungrouped left) (ungrouped right)
  | not inner => not (ungrouped inner)
  | nullTest denied inner => nullTest denied (ungrouped inner)
  | oneOf inner first others => oneOf (ungrouped inner) first others
  | like inner pattern => like (ungrouped inner) (ungrouped pattern)
  | column aliasName name => column aliasName name
  | slot index => slot index
  | number digits => number digits
  | null => null
  | call function argument => call function argument

/-- Every operator binds more strongly than nothing. -/
theorem left_above_zero (tree : SqlTree) : tree.LeftAbove 0 := by
  induction tree with
  | binary op _ _ ih => exact ⟨op.strength_pos, ih⟩
  | nullTest _ _ ih | oneOf _ _ _ ih | like _ _ ih => exact ⟨by decide, ih⟩
  | _ => trivial

/-- No operator binds less strongly than `OR`. -/
theorem right_from_one (tree : SqlTree) : tree.RightFrom 1 := by
  induction tree with
  | binary op _ _ _ ih => exact ⟨op.strength_pos, ih⟩
  | not _ ih | like _ _ _ ih => exact ⟨by decide, ih⟩
  | _ => trivial

/-! ## Conjunctions -/

/-- A tree and others after it, each with `AND` before it. -/
def conjoined (tree : SqlTree) (others : List SqlTree) : SqlTree :=
  others.foldl (fun left right => .binary .and left right) tree

/-- A conjunction has the tokens of its trees with `AND` between them. -/
theorem tokens_conjoined (tree : SqlTree) (others : List SqlTree) :
    (tree.conjoined others).tokens
      = tree.tokens ++ others.flatMap fun other => .sign .and :: other.tokens := by
  induction others generalizing tree with
  | nil => exact (List.append_nil _).symm
  | cons other others ih =>
      rw [conjoined, List.foldl_cons, ← conjoined, ih]
      simp [tokens]

/-- A conjunction has the operators of its trees. -/
theorem ungrouped_conjoined (tree : SqlTree) (others : List SqlTree) :
    (tree.conjoined others).ungrouped = tree.ungrouped.conjoined (others.map ungrouped) := by
  induction others generalizing tree with
  | nil => rfl
  | cons other others ih => exact ih (binary .and tree other)

/-- A conjunction fits if and only if its trees do, none of them being one of alternatives. -/
theorem fits_conjoined_iff {others : List SqlTree}
    (hright : tree.RightFrom BinaryOp.and.strength)
    (hothers : ∀ other ∈ others,
      other.RightFrom BinaryOp.and.strength ∧ other.LeftAbove BinaryOp.and.strength) :
    (tree.conjoined others).Fits ↔ tree.Fits ∧ ∀ other ∈ others, other.Fits := by
  induction others generalizing tree with
  | nil => simp [conjoined]
  | cons other others ih =>
      obtain ⟨⟨hends, hbegins⟩, hlater⟩ := List.forall_mem_cons.1 hothers
      have hboth : (binary .and tree other).RightFrom BinaryOp.and.strength :=
        ⟨Nat.le_refl _, hends⟩
      refine (ih hboth hlater).trans ?_
      simp [Fits, hright, hbegins, and_assoc]

/-! ## Trees by their tokens -/

/-- The tokens up to the parenthesis that closes a given number of open ones and one more. -/
def untilClosed : Nat → List SqlToken → List SqlToken
  | _, [] => []
  | depth, .opening :: rest => .opening :: untilClosed (depth + 1) rest
  | 0, .closing :: _ => []
  | depth + 1, .closing :: rest => .closing :: untilClosed depth rest
  | depth, token :: rest => token :: untilClosed depth rest

/-- The slots of a list have no parentheses. -/
theorem until_closed_slot_tokens (depth : Nat) (others : List Nat) (rest : List SqlToken) :
    untilClosed depth (slotTokens others ++ rest)
      = slotTokens others ++ untilClosed depth rest := by
  induction others with
  | nil => rfl
  | cons index others ih =>
      have hcons : slotTokens (index :: others) = .comma :: .slot index :: slotTokens others := rfl
      simp only [hcons, List.cons_append, untilClosed, ih]

/-- The parentheses of a tree close each other. -/
theorem until_closed_tokens (tree : SqlTree) (depth : Nat) (rest : List SqlToken) :
    untilClosed depth (tree.tokens ++ rest) = tree.tokens ++ untilClosed depth rest := by
  induction tree generalizing depth rest with
  | column | slot | number | null => simp [tokens, untilClosed]
  | call function argument => cases argument <;> simp [tokens, argumentTokens, untilClosed]
  | group inner ih | not inner ih => simp [tokens, untilClosed, ih]
  | binary op left right ihleft ihright | like left right ihleft ihright =>
      simp [tokens, untilClosed, ihleft, ihright]
  | nullTest denied inner ih => cases denied <;> simp [tokens, nullTokens, untilClosed, ih]
  | oneOf inner first others ih => simp [tokens, untilClosed, ih, until_closed_slot_tokens]

/-- The number of tokens other than parentheses. -/
def weight (tree : SqlTree) : Nat := tree.tokens.countP SqlToken.hasWeight

/-- Parentheses have no weight. -/
theorem weight_ungrouped (tree : SqlTree) : tree.ungrouped.weight = tree.weight := by
  unfold weight
  induction tree with
  | column | slot | number | null | call => rfl
  | group inner ih => simp [ungrouped, tokens, SqlToken.hasWeight, ih]
  | not inner ih | nullTest denied inner ih | oneOf inner first others ih =>
      simp [ungrouped, tokens, List.countP_cons, ih]
  | binary op left right ihleft ihright | like left right ihleft ihright =>
      simp [ungrouped, tokens, List.countP_cons, ihleft, ihright]

/-- What a tree begins with has less weight than the tree. -/
theorem weight_lt_of_begins {token : SqlToken} {after between : List SqlToken}
    (hleft : left.tokens = .opening :: inner.tokens ++ .closing :: after)
    (htree : tree.tokens = left.tokens ++ token :: between) (htoken : token.hasWeight = true) :
    inner.weight < tree.weight := by
  simp only [weight, htree, hleft, List.countP_cons, List.countP_append, htoken, if_true]
  omega

/-- A tree that begins with a parenthesis begins with a tree in parentheses, which is all of it or
has less weight. -/
theorem begins_with_group {rest tail : List SqlToken}
    (h : tree.tokens ++ rest = .opening :: tail) :
    ∃ inner after, tree.tokens = .opening :: inner.tokens ++ SqlToken.closing :: after ∧
      (tree = .group inner ∨ inner.weight < tree.weight) := by
  induction tree generalizing rest tail with
  | column | slot | number | null | call | not => simp [tokens] at h
  | group inner => exact ⟨inner, [], rfl, .inl rfl⟩
  | binary op left right ih =>
      obtain ⟨inner, after, hleft, -⟩ := ih (by simpa [tokens] using h)
      have htree : (binary op left right).tokens = left.tokens ++ .sign op :: right.tokens := by
        simp [tokens]
      exact ⟨inner, after ++ .sign op :: right.tokens, by simp [htree, hleft],
        .inr (weight_lt_of_begins hleft htree rfl)⟩
  | like left right ih =>
      obtain ⟨inner, after, hleft, -⟩ := ih (by simpa [tokens] using h)
      have htree : (like left right).tokens = left.tokens ++ .like :: right.tokens := by
        simp [tokens]
      exact ⟨inner, after ++ .like :: right.tokens, by simp [htree, hleft],
        .inr (weight_lt_of_begins hleft htree rfl)⟩
  | nullTest denied left ih =>
      obtain ⟨inner, after, hleft, -⟩ := ih (by simpa [tokens] using h)
      have htree : ∃ between, (nullTest denied left).tokens = left.tokens ++ .is :: between := by
        cases denied <;> exact ⟨_, rfl⟩
      obtain ⟨between, htree⟩ := htree
      exact ⟨inner, after ++ .is :: between, by simp [htree, hleft],
        .inr (weight_lt_of_begins hleft htree rfl)⟩
  | oneOf left first others ih =>
      obtain ⟨inner, after, hleft, -⟩ := ih (by simpa [tokens] using h)
      have htree : (oneOf left first others).tokens = left.tokens ++ (.among :: .opening ::
          .slot first :: (slotTokens others ++ [SqlToken.closing]) : List SqlToken) := by
        simp [tokens]
      exact ⟨inner, after ++ _, by simp [htree, hleft]; rfl,
        .inr (weight_lt_of_begins hleft htree rfl)⟩

/-- Whether a tree is one in parentheses. -/
def isGroup : SqlTree → Bool
  | group _ => true
  | _ => false

/-- A tree has parentheses around it if the same tokens with the same operators have. -/
theorem is_group_of_same {rest others : List SqlToken}
    (h : (group inner).tokens ++ rest = tree.tokens ++ others)
    (hsame : inner.ungrouped = tree.ungrouped) : tree.isGroup = true := by
  obtain ⟨first, after, hfirst, rfl | hless⟩ :=
    begins_with_group (h.symm.trans (by simp only [tokens, List.append_assoc]; rfl))
  · rfl
  · -- Both groups end where their first parenthesis is closed, so they are the same.
    have hclosed : inner.tokens ++ .closing :: rest
        = first.tokens ++ .closing :: (after ++ others) := by
      simpa [tokens, hfirst] using h
    have htokens := congrArg (untilClosed 0) hclosed
    rw [until_closed_tokens, until_closed_tokens, untilClosed, untilClosed, List.append_nil,
      List.append_nil] at htokens
    have hweight : first.weight = tree.weight := by
      rw [← tree.weight_ungrouped, ← hsame, weight_ungrouped, weight, weight, htokens]
    omega

/-- A tree is known by its tokens and by its operators. -/
theorem eq_of_ungrouped_eq {rest others : List SqlToken}
    (h : tree.tokens ++ rest = other.tokens ++ others)
    (hsame : tree.ungrouped = other.ungrouped) : tree = other := by
  induction tree generalizing other rest others with
  | group inner ih =>
      cases other with
      | group only =>
          have hinner : inner.tokens ++ .closing :: rest = only.tokens ++ .closing :: others := by
            simpa [tokens] using h
          rw [ih hinner hsame]
      | _ => cases is_group_of_same h hsame
  | column | slot | number | null | call =>
      cases other with
      | group => cases is_group_of_same h.symm hsame.symm
      | column | slot | number | null | call => exact hsame
      | _ => cases hsame
  | binary op left right ihleft ihright =>
      cases other with
      | group => cases is_group_of_same h.symm hsame.symm
      | binary sign first second =>
          obtain ⟨rfl, hleft, hright⟩ := binary.inj hsame
          simp only [tokens, List.append_assoc] at h
          obtain rfl := ihleft h hleft
          rw [ihright (List.append_cancel_left (List.append_cancel_left h)) hright]
      | _ => cases hsame
  | like left right ihleft ihright =>
      cases other with
      | group => cases is_group_of_same h.symm hsame.symm
      | like first second =>
          obtain ⟨hleft, hright⟩ := like.inj hsame
          simp only [tokens, List.append_assoc] at h
          obtain rfl := ihleft h hleft
          rw [ihright (List.append_cancel_left (List.append_cancel_left h)) hright]
      | _ => cases hsame
  | not inner ih =>
      cases other with
      | group => cases is_group_of_same h.symm hsame.symm
      | not only =>
          have hinner : inner.tokens ++ rest = only.tokens ++ others := (List.cons.inj h).2
          rw [ih hinner (not.inj hsame)]
      | _ => cases hsame
  | nullTest denied inner ih =>
      cases other with
      | group => cases is_group_of_same h.symm hsame.symm
      | nullTest denial only =>
          obtain ⟨rfl, hinner⟩ := nullTest.inj hsame
          simp only [tokens, List.append_assoc] at h
          rw [ih h hinner]
      | _ => cases hsame
  | oneOf inner first others ih =>
      cases other with
      | group => cases is_group_of_same h.symm hsame.symm
      | oneOf only second more =>
          obtain ⟨hinner, rfl, rfl⟩ := oneOf.inj hsame
          simp only [tokens, List.append_assoc] at h
          rw [ih h hinner]
      | _ => cases hsame

end SqlTree

end Orm
