import Orm.Proofs.Sql.Grammar

/-!
# Reading conditions

`readCondition` reads the tokens of a condition from left to right. It keeps a stack of what waits
for an operand, and an operator closes all of it that binds at least as strongly. `read_eq_some_iff`
says that it reads a tree if and only if the tree fits and has the tokens, so a condition can be
read in one way at most.
-/

namespace Orm

/-- What waits for an operand on its right. -/
inductive Waiting
  | group
  | not
  | operator (op : BinaryOp) (left : SqlTree)
  | like (inner : SqlTree)

namespace Waiting

/-- How strongly an operand is bound by what waits for it. -/
def strength : Waiting → Nat
  | group => 0
  | not => notStrength
  | operator op _ => op.strength
  | like _ => testStrength

/-- What waited for an operand, with it. -/
def close : Waiting → SqlTree → SqlTree
  | group, tree => .group tree
  | not, tree => .not tree
  | operator op left, tree => .binary op left tree
  | like inner, tree => .like inner tree

end Waiting

/-- How strongly the next operand is bound from the left. -/
def boundOf : List Waiting → Nat
  | [] => 0
  | waiting :: _ => waiting.strength

/-- An operand with all that waits for it and binds at least as strongly as a bound. -/
def settle (bound : Nat) : List Waiting → SqlTree → List Waiting × SqlTree
  | [], tree => ([], tree)
  | waiting :: stack, tree =>
      if bound ≤ waiting.strength then settle bound stack (waiting.close tree)
      else (waiting :: stack, tree)

/-- What a reader has last read: an operand is missing, or there is one, or a list of slots has not
ended. -/
inductive Reading
  | missing
  | operand (tree : SqlTree)
  | listing (inner : SqlTree) (first : Nat) (others : List Nat)

/-- Reads the tokens that are left. -/
def readFrom (stack : List Waiting) : Reading → List SqlToken → Option SqlTree
  | .missing, .column aliasName name :: rest =>
      readFrom stack (.operand (.column aliasName name)) rest
  | .missing, .slot index :: rest => readFrom stack (.operand (.slot index)) rest
  | .missing, .number digits :: rest => readFrom stack (.operand (.number digits)) rest
  | .missing, .null :: rest => readFrom stack (.operand .null) rest
  | .missing, .name function :: .opening :: .sign .mul :: .closing :: rest =>
      readFrom stack (.operand (.call function none)) rest
  | .missing, .name function :: .opening :: .column aliasName name :: .closing :: rest =>
      readFrom stack (.operand (.call function (some (aliasName, name)))) rest
  | .missing, .opening :: rest => readFrom (.group :: stack) .missing rest
  | .missing, .not :: rest => readFrom (.not :: stack) .missing rest
  | .operand tree, [] =>
      match settle 1 stack tree with
      | ([], tree) => some tree
      | _ => none
  | .operand tree, .closing :: rest =>
      match settle 1 stack tree with
      | (.group :: stack, tree) => readFrom stack (.operand (.group tree)) rest
      | _ => none
  | .operand tree, .sign op :: rest =>
      let settled := settle op.strength stack tree
      readFrom (.operator op settled.2 :: settled.1) .missing rest
  | .operand tree, .is :: .null :: rest =>
      let settled := settle testStrength stack tree
      readFrom settled.1 (.operand (.nullTest false settled.2)) rest
  | .operand tree, .is :: .not :: .null :: rest =>
      let settled := settle testStrength stack tree
      readFrom settled.1 (.operand (.nullTest true settled.2)) rest
  | .operand tree, .among :: .opening :: .slot first :: rest =>
      let settled := settle testStrength stack tree
      readFrom settled.1 (.listing settled.2 first []) rest
  | .operand tree, .like :: rest =>
      let settled := settle testStrength stack tree
      readFrom (.like settled.2 :: settled.1) .missing rest
  | .listing inner first others, .comma :: .slot index :: rest =>
      readFrom stack (.listing inner first (others ++ [index])) rest
  | .listing inner first others, .closing :: rest =>
      readFrom stack (.operand (.oneOf inner first others)) rest
  | _, _ => none

/-- Reads the tokens of a condition. -/
def readCondition (tokens : List SqlToken) : Option SqlTree := readFrom [] .missing tokens

variable {bound : Nat} {stack : List Waiting} {tree whole : SqlTree} {rest : List SqlToken}

/-- Nothing is closed that binds less strongly than the bound. -/
theorem settle_of_lt (h : boundOf stack < bound) : settle bound stack tree = (stack, tree) := by
  cases stack with
  | nil => rfl
  | cons waiting stack => exact if_neg (Nat.not_le.2 h)

/-- What binds at least as strongly as the bound is closed. -/
theorem settle_cons {waiting : Waiting} (h : bound ≤ waiting.strength) :
    settle bound (waiting :: stack) tree = settle bound stack (waiting.close tree) := if_pos h

/-! ## What fits is read -/

/-- A reader reads a tree before the rest of the tokens: what is left waiting stands for the tree,
as soon as an operator closes it that binds nothing of what the tree ends with. -/
def Reads (stack : List Waiting) (tree : SqlTree) (rest : List SqlToken) : Prop :=
  ∃ later last,
    readFrom stack .missing (tree.tokens ++ rest) = readFrom later (.operand last) rest ∧
      ∀ bound, tree.RightFrom bound → settle bound later last = settle bound stack tree

/-- A tree before an operator that binds nothing of it, but more strongly than what waits, becomes
an operand of that operator. -/
theorem Reads.settled (h : Reads stack tree rest) (hright : tree.RightFrom bound)
    (hstack : boundOf stack < bound) :
    ∃ later last,
      readFrom stack .missing (tree.tokens ++ rest) = readFrom later (.operand last) rest ∧
        settle bound later last = (stack, tree) := by
  obtain ⟨later, last, hread, hsettle⟩ := h
  exact ⟨later, last, hread, (hsettle bound hright).trans (settle_of_lt hstack)⟩

/-- The slots of a list are read. -/
theorem read_slot_tokens (inner : SqlTree) (first : Nat) (others more : List Nat) :
    readFrom stack (.listing inner first others) (SqlTree.slotTokens more ++ .closing :: rest)
      = readFrom stack (.operand (.oneOf inner first (others ++ more))) rest := by
  induction more generalizing others with
  | nil => simp [SqlTree.slotTokens, readFrom]
  | cons index more ih =>
      have hcons : SqlTree.slotTokens (index :: more)
          = .comma :: .slot index :: SqlTree.slotTokens more := rfl
      rw [hcons, List.cons_append, List.cons_append, readFrom, ih, List.append_assoc]
      rfl

/-- A tree that fits is read where nothing that waits binds what it begins with. -/
theorem reads_of_fits (hfits : tree.Fits) (stack : List Waiting)
    (habove : tree.LeftAbove (boundOf stack)) (rest : List SqlToken) : Reads stack tree rest := by
  induction tree generalizing stack rest with
  | column | slot | number | null => exact ⟨stack, _, rfl, fun _ _ => rfl⟩
  | call function argument => cases argument <;> exact ⟨stack, _, rfl, fun _ _ => rfl⟩
  | group inner ih =>
      have hinner : Reads (.group :: stack) inner (.closing :: rest) :=
        ih hfits (.group :: stack) inner.left_above_zero _
      obtain ⟨later, last, hread, hsettled⟩ := hinner.settled inner.right_from_one Nat.one_pos
      refine ⟨stack, .group inner, ?_, fun _ _ => rfl⟩
      have htokens : inner.group.tokens ++ rest
          = .opening :: (inner.tokens ++ .closing :: rest) := by simp [SqlTree.tokens]
      rw [htokens, readFrom, hread, readFrom, hsettled]
  | not inner ih =>
      have hinner : Reads (.not :: stack) inner rest := ih hfits.1 (.not :: stack) hfits.2 rest
      obtain ⟨later, last, hread, hsettle⟩ := hinner
      refine ⟨later, last, hread, fun bound hbound => ?_⟩
      rw [hsettle bound hbound.2, settle_cons hbound.1]
      rfl
  | binary op left right ihleft ihright =>
      obtain ⟨hleft, hright, hends, hbegins⟩ := hfits
      obtain ⟨later, last, hread, hsettled⟩ :=
        (ihleft hleft stack habove.2 (.sign op :: (right.tokens ++ rest))).settled hends habove.1
      have hright : Reads (.operator op left :: stack) right rest :=
        ihright hright (.operator op left :: stack) hbegins rest
      obtain ⟨final, operand, hrest, hsettle⟩ := hright
      have htokens : (SqlTree.binary op left right).tokens ++ rest
          = left.tokens ++ .sign op :: (right.tokens ++ rest) := by simp [SqlTree.tokens]
      refine ⟨final, operand, ?_, fun bound hbound => ?_⟩
      · rw [htokens, hread, readFrom, hsettled, hrest]
      · rw [hsettle bound hbound.2, settle_cons hbound.1]
        rfl
  | nullTest denied inner ih =>
      obtain ⟨later, last, hread, hsettled⟩ :=
        (ih hfits.1 stack habove.2 (SqlTree.nullTokens denied ++ rest)).settled hfits.2 habove.1
      refine ⟨stack, .nullTest denied inner, ?_, fun _ _ => rfl⟩
      rw [SqlTree.tokens, List.append_assoc, hread]
      cases denied <;> simp [SqlTree.nullTokens, readFrom, hsettled]
  | oneOf inner first others ih =>
      obtain ⟨later, last, hread, hsettled⟩ := (ih hfits.1 stack habove.2 (.among :: .opening ::
        .slot first :: (SqlTree.slotTokens others ++ .closing :: rest))).settled hfits.2 habove.1
      refine ⟨stack, .oneOf inner first others, ?_, fun _ _ => rfl⟩
      have htokens : (inner.oneOf first others).tokens ++ rest = inner.tokens ++ .among ::
          .opening :: .slot first :: (SqlTree.slotTokens others ++ .closing :: rest) := by
        simp [SqlTree.tokens]
      rw [htokens, hread, readFrom, hsettled, read_slot_tokens, List.nil_append]
  | like inner pattern ihinner ihpattern =>
      obtain ⟨hinner, hpattern, hends, hbegins⟩ := hfits
      obtain ⟨later, last, hread, hsettled⟩ :=
        (ihinner hinner stack habove.2 (.like :: (pattern.tokens ++ rest))).settled hends habove.1
      have hpattern : Reads (.like inner :: stack) pattern rest :=
        ihpattern hpattern (.like inner :: stack) hbegins rest
      obtain ⟨final, operand, hrest, hsettle⟩ := hpattern
      have htokens : (inner.like pattern).tokens ++ rest
          = inner.tokens ++ .like :: (pattern.tokens ++ rest) := by simp [SqlTree.tokens]
      refine ⟨final, operand, ?_, fun bound hbound => ?_⟩
      · rw [htokens, hread, readFrom, hsettled, hrest]
      · rw [hsettle bound hbound.2, settle_cons hbound.1]
        rfl

/-- The tokens of a tree that fits are read as that tree. -/
theorem read_tokens_of_fits (hfits : tree.Fits) : readCondition tree.tokens = some tree := by
  have hread : Reads [] tree [] := reads_of_fits hfits [] tree.left_above_zero []
  obtain ⟨later, last, hread, hsettled⟩ := hread.settled tree.right_from_one Nat.one_pos
  rw [List.append_nil] at hread
  rw [readCondition, hread, readFrom, hsettled]

/-! ## What is read fits -/

/-- The tokens of what waits for an operand. -/
def Waiting.tokens : Waiting → List SqlToken
  | group => [.opening]
  | not => [.not]
  | operator op left => left.tokens ++ [.sign op]
  | like inner => inner.tokens ++ [.like]

/-- What waits for an operand above a bound fits, as far as it was read. -/
def Waiting.Fits (bound : Nat) : Waiting → Prop
  | group | not => True
  | operator op left =>
      left.Fits ∧ left.RightFrom op.strength ∧ bound < op.strength ∧ left.LeftAbove bound
  | like inner =>
      inner.Fits ∧ inner.RightFrom testStrength ∧ bound < testStrength ∧ inner.LeftAbove bound

/-- The tokens of all that waits for an operand. -/
def waitingTokens : List Waiting → List SqlToken
  | [] => []
  | waiting :: stack => waitingTokens stack ++ waiting.tokens

/-- All that waits for an operand fits. -/
def StackFits : List Waiting → Prop
  | [] => True
  | waiting :: stack => waiting.Fits (boundOf stack) ∧ StackFits stack

/-- An operand fits what waits for it, and every operator that it ends with an operand of binds at
least as strongly as a bound. -/
structure Held (bound : Nat) (stack : List Waiting) (tree : SqlTree) : Prop where
  waits : StackFits stack
  fits : tree.Fits
  above : tree.LeftAbove (boundOf stack)
  right : tree.RightFrom bound

/-- What waited for an operand fits with it, unless it is a parenthesis. -/
theorem Held.close {waiting : Waiting} (h : Held bound (waiting :: stack) tree)
    (hbound : bound ≤ waiting.strength) (hopen : 0 < waiting.strength) :
    Held bound stack (waiting.close tree) ∧
      (waiting.close tree).tokens = waiting.tokens ++ tree.tokens := by
  obtain ⟨⟨hwaiting, hstack⟩, htree, habove, hright⟩ := h
  cases waiting with
  | group => cases hopen
  | not => exact ⟨⟨hstack, ⟨htree, habove⟩, trivial, ⟨hbound, hright⟩⟩, rfl⟩
  | operator op left =>
      obtain ⟨hleft, hends, hstrong, hbegins⟩ := hwaiting
      exact ⟨⟨hstack, ⟨hleft, htree, hends, habove⟩, ⟨hstrong, hbegins⟩, ⟨hbound, hright⟩⟩, rfl⟩
  | like inner =>
      obtain ⟨hinner, hends, hstrong, hbegins⟩ := hwaiting
      exact ⟨⟨hstack, ⟨hinner, htree, hends, habove⟩, ⟨hstrong, hbegins⟩, ⟨hbound, hright⟩⟩, rfl⟩

/-- What is closed up to a bound fits what is left waiting, which binds less strongly. -/
theorem Held.settle (h : Held bound stack tree) (hbound : 0 < bound) :
    Held bound (settle bound stack tree).1 (settle bound stack tree).2 ∧
      boundOf (settle bound stack tree).1 < bound ∧
      waitingTokens (settle bound stack tree).1 ++ (settle bound stack tree).2.tokens
        = waitingTokens stack ++ tree.tokens := by
  induction stack generalizing tree with
  | nil => exact ⟨h, hbound, rfl⟩
  | cons waiting stack ih =>
      by_cases hcloses : bound ≤ waiting.strength
      · rw [settle_cons hcloses]
        obtain ⟨hclosed, htokens⟩ := h.close hcloses (Nat.lt_of_lt_of_le hbound hcloses)
        obtain ⟨hheld, hless, hall⟩ := ih hclosed
        refine ⟨hheld, hless, ?_⟩
        rw [hall, htokens, waitingTokens, List.append_assoc]
      · rw [settle_of_lt (Nat.not_le.1 hcloses)]
        exact ⟨h, Nat.not_le.1 hcloses, rfl⟩

/-- The tokens of what was last read. -/
def Reading.tokens : Reading → List SqlToken
  | missing => []
  | operand tree => tree.tokens
  | listing inner first others =>
      inner.tokens ++ [.among, .opening, .slot first] ++ SqlTree.slotTokens others

/-- What was last read fits what waits for it. -/
def Reading.Fits (stack : List Waiting) : Reading → Prop
  | missing => StackFits stack
  | operand tree => ∀ bound, Held bound stack tree
  | listing inner _ _ => Held testStrength stack inner ∧ boundOf stack < testStrength

/-- What is read from the tokens that are left fits, and has these tokens after those before. -/
theorem fits_of_read_from {reading : Reading} {tokens : List SqlToken}
    (h : readFrom stack reading tokens = some whole)
    (hfits : reading.Fits stack) :
    whole.Fits ∧ whole.tokens = waitingTokens stack ++ reading.tokens ++ tokens := by
  fun_induction readFrom stack reading tokens with
  | case1 | case2 | case3 | case4 | case5 | case6 =>
      -- An operand that is one token or a call.
      rename_i ih
      refine (ih h fun bound => ⟨hfits, trivial, trivial, trivial⟩).imp_right fun htokens => ?_
      simpa [Reading.tokens, SqlTree.tokens, SqlTree.argumentTokens] using htokens
  | case7 stack rest ih | case8 stack rest ih =>
      -- An opening parenthesis or `NOT` waits for its operand.
      refine (ih h ⟨trivial, hfits⟩).imp_right fun htokens => ?_
      simpa [Reading.tokens, waitingTokens, Waiting.tokens] using htokens
  | case9 stack tree last hsettled =>
      -- The tokens end, and nothing waits any more.
      cases h
      obtain ⟨hheld, -, htokens⟩ := (hfits 1).settle Nat.one_pos
      rw [hsettled] at hheld htokens
      exact ⟨hheld.fits, by simpa [Reading.tokens, waitingTokens] using htokens⟩
  | case11 stack tree rest outer inner hsettled ih =>
      -- A closing parenthesis closes all back to the opening one.
      obtain ⟨hheld, -, hsame⟩ := (hfits 1).settle Nat.one_pos
      rw [hsettled] at hheld hsame
      refine (ih h fun bound => ⟨hheld.waits.2, hheld.fits, trivial, trivial⟩).imp_right
        fun htokens => ?_
      rw [htokens, Reading.tokens, Reading.tokens, ← hsame]
      simp [SqlTree.tokens, waitingTokens, Waiting.tokens]
  | case13 stack tree op rest settled ih =>
      -- An operator waits with what it closes as its left side.
      obtain ⟨hheld, hless, hsame⟩ := (hfits op.strength).settle op.strength_pos
      refine (ih h ⟨⟨hheld.fits, hheld.right, hless, hheld.above⟩, hheld.waits⟩).imp_right
        fun htokens => ?_
      rw [htokens, Reading.tokens, Reading.tokens, ← hsame]
      simp [waitingTokens, Waiting.tokens, settled]
  | case14 stack tree rest settled ih | case15 stack tree rest settled ih =>
      -- A test for null becomes the operand.
      obtain ⟨hheld, hless, hsame⟩ := (hfits testStrength).settle (by decide)
      refine (ih h fun bound => ⟨hheld.waits, ⟨hheld.fits, hheld.right⟩, ⟨hless, hheld.above⟩,
        trivial⟩).imp_right fun htokens => ?_
      rw [htokens, Reading.tokens, Reading.tokens, ← hsame]
      simp [SqlTree.tokens, SqlTree.nullTokens, settled]
  | case16 stack tree first rest settled ih =>
      -- A list of slots begins, goes on (below) and ends.
      obtain ⟨hheld, hless, hsame⟩ := (hfits testStrength).settle (by decide)
      refine (ih h ⟨hheld, hless⟩).imp_right fun htokens => ?_
      rw [htokens, Reading.tokens, Reading.tokens, ← hsame]
      simp [SqlTree.slotTokens, settled]
  | case17 stack tree rest settled ih =>
      -- `LIKE` waits for its pattern.
      obtain ⟨hheld, hless, hsame⟩ := (hfits testStrength).settle (by decide)
      refine (ih h ⟨⟨hheld.fits, hheld.right, hless, hheld.above⟩, hheld.waits⟩).imp_right
        fun htokens => ?_
      rw [htokens, Reading.tokens, Reading.tokens, ← hsame]
      simp [waitingTokens, Waiting.tokens, settled]
  | case18 stack inner first others index rest ih =>
      refine (ih h hfits).imp_right fun htokens => ?_
      simpa [Reading.tokens, SqlTree.slotTokens] using htokens
  | case19 stack inner first others rest ih =>
      obtain ⟨hheld, hless⟩ := hfits
      refine (ih h fun bound => ⟨hheld.waits, ⟨hheld.fits, hheld.right⟩, ⟨hless, hheld.above⟩,
        trivial⟩).imp_right fun htokens => ?_
      simpa [Reading.tokens, SqlTree.tokens] using htokens
  -- Something still waits, no parenthesis is open, or no token is expected.
  | case10 | case12 | case20 => cases h

/-- A tree is what is read from some tokens if and only if it fits and they are its tokens. -/
theorem read_eq_some_iff {tokens : List SqlToken} :
    readCondition tokens = some tree ↔ tree.Fits ∧ tree.tokens = tokens := by
  constructor
  · exact fun h => fits_of_read_from h trivial
  · rintro ⟨hfits, rfl⟩
    exact read_tokens_of_fits hfits

/-- The tokens of a tree are read with its operators if and only if it fits. -/
theorem read_ungrouped_iff :
    (readCondition tree.tokens).map SqlTree.ungrouped = some tree.ungrouped ↔ tree.Fits := by
  constructor
  · intro h
    obtain ⟨other, hread, hsame⟩ := Option.map_eq_some_iff.1 h
    obtain ⟨hfits, htokens⟩ := read_eq_some_iff.1 hread
    rwa [← SqlTree.eq_of_ungrouped_eq (congrArg (· ++ []) htokens) hsame]
  · intro hfits
    rw [read_tokens_of_fits hfits]
    rfl

end Orm
