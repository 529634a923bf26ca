import Orm.Proofs.Sql.Statement
import Orm.Proofs.Sql.Spelling

/-!
# Names in conditions

`FlatQuery.exprNames` lists the names of an expression in the order in which they are written, and
`Expr.skeleton` has all other tokens of it, which come from its operators and the numbers of its
values. `spells_expr` says that this is how an expression is read back, with whatever names.
-/

namespace Orm

open Brackets (Token qualified Spells)

/-! ## Expressions -/

/-- The token of an operator between two expressions. -/
def BinaryOp.token : BinaryOp → Token
  | .and => .word "AND"
  | .or => .word "OR"
  | op => .operator op.symbol

/-- The tokens of an expression with its names left out. Its parameters are numbered from `first`
on. -/
def Expr.skeleton (first : Nat) : Expr → List Token
  | .column _ => qualified
  | .literal value => if value.isNull then [.word "NULL"] else [.placeholder first]
  | .binary .eq left (.literal .null) => skeleton first left ++ [.word "IS", .word "NULL"]
  | .binary .notEq left (.literal .null) =>
      skeleton first left ++ [.word "IS", .word "NOT", .word "NULL"]
  | .binary op left right =>
      [.mark '('] ++ skeleton first left ++ [op.token] ++
        skeleton (first + left.boundValues.length) right ++ [.mark ')']
  | .not inner => [.word "NOT", .mark '('] ++ skeleton first inner ++ [.mark ')']
  | .isNull inner => skeleton first inner ++ [.word "IS", .word "NULL"]
  | .isNotNull inner => skeleton first inner ++ [.word "IS", .word "NOT", .word "NULL"]
  | .oneOf inner items =>
      if items.isEmpty then [.number 1, .operator "=", .number 0]
      else skeleton first inner ++ [.word "IN", .mark '('] ++
        [.mark ','].intercalate
          ((List.range items.length).map fun offset =>
            [.placeholder (first + inner.boundValues.length + offset)]) ++
        [.mark ')']
  | .like inner _ =>
      skeleton first inner ++ [.word "LIKE", .placeholder (first + inner.boundValues.length)]
  | .aggregate op (some _) =>
      [.word (Brackets.aggregateFunction op), .mark '('] ++ qualified ++ [.mark ')']
  | .aggregate op none =>
      [.word (Brackets.aggregateFunction op), .mark '(', .operator "*", .mark ')']

namespace FlatQuery

variable {flat : FlatQuery}

/-- The names that a column is written with. -/
def columnNames (flat : FlatQuery) (ref : ColumnRef) : List String :=
  [flat.resolve ref.aliasName, ref.column]

/-- The names that an expression is written with. A test for one of no items has none. -/
def exprNames (flat : FlatQuery) : Expr → List String
  | .column ref => flat.columnNames ref
  | .literal _ => []
  | .binary _ left right => exprNames flat left ++ exprNames flat right
  | .not inner | .isNull inner | .isNotNull inner | .like inner _ => exprNames flat inner
  | .oneOf inner items => if items.isEmpty then [] else exprNames flat inner
  | .aggregate _ argument => argument.toList.flatMap flat.columnNames

/-- A column is read back. -/
theorem spells_column {ref : ColumnRef} {piece : SqlPiece} (h : flat.columnPiece ref = .ok piece) :
    Spells true false [piece] (flat.columnNames ref) qualified := by
  rw [column_piece_eq_ok h]
  exact .column _ _

/-- The tests for null that a comparison can become. -/
theorem spells_null_test {op : BinaryOp} {left right : Expr} {test : String}
    (h : nullTest? op right = some test) (first : Nat) :
    ∃ words, Spells true true [.word test] [] words ∧ flat.exprNames right = [] ∧
      (Expr.binary op left right).skeleton first = left.skeleton first ++ words := by
  unfold nullTest? at h
  split at h
  · cases h
    exact ⟨[.word "IS", .word "NULL"], .words [" IS NULL"] (by decide), rfl, rfl⟩
  · cases h
    exact ⟨[.word "IS", .word "NOT", .word "NULL"], .words [" IS NOT NULL"] (by decide), rfl, rfl⟩
  · cases h

/-- The tokens of an operator between two expressions of which the second one is no written null. -/
theorem skeleton_binary {op : BinaryOp} {right : Expr} (h : nullTest? op right = none)
    (left : Expr) (first : Nat) : (Expr.binary op left right).skeleton first =
      [Token.mark '('] ++ left.skeleton first ++ [op.token] ++
        right.skeleton (first + left.boundValues.length) ++ [Token.mark ')'] := by
  unfold nullTest? at h
  split at h
  · cases h
  · cases h
  · next heq hne =>
    rw [Expr.skeleton]
    · exact heq
    · exact hne

/-- An operator is read between two expressions. -/
theorem spells_operator (op : BinaryOp) :
    Spells true false [.word " ", .word op.symbol, .word " "] [] [op.token] := by
  cases op <;> exact .words [" ", _, " "] (by decide)

/-- A function is read before the parenthesis of its argument. -/
theorem spells_function (op : AggregateOp) :
    Spells false false [.word (Brackets.aggregateFunction op), .word "("] []
      [.word (Brackets.aggregateFunction op), .mark '('] := by
  cases op <;> exact .words [_, "("] (by decide)

/-- The slots of a list of items are read back. -/
theorem spells_slots (first count : Nat) :
    Spells false true (slots first count) []
      ([.mark ','].intercalate
        ((List.range count).map fun offset => [.placeholder (first + offset)])) := by
  have hslots : Spells.All ((List.range count).map fun offset => [.slot (first + offset)])
      ((List.range count).map fun _ => [])
      ((List.range count).map fun offset => [.placeholder (first + offset)]) :=
    .map fun offset _ => .slot (first + offset)
  simpa [slots] using Spells.separated .comma hslots

/-- However its parameters are numbered, an expression is read back as its names in its skeleton. -/
def Spelled (flat : FlatQuery) (expr : Expr) : Prop :=
  ∀ first pieces, flat.exprPieces .brackets first expr = .ok pieces →
    Spells false true pieces (flat.exprNames expr) (expr.skeleton first)

namespace Spelled

variable {left right inner : Expr}

/-- A value is a null or a placeholder. -/
theorem literal (value : Value) : flat.Spelled (.literal value) := by
  intro first pieces h
  rw [exprPieces] at h
  cases h
  rw [exprNames, Expr.skeleton]
  split
  · exact .words ["NULL"] (by decide)
  · exact .slot first

/-- A comparison with a written null is a test for null, and every other operator stands between its
operands. -/
theorem binary (op : BinaryOp) (hleft : flat.Spelled left) (hright : flat.Spelled right) :
    flat.Spelled (.binary op left right) := by
  intro first pieces h
  rw [expr_pieces_binary] at h
  split at h
  · next test htest =>
    obtain ⟨leftPieces, hleftPieces, hpieces⟩ := Action.bind_eq_ok_iff.1 h
    cases hpieces
    obtain ⟨words, hwords, hnone, hskeleton⟩ := flat.spells_null_test htest first
    rw [exprNames, hnone, hskeleton]
    exact (hleft _ _ hleftPieces).append hwords
  · next hboth =>
    obtain ⟨leftPieces, hleftPieces, h⟩ := Action.bind_eq_ok_iff.1 h
    obtain ⟨rightPieces, hrightPieces, hpieces⟩ := Action.bind_eq_ok_iff.1 h
    cases hpieces
    have hopen : Spells false false [.word "("] [] [.mark '('] := .words ["("] (by decide)
    have hsides := (((hopen.append (hleft _ _ hleftPieces)).append (spells_operator op)).append
      (hright _ _ hrightPieces)).append .close
    rw [exprNames, skeleton_binary hboth]
    simpa using hsides.ending

/-- A negated expression stands in parentheses. -/
theorem not (hinner : flat.Spelled inner) : flat.Spelled (.not inner) := by
  intro first pieces h
  obtain ⟨innerPieces, hinnerPieces, hpieces⟩ := Action.bind_eq_ok_iff.1 h
  cases hpieces
  have hopen : Spells false false [.word "NOT ("] [] [.word "NOT", .mark '('] :=
    .words ["NOT ("] (by decide)
  have hclosed := (hopen.append (hinner _ _ hinnerPieces)).append .close
  simpa [exprNames, Expr.skeleton] using hclosed.ending

/-- A test for null stands behind its operand. -/
theorem isNull (hinner : flat.Spelled inner) : flat.Spelled (.isNull inner) := by
  intro first pieces h
  obtain ⟨innerPieces, hinnerPieces, hpieces⟩ := Action.bind_eq_ok_iff.1 h
  cases hpieces
  have htest : Spells true true [.word " IS NULL"] [] [.word "IS", .word "NULL"] :=
    .words [" IS NULL"] (by decide)
  simpa [exprNames, Expr.skeleton] using (hinner _ _ hinnerPieces).append htest

/-- So does a test for something else than null. -/
theorem isNotNull (hinner : flat.Spelled inner) : flat.Spelled (.isNotNull inner) := by
  intro first pieces h
  obtain ⟨innerPieces, hinnerPieces, hpieces⟩ := Action.bind_eq_ok_iff.1 h
  cases hpieces
  have htest : Spells true true [.word " IS NOT NULL"] []
      [.word "IS", .word "NOT", .word "NULL"] := .words [" IS NOT NULL"] (by decide)
  simpa [exprNames, Expr.skeleton] using (hinner _ _ hinnerPieces).append htest

/-- A test for one of no items is a constant; one of some items lists a placeholder for each. -/
theorem oneOf (hinner : flat.Spelled inner) (items : List Value) :
    flat.Spelled (.oneOf inner items) := by
  intro first pieces h
  rw [exprPieces] at h
  rw [exprNames, Expr.skeleton]
  split at h
  · next hempty =>
    cases h
    rw [if_pos hempty, if_pos hempty]
    exact .words ["1 = 0"] (by decide)
  · next hitems =>
    obtain ⟨innerPieces, hinnerPieces, hpieces⟩ := Action.bind_eq_ok_iff.1 h
    cases hpieces
    rw [if_neg hitems, if_neg hitems]
    have hin : Spells true false [.word " IN ("] [] [.word "IN", .mark '('] :=
      .words [" IN ("] (by decide)
    have hlist := (((hinner _ _ hinnerPieces).append hin).append
      (spells_slots (first + inner.boundValues.length) items.length)).append .close
    simpa using hlist.ending

/-- A comparison with a pattern has a placeholder for the pattern. -/
theorem like (hinner : flat.Spelled inner) (pattern : String) :
    flat.Spelled (.like inner pattern) := by
  intro first pieces h
  obtain ⟨innerPieces, hinnerPieces, hpieces⟩ := Action.bind_eq_ok_iff.1 h
  cases hpieces
  have hlike : Spells true false [.word " LIKE "] [] [.word "LIKE"] :=
    .words [" LIKE "] (by decide)
  have hpattern := ((hinner _ _ hinnerPieces).append hlike).append
    (.slot (first + inner.boundValues.length))
  simpa [exprNames, Expr.skeleton] using hpattern

/-- An aggregate has its argument, or a star, in parentheses. -/
theorem aggregate (op : AggregateOp) (argument : Option ColumnRef) :
    flat.Spelled (.aggregate op argument) := by
  intro first pieces h
  cases argument with
  | none =>
      rw [exprPieces] at h
      split at h
      · cases h
        have hrows : Spells false true [.word "*", .word ")"] [] [.operator "*", .mark ')'] :=
          .words ["*", ")"] (by decide)
        exact (spells_function op).append hrows
      · cases h
  | some ref =>
      obtain ⟨piece, hpiece, hpieces⟩ := Action.bind_eq_ok_iff.1 h
      cases hpieces
      have hargument := ((spells_function op).append (spells_column hpiece).anywhere).append
        (.anywhere .close)
      simpa [exprNames, Expr.skeleton, Dialect.brackets] using hargument.ending

end Spelled

/-- Every expression is read back as its names in its skeleton. -/
theorem spells_expr (flat : FlatQuery) (expr : Expr) : flat.Spelled expr := by
  induction expr with
  | column ref =>
      intro first pieces h
      obtain ⟨piece, hpiece, hpieces⟩ := Action.bind_eq_ok_iff.1 h
      cases hpieces
      exact (spells_column hpiece).anywhere.ending
  | literal value => exact .literal value
  | binary op left right ihleft ihright => exact .binary op ihleft ihright
  | not inner ih => exact .not ih
  | isNull inner ih => exact .isNull ih
  | isNotNull inner ih => exact .isNotNull ih
  | oneOf inner items ih => exact .oneOf ih items
  | like inner pattern ih => exact .like ih pattern
  | aggregate op argument => exact .aggregate op argument

/-! ## Conditions -/

/-- The tokens of some conditions with their names left out. -/
def conditionSkeletons : Nat → List Expr → List (List Token)
  | _, [] => []
  | first, condition :: rest =>
      condition.skeleton first :: conditionSkeletons (first + condition.boundValues.length) rest

/-- The tokens of a clause of conditions with its names left out. -/
def conjunctionSkeleton (keyword : String) (first : Nat) (conditions : List Expr) : List Token :=
  if conditions.isEmpty then []
  else .word keyword :: [.word "AND"].intercalate (conditionSkeletons first conditions)

/-- Conditions are read back one after the other. -/
theorem spells_conditions {conditions : List Expr} {first : Nat} {parts : List SqlPieces}
    (h : flat.conditionPieces .brackets first conditions = .ok parts) :
    Spells.All parts (conditions.map flat.exprNames) (conditionSkeletons first conditions) := by
  induction conditions generalizing first parts with
  | nil =>
      cases h
      exact .nil
  | cons condition rest ih =>
      rw [conditionPieces] at h
      obtain ⟨pieces, hpieces, h⟩ := Action.bind_eq_ok_iff.1 h
      obtain ⟨others, hothers, hparts⟩ := Action.bind_eq_ok_iff.1 h
      cases hparts
      exact .cons (flat.spells_expr condition _ _ hpieces) (ih hothers)

/-- A clause of conditions is read back. -/
theorem spells_conjunction {keyword token : String} {conditions : List Expr} {first : Nat}
    {pieces : SqlPieces} (hkeyword : Spells true false [.word keyword] [] [.word token])
    (h : flat.conjunction .brackets keyword first conditions = .ok pieces) :
    Spells true true pieces (conditions.flatMap flat.exprNames)
      (conjunctionSkeleton token first conditions) := by
  unfold conjunction at h
  rw [conjunctionSkeleton]
  split at h
  · next hnone =>
    cases h
    rw [if_pos hnone, List.isEmpty_iff.1 hnone]
    exact .nil
  · next hsome =>
    obtain ⟨parts, hparts, hpieces⟩ := Action.bind_eq_ok_iff.1 h
    cases hpieces
    rw [if_neg hsome, List.flatMap_def]
    exact hkeyword.append (.separated .conjunct (spells_conditions hparts))

end FlatQuery

end Orm
