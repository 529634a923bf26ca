import Orm.Proofs.Sql.Body
import Orm.Proofs.Sql.Reading
import Orm.Sql.Brackets

/-!
# Conditions as they are read

The pieces of a condition are read as tokens, each column and each slot being one of them.
`conjunction_reads_back_iff` says when the conditions of a clause are read as they were written,
each of them whole: if no operand has a `NOT` or a test in it that an operator beside it would take
apart. An operator has parentheses around both of its sides, but the operand of a test has none.
-/

namespace Orm

/-! ## Tokens -/

/-- A run of characters that has ended, unless it is empty. -/
def endedRun (run : List Char) : List (List Char) := if run.isEmpty then [] else [run]

/-- The lexemes of some characters after a run of them: parentheses and commas, and what stands
between them and blanks. -/
def lexemesAfter (run : List Char) : List Char → List (List Char)
  | [] => endedRun run
  | c :: rest =>
      if c = ' ' then endedRun run ++ lexemesAfter [] rest
      else if c ∈ ['(', ')', ','] then endedRun run ++ [c] :: lexemesAfter [] rest
      else lexemesAfter (run ++ [c]) rest

/-- The operators between two expressions. -/
def BinaryOp.all : List BinaryOp :=
  [.eq, .notEq, .lt, .ltEq, .gt, .gtEq, .and, .or, .add, .sub, .mul, .div]

namespace SqlToken

/-- The token of a lexeme. -/
def ofLexeme (text : String) : SqlToken :=
  match text with
  | "(" => .opening
  | ")" => .closing
  | "," => .comma
  | "NOT" => .not
  | "IS" => .is
  | "NULL" => .null
  | "IN" => .among
  | "LIKE" => .like
  | _ =>
      match BinaryOp.all.find? fun op => op.symbol = text with
      | some op => .sign op
      | none => if text.toList.all Char.isDigit then .number text else .name text

/-- The tokens of a text without columns and slots. -/
def ofWord (text : String) : List SqlToken :=
  (lexemesAfter [] text.toList).map fun lexeme => ofLexeme (String.ofList lexeme)

/-- The tokens of a piece. -/
def ofPiece : SqlPiece → List SqlToken
  | .word text => ofWord text
  | .column aliasName columnName => [.column aliasName columnName]
  | .slot index => [.slot index]
  | .name _ | .table _ | .star _ => [.other]

/-- The tokens of some pieces. -/
def ofPieces (pieces : SqlPieces) : List SqlToken := pieces.flatMap ofPiece

/-- No pieces have no tokens. -/
@[simp]
theorem of_pieces_nil : ofPieces [] = [] := rfl

/-- The tokens of one piece and more. -/
@[simp]
theorem of_pieces_cons (piece : SqlPiece) (pieces : SqlPieces) :
    ofPieces (piece :: pieces) = ofPiece piece ++ ofPieces pieces := rfl

/-- The tokens of some pieces and more. -/
@[simp]
theorem of_pieces_append (before after : SqlPieces) :
    ofPieces (before ++ after) = ofPieces before ++ ofPieces after := List.flatMap_append

/-- The tokens of the words that a condition is written with. -/
theorem of_fixed_words :
    ofWord "(" = [.opening] ∧ ofWord ")" = [.closing] ∧ ofWord ", " = [.comma] ∧ ofWord " " = [] ∧
      ofWord "*" = [.sign .mul] ∧ ofWord "NULL" = [.null] ∧ ofWord "NOT (" = [.not, .opening] ∧
      ofWord " IS NULL" = [.is, .null] ∧ ofWord " IS NOT NULL" = [.is, .not, .null] ∧
      ofWord " IN (" = [.among, .opening] ∧ ofWord " LIKE " = [.like] ∧
      ofWord " AND " = [.sign .and] ∧ ofWord "1 = 0" = [.number "1", .sign .eq, .number "0"] := by
  exact ⟨rfl, rfl, rfl, rfl, rfl, rfl, rfl, rfl, rfl, rfl, rfl, rfl, rfl⟩

/-- The sign of an operator is one token. -/
theorem of_word_symbol (op : BinaryOp) : ofWord op.symbol = [.sign op] := by
  cases op <;> rfl

end SqlToken

/-- The functions of a dialect have names. -/
def Dialect.NamesFunctions (dialect : Dialect) : Prop :=
  ∀ op, SqlToken.ofWord (dialect.aggregateFunction op) = [.name (dialect.aggregateFunction op)]

/-- The functions of the dialect with bracketed names have names. -/
theorem brackets_names_functions : Dialect.brackets.NamesFunctions := by
  intro op
  cases op <;> rfl

/-! ## Trees of expressions -/

namespace FlatQuery

variable {flat : FlatQuery} {dialect : Dialect} {first : Nat}

/-- The tree of an expression, its parameters being numbered from `first` on: a comparison with null
is a test for null, and what is one of no items is false. What an operator takes together is
`grouped`. -/
def conditionTree (flat : FlatQuery) (dialect : Dialect) (grouped : SqlTree → SqlTree)
    (first : Nat) : Expr → SqlTree
  | .column ref => .column (flat.resolve ref.aliasName) ref.column
  | .literal value => if value.isNull then .null else .slot first
  | .binary .eq left (.literal .null) =>
      .nullTest false (conditionTree flat dialect grouped first left)
  | .binary .notEq left (.literal .null) =>
      .nullTest true (conditionTree flat dialect grouped first left)
  | .binary op left right =>
      grouped (.binary op (conditionTree flat dialect grouped first left)
        (conditionTree flat dialect grouped (first + left.boundValues.length) right))
  | .not inner => .not (grouped (conditionTree flat dialect grouped first inner))
  | .isNull inner => .nullTest false (conditionTree flat dialect grouped first inner)
  | .isNotNull inner => .nullTest true (conditionTree flat dialect grouped first inner)
  | .oneOf _ [] => .binary .eq (.number "1") (.number "0")
  | .oneOf inner (_ :: others) =>
      .oneOf (conditionTree flat dialect grouped first inner) (first + inner.boundValues.length)
        (List.range' (first + inner.boundValues.length + 1) others.length)
  | .like inner _ =>
      .like (conditionTree flat dialect grouped first inner)
        (.slot (first + inner.boundValues.length))
  | .aggregate op argument =>
      .call (dialect.aggregateFunction op)
        (argument.map fun ref => (flat.resolve ref.aliasName, ref.column))

/-- The tree of an operator between two expressions: a test for null, or both sides. -/
theorem condition_tree_binary (grouped : SqlTree → SqlTree) (op : BinaryOp) (left right : Expr) :
    flat.conditionTree dialect grouped first (.binary op left right) =
      match nullTest? op right with
      | some _ => .nullTest (op = .notEq) (flat.conditionTree dialect grouped first left)
      | none => grouped (.binary op (flat.conditionTree dialect grouped first left)
          (flat.conditionTree dialect grouped (first + left.boundValues.length) right)) := by
  fun_cases nullTest? op right with
  | case1 => rfl
  | case2 => rfl
  | case3 _ _ heq hne =>
      rw [conditionTree]
      · exact heq
      · exact hne

/-- The tree without its parentheses is that without groups. -/
theorem ungrouped_condition_tree (expr : Expr) :
    (flat.conditionTree dialect .group first expr).ungrouped
      = flat.conditionTree dialect id first expr := by
  induction expr generalizing first with
  | column | aggregate => rfl
  | literal value =>
      simp only [conditionTree]
      split <;> rfl
  | binary op left right ihleft ihright =>
      rw [condition_tree_binary, condition_tree_binary]
      split <;> simp [SqlTree.ungrouped, ihleft, ihright]
  | not inner ih | isNull inner ih | isNotNull inner ih | like inner pattern ih =>
      simp [conditionTree, SqlTree.ungrouped, ih]
  | oneOf inner items ih => cases items <;> simp [conditionTree, SqlTree.ungrouped, ih]

/-- The tokens of parts with a word between them. -/
theorem of_pieces_separated (word : String) (part : SqlPieces) (parts : List SqlPieces) :
    SqlToken.ofPieces (separated word (part :: parts)) = SqlToken.ofPieces part ++
      parts.flatMap fun part => SqlToken.ofWord word ++ SqlToken.ofPieces part := by
  unfold separated
  induction parts generalizing part with
  | nil => simp
  | cons second parts ih =>
      rw [List.intercalate_cons_cons, SqlToken.of_pieces_append, ih second]
      simp [SqlToken.ofPiece]

/-- The tokens of slots with commas between them. -/
theorem of_pieces_slots (count : Nat) :
    SqlToken.ofPieces (slots first (count + 1))
      = .slot first :: SqlTree.slotTokens (List.range' (first + 1) count) := by
  rw [slots, List.range_succ_eq_map, List.map_cons, of_pieces_separated, SqlTree.slotTokens,
    List.range'_eq_map_range, List.flatMap_map, List.flatMap_map, List.flatMap_map]
  simp [SqlToken.of_fixed_words, SqlToken.ofPiece, Nat.add_assoc, Nat.add_comm 1]

/-- The tokens of the test for null that a comparison becomes. -/
theorem tokens_null_test {op : BinaryOp} {right : Expr} {test : String}
    (h : nullTest? op right = some test) :
    SqlToken.ofWord test = SqlTree.nullTokens (op = .notEq) := by
  unfold nullTest? at h
  split at h <;> cases h <;> simp [SqlToken.of_fixed_words, SqlTree.nullTokens]

/-- An expression has the tokens of its tree. -/
theorem tokens_expr_pieces (hnames : dialect.NamesFunctions) {expr : Expr} {pieces : SqlPieces}
    (h : flat.exprPieces dialect first expr = .ok pieces) :
    SqlToken.ofPieces pieces = (flat.conditionTree dialect .group first expr).tokens := by
  induction expr generalizing first pieces with
  | column ref =>
      obtain ⟨piece, hpiece, hpieces⟩ := Action.bind_eq_ok_iff.1 h
      cases hpieces
      rw [column_piece_eq_ok hpiece]
      rfl
  | literal value =>
      rw [exprPieces] at h
      cases h
      cases hnull : value.isNull <;>
        simp [conditionTree, hnull, SqlTree.tokens, SqlToken.ofPieces, SqlToken.ofPiece,
          SqlToken.of_fixed_words]
  | binary op left right ihleft ihright =>
      rw [expr_pieces_binary] at h
      rw [condition_tree_binary]
      cases htest : nullTest? op right with
      | some test =>
          rw [htest] at h
          obtain ⟨leftPieces, hleft, hpieces⟩ := Action.bind_eq_ok_iff.1 h
          cases hpieces
          simp [SqlTree.tokens, SqlToken.ofPiece, tokens_null_test htest, ihleft hleft]
      | none =>
          rw [htest] at h
          obtain ⟨leftPieces, hleft, h⟩ := Action.bind_eq_ok_iff.1 h
          obtain ⟨rightPieces, hright, hpieces⟩ := Action.bind_eq_ok_iff.1 h
          cases hpieces
          simp [SqlTree.tokens, SqlToken.ofPiece, SqlToken.of_fixed_words,
            SqlToken.of_word_symbol, ihleft hleft, ihright hright]
  | not inner ih | isNull inner ih | isNotNull inner ih | like inner pattern ih =>
      obtain ⟨innerPieces, hinner, hpieces⟩ := Action.bind_eq_ok_iff.1 h
      cases hpieces
      simp [conditionTree, SqlTree.tokens, SqlTree.nullTokens, SqlToken.ofPiece,
        SqlToken.of_fixed_words, ih hinner]
  | oneOf inner items ih =>
      cases items with
      | nil =>
          cases h
          simp [conditionTree, SqlTree.tokens, SqlToken.ofPiece, SqlToken.of_fixed_words]
      | cons item items =>
          obtain ⟨innerPieces, hinner, hpieces⟩ := Action.bind_eq_ok_iff.1 h
          cases hpieces
          simp [conditionTree, SqlTree.tokens, SqlToken.ofPiece, SqlToken.of_fixed_words, ih hinner,
            of_pieces_slots]
  | aggregate op argument =>
      cases argument with
      | some ref =>
          obtain ⟨piece, hpiece, hpieces⟩ := Action.bind_eq_ok_iff.1 h
          cases hpieces
          rw [column_piece_eq_ok hpiece]
          simp [conditionTree, SqlTree.tokens, SqlTree.argumentTokens, SqlToken.ofPiece,
            SqlToken.of_fixed_words, hnames op]
      | none =>
          rw [exprPieces] at h
          split at h
          · cases h
            simp [conditionTree, SqlTree.tokens, SqlTree.argumentTokens, SqlToken.ofPiece,
              SqlToken.of_fixed_words, hnames op]
          · cases h

end FlatQuery

/-! ## Operands that are taken apart -/

namespace Expr

/-- Whether an expression denies another. -/
def isNegation : Expr → Bool
  | .not _ => true
  | _ => false

/-- Whether an expression is a test without parentheses around it. -/
def isTest : Expr → Bool
  | .isNull _ | .isNotNull _ | .oneOf .. | .like .. => true
  | .binary op _ right => (FlatQuery.nullTest? op right).isSome
  | _ => false

/-- Whether an expression ends with an operand of a test. -/
def endsInOperand : Expr → Bool
  | .like .. => true
  | .oneOf _ items => items.isEmpty
  | _ => false

/-- Whether both sides of an operator stay whole. A `NOT` before the operator takes both sides if it
binds less strongly, an operand before it is taken by the operator if that binds more strongly, and
a test after it takes both sides unless it binds more strongly. -/
def staysWhole (op : BinaryOp) (left right : Expr) : Bool :=
  (!left.isNegation || op.strength ≤ notStrength) &&
    (!left.endsInOperand || op.strength ≤ testStrength) &&
    (!right.isTest || op.strength < testStrength)

/-- Both sides of an operator stay whole if none of them is taken apart. -/
theorem stays_whole_iff {op : BinaryOp} {left right : Expr} : staysWhole op left right = true ↔
    (left.isNegation = true → op.strength ≤ notStrength) ∧
      (left.endsInOperand = true → op.strength ≤ testStrength) ∧
      (right.isTest = true → op.strength < testStrength) := by
  simp [staysWhole, imp_iff_not_or, and_assoc]

/-- Whether all operands of an expression stay whole. -/
def isWhole : Expr → Bool
  | .column _ | .literal _ | .aggregate .. => true
  | .binary op left right =>
      if (FlatQuery.nullTest? op right).isSome then left.isWhole && !left.isNegation
      else left.isWhole && right.isWhole && staysWhole op left right
  | .not inner => inner.isWhole
  | .isNull inner | .isNotNull inner | .like inner _ => inner.isWhole && !inner.isNegation
  | .oneOf inner items => items.isEmpty || inner.isWhole && !inner.isNegation

end Expr

namespace FlatQuery

variable {flat : FlatQuery} {dialect : Dialect} {first : Nat}

/-- The tree of an expression ends with an operand of `NOT` or of a test only if the expression is
one that does. -/
theorem right_from_iff {bound : Nat} (expr : Expr) :
    (flat.conditionTree dialect .group first expr).RightFrom bound ↔
      (expr.isNegation = true → bound ≤ notStrength) ∧
        (expr.endsInOperand = true → bound ≤ testStrength) := by
  cases expr with
  | column | aggregate =>
      simp [conditionTree, SqlTree.RightFrom, Expr.isNegation, Expr.endsInOperand]
  | literal value =>
      cases hnull : value.isNull <;>
        simp [conditionTree, hnull, SqlTree.RightFrom, Expr.isNegation, Expr.endsInOperand]
  | binary op left right =>
      rw [condition_tree_binary]
      cases nullTest? op right <;> simp [SqlTree.RightFrom, Expr.isNegation, Expr.endsInOperand]
  | not | isNull | isNotNull | like =>
      simp [conditionTree, SqlTree.RightFrom, Expr.isNegation, Expr.endsInOperand]
  | oneOf inner items =>
      cases items <;>
        simp [conditionTree, SqlTree.RightFrom, Expr.isNegation, Expr.endsInOperand,
          BinaryOp.strength, testStrength]

/-- The tree of an expression begins with an operand of a test only if the expression is one. -/
theorem left_above_iff {bound : Nat} (expr : Expr) :
    (flat.conditionTree dialect .group first expr).LeftAbove bound ↔
      (expr.isTest = true → bound < testStrength) := by
  induction expr generalizing first with
  | column | aggregate | not => simp [conditionTree, SqlTree.LeftAbove, Expr.isTest]
  | literal value =>
      cases hnull : value.isNull <;> simp [conditionTree, hnull, SqlTree.LeftAbove, Expr.isTest]
  | binary op left right ihleft =>
      rw [condition_tree_binary]
      cases htest : nullTest? op right with
      | none => simp [SqlTree.LeftAbove, Expr.isTest, htest]
      | some test =>
          simp only [SqlTree.LeftAbove, Expr.isTest, htest, ihleft]
          simp +contextual
  | isNull inner ih | isNotNull inner ih | like inner pattern ih =>
      simp only [conditionTree, SqlTree.LeftAbove, Expr.isTest, ih]
      simp +contextual
  | oneOf inner items ih =>
      cases items with
      | nil => simp [conditionTree, SqlTree.LeftAbove, Expr.isTest, BinaryOp.strength, testStrength]
      | cons item items =>
          simp only [conditionTree, SqlTree.LeftAbove, Expr.isTest, ih]
          simp +contextual

/-- The tree of an expression fits before a test if and only if it stays whole there. -/
theorem fits_before_test_iff {expr : Expr}
    (h : (flat.conditionTree dialect .group first expr).Fits ↔ expr.isWhole = true) :
    (flat.conditionTree dialect .group first expr).Fits ∧
        (flat.conditionTree dialect .group first expr).RightFrom testStrength ↔
      (expr.isWhole && !expr.isNegation) = true := by
  rw [h, right_from_iff]
  simp [testStrength, notStrength]

/-- The tree of an expression fits if and only if its operands stay whole. -/
theorem fits_iff (expr : Expr) :
    (flat.conditionTree dialect .group first expr).Fits ↔ expr.isWhole = true := by
  induction expr generalizing first with
  | column | aggregate => simp [conditionTree, SqlTree.Fits, Expr.isWhole]
  | literal value =>
      cases hnull : value.isNull <;> simp [conditionTree, hnull, SqlTree.Fits, Expr.isWhole]
  | binary op left right ihleft ihright =>
      rw [condition_tree_binary, Expr.isWhole]
      cases htest : nullTest? op right with
      | some test => exact fits_before_test_iff ihleft
      | none =>
          simp only [SqlTree.Fits, ihleft, ihright, right_from_iff, left_above_iff]
          simp only [Option.isSome_none, Bool.false_eq_true, if_false, Bool.and_eq_true,
            Expr.stays_whole_iff, and_assoc]
  | not inner ih => simp [conditionTree, SqlTree.Fits, SqlTree.LeftAbove, Expr.isWhole, ih]
  | isNull inner ih | isNotNull inner ih => exact fits_before_test_iff ih
  | like inner pattern ih =>
      have hinner := fits_before_test_iff (@ih first)
      simpa [conditionTree, SqlTree.Fits, SqlTree.LeftAbove, Expr.isWhole] using hinner
  | oneOf inner items ih =>
      cases items with
      | nil =>
          simp [conditionTree, SqlTree.Fits, SqlTree.RightFrom, SqlTree.LeftAbove, Expr.isWhole]
      | cons item items => exact fits_before_test_iff ih

/-! ## Clauses of conditions -/

/-- The trees of some conditions, whose parameters are numbered from `first` on. -/
def conditionTrees (flat : FlatQuery) (dialect : Dialect) (grouped : SqlTree → SqlTree) :
    Nat → List Expr → List SqlTree
  | _, [] => []
  | first, condition :: rest =>
      flat.conditionTree dialect grouped first condition ::
        conditionTrees flat dialect grouped (first + condition.boundValues.length) rest

/-- A clause of conditions is read as their conjunction after its keyword, or there is none. -/
def ReadsBack (flat : FlatQuery) (dialect : Dialect) (keyword : String) (first : Nat)
    (conditions : List Expr) (pieces : SqlPieces) : Prop :=
  match flat.conditionTrees dialect id first conditions with
  | [] => pieces = []
  | tree :: others => ∃ written, pieces = .word keyword :: written ∧
      (readCondition (SqlToken.ofPieces written)).map SqlTree.ungrouped
        = some (tree.conjoined others)

/-- Each condition has the tokens of its tree. -/
theorem tokens_condition_pieces (hnames : dialect.NamesFunctions) {conditions : List Expr}
    {parts : List SqlPieces} (h : flat.conditionPieces dialect first conditions = .ok parts) :
    parts.map SqlToken.ofPieces
      = (flat.conditionTrees dialect .group first conditions).map SqlTree.tokens := by
  induction conditions generalizing first parts with
  | nil =>
      cases h
      rfl
  | cons condition rest ih =>
      rw [conditionPieces] at h
      obtain ⟨pieces, hpieces, h⟩ := Action.bind_eq_ok_iff.1 h
      obtain ⟨others, hothers, hparts⟩ := Action.bind_eq_ok_iff.1 h
      cases hparts
      rw [conditionTrees, List.map_cons, List.map_cons, ih hothers,
        tokens_expr_pieces hnames hpieces]

/-- The trees without their parentheses are those without groups. -/
theorem ungrouped_condition_trees (conditions : List Expr) :
    (flat.conditionTrees dialect .group first conditions).map SqlTree.ungrouped
      = flat.conditionTrees dialect id first conditions := by
  induction conditions generalizing first with
  | nil => rfl
  | cons condition rest ih =>
      rw [conditionTrees, conditionTrees, List.map_cons, ih, ungrouped_condition_tree]

/-- Neither `NOT` nor a test of a condition takes an `AND` beside it. -/
theorem conditions_beside_and (flat : FlatQuery) (dialect : Dialect) (first : Nat)
    (conditions : List Expr) : ∀ tree ∈ flat.conditionTrees dialect .group first conditions,
      tree.RightFrom BinaryOp.and.strength ∧ tree.LeftAbove BinaryOp.and.strength := by
  induction conditions generalizing first with
  | nil => exact fun _ hmem => nomatch hmem
  | cons condition rest ih =>
      rw [conditionTrees, List.forall_mem_cons, right_from_iff, left_above_iff]
      exact ⟨by simp [BinaryOp.strength, notStrength, testStrength], ih _⟩

/-- The trees of some conditions fit if and only if the operands of each stay whole. -/
theorem forall_fits_iff (conditions : List Expr) :
    (∀ tree ∈ flat.conditionTrees dialect .group first conditions, tree.Fits) ↔
      ∀ condition ∈ conditions, condition.isWhole = true := by
  induction conditions generalizing first with
  | nil => simp [conditionTrees]
  | cons condition rest ih =>
      rw [conditionTrees, List.forall_mem_cons, List.forall_mem_cons, ih, fits_iff]

/-- Conditions with `AND` between them have the tokens of their conjunction. -/
theorem tokens_separated {tree : SqlTree} {others : List SqlTree} {parts : List SqlPieces}
    (h : parts.map SqlToken.ofPieces = (tree :: others).map SqlTree.tokens) :
    SqlToken.ofPieces (separated " AND " parts) = (tree.conjoined others).tokens := by
  obtain ⟨part, parts, rfl, hpart, hparts⟩ := List.map_eq_cons_iff.1 h
  have hflat : (parts.flatMap fun part => SqlToken.sign .and :: SqlToken.ofPieces part)
      = others.flatMap fun other => SqlToken.sign .and :: other.tokens := by
    have hcons := congrArg (List.flatMap fun tokens => SqlToken.sign .and :: tokens) hparts
    rwa [List.flatMap_map, List.flatMap_map] at hcons
  rw [of_pieces_separated, hpart, SqlTree.tokens_conjoined, ← hflat]
  simp [SqlToken.of_fixed_words]

/-- The conditions of a clause are read as they were written, each of them whole, if and only if the
operands of each of them stay whole. -/
theorem conjunction_reads_back_iff (hnames : dialect.NamesFunctions) {keyword : String}
    {conditions : List Expr} {pieces : SqlPieces}
    (h : flat.conjunction dialect keyword first conditions = .ok pieces) :
    flat.ReadsBack dialect keyword first conditions pieces ↔
      ∀ condition ∈ conditions, condition.isWhole = true := by
  unfold conjunction at h
  cases conditions with
  | nil =>
      cases h
      simp [ReadsBack, conditionTrees]
  | cons condition rest =>
      obtain ⟨parts, hparts, hpieces⟩ := Action.bind_eq_ok_iff.1 h
      cases hpieces
      obtain ⟨tree, others, htrees⟩ : ∃ tree others,
          flat.conditionTrees dialect .group first (condition :: rest) = tree :: others :=
        ⟨_, _, rfl⟩
      have hbetween := flat.conditions_beside_and dialect first (condition :: rest)
      rw [htrees] at hbetween
      obtain ⟨⟨hends, -⟩, hothers⟩ := List.forall_mem_cons.1 hbetween
      have htokens := tokens_condition_pieces hnames hparts
      rw [htrees] at htokens
      rw [ReadsBack, ← ungrouped_condition_trees, ← forall_fits_iff, htrees, List.forall_mem_cons,
        ← SqlTree.fits_conjoined_iff hends hothers, ← read_ungrouped_iff,
        ← tokens_separated htokens, SqlTree.ungrouped_conjoined]
      constructor
      · rintro ⟨written, hwritten, hread⟩
        cases hwritten
        exact hread
      · exact fun hread => ⟨_, rfl, hread⟩

end FlatQuery

end Orm
