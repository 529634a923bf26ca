import Mathlib.Data.List.Basic
import Orm.Query.Expr

/-!
# The places at which expressions read columns

A place in an expression is the way down to it: the numbers of the operands that are entered one
after the other. A place in a list of expressions begins with the number of the expression. Of two
places the one that comes first in the order of words is evaluated first.

`traverses_operands` says that the columns of some expressions are listed place by place, and
`Traverses.read_before` that a column which occurs in that list before another one is read before
it.
-/

namespace Orm

/-- A column that is read at a place. -/
structure ColumnUse where
  place : List Nat
  ref : ColumnRef
deriving DecidableEq, Repr

/-- A use as it is seen from outside the operand that it is in. -/
def ColumnUse.inside (number : Nat) (use : ColumnUse) : ColumnUse :=
  { use with place := number :: use.place }

/-- What is read where no operand is entered. -/
def readHere (ref : Option ColumnRef) : List Nat → Option ColumnRef
  | [] => ref
  | _ :: _ => none

/-- What is read inside operands, each of which reads something at its places. -/
def readInside (operands : List (List Nat → Option ColumnRef)) : List Nat → Option ColumnRef
  | [] => none
  | number :: way => operands[number]?.bind fun reads => reads way

/-- The uses inside operands, one operand after the other. -/
def usesInside (operands : List (List ColumnUse)) : List ColumnUse :=
  operands.zipIdx.flatMap fun operand => operand.1.map (.inside operand.2)

namespace Expr

/-- The column that an expression reads at a place. -/
def columnAt : Expr → List Nat → Option ColumnRef
  | .column ref => readHere (some ref)
  | .literal _ => readHere none
  | .binary _ left right => readInside [left.columnAt, right.columnAt]
  | .not inner | .isNull inner | .isNotNull inner | .oneOf inner _ | .like inner _ =>
      readInside [inner.columnAt]
  | .aggregate _ argument => readHere argument

/-- The uses of columns in an expression. -/
def uses : Expr → List ColumnUse
  | .column ref => [⟨[], ref⟩]
  | .literal _ => []
  | .binary _ left right => usesInside [left.uses, right.uses]
  | .not inner | .isNull inner | .isNotNull inner | .oneOf inner _ | .like inner _ =>
      usesInside [inner.uses]
  | .aggregate _ argument => argument.toList.map (.mk [])

end Expr

/-! ## Traversals -/

/-- Some uses are what is read at all places, in the order of the places. -/
structure Traverses (reads : List Nat → Option ColumnRef) (uses : List ColumnUse) : Prop where
  mem_iff : ∀ {use}, use ∈ uses ↔ reads use.place = some use.ref
  ascending : uses.Pairwise fun first second => first.place < second.place

/-- Where no operand is entered at most one column is read. -/
theorem traverses_here (ref : Option ColumnRef) :
    Traverses (readHere ref) (ref.toList.map (.mk [])) where
  mem_iff := fun {use} => by
    obtain ⟨place, read⟩ := use
    cases place <;> cases ref <;> simp [readHere, eq_comm]
  ascending := by cases ref <;> simp

/-- What is read inside operands is read inside the one whose number comes first in the place. -/
theorem read_inside_eq_some {operands : List Expr} {place : List Nat} {ref : ColumnRef} :
    readInside (operands.map Expr.columnAt) place = some ref ↔
      ∃ number way operand, operands[number]? = some operand ∧ operand.columnAt way = some ref ∧
        number :: way = place := by
  cases place with
  | nil => simp [readInside]
  | cons number way => simp [readInside, Option.bind_eq_some_iff, List.getElem?_map]

/-- A use inside operands is one of those of an operand, seen from outside. -/
theorem mem_uses_inside {operands : List Expr} {use : ColumnUse} :
    use ∈ usesInside (operands.map Expr.uses) ↔
      ∃ number way operand, operands[number]? = some operand ∧ ⟨way, use.ref⟩ ∈ operand.uses ∧
        number :: way = use.place := by
  simp only [usesInside, List.mem_flatMap, List.mem_map, Prod.exists,
    List.mem_zipIdx_iff_getElem?, List.getElem?_map, Option.map_eq_some_iff]
  constructor
  · intro h
    obtain ⟨_, number, ⟨operand, hoperand, rfl⟩, inner, hinner, rfl⟩ := h
    exact ⟨number, inner.place, operand, hoperand, hinner, rfl⟩
  · intro h
    obtain ⟨number, way, operand, hoperand, hmem, hplace⟩ := h
    refine ⟨operand.uses, number, ⟨operand, hoperand, rfl⟩, ⟨way, use.ref⟩, hmem, ?_⟩
    rw [ColumnUse.inside, hplace]

/-- If the uses of each operand ascend, those inside all operands do. -/
theorem ascending_inside {operands : List (List ColumnUse)}
    (h : ∀ uses ∈ operands, uses.Pairwise fun first second => first.place < second.place) :
    (usesInside operands).Pairwise fun first second => first.place < second.place := by
  refine List.pairwise_flatMap.2 ⟨fun operand hoperand => ?_, ?_⟩
  · refine List.pairwise_map.2 ((h operand.1 (List.fst_mem_of_mem_zipIdx hoperand)).imp ?_)
    exact fun hless => List.cons_lt_cons_iff.2 (.inr ⟨rfl, hless⟩)
  · -- The number of the operand decides between uses inside different ones.
    have hnumbers : operands.zipIdx.Pairwise fun first second => first.2 < second.2 := by
      refine List.pairwise_map.1 ?_
      rw [List.zipIdx_map_snd]
      exact List.pairwise_lt_range'
    refine hnumbers.imp fun hless use huse other hother => ?_
    obtain ⟨inner, -, rfl⟩ := List.mem_map.1 huse
    obtain ⟨later, -, rfl⟩ := List.mem_map.1 hother
    exact List.cons_lt_cons_iff.2 (.inl hless)

/-- If the uses of each operand are what it reads, those inside all operands are what is read
inside them. -/
theorem traverses_operands (operands : List Expr)
    (h : ∀ operand ∈ operands, Traverses operand.columnAt operand.uses) :
    Traverses (readInside (operands.map Expr.columnAt)) (usesInside (operands.map Expr.uses)) where
  mem_iff := fun {use} => by
    rw [mem_uses_inside, read_inside_eq_some]
    refine exists_congr fun number => exists_congr fun way => exists_congr fun operand =>
      and_congr_right fun hoperand => and_congr_left' ?_
    exact (h operand (List.mem_of_getElem? hoperand)).mem_iff
  ascending := by
    refine ascending_inside fun uses huses => ?_
    obtain ⟨operand, hoperand, rfl⟩ := List.mem_map.1 huses
    exact (h operand hoperand).ascending

/-- The uses of an expression are what it reads. -/
theorem Expr.traverses (expr : Expr) : Traverses expr.columnAt expr.uses := by
  induction expr with
  | column ref => exact traverses_here (some ref)
  | literal value => exact traverses_here none
  | aggregate op argument => exact traverses_here argument
  | binary op left right ihleft ihright =>
      refine traverses_operands [left, right] fun operand hoperand => ?_
      rcases List.mem_pair.1 hoperand with rfl | rfl
      · exact ihleft
      · exact ihright
  | not inner ih | isNull inner ih | isNotNull inner ih | oneOf inner items ih
  | like inner pattern ih =>
      refine traverses_operands [inner] fun operand hoperand => ?_
      rwa [List.mem_singleton.1 hoperand]

/-! ## Columns -/

/-- The columns that are used inside operands are those of the operands. -/
theorem refs_inside (operands : List (List ColumnUse)) :
    (usesInside operands).map ColumnUse.ref = operands.flatMap (List.map ColumnUse.ref) := by
  have hinside : ∀ number : Nat, ColumnUse.ref ∘ ColumnUse.inside number = ColumnUse.ref :=
    fun _ => rfl
  calc (usesInside operands).map ColumnUse.ref
      = operands.zipIdx.flatMap fun operand => operand.1.map ColumnUse.ref := by
        simp only [usesInside, List.map_flatMap, List.map_map, hinside]
    _ = (operands.zipIdx.map Prod.fst).flatMap (List.map ColumnUse.ref) := by
        rw [List.flatMap_map]
    _ = operands.flatMap (List.map ColumnUse.ref) := by rw [List.zipIdx_map_fst]

/-- The columns of an expression are those of its uses. -/
theorem Expr.columns_eq (expr : Expr) : expr.columns = expr.uses.map ColumnUse.ref := by
  induction expr with
  | column ref => rfl
  | literal value => rfl
  | aggregate op argument => cases argument <;> rfl
  | binary op left right ihleft ihright =>
      rw [columns, uses, refs_inside, ihleft, ihright]
      simp
  | not inner ih | isNull inner ih | isNotNull inner ih | oneOf inner items ih
  | like inner pattern ih =>
      rw [columns, uses, refs_inside, ih]
      simp

/-- The columns of some expressions, one expression after the other, are those of their uses. -/
theorem flat_map_columns_eq (exprs : List Expr) :
    exprs.flatMap Expr.columns = (usesInside (exprs.map Expr.uses)).map ColumnUse.ref := by
  rw [refs_inside, List.flatMap_map]
  exact List.flatMap_congr fun expr _ => expr.columns_eq

/-! ## First uses -/

/-- One column is read at a place before all those at which another one is read. -/
def ReadBefore (reads : List Nat → Option ColumnRef) (first second : ColumnRef) : Prop :=
  ∃ place, reads place = some first ∧ ∀ other, reads other = some second → place < other

/-- No column is read before itself. -/
theorem ReadBefore.irrefl {reads : List Nat → Option ColumnRef} {ref : ColumnRef} :
    ¬ ReadBefore reads ref ref := by
  intro h
  obtain ⟨place, hplace, hfirst⟩ := h
  exact List.lt_irrefl place (hfirst place hplace)

/-- In a list of columns one occurs before another one does for the first time. -/
def OccursBefore (columns : List ColumnRef) (first second : ColumnRef) : Prop :=
  ∃ before after, columns = before ++ first :: after ∧ second ∉ before ++ [first]

namespace OccursBefore

variable {columns : List ColumnRef} {first second : ColumnRef}

/-- What occurs before another column does so however the list goes on. -/
theorem append (h : OccursBefore columns first second) (rest : List ColumnRef) :
    OccursBefore (columns ++ rest) first second := by
  obtain ⟨before, after, rfl, hfresh⟩ := h
  exact ⟨before, after ++ rest, by simp, hfresh⟩

/-- What occurs already does so before a column that does not. -/
theorem of_mem (hfirst : first ∈ columns) (hsecond : second ∉ columns) (rest : List ColumnRef) :
    OccursBefore (columns ++ rest) first second := by
  obtain ⟨before, after, rfl⟩ := List.append_of_mem hfirst
  refine append ⟨before, after, rfl, fun hmem => hsecond ?_⟩ rest
  rw [List.append_cons]
  exact List.mem_append_left after hmem

end OccursBefore

namespace Traverses

variable {reads : List Nat → Option ColumnRef} {uses : List ColumnUse}

/-- Other references at the same places are the uses of what is read there. -/
theorem map (h : Traverses reads uses) (change : ColumnRef → ColumnRef) :
    Traverses (fun place => (reads place).map change)
      (uses.map fun use => { use with ref := change use.ref }) where
  mem_iff := fun {use} => by
    rw [List.mem_map, Option.map_eq_some_iff]
    constructor
    · intro hmem
      obtain ⟨known, hknown, rfl⟩ := hmem
      exact ⟨known.ref, h.mem_iff.1 hknown, rfl⟩
    · intro hread
      obtain ⟨ref, href, hchange⟩ := hread
      refine ⟨⟨use.place, ref⟩, h.mem_iff.2 href, ?_⟩
      rw [hchange]
  ascending := List.pairwise_map.2 h.ascending

/-- The columns of the uses are those that are read at some place. -/
theorem mem_refs_iff (h : Traverses reads uses) {ref : ColumnRef} :
    ref ∈ uses.map ColumnUse.ref ↔ ∃ place, reads place = some ref := by
  rw [List.mem_map]
  constructor
  · intro hmem
    obtain ⟨use, huse, rfl⟩ := hmem
    exact ⟨use.place, h.mem_iff.1 huse⟩
  · intro hread
    obtain ⟨place, hplace⟩ := hread
    exact ⟨⟨place, ref⟩, h.mem_iff.2 hplace, rfl⟩

/-- A column that occurs before another one is read before it. -/
theorem read_before (h : Traverses reads uses) {first second : ColumnRef}
    (hoccurs : OccursBefore (uses.map ColumnUse.ref) first second) :
    ReadBefore reads first second := by
  obtain ⟨before, after, hsplit, hfresh⟩ := hoccurs
  obtain ⟨earlier, rest, rfl, rfl, hrest⟩ := List.map_eq_append_iff.1 hsplit
  obtain ⟨use, later, rfl, rfl, -⟩ := List.map_eq_cons_iff.1 hrest
  refine ⟨use.place, h.mem_iff.1 (by simp), fun other hother => ?_⟩
  have hmem : (⟨other, second⟩ : ColumnUse) ∈ earlier ++ use :: later := h.mem_iff.2 hother
  rcases List.mem_append.1 hmem with hearlier | hlater
  · exact absurd (List.mem_append_left _ (List.mem_map_of_mem hearlier)) hfresh
  rcases List.mem_cons.1 hlater with rfl | hlater
  · exact absurd (List.mem_append_right _ (List.mem_singleton_self _)) hfresh
  · exact (List.pairwise_cons.1 (List.pairwise_append.1 h.ascending).2.1).1 _ hlater

end Traverses

end Orm
