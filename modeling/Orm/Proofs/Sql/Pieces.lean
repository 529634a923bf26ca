import Orm.Proofs.Query.Flattening
import Orm.Sql.Select

/-!
# What a part of a statement reads and what it passes

Columns are qualified by aliases, and values are passed through numbered slots. `Written` says of a
part of a statement which of both occur in it, and has a lemma for each way in which parts are put
together.
-/

namespace Orm

namespace SqlPiece

/-- The alias that a piece qualifies a column with, or all columns. -/
def qualifier? : SqlPiece → Option String
  | .column aliasName _ | .star aliasName => some aliasName
  | .word _ | .name _ | .table _ | .slot _ => none

/-- The number of the parameter that a piece is a slot for. -/
def slot? : SqlPiece → Option Nat
  | .slot index => some index
  | .word _ | .name _ | .table _ | .column _ _ | .star _ => none

end SqlPiece

/-- The aliases that columns are qualified with in a part of a statement. -/
def qualifiers (pieces : SqlPieces) : List String := pieces.filterMap SqlPiece.qualifier?

/-- The numbers of the slots of a part of a statement, in the order of their occurrence. -/
def slotNumbers (pieces : SqlPieces) : List Nat := pieces.filterMap SqlPiece.slot?

/-- Of parts with a word between them is read what is read of the parts. -/
theorem filter_map_separated {α : Type} {read : SqlPiece → Option α}
    (hword : ∀ text, read (.word text) = none) (word : String) (parts : List SqlPieces) :
    (separated word parts).filterMap read = parts.flatten.filterMap read := by
  unfold separated
  induction parts with
  | nil => rfl
  | cons first rest ih =>
      cases rest with
      | nil => simp
      | cons second others =>
          rw [List.intercalate_cons_cons, List.filterMap_append, List.filterMap_append, ih]
          simp [hword]

/-- The parameters of some values have the first names of the dialect. -/
theorem names_params (dialect : Dialect) (values : List Value) :
    (dialect.params values).map CommandParameter.name
      = (List.range values.length).map dialect.parameter := by
  refine List.ext_getElem (by simp [Dialect.params]) fun index _ _ => ?_
  simp [Dialect.params, CommandParameter.input]

/-- A command without the values that it passes: its text and the names of its parameters. -/
def Command.form (command : Command) : String × List String :=
  (command.text, command.params.map CommandParameter.name)

/-- A part of a statement is the same whatever is read and passed: it has words and names only. -/
def Fixed (pieces : SqlPieces) : Prop :=
  ∀ piece ∈ pieces, ∃ text, piece = .word text ∨ piece = .name text

/-- A part after another one. -/
theorem Fixed.append {left right : SqlPieces} (hleft : Fixed left) (hright : Fixed right) :
    Fixed (left ++ right) := by
  intro piece hmem
  exact (List.mem_append.1 hmem).elim (hleft piece) (hright piece)

/-- A part of a statement qualifies columns with aliases that a flat query reads, and has some
slots, which are numbered from `first` on. -/
structure Written (flat : FlatQuery) (pieces : SqlPieces) (first count : Nat) : Prop where
  reads : ∀ aliasName ∈ qualifiers pieces, ∃ table, flat.Occurs aliasName table
  slots : slotNumbers pieces = List.range' first count

namespace Written

variable {flat : FlatQuery} {pieces left right : SqlPieces} {first count other : Nat}

/-- Nothing is written without columns and slots. -/
theorem nil : Written flat [] first 0 := ⟨nofun, rfl⟩

/-- A part goes on where the one before it ended. -/
theorem append (hleft : Written flat left first count)
    (hright : Written flat right (first + count) other) :
    Written flat (left ++ right) first (count + other) where
  reads := by
    intro aliasName hmem
    rw [qualifiers, List.filterMap_append, List.mem_append] at hmem
    exact hmem.elim (hleft.reads aliasName) (hright.reads aliasName)
  slots := by
    have hslots : slotNumbers (left ++ right) = slotNumbers left ++ slotNumbers right :=
      List.filterMap_append
    rw [hslots, hleft.slots, hright.slots]
    simp

/-- A word is no column and no slot. -/
@[simp]
theorem word_cons_iff {text : String} :
    Written flat (.word text :: pieces) first count ↔ Written flat pieces first count :=
  ⟨fun h => ⟨h.reads, h.slots⟩, fun h => ⟨h.reads, h.slots⟩⟩

/-- A name is no column and no slot. -/
@[simp]
theorem name_cons_iff {name : String} :
    Written flat (.name name :: pieces) first count ↔ Written flat pieces first count :=
  ⟨fun h => ⟨h.reads, h.slots⟩, fun h => ⟨h.reads, h.slots⟩⟩

/-- A table is no column and no slot. -/
@[simp]
theorem table_cons_iff {table : Table} :
    Written flat (.table table :: pieces) first count ↔ Written flat pieces first count :=
  ⟨fun h => ⟨h.reads, h.slots⟩, fun h => ⟨h.reads, h.slots⟩⟩

/-- A column is read under its alias. -/
@[simp]
theorem column_cons_iff {aliasName column : String} :
    Written flat (.column aliasName column :: pieces) first count ↔
      (∃ table, flat.Occurs aliasName table) ∧ Written flat pieces first count := by
  constructor
  · intro h
    exact ⟨h.reads aliasName List.mem_cons_self,
      fun other hmem => h.reads other (List.mem_cons_of_mem _ hmem), h.slots⟩
  · intro h
    refine ⟨?_, h.2.slots⟩
    intro other hmem
    rcases List.mem_cons.1 hmem with rfl | hmem
    · exact h.1
    · exact h.2.reads other hmem

/-- All columns of an occurrence are read under its alias. -/
@[simp]
theorem star_cons_iff {aliasName : String} :
    Written flat (.star aliasName :: pieces) first count ↔
      (∃ table, flat.Occurs aliasName table) ∧ Written flat pieces first count := by
  have hcolumn : Written flat (.star aliasName :: pieces) first count ↔
      Written flat (.column aliasName "" :: pieces) first count :=
    ⟨fun h => ⟨h.reads, h.slots⟩, fun h => ⟨h.reads, h.slots⟩⟩
  rw [hcolumn, column_cons_iff]

/-- A slot has the next number. -/
theorem slot_cons (h : Written flat pieces (first + 1) count) :
    Written flat (.slot first :: pieces) first (count + 1) where
  reads := h.reads
  slots := (congrArg (first :: ·) h.slots).trans (List.range'_succ ..).symm

/-- A word may follow. -/
theorem append_word (h : Written flat pieces first count) (text : String) :
    Written flat (pieces ++ [.word text]) first count :=
  h.append (word_cons_iff.2 nil)

/-- Words and names are no columns and no slots. -/
theorem of_fixed (h : Fixed pieces) : Written flat pieces first 0 := by
  induction pieces with
  | nil => exact nil
  | cons piece rest ih =>
      have hrest := ih fun other hmem => h other (List.mem_cons_of_mem _ hmem)
      obtain ⟨text, rfl | rfl⟩ := h piece List.mem_cons_self
      · exact word_cons_iff.2 hrest
      · exact name_cons_iff.2 hrest

/-- Of parts with a word between them is written what is written of the parts. -/
@[simp]
theorem separated_iff {word : String} {parts : List SqlPieces} :
    Written flat (separated word parts) first count ↔ Written flat parts.flatten first count := by
  have hreads : qualifiers (separated word parts) = qualifiers parts.flatten :=
    filter_map_separated (fun _ => rfl) word parts
  have hslots : slotNumbers (separated word parts) = slotNumbers parts.flatten :=
    filter_map_separated (fun _ => rfl) word parts
  exact ⟨fun h => ⟨hreads ▸ h.reads, hslots ▸ h.slots⟩,
    fun h => ⟨hreads ▸ h.reads, hslots ▸ h.slots⟩⟩

/-- Parts without slots are a part without slots. -/
theorem flatten {parts : List SqlPieces} (h : ∀ part ∈ parts, Written flat part first 0) :
    Written flat parts.flatten first 0 := by
  induction parts with
  | nil => exact nil
  | cons part rest ih =>
      exact (h part List.mem_cons_self).append
        (ih fun other hmem => h other (List.mem_cons_of_mem _ hmem))

/-- Slots for consecutive numbers are written in their order. -/
theorem slots_written (first count : Nat) :
    Written flat (FlatQuery.slots first count) first count := by
  rw [FlatQuery.slots, separated_iff]
  have hflatten : ((List.range count).map fun offset => [SqlPiece.slot (first + offset)]).flatten
      = (List.range' first count).map SqlPiece.slot := by
    rw [List.range'_eq_map_range, ← List.flatMap_def, List.map_map, List.map_eq_flatMap]
    rfl
  rw [hflatten]
  constructor
  · simp [qualifiers, SqlPiece.qualifier?, Function.comp_def]
  · simp [slotNumbers, SqlPiece.slot?, Function.comp_def]

end Written

end Orm
