import Orm.Change.Batch
import Orm.Proofs.Action
import Orm.Proofs.Data.NameMap
import Orm.Proofs.Entity.Store

/-!
# What statements write

An update has no statement if nothing outside the key changed (`statement_for_eq_none_iff`), an
insert gives every value that it stores to the slot of its column (`insert_binds`), and any other
write addresses its row by the keys that the entity holds (`statement_for_addresses`).
-/

namespace Orm

namespace WriteStatement

/-! ## Updates -/

variable {entity : Entity} {columns : ColumnMap} {keys filled : List String}

/-- The columns that are collected are those that were there and the new ones that are no keys. -/
theorem mem_collected {changed edits : List String} {column : String} :
    column ∈ edits.foldl (fun changed column =>
        if column ∈ keys ∨ column ∈ changed then changed else changed ++ [column]) changed ↔
      column ∈ changed ∨ column ∈ edits ∧ column ∉ keys := by
  induction edits generalizing changed with
  | nil => simp
  | cons head rest ih =>
      rw [List.foldl_cons, ih]
      by_cases hhead : head ∈ keys ∨ head ∈ changed
      · rw [if_pos hhead, List.mem_cons]
        constructor
        · rintro (hchanged | ⟨hrest, hkey⟩)
          · exact .inl hchanged
          · exact .inr ⟨.inr hrest, hkey⟩
        · rintro (hchanged | ⟨rfl | hrest, hkey⟩)
          · exact .inl hchanged
          · exact .inl (hhead.resolve_left hkey)
          · exact .inr ⟨hrest, hkey⟩
      · rw [if_neg hhead, List.mem_append, List.mem_singleton, List.mem_cons]
        constructor
        · rintro ((hchanged | rfl) | ⟨hrest, hkey⟩)
          · exact .inl hchanged
          · exact .inr ⟨.inl rfl, fun hkey => hhead (.inl hkey)⟩
          · exact .inr ⟨.inr hrest, hkey⟩
        · rintro (hchanged | ⟨rfl | hrest, hkey⟩)
          · exact .inl (.inl hchanged)
          · exact .inl (.inr rfl)
          · exact .inr ⟨hrest, hkey⟩

/-- An update assigns the edited and the filled columns that are no keys. -/
theorem mem_changed_columns {column : String} :
    column ∈ changedColumns entity keys filled ↔
      (column ∈ entity.state.modifiedColumns ∨ column ∈ filled) ∧ column ∉ keys := by
  rw [changedColumns, mem_collected, List.mem_append]
  exact or_iff_right List.not_mem_nil

/-- An update has no statement if and only if it would assign nothing. -/
theorem update_eq_none_iff :
    update entity columns filled = .ok none ↔
      changedColumns entity columns.primaryKeys filled = [] := by
  by_cases hchanged : changedColumns entity columns.primaryKeys filled = []
  · simp [update, hchanged]
  · have hsome : update entity columns filled ≠ .ok none := by
      rw [update, if_neg (by simpa using hchanged)]
      cases hkeys : keyValues entity columns.primaryKeys .update with
      | error error => exact nofun
      | ok keyed => exact nofun
    simp [hsome, hchanged]

/-- A write has no statement if and only if it updates a row of which nothing but keys was edited
or filled. -/
theorem statement_for_eq_none_iff {dialect : Dialect} {operation : WriteOperation} :
    Batch.statementFor dialect operation entity columns filled = .ok none ↔
      operation = .update ∧ ∀ column, column ∈ entity.state.modifiedColumns ∨ column ∈ filled →
        column ∈ columns.primaryKeys := by
  cases operation with
  | insert =>
      cases hinsert : insert dialect entity columns <;>
        simp [Batch.statementFor, hinsert, Except.map]
  | delete =>
      cases hdelete : delete entity columns <;>
        simp [Batch.statementFor, hdelete, Except.map]
  | update =>
      rw [Batch.statementFor, update_eq_none_iff, List.eq_nil_iff_forall_not_mem]
      simp only [mem_changed_columns, not_and, not_not, true_and]

/-- A statement updates rows of a table with some values in some columns. -/
def Assigns (statement : WriteStatement) (table : Table) (assigned : List (String × Value)) :
    Prop :=
  ∃ keyed : List (String × Value),
    statement.pieces = [.word "UPDATE ", .table table, .word " SET "] ++
      separated ", " (equalsSlots 0 (assigned.map Prod.fst)) ++ [.word " WHERE "] ++
      separated " AND " (equalsSlots assigned.length (keyed.map Prod.fst)) ∧
    statement.values = assigned.map Prod.snd ++ keyed.map Prod.snd

/-- The statement of an update assigns the changed columns with the values that they have. -/
theorem statement_for_assigns {dialect : Dialect} {statement : WriteStatement}
    (h : Batch.statementFor dialect .update entity columns filled = .ok (some statement)) :
    ∃ assigned, statement.Assigns entity.table assigned ∧
      assigned.map Prod.fst = changedColumns entity columns.primaryKeys filled ∧
      ∀ column value, (column, value) ∈ assigned →
        value = (entity.values.find? column).getD .null := by
  simp only [Batch.statementFor, update] at h
  split at h
  · cases h
  · obtain ⟨keyed, -, hupdate⟩ := Action.bind_eq_ok_iff.1 h
    cases hupdate
    refine ⟨(changedColumns entity columns.primaryKeys filled).map fun column =>
      (column, (entity.values.find? column).getD .null), ⟨keyed, ?_, ?_⟩, ?_, ?_⟩
    · simp [Function.comp_def]
    · simp
    · simp [Function.comp_def]
    · intro column value hmem
      obtain ⟨changed, -, hsame⟩ := List.mem_map.1 hmem
      cases hsame
      rfl

/-! ## Inserts -/

/-- A statement inserts into a table with the value of slot `n` in the `n`-th of some columns: its
text says so, or is what the dialect has for such an insert. -/
def InsertsSlots (dialect : Dialect) (table : Table) (names : List String) (pieces : SqlPieces) :
    Prop :=
  (∃ ending, pieces = [.word "INSERT INTO ", .table table, .word " ("] ++
      separated ", " (names.map fun name => [.name name]) ++ [.word ") VALUES ("] ++
      separated ", " (names.mapIdx fun index _ => [.slot index]) ++ .word ")" :: ending) ∨
    ∃ keys policy, dialect.upsert
      ⟨table, names.mapIdx fun index name => (name, .slot index), keys, policy⟩ = some pieces

/-- A statement inserts into a table with a value in a column. -/
def Binds (dialect : Dialect) (table : Table) (statement : WriteStatement) (column : String)
    (value : Value) : Prop :=
  ∃ (names : List String) (index : Nat), InsertsSlots dialect table names statement.pieces ∧
    names.length = statement.values.length ∧ names[index]? = some column ∧
    statement.values[index]? = some value

/-- An insert stores the values that are present, in columns of the table. -/
theorem mem_inserted_values {column : String} {value : Value} :
    (column, value) ∈ insertedValues entity columns ↔ entity.present? column = some value ∧
      (columns.isEmpty = true ∨ columns.contains column = true) := by
  simp only [insertedValues, List.mem_filter, NameMap.mem_to_list_iff,
    Entity.present_eq_some_iff, Bool.and_eq_true, Bool.or_eq_true, Bool.not_eq_true', and_assoc]

/-- The plain insert takes the values that it stores. -/
theorem values_plain_insert (dialect : Dialect) :
    (plainInsert dialect entity columns).values
      = (insertedValues entity columns).map Prod.snd := by
  simp only [plainInsert]
  split
  · split <;> rfl
  · rfl

/-- The plain insert of some values stores them by their slots. -/
theorem plain_insert_slots (dialect : Dialect) (hstored : insertedValues entity columns ≠ []) :
    InsertsSlots dialect entity.table ((insertedValues entity columns).map Prod.fst)
      (plainInsert dialect entity columns).pieces := by
  have hnames : ((insertedValues entity columns).map Prod.fst).isEmpty = false := by
    simpa using hstored
  simp only [plainInsert, hnames]
  split
  · next key identity _ _ =>
    split
    · exact .inl ⟨[], by simp⟩
    · exact .inl ⟨[.word "; ", .word identity], by simp⟩
  · exact .inl ⟨[], by simp⟩

/-- The insert that resolves a conflict stores its values by their slots. -/
theorem upsert_slots {dialect : Dialect} {statement : WriteStatement}
    (h : upsert dialect entity columns = .ok statement) :
    statement.values = (insertedValues entity columns).map Prod.snd ∧
      InsertsSlots dialect entity.table ((insertedValues entity columns).map Prod.fst)
        statement.pieces := by
  simp only [upsert] at h
  split at h
  · cases h
  · split at h
    · cases h
    · split at h
      · cases h
      · next pieces hpieces =>
        cases h
        exact ⟨rfl, .inr ⟨_, _, hpieces⟩⟩

/-- A statement inserts a row into a table with some values in some columns. -/
def Inserts (statement : WriteStatement) (dialect : Dialect) (table : Table)
    (stored : List (String × Value)) : Prop :=
  statement.values = stored.map Prod.snd ∧
    (stored ≠ [] → InsertsSlots dialect table (stored.map Prod.fst) statement.pieces)

/-- The statement of an insert stores the values that are present, in columns of the table. -/
theorem insert_inserts {dialect : Dialect} {statement : WriteStatement}
    (h : insert dialect entity columns = .ok statement) :
    statement.Inserts dialect entity.table (insertedValues entity columns) := by
  rw [insert] at h
  split at h
  · cases h
    exact ⟨values_plain_insert dialect, fun hstored => plain_insert_slots dialect hstored⟩
  · obtain ⟨hvalues, hslots⟩ := upsert_slots h
    exact ⟨hvalues, fun _ => hslots⟩

/-- An insert gives every value that it stores to the slot of its column. -/
theorem insert_binds {dialect : Dialect} {statement : WriteStatement}
    (h : insert dialect entity columns = .ok statement) {column : String} {value : Value}
    (hstored : (column, value) ∈ insertedValues entity columns) :
    statement.Binds dialect entity.table column value := by
  obtain ⟨hvalues, hslots⟩ := insert_inserts h
  obtain ⟨index, hindex⟩ := List.mem_iff_getElem?.1 hstored
  refine ⟨_, index, hslots (List.ne_nil_of_mem hstored), ?_, ?_, ?_⟩
  · rw [hvalues, List.length_map, List.length_map]
  · rw [List.getElem?_map, hindex, Option.map_some]
  · rw [hvalues, List.getElem?_map, hindex, Option.map_some]

/-! ## Rows with given keys -/

/-- A statement updates or deletes the rows of a table whose key columns equal the slots from a
number on. -/
def KeySlots (table : Table) (keys : List String) (first : Nat) (pieces : SqlPieces) : Prop :=
  ∃ start, (start = [.word "DELETE FROM ", .table table] ∨
      ∃ assignments, start = [.word "UPDATE ", .table table, .word " SET "] ++ assignments) ∧
    pieces = start ++ [.word " WHERE "] ++ separated " AND " (equalsSlots first keys)

/-- A statement updates or deletes the row of a table with given values in its key columns. -/
def Addresses (statement : WriteStatement) (table : Table) (keyed : List (String × Value)) : Prop :=
  ∃ assigned, KeySlots table (keyed.map Prod.fst) assigned.length statement.pieces ∧
    statement.values = assigned ++ keyed.map Prod.snd

/-- No key lacks a value if and only if there are keys and all have one. -/
theorem missing_key_eq_none_iff {isPresent : String → Bool} :
    missingKey keys isPresent = none ↔ keys ≠ [] ∧ ∀ key ∈ keys, isPresent key = true := by
  cases keys <;> simp [missingKey]

/-- The keys of an entity are given with what it holds in them, or not at all. -/
theorem key_values_ok {operation : WriteOperation} {keyed : List (String × Value)}
    (h : keyValues entity keys operation = .ok keyed) :
    keyed.map Prod.fst = keys ∧ keys ≠ [] ∧
      ∀ column value, (column, value) ∈ keyed → entity.present? column = some value := by
  rw [keyValues] at h
  split at h
  · cases h
  · next hmissing =>
    obtain ⟨hkeys, hpresent⟩ := missing_key_eq_none_iff.1 hmissing
    cases h
    refine ⟨by simp [Function.comp_def], hkeys, fun column value hmem => ?_⟩
    obtain ⟨key, hkey, hsame⟩ := List.mem_map.1 hmem
    cases hsame
    exact Entity.present_of_has_value (hpresent column hkey)

/-- The statement of an update or a delete addresses the row by the keys that the entity holds, all
of which are present. -/
theorem statement_for_addresses {dialect : Dialect} {operation : WriteOperation}
    {statement : WriteStatement} (hoperation : operation ≠ .insert)
    (h : Batch.statementFor dialect operation entity columns filled = .ok (some statement)) :
    ∃ keyed, statement.Addresses entity.table keyed ∧
      keyed.map Prod.fst = columns.primaryKeys ∧ columns.primaryKeys ≠ [] ∧
      ∀ column value, (column, value) ∈ keyed → entity.present? column = some value := by
  cases operation with
  | insert => exact absurd rfl hoperation
  | delete =>
      obtain ⟨deleted, hdelete, hsame⟩ := Action.map_eq_ok_iff.1 h
      cases hsame
      obtain ⟨keyed, hkeyed, hdelete⟩ := Action.bind_eq_ok_iff.1 hdelete
      cases hdelete
      exact ⟨keyed, ⟨[], ⟨_, .inl rfl, rfl⟩, rfl⟩, key_values_ok hkeyed⟩
  | update =>
      simp only [Batch.statementFor, update] at h
      split at h
      · cases h
      · obtain ⟨keyed, hkeyed, hupdate⟩ := Action.bind_eq_ok_iff.1 h
        cases hupdate
        have hslots : KeySlots entity.table (keyed.map Prod.fst)
            (changedColumns entity columns.primaryKeys filled).length _ :=
          ⟨_, .inr ⟨separated ", "
            (equalsSlots 0 (changedColumns entity columns.primaryKeys filled)), rfl⟩, rfl⟩
        exact ⟨keyed, ⟨_, by rwa [List.length_map], rfl⟩, key_values_ok hkeyed⟩

end WriteStatement

end Orm
