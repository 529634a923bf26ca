import Orm.Proofs.Change.WriteStatement
import Orm.Proofs.Sql.RowWrite

/-!
# What writes of an entity mean

Every statement that writes an entity is read as a write of rows: an insert stores what is present
in columns of the table, an update assigns the columns that changed and are no keys in the row with
the keys that the entity holds, a delete removes that row, and a `MERGE` finds its row by keys that
it stores. `writes_mean` says so, and when there is no statement.
-/

namespace Orm.WriteStatement

variable {dialect : Dialect} {entity : Entity} {columns : ColumnMap} {keys filled : List String}

/-- The write of rows that a statement is, its slots standing for its values. -/
def meaning (statement : WriteStatement) : Option RowWrite :=
  RowWrite.read statement.values statement.pieces

/-- Some columns with what an entity holds in them, which is null if it has no entry. -/
def current (entity : Entity) (columns : List String) : List (String × Value) :=
  columns.map fun column => (column, (entity.values.find? column).getD .null)

/-- The columns of such a list. -/
@[simp]
theorem map_fst_current (entity : Entity) (columns : List String) :
    (current entity columns).map Prod.fst = columns := by
  simp [current, Function.comp_def]

/-- What an entity holds in the columns of such a list. -/
theorem map_snd_current (entity : Entity) (columns : List String) :
    (current entity columns).map Prod.snd
      = columns.map fun column => (entity.values.find? column).getD .null := by
  simp [current, Function.comp_def]

/-! ## Inserts -/

/-- The values that an insert is to store: whatever is present in a column of the model, or in any
column if the model is empty. -/
structure StoresPresent (entity : Entity) (columns : ColumnMap) (stored : List (String × Value)) :
    Prop where
  mem_iff : ∀ column value, (column, value) ∈ stored ↔ entity.present? column = some value ∧
    (columns.isEmpty = true ∨ columns.contains column = true)
  nodup : (stored.map Prod.fst).Nodup

/-- An insert stores these values. -/
theorem stores_present_inserted (entity : Entity) (columns : ColumnMap) :
    StoresPresent entity columns (insertedValues entity columns) where
  mem_iff := fun _ _ => mem_inserted_values
  nodup := entity.values.nodup_keys.sublist (List.filter_sublist.map Prod.fst)

/-- A plain insert means that its values are stored, whether the key is read back or not. -/
theorem plain_insert_meaning (dialect : Dialect) (entity : Entity) (columns : ColumnMap) :
    (plainInsert dialect entity columns).meaning
      = some (.insert entity.table (insertedValues entity columns)) := by
  have hmeaning : ∀ ending, RowWrite.endsInsert ending = true →
      RowWrite.read ((insertedValues entity columns).map Prod.snd)
        ([SqlPiece.word "INSERT INTO ", .table entity.table] ++
          (if ((insertedValues entity columns).map Prod.fst).isEmpty then
            [SqlPiece.word " DEFAULT VALUES"]
          else
            SqlPiece.word " (" :: separated ", "
                (((insertedValues entity columns).map Prod.fst).map fun name => [.name name]) ++
              [SqlPiece.word ") VALUES ("] ++
              separated ", " (((insertedValues entity columns).map Prod.fst).mapIdx
                fun index _ => [.slot index]) ++ [SqlPiece.word ")"]) ++ ending)
        = some (.insert entity.table (insertedValues entity columns)) := by
    intro ending hending
    by_cases hstored : insertedValues entity columns = []
    · simp [hstored, RowWrite.read, RowWrite.readInsert, hending]
    · rw [if_neg (by simpa using hstored)]
      simp only [List.cons_append, List.nil_append, List.append_assoc]
      exact RowWrite.read_insert_row entity.table hstored hending
  have hplain := hmeaning [] rfl
  rw [List.append_nil] at hplain
  simp only [meaning, plainInsert]
  split
  · split
    · exact hplain
    · exact hmeaning _ rfl
  · exact hplain

/-- A merge has assignments if its policy is to update and there are columns to update. -/
theorem matched_clause_eq (policy : ConflictPolicy) (keys updates : List String) :
    RowWrite.matchedClause keys (if policy = .update then updates else [])
      = separated " AND " (keys.map Brackets.targetEqualsSource) ++
        (if policy = .update ∧ !(updates.map Brackets.targetEqualsSource).isEmpty then
          SqlPiece.word " WHEN MATCHED THEN UPDATE SET " ::
            separated ", " (updates.map Brackets.targetEqualsSource)
        else []) := by
  rw [RowWrite.matchedClause]
  by_cases hupdate : policy = .update
  · cases updates <;> simp [hupdate]
  · simp [hupdate]

/-- What the dialect with bracketed names has for an insert that resolves conflicts. -/
theorem brackets_upsert_eq (request : Upsert) (hkeys : request.keys ≠ [])
    (hpolicy : request.policy ≠ .throw) :
    let names := request.columns.map Prod.fst
    Brackets.upsert request
      = some ([SqlPiece.word "MERGE INTO ", .table request.table,
            .word " WITH (HOLDLOCK) AS [target] USING (SELECT "] ++
          separated ", " (request.columns.map fun column =>
            [column.2, .word " AS ", .name column.1]) ++
          [SqlPiece.word ") AS [source] ON "] ++
          RowWrite.matchedClause request.keys
            (if request.policy = .update then names.filter (· ∉ request.keys) else []) ++
          [SqlPiece.word " WHEN NOT MATCHED THEN INSERT ("] ++
          separated ", " (names.map fun name => [.name name]) ++
          [SqlPiece.word ") VALUES ("] ++
          separated ", " (names.map fun name => [.word "[source].", .name name]) ++
          [SqlPiece.word ");"]) := by
  intro names
  have hupdates : (request.columns.filter fun column => column.1 ∉ request.keys).map
        (fun column => Brackets.targetEqualsSource column.1)
      = (names.filter (· ∉ request.keys)).map Brackets.targetEqualsSource := by
    rw [List.filter_map, List.map_map]
    rfl
  rw [Brackets.upsert, if_neg (by simp [hkeys, hpolicy]), matched_clause_eq]
  simp only [hupdates, names, List.map_map, Function.comp_def, List.append_assoc]

/-- The values of some keys, each of which is stored. -/
theorem keyed_of_stored {stored : List (String × Value)} (hnodup : (stored.map Prod.fst).Nodup)
    (hkeys : ∀ key ∈ keys, key ∈ stored.map Prod.fst) :
    ∃ keyed : List (String × Value),
      keyed.map Prod.fst = keys ∧ ∀ entry ∈ keyed, entry ∈ stored := by
  refine ⟨keys.map fun key => (key, (NameMap.lookup key stored).getD .null), by
    simp [Function.comp_def], fun entry hentry => ?_⟩
  obtain ⟨key, hkey, rfl⟩ := List.mem_map.1 hentry
  obtain ⟨⟨_, value⟩, hmem, rfl⟩ := List.mem_map.1 (hkeys key hkey)
  have hlookup := NameMap.lookup_of_mem hnodup hmem
  rwa [hlookup]

/-- An insert that resolves conflicts asks the dialect for a statement with the values that it
stores, by the keys of the model, all of which have one. -/
theorem upsert_requests {statement : WriteStatement}
    (h : upsert dialect entity columns = .ok statement) :
    let stored := insertedValues entity columns
    dialect.upsert ⟨entity.table,
        (stored.map Prod.fst).mapIdx fun index name => (name, .slot index), columns.primaryKeys,
        entity.onConflict⟩ = some statement.pieces ∧
      statement.values = stored.map Prod.snd ∧ columns.primaryKeys ≠ [] ∧
      ∀ key ∈ columns.primaryKeys, key ∈ stored.map Prod.fst := by
  intro stored
  simp only [upsert] at h
  split at h
  · cases h
  · split at h
    · cases h
    · next hmissing =>
      obtain ⟨hkeys, hpresent⟩ := missing_key_eq_none_iff.1 hmissing
      split at h
      · cases h
      · next pieces hpieces =>
        cases h
        exact ⟨hpieces, rfl, hkeys, fun key hkey => of_decide_eq_true (hpresent key hkey)⟩

/-- The columns of a row whose values are slots. -/
theorem map_fst_slots (names : List String) :
    (names.mapIdx fun index name => (name, SqlPiece.slot index)).map Prod.fst = names :=
  List.ext_getElem (by simp) fun index _ _ => by simp

/-- The slots of such a row, each under the name of its column. -/
theorem map_named_slots (names : List String) :
    (names.mapIdx fun index name => (name, SqlPiece.slot index)).map
        (fun column => [column.2, .word " AS ", .name column.1])
      = names.mapIdx fun index name => [.slot index, .word " AS ", .name name] :=
  List.ext_getElem (by simp) fun index _ _ => by simp

/-- Under the dialect with bracketed names an insert that resolves conflicts means that the row with
the keys that it stores gets the other values, if the policy is to update, and that a row with all
values is added if there is none. -/
theorem merge_meaning {statement : WriteStatement} (hpolicy : entity.onConflict ≠ .throw)
    (h : upsert .brackets entity columns = .ok statement) :
    let stored := insertedValues entity columns
    ∃ keyed, keyed.map Prod.fst = columns.primaryKeys ∧ (∀ entry ∈ keyed, entry ∈ stored) ∧
      statement.meaning = some (.merge entity.table keyed
        (if entity.onConflict = .update then stored.filter (·.1 ∉ columns.primaryKeys) else [])
        stored) := by
  intro stored
  obtain ⟨hupsert, hvalues, hkeys, hstored⟩ := upsert_requests h
  have hnodup := (stores_present_inserted entity columns).nodup
  obtain ⟨keyed, hkeyed, hmem⟩ := keyed_of_stored hnodup hstored
  refine ⟨keyed, hkeyed, hmem, ?_⟩
  have hsome : keyed ≠ [] := by
    rintro rfl
    exact hkeys hkeyed.symm
  generalize hassigned : (if entity.onConflict = .update then
    stored.filter (·.1 ∉ columns.primaryKeys) else []) = assigned
  have hothers : (if entity.onConflict = .update then
      (stored.map Prod.fst).filter (· ∉ columns.primaryKeys) else []) = assigned.map Prod.fst := by
    rw [← hassigned]
    split
    · rw [List.filter_map]
      rfl
    · rfl
  have hsubset : ∀ entry ∈ assigned, entry ∈ stored := by
    rw [← hassigned]
    intro entry hentry
    split at hentry
    · exact List.mem_of_mem_filter hentry
    · cases hentry
  have hpieces := hupsert.symm.trans (brackets_upsert_eq ⟨entity.table,
    (stored.map Prod.fst).mapIdx fun index name => (name, .slot index), columns.primaryKeys,
    entity.onConflict⟩ hkeys hpolicy)
  dsimp only at hpieces
  rw [map_fst_slots, map_named_slots, hothers, ← hkeyed, Option.some.injEq] at hpieces
  rw [meaning, hvalues, hpieces]
  exact RowWrite.read_merge entity.table hnodup hsome hmem hsubset

/-! ## Updates and deletes -/

/-- The columns that are collected are those that were there, and then the new ones that are no
keys, each once. -/
theorem collected_eq (keys edits changed : List String) :
    edits.foldl (fun changed column =>
        if column ∈ keys ∨ column ∈ changed then changed else changed ++ [column]) changed
      = changed ++ (edits.filter fun column => column ∉ keys ∧ column ∉ changed).eraseDups := by
  induction edits generalizing changed with
  | nil => simp
  | cons head rest ih =>
      rw [List.foldl_cons, ih]
      by_cases hhead : head ∈ keys ∨ head ∈ changed
      · rw [if_pos hhead, List.filter_cons_of_neg (by simpa [← not_or] using hhead)]
      · rw [if_neg hhead, List.filter_cons_of_pos (by simpa [← not_or] using hhead),
          List.eraseDups_cons, List.filter_filter, List.append_assoc, List.singleton_append]
        congr 3
        refine List.filter_congr fun column _ => ?_
        by_cases hsame : column = head <;> simp [hsame]

/-- An update assigns the edited columns and then the filled ones that are no keys, each once. -/
theorem changed_columns_eq (entity : Entity) (keys filled : List String) :
    changedColumns entity keys filled
      = ((entity.state.modifiedColumns ++ filled).filter (· ∉ keys)).eraseDups := by
  rw [changedColumns, collected_eq, List.nil_append]
  simp only [List.not_mem_nil, not_false_eq_true, and_true]

/-- A row has no complete key: its model has none, or the entity lacks a value in one. -/
def LacksKey (entity : Entity) (columns : ColumnMap) : Prop :=
  columns.primaryKeys = [] ∨ ∃ key ∈ columns.primaryKeys, entity.present? key = none

/-- The key that a row lacks: a name that stands for all if its model has none, and otherwise the
first one without a value. -/
def MissesKey (entity : Entity) (columns : ColumnMap) (column : String) : Prop :=
  columns.primaryKeys = [] ∧ column = noKey ∨
    ∃ front back, columns.primaryKeys = front ++ column :: back ∧
      entity.present? column = none ∧ ∀ key ∈ front, (entity.present? key).isSome = true

/-- No complete key lacks a value. -/
theorem missing_key_eq_none_iff_complete :
    missingKey columns.primaryKeys entity.hasValue = none ↔ ¬ LacksKey entity columns := by
  rw [missing_key_eq_none_iff, LacksKey, not_or]
  simp only [Entity.hasValue, not_exists, not_and, ← Option.ne_none_iff_isSome, ne_eq]

/-- What a row misses is named, if its key is incomplete. -/
theorem misses_key_of_missing {column : String}
    (h : missingKey columns.primaryKeys entity.hasValue = some column) :
    MissesKey entity columns column := by
  rw [missingKey] at h
  split at h
  · next hempty => exact .inl ⟨List.isEmpty_iff.1 hempty, (Option.some.inj h).symm⟩
  · obtain ⟨hcolumn, front, back, hkeys, hfront⟩ := List.find?_eq_some_iff_append.1 h
    refine .inr ⟨front, back, hkeys, ?_, fun key hkey => ?_⟩
    · simpa [Entity.hasValue] using hcolumn
    · simpa [Entity.hasValue] using hfront key hkey

/-- A complete key is given with what the entity holds in it. -/
theorem key_values_of_complete (operation : WriteOperation) (h : ¬ LacksKey entity columns) :
    keyValues entity columns.primaryKeys operation
      = .ok (current entity columns.primaryKeys) := by
  rw [keyValues, missing_key_eq_none_iff_complete.2 h]
  rfl

/-- An incomplete key is not given, and the error names what it misses. -/
theorem key_values_of_lacks (operation : WriteOperation) (h : LacksKey entity columns) :
    ∃ column, MissesKey entity columns column ∧
      keyValues entity columns.primaryKeys operation
        = .error (.missingPrimaryKey entity.table operation column) := by
  cases hmissing : missingKey columns.primaryKeys entity.hasValue with
  | none => exact absurd h (missing_key_eq_none_iff_complete.1 hmissing)
  | some column =>
      exact ⟨column, misses_key_of_missing hmissing, by rw [keyValues, hmissing]⟩

/-- What an update does: if nothing but keys was edited or filled it has no statement, if the row
lacks a key it fails, and otherwise it assigns the columns that changed in the row with the keys. -/
structure UpdateMeans (entity : Entity) (columns : ColumnMap) (filled : List String)
    (result : Except PersistError (Option WriteStatement)) : Prop where
  unchanged_iff : result = .ok none ↔
    ∀ column ∈ entity.state.modifiedColumns ++ filled, column ∈ columns.primaryKeys
  failed_iff : (∃ error, result = .error error) ↔
    (∃ column ∈ entity.state.modifiedColumns ++ filled, column ∉ columns.primaryKeys) ∧
      LacksKey entity columns
  failed : ∀ error, result = .error error →
    ∃ column, MissesKey entity columns column ∧
      error = .missingPrimaryKey entity.table .update column
  rendered : ∀ statement, result = .ok (some statement) →
    statement.meaning = some (.update entity.table
      (current entity ((entity.state.modifiedColumns ++ filled).filter
        (· ∉ columns.primaryKeys)).eraseDups)
      (current entity columns.primaryKeys))

/-- What a delete does: if the row lacks a key it fails, and otherwise it removes the row with the
keys. -/
structure DeleteMeans (entity : Entity) (columns : ColumnMap)
    (result : Except PersistError WriteStatement) : Prop where
  failed_iff : (∃ error, result = .error error) ↔ LacksKey entity columns
  failed : ∀ error, result = .error error →
    ∃ column, MissesKey entity columns column ∧
      error = .missingPrimaryKey entity.table .delete column
  rendered : ∀ statement, result = .ok statement →
    statement.meaning = some (.delete entity.table (current entity columns.primaryKeys))

/-- A list of columns with what an entity holds in them is empty if there are no columns. -/
theorem current_ne_nil (entity : Entity) {names : List String} (h : names ≠ []) :
    current entity names ≠ [] := by
  simpa [current] using h

/-- The update of a row with a complete key, of which something else changed. -/
theorem update_of_complete (hchanged : changedColumns entity columns.primaryKeys filled ≠ [])
    (hcomplete : ¬ LacksKey entity columns) :
    ∃ statement, update entity columns filled = .ok (some statement) ∧
      statement.meaning = some (.update entity.table
        (current entity (changedColumns entity columns.primaryKeys filled))
        (current entity columns.primaryKeys)) := by
  rw [update, if_neg (by simpa using hchanged), key_values_of_complete .update hcomplete]
  refine ⟨_, rfl, ?_⟩
  have hread := RowWrite.read_update entity.table (current_ne_nil entity hchanged)
    (current_ne_nil entity fun hnone => hcomplete (.inl hnone))
  have hlength : (current entity (changedColumns entity columns.primaryKeys filled)).length
      = (changedColumns entity columns.primaryKeys filled).length := List.length_map _
  rw [map_fst_current, map_snd_current entity (changedColumns _ _ _), hlength] at hread
  exact hread

/-- The update of a row that lacks a key, of which something else changed. -/
theorem update_of_lacks (hchanged : changedColumns entity columns.primaryKeys filled ≠ [])
    (hlacks : LacksKey entity columns) :
    ∃ column, MissesKey entity columns column ∧
      update entity columns filled = .error (.missingPrimaryKey entity.table .update column) := by
  obtain ⟨column, hmisses, hkeyed⟩ := key_values_of_lacks .update hlacks
  refine ⟨column, hmisses, ?_⟩
  rw [update, if_neg (by simpa using hchanged), hkeyed]
  rfl

/-- The delete of a row with a complete key. -/
theorem delete_of_complete (hcomplete : ¬ LacksKey entity columns) :
    ∃ statement, delete entity columns = .ok statement ∧
      statement.meaning = some (.delete entity.table (current entity columns.primaryKeys)) := by
  rw [delete, key_values_of_complete .delete hcomplete]
  exact ⟨_, rfl, RowWrite.read_delete entity.table
    (current_ne_nil entity fun hnone => hcomplete (.inl hnone))⟩

/-- The delete of a row that lacks a key. -/
theorem delete_of_lacks (hlacks : LacksKey entity columns) :
    ∃ column, MissesKey entity columns column ∧
      delete entity columns = .error (.missingPrimaryKey entity.table .delete column) := by
  obtain ⟨column, hmisses, hkeyed⟩ := key_values_of_lacks .delete hlacks
  refine ⟨column, hmisses, ?_⟩
  rw [delete, hkeyed]
  rfl

/-- An update does what `UpdateMeans` says. -/
theorem update_means (entity : Entity) (columns : ColumnMap) (filled : List String) :
    UpdateMeans entity columns filled (update entity columns filled) := by
  have hnone : changedColumns entity columns.primaryKeys filled = [] ↔
      ∀ column ∈ entity.state.modifiedColumns ++ filled, column ∈ columns.primaryKeys := by
    rw [List.eq_nil_iff_forall_not_mem]
    simp only [mem_changed_columns, List.mem_append, not_and, not_not]
  have hsome : (∃ column ∈ entity.state.modifiedColumns ++ filled,
      column ∉ columns.primaryKeys) ↔ changedColumns entity columns.primaryKeys filled ≠ [] := by
    rw [ne_eq, hnone]
    simp only [not_forall, exists_prop]
  by_cases hchanged : changedColumns entity columns.primaryKeys filled = []
  · rw [update_eq_none_iff.2 hchanged]
    refine ⟨iff_of_true rfl (hnone.1 hchanged), iff_of_false ?_ ?_, ?_, ?_⟩
    · rintro ⟨_, ⟨⟩⟩
    · exact fun hfailed => hsome.1 hfailed.1 hchanged
    · rintro _ ⟨⟩
    · rintro _ ⟨⟩
  have hstatement : ¬ ∀ column ∈ entity.state.modifiedColumns ++ filled,
      column ∈ columns.primaryKeys := mt hnone.2 hchanged
  by_cases hlacks : LacksKey entity columns
  · obtain ⟨column, hmisses, hupdate⟩ := update_of_lacks hchanged hlacks
    rw [hupdate]
    refine ⟨iff_of_false ?_ hstatement, iff_of_true ⟨_, rfl⟩ ⟨hsome.2 hchanged, hlacks⟩, ?_, ?_⟩
    · rintro ⟨⟩
    · rintro _ ⟨⟩
      exact ⟨column, hmisses, rfl⟩
    · rintro _ ⟨⟩
  · obtain ⟨statement, hupdate, hmeaning⟩ := update_of_complete hchanged hlacks
    rw [hupdate]
    refine ⟨iff_of_false ?_ hstatement, iff_of_false ?_ fun hfailed => hlacks hfailed.2, ?_, ?_⟩
    · rintro ⟨⟩
    · rintro ⟨_, ⟨⟩⟩
    · rintro _ ⟨⟩
    · rintro _ ⟨⟩
      rw [hmeaning, changed_columns_eq]

/-- A delete does what `DeleteMeans` says. -/
theorem delete_means (entity : Entity) (columns : ColumnMap) :
    DeleteMeans entity columns (delete entity columns) := by
  by_cases hlacks : LacksKey entity columns
  · obtain ⟨column, hmisses, hdelete⟩ := delete_of_lacks hlacks
    rw [hdelete]
    refine ⟨iff_of_true ⟨_, rfl⟩ hlacks, ?_, ?_⟩
    · rintro _ ⟨⟩
      exact ⟨column, hmisses, rfl⟩
    · rintro _ ⟨⟩
  · obtain ⟨statement, hdelete, hmeaning⟩ := delete_of_complete hlacks
    rw [hdelete]
    refine ⟨iff_of_false ?_ hlacks, ?_, ?_⟩
    · rintro ⟨_, ⟨⟩⟩
    · rintro _ ⟨⟩
    · rintro _ ⟨⟩
      exact hmeaning

/-! ## All writes -/

/-- What an insert does. If a conflict is to fail it has a statement, which stores the values; if
one is to be resolved, the statement is what the dialect has for a row of the values in their slots
and the keys of the model, and under the dialect with bracketed names it merges that row. -/
structure InsertMeans (dialect : Dialect) (entity : Entity) (columns : ColumnMap)
    (stored : List (String × Value)) (result : Except PersistError WriteStatement) : Prop where
  stores : StoresPresent entity columns stored
  plain : entity.onConflict = .throw → ∃ statement, result = .ok statement ∧
    statement.meaning = some (.insert entity.table stored)
  resolving : entity.onConflict ≠ .throw → ∀ statement, result = .ok statement →
    dialect.upsert ⟨entity.table,
        (stored.map Prod.fst).mapIdx fun index name => (name, .slot index), columns.primaryKeys,
        entity.onConflict⟩ = some statement.pieces ∧
      statement.values = stored.map Prod.snd ∧ columns.primaryKeys ≠ [] ∧
      ∀ key ∈ columns.primaryKeys, key ∈ stored.map Prod.fst
  merging : entity.onConflict ≠ .throw → dialect = .brackets → ∀ statement,
    result = .ok statement → ∃ keyed, keyed.map Prod.fst = columns.primaryKeys ∧
      (∀ entry ∈ keyed, entry ∈ stored) ∧
      statement.meaning = some (.merge entity.table keyed
        (if entity.onConflict = .update then stored.filter (·.1 ∉ columns.primaryKeys) else [])
        stored)

/-- An insert does what `InsertMeans` says. -/
theorem insert_means (dialect : Dialect) (entity : Entity) (columns : ColumnMap) :
    InsertMeans dialect entity columns (insertedValues entity columns)
      (insert dialect entity columns) where
  stores := stores_present_inserted entity columns
  plain := fun hthrow => ⟨_, if_pos hthrow, plain_insert_meaning dialect entity columns⟩
  resolving := fun hpolicy statement hinsert =>
    upsert_requests ((if_neg hpolicy).symm.trans hinsert)
  merging := fun hpolicy hdialect statement hinsert => by
    subst hdialect
    exact merge_meaning hpolicy ((if_neg hpolicy).symm.trans hinsert)

/-- Whatever an entity holds, the statements that write it under some model and dialect mean the
write that they are for: the slots in their text are the names of their parameters in order, and
with the values of these an insert, an update and a delete is read as `InsertMeans`, `UpdateMeans`
and `DeleteMeans` say, which also tell when there is none. -/
theorem writes_mean (dialect : Dialect) (entity : Entity) (columns : ColumnMap)
    (filled : List String) :
    (∀ statement : WriteStatement,
      statement.command dialect = .statement (dialect.text statement.pieces)
        (statement.values.mapIdx fun index value =>
          .input (dialect.pieceText (.slot index)) value)) ∧
    InsertMeans dialect entity columns (insertedValues entity columns)
      (insert dialect entity columns) ∧
    UpdateMeans entity columns filled (update entity columns filled) ∧
    DeleteMeans entity columns (delete entity columns) :=
  ⟨fun _ => rfl, insert_means dialect entity columns, update_means entity columns filled,
    delete_means entity columns⟩

/-- The columns of order lines, which have a key of two columns. -/
def lineColumns : ColumnMap :=
  .ofColumns [(Column.plain "Order" .integer "int").primaryKey,
    (Column.plain "Line" .integer "int").primaryKey, Column.plain "Note" .text "nvarchar",
    Column.plain "Price" .integer "int"]

/-- The second line of the order seven, with a new price and without its note. -/
def editedLine : Entity :=
  { Entity.materialized (Table.named "dbo" "Lines") lineColumns none
      [("Order", .int 7), ("Line", .int 2), ("Note", .null), ("Price", .int 30)] with
    state := .modified ["Price", "Line", "Note"]
    onConflict := .update }

/-- What its writes mean: the update leaves the key out and stores the null, and the merge does it
the other way. -/
theorem line_writes_mean :
    (∃ statement, update editedLine lineColumns ["Price"] = .ok (some statement) ∧
      statement.meaning = some (.update (Table.named "dbo" "Lines")
        [("Price", .int 30), ("Note", .null)] [("Line", .int 2), ("Order", .int 7)])) ∧
    (∃ statement, delete editedLine lineColumns = .ok statement ∧
      statement.meaning = some (.delete (Table.named "dbo" "Lines")
        [("Line", .int 2), ("Order", .int 7)])) ∧
    ∃ statement keyed, insert .brackets editedLine lineColumns = .ok statement ∧
      keyed.map Prod.fst = ["Line", "Order"] ∧
      statement.meaning = some (.merge (Table.named "dbo" "Lines") keyed [("Price", .int 30)]
        [("Line", .int 2), ("Order", .int 7), ("Price", .int 30)]) := by
  obtain ⟨-, hinsert, hupdate, hdelete⟩ := writes_mean .brackets editedLine lineColumns ["Price"]
  refine ⟨?_, ?_, ?_⟩
  · have hrendered : (update editedLine lineColumns ["Price"]).map Option.isSome = .ok true := by
      decide +kernel
    obtain ⟨written, hwritten, hsome⟩ := Action.map_eq_ok_iff.1 hrendered
    obtain ⟨statement, rfl⟩ := Option.isSome_iff_exists.1 hsome
    refine ⟨statement, hwritten, (hupdate.rendered statement hwritten).trans ?_⟩
    decide +kernel
  · have hrendered : (delete editedLine lineColumns).map WriteStatement.operation
        = .ok .delete := by decide +kernel
    obtain ⟨statement, hstatement, -⟩ := Action.map_eq_ok_iff.1 hrendered
    refine ⟨statement, hstatement, (hdelete.rendered statement hstatement).trans ?_⟩
    decide +kernel
  · have hrendered : (insert .brackets editedLine lineColumns).map WriteStatement.operation
        = .ok .insert := by decide +kernel
    obtain ⟨statement, hstatement, -⟩ := Action.map_eq_ok_iff.1 hrendered
    obtain ⟨keyed, hkeyed, -, hmeaning⟩ :=
      hinsert.merging (by decide) rfl statement hstatement
    refine ⟨statement, keyed, hstatement, hkeyed.trans (by decide +kernel), hmeaning.trans ?_⟩
    have hstored : insertedValues editedLine lineColumns
        = [("Line", .int 2), ("Order", .int 7), ("Price", .int 30)] := by decide +kernel
    have hkeys : lineColumns.primaryKeys = ["Line", "Order"] := by decide +kernel
    rw [hstored, hkeys]
    rfl

end Orm.WriteStatement
