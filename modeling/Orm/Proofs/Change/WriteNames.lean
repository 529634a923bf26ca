import Orm.Proofs.Change.WriteStatement
import Orm.Proofs.Sql.StatementNames

/-!
# Names in statements that write

The statements that write an entity are read back as the names of its table and columns in skeletons
that come from the numbers of the columns. An insert that resolves a conflict has the names of its
columns several times, below the names of the two rows that it compares.
-/

namespace Orm

open Brackets (Token qualified Spells)

/-! ## Inserts that resolve conflicts -/

namespace Brackets

/-- The tokens of the comparison or assignment of two columns with their names left out. -/
def matchedSkeleton : List Token := qualified ++ [Token.operator "="] ++ qualified

/-- The names of the comparison or assignment of a column of the target row with the source row. -/
def matchedNames (column : String) : List String := ["target", column, "source", column]

/-- The names of an insert that resolves a conflict, in the order in which the statement has them.
`updates` are the columns that it updates if the row exists. -/
def upsertNames (table : Table) (columns keys updates : List String) : List String :=
  table.writtenNames ++ ["target"] ++ columns ++ ["source"] ++ keys.flatMap matchedNames ++
    updates.flatMap matchedNames ++ columns ++ columns.flatMap fun column => ["source", column]

/-- The tokens of an insert that resolves a conflict with its names left out. -/
def upsertSkeleton (table : Table) (columns keys updates : Nat) : List Token :=
  [Token.word "MERGE", .word "INTO"] ++ table.skeleton ++
    [Token.word "WITH", .mark '(', .word "HOLDLOCK", .mark ')', .word "AS", .nameless,
      .word "USING", .mark '(', .word "SELECT"] ++
    [Token.mark ','].intercalate ((List.range columns).map fun index =>
      [.placeholder index, .word "AS", .nameless]) ++
    [Token.mark ')', .word "AS", .nameless, .word "ON"] ++
    [Token.word "AND"].intercalate (List.replicate keys matchedSkeleton) ++
    (if updates = 0 then [] else
      [Token.word "WHEN", .word "MATCHED", .word "THEN", .word "UPDATE", .word "SET"] ++
        [Token.mark ','].intercalate (List.replicate updates matchedSkeleton)) ++
    [Token.word "WHEN", .word "NOT", .word "MATCHED", .word "THEN", .word "INSERT", .mark '('] ++
    [Token.mark ','].intercalate (List.replicate columns [.nameless]) ++
    [Token.mark ')', .word "VALUES", .mark '('] ++
    [Token.mark ','].intercalate (List.replicate columns qualified) ++
    [Token.mark ')', .mark ';']

/-- Items that are all written in the same way are read back, one by one. -/
theorem Spells.All.alike {part : String → SqlPieces} {names : String → List String}
    {skeleton : List Token} (columns : List String)
    (h : ∀ column, Spells false true (part column) (names column) skeleton) :
    Spells.All (columns.map part) (columns.map names) (List.replicate columns.length skeleton) := by
  rw [← List.map_const']
  exact .map fun column _ => h column

/-- The comparison or assignment of a column is read back. -/
theorem spells_matched (column : String) :
    Spells false true (targetEqualsSource column) (matchedNames column) matchedSkeleton := by
  have htarget : Spells false false [.word "[target]."] ["target"] [.nameless, .mark '.'] :=
    .words ["[target]."] (by decide)
  have hsource : Spells false false [.word " = [source]."] ["source"]
      [.operator "=", .nameless, .mark '.'] := .words [" = [source]."] (by decide)
  have hname : Spells false false [.name column] [column] [.nameless] :=
    (Spells.name column).anywhere
  exact (((htarget.append hname).append hsource).append hname).ending

/-- The columns of an insert with the slots of their values. -/
def slotted (names : List String) : List (String × SqlPiece) :=
  names.mapIdx fun index name => (name, .slot index)

/-- A slot has the number of its column. -/
theorem slotted_eq (names : List String) :
    slotted names = names.zipIdx.map fun column => (column.1, .slot column.2) :=
  List.mapIdx_eq_zipIdx_map

/-- What is written for the columns alone does not depend on their slots. -/
theorem map_slotted {α : Type} (names : List String) (image : String → α) :
    (slotted names).map (fun column => image column.1) = names.map image := by
  conv_rhs => rw [← List.zipIdx_map_fst 0 names]
  rw [slotted_eq, List.map_map, List.map_map]
  rfl

/-- The values of an insert that resolves a conflict are read back as parameters for its columns. -/
theorem spells_source (names : List String) :
    Spells.All ((slotted names).map fun column => [column.2, .word " AS ", .name column.1])
      (names.map fun name => [name])
      ((List.range names.length).map fun index => [.placeholder index, .word "AS", .nameless]) := by
  have hall : Spells.All
      (names.zipIdx.map fun column => [.slot column.2, .word " AS ", .name column.1])
      (names.zipIdx.map fun column => [column.1])
      (names.zipIdx.map fun column => [.placeholder column.2, .word "AS", .nameless]) :=
    .map fun column _ => ((Spells.slot column.2).append (.named column.1)).ending
  have hnames : names.zipIdx.map (fun column => [column.1]) = names.map fun name => [name] := by
    conv_rhs => rw [← List.zipIdx_map_fst 0 names, List.map_map]
    rfl
  rw [slotted_eq, List.map_map, ← hnames, List.range_eq_range', ← List.zipIdx_map_snd 0 names,
    List.map_map]
  exact hall

/-- The columns that an insert updates if the row exists. -/
def updatedColumns (names keys : List String) (policy : ConflictPolicy) : List String :=
  if policy = .update then names.filter fun name => name ∉ keys else []

/-- The clause that updates some columns if the row exists, or nothing. -/
def updateClause (updates : List String) : SqlPieces :=
  if updates.isEmpty then []
  else .word " WHEN MATCHED THEN UPDATE SET " :: separated ", " (updates.map targetEqualsSource)

/-- The clause that updates some columns is read back. -/
theorem spells_update_clause (updates : List String) :
    Spells true true (updateClause updates) (updates.flatMap matchedNames)
      (if updates.length = 0 then [] else
        [Token.word "WHEN", .word "MATCHED", .word "THEN", .word "UPDATE", .word "SET"] ++
          [Token.mark ','].intercalate (List.replicate updates.length matchedSkeleton)) := by
  have hword : Spells true false [.word " WHEN MATCHED THEN UPDATE SET "] []
      [.word "WHEN", .word "MATCHED", .word "THEN", .word "UPDATE", .word "SET"] :=
    .words [" WHEN MATCHED THEN UPDATE SET "] (by decide)
  cases updates with
  | nil => exact .nil
  | cons column rest =>
      rw [List.flatMap_def]
      exact hword.append (.separated .comma (.alike (column :: rest) spells_matched))

/-- An insert that resolves a conflict has its columns, its keys and the columns that it updates. -/
theorem upsert_eq_some {table : Table} {names keys : List String} {policy : ConflictPolicy}
    {pieces : SqlPieces} (h : upsert ⟨table, slotted names, keys, policy⟩ = some pieces) :
    pieces = [SqlPiece.word "MERGE INTO ", .table table,
        .word " WITH (HOLDLOCK) AS [target] USING (SELECT "] ++
      separated ", " ((slotted names).map fun column =>
        [column.2, .word " AS ", .name column.1]) ++
      [SqlPiece.word ") AS [source] ON "] ++ separated " AND " (keys.map targetEqualsSource) ++
      updateClause (updatedColumns names keys policy) ++
      [SqlPiece.word " WHEN NOT MATCHED THEN INSERT ("] ++
      separated ", " (names.map fun name => [.name name]) ++ [SqlPiece.word ") VALUES ("] ++
      separated ", " (names.map fun name => [.word "[source].", .name name]) ++
      [SqlPiece.word ");"] := by
  unfold upsert at h
  split at h
  · cases h
  obtain rfl := Option.some.inj h
  have hupdates : ((slotted names).filter fun column => column.1 ∉ keys).map
      (fun column => targetEqualsSource column.1)
      = (names.filter fun name => name ∉ keys).map targetEqualsSource := by
    conv_rhs => rw [← List.zipIdx_map_fst 0 names, List.filter_map, List.map_map]
    rw [slotted_eq, List.filter_map, List.map_map]
    rfl
  have hclause : (if policy = .update ∧ !((names.filter fun name => name ∉ keys).map
        targetEqualsSource).isEmpty then
      .word " WHEN MATCHED THEN UPDATE SET " ::
        separated ", " ((names.filter fun name => name ∉ keys).map targetEqualsSource)
      else []) = updateClause (updatedColumns names keys policy) := by
    by_cases hpolicy : policy = .update
    · simp only [updateClause, updatedColumns, hpolicy, true_and, if_true, List.isEmpty_map]
      cases (names.filter fun name => name ∉ keys).isEmpty <;> rfl
    · simp [updateClause, updatedColumns, hpolicy]
  simp only [hupdates, hclause, map_slotted names fun name => [SqlPiece.name name],
    map_slotted names fun name => [SqlPiece.word "[source].", .name name]]

/-- An insert that resolves a conflict is read back. -/
theorem spells_upsert {table : Table} {names keys : List String} {policy : ConflictPolicy}
    {pieces : SqlPieces} (h : upsert ⟨table, slotted names, keys, policy⟩ = some pieces) :
    Spells false true pieces (upsertNames table names keys (updatedColumns names keys policy))
      (upsertSkeleton table names.length keys.length
        (updatedColumns names keys policy).length) := by
  rw [upsert_eq_some h]
  have hmerge : Spells false false [.word "MERGE INTO "] [] [.word "MERGE", .word "INTO"] :=
    .words ["MERGE INTO "] (by decide)
  have hwith : Spells false false [.word " WITH (HOLDLOCK) AS [target] USING (SELECT "] ["target"]
      [.word "WITH", .mark '(', .word "HOLDLOCK", .mark ')', .word "AS", .nameless,
        .word "USING", .mark '(', .word "SELECT"] :=
    .words [" WITH (HOLDLOCK) AS [target] USING (SELECT "] (by decide)
  have hon : Spells true false [.word ") AS [source] ON "] ["source"]
      [.mark ')', .word "AS", .nameless, .word "ON"] := .words [") AS [source] ON "] (by decide)
  have hinsert : Spells true false [.word " WHEN NOT MATCHED THEN INSERT ("] []
      [.word "WHEN", .word "NOT", .word "MATCHED", .word "THEN", .word "INSERT", .mark '('] :=
    .words [" WHEN NOT MATCHED THEN INSERT ("] (by decide)
  have hvalues : Spells true false [.word ") VALUES ("] []
      [.mark ')', .word "VALUES", .mark '('] := .words [") VALUES ("] (by decide)
  have hend : Spells true false [.word ");"] [] [.mark ')', .mark ';'] := .words [");"] (by decide)
  have hsource : Spells false false [.word "[source]."] ["source"] [.nameless, .mark '.'] :=
    .words ["[source]."] (by decide)
  have hname : ∀ name, Spells false false [.name name] [name] [.nameless] :=
    fun name => (Spells.name name).anywhere
  have hread : ∀ name, Spells false true [.word "[source].", .name name] ["source", name]
      qualified := fun name => (hsource.append (hname name)).ending
  have htable := (hmerge.append (Spells.table table).anywhere).append hwith
  have hcolumns := (htable.append (.separated .comma (spells_source names))).append hon
  have hkeys := hcolumns.append (.separated .conjunct (.alike keys spells_matched))
  have hupdate := hkeys.append (spells_update_clause (updatedColumns names keys policy))
  have hnames := (hupdate.append hinsert).append
    (.separated .comma (.alike names fun name => (hname name).ending))
  have hall := ((hnames.append hvalues).append (.separated .comma (.alike names hread))).append hend
  simpa [upsertNames, upsertSkeleton, ← List.flatMap_def] using hall.ending

end Brackets

namespace WriteStatement

open Brackets (slotted updatedColumns)

variable {entity : Entity} {columns : ColumnMap} {filled : List String} {statement : WriteStatement}

/-! ## Inserts -/

/-- The columns that an insert stores values in. -/
def insertedNames (entity : Entity) (columns : ColumnMap) : List String :=
  (insertedValues entity columns).map Prod.fst

/-- The tokens of the columns and values of an insert with its names left out. -/
def storedSkeleton (columns : Nat) : List Token :=
  if columns = 0 then [.word "DEFAULT", .word "VALUES"]
  else [Token.mark '('] ++ [Token.mark ','].intercalate (List.replicate columns [.nameless]) ++
    [Token.mark ')', .word "VALUES", .mark '('] ++
    [Token.mark ','].intercalate ((List.range columns).map fun index => [.placeholder index]) ++
    [Token.mark ')']

/-- The tokens of an insert that fails on a conflict with its names left out. -/
def plainSkeleton (table : Table) (columns : Nat) (readsIdentity : Bool) : List Token :=
  [Token.word "INSERT", .word "INTO"] ++ table.skeleton ++ storedSkeleton columns ++
    if readsIdentity then
      [Token.mark ';', .word "SELECT", .word "SCOPE_IDENTITY", .mark '(', .mark ')']
    else []

/-- The names of an insert in the order in which its statement has them. -/
def insertNames (entity : Entity) (columns : ColumnMap) : List String :=
  let names := insertedNames entity columns
  if entity.onConflict = .throw then entity.table.writtenNames ++ names
  else Brackets.upsertNames entity.table names columns.primaryKeys
    (updatedColumns names columns.primaryKeys entity.onConflict)

/-- The tokens of an insert with its names left out. -/
def insertSkeleton (entity : Entity) (columns : ColumnMap) (readsIdentity : Bool) : List Token :=
  let names := insertedNames entity columns
  if entity.onConflict = .throw then plainSkeleton entity.table names.length readsIdentity
  else Brackets.upsertSkeleton entity.table names.length columns.primaryKeys.length
    (updatedColumns names columns.primaryKeys entity.onConflict).length

/-- The values of an insert are read back as parameters. -/
theorem spells_values (names : List String) :
    Spells false true (separated ", " (names.mapIdx fun index _ => [.slot index])) []
      ([Token.mark ','].intercalate
        ((List.range names.length).map fun index => [.placeholder index])) := by
  have hslots : names.mapIdx (fun index _ => [SqlPiece.slot index])
      = (List.range names.length).map fun index => [.slot index] := by
    rw [List.mapIdx_eq_zipIdx_map, List.range_eq_range', ← List.zipIdx_map_snd 0 names,
      List.map_map]
    rfl
  rw [hslots]
  simpa [FlatQuery.slots] using FlatQuery.spells_slots 0 names.length

/-- The columns of an insert and their values are read back. -/
theorem spells_stored (names : List String) :
    Spells true true
      (if names.isEmpty then [.word " DEFAULT VALUES"]
        else .word " (" :: separated ", " (names.map fun name => [.name name]) ++
          [SqlPiece.word ") VALUES ("] ++
          separated ", " (names.mapIdx fun index _ => [.slot index]) ++
          [SqlPiece.word ")"]) names (storedSkeleton names.length) := by
  cases names with
  | nil => exact .words [" DEFAULT VALUES"] (by decide)
  | cons name rest =>
      have hopen : Spells true false [.word " ("] [] [.mark '('] := .words [" ("] (by decide)
      have hmiddle : Spells true false [.word ") VALUES ("] []
          [.mark ')', .word "VALUES", .mark '('] := .words [") VALUES ("] (by decide)
      have hnames := hopen.append (.separated .comma
        (.alike (name :: rest) fun name => (Spells.name name).anywhere.ending))
      have hall := ((hnames.append hmiddle).append (spells_values (name :: rest))).append .close
      simpa [storedSkeleton, ← List.flatMap_def] using hall.ending

/-- The insert that fails on a conflict is read back. -/
theorem spells_plain_insert :
    Spells false true (plainInsert .brackets entity columns).pieces
      (entity.table.writtenNames ++ insertedNames entity columns)
      (plainSkeleton entity.table (insertedNames entity columns).length
        (plainInsert .brackets entity columns).readsIdentity) := by
  have hinsert : Spells false false [.word "INSERT INTO "] [] [.word "INSERT", .word "INTO"] :=
    .words ["INSERT INTO "] (by decide)
  have hassigned : Spells true true [.word "; ", .word "SELECT SCOPE_IDENTITY()"] []
      [.mark ';', .word "SELECT", .word "SCOPE_IDENTITY", .mark '(', .mark ')'] :=
    .words ["; ", "SELECT SCOPE_IDENTITY()"] (by decide)
  have hstored := (hinsert.append (Spells.table entity.table).anywhere).append
    (spells_stored (insertedNames entity columns)).anywhere
  have hread := hstored.append hassigned
  rw [← List.append_nil ([Token.word "INSERT", Token.word "INTO"] ++ entity.table.skeleton ++ _)]
    at hstored
  rw [List.append_nil] at hread
  simp only [plainInsert]
  split
  · next key identity _ hidentity =>
    obtain rfl := Option.some.inj hidentity
    split
    · exact hstored
    · exact hread
  · exact hstored

/-- An insert is read back. -/
theorem spells_insert (h : insert .brackets entity columns = .ok statement) :
    Spells false true statement.pieces (insertNames entity columns)
      (insertSkeleton entity columns statement.readsIdentity) := by
  rw [insert] at h
  rw [insertNames, insertSkeleton]
  split at h
  · next hthrow =>
    cases h
    simp only [hthrow, if_true]
    exact spells_plain_insert
  · next hresolve =>
    simp only [hresolve, if_false]
    simp only [upsert] at h
    split at h
    · cases h
    split at h
    · cases h
    split at h
    · cases h
    · next pieces hpieces =>
      cases h
      exact Brackets.spells_upsert hpieces

/-! ## Updates and deletes -/

/-- The tokens of an update with its names left out. -/
def updateSkeleton (table : Table) (changed keys : Nat) : List Token :=
  [Token.word "UPDATE"] ++ table.skeleton ++ [Token.word "SET"] ++
    [Token.mark ','].intercalate (equalsSkeleton 0 changed) ++ [Token.word "WHERE"] ++
    [Token.word "AND"].intercalate (equalsSkeleton changed keys)

/-- An update is read back as its table, the columns that it assigns, and the keys. -/
theorem spells_update (h : update entity columns filled = .ok (some statement)) :
    Spells false true statement.pieces
      (entity.table.writtenNames ++ changedColumns entity columns.primaryKeys filled ++
        columns.primaryKeys)
      (updateSkeleton entity.table (changedColumns entity columns.primaryKeys filled).length
        columns.primaryKeys.length) := by
  rw [update] at h
  split at h
  · cases h
  obtain ⟨keyed, hkeyed, hupdate⟩ := Action.bind_eq_ok_iff.1 h
  cases hupdate
  obtain ⟨hkeys, -, -⟩ := key_values_ok hkeyed
  have hword : Spells false false [.word "UPDATE "] [] [.word "UPDATE"] :=
    .words ["UPDATE "] (by decide)
  have hset : Spells false false [.word " SET "] [] [.word "SET"] := .words [" SET "] (by decide)
  have hwhere : Spells true false [.word " WHERE "] [] [.word "WHERE"] :=
    .words [" WHERE "] (by decide)
  have htable := (hword.append (Spells.table entity.table).anywhere).append hset
  have hassigned := (htable.append (spells_separated_equals .comma 0
    (changedColumns entity columns.primaryKeys filled))).append hwhere
  have hall := hassigned.append (spells_separated_equals .conjunct
    (changedColumns entity columns.primaryKeys filled).length columns.primaryKeys)
  simpa [updateSkeleton, hkeys] using hall

/-- The tokens of a delete with its names left out. -/
def deleteSkeleton (table : Table) (keys : Nat) : List Token :=
  [Token.word "DELETE", .word "FROM"] ++ table.skeleton ++ [Token.word "WHERE"] ++
    [Token.word "AND"].intercalate (equalsSkeleton 0 keys)

/-- A delete is read back as its table and the keys. -/
theorem spells_delete (h : delete entity columns = .ok statement) :
    Spells false true statement.pieces (entity.table.writtenNames ++ columns.primaryKeys)
      (deleteSkeleton entity.table columns.primaryKeys.length) := by
  obtain ⟨keyed, hkeyed, hdelete⟩ := Action.bind_eq_ok_iff.1 h
  cases hdelete
  obtain ⟨hkeys, -, -⟩ := key_values_ok hkeyed
  have hword : Spells false false [.word "DELETE FROM "] [] [.word "DELETE", .word "FROM"] :=
    .words ["DELETE FROM "] (by decide)
  have hwhere : Spells false false [.word " WHERE "] [] [.word "WHERE"] :=
    .words [" WHERE "] (by decide)
  have hall := ((hword.append (Spells.table entity.table).anywhere).append hwhere).append
    (spells_separated_equals .conjunct 0 columns.primaryKeys)
  simpa [deleteSkeleton, hkeys] using hall

end WriteStatement

end Orm
