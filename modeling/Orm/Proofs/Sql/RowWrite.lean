import Orm.Proofs.Data.NameMap
import Orm.Sql.Lookup

/-!
# What a statement does with rows

`RowWrite.read` reads the pieces of a statement as a write of rows, where the slot with number `n`
stands for the `n`-th of some values. It splits lists at their separators and clauses at the words
between them, and rejects whatever else stands there, so a statement has one meaning at most. The
lemmas say how it reads the lists that statements are put together from.
-/

namespace Orm

/-- What a statement does with the rows of a table: it adds a row, it assigns values in the rows
with given keys, it removes these, or it assigns values in them and adds a row if there are none. -/
inductive RowWrite
  | insert (table : Table) (stored : List (String × Value))
  | update (table : Table) (assigned keyed : List (String × Value))
  | delete (table : Table) (keyed : List (String × Value))
  | merge (table : Table) (keyed assigned stored : List (String × Value))
deriving DecidableEq

namespace RowWrite

/-! ## The reader -/

/-- The pieces before the first occurrence of a word, and those behind it. -/
def cutAt (word : String) : SqlPieces → Option (SqlPieces × SqlPieces)
  | [] => none
  | piece :: rest =>
      if piece = .word word then some ([], rest)
      else (cutAt word rest).map fun (front, back) => (piece :: front, back)

/-- The items of a list with a word between them. -/
def readList {α : Type} (word : String) (item : SqlPieces → Option α) (pieces : SqlPieces) :
    Option (List α) :=
  (pieces.splitOn (.word word)).mapM item

/-- A name. -/
def readName : SqlPieces → Option String
  | [.name column] => some column
  | _ => none

/-- The value of a slot. -/
def readValue (values : List Value) : SqlPieces → Option Value
  | [.slot index] => values[index]?
  | _ => none

/-- A column that equals a value, or is assigned it. -/
def readEquation (values : List Value) : SqlPieces → Option (String × Value)
  | .name column :: .word " = " :: operand => (readValue values operand).map (Prod.mk column)
  | _ => none

/-- A value under the name of a column. -/
def readNamed (values : List Value) : SqlPieces → Option (String × Value)
  | [operand, .word " AS ", .name column] =>
      (readValue values [operand]).map (Prod.mk column)
  | _ => none

/-- The value of a column of the source row. -/
def readSource (source : List (String × Value)) : SqlPieces → Option Value
  | [.word "[source].", .name column] => NameMap.lookup column source
  | _ => none

/-- A column of the target row that equals one of the source row, or is assigned it. -/
def readTarget (source : List (String × Value)) : SqlPieces → Option (String × Value)
  | [.word "[target].", .name column, .word " = [source].", .name other] =>
      (NameMap.lookup other source).map (Prod.mk column)
  | _ => none

/-- A row from as many columns as values. -/
def row? (columns : List String) (values : List Value) : Option (List (String × Value)) :=
  if columns.length = values.length then some (columns.zip values) else none

/-- Nothing follows an insert, or a query for the key that was assigned. -/
def endsInsert : SqlPieces → Bool
  | [] | [.word "; ", .word _] => true
  | _ => false

/-- An insert behind the name of its table. -/
def readInsert (values : List Value) (table : Table) : SqlPieces → Option RowWrite
  | .word " DEFAULT VALUES" :: ending => if endsInsert ending then some (.insert table []) else none
  | .word " (" :: body => do
      let (names, rest) ← cutAt ") VALUES (" body
      let (cells, ending) ← cutAt ")" rest
      let stored ← row? (← readList ", " readName names) (← readList ", " (readValue values) cells)
      if endsInsert ending then some (.insert table stored) else none
  | _ => none

/-- The assignments and conditions of an update. -/
def readUpdate (values : List Value) (table : Table) (body : SqlPieces) : Option RowWrite := do
  let (assignments, conditions) ← cutAt " WHERE " body
  let assigned ← readList ", " (readEquation values) assignments
  let keyed ← readList " AND " (readEquation values) conditions
  return .update table assigned keyed

/-- The conditions and assignments for the row that exists, the latter being optional. -/
def readMatched (source : List (String × Value)) (body : SqlPieces) :
    Option (List (String × Value) × List (String × Value)) :=
  match cutAt " WHEN MATCHED THEN UPDATE SET " body with
  | none => (readList " AND " (readTarget source) body).map fun keyed => (keyed, [])
  | some (conditions, assignments) => do
      let keyed ← readList " AND " (readTarget source) conditions
      let assigned ← readList ", " (readTarget source) assignments
      return (keyed, assigned)

/-- A merge behind the start of its source row. -/
def readMerge (values : List Value) (table : Table) (body : SqlPieces) : Option RowWrite := do
  let (cells, body) ← cutAt ") AS [source] ON " body
  let source ← readList ", " (readNamed values) cells
  let (matched, body) ← cutAt " WHEN NOT MATCHED THEN INSERT (" body
  let (keyed, assigned) ← readMatched source matched
  let (names, body) ← cutAt ") VALUES (" body
  let (cells, ending) ← cutAt ");" body
  let stored ← row? (← readList ", " readName names) (← readList ", " (readSource source) cells)
  if ending = [] then some (.merge table keyed assigned stored) else none

/-- The write of rows that a statement is, if the slot with number `n` stands for the `n`-th of some
values. -/
def read (values : List Value) : SqlPieces → Option RowWrite
  | .word "INSERT INTO " :: .table table :: body => readInsert values table body
  | .word "UPDATE " :: .table table :: .word " SET " :: body => readUpdate values table body
  | .word "DELETE FROM " :: .table table :: .word " WHERE " :: conditions =>
      (readList " AND " (readEquation values) conditions).map (.delete table)
  | .word "MERGE INTO " :: .table table ::
      .word " WITH (HOLDLOCK) AS [target] USING (SELECT " :: body => readMerge values table body
  | _ => none

/-! ## Clauses -/

/-- A clause ends at the word behind it, if it does not contain it. -/
theorem cut_at_append {word : String} {front : SqlPieces} (hfront : SqlPiece.word word ∉ front)
    (back : SqlPieces) : cutAt word (front ++ .word word :: back) = some (front, back) := by
  induction front with
  | nil => simp [cutAt]
  | cons piece rest ih =>
      obtain ⟨hpiece, hrest⟩ := not_or.1 (mt List.mem_cons.2 hfront)
      rw [List.cons_append, cutAt, if_neg (Ne.symm hpiece), ih hrest]
      rfl

/-- What does not contain a word is not cut at it. -/
theorem cut_at_eq_none {word : String} {pieces : SqlPieces} (h : SqlPiece.word word ∉ pieces) :
    cutAt word pieces = none := by
  induction pieces with
  | nil => rfl
  | cons piece rest ih =>
      obtain ⟨hpiece, hrest⟩ := not_or.1 (mt List.mem_cons.2 h)
      rw [cutAt, if_neg (Ne.symm hpiece), ih hrest]
      rfl

/-! ## Lists -/

/-- The words of a list are its separators and those of its items. -/
theorem word_not_mem_separated {word other : String} {parts : List SqlPieces}
    (hother : other ≠ word) (hparts : ∀ part ∈ parts, SqlPiece.word other ∉ part) :
    SqlPiece.word other ∉ separated word parts := by
  unfold separated
  induction parts with
  | nil => simp
  | cons first rest ih =>
      have hrest := ih fun part hpart => hparts part (List.mem_cons_of_mem _ hpart)
      cases rest with
      | nil => simpa using hparts first List.mem_cons_self
      | cons second others =>
          rw [List.intercalate_cons_cons]
          simpa [hother] using ⟨hparts first List.mem_cons_self, hrest⟩

/-- All items of a list are read if each one is. -/
theorem map_m_eq_some {α β : Type} {item : β → Option α} {parts : List β} {results : List α}
    (h : parts.map item = results.map some) : parts.mapM item = some results := by
  induction parts generalizing results with
  | nil =>
      obtain rfl : results = [] := by simpa using h.symm
      rfl
  | cons part rest ih =>
      cases results with
      | nil => cases h
      | cons result others =>
          obtain ⟨hpart, hrest⟩ := List.cons.inj h
          rw [List.mapM_cons, hpart, ih hrest]
          rfl

/-- A list is read by its items, if none of them contains the separator. -/
theorem read_list_separated {α : Type} {word : String} {item : SqlPieces → Option α}
    {parts : List SqlPieces} {results : List α} (hsome : results ≠ [])
    (hword : ∀ part ∈ parts, SqlPiece.word word ∉ part)
    (hitems : parts.map item = results.map some) :
    readList word item (separated word parts) = some results := by
  have hparts : parts ≠ [] := by
    rintro rfl
    exact hsome (by simpa using hitems.symm)
  rw [readList, separated, List.splitOn_intercalate _ hword hparts]
  exact map_m_eq_some hitems

/-- Names are read back. -/
theorem read_names (columns : List String) (hsome : columns ≠ []) :
    readList ", " readName (separated ", " (columns.map fun column => [.name column]))
      = some columns :=
  read_list_separated hsome (by simp) (by simp [readName])

/-- Slots that are numbered from zero are read as the values. -/
theorem read_slots (names : List String) (values : List Value) (hsome : values ≠ [])
    (hlength : names.length = values.length) :
    readList ", " (readValue values) (separated ", " (names.mapIdx fun index _ => [.slot index]))
      = some values := by
  refine read_list_separated hsome (by simp [List.mem_mapIdx]) ?_
  refine List.ext_getElem (by simpa using hlength) fun index hleft hright => ?_
  simp at hright
  simp [readValue, hright]

/-- Columns that equal the slots behind the first values are read with the values there. -/
theorem map_read_equation (assigned : List (String × Value)) (before after : List Value) :
    (equalsSlots before.length (assigned.map Prod.fst)).map
        (readEquation (before ++ assigned.map Prod.snd ++ after)) = assigned.map some := by
  induction assigned generalizing before with
  | nil => rfl
  | cons entry rest ih =>
      obtain ⟨column, value⟩ := entry
      have hrest := ih (before ++ [value])
      rw [List.length_append, List.length_singleton, List.append_assoc before,
        List.singleton_append] at hrest
      simp only [List.map_cons, equalsSlots, hrest]
      simp [readEquation, readValue]

/-- The items of a list of equations contain no word but the sign. -/
theorem word_not_mem_equals_slots {word : String} (hword : word ≠ " = ") {first : Nat}
    {columns : List String} : ∀ part ∈ equalsSlots first columns, SqlPiece.word word ∉ part := by
  induction columns generalizing first with
  | nil => simp [equalsSlots]
  | cons column rest ih =>
      rw [equalsSlots, List.forall_mem_cons]
      exact ⟨by simp [hword], ih⟩

/-- Equations of columns and slots are read as the columns with the values of the slots. -/
theorem read_equations (word : String) (hword : word ≠ " = ") {assigned : List (String × Value)}
    (hsome : assigned ≠ []) (before after : List Value) :
    readList word (readEquation (before ++ assigned.map Prod.snd ++ after))
        (separated word (equalsSlots before.length (assigned.map Prod.fst)))
      = some assigned :=
  read_list_separated hsome (word_not_mem_equals_slots hword)
    (map_read_equation assigned before after)

/-- The row of some columns and their values. -/
theorem row_eq_some (stored : List (String × Value)) :
    row? (stored.map Prod.fst) (stored.map Prod.snd) = some stored := by
  rw [row?, if_pos (by simp), List.zip_map']
  simp

/-- The only words of a list of names are its separators. -/
theorem word_not_mem_names {word : String} (hword : word ≠ ", ") (names : List String) :
    SqlPiece.word word ∉ separated ", " (names.map fun name => [.name name]) :=
  word_not_mem_separated hword (by simp)

/-- So are those of a list of slots. -/
theorem word_not_mem_slots {word : String} (hword : word ≠ ", ") (names : List String) :
    SqlPiece.word word ∉ separated ", " (names.mapIdx fun index _ => [.slot index]) :=
  word_not_mem_separated hword (by simp [List.mem_mapIdx])

/-- An insert of some columns with their slots is read as the row of the columns with the values. -/
theorem read_insert_row (table : Table) {stored : List (String × Value)} (hsome : stored ≠ [])
    {ending : SqlPieces} (hending : endsInsert ending = true) :
    readInsert (stored.map Prod.snd) table (.word " (" ::
        (separated ", " ((stored.map Prod.fst).map fun name => [.name name]) ++
          SqlPiece.word ") VALUES (" ::
          (separated ", " ((stored.map Prod.fst).mapIdx fun index _ => [.slot index]) ++
            SqlPiece.word ")" :: ending)))
      = some (.insert table stored) := by
  have hfirst : SqlPiece.word ") VALUES (" ∉ separated ", " _ :=
    word_not_mem_names (by decide) (stored.map Prod.fst)
  have hsecond : SqlPiece.word ")" ∉ separated ", " _ :=
    word_not_mem_slots (by decide) (stored.map Prod.fst)
  have hnames := read_names (stored.map Prod.fst) (by simpa using hsome)
  have hslots := read_slots (stored.map Prod.fst) (stored.map Prod.snd) (by simpa using hsome)
    (by simp)
  simp only [readInsert, cut_at_append hfirst, cut_at_append hsecond, Option.bind_eq_bind,
    Option.bind_some, hnames, hslots, row_eq_some, hending, if_true]

/-! ## Source rows -/

/-- Slots under the names of columns are read as the columns with the values. -/
theorem read_named_slots {stored : List (String × Value)} (hsome : stored ≠ []) :
    readList ", " (readNamed (stored.map Prod.snd))
        (separated ", " ((stored.map Prod.fst).mapIdx fun index name =>
          [.slot index, .word " AS ", .name name]))
      = some stored := by
  refine read_list_separated hsome (fun part hpart => ?_) ?_
  · obtain ⟨index, _, rfl⟩ := List.mem_mapIdx.1 hpart
    simp
  refine List.ext_getElem (by simp) fun index _ hindex => ?_
  rw [List.length_map] at hindex
  simp [readNamed, readValue, hindex]

variable {stored entries : List (String × Value)}

/-- Columns of the source row are read as its values. -/
theorem read_source_columns (hnodup : (stored.map Prod.fst).Nodup) (hsome : stored ≠ []) :
    readList ", " (readSource stored)
        (separated ", " ((stored.map Prod.fst).map fun name => [.word "[source].", .name name]))
      = some (stored.map Prod.snd) := by
  refine read_list_separated (by simpa using hsome) (fun part hpart => ?_) ?_
  · obtain ⟨name, _, rfl⟩ := List.mem_map.1 hpart
    simp
  rw [List.map_map, List.map_map, List.map_map]
  exact List.map_congr_left fun entry hentry => NameMap.lookup_of_mem hnodup hentry

/-- The items of a list of columns of the target row contain its two words only. -/
theorem word_not_mem_target_equals_source {word : String} (htarget : word ≠ "[target].")
    (hsource : word ≠ " = [source].") {columns : List String} :
    ∀ part ∈ columns.map Brackets.targetEqualsSource, SqlPiece.word word ∉ part := by
  simp [Brackets.targetEqualsSource, htarget, hsource]

/-- Columns of the target row that are set to those of the source row are read with the values of
the latter. -/
theorem read_targets (word : String) (htarget : word ≠ "[target].")
    (hsource : word ≠ " = [source].") (hnodup : (stored.map Prod.fst).Nodup) (hsome : entries ≠ [])
    (hentries : ∀ entry ∈ entries, entry ∈ stored) :
    readList word (readTarget stored)
        (separated word ((entries.map Prod.fst).map Brackets.targetEqualsSource))
      = some entries := by
  refine read_list_separated hsome (word_not_mem_target_equals_source htarget hsource) ?_
  rw [List.map_map, List.map_map]
  refine List.map_congr_left fun entry hentry => ?_
  have hlookup := NameMap.lookup_of_mem hnodup (hentries entry hentry)
  simp [readTarget, Brackets.targetEqualsSource, hlookup]

/-! ## Whole statements -/

/-- An update is read with the values of its slots, those of the conditions behind those of the
assignments. -/
theorem read_update (table : Table) {assigned keyed : List (String × Value)}
    (hassigned : assigned ≠ []) (hkeyed : keyed ≠ []) :
    read (assigned.map Prod.snd ++ keyed.map Prod.snd)
        ([SqlPiece.word "UPDATE ", .table table, .word " SET "] ++
          separated ", " (equalsSlots 0 (assigned.map Prod.fst)) ++ [SqlPiece.word " WHERE "] ++
          separated " AND " (equalsSlots assigned.length (keyed.map Prod.fst)))
      = some (.update table assigned keyed) := by
  have hcut : SqlPiece.word " WHERE " ∉ separated ", " (equalsSlots 0 (assigned.map Prod.fst)) :=
    word_not_mem_separated (by decide) (word_not_mem_equals_slots (by decide))
  have hleft := read_equations ", " (by decide) hassigned [] (keyed.map Prod.snd)
  have hright := read_equations " AND " (by decide) hkeyed (assigned.map Prod.snd) []
  rw [List.nil_append, List.length_nil] at hleft
  rw [List.append_nil, List.length_map] at hright
  simp only [List.cons_append, List.nil_append, List.append_assoc, read, readUpdate,
    cut_at_append hcut, Option.bind_eq_bind, Option.bind_some, hleft, hright, Option.pure_def]

/-- A delete is read with the values of its slots. -/
theorem read_delete (table : Table) {keyed : List (String × Value)} (hkeyed : keyed ≠ []) :
    read (keyed.map Prod.snd) ([SqlPiece.word "DELETE FROM ", .table table, .word " WHERE "] ++
        separated " AND " (equalsSlots 0 (keyed.map Prod.fst)))
      = some (.delete table keyed) := by
  have hkeys := read_equations " AND " (by decide) hkeyed [] []
  rw [List.nil_append, List.append_nil, List.length_nil] at hkeys
  simp only [List.cons_append, List.nil_append, read, hkeys, Option.map_some]

/-- The conditions of a merge for some keys, and its assignments of other columns if there are
any. -/
def matchedClause (keys updates : List String) : SqlPieces :=
  separated " AND " (keys.map Brackets.targetEqualsSource) ++
    if updates = [] then []
    else SqlPiece.word " WHEN MATCHED THEN UPDATE SET " ::
      separated ", " (updates.map Brackets.targetEqualsSource)

/-- What follows the conditions and assignments of a merge is no part of them. -/
theorem word_not_mem_matched_clause (keys updates : List String) :
    SqlPiece.word " WHEN NOT MATCHED THEN INSERT (" ∉ matchedClause keys updates := by
  have hkeys : SqlPiece.word " WHEN NOT MATCHED THEN INSERT (" ∉
      separated " AND " (keys.map Brackets.targetEqualsSource) :=
    word_not_mem_separated (by decide)
      (word_not_mem_target_equals_source (by decide) (by decide))
  have hupdates : SqlPiece.word " WHEN NOT MATCHED THEN INSERT (" ∉
      separated ", " (updates.map Brackets.targetEqualsSource) :=
    word_not_mem_separated (by decide)
      (word_not_mem_target_equals_source (by decide) (by decide))
  rw [matchedClause, List.mem_append, not_or]
  exact ⟨hkeys, by split <;> simp [hupdates]⟩

/-- The conditions and assignments of a merge are read with the values of its source row. -/
theorem read_matched_clause {stored keyed assigned : List (String × Value)}
    (hnodup : (stored.map Prod.fst).Nodup) (hkeyed : keyed ≠ [])
    (hkeys : ∀ entry ∈ keyed, entry ∈ stored) (hassigned : ∀ entry ∈ assigned, entry ∈ stored) :
    readMatched stored (matchedClause (keyed.map Prod.fst) (assigned.map Prod.fst))
      = some (keyed, assigned) := by
  have hcut : SqlPiece.word " WHEN MATCHED THEN UPDATE SET " ∉
      separated " AND " ((keyed.map Prod.fst).map Brackets.targetEqualsSource) :=
    word_not_mem_separated (by decide)
      (word_not_mem_target_equals_source (by decide) (by decide))
  have hleft := read_targets " AND " (by decide) (by decide) hnodup hkeyed hkeys
  by_cases hnone : assigned = []
  · subst hnone
    rw [List.map_nil, matchedClause, if_pos rfl, List.append_nil, readMatched,
      cut_at_eq_none hcut]
    simp only [hleft, Option.map_some]
  · have hright := read_targets ", " (by decide) (by decide) hnodup hnone hassigned
    rw [matchedClause, if_neg (by simpa using hnone), readMatched, cut_at_append hcut]
    simp only [Option.bind_eq_bind, Option.bind_some, hleft, hright, Option.pure_def]

/-- A merge of a source row is read with the values of that row, all of which it inserts if no row
has the keys. -/
theorem read_merge (table : Table) {stored keyed assigned : List (String × Value)}
    (hnodup : (stored.map Prod.fst).Nodup) (hkeyed : keyed ≠ [])
    (hkeys : ∀ entry ∈ keyed, entry ∈ stored) (hassigned : ∀ entry ∈ assigned, entry ∈ stored) :
    read (stored.map Prod.snd)
        ([SqlPiece.word "MERGE INTO ", .table table,
            .word " WITH (HOLDLOCK) AS [target] USING (SELECT "] ++
          separated ", " ((stored.map Prod.fst).mapIdx fun index name =>
            [.slot index, .word " AS ", .name name]) ++
          [SqlPiece.word ") AS [source] ON "] ++
          matchedClause (keyed.map Prod.fst) (assigned.map Prod.fst) ++
          [SqlPiece.word " WHEN NOT MATCHED THEN INSERT ("] ++
          separated ", " ((stored.map Prod.fst).map fun name => [.name name]) ++
          [SqlPiece.word ") VALUES ("] ++
          separated ", " ((stored.map Prod.fst).map fun name => [.word "[source].", .name name]) ++
          [SqlPiece.word ");"])
      = some (.merge table keyed assigned stored) := by
  have hsome : stored ≠ [] := by
    obtain ⟨entry, hentry⟩ := List.exists_mem_of_ne_nil keyed hkeyed
    exact List.ne_nil_of_mem (hkeys entry hentry)
  -- Each clause ends at the first occurrence of the word behind it.
  have hcells : SqlPiece.word ") AS [source] ON " ∉ separated ", " ((stored.map Prod.fst).mapIdx
      fun index name => [.slot index, .word " AS ", .name name]) :=
    word_not_mem_separated (by decide) fun part hpart => by
      obtain ⟨index, _, rfl⟩ := List.mem_mapIdx.1 hpart
      simp
  have hmatched := word_not_mem_matched_clause (keyed.map Prod.fst) (assigned.map Prod.fst)
  have hnames : SqlPiece.word ") VALUES (" ∉ separated ", " _ :=
    word_not_mem_names (by decide) (stored.map Prod.fst)
  have hsources : SqlPiece.word ");" ∉
      separated ", " ((stored.map Prod.fst).map fun name => [.word "[source].", .name name]) :=
    word_not_mem_separated (by decide) fun part hpart => by
      obtain ⟨name, _, rfl⟩ := List.mem_map.1 hpart
      simp
  have hcolumns := read_names (stored.map Prod.fst) (by simpa using hsome)
  simp only [List.append_assoc, List.cons_append, List.nil_append, read, readMerge,
    cut_at_append hcells, cut_at_append hmatched, cut_at_append hnames, cut_at_append hsources,
    Option.bind_eq_bind, Option.bind_some, read_named_slots hsome,
    read_matched_clause hnodup hkeyed hkeys hassigned, hcolumns,
    read_source_columns hnodup hsome, row_eq_some, if_true]

end RowWrite

end Orm
