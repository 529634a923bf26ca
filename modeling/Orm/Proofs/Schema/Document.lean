import Orm.Proofs.Json.Decoding
import Orm.Schema.Document

/-!
# Schemas are read back from their documents

Every description of the schema is faithful. Only a discovered procedure can be nested without
bound; all else in a snapshot needs few levels, so a snapshot fits a file if and only if its
procedures are not nested too deep (`SchemaSnapshot.level_le_iff`).
-/

namespace Orm

open Json (Faithful listLevel mapLevel)

/-! ## Tables, columns and relationships -/

/-- Tables are faithful. -/
theorem Table.faithful : Faithful toJson ofJson? fun _ => 1 where
  plain := fun _ => rfl
  decode_cut := fun table depth => by
    rw [toJson, ofJson?, Json.as_fields_cut (by rfl) (by decide)]
    cases depth with
    | zero => rfl
    | succ depth => simp [Json.faithful_text.decode_cut]

/-- Affinities are faithful. -/
theorem Affinity.faithful : Faithful toJson ofJson? fun _ => 0 where
  plain := fun _ => rfl
  decode_cut := fun affinity depth => by cases affinity <;> rfl

/-- Columns are faithful. -/
theorem Column.faithful : Faithful toJson ofJson? fun _ => 1 where
  plain := fun _ => rfl
  decode_cut := fun column depth => by
    rw [toJson, ofJson?, Json.as_fields_cut (by rfl) (by decide)]
    cases depth with
    | zero => rfl
    | succ depth =>
        simp [Json.faithful_text.decode_cut, Json.faithful_bool.decode_cut,
          Affinity.faithful.decode_cut]

/-- Lists of names are faithful. -/
theorem faithful_names :
    Faithful (Json.ofList .text) (Json.asList? Json.asText?) (listLevel fun _ : String => 0) :=
  Json.faithful_text.list

/-- The levels of nesting that a relationship needs. -/
def Relationship.level (relationship : Relationship) : Nat :=
  1 + max 1 (max (listLevel (fun _ => 0) relationship.primaryKeys)
    (listLevel (fun _ => 0) relationship.foreignKeys))

/-- Relationships are faithful. -/
theorem Relationship.faithful : Faithful toJson ofJson? level where
  plain := fun relationship => by
    simp [toJson, Json.isPlain, Json.membersPlain, Table.faithful.plain, faithful_names.plain]
  decode_cut := fun relationship depth => by
    rw [toJson, ofJson?, Json.as_fields_cut (by rfl) (by decide)]
    cases depth with
    | zero => simp [level]
    | succ depth =>
        have hlevel : level relationship ≤ depth + 1 ↔ 1 ≤ depth ∧
            listLevel (fun _ => 0) relationship.primaryKeys ≤ depth ∧ 1 ≤ depth ∧
              listLevel (fun _ => 0) relationship.foreignKeys ≤ depth := by
          rw [level]
          omega
        simp [Json.faithful_text.decode_cut, Table.faithful.decode_cut, faithful_names.decode_cut,
          Json.bind_if, hlevel, ite_and]

/-- The levels of nesting that the relationships of a table need. -/
def RelationshipSet.level (set : RelationshipSet) : Nat :=
  1 + max (listLevel Relationship.level set.children) (listLevel Relationship.level set.parents)

/-- Relationships of a table are faithful. -/
theorem RelationshipSet.faithful : Faithful toJson ofJson? level where
  plain := fun set => by
    simp [toJson, Json.isPlain, Json.membersPlain, Relationship.faithful.list.plain]
  decode_cut := fun set depth => by
    rw [toJson, ofJson?, Json.as_fields_cut (by rfl) (by decide)]
    cases depth with
    | zero => simp [level]
    | succ depth =>
        have hlevel : level set ≤ depth + 1 ↔
            listLevel Relationship.level set.children ≤ depth ∧
              listLevel Relationship.level set.parents ≤ depth := by
          rw [level]
          omega
        simp [Relationship.faithful.list.decode_cut, Json.bind_if, hlevel, ite_and]

/-! ## Procedures -/

/-- Parameter directions are faithful. -/
theorem ParameterDirection.faithful : Faithful toJson ofJson? fun _ => 0 where
  plain := fun _ => rfl
  decode_cut := fun direction depth => by cases direction <;> rfl

/-- Parameters are faithful. -/
theorem ProcedureParameter.faithful : Faithful toJson ofJson? fun _ => 1 where
  plain := fun param => by
    have hordinal : Json.FitsWord param.ordinal.toNat := by
      have hsmall := param.ordinal.toNat_lt
      constructor
      · exact Int.le_trans (by decide) (Int.natCast_nonneg _)
      · exact Int.ofNat_lt.2 (Nat.lt_trans hsmall (by decide))
    simp [toJson, Json.isPlain, Json.membersPlain, ParameterDirection.faithful.plain, hordinal]
  decode_cut := fun param depth => by
    rw [toJson, ofJson?, Json.as_fields_cut (by rfl) (by decide)]
    cases depth with
    | zero => rfl
    | succ depth =>
        have hsmall : (param.ordinal.toNat : Int) ≤ 4294967295 :=
          Int.le_of_lt_add_one (Int.ofNat_lt.2 param.ordinal.toNat_lt)
        have hordinal := Json.as_int_between_cut (Int.natCast_nonneg _) hsmall depth
        simp [Json.faithful_text.decode_cut, ParameterDirection.faithful.decode_cut, hordinal]

/-- Names of procedures are faithful. -/
theorem ProcedureName.faithful : Faithful toJson ofJson? fun _ => 1 where
  plain := fun _ => rfl
  decode_cut := fun name depth => by
    rw [toJson, ofJson?, Json.as_fields_cut (by rfl) (by decide)]
    cases depth with
    | zero => rfl
    | succ depth => simp [Json.faithful_text.decode_cut]

/-- The levels of nesting that a procedure definition needs. -/
def ProcedureDefinition.level (definition : ProcedureDefinition) : Nat :=
  1 + max 1 (listLevel (fun _ => 1) definition.params)

/-- Procedure definitions are faithful. -/
theorem ProcedureDefinition.faithful : Faithful toJson ofJson? level where
  plain := fun definition => by
    simp [toJson, Json.isPlain, Json.membersPlain, ProcedureName.faithful.plain,
      ProcedureParameter.faithful.list.plain]
  decode_cut := fun definition depth => by
    rw [toJson, ofJson?, Json.as_fields_cut (by rfl) (by decide)]
    cases depth with
    | zero => simp [level]
    | succ depth =>
        have hlevel : level definition ≤ depth + 1 ↔
            1 ≤ depth ∧ listLevel (fun _ => 1) definition.params ≤ depth := by
          rw [level]
          omega
        simp [ProcedureName.faithful.decode_cut, ProcedureParameter.faithful.list.decode_cut,
          Json.bind_if, hlevel, ite_and]

/-- The levels of nesting that a discovered procedure needs: two for every root above it. -/
def ProcedureNode.level : ProcedureNode → Nat
  | .root _ inner => level inner + 2
  | .package _ definitions => listLevel ProcedureDefinition.level definitions + 2
  | .single definition => definition.level + 1
  | .empty => 0

/-- Discovered procedures are faithful. -/
theorem ProcedureNode.faithful : Faithful toJson ofJson? level where
  plain := fun node => by
    induction node with
    | root name inner ih =>
        simp [toJson, Json.isPlain, Json.membersPlain, Json.allPlain, ih]
    | package name definitions =>
        simp [toJson, Json.isPlain, Json.membersPlain, Json.allPlain,
          ProcedureDefinition.faithful.list.plain]
    | single definition =>
        simp [toJson, Json.isPlain, Json.membersPlain, ProcedureDefinition.faithful.plain]
    | empty => rfl
  decode_cut := fun node depth => by
    induction node generalizing depth with
    | root name inner ih =>
        rcases depth with _ | _ | depth
        · simp [toJson, Json.cut, Json.kept, ofJson?, level]
        · simp [toJson, Json.cut, Json.cutMembers, Json.kept, ofJson?, level]
        · simp [toJson, Json.cut, Json.cutMembers, Json.cutItems, Json.kept, ofJson?, level, ih]
    | package name definitions =>
        rcases depth with _ | _ | depth
        · simp [toJson, Json.cut, Json.kept, ofJson?, level]
        · simp [toJson, Json.cut, Json.cutMembers, Json.kept, ofJson?, level]
        · simp [toJson, Json.cut, Json.cutMembers, Json.cutItems, Json.kept, ofJson?, level,
            ProcedureDefinition.faithful.list.decode_cut]
    | single definition =>
        cases depth with
        | zero => simp [toJson, Json.cut, Json.kept, ofJson?, level]
        | succ depth =>
            simp [toJson, Json.cut, Json.cutMembers, Json.kept, ofJson?, level,
              ProcedureDefinition.faithful.decode_cut]
    | empty => rfl

/-! ## Snapshots -/

/-- A relationship needs few levels. -/
theorem Relationship.level_le (relationship : Relationship) : relationship.level ≤ 2 := by
  have hkeys : ∀ keys : List String, listLevel (fun _ => 0) keys ≤ 1 :=
    Json.list_level_le fun _ => Nat.le_refl 0
  have hprimary := hkeys relationship.primaryKeys
  have hforeign := hkeys relationship.foreignKeys
  rw [level]
  omega

/-- The relationships of a table need few levels. -/
theorem RelationshipSet.level_le (set : RelationshipSet) : set.level ≤ 4 := by
  have hchildren := Json.list_level_le Relationship.level_le set.children
  have hparents := Json.list_level_le Relationship.level_le set.parents
  rw [level]
  omega

/-- A procedure definition needs few levels. -/
theorem ProcedureDefinition.level_le (definition : ProcedureDefinition) :
    definition.level ≤ 3 := by
  have hparams : listLevel (fun _ => 1) definition.params ≤ 2 :=
    Json.list_level_le (fun _ => Nat.le_refl 1) definition.params
  rw [level]
  omega

namespace SchemaSnapshot

/-- The procedures of a snapshot are not nested deeper than they can be read back. -/
def FitsFile (snapshot : SchemaSnapshot) : Prop := ∀ node ∈ snapshot.procedures, node.level ≤ 125

instance (snapshot : SchemaSnapshot) : Decidable snapshot.FitsFile :=
  inferInstanceAs (Decidable (∀ node ∈ snapshot.procedures, node.level ≤ 125))

/-- The levels of nesting that a snapshot needs. -/
def level (snapshot : SchemaSnapshot) : Nat :=
  1 + Json.greatest [mapLevel (fun _ => 0) snapshot.primaryKeys,
    mapLevel (fun _ => 1) snapshot.tables, mapLevel (mapLevel fun _ => 1) snapshot.columns,
    mapLevel RelationshipSet.level snapshot.relationships,
    listLevel ProcedureNode.level snapshot.procedures,
    mapLevel (listLevel fun _ => 1) snapshot.procedureParams,
    mapLevel (listLevel ProcedureDefinition.level) snapshot.packages,
    listLevel (fun _ => 0) snapshot.individuals]

/-- A snapshot needs one level more than each of its parts. -/
theorem level_le_succ_iff {snapshot : SchemaSnapshot} {depth : Nat} :
    snapshot.level ≤ depth + 1 ↔
      mapLevel (fun _ => 0) snapshot.primaryKeys ≤ depth ∧
      mapLevel (fun _ => 1) snapshot.tables ≤ depth ∧
      mapLevel (mapLevel fun _ => 1) snapshot.columns ≤ depth ∧
      mapLevel RelationshipSet.level snapshot.relationships ≤ depth ∧
      listLevel ProcedureNode.level snapshot.procedures ≤ depth ∧
      mapLevel (listLevel fun _ => 1) snapshot.procedureParams ≤ depth ∧
      mapLevel (listLevel ProcedureDefinition.level) snapshot.packages ≤ depth ∧
      listLevel (fun _ => 0) snapshot.individuals ≤ depth := by
  rw [level, Nat.add_comm, Nat.add_le_add_iff_right, Json.greatest_le_iff]
  simp

/-- Snapshots are faithful. -/
theorem faithful : Faithful toJson ofJson? level where
  plain := fun snapshot => by
    simp [toJson, Json.isPlain, Json.membersPlain, Json.faithful_text.map.plain,
      Table.faithful.map.plain, Column.faithful.map.map.plain, RelationshipSet.faithful.map.plain,
      ProcedureNode.faithful.list.plain, ProcedureParameter.faithful.list.map.plain,
      ProcedureDefinition.faithful.list.map.plain, faithful_names.plain]
  decode_cut := fun snapshot depth => by
    rw [toJson, ofJson?, Json.as_fields_cut (by rfl) (by decide)]
    cases depth with
    | zero => simp [level]
    | succ depth =>
        simp [Json.optionalField?, Json.faithful_text.map.decode_cut,
          Table.faithful.map.decode_cut, Column.faithful.map.map.decode_cut,
          RelationshipSet.faithful.map.decode_cut, ProcedureNode.faithful.list.decode_cut,
          ProcedureParameter.faithful.list.map.decode_cut,
          ProcedureDefinition.faithful.list.map.decode_cut, faithful_names.decode_cut,
          Json.faithful_bool.decode_cut, Json.bind_if, level_le_succ_iff, ite_and]

/-- A snapshot needs no more levels than a file can have if and only if it fits one. -/
theorem level_le_iff (snapshot : SchemaSnapshot) :
    snapshot.level ≤ 127 ↔ snapshot.FitsFile := by
  have hprimaryKeys := Json.map_level_le (fun _ => Nat.le_refl 0) snapshot.primaryKeys
  have htables := Json.map_level_le (fun _ => Nat.le_refl 1) snapshot.tables
  have hcolumns := Json.map_level_le (Json.map_level_le fun _ => Nat.le_refl 1) snapshot.columns
  have hrelationships := Json.map_level_le RelationshipSet.level_le snapshot.relationships
  have hparams :=
    Json.map_level_le (Json.list_level_le fun _ => Nat.le_refl 1) snapshot.procedureParams
  have hpackages :=
    Json.map_level_le (Json.list_level_le ProcedureDefinition.level_le) snapshot.packages
  have hindividuals := Json.list_level_le (fun _ => Nat.le_refl 0) snapshot.individuals
  have hprocedures : listLevel ProcedureNode.level snapshot.procedures ≤ 126 ↔
      snapshot.FitsFile := Json.list_level_le_iff
  rw [← hprocedures, level_le_succ_iff]
  omega

end SchemaSnapshot

end Orm
