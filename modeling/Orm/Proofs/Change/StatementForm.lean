import Orm.Proofs.Change.WriteStatement
import Orm.Proofs.Sql.Pieces

/-!
# Statements that write an entity, without its values

`statement_for_form` says that the text of such a statement and the names of its parameters depend
on the values of the entity only through which of them are present.
-/

namespace Orm

namespace WriteStatement

variable {entity : Entity} {values : NameMap Value} {columns : ColumnMap} {dialect : Dialect}

/-- The text of a statement and the names of its parameters. -/
def form (dialect : Dialect) (statement : WriteStatement) : String × List String :=
  (statement.command dialect).form

/-- The form of a statement depends on its pieces and the number of its values. -/
theorem form_eq (statement : WriteStatement) : statement.form dialect
    = (dialect.text statement.pieces,
      (List.range statement.values.length).map dialect.parameter) :=
  congrArg (Prod.mk (dialect.text statement.pieces)) (names_params dialect statement.values)

section Presence

variable (hpresent : ∀ column, ({ entity with values := values } : Entity).hasValue column
  = entity.hasValue column)

include hpresent

/-- An insert names the columns that are present. -/
theorem inserted_names_eq :
    (insertedValues { entity with values := values } columns).map Prod.fst
      = (insertedValues entity columns).map Prod.fst := by
  have hmem : ∀ (entity : Entity) (column : String),
      column ∈ (insertedValues entity columns).map Prod.fst ↔ entity.hasValue column = true ∧
        (columns.isEmpty = true ∨ columns.contains column = true) := by
    intro entity column
    simp only [List.mem_map, Prod.exists, mem_inserted_values, exists_eq_right,
      Entity.hasValue, Option.isSome_iff_exists, exists_and_right]
  have hascending : ∀ entity : Entity,
      ((insertedValues entity columns).map Prod.fst).Pairwise (· < ·) := by
    intro entity
    exact List.pairwise_map.2 (entity.values.ascending.filter _)
  refine (hascending _).eq_of_mem_iff (hascending entity) fun column => ?_
  rw [hmem, hmem, hpresent]

/-- An insert gives as many values. -/
theorem length_inserted_values_eq :
    (insertedValues { entity with values := values } columns).length
      = (insertedValues entity columns).length := by
  have hnames := congrArg List.length (@inserted_names_eq entity values columns hpresent)
  rwa [List.length_map, List.length_map] at hnames

/-- A plain insert has the same form. -/
theorem plain_insert_form :
    (plainInsert dialect { entity with values := values } columns).form dialect
      = (plainInsert dialect entity columns).form dialect := by
  simp only [plainInsert, inserted_names_eq hpresent]
  split
  · split <;> simp only [form_eq, List.length_map, length_inserted_values_eq hpresent]
  · simp only [form_eq, List.length_map, length_inserted_values_eq hpresent]

/-- An insert that resolves a conflict has the same form. -/
theorem upsert_form :
    (upsert dialect { entity with values := values } columns).map (form dialect)
      = (upsert dialect entity columns).map (form dialect) := by
  simp only [upsert, inserted_names_eq hpresent]
  split
  · rfl
  split
  · rfl
  split
  · rfl
  · simp only [Except.map, form_eq, List.length_map, length_inserted_values_eq hpresent]

/-- The keys of an entity are given, or the same key is missing. -/
theorem key_values_cases (keys : List String) (operation : WriteOperation) :
    (∃ error, keyValues { entity with values := values } keys operation = .error error ∧
      keyValues entity keys operation = .error error) ∨
    ∃ left right, keyValues { entity with values := values } keys operation = .ok left ∧
      keyValues entity keys operation = .ok right ∧
      left.map Prod.fst = right.map Prod.fst ∧ left.length = right.length := by
  have hsame : ({ entity with values := values } : Entity).hasValue = entity.hasValue :=
    funext hpresent
  unfold keyValues
  rw [hsame]
  split
  · exact .inl ⟨_, rfl, rfl⟩
  · exact .inr ⟨_, _, rfl, rfl, by simp [Function.comp_def], by simp⟩

/-- A delete has the same form. -/
theorem delete_form :
    (delete { entity with values := values } columns).map (form dialect)
      = (delete entity columns).map (form dialect) := by
  unfold delete
  rcases key_values_cases hpresent columns.primaryKeys .delete with
    ⟨error, hleft, hright⟩ | ⟨left, right, hleft, hright, hkeys, hlength⟩
  · rw [hleft, hright]
  · rw [hleft, hright]
    simp only [bind, Except.bind, pure, Except.pure, Except.map, form_eq, hkeys, List.length_map,
      hlength]

/-- An update has the same form. -/
theorem update_form (filled : List String) :
    (update { entity with values := values } columns filled).map (Option.map (form dialect))
      = (update entity columns filled).map (Option.map (form dialect)) := by
  have hchanged : changedColumns { entity with values := values } columns.primaryKeys filled
      = changedColumns entity columns.primaryKeys filled := rfl
  simp only [update, hchanged]
  split
  · rfl
  rcases key_values_cases hpresent columns.primaryKeys .update with
    ⟨error, hleft, hright⟩ | ⟨left, right, hleft, hright, hkeys, hlength⟩
  · rw [hleft, hright]
    rfl
  · rw [hleft, hright]
    simp only [bind, Except.bind, pure, Except.pure, Except.map, Option.map_some, form_eq, hkeys,
      List.length_append, List.length_map, hlength]

/-- The statement that writes an entity has the same text and the same names of parameters with
other values in the same columns, or fails with the same error. -/
theorem statement_for_form (operation : WriteOperation) (filled : List String) :
    (Batch.statementFor dialect operation { entity with values := values } columns filled).map
        (Option.map (form dialect))
      = (Batch.statementFor dialect operation entity columns filled).map
          (Option.map (form dialect)) := by
  have hsome : ∀ left right : Except PersistError WriteStatement,
      left.map (form dialect) = right.map (form dialect) →
        (left.map some).map (Option.map (form dialect))
          = (right.map some).map (Option.map (form dialect)) := by
    intro left right hsame
    cases left <;> cases right <;> simp_all [Except.map]
  cases operation with
  | insert =>
      simp only [Batch.statementFor, insert]
      split
      · exact hsome _ _ (congrArg Except.ok (plain_insert_form hpresent))
      · exact hsome _ _ (upsert_form hpresent)
  | update => exact update_form hpresent filled
  | delete => exact hsome _ _ (delete_form hpresent)

end Presence

end WriteStatement

end Orm
