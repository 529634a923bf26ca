import Orm.Context.Surroundings

/-!
# A catalog that is written down

A `WrittenCatalog` answers questions about the schema from data. Tables that it does not mention
have no columns, and any kind of question can be refused.
-/

namespace Orm

/-- The kinds of questions that a catalog answers. -/
inductive CatalogTopic
  | tables
  | columns
  | relationships
  | procedures
  | descriptions
deriving DecidableEq, Repr

/-- What a catalog answers, and why it refuses some kinds of questions. -/
structure WrittenCatalog where
  tables : List Table
  columns : NameMap (List CatalogColumn)
  relationships : List Relationship
  procedures : List ProcedureNode
  descriptions : NameMap Descriptions
  refusals : List (CatalogTopic × DriverError)

namespace WrittenCatalog

/-- The answer to a question, unless questions of its kind are refused. -/
def answer {σ α : Type} (catalog : WrittenCatalog) (topic : CatalogTopic) (known : α) :
    StateM σ (Except DriverError α) :=
  match catalog.refusals.find? fun refusal => refusal.1 = topic with
  | some (_, cause) => return .error cause
  | none => return .ok known

/-- A written catalog as contexts see it. All its relationships are given for every table. -/
def catalog {σ : Type} (written : WrittenCatalog) : Catalog σ where
  tables := written.answer .tables written.tables
  columns table := written.answer .columns ((written.columns.find? table.fullName).getD [])
  relationships _ := written.answer .relationships written.relationships
  procedures := written.answer .procedures written.procedures
  descriptions table :=
    written.answer .descriptions
      ((written.descriptions.find? table.fullName).getD ⟨none, .empty⟩)

end WrittenCatalog

end Orm
