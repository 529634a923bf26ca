import Orm.Query.Flat

/-!
# The columns of a grouped query

A grouped query gives one column for each key and then one for each aggregate. `GroupedLayout.of`
names them; a name that would occur twice is told apart by its alias.
-/

namespace Orm

/-- The output columns of a grouped query with what they hold. -/
structure GroupedLayout where
  keys : List (ColumnRef × String)
  aggregates : List (GroupAggregate × String)
deriving DecidableEq

namespace GroupedLayout

/-- The output name of a key: its column, with the alias if another key has that column too. -/
def keyName (keys : List ColumnRef) (key : ColumnRef) : String :=
  if 1 < keys.countP (fun other => other.column = key.column) then
    key.aliasName ++ "." ++ key.column
  else key.column

/-- The output name of an aggregate: its word and column, with the alias if a key has that column
or another aggregate the same word and column. -/
def aggregateName (keys : List ColumnRef) (aggregates : List GroupAggregate)
    (aggregate : GroupAggregate) : String :=
  if keys.any (fun key => key.column = aggregate.ref.column) ∨
      1 < aggregates.countP (fun other =>
        other.op = aggregate.op ∧ other.ref.column = aggregate.ref.column) then
    aggregate.op.tag ++ "_" ++ aggregate.ref.aliasName ++ "_" ++ aggregate.ref.column
  else aggregate.op.tag ++ "_" ++ aggregate.ref.column

/-- The output columns of a flat query. -/
def of (flat : FlatQuery) : GroupedLayout :=
  let keys := flat.grouping.flatMap GroupingEntry.keys
  let aggregates := flat.grouping.flatMap GroupingEntry.aggregates
  ⟨keys.map fun key => (key, keyName keys key),
    aggregates.map fun aggregate => (aggregate, aggregateName keys aggregates aggregate)⟩

/-- The aliases of the keys and aggregates, each once and in order. -/
def aliases (layout : GroupedLayout) : List String :=
  (layout.keys.map (fun key => key.1.aliasName) ++
    layout.aggregates.map fun aggregate => aggregate.1.ref.aliasName).foldl
      (fun known aliasName => if aliasName ∈ known then known else known ++ [aliasName]) []

/-- The output columns that belong to an alias, keys first. -/
def namesOf (layout : GroupedLayout) (aliasName : String) : List String :=
  (layout.keys.filter fun key => key.1.aliasName = aliasName).map Prod.snd ++
    (layout.aggregates.filter fun aggregate => aggregate.1.ref.aliasName = aliasName).map Prod.snd

end GroupedLayout

end Orm
