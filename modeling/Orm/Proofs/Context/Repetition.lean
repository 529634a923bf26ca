import Orm.Proofs.Context.Turns

/-!
# Questions that are asked again

What a look-up answers stays in the cache, whatever happens in between. So the same question has the
same answer again, with one exception: the tables that a catalog gave come back in the order of
their full names, and each name once (`answers_repeated`).
-/

namespace Orm

variable {σ α : Type}

/-- Some tables in the order of their full names; of two tables with one name the later counts. -/
def Table.sorted (tables : List Table) : List Table :=
  (NameMap.ofList (tables.map fun table => (table.fullName, table))).values

/-- Tables are in that order, each name once, if and only if their full names ascend. -/
theorem Table.sorted_eq_iff {tables : List Table} :
    sorted tables = tables ↔
      tables.Pairwise fun left right => left.fullName < right.fullName :=
  NameMap.values_of_list_eq_iff

namespace Surroundings

/-! ## Answers in the cache -/

/-- A look-up that gives an answer found it in the cache, or put it there. -/
theorem cache_of_lookup {what target : String} {known : SchemaCache → Option α}
    {learn : SchemaCache → α → SchemaCache}
    {load : StateM (Surroundings σ) (Except ProviderError α)} {around : Surroundings σ} {answer : α}
    (h : (lookup what target known learn load around).1 = .ok answer) :
    known around.cache = some answer ∧
        (lookup what target known learn load around).2.cache = around.cache ∨
      known around.cache = none ∧
        (lookup what target known learn load around).2.cache = learn around.cache answer := by
  cases hknown : known around.cache with
  | some known =>
      rw [lookup_of_known hknown] at h ⊢
      cases h
      exact .inl ⟨rfl, rfl⟩
  | none =>
      cases hoffline : around.cache.isOffline with
      | true =>
          rw [lookup_of_offline hoffline hknown] at h
          cases h
      | false =>
          rw [lookup_of_online hoffline hknown] at h ⊢
          refine .inr ⟨rfl, ?_⟩
          show ((load around).1.toOption.map (learn around.cache)).getD around.cache = _
          rw [h]
          rfl

/-- What a look-up answers is known afterwards, if what is learnt is known. -/
theorem known_of_lookup {what target : String} {known : SchemaCache → Option α}
    {learn : SchemaCache → α → SchemaCache}
    {load : StateM (Surroundings σ) (Except ProviderError α)} {around : Surroundings σ} {answer : α}
    (hlearn : ∀ cache answer, known (learn cache answer) = some answer)
    (h : (lookup what target known learn load around).1 = .ok answer) :
    known (lookup what target known learn load around).2.cache = some answer := by
  obtain ⟨hknown, hcache⟩ | ⟨-, hcache⟩ := cache_of_lookup h
  · rw [hcache, hknown]
  · rw [hcache, hlearn]

variable {catalog again : Catalog σ} {around : Surroundings σ}

/-- Columns that were looked up are known, under every table of the same full name. -/
theorem known_columns {table other : Table} {answer : ColumnMap}
    (hname : other.fullName = table.fullName)
    (h : (Surroundings.columns catalog table around).1 = .ok answer) :
    (Surroundings.columns catalog table around).2.cache.columns other = some answer := by
  rw [SchemaCache.columns, hname]
  refine known_of_lookup (fun cache columns => ?_) h
  exact (cache.columns_learn_columns table table columns).trans (if_pos rfl)

/-- Relationships that were looked up are known, under every table of the same full name. -/
theorem known_relationships {table other : Table} {answer : RelationshipSet}
    (hname : other.fullName = table.fullName)
    (h : (Surroundings.relationships catalog table around).1 = .ok answer) :
    (Surroundings.relationships catalog table around).2.cache.relationships other
      = some answer := by
  rw [SchemaCache.relationships, hname]
  refine known_of_lookup (fun cache set => ?_) h
  exact (cache.relationships_learn_relationships table table set).trans (if_pos rfl)

/-- Procedures that were looked up are known. -/
theorem known_procedures {answer : List ProcedureNode}
    (h : (Surroundings.procedures catalog around).1 = .ok answer) :
    (Surroundings.procedures catalog around).2.cache.procedures = some answer :=
  known_of_lookup (fun cache nodes => by rfl) h

/-- Tables that were looked up are known as they were known before, or sorted. -/
theorem known_tables {answer : List Table}
    (h : (Surroundings.tables catalog around).1 = .ok answer) :
    (Surroundings.tables catalog around).2.cache.tables
      = some (if around.cache.tables.isSome then answer else Table.sorted answer) := by
  obtain ⟨hknown, hcache⟩ | ⟨hunknown, hcache⟩ := cache_of_lookup h
  · rw [if_pos (by rw [hknown]; rfl)]
    exact (congrArg SchemaCache.tables hcache).trans hknown
  · rw [if_neg (by rw [hunknown]; nofun)]
    exact congrArg SchemaCache.tables hcache

/-! ## Answers that stay -/

/-- Whatever contexts do over a cache, its answers stay. -/
theorem extends_after_turns (turns : List (Turn σ)) (around : Surroundings σ) :
    around.cache.Extends (around.afterTurns turns).cache := by
  obtain ⟨events, hexplains⟩ := explained_after_turns turns around
  exact hexplains.leads.extends_start

variable (catalog again : Catalog σ) (turns : List (Turn σ)) (around : Surroundings σ)

/-- Whatever contexts do between two look-ups over one cache, the second one repeats what the first
one answered: exactly for columns, relationships and procedures. For tables that the first look-up
had to load the second one has them in the order of their full names, each name once; that is the
same answer if and only if they were given so. -/
theorem answers_repeated :
    (∀ table other columns, other.fullName = table.fullName →
      (Surroundings.columns catalog table around).1 = .ok columns →
      (Surroundings.columns again other
        ((Surroundings.columns catalog table around).2.afterTurns turns)).1 = .ok columns) ∧
    (∀ table other set, other.fullName = table.fullName →
      (Surroundings.relationships catalog table around).1 = .ok set →
      (Surroundings.relationships again other
        ((Surroundings.relationships catalog table around).2.afterTurns turns)).1 = .ok set) ∧
    (∀ nodes, (Surroundings.procedures catalog around).1 = .ok nodes →
      (Surroundings.procedures again
        ((Surroundings.procedures catalog around).2.afterTurns turns)).1 = .ok nodes) ∧
    ∀ tables, (Surroundings.tables catalog around).1 = .ok tables →
      let repeated := if around.cache.tables.isSome then tables else Table.sorted tables
      (Surroundings.tables again
        ((Surroundings.tables catalog around).2.afterTurns turns)).1 = .ok repeated ∧
      (repeated = tables ↔ around.cache.tables.isSome = true ∨
        tables.Pairwise fun left right => left.fullName < right.fullName) := by
  refine ⟨fun table other columns hname hfirst => ?_, fun table other set hname hfirst => ?_,
    fun nodes hfirst => ?_, fun tables hfirst => ⟨?_, ?_⟩⟩
  · have hknown := (extends_after_turns turns _).columns (known_columns hname hfirst)
    exact congrArg Prod.fst (lookup_of_known hknown)
  · have hknown := (extends_after_turns turns _).relationships (known_relationships hname hfirst)
    exact congrArg Prod.fst (lookup_of_known hknown)
  · have hknown := (extends_after_turns turns _).procedures (known_procedures hfirst)
    exact congrArg Prod.fst (lookup_of_known hknown)
  · have hknown := (extends_after_turns turns _).tables (known_tables hfirst)
    exact congrArg Prod.fst (lookup_of_known hknown)
  · rw [← Table.sorted_eq_iff]
    by_cases hsome : around.cache.tables.isSome = true <;> simp [hsome]

/-- A catalog with two tables that are not in the order of their names. -/
def unsorted : Catalog Unit where
  tables := return .ok [Table.named "dbo" "Orders", Table.named "dbo" "Employees"]
  columns := fun _ => return .ok []
  relationships := fun _ => return .ok []
  procedures := return .ok []
  descriptions := fun _ => return .ok ⟨none, .empty⟩

/-- The surroundings of a catalog of which nothing is known. -/
def untouched : Surroundings Unit := ⟨.empty, .empty, .empty, [], .empty, ()⟩

/-- The first look-up of these tables has them as the catalog gave them, the second one sorted. -/
theorem unsorted_tables_repeated :
    let first := Surroundings.tables unsorted untouched
    first.1 = .ok [Table.named "dbo" "Orders", Table.named "dbo" "Employees"] ∧
      (Surroundings.tables unsorted first.2).1
        = .ok [Table.named "dbo" "Employees", Table.named "dbo" "Orders"] := by
  intro first
  have hfirst : first.1 = .ok [Table.named "dbo" "Orders", Table.named "dbo" "Employees"] := rfl
  have hsorted : Table.sorted [Table.named "dbo" "Orders", Table.named "dbo" "Employees"]
      = [Table.named "dbo" "Employees", Table.named "dbo" "Orders"] := by decide +kernel
  have hsecond := ((answers_repeated unsorted unsorted [] untouched).2.2.2 _ hfirst).1
  rw [← hsorted]
  exact ⟨hfirst, hsecond⟩

end Surroundings

end Orm
