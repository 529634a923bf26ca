import Orm.Context.Queries
import Orm.Proofs.Action

/-!
# Questions that the cache answers

A look-up is answered from the cache, refused, or answered by the catalog: one equation for each of
the three ways.
-/

namespace Orm

variable {σ α : Type}

namespace Surroundings

variable {what target : String} {known : SchemaCache → Option α}
  {learn : SchemaCache → α → SchemaCache}
  {load : StateM (Surroundings σ) (Except ProviderError α)} {around : Surroundings σ}

/-- A question to a catalog is noted, and changes the outside. -/
theorem discover_apply (question : StateM σ (Except DriverError α)) (around : Surroundings σ) :
    discover what target question around
      = ((question around.outside).1.mapError .driver, { around with
          journal := around.journal ++ [.discover what target]
          outside := (question around.outside).2 }) := rfl

/-- What is said of a table in words is asked for while the cache is online, and else refused. -/
theorem descriptions_apply (catalog : Catalog σ) (table : Table) (around : Surroundings σ) :
    descriptions catalog table around
      = if around.cache.isOffline then
          (.error (.offlineMetadata "descriptions" table.fullName), around)
        else discover "descriptions" table.fullName (catalog.descriptions table) around := by
  rw [descriptions, Action.bind_apply]
  show (if around.cache.isOffline then
      pure (.error (.offlineMetadata "descriptions" table.fullName))
    else discover "descriptions" table.fullName (catalog.descriptions table) :
      StateM (Surroundings σ) _) around = _
  split <;> rfl

/-- What the cache knows is answered at once, whether it is offline or not. -/
theorem lookup_of_known {answer : α} (h : known around.cache = some answer) :
    lookup what target known learn load around = (.ok answer, around) := by
  unfold lookup SchemaCache.consult
  rw [h]
  split <;> rfl

/-- While the cache is offline, what it does not know is refused. -/
theorem lookup_of_offline (hoffline : around.cache.isOffline = true)
    (h : known around.cache = none) :
    lookup what target known learn load around
      = (.error (.offlineMetadata what target), around) := by
  rw [lookup, if_pos hoffline, h]

/-- While the cache is offline, what it knows is all that is answered. -/
theorem lookup_ok_iff_of_offline (hoffline : around.cache.isOffline = true) {answer : α} :
    (lookup what target known learn load around).1 = .ok answer ↔
      known around.cache = some answer := by
  cases hknown : known around.cache with
  | some found =>
      rw [lookup_of_known hknown]
      simp
  | none =>
      rw [lookup_of_offline hoffline hknown]
      simp

/-- While the cache is online, what it does not know is loaded, and learnt if that succeeds. -/
theorem lookup_of_online (honline : around.cache.isOffline = false)
    (h : known around.cache = none) :
    lookup what target known learn load around
      = ((load around).1, { (load around).2 with
          cache := ((load around).1.toOption.map (learn around.cache)).getD around.cache }) := by
  rw [lookup, if_neg (by simp [honline]), SchemaCache.consult, h]
  rcases load around with ⟨error | answer, after⟩ <;> rfl

end Surroundings

namespace Context

/-- Known columns are answered at once. -/
theorem columns_of_known {context : Context σ} {desk : Desk σ} {table : Table}
    {columns : ColumnMap} (h : desk.around.cache.columns table = some columns) :
    context.columns table desk = (.ok columns, desk) := by
  have hlookup : Surroundings.columns context.catalog table desk.around
      = (.ok columns, desk.around) := Surroundings.lookup_of_known h
  simp only [Context.columns, Action.bind_apply, Desk.surroundings, hlookup]
  rfl

end Context

end Orm
