import Orm.Context.Queries
import Orm.Proofs.Action
import Orm.Proofs.Entity.Store

/-!
# What reading does

The reads of a context are made of a few actions: they ask for columns, send commands, and add
unchanged rows of the context. A preorder on desks that holds along these (`AllowsReads`) holds
along every read (`ContextRead.along`). In particular a read, however it fails, only adds unchanged
rows of its context: that is `Desk.OnlyReads`.
-/

namespace Orm

open Orm.Action (Along)

variable {σ α : Type}

namespace Desk

/-- An action of an owner adds unchanged rows of the owner and changes nothing else about the
entities. -/
def OnlyReads (owner : OwnerId) (action : StateM (Desk σ) α) : Prop :=
  ∀ desk : Desk σ, ∃ rows : List Entity,
    (∀ row ∈ rows, row.owner = some owner ∧ row.state = .unchanged) ∧
      (action desk).2.tracked = ⟨(desk.tracked.store.addAll rows).2, desk.tracked.pending⟩

/-- Of two desks the second one has unchanged rows of an owner in addition. -/
def AddsRows (owner : OwnerId) (desk after : Desk σ) : Prop :=
  ∃ rows : List Entity, (∀ row ∈ rows, row.owner = some owner ∧ row.state = .unchanged) ∧
    after.tracked = ⟨(desk.tracked.store.addAll rows).2, desk.tracked.pending⟩

/-- What adds nothing but rows along an action only reads. -/
theorem only_reads_iff {owner : OwnerId} {action : StateM (Desk σ) α} :
    OnlyReads owner action ↔ Along (AddsRows owner) action := Iff.rfl

instance (owner : OwnerId) : IsPreorder (Desk σ) (AddsRows owner) where
  refl := fun _ => ⟨[], by simp, rfl⟩
  trans := by
    rintro first second third ⟨rows, hrows, hsecond⟩ ⟨more, hmore, hthird⟩
    refine ⟨rows ++ more, fun row hrow => ?_, ?_⟩
    · exact (List.mem_append.1 hrow).elim (hrows row) (hmore row)
    · rw [hthird, hsecond, EntityStore.add_all_append]

end Desk

namespace Context

/-- A relation holds along the actions that the reads of a context are made of. -/
structure AllowsReads (context : Context σ) (R : Desk σ → Desk σ → Prop) : Prop where
  columns : ∀ table, Along R (context.columns table)
  send : ∀ command, Along R (context.send command)
  sendAsync : ∀ command, Along R (context.sendAsync command)
  recordIndividual : ∀ table, Along R (Desk.surroundings (modify fun around =>
    { around with cache := around.cache.recordIndividual table }))
  add : ∀ rows : List Entity,
    (∀ row ∈ rows, row.owner = some context.owner ∧ row.state = .unchanged) →
      Along R (Desk.addAll rows)

/-- To add unchanged rows of a context is all that its reads do to entities. -/
theorem allows_reads_adds_rows (context : Context σ) :
    context.AllowsReads (Desk.AddsRows context.owner) where
  columns := fun _ _ => ⟨[], by simp, rfl⟩
  send := fun _ _ => ⟨[], by simp, rfl⟩
  sendAsync := fun _ _ => ⟨[], by simp, rfl⟩
  recordIndividual := fun _ _ => ⟨[], by simp, rfl⟩
  add := fun rows hrows _ => ⟨rows, hrows, rfl⟩

namespace AllowsReads

variable {context : Context σ} {R : Desk σ → Desk σ → Prop} [IsPreorder (Desk σ) R]
  (h : context.AllowsReads R)

include h

omit [IsPreorder (Desk σ) R] in
/-- The rows of a result become unchanged entities of the context. -/
theorem materialize (table : Table) (columns : ColumnMap) (set : ResultSet) :
    Along R (context.materialize table columns set) := by
  refine h.add _ fun row hrow => ?_
  obtain ⟨record, -, rfl⟩ := List.mem_map.1 hrow
  exact ⟨rfl, rfl⟩

/-- So do the rows that a command reads, if it reads any. -/
theorem rows {send : Command → StateM (Desk σ) (Except Failure CommandResult)}
    (hsend : ∀ command, Along R (send command)) (table : Table) (columns : ColumnMap)
    (command : Command) : Along R (context.readRows send table columns command) := by
  refine .bind (hsend command) fun answer => ?_
  cases answer with
  | error failure => exact .pure _
  | ok result =>
      dsimp only
      cases result.expectRows command.text with
      | error error => exact .pure _
      | ok set => exact .bind (h.materialize table columns set) fun _ => .pure _

/-- A query needs the columns of its table before it is sent. -/
theorem prepare_rows (query : Query) : Along R (context.prepareRows query) := by
  unfold Context.prepareRows
  split
  · exact .pure _
  · exact .bind (h.columns _) fun _ => .pure _

/-- The rows of groups become unchanged entities of the context. -/
theorem groups (flat : FlatQuery) (records : List (List (String × Value))) :
    Along R (context.materializeGroups flat records) := by
  induction records with
  | nil => exact .pure _
  | cons record rest ih =>
      refine .bind .get fun desk => .bind (h.add _ fun row hrow => ?_) fun _ =>
        .bind ih fun _ => .pure _
      obtain ⟨aliasName, -, rfl⟩ := List.mem_map.1 hrow
      exact ⟨rfl, rfl⟩

/-- The search for a row by some columns is noted and sends a command. -/
theorem individual_by (table : Table) (keys : List (String × Value)) :
    Along R (context.individualBy table keys) := by
  refine .bind (h.columns table) fun answer => ?_
  cases answer with
  | error failure => exact .pure _
  | ok columns =>
      exact .bind (h.recordIndividual table) fun _ => .bind (h.rows h.send _ _ _) fun _ => .pure _

/-- A count or an aggregate sends a command. -/
theorem execute_scalar {α : Type} [Readable α] (query : Query) :
    Along R (context.executeScalar query : StateM (Desk σ) (Except Failure α)) := by
  unfold Context.executeScalar
  cases context.compile query with
  | error failure => exact .pure _
  | ok compiled =>
      refine .bind (h.send _) fun answer => ?_
      cases answer with
      | error failure => exact .pure _
      | ok result =>
          dsimp only
          split
          · exact .pure _
          · exact .pure _

end AllowsReads

/-- The rows of groups become unchanged entities of the context, and nothing else. -/
theorem only_reads_groups (context : Context σ) (flat : FlatQuery)
    (records : List (List (String × Value))) :
    Desk.OnlyReads context.owner (context.materializeGroups flat records) :=
  Desk.only_reads_iff.2 (context.allows_reads_adds_rows.groups flat records)

end Context

/-- The reads of a context that make rows entities. -/
inductive ContextRead
  | rows (query : Query)
  | rowsAsync (query : Query)
  | groups (query : Query)
  | firstRows (table : Table) (count : Option Nat)
  | rowBy (table : Table) (keys : List (String × Value))
  | row (table : Table) (key : Value)

namespace ContextRead

/-- Performs a read, whose answer is not needed: the entities are in the store. -/
def perform (context : Context σ) : ContextRead → StateM (Desk σ) Unit
  | .rows query => do let _ ← context.executeQuery query
  | .rowsAsync query => do let _ ← context.executeQueryAsync query
  | .groups query => do let _ ← context.executeGrouped query
  | .firstRows table count => do let _ ← context.topRows table count
  | .rowBy table keys => do let _ ← context.individualBy table keys
  | .row table key => do let _ ← context.individual table key

/-- What holds along the actions that reads are made of holds along every read. -/
theorem along {context : Context σ} {R : Desk σ → Desk σ → Prop} [IsPreorder (Desk σ) R]
    (h : context.AllowsReads R) (read : ContextRead) : Along R (read.perform context) := by
  cases read with
  | rows query =>
      refine .bind (.bind (h.prepare_rows query) fun answer => ?_) fun _ => .pure _
      cases answer with
      | error failure => exact .pure _
      | ok prepared => exact h.rows h.send _ _ _
  | rowsAsync query =>
      refine .bind (.bind (h.prepare_rows query) fun answer => ?_) fun _ => .pure _
      cases answer with
      | error failure => exact .pure _
      | ok prepared => exact h.rows h.sendAsync _ _ _
  | groups query =>
      refine .bind ?_ fun _ => .pure _
      unfold Context.executeGrouped
      cases context.compile query with
      | error failure => exact .pure _
      | ok compiled =>
          dsimp only
          split
          · exact .pure _
          · refine .bind (h.send _) fun answer => ?_
            cases answer with
            | error failure => exact .pure _
            | ok result =>
                dsimp only
                cases result.expectRows compiled.rendered.text with
                | error error => exact .pure _
                | ok set => exact .bind (h.groups _ _) fun _ => .pure _
  | firstRows table count =>
      refine .bind (.bind (h.columns table) fun answer => ?_) fun _ => .pure _
      cases answer with
      | error failure => exact .pure _
      | ok columns => exact h.rows h.send _ _ _
  | rowBy table keys =>
      exact .bind (h.individual_by table keys) fun _ => .pure _
  | row table key =>
      refine .bind (.bind (h.columns table) fun answer => ?_) fun _ => .pure _
      cases answer with
      | error failure => exact .pure _
      | ok columns =>
          refine .bind .get fun desk => ?_
          cases Context.singleKey desk.around.cache table columns with
          | error failure => exact .pure _
          | ok column => exact h.individual_by table _

/-- Every read adds unchanged rows of its context and does nothing else to entities. -/
theorem only_reads (context : Context σ) (read : ContextRead) :
    Desk.OnlyReads context.owner (read.perform context) :=
  Desk.only_reads_iff.2 (read.along context.allows_reads_adds_rows)

end ContextRead

end Orm
