import Orm.Proofs.Change.Dependencies

/-!
# Write plans respect every dependency

`WritePlan.build` sorts entities by their state and orders the inserted and the deleted ones. An
inserted entity comes after those that it is linked to as a child and after those that its foreign
keys refer to, a deleted one before those that its foreign keys refer to. The main statement is
`build_respects_dependencies`: a plan respects all of that, and planning fails only if no order
does.
-/

namespace Orm.WritePlan

variable {σ : Type} {schema : SchemaSource σ} {store : EntityStore} {nodes : List EntityId}

/-! ## Plans -/

/-- An inserted entity has to come before another one that is linked to it or refers to it. -/
def InsertedBefore (store : EntityStore) (found : List (EntityId × RelationshipSet))
    (parent child : EntityId) : Prop :=
  parent ≠ child ∧ (Linked store child parent ∨ Related store found child parent)

/-- A deleted entity has to come before another one that it refers to. -/
def DeletedBefore (store : EntityStore) (found : List (EntityId × RelationshipSet))
    (child parent : EntityId) : Prop :=
  child ≠ parent ∧ Related store found child parent

/-- The entities in an accepted state are among the given ones. -/
theorem mem_in_state {test : EntityState → Bool} {ids : List EntityId} {id : EntityId} :
    id ∈ inState store test ids ↔
      id ∈ ids ∧ ∃ entity, store.get? id = some entity ∧ test entity.state = true := by
  simp [inState, Option.any_eq_true]

/-- The entities with something to write are those to insert, to update and to delete. -/
theorem in_state_partition (store : EntityStore) (ids : List EntityId) :
    (inState store needsInsert ids ++ inState store needsUpdate ids ++
      inState store needsDelete ids).Perm (inState store EntityState.isDirty ids) := by
  induction ids with
  | nil => exact .nil
  | cons id rest ih =>
      rw [List.append_assoc] at ih ⊢
      cases hentity : store.get? id with
      | none => simpa [inState, hentity] using ih
      | some entity =>
          cases hstate : entity.state with
          | unchanged | deleted =>
              simpa [inState, hentity, hstate, needsInsert, needsUpdate, needsDelete,
                EntityState.isDirty] using ih
          | created =>
              simpa [inState, hentity, hstate, needsInsert, needsUpdate, needsDelete,
                EntityState.isDirty] using ih
          | modified columns =>
              have hmiddle := List.perm_middle.trans (ih.cons id)
              simpa [inState, hentity, hstate, needsInsert, needsUpdate, needsDelete,
                EntityState.isDirty] using hmiddle
          | deletePending =>
              rw [← List.append_assoc] at ih ⊢
              have hmiddle := List.perm_middle.trans (ih.cons id)
              simpa [inState, hentity, hstate, needsInsert, needsUpdate, needsDelete,
                EntityState.isDirty] using hmiddle

/-- What a plan was made from: the references that were found, and the two orders. -/
theorem build_ok {ids : List EntityId} {state after : σ} {plan : WritePlan}
    (h : build schema store ids state = (.ok plan, after)) :
    plan.updates = inState store needsUpdate ids ∧ ∃ insertEdges middle deleteEdges,
      keyEdges schema store (inState store needsInsert ids) state = (.ok insertEdges, middle) ∧
      keyEdges schema store (inState store needsDelete ids) middle = (.ok deleteEdges, after) ∧
      ordered store (inState store needsInsert ids)
        (linkEdges store (inState store needsInsert ids) ++ insertEdges) = .ok plan.inserts ∧
      ordered store (inState store needsDelete ids) (deleteEdges.map Prod.swap)
        = .ok plan.deletes := by
  simp only [build, Action.bind_apply] at h
  cases hinsertEdges : (keyEdges schema store (inState store needsInsert ids) state).1 with
  | error error =>
      rw [hinsertEdges] at h
      cases h
  | ok insertEdges =>
      simp only [hinsertEdges] at h
      cases hinserts : ordered store (inState store needsInsert ids)
          (linkEdges store (inState store needsInsert ids) ++ insertEdges) with
      | error error =>
          rw [hinserts] at h
          cases h
      | ok inserts =>
          simp only [hinserts, Action.bind_apply] at h
          cases hdeleteEdges : (keyEdges schema store (inState store needsDelete ids)
              (keyEdges schema store (inState store needsInsert ids) state).2).1 with
          | error error =>
              rw [hdeleteEdges] at h
              cases h
          | ok deleteEdges =>
              simp only [hdeleteEdges, Action.pure_apply] at h
              obtain ⟨deletes, hdeletes, rfl⟩ := Action.map_eq_ok_iff.1 (congrArg Prod.fst h)
              exact ⟨rfl, insertEdges, _, deleteEdges, Prod.ext hinsertEdges rfl,
                Prod.ext hdeleteEdges (Prod.mk.inj h).2, hinserts, hdeletes⟩

/-- Once the references are found, only an order can fail. -/
theorem build_error {ids : List EntityId} {state middle after : σ}
    {insertEdges deleteEdges : List (Nat × Nat)}
    (hinsertEdges : keyEdges schema store (inState store needsInsert ids) state
      = (.ok insertEdges, middle))
    (hdeleteEdges : keyEdges schema store (inState store needsDelete ids) middle
      = (.ok deleteEdges, after))
    {error : PersistError} (h : (build schema store ids state).1 = .error error) :
    ordered store (inState store needsInsert ids)
        (linkEdges store (inState store needsInsert ids) ++ insertEdges) = .error error ∨
      ordered store (inState store needsDelete ids) (deleteEdges.map Prod.swap)
        = .error error := by
  simp only [build, Action.bind_apply, hinsertEdges] at h
  cases hinserts : ordered store (inState store needsInsert ids)
      (linkEdges store (inState store needsInsert ids) ++ insertEdges) with
  | error cause =>
      simp only [hinserts, Action.pure_apply] at h
      cases h
      exact .inl rfl
  | ok inserts =>
      simp only [hinserts, Action.bind_apply, hdeleteEdges, Action.pure_apply] at h
      cases hdeletes : ordered store (inState store needsDelete ids)
          (deleteEdges.map Prod.swap) with
      | error cause =>
          rw [hdeletes] at h
          cases h
          exact .inr rfl
      | ok deletes =>
          rw [hdeletes] at h
          cases h

/-- The pairs of places among inserted entities are within the nodes. -/
theorem insert_edges_lt (hnodup : nodes.Nodup) {state after : σ} {edges : List (Nat × Nat)}
    (h : keyEdges schema store nodes state = (.ok edges, after)) :
    ∀ edge ∈ linkEdges store nodes ++ edges, edge.1 < nodes.length ∧ edge.2 < nodes.length := by
  intro edge hedge
  have hplaces : ∃ parent child, nodes[edge.1]? = some parent ∧ nodes[edge.2]? = some child := by
    rcases List.mem_append.1 hedge with hedge | hedge
    · obtain ⟨parent, child, hparent, hchild, -⟩ := (mem_link_edges hnodup).1 hedge
      exact ⟨parent, child, hparent, hchild⟩
    · obtain ⟨-, parent, child, hparent, hchild, -⟩ := (mem_key_edges hnodup h).1 hedge
      exact ⟨parent, child, hparent, hchild⟩
  obtain ⟨parent, child, hparent, hchild⟩ := hplaces
  exact ⟨(List.getElem?_eq_some_iff.1 hparent).1, (List.getElem?_eq_some_iff.1 hchild).1⟩

/-- The pairs of places among deleted entities are within the nodes. -/
theorem delete_edges_lt (hnodup : nodes.Nodup) {state after : σ} {edges : List (Nat × Nat)}
    (h : keyEdges schema store nodes state = (.ok edges, after)) :
    ∀ edge ∈ edges.map Prod.swap, edge.1 < nodes.length ∧ edge.2 < nodes.length := by
  intro edge hedge
  obtain ⟨pair, hpair, rfl⟩ := List.mem_map.1 hedge
  exact (insert_edges_lt hnodup h pair (List.mem_append_right _ hpair)).symm

/-- Distinct entities stay distinct when some of them are left out. -/
theorem nodup_in_state (store : EntityStore) {ids : List EntityId} (hnodup : ids.Nodup)
    (test : EntityState → Bool) : (inState store test ids).Nodup :=
  hnodup.filter _

/-- To respect all pairs of places among inserted entities is to put parents before children, where
none is its own parent. -/
theorem arranges_inserts_iff (hnodup : nodes.Nodup) {state after : σ} {edges : List (Nat × Nat)}
    (h : keyEdges schema store nodes state = (.ok edges, after)) {order : List EntityId} :
    Arranges (Between nodes (linkEdges store nodes ++ edges)) nodes order ↔
      Arranges (InsertedBefore store (relationshipSets schema store nodes state).1) nodes order ∧
        ∀ id ∈ nodes, ¬ Linked store id id := by
  have hbetween : ∀ parent child, Between nodes (linkEdges store nodes ++ edges) parent child ↔
      parent ∈ nodes ∧ child ∈ nodes ∧ (Linked store child parent ∨ parent ≠ child ∧
        Related store (relationshipSets schema store nodes state).1 child parent) := by
    intro parent child
    rw [between_append, between_link_edges hnodup, between_key_edges hnodup h, ← and_or_left,
      ← and_or_left]
  constructor
  · intro harranges
    refine ⟨harranges.mono fun parent hparent child hchild hbefore => ?_, fun id hid hself => ?_⟩
    · exact (hbetween parent child).2
        ⟨hparent, hchild, hbefore.2.imp id fun hrelated => ⟨hbefore.1, hrelated⟩⟩
    · exact Nat.lt_irrefl _
        (harranges.earlier id hid id hid ((hbetween id id).2 ⟨hid, hid, .inl hself⟩))
  · rintro ⟨harranges, hself⟩
    refine harranges.mono fun parent hparent child hchild hbefore => ?_
    obtain ⟨-, -, hlinked | ⟨hne, hrelated⟩⟩ := (hbetween parent child).1 hbefore
    · refine ⟨?_, .inl hlinked⟩
      rintro rfl
      exact hself parent hparent hlinked
    · exact ⟨hne, .inr hrelated⟩

/-- To respect all pairs of places among deleted entities is to put children before parents. -/
theorem arranges_deletes_iff (hnodup : nodes.Nodup) {state after : σ} {edges : List (Nat × Nat)}
    (h : keyEdges schema store nodes state = (.ok edges, after)) {order : List EntityId} :
    Arranges (Between nodes (edges.map Prod.swap)) nodes order ↔
      Arranges (DeletedBefore store (relationshipSets schema store nodes state).1) nodes order := by
  have hbetween : ∀ child parent, Between nodes (edges.map Prod.swap) child parent ↔
      child ∈ nodes ∧ parent ∈ nodes ∧
        DeletedBefore store (relationshipSets schema store nodes state).1 child parent := by
    intro child parent
    rw [between_swap, between_key_edges hnodup h, and_left_comm, ne_comm]
    rfl
  constructor
  · intro harranges
    exact harranges.mono fun child hchild parent hparent hbefore =>
      (hbetween child parent).2 ⟨hchild, hparent, hbefore⟩
  · intro harranges
    exact harranges.mono fun child hchild parent hparent hbefore =>
      ((hbetween child parent).1 hbefore).2.2

/-- A plan arranges the new entities and those that wait for their delete, and leaves the modified
ones in the given order. -/
theorem arranges_of_build {ids : List EntityId} (hnodup : ids.Nodup) {state after : σ}
    {plan : WritePlan} (h : build schema store ids state = (.ok plan, after)) :
    let forCreated := relationshipSets schema store (inState store needsInsert ids) state
    let forDeleted := relationshipSets schema store (inState store needsDelete ids) forCreated.2
    Arranges (InsertedBefore store forCreated.1) (inState store needsInsert ids) plan.inserts ∧
      (∀ id ∈ inState store needsInsert ids, ¬ Linked store id id) ∧
      plan.updates = inState store needsUpdate ids ∧
      Arranges (DeletedBefore store forDeleted.1) (inState store needsDelete ids)
        plan.deletes := by
  intro forCreated forDeleted
  obtain ⟨hupdates, insertEdges, middle, deleteEdges, hinsertEdges, hdeleteEdges, hinserts,
    hdeletes⟩ := build_ok h
  have hcreated := nodup_in_state store hnodup needsInsert
  have hdeleted := nodup_in_state store hnodup needsDelete
  obtain rfl : forCreated.2 = middle := (key_edges_from_ok hcreated hinsertEdges).1
  obtain ⟨hinserts, hself⟩ := (arranges_inserts_iff hcreated hinsertEdges).1
    (arranges_of_ordered hcreated
      (fun edge hedge => (insert_edges_lt hcreated hinsertEdges edge hedge).2) hinserts)
  have hdeletes := (arranges_deletes_iff hdeleted hdeleteEdges).1
    (arranges_of_ordered hdeleted
      (fun edge hedge => (delete_edges_lt hdeleted hdeleteEdges edge hedge).2) hdeletes)
  exact ⟨hinserts, hself, hupdates, hdeletes⟩

/-- The entities of a plan are those with something to write. -/
theorem perm_dirty_of_build {ids : List EntityId} (hnodup : ids.Nodup) {state after : σ}
    {plan : WritePlan} (h : build schema store ids state = (.ok plan, after)) :
    (plan.inserts ++ plan.updates ++ plan.deletes).Perm
      (inState store EntityState.isDirty ids) := by
  obtain ⟨hinserts, -, hupdates, hdeletes⟩ := arranges_of_build hnodup h
  rw [hupdates]
  exact ((hinserts.perm.append_right _).append hdeletes.perm).trans (in_state_partition store ids)

/-- If every question about relationships is answered, planning fails only as a cycle, and only if
the new entities or those that wait for their delete have no arrangement. -/
theorem no_arrangement_of_build {ids : List EntityId} (hnodup : ids.Nodup) {state : σ}
    (hanswers : ∀ table state, ∃ set, (schema.relationships table state).1 = .ok set)
    {error : PersistError} (h : (build schema store ids state).1 = .error error) :
    let forCreated := relationshipSets schema store (inState store needsInsert ids) state
    let forDeleted := relationshipSets schema store (inState store needsDelete ids) forCreated.2
    (∃ tables, error = .dependencyCycle tables) ∧
      ((¬ ∃ order, Arranges (InsertedBefore store forCreated.1)
          (inState store needsInsert ids) order) ∨
        (¬ ∃ order, Arranges (DeletedBefore store forDeleted.1)
          (inState store needsDelete ids) order) ∨
        ∃ id ∈ inState store needsInsert ids, Linked store id id) := by
  intro forCreated forDeleted
  have hcreated := nodup_in_state store hnodup needsInsert
  have hdeleted := nodup_in_state store hnodup needsDelete
  obtain ⟨insertEdges, hinsertEdges⟩ := key_edges_answered hcreated hanswers state
  obtain ⟨deleteEdges, hdeleteEdges⟩ := key_edges_answered hdeleted hanswers forCreated.2
  rcases build_error hinsertEdges hdeleteEdges h with hinserts | hdeletes
  · obtain ⟨hcycle, hnone⟩ :=
      not_arranges_of_ordered (insert_edges_lt hcreated hinsertEdges) hinserts
    refine ⟨hcycle, ?_⟩
    by_cases hself : ∃ id ∈ inState store needsInsert ids, Linked store id id
    · exact .inr (.inr hself)
    · -- Without a link from an entity to itself, pairs of places and dependencies are the same.
      push Not at hself
      refine .inl ?_
      rintro ⟨order, harranges⟩
      exact hnone ⟨order, (arranges_inserts_iff hcreated hinsertEdges).2 ⟨harranges, hself⟩⟩
  · obtain ⟨hcycle, hnone⟩ :=
      not_arranges_of_ordered (delete_edges_lt hdeleted hdeleteEdges) hdeletes
    refine ⟨hcycle, .inr (.inl ?_)⟩
    rintro ⟨order, harranges⟩
    exact hnone ⟨order, (arranges_deletes_iff hdeleted hdeleteEdges).2 harranges⟩

/-- Planning distinct entities, if every question about relationships is answered: a plan inserts
the new entities, updates the modified ones in the given order and deletes those that wait for it.
Among its inserts parents come before children, among its deletes children before parents. There
is no plan if and only if no order of the inserts or none of the deletes is of that kind, or a new
entity is linked to itself, and then the error is a cycle. -/
theorem build_respects_dependencies (schema : SchemaSource σ) (store : EntityStore)
    (ids : List EntityId) (state : σ) (hnodup : ids.Nodup)
    (hanswers : ∀ table state, ∃ set, (schema.relationships table state).1 = .ok set) :
    let created := inState store needsInsert ids
    let deleted := inState store needsDelete ids
    let forCreated := relationshipSets schema store created state
    let forDeleted := relationshipSets schema store deleted forCreated.2
    let insertedBefore := InsertedBefore store forCreated.1
    let deletedBefore := DeletedBefore store forDeleted.1
    let result := (build schema store ids state).1
    (∀ plan, result = .ok plan →
      (plan.inserts ++ plan.updates ++ plan.deletes).Perm
          (inState store EntityState.isDirty ids) ∧
        Arranges insertedBefore created plan.inserts ∧
        plan.updates = inState store needsUpdate ids ∧
        Arranges deletedBefore deleted plan.deletes) ∧
    ((∃ tables, result = .error (.dependencyCycle tables)) ↔
      (¬ ∃ order, Arranges insertedBefore created order) ∨
        (¬ ∃ order, Arranges deletedBefore deleted order) ∨
        ∃ id ∈ created, Linked store id id) ∧
    ∀ error, result = .error error → ∃ tables, error = .dependencyCycle tables := by
  intro created deleted forCreated forDeleted insertedBefore deletedBefore result
  refine ⟨fun plan hplan => ?_, ⟨?_, ?_⟩, fun error herror => ?_⟩
  · have hbuild : build schema store ids state = (.ok plan, (build schema store ids state).2) :=
      Prod.ext hplan rfl
    obtain ⟨hinserts, -, hupdates, hdeletes⟩ := arranges_of_build hnodup hbuild
    exact ⟨perm_dirty_of_build hnodup hbuild, hinserts, hupdates, hdeletes⟩
  · rintro ⟨tables, hcycle⟩
    exact (no_arrangement_of_build hnodup hanswers hcycle).2
  · intro hnone
    cases hresult : result with
    | error error =>
        obtain ⟨⟨tables, rfl⟩, -⟩ := no_arrangement_of_build hnodup hanswers hresult
        exact ⟨tables, rfl⟩
    | ok plan =>
        have hbuild : build schema store ids state = (.ok plan, (build schema store ids state).2) :=
          Prod.ext hresult rfl
        obtain ⟨hinserts, hself, -, hdeletes⟩ := arranges_of_build hnodup hbuild
        rcases hnone with hnone | hnone | ⟨id, hid, hlinked⟩
        · exact absurd ⟨plan.inserts, hinserts⟩ hnone
        · exact absurd ⟨plan.deletes, hdeletes⟩ hnone
        · exact absurd hlinked (hself id hid)
  · exact (no_arrangement_of_build hnodup hanswers herror).1

/-- A schema without relationships. -/
def unrelated : SchemaSource Unit where
  columns := fun _ => return .ok .empty
  relationships := fun _ => return .ok .empty

/-- A new order and, after it, the new customer that it is linked to. -/
def orderBeforeCustomer : EntityStore :=
  let order := Table.named "dbo" "Orders"
  let customer := Table.named "dbo" "Customers"
  let id := (Column.plain "Id" .integer "int").primaryKey
  let customerId := Column.plain "CustomerId" .integer "int"
  ⟨#[{ Entity.fresh order (ColumnMap.ofColumns [id, customerId]) none with
      links := [⟨⟨"FK_Orders", customer, ["Id"], order, ["CustomerId"]⟩, ⟨1⟩⟩] },
    Entity.fresh customer (ColumnMap.ofColumns [id]) none]⟩

/-- The customer is inserted before the order. -/
theorem build_order_before_customer :
    ∃ plan, (build unrelated orderBeforeCustomer [⟨0⟩, ⟨1⟩] ()).1 = .ok plan ∧
      plan.inserts.Perm [⟨0⟩, ⟨1⟩] ∧ plan.inserts.idxOf ⟨1⟩ < plan.inserts.idxOf ⟨0⟩ := by
  have hplan : (build unrelated orderBeforeCustomer [⟨0⟩, ⟨1⟩] ()).1
      = .ok ⟨[⟨1⟩, ⟨0⟩], [], []⟩ := by decide
  have hlinked : Linked orderBeforeCustomer ⟨0⟩ ⟨1⟩ := ⟨_, rfl, _, List.mem_singleton_self _, rfl⟩
  obtain ⟨hbuild, -⟩ := build_respects_dependencies unrelated orderBeforeCustomer [⟨0⟩, ⟨1⟩] ()
    (by decide) fun _ _ => ⟨.empty, rfl⟩
  obtain ⟨-, hinserts, -⟩ := hbuild _ hplan
  exact ⟨_, hplan, hinserts.perm, hinserts.earlier _ (by decide) _ (by decide)
    ⟨by decide, .inl hlinked⟩⟩

end Orm.WritePlan
