import Orm.Proofs.Action
import Orm.Proofs.Change.Arrangement

/-!
# Dependencies between entities

A child depends on its parents: those that it is linked to (`Linked`) and those that its foreign
keys refer to (`Related`). A plan looks for both among its nodes and notes them as pairs of places;
`between_link_edges` and `between_key_edges` say which entities these pairs stand for.
-/

namespace Orm.WritePlan

/-! ## Links and references -/

/-- An entity has a link to another one as its parent. -/
def Linked (store : EntityStore) (child parent : EntityId) : Prop :=
  ∃ entity, store.get? child = some entity ∧ ∃ link ∈ entity.links, link.parent = parent

/-- The foreign keys of an entity are present and equal the primary keys of another one, which is
in the table that the relationship leads to. -/
def Refers (store : EntityStore) (relationship : Relationship) (child parent : EntityId) : Prop :=
  (∃ entity, store.get? parent = some entity ∧ entity.table = relationship.primaryTable) ∧
    ∃ primary foreign, keyValues store parent relationship.primaryKeys = some primary ∧
      keyValues store child relationship.foreignKeys = some foreign ∧
      Value.sameItems primary foreign = true

/-- An entity refers to another one through a relationship that was found for it. -/
def Related (store : EntityStore) (found : List (EntityId × RelationshipSet))
    (child parent : EntityId) : Prop :=
  ∃ set, (child, set) ∈ found ∧ ∃ relationship ∈ set.parents, Refers store relationship child parent

/-- The relationships that the tables of some entities have, each asked for in turn; a question
that is not answered gives none. -/
def relationshipSets {σ : Type} (schema : SchemaSource σ) (store : EntityStore) :
    List EntityId → StateM σ (List (EntityId × RelationshipSet))
  | [] => return []
  | id :: rest => do
      match store.get? id with
      | none => relationshipSets schema store rest
      | some entity =>
          match ← schema.relationships entity.table with
          | .error _ => relationshipSets schema store rest
          | .ok set => return (id, set) :: (← relationshipSets schema store rest)

variable {σ : Type} {schema : SchemaSource σ} {store : EntityStore} {nodes : List EntityId}

/-- The check of keys decides whether an entity refers to another one. -/
theorem refers_to_iff {relationship : Relationship} {child parent : EntityId} :
    refersTo store relationship child parent = true ↔ Refers store relationship child parent := by
  simp only [refersTo, Bool.and_eq_true, Refers, Option.any_eq_true, decide_eq_true_eq]
  refine and_congr_right fun _ => ?_
  split
  · next foreign primary hforeign hprimary =>
    simp [hforeign, hprimary]
  · next hmissing =>
    simp only [Bool.false_eq_true, false_iff]
    rintro ⟨primary, foreign, hprimary, hforeign, -⟩
    exact hmissing foreign primary hforeign hprimary

/-! ## Pairs of places -/

/-- Of distinct nodes, the last place of one is its only place. -/
theorem last_place_eq_some_iff (hnodup : nodes.Nodup) {id : EntityId} {place : Nat} :
    lastPlace nodes id = some place ↔ nodes[place]? = some id := by
  have hsound : ∀ found, lastPlace nodes id = some found → nodes[found]? = some id := by
    intro found h
    rw [lastPlace, Option.map_eq_some_iff] at h
    obtain ⟨⟨node, found'⟩, hlast, rfl⟩ := h
    have hmem := List.mem_of_getLast? hlast
    simp only [List.mem_filter, decide_eq_true_eq] at hmem
    obtain ⟨hmem, rfl⟩ := hmem
    exact List.mem_zipIdx_iff_getElem?.1 hmem
  refine ⟨hsound place, fun h => ?_⟩
  cases hlast : lastPlace nodes id with
  | none =>
      rw [lastPlace, Option.map_eq_none_iff, List.getLast?_eq_none_iff] at hlast
      have hmem : (id, place) ∈ nodes.zipIdx.filter fun node => node.1 = id :=
        List.mem_filter.2 ⟨List.mem_zipIdx_iff_getElem?.2 h, by simp⟩
      rw [hlast] at hmem
      exact absurd hmem List.not_mem_nil
  | some found =>
      obtain ⟨hplace, hnode⟩ := List.getElem?_eq_some_iff.1 h
      obtain ⟨hfound, hnode'⟩ := List.getElem?_eq_some_iff.1 (hsound found hlast)
      rw [hnodup.getElem_inj_iff.1 (hnode'.trans hnode.symm)]

/-- The links among some nodes, as pairs of places. -/
theorem mem_link_edges (hnodup : nodes.Nodup) {edge : Nat × Nat} :
    edge ∈ linkEdges store nodes ↔ ∃ parent child, nodes[edge.1]? = some parent ∧
      nodes[edge.2]? = some child ∧ Linked store child parent := by
  obtain ⟨before, after⟩ := edge
  simp only [linkEdges, List.mem_flatMap, List.mem_filterMap, Option.map_eq_some_iff,
    last_place_eq_some_iff hnodup, Prod.mk.injEq]
  constructor
  · rintro ⟨⟨child, place⟩, hchild, link, hlink, found, hparent, rfl, rfl⟩
    refine ⟨link.parent, child, hparent, List.mem_zipIdx_iff_getElem?.1 hchild, ?_⟩
    cases hentity : store.get? child with
    | none => simp [hentity] at hlink
    | some entity => exact ⟨entity, hentity, link, by simpa [hentity] using hlink, rfl⟩
  · rintro ⟨parent, child, hparent, hchild, entity, hentity, link, hlink, rfl⟩
    exact ⟨(child, after), List.mem_zipIdx_iff_getElem?.2 hchild, link,
      by simpa [hentity] using hlink, before, hparent, rfl, rfl⟩

/-- The references of one child through some relationships, as pairs of places. -/
theorem mem_parents_of {relationships : List Relationship} {id : EntityId} {child : Nat}
    {edge : Nat × Nat} :
    edge ∈ parentsOf store nodes relationships id child ↔ edge.2 = child ∧ edge.1 ≠ child ∧
      ∃ parent, nodes[edge.1]? = some parent ∧
        ∃ relationship ∈ relationships, Refers store relationship id parent := by
  obtain ⟨before, after⟩ := edge
  simp only [parentsOf, List.mem_flatMap, List.mem_filterMap]
  constructor
  · rintro ⟨relationship, hrelationship, ⟨parent, place⟩, hparent, hedge⟩
    split at hedge
    · next hrefers =>
      obtain ⟨rfl, rfl⟩ := Prod.mk.injEq .. ▸ Option.some.inj hedge
      exact ⟨rfl, hrefers.1, parent, List.mem_zipIdx_iff_getElem?.1 hparent, relationship,
        hrelationship, refers_to_iff.1 hrefers.2⟩
    · cases hedge
  · rintro ⟨rfl, hne, parent, hparent, relationship, hrelationship, hrefers⟩
    refine ⟨relationship, hrelationship, (parent, before),
      List.mem_zipIdx_iff_getElem?.2 hparent, ?_⟩
    rw [if_pos ⟨hne, refers_to_iff.2 hrefers⟩]

/-- Relationships are found only for the entities that are asked about. -/
theorem mem_of_mem_relationship_sets {ids : List EntityId} {state : σ} {id : EntityId}
    {set : RelationshipSet} (h : (id, set) ∈ (relationshipSets schema store ids state).1) :
    id ∈ ids := by
  induction ids generalizing state with
  | nil => simp [relationshipSets] at h
  | cons head rest ih =>
      rw [relationshipSets] at h
      cases hentity : store.get? head with
      | none =>
          simp only [hentity] at h
          exact List.mem_cons_of_mem _ (ih h)
      | some entity =>
          simp only [hentity, Action.bind_apply] at h
          cases hanswer : (schema.relationships entity.table state).1 with
          | error cause =>
              simp only [hanswer] at h
              exact List.mem_cons_of_mem _ (ih h)
          | ok found =>
              simp only [hanswer, Action.bind_apply, Action.pure_apply, List.mem_cons,
                Prod.mk.injEq] at h
              rcases h with ⟨rfl, -⟩ | h
              · exact List.mem_cons_self
              · exact List.mem_cons_of_mem _ (ih h)

/-- An entity that was asked about once refers through the relationships of that answer. -/
theorem related_cons_self {found : List (EntityId × RelationshipSet)} {child parent : EntityId}
    {set : RelationshipSet} (hfresh : ∀ other, (child, other) ∉ found) :
    Related store ((child, set) :: found) child parent ↔
      ∃ relationship ∈ set.parents, Refers store relationship child parent := by
  constructor
  · rintro ⟨other, hother, hrefers⟩
    rcases List.mem_cons.1 hother with hsame | hother
    · cases hsame
      exact hrefers
    · exact absurd hother (hfresh other)
  · intro hrefers
    exact ⟨set, List.mem_cons_self, hrefers⟩

/-- What was found for one entity does not matter for another one. -/
theorem related_cons_of_ne {found : List (EntityId × RelationshipSet)}
    {head child parent : EntityId} {set : RelationshipSet} (hne : child ≠ head) :
    Related store ((head, set) :: found) child parent ↔ Related store found child parent := by
  simp [Related, hne]

/-- Some entity at a place, if places are counted from `first` on, is the first one and the place is
`first`, or it is one of the rest, for which places are counted from the next one on. -/
theorem exists_placed_cons_iff {first place : Nat} {head : EntityId} {rest : List EntityId}
    {holds : EntityId → Prop} :
    (∃ offset child, place = first + offset ∧ (head :: rest)[offset]? = some child ∧ holds child) ↔
      place = first ∧ holds head ∨
        ∃ offset child, place = first + 1 + offset ∧ rest[offset]? = some child ∧ holds child := by
  constructor
  · rintro ⟨offset, child, hplace, hchild, hholds⟩
    cases offset with
    | zero =>
        cases hchild
        exact .inl ⟨hplace, hholds⟩
    | succ offset => exact .inr ⟨offset, child, by omega, hchild, hholds⟩
  · rintro (⟨hplace, hholds⟩ | ⟨offset, child, hplace, hchild, hholds⟩)
    · exact ⟨0, head, hplace, rfl, hholds⟩
    · exact ⟨offset + 1, child, by omega, hchild, hholds⟩

/-- The references that are found among some nodes, as pairs of places. Places are counted from
`first` on for the nodes that are asked about. -/
theorem key_edges_from_ok {ids : List EntityId} (hnodup : ids.Nodup) {first : Nat}
    {state after : σ} {edges : List (Nat × Nat)}
    (h : keyEdgesFrom schema store nodes first ids state = (.ok edges, after)) :
    (relationshipSets schema store ids state).2 = after ∧
      ∀ edge, edge ∈ edges ↔ edge.1 ≠ edge.2 ∧ ∃ offset child,
        edge.2 = first + offset ∧ ids[offset]? = some child ∧ ∃ parent,
          nodes[edge.1]? = some parent ∧
          Related store (relationshipSets schema store ids state).1 child parent := by
  induction ids generalizing first state edges with
  | nil =>
      cases h
      exact ⟨rfl, by simp⟩
  | cons head rest ih =>
      obtain ⟨hfresh, hnodup⟩ := List.nodup_cons.1 hnodup
      rw [keyEdgesFrom] at h
      rw [relationshipSets]
      simp only [exists_placed_cons_iff]
      cases hentity : store.get? head with
      | none =>
          simp only [hentity] at h
          obtain ⟨hafter, hedges⟩ := ih hnodup h
          refine ⟨hafter, fun edge => (hedges edge).trans (and_congr_right fun _ => ?_)⟩
          -- Nothing was found for the head, about which nobody was asked.
          refine (or_iff_right ?_).symm
          rintro ⟨-, parent, -, set, hset, -⟩
          exact hfresh (mem_of_mem_relationship_sets hset)
      | some entity =>
          simp only [hentity, Action.bind_apply] at h ⊢
          cases hanswer : (schema.relationships entity.table state).1 with
          | error cause =>
              simp only [hanswer] at h
              cases h
          | ok set =>
              simp only [hanswer, Action.bind_apply, Action.pure_apply] at h ⊢
              obtain ⟨others, hothers, rfl⟩ := Action.map_eq_ok_iff.1 (congrArg Prod.fst h)
              have hlast := congrArg Prod.snd h
              obtain ⟨hafter, hedges⟩ := ih hnodup (Prod.ext hothers hlast)
              have hunasked : ∀ other, (head, other) ∉ (relationshipSets schema store rest
                  (schema.relationships entity.table state).2).1 := fun other hother =>
                hfresh (mem_of_mem_relationship_sets hother)
              refine ⟨hafter, fun edge => ?_⟩
              rw [List.mem_append, mem_parents_of, hedges, and_or_left]
              refine or_congr ?_ (and_congr_right fun _ => ?_)
              · simp only [related_cons_self hunasked]
                constructor
                · rintro ⟨rfl, hne, hparent⟩
                  exact ⟨hne, rfl, hparent⟩
                · rintro ⟨hne, rfl, hparent⟩
                  exact ⟨rfl, hne, hparent⟩
              · refine exists_congr fun offset => exists_congr fun child =>
                  and_congr_right fun _ => and_congr_right fun hchild => ?_
                have hother : child ≠ head := by
                  rintro rfl
                  exact hfresh (List.mem_of_getElem? hchild)
                simp only [related_cons_of_ne hother]

/-- If every question about relationships is answered, the references are found. -/
theorem key_edges_from_answered
    (hanswers : ∀ table state, ∃ set, (schema.relationships table state).1 = .ok set)
    (ids : List EntityId) (first : Nat) (state : σ) :
    ∃ edges, (keyEdgesFrom schema store nodes first ids state).1 = .ok edges := by
  induction ids generalizing first state with
  | nil => exact ⟨[], rfl⟩
  | cons head rest ih =>
      rw [keyEdgesFrom]
      cases hentity : store.get? head with
      | none => exact ih (first + 1) state
      | some entity =>
          obtain ⟨set, hset⟩ := hanswers entity.table state
          obtain ⟨edges, hedges⟩ := ih (first + 1) (schema.relationships entity.table state).2
          simp only [Action.bind_apply, hset, Action.pure_apply, hedges]
          exact ⟨_, rfl⟩

/-- The references among some nodes, as pairs of places. -/
theorem mem_key_edges (hnodup : nodes.Nodup) {state after : σ} {edges : List (Nat × Nat)}
    (h : keyEdges schema store nodes state = (.ok edges, after)) {edge : Nat × Nat} :
    edge ∈ edges ↔ edge.1 ≠ edge.2 ∧ ∃ parent child, nodes[edge.1]? = some parent ∧
      nodes[edge.2]? = some child ∧
      Related store (relationshipSets schema store nodes state).1 child parent := by
  rw [(key_edges_from_ok hnodup h).2 edge]
  refine and_congr_right fun _ => ?_
  constructor
  · rintro ⟨offset, child, hplace, hchild, parent, hparent, hrelated⟩
    obtain rfl : edge.2 = offset := by omega
    exact ⟨parent, child, hparent, hchild, hrelated⟩
  · rintro ⟨parent, child, hparent, hchild, hrelated⟩
    exact ⟨edge.2, child, by omega, hchild, parent, hparent, hrelated⟩

/-- If every question about relationships is answered, the references among nodes are found. -/
theorem key_edges_answered (hnodup : nodes.Nodup)
    (hanswers : ∀ table state, ∃ set, (schema.relationships table state).1 = .ok set)
    (state : σ) : ∃ edges, keyEdges schema store nodes state
      = (.ok edges, (relationshipSets schema store nodes state).2) := by
  obtain ⟨edges, hedges⟩ : ∃ edges, (keyEdges schema store nodes state).1 = .ok edges :=
    key_edges_from_answered hanswers nodes 0 state
  exact ⟨edges, Prod.ext hedges (key_edges_from_ok hnodup (Prod.ext hedges rfl)).1.symm⟩

/-! ## From pairs of places to entities -/

/-- Links among some nodes, as dependencies between them. -/
theorem between_link_edges (hnodup : nodes.Nodup) {parent child : EntityId} :
    Between nodes (linkEdges store nodes) parent child ↔
      parent ∈ nodes ∧ child ∈ nodes ∧ Linked store child parent := by
  constructor
  · rintro ⟨edge, hedge, hparent, hchild⟩
    obtain ⟨parent', child', hparent', hchild', hlinked⟩ := (mem_link_edges hnodup).1 hedge
    obtain rfl := Option.some.inj (hparent.symm.trans hparent')
    obtain rfl := Option.some.inj (hchild.symm.trans hchild')
    exact ⟨List.mem_of_getElem? hparent, List.mem_of_getElem? hchild, hlinked⟩
  · rintro ⟨hparent, hchild, hlinked⟩
    obtain ⟨before, hbefore⟩ := List.mem_iff_getElem?.1 hparent
    obtain ⟨after, hafter⟩ := List.mem_iff_getElem?.1 hchild
    exact ⟨(before, after), (mem_link_edges hnodup).2 ⟨parent, child, hbefore, hafter, hlinked⟩,
      hbefore, hafter⟩

/-- References among some nodes, as dependencies between them. -/
theorem between_key_edges (hnodup : nodes.Nodup) {state after : σ} {edges : List (Nat × Nat)}
    (h : keyEdges schema store nodes state = (.ok edges, after)) {parent child : EntityId} :
    Between nodes edges parent child ↔ parent ∈ nodes ∧ child ∈ nodes ∧ parent ≠ child ∧
      Related store (relationshipSets schema store nodes state).1 child parent := by
  constructor
  · rintro ⟨edge, hedge, hparent, hchild⟩
    obtain ⟨hne, parent', child', hparent', hchild', hrelated⟩ := (mem_key_edges hnodup h).1 hedge
    obtain rfl := Option.some.inj (hparent.symm.trans hparent')
    obtain rfl := Option.some.inj (hchild.symm.trans hchild')
    refine ⟨List.mem_of_getElem? hparent, List.mem_of_getElem? hchild, ?_, hrelated⟩
    rintro rfl
    obtain ⟨hbefore, hleft⟩ := List.getElem?_eq_some_iff.1 hparent
    obtain ⟨hafter, hright⟩ := List.getElem?_eq_some_iff.1 hchild
    exact hne (hnodup.getElem_inj_iff.1 (hleft.trans hright.symm))
  · rintro ⟨hparent, hchild, hne, hrelated⟩
    obtain ⟨before, hbefore⟩ := List.mem_iff_getElem?.1 hparent
    obtain ⟨after, hafter⟩ := List.mem_iff_getElem?.1 hchild
    refine ⟨(before, after), (mem_key_edges hnodup h).2
      ⟨?_, parent, child, hbefore, hafter, hrelated⟩, hbefore, hafter⟩
    rintro (rfl : before = after)
    exact hne (Option.some.inj (hbefore.symm.trans hafter))

/-- The pairs of two lists stand for the dependencies of both. -/
theorem between_append {left right : List (Nat × Nat)} {first second : EntityId} :
    Between nodes (left ++ right) first second ↔
      Between nodes left first second ∨ Between nodes right first second := by
  simp only [Between, List.mem_append, or_and_right, exists_or]

/-- Turned pairs stand for turned dependencies. -/
theorem between_swap {edges : List (Nat × Nat)} {first second : EntityId} :
    Between nodes (edges.map Prod.swap) first second ↔ Between nodes edges second first := by
  simp only [Between, List.mem_map]
  constructor
  · rintro ⟨-, ⟨edge, hedge, rfl⟩, hfirst, hsecond⟩
    exact ⟨edge, hedge, hsecond, hfirst⟩
  · rintro ⟨edge, hedge, hsecond, hfirst⟩
    exact ⟨edge.swap, ⟨edge, hedge, rfl⟩, hfirst, hsecond⟩

end Orm.WritePlan
