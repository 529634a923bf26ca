import Mathlib.Data.List.Induction
import Orm.Proofs.Data.NameMap
import Orm.Schema.Snapshot

/-!
# Merged snapshots

What two snapshots know together is a union in which the first one counts: maps by their names,
procedures by their derived names and individuals by themselves (`merge_left_biased_union`). A list
gains its `newcomers`, the items whose key is new.
-/

namespace Orm

/-! ## Lists that gain what is new -/

section Newcomers

variable {α κ : Type} [DecidableEq κ]

/-- Adds an item unless one with its key is there. -/
def addNew (key : α → κ) (known : List α) (item : α) : List α :=
  if key item ∈ known.map key then known else known ++ [item]

/-- The items whose key neither a known one nor one before them has. -/
def newcomers (key : α → κ) (known items : List α) : List α :=
  (items.zipIdx.filter fun item => key item.1 ∉ (known ++ items.take item.2).map key).map Prod.fst

variable (key : α → κ)

/-- Of one item more it matters whether its key is there already. -/
theorem newcomers_concat (known items : List α) (item : α) :
    newcomers key known (items ++ [item])
      = newcomers key known items ++
        if key item ∈ (known ++ items).map key then [] else [item] := by
  have hbefore : ∀ entry ∈ items.zipIdx, (items ++ [item]).take entry.2 = items.take entry.2 := by
    intro entry hentry
    exact List.take_append_of_le_length (Nat.le_of_lt (List.snd_lt_of_mem_zipIdx hentry))
  have hitems : (items.zipIdx.filter fun entry =>
        key entry.1 ∉ (known ++ (items ++ [item]).take entry.2).map key)
      = items.zipIdx.filter fun entry => key entry.1 ∉ (known ++ items.take entry.2).map key :=
    List.filter_congr fun entry hentry => by rw [hbefore entry hentry]
  have htake : (items ++ [item]).take (0 + items.length) = items := by
    rw [Nat.zero_add, List.take_left]
  rw [newcomers, newcomers, List.zipIdx_append, List.filter_append, List.map_append, hitems,
    List.zipIdx_singleton, List.filter_singleton, htake]
  by_cases hthere : key item ∈ (known ++ items).map key
  · rw [if_pos hthere, decide_eq_false (not_not_intro hthere)]
    rfl
  · rw [if_neg hthere, decide_eq_true hthere]
    rfl

/-- The keys of some items are there after the items are added, and no others but those that were
there before. -/
theorem mem_keys_foldl_add_new (known items : List α) (wanted : κ) :
    wanted ∈ (items.foldl (addNew key) known).map key ↔ wanted ∈ (known ++ items).map key := by
  induction items generalizing known with
  | nil => simp
  | cons item rest ih =>
      rw [List.foldl_cons, ih, addNew]
      split
      · next hthere =>
        simp only [List.map_append, List.map_cons, List.mem_append, List.mem_cons]
        constructor
        · rintro (h | h)
          · exact .inl h
          · exact .inr (.inr h)
        · rintro (h | rfl | h)
          · exact .inl h
          · exact .inl hthere
          · exact .inr h
      · rw [List.append_assoc, List.singleton_append]

/-- A list gains the newcomers among the items that are added. -/
theorem foldl_add_new (known items : List α) :
    items.foldl (addNew key) known = known ++ newcomers key known items := by
  induction items using List.reverseRecOn with
  | nil => exact (List.append_nil known).symm
  | append_singleton items item ih =>
      rw [List.foldl_concat, newcomers_concat, ← List.append_assoc, ← ih, addNew]
      simp only [mem_keys_foldl_add_new]
      split
      · rw [List.append_nil]
      · rfl

/-- Items whose keys are there change nothing. -/
theorem foldl_add_new_of_known {known items : List α}
    (h : ∀ item ∈ items, key item ∈ known.map key) : items.foldl (addNew key) known = known := by
  induction items with
  | nil => rfl
  | cons item rest ih =>
      obtain ⟨hitem, hrest⟩ := List.forall_mem_cons.1 h
      rw [List.foldl_cons, addNew, if_pos hitem, ih hrest]

/-- An item can be added before others are or afterwards, behind them. -/
theorem foldl_add_new_of_add_new (known items : List α) (item : α) :
    (addNew key items item).foldl (addNew key) known
      = addNew key (items.foldl (addNew key) known) item := by
  rw [addNew]
  split
  · next hthere =>
    have hadded : key item ∈ (items.foldl (addNew key) known).map key := by
      rw [mem_keys_foldl_add_new, List.map_append]
      exact List.mem_append_right _ hthere
    rw [addNew, if_pos hadded]
  · rw [List.foldl_concat]

/-- Of three lists any two can be put together first. -/
theorem foldl_add_new_assoc (first second third : List α) :
    (third.foldl (addNew key) second).foldl (addNew key) first
      = third.foldl (addNew key) (second.foldl (addNew key) first) :=
  (List.foldl_hom (fun known => known.foldl (addNew key) first)
    fun known item => (foldl_add_new_of_add_new key first known item).symm).symm

/-- A newcomer is an item whose key neither a known one nor one before it has. -/
theorem mem_newcomers_iff {known items : List α} {item : α} :
    item ∈ newcomers key known items ↔
      ∃ before after, items = before ++ item :: after ∧
        key item ∉ (known ++ before).map key := by
  rw [newcomers, List.mem_map]
  constructor
  · rintro ⟨⟨_, place⟩, hentry, rfl⟩
    obtain ⟨hplace, hnew⟩ := List.mem_filter.1 hentry
    obtain ⟨hlt, hitem⟩ := List.getElem?_eq_some_iff.1 (List.mk_mem_zipIdx_iff_getElem?.1 hplace)
    refine ⟨items.take place, items.drop (place + 1), ?_, of_decide_eq_true hnew⟩
    rw [← hitem, List.getElem_cons_drop, List.take_append_drop]
  · rintro ⟨before, after, rfl, hnew⟩
    refine ⟨(item, before.length), List.mem_filter.2 ⟨?_, decide_eq_true ?_⟩, rfl⟩
    · rw [List.mk_mem_zipIdx_iff_getElem?, List.getElem?_append_right (Nat.le_refl _),
        Nat.sub_self]
      rfl
    · rwa [List.take_left]

/-- No two newcomers have one key. -/
theorem nodup_newcomers (known items : List α) : ((newcomers key known items).map key).Nodup := by
  induction items using List.reverseRecOn with
  | nil => exact List.nodup_nil
  | append_singleton items item ih =>
      rw [newcomers_concat]
      split
      · rwa [List.append_nil]
      · next hnew =>
        rw [List.map_append, List.map_singleton]
        refine List.nodup_append.2 ⟨ih, List.nodup_singleton _, ?_⟩
        intro wanted hwanted other hother hsame
        obtain rfl := List.mem_singleton.1 hother
        obtain ⟨old, hold, rfl⟩ := List.mem_map.1 hwanted
        obtain ⟨before, after, rfl, -⟩ := (mem_newcomers_iff key).1 hold
        exact hnew (hsame ▸ List.mem_map_of_mem (by simp))

/-- Of names the newcomers are those that are not known. -/
theorem mem_newcomers_id_iff {known names : List κ} {name : κ} :
    name ∈ newcomers id known names ↔ name ∈ names ∧ name ∉ known := by
  have hkeys := mem_keys_foldl_add_new id known names name
  rw [foldl_add_new, List.map_id, List.map_id, List.mem_append, List.mem_append] at hkeys
  constructor
  · intro hnew
    obtain ⟨before, after, rfl, hfresh⟩ := (mem_newcomers_iff id).1 hnew
    rw [List.map_id, List.mem_append, not_or] at hfresh
    exact ⟨by simp, hfresh.1⟩
  · rintro ⟨hname, hfresh⟩
    exact (hkeys.2 (.inr hname)).resolve_left hfresh

example : newcomers id ["Anna"] ["Ben", "Anna", "Ben", "Cleo"] = ["Ben", "Cleo"] := by decide

end Newcomers

namespace SchemaSnapshot

/-- Procedures are added by their derived names. -/
theorem add_procedure_eq : addProcedure = addNew ProcedureNode.name := by
  funext known node
  simp [addProcedure, addNew]

/-- Individuals are added by themselves. -/
theorem add_individual_eq : addIndividual = addNew id := by
  funext known name
  simp [addIndividual, addNew]

/-- The procedures of two snapshots together are those of the first and the newcomers among those of
the second. -/
theorem procedures_merge (first second : SchemaSnapshot) :
    (first.merge second).procedures
      = first.procedures ++ newcomers ProcedureNode.name first.procedures second.procedures := by
  rw [merge, add_procedure_eq, foldl_add_new]

/-- So it is with the individuals. -/
theorem individuals_merge (first second : SchemaSnapshot) :
    (first.merge second).individuals
      = first.individuals ++ newcomers id first.individuals second.individuals := by
  rw [merge, add_individual_eq, foldl_add_new]

/-- Of three snapshots together any two can be put together first. -/
theorem merge_assoc (first second third : SchemaSnapshot) :
    first.merge (second.merge third) = (first.merge second).merge third := by
  simp only [merge, NameMap.union_assoc, add_procedure_eq, add_individual_eq, foldl_add_new_assoc,
    Bool.or_assoc]

/-- A snapshot together with itself is that snapshot. -/
theorem merge_self (snapshot : SchemaSnapshot) : snapshot.merge snapshot = snapshot := by
  have hprocedures : snapshot.procedures.foldl addProcedure snapshot.procedures
      = snapshot.procedures := by
    rw [add_procedure_eq, foldl_add_new_of_known _ fun node hnode => List.mem_map_of_mem hnode]
  have hindividuals : snapshot.individuals.foldl addIndividual snapshot.individuals
      = snapshot.individuals := by
    rw [add_individual_eq, foldl_add_new_of_known _ fun name hname => List.mem_map_of_mem hname]
  simp only [merge, NameMap.union_self, hprocedures, hindividuals, Bool.or_self]

/-- A snapshot together with nothing is that snapshot. -/
theorem merge_empty (snapshot : SchemaSnapshot) : snapshot.merge .empty = snapshot := by
  simp only [merge, empty, NameMap.union_empty, List.foldl_nil, Bool.or_false]

/-- To merge snapshots is a union in which the first one counts. It is associative and idempotent,
and the empty snapshot adds nothing. Each map has the names of both; behind the procedures of the
first there are those of the second with a derived name that neither the first nor the second
before has, and behind its individuals the new ones, each once. The union is offline if one of them
is. -/
theorem merge_left_biased_union (first second third : SchemaSnapshot) :
    let merged := first.merge second
    let new := newcomers id first.individuals second.individuals
    first.merge (second.merge third) = merged.merge third ∧
    first.merge first = first ∧
    first.merge .empty = first ∧
    merged.primaryKeys.IsUnion first.primaryKeys second.primaryKeys ∧
    merged.tables.IsUnion first.tables second.tables ∧
    merged.columns.IsUnion first.columns second.columns ∧
    merged.relationships.IsUnion first.relationships second.relationships ∧
    merged.procedureParams.IsUnion first.procedureParams second.procedureParams ∧
    merged.packages.IsUnion first.packages second.packages ∧
    merged.procedures
      = first.procedures ++ newcomers ProcedureNode.name first.procedures second.procedures ∧
    merged.individuals = first.individuals ++ new ∧ new.Nodup ∧
    (∀ name, name ∈ new ↔ name ∈ second.individuals ∧ name ∉ first.individuals) ∧
    (merged.isOffline = true ↔ first.isOffline = true ∨ second.isOffline = true) := by
  intro merged new
  refine ⟨merge_assoc first second third, merge_self first, merge_empty first,
    NameMap.is_union .., NameMap.is_union .., NameMap.is_union .., NameMap.is_union ..,
    NameMap.is_union .., NameMap.is_union .., procedures_merge first second,
    individuals_merge first second, ?_, fun name => mem_newcomers_id_iff, Bool.or_eq_true_iff⟩
  simpa using nodup_newcomers id first.individuals second.individuals

end SchemaSnapshot

end Orm
