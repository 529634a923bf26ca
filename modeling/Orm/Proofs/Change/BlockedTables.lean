import Mathlib.Data.List.Sort
import Mathlib.Data.Set.Finite.Basic
import Mathlib.Order.WellFoundedSet
import Orm.Proofs.Change.Arrangement
import Orm.Proofs.Change.LeastOrder

/-!
# The tables of blocked nodes

A run leaves over exactly the numbers that are on a cycle of pairs or behind one
(`mem_blocked_iff`). So `WritePlan.ordered` either puts its nodes in the least order that respects
the pairs, or names the tables of the nodes on cycles and behind them (`least_order_or_cycle`).
-/

namespace Orm.DependencyOrder

variable {count : Nat} {edges : List (Nat × Nat)}

/-! ## Cycles and what is behind them -/

/-- A number is on a cycle of pairs, or behind one. -/
def Entangled (edges : List (Nat × Nat)) (node : Nat) : Prop :=
  ∃ knot, LeadsTo edges knot knot ∧ (knot = node ∨ LeadsTo edges knot node)

/-- What an entangled number leads to is entangled. -/
theorem Entangled.tail {edge : Nat × Nat} (h : Entangled edges edge.1) (hedge : edge ∈ edges) :
    Entangled edges edge.2 := by
  obtain ⟨knot, hcycle, rfl | hleads⟩ := h
  · exact ⟨edge.1, hcycle, .inr (.single hedge)⟩
  · exact ⟨knot, hcycle, .inr (.tail hleads hedge)⟩

/-- Whatever is led to is below the bound. -/
theorem LeadsTo.lt (hbound : ∀ edge ∈ edges, edge.2 < count) {first second : Nat}
    (h : LeadsTo edges first second) : second < count := by
  cases h with
  | single hedge => exact hbound _ hedge
  | tail _ hedge => exact hbound _ hedge

/-- Entangled numbers are below the bound. -/
theorem Entangled.lt (hbound : ∀ edge ∈ edges, edge.2 < count) {node : Nat}
    (h : Entangled edges node) : node < count := by
  obtain ⟨knot, hcycle, rfl | hleads⟩ := h
  · exact hcycle.lt hbound
  · exact hleads.lt hbound

/-- No number with a place leads to itself. -/
theorem not_leads_to_self {node : Nat} (hmem : node ∈ (run count edges).sequence) :
    ¬ LeadsTo edges node node :=
  fun hcycle => Nat.lt_irrefl _ (hcycle.idx_of_lt hmem)

/-- An entangled number gets no place: the cycle before it would have to be placed first. -/
theorem Entangled.not_mem {node : Nat} (h : Entangled edges node) :
    node ∉ (run count edges).sequence := by
  obtain ⟨knot, hcycle, rfl | hleads⟩ := h
  · exact fun hmem => not_leads_to_self hmem hcycle
  · intro hmem
    have hbefore := Nat.lt_trans (hleads.idx_of_lt hmem) (List.idxOf_lt_length_of_mem hmem)
    exact not_leads_to_self (List.idxOf_lt_length_iff.1 hbefore) hcycle

/-- A number that is not entangled gets its place. -/
theorem mem_sequence_of_not_entangled (hbound : ∀ edge ∈ edges, edge.1 < count) {node : Nat}
    (hnode : node < count) (hfree : ¬ Entangled edges node) :
    node ∈ (run count edges).sequence := by
  let before first second := LeadsTo edges first second ∧ ¬ Entangled edges second
  have horder : IsStrictOrder Nat before :=
    { irrefl := fun node hself => hself.2 ⟨node, hself.1, .inl rfl⟩
      trans := fun _ _ _ hfirst hsecond => ⟨.trans hfirst.1 hsecond.1, hsecond.2⟩ }
  have hwell : WellFounded fun first second =>
      before first second ∧ first < count ∧ second < count :=
    Set.wellFoundedOn_iff.1 (Set.finite_lt_nat count).wellFoundedOn
  -- On what leads to the number: there is no cycle among that, so no endless way back.
  induction node using hwell.induction with
  | h node ih =>
      refine mem_sequence_of_forall_edge hnode ?_
      rintro edge hedge rfl
      have hbefore := hbound edge hedge
      exact ih edge.1 ⟨⟨.single hedge, hfree⟩, hbefore, hnode⟩ hbefore
        fun hentangled => hfree (hentangled.tail hedge)

/-- In the end exactly the numbers without a place are still held back. -/
theorem mem_blocked_iff_not_mem {node : Nat} :
    node ∈ (run count edges).blocked ↔ node < count ∧ node ∉ (run count edges).sequence := by
  have h := invariant_run count edges
  simp only [blocked, h.waiting_length, List.mem_filter, List.mem_range]
  refine and_congr_right fun hnode => ?_
  rw [h.waiting node hnode, Option.any_some, decide_eq_true_eq, Nat.pos_iff_ne_zero]
  refine not_congr ⟨fun hzero => ?_, fun hmem => ?_⟩
  · exact mem_sequence_of_forall_edge hnode fun edge hedge hafter =>
      List.mem_reverse.2 (holding_eq_zero_iff.1 hzero edge hedge hafter)
  · exact holding_eq_zero_iff.2 fun edge hedge hafter =>
      h.grounded.mem_of_edge hedge (hafter ▸ List.mem_reverse.1 hmem)

/-- A number is still held back in the end if and only if it is on a cycle or behind one. -/
theorem mem_blocked_iff (hbound : ∀ edge ∈ edges, edge.1 < count ∧ edge.2 < count) {node : Nat} :
    node ∈ (run count edges).blocked ↔ Entangled edges node := by
  rw [mem_blocked_iff_not_mem]
  constructor
  · rintro ⟨hnode, hfresh⟩
    by_contra hfree
    exact hfresh
      (mem_sequence_of_not_entangled (fun edge hedge => (hbound edge hedge).1) hnode hfree)
  · intro hentangled
    exact ⟨hentangled.lt fun edge hedge => (hbound edge hedge).2, hentangled.not_mem⟩

/-- A run leaves no number over if and only if there is no cycle. -/
theorem length_sequence_iff (hbound : ∀ edge ∈ edges, edge.1 < count ∧ edge.2 < count) :
    (run count edges).sequence.length = count ↔ ∀ node, ¬ LeadsTo edges node node := by
  constructor
  · intro hlength node hcycle
    have hnode := hcycle.lt fun edge hedge => (hbound edge hedge).2
    exact not_leads_to_self
      ((sequence_perm_range hlength).mem_iff.2 (List.mem_range.2 hnode)) hcycle
  · intro hnone
    refine length_sequence_of_forall_mem fun node hnode => ?_
    refine mem_sequence_of_not_entangled (fun edge hedge => (hbound edge hedge).1) hnode ?_
    rintro ⟨knot, hcycle, -⟩
    exact hnone knot hcycle

end Orm.DependencyOrder

namespace Orm.WritePlan

open DependencyOrder

/-! ## Sorted names -/

/-- What collapsing runs of a name adds to the names that are collected. -/
theorem erase_reps_loop (head : String) (rest collected : List String) :
    List.eraseRepsBy.loop (· == ·) head rest collected
      = collected.reverse ++ (head :: rest).eraseReps := by
  induction rest generalizing head collected with
  | nil => simp [List.eraseReps, List.eraseRepsBy, List.eraseRepsBy.loop]
  | cons next rest ih =>
      simp only [List.eraseReps, List.eraseRepsBy, List.eraseRepsBy.loop]
      split
      · exact ih head collected
      · rw [ih, ih, List.reverse_cons, List.append_assoc]
        rfl

/-- Of two equal names in a row one is kept. -/
theorem erase_reps_cons_cons (first second : String) (rest : List String) :
    (first :: second :: rest).eraseReps
      = if first = second then (second :: rest).eraseReps
        else first :: (second :: rest).eraseReps := by
  split
  · next hsame =>
    subst hsame
    simp [List.eraseReps, List.eraseRepsBy, List.eraseRepsBy.loop]
  · next hne =>
    show List.eraseRepsBy.loop (· == ·) first (second :: rest) [] = _
    rw [List.eraseRepsBy.loop, beq_false_of_ne hne]
    exact erase_reps_loop second rest [first]

/-- No name is lost when runs are collapsed. -/
theorem mem_erase_reps {names : List String} {name : String} :
    name ∈ names.eraseReps ↔ name ∈ names := by
  induction names with
  | nil => rfl
  | cons first rest ih =>
      cases rest with
      | nil => rfl
      | cons second rest =>
          rw [erase_reps_cons_cons]
          split
          · next hsame => simp [ih, hsame]
          · rw [List.mem_cons, ih, ← List.mem_cons]

/-- Names in order differ from each other once runs are collapsed. -/
theorem ascending_erase_reps {names : List String} (h : names.Pairwise (· ≤ ·)) :
    names.eraseReps.Pairwise (· < ·) := by
  induction names with
  | nil => exact .nil
  | cons first rest ih =>
      cases rest with
      | nil => exact List.pairwise_singleton _ first
      | cons second rest =>
          obtain ⟨hfirst, hrest⟩ := List.pairwise_cons.1 h
          obtain ⟨hsecond, -⟩ := List.pairwise_cons.1 hrest
          rw [erase_reps_cons_cons]
          split
          · exact ih hrest
          · next hne =>
            refine List.pairwise_cons.2 ⟨fun name hname => ?_, ih hrest⟩
            have hmem := mem_erase_reps.1 hname
            have hdiffers : name ≠ first := by
              rintro rfl
              rcases List.mem_cons.1 hmem with hsame | hlater
              · exact hne hsame
              · exact hne (String.le_antisymm (hfirst second List.mem_cons_self)
                  (hsecond name hlater))
            exact NameMap.lt_of_not_lt_of_ne (String.not_lt.2 (hfirst name hmem)) hdiffers

/-- Sorted names are the given ones. -/
theorem mem_sorted_names {names : List String} {name : String} :
    name ∈ sortedNames names ↔ name ∈ names := by
  rw [sortedNames, mem_erase_reps, List.mem_mergeSort]

/-- Sorted names ascend. -/
theorem ascending_sorted_names (names : List String) :
    (sortedNames names).Pairwise (· < ·) := by
  have hsorted : (names.mergeSort fun left right => left ≤ right).Pairwise
      fun left right => decide (left ≤ right) = true := by
    refine List.pairwise_mergeSort (fun first second third hfirst hsecond => ?_)
      (fun left right => ?_) names
    · exact decide_eq_true (String.le_trans (of_decide_eq_true hfirst) (of_decide_eq_true hsecond))
    · simpa using String.le_total left right
  exact ascending_erase_reps (hsorted.imp of_decide_eq_true)

/-! ## Orders and reports -/

/-- Ascending names, those of the tables of exactly the nodes that are on a cycle of pairs or behind
one. -/
structure NamesEntangled (store : EntityStore) (nodes : List EntityId) (edges : List (Nat × Nat))
    (tables : List String) : Prop where
  ascending : tables.Pairwise (· < ·)
  mem_iff : ∀ name, name ∈ tables ↔ ∃ place id entity, Entangled edges place ∧
    nodes[place]? = some id ∧ store.get? id = some entity ∧ entity.table.fullName = name

/-- There is one such list of names. -/
theorem NamesEntangled.unique {store : EntityStore} {nodes : List EntityId}
    {edges : List (Nat × Nat)} {tables others : List String}
    (h : NamesEntangled store nodes edges tables)
    (hothers : NamesEntangled store nodes edges others) : tables = others := by
  have : Std.Irrefl fun left right : String => left < right := ⟨String.lt_irrefl⟩
  have : Std.Antisymm fun left right : String => left < right :=
    ⟨fun left _ hless hgreater => absurd (String.lt_trans hless hgreater) (String.lt_irrefl left)⟩
  exact h.ascending.eq_of_mem_iff hothers.ascending fun name =>
    (h.mem_iff name).trans (hothers.mem_iff name).symm

variable {store : EntityStore} {nodes : List EntityId} {edges : List (Nat × Nat)}

/-- Nodes with a cycle are refused, with the tables of those on a cycle or behind one. -/
theorem ordered_of_cycle (store : EntityStore)
    (hbound : ∀ edge ∈ edges, edge.1 < nodes.length ∧ edge.2 < nodes.length) {knot : Nat}
    (hcycle : LeadsTo edges knot knot) :
    ∃ tables, ordered store nodes edges = .error (.dependencyCycle tables) ∧
      NamesEntangled store nodes edges tables := by
  have hleft : (run nodes.length edges).sequence.length ≠ nodes.length := fun hlength =>
    (length_sequence_iff hbound).1 hlength knot hcycle
  refine ⟨_, ordered_of_length_ne hleft, ascending_sorted_names _, fun name => ?_⟩
  simp only [mem_sorted_names, List.mem_filterMap, mem_blocked_iff hbound, Option.bind_eq_some_iff,
    Option.map_eq_some_iff]
  constructor
  · rintro ⟨place, hentangled, id, hid, entity, hentity, hname⟩
    exact ⟨place, id, entity, hentangled, hid, hentity, hname⟩
  · rintro ⟨place, id, entity, hentangled, hid, hentity, hname⟩
    exact ⟨place, hentangled, id, hid, entity, hentity, hname⟩

/-- An order is the least one that respects the pairs. -/
theorem ordered_eq_ok_iff (hbound : ∀ edge ∈ edges, edge.1 < nodes.length ∧ edge.2 < nodes.length)
    {order : List EntityId} : ordered store nodes edges = .ok order ↔
      ∃ places, IsLeast {sequence | Respects nodes.length edges sequence} places ∧
        order = places.filterMap fun place => nodes[place]? := by
  constructor
  · intro hok
    have hlength : (run nodes.length edges).sequence.length = nodes.length := by
      refine (length_sequence_iff hbound).2 fun knot hcycle => ?_
      obtain ⟨tables, herror, -⟩ := ordered_of_cycle store hbound hcycle
      cases hok.symm.trans herror
    cases (ordered_of_length_eq hlength).symm.trans hok
    exact ⟨_, (is_least_iff hbound).2 ⟨hlength, rfl⟩, rfl⟩
  · rintro ⟨places, hleast, rfl⟩
    obtain ⟨hlength, rfl⟩ := (is_least_iff hbound).1 hleast
    exact ordered_of_length_eq hlength

/-- A refusal means that there is a cycle, and names the tables. -/
theorem ordered_eq_error_iff
    (hbound : ∀ edge ∈ edges, edge.1 < nodes.length ∧ edge.2 < nodes.length)
    {error : PersistError} : ordered store nodes edges = .error error ↔
      (∃ knot, LeadsTo edges knot knot) ∧
        ∃ tables, error = .dependencyCycle tables ∧ NamesEntangled store nodes edges tables := by
  constructor
  · intro herror
    have hcycle : ∃ knot, LeadsTo edges knot knot := by
      by_contra hnone
      have hlength := (length_sequence_iff hbound).2 (not_exists.1 hnone)
      cases (ordered_of_length_eq hlength).symm.trans herror
    obtain ⟨knot, hknot⟩ := hcycle
    obtain ⟨tables, hrefused, hnames⟩ := ordered_of_cycle store hbound hknot
    cases hrefused.symm.trans herror
    exact ⟨⟨knot, hknot⟩, tables, rfl, hnames⟩
  · rintro ⟨⟨knot, hknot⟩, tables, rfl, hnames⟩
    obtain ⟨others, hrefused, hothers⟩ := ordered_of_cycle store hbound hknot
    rw [hrefused, hothers.unique hnames]

/-- Any nodes, and any pairs of their places, also repeated ones and pairs of a place with itself.
Whenever a node is released, a pair still holds it back. Nodes are put in an order if and only if it
is the least one, compared by the places that they had, that has the first of every pair ahead of
the second. So a node stays ahead of a later one if whatever it waits for stood before that one, or
that one waits for it too; nodes in no pair at all keep the order that they had. Nodes are refused
if and only if there is a cycle, with the tables of those on cycles and behind them, ascending and
each once. -/
theorem least_order_or_cycle (store : EntityStore) (nodes : List EntityId)
    (edges : List (Nat × Nat))
    (hbound : ∀ edge ∈ edges, edge.1 < nodes.length ∧ edge.2 < nodes.length) :
    guardedRun nodes.length edges = some (run nodes.length edges) ∧
      (∀ order, ordered store nodes edges = .ok order ↔
        ∃ places, IsLeast {sequence | Respects nodes.length edges sequence} places ∧
          order = places.filterMap fun place => nodes[place]?) ∧
      (∀ places, IsLeast {sequence | Respects nodes.length edges sequence} places →
        ∀ first second, first < second → second < nodes.length →
          (∀ other, LeadsTo edges other first → other < second ∨ LeadsTo edges other second) →
          places.idxOf first < places.idxOf second) ∧
      ∀ error, ordered store nodes edges = .error error ↔
        (∃ knot, LeadsTo edges knot knot) ∧
          ∃ tables, error = .dependencyCycle tables ∧
            NamesEntangled store nodes edges tables := by
  refine ⟨guarded_run_eq fun edge hedge => (hbound edge hedge).2,
    fun _ => ordered_eq_ok_iff hbound, fun places hleast => ?_,
    fun _ => ordered_eq_error_iff hbound⟩
  obtain ⟨hlength, rfl⟩ := (is_least_iff hbound).1 hleast
  exact fun first second hless hsecond hfree => idx_of_lt_of_unhindered hlength hless hsecond hfree

/-- An employee, an order and another employee, all new. -/
def staffAndOrder : EntityStore :=
  let row name := Entity.fresh (Table.named "dbo" name) .empty none
  ⟨#[row "Employees", row "Orders", row "Employees"]⟩

/-- The first employee waits for the second one, and that one for the first. -/
theorem employees_on_cycle : LeadsTo [(2, 0), (0, 1), (0, 2)] 0 0 :=
  .tail (.single (by decide : (0, 2) ∈ _)) (by decide)

/-- The two employees hold back an order of the first one: both tables are reported, once each. -/
theorem names_of_staff_and_order :
    NamesEntangled staffAndOrder [⟨0⟩, ⟨1⟩, ⟨2⟩] [(2, 0), (0, 1), (0, 2)]
      ["dbo.Employees", "dbo.Orders"] where
  ascending := by decide
  mem_iff := by
    intro name
    constructor
    · intro hname
      rcases List.mem_pair.1 hname with rfl | rfl
      · exact ⟨0, ⟨0⟩, _, ⟨0, employees_on_cycle, .inl rfl⟩, rfl, rfl, by decide⟩
      · exact ⟨1, ⟨1⟩, _, ⟨0, employees_on_cycle, .inr (.single (by decide))⟩, rfl, rfl, by decide⟩
    · rintro ⟨place, id, entity, -, hid, hentity, rfl⟩
      match place with
      | 0 | 1 | 2 =>
        cases hid
        cases hentity
        decide
      | _ + 3 => cases hid

/-- The cycle is refused with these tables. If the first employee only waits for the second one,
noted twice, then the order comes first, and the first employee last. -/
theorem staff_and_order_ordered :
    ordered staffAndOrder [⟨0⟩, ⟨1⟩, ⟨2⟩] [(2, 0), (0, 1), (0, 2)]
        = .error (.dependencyCycle ["dbo.Employees", "dbo.Orders"]) ∧
      ∃ places, IsLeast {sequence | Respects 3 [(2, 0), (2, 0)] sequence} places ∧
        [⟨1⟩, ⟨2⟩, ⟨0⟩] = places.filterMap fun place => [⟨0⟩, ⟨1⟩, (⟨2⟩ : EntityId)][place]? := by
  obtain ⟨-, -, -, hrefused⟩ := least_order_or_cycle staffAndOrder [⟨0⟩, ⟨1⟩, ⟨2⟩]
    [(2, 0), (0, 1), (0, 2)] (by decide)
  obtain ⟨-, hordered, -⟩ := least_order_or_cycle staffAndOrder [⟨0⟩, ⟨1⟩, ⟨2⟩]
    [(2, 0), (2, 0)] (by decide)
  exact ⟨(hrefused _).2 ⟨⟨0, employees_on_cycle⟩, _, rfl, names_of_staff_and_order⟩,
    (hordered _).1 rfl⟩

end Orm.WritePlan
