import Mathlib.Data.List.Lex
import Mathlib.Logic.Relation
import Mathlib.Order.Bounds.Defs
import Orm.Proofs.Change.DependencyOrder

/-!
# The least order

A run releases a number only while a pair still holds it back (`guarded_run_eq`). Its next number is
always the least of those that nothing holds back (`greedy_run`), and that makes its order the least
one of all that respect the pairs, compared number by number (`is_least_iff`). A number stays ahead
of a greater one if whatever it waits for is less than that one, or awaited by that one too
(`idx_of_lt_of_unhindered`).
-/

namespace Orm.DependencyOrder

variable {count : Nat} {edges : List (Nat × Nat)} {state : DependencyOrder}

/-! ## Releases of numbers that are held back -/

/-- A release that takes place only if a pair still holds the number back. -/
def guardedRelease (state : DependencyOrder) (node : Nat) : Option DependencyOrder :=
  match state.waiting[node]? with
  | some (_ + 1) => some (release state node)
  | _ => none

/-- A step whose releases are guarded. -/
def guardedStep (edges : List (Nat × Nat)) (state : DependencyOrder) : Option DependencyOrder :=
  match state.ready with
  | [] => some state
  | node :: rest =>
      (released edges node).foldlM guardedRelease
        { state with ready := rest, placed := node :: state.placed }

/-- Some guarded steps, up to the first release of a number that nothing holds back. -/
def guardedSteps (edges : List (Nat × Nat)) : Nat → DependencyOrder → Option DependencyOrder
  | 0, state => some state
  | taken + 1, state => (guardedStep edges state).bind (guardedSteps edges taken)

/-- A run whose releases are guarded: none as soon as a number is released that nothing holds back,
or one that is not below the bound. -/
def guardedRun (count : Nat) (edges : List (Nat × Nat)) : Option DependencyOrder :=
  guardedSteps edges count (start count edges)

/-- Releases pass their guards if no number is released more often than it is held back. -/
theorem foldl_guarded_release (nodes : List Nat) {state : DependencyOrder}
    (hlt : ∀ node ∈ nodes, node < state.waiting.length)
    (henough : ∀ node ∈ nodes, ∀ count, state.waiting[node]? = some count →
      nodes.count node ≤ count) :
    nodes.foldlM guardedRelease state = some (nodes.foldl release state) := by
  induction nodes generalizing state with
  | nil => rfl
  | cons node rest ih =>
      have hheld := List.getElem?_eq_getElem (hlt node List.mem_cons_self)
      have hcount := henough node List.mem_cons_self _ hheld
      rw [List.count_cons_self] at hcount
      obtain ⟨left, hleft⟩ := Nat.exists_eq_add_one_of_ne_zero (Nat.ne_of_gt (Nat.lt_of_lt_of_le
        (Nat.succ_pos _) hcount))
      have hguarded : guardedRelease state node = some (release state node) := by
        rw [guardedRelease, hheld, hleft]
      rw [List.foldlM_cons, hguarded, List.foldl_cons]
      refine ih (fun later hlater => ?_) (count_le_of_release henough)
      rw [release, List.length_modify]
      exact hlt later (List.mem_cons_of_mem _ hlater)

/-- A step passes the guards of its releases. -/
theorem Invariant.guarded_step (h : Invariant count edges state)
    (hbound : ∀ edge ∈ edges, edge.2 < count) :
    guardedStep edges state = some (DependencyOrder.step edges state) := by
  cases hready : state.ready with
  | nil => simp [guardedStep, DependencyOrder.step, hready]
  | cons node rest =>
      rw [guardedStep, hready, step_of_ready_cons hready]
      refine foldl_guarded_release _ (fun later hlater => ?_)
        (fun _ _ _ hheld => h.count_released_le hready hheld)
      show later < state.waiting.length
      rw [h.waiting_length]
      exact hbound _ (mem_released.1 hlater)

/-- Steps pass the guards of their releases. -/
theorem Invariant.guarded_steps (h : Invariant count edges state)
    (hbound : ∀ edge ∈ edges, edge.2 < count) (taken : Nat) :
    guardedSteps edges taken state = some (DependencyOrder.steps edges taken state) := by
  induction taken generalizing state with
  | zero => rfl
  | succ taken ih =>
      rw [guardedSteps, h.guarded_step hbound, Option.bind_some, ih h.step]
      rfl

/-- Whenever a run releases a number, a pair still holds it back. -/
theorem guarded_run_eq (hbound : ∀ edge ∈ edges, edge.2 < count) :
    guardedRun count edges = some (run count edges) :=
  (invariant_start count edges).guarded_steps hbound count

/-! ## The greedy choice -/

/-- The placed numbers, the last one first. None was greater than another one without a place that
nothing held back any more. -/
def Greedy (count : Nat) (edges : List (Nat × Nat)) : List Nat → Prop
  | [] => True
  | node :: before =>
      (∀ other < count, other ∉ before → holding edges before other = 0 → node ≤ other) ∧
        Greedy count edges before

/-- A step makes the greedy choice. -/
theorem Invariant.greedy_step (h : Invariant count edges state)
    (hgreedy : Greedy count edges state.placed) :
    Greedy count edges (DependencyOrder.step edges state).placed := by
  cases hready : state.ready with
  | nil =>
      rw [DependencyOrder.step, hready]
      exact hgreedy
  | cons node rest =>
      rw [placed_step hready]
      refine ⟨fun other hother hfresh hfree => ?_, hgreedy⟩
      have hmem := (h.ready other).2 ⟨hother, hfresh, hfree⟩
      obtain ⟨habove, -⟩ := List.pairwise_cons.1 (hready ▸ h.ascending)
      rw [hready] at hmem
      rcases List.mem_cons.1 hmem with rfl | hrest
      · exact Nat.le_refl _
      · exact Nat.le_of_lt (habove other hrest)

/-- Steps make greedy choices. -/
theorem Invariant.greedy_steps (h : Invariant count edges state)
    (hgreedy : Greedy count edges state.placed) (taken : Nat) :
    Greedy count edges (DependencyOrder.steps edges taken state).placed := by
  induction taken generalizing state with
  | zero => exact hgreedy
  | succ taken ih => exact ih h.step (h.greedy_step hgreedy)

/-- A run makes greedy choices. -/
theorem greedy_run (count : Nat) (edges : List (Nat × Nat)) :
    Greedy count edges (run count edges).placed :=
  (invariant_start count edges).greedy_steps trivial count

/-- What was placed before a number was placed by greedy choices, as was the number itself. -/
theorem Greedy.of_append {after before : List Nat}
    (h : Greedy count edges (after ++ before)) : Greedy count edges before := by
  induction after with
  | nil => exact h
  | cons node after ih => exact ih h.2

/-- In the order of a run a number is at most as great as every other one that could stand in its
place. -/
theorem getElem_sequence_le {place other : Nat} (hplace : place < (run count edges).sequence.length)
    (hother : other < count) (hfresh : other ∉ (run count edges).sequence.take place)
    (hfree : ∀ edge ∈ edges, edge.2 = other → edge.1 ∈ (run count edges).sequence.take place) :
    (run count edges).sequence[place] ≤ other := by
  let sequence := (run count edges).sequence
  have hplaced : (run count edges).placed
      = (sequence.drop (place + 1)).reverse ++ sequence[place] :: (sequence.take place).reverse :=
    calc (run count edges).placed = sequence.reverse := (List.reverse_reverse _).symm
      _ = (sequence.take place ++ sequence[place] :: sequence.drop (place + 1)).reverse := by
        rw [List.getElem_cons_drop, List.take_append_drop]
      _ = _ := by simp
  have hgreedy := greedy_run count edges
  rw [hplaced] at hgreedy
  refine hgreedy.of_append.1 other hother (mt List.mem_reverse.1 hfresh) ?_
  exact holding_eq_zero_iff.2 fun edge hedge hafter =>
    List.mem_reverse.2 (hfree edge hedge hafter)

/-! ## The least of all orders -/

/-- Every number below a bound once, and the first number of every pair ahead of the second one. -/
structure Respects (count : Nat) (edges : List (Nat × Nat)) (sequence : List Nat) : Prop where
  perm : sequence.Perm (List.range count)
  earlier : ∀ edge ∈ edges, sequence.idxOf edge.1 < sequence.idxOf edge.2

/-- An order without left-over numbers respects the pairs. -/
theorem respects_run (hbound : ∀ edge ∈ edges, edge.2 < count)
    (h : (run count edges).sequence.length = count) :
    Respects count edges (run count edges).sequence where
  perm := sequence_perm_range h
  earlier := fun edge hedge => idx_of_lt_of_edge hedge
    ((sequence_perm_range h).mem_iff.2 (List.mem_range.2 (hbound edge hedge)))

/-- In an order that respects the pairs, all numbers that hold one back stand before its place. -/
theorem Respects.mem_take {sequence : List Nat} (h : Respects count edges sequence) {place : Nat}
    (hplace : place < sequence.length) {edge : Nat × Nat} (hedge : edge ∈ edges)
    (hafter : edge.2 = sequence[place]) : edge.1 ∈ sequence.take place := by
  have hnodup : sequence.Nodup := h.perm.nodup_iff.2 List.nodup_range
  have hearlier := h.earlier edge hedge
  rw [hafter, hnodup.idxOf_getElem] at hearlier
  rw [List.mem_take_iff_idxOf_lt (List.idxOf_lt_length_iff.1 (by omega))]
  exact hearlier

/-- The order of a run is at most every order that respects the pairs: at the first place where they
differ the other number could have been chosen. -/
theorem sequence_le_of_respects {other : List Nat} (h : Respects count edges other) :
    (run count edges).sequence ≤ other := by
  have hlength : other.length = count := by simpa using h.perm.length_eq
  have hnodup : other.Nodup := h.perm.nodup_iff.2 List.nodup_range
  refine not_lt.1 fun hless => ?_
  obtain ⟨-, hshort⟩ | ⟨place, hplace, hplace', hsame, hless⟩ := List.lt_iff_exists.1 hless
  · have := length_sequence_le count edges
    omega
  · have hcommon : other.take place = (run count edges).sequence.take place := by
      refine List.ext_getElem (by simp; omega) fun index hindex _ => ?_
      simpa using hsame index (by simp at hindex; omega)
    refine absurd (getElem_sequence_le hplace' ?_ ?_ fun edge hedge hafter => ?_)
      (Nat.not_le.2 hless)
    · exact List.mem_range.1 (h.perm.mem_iff.1 (List.getElem_mem hplace))
    · rw [← hcommon, List.mem_take_iff_idxOf_lt (List.getElem_mem hplace), hnodup.idxOf_getElem]
      exact Nat.lt_irrefl place
    · exact hcommon ▸ h.mem_take hplace hedge hafter

/-- The least order that respects the pairs is the order of a run that leaves no number over. -/
theorem is_least_iff (hbound : ∀ edge ∈ edges, edge.1 < count ∧ edge.2 < count)
    {places : List Nat} :
    IsLeast {sequence | Respects count edges sequence} places ↔
      (run count edges).sequence.length = count ∧ places = (run count edges).sequence := by
  constructor
  · rintro ⟨hrespects, hleast⟩
    have hlength := length_sequence_of_rank (fun edge hedge => (hbound edge hedge).1)
      places.idxOf hrespects.earlier
    have hrun := respects_run (fun edge hedge => (hbound edge hedge).2) hlength
    exact ⟨hlength, le_antisymm (hleast hrun) (sequence_le_of_respects hrespects)⟩
  · rintro ⟨hlength, rfl⟩
    exact ⟨respects_run (fun edge hedge => (hbound edge hedge).2) hlength,
      fun _ hother => sequence_le_of_respects hother⟩

/-! ## Numbers that stay ahead of greater ones -/

/-- A number holds another one back, directly or through others. -/
def LeadsTo (edges : List (Nat × Nat)) : Nat → Nat → Prop :=
  Relation.TransGen fun before after => (before, after) ∈ edges

/-- Whatever holds back a number with a place has an earlier place. -/
theorem LeadsTo.idx_of_lt {first second : Nat} (h : LeadsTo edges first second)
    (hmem : second ∈ (run count edges).sequence) :
    (run count edges).sequence.idxOf first < (run count edges).sequence.idxOf second := by
  induction h with
  | single hedge => exact idx_of_lt_of_edge hedge hmem
  | tail _ hedge ih =>
      have hlast := idx_of_lt_of_edge hedge hmem
      have hlength := List.idxOf_lt_length_of_mem hmem
      exact Nat.lt_trans (ih (List.idxOf_lt_length_iff.1 (Nat.lt_trans hlast hlength))) hlast

/-- A number whose place is behind that of a greater one was held back by one whose place is behind
that too. -/
theorem exists_edge_of_lt {first second : Nat} (hless : first < second)
    (hfirst : first ∈ (run count edges).sequence) (hsecond : second ∈ (run count edges).sequence)
    (hlate : (run count edges).sequence.idxOf second ≤ (run count edges).sequence.idxOf first) :
    ∃ edge ∈ edges, edge.2 = first ∧
      (run count edges).sequence.idxOf second ≤ (run count edges).sequence.idxOf edge.1 := by
  by_contra hnone
  push Not at hnone
  have hplace := List.idxOf_lt_length_of_mem hsecond
  have hlt : first < count :=
    (invariant_run count edges).placed_lt first (List.mem_reverse.1 hfirst)
  have hle := getElem_sequence_le hplace hlt
    (mt (List.mem_take_iff_idxOf_lt hfirst).1 (Nat.not_lt.2 hlate)) fun edge hedge hafter => by
      have hbefore := hnone edge hedge hafter
      rw [List.mem_take_iff_idxOf_lt (List.idxOf_lt_length_iff.1 (Nat.lt_trans hbefore hplace))]
      exact hbefore
  rw [List.getElem_idxOf] at hle
  omega

/-- A number stays ahead of a greater one if whatever holds it back, directly or not, is less than
that one or holds that one back too. -/
theorem idx_of_lt_of_unhindered (hlength : (run count edges).sequence.length = count)
    {first second : Nat} (hless : first < second) (hsecond : second < count)
    (hfree : ∀ other, LeadsTo edges other first → other < second ∨ LeadsTo edges other second) :
    (run count edges).sequence.idxOf first < (run count edges).sequence.idxOf second := by
  have hmem : ∀ node < count, node ∈ (run count edges).sequence := fun node hnode =>
    (sequence_perm_range hlength).mem_iff.2 (List.mem_range.2 hnode)
  -- On the place of a number that is the first one or holds it back: were it not ahead of the
  -- second one, nor would be another one that holds it back, and so has a lesser place.
  have hahead : ∀ node, node = first ∨ LeadsTo edges node first →
      (run count edges).sequence.idxOf node < (run count edges).sequence.idxOf second := by
    intro node hnode
    induction hplace : (run count edges).sequence.idxOf node using Nat.strong_induction_on
      generalizing node with
    | _ place ih =>
      rw [← hplace]
      have hcases : node < second ∨ LeadsTo edges node second := by
        rcases hnode with rfl | hleads
        · exact .inl hless
        · exact hfree node hleads
      rcases hcases with hlt | hleads
      · by_contra hlate
        have hnodeMem := hmem node (Nat.lt_trans hlt hsecond)
        obtain ⟨edge, hedge, rfl, hlater⟩ :=
          exists_edge_of_lt hlt hnodeMem (hmem second hsecond) (Nat.not_lt.1 hlate)
        have hbefore : LeadsTo edges edge.1 first := by
          rcases hnode with hnode | hleads
          · exact .single (hnode ▸ hedge)
          · exact .head hedge hleads
        have := ih _ (hplace ▸ idx_of_lt_of_edge hedge hnodeMem) edge.1 (.inr hbefore) rfl
        omega
      · exact hleads.idx_of_lt (hmem second hsecond)
  exact hahead first (.inl rfl)

end Orm.DependencyOrder
