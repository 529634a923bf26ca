import Mathlib.Data.List.Nodup
import Mathlib.Data.List.Perm.Subperm
import Orm.Change.DependencyOrder

/-!
# Dependency orders respect every dependency

`DependencyOrder.run` keeps an invariant: the counts say how many pairs still hold a number back,
the ready numbers are those without a place that nothing holds back, and whatever has a place came
after all that held it back. The main statements are `idx_of_lt_of_edge`, which says that an order
respects every pair, and `length_sequence_of_rank`, which says that no number is left over if any
order respects them.
-/

namespace Orm.DependencyOrder

variable {count : Nat} {edges : List (Nat × Nat)} {state : DependencyOrder}

/-! ## What holds a number back -/

/-- The number of pairs that hold a number back while some numbers have their place. -/
def holding (edges : List (Nat × Nat)) (placed : List Nat) (node : Nat) : Nat :=
  edges.countP fun edge => edge.2 = node ∧ edge.1 ∉ placed

/-- Nothing holds a number back if and only if every pair into it starts at a placed number. -/
theorem holding_eq_zero_iff {placed : List Nat} {node : Nat} :
    holding edges placed node = 0 ↔ ∀ edge ∈ edges, edge.2 = node → edge.1 ∈ placed := by
  simp [holding, List.countP_eq_zero]

/-- The numbers that a number holds back, one for each pair. -/
def released (edges : List (Nat × Nat)) (node : Nat) : List Nat :=
  (edges.filter fun edge => edge.1 = node).map Prod.snd

/-- Exactly the numbers that pairs lead to from a number are held back by it. -/
theorem mem_released {node other : Nat} : other ∈ released edges node ↔ (node, other) ∈ edges := by
  simp [released]

/-- A number that gets its place no longer holds back the numbers that its pairs lead to. -/
theorem holding_cons_add_count {placed : List Nat} {node : Nat} (hnode : node ∉ placed)
    (edges : List (Nat × Nat)) (other : Nat) :
    holding edges (node :: placed) other + (released edges node).count other
      = holding edges placed other := by
  unfold released
  induction edges with
  | nil => rfl
  | cons edge rest ih =>
      obtain ⟨before, after⟩ := edge
      by_cases hbefore : before = node
      · subst hbefore
        by_cases hafter : after = other
        · simp [holding, hafter, hnode] at ih ⊢
          omega
        · simpa [holding, List.filter_cons, hafter] using ih
      · by_cases hplaced : after = other ∧ before ∉ placed
        · simp [holding, hbefore, hplaced] at ih ⊢
          omega
        · simpa [holding, List.filter_cons, hbefore, hplaced] using ih

/-- The placed numbers, the last one first, each after all numbers that hold it back. -/
def Grounded (edges : List (Nat × Nat)) : List Nat → Prop
  | [] => True
  | node :: before => (∀ edge ∈ edges, edge.2 = node → edge.1 ∈ before) ∧ Grounded edges before

/-- Whatever holds back a placed number is placed too. -/
theorem Grounded.mem_of_edge {placed : List Nat} (h : Grounded edges placed)
    {edge : Nat × Nat} (hedge : edge ∈ edges) (hmem : edge.2 ∈ placed) : edge.1 ∈ placed := by
  induction placed with
  | nil => simp at hmem
  | cons node before ih =>
      by_cases hnode : edge.2 = node
      · exact List.mem_cons_of_mem _ (h.1 edge hedge hnode)
      · exact List.mem_cons_of_mem _ (ih h.2 ((List.mem_cons.1 hmem).resolve_left hnode))

/-- Read in the order of their places, a number comes after those that hold it back. -/
theorem Grounded.idx_of_lt {placed : List Nat} (h : Grounded edges placed) (hnodup : placed.Nodup)
    {edge : Nat × Nat} (hedge : edge ∈ edges) (hmem : edge.2 ∈ placed) :
    placed.reverse.idxOf edge.1 < placed.reverse.idxOf edge.2 := by
  induction placed with
  | nil => simp at hmem
  | cons node before ih =>
      obtain ⟨hfresh, hrest⟩ := List.nodup_cons.1 hnodup
      rw [List.reverse_cons]
      by_cases hnode : edge.2 = node
      · have hbefore : edge.1 ∈ before.reverse := by simpa using h.1 edge hedge hnode
        have hafter : edge.2 ∉ before.reverse := by simpa [hnode] using hfresh
        rw [List.idxOf_append_of_mem hbefore, List.idxOf_append_of_notMem hafter]
        have := List.idxOf_lt_length_of_mem hbefore
        omega
      · have hafter : edge.2 ∈ before := (List.mem_cons.1 hmem).resolve_left hnode
        have hbefore : edge.1 ∈ before := h.2.mem_of_edge hedge hafter
        rw [List.idxOf_append_of_mem (by simpa using hbefore),
          List.idxOf_append_of_mem (by simpa using hafter)]
        exact ih h.2 hrest hafter

/-! ## Releasing numbers -/

/-- A number is put among the ready ones and nothing else changes. -/
theorem mem_insert_ready {node other : Nat} {ready : List Nat} :
    other ∈ insertReady node ready ↔ other = node ∨ other ∈ ready := by
  induction ready with
  | nil => simp [insertReady]
  | cons head rest ih =>
      unfold insertReady
      split
      · simp
      · split
        · next _ hsame => subst hsame; simp
        · simp [ih, or_left_comm]

/-- Ascending numbers stay ascending. -/
theorem ascending_insert_ready (node : Nat) {ready : List Nat} (h : ready.Pairwise (· < ·)) :
    (insertReady node ready).Pairwise (· < ·) := by
  induction ready with
  | nil => simp [insertReady]
  | cons head rest ih =>
      obtain ⟨hbelow, hrest⟩ := List.pairwise_cons.1 h
      unfold insertReady
      split
      · next hless =>
        refine List.pairwise_cons.2 ⟨fun other hmem => ?_, h⟩
        rcases List.mem_cons.1 hmem with rfl | hmem
        · exact hless
        · exact Nat.lt_trans hless (hbelow other hmem)
      · split
        · exact h
        · refine List.pairwise_cons.2 ⟨fun other hmem => ?_, ih hrest⟩
          rcases mem_insert_ready.1 hmem with rfl | hmem
          · omega
          · exact hbelow other hmem

/-- A release takes one from the count of the released number. -/
theorem release_waiting (state : DependencyOrder) (node other : Nat) :
    (release state node).waiting[other]?
      = (state.waiting[other]?).map fun count => if node = other then count - 1 else count := by
  simp only [release, List.getElem?_modify]
  cases state.waiting[other]? <;> rfl

/-- A released number becomes ready when nothing holds it back any more. -/
theorem mem_release_ready {state : DependencyOrder} {node other : Nat} :
    other ∈ (release state node).ready ↔
      (other = node ∧ (release state node).waiting[node]? = some 0) ∨ other ∈ state.ready := by
  simp only [release]
  by_cases hzero : (state.waiting.modify node fun count => count - 1)[node]? = some 0
  · rw [if_pos hzero, mem_insert_ready]
    simp only [hzero, and_true]
  · rw [if_neg hzero]
    simp only [hzero, and_false, false_or]

/-- The ready numbers stay ascending under a release. -/
theorem ascending_release (node : Nat) (h : state.ready.Pairwise (· < ·)) :
    (release state node).ready.Pairwise (· < ·) := by
  simp only [release]
  split
  · exact ascending_insert_ready node h
  · exact h

/-- Releases give no number a place. -/
theorem foldl_release_placed (nodes : List Nat) (state : DependencyOrder) :
    (nodes.foldl release state).placed = state.placed := by
  induction nodes generalizing state with
  | nil => rfl
  | cons node rest ih => exact ih (release state node)

/-- Releases keep a count for every number. -/
theorem foldl_release_length (nodes : List Nat) (state : DependencyOrder) :
    (nodes.foldl release state).waiting.length = state.waiting.length := by
  induction nodes generalizing state with
  | nil => rfl
  | cons node rest ih => rw [List.foldl_cons, ih, release, List.length_modify]

/-- The ready numbers stay ascending under releases. -/
theorem foldl_release_ascending (nodes : List Nat) (h : state.ready.Pairwise (· < ·)) :
    (nodes.foldl release state).ready.Pairwise (· < ·) := by
  induction nodes generalizing state with
  | nil => exact h
  | cons node rest ih => exact ih (ascending_release node h)

/-- Releases take from each count as often as its number is released. -/
theorem foldl_release_waiting (nodes : List Nat) (state : DependencyOrder) (other : Nat) :
    (nodes.foldl release state).waiting[other]?
      = (state.waiting[other]?).map fun count => count - nodes.count other := by
  induction nodes generalizing state with
  | nil => simp
  | cons node rest ih =>
      rw [List.foldl_cons, ih, release_waiting]
      cases state.waiting[other]? with
      | none => rfl
      | some count =>
          simp only [Option.map_some, List.count_cons, beq_iff_eq, Option.some.injEq]
          split <;> omega

/-- If no number is released more often than it is held back, that is so after a release too. -/
theorem count_le_of_release {node : Nat} {rest : List Nat}
    (henough : ∀ later ∈ node :: rest, ∀ count, state.waiting[later]? = some count →
      (node :: rest).count later ≤ count) :
    ∀ later ∈ rest, ∀ count, (release state node).waiting[later]? = some count →
      rest.count later ≤ count := by
  intro later hlater count hcount
  rw [release_waiting, Option.map_eq_some_iff] at hcount
  obtain ⟨old, hold, hcount⟩ := hcount
  have := henough later (List.mem_cons_of_mem _ hlater) old hold
  simp only [List.count_cons, beq_iff_eq] at this
  split at hcount
  · next hsame =>
    rw [if_pos hsame] at this
    omega
  · omega

/-- If no number is released more often than it is held back, the numbers that become ready are the
released ones that nothing holds back in the end. -/
theorem mem_foldl_release_ready (nodes : List Nat) {state : DependencyOrder}
    (henough : ∀ node ∈ nodes, ∀ count, state.waiting[node]? = some count →
      nodes.count node ≤ count) (other : Nat) :
    other ∈ (nodes.foldl release state).ready ↔
      other ∈ state.ready ∨
        (other ∈ nodes ∧ (nodes.foldl release state).waiting[other]? = some 0) := by
  induction nodes generalizing state with
  | nil => simp
  | cons node rest ih =>
      have hcounts := count_le_of_release henough
      rw [List.foldl_cons, ih hcounts, mem_release_ready]
      -- A number that is not released again keeps the count that it has now.
      have hlast : node ∉ rest →
          (rest.foldl release (release state node)).waiting[node]?
            = (release state node).waiting[node]? := by
        intro hfresh
        rw [foldl_release_waiting, List.count_eq_zero_of_not_mem hfresh]
        cases (release state node).waiting[node]? <;> rfl
      constructor
      · rintro ((⟨rfl, hzero⟩ | hready) | ⟨hmem, hzero⟩)
        · have hfresh : other ∉ rest := by
            intro hmem
            have := hcounts other hmem 0 hzero
            have := List.count_pos_iff.2 hmem
            omega
          exact .inr ⟨List.mem_cons_self, (hlast hfresh).trans hzero⟩
        · exact .inl hready
        · exact .inr ⟨List.mem_cons_of_mem _ hmem, hzero⟩
      · rintro (hready | ⟨hmem, hzero⟩)
        · exact .inl (.inr hready)
        · by_cases hrest : other ∈ rest
          · exact .inr ⟨hrest, hzero⟩
          · obtain rfl := (List.mem_cons.1 hmem).resolve_right hrest
            exact .inl (.inl ⟨rfl, (hlast hrest).symm.trans hzero⟩)

/-! ## The invariant of the steps -/

/-- What holds between two steps. -/
structure Invariant (count : Nat) (edges : List (Nat × Nat)) (state : DependencyOrder) :
    Prop where
  placed_lt : ∀ node ∈ state.placed, node < count
  nodup : state.placed.Nodup
  waiting : ∀ node < count, state.waiting[node]? = some (holding edges state.placed node)
  waiting_length : state.waiting.length = count
  ready : ∀ node, node ∈ state.ready ↔
    node < count ∧ node ∉ state.placed ∧ holding edges state.placed node = 0
  ascending : state.ready.Pairwise (· < ·)
  grounded : Grounded edges state.placed

/-- The invariant holds before the first step. -/
theorem invariant_start (count : Nat) (edges : List (Nat × Nat)) :
    Invariant count edges (start count edges) where
  placed_lt := by simp [start]
  nodup := List.nodup_nil
  waiting := by
    intro node hnode
    simp [start, holding, hnode]
  waiting_length := by simp [start]
  ready := by
    intro node
    simp only [start, List.mem_filter, List.mem_range, decide_eq_true_eq]
    constructor
    · rintro ⟨hnode, hzero⟩
      exact ⟨hnode, List.not_mem_nil, by simpa [holding, hnode] using hzero⟩
    · rintro ⟨hnode, -, hzero⟩
      exact ⟨hnode, by simpa [holding, hnode] using hzero⟩
  ascending := List.pairwise_lt_range.filter _
  grounded := trivial

section Step

variable {node : Nat} {rest : List Nat}

/-- A step gives the first ready number its place, and releases those that it holds back. -/
theorem step_of_ready_cons (hready : state.ready = node :: rest) :
    step edges state = (released edges node).foldl release
      { state with ready := rest, placed := node :: state.placed } := by
  rw [step, hready]
  rfl

/-- The first ready number gets its place. -/
theorem placed_step (hready : state.ready = node :: rest) :
    (step edges state).placed = node :: state.placed := by
  rw [step_of_ready_cons hready, foldl_release_placed]

/-- A step keeps a count for every number. -/
theorem waiting_length_step (hready : state.ready = node :: rest) :
    (step edges state).waiting.length = state.waiting.length := by
  rw [step_of_ready_cons hready, foldl_release_length]

/-- The counts after a step say what still holds each number back. -/
theorem Invariant.waiting_step (h : Invariant count edges state)
    (hready : state.ready = node :: rest) {other : Nat} (hother : other < count) :
    (step edges state).waiting[other]? = some (holding edges (node :: state.placed) other) := by
  obtain ⟨-, hfresh, -⟩ := (h.ready node).1 (hready ▸ List.mem_cons_self)
  have hheld := holding_cons_add_count hfresh edges other
  rw [step_of_ready_cons hready, foldl_release_waiting]
  show (state.waiting[other]?).map _ = _
  rw [h.waiting other hother, Option.map_some]
  congr 1
  omega

/-- A step releases no number more often than it is held back. -/
theorem Invariant.count_released_le (h : Invariant count edges state)
    (hready : state.ready = node :: rest) {other held : Nat}
    (hheld : state.waiting[other]? = some held) : (released edges node).count other ≤ held := by
  obtain ⟨-, hfresh, -⟩ := (h.ready node).1 (hready ▸ List.mem_cons_self)
  have hother : other < count := by
    rw [← h.waiting_length]
    exact (List.getElem?_eq_some_iff.1 hheld).1
  have hcount := holding_cons_add_count hfresh edges other
  have hwaiting := (h.waiting other hother).symm.trans hheld
  rw [Option.some.injEq] at hwaiting
  omega

/-- After a step those numbers are ready that were ready, and those that the step released from the
last pair that held them back. -/
theorem Invariant.mem_ready_step (h : Invariant count edges state)
    (hready : state.ready = node :: rest) (other : Nat) :
    other ∈ (step edges state).ready ↔
      other ∈ rest ∨ ((node, other) ∈ edges ∧ (step edges state).waiting[other]? = some 0) := by
  rw [step_of_ready_cons hready, ← mem_released]
  refine mem_foldl_release_ready _ (fun _ _ _ hheld => ?_) other
  exact h.count_released_le hready hheld

/-- The ready numbers after a step are those without a place that nothing holds back. -/
theorem Invariant.ready_step (h : Invariant count edges state)
    (hready : state.ready = node :: rest) (other : Nat) :
    other ∈ (step edges state).ready ↔ other < count ∧ other ∉ node :: state.placed ∧
      holding edges (node :: state.placed) other = 0 := by
  obtain ⟨-, hfresh, hzero⟩ := (h.ready node).1 (hready ▸ List.mem_cons_self)
  obtain ⟨habove, -⟩ := List.pairwise_cons.1 (hready ▸ h.ascending)
  have hcount := holding_cons_add_count hfresh edges other
  rw [h.mem_ready_step hready]
  constructor
  · rintro (hrest | ⟨hedge, hfree⟩)
    · obtain ⟨hother, hunplaced, hnone⟩ :=
        (h.ready other).1 (hready ▸ List.mem_cons_of_mem _ hrest)
      have hne : other ≠ node := Nat.ne_of_gt (habove other hrest)
      exact ⟨hother, by simp [hne, hunplaced], by omega⟩
    · have hother : other < count := by
        rw [← h.waiting_length, ← waiting_length_step hready]
        exact (List.getElem?_eq_some_iff.1 hfree).1
      have hunplaced : other ∉ state.placed := fun hmem =>
        hfresh (h.grounded.mem_of_edge hedge hmem)
      -- The number itself is not released: nothing held it back, so no pair leads back to it.
      have hne : other ≠ node := by
        rintro rfl
        exact hfresh (holding_eq_zero_iff.1 hzero _ hedge rfl)
      rw [h.waiting_step hready hother, Option.some.injEq] at hfree
      exact ⟨hother, by simp [hne, hunplaced], hfree⟩
  · rintro ⟨hother, hunplaced, hnone⟩
    obtain ⟨hne, hunplaced⟩ := not_or.1 (mt List.mem_cons.2 hunplaced)
    by_cases hedge : (node, other) ∈ edges
    · exact .inr ⟨hedge, by rw [h.waiting_step hready hother, hnone]⟩
    · rw [List.count_eq_zero_of_not_mem (mt mem_released.1 hedge), hnone] at hcount
      have hmem : other ∈ state.ready := (h.ready other).2 ⟨hother, hunplaced, hcount.symm⟩
      rw [hready] at hmem
      exact .inl ((List.mem_cons.1 hmem).resolve_left hne)

/-- A step keeps the invariant. -/
theorem Invariant.step (h : Invariant count edges state) :
    Invariant count edges (step edges state) := by
  cases hready : state.ready with
  | nil =>
      have hsame : DependencyOrder.step edges state = state := by
        simp [DependencyOrder.step, hready]
      rw [hsame]
      exact h
  | cons node rest =>
      obtain ⟨hnode, hfresh, hzero⟩ := (h.ready node).1 (hready ▸ List.mem_cons_self)
      obtain ⟨-, hascending⟩ := List.pairwise_cons.1 (hready ▸ h.ascending)
      have hplaced : (DependencyOrder.step edges state).placed = node :: state.placed :=
        placed_step hready
      constructor
      case placed_lt =>
        rw [hplaced]
        intro other hother
        rcases List.mem_cons.1 hother with rfl | hother
        · exact hnode
        · exact h.placed_lt other hother
      case nodup =>
        rw [hplaced]
        exact List.nodup_cons.2 ⟨hfresh, h.nodup⟩
      case waiting =>
        rw [hplaced]
        exact fun other hother => h.waiting_step hready hother
      case waiting_length => rw [waiting_length_step hready, h.waiting_length]
      case ready =>
        rw [hplaced]
        exact h.ready_step hready
      case ascending =>
        rw [step_of_ready_cons hready]
        exact foldl_release_ascending _ hascending
      case grounded =>
        rw [hplaced]
        exact ⟨holding_eq_zero_iff.1 hzero, h.grounded⟩

end Step

/-- Any number of steps keeps the invariant. -/
theorem Invariant.steps (h : Invariant count edges state) (taken : Nat) :
    Invariant count edges (steps edges taken state) := by
  induction taken generalizing state with
  | zero => exact h
  | succ taken ih => exact ih h.step

/-- The invariant holds at the end. -/
theorem invariant_run (count : Nat) (edges : List (Nat × Nat)) :
    Invariant count edges (run count edges) :=
  (invariant_start count edges).steps count

/-- A step with a ready number gives one number its place. -/
theorem length_placed_step (h : state.ready ≠ []) :
    (step edges state).placed.length = state.placed.length + 1 := by
  obtain ⟨node, rest, hready⟩ := List.exists_cons_of_ne_nil h
  rw [placed_step hready, List.length_cons]

/-- Without a ready number nothing happens any more. -/
theorem steps_of_ready_nil (h : state.ready = []) (taken : Nat) :
    steps edges taken state = state := by
  induction taken with
  | zero => rfl
  | succ taken ih =>
      have hstep : step edges state = state := by simp [step, h]
      rw [steps, hstep, ih]

/-- As long as there is a ready number, each step gives a number its place. -/
theorem steps_ready_nil_or_length (edges : List (Nat × Nat)) (taken : Nat)
    (state : DependencyOrder) :
    (steps edges taken state).ready = [] ∨
      (steps edges taken state).placed.length = state.placed.length + taken := by
  induction taken generalizing state with
  | zero => exact .inr rfl
  | succ taken ih =>
      by_cases hready : state.ready = []
      · left
        rw [steps_of_ready_nil hready, hready]
      · rcases ih (step edges state) with hnil | hlength
        · exact .inl hnil
        · right
          rw [steps, hlength, length_placed_step hready]
          omega

/-- Numbers below a bound, each once, are at most as many as the bound. -/
theorem length_le_of_nodup_of_lt {nodes : List Nat} (hnodup : nodes.Nodup)
    (hlt : ∀ node ∈ nodes, node < count) : nodes.length ≤ count := by
  have hsub : nodes ⊆ List.range count := fun node hnode => List.mem_range.2 (hlt node hnode)
  simpa using (hnodup.subperm hsub).length_le

/-- At the end no number is ready. -/
theorem run_ready (count : Nat) (edges : List (Nat × Nat)) : (run count edges).ready = [] := by
  have h := invariant_run count edges
  rcases steps_ready_nil_or_length edges count (start count edges) with hnil | hlength
  · exact hnil
  · refine List.eq_nil_iff_forall_not_mem.2 fun node hnode => ?_
    obtain ⟨hlt, hfresh, -⟩ := (h.ready node).1 hnode
    have hmore : (node :: (run count edges).placed).length ≤ count := by
      refine length_le_of_nodup_of_lt (List.nodup_cons.2 ⟨hfresh, h.nodup⟩) ?_
      intro other hother
      rcases List.mem_cons.1 hother with rfl | hother
      · exact hlt
      · exact h.placed_lt other hother
    have hall : (run count edges).placed.length = count := by simpa [run, start] using hlength
    rw [List.length_cons] at hmore
    omega

/-! ## The order at the end -/

/-- No number has two places. -/
theorem nodup_sequence (count : Nat) (edges : List (Nat × Nat)) :
    (run count edges).sequence.Nodup :=
  List.nodup_reverse.2 (invariant_run count edges).nodup

/-- The numbers with a place are at most as many as the bound. -/
theorem length_sequence_le (count : Nat) (edges : List (Nat × Nat)) :
    (run count edges).sequence.length ≤ count := by
  have h := invariant_run count edges
  rw [sequence, List.length_reverse]
  exact length_le_of_nodup_of_lt h.nodup h.placed_lt

/-- An order without left-over numbers has exactly the numbers below the bound. -/
theorem sequence_perm_range (h : (run count edges).sequence.length = count) :
    (run count edges).sequence.Perm (List.range count) := by
  have hinv := invariant_run count edges
  have hsub : (run count edges).sequence ⊆ List.range count := fun node hnode =>
    List.mem_range.2 (hinv.placed_lt node (List.mem_reverse.1 hnode))
  exact ((nodup_sequence count edges).subperm hsub).perm_of_length_le (by simp [h])

/-- Of each pair whose second number has a place, the first one has an earlier place. -/
theorem idx_of_lt_of_edge {edge : Nat × Nat} (hedge : edge ∈ edges)
    (hmem : edge.2 ∈ (run count edges).sequence) :
    (run count edges).sequence.idxOf edge.1 < (run count edges).sequence.idxOf edge.2 := by
  have h := invariant_run count edges
  exact h.grounded.idx_of_lt h.nodup hedge (List.mem_reverse.1 hmem)

/-- A number gets its place if all that hold it back get theirs. -/
theorem mem_sequence_of_forall_edge {node : Nat} (hnode : node < count)
    (hbefore : ∀ edge ∈ edges, edge.2 = node → edge.1 ∈ (run count edges).sequence) :
    node ∈ (run count edges).sequence := by
  by_contra hfresh
  have hzero : holding edges (run count edges).placed node = 0 :=
    holding_eq_zero_iff.2 fun edge hedge hafter => List.mem_reverse.1 (hbefore edge hedge hafter)
  have hready := ((invariant_run count edges).ready node).2
    ⟨hnode, mt List.mem_reverse.2 hfresh, hzero⟩
  rw [run_ready] at hready
  exact List.not_mem_nil hready

/-- No number is left over if every number below the bound gets its place. -/
theorem length_sequence_of_forall_mem (h : ∀ node < count, node ∈ (run count edges).sequence) :
    (run count edges).sequence.length = count := by
  have hsub : List.range count ⊆ (run count edges).sequence := fun node hnode =>
    h node (List.mem_range.1 hnode)
  have hle : count ≤ (run count edges).sequence.length := by
    simpa using (List.nodup_range.subperm hsub).length_le
  have := length_sequence_le count edges
  omega

/-- If numbers can be ranked so that each pair ascends, every number gets its place: the least one
without a place would be held back by a lesser one without a place. -/
theorem length_sequence_of_rank (hbound : ∀ edge ∈ edges, edge.1 < count) (rank : Nat → Nat)
    (hrank : ∀ edge ∈ edges, rank edge.1 < rank edge.2) :
    (run count edges).sequence.length = count := by
  have hplaced : ∀ bound node, rank node < bound → node < count →
      node ∈ (run count edges).sequence := by
    -- On a bound of the rank: whatever holds a number back has a lesser rank.
    intro bound
    induction bound with
    | zero => omega
    | succ bound ih =>
        intro node hless hnode
        refine mem_sequence_of_forall_edge hnode ?_
        rintro edge hedge rfl
        have := hrank edge hedge
        exact ih edge.1 (by omega) (hbound edge hedge)
  exact length_sequence_of_forall_mem fun node hnode =>
    hplaced _ node (Nat.lt_succ_self _) hnode

end Orm.DependencyOrder
