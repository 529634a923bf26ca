/-!
# Orders that respect dependencies

`DependencyOrder.run` puts the numbers below a bound in an order in which the first number of
every given pair comes before the second. Among the numbers that nothing holds back the least
comes first, so numbers without dependencies keep their order. Numbers that wait for each other
are left over.
-/

namespace Orm

/-- An order in the making. For each number, `waiting` counts the pairs that still hold it back;
`ready` are the numbers without such pairs, in ascending order, and `placed` those that have their
place, the last one first. -/
structure DependencyOrder where
  waiting : List Nat
  ready : List Nat
  placed : List Nat
deriving DecidableEq, Repr

namespace DependencyOrder

/-- Puts a number at its place among ascending ones, unless it is there. -/
def insertReady (node : Nat) : List Nat → List Nat
  | [] => [node]
  | other :: rest =>
      if node < other then node :: other :: rest
      else if node = other then other :: rest
      else other :: insertReady node rest

/-- The order before the first number has its place. -/
def start (count : Nat) (edges : List (Nat × Nat)) : DependencyOrder :=
  let waiting := (List.range count).map fun node => edges.countP fun edge => edge.2 = node
  ⟨waiting, (List.range count).filter fun node => waiting[node]? = some 0, []⟩

/-- Takes away one of the pairs that hold a number back. -/
def release (state : DependencyOrder) (node : Nat) : DependencyOrder :=
  let waiting := state.waiting.modify node fun count => count - 1
  { state with
    waiting := waiting
    ready := if waiting[node]? = some 0 then insertReady node state.ready else state.ready }

/-- Gives the least ready number its place, and releases those that it holds back. -/
def step (edges : List (Nat × Nat)) (state : DependencyOrder) : DependencyOrder :=
  match state.ready with
  | [] => state
  | node :: rest =>
      ((edges.filter fun edge => edge.1 = node).map Prod.snd).foldl release
        { state with ready := rest, placed := node :: state.placed }

/-- Takes a number of steps. -/
def steps (edges : List (Nat × Nat)) : Nat → DependencyOrder → DependencyOrder
  | 0, state => state
  | count + 1, state => steps edges count (step edges state)

/-- The order of the numbers below `count`. -/
def run (count : Nat) (edges : List (Nat × Nat)) : DependencyOrder :=
  steps edges count (start count edges)

/-- The numbers that have their place, in order. -/
def sequence (state : DependencyOrder) : List Nat := state.placed.reverse

/-- The numbers that are still held back, in ascending order. -/
def blocked (state : DependencyOrder) : List Nat :=
  (List.range state.waiting.length).filter fun node => (state.waiting[node]?).any (0 < ·)

end DependencyOrder

end Orm
