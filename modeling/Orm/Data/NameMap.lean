/-!
# Maps keyed by name

A `NameMap` keeps its entries in ascending order of their names, so that two maps with the same
entries are equal. `find?_insert` and `find?_erase` say what a change does to every name.
-/

namespace Orm

/-- The entries of a map, in strictly ascending order of name. -/
abbrev NameMap.Ascending {α : Type} (entries : List (String × α)) : Prop :=
  entries.Pairwise fun left right => left.1 < right.1

/-- A finite map from names to values of `α`. -/
structure NameMap (α : Type) where
  toList : List (String × α)
  ascending : NameMap.Ascending toList

namespace NameMap

variable {α β : Type}

instance [DecidableEq α] : DecidableEq (NameMap α) := fun left right =>
  match left, right with
  | ⟨first, _⟩, ⟨second, _⟩ =>
      if h : first = second then isTrue (by subst h; rfl)
      else isFalse fun same => h (congrArg NameMap.toList same)

/-- The map without entries. -/
def empty : NameMap α := ⟨[], List.Pairwise.nil⟩

instance : Inhabited (NameMap α) := ⟨empty⟩

instance : EmptyCollection (NameMap α) := ⟨empty⟩

/-- The names of the map in ascending order. -/
def keys (map : NameMap α) : List String := map.toList.map Prod.fst

/-- The values of the map in the order of their names. -/
def values (map : NameMap α) : List α := map.toList.map Prod.snd

/-- The number of entries. -/
def size (map : NameMap α) : Nat := map.toList.length

/-- Whether the map has no entries. -/
def isEmpty (map : NameMap α) : Bool := map.toList.isEmpty

/-- The value of the first entry with the given name. -/
def lookup (name : String) : List (String × α) → Option α
  | [] => none
  | (key, value) :: rest => if key = name then some value else lookup name rest

/-- The value under a name. -/
def find? (map : NameMap α) (name : String) : Option α := lookup name map.toList

/-- Whether the map has an entry with the given name. -/
def contains (map : NameMap α) (name : String) : Bool := (map.find? name).isSome

/-- Puts an entry at its place among ascending entries, instead of one with the same name. -/
def put (name : String) (value : α) : List (String × α) → List (String × α)
  | [] => [(name, value)]
  | (key, old) :: rest =>
      if name < key then (name, value) :: (key, old) :: rest
      else if name = key then (name, value) :: rest
      else (key, old) :: put name value rest

theorem mem_put {name : String} {value : α} {entries : List (String × α)} {entry : String × α}
    (member : entry ∈ put name value entries) : entry = (name, value) ∨ entry ∈ entries := by
  induction entries with
  | nil => simpa [put] using member
  | cons head rest ih =>
      obtain ⟨key, old⟩ := head
      unfold put at member
      split at member
      · simpa using member
      · split at member
        · rcases List.mem_cons.1 member with h | h
          · exact .inl h
          · exact .inr (List.mem_cons_of_mem _ h)
        · rcases List.mem_cons.1 member with h | h
          · exact .inr (h ▸ List.mem_cons_self)
          · exact (ih h).imp id (List.mem_cons_of_mem _)

theorem lt_of_not_lt_of_ne {left right : String} (notLess : ¬ left < right)
    (different : left ≠ right) : right < left := by
  have le : right ≤ left := String.not_lt.1 notLess
  by_cases h : right < left
  · exact h
  · exact absurd (String.le_antisymm (String.not_lt.1 h) le) different

theorem ascending_put (name : String) (value : α) {entries : List (String × α)}
    (ascending : Ascending entries) : Ascending (put name value entries) := by
  induction entries with
  | nil => simp [put, Ascending]
  | cons head rest ih =>
      obtain ⟨key, old⟩ := head
      obtain ⟨below, restAscending⟩ := List.pairwise_cons.1 ascending
      unfold put
      split
      · next less =>
        refine List.pairwise_cons.2 ⟨fun entry member => ?_, ascending⟩
        rcases List.mem_cons.1 member with h | h
        · subst h; exact less
        · exact String.lt_trans less (below entry h)
      · next notLess =>
        split
        · next same => subst same; exact List.pairwise_cons.2 ⟨below, restAscending⟩
        · next different =>
          refine List.pairwise_cons.2 ⟨fun entry member => ?_, ih restAscending⟩
          rcases mem_put member with h | h
          · subst h; exact lt_of_not_lt_of_ne notLess different
          · exact below entry h

/-- The map with `value` under `name`. -/
def insert (map : NameMap α) (name : String) (value : α) : NameMap α :=
  ⟨put name value map.toList, ascending_put name value map.ascending⟩

/-- The map without the entry under `name`. -/
def erase (map : NameMap α) (name : String) : NameMap α :=
  ⟨map.toList.filter fun entry => entry.1 ≠ name, map.ascending.filter _⟩

/-- The map of the entries that a test accepts. -/
def filter (map : NameMap α) (test : String → α → Bool) : NameMap α :=
  ⟨map.toList.filter fun entry => test entry.1 entry.2, map.ascending.filter _⟩

/-- The map with every value replaced by its image. -/
def map (values : NameMap α) (image : α → β) : NameMap β :=
  ⟨values.toList.map fun entry => (entry.1, image entry.2),
    List.pairwise_map.2 values.ascending⟩

/-- The map of a list of entries; of two entries with one name the later counts. -/
def ofList (entries : List (String × α)) : NameMap α :=
  entries.foldl (fun map entry => map.insert entry.1 entry.2) empty

/-- The map with some values under a name followed by their places. -/
def insertNumbered (map : NameMap α) (name : String) (values : List α) : NameMap α :=
  values.zipIdx.foldl (fun map entry => map.insert (name ++ toString entry.2) entry.1) map

/-- The entries of both maps; where both have a name, the value of the first counts. -/
def union (first second : NameMap α) : NameMap α :=
  first.toList.foldl (fun map entry => map.insert entry.1 entry.2) second

@[simp]
theorem find?_empty (name : String) : (empty : NameMap α).find? name = none := rfl

theorem lookup_put (name asked : String) (value : α) (entries : List (String × α)) :
    lookup asked (put name value entries)
      = if asked = name then some value else lookup asked entries := by
  induction entries with
  | nil => simp [put, lookup, eq_comm]
  | cons head rest ih =>
      obtain ⟨key, old⟩ := head
      unfold put
      split
      · simp [lookup, eq_comm]
      · split
        · next same =>
          subst same
          by_cases h : asked = name
          · simp [lookup, h]
          · simp [lookup, h, Ne.symm h]
        · next different =>
          by_cases h : key = asked
          · subst h; simp [lookup, Ne.symm different]
          · simp [lookup, h, ih]

/-- After an insertion the new name has the new value and every other name its old one. -/
theorem find?_insert (map : NameMap α) (name asked : String) (value : α) :
    (map.insert name value).find? asked = if asked = name then some value else map.find? asked :=
  lookup_put name asked value map.toList

theorem lookup_filter_ne (name asked : String) (entries : List (String × α)) :
    lookup asked (entries.filter fun entry => entry.1 ≠ name)
      = if asked = name then none else lookup asked entries := by
  induction entries with
  | nil => simp [lookup]
  | cons head rest ih =>
      obtain ⟨key, old⟩ := head
      by_cases h : key = name
      · subst h
        by_cases k : asked = key
        · simpa [k] using ih
        · simp only [ne_eq, decide_not, decide_true, Bool.not_true,
            Bool.false_eq_true, not_false_eq_true, List.filter_cons_of_neg]
          simp only [ne_eq, decide_not] at ih
          rw [ih, if_neg k, if_neg k, lookup, if_neg (Ne.symm k)]
      · by_cases k : key = asked
        · subst k; simp [lookup, h]
        · simpa [lookup, h, k] using ih

/-- After an erasure the name has no value and every other name its old one. -/
theorem find?_erase (map : NameMap α) (name asked : String) :
    (map.erase name).find? asked = if asked = name then none else map.find? asked :=
  lookup_filter_ne name asked map.toList

end NameMap

end Orm
