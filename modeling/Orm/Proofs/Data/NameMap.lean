import Mathlib.Data.List.Sort
import Orm.Data.NameMap

/-!
# Maps are known by their entries

A name is in a `NameMap` with exactly the value that a look-up gives, so two maps with the same
look-ups are the same map (`ext_find`).
-/

namespace Orm.NameMap

variable {α : Type}

/-- An entry of ascending entries is what a look-up of its name gives. -/
theorem lookup_eq_some_iff {entries : List (String × α)} (h : Ascending entries) {name : String}
    {value : α} : lookup name entries = some value ↔ (name, value) ∈ entries := by
  induction entries with
  | nil => simp [lookup]
  | cons head rest ih =>
      obtain ⟨key, old⟩ := head
      obtain ⟨hbelow, hrest⟩ := List.pairwise_cons.1 h
      by_cases hsame : key = name
      · subst hsame
        have hfresh : (key, value) ∉ rest := fun hmem =>
          String.lt_irrefl key (hbelow (key, value) hmem)
        simp [lookup, hfresh, eq_comm]
      · simp [lookup, hsame, Ne.symm hsame, ih hrest]

/-- An entry of a map is what a look-up of its name gives. -/
theorem mem_to_list_iff {map : NameMap α} {name : String} {value : α} :
    (name, value) ∈ map.toList ↔ map.find? name = some value :=
  (lookup_eq_some_iff map.ascending).symm

/-- What a look-up gives is in an entry with that name. -/
theorem mem_of_lookup {entries : List (String × α)} {name : String} {value : α}
    (h : lookup name entries = some value) : (name, value) ∈ entries := by
  induction entries with
  | nil => cases h
  | cons entry rest ih =>
      rw [lookup] at h
      split at h
      · next hsame =>
        rw [← hsame, ← Option.some.inj h]
        exact List.mem_cons_self
      · exact List.mem_cons_of_mem entry (ih h)

/-- If all names are distinct, a look-up gives what is in the entry with its name. -/
theorem lookup_of_mem {entries : List (String × α)} (h : (entries.map Prod.fst).Nodup)
    {entry : String × α} (hentry : entry ∈ entries) : lookup entry.1 entries = some entry.2 := by
  induction entries with
  | nil => cases hentry
  | cons first rest ih =>
      obtain ⟨hfirst, hrest⟩ := List.nodup_cons.1 h
      rw [lookup]
      rcases List.mem_cons.1 hentry with rfl | hmem
      · exact if_pos rfl
      · have hother : first.1 ≠ entry.1 := by
          intro hsame
          exact hfirst (hsame ▸ List.mem_map_of_mem hmem)
        rw [if_neg hother, ih hrest hmem]

/-- The names of a map are distinct. -/
theorem nodup_keys (map : NameMap α) : map.keys.Nodup := by
  refine List.pairwise_map.2 (map.ascending.imp fun {first second} hless hsame => ?_)
  rw [hsame] at hless
  exact String.lt_irrefl second.1 hless

/-- A look-up gives something under exactly the names of the entries. -/
theorem is_some_lookup_iff {entries : List (String × α)} {name : String} :
    (lookup name entries).isSome = true ↔ name ∈ entries.map Prod.fst := by
  induction entries with
  | nil => simp [lookup]
  | cons entry rest ih =>
      rw [lookup, List.map_cons, List.mem_cons, ← ih]
      split
      · next hsame => simp [hsame]
      · next hother => simp [Ne.symm hother]

/-- A look-up gives nothing under a name that no entry has. -/
theorem lookup_eq_none {entries : List (String × α)} {name : String}
    (h : name ∉ entries.map Prod.fst) : lookup name entries = none := by
  rwa [← is_some_lookup_iff, Bool.not_eq_true, Option.isSome_eq_false_iff,
    Option.isNone_iff_eq_none] at h

/-- Where the first of two lists of entries has none of a name, the second is looked up. -/
theorem lookup_append (first second : List (String × α)) (name : String) :
    lookup name (first ++ second) = (lookup name first).or (lookup name second) := by
  induction first with
  | nil => rfl
  | cons entry rest ih =>
      rw [List.cons_append, lookup, lookup, ih]
      split <;> rfl

/-- Entries with distinct names can be looked up in either direction. -/
theorem lookup_reverse {entries : List (String × α)} (h : (entries.map Prod.fst).Nodup)
    (name : String) : lookup name entries.reverse = lookup name entries := by
  induction entries with
  | nil => rfl
  | cons entry rest ih =>
      obtain ⟨hfresh, hrest⟩ := List.nodup_cons.1 h
      rw [List.reverse_cons, lookup_append, ih hrest]
      simp only [lookup]
      split
      · next hsame => rw [lookup_eq_none (hsame ▸ hfresh), Option.none_or]
      · exact Option.or_none

/-- A value that depends on its name is found under the names that it is listed with. -/
theorem lookup_map (names : List String) (value : String → α) (name : String) :
    lookup name (names.map fun name => (name, value name))
      = if name ∈ names then some (value name) else none := by
  induction names with
  | nil => rfl
  | cons first rest ih =>
      rw [List.map_cons, lookup, ih]
      by_cases hfirst : first = name
      · simp [hfirst]
      · simp [hfirst, Ne.symm hfirst]

/-- Entries that are put into a map one after the other are found from the last of them on, before
those of the map. -/
theorem find_foldl_insert (entries : List (String × α)) (known : NameMap α) (name : String) :
    (entries.foldl (fun map entry => map.insert entry.1 entry.2) known).find? name
      = (lookup name entries.reverse).or (known.find? name) := by
  induction entries generalizing known with
  | nil => rfl
  | cons entry rest ih =>
      rw [List.foldl_cons, ih, find?_insert, List.reverse_cons, lookup_append, Option.or_assoc,
        lookup, lookup]
      by_cases hsame : entry.1 = name
      · rw [if_pos hsame, if_pos hsame.symm, Option.some_or]
      · rw [if_neg hsame, if_neg (Ne.symm hsame), Option.none_or]

/-- The map of some entries gives what a look-up from the last of them on gives. -/
theorem find_of_list (entries : List (String × α)) (name : String) :
    (ofList entries).find? name = lookup name entries.reverse := by
  rw [ofList, find_foldl_insert, find?_empty, Option.or_none]

/-- Of two maps together the first is looked up before the second. -/
theorem find_union (first second : NameMap α) (name : String) :
    (first.union second).find? name = (first.find? name).or (second.find? name) := by
  rw [union, find_foldl_insert, lookup_reverse first.nodup_keys]
  rfl

/-- The map of a list of entries has exactly their names. -/
theorem is_some_find_of_list_iff {entries : List (String × α)} {name : String} :
    ((ofList entries).find? name).isSome = true ↔ name ∈ entries.map Prod.fst := by
  rw [find_of_list, is_some_lookup_iff, List.map_reverse, List.mem_reverse]

/-- The map of values that depend on their names has them under these names. -/
theorem find_of_list_map (names : List String) (value : String → α) (name : String) :
    (ofList (names.map fun name => (name, value name))).find? name
      = if name ∈ names then some (value name) else none := by
  rw [find_of_list, ← List.map_reverse, lookup_map]
  simp only [List.mem_reverse]

/-- Two maps with the same look-ups are the same. -/
theorem ext_find {left right : NameMap α} (h : ∀ name, left.find? name = right.find? name) :
    left = right := by
  have hmem : ∀ entry, entry ∈ left.toList ↔ entry ∈ right.toList := by
    rintro ⟨name, value⟩
    rw [mem_to_list_iff, mem_to_list_iff, h]
  have hlist : left.toList = right.toList := by
    have : Std.Irrefl fun first second : String × α => first.1 < second.1 :=
      ⟨fun entry => String.lt_irrefl entry.1⟩
    have : Std.Antisymm fun first second : String × α => first.1 < second.1 :=
      ⟨fun first second hless hgreater => absurd (String.lt_trans hless hgreater)
        (String.lt_irrefl first.1)⟩
    exact left.ascending.eq_of_mem_iff right.ascending hmem
  cases left
  cases right
  cases hlist
  rfl

/-- A map has the names of two others, and under each what the first has there, or else what the
second has. -/
structure IsUnion (map first second : NameMap α) : Prop where
  contains : ∀ name,
    map.contains name = true ↔ first.contains name = true ∨ second.contains name = true
  of_first : ∀ {name value}, first.find? name = some value → map.find? name = some value
  of_second : ∀ {name value}, first.find? name = none → second.find? name = some value →
    map.find? name = some value

/-- Two maps together have the names of both, and what is under them. -/
theorem is_union (first second : NameMap α) : (first.union second).IsUnion first second where
  contains := fun name => by
    rw [NameMap.contains, find_union, Option.isSome_or, Bool.or_eq_true]
    rfl
  of_first := fun {name value} h => by rw [find_union, h, Option.some_or]
  of_second := fun {name value} hnone h => by rw [find_union, hnone, h, Option.none_or]

/-- Of three maps together any two can be put together first. -/
theorem union_assoc (first second third : NameMap α) :
    first.union (second.union third) = (first.union second).union third := by
  refine ext_find fun name => ?_
  rw [find_union, find_union, find_union, find_union, Option.or_assoc]

/-- A map together with itself is that map. -/
theorem union_self (map : NameMap α) : map.union map = map := by
  refine ext_find fun name => ?_
  rw [find_union, Option.or_self]

/-- A map together with nothing is that map. -/
theorem union_empty (map : NameMap α) : map.union .empty = map := by
  refine ext_find fun name => ?_
  rw [find_union, find?_empty, Option.or_none]

/-- A map is the map of its entries. -/
theorem of_list_to_list (map : NameMap α) : ofList map.toList = map := by
  refine ext_find fun name => ?_
  rw [find_of_list, lookup_reverse map.nodup_keys]
  rfl

/-- The entries of the map of a list are in the list. -/
theorem mem_of_mem_of_list {entries : List (String × α)} {entry : String × α}
    (h : entry ∈ (ofList entries).toList) : entry ∈ entries := by
  rw [mem_to_list_iff, find_of_list] at h
  exact List.mem_reverse.1 (mem_of_lookup h)

/-- A list is that of the values in the order of their names if and only if it ascends. -/
theorem values_of_list_eq_iff {name : α → String} {values : List α} :
    (ofList (values.map fun value => (name value, value))).values = values ↔
      values.Pairwise fun left right => name left < name right := by
  let entries := values.map fun value => (name value, value)
  have hvalues : entries.map Prod.snd = values := by simp [entries, Function.comp_def]
  constructor
  · intro hsame
    have hentries : (ofList entries).toList = entries := by
      have hnamed : ∀ entry ∈ (ofList entries).toList, (name entry.2, entry.2) = entry := by
        intro entry hentry
        obtain ⟨value, -, rfl⟩ := List.mem_map.1 (mem_of_mem_of_list hentry)
        rfl
      calc (ofList entries).toList
          = (ofList entries).toList.map fun entry => (name entry.2, entry.2) := by
            rw [List.map_congr_left hnamed, List.map_id']
        _ = (ofList entries).values.map fun value => (name value, value) := by
            rw [NameMap.values, List.map_map]; rfl
        _ = entries := by rw [hsame]
    have hascending := (ofList entries).ascending
    rw [hentries] at hascending
    have hnames := List.pairwise_map.1 hascending
    exact hnames
  · intro hascending
    have hmap : ofList entries = ⟨entries, List.pairwise_map.2 hascending⟩ :=
      of_list_to_list ⟨entries, List.pairwise_map.2 hascending⟩
    show (ofList entries).values = values
    rw [hmap]
    exact hvalues

/-- A map without the entries that a test refuses has no value under their names. -/
theorem find_filter (map : NameMap α) (test : String → α → Bool) (name : String) :
    (map.filter test).find? name = (map.find? name).filter (test name) := by
  cases hfound : map.find? name with
  | none =>
      cases hkept : (map.filter test).find? name with
      | none => rfl
      | some value =>
          have hmem := List.mem_filter.1 (mem_to_list_iff.2 hkept)
          rw [mem_to_list_iff, hfound] at hmem
          exact absurd hmem.1 (by simp)
  | some value =>
      have hmem := mem_to_list_iff.2 hfound
      cases htest : test name value with
      | true =>
          rw [Option.filter_some_pos htest]
          exact mem_to_list_iff.1 (List.mem_filter.2 ⟨hmem, htest⟩)
      | false =>
          rw [Option.filter_some_neg htest]
          cases hkept : (map.filter test).find? name with
          | none => rfl
          | some other =>
              obtain ⟨hother, hpass⟩ := List.mem_filter.1 (mem_to_list_iff.2 hkept)
              rw [mem_to_list_iff, hfound, Option.some.injEq] at hother
              rw [← hother, htest] at hpass
              cases hpass

/-- Of the names of a map that pass a test the first one is found with its value. -/
theorem find_first {map : NameMap α} {test : String → Bool} {name : String} {value : α}
    (hvalue : map.find? name = some value) (htest : test name = true)
    (hfirst : ∀ other, (map.find? other).isSome = true → test other = true → name ≤ other) :
    map.toList.find? (fun entry => test entry.1) = some (name, value) := by
  obtain ⟨before, after, hlist⟩ := List.append_of_mem (mem_to_list_iff.2 hvalue)
  refine List.find?_eq_some_iff_append.2 ⟨htest, before, after, hlist, fun entry hentry => ?_⟩
  have hless : entry.1 < name := by
    have hascending := map.ascending
    rw [hlist] at hascending
    exact (List.pairwise_append.1 hascending).2.2 entry hentry _ List.mem_cons_self
  have hmem : map.find? entry.1 = some entry.2 :=
    mem_to_list_iff.1 (hlist ▸ List.mem_append_left _ hentry)
  cases hother : test entry.1 with
  | false => rfl
  | true => exact absurd (hfirst entry.1 (by simp [hmem]) hother) (String.not_le.2 hless)

end Orm.NameMap
