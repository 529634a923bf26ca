import Orm.Proofs.Json.Decoding

/-!
# How deep a document that was read is nested

A document lies within some levels of nesting if all of it is kept there. Whatever text a document
is read from, it lies within the levels that the reader keeps (`within_of_read`), and so data that
is decoded from it needs no more levels than these.
-/

namespace Orm.Json

/-- A document is not nested deeper than some levels. -/
def Within (depth : Nat) (document : Json) : Prop := document.cut depth = document

variable {depth : Nat}

/-- A list is kept by a map if every item is. -/
theorem map_eq_self_iff {α : Type} {image : α → α} {items : List α} :
    items.map image = items ↔ ∀ item ∈ items, image item = item :=
  calc items.map image = items
      ↔ items.map image = items.map id := by rw [List.map_id]
    _ ↔ ∀ item ∈ items, image item = item := List.map_inj_left

/-- An array takes one level, and its items lie within the others. -/
theorem within_array_iff {items : List Json} :
    Within depth (.array items) ↔ 0 < depth ∧ ∀ item ∈ items, Within (depth - 1) item := by
  cases depth with
  | zero => simp [Within, cut, kept]
  | succ depth => simp [Within, cut, kept, cut_items_eq_map, map_eq_self_iff]

/-- So does an object. -/
theorem within_object_iff {members : List (String × Json)} :
    Within depth (.object members) ↔
      0 < depth ∧ ∀ member ∈ members, Within (depth - 1) member.2 := by
  cases depth with
  | zero => simp [Within, cut, kept]
  | succ depth => simp [Within, cut, kept, cut_members_eq_map, map_eq_self_iff, Prod.ext_iff]

/-! ## Reading -/

/-- What is read item by item is each read from some item. -/
theorem exists_of_mem_map_m {α β : Type} {read : α → Option β} {items : List α} {results : List β}
    (h : items.mapM read = some results) {result : β} (hmem : result ∈ results) :
    ∃ item ∈ items, read item = some result := by
  induction items generalizing results with
  | nil =>
      obtain rfl := Option.some.inj h
      cases hmem
  | cons item rest ih =>
      simp only [List.mapM_cons, Option.bind_eq_bind, Option.bind_eq_some_iff] at h
      obtain ⟨first, hfirst, others, hothers, hresults⟩ := h
      obtain rfl := Option.some.inj hresults
      rcases List.mem_cons.1 hmem with rfl | hmem
      · exact ⟨item, List.mem_cons_self, hfirst⟩
      · obtain ⟨found, hfound, hread⟩ := ih hothers hmem
        exact ⟨found, List.mem_cons_of_mem _ hfound, hread⟩

/-- A number has no levels. -/
theorem within_of_number {minus : Bool} {input rest : List Char} {document : Json}
    (h : readNumber? minus input = some (document, rest)) : Within depth document := by
  unfold readNumber? at h
  dsimp only at h
  split at h
  · cases h
  · simp only [Option.bind_eq_bind, Option.bind_eq_some_iff] at h
    obtain ⟨⟨fraction, after⟩, -, ⟨exponent, remaining⟩, -, hnumber⟩ := h
    generalize (if minus = true then _ else _ : Int) = integer at hnumber
    split at hnumber
    · obtain ⟨rfl, -⟩ := Prod.mk.inj (Option.some.inj hnumber)
      rw [Within, cut]
    · split at hnumber
      all_goals
        obtain ⟨rfl, -⟩ := Prod.mk.inj (Option.some.inj hnumber)
        rw [Within, cut]

/-- What is kept of an array lies within some levels if its items lie within one less. -/
theorem within_kept_array {items : List Json} (h : ∀ item ∈ items, Within (depth - 1) item) :
    Within depth (kept depth (.array items)) := by
  cases depth with
  | zero => rfl
  | succ depth => exact within_array_iff.2 ⟨Nat.zero_lt_succ depth, h⟩

/-- So it is with an object. -/
theorem within_kept_object {members : List (Option String × Json)}
    (h : ∀ member ∈ members, Within (depth - 1) member.2) :
    Within depth (kept depth (ofMembers members)) := by
  cases depth with
  | zero => rfl
  | succ depth =>
      show Within (depth + 1) (ofMembers members)
      rw [ofMembers]
      split
      · next named hnamed =>
        refine within_object_iff.2 ⟨Nat.zero_lt_succ depth, fun member hmember => ?_⟩
        obtain ⟨⟨name, content⟩, hmem, hname⟩ := exists_of_mem_map_m hnamed hmember
        obtain ⟨_, -, rfl⟩ := Option.map_eq_some_iff.1 hname
        exact h _ hmem
      · rfl

/-- With some fuel, what is read lies within the levels that are kept. -/
structure ReadsWithin (fuel : Nat) : Prop where
  value : ∀ {depth : Nat} {input rest : List Char} {document : Json},
    readValue? depth fuel input = some (document, rest) → Within depth document
  items : ∀ {depth : Nat} {input rest : List Char} {done items : List Json},
    readItems? depth fuel input done = some (items, rest) →
    (∀ item ∈ done, Within depth item) → ∀ item ∈ items, Within depth item
  members : ∀ {depth : Nat} {input rest : List Char} {done members : List (Option String × Json)},
    readMembers? depth fuel input done = some (members, rest) →
    (∀ member ∈ done, Within depth member.2) → ∀ member ∈ members, Within depth member.2

namespace ReadsWithin

variable {fuel : Nat} (h : ReadsWithin fuel) {input rest : List Char}

include h

/-- One more step of fuel reads a document by its first character. -/
theorem value_succ {document : Json}
    (hread : readValue? depth (fuel + 1) input = some (document, rest)) :
    Within depth document := by
  rw [readValue?] at hread
  split at hread
  · cases hread
  · obtain ⟨⟨content, after⟩, -, hdocument⟩ := Option.map_eq_some_iff.1 hread
    obtain ⟨rfl, -⟩ := Prod.mk.inj hdocument
    cases content <;> rfl
  · split at hread
    · obtain ⟨rfl, -⟩ := Prod.mk.inj (Option.some.inj hread)
      exact within_kept_array (List.forall_mem_nil _)
    · obtain ⟨⟨items, after⟩, hitems, hdocument⟩ := Option.map_eq_some_iff.1 hread
      obtain ⟨rfl, -⟩ := Prod.mk.inj hdocument
      exact within_kept_array (h.items hitems (List.forall_mem_nil _))
  · split at hread
    · obtain ⟨rfl, -⟩ := Prod.mk.inj (Option.some.inj hread)
      have hnone : ∀ member ∈ ([] : List (Option String × Json)), Within (depth - 1) member.2 :=
        List.forall_mem_nil _
      exact within_kept_object hnone
    · obtain ⟨⟨members, after⟩, hmembers, hdocument⟩ := Option.map_eq_some_iff.1 hread
      obtain ⟨rfl, -⟩ := Prod.mk.inj hdocument
      exact within_kept_object (h.members hmembers (List.forall_mem_nil _))
  · exact within_of_number hread
  · split at hread
    · exact within_of_number hread
    · split_ifs at hread
      all_goals
        obtain ⟨after, -, hdocument⟩ := Option.map_eq_some_iff.1 hread
        obtain ⟨rfl, -⟩ := Prod.mk.inj hdocument
        rfl

/-- It reads an item, and then the others if there are any. -/
theorem items_succ {done items : List Json}
    (hread : readItems? depth (fuel + 1) input done = some (items, rest))
    (hdone : ∀ item ∈ done, Within depth item) : ∀ item ∈ items, Within depth item := by
  rw [readItems?] at hread
  simp only [Option.bind_eq_bind, Option.bind_eq_some_iff] at hread
  obtain ⟨⟨item, after⟩, hitem, hread⟩ := hread
  have hdone : ∀ other ∈ item :: done, Within depth other :=
    List.forall_mem_cons.2 ⟨h.value hitem, hdone⟩
  dsimp only at hread
  split at hread
  · obtain ⟨rfl, -⟩ := Prod.mk.inj (Option.some.inj hread)
    exact fun other hother => hdone other (List.mem_reverse.1 hother)
  · exact h.items hread hdone
  · cases hread

/-- It reads a member, and then the others if there are any. -/
theorem members_succ {done members : List (Option String × Json)}
    (hread : readMembers? depth (fuel + 1) input done = some (members, rest))
    (hdone : ∀ member ∈ done, Within depth member.2) :
    ∀ member ∈ members, Within depth member.2 := by
  rw [readMembers?] at hread
  split at hread
  · simp only [Option.bind_eq_bind, Option.bind_eq_some_iff] at hread
    obtain ⟨⟨name, after⟩, -, hread⟩ := hread
    dsimp only at hread
    split at hread
    · simp only [Option.bind_eq_some_iff] at hread
      obtain ⟨⟨item, following⟩, hitem, hread⟩ := hread
      have hdone : ∀ member ∈ (name, item) :: done, Within depth member.2 :=
        List.forall_mem_cons.2 ⟨h.value hitem, hdone⟩
      dsimp only at hread
      split at hread
      · obtain ⟨rfl, -⟩ := Prod.mk.inj (Option.some.inj hread)
        exact fun member hmember => hdone member (List.mem_reverse.1 hmember)
      · exact h.members hread hdone
      · cases hread
    · cases hread
  · cases hread

end ReadsWithin

/-- With any fuel, what is read lies within the levels that are kept. -/
theorem reads_within (fuel : Nat) : ReadsWithin fuel := by
  -- The three readers call each other, so one induction on the fuel carries all of them.
  induction fuel with
  | zero => exact ⟨nofun, nofun, nofun⟩
  | succ fuel ih => exact ⟨ih.value_succ, ih.items_succ, ih.members_succ⟩

/-- The document of a text lies within 127 levels. -/
theorem within_of_read {text : String} {document : Json} (h : read? text = some document) :
    Within 127 document := by
  rw [read?] at h
  split at h
  · next found rest hread =>
    split at h
    · obtain rfl := Option.some.inj h
      exact (reads_within _).value hread
    · cases h
  · cases h

/-! ## Decoding -/

/-- What is decoded from a document needs no more levels than the document lies within. -/
def Bounded {α : Type} (decode : Json → Option α) (level : α → Nat) : Prop :=
  ∀ {depth : Nat} {document : Json} {value : α},
    Within depth document → decode document = some value → level value ≤ depth

/-- A list has one level more than its items. -/
theorem Bounded.list {α : Type} {decode : Json → Option α} {level : α → Nat}
    (h : Bounded decode level) : Bounded (asList? decode) (listLevel level) := by
  intro depth document values hwithin hvalues
  rw [asList?, Option.bind_eq_bind, Option.bind_eq_some_iff] at hvalues
  obtain ⟨items, hitems, hvalues⟩ := hvalues
  cases document with
  | array =>
      obtain rfl := Option.some.inj hitems
      obtain ⟨hpos, hwithin⟩ := within_array_iff.1 hwithin
      obtain ⟨depth, rfl⟩ := Nat.exists_eq_succ_of_ne_zero (Nat.ne_of_gt hpos)
      refine list_level_le_iff.2 fun value hvalue => ?_
      obtain ⟨item, hitem, hread⟩ := exists_of_mem_map_m hvalues hvalue
      exact h (hwithin item hitem) hread
  | null | bool | int | float | text | object | unusable => cases hitems

/-- A record takes a level, and its fields lie within the others. -/
theorem within_fields {document : Json} {names : List String} {fields : List (Option Json)}
    (hwithin : Within depth document) (h : document.asFields? names = some fields) :
    0 < depth ∧ ∀ content, some content ∈ fields → Within (depth - 1) content := by
  cases document with
  | object members =>
      obtain ⟨hpos, hwithin⟩ := within_object_iff.1 hwithin
      rw [asFields?, Option.ite_none_right_eq_some] at h
      obtain rfl := Option.some.inj h.2
      refine ⟨hpos, fun content hcontent => ?_⟩
      obtain ⟨name, -, hname⟩ := List.mem_map.1 hcontent
      exact hwithin (name, content) (NameMap.mem_of_lookup hname)
  | array items =>
      obtain ⟨hpos, hwithin⟩ := within_array_iff.1 hwithin
      rw [asFields?, Option.ite_none_right_eq_some] at h
      obtain rfl := Option.some.inj h.2
      refine ⟨hpos, fun content hcontent => ?_⟩
      rcases List.mem_append.1 hcontent with hcontent | hcontent
      · obtain ⟨item, hitem, hsame⟩ := List.mem_map.1 hcontent
        obtain rfl := Option.some.inj hsame
        exact hwithin item hitem
      · cases List.eq_of_mem_replicate hcontent
  | null | bool | int | float | text | unusable => cases h

end Orm.Json
