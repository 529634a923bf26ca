import Orm.Json.Decoding
import Orm.Proofs.Data.NameMap
import Orm.Proofs.Json.RoundTrip

/-!
# Data that is read back from documents

A kind of data is faithful if the document of a value is plain, and gives the value back if and only
if it is kept as a whole. So it is with texts and truth values, and with the lists and maps of
faithful data; of records, `as_fields_cut` gives the fields.
-/

namespace Orm.Json

variable {α : Type}

/-! ## Levels of nesting -/

/-- The greatest of some numbers, zero if there are none. -/
def greatest (numbers : List Nat) : Nat := numbers.foldr max 0

/-- A bound of some numbers is one of the greatest. -/
theorem greatest_le_iff {numbers : List Nat} {bound : Nat} :
    greatest numbers ≤ bound ↔ ∀ number ∈ numbers, number ≤ bound := by
  induction numbers with
  | nil => simp [greatest]
  | cons number rest ih =>
      rw [List.forall_mem_cons, ← ih]
      exact Nat.max_le

/-- The levels of nesting that an array needs whose items need `level` ones. -/
def listLevel (level : α → Nat) (items : List α) : Nat := 1 + greatest (items.map level)

/-- The levels of nesting that an object needs whose contents need `level` ones. -/
def mapLevel (level : α → Nat) (map : NameMap α) : Nat := listLevel level map.values

/-- An array needs one level more than each of its items. -/
theorem list_level_le_iff {level : α → Nat} {items : List α} {depth : Nat} :
    listLevel level items ≤ depth + 1 ↔ ∀ item ∈ items, level item ≤ depth := by
  rw [listLevel, Nat.add_comm, Nat.add_le_add_iff_right, greatest_le_iff, List.forall_mem_map]

/-- An array needs a level. -/
theorem list_level_pos (level : α → Nat) (items : List α) : 0 < listLevel level items := by
  rw [listLevel]
  omega

/-- If all items need at most some levels an array of them needs at most one more. -/
theorem list_level_le {level : α → Nat} {bound : Nat} (h : ∀ item, level item ≤ bound)
    (items : List α) : listLevel level items ≤ bound + 1 :=
  list_level_le_iff.2 fun item _ => h item

/-- So it is with objects. -/
theorem map_level_le {level : α → Nat} {bound : Nat} (h : ∀ content, level content ≤ bound)
    (map : NameMap α) : mapLevel level map ≤ bound + 1 :=
  list_level_le h map.values

/-! ## Documents that are kept -/

mutual
/-- With levels enough all of a document is kept. -/
theorem exists_cut_eq (document : Json) :
    ∃ depth, ∀ more, document.cut (depth + more) = document := by
  match document with
  | .null | .bool _ | .int _ | .float _ | .text _ | .unusable =>
      exact ⟨0, fun more => by rw [cut]⟩
  | .array items =>
      obtain ⟨depth, hitems⟩ := exists_cut_items_eq items
      refine ⟨depth + 1, fun more => ?_⟩
      rw [Nat.add_right_comm, cut, Nat.add_sub_cancel, hitems]
      rfl
  | .object members =>
      obtain ⟨depth, hmembers⟩ := exists_cut_members_eq members
      refine ⟨depth + 1, fun more => ?_⟩
      rw [Nat.add_right_comm, cut, Nat.add_sub_cancel, hmembers]
      rfl

/-- So it is with items. -/
theorem exists_cut_items_eq (items : List Json) :
    ∃ depth, ∀ more, cutItems (depth + more) items = items := by
  match items with
  | [] => exact ⟨0, fun more => by rw [cutItems]⟩
  | item :: rest =>
      obtain ⟨first, hitem⟩ := exists_cut_eq item
      obtain ⟨second, hrest⟩ := exists_cut_items_eq rest
      refine ⟨first + second, fun more => ?_⟩
      rw [cutItems, Nat.add_assoc, hitem, Nat.add_left_comm, hrest]

/-- And with members. -/
theorem exists_cut_members_eq (members : List (String × Json)) :
    ∃ depth, ∀ more, cutMembers (depth + more) members = members := by
  match members with
  | [] => exact ⟨0, fun more => by rw [cutMembers]⟩
  | (name, item) :: rest =>
      obtain ⟨first, hitem⟩ := exists_cut_eq item
      obtain ⟨second, hrest⟩ := exists_cut_members_eq rest
      refine ⟨first + second, fun more => ?_⟩
      rw [cutMembers, Nat.add_assoc, hitem, Nat.add_left_comm, hrest]
end

/-! ## Faithful data -/

/-- The document of a value is plain, and the value is read from what is kept of it if and only if
there are levels enough. -/
structure Faithful (encode : α → Json) (decode : Json → Option α) (level : α → Nat) : Prop where
  plain : ∀ value, (encode value).isPlain = true
  decode_cut : ∀ value depth, decode ((encode value).cut depth)
    = if level value ≤ depth then some value else none

/-- The document of a faithful value gives it back. -/
theorem Faithful.decode_encode {encode : α → Json} {decode : Json → Option α}
    {level : α → Nat} (h : Faithful encode decode level) (value : α) :
    decode (encode value) = some value := by
  obtain ⟨depth, hcut⟩ := exists_cut_eq (encode value)
  rw [← hcut (level value), h.decode_cut, if_pos (Nat.le_add_left ..)]

/-- Texts are faithful. -/
theorem faithful_text : Faithful .text asText? fun _ => 0 where
  plain := fun _ => rfl
  decode_cut := fun content depth => by simp [cut, asText?]

/-- Truth values are faithful. -/
theorem faithful_bool : Faithful .bool asBool? fun _ => 0 where
  plain := fun _ => rfl
  decode_cut := fun flag depth => by simp [cut, asBool?]

/-- An integer between two bounds is read back. -/
theorem as_int_between_cut {low high number : Int} (hlow : low ≤ number) (hhigh : number ≤ high)
    (depth : Nat) : ((int number).cut depth).asIntBetween? low high = some number := by
  rw [cut, asIntBetween?, if_pos ⟨hlow, hhigh⟩]

/-- All items are plain if each of them is. -/
theorem all_plain_iff {items : List Json} :
    allPlain items = true ↔ ∀ item ∈ items, item.isPlain = true := by
  induction items with
  | nil => simp [allPlain]
  | cons item rest ih => rw [allPlain, Bool.and_eq_true_iff, ih, List.forall_mem_cons]

/-- All members are plain if the content of each of them is. -/
theorem members_plain_iff {members : List (String × Json)} :
    membersPlain members = true ↔ ∀ member ∈ members, member.2.isPlain = true := by
  induction members with
  | nil => simp [membersPlain]
  | cons member rest ih =>
      obtain ⟨name, item⟩ := member
      rw [membersPlain, Bool.and_eq_true_iff, ih, List.forall_mem_cons]

/-- What is kept of items is kept of each. -/
theorem cut_items_eq_map (depth : Nat) (items : List Json) :
    cutItems depth items = items.map (cut depth) := by
  induction items with
  | nil => rfl
  | cons item rest ih => rw [cutItems, ih, List.map_cons]

/-- What is kept of members is kept of each under its name. -/
theorem cut_members_eq_map (depth : Nat) (members : List (String × Json)) :
    cutMembers depth members = members.map fun member => (member.1, member.2.cut depth) := by
  induction members with
  | nil => rfl
  | cons member rest ih =>
      obtain ⟨name, item⟩ := member
      rw [cutMembers, ih, List.map_cons]

/-- Values are read one after the other if each can be read, and else none is. -/
theorem map_m_if (accepts : α → Prop) [DecidablePred accepts] (values : List α) :
    (values.mapM fun value => if accepts value then some value else none)
      = if ∀ value ∈ values, accepts value then some values else none := by
  induction values with
  | nil => rfl
  | cons value rest ih =>
      rw [List.mapM_cons, ih]
      by_cases hvalue : accepts value
      · by_cases hrest : ∀ value ∈ rest, accepts value
        · rw [if_pos hvalue, if_pos hrest, if_pos (List.forall_mem_cons.2 ⟨hvalue, hrest⟩)]
          rfl
        · rw [if_pos hvalue, if_neg hrest, if_neg fun h => hrest (List.forall_mem_cons.1 h).2]
          rfl
      · rw [if_neg hvalue, if_neg fun h => hvalue (List.forall_mem_cons.1 h).1]
        rfl

/-- What needs a value that is there under a condition is done under that condition. -/
theorem bind_if {β : Type} (condition : Prop) [Decidable condition] (value : α)
    (next : α → Option β) : (if condition then some value else none).bind next
      = if condition then next value else none := by
  split <;> rfl

/-- Lists of faithful data are faithful. -/
theorem Faithful.list {encode : α → Json} {decode : Json → Option α} {level : α → Nat}
    (h : Faithful encode decode level) :
    Faithful (ofList encode) (asList? decode) (listLevel level) where
  plain := fun values => all_plain_iff.2 fun item hitem => by
    obtain ⟨value, -, rfl⟩ := List.mem_map.1 hitem
    exact h.plain value
  decode_cut := fun values depth => by
    cases depth with
    | zero =>
        rw [if_neg (Nat.not_le.2 (list_level_pos level values))]
        rfl
    | succ depth =>
        have hitems : ((ofList encode values).cut (depth + 1)).asItems?
            = some ((values.map encode).map (cut depth)) := by
          rw [ofList, cut, cut_items_eq_map]
          rfl
        rw [asList?, hitems]
        show ((values.map encode).map (cut depth)).mapM decode = _
        rw [List.mapM_map, List.mapM_map]
        have hdecode : (decode ∘ cut depth) ∘ encode
            = fun value => if level value ≤ depth then some value else none :=
          funext fun value => h.decode_cut value depth
        rw [hdecode, map_m_if fun value => level value ≤ depth]
        simp only [list_level_le_iff]

/-- Maps of faithful data are faithful. -/
theorem Faithful.map {encode : α → Json} {decode : Json → Option α} {level : α → Nat}
    (h : Faithful encode decode level) :
    Faithful (ofMap encode) (asMap? decode) (mapLevel level) where
  plain := fun map => members_plain_iff.2 fun member hmember => by
    obtain ⟨entry, -, rfl⟩ := List.mem_map.1 hmember
    exact h.plain entry.2
  decode_cut := fun map depth => by
    cases depth with
    | zero =>
        rw [mapLevel, if_neg (Nat.not_le.2 (list_level_pos level map.values))]
        rfl
    | succ depth =>
        have hmembers : (ofMap encode map).cut (depth + 1)
            = .object (map.toList.map fun entry => (entry.1, (encode entry.2).cut depth)) := by
          rw [ofMap, cut, cut_members_eq_map, List.map_map]
          rfl
        have hdecode : ((fun member : String × Json => (decode member.2).map (member.1, ·)) ∘
              fun entry : String × α => (entry.1, (encode entry.2).cut depth))
            = fun entry => if level entry.2 ≤ depth then some entry else none := by
          funext entry
          show (decode ((encode entry.2).cut depth)).map (entry.1, ·) = _
          rw [h.decode_cut]
          split <;> rfl
        rw [hmembers, asMap?]
        show (List.mapM _ (map.toList.map _) >>= _) = _
        rw [List.mapM_map, hdecode, map_m_if fun entry : String × α => level entry.2 ≤ depth]
        simp only [mapLevel, list_level_le_iff, NameMap.values, List.forall_mem_map]
        split
        · exact congrArg some (NameMap.of_list_to_list map)
        · rfl

/-! ## Records -/

/-- What is kept of a record has what is kept of its fields. -/
theorem as_fields_cut {fields : List (String × Json)} {names : List String}
    (hfields : fields.map Prod.fst = names) (h : names.Nodup) (depth : Nat) :
    ((object fields).cut depth).asFields? names
      = if depth = 0 then none
        else some (fields.map fun field => some (field.2.cut (depth - 1))) := by
  let members := fields.map fun field => (field.1, field.2.cut (depth - 1))
  have hcut : (object fields).cut depth = kept depth (object members) := by
    rw [cut, cut_members_eq_map]
  have hnames : members.map Prod.fst = names := by
    rw [← hfields, List.map_map]
    rfl
  rw [hcut, ← hnames]
  rw [← hnames] at h
  cases depth with
  | zero => rfl
  | succ depth =>
      have honce : (members.map Prod.fst).all
          (fun name => (members.filter fun member => member.1 = name).length ≤ 1) = true := by
        refine List.all_eq_true.2 fun name _ => decide_eq_true ?_
        have hcount := List.nodup_iff_count_le_one.1 h name
        rw [List.count, List.countP_map, List.countP_eq_length_filter] at hcount
        exact hcount
      have hlookup : (members.map Prod.fst).map (fun name => NameMap.lookup name members)
          = fields.map fun field => some (field.2.cut depth) := by
        rw [List.map_map]
        calc members.map ((fun name => NameMap.lookup name members) ∘ Prod.fst)
            = members.map fun member => some member.2 :=
              List.map_congr_left fun member hmember => NameMap.lookup_of_mem h hmember
          _ = fields.map fun field => some (field.2.cut depth) := by
              rw [List.map_map]
              rfl
      show (if (members.map Prod.fst).all _ = true then some _ else none) = _
      rw [if_pos honce, hlookup]
      rfl

end Orm.Json
