import Mathlib.Data.List.DropRight
import Orm.Proofs.Json.Text

/-!
# Documents on indented lines are read back

A document that is written on indented lines is read back, but for what is nested too deep to be
kept: that is `cut` off (`read_pretty`). Documents with fractions are left out, and so are integers
that do not fit 64 bits, which are not read as integers.
-/

namespace Orm.Json

/-! ## Documents that are read back -/

mutual
/-- Whether a document has only integers of 64 bits as its numbers, and no unusable part. -/
def isPlain : Json → Bool
  | .null | .bool _ | .text _ => true
  | .int number => decide (FitsWord number)
  | .array items => allPlain items
  | .object members => membersPlain members
  | .float _ | .unusable => false

/-- Whether some documents are plain. -/
def allPlain : List Json → Bool
  | [] => true
  | item :: rest => isPlain item && allPlain rest

/-- Whether the contents of some members are plain. -/
def membersPlain : List (String × Json) → Bool
  | [] => true
  | (_, item) :: rest => isPlain item && membersPlain rest
end

mutual
/-- What is kept of a document where `depth` further levels of nesting can be. -/
def cut (depth : Nat) : Json → Json
  | .array items => kept depth (.array (cutItems (depth - 1) items))
  | .object members => kept depth (.object (cutMembers (depth - 1) members))
  | .null => .null
  | .bool flag => .bool flag
  | .int number => .int number
  | .float number => .float number
  | .text content => .text content
  | .unusable => .unusable

/-- What is kept of some documents. -/
def cutItems (depth : Nat) : List Json → List Json
  | [] => []
  | item :: rest => cut depth item :: cutItems depth rest

/-- What is kept of some members. -/
def cutMembers (depth : Nat) : List (String × Json) → List (String × Json)
  | [] => []
  | (name, item) :: rest => (name, cut depth item) :: cutMembers depth rest
end

/-! ## The written form -/

/-- An integer is written with a minus sign if it is negative. -/
theorem pretty_int (depth : Nat) (number : Int) :
    (prettyAt depth (.int number)).toList
      = (if number < 0 then ['-'] else []) ++ natDigits number.natAbs := by
  rw [prettyAt, intText, String.toList_ofList]

/-- A text is written between double quotes. -/
theorem to_list_quoted (content : String) :
    (quoted content).toList = '"' :: (content.toList.flatMap escapedChar ++ ['"']) := by
  rw [quoted, String.toList_ofList]
  rfl

/-- The items of an array are written between brackets. -/
theorem pretty_array (depth : Nat) (item : Json) (rest : List Json) :
    (prettyAt depth (.array (item :: rest))).toList
      = '[' :: ((prettyItems (depth + 1) (item :: rest)).toList ++
          ((newLine depth).toList ++ [']'])) := by
  simp [prettyAt]

/-- The members of an object are written between braces. -/
theorem pretty_object (depth : Nat) (member : String × Json) (rest : List (String × Json)) :
    (prettyAt depth (.object (member :: rest))).toList
      = '\x7b' :: ((prettyMembers (depth + 1) (member :: rest)).toList ++
          ((newLine depth).toList ++ ['\x7d'])) := by
  simp [prettyAt]

/-- What is written after an item: a comma and the further items, if there are any. -/
def furtherItems (depth : Nat) : List Json → List Char
  | [] => []
  | item :: rest => ',' :: (prettyItems depth (item :: rest)).toList

/-- Every item is written on a new line. -/
theorem pretty_items (depth : Nat) (item : Json) (rest : List Json) :
    (prettyItems depth (item :: rest)).toList
      = (newLine depth).toList ++ ((prettyAt depth item).toList ++ furtherItems depth rest) := by
  cases rest <;> simp [prettyItems, furtherItems]

/-- What is written after a member: a comma and the further members, if there are any. -/
def furtherMembers (depth : Nat) : List (String × Json) → List Char
  | [] => []
  | member :: rest => ',' :: (prettyMembers depth (member :: rest)).toList

/-- Every member is written on a new line, with its name before its content. -/
theorem pretty_members (depth : Nat) (name : String) (item : Json)
    (rest : List (String × Json)) :
    (prettyMembers depth ((name, item) :: rest)).toList
      = (newLine depth).toList ++ ('"' :: (name.toList.flatMap escapedChar ++
          ('"' :: ':' :: ' ' :: ((prettyAt depth item).toList ++ furtherMembers depth rest)))) := by
  cases rest <;> simp [prettyMembers, furtherMembers, to_list_quoted]

/-! ## Blanks -/

/-- A text begins with something other than a blank or the end of an array. -/
def Begins (text : List Char) : Prop :=
  ∃ c rest, text = c :: rest ∧ isSpace c = false ∧ c ≠ ']'

/-- There are no blanks to skip in front of something else. -/
theorem Begins.skip_space {text : List Char} (h : Begins text) (rest : List Char) :
    skipSpace (text ++ rest) = text ++ rest := by
  obtain ⟨c, tail, rfl, hc, -⟩ := h
  simp [skipSpace, hc]

/-- A new line is indented by two blanks for each level. -/
theorem to_list_new_line (depth : Nat) :
    (newLine depth).toList = '\n' :: List.replicate (2 * depth) ' ' := by
  simp [newLine]

/-- A new line is skipped. -/
theorem skip_new_line (depth : Nat) (rest : List Char) :
    skipSpace ((newLine depth).toList ++ rest) = skipSpace rest := by
  have hblank : ∀ c ∈ (newLine depth).toList, isSpace c = true := by
    intro c hc
    rw [to_list_new_line] at hc
    rcases List.mem_cons.1 hc with rfl | hc
    · rfl
    · rw [List.eq_of_mem_replicate hc]
      rfl
  rw [skipSpace, List.dropWhile_append_of_pos hblank]
  rfl

/-- A digit is no blank, and does not end an array. -/
theorem not_space_of_digit {c : Char} (h : c.isDigit = true) : isSpace c = false ∧ c ≠ ']' := by
  constructor
  · by_contra hspace
    simp only [isSpace, Bool.not_eq_false, Bool.or_eq_true, decide_eq_true_eq] at hspace
    rcases hspace with ((rfl | rfl) | rfl) | rfl <;> cases h
  · rintro rfl
    cases h

/-- A plain document begins as an element does. -/
theorem begins_pretty {document : Json} (h : document.isPlain = true) (depth : Nat) :
    Begins (document.prettyAt depth).toList := by
  cases document with
  | null => exact ⟨'n', ['u', 'l', 'l'], by simp [prettyAt], rfl, by decide⟩
  | bool flag =>
      cases flag with
      | true => exact ⟨'t', ['r', 'u', 'e'], by simp [prettyAt], rfl, by decide⟩
      | false => exact ⟨'f', ['a', 'l', 's', 'e'], by simp [prettyAt], rfl, by decide⟩
  | int number =>
      by_cases hnegative : number < 0
      · exact ⟨'-', _, by rw [pretty_int, if_pos hnegative]; rfl, rfl, by decide⟩
      · obtain ⟨c, rest, hdigits, hdigit⟩ := digits_begin number.natAbs
        exact ⟨c, rest, by rw [pretty_int, if_neg hnegative, ← hdigits]; rfl,
          not_space_of_digit hdigit⟩
  | text content => exact ⟨'"', _, to_list_quoted content, rfl, by decide⟩
  | array items =>
      cases items with
      | nil => exact ⟨'[', [']'], by simp [prettyAt], rfl, by decide⟩
      | cons item rest => exact ⟨'[', _, pretty_array depth item rest, rfl, by decide⟩
  | object members =>
      cases members with
      | nil => exact ⟨'\x7b', ['\x7d'], by simp [prettyAt], rfl, by decide⟩
      | cons member rest => exact ⟨'\x7b', _, pretty_object depth member rest, rfl, by decide⟩
  | float | unusable => cases h

/-- On what follows an element a new line ends it, and so does a comma. -/
theorem ends_of_new_line (depth : Nat) (rest : List Char) :
    Ends ((newLine depth).toList ++ rest) := by
  intro c hc
  rw [to_list_new_line] at hc
  exact .inr (Option.some.inj hc).symm

/-- Blanks are skipped once. -/
theorem skip_skip_space (text : List Char) : skipSpace (skipSpace text) = skipSpace text :=
  List.dropWhile_idempotent _ _

/-- To skip a new line makes a text shorter. -/
theorem length_skip_new_line (depth : Nat) (rest : List Char) :
    (skipSpace ((newLine depth).toList ++ rest)).length
      < ((newLine depth).toList ++ rest).length := by
  have hrest : (skipSpace rest).length ≤ rest.length := List.length_dropWhile_le _ _
  rw [skip_new_line, List.length_append, to_list_new_line, List.length_cons]
  omega

/-- That is so in front of items. -/
theorem length_skip_items (depth : Nat) (item : Json) (rest : List Json) (after : List Char) :
    (skipSpace ((prettyItems depth (item :: rest)).toList ++ after)).length
      < ((prettyItems depth (item :: rest)).toList ++ after).length := by
  rw [pretty_items, List.append_assoc]
  exact length_skip_new_line depth _

/-- And in front of members. -/
theorem length_skip_members (depth : Nat) (member : String × Json) (rest : List (String × Json))
    (after : List Char) :
    (skipSpace ((prettyMembers depth (member :: rest)).toList ++ after)).length
      < ((prettyMembers depth (member :: rest)).toList ++ after).length := by
  rw [show member :: rest = (member.1, member.2) :: rest from rfl, pretty_members,
    List.append_assoc]
  exact length_skip_new_line depth _

/-- In front of the first item a new line is skipped. -/
theorem skip_items {item : Json} (h : item.isPlain = true) (depth : Nat) (rest : List Json)
    (after : List Char) :
    skipSpace ((prettyItems depth (item :: rest)).toList ++ after)
      = (prettyAt depth item).toList ++ (furtherItems depth rest ++ after) := by
  rw [pretty_items, List.append_assoc, List.append_assoc, skip_new_line,
    (begins_pretty h depth).skip_space]

/-- In front of the first member a new line is skipped. -/
theorem skip_members (depth : Nat) (name : String) (item : Json) (rest : List (String × Json))
    (after : List Char) :
    skipSpace ((prettyMembers depth ((name, item) :: rest)).toList ++ after)
      = '"' :: (name.toList.flatMap escapedChar ++ ('"' :: ':' :: ' ' ::
          ((prettyAt depth item).toList ++ (furtherMembers depth rest ++ after)))) := by
  rw [pretty_members, List.append_assoc, skip_new_line]
  simp [skipSpace, isSpace]

/-! ## Elements -/

/-- A number is read as one. -/
theorem read_value_of_number {input digits : List Char} {minus : Bool} (depth fuel : Nat)
    (hdigit : ∃ c ∈ digits.head?, c.isDigit = true)
    (h : skipSpace input = (if minus then ['-'] else []) ++ digits) :
    readValue? depth (fuel + 1) input = readNumber? minus digits := by
  cases minus with
  | true => rw [readValue?, h]; rfl
  | false =>
      obtain ⟨c, hc, hdigit⟩ := hdigit
      obtain ⟨rest, rfl⟩ : ∃ rest, digits = c :: rest := by
        cases digits with
        | nil => cases hc
        | cons other rest => exact ⟨rest, by rw [Option.some.inj hc]⟩
      rw [readValue?, h]
      simp only [Bool.false_eq_true, if_false, List.nil_append]
      split <;> simp_all

/-- An integer is read back. -/
theorem read_value_int {number : Int} (hnumber : FitsWord number) {input rest : List Char}
    (hends : Ends rest) (depth level fuel : Nat)
    (h : skipSpace input = (prettyAt level (.int number)).toList ++ rest) :
    readValue? depth (fuel + 1) input = some (.int number, rest) := by
  obtain ⟨c, tail, hdigits, hdigit⟩ := digits_begin number.natAbs
  rw [← read_number hnumber hends]
  refine read_value_of_number depth fuel ⟨c, by rw [hdigits]; rfl, hdigit⟩ ?_
  rw [h, pretty_int, List.append_assoc]
  by_cases hnegative : number < 0 <;> simp [hnegative]

/-- A text is read back. -/
theorem read_value_text (content : String) {input rest : List Char} (depth level fuel : Nat)
    (h : skipSpace input = (prettyAt level (.text content)).toList ++ rest) :
    readValue? depth (fuel + 1) input = some (.text content, rest) := by
  have htext : (prettyAt level (.text content)).toList ++ rest
      = '"' :: (content.toList.flatMap escapedChar ++ '"' :: rest) := by
    rw [prettyAt, to_list_quoted]
    simp
  rw [readValue?, h, htext]
  simp only [read_text]
  rfl

/-- An item of an array is read, and then the others if there are any. -/
theorem read_items_step {item : Json} {depth fuel : Nat} {input after rest : List Char}
    {done : List Json} (hitem : readValue? depth fuel input = some (item, after)) :
    (skipSpace after = ']' :: rest →
      readItems? depth (fuel + 1) input done = some ((item :: done).reverse, rest)) ∧
    (skipSpace after = ',' :: rest →
      readItems? depth (fuel + 1) input done = readItems? depth fuel rest (item :: done)) := by
  constructor
  · intro hafter
    rw [readItems?, hitem]
    simp [hafter]
  · intro hafter
    rw [readItems?, hitem]
    simp [hafter]

/-- A member of an object is read, and then the others if there are any. -/
theorem read_members_step {name : String} {item : Json} {depth fuel : Nat}
    {input content after rest : List Char} {done : List (Option String × Json)}
    (hname : skipSpace input = '"' :: (name.toList.flatMap escapedChar ++ '"' :: ':' :: content))
    (hitem : readValue? depth fuel content = some (item, after)) :
    (skipSpace after = '\x7d' :: rest →
      readMembers? depth (fuel + 1) input done
        = some (((some name, item) :: done).reverse, rest)) ∧
    (skipSpace after = ',' :: rest →
      readMembers? depth (fuel + 1) input done
        = readMembers? depth fuel rest ((some name, item) :: done)) := by
  have hcolon : skipSpace (':' :: content) = ':' :: content := rfl
  constructor
  · intro hafter
    rw [readMembers?, hname]
    simp [read_text, hcolon, hitem, hafter]
  · intro hafter
    rw [readMembers?, hname]
    simp [read_text, hcolon, hitem, hafter]

/-- The members of an object, which all have a name, are kept. -/
theorem of_members_named (members : List (String × Json)) :
    ofMembers (members.map fun member => (some member.1, member.2)) = .object members := by
  have hnamed : (members.map fun member => (some member.1, member.2)).mapM
      (fun member : Option String × Json => member.1.map (·, member.2)) = some members := by
    induction members with
    | nil => rfl
    | cons member rest ih => rw [List.map_cons, List.mapM_cons, ih]; rfl
  rw [ofMembers, hnamed]

/-! ## Documents -/

/-- A document is read back as far as it is kept, on whichever level and before whatever ends it. -/
def ReadsBack (document : Json) : Prop :=
  ∀ (depth level fuel : Nat) {input rest : List Char}, Ends rest →
    skipSpace input = (prettyAt level document).toList ++ rest →
    (skipSpace input).length < fuel →
    readValue? depth fuel input = some (document.cut depth, rest)

/-- Items, if there are any, are read back up to the end of their array. -/
def ItemsReadBack (items : List Json) : Prop :=
  items ≠ [] → ∀ {input rest : List Char} (depth level outer fuel : Nat) (done : List Json),
    skipSpace input = skipSpace ((prettyItems level items).toList ++
      ((newLine outer).toList ++ ']' :: rest)) →
    (skipSpace input).length + 1 < fuel →
    readItems? depth fuel input done = some (done.reverse ++ cutItems depth items, rest)

/-- Members, if there are any, are read back up to the end of their object. -/
def MembersReadBack (members : List (String × Json)) : Prop :=
  members ≠ [] → ∀ {input rest : List Char} (depth level outer fuel : Nat)
    (done : List (Option String × Json)),
    skipSpace input = skipSpace ((prettyMembers level members).toList ++
      ((newLine outer).toList ++ '\x7d' :: rest)) →
    (skipSpace input).length + 1 < fuel →
    readMembers? depth fuel input done
      = some (done.reverse ++
          (cutMembers depth members).map fun member => (some member.1, member.2), rest)

/-- Items are read back one after the other. -/
theorem ReadsBack.cons_item {item : Json} {others : List Json} (hitem : item.ReadsBack)
    (hplain : item.isPlain = true) (hothers : ItemsReadBack others) :
    ItemsReadBack (item :: others) := by
  intro _ input rest depth level outer fuel done h hfuel
  rw [skip_items hplain] at h
  obtain ⟨fuel, rfl⟩ := Nat.exists_eq_succ_of_ne_zero (Nat.ne_of_gt (Nat.zero_lt_of_lt hfuel))
  have hshort : (skipSpace input).length < fuel := Nat.lt_of_succ_lt_succ hfuel
  cases others with
  | nil =>
      have hread := hitem depth level fuel (ends_of_new_line outer (']' :: rest)) h hshort
      rw [(read_items_step hread).1 (skip_new_line outer _)]
      simp [cutItems]
  | cons other others =>
      let tail := (prettyItems level (other :: others)).toList ++
        ((newLine outer).toList ++ ']' :: rest)
      have hends : Ends (',' :: tail) := fun c hc => .inl (Option.some.inj hc).symm
      have hread := hitem depth level fuel hends h hshort
      rw [(read_items_step hread).2 rfl,
        hothers (List.cons_ne_nil _ _) depth level outer fuel _ rfl]
      · simp [cutItems]
      · have htail : (skipSpace tail).length < tail.length :=
          length_skip_items level other others _
        have hlength : (skipSpace input).length
            = (prettyAt level item).toList.length + (tail.length + 1) := by
          rw [h, List.length_append]
          rfl
        show (skipSpace tail).length + 1 < fuel
        omega

/-- Members are read back one after the other. -/
theorem ReadsBack.cons_member {item : Json} {others : List (String × Json)} (name : String)
    (hitem : item.ReadsBack) (hplain : item.isPlain = true) (hothers : MembersReadBack others) :
    MembersReadBack ((name, item) :: others) := by
  intro _ input rest depth level outer fuel done h hfuel
  rw [skip_members] at h
  obtain ⟨fuel, rfl⟩ := Nat.exists_eq_succ_of_ne_zero (Nat.ne_of_gt (Nat.zero_lt_of_lt hfuel))
  have hblank : ∀ after, skipSpace (' ' :: ((prettyAt level item).toList ++ after))
      = (prettyAt level item).toList ++ after := (begins_pretty hplain level).skip_space
  cases others with
  | nil =>
      have hshort : (skipSpace (' ' :: ((prettyAt level item).toList ++
          ((newLine outer).toList ++ '\x7d' :: rest)))).length < fuel := by
        have hlength := congrArg List.length h
        rw [hblank]
        simp only [List.length_cons, List.length_append, furtherMembers] at hlength hfuel ⊢
        omega
      have hread := hitem depth level fuel (ends_of_new_line outer ('\x7d' :: rest))
        (hblank _) hshort
      rw [(read_members_step h hread).1 (skip_new_line outer _)]
      simp [cutMembers]
  | cons other others =>
      let tail := (prettyMembers level (other :: others)).toList ++
        ((newLine outer).toList ++ '\x7d' :: rest)
      have hends : Ends (',' :: tail) := fun c hc => .inl (Option.some.inj hc).symm
      have htail : (skipSpace tail).length < tail.length :=
        length_skip_members level other others _
      have hlength : (skipSpace input).length = (name.toList.flatMap escapedChar).length +
          ((prettyAt level item).toList.length + (tail.length + 1)) + 4 := by
        rw [h]
        simp only [List.length_cons, List.length_append, furtherMembers, tail]
        omega
      have hread := hitem depth level fuel hends (hblank _) (by
        rw [hblank]
        simp only [List.length_append, List.length_cons]
        omega)
      rw [(read_members_step h hread).2 rfl,
        hothers (List.cons_ne_nil _ _) depth level outer fuel _ rfl]
      · simp [cutMembers]
      · show (skipSpace tail).length + 1 < fuel
        omega

/-- An array is read back if its items are. -/
theorem ItemsReadBack.array {items : List Json} (h : ItemsReadBack items)
    (hplain : allPlain items = true) : (Json.array items).ReadsBack := by
  intro depth level fuel input rest _ htext hfuel
  obtain ⟨fuel, rfl⟩ := Nat.exists_eq_succ_of_ne_zero (Nat.ne_of_gt (Nat.zero_lt_of_lt hfuel))
  cases items with
  | nil => rw [readValue?, htext]; simp [prettyAt, cut, cutItems, skipSpace, isSpace]
  | cons item others =>
      have hitem : item.isPlain = true := (Bool.and_eq_true_iff.1 hplain).1
      let inner := (prettyItems (level + 1) (item :: others)).toList ++
        ((newLine level).toList ++ ']' :: rest)
      have htext : skipSpace input = '[' :: inner := by
        rw [htext, pretty_array]
        simp [inner]
      have hshort : (skipSpace (skipSpace inner)).length + 1 < fuel := by
        have hinner : (skipSpace inner).length < inner.length :=
          length_skip_items (level + 1) item others _
        rw [htext, List.length_cons] at hfuel
        rw [skip_skip_space]
        omega
      have hitems := h (List.cons_ne_nil item others) (depth - 1) (level + 1) level fuel []
        (skip_skip_space inner) hshort
      -- The first item does not end the array.
      obtain ⟨c, tail, hc, -, hopen⟩ := begins_pretty hitem (level + 1)
      have hinner : skipSpace inner = c :: (tail ++ (furtherItems (level + 1) others ++
          ((newLine level).toList ++ ']' :: rest))) := by
        rw [skip_items hitem (level + 1), hc]
        rfl
      rw [readValue?, htext]
      rw [hinner] at hitems
      simp only [hinner]
      split
      · next hclose => exact absurd (List.cons.inj hclose).1 hopen
      · rw [hitems]
        rfl

/-- An object is read back if its members are. -/
theorem MembersReadBack.object {members : List (String × Json)} (h : MembersReadBack members) :
    (Json.object members).ReadsBack := by
  intro depth level fuel input rest _ htext hfuel
  obtain ⟨fuel, rfl⟩ := Nat.exists_eq_succ_of_ne_zero (Nat.ne_of_gt (Nat.zero_lt_of_lt hfuel))
  cases members with
  | nil => rw [readValue?, htext]; simp [prettyAt, cut, cutMembers, skipSpace, isSpace]
  | cons member others =>
      let inner := (prettyMembers (level + 1) (member :: others)).toList ++
        ((newLine level).toList ++ '\x7d' :: rest)
      have htext : skipSpace input = '\x7b' :: inner := by
        rw [htext, pretty_object]
        simp [inner]
      have hshort : (skipSpace (skipSpace inner)).length + 1 < fuel := by
        have hinner : (skipSpace inner).length < inner.length :=
          length_skip_members (level + 1) member others _
        rw [htext, List.length_cons] at hfuel
        rw [skip_skip_space]
        omega
      have hmembers := h (List.cons_ne_nil member others) (depth - 1) (level + 1) level fuel []
        (skip_skip_space inner) hshort
      have hinner : skipSpace inner = '"' :: _ :=
        skip_members (level + 1) member.1 member.2 others _
      rw [readValue?, htext]
      rw [hinner] at hmembers
      simp only [hinner]
      -- A name does not end the object.
      show (readMembers? (depth - 1) fuel _ []).map _ = _
      rw [hmembers]
      simp only [List.reverse_nil, List.nil_append, Option.map_some, of_members_named]
      rfl

/-- A document without parts is read back if it is read at once. -/
theorem reads_back_of_leaf {document : Json} (hleaf : ∀ depth, document.cut depth = document)
    (hread : ∀ (depth level fuel : Nat) {input rest : List Char}, Ends rest →
      skipSpace input = (prettyAt level document).toList ++ rest →
      readValue? depth (fuel + 1) input = some (document, rest)) : document.ReadsBack := by
  intro depth level fuel input rest hends htext hfuel
  obtain ⟨fuel, rfl⟩ := Nat.exists_eq_succ_of_ne_zero (Nat.ne_of_gt (Nat.zero_lt_of_lt hfuel))
  rw [hleaf, hread depth level fuel hends htext]

mutual
/-- A plain document is read back as far as it is kept. -/
theorem reads_back_of_plain {document : Json} (h : document.isPlain = true) :
    document.ReadsBack := by
  match document with
  | .null =>
      refine reads_back_of_leaf (fun _ => by rw [cut]) fun depth level fuel _ _ _ htext => ?_
      rw [readValue?, htext]
      simp [prettyAt, afterWord?]
  | .bool flag =>
      refine reads_back_of_leaf (fun _ => by rw [cut]) fun depth level fuel _ _ _ htext => ?_
      rw [readValue?, htext]
      cases flag <;> simp [prettyAt, afterWord?]
  | .int number =>
      exact reads_back_of_leaf (fun _ => by rw [cut]) fun depth level fuel _ _ hends htext =>
        read_value_int (of_decide_eq_true h) hends depth level fuel htext
  | .text content =>
      exact reads_back_of_leaf (fun _ => by rw [cut]) fun depth level fuel _ _ _ htext =>
        read_value_text content depth level fuel htext
  | .array items => exact (items_read_back_of_plain h).array h
  | .object members => exact (members_read_back_of_plain h).object
  | .float number => cases h
  | .unusable => cases h

/-- So are plain items. -/
theorem items_read_back_of_plain {items : List Json} (h : allPlain items = true) :
    ItemsReadBack items := by
  match items with
  | [] => exact fun hsome => absurd rfl hsome
  | item :: others =>
      obtain ⟨hitem, hothers⟩ := Bool.and_eq_true_iff.1 h
      exact (reads_back_of_plain hitem).cons_item hitem (items_read_back_of_plain hothers)

/-- And plain members. -/
theorem members_read_back_of_plain {members : List (String × Json)}
    (h : membersPlain members = true) : MembersReadBack members := by
  match members with
  | [] => exact fun hsome => absurd rfl hsome
  | (name, item) :: others =>
      obtain ⟨hitem, hothers⟩ := Bool.and_eq_true_iff.1 h
      exact (reads_back_of_plain hitem).cons_member name hitem
        (members_read_back_of_plain hothers)
end

/-- A plain document on indented lines is read back, but for what lies below 127 levels of
nesting. -/
theorem read_pretty {document : Json} (h : document.isPlain = true) :
    read? document.pretty = some (document.cut 127) := by
  have hskip : skipSpace document.pretty.toList = document.pretty.toList := by
    rw [pretty]
    simpa using (begins_pretty h 0).skip_space []
  have hends : Ends [] := nofun
  have hread := reads_back_of_plain h 127 0 (document.pretty.toList.length + 1) hends
    (by rw [hskip, pretty, List.append_nil]) (by rw [hskip]; exact Nat.lt_succ_self _)
  rw [read?, hread]
  rfl

end Orm.Json
