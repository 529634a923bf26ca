import Orm.Proofs.Sql.Tokens

/-!
# Names in a skeleton

What is read from a text are names and a skeleton, which has a token without a name in the place of
each name. `Spells` says of a part of a statement which names it has and in which skeleton, wherever
it stands in a text, and has a lemma for each piece and for each way in which parts are put
together.
-/

namespace Orm

namespace Brackets

/-- The name that a token holds. -/
def Token.name? : Token → Option String
  | .identifier name => some name
  | .word _ | .number _ | .placeholder _ | .operator _ | .mark _ => none

/-- The token in the place of a name. -/
def Token.nameless : Token := .identifier ""

/-- A token without the name that it holds. -/
def Token.blanked : Token → Token
  | .identifier _ => .nameless
  | token => token

/-- The tokens in the place of two names with a point between them. -/
def qualified : List Token := [.nameless, .mark '.', .nameless]

end Brackets

namespace Table

/-- The names that a table is written with; an empty schema is left out. -/
def writtenNames (table : Table) : List String :=
  if table.schema.isEmpty then [table.name] else [table.schema, table.name]

/-- The tokens in the place of a table. -/
def skeleton (table : Table) : List Brackets.Token :=
  if table.schema.isEmpty then [.nameless] else Brackets.qualified

end Table

namespace Brackets

/-- A text is read as some names in a skeleton. -/
def ReadsAs (text : String) (names : List String) (skeleton : List Token) : Prop :=
  ∃ tokens, read text = some tokens ∧ tokens.filterMap Token.name? = names ∧
    tokens.map Token.blanked = skeleton

/-- The characters of a part of a statement. -/
def charsOf (pieces : SqlPieces) : List Char :=
  pieces.flatMap fun piece => (Dialect.brackets.pieceText piece).toList

/-- A part of a statement is read as some names in a skeleton wherever it stands. `before` says
whether it may stand directly behind a word or operator, and `after` whether it may end in one. -/
def Spells (before after : Bool) (pieces : SqlPieces) (names : List String)
    (skeleton : List Token) : Prop :=
  ∃ tokens, Reads before after (charsOf pieces) tokens ∧ tokens.filterMap Token.name? = names ∧
    tokens.map Token.blanked = skeleton

/-- Whether fixed words are read as some names in a skeleton wherever they stand. -/
def spellsFixed (before after : Bool) (words : List String) (names : List String)
    (skeleton : List Token) : Bool :=
  let chars := words.flatMap String.toList
  let (ended, last) := feed .between chars
  let tokens := ended ++ last.ended
  chars.head?.any (begins before) && last.rests after &&
    decide (tokens.filterMap Token.name? = names) && decide (tokens.map Token.blanked = skeleton)

namespace Spells

variable {before between after : Bool} {pieces left right : SqlPieces}
  {names others : List String} {skeleton rest : List Token}

/-- Nothing has no names and no skeleton. -/
theorem nil : Spells before before [] [] [] := ⟨[], Reads.nil before, rfl, rfl⟩

/-- A part that may stand behind a word may also stand elsewhere. -/
theorem anywhere (h : Spells true after pieces names skeleton) :
    Spells before after pieces names skeleton := by
  obtain ⟨tokens, hreads, hnames, hskeleton⟩ := h
  exact ⟨tokens, hreads.mono (fun _ => rfl) id, hnames, hskeleton⟩

/-- A part that does not end in a word can be taken for one that may. -/
theorem ending (h : Spells before false pieces names skeleton) :
    Spells before after pieces names skeleton := by
  obtain ⟨tokens, hreads, hnames, hskeleton⟩ := h
  have hafter : false = true → after = true := nofun
  exact ⟨tokens, hreads.mono id hafter, hnames, hskeleton⟩

/-- Two parts have the names and skeletons of both in order. -/
theorem append (hleft : Spells before between left names skeleton)
    (hright : Spells between after right others rest) :
    Spells before after (left ++ right) (names ++ others) (skeleton ++ rest) := by
  obtain ⟨tokens, hreads, rfl, rfl⟩ := hleft
  obtain ⟨further, hfurther, rfl, rfl⟩ := hright
  refine ⟨tokens ++ further, ?_, List.filterMap_append, List.map_append⟩
  rw [charsOf, List.flatMap_append]
  exact hreads.append hfurther

/-! ### Pieces -/

/-- Fixed words are read by evaluation. -/
theorem words (texts : List String) (h : spellsFixed before after texts names skeleton = true) :
    Spells before after (texts.map .word) names skeleton := by
  simp only [spellsFixed, Bool.and_eq_true, decide_eq_true_eq] at h
  obtain ⟨⟨⟨hfirst, hlast⟩, hnames⟩, hskeleton⟩ := h
  have hchars : charsOf (texts.map .word) = texts.flatMap String.toList := by
    rw [charsOf, List.flatMap_map]
    rfl
  refine ⟨_, ?_, hnames, hskeleton⟩
  rw [hchars]
  cases hcase : texts.flatMap String.toList with
  | nil =>
      rw [hcase] at hfirst
      cases hfirst
  | cons c chars =>
      rw [hcase] at hfirst hlast
      exact reads_of_feed hfirst rfl hlast

/-- A part with the same characters is read in the same way. -/
theorem of_chars (h : Spells before after right names skeleton)
    (hchars : charsOf left = charsOf right) : Spells before after left names skeleton := by
  rwa [Spells, hchars]

/-- A number is read back. -/
theorem number (value : Nat) : Spells false true [.word (toString value)] [] [.number value] := by
  refine ⟨[.number value], ?_, rfl, rfl⟩
  simpa only [charsOf, List.flatMap_singleton, Dialect.pieceText] using reads_number value

/-- A name is read back. -/
theorem name (identifier : String) :
    Spells true false [.name identifier] [identifier] [.nameless] := by
  refine ⟨[.identifier identifier], ?_, rfl, rfl⟩
  simpa [charsOf, Dialect.pieceText, Dialect.brackets] using reads_quote identifier

/-- The name of an alias, a point and another name are read back as three tokens. -/
theorem reads_qualified (outer inner : String) :
    Reads true false (quote outer ++ "." ++ quote inner).toList
      [.identifier outer, .mark '.', .identifier inner] := by
  have hpoint : Reads false false ['.'] [.mark '.'] := reads_of_feed (by decide) rfl rfl
  have hinner : Reads false false (quote inner).toList [.identifier inner] :=
    (reads_quote inner).mono nofun id
  simpa using ((reads_quote outer).append hpoint).append hinner

/-- A column is read back as its alias and its name. -/
theorem column (aliasName column : String) :
    Spells true false [.column aliasName column] [aliasName, column] qualified := by
  refine ⟨[.identifier aliasName, .mark '.', .identifier column], ?_, rfl, rfl⟩
  simpa [charsOf, Dialect.pieceText, Dialect.brackets] using reads_qualified aliasName column

/-- All columns of an alias are read back as the alias and a sign. -/
theorem star (aliasName : String) :
    Spells true true [.star aliasName] [aliasName] [.nameless, .mark '.', .operator "*"] := by
  refine ⟨[.identifier aliasName, .mark '.', .operator "*"], ?_, rfl, rfl⟩
  have hsign : Reads false true ['.', '*'] [.mark '.', .operator "*"] :=
    reads_of_feed (by decide) rfl rfl
  simpa [charsOf, Dialect.pieceText, Dialect.brackets] using (reads_quote aliasName).append hsign

/-- A slot is read back as its parameter. -/
theorem slot (index : Nat) : Spells false true [.slot index] [] [.placeholder index] := by
  refine ⟨[.placeholder index], ?_, rfl, rfl⟩
  have hchars : charsOf [.slot index] = '@' :: 'p' :: (toString index).toList := by
    rw [charsOf, List.flatMap_singleton]
    exact String.toList_append
  rw [hchars]
  exact reads_placeholder index

/-- A table is read back as the names that it is written with. -/
theorem table (table : Table) :
    Spells true false [.table table] table.writtenNames table.skeleton := by
  rw [Table.writtenNames, Table.skeleton]
  have hchars : charsOf [.table table] = (quotedTable quote table).toList :=
    List.flatMap_singleton ..
  by_cases hschema : table.schema.isEmpty = true
  · rw [if_pos hschema, if_pos hschema]
    refine ⟨[.identifier table.name], ?_, rfl, rfl⟩
    rw [hchars, quotedTable, if_pos hschema]
    exact reads_quote table.name
  · rw [if_neg hschema, if_neg hschema]
    refine ⟨[.identifier table.schema, .mark '.', .identifier table.name], ?_, rfl, rfl⟩
    rw [hchars, quotedTable, if_neg hschema]
    exact reads_qualified table.schema table.name

/-! ### Words that stand in many places -/

/-- Items of a list are separated by commas. -/
theorem comma : Spells true false [.word ", "] [] [.mark ','] := words [", "] (by decide)

/-- Conditions that all hold are separated by a word. -/
theorem conjunct : Spells true false [.word " AND "] [] [.word "AND"] :=
  words [" AND "] (by decide)

/-- What stands in parentheses is closed. -/
theorem close : Spells true false [.word ")"] [] [.mark ')'] := words [")"] (by decide)

/-- A name follows the word for it. -/
theorem named (aliasName : String) : Spells true false [.word " AS ", .name aliasName] [aliasName]
    [.word "AS", .nameless] := by
  have hword : Spells true false [.word " AS "] [] [.word "AS"] := words [" AS "] (by decide)
  exact hword.append (name aliasName).anywhere

/-! ### Lists of parts -/

/-- Parts of a statement are read, one by one, as names in skeletons. -/
inductive All : List SqlPieces → List (List String) → List (List Token) → Prop
  | nil : All [] [] []
  | cons {part : SqlPieces} {parts : List SqlPieces} {names : List String}
      {others : List (List String)} {skeleton : List Token} {rest : List (List Token)}
      (head : Spells false true part names skeleton) (tail : All parts others rest) :
      All (part :: parts) (names :: others) (skeleton :: rest)

/-- Parts that are written for some items are read if each of them is. -/
theorem All.map {α : Type} {items : List α} {part : α → SqlPieces} {names : α → List String}
    {skeleton : α → List Token}
    (h : ∀ item ∈ items, Spells false true (part item) (names item) (skeleton item)) :
    All (items.map part) (items.map names) (items.map skeleton) := by
  induction items with
  | nil => exact .nil
  | cons item rest ih =>
      exact .cons (h item List.mem_cons_self)
        (ih fun other hother => h other (List.mem_cons_of_mem _ hother))

/-- Parts with a word between them have the names of the parts. -/
theorem separated {word : String} {link : List Token}
    (hlink : Spells true false [.word word] [] link)
    {parts : List SqlPieces} {names : List (List String)} {skeletons : List (List Token)}
    (h : All parts names skeletons) :
    Spells false true (separated word parts) names.flatten (link.intercalate skeletons) := by
  unfold Orm.separated
  induction h with
  | nil => exact nil.ending
  | @cons part parts names others skeleton rest head tail ih =>
      cases tail with
      | nil => simpa using head
      | cons second later =>
          rw [List.intercalate_cons_cons, List.intercalate_cons_cons, List.flatten_cons]
          simpa using (head.append hlink).append ih

/-- Clauses that may stand behind a word are read one after the other. -/
theorem flatten {α : Type} {items : List α} {part : α → SqlPieces} {names : α → List String}
    {skeleton : α → List Token}
    (h : ∀ item ∈ items, Spells true true (part item) (names item) (skeleton item)) :
    Spells true true (items.flatMap part) (items.flatMap names) (items.flatMap skeleton) := by
  induction items with
  | nil => exact nil
  | cons item rest ih =>
      rw [List.flatMap_cons, List.flatMap_cons, List.flatMap_cons]
      exact (h item List.mem_cons_self).append
        (ih fun other hother => h other (List.mem_cons_of_mem _ hother))

/-- A whole statement is read as its names in its skeleton. -/
theorem readsAs (h : Spells before true pieces names skeleton) :
    ReadsAs (Dialect.brackets.text pieces) names skeleton := by
  obtain ⟨tokens, hreads, hnames, hskeleton⟩ := h
  have hchars : (Dialect.brackets.text pieces).toList = charsOf pieces := by
    rw [Dialect.text, String.toList_join, List.flatMap_map]
    rfl
  exact ⟨tokens, Reads.read_eq (hchars ▸ hreads), hnames, hskeleton⟩

end Spells

end Brackets

end Orm
