import Orm.Json.Number

/-!
# Reading JSON

`Json.read?` reads a whole text as one document. It is strict: no comments, no trailing commas, no
control characters inside texts. What is well written but cannot be kept reads as unusable: a text
with an unpaired surrogate, an object with such a name, a number beyond the greatest one, and an
array or object below 127 levels of nesting.
-/

namespace Orm

namespace Json

/-- The blanks between the elements of a document. -/
def isSpace (c : Char) : Bool := c = ' ' || c = '\n' || c = '\t' || c = '\r'

/-- A text without the blanks at its front. -/
def skipSpace (input : List Char) : List Char := input.dropWhile isSpace

/-- The number of four hexadecimal digits, and what follows. -/
def readHex4? : List Char → Option (Nat × List Char)
  | a :: b :: c :: d :: rest => (readHex? [a, b, c, d]).map (·, rest)
  | _ => none

/-- The character of an escape by code unit. A high surrogate and the low one after it stand for
one character; a surrogate alone stands for none. -/
def readUnicode? (input : List Char) : Option (Option Char × List Char) := do
  let (unit, rest) ← readHex4? input
  if unit < 0xd800 ∨ 0xdfff < unit then return (some (Char.ofNat unit), rest)
  else if 0xdc00 ≤ unit then return (none, rest)
  else match rest with
    | '\\' :: 'u' :: tail => do
        let (low, after) ← readHex4? tail
        if 0xdc00 ≤ low ∧ low ≤ 0xdfff then
          return (some (Char.ofNat (0x10000 + (unit - 0xd800) * 1024 + (low - 0xdc00))), after)
        else return (none, rest)
    | _ => return (none, rest)

/-- The character of an escape without its backslash, which may stand for none. -/
def readEscape? : List Char → Option (Option Char × List Char)
  | [] => none
  | 'u' :: rest => readUnicode? rest
  | c :: rest =>
      if c = '"' ∨ c = '\\' ∨ c = '/' then some (c, rest)
      else if c = 'n' then some ('\n', rest)
      else if c = 'r' then some ('\r', rest)
      else if c = 't' then some ('\t', rest)
      else if c = 'b' then some (Char.ofNat 8, rest)
      else if c = 'f' then some (Char.ofNat 12, rest)
      else none

/-- The characters of a text up to its closing quote, the ones before given last first. -/
def readContent? : Nat → List Char → List (Option Char) → Option (List (Option Char) × List Char)
  | 0, _, _ => none
  | _ + 1, [], _ => none
  | fuel + 1, c :: rest, done =>
      if c = '"' then some (done.reverse, rest)
      else if c = '\\' then do
        let (escaped, rest) ← readEscape? rest
        readContent? fuel rest (escaped :: done)
      else if c.toNat < 32 then none
      else readContent? fuel rest (some c :: done)

/-- A text after its opening quote; one with an unpaired surrogate has no content. -/
def readText? (input : List Char) : Option (Option String × List Char) :=
  (readContent? (input.length + 1) input []).map fun (characters, rest) =>
    ((characters.mapM id).map String.ofList, rest)

/-- What follows a keyword at the front of a text. -/
def afterWord? (word : List Char) (input : List Char) : Option (List Char) :=
  if input.take word.length = word then some (input.drop word.length) else none

/-- An array or object where `depth` further levels of nesting can be kept. -/
def kept (depth : Nat) (document : Json) : Json := if depth = 0 then .unusable else document

/-- The object with some members, each of which needs a name. -/
def ofMembers (members : List (Option String × Json)) : Json :=
  match members.mapM fun member => member.1.map (·, member.2) with
  | some members => .object members
  | none => .unusable

mutual
/-- The document at the front of a text; below `depth` levels of nesting nothing is kept. -/
def readValue? (depth : Nat) : Nat → List Char → Option (Json × List Char)
  | 0, _ => none
  | fuel + 1, input =>
      match skipSpace input with
      | [] => none
      | '"' :: rest =>
          (readText? rest).map fun (content, rest) => (content.elim .unusable .text, rest)
      | '[' :: rest =>
          match skipSpace rest with
          | ']' :: rest => some (kept depth (.array []), rest)
          | rest =>
              (readItems? (depth - 1) fuel rest []).map fun (items, rest) =>
                (kept depth (.array items), rest)
      | '\x7b' :: rest =>
          match skipSpace rest with
          | '\x7d' :: rest => some (kept depth (.object []), rest)
          | rest =>
              (readMembers? (depth - 1) fuel rest []).map fun (members, rest) =>
                (kept depth (ofMembers members), rest)
      | '-' :: rest => readNumber? true rest
      | c :: rest =>
          if c.isDigit then readNumber? false (c :: rest)
          else if c = 't' then
            (afterWord? ['r', 'u', 'e'] rest).map fun rest => (.bool true, rest)
          else if c = 'f' then
            (afterWord? ['a', 'l', 's', 'e'] rest).map fun rest => (.bool false, rest)
          else if c = 'n' then (afterWord? ['u', 'l', 'l'] rest).map fun rest => (.null, rest)
          else none

/-- The items of an array up to its closing bracket, the ones before given last first. -/
def readItems? (depth : Nat) : Nat → List Char → List Json → Option (List Json × List Char)
  | 0, _, _ => none
  | fuel + 1, input, done => do
      let (item, rest) ← readValue? depth fuel input
      match skipSpace rest with
      | ']' :: rest => some ((item :: done).reverse, rest)
      | ',' :: rest => readItems? depth fuel rest (item :: done)
      | _ => none

/-- The members of an object up to its closing brace, the ones before given last first. -/
def readMembers? (depth : Nat) : Nat → List Char → List (Option String × Json) →
    Option (List (Option String × Json) × List Char)
  | 0, _, _ => none
  | fuel + 1, input, done =>
      match skipSpace input with
      | '"' :: rest => do
          let (name, rest) ← readText? rest
          match skipSpace rest with
          | ':' :: rest => do
              let (item, rest) ← readValue? depth fuel rest
              match skipSpace rest with
              | '\x7d' :: rest => some (((name, item) :: done).reverse, rest)
              | ',' :: rest => readMembers? depth fuel rest ((name, item) :: done)
              | _ => none
          | _ => none
      | _ => none
end

/-- The document that a whole text holds. -/
def read? (input : String) : Option Json :=
  let chars := input.toList
  match readValue? 127 (chars.length + 1) chars with
  | some (document, rest) => if (skipSpace rest).isEmpty then some document else none
  | none => none

end Json

end Orm
