import Orm.Number.Shortest

/-!
# JSON documents

`Json` is the data of a document; an object keeps its members in written order, repeated names
included. `Json.compact` writes it without blanks and `Json.pretty` on indented lines.
-/

namespace Orm

/-- A JSON document. A number is an integer if it is written as one. An unusable part is well
written but has no content that can be kept: it can be passed over, and nothing can be made of
it. -/
inductive Json
  | null
  | bool (flag : Bool)
  | int (number : Int)
  | float (number : Binary64)
  | text (content : String)
  | array (items : List Json)
  | object (members : List (String × Json))
  | unusable
deriving Inhabited

namespace Json

/-- The written form of one character of a text. -/
def escapedChar (c : Char) : List Char :=
  if c = '"' then ['\\', '"']
  else if c = '\\' then ['\\', '\\']
  else if c = '\n' then ['\\', 'n']
  else if c = '\r' then ['\\', 'r']
  else if c = '\t' then ['\\', 't']
  else if c.toNat = 8 then ['\\', 'b']
  else if c.toNat = 12 then ['\\', 'f']
  else if c.toNat < 32 then
    '\\' :: 'u' :: '0' :: '0' :: (if c.toNat < 16 then ['0'] else []) ++ Nat.toDigits 16 c.toNat
  else [c]

/-- A text between double quotes. -/
def quoted (content : String) : String :=
  String.ofList ('"' :: content.toList.flatMap escapedChar ++ ['"'])

/-- A finite number: positional if its point stands among the first sixteen digits or after at
most four zeros, else with an exponent and its sign. Other values are written as null. -/
def floatText (x : Binary64) : String :=
  if x.isFinite then
    let decimal := x.shortest .toEven
    let point := decimal.point
    let digits :=
      if x.isZero then ['0', '.', '0']
      else if -5 < point ∧ point ≤ 16 then decimal.positional 1
      else decimal.scientific ['+']
    String.ofList ((if x.isNegative then ['-'] else []) ++ digits)
  else "null"

mutual
/-- The document without blanks; an unusable part is written as null. -/
def compact : Json → String
  | .null | .unusable => "null"
  | .bool flag => if flag then "true" else "false"
  | .int number => intText number
  | .float number => floatText number
  | .text content => quoted content
  | .array items => "[" ++ compactItems items ++ "]"
  | .object members => "\x7b" ++ compactMembers members ++ "\x7d"

/-- The items of an array with commas between them. -/
def compactItems : List Json → String
  | [] => ""
  | [item] => compact item
  | item :: rest => compact item ++ "," ++ compactItems rest

/-- The members of an object with commas between them. -/
def compactMembers : List (String × Json) → String
  | [] => ""
  | [(name, item)] => quoted name ++ ":" ++ compact item
  | (name, item) :: rest => quoted name ++ ":" ++ compact item ++ "," ++ compactMembers rest
end

/-- A line break and two blanks for each level. -/
def newLine (depth : Nat) : String := "\n" ++ String.ofList (List.replicate (2 * depth) ' ')

mutual
/-- The document on indented lines; `depth` is the level of the line it begins on. -/
def prettyAt (depth : Nat) : Json → String
  | .array [] => "[]"
  | .array items => "[" ++ prettyItems (depth + 1) items ++ newLine depth ++ "]"
  | .object [] => "\x7b\x7d"
  | .object members => "\x7b" ++ prettyMembers (depth + 1) members ++ newLine depth ++ "\x7d"
  | .null | .unusable => "null"
  | .bool flag => if flag then "true" else "false"
  | .int number => intText number
  | .float number => floatText number
  | .text content => quoted content

/-- The items of an array, each on lines of its own. -/
def prettyItems (depth : Nat) : List Json → String
  | [] => ""
  | [item] => newLine depth ++ prettyAt depth item
  | item :: rest => newLine depth ++ prettyAt depth item ++ "," ++ prettyItems depth rest

/-- The members of an object, each on lines of its own. -/
def prettyMembers (depth : Nat) : List (String × Json) → String
  | [] => ""
  | [(name, item)] => newLine depth ++ quoted name ++ ": " ++ prettyAt depth item
  | (name, item) :: rest =>
      newLine depth ++ quoted name ++ ": " ++ prettyAt depth item ++ "," ++ prettyMembers depth rest
end

/-- The document on indented lines. -/
def pretty (document : Json) : String := prettyAt 0 document

end Json

end Orm
