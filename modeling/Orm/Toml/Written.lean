import Orm.Toml.Lexeme

/-!
# Settings documents as they are written

`WrittenLine.readAll?` finds the headers, keys and values of a text: which lexemes there are, and
which brackets and braces hold them. It does not ask whether a lexeme is well formed or whether a
key may stand where it does. Where a part of a key or a value is missing but all else is in place,
it finds an empty lexeme, which is never well formed.
-/

namespace Orm

/-- A value as it is written. -/
inductive WrittenValue
  | plain (lexeme : Lexeme)
  | array (items : List WrittenValue)
  | inline (entries : List (List Lexeme × WrittenValue))
deriving Inhabited

/-- A line of a document as it is written: the header of a table, the header of a table in an array
of tables, or a key with its value. A key has parts between its dots. -/
inductive WrittenLine
  | header (key : List Lexeme)
  | arrayHeader (key : List Lexeme)
  | entry (key : List Lexeme) (value : WrittenValue)

open Lexeme

/-- The value at a place where none is written. -/
def WrittenValue.missing : WrittenValue := .plain (.bare [])

/-- What follows a comment, if one begins here; a comment ends before the line break. -/
def skipComment? : List Char → Option (List Char)
  | '#' :: rest =>
      let after := rest.dropWhile fun c => !isControl c
      if after.isEmpty ∨ (afterNewLine? after).isSome then some after else none
  | chars => some chars

/-- What follows blanks, comments and line breaks. -/
def skipLines? : Nat → List Char → Option (List Char)
  | 0, _ => none
  | fuel + 1, chars => do
      let after ← skipComment? (skipSpace chars)
      match afterNewLine? after with
      | some rest => skipLines? fuel rest
      | none => some after

/-- Whether a character belongs to a run without marks; a dot does so in values only. -/
def isRun (c : Char) : Bool :=
  !(isSpace c || c = '=' || c = ',' || c = '[' || c = ']' || c = '\x7b' || c = '\x7d' || c = '#' ||
    c = '\r' || c = '\n')

/-- One part of a key, and what follows it; the part is empty if none is written. -/
def readKeyPart (chars : List Char) : Lexeme × List Char :=
  match chars with
  | [] => (.bare [], [])
  | c :: rest =>
      if isMark c then takeQuoted c rest
      else
        let name := chars.takeWhile fun c => isRun c && c != '.'
        (.bare name, chars.drop name.length)

/-- A key with the parts between its dots, and what follows it and blanks. -/
def readKey? : Nat → List Char → Option (List Lexeme × List Char)
  | 0, _ => none
  | fuel + 1, chars => do
      let (part, rest) := readKeyPart (skipSpace chars)
      match skipSpace rest with
      | '.' :: rest => do
          let (parts, rest) ← readKey? fuel rest
          return (part :: parts, rest)
      | rest => some ([part], rest)

/-- A run of characters without marks. After blanks a second one belongs to it, as a time does to
its date. -/
def readRun? (chars : List Char) : Option (Lexeme × List Char) :=
  let word := chars.takeWhile isRun
  let rest := chars.drop word.length
  let blanks := rest.takeWhile isSpace
  let next := rest.drop blanks.length
  if word.isEmpty then none
  else if !blanks.isEmpty && next.head?.any fun c => isRun c && c != '.' && !isMark c then
    let more := next.takeWhile isRun
    some (.bare (word ++ blanks ++ more), next.drop more.length)
  else some (.bare word, rest)

mutual
/-- A value at the front of a text, with at most `depth` levels of brackets and braces. -/
def readWritten? (depth : Nat) : Nat → List Char → Option (WrittenValue × List Char)
  | 0, _ => none
  | fuel + 1, chars =>
      match chars with
      | '[' :: rest =>
          match depth with
          | 0 => none
          | depth + 1 => readItems? depth fuel rest []
      | '\x7b' :: rest =>
          match depth with
          | 0 => none
          | depth + 1 => readInline? depth fuel rest []
      | c :: rest =>
          if isMark c then
            let (lexeme, rest) := takeQuoted c rest
            some (.plain lexeme, rest)
          else (readRun? chars).map fun (lexeme, rest) => (.plain lexeme, rest)
      | [] => none

/-- The items of an array up to its closing bracket. -/
def readItems? (depth : Nat) :
    Nat → List Char → List WrittenValue → Option (WrittenValue × List Char)
  | 0, _, _ => none
  | fuel + 1, chars, done => do
      match ← skipLines? (chars.length + 1) chars with
      | ']' :: rest => some (.array done.reverse, rest)
      | rest => do
          let (item, rest) ← readWritten? depth fuel rest
          match ← skipLines? (rest.length + 1) rest with
          | ',' :: rest => readItems? depth fuel rest (item :: done)
          | ']' :: rest => some (.array (item :: done).reverse, rest)
          | _ => none

/-- The entries of a table between braces up to its closing brace. -/
def readInline? (depth : Nat) : Nat → List Char → List (List Lexeme × WrittenValue) →
    Option (WrittenValue × List Char)
  | 0, _, _ => none
  | fuel + 1, chars, done => do
      match ← skipLines? (chars.length + 1) chars with
      | '\x7d' :: rest => some (.inline done.reverse, rest)
      | rest => do
          let (key, rest) ← readKey? (rest.length + 1) rest
          match ← skipLines? (rest.length + 1) rest with
          | '\x7d' :: rest => some (.inline ((key, .missing) :: done).reverse, rest)
          | '=' :: rest => do
              let rest ← skipLines? (rest.length + 1) rest
              let (value, rest) ←
                if rest.head? = some '\x7d' then some (.missing, rest)
                else readWritten? depth fuel rest
              match ← skipLines? (rest.length + 1) rest with
              | ',' :: rest => readInline? depth fuel rest ((key, value) :: done)
              | '\x7d' :: rest => some (.inline ((key, value) :: done).reverse, rest)
              | _ => none
          | _ => none
end

/-- What follows the rest of a line, on which only a comment may stand. -/
def endLine? (chars : List Char) : Option (List Char) := do
  let rest ← skipComment? (skipSpace chars)
  if rest.isEmpty then some rest else afterNewLine? rest

/-- What follows a line, whatever stands on the rest of it. -/
def skipLine? : Nat → List Char → Option (List Char)
  | 0, _ => none
  | fuel + 1, chars =>
      match endLine? chars, skipSpace chars with
      | some rest, _ => some rest
      | none, [] => none
      | none, c :: rest =>
          if c = '#' ∨ c = '\r' then none
          else if isMark c then skipLine? fuel (takeQuoted c rest).2
          else
            let word := (c :: rest).takeWhile fun c => isRun c && c != '.'
            skipLine? fuel (rest.drop (word.length - 1))

/-- The greatest depth of brackets and braces within each other. -/
abbrev greatestDepth : Nat := 80

/-- The value of the key of a line; it is missing if the line ends before one. -/
def readLineValue? (chars : List Char) : Option (WrittenValue × List Char) :=
  if (endLine? chars).isSome then some (.missing, chars)
  else readWritten? greatestDepth (chars.length + 1) (skipSpace chars)

/-- Whether a part of a key is missing. -/
def lacksPart (key : List Lexeme) : Bool := key.any (· = .bare [])

namespace WrittenLine

/-- One line that is neither blank nor a comment, and the lines after it. A header whose key lacks
a part has that fault already, so it need not be closed. -/
def read? (chars : List Char) : Option (WrittenLine × List Char) :=
  let fuel := chars.length + 1
  match chars with
  | '[' :: '[' :: rest => do
      match ← readKey? fuel rest with
      | (key, ']' :: ']' :: rest) => return (.arrayHeader key, ← endLine? rest)
      | (_, ']' :: _) => none
      | (key, rest) =>
          if lacksPart key then return (.arrayHeader key, ← skipLine? fuel rest) else none
  | '[' :: rest => do
      match ← readKey? fuel rest with
      | (key, ']' :: rest) => return (.header key, ← endLine? rest)
      | (key, rest) => if lacksPart key then return (.header key, ← skipLine? fuel rest) else none
  | _ => do
      match ← readKey? fuel chars with
      | (key, '=' :: rest) => do
          let (value, rest) ← readLineValue? rest
          return (.entry key value, ← endLine? rest)
      | _ => none

/-- The lines of a document; at most `fuel` of them. -/
def readAll? : Nat → List Char → Option (List WrittenLine)
  | 0, _ => none
  | fuel + 1, chars => do
      let chars ← skipLines? (chars.length + 1) chars
      if chars.isEmpty then return []
      let (line, rest) ← read? chars
      return line :: (← readAll? fuel rest)

end WrittenLine

end Orm
