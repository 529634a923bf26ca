import Orm.Number.Reading

/-!
# Pieces of a settings document

A `Lexeme` is a piece of a document without parts of its own, as it is written. Where it ends is
decided without looking at whether it is well formed: `Lexeme.text?` and `Lexeme.keyPart?` decide
that, and give the content of one that is.
-/

namespace Orm

/-- A piece of a document as it is written: a run of characters without marks, or the body of a
text between marks, which is long between three marks on either side. A text that is not closed
has lost its last marks. -/
inductive Lexeme
  | bare (chars : List Char)
  | quoted (mark : Char) (long closed : Bool) (body : List Char)
deriving Inhabited, DecidableEq, Repr

namespace Lexeme

/-- The blanks within a line. -/
def isSpace (c : Char) : Bool := c = ' ' || c = '\t'

/-- A text without the blanks at its front. -/
def skipSpace (chars : List Char) : List Char := chars.dropWhile isSpace

/-- Whether a character may not occur in texts and comments. -/
def isControl (c : Char) : Bool := c.toNat < 32 && c != '\t' || c.toNat = 127

/-- What follows a line break at the front of a text. -/
def afterNewLine? : List Char → Option (List Char)
  | '\n' :: rest => some rest
  | '\r' :: '\n' :: rest => some rest
  | _ => none

/-- Whether a mark opens a text, and one in which a backslash escapes. -/
def isMark (c : Char) : Bool := c = '"' || c = '\''

/-- Whether an escaped character would otherwise have a meaning of its own. -/
def isEscapable (c : Char) : Bool := c = '"' || c = '\\'

/-- A text of one line after its opening mark, and what follows it. It ends at the mark, or
without one at the end of the line. -/
def takeShort (mark : Char) (escaped : Bool) (done : List Char) : List Char → Lexeme × List Char
  | [] => (.quoted mark false false done.reverse, [])
  | c :: rest =>
      if escaped && isEscapable c then takeShort mark false (c :: done) rest
      else if c = mark then (.quoted mark false true done.reverse, rest)
      else if c = '\n' then (.quoted mark false false done.reverse, c :: rest)
      else takeShort mark (mark = '"' && c = '\\') (c :: done) rest

/-- A long text after its opening marks, and what follows it. Up to two marks may stand before the
three that close it. -/
def takeLong (mark : Char) (escaped : Bool) (done : List Char) : List Char → Lexeme × List Char
  | [] => (.quoted mark true false done.reverse, [])
  | c :: rest =>
      if escaped && isEscapable c then takeLong mark false (c :: done) rest
      else if c = mark ∧ rest.take 2 = [mark, mark] then
        let more := ((rest.drop 2).take 2).takeWhile (· = mark)
        (.quoted mark true true (done.reverse ++ more), rest.drop (2 + more.length))
      else takeLong mark (mark = '"' && c = '\\') (c :: done) rest

/-- A text at the given mark, which stands in front of `rest`. -/
def takeQuoted (mark : Char) (rest : List Char) : Lexeme × List Char :=
  if rest.take 2 = [mark, mark] then takeLong mark false [] (rest.drop 2)
  else takeShort mark false [] rest

/-- The character with the code point of some hexadecimal digits at the front of a text. -/
def readCodePoint? (width : Nat) (chars : List Char) : Option (Char × List Char) := do
  let digits := chars.take width
  if digits.length ≠ width then none
  let value ← readHex? digits
  if value < 0xd800 ∨ 0xdfff < value ∧ value < 0x110000 then
    return (Char.ofNat value, chars.drop width)
  else none

/-- The character of an escape without its backslash. -/
def readEscape? : List Char → Option (Char × List Char)
  | [] => none
  | c :: rest =>
      if c = 'b' then some (Char.ofNat 8, rest)
      else if c = 't' then some ('\t', rest)
      else if c = 'n' then some ('\n', rest)
      else if c = 'f' then some (Char.ofNat 12, rest)
      else if c = 'r' then some ('\r', rest)
      else if c = 'e' then some (Char.ofNat 27, rest)
      else if isEscapable c then some (c, rest)
      else if c = 'x' then readCodePoint? 2 rest
      else if c = 'u' then readCodePoint? 4 rest
      else if c = 'U' then readCodePoint? 8 rest
      else none

/-- A text without the blanks and line breaks at its front. -/
def skipBlank : List Char → List Char
  | [] => []
  | '\r' :: '\n' :: rest => skipBlank rest
  | c :: rest => if isSpace c || c = '\n' then skipBlank rest else c :: rest

/-- What follows a backslash at the end of a line, the blank lines after it and the blanks before
the next character. -/
def afterLineEnd? (chars : List Char) : Option (List Char) :=
  (afterNewLine? (skipSpace chars)).map skipBlank

/-- The content of the body of a text, the characters before it given last first. Line breaks stay
as they are, and only a long text holds any. -/
def content? (escapes long : Bool) : Nat → List Char → List Char → Option String
  | 0, _, _ => none
  | _ + 1, [], done => some (String.ofList done.reverse)
  | fuel + 1, c :: rest, done =>
      if escapes && c = '\\' then
        match if long then afterLineEnd? rest else none with
        | some rest => content? escapes long fuel rest done
        | none => do
            let (escaped, rest) ← readEscape? rest
            content? escapes long fuel rest (escaped :: done)
      else if isControl c && !(long && (afterNewLine? (c :: rest)).isSome) then none
      else content? escapes long fuel rest (c :: done)

/-- The content of a well-formed text. The line break after the opening marks of a long one is
passed over. -/
def text? : Lexeme → Option String
  | .bare _ => none
  | .quoted mark long closed body =>
      let lines := if long then (afterNewLine? body).getD body else body
      if closed then content? (mark = '"') long (lines.length + 1) lines [] else none

/-- Whether a key may hold a character without marks. -/
def isBareKey (c : Char) : Bool := c.isAlphanum || c = '_' || c = '-'

/-- The name that a well-formed part of a key gives. -/
def keyPart? : Lexeme → Option String
  | .bare chars =>
      if !chars.isEmpty && chars.all isBareKey then some (String.ofList chars) else none
  | .quoted _ true _ _ => none
  | written => written.text?

end Lexeme

end Orm
