import Orm.Text.CodeRanges

/-!
# Blank characters and trimming

`isBlank` is the property White_Space: twenty-five characters, among them the no-break space and
the ideographic space, but not the zero-width ones. `trim` removes blanks at both ends of a text.
-/

namespace Orm.Text

/-- The characters with the property White_Space. -/
def blanks : CodeRanges :=
  [(0x9, 0xd), (0x20, 0x20), (0x85, 0x85), (0xa0, 0xa0), (0x1680, 0x1680), (0x2000, 0x200a),
   (0x2028, 0x2029), (0x202f, 0x202f), (0x205f, 0x205f), (0x3000, 0x3000)]

/-- Whether `c` is blank. -/
def isBlank (c : Char) : Bool :=
  blanks.contains c

/-- The characters of a text without the blanks at its two ends. -/
def trimBlanks (text : List Char) : List Char :=
  ((text.dropWhile isBlank).reverse.dropWhile isBlank).reverse

/-- A text without the blanks at its two ends. -/
def trim (text : String) : String :=
  String.ofList (trimBlanks text.toList)

end Orm.Text
