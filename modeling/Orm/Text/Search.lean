/-!
# Search in texts

Whether a word occurs in a text, and whether a text begins with a word.
-/

namespace Orm.Text

/-- Whether a text begins with a word. -/
def beginsWith : List Char → List Char → Bool
  | [], _ => true
  | _ :: _, [] => false
  | c :: word, d :: text => c == d && beginsWith word text

/-- Whether a word occurs in a text; the empty word occurs in every text. -/
def occursIn (word : List Char) : List Char → Bool
  | [] => word.isEmpty
  | c :: text => beginsWith word (c :: text) || occursIn word text

end Orm.Text
