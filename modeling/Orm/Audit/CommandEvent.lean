import Orm.Text.WordCharacter
import Orm.Value.Basic

/-!
# Commands as observers see them

A `CommandEvent` describes a command that is about to be executed. `CommandEvent.rawText` shows its
statement with each parameter replaced by its value; it reads the statement once from left to
right, so a value that looks like a parameter is left alone.
-/

namespace Orm

open Text

/-- A command that is about to be executed, with the hash of the connection string. -/
structure CommandEvent where
  text : String
  params : List (String × Value)
  connectionHash : String
deriving DecidableEq

/-- The characters of a text with each single quote written twice. -/
def doubledQuotes : List Char → List Char
  | [] => []
  | c :: rest => if c = '\'' then '\'' :: '\'' :: doubledQuotes rest else c :: doubledQuotes rest

/-- Characters between single quotes. -/
def singleQuoted (content : List Char) : List Char := '\'' :: content ++ ['\'']

/-- A value as a statement would write it. -/
def Value.sqlText : Value → List Char
  | .text content => singleQuoted (doubledQuotes content.toList)
  | .dateTime moment => singleQuoted (Pattern.dateTime.write (.ofDateTime moment))
  | .date day => singleQuoted (Pattern.dateTime.write (.ofDate day))
  | other => other.display.toList

/-- What follows a word at the front of a text. -/
def afterFront? : List Char → List Char → Option (List Char)
  | [], text => some text
  | _ :: _, [] => none
  | c :: word, d :: text => if c = d then afterFront? word text else none

/-- Whether a name ends where the rest of a text begins. -/
def endsToken : List Char → Bool
  | [] => true
  | c :: _ => !(isAlphanumeric c || c = '_')

namespace CommandEvent

/-- Whether a parameter name stands as a whole token at the front of a text. -/
def startsWithToken (text name : List Char) : Bool :=
  !name.isEmpty &&
    match afterFront? name text with
    | some rest => endsToken rest
    | none => false

/-- The longest parameter name that is a token at the front of a text, with its value; of equal
names the last counts. -/
def tokenAt? (text : List Char) (params : List (String × Value)) :
    Option (List Char × Value) :=
  params.foldl (fun best param =>
    let name := param.1.toList
    if startsWithToken text name then
      match best with
      | some (known, _) => if name.length < known.length then best else some (name, param.2)
      | none => some (name, param.2)
    else best) none

/-- A statement with each parameter replaced by its value, after `passed` characters of a
replaced parameter are passed over. -/
def inlined (params : List (String × Value)) : Nat → List Char → List Char
  | _, [] => []
  | passed + 1, _ :: rest => inlined params passed rest
  | 0, c :: rest =>
      match tokenAt? (c :: rest) params with
      | some (name, value) => value.sqlText ++ inlined params (name.length - 1) rest
      | none => c :: inlined params 0 rest

/-- The statement with each parameter replaced by its value. It is meant for reading only. -/
def rawText (event : CommandEvent) : String :=
  String.ofList (inlined event.params 0 event.text.toList)

/-- The name, value and kind of a parameter. -/
def paramNote (param : String × Value) : String :=
  " " ++ param.1 ++ "=" ++ String.ofList param.2.sqlText ++ " (" ++ param.2.kind ++ ")"

/-- The statement with its parameters replaced, and a comment that lists them if there are any. -/
def rawTextWithParams (event : CommandEvent) : String :=
  event.rawText ++
    if event.params.isEmpty then ""
    else "\n-- params:" ++ String.join (event.params.map paramNote)

end CommandEvent

end Orm
