import SavedGames.Json.Value
import SavedGames.Text.Decimal
import SavedGames.Text.Hex

/-! The two written forms of a JSON value: without any blanks, and with one item a line, indented
by two spaces a level. -/
namespace SavedGames.Json

/-- Quotes, backslashes and controls are escaped; every other character stands for itself. -/
def escaped (c : Char) : List Char :=
  match c with
  | '"' => ['\\', '"']
  | '\\' => ['\\', '\\']
  | '\x08' => ['\\', 'b']
  | '\x0c' => ['\\', 'f']
  | '\n' => ['\\', 'n']
  | '\r' => ['\\', 'r']
  | '\t' => ['\\', 't']
  | c =>
    if c.toNat < 0x20 then ['\\', 'u', '0', '0'] ++ Hex.ofByte c.toUInt8
    else [c]

def quoted (s : String) : List Char := '"' :: s.toList.flatMap escaped ++ ['"']

def separated (separator : List Char) : List (List Char) → List Char
  | [] => []
  | [part] => part
  | part :: parts => part ++ separator ++ separated separator parts

def compact : Json → List Char
  | null => "null".toList
  | bool b => if b then "true".toList else "false".toList
  | int n => Decimal.write n
  | str s => quoted s
  | arr items => '[' :: separated [','] (compactItems items) ++ [']']
  | obj members => '\x7b' :: separated [','] (compactMembers members) ++ ['\x7d']
where
  compactItems : List Json → List (List Char)
    | [] => []
    | item :: items => compact item :: compactItems items
  compactMembers : List (String × Json) → List (List Char)
    | [] => []
    | (name, value) :: members => (quoted name ++ ':' :: compact value) :: compactMembers members

def newline (depth : Nat) : List Char := '\n' :: List.replicate (2 * depth) ' '

/-- Brackets around parts that stand on lines of their own; an empty pair stays together. -/
def block (opening closing : Char) (depth : Nat) (parts : List (List Char)) : List Char :=
  if parts.isEmpty then [opening, closing]
  else
    opening :: newline (depth + 1) ++ separated (',' :: newline (depth + 1)) parts ++
      newline depth ++ [closing]

def indented (depth : Nat) : Json → List Char
  | null => "null".toList
  | bool b => if b then "true".toList else "false".toList
  | int n => Decimal.write n
  | str s => quoted s
  | arr items => block '[' ']' depth (indentedItems (depth + 1) items)
  | obj members => block '\x7b' '\x7d' depth (indentedMembers (depth + 1) members)
where
  indentedItems (depth : Nat) : List Json → List (List Char)
    | [] => []
    | item :: items => indented depth item :: indentedItems depth items
  indentedMembers (depth : Nat) : List (String × Json) → List (List Char)
    | [] => []
    | (name, value) :: members =>
      (quoted name ++ ':' :: ' ' :: indented depth value) :: indentedMembers depth members

def compactText (j : Json) : String := String.ofList j.compact

def prettyText (j : Json) : String := String.ofList (j.indented 0)

def text (pretty : Bool) (j : Json) : String := if pretty then j.prettyText else j.compactText

end SavedGames.Json
