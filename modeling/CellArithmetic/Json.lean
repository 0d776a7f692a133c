import CellArithmetic.Text

/-! JSON values and their compact text. Fields keep the order in which they are given. -/
namespace CellArithmetic

inductive Json where
  | null
  | bool (value : Bool)
  /-- A number as it is written. -/
  | number (literal : String)
  | string (text : String)
  | array (items : List Json)
  | object (fields : List (String × Json))
deriving Inhabited

namespace Json

def nat (n : Nat) : Json := number (toString n)

def names (items : List String) : Json := array (items.map string)

def escaped (c : Char) : String :=
  if c = '"' then "\\\""
  else if c = '\\' then "\\\\"
  else if c = '\n' then "\\n"
  else if c = '\r' then "\\r"
  else if c = '\t' then "\\t"
  else if c.toNat = 8 then "\\b"
  else if c.toNat = 12 then "\\f"
  else if c.toNat < 32 then "\\u" ++ Text.hex 4 c.toNat
  else String.singleton c

def quoted (text : String) : String := "\"" ++ String.join (text.toList.map escaped) ++ "\""

mutual

def text : Json → String
  | null => "null"
  | bool true => "true"
  | bool false => "false"
  | number literal => literal
  | string s => quoted s
  | array items => "[" ++ ",".intercalate (itemTexts items) ++ "]"
  | object fields => "\x7b" ++ ",".intercalate (fieldTexts fields) ++ "\x7d"

def itemTexts : List Json → List String
  | [] => []
  | item :: items => item.text :: itemTexts items

def fieldTexts : List (String × Json) → List String
  | [] => []
  | (key, value) :: fields => (quoted key ++ ":" ++ value.text) :: fieldTexts fields

end

def field? (key : String) (fields : List (String × Json)) : Option Json := fields.lookup key

/-- One of several named choices: its name, or an object whose one field has that name
and holds nothing. -/
def choice? (name : α → String) (choices : List α) : Json → Option α
  | string key => choices.find? fun choice => name choice == key
  | object [(key, null)] => choices.find? fun choice => name choice == key
  | _ => none

end CellArithmetic.Json
