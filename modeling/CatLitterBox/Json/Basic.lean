import CatLitterBox.Text.CString

open text

namespace json

/-- A parsed value. Of a number only `valueint` is kept. -/
inductive cJSON where
  | null
  | bool (value : Bool)
  | number (valueint : Int)
  | string (valuestring : Bytes)
  | array (items : List cJSON)
  | object (members : List (Bytes × cJSON))

/-- `tolower` of the C locale. -/
def tolower (c : UInt8) : UInt8 := if 65 ≤ c ∧ c ≤ 90 then c + 32 else c

/-- The first member of that name, upper and lower case being the same; none for a value that
is no object. -/
def object_item (object : cJSON) (name : Bytes) : Option cJSON :=
  match object with
  | .object members => (members.find? fun member => member.1.map tolower = name.map tolower).map Prod.snd
  | _ => none

/-- The member `valuestring`, NULL unless the value is a string. -/
def cJSON.valuestring : cJSON → Option Bytes
  | .string text => some text
  | _ => none

end json
