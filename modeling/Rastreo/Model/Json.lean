import Rastreo.Model.Text

/-!
# JSON values

What `serde_json` makes of a text; the reader of the text is a parameter where it is used.
-/

namespace Rastreo

/-- `serde_json::Value`. -/
inductive Json where
  | null
  | bool (b : Bool)
  | number (text : String)
  | string (s : String)
  | array (items : List Json)
  | object (map : List (String × Json))

def Json.asArray : Json → Option (List Json)
  | .array items => some items
  | _ => none

end Rastreo
