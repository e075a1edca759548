import PadRelay.Json.Numeral
import PadRelay.Json.Quoted

/-!
# JSON values

A value as it was written: numbers keep their digits and texts their escapes. Whether a number has
a place among the finite doubles, or a text is well-formed Unicode, is asked of the value, since a
reader that skips it does not care.
-/

namespace PadRelay

/-- A JSON value. -/
inductive Json where
  | null
  | bool (value : Bool)
  | number (numeral : Json.Numeral)
  | text (pieces : Json.Quoted)
  | array (items : List Json)
  | object (members : List (Json.Quoted × Json))

end PadRelay
