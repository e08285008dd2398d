import Mathlib.Tactic.Common

/-!
# JSON values

What `json.loads` hands to the handlers. An object keeps its keys in order; a parsed one has no key
twice, so that `get?` is the `dict.get` of the source.
-/

namespace Eisenberg

inductive Json where
  | null
  | bool (b : Bool)
  | int (n : Int)
  /-- A JSON number with a fraction or an exponent, `mantissa * 10 ^ exponent`. -/
  | float (mantissa exponent : Int)
  | str (s : String)
  | arr (items : List Json)
  | obj (fields : List (String × Json))
  deriving Repr

namespace Json

/-- `bool(value)`. -/
def truthy : Json → Bool
  | null => false
  | bool b => b
  | int n => n != 0
  | float m _ => m != 0
  | str s => s != ""
  | arr items => !items.isEmpty
  | obj fields => !fields.isEmpty

/-- `value.get(key)` on a `dict`, telling an absent key from a null. -/
def lookup (key : String) (fields : List (String × Json)) : Option Json :=
  (fields.find? (fun f => f.1 == key)).map Prod.snd

/-- `value.get(key)`: absent for everything that is not an object. -/
def get? (key : String) : Json → Option Json
  | obj fields => lookup key fields
  | _ => none

/-- `isinstance(value, str)`. -/
def str? : Json → Option String
  | str s => some s
  | _ => none

/-- `isinstance(value, dict)`. -/
def isObj : Json → Bool
  | obj _ => true
  | _ => false

end Json

end Eisenberg
