import Eisenberg.Values.Exceptions
import Eisenberg.Values.Json
import Eisenberg.Values.Text
import Mathlib.Algebra.Group.Int.Defs

/-!
# Python on JSON values

What the expressions of `eisenberg/client.py` make of a decoded body: subscripts and `get`, with the
exceptions they raise on a value of the wrong type, comparisons, and the texts of `str`, `repr` and
`json.dumps`.
-/

namespace Eisenberg

/-- How Python prints a float: never as it prints an int. -/
structure FloatText where
  text : Int → Int → String
  ne_int : ∀ mantissa exponent (n : Int), text mantissa exponent ≠ toString n

/-- An int is printed with digits and at most a sign. -/
theorem mem_toString_int {n : Int} {c : Char} (h : c ∈ (toString n).toList) :
    c.isDigit = true ∨ c = '-' := by
  have hnat : ∀ k : Nat, c ∈ (Nat.repr k).toList → c.isDigit = true := by
    intro k hk
    rw [Nat.toList_repr] at hk
    exact Nat.isDigit_of_mem_toDigits (by decide) (by decide) hk
  cases n with
  | ofNat k => exact Or.inl (hnat k h)
  | negSucc k =>
    have htext : (toString (Int.negSucc k)).toList = '-' :: (Nat.repr (k + 1)).toList := by
      change ("-" ++ Nat.repr (k + 1)).toList = _
      simp
    rw [htext] at h
    rcases List.mem_cons.mp h with hminus | hdigit
    · exact Or.inr hminus
    · exact Or.inl (hnat _ hdigit)

/-- Floats in scientific notation. -/
def exponentText : FloatText where
  text mantissa exponent := toString mantissa ++ "e" ++ toString exponent
  ne_int := by
    intro mantissa exponent n h
    have he : 'e' ∈ (toString n).toList := by
      rw [← h]
      simp
    rcases mem_toString_int he with hdigit | hminus
    · exact absurd hdigit (by decide)
    · exact absurd hminus (by decide)

/-- What Python prints for a null, the two booleans and a string. -/
structure TextStyle where
  null : String
  true : String
  false : String
  quote : String → String

namespace Json

variable (floats : FloatText)

mutual

def render (style : TextStyle) : Json → String
  | null => style.null
  | bool b => if b then style.true else style.false
  | int n => toString n
  | float m e => floats.text m e
  | str s => style.quote s
  | arr items => "[" ++ ", ".intercalate (renderItems style items) ++ "]"
  | obj fields => "\x7b" ++ ", ".intercalate (renderFields style fields) ++ "\x7d"

def renderItems (style : TextStyle) : List Json → List String
  | [] => []
  | item :: items => render style item :: renderItems style items

def renderFields (style : TextStyle) : List (String × Json) → List String
  | [] => []
  | (key, value) :: fields =>
    (style.quote key ++ ": " ++ render style value) :: renderFields style fields

end

def unicodeEscape (n : Nat) : List Char := Char.ofNat 92 :: 'u' :: hexDigits 4 n

/-- A character of a string as `json.dumps` writes it, non-ASCII ones as UTF-16 escapes. -/
def dumpChar (c : Char) : List Char :=
  let backslash := Char.ofNat 92
  if c = Char.ofNat 34 ∨ c = backslash then [backslash, c]
  else if c = Char.ofNat 10 then [backslash, 'n']
  else if c = Char.ofNat 13 then [backslash, 'r']
  else if c = Char.ofNat 9 then [backslash, 't']
  else if c = Char.ofNat 8 then [backslash, 'b']
  else if c = Char.ofNat 12 then [backslash, 'f']
  else if 32 ≤ c.toNat ∧ c.toNat ≤ 126 then [c]
  else if c.toNat < 0x10000 then unicodeEscape c.toNat
  else
    unicodeEscape (0xd800 + (c.toNat - 0x10000) / 1024) ++
      unicodeEscape (0xdc00 + (c.toNat - 0x10000) % 1024)

def dumpString (s : String) : String :=
  String.ofList (Char.ofNat 34 :: s.toList.flatMap dumpChar ++ [Char.ofNat 34])

/-- `repr(value)`. -/
def repr : Json → String := render floats ⟨"None", "True", "False", pyRepr⟩

/-- `json.dumps(value)`. -/
def dumps : Json → String := render floats ⟨"null", "true", "false", dumpString⟩

/-- `str(value)`. -/
def toStr : Json → String
  | str s => s
  | value => value.repr floats

/-- The name of a value's type. -/
def pyType : Json → String
  | null => "NoneType"
  | bool _ => "bool"
  | int _ => "int"
  | float _ _ => "float"
  | str _ => "str"
  | arr _ => "list"
  | obj _ => "dict"

/-- `value[key]` with a `str` key. -/
def item (key : String) : Json → Except Exc Json
  | obj fields =>
    match lookup key fields with
    | some value => .ok value
    | none => .error (.builtin .keyError (pyRepr key))
  | arr _ => .error (.builtin .typeError "list indices must be integers or slices, not str")
  | str _ => .error (.builtin .typeError "string indices must be integers, not 'str'")
  | value => .error (.builtin .typeError s!"'{value.pyType}' object is not subscriptable")

/-- The attribute error of a method that only a `dict` has. -/
def noAttribute (name : String) (value : Json) : Exc :=
  .builtin .attributeError s!"'{value.pyType}' object has no attribute '{name}'"

/-- `value.get(key)`, `none` when the key is absent. -/
def dictGet (key : String) : Json → Except Exc (Option Json)
  | obj fields => .ok (lookup key fields)
  | value => .error (noAttribute "get" value)

/-- `for element in value`: a `dict` gives its keys, a `str` its characters. -/
def iter : Json → Except Exc (List Json)
  | arr items => .ok items
  | obj fields => .ok (fields.map fun field => .str field.1)
  | str s => .ok (s.toList.map fun c => .str (String.ofList [c]))
  | value => .error (.builtin .typeError s!"'{value.pyType}' object is not iterable")

/-- `value is None`. -/
def isNull : Json → Bool
  | null => true
  | _ => false

/-- `value == n` for an int: a float may be equal to it, and `True == 1`. -/
def eqInt (n : Int) : Json → Bool
  | int k => k == n
  | bool b => (if b then 1 else 0) == n
  | float m e => if 0 ≤ e then m * 10 ^ e.toNat == n else m == n * 10 ^ (-e).toNat
  | _ => false

/-- `value == text`. -/
def eqStr (text : String) : Json → Bool
  | str s => s == text
  | _ => false

end Json

end Eisenberg
