/-!
# JSON values

Values of the JSON data format, with the fields of an object in the order in which they are written
and with repetitions, and the ways to look at one.

## Main definitions

* `Json`, `Json.Number` — values; numbers as they are written.
* `Json.text?`, `Json.flag?`, `Json.word?`, `Json.items?`, `Json.variant?` — what a value is read
  as.
* `Json.record?` — the fields of a record.
* `Json.required`, `Json.optional` — a field that must and one that need not be there.
-/

namespace ScriptPress

/-- A number as it is written: plain digits, or a sign, a fraction or an exponent with them. -/
inductive Json.Number where
  | natural (value : Nat)
  /-- The number `mantissa · 10 ^ exponent` with a sign. -/
  | decimal (negative : Bool) (mantissa : Nat) (exponent : Int)
  deriving DecidableEq, Repr

inductive Json where
  | null
  | bool (value : Bool)
  | number (value : Json.Number)
  | string (value : String)
  /-- A string literal with half of a surrogate pair in it, which is no text. -/
  | brokenString
  | array (items : List Json)
  | object (fields : List (String × Json))
  deriving Repr

namespace Json

/-! ## Values of a kind -/

def ofNat (n : Nat) : Json := number (.natural n)

def ofOption {α : Type} (f : α → Json) : Option α → Json
  | some a => f a
  | none => null

def text? : Json → Option String
  | string s => some s
  | _ => none

def flag? : Json → Option Bool
  | bool b => some b
  | _ => none

def below? (bound : Nat) : Json → Option Nat
  | number (.natural n) => if n < bound then some n else none
  | _ => none

def word? (j : Json) : Option UInt64 := (j.below? UInt64.size).map UInt64.ofNat

def word32? (j : Json) : Option UInt32 := (j.below? UInt32.size).map UInt32.ofNat

def items? : Json → Option (List Json)
  | array items => some items
  | _ => none

/-- The items of an array, each read by `f`. -/
def list? {α : Type} (f : Json → Option α) (j : Json) : Option (List α) := do
  (← j.items?).mapM f

/-- The name of a variant without content: a string, or an object from that name to null. -/
def variant? : Json → Option String
  | string s => some s
  | object [(s, null)] => some s
  | _ => none

/-! ## Records -/

def valuesOf (name : String) (fields : List (String × Json)) : List Json :=
  (fields.filter (·.1 == name)).map (·.2)

/-- The fields of a record, by name. A record is an object in which no field of the record is
repeated; other fields do not matter. It may also be written as the array of its fields, where the
last `spare` may be left out. -/
def record? (names : List String) (spare : Nat) : Json → Option (String → Option Json)
  | object fields =>
    if names.all fun n => (valuesOf n fields).length ≤ 1 then
      some fun n => (valuesOf n fields).head?
    else none
  | array items =>
    if items.length ≤ names.length ∧ names.length ≤ items.length + spare then
      some fun n => items[names.idxOf n]?
    else none
  | _ => none

def required {α : Type} (f : Json → Option α) (field : Option Json) : Option α := field.bind f

/-- A field that may be missing or null. -/
def optional {α : Type} (f : Json → Option α) : Option Json → Option (Option α)
  | none | some null => some none
  | some j => (f j).map some

/-- A field that stands for a default where it is missing. -/
def withDefault {α : Type} (default : α) (f : Json → Option α) : Option Json → Option α
  | none => some default
  | some j => f j

end Json

end ScriptPress
