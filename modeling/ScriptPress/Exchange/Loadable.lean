import ScriptPress.Json.Basic

/-!
# Loadable values

A value whose meaning is not known while it is read has to be kept until it is. Only values within
some limits can be kept: numbers that double precision can tell from infinity, strings that are
text, and no more than 127 levels of arrays and objects.

## Main definitions

* `Json.isLoadable` — the value is within the limits.
-/

namespace ScriptPress

namespace Json

def maxLevels : Nat := 127

/-- The least natural number that double precision takes for infinity: half a unit above the largest
finite one. -/
def doubleEnd : Nat := Nat.pow 2 1024 - Nat.pow 2 970

/-- Whether double precision can tell a number from infinity. -/
def Number.isFinite : Number → Bool
  | .natural n => n < doubleEnd
  | .decimal _ m e =>
    let digits : Int := (Nat.toDigits 10 m).length
    if m = 0 ∨ digits + e ≤ 300 then true
    else if 400 < digits + e then false
    else if 0 ≤ e then m * Nat.pow 10 e.toNat < doubleEnd
    else m < doubleEnd * Nat.pow 10 (-e).toNat

mutual

/-- Whether a value that stands inside `level` arrays and objects is within the limits. -/
def isLoadable (level : Nat) : Json → Bool
  | null | bool _ | string _ => true
  | number n => n.isFinite
  | brokenString => false
  | array items => level < maxLevels && areLoadable (level + 1) items
  | object fields => level < maxLevels && fieldsAreLoadable (level + 1) fields

def areLoadable (level : Nat) : List Json → Bool
  | [] => true
  | j :: js => isLoadable level j && areLoadable level js

def fieldsAreLoadable (level : Nat) : List (String × Json) → Bool
  | [] => true
  | (_, j) :: fields => isLoadable level j && fieldsAreLoadable level fields

end

end Json

end ScriptPress
