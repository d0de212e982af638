import ScriptPress.Binary32.Basic

/-!
# Single precision numbers in decimals

Writing a number with the fewest digits that read back as the same number, or with two places;
reading a decimal numeral.

## Main definitions

* `Binary32.shortest` — the fewest digits within the numbers that round to the given one, and of
  those the nearest.
* `Binary32.toDecimal` — those digits in positional notation, written out in full.
* `Binary32.toPlaces` — with a fixed number of places, a tie to the even digit.
* `Binary32.ofDecimal` — from a numeral, by way of double precision.
-/

namespace ScriptPress

namespace Binary32

/-! ## The fewest digits -/

/-- Four times the numbers of steps between which everything rounds to `units`, and whether these
two ends do so too. -/
def roundingInterval (units : Nat) : Nat × Nat × Bool :=
  let gap := spacing 24 units
  let below := if 1 < gap ∧ units = Nat.pow 2 units.log2 then gap else 2 * gap
  (4 * units - below, 4 * units + 2 * gap, units / gap % 2 = 0)

def inInterval (interval : Nat × Nat × Bool) (num den : Nat) : Bool :=
  let (low, high, closed) := interval
  (low * den < num && num < high * den) || (closed && (low * den == num || num == high * den))

/-- The multiple of `10 ^ exponent` that rounds to `units` and is nearest to it, of two equally near
ones the larger, if a multiple does. -/
def onGrid? (units : Nat) (exponent : Int) : Option Nat :=
  -- a step is `num / den` of the grid's width
  let num := if exponent < 0 then Nat.pow 10 (-exponent).toNat else 1
  let den := if exponent < 0 then one else one * Nat.pow 10 exponent.toNat
  let below := units * num / den
  let rest := units * num % den
  let fits (m : Nat) := inInterval (roundingInterval units) (4 * m * den) num
  match fits below, fits (below + 1) with
  | true, true => some (if 2 * rest < den then below else below + 1)
  | true, false => some below
  | false, true => some (below + 1)
  | false, false => none

/-- The first grid, from `10 ^ exponent` downwards, that has a fitting multiple. -/
def shortestFrom (units : Nat) : (tries : Nat) → (exponent : Int) → Nat × Int
  | 0, exponent => (units, exponent)
  | tries + 1, exponent =>
    match onGrid? units exponent with
    | some digits => (digits, exponent)
    | none => shortestFrom units tries (exponent - 1)

/-- The digits and the exponent of the shortest decimal that reads back as `units` steps. The
largest number is below `10 ^ 39`, and the grid of `10 ^ (-46)` is finer than a step. -/
def shortest (units : Nat) : Nat × Int := shortestFrom units 86 39

/-! ## Positional notation -/

def digits (n : Nat) : List Char := Nat.toDigits 10 n

/-- `m` with a point in front of its last `places` digits. -/
def withPoint (m places : Nat) : List Char :=
  let ds := digits m
  let ds := List.replicate (places + 1 - ds.length) '0' ++ ds
  ds.take (ds.length - places) ++ '.' :: ds.drop (ds.length - places)

def positional (m : Nat) (exponent : Int) : List Char :=
  if exponent < 0 then withPoint m (-exponent).toNat
  else digits m ++ List.replicate exponent.toNat '0'

def withSign (negative : Bool) (s : List Char) : List Char := if negative then '-' :: s else s

/-- The shortest decimal that reads back as the number, without an exponent. -/
def toDecimal : Binary32 → String
  | nan => "NaN"
  | infinite s => String.ofList (withSign s "inf".toList)
  | finite s 0 => String.ofList (withSign s ['0'])
  | finite s units =>
    let (m, exponent) := shortest units
    String.ofList (withSign s (positional m exponent))

/-- `num / den` to the nearest whole number, a tie to the even one. -/
def roundHalfEven (num den : Nat) : Nat :=
  let k := num / den
  let r := num % den
  if 2 * r < den ∨ (2 * r = den ∧ k % 2 = 0) then k else k + 1

/-- The number with two places, rounded from its exact value. -/
def toPlaces : Binary32 → String
  | nan => "NaN"
  | infinite s => String.ofList (withSign s "inf".toList)
  | finite s units => String.ofList (withSign s (withPoint (roundHalfEven (units * 100) one) 2))

/-! ## Reading -/

/-- The number of double precision steps of 2⁻¹⁰⁷⁴ in one. -/
def doubleOne : Nat := Nat.pow 2 1074

/-- `m · 10 ^ exponent`, rounded to double and then to single precision. Far outside the range of
doubles the result is an infinity or zero. -/
def ofDecimal (negative : Bool) (m : Nat) (exponent : Int) : Binary32 :=
  let size := exponent + (digits m).length
  if m = 0 ∨ size < -400 then finite negative 0
  else if 400 < size then infinite negative
  else
    let num := m * doubleOne * Nat.pow 10 exponent.toNat
    let double := nearest 53 num (Nat.pow 10 (-exponent).toNat)
    if double < Nat.pow 2 2098 then ofSteps negative double (Nat.pow 2 925) else infinite negative

end Binary32

end ScriptPress
