/-!
# Single precision numbers

The numbers of the binary32 format. Every finite one is a whole number of steps of 2⁻¹⁴⁹, so sums,
products and comparisons are arithmetic on natural numbers, followed by one rounding to 24
significant bits, to the nearest number and from a tie to the even one.

## Main definitions

* `Binary32` — not a number, an infinity, or a whole number of steps with a sign.
* `nearest` — rounding of a fraction to a number of significant bits.
* `Binary32.ofRatio`, `Binary32.ofNat` — the nearest number to a fraction.
* `Binary32.add`, `Binary32.sub`, `Binary32.mul`, `Binary32.div` — arithmetic.
* `Binary32.lt`, `Binary32.le`, `Binary32.eq` — comparisons, false on `nan`.
* `Binary32.floorNat` — the whole part as a machine word.
-/

namespace ScriptPress

/-! ## Rounding -/

/-- The distance between neighbouring numbers of `bits` significant bits just above `n`. -/
def spacing (bits n : Nat) : Nat := Nat.pow 2 (n.log2 + 1 - bits)

/-- The nearest number of `bits` significant bits to `num / den`; a tie goes to the one whose last
bit is 0. -/
def nearest (bits num den : Nat) : Nat :=
  let unit := den * spacing bits (num / den)
  let k := num / unit
  let r := num % unit
  if 2 * r < unit ∨ (2 * r = unit ∧ k % 2 = 0) then k * spacing bits (num / den)
  else (k + 1) * spacing bits (num / den)

/-- A number of the binary32 format. -/
inductive Binary32 where
  | nan
  | infinite (negative : Bool)
  /-- `units` steps of 2⁻¹⁴⁹ with a sign, also on zero. -/
  | finite (negative : Bool) (units : Nat)
  deriving DecidableEq, Repr

namespace Binary32

/-- The number of steps in one. -/
def one : Nat := Nat.pow 2 149

/-- The first number of steps too large for the format. -/
def overflow : Nat := Nat.pow 2 277

/-- The nearest number to `num / den` steps. -/
def ofSteps (negative : Bool) (num den : Nat) : Binary32 :=
  let units := nearest 24 num den
  if units < overflow then finite negative units else infinite negative

def ofRatio (negative : Bool) (num den : Nat) : Binary32 := ofSteps negative (num * one) den

def ofNat (n : Nat) : Binary32 := ofRatio false n 1

instance (n : Nat) : OfNat Binary32 n := ⟨ofNat n⟩

/-! ## Arithmetic -/

def neg : Binary32 → Binary32
  | nan => nan
  | infinite s => infinite !s
  | finite s u => finite (!s) u

def signed (negative : Bool) (units : Nat) : Int := if negative then -units else units

/-- The sum. Numbers that cancel give a positive zero. -/
def add : Binary32 → Binary32 → Binary32
  | nan, _ | _, nan => nan
  | infinite s, infinite t => if s = t then infinite s else nan
  | infinite s, finite _ _ => infinite s
  | finite _ _, infinite t => infinite t
  | finite s u, finite t v =>
    let sum := signed s u + signed t v
    if sum = 0 then finite (s && t) 0 else ofSteps (sum < 0) sum.natAbs 1

def sub (a b : Binary32) : Binary32 := add a (neg b)

def mul : Binary32 → Binary32 → Binary32
  | nan, _ | _, nan => nan
  | infinite s, infinite t => infinite (s ^^ t)
  | infinite s, finite t v => if v = 0 then nan else infinite (s ^^ t)
  | finite s u, infinite t => if u = 0 then nan else infinite (s ^^ t)
  | finite s u, finite t v => ofSteps (s ^^ t) (u * v) one

def div : Binary32 → Binary32 → Binary32
  | nan, _ | _, nan => nan
  | infinite _, infinite _ => nan
  | infinite s, finite t _ => infinite (s ^^ t)
  | finite s _, infinite t => finite (s ^^ t) 0
  | finite s u, finite t v =>
    if v = 0 then if u = 0 then nan else infinite (s ^^ t)
    else ofSteps (s ^^ t) (u * one) v

instance : Neg Binary32 := ⟨neg⟩
instance : Add Binary32 := ⟨add⟩
instance : Sub Binary32 := ⟨sub⟩
instance : Mul Binary32 := ⟨mul⟩
instance : Div Binary32 := ⟨div⟩

/-! ## Comparisons -/

/-- The place of a number in the order, which `nan` has not. -/
def rank? : Binary32 → Option Int
  | nan => none
  | infinite s => some (signed s overflow)
  | finite s u => some (signed s u)

/-- Whether both numbers have a place in the order and the places stand in the relation `r`. -/
def compareBy (r : Int → Int → Bool) (a b : Binary32) : Bool :=
  match a.rank?, b.rank? with
  | some x, some y => r x y
  | _, _ => false

def lt : Binary32 → Binary32 → Bool := compareBy (· < ·)

def le : Binary32 → Binary32 → Bool := compareBy (· ≤ ·)

/-- Equal as numbers: the two zeros are, `nan` is not even to itself. -/
def eq : Binary32 → Binary32 → Bool := compareBy (· == ·)

@[simp] theorem rank?_eq_none_iff {a : Binary32} : a.rank? = none ↔ a = nan := by
  cases a <;> simp [rank?]

/-! ## Whole part -/

def maxWord : Nat := UInt64.size - 1

/-- The whole part, 0 for `nan` and negative numbers, at most the largest machine word. -/
def floorNat : Binary32 → Nat
  | nan | infinite true | finite true _ => 0
  | infinite false => maxWord
  | finite false u => min (u / one) maxWord

end Binary32

end ScriptPress
