import ScriptPress.Binary32.Basic

/-!
# Fonts and colours

## Main definitions

* `FontFamily` — the three standard families that every viewer has.
* `FontFamily.ofName?` — the family that a name stands for, upper and lower case alike.
* `Color` — a text colour.
-/

namespace ScriptPress.Page

inductive FontFamily where
  | courier
  | helvetica
  | times
  deriving DecidableEq, Repr

namespace FontFamily

def baseFont : FontFamily → String
  | courier => "Courier"
  | helvetica => "Helvetica"
  | times => "Times-Roman"

def resourceName : FontFamily → String
  | courier => "F1"
  | helvetica => "F2"
  | times => "F3"

/-- The width of a character in thousandths of the font size: of every one in Courier, of an
average one in the others. -/
def advance : FontFamily → Nat
  | courier => 600
  | helvetica => 556
  | times => 500

def ofName? (name : String) : Option FontFamily :=
  let lower := String.ofList (name.toList.map Char.toLower)
  if lower ∈ ["courier", "mono", "monospace"] then some courier
  else if lower ∈ ["helvetica", "arial", "sans"] then some helvetica
  else if lower ∈ ["times", "times-roman", "serif"] then some times
  else none

def all : List FontFamily := [courier, helvetica, times]

end FontFamily

structure Color where
  red : UInt8
  green : UInt8
  blue : UInt8
  deriving DecidableEq, Repr

def Color.ink : Color := ⟨0, 0, 0⟩

def Color.alarm : Color := ⟨255, 0, 0⟩

end ScriptPress.Page
