/-!
# Kinds of failure

## Main definitions

* `ErrorKind` — what went wrong, as far as it can be told.
* `FailureCategory` — where in the course of a request it went wrong.
* `ErrorKind.ofTypeName` — the kind of an exception, by the name of its class.
-/

namespace ScriptPress

inductive ErrorKind where
  | syntaxError
  | indentation
  | name
  | type
  | member
  | importing
  | index
  | key
  | timeout
  | noOutput
  | other
  | system
  deriving DecidableEq, Repr

inductive FailureCategory where
  /-- Before the script ran. -/
  | compile
  /-- While the script ran. -/
  | runtime
  /-- The script ran and left nothing to deliver. -/
  | resolution
  /-- Outside the script. -/
  | system
  deriving DecidableEq, Repr

/-- The class name of the failures that a runtime reports when it could not run the script. -/
def sandboxErrorType : String := "SandboxError"

namespace ErrorKind

def ofTypeName (typeName : String) : ErrorKind :=
  if typeName = "SyntaxError" then syntaxError
  else if typeName = "IndentationError" ∨ typeName = "TabError" then indentation
  else if typeName = "NameError" ∨ typeName = "UnboundLocalError" then name
  else if typeName = "TypeError" then type
  else if typeName = "AttributeError" then member
  else if typeName = "ImportError" ∨ typeName = "ModuleNotFoundError" then importing
  else if typeName = "IndexError" then index
  else if typeName = "KeyError" then key
  else if typeName = sandboxErrorType then system
  else other

/-- Where in the course of a request a failure of this kind arises. -/
def category : ErrorKind → FailureCategory
  | syntaxError | indentation => .compile
  | name | type | member | importing | index | key | timeout | other => .runtime
  | noOutput => .resolution
  | system => .system

/-- Whether the failure arises before the script runs. -/
def isCompile (k : ErrorKind) : Bool := k.category == .compile

def label : ErrorKind → String
  | syntaxError => "Syntax"
  | indentation => "Indentation"
  | name => "Name"
  | type => "Type"
  | member => "Attribute"
  | importing => "Import"
  | index => "Index"
  | key => "Key"
  | timeout => "Timeout"
  | noOutput => "NoOutput"
  | other => "Other"
  | system => "System"

def all : List ErrorKind :=
  [syntaxError, indentation, name, type, member, importing, index, key, timeout, noOutput,
    other, system]

def ofLabel? (s : String) : Option ErrorKind := all.find? (·.label == s)

theorem ofLabel?_label (k : ErrorKind) : ofLabel? k.label = some k := by
  cases k <;> decide +kernel

end ErrorKind

def FailureCategory.label : FailureCategory → String
  | compile => "Compile"
  | runtime => "Runtime"
  | resolution => "Resolution"
  | system => "System"

end ScriptPress
