import ScriptPress.Text.Numeral

/-!
# Command-line options

The arguments of the command and the variables of its environment, and the choices they make. An
argument wins over a variable. Whatever is repeated, unknown or out of range is refused.

## Main definitions

* `Options` — the choices.
* `Arguments`, `readArguments` — what the arguments say.
* `Invocation`, `invocation` — what is to be done.
-/

namespace ScriptPress.CommandLine

open Text

/-! ## Switches and parameters -/

inductive Switch where
  | noAutoFix
  | noAutoInvoke
  | check
  | json
  | verbose
  | quiet
  deriving DecidableEq, Repr

inductive Parameter where
  | output
  | name
  | fontSize
  | timeout
  | python
  deriving DecidableEq, Repr

/-- Any option. The last two ask about the command itself. -/
inductive Flag where
  | switch (switch : Switch)
  | parameter (parameter : Parameter)
  | help
  | version
  deriving DecidableEq, Repr

def Flag.byName : List (String × Flag) :=
  [("output", .parameter .output), ("name", .parameter .name),
    ("font-size", .parameter .fontSize), ("timeout", .parameter .timeout),
    ("python", .parameter .python), ("no-auto-fix", .switch .noAutoFix),
    ("no-auto-invoke", .switch .noAutoInvoke), ("check", .switch .check), ("json", .switch .json),
    ("verbose", .switch .verbose), ("quiet", .switch .quiet), ("help", .help),
    ("version", .version)]

def Flag.byLetter : List (Char × Flag) :=
  [('o', .parameter .output), ('v', .switch .verbose), ('q', .switch .quiet), ('h', .help),
    ('V', .version)]

/-- The variable that may make a choice. Only the check has none. -/
def Switch.variable? : Switch → Option String
  | noAutoFix => some "CODE2PDF_NO_AUTO_FIX"
  | noAutoInvoke => some "CODE2PDF_NO_AUTO_INVOKE"
  | check => none
  | json => some "CODE2PDF_JSON"
  | verbose => some "CODE2PDF_VERBOSE"
  | quiet => some "CODE2PDF_QUIET"

def Parameter.variable : Parameter → String
  | output => "CODE2PDF_OUTPUT"
  | name => "CODE2PDF_NAME"
  | fontSize => "CODE2PDF_FONT_SIZE"
  | timeout => "CODE2PDF_TIMEOUT"
  | python => "CODE2PDF_PYTHON"

/-! ## Values -/

/-- A natural number in digits, with a plus sign or without. -/
def natural? (s : List Char) : Option Nat :=
  let unsigned := match s with
    | '+' :: s => s
    | s => s
  match leadingNumber? unsigned with
  | some (n, []) => some n
  | _ => none

/-- A font size from 1 to 400. -/
def fontSize? (value : String) : Option UInt32 :=
  (natural? value.toList).bind fun n => if 1 ≤ n ∧ n ≤ 400 then some (.ofNat n) else none

/-- A time limit of at least one second. -/
def timeout? (value : String) : Option UInt64 :=
  (natural? value.toList).bind fun n => if 1 ≤ n ∧ n < UInt64.size then some (.ofNat n) else none

def Parameter.accepts (value : String) : Parameter → Bool
  | output => !value.isEmpty
  | name | python => true
  | fontSize => (fontSize? value).isSome
  | timeout => (timeout? value).isSome

/-! ## Arguments -/

structure Arguments where
  input : Option String
  switches : List Switch
  values : List (Parameter × String)
  deriving DecidableEq, Repr

inductive Reading where
  | read (arguments : Arguments)
  | help
  | version
  | refused
  deriving DecidableEq, Repr

namespace Arguments

def empty : Arguments := ⟨none, [], []⟩

def addSwitch (s : Switch) (a : Arguments) : Option Arguments :=
  if s ∈ a.switches then none else some { a with switches := a.switches ++ [s] }

/-- A value for a parameter, unless it has one or may not have this one. -/
def addValue (p : Parameter) (value : String) (a : Arguments) : Option Arguments :=
  if (a.values.lookup p).isSome || !p.accepts value then none
  else some { a with values := a.values ++ [(p, value)] }

def addInput (input : String) (a : Arguments) : Option Arguments :=
  if a.input.isSome then none else some { a with input := some input }

end Arguments

inductive Token where
  | positional (text : List Char)
  /-- Everything behind it is positional. -/
  | escape
  | named (name : List Char) (value : Option (List Char))
  /-- Letters behind one hyphen. -/
  | letters (letters : List Char)
  deriving DecidableEq, Repr

def Token.ofText : List Char → Token
  | ['-', '-'] => escape
  | '-' :: '-' :: s =>
    match s.dropWhile (· != '=') with
    | '=' :: value => named (s.takeWhile (· != '=')) (some value)
    | _ => named s none
  | '-' :: c :: s => letters (c :: s)
  | s => positional s

/-- What letters behind a hyphen have come to. -/
inductive Cluster where
  | done (arguments : Arguments)
  /-- The value of the last letter is the next argument. -/
  | wants (parameter : Parameter) (arguments : Arguments)
  | help
  | version
  | refused

/-- Reads letters behind a hyphen. The first one that has a value takes the rest for it. -/
def readLetters : List Char → Arguments → Cluster
  | [], a => .done a
  | c :: cs, a =>
    match Flag.byLetter.lookup c with
    | some (.switch s) =>
      match a.addSwitch s with
      | some a => readLetters cs a
      | none => .refused
    | some (.parameter p) =>
      match cs with
      | [] => .wants p a
      | '=' :: value | value =>
        match a.addValue p (String.ofList value) with
        | some a => .done a
        | none => .refused
    | some .help => .help
    | some .version => .version
    | none => .refused

def readPositionals : List (List Char) → Arguments → Reading
  | [], a => .read a
  | s :: ss, a =>
    match a.addInput (String.ofList s) with
    | some a => readPositionals ss a
    | none => .refused

/-- Reads arguments; `wanted` is the parameter that the next one is the value of. -/
def readFrom : (wanted : Option Parameter) → List (List Char) → Arguments → Reading
  | some _, [], _ => .refused
  | none, [], a => .read a
  | wanted, s :: ss, a =>
    match Token.ofText s, wanted with
    | .positional text, some p =>
      match a.addValue p (String.ofList text) with
      | some a => readFrom none ss a
      | none => .refused
    | _, some _ => .refused
    | .positional text, none =>
      match a.addInput (String.ofList text) with
      | some a => readFrom none ss a
      | none => .refused
    | .escape, none => readPositionals ss a
    | .letters cs, none =>
      match readLetters cs a with
      | .done a => readFrom none ss a
      | .wants p a => readFrom (some p) ss a
      | .help => .help
      | .version => .version
      | .refused => .refused
    | .named name value, none =>
      match Flag.byName.lookup (String.ofList name), value with
      | some (.parameter p), some value =>
        match a.addValue p (String.ofList value) with
        | some a => readFrom none ss a
        | none => .refused
      | some (.parameter p), none => readFrom (some p) ss a
      | some (.switch s), none =>
        match a.addSwitch s with
        | some a => readFrom none ss a
        | none => .refused
      | some .help, none => .help
      | some .version, none => .version
      | _, _ => .refused

def readArguments (args : List String) : Reading := readFrom none (args.map String.toList) .empty

/-! ## Choices -/

structure Options where
  input : String
  output : Option String
  name : Option String
  fontSize : Option UInt32
  timeout : UInt64
  python : Option String
  noAutoFix : Bool
  noAutoInvoke : Bool
  check : Bool
  json : Bool
  verbose : Bool
  quiet : Bool
  deriving DecidableEq, Repr

abbrev Environment := List (String × String)

/-- Whether a switch is on, if its variable has a sense. -/
def switchIn (env : Environment) (a : Arguments) (s : Switch) : Option Bool :=
  if s ∈ a.switches then some true
  else
    match s.variable?.bind fun v => env.lookup v with
    | none => some false
    | some value =>
      if value = "true" then some true
      else if value = "false" then some false
      else none

/-- The value of a parameter, if its variable has a sense. -/
def valueIn (env : Environment) (a : Arguments) (p : Parameter) : Option (Option String) :=
  match a.values.lookup p with
  | some value => some (some value)
  | none =>
    match env.lookup p.variable with
    | none => some none
    | some value => if p.accepts value then some (some value) else none

def options? (env : Environment) (a : Arguments) : Option Options := do
  return {
    input := ← a.input
    output := ← valueIn env a .output
    name := ← valueIn env a .name
    fontSize := (← valueIn env a .fontSize).bind fontSize?
    timeout := ((← valueIn env a .timeout).bind timeout?).getD 30
    python := ← valueIn env a .python
    noAutoFix := ← switchIn env a .noAutoFix
    noAutoInvoke := ← switchIn env a .noAutoInvoke
    check := ← switchIn env a .check
    json := ← switchIn env a .json
    verbose := ← switchIn env a .verbose
    quiet := ← switchIn env a .quiet }

inductive Invocation where
  | run (options : Options)
  | help
  | version
  | usageError
  deriving DecidableEq, Repr

def invocation (args : List String) (env : Environment) : Invocation :=
  match readArguments args with
  | .read a =>
    match options? env a with
    | some options => .run options
    | none => .usageError
  | .help => .help
  | .version => .version
  | .refused => .usageError

end ScriptPress.CommandLine
