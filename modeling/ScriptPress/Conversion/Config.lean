import ScriptPress.Conversion.Error
import ScriptPress.Page.Backend
import ScriptPress.Text.Blank

/-!
# Configurations

The choices of a request, and the setters that make them one after the other. Building checks the
ranges; a configuration that was put together by hand is brought into range where it is read.

## Main definitions

* `Sandbox` — a store, and the patches of the documents drawn in it.
* `Listener` — the one who is told of events.
* `Config` — the choices.
* `Setting`, `Config.set` — one choice.
* `Config.build` — the configuration of a series of choices.
* `Config.effectiveFontSize`, `Config.timeoutMs` — choices as they are read.
-/

namespace ScriptPress

open Text

/-- A store, and the patches of the documents drawn in it. -/
structure Sandbox where
  store : Store
  patches : Page.PatchSet

/-- Someone who listens to the progress, known by a number. -/
structure Listener where
  number : Nat
  deriving DecidableEq, Repr

structure Config where
  /-- The font size for recognised calls and for documents that are drawn here. -/
  fontSize : Option UInt32
  /-- The name for the one who receives the document. -/
  outputName : Option String
  /-- The time limit of a run, in seconds. -/
  timeoutSecs : UInt64
  autoFix : Bool
  autoInvoke : Bool
  /-- The patches of a sandbox that is made for the request. -/
  patches : Page.PatchSet
  /-- The name of an interpreter that was given. -/
  runtime : Option String
  /-- A sandbox that was given. -/
  sandbox : Option Sandbox
  /-- The command that starts an interpreter of its own. -/
  python : Option String
  /-- The one who listens to the progress. -/
  listener : Option Listener

inductive Setting where
  /-- Size 0 means none. -/
  | fontSize (size : UInt32)
  /-- A blank name means none. -/
  | outputName (name : String)
  | timeoutSecs (secs : UInt64)
  | autoFix (on : Bool)
  | autoInvoke (on : Bool)
  | patches (patches : Page.PatchSet)
  | runtime (name : String)
  | sandbox (sandbox : Sandbox)
  | python (command : String)
  | listener (listener : Listener)

namespace Config

def default : Config where
  fontSize := none
  outputName := none
  timeoutSecs := 30
  autoFix := true
  autoInvoke := true
  patches := .all
  runtime := none
  sandbox := none
  python := none
  listener := none

def set (c : Config) : Setting → Config
  | .fontSize size => { c with fontSize := if size = 0 then none else some size }
  | .outputName name =>
    { c with outputName := if isBlankText name.toList then none else some name }
  | .timeoutSecs secs => { c with timeoutSecs := secs }
  | .autoFix on => { c with autoFix := on }
  | .autoInvoke on => { c with autoInvoke := on }
  | .patches patches => { c with patches := patches }
  | .runtime name => { c with runtime := some name }
  | .sandbox sandbox => { c with sandbox := some sandbox }
  | .python command => { c with python := some command }
  | .listener listener => { c with listener := some listener }

def maxFontSize : UInt32 := 400

def checked (c : Config) : Except ConversionError Config :=
  if c.timeoutSecs = 0 then .error (.invalidConfig "Timeout must be ≥ 1 second")
  else
    match c.fontSize with
    | some size =>
      if size = 0 ∨ maxFontSize < size then
        .error (.invalidConfig s!"Font size must be 1–400, got {size.toNat}")
      else .ok c
    | none => .ok c

def build (settings : List Setting) : Except ConversionError Config :=
  (settings.foldl set default).checked

/-! ## Reading -/

def timeout (c : Config) : UInt64 := if c.timeoutSecs = 0 then 1 else c.timeoutSecs

def timeoutMs (c : Config) : Nat := c.timeout.toNat * 1000

/-- The font size, at most the largest; 0 means none. -/
def effectiveFontSize (c : Config) : Option UInt32 :=
  match c.fontSize with
  | some size => if size = 0 then none else some (min size maxFontSize)
  | none => none

/-- The sandbox of the request: the given one, else the shared one if the patches are the usual,
else a fresh one. -/
def resolveSandbox (c : Config) (shared : Sandbox) (fresh : Store) : Sandbox :=
  match c.sandbox with
  | some s => s
  | none => if c.patches = .all then shared else ⟨fresh, c.patches⟩

def sharesSandbox (c : Config) : Bool := c.sandbox.isNone && c.patches == .all

/-! ## Reports -/

def patchesText (p : Page.PatchSet) : String :=
  s!"PatchSet \x7b zero_width_cell: {p.zeroWidthCell}, encoding_fallback: {p.encodingFallback} \x7d"

def sandboxText (s : Sandbox) : String :=
  s!"Sandbox \x7b fs: {s.store.medium.summary}, patches: {patchesText s.patches} \x7d"

def summary (c : Config) : String :=
  let fields : List (String × String) :=
    [("font_size", optionText (c.fontSize.map fun n => toString n.toNat)),
      ("output_name", optionText (c.outputName.map quoted)),
      ("timeout_secs", toString c.timeoutSecs.toNat),
      ("auto_fix", toString c.autoFix),
      ("auto_invoke", toString c.autoInvoke),
      ("patches", patchesText c.patches),
      ("runtime", optionText (c.runtime.map quoted)),
      ("sandbox", optionText (c.sandbox.map sandboxText)),
      ("python", optionText (c.python.map quoted)),
      ("progress_callback",
        optionText (c.listener.map fun _ => quoted "<dyn ConversionProgressCallback>"))]
  "ConversionConfig \x7b " ++
    String.intercalate ", " (fields.map fun (name, value) => s!"{name}: {value}") ++ " \x7d"

end Config

end ScriptPress
