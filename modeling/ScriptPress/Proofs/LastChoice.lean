import ScriptPress.Conversion.Config
import Mathlib.Data.List.Induction

/-!
# The last choice of each field

A series of choices is made one after the other, and a choice may be made again. What counts is
the last choice of each field: the configuration is a function of these alone, so choices of
different fields may change places. The ranges are checked on the last choices too, and in a
configuration that is in range the readers have nothing left to bring into range.

## Main definitions

* `Setting.field`, `Setting.value` — what a choice is about, and what was chosen.
* `Setting.last?` — the last value that was chosen for a field.
* `Setting.Rearranged` — the choices of each field in the same order.
* `Config.Chosen` — every field holds its last choice.

## Main statements

* `Config.Chosen.set`, `Config.chosen_foldl` — one more choice, and a series of them.
* `Config.Chosen.unique` — the last choices determine the configuration.
* `Config.build_eq_ok_iff` — the configurations that can be built.
* `Config.build_last_choices` — when a series makes a configuration, what is in it, and which
  series make the same.
-/

namespace ScriptPress

open Text

namespace Setting

/-- What a choice can be about. -/
inductive Field where
  | fontSize | outputName | timeoutSecs | autoFix | autoInvoke
  | patches | runtime | sandbox | python | listener
  deriving DecidableEq

@[reducible] def Field.Value : Field → Type
  | .fontSize => UInt32
  | .outputName | .runtime | .python => String
  | .timeoutSecs => UInt64
  | .autoFix | .autoInvoke => Bool
  | .patches => Page.PatchSet
  | .sandbox => Sandbox
  | .listener => Listener

def field : Setting → Field
  | .fontSize _ => .fontSize
  | .outputName _ => .outputName
  | .timeoutSecs _ => .timeoutSecs
  | .autoFix _ => .autoFix
  | .autoInvoke _ => .autoInvoke
  | .patches _ => .patches
  | .runtime _ => .runtime
  | .sandbox _ => .sandbox
  | .python _ => .python
  | .listener _ => .listener

def value : (s : Setting) → s.field.Value
  | .fontSize size => size
  | .outputName text | .runtime text | .python text => text
  | .timeoutSecs secs => secs
  | .autoFix on | .autoInvoke on => on
  | .patches set => set
  | .sandbox given => given
  | .listener given => given

/-- What was chosen for a field, if the choice is about it. -/
def value? (f : Field) (s : Setting) : Option f.Value :=
  if own : s.field = f then some (own ▸ s.value) else none

def last? (f : Field) (settings : List Setting) : Option f.Value :=
  (settings.filterMap (value? f)).getLast?

/-- The choices of each field are the same in the same order; those of different fields may have
changed places. -/
def Rearranged (settings settings' : List Setting) : Prop :=
  ∀ f, settings'.filter (·.field = f) = settings.filter (·.field = f)

variable {f : Field} {s : Setting} {settings settings' : List Setting}

theorem value?_self (s : Setting) : s.value? s.field = some s.value := dif_pos rfl

theorem value?_of_ne (other : s.field ≠ f) : s.value? f = none := dif_neg other

theorem last?_append (settings settings' : List Setting) :
    last? f (settings ++ settings') = (last? f settings').or (last? f settings) := by
  simp [last?, List.getLast?_append]

theorem last?_singleton (s : Setting) : last? f [s] = s.value? f := by
  cases h : s.value? f <;> simp [last?, h]

/-- The last choice of a field is the last of the choices of that field. -/
theorem last?_filter (f : Field) (settings : List Setting) :
    last? f (settings.filter (·.field = f)) = last? f settings := by
  induction settings using List.reverseRecOn with
  | nil => rfl
  | append_singleton settings s ih =>
    rw [List.filter_append, last?_append, last?_append, ih]
    by_cases own : s.field = f
    · simp [own]
    · rw [List.filter_cons_of_neg (by simpa using own), last?_singleton, value?_of_ne own]
      rfl

theorem Rearranged.last? (same : Rearranged settings settings') (f : Field) :
    last? f settings' = last? f settings := by
  rw [← last?_filter f settings', same f, last?_filter f settings]

end Setting

namespace Config

open Setting

variable {settings settings' : List Setting} {c c' : Config}

/-- Every field of a configuration holds the last choice that a series makes for it. -/
structure Chosen (settings : List Setting) (c : Config) : Prop where
  /-- Size 0 means none. -/
  fontSize : c.fontSize = (last? .fontSize settings).filter (· ≠ 0)
  /-- A blank name means none. -/
  outputName : c.outputName = (last? .outputName settings).filter (!isBlankText ·.toList)
  timeoutSecs : c.timeoutSecs = (last? .timeoutSecs settings).getD 30
  autoFix : c.autoFix = (last? .autoFix settings).getD true
  autoInvoke : c.autoInvoke = (last? .autoInvoke settings).getD true
  patches : c.patches = (last? .patches settings).getD .all
  runtime : c.runtime = last? .runtime settings
  sandbox : c.sandbox = last? .sandbox settings
  python : c.python = last? .python settings
  listener : c.listener = last? .listener settings

theorem chosen_default : Chosen [] default := by
  constructor <;> rfl

/-- One more choice: its own field holds it, and every other field what it held. -/
theorem Chosen.set (h : Chosen settings c) (s : Setting) : Chosen (settings ++ [s]) (c.set s) := by
  have ⟨size, name, secs, fix, invoke, patches, runtime, sandbox, python, listener⟩ := h
  have last (f : Field) : last? f (settings ++ [s]) = (s.value? f).or (last? f settings) := by
    rw [last?_append, last?_singleton]
  cases s with
  | fontSize n =>
    constructor
    case fontSize =>
      rw [last, show value? .fontSize _ = some n from value?_self (.fontSize n)]
      by_cases zero : n = 0 <;> simp [Config.set, Option.filter, zero]
    all_goals rw [last]; assumption
  | outputName text =>
    constructor
    case outputName =>
      rw [last, show value? .outputName _ = some text from value?_self (.outputName text)]
      cases blank : isBlankText text.toList <;> simp [Config.set, Option.filter, blank]
    all_goals rw [last]; assumption
  | _ =>
    -- Its own field by what was chosen, the others by what they held.
    constructor <;> rw [last] <;> first | rfl | assumption

theorem chosen_foldl (settings : List Setting) :
    Chosen settings (settings.foldl Config.set default) := by
  induction settings using List.reverseRecOn with
  | nil => exact chosen_default
  | append_singleton settings s ih =>
    rw [List.foldl_append]
    exact ih.set s

/-- The last choices determine the configuration. -/
theorem Chosen.unique (h : Chosen settings c) (h' : Chosen settings c') : c = c' := by
  cases c
  cases c'
  simp only [mk.injEq]
  exact ⟨h.fontSize.trans h'.fontSize.symm, h.outputName.trans h'.outputName.symm,
    h.timeoutSecs.trans h'.timeoutSecs.symm, h.autoFix.trans h'.autoFix.symm,
    h.autoInvoke.trans h'.autoInvoke.symm, h.patches.trans h'.patches.symm,
    h.runtime.trans h'.runtime.symm, h.sandbox.trans h'.sandbox.symm,
    h.python.trans h'.python.symm, h.listener.trans h'.listener.symm⟩

theorem Chosen.of_rearranged (h : Chosen settings c) (same : Rearranged settings settings') :
    Chosen settings' c := by
  constructor <;> rw [same.last?]
  exacts [h.fontSize, h.outputName, h.timeoutSecs, h.autoFix, h.autoInvoke, h.patches, h.runtime,
    h.sandbox, h.python, h.listener]

/-! ## Choices in range -/

theorem checked_eq_ok_iff :
    c.checked = .ok c' ↔
      c = c' ∧ c.timeoutSecs ≠ 0 ∧ ∀ size ∈ c.fontSize, size ≠ 0 ∧ size ≤ maxFontSize := by
  unfold checked
  cases c.fontSize with
  | none => by_cases zero : c.timeoutSecs = 0 <;> simp [zero]
  | some size => grind [UInt32.not_lt]

/-- A font size in range is read as it stands. -/
theorem effectiveFontSize_eq (inRange : ∀ size ∈ c.fontSize, size ≠ 0 ∧ size ≤ maxFontSize) :
    c.effectiveFontSize = c.fontSize := by
  unfold effectiveFontSize
  cases chosen : c.fontSize with
  | none => rfl
  | some size =>
    obtain ⟨nonzero, fits⟩ := inRange size chosen
    simp [nonzero, show min size maxFontSize = size from if_pos fits]

/-- A time limit in range is read as it stands. -/
theorem timeout_eq (inRange : c.timeoutSecs ≠ 0) : c.timeout = c.timeoutSecs := if_neg inRange

theorem Chosen.fontSize_ne_zero (h : Chosen settings c) : ∀ size ∈ c.fontSize, size ≠ 0 := by
  intro size chosen
  rw [h.fontSize, Option.mem_def, Option.filter_eq_some_iff] at chosen
  exact of_decide_eq_true chosen.2

/-- A size that means none is in range, so it is enough that the last choice is not too large. -/
theorem Chosen.fontSize_le_iff (h : Chosen settings c) :
    (∀ size ∈ c.fontSize, size ≤ maxFontSize) ↔
      ∀ size ∈ last? .fontSize settings, size ≤ maxFontSize := by
  rw [h.fontSize]
  cases last? .fontSize settings with
  | none => simp
  | some size => by_cases zero : size = 0 <;> simp [Option.filter, zero]

/-- The configurations that a series of choices makes: at most one, and it is in range. -/
theorem build_eq_ok_iff :
    build settings = .ok c ↔
      Chosen settings c ∧ c.timeoutSecs ≠ 0 ∧ ∀ size ∈ c.fontSize, size ≤ maxFontSize := by
  have made := chosen_foldl settings
  rw [build, checked_eq_ok_iff]
  constructor
  · rintro ⟨rfl, timely, fits⟩
    exact ⟨made, timely, fun size chosen => (fits size chosen).2⟩
  · rintro ⟨h, timely, fits⟩
    obtain rfl := h.unique made
    exact ⟨rfl, timely, fun size chosen => ⟨h.fontSize_ne_zero size chosen, fits size chosen⟩⟩

theorem build_eq_of_rearranged (same : Rearranged settings settings') :
    build settings' = build settings := by
  rw [build, build, (chosen_foldl settings').unique ((chosen_foldl settings).of_rearranged same)]

/-- A series of choices makes a configuration exactly when the last time limit is not zero and the
last font size is not too large. Every field then holds its last choice and is read as it stands,
and choices of different fields may change places. -/
theorem build_last_choices (settings : List Setting) :
    ((∃ c, build settings = .ok c) ↔
      (last? .timeoutSecs settings).getD 30 ≠ 0 ∧
        ∀ size ∈ last? .fontSize settings, size ≤ 400) ∧
    (∀ c, build settings = .ok c →
      Chosen settings c ∧ c.effectiveFontSize = c.fontSize ∧ c.timeout = c.timeoutSecs) ∧
    ∀ settings', Rearranged settings settings' → build settings' = build settings := by
  have made := chosen_foldl settings
  refine ⟨⟨?_, ?_⟩, ?_, fun _ => build_eq_of_rearranged⟩
  · rintro ⟨c, built⟩
    obtain ⟨h, timely, fits⟩ := build_eq_ok_iff.mp built
    exact ⟨h.timeoutSecs ▸ timely, h.fontSize_le_iff.mp fits⟩
  · rintro ⟨timely, fits⟩
    exact ⟨_, build_eq_ok_iff.mpr ⟨made, made.timeoutSecs ▸ timely, made.fontSize_le_iff.mpr fits⟩⟩
  · intro c built
    obtain ⟨h, timely, fits⟩ := build_eq_ok_iff.mp built
    have inRange size chosen := And.intro (h.fontSize_ne_zero size chosen) (fits size chosen)
    exact ⟨h, effectiveFontSize_eq inRange, timeout_eq timely⟩

/-- A time limit of zero and a size that is too large do no harm if they are not the last ones, and
of two listeners the second one is told. -/
theorem build_later_choices :
    (∃ c, build [.timeoutSecs 0, .fontSize 401, .listener ⟨1⟩, .outputName "a", .fontSize 0,
        .listener ⟨2⟩, .timeoutSecs 5, .outputName " "] = .ok c ∧
      c.fontSize = none ∧ c.outputName = none ∧ c.timeout = 5 ∧ c.listener = some ⟨2⟩) ∧
    build [.outputName "a", .outputName " ", .timeoutSecs 0, .timeoutSecs 5, .listener ⟨1⟩,
        .listener ⟨2⟩, .fontSize 401, .fontSize 0] =
      build [.timeoutSecs 0, .fontSize 401, .listener ⟨1⟩, .outputName "a", .fontSize 0,
        .listener ⟨2⟩, .timeoutSecs 5, .outputName " "] := by
  obtain ⟨succeeds, holds, moves⟩ := build_last_choices
    [.timeoutSecs 0, .fontSize 401, .listener ⟨1⟩, .outputName "a", .fontSize 0, .listener ⟨2⟩,
      .timeoutSecs 5, .outputName " "]
  obtain ⟨c, built⟩ := succeeds.mpr ⟨by decide, fun size last => by
    obtain rfl : 0 = size := Option.some.inj last
    decide⟩
  obtain ⟨h, -, timely⟩ := holds c built
  exact ⟨⟨c, built, h.fontSize, h.outputName, timely.trans h.timeoutSecs, h.listener⟩,
    moves _ (by intro f; cases f <;> rfl)⟩

end Config

end ScriptPress
