import Mathlib.Data.List.Induction
import ScriptPress.Proofs.Journal

/-!
# Defined functions

What a script has defined once it has run can be told from the journal alone. The functions stand
in the order of their first definitions, each once, and without the names that every fresh namespace
holds.

## Main definitions

* `definitions` — the names that a script has defined, as often as it did.
* `firstDefinitions` — each of them once, where it came first.

## Main statements

* `Namespace.functions_replace` — a namespace of names.
* `Context.functions_after` — the functions in a fresh context after a script has run.
* `Context.unrecorded_of_after` — what the context tells of functions that were called already.
-/

namespace ScriptPress

/-! ## Each name once -/

/-- The names that are a script's own, each once, where it comes first. -/
def ownNames (names : List String) : List String :=
  (names.filter fun name => !Namespace.isInjected name).eraseDups

theorem mem_ownNames {names : List String} {name : String} :
    name ∈ ownNames names ↔ name ∈ names ∧ Namespace.isInjected name = false := by
  simp [ownNames, List.mem_eraseDups]

/-- A name more is a name more at the end, unless it is there or not the script's own. -/
theorem ownNames_concat (names : List String) (name : String) :
    ownNames (names ++ [name]) =
      if Namespace.isInjected name = false ∧ name ∉ ownNames names then ownNames names ++ [name]
      else ownNames names := by
  cases own : Namespace.isInjected name with
  | true => simp [ownNames, own]
  | false =>
    have filtered : (names ++ [name]).filter (fun n => !Namespace.isInjected n) =
        names.filter (fun n => !Namespace.isInjected n) ++ [name] := by
      simp [own]
    rw [ownNames, filtered, List.eraseDups_append, ← ownNames]
    by_cases mem : name ∈ names
    · have there : name ∈ ownNames names := mem_ownNames.2 ⟨mem, own⟩
      simp [there, List.removeAll, mem, own]
    · have absent : name ∉ ownNames names := fun there => mem (mem_ownNames.1 there).1
      simp [absent, List.removeAll, mem, List.eraseDups_cons]

/-- The functions of a namespace that is made of names. -/
theorem Namespace.functions_replace (names : List String) :
    (replace names).functions = ownNames names := by
  induction names using List.reverseRecOn with
  | nil => rfl
  | append_singleton names name ih =>
    have added : replace (names ++ [name]) = (replace names).define name := List.foldl_append
    rw [added, functions_define, ownNames_concat, ih]

/-! ## Scripts -/

/-- The names that have been defined after an entry: one more, or others in their place. -/
def Entry.define : Entry → List String → List String
  | defined name, names => names ++ [name]
  | replaced names', _ => names'
  | _, names => names

def definitions (es : List Entry) : List String := es.foldl (fun names e => e.define names) []

/-- The functions that a script has defined, each once, where it came first. -/
def firstDefinitions (es : List Entry) : List String := ownNames (definitions es)

theorem definitions_concat (es : List Entry) (e : Entry) :
    definitions (es ++ [e]) = e.define (definitions es) :=
  List.foldl_append

/-- Every function stands there once. -/
theorem nodup_firstDefinitions (es : List Entry) : (firstDefinitions es).Nodup := by
  rw [firstDefinitions, ← Namespace.functions_replace]
  exact (Namespace.replace (definitions es)).distinct

namespace Context

/-- The functions in a context that was fresh when the entries began. -/
theorem functions_after {c : Context} (fresh : c.functions = .empty) (es : List Entry) :
    (c.after es).functions.functions = firstDefinitions es := by
  induction es using List.reverseRecOn with
  | nil =>
    rw [after_nil, fresh]
    rfl
  | append_singleton es e ih =>
    rw [after_append, firstDefinitions, definitions_concat]
    cases e with
    | defined name =>
      rw [Entry.define, ownNames_concat, ← firstDefinitions, ← ih]
      exact Namespace.functions_define _ name
    | replaced names => exact Namespace.functions_replace names
    | _ => exact ih

/-- What is known of functions that were called already was known before, or the interpreter has
told it. -/
theorem autoInvoked_after_or (c : Context) (es : List Entry) :
    (c.after es).autoInvoked = c.autoInvoked ∨ ∃ producer, .recorded producer ∈ es ∧
      (c.after es).autoInvoked = (c.record producer).autoInvoked := by
  induction es using List.reverseRecOn with
  | nil => exact .inl rfl
  | append_singleton es e ih =>
    rw [after_append]
    cases e with
    | recorded producer => exact .inr ⟨producer, List.mem_concat_self, rfl⟩
    | _ =>
      refine ih.imp_right fun ⟨producer, mem, same⟩ => ?_
      exact ⟨producer, List.mem_append_left _ mem, same⟩

/-- Unless the interpreter tells so, no functions were called already. -/
theorem autoInvoked_after {c : Context} {es : List Entry} (fresh : c.autoInvoked = none)
    (unrecorded : ∀ producer, .recorded producer ∉ es) : (c.after es).autoInvoked = none := by
  rcases c.autoInvoked_after_or es with same | ⟨producer, mem, -⟩
  · exact same.trans fresh
  · exact absurd mem (unrecorded producer)

/-- If no functions were called already, then the interpreter has not told so. -/
theorem unrecorded_of_after {c : Context} {es : List Entry}
    (h : (c.after es).autoInvoked = none) : ∀ producer, .recorded producer ∉ es := by
  induction es using List.reverseRecOn with
  | nil => exact fun _ => List.not_mem_nil
  | append_singleton es e ih =>
    rw [after_append] at h
    intro producer mem
    rcases List.mem_append.1 mem with earlier | last
    · cases e with
      | recorded => cases h
      | _ => exact ih h producer earlier
    · obtain rfl := List.mem_singleton.1 last
      cases h

end Context

end ScriptPress
