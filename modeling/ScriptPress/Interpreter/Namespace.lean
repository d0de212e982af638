/-!
# Namespaces

The functions that a script has defined, in the order in which they were found. Names that every
fresh namespace holds are not among them.

## Main definitions

* `Namespace` — the names, each once.
* `Namespace.define`, `Namespace.replace` — one name more, or all of them anew.
-/

namespace ScriptPress

/-- The functions that a script has defined, in the order of discovery. -/
structure Namespace where
  functions : List String
  distinct : functions.Nodup
  own : ∀ name ∈ functions, name ≠ "__name__" ∧ name ≠ "__builtins__"

namespace Namespace

def isInjected (name : String) : Bool := name == "__name__" || name == "__builtins__"

theorem isInjected_eq_false_iff {name : String} :
    isInjected name = false ↔ name ≠ "__name__" ∧ name ≠ "__builtins__" := by
  simp [isInjected]

def empty : Namespace where
  functions := []
  distinct := List.nodup_nil
  own := by simp

/-- The namespace with one more function; a name that is there or stands in every fresh namespace
changes nothing. -/
def define (n : Namespace) (name : String) : Namespace :=
  if h : isInjected name = false ∧ name ∉ n.functions then
    { functions := n.functions ++ [name]
      distinct := by
        refine List.nodup_append.2 ⟨n.distinct, by simp, fun a ha b hb => ?_⟩
        obtain rfl := List.mem_singleton.1 hb
        exact fun e => h.2 (e ▸ ha)
      own := by
        intro a ha
        rcases List.mem_append.1 ha with ha | ha
        · exact n.own a ha
        · exact List.mem_singleton.1 ha ▸ isInjected_eq_false_iff.1 h.1 }
  else n

def replace (names : List String) : Namespace := names.foldl define empty

def isEmpty (n : Namespace) : Bool := n.functions.isEmpty

theorem functions_define (n : Namespace) (name : String) :
    (n.define name).functions =
      if isInjected name = false ∧ name ∉ n.functions then n.functions ++ [name]
      else n.functions := by
  unfold define
  split <;> simp_all

@[simp] theorem functions_empty : empty.functions = [] := rfl

end Namespace

end ScriptPress
