import Mathlib.Order.Basic
import ScriptPress.Proofs.AutoInvocation
import ScriptPress.Proofs.Dialogue
import ScriptPress.Proofs.FatalError

/-!
# Tours of functions

Functions are called one after the other, each without an argument, and once more with the name of a
document if that raises. No call comes behind one that was out of time, behind a failed listing, or
behind one that returned and left documents; and the calls together are over at the deadline.

## Main definitions

* `Uninvoked` — entries tell of no call of a function.
* `Heeded` — no function is called once a listing has failed.
* `Turn`, `Tour` — the calls of one function, and of functions one after the other.
* `Orderly` — calls end where they have to.

## Main statements

* `Tells.calls_eq` — the calls of functions are the invocations.
* `Tour.nodup` — no function is called twice with the same argument.
* `TriedAll.tour`, `TriedAll.orderly`, `TriedAll.time_le` — the calls of a search.
-/

namespace ScriptPress

open Conversion

variable {σ : Type}

/-! ## Calls that entries tell of -/

def InterpreterCall.isInvoke : InterpreterCall → Bool
  | invoke _ _ => true
  | _ => false

def Entry.callsFunction (e : Entry) : Bool := e.call?.any (·.isInvoke)

def Entry.isFailedListing : Entry → Bool
  | accessed .request .list false => true
  | _ => false

def Invocation.call (x : Invocation) : InterpreterCall := .invoke x.function x.arg

def Invocation.exchange (x : Invocation) : Exchange := .invoke x.function x.arg x.ended

theorem map_exchange_invocations (st : Store) (es : List Entry) :
    (invocations st es).map Invocation.exchange =
      (es.filterMap Entry.exchange?).filter Exchange.isInvoke := by
  fun_induction invocations st es with
  | case1 => rfl
  | case2 st function arg ended es ih =>
    rw [List.map_cons, ih]
    rfl
  | case3 st e es other ih =>
    rw [ih, List.filterMap_cons]
    cases e with
    | answered x =>
      cases x with
      | invoke function arg ended => exact absurd rfl (other function arg ended)
      | _ => rfl
    | _ => rfl

/-- Each call of a function is among the invocations, from first to last. -/
theorem Tells.calls_eq {es : List Entry} {xs : List Exchange} (h : Tells es xs) (st : Store) :
    (es.filterMap Entry.call?).filter (·.isInvoke) = (invocations st es).map Invocation.call := by
  have kind (x : Exchange) : x.call.isInvoke = x.isInvoke := by cases x <;> rfl
  calc (es.filterMap Entry.call?).filter (·.isInvoke)
      = (xs.map Exchange.call).filter (·.isInvoke) := by rw [h.called]
    _ = (xs.filter Exchange.isInvoke).map Exchange.call := by
        rw [List.filter_map]
        exact congrArg (List.map _) (List.filter_congr fun x _ => kind x)
    _ = ((invocations st es).map Invocation.exchange).map Exchange.call := by
        rw [map_exchange_invocations, h.answered]
    _ = (invocations st es).map Invocation.call := List.map_map

/-- Entries tell of no call of a function. -/
def Uninvoked (es : List Entry) : Prop := ∃ xs, Tells es xs ∧ ∀ x ∈ xs, x.isInvoke = false

namespace Uninvoked

variable {es es' : List Entry}

theorem append (h : Uninvoked es) (h' : Uninvoked es') : Uninvoked (es ++ es') := by
  obtain ⟨xs, tells, others⟩ := h
  obtain ⟨xs', tells', others'⟩ := h'
  exact ⟨xs ++ xs', tells.append tells', List.forall_mem_append.2 ⟨others, others'⟩⟩

theorem around (h : Uninvoked es) (stage : Stage) : Uninvoked (stage.around es) := by
  obtain ⟨xs, tells, others⟩ := h
  exact ⟨xs, tells.around stage, others⟩

theorem of_tells_nil (h : Tells es []) : Uninvoked es := ⟨[], h, List.forall_mem_nil _⟩

theorem invocations_eq (h : Uninvoked es) (st : Store) : invocations st es = [] := by
  obtain ⟨xs, tells, others⟩ := h
  have none : (invocations st es).map Invocation.exchange = [] := by
    rw [map_exchange_invocations, tells.answered]
    exact List.filter_eq_nil_iff.2 fun x mem => by simp [others x mem]
  exact List.map_eq_nil_iff.1 none

theorem not_callsFunction (h : Uninvoked es) : ∀ e ∈ es, e.callsFunction = false := by
  obtain ⟨xs, tells, others⟩ := h
  intro e mem
  unfold Entry.callsFunction
  cases called : e.call? with
  | none => rfl
  | some call =>
    have mem : call ∈ es.filterMap Entry.call? := List.mem_filterMap.2 ⟨e, mem, called⟩
    rw [tells.called] at mem
    obtain ⟨x, asked, rfl⟩ := List.mem_map.1 mem
    have other := others x asked
    cases x with
    | invoke => cases other
    | _ => rfl

end Uninvoked

/-! ## Listings -/

/-- No function is called once a listing has failed. -/
def Heeded (es : List Entry) : Prop :=
  es.Pairwise fun e e' => e.isFailedListing = true → e'.callsFunction = false

namespace Heeded

variable {es es' : List Entry}

theorem of_listed (h : ∀ e ∈ es, e.isFailedListing = false) : Heeded es :=
  List.pairwise_of_forall_mem_list fun e mem _ _ failed => by simp [h e mem] at failed

theorem of_silent (h : ∀ e ∈ es, e.callsFunction = false) : Heeded es :=
  List.pairwise_of_forall_mem_list fun _ _ e' mem _ => h e' mem

theorem append_listed (h : Heeded es) (listed : ∀ e ∈ es', e.isFailedListing = false) :
    Heeded (es' ++ es) :=
  List.pairwise_append.2 ⟨of_listed listed, h, fun e mem _ _ failed => by
    simp [listed e mem] at failed⟩

theorem append_silent (h : Heeded es) (silent : ∀ e ∈ es', e.callsFunction = false) :
    Heeded (es ++ es') :=
  List.pairwise_append.2 ⟨h, of_silent silent, fun _ _ e' mem _ => silent e' mem⟩

theorem around (h : Heeded es) (stage : Stage) : Heeded (stage.around es) := by
  have started : ∀ e ∈ [Entry.told (.started stage)], e.isFailedListing = false :=
    List.forall_mem_singleton.2 rfl
  have completed : ∀ e ∈ [Entry.told (.completed stage)], e.callsFunction = false :=
    List.forall_mem_singleton.2 rfl
  exact (h.append_silent completed).append_listed started

end Heeded

theorem Entry.listed_of_byScript {e : Entry} (h : e.byScript) : e.isFailedListing = false := by
  unfold Entry.isFailedListing
  split
  · cases h
  · rfl

theorem Calls.listed {limit : Nat} {x : Exchange} {es : List Entry} (h : Calls limit x es) :
    ∀ e ∈ es, e.isFailedListing = false :=
  h.forall_mem rfl (fun _ => Entry.listed_of_byScript) rfl

theorem Removals.listed {names : List String} {es : List Entry} (h : Removals names es) :
    ∀ e ∈ es, e.isFailedListing = false := by
  induction h with
  | nil => exact List.forall_mem_nil _
  | cons _ _ ih => exact List.forall_mem_cons.2 ⟨rfl, ih⟩

/-! ## Turns and tours -/

/-- A function is called without an argument, and with the name of a document if that raises. -/
inductive Turn (function : String) : List Invocation → Prop
  | once {ended : Ended} {documents : List String} (calm : ∀ e, ended ≠ .raised e) :
      Turn function [⟨function, none, ended, documents⟩]
  | twice {e : RuntimeException} {ended : Ended} {documents documents' : List String} :
      Turn function [⟨function, none, .raised e, documents⟩,
        ⟨function, some printoutName, ended, documents'⟩]

/-- Functions have their turns one after the other, and some are left. -/
inductive Tour : List String → List Invocation → List String → Prop
  | none (left : List String) : Tour left [] left
  | next {function : String} {functions left : List String} {calls calls' : List Invocation}
      (turn : Turn function calls) (rest : Tour functions calls' left) :
      Tour (function :: functions) (calls ++ calls') left

theorem Turn.function_eq {function : String} {calls : List Invocation} (h : Turn function calls) :
    ∀ x ∈ calls, x.function = function := by
  cases h <;> simp

theorem Turn.ne_nil {function : String} {calls : List Invocation} (h : Turn function calls) :
    calls ≠ [] := by
  cases h <;> simp

theorem Turn.nodup {function : String} {calls : List Invocation} (h : Turn function calls) :
    (calls.map fun x => (x.function, x.arg)).Nodup := by
  cases h <;> simp

theorem Tour.function_mem {functions left : List String} {calls : List Invocation}
    (h : Tour functions calls left) : ∀ x ∈ calls, x.function ∈ functions := by
  induction h with
  | none => exact List.forall_mem_nil _
  | next turn _ ih =>
    refine List.forall_mem_append.2 ⟨fun x mem => ?_, fun x mem => ?_⟩
    · exact turn.function_eq x mem ▸ List.mem_cons_self
    · exact List.mem_cons_of_mem _ (ih x mem)

/-- No function is called twice with the same argument. -/
theorem Tour.nodup {functions left : List String} {calls : List Invocation}
    (h : Tour functions calls left) (distinct : functions.Nodup) :
    (calls.map fun x => (x.function, x.arg)).Nodup := by
  induction h with
  | none => exact List.nodup_nil
  | @next function functions left calls calls' turn rest ih =>
    obtain ⟨fresh, distinct⟩ := List.nodup_cons.1 distinct
    rw [List.map_append]
    refine List.nodup_append.2 ⟨turn.nodup, ih distinct, ?_⟩
    intro a ha b hb same
    obtain ⟨x, hx, rfl⟩ := List.mem_map.1 ha
    obtain ⟨y, hy, rfl⟩ := List.mem_map.1 hb
    have own : x.function = function := turn.function_eq x hx
    have other : y.function ∈ functions := rest.function_mem y hy
    have same : x.function = y.function := congrArg Prod.fst same
    rw [← same, own] at other
    exact fresh other

theorem Calls.invocations_listed {limit : Nat} {function : String} {arg : Option String}
    {ended : Ended} {es : List Entry} (h : Calls limit (.invoke function arg ended) es)
    (st : Store) (ok : Bool) :
    invocations st (es ++ [.accessed .request .list ok]) =
      [⟨function, arg, ended, (st.after es).documents⟩] := by
  rw [invocations_append, h.invocations_eq]
  rfl

/-- The first of the calls of a function raises, and the others follow, or it is the only one. -/
theorem Tried.first_call {deadline : Nat} {function : String} {arg : Option String}
    {args : List (Option String)} {s s' : Session σ} {result : Attempt × Context}
    {es : List Entry} (h : Tried deadline function (arg :: args) s result es s') :
    (∃ ended documents, (∀ e, ended ≠ .raised e) ∧
      invocations s.sandbox.store es = [⟨function, arg, ended, documents⟩]) ∨
    ∃ e documents es₁ s₁, Tried deadline function args s₁ result es₁ s' ∧
      invocations s.sandbox.store es =
        ⟨function, arg, .raised e, documents⟩ :: invocations s₁.sandbox.store es₁ := by
  cases h with
  | timedOut calls => exact .inl ⟨.timedOut, _, fun _ => nofun, calls.invocations_eq _⟩
  | raised e calls leads rest =>
    rename_i s₁ es es'
    refine .inr ⟨e, s₁.sandbox.store.documents, es', s₁, rest, ?_⟩
    rw [invocations_append, calls.invocations_eq, leads.store.after_eq]
    rfl
  | unlisted calls =>
    exact .inl ⟨.returned, _, fun _ => nofun, calls.invocations_listed _ _⟩
  | barren calls =>
    exact .inl ⟨.returned, _, fun _ => nofun, calls.invocations_listed _ _⟩
  | produced calls =>
    exact .inl ⟨.returned, _, fun _ => nofun, calls.invocations_listed _ _⟩

theorem Tried.turn {deadline : Nat} {function : String} {s s' : Session σ}
    {result : Attempt × Context} {es : List Entry}
    (h : Tried deadline function [none, some printoutName] s result es s') :
    Turn function (invocations s.sandbox.store es) := by
  rcases h.first_call with ⟨ended, documents, calm, calls⟩ | ⟨e, documents, es₁, s₁, again, calls⟩
  · rw [calls]
    exact .once calm
  · rw [calls]
    rcases again.first_call with ⟨ended, documents', -, calls⟩ | ⟨e', documents', _, _, rest, calls⟩
    · rw [calls]
      exact .twice
    · -- No argument is left for a third call.
      cases rest
      rw [calls]
      exact .twice

/-- Functions have their turns in the given order, and none is left unless the search is over. -/
theorem TriedAll.tour {deadline : Nat} {functions : List String} {s s' : Session σ}
    {result : Attempt × Context} {es : List Entry}
    (h : TriedAll deadline functions s result es s') :
    ∃ left, Tour functions (invocations s.sandbox.store es) left ∧
      (left = [] ∨ result.1 ≠ .nothing) := by
  induction h with
  | exhausted => exact ⟨[], .none [], .inl rfl⟩
  | next tried leads _ ih =>
    obtain ⟨left, rest, ended⟩ := ih
    refine ⟨left, ?_, ended⟩
    rw [invocations_append, leads.store.after_eq]
    exact .next tried.turn rest
  | @decided function functions _ _ _ _ tried decided =>
    refine ⟨functions, ?_, .inr decided⟩
    have turn := Tour.next tried.turn (.none functions)
    rwa [List.append_nil] at turn

/-- Where there are functions, the first of them is called. -/
theorem TriedAll.ne_nil {deadline : Nat} {functions : List String} {s s' : Session σ}
    {result : Attempt × Context} {es : List Entry}
    (h : TriedAll deadline functions s result es s') (some : functions ≠ []) :
    invocations s.sandbox.store es ≠ [] := by
  cases h with
  | exhausted => exact absurd rfl some
  | next tried =>
    rw [invocations_append]
    exact List.append_ne_nil_of_left_ne_nil tried.turn.ne_nil _
  | decided tried => exact tried.turn.ne_nil

/-! ## Where calls end -/

/-- Calls go on exactly as long as each raises, or returns and leaves nothing that is listed. -/
structure Orderly (attempt : Attempt) (calls : List Invocation) (es : List Entry) : Prop where
  passed : calls.Pairwise fun x _ => x.Passed
  heeded : Heeded es
  goesOn : attempt = .nothing →
    (∀ x ∈ calls, x.Passed) ∧ ∀ e ∈ es, e.isFailedListing = false
  halts : attempt ≠ .nothing → (∃ x ∈ calls, ¬x.Passed) ∨ ∃ e ∈ es, e.isFailedListing = true

theorem Orderly.append {attempt : Attempt} {calls calls' : List Invocation} {es es' : List Entry}
    (h : Orderly .nothing calls es) (h' : Orderly attempt calls' es') :
    Orderly attempt (calls ++ calls') (es ++ es') := by
  obtain ⟨passed, listed⟩ := h.goesOn rfl
  refine ⟨?_, h'.heeded.append_listed listed, fun nothing => ?_, fun other => ?_⟩
  · exact List.pairwise_append.2 ⟨h.passed, h'.passed, fun x mem _ _ => passed x mem⟩
  · obtain ⟨passed', listed'⟩ := h'.goesOn nothing
    exact ⟨List.forall_mem_append.2 ⟨passed, passed'⟩, List.forall_mem_append.2 ⟨listed, listed'⟩⟩
  · rcases h'.halts other with ⟨x, mem, stops⟩ | ⟨e, mem, failed⟩
    · exact .inl ⟨x, List.mem_append_right _ mem, stops⟩
    · exact .inr ⟨e, List.mem_append_right _ mem, failed⟩

/-- A call behind which there may be others. -/
theorem orderly_passed {x : Invocation} {es : List Entry} (passed : x.Passed)
    (listed : ∀ e ∈ es, e.isFailedListing = false) : Orderly .nothing [x] es where
  passed := List.pairwise_singleton _ _
  heeded := .of_listed listed
  goesOn _ := ⟨List.forall_mem_singleton.2 passed, listed⟩
  halts other := absurd rfl other

/-- A call behind which there is no other. -/
theorem orderly_last {attempt : Attempt} {x : Invocation} {es : List Entry}
    (decided : attempt ≠ .nothing) (heeded : Heeded es)
    (halts : ¬x.Passed ∨ ∃ e ∈ es, e.isFailedListing = true) : Orderly attempt [x] es where
  passed := List.pairwise_singleton _ _
  heeded := heeded
  goesOn nothing := absurd nothing decided
  halts _ := halts.imp_left fun stops => ⟨x, List.mem_singleton_self x, stops⟩

theorem Tried.orderly {deadline : Nat} {function : String} {args : List (Option String)}
    {s s' : Session σ} {result : Attempt × Context} {es : List Entry}
    (h : Tried deadline function args s result es s') :
    Orderly result.1 (invocations s.sandbox.store es) es := by
  have listing {es : List Entry} (listed : ∀ e ∈ es, e.isFailedListing = false) :
      ∀ e ∈ es ++ [.accessed .request .list true], e.isFailedListing = false :=
    List.forall_mem_append.2 ⟨listed, List.forall_mem_singleton.2 rfl⟩
  induction h with
  | exhausted => exact ⟨.nil, .nil, fun _ => by simp [invocations], fun other => absurd rfl other⟩
  | timedOut calls =>
    rw [calls.invocations_eq]
    refine orderly_last (by simp) (.of_listed calls.listed) (.inl ?_)
    simp [Invocation.Passed]
  | raised e calls leads _ ih =>
    rw [invocations_append, calls.invocations_eq, leads.store.after_eq]
    exact (orderly_passed (.inl ⟨e, rfl⟩) calls.listed).append ih
  | unlisted calls =>
    rw [calls.invocations_listed]
    have silent : ∀ e ∈ [Entry.accessed .request .list false], e.callsFunction = false :=
      List.forall_mem_singleton.2 rfl
    exact orderly_last (by simp) ((Heeded.of_listed calls.listed).append_silent silent)
      (.inr ⟨_, List.mem_append_right _ (List.mem_singleton_self _), rfl⟩)
  | barren calls leads found =>
    rw [calls.invocations_listed, leads.store.after_eq]
    exact orderly_passed (.inr ⟨rfl, found⟩) (listing calls.listed)
  | produced calls leads found =>
    rw [calls.invocations_listed, leads.store.after_eq]
    refine orderly_last (by simp) (.of_listed (listing calls.listed)) (.inl ?_)
    simp [Invocation.Passed, found]

theorem TriedAll.orderly {deadline : Nat} {functions : List String} {s s' : Session σ}
    {result : Attempt × Context} {es : List Entry}
    (h : TriedAll deadline functions s result es s') :
    Orderly result.1 (invocations s.sandbox.store es) es := by
  induction h with
  | exhausted => exact ⟨.nil, .nil, fun _ => by simp [invocations], fun other => absurd rfl other⟩
  | next tried leads _ ih =>
    rw [invocations_append, leads.store.after_eq]
    exact tried.orderly.append ih
  | decided tried => exact tried.orderly

/-! ## Time -/

theorem Tried.time_le {deadline : Nat} {function : String} {args : List (Option String)}
    {s s' : Session σ} {result : Attempt × Context} {es : List Entry}
    (h : Tried deadline function args s result es s') : time es ≤ deadline - s.clock := by
  have listing (es : List Entry) (ok : Bool) :
      time (es ++ [.accessed .request .list ok]) = time es := by
    simp [Entry.duration]
  induction h with
  | exhausted => exact Nat.zero_le _
  | timedOut calls => exact calls.time_le
  | raised _ calls leads _ ih =>
    have first := calls.time_le
    rw [leads.clock] at ih
    rw [time_append]
    omega
  | unlisted calls => exact (listing _ _).trans_le calls.time_le
  | barren calls => exact (listing _ _).trans_le calls.time_le
  | produced calls => exact (listing _ _).trans_le calls.time_le

/-- All calls together are over at the deadline. -/
theorem TriedAll.time_le {deadline : Nat} {functions : List String} {s s' : Session σ}
    {result : Attempt × Context} {es : List Entry}
    (h : TriedAll deadline functions s result es s') : time es ≤ deadline - s.clock := by
  induction h with
  | exhausted => exact Nat.zero_le _
  | next tried leads _ ih =>
    have first := tried.time_le
    rw [leads.clock] at ih
    rw [time_append]
    omega
  | decided tried => exact tried.time_le

end ScriptPress
