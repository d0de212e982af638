import Mathlib.Algebra.Group.Nat.Defs
import ScriptPress.Proofs.CallOrder
import ScriptPress.Proofs.LastChoice
import ScriptPress.Proofs.Narration

/-!
# The deadline of calls

The time limit of a configuration that was built is at least one second, and there is no largest
one. For the run of a script that does no harm: where the clock cannot tell the deadline, the run
gets another one. The calls of functions have no such way out. A request whose functions are to be
called breaks off exactly if the limit, counted from the moment at which the search for something to
deliver begins, ends later than the clock can tell.

## Main definitions

* `timeToSearch` — the time until something to deliver is searched for.

## Main statements

* `deadline?_eq_none_iff` — the deadlines that the clock cannot tell, in seconds.
* `Sought.clock`, `Sought.beyondClock_iff` — when the search begins, and when it breaks off.
* `call_deadline_missing_iff` — the requests that break off.
* `huge_timeout_breaks_off` — one of them.
-/

namespace ScriptPress

open Conversion Text

variable {σ : Type} {config : Config} {source : String}

/-! ## Deadlines -/

theorem clockEnd_eq : clockEnd = 2 ^ 63 * 1000 := rfl

theorem deadline?_of_lt {clock secs : Nat} (fits : clock / 1000 + secs < 2 ^ 63) :
    deadline? clock (secs * 1000) = some (clock + secs * 1000) :=
  if_pos (by rw [clockEnd_eq]; omega)

theorem deadline?_eq_none_iff {clock secs : Nat} :
    deadline? clock (secs * 1000) = none ↔ 2 ^ 63 ≤ clock / 1000 + secs := by
  refine ⟨fun late => not_lt.1 fun fits => ?_, fun late => if_neg ?_⟩
  · simp [deadline?_of_lt fits] at late
  · rw [clockEnd_eq]
    omega

/-! ## The moment at which the search begins -/

/-- Whether an entry tells that something to deliver is searched for from then on. -/
def Entry.beginsSearch : Entry → Bool
  | told (.started .resolve) => true
  | _ => false

def timeToSearch (es : List Entry) : Nat := time (es.takeWhile (!·.beginsSearch))

theorem unsearched_of_heard {es : List Entry} (h : .started .resolve ∉ heard es) :
    ∀ e ∈ es, e.beginsSearch = false := by
  intro e mem
  refine Bool.eq_false_iff.2 fun begins => h (List.mem_filterMap.2 ⟨e, mem, ?_⟩)
  unfold Entry.beginsSearch at begins
  split at begins
  · rfl
  · cases begins

theorem Outset.unsearched {fixed : Bool} {events : List Event} (h : Outset fixed events) :
    .started .resolve ∉ events := by
  cases h <;> simp [Stage.told]

theorem Opened.unsearched {s : Session σ} {script : Option String} {p : Progress}
    {es : List Entry} (h : Opened config source s script p es) :
    ∀ e ∈ es, e.beginsSearch = false :=
  unsearched_of_heard h.outset.unsearched

theorem unsearched_cleanRun {script : String} {played : List Entry}
    (byScript : ∀ e ∈ played, e.byScript) :
    ∀ e ∈ Stage.execute.around (cleanRun script played), e.beginsSearch = false := by
  refine unsearched_of_heard fun mem => ?_
  rw [heard_around (heard_of_ofRun (ofRun_cleanRun byScript))] at mem
  simp [Stage.told] at mem

theorem timeToSearch_append {es calling behind : List Entry}
    (unsearched : ∀ e ∈ es, e.beginsSearch = false) :
    timeToSearch (es ++ (Stage.resolve.around calling ++ behind)) = time es := by
  rw [timeToSearch, List.takeWhile_append_of_pos (by simpa using unsearched)]
  simp [Stage.around, Entry.beginsSearch]

/-! ## Requests that break off -/

theorem Reported.ne_beyondClock {p : Progress} {d : Diagnosis} {s s' : Session σ}
    {result : Except ConversionError Output} {es : List Entry}
    (h : Reported config p d s result es s') : result ≠ .error .beyondClock := by
  cases h with
  | unwritten => nofun
  | unread e =>
    intro same
    exact ConversionError.ofStore_ne_beyondClock e (Except.error.inj same)
  | delivered => nofun

theorem Delivered.ne_beyondClock {p : Progress} {delivery : Delivery} {s s' : Session σ}
    {result : Except ConversionError Output} {es : List Entry}
    (h : Delivered config p delivery s result es s') : result ≠ .error .beyondClock := by
  cases h with
  | nothing => nofun
  | unread _ _ _ reported => exact reported.ne_beyondClock
  | delivered => nofun

/-- A request breaks off behind the search if the search did, and only then. -/
theorem Closed.beyondClock_iff {p : Progress} {s s' : Session σ} {resolution : Resolution}
    {result : Except ConversionError Output} {es : List Entry}
    (h : Closed config p s resolution result es s') :
    result = .error .beyondClock ↔ resolution = .beyondClock := by
  cases h with
  | delivered delivered => simp [delivered.ne_beyondClock]
  | reported reported => simp [reported.ne_beyondClock]
  | beyondClock => simp

theorem Performed.searched_of_beyondClock {script : String} {s s' : Session σ} {es : List Entry}
    (h : Performed config script s (.error .beyondClock) es s') :
    ∃ s₁, Searched config script s s₁ (.error .beyondClock) es := by
  cases h with
  | failed _ _ reported => exact absurd rfl reported.ne_beyondClock
  | @returned _ _ _ _ _ _ _ _ s₁ _ _ _ byScript captured leads resolved leads₁ closed =>
    obtain rfl := closed.beyondClock_iff.1 rfl
    cases resolved with
    | beyondClock unsaved silent calls limit =>
      exact ⟨s₁, .intro byScript captured leads unsaved silent calls
        (.beyondClock rfl silent calls limit) closed⟩

theorem Converted.sought_of_beyondClock {s s' : Session σ} {es : List Entry}
    (h : Converted config source s (.error .beyondClock) es s') :
    ∃ s₂, Sought config source s s₂ (.error .beyondClock) es := by
  cases h.parted with
  | unopened _ _ other => exact absurd rfl other
  | reported _ _ reported => exact absurd rfl reported.ne_beyondClock
  | conducted opened leads conducted =>
    obtain ⟨s₂, searched⟩ := conducted.performed.searched_of_beyondClock
    exact ⟨s₂, .intro opened leads searched⟩

namespace Sought

variable {s s₂ : Session σ} {result : Except ConversionError Output} {es : List Entry}

theorem functionsDue (h : Sought config source s s₂ result es) :
    FunctionsDue config s.sandbox.store es := by
  cases h with
  | @intro _ script before _ s₁ opened leads searched =>
    cases searched with
    | @intro _ played es es' _ _ _ _ _ _ _ byScript captured leads₁ unsaved silent calls =>
      obtain ⟨on, defined, unrecorded⟩ := captured.callsFunctions_iff.1 calls
      refine .intro script before played _ rfl byScript on ?_ (captured.printed ▸ silent)
        unrecorded defined
      rw [Store.after_append, leads.store.after_eq, leads₁.store.after_eq, unsaved]

/-- The search begins when the opening and the run are over. -/
theorem clock (h : Sought config source s s₂ result es) :
    s₂.clock = s.clock + timeToSearch es := by
  cases h with
  | intro opened leads searched =>
    cases searched with
    | intro byScript _ leads₁ =>
      rw [← List.append_assoc, timeToSearch_append
        (List.forall_mem_append.2 ⟨opened.unsearched, unsearched_cleanRun byScript⟩)]
      exact (leads.trans leads₁).clock

/-- A request whose functions are to be called breaks off exactly if the clock cannot tell the
deadline of the calls. -/
theorem beyondClock_iff (h : Sought config source s s₂ result es) :
    result = .error .beyondClock ↔ deadline? s₂.clock config.timeoutMs = none := by
  cases h with
  | intro _ _ searched =>
    cases searched with
    | intro _ _ _ _ silent calls resolved closed =>
      rw [closed.beyondClock_iff]
      rcases resolved.tried_of_calls silent calls with ⟨late, broken⟩ | ⟨_, _, told, other, -⟩
      · exact iff_of_true broken late
      · exact iff_of_false other (told ▸ nofun)

end Sought

/-- When a request with a configuration that was built breaks off: its functions are to be called,
and the time limit, counted from the beginning of the search, ends later than the clock can tell.
Where it ends earlier, the deadline is told and functions are called. -/
theorem call_deadline_missing_iff (interpreter : Interpreter σ) (settings : List Setting)
    (config : Config) (built : Config.build settings = .ok config) (source : String)
    (s : Session σ) :
    let request := convert interpreter config source
    let es := entries request s
    let begins := s.clock + timeToSearch es
    let secs := config.timeoutSecs.toNat
    ((request s).1 = .error .beyondClock ↔
      FunctionsDue config s.sandbox.store es ∧ 2 ^ 63 ≤ begins / 1000 + secs) ∧
    (FunctionsDue config s.sandbox.store es → begins / 1000 + secs < 2 ^ 63 →
      deadline? begins config.timeoutMs = some (begins + secs * 1000) ∧
        invocations s.sandbox.store es ≠ []) := by
  intro request es begins secs
  obtain ⟨-, converted⟩ := (meets_convert interpreter config source s).run
  obtain ⟨-, timely, -⟩ := Config.build_eq_ok_iff.1 built
  have limit : config.timeoutMs = secs * 1000 := by rw [Config.timeoutMs, Config.timeout_eq timely]
  have breaks {s₂ : Session σ} {result : Except ConversionError Output}
      (sought : Sought config source s s₂ result es) :
      result = .error .beyondClock ↔ 2 ^ 63 ≤ begins / 1000 + secs := by
    rw [sought.beyondClock_iff, sought.clock, limit, deadline?_eq_none_iff]
  refine ⟨⟨fun late => ?_, fun ⟨due, late⟩ => ?_⟩, fun due fits => ?_⟩
  · change Converted config source s (request s).1 es _ at converted
    rw [late] at converted
    obtain ⟨s₂, sought⟩ := converted.sought_of_beyondClock
    exact ⟨sought.functionsDue, (breaks sought).1 rfl⟩
  · obtain ⟨s₂, sought⟩ := converted.sought_of_due due
    exact (breaks sought).2 late
  · obtain ⟨s₂, sought⟩ := converted.sought_of_due due
    refine ⟨by rw [limit, deadline?_of_lt fits], sought.called.resolve_right fun late => ?_⟩
    exact absurd ((breaks sought).1 late) (by omega)

def Config.within (secs : UInt64) : Config := { Config.default with timeoutSecs := secs }

/-- The longest time limit whose end a fresh clock can tell: functions are called. -/
theorem eager_deadline_told :
    let config := Config.within 9223372036854775807
    Config.build [.timeoutSecs 9223372036854775807] = .ok config ∧
      deadline? emptySession.clock config.timeoutMs = some 9223372036854775807000 ∧
      invocations emptySession.sandbox.store
        (entries (convert .eager config "pass") emptySession) ≠ [] := by
  intro config
  have built : Config.build [.timeoutSecs 9223372036854775807] = .ok config := rfl
  have due : FunctionsDue config emptySession.sandbox.store
      (entries (convert .eager config "pass") emptySession) := by
    let es := entries (convert .eager config "pass") emptySession
    let played : List Entry := [.defined "__name__", .defined "f", .defined "g", .defined "f",
      .printed "\n"]
    refine .intro "pass" (es.take 7) played (es.drop 17) ?_ ?_ rfl ?_ ?_ (by simp [played]) ?_
    all_goals decide +kernel
  have instant : emptySession.clock + timeToSearch
      (entries (convert .eager config "pass") emptySession) = 0 := by
    decide +kernel
  have main := call_deadline_missing_iff .eager [.timeoutSecs 9223372036854775807] config built
    "pass" emptySession
  simp only [instant] at main
  obtain ⟨told, called⟩ := main.2 due (by decide)
  exact ⟨built, told.trans (by decide +kernel), called⟩

/-- A time limit that can be chosen, and with which a request breaks off. -/
theorem huge_timeout_breaks_off :
    let config := Config.within 18446744073709551615
    Config.build [.timeoutSecs 18446744073709551615] = .ok config ∧
      (convert .eager config "pass" emptySession).1 = .error .beyondClock :=
  ⟨rfl, by decide +kernel⟩

end ScriptPress
