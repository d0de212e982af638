import ScriptPress.Proofs.DeliveryCourse

/-!
# Calling functions

After a run that left and printed nothing, functions of the script are called one after the other.
Documents are looked for only after a call that returned. The first such call that leaves some in
the store ends the search and names its function; a document that was left by a call that raised
is given to a later call, and one left by a call whose time was up is not delivered.

## Main definitions

* `Invocation`, `invocations` — the calls of functions, with what the store holds after each.
* `Yields` — what a series of calls comes to.

## Main statements

* `TriedAll.yields` — functions are called until one returns with documents in the store.
* `autoInvoked_iff_returned` — a call that leaves documents ends the search just if it returns.
* `later_function_named` — a document that is ascribed to another function.
-/

namespace ScriptPress

open Conversion Text

variable {σ : Type}

/-! ## Calls and what they leave -/

/-- A call of a function, and the documents that are in the store once it is over. -/
structure Invocation where
  function : String
  arg : Option String
  ended : Ended
  documents : List String
  deriving DecidableEq, Repr

def Store.after (st : Store) (es : List Entry) : Store := es.foldl (fun st e => e.effect st) st

theorem Store.after_append (st : Store) (es es' : List Entry) :
    st.after (es ++ es') = (st.after es).after es' :=
  List.foldl_append

theorem Store.Undergoes.after_eq {st st' : Store} {es : List Entry} (h : st.Undergoes es st') :
    st.after es = st' := by
  induction h with
  | nil => rfl
  | cons _ _ ih => exact ih

/-- What comes behind the first entries begins where these end. -/
theorem Store.Undergoes.rest {st st₁ st' : Store} {es es' : List Entry}
    (h : st.Undergoes (es ++ es') st') (first : st.Undergoes es st₁) : st₁.Undergoes es' st' := by
  obtain ⟨st₂, before, behind⟩ := h.split
  rwa [← first.after_eq, before.after_eq]

/-- The calls of functions that entries tell of, from the given store on. -/
def invocations : Store → List Entry → List Invocation
  | _, [] => []
  | st, .answered (.invoke function arg ended) :: es =>
    ⟨function, arg, ended, st.documents⟩ :: invocations st es
  | st, e :: es => invocations (e.effect st) es

theorem invocations_append (st : Store) (es es' : List Entry) :
    invocations st (es ++ es') = invocations st es ++ invocations (st.after es) es' := by
  fun_induction invocations st es with
  | case1 => rfl
  | case2 st function arg ended es ih => simpa [invocations, Store.after, Entry.effect] using ih
  | case3 st e es other ih => simpa [invocations, Store.after, other] using ih

/-- Scripts call no functions by themselves. -/
theorem invocations_of_byScript {es : List Entry} (h : ∀ e ∈ es, e.byScript) (st : Store) :
    invocations st es = [] := by
  fun_induction invocations st es with
  | case1 => rfl
  | case2 => simp [Entry.byScript] at h
  | case3 st e es other ih => exact ih (List.forall_mem_cons.1 h).2

theorem Calls.invocations_eq {limit : Nat} {function : String} {arg : Option String}
    {ended : Ended} {es : List Entry} (h : Calls limit (.invoke function arg ended) es)
    (st : Store) :
    invocations st es = [⟨function, arg, ended, (st.after es).documents⟩] := by
  cases h with
  | @intro played byScript _ =>
    have idle := invocations_of_byScript byScript st
    calc invocations st (.called _ :: (played ++ [.answered (.invoke function arg ended)]))
        = invocations st (played ++ [.answered (.invoke function arg ended)]) := rfl
      _ = [⟨function, arg, ended, (st.after played).documents⟩] := by
        rw [invocations_append, idle]; rfl
      _ = _ := by simp [Store.after, Entry.effect]

/-! ## What calls come to -/

/-- The search goes on after the call. -/
def Invocation.Passed (x : Invocation) : Prop :=
  (∃ e, x.ended = .raised e) ∨ x.ended = .returned ∧ x.documents = []

/-- What a series of calls comes to. -/
inductive Yields : List Invocation → Attempt → Prop
  | nothing {calls : List Invocation} (passed : ∀ x ∈ calls, x.Passed) : Yields calls .nothing
  | stopped {earlier : List Invocation} {call : Invocation} (passed : ∀ x ∈ earlier, x.Passed)
      (late : call.ended = .timedOut) : Yields (earlier ++ [call]) .stopped
  | produced {earlier : List Invocation} {call : Invocation} (passed : ∀ x ∈ earlier, x.Passed)
      (returned : call.ended = .returned) (found : call.documents ≠ []) :
      Yields (earlier ++ [call]) (.produced call.function call.documents)

theorem Yields.append {earlier calls : List Invocation} {attempt : Attempt}
    (passed : ∀ x ∈ earlier, x.Passed) (h : Yields calls attempt) :
    Yields (earlier ++ calls) attempt := by
  cases h with
  | nothing passed' => exact .nothing (List.forall_mem_append.2 ⟨passed, passed'⟩)
  | stopped passed' late =>
    rw [← List.append_assoc]
    exact .stopped (List.forall_mem_append.2 ⟨passed, passed'⟩) late
  | produced passed' returned found =>
    rw [← List.append_assoc]
    exact .produced (List.forall_mem_append.2 ⟨passed, passed'⟩) returned found

theorem Yields.passed {calls : List Invocation} (h : Yields calls .nothing) :
    ∀ x ∈ calls, x.Passed := by
  cases h with
  | nothing passed => exact passed

/-- A call that leaves documents is the last and named just if it returns. -/
theorem Yields.named_iff {earlier later : List Invocation} {call : Invocation} {attempt : Attempt}
    (h : Yields (earlier ++ call :: later) attempt) (found : call.documents ≠ []) :
    later = [] ∧ attempt = .produced call.function call.documents ↔ call.ended = .returned := by
  have not_returned : call.Passed → call.ended ≠ .returned := by
    rintro (⟨e, raised⟩ | ⟨-, empty⟩)
    · simp [raised]
    · exact absurd empty found
  generalize calls : earlier ++ call :: later = all at h
  have mem : call ∈ all := by simp [← calls]
  cases h with
  | nothing passed => simp [not_returned (passed call mem)]
  | stopped passed late =>
    rcases List.mem_append.1 mem with mem | mem
    · simp [not_returned (passed call mem)]
    · simp [List.mem_singleton.1 mem, late]
  | @produced earlier' last passed returned found' =>
    rcases List.eq_nil_or_concat later with rfl | ⟨later, x, rfl⟩
    · obtain ⟨-, same⟩ := List.append_inj' calls rfl
      obtain rfl := List.cons.inj same |>.1
      simp [returned]
    · have split : earlier ++ call :: later ++ [x] = earlier' ++ [last] := by simpa using calls
      obtain ⟨same, -⟩ := List.append_inj' split rfl
      have before : call.Passed := passed call (by simp [← same])
      simp [not_returned before]

/-- Nothing is found just if every call that returned left the store without documents. -/
theorem Yields.not_produced_iff {calls : List Invocation} {attempt : Attempt}
    (h : Yields calls attempt) :
    attempt = .nothing ∨ attempt = .stopped ↔
      ∀ x ∈ calls, x.ended = .returned → x.documents = [] := by
  have fruitless (x : Invocation) (passed : x.Passed) (returned : x.ended = .returned) :
      x.documents = [] := by
    rcases passed with ⟨e, raised⟩ | ⟨-, empty⟩
    · cases returned.symm.trans raised
    · exact empty
  cases h with
  | nothing passed => simpa using fun x mem => fruitless x (passed x mem)
  | stopped passed late =>
    refine ⟨fun _ => List.forall_mem_append.2 ⟨fun x mem => fruitless x (passed x mem), ?_⟩,
      fun _ => .inr rfl⟩
    simp [late]
  | produced passed returned found => simp [returned, found]

/-! ## The calls that are made -/

theorem Tried.yields {deadline : Nat} {function : String} {args : List (Option String)}
    {s s' : Session σ} {result : Attempt × Context} {es : List Entry}
    (h : Tried deadline function args s result es s') (faultless : Faultless es) :
    Yields (invocations s.sandbox.store es) result.1 := by
  induction h with
  | exhausted => exact .nothing (List.forall_mem_nil _)
  | timedOut calls =>
    rw [calls.invocations_eq]
    exact Yields.stopped (List.forall_mem_nil _) rfl
  | raised e calls leads _ ih =>
    rw [invocations_append, calls.invocations_eq, leads.store.after_eq]
    exact (ih (faultless_append.1 faultless).2).append (by simp [Invocation.Passed])
  | unlisted calls => exact absurd (faultless_append.1 faultless).2 (by simp [Faultless])
  | barren calls leads found =>
    rw [invocations_append, calls.invocations_eq, leads.store.after_eq]
    exact .nothing (by simp [invocations, Invocation.Passed, found])
  | produced calls leads found =>
    rw [invocations_append, calls.invocations_eq, leads.store.after_eq]
    exact Yields.produced (List.forall_mem_nil _) rfl found

theorem TriedAll.yields {deadline : Nat} {functions : List String} {s s' : Session σ}
    {result : Attempt × Context} {es : List Entry}
    (h : TriedAll deadline functions s result es s') (faultless : Faultless es) :
    Yields (invocations s.sandbox.store es) result.1 := by
  induction h with
  | exhausted => exact .nothing (List.forall_mem_nil _)
  | next tried leads _ ih =>
    rw [invocations_append, leads.store.after_eq]
    obtain ⟨before, behind⟩ := faultless_append.1 faultless
    exact (ih behind).append (tried.yields before).passed
  | decided tried => exact tried.yields faultless

/-! ## The search for something to deliver -/

theorem Resolved.yields {c c' : Context} {printed : String} {options : ResolveOptions}
    {s s' : Session σ} {resolution : Resolution} {es : List Entry}
    (h : Resolved c [] printed options s (resolution, c') es s')
    (silent : isBlankText printed.toList) (calls : options.callsFunctions c)
    (timely : (deadline? s.clock options.limit).isSome) (faultless : Faultless es) :
    ∃ attempt, Yields (invocations s.sandbox.store es) attempt ∧
      ((∃ f pdfs, attempt = .produced f pdfs ∧ resolution = .delivered ⟨.autoInvoked f, pdfs⟩) ∨
        (attempt = .nothing ∨ attempt = .stopped) ∧ resolution = .failed .noOutput) := by
  cases h with
  | saved some => exact absurd rfl some
  | undrawn _ spoken => cases silent.symm.trans spoken
  | unwritten _ spoken => cases silent.symm.trans spoken
  | typeset _ spoken => cases silent.symm.trans spoken
  | beyondClock _ _ _ limit => simp [limit] at timely
  | noOutput _ _ none => cases calls.symm.trans none
  | produced _ _ _ _ tried => exact ⟨_, tried.yields faultless, .inl ⟨_, _, rfl, rfl⟩⟩
  | fruitless _ _ _ _ fruitless tried => exact ⟨_, tried.yields faultless, .inr ⟨fruitless, rfl⟩⟩

/-- Where functions are called and every listing succeeds, a call that leaves documents in the
store, be it the first or not, is the last and names the function of the delivery just if it
returns. There is no output just if no call that returned left a document. -/
theorem autoInvoked_iff_returned (interpreter : Interpreter σ) {c : Context} {printed : String}
    {options : ResolveOptions} {s : Session σ} (silent : isBlankText printed.toList)
    (calls : options.callsFunctions c) (timely : (deadline? s.clock options.limit).isSome)
    (faultless : Faultless (entries (resolve interpreter c [] printed options) s)) :
    let search := resolve interpreter c [] printed options
    let xs := invocations s.sandbox.store (entries search s)
    (∀ earlier call later, xs = earlier ++ call :: later → call.documents ≠ [] →
      (later = [] ∧
          (search s).1.1 = .delivered ⟨.autoInvoked call.function, call.documents⟩ ↔
        call.ended = .returned)) ∧
    ((search s).1.1 = .failed .noOutput ↔ ∀ x ∈ xs, x.ended = .returned → x.documents = []) := by
  intro search xs
  have resolved : Resolved c [] printed options s (search s).1 (entries search s) (search s).2 :=
    (meets_resolve interpreter c [] printed options s).run.2
  obtain ⟨attempt, yields, outcome⟩ := resolved.yields silent calls timely faultless
  refine ⟨fun earlier call later split found => ?_, ?_⟩
  · have named := (split ▸ yields : Yields (earlier ++ call :: later) attempt).named_iff found
    rw [← named]
    rcases outcome with ⟨f, pdfs, rfl, result⟩ | ⟨rfl | rfl, result⟩ <;> simp [result]
  · rw [← yields.not_produced_iff]
    rcases outcome with ⟨f, pdfs, rfl, result⟩ | ⟨fruitless, result⟩
    · simp [result]
    · simp [result, fruitless]

/-! ## A document that is ascribed to another function -/

/-- An interpreter in which `f` saves a document and raises, and `g` does nothing. -/
def Interpreter.careless : Interpreter Unit where
  name := "careless"
  compile _ state := (none, state)
  execute _ _ state := .finish (.ok ()) state
  invoke function arg _ state :=
    match function, arg with
    | "f", none => .write "a.pdf" (utf8 "a".toList) fun _ =>
      .finish (.error ⟨"ValueError", "", []⟩) state
    | "f", some _ => .finish (.error ⟨"ValueError", "", []⟩) state
    | _, _ => .finish (.ok ()) state

def carelessContext : Context :=
  { Context.new "" .all false with functions := .replace ["f", "g"] }

def emptySession : Session Unit := .new ⟨.inMemory .none, .all⟩ ()

def usualOptions : ResolveOptions := ⟨none, true, 30000⟩

def carelessSearch : Conversion Unit (Resolution × Context) :=
  resolve .careless carelessContext [] "" usualOptions

theorem entries_carelessSearch :
    entries carelessSearch emptySession =
      [.called (.invoke "f" none),
        .accessed .script (.write "a.pdf" (utf8 "a".toList)) true,
        .answered (.invoke "f" none (.raised ⟨"ValueError", "", []⟩)),
        .called (.invoke "f" (some "output.pdf")),
        .answered (.invoke "f" (some "output.pdf") (.raised ⟨"ValueError", "", []⟩)),
        .called (.invoke "g" none), .answered (.invoke "g" none .returned),
        .accessed .request .list true] := by
  decide +kernel

theorem invocations_carelessSearch :
    invocations emptySession.sandbox.store (entries carelessSearch emptySession) =
      [⟨"f", none, .raised ⟨"ValueError", "", []⟩, ["a.pdf"]⟩,
        ⟨"f", some "output.pdf", .raised ⟨"ValueError", "", []⟩, ["a.pdf"]⟩,
        ⟨"g", none, .returned, ["a.pdf"]⟩] := by
  decide +kernel

/-- The first call, of `f`, leaves a document. Calls go on all the same, and the document is
ascribed to `g`. -/
theorem later_function_named :
    (carelessSearch emptySession).1.1 = .delivered ⟨.autoInvoked "g", ["a.pdf"]⟩ ∧
      (invocations emptySession.sandbox.store (entries carelessSearch emptySession)).map
        (fun x => (x.function, x.documents)) =
      [("f", ["a.pdf"]), ("f", ["a.pdf"]), ("g", ["a.pdf"])] := by
  rw [invocations_carelessSearch]
  exact ⟨by decide +kernel, rfl⟩

/-- It is the call of `g` that returns. -/
theorem careless_autoInvoked :
    Faultless (entries carelessSearch emptySession) ∧
      (carelessSearch emptySession).1.1 = .delivered ⟨.autoInvoked "g", ["a.pdf"]⟩ := by
  have faultless : Faultless (entries carelessSearch emptySession) := by
    rw [entries_carelessSearch]
    simp [Faultless]
  have named := (autoInvoked_iff_returned .careless (by decide) (by decide) (by decide)
    faultless).1 [⟨"f", none, .raised ⟨"ValueError", "", []⟩, ["a.pdf"]⟩,
      ⟨"f", some "output.pdf", .raised ⟨"ValueError", "", []⟩, ["a.pdf"]⟩]
    ⟨"g", none, .returned, ["a.pdf"]⟩ [] invocations_carelessSearch (List.cons_ne_nil _ _)
  exact ⟨faultless, (named.2 rfl).2⟩

end ScriptPress
