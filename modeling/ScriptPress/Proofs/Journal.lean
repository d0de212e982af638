import ScriptPress.Conversion.Session
import ScriptPress.Proofs.StoreContent

/-!
# Journals

The journal of a session tells all that happens to its store, to its clock and to the context of a
running script: a store and a context change only as the entries say, and only by the entries that
are told of a running script does time pass.

## Main definitions

* `Faultless` — the request made no call of the store that failed.
* `Store.Undergoes` — entries happen one after the other to a store.
* `Context.after` — the context after entries.
* `Session.Leads` — entries lead from one session to another.

## Main statements

* `Store.Undergoes.holds_or` — what a store holds in the end was put on the way or was there before.
* `Session.plays_run` — a running script is told of in the journal, and stays within its time.
-/

namespace ScriptPress

open Text

/-! ## Entries -/

/-- No call of the store that the request made failed. -/
def Faultless (es : List Entry) : Prop := ∀ access, .accessed .request access false ∉ es

theorem faultless_append {es es' : List Entry} :
    Faultless (es ++ es') ↔ Faultless es ∧ Faultless es' := by
  simp [Faultless, forall_and]

def Entry.isFault : Entry → Bool
  | accessed .request _ false => true
  | _ => false

theorem faultless_iff {es : List Entry} : Faultless es ↔ ∀ e ∈ es, e.isFault = false := by
  constructor
  · intro faultless e mem
    unfold Entry.isFault
    split
    · exact absurd mem (faultless _)
    · rfl
  · intro h access mem
    cases h _ mem

instance (es : List Entry) : Decidable (Faultless es) := decidable_of_iff _ faultless_iff.symm

def Access.perform : Access → Store → Bool × Store
  | list, st => (st.list.1.isOk, st.list.2)
  | read name, st => ((st.read name).1.isOk, (st.read name).2)
  | write name bytes, st => ((st.write name bytes).1.isOk, (st.write name bytes).2)
  | remove name, st => ((st.remove name).1.isOk, (st.remove name).2)

namespace Entry

def effect : Entry → Store → Store
  | accessed _ a _, st => (a.perform st).2
  | placed name bytes, st => st.place name bytes
  | _, st => st

/-- The store answers as the entry says. -/
def Fits : Entry → Store → Prop
  | accessed _ a ok, st => (a.perform st).1 = ok
  | placed name _, st => st.takes name = true
  | _, _ => True

def Puts (name : String) (bytes : Bytes) : Entry → Prop
  | accessed _ (.write n b) true => n = name ∧ b = bytes
  | placed raw b => raw = utf8 name.toList ∧ b = bytes
  | _ => False

def duration : Entry → Nat
  | slept ms => ms
  | _ => 0

/-- Whether the entry tells of a running script, or of what happens while it runs. -/
def byScript : Entry → Bool
  | printed _ | defined _ | replaced _ | recorded _ => true
  | accessed .script _ _ | placed _ _ | slept _ => true
  | _ => false

def exchange? : Entry → Option Exchange
  | answered x => some x
  | _ => none

def call? : Entry → Option InterpreterCall
  | called c => some c
  | _ => none

theorem exchange?_of_byScript {e : Entry} (h : e.byScript) : e.exchange? = none := by
  cases e <;> first | rfl | cases h

theorem call?_of_byScript {e : Entry} (h : e.byScript) : e.call? = none := by
  cases e <;> first | rfl | cases h

/-- What an entry changes in a store it says, name by name. -/
theorem holds_of_holds_effect {e : Entry} {st : Store} (fits : e.Fits st) {name : String}
    {bytes : Bytes} (h : (e.effect st).Holds name bytes) :
    e.Puts name bytes ∨ st.Holds name bytes ∧ ∀ b, ¬e.Puts name b := by
  cases e with
  | accessed actor a ok =>
    cases a with
    | list => exact .inr ⟨by simpa [effect, Access.perform, Store.Holds] using h, by simp [Puts]⟩
    | read n => exact .inr ⟨by simpa [effect, Access.perform, Store.Holds] using h, by simp [Puts]⟩
    | write n b =>
      simp only [effect, Access.perform, Store.holds_write_iff] at h
      simp only [Fits, Access.perform] at fits
      rw [fits] at h
      cases ok with
      | false => exact .inr ⟨by simpa using h, by simp [Puts]⟩
      | true => grind [Puts]
    | remove n =>
      simp only [effect, Access.perform, Store.holds_remove_iff] at h
      exact .inr ⟨h.2, by simp [Puts]⟩
  | placed raw b =>
    have := Store.holds_of_holds_place h
    simp only [Fits] at fits
    grind [Puts]
  | _ => exact .inr ⟨h, by simp [Puts]⟩

end Entry

def time (es : List Entry) : Nat := es.foldr (fun e t => e.duration + t) 0

@[simp] theorem time_nil : time [] = 0 := rfl

@[simp] theorem time_cons (e : Entry) (es : List Entry) : time (e :: es) = e.duration + time es :=
  rfl

@[simp] theorem time_append (es es' : List Entry) : time (es ++ es') = time es + time es' := by
  induction es with
  | nil => simp
  | cons e es ih => simp [ih, Nat.add_assoc]

/-! ## Stores under a journal -/

/-- The entries happen one after the other, and lead from the one store to the other. -/
inductive Store.Undergoes : Store → List Entry → Store → Prop
  | nil (st : Store) : Undergoes st [] st
  | cons {st st' : Store} {e : Entry} {es : List Entry} (fits : e.Fits st)
      (rest : Undergoes (e.effect st) es st') : Undergoes st (e :: es) st'

namespace Store.Undergoes

theorem single {st st' : Store} {e : Entry} (fits : e.Fits st) (h : e.effect st = st') :
    st.Undergoes [e] st' :=
  .cons fits (h ▸ .nil _)

theorem of_single {st st' : Store} {e : Entry} (h : st.Undergoes [e] st') :
    e.Fits st ∧ e.effect st = st' := by
  cases h with
  | cons fits rest =>
    cases rest
    exact ⟨fits, rfl⟩

theorem append {st st₁ st₂ : Store} {es es' : List Entry} (h : st.Undergoes es st₁)
    (h' : st₁.Undergoes es' st₂) : st.Undergoes (es ++ es') st₂ := by
  induction h with
  | nil => exact h'
  | cons fits _ ih => exact .cons fits (ih h')

theorem split {st st' : Store} {es es' : List Entry} (h : st.Undergoes (es ++ es') st') :
    ∃ st₁, st.Undergoes es st₁ ∧ st₁.Undergoes es' st' := by
  induction es generalizing st with
  | nil => exact ⟨st, .nil st, h⟩
  | cons e es ih =>
    cases h with
    | cons fits rest =>
      obtain ⟨st₁, before, behind⟩ := ih rest
      exact ⟨st₁, .cons fits before, behind⟩

/-- What is held at the end was put on the way, or was there and nothing was put in its place. -/
theorem holds_or {st st' : Store} {es : List Entry} (h : st.Undergoes es st') {name : String}
    {bytes : Bytes} (held : st'.Holds name bytes) :
    (∃ e ∈ es, e.Puts name bytes) ∨
      st.Holds name bytes ∧ ∀ e ∈ es, ∀ b, ¬e.Puts name b := by
  induction h with
  | nil => exact .inr ⟨held, by simp⟩
  | @cons st st' e es fits _ ih =>
    rcases ih held with ⟨d, hd, puts⟩ | ⟨between, untouched⟩
    · exact .inl ⟨d, List.mem_cons_of_mem _ hd, puts⟩
    · rcases Entry.holds_of_holds_effect fits between with puts | ⟨before, kept⟩
      · exact .inl ⟨e, List.mem_cons_self, puts⟩
      · exact .inr ⟨before, List.forall_mem_cons.2 ⟨kept, untouched⟩⟩

end Store.Undergoes

/-! ## Contexts under a journal -/

def Entry.contextEffect : Entry → Context → Context
  | printed text, c => c.print text
  | defined name, c => c.define name
  | replaced names, c => c.replace names
  | recorded producer, c => c.record producer
  | _, c => c

namespace Context

def after (c : Context) (es : List Entry) : Context := es.foldl (fun c e => e.contextEffect c) c

@[simp] theorem after_nil (c : Context) : c.after [] = c := rfl

@[simp] theorem after_cons (c : Context) (e : Entry) (es : List Entry) :
    c.after (e :: es) = (e.contextEffect c).after es := rfl

@[simp] theorem after_append (c : Context) (es es' : List Entry) :
    c.after (es ++ es') = (c.after es).after es' := List.foldl_append

end Context

def Entry.text? : Entry → Option String
  | printed text => some text
  | _ => none

def spoken (es : List Entry) : String := String.join (es.filterMap Entry.text?)

@[simp] theorem spoken_nil : spoken [] = "" := rfl

@[simp] theorem spoken_append (es es' : List Entry) :
    spoken (es ++ es') = spoken es ++ spoken es' := by
  rw [spoken, List.filterMap_append, String.join_append, spoken, spoken]

/-- Entries tell of what a script does to a context whatever its sink is; a sink gets what was
printed. -/
theorem Context.after_withSink (c : Context) (sink : Option String) (es : List Entry) :
    ({ c with sink := sink } : Context).after es =
      { c.after es with sink := sink.map (· ++ spoken es) } := by
  induction es generalizing c sink with
  | nil => simp
  | cons e es ih =>
    cases e with
    | printed text =>
      have rest := ih (c.print text) (sink.map (· ++ text))
      have joined : spoken (.printed text :: es) = text ++ spoken es := by
        simp [spoken, Entry.text?]
      simpa [Entry.contextEffect, Context.print, joined, Function.comp_def, String.append_assoc]
        using rest
    | defined name => exact ih (c.define name) sink
    | replaced names => exact ih (c.replace names) sink
    | recorded producer => exact ih (c.record producer) sink
    | _ => exact ih c sink

/-- What comes of a run with its output captured: the printed text, and the context with all else
that the script did to it and with the sink that was in place before. -/
structure Captured (c : Context) (es : List Entry) (printed : String) (c' : Context) : Prop where
  printed : printed = spoken es
  context : c' = { c.after es with sink := c.sink }

theorem captured_restore (c : Context) (es : List Entry) :
    Captured c es ((c.redirect.2.after es).restore c.sink).1
      ((c.redirect.2.after es).restore c.sink).2 := by
  have after : c.redirect.2.after es = { c.after es with sink := some (spoken es) } := by
    simpa [Context.redirect] using c.after_withSink (some "") es
  rw [after]
  exact ⟨rfl, rfl⟩

/-- A capture is told of as well by entries around it that tell nothing of the context. -/
theorem captured_around_iff {c c' : Context} {es : List Entry} {printed : String}
    {call : InterpreterCall} {x : Exchange} :
    Captured c (.called call :: (es ++ [.answered x])) printed c' ↔ Captured c es printed c' := by
  have text : spoken (.called call :: (es ++ [.answered x])) = spoken es := by
    simp [spoken, List.filterMap_cons, Entry.text?]
  have after : c.after (.called call :: (es ++ [.answered x])) = c.after es := by
    simp [Entry.contextEffect]
  constructor <;> rintro ⟨printed, context⟩
  · exact ⟨text ▸ printed, after ▸ context⟩
  · exact ⟨text.symm ▸ printed, after.symm ▸ context⟩

/-! ## Sessions -/

variable {σ : Type}

/-- The entries are what happened between the one session and the other. -/
structure Session.Leads (s : Session σ) (es : List Entry) (s' : Session σ) : Prop where
  journal : s'.journal = s.journal ++ es
  store : s.sandbox.store.Undergoes es s'.sandbox.store
  patches : s'.sandbox.patches = s.sandbox.patches
  clock : s'.clock = s.clock + time es

namespace Session

namespace Leads

variable {s s₁ s₂ : Session σ} {es es' : List Entry}

theorem refl (s : Session σ) : s.Leads [] s where
  journal := (List.append_nil _).symm
  store := .nil _
  patches := rfl
  clock := rfl

theorem trans (h : s.Leads es s₁) (h' : s₁.Leads es' s₂) : s.Leads (es ++ es') s₂ where
  journal := by rw [h'.journal, h.journal, List.append_assoc]
  store := h.store.append h'.store
  patches := h'.patches.trans h.patches
  clock := by rw [h'.clock, h.clock, time_append, Nat.add_assoc]

end Leads

/-! ### Single steps -/

theorem leads_note {e : Entry} (s : Session σ) (fits : e.Fits s.sandbox.store)
    (still : e.effect s.sandbox.store = s.sandbox.store) (instant : e.duration = 0) :
    s.Leads [e] (s.note e) where
  journal := rfl
  store := .single fits still
  patches := rfl
  clock := by simp [instant, note]

theorem leads_state (state : σ) (s : Session σ) : s.Leads [] { s with state := state } where
  journal := (List.append_nil _).symm
  store := .nil _
  patches := rfl
  clock := rfl

theorem leads_sleep (ms : Nat) (s : Session σ) : s.Leads [.slept ms] (s.sleep ms) where
  journal := rfl
  store := .single trivial rfl
  patches := rfl
  clock := by simp [sleep, Entry.duration]

theorem leads_access {α : Type} {actor : Actor} {a : Access}
    {call : Store → Except StoreError α × Store} (s : Session σ)
    (h : ∀ st, a.perform st = ((call st).1.isOk, (call st).2)) :
    s.Leads [.accessed actor a (s.access actor a call).1.isOk] (s.access actor a call).2 where
  journal := rfl
  store := .single (congrArg Prod.fst (h _)) (congrArg Prod.snd (h _))
  patches := rfl
  clock := rfl

end Session

/-! ## Running scripts -/

/-- Between the one session and the other only a script ran, and time passed at most until the
deadline. -/
structure Session.Plays (deadline : Nat) (s : Session σ) (es : List Entry) (s' : Session σ) :
    Prop where
  leads : s.Leads es s'
  byScript : ∀ e ∈ es, e.byScript
  intime : time es ≤ deadline - s.clock

namespace Session

theorem Plays.trans {deadline : Nat} {s s₁ s₂ : Session σ} {es es' : List Entry}
    (h : s.Plays deadline es s₁) (h' : s₁.Plays deadline es' s₂) :
    s.Plays deadline (es ++ es') s₂ where
  leads := h.leads.trans h'.leads
  byScript e he := (List.mem_append.1 he).elim (h.byScript e) (h'.byScript e)
  intime := by
    have before := h.intime
    have behind := h'.intime
    rw [h.leads.clock] at behind
    rw [time_append]
    omega

theorem plays_note {deadline : Nat} (e : Entry) (s : Session σ) (fits : e.Fits s.sandbox.store)
    (still : e.effect s.sandbox.store = s.sandbox.store) (instant : e.duration = 0)
    (byScript : e.byScript) : s.Plays deadline [e] (s.note e) where
  leads := leads_note s fits still instant
  byScript := by simpa using byScript
  intime := by simp [instant]

theorem plays_access {α : Type} {deadline : Nat} {a : Access}
    {call : Store → Except StoreError α × Store} (s : Session σ)
    (h : ∀ st, a.perform st = ((call st).1.isOk, (call st).2)) :
    s.Plays deadline [.accessed .script a (s.access .script a call).1.isOk]
      (s.access .script a call).2 where
  leads := leads_access s h
  byScript := by simp [Entry.byScript]
  intime := Nat.zero_le _

theorem plays_sleep {deadline ms : Nat} (s : Session σ) (h : ms ≤ deadline - s.clock) :
    s.Plays deadline [.slept ms] (s.sleep ms) where
  leads := leads_sleep ms s
  byScript := by simp [Entry.byScript]
  intime := by simpa [Entry.duration] using h

theorem plays_place (deadline : Nat) (name bytes : Bytes) (s : Session σ) :
    ∃ es, s.Plays deadline es (s.place name bytes) ∧ ∀ c : Context, c.after es = c := by
  unfold place
  split_ifs with takes
  · exact ⟨[.placed name bytes], ⟨⟨rfl, .single takes rfl, rfl, rfl⟩, by simp [Entry.byScript],
      Nat.zero_le _⟩, fun _ => rfl⟩
  · rw [Store.place_of_not_takes bytes (Bool.eq_false_iff.2 takes)]
    exact ⟨[], ⟨.refl s, by simp, Nat.zero_le _⟩, fun _ => rfl⟩

/-- A run is told of in the journal, with all that it does to its context, and stays within its
time. -/
theorem plays_run (deadline : Nat) (program : Program σ) (c : Context) (s : Session σ) :
    ∃ es, s.Plays deadline es (Conversion.run deadline program c s).2 ∧
      (Conversion.run deadline program c s).1.2 = c.after es := by
  induction program generalizing c s with
  | finish ending state => exact ⟨[], ⟨leads_state state s, by simp, Nat.zero_le _⟩, rfl⟩
  | print text next ih =>
    obtain ⟨es, h, same⟩ := ih (c.print text) (s.note (.printed text))
    exact ⟨_, (plays_note (.printed text) s trivial rfl rfl rfl).trans h, same⟩
  | define name next ih =>
    obtain ⟨es, h, same⟩ := ih (c.define name) (s.note (.defined name))
    exact ⟨_, (plays_note (.defined name) s trivial rfl rfl rfl).trans h, same⟩
  | replace names next ih =>
    obtain ⟨es, h, same⟩ := ih (c.replace names) (s.note (.replaced names))
    exact ⟨_, (plays_note (.replaced names) s trivial rfl rfl rfl).trans h, same⟩
  | record producer next ih =>
    obtain ⟨es, h, same⟩ := ih (c.record producer) (s.note (.recorded producer))
    exact ⟨_, (plays_note (.recorded producer) s trivial rfl rfl rfl).trans h, same⟩
  | sleep ms interrupted next ih =>
    rw [Conversion.run]
    split_ifs with intime
    · obtain ⟨es, h, same⟩ := ih c (s.sleep ms)
      exact ⟨_, (plays_sleep s (by omega)).trans h, same⟩
    · -- Time runs out in the middle of the sleep, and the rest of the program is not played.
      have slept := s.plays_sleep (Nat.le_refl (deadline - s.clock))
      exact ⟨_, slept.trans ⟨leads_state interrupted _, by simp, Nat.zero_le _⟩, rfl⟩
  | list next ih =>
    obtain ⟨es, h, same⟩ := ih _ c (s.access .script .list Store.list).2
    exact ⟨_, (plays_access s fun _ => rfl).trans h, same⟩
  | read name next ih =>
    obtain ⟨es, h, same⟩ := ih _ c (s.access .script (.read name) (Store.read name)).2
    exact ⟨_, (plays_access s fun _ => rfl).trans h, same⟩
  | write name bytes next ih =>
    obtain ⟨es, h, same⟩ := ih _ c (s.access .script (.write name bytes) (Store.write name bytes)).2
    exact ⟨_, (plays_access s fun _ => rfl).trans h, same⟩
  | remove name next ih =>
    obtain ⟨es, h, same⟩ := ih _ c (s.access .script (.remove name) (Store.remove name)).2
    exact ⟨_, (plays_access s fun _ => rfl).trans h, same⟩
  | place name bytes next ih =>
    obtain ⟨es, h, idle⟩ := plays_place deadline name bytes s
    obtain ⟨es', h', same⟩ := ih c (s.place name bytes)
    exact ⟨_, h.trans h', by rw [Context.after_append, idle]; exact same⟩

end Session

end ScriptPress
