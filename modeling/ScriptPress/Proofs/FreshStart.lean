import ScriptPress.Proofs.AlteredFile
import ScriptPress.Proofs.Dialogue
import ScriptPress.Proofs.Rebase

/-!
# Fresh starts

Documents that earlier requests left in a store in memory do not show in a request: it begins by
dropping them all, looks at no file before that, and counts as a document just what it drops.

## Main definitions

* `Session.AlikeButPdfs` — sessions that differ in the documents of their stores.
* `ServedAlike` — a request does the same in two sessions.

## Main statements

* `Conversion.convert_ofFiles` — a request does what it does once the documents are dropped.
* `convert_freshStart` — a request does the same whatever documents were left.
-/

namespace ScriptPress

open Conversion Text

variable {σ : Type}

/-! ## The beginning of a request -/

namespace Conversion

variable (interpreter : Interpreter σ) (config : Config) (source : String)

theorem prepare_eq (s : Session σ) :
    prepare config source s =
      ((config.script source, .initial config source s.clock 0),
        (s.enter .normalize).leave .normalize) := by
  have instant : UInt64.ofNat (s.clock - s.clock) = 0 := by rw [Nat.sub_self]; rfl
  rw [← instant]
  rfl

theorem convert_of_empty (empty : config.script source = "") (s : Session σ) :
    convert interpreter config source s =
      (.error .emptySource, (s.enter .normalize).leave .normalize) := by
  simp only [convert, Bind.bind, StateT.bind, prepare_eq, empty]
  rfl

theorem convert_of_full (full : config.script source ≠ "") (s : Session σ) :
    convert interpreter config source s =
      (removePdfs >>= fun r => match r with
        | .error e => pure (.error (.ofStore e))
        | .ok _ => checkAndRun interpreter config (.initial config source s.clock 0)
          (config.script source)) ((s.enter .normalize).leave .normalize) := by
  have filled : (config.script source).isEmpty = false := by simpa using full
  simp only [convert, Bind.bind, StateT.bind, prepare_eq, filled]
  rfl

def cleaning (files : FileMap) : List Entry :=
  Stage.normalize.around [] ++ .accessed .request .list true :: removing files.pdfNames

theorem tells_cleaning (files : FileMap) : Tells (cleaning files) [] := by
  have dropped := (removals_removing files.pdfNames).tells
  exact ⟨dropped.answered, dropped.called⟩

variable {config source}

/-- A request to a store in memory does what it does at an earlier moment in a session without a
past, once the documents are dropped. -/
theorem convert_ofFiles (full : config.script source ≠ "") (files : FileMap)
    (patches : Page.PatchSet) {clock k : Nat} (state : σ) (journal : List Entry)
    (told : TellsRunAlike k config clock) :
    let rest := checkAndRun interpreter config (.initial config source clock 0)
      (config.script source) ⟨⟨.ofFiles files.withoutPdfs, patches⟩, clock, state, []⟩
    convert interpreter config source ⟨⟨.ofFiles files, patches⟩, clock + k, state, journal⟩ =
      (rest.1, rest.2.rebase k (journal ++ cleaning files)) := by
  intro rest
  let fresh : Session σ := ⟨⟨.ofFiles files.withoutPdfs, patches⟩, clock, state, []⟩
  have entered : ((⟨⟨.ofFiles files, patches⟩, clock + k, state, journal⟩ : Session σ).enter
      .normalize).leave .normalize =
        ⟨⟨.ofFiles files, patches⟩, clock + k, state, journal ++ Stage.normalize.around []⟩ := by
    simp [Session.enter, Session.leave, Session.note, Stage.around]
  have cleaned := removePdfs_ofFiles files patches (clock + k) state
    (journal ++ Stage.normalize.around [])
  have rebased : (⟨⟨.ofFiles files.withoutPdfs, patches⟩, clock + k, state,
      journal ++ Stage.normalize.around [] ++
        .accessed .request .list true :: removing files.pdfNames⟩ : Session σ) =
      fresh.rebase k (journal ++ cleaning files) := by
    simp [fresh, Session.rebase, cleaning]
  have follows : Follows k (journal ++ cleaning files) _ _ fresh :=
    follows_checkAndRun interpreter config (.initial config source clock 0) (config.script source)
      told
  rw [convert_of_full interpreter config source full, entered]
  simp only [Bind.bind, StateT.bind, cleaned, rebased]
  exact follows

/-- What work adds to the journal if it does what was done in a session without a past. -/
theorem entries_of_rebase {α : Type} {x : Conversion σ α} {s s' : Session σ} {a : α} {k : Nat}
    {es : List Entry} (h : x s = (a, s'.rebase k (s.journal ++ es))) :
    entries x s = es ++ s'.journal := by
  rw [entries, h]
  simp [Session.rebase]

end Conversion

/-! ## Two requests -/

/-- The sessions have stores in memory that differ in documents only, and agree in what else a
request can see, but for the time. -/
structure Session.AlikeButPdfs (s t : Session σ) : Prop where
  files : ∃ f g : FileMap, s.sandbox.store = .ofFiles f ∧ t.sandbox.store = .ofFiles g ∧
    f.AgreeButPdfs g
  patches : t.sandbox.patches = s.sandbox.patches
  state : t.state = s.state

/-- A request does the same in both sessions: it returns the same, times included, calls the
interpreter alike and gets the same answers, and leaves the same files unless there was no script. -/
structure ServedAlike (request : Conversion σ (Except ConversionError Output))
    (s t : Session σ) : Prop where
  result : (request t).1 = (request s).1
  called : (entries request t).filterMap Entry.call? = (entries request s).filterMap Entry.call?
  answered : (entries request t).filterMap Entry.exchange? =
    (entries request s).filterMap Entry.exchange?
  store : (request s).1 ≠ .error .emptySource →
    (request t).2.sandbox.store = (request s).2.sandbox.store

theorem tellsRunAlike_zero (config : Config) (clock : Nat) : TellsRunAlike 0 config clock :=
  fun _ _ _ => rfl

theorem timely_of_lt {config : Config} {clock : Nat}
    (h : clock + config.timeoutMs + config.timeoutMs < clockEnd) : config.Timely clock := by
  intro t _ before
  have intime : t + config.timeoutMs < clockEnd := by omega
  simp [deadline?, intime]

theorem Config.Timely.tellsRunAlike {config : Config} {clock k : Nat}
    (h : config.Timely clock) (later : config.Timely (clock + k)) :
    TellsRunAlike k config clock := by
  intro t after before
  have limit := runDeadline_sub (h clock (Nat.le_refl _) (Nat.le_add_right _ _))
  unfold TellsAlike
  rw [h t after (by omega), later (t + k) (by omega) (by omega)]

section

variable (interpreter : Interpreter σ) (config : Config) (source : String)

theorem servedAlike_of_empty (empty : config.script source = "") (s t : Session σ) :
    ServedAlike (convert interpreter config source) s t := by
  have told (u : Session σ) :
      entries (convert interpreter config source) u = Stage.normalize.around [] := by
    rw [entries, convert_of_empty interpreter config source empty]
    simp [Session.enter, Session.leave, Session.note, Stage.around]
  refine ⟨?_, by rw [told, told], by rw [told, told], fun full => absurd ?_ full⟩
  · rw [convert_of_empty interpreter config source empty,
      convert_of_empty interpreter config source empty]
  · rw [convert_of_empty interpreter config source empty]

/-- What tells two sessions apart is gone when the documents are dropped. -/
theorem servedAlike_of_alikeButPdfs {k : Nat} {s t : Session σ} (alike : s.AlikeButPdfs t)
    (later : t.clock = s.clock + k) (told : TellsRunAlike k config s.clock) :
    ServedAlike (convert interpreter config source) s t := by
  by_cases empty : config.script source = ""
  · exact servedAlike_of_empty interpreter config source empty s t
  · obtain ⟨⟨f, g, hs, ht, agree⟩, patches, state⟩ := alike
    obtain ⟨⟨store, ps⟩, clock, st, journal⟩ := s
    obtain ⟨⟨store', ps'⟩, clock', st', journal'⟩ := t
    dsimp only at hs ht patches state later told
    subst hs ht patches state later
    generalize served : checkAndRun interpreter config (.initial config source clock 0)
      (config.script source) ⟨⟨.ofFiles f.withoutPdfs, ps'⟩, clock, st', []⟩ = rest
    have first := convert_ofFiles interpreter empty f ps' st' journal
      (tellsRunAlike_zero config clock)
    have second := convert_ofFiles interpreter empty g ps' st' journal' told
    simp only [served, Nat.add_zero] at first
    simp only [← agree.withoutPdfs_eq, served] at second
    have entries₁ := entries_of_rebase first
    have entries₂ := entries_of_rebase second
    refine ⟨?_, ?_, ?_, fun _ => ?_⟩
    · rw [first, second]
    · rw [entries₁, entries₂, List.filterMap_append, List.filterMap_append,
        (tells_cleaning f).called, (tells_cleaning g).called]
    · rw [entries₁, entries₂, List.filterMap_append, List.filterMap_append,
        (tells_cleaning f).answered, (tells_cleaning g).answered]
    · rw [first, second]
      rfl

/-- A request that changes documents only leaves a session like the one that it began in. -/
theorem alikeButPdfs_convert {s : Session σ} {files : FileMap}
    (memory : s.sandbox.store = .ofFiles files)
    (stateless : (convert interpreter config source s).2.state = s.state)
    (scripts : ∀ e ∈ entries (convert interpreter config source) s, e.byScript →
      ∀ name, e.Alters name → Store.isPdfName name) :
    s.AlikeButPdfs (convert interpreter config source s).2 := by
  obtain ⟨leads, converted⟩ := (meets_convert interpreter config source s).run
  obtain ⟨files', after, agree⟩ := converted.agreeButPdfs leads memory scripts
  exact ⟨⟨files, files', memory, after, agree⟩, leads.patches, stateless⟩

/-- A request to a store in memory does the same whatever documents earlier requests left there,
at the same moment or at a later one at which the clock tells its deadlines alike. Hence it does the
same again, if the interpreter keeps its state and scripts change documents only. -/
theorem convert_freshStart (s : Session σ) :
    let request := convert interpreter config source
    (∀ (t : Session σ) (k : Nat), s.AlikeButPdfs t → t.clock = s.clock + k →
      TellsRunAlike k config s.clock → ServedAlike request s t) ∧
    (∀ files : FileMap, s.sandbox.store = .ofFiles files → (request s).2.state = s.state →
      (∀ e ∈ entries request s, e.byScript → ∀ name, e.Alters name → Store.isPdfName name) →
      TellsRunAlike (time (entries request s)) config s.clock →
      ServedAlike request s (request s).2) := by
  intro request
  refine ⟨fun t k => servedAlike_of_alikeButPdfs interpreter config source, ?_⟩
  intro files memory stateless scripts told
  have alike := alikeButPdfs_convert interpreter config source memory stateless scripts
  have leads := (meets_convert interpreter config source s).run.1
  exact servedAlike_of_alikeButPdfs interpreter config source alike leads.clock told

end

/-! ## A store with a leftover -/

/-- An interpreter whose scripts save a document of the names of all files. -/
def Interpreter.listing : Interpreter Unit where
  name := "listing"
  compile _ state := (none, state)
  execute _ _ state :=
    .list fun names =>
      .write "names.pdf" (utf8 (String.intercalate " " (names.toOption.getD [])).toList) fun _ =>
        .finish (.ok ()) state
  invoke _ _ _ state := .finish (.ok ()) state

def staleSession : Session Unit :=
  .new ⟨.ofFiles (FileMap.empty.insert "stale.pdf" (utf8 "old".toList)), .all⟩ ()

/-- A session five milliseconds later whose store is empty. -/
def lateSession : Session Unit := { Session.new ⟨.ofFiles .empty, .all⟩ () with clock := 5 }

theorem entries_staleSession :
    entries (convert .listing .default "pass") staleSession =
      Stage.normalize.around [] ++ .accessed .request .list true ::
        [.accessed .request (.remove "stale.pdf") true] ++
      (Stage.diagnose.around (compiling "pass" none) ++
        Stage.execute.around [.called (.execute "pass" "pass"), .accessed .script .list true,
          .accessed .script (.write "names.pdf" []) true,
          .answered (.execute "pass" "pass" .returned), .accessed .request .list true] ++
        Stage.resolve.around [] ++
        [.accessed .request (.read "names.pdf") true, .told (.finished .saved "names.pdf")]) := by
  decide +kernel

/-- The scripts of that interpreter never see the leftover, nor what they saved before. -/
theorem listing_servedAlike :
    let request := convert .listing .default "pass"
    ServedAlike request staleSession lateSession ∧
      ServedAlike request staleSession (request staleSession).2 := by
  intro request
  have timely (clock : Nat) (early : clock ≤ 5) : Config.default.Timely clock := by
    have limit : Config.default.timeoutMs = 30000 := rfl
    exact timely_of_lt (by simp only [limit, clockEnd, Nat.pow_eq]; omega)
  obtain ⟨alike, again⟩ := convert_freshStart .listing .default "pass" staleSession
  refine ⟨alike lateSession 5 ⟨⟨_, _, rfl, rfl, ?_⟩, rfl, rfl⟩ rfl ?_, again _ rfl rfl ?_ ?_⟩
  · intro name other
    have differ : name ≠ "stale.pdf" := by
      rintro rfl
      cases other
    rw [FileMap.find?_insert, if_neg differ]
  · exact (timely 0 (Nat.zero_le _)).tellsRunAlike (timely 5 (Nat.le_refl _))
  · have pdf : Store.isPdfName "names.pdf" := by decide
    rw [entries_staleSession]
    simp [Stage.around, compiling, Entry.byScript, Entry.Alters, pdf]
  · rw [entries_staleSession]
    exact tellsRunAlike_zero _ _

end ScriptPress
