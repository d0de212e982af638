import ScriptPress.Interpreter.Scenario
import ScriptPress.Proofs.ContentStream
import ScriptPress.Proofs.LaidLine

/-!
# Runs of drawing steps

A document is drawn on step after step; a step that fails is passed over. Whatever the steps and the
patches, the pages show the lines of the cells that succeeded and nothing else, each line in its
place from the moment when it is laid.

A patched cell call amounts to one call of the document itself (`DrawsAsDocument`), so the patches
add nothing to what has to be said about pages.

## Main definitions

* `PerformedStep`, `DrawingRun`, `performAll` — drawing steps that were carried out.
* `Attempted` — the text that a cell draws under patches.
* `PatchSet.start`, `PatchSet.width` — where a patched cell begins, and its width.
* `Accounts` — the lines that a step laid.

## Main statements

* `Page.PatchSet.apply_cell_eq` — a patched cell as a cell of the document.
* `document_performAll` — backends draw like `performAll`.
* `accounts_perform`, `accounts_performAll` — what one step, and what a run, does to the pages.
* `drawing_keeps_text` — the pages show the lines of the cells.
-/

namespace ScriptPress

open Page Text

/-! ## Runs -/

def DrawingStep.command? : DrawingStep → Option Command
  | draw command => some command
  | output _ => none

def DrawingStep.perform (patches : PatchSet) (step : DrawingStep) (d : Document) (st : Store) :
    Except DrawError Unit × Document × Store :=
  match step with
  | .draw command =>
    let (result, d) := (patches.apply Document.backend).run command d
    (result, d, st)
  | .output name =>
    let (answer, st) := st.write name d.bytes
    (answer.mapError fun e => .storage name e.message, d, st)

/-- A step that was carried out, with the document before and after it. -/
structure PerformedStep where
  step : DrawingStep
  before : Document
  result : Except DrawError Unit
  after : Document

/-- Steps that were carried out, and what they left. -/
structure DrawingRun where
  performed : List PerformedStep
  document : Document
  store : Store

/-- Carries out drawing steps one after the other; what fails is passed over. -/
def performAll (patches : PatchSet) : List DrawingStep → Document → Store → DrawingRun
  | [], d, st => ⟨[], d, st⟩
  | step :: steps, d, st =>
    let (result, d', st') := step.perform patches d st
    let rest := performAll patches steps d' st'
    { rest with performed := ⟨step, d, result, d'⟩ :: rest.performed }

section

variable {patches : PatchSet}

theorem map_step_performed (steps : List DrawingStep) (d : Document) (st : Store) :
    (performAll patches steps d st).performed.map PerformedStep.step = steps := by
  induction steps generalizing d st with
  | nil => rfl
  | cons step steps ih => simp [performAll, ih]

/-- Later steps go on from what the earlier ones left. -/
theorem document_performAll_append (earlier later : List DrawingStep) (d : Document) (st : Store) :
    (performAll patches (earlier ++ later) d st).document =
      (performAll patches later (performAll patches earlier d st).document
        (performAll patches earlier d st).store).document := by
  induction earlier generalizing d st with
  | nil => rfl
  | cons step earlier ih => simp [performAll, ih]

/-- Drawing calls are carried out as by the backend. Storing the document in the middle of them,
with success or not, makes no difference to it. -/
theorem document_performAll (steps : List DrawingStep) (d : Document) (st : Store) :
    (performAll patches steps d st).document =
      (patches.apply Document.backend).drawEach (steps.filterMap DrawingStep.command?) d := by
  induction steps generalizing d st with
  | nil => rfl
  | cons step steps ih =>
    cases step with
    | draw command => exact ih _ _
    | output name => exact ih _ _

end

/-! ## Patched cells -/

/-- The text that a cell draws: its own if the font has all of it, and otherwise, where cells are
tried again, the one with question marks. -/
inductive Attempted (retries : Bool) (text : List Char) : List Char → Prop
  | asGiven (h : ∀ c ∈ text, isLatin1 c = true) : Attempted retries text text
  | again (on : retries = true) (h : ∃ c ∈ text, isLatin1 c = false) :
    Attempted retries text (latin1Lossy text)

theorem Attempted.isLatin1 {retries : Bool} {text drawn : List Char}
    (h : Attempted retries text drawn) : ∀ c ∈ drawn, isLatin1 c = true := by
  cases h with
  | asGiven h => exact h
  | again => exact fun c hc => isLatin1_of_mem_latin1Lossy hc

/-- A text that the font has is drawn as it is given. -/
theorem Attempted.eq_of_isLatin1 {retries : Bool} {text drawn : List Char}
    (h : Attempted retries text drawn) (hlatin : ∀ ch ∈ text, Text.isLatin1 ch = true) :
    drawn = text := by
  cases h with
  | asGiven => rfl
  | again _ hex =>
    obtain ⟨ch, hmem, hch⟩ := hex
    rw [hlatin ch hmem] at hch
    cases hch

/-- A cell call of the backend is one call of the document; if it fails, the document is as
before. -/
structure DrawsAsDocument (retries : Bool) (b : Backend Document) : Prop where
  ok : ∀ {c : Cell} {d d' : Document}, b.cell c d = (.ok (), d') →
    ∃ text, Attempted retries c.text text ∧ d.cell ⟨c.width, c.height, text⟩ = .ok d'
  error : ∀ {c : Cell} {d d' : Document} {e : DrawError}, b.cell c d = (.error e, d') → d' = d

/-- Preparing a text drops nothing but carriage returns and tabs. -/
theorem mem_prepare_of_mem {s : List Char} {c : Char} (h : c ∈ s) :
    c ∈ prepare s ∨ c = '\r' ∨ c = '\t' := by
  fun_induction prepare s <;> grind

/-- Preparing a text drops no character without a byte. -/
theorem isLatin1_of_prepare {s : List Char} (h : ∀ c ∈ prepare s, isLatin1 c = true) :
    ∀ c ∈ s, isLatin1 c = true := by
  intro c hc
  rcases mem_prepare_of_mem hc with hmem | rfl | rfl
  · exact h c hmem
  · decide
  · decide

theorem isLatin1_of_cell {c : Cell} {d d' : Document} (h : d.cell c = .ok d') :
    ∀ ch ∈ c.text, isLatin1 ch = true :=
  isLatin1_of_prepare (exists_laid_of_cell h).1

theorem backend_cell_eq_ok {c : Cell} {d d' : Document}
    (h : Document.backend.cell c d = (.ok (), d')) : d.cell c = .ok d' := by
  simp only [Document.backend] at h
  split at h
  · obtain rfl := (Prod.mk.inj h).2
    assumption
  · cases h

theorem backend_cell_eq_error {c : Cell} {d d' : Document} {e : DrawError}
    (h : Document.backend.cell c d = (.error e, d')) : d.cell c = .error e ∧ d' = d := by
  simp only [Document.backend] at h
  split at h
  · cases h
  · cases h
    exact ⟨by assumption, rfl⟩

theorem drawsAsDocument_backend (retries : Bool) : DrawsAsDocument retries Document.backend where
  ok {c _ _} h :=
    have drawn := backend_cell_eq_ok h
    ⟨c.text, .asGiven (isLatin1_of_cell drawn), drawn⟩
  error h := (backend_cell_eq_error h).2

/-- A cell is only drawn again with another text: one without characters that the font lacks stays
as it is, and the second attempt fails like the first. -/
theorem drawsAsDocument_encodingFallback :
    DrawsAsDocument true (encodingFallback Document.backend) where
  ok {c d d'} h := by
    simp only [encodingFallback] at h
    split at h
    · rename_i failed
      obtain ⟨hfirst, rfl⟩ := backend_cell_eq_error failed
      split at h
      · split at h
        · rename_i drawn
          obtain rfl := (Prod.mk.inj h).2
          have hsecond := backend_cell_eq_ok drawn
          refine ⟨latin1Lossy c.text, .again rfl ?_, hsecond⟩
          by_contra hall
          have hlatin : ∀ ch ∈ c.text, isLatin1 ch = true := by simpa using hall
          rw [latin1Lossy_eq_self hlatin, hfirst] at hsecond
          cases hsecond
        · cases h
      · cases h
    · exact (drawsAsDocument_backend true).ok h
  error {c d d' e} h := by
    simp only [encodingFallback] at h
    split at h
    · rename_i failed
      obtain ⟨-, rfl⟩ := backend_cell_eq_error failed
      split at h
      · split at h
        · cases h
        · rename_i failed'
          rw [← (Prod.mk.inj h).2, (backend_cell_eq_error failed').2]
      · exact (Prod.mk.inj h).2.symm
    · exact (drawsAsDocument_backend true).error h

/-- The backend with the encoding patch, if that is on, and no other. -/
def Page.PatchSet.encoder (patches : PatchSet) : Backend Document :=
  PatchSet.apply ⟨false, patches.encodingFallback⟩ Document.backend

theorem drawsAsDocument_encoder (patches : PatchSet) :
    DrawsAsDocument patches.encodingFallback patches.encoder := by
  unfold PatchSet.encoder
  cases patches.encodingFallback with
  | false => exact drawsAsDocument_backend false
  | true => exact drawsAsDocument_encodingFallback

/-! ### Where a patched cell begins -/

namespace Page.PatchSet

/-- Whether the width patch breaks the line in front of a cell: the cell asks for the rest of the
line, and almost nothing is left of it. -/
def breaksLine (p : PatchSet) (c : Cell) (d : Document) : Bool :=
  p.zeroWidthCell && Binary32.eq c.width 0 &&
    Binary32.lt (Document.backend.remainingWidth d) minCellWidth

def start (p : PatchSet) (c : Cell) (d : Document) : Document :=
  if p.breaksLine c d then d.newLine .none else d

def width (p : PatchSet) (c : Cell) (d : Document) : Binary32 :=
  if p.zeroWidthCell && Binary32.eq c.width 0 then Document.backend.remainingWidth (p.start c d)
  else c.width

theorem start_eq_or (p : PatchSet) (c : Cell) (d : Document) :
    p.start c d = d ∨ p.start c d = d.newLine .none := by
  unfold start
  split
  · exact .inr rfl
  · exact .inl rfl

@[simp] theorem pages_start (p : PatchSet) (c : Cell) (d : Document) :
    (p.start c d).pages = d.pages := by
  unfold start
  split <;> rfl

@[simp] theorem family_start (p : PatchSet) (c : Cell) (d : Document) :
    (p.start c d).family = d.family := by
  unfold start
  split <;> rfl

/-- The width patch gives a cell another width, and may break the line in front of it. -/
theorem apply_cell_eq (p : PatchSet) (c : Cell) (d : Document) :
    (p.apply Document.backend).cell c d =
      p.encoder.cell ⟨p.width c d, c.height, c.text⟩ (p.start c d) := by
  obtain ⟨zeroWidth, encoding⟩ := p
  cases zeroWidth with
  | false => rfl
  | true =>
    have line : (encoder ⟨true, encoding⟩).newLine = Document.newLine := by
      cases encoding <;> rfl
    have rest : (encoder ⟨true, encoding⟩).remainingWidth = Document.backend.remainingWidth := by
      cases encoding <;> rfl
    change (Page.zeroWidthCell (encoder ⟨true, encoding⟩)).cell c d = _
    simp only [Page.zeroWidthCell, line, rest, width, start, breaksLine, Bool.true_and]
    cases Binary32.eq c.width 0 <;> simp

/-- A cell that is drawn without patches is drawn in the same way with the encoding patch. -/
theorem encoder_cell_of_ok (p : PatchSet) {c : Cell} {d d' : Document} (h : d.cell c = .ok d') :
    p.encoder.cell c d = (.ok (), d') := by
  unfold encoder
  cases p.encodingFallback with
  | false => exact Document.backend_cell_of_ok h
  | true => exact Document.encodingFallback_cell_of_ok h

/-- What is left of the line at the left margin is a whole line. -/
theorem remainingWidth_of_atMargin {d : Document} (h : d.x = margin) :
    Document.backend.remainingWidth d = Document.lineWidth := by
  simp only [Backend.remainingWidth, Document.backend, h, Document.lineWidth]

/-- At the left margin no line is broken. -/
theorem start_of_atMargin (p : PatchSet) (c : Cell) {d : Document} (h : d.x = margin) :
    p.start c d = d := by
  have wide : Binary32.lt Document.lineWidth minCellWidth = false := by decide +kernel
  simp [start, breaksLine, remainingWidth_of_atMargin h, wide]

end Page.PatchSet

/-- A cell over the rest of the line that is drawn from the left margin is drawn in the same way
under all patches. -/
theorem Page.Document.apply_cell (patches : PatchSet) {d d' : Document} {height : Binary32}
    {text : List Char} (hx : d.x = margin) (h : d.cell ⟨0, height, text⟩ = .ok d') :
    (patches.apply Document.backend).cell ⟨0, height, text⟩ d = (.ok (), d') := by
  rw [patches.apply_cell_eq, patches.start_of_atMargin _ hx]
  refine patches.encoder_cell_of_ok ?_
  rw [PatchSet.width, patches.start_of_atMargin _ hx, PatchSet.remainingWidth_of_atMargin hx]
  split
  · rw [Document.cell_lineWidth hx, h]
  · exact h

/-- A cell that is drawn under patches is drawn by one call of the document, from the cursor or from
the beginning of the next line. -/
theorem exists_cell_of_apply_ok {patches : PatchSet} {c : Cell} {d d' : Document}
    (h : (patches.apply Document.backend).cell c d = (.ok (), d')) :
    ∃ start width text, (start = d ∨ start = d.newLine none) ∧
      Attempted patches.encodingFallback c.text text ∧
      start.cell ⟨width, c.height, text⟩ = .ok d' := by
  rw [patches.apply_cell_eq] at h
  obtain ⟨text, attempted, drawn⟩ := (drawsAsDocument_encoder patches).ok h
  exact ⟨patches.start c d, patches.width c d, text, patches.start_eq_or c d, attempted, drawn⟩

/-- Of a cell that fails under patches nothing stays but the line that was broken in front of
it. -/
theorem eq_start_of_apply_error {patches : PatchSet} {c : Cell} {d d' : Document} {e : DrawError}
    (h : (patches.apply Document.backend).cell c d = (.error e, d')) : d' = patches.start c d := by
  rw [patches.apply_cell_eq] at h
  exact (drawsAsDocument_encoder patches).error h

theorem pages_of_apply_error {patches : PatchSet} {c : Cell} {d d' : Document} {e : DrawError}
    (h : (patches.apply Document.backend).cell c d = (.error e, d')) : d'.pages = d.pages := by
  rw [eq_start_of_apply_error h, patches.pages_start]

/-! ## Lines of a run -/

/-- The lines that a step laid: those of its prepared and wrapped text if it is a cell that
succeeded, and none otherwise. A patch may have broken the line in front of the cell. -/
inductive Accounts (patches : PatchSet) : PerformedStep → List Laying → Prop
  | cell (c : Cell) (before start after : Document) (text : List Char) (k : Nat)
    (hstart : start = before ∨ start = before.newLine none)
    (attempted : Attempted patches.encodingFallback c.text text) (hk : 1 ≤ k) :
    Accounts patches ⟨.draw (.cell c), before, .ok (), after⟩
      (start.laid (start.x + padding) (start.cellHeight c.height) (wrap k (prepare text)))
  | failed (c : Cell) (before after : Document) (e : DrawError) :
    Accounts patches ⟨.draw (.cell c), before, .error e, after⟩ []
  | other (step : DrawingStep) (before after : Document) (result : Except DrawError Unit)
    (h : ∀ c, step ≠ .draw (.cell c)) :
    Accounts patches ⟨step, before, result, after⟩ []

/-- The characters of a line have a byte each, and none of them ends a line. -/
theorem Accounts.plain {patches : PatchSet} {p : PerformedStep} {ls : List Laying}
    (h : Accounts patches p ls) : ∀ l ∈ ls, ∀ c ∈ l.text, isLatin1 c = true ∧ c ≠ '\n' := by
  cases h with
  | cell _ _ start _ text k _ attempted =>
    intro l hl c hc
    have hline : l.text ∈ wrap k (prepare text) := by
      have := List.mem_map_of_mem (f := Laying.text) hl
      rwa [map_text_laid] at this
    obtain ⟨hmem, hne⟩ := mem_of_mem_wrap hline hc
    exact ⟨isLatin1_prepare attempted.isLatin1 c hmem, hne⟩
  | failed => simp
  | other => simp

theorem plain_of_accounts {patches : PatchSet} {ps : List PerformedStep}
    {layings : List (List Laying)} (h : List.Forall₂ (Accounts patches) ps layings) :
    ∀ l ∈ layings.flatten, ∀ c ∈ l.text, isLatin1 c = true ∧ c ≠ '\n' := by
  induction h with
  | nil => simp
  | cons account _ ih => exact List.forall_mem_append.2 ⟨account.plain, ih⟩

/-- A call that is no cell draws nothing. -/
theorem gains_run {patches : PatchSet} {command : Command} (h : ∀ c, command ≠ .cell c)
    (d : Document) :
    Gains d.pages [] ((patches.apply Document.backend).run command d).2.pages := by
  rw [Document.apply_run patches command h]
  cases command with
  | addPage => exact .addPage d.pages
  | setFont family size => exact Document.pages_setFont family size d ▸ .refl d.pages
  | setFontSize size => exact Document.pages_setFontSize size d ▸ .refl d.pages
  | setColor color => exact .refl d.pages
  | newLine height => exact .refl d.pages
  | cell c => exact absurd rfl (h c)

/-- What one step does. -/
theorem accounts_perform (patches : PatchSet) (step : DrawingStep) (d : Document) (st : Store) :
    ∃ ls, Accounts patches
        ⟨step, d, (step.perform patches d st).1, (step.perform patches d st).2.1⟩ ls ∧
      Gains d.pages ls (step.perform patches d st).2.1.pages := by
  cases step with
  | output name => exact ⟨[], .other _ _ _ _ (by simp), .refl _⟩
  | draw command =>
    by_cases hcell : ∃ c, command = .cell c
    · obtain ⟨c, rfl⟩ := hcell
      change ∃ ls, Accounts patches ⟨_, d, ((patches.apply Document.backend).cell c d).1,
        ((patches.apply Document.backend).cell c d).2⟩ ls ∧
          Gains d.pages ls ((patches.apply Document.backend).cell c d).2.pages
      rcases hcall : (patches.apply Document.backend).cell c d with ⟨result, d'⟩
      cases result with
      | ok =>
        obtain ⟨start, width, text, hstart, attempted, drawn⟩ := exists_cell_of_apply_ok hcall
        obtain ⟨-, k, hk, gained⟩ := exists_laid_of_cell drawn
        have hpages : start.pages = d.pages := by rcases hstart with rfl | rfl <;> rfl
        exact ⟨_, .cell c d start d' text k hstart attempted hk, hpages ▸ gained⟩
      | error e => exact ⟨[], .failed c d d' e, pages_of_apply_error hcall ▸ .refl _⟩
    · have other : ∀ c, command ≠ .cell c := fun c hc => hcell ⟨c, hc⟩
      exact ⟨[], .other _ _ _ _ (by simpa using other), gains_run other d⟩

/-- What a run does. -/
theorem accounts_performAll (patches : PatchSet) (steps : List DrawingStep) (d : Document)
    (st : Store) :
    ∃ layings, List.Forall₂ (Accounts patches) (performAll patches steps d st).performed layings ∧
      Gains d.pages layings.flatten (performAll patches steps d st).document.pages := by
  induction steps generalizing d st with
  | nil => exact ⟨[], .nil, .refl _⟩
  | cons step steps ih =>
    obtain ⟨ls, account, gained⟩ := accounts_perform patches step d st
    obtain ⟨layings, accounts, gained'⟩ :=
      ih (step.perform patches d st).2.1 (step.perform patches d st).2.2
    exact ⟨ls :: layings, .cons account accounts, gained.trans gained'⟩

/-! ## Pages of a run -/

/-- Each page shows the texts of its marks if none of them ends a line. -/
theorem mapM_shownStrings? {pages : List (List Mark)}
    (h : ∀ text ∈ pages.flatten.map Mark.text, '\n' ∉ text) :
    pages.mapM (fun page => shownStrings? (pageContent page)) =
      some (pages.map (·.map Mark.text)) := by
  refine mapM_eq_some_map fun page hpage => shownStrings?_pageContent fun m hm => ?_
  exact h m.text (List.mem_map_of_mem (List.mem_flatten_of_mem hpage hm))

/-- The pages of a document show the lines of the cells that succeeded and nothing else, each in a
text object of its own and with a byte for each character. A line that would have reached into the
bottom margin is the first of a page that was opened for it, and a mark stays where it is once it is
drawn. -/
theorem drawing_keeps_text (patches : PatchSet) (steps : List DrawingStep) (st : Store) :
    ∃ layings : List (List Laying),
      (performAll patches steps .empty st).performed.map PerformedStep.step = steps ∧
      List.Forall₂ (Accounts patches) (performAll patches steps .empty st).performed layings ∧
      (∃ strings,
        (performAll patches steps .empty st).document.pages.mapM
          (fun page => shownStrings? (pageContent page)) = some strings ∧
        strings.flatten = (layings.flatten.map Laying.text).filter (· ≠ [])) ∧
      (∀ l ∈ layings.flatten,
        (latin1Bytes l.text).map UInt8.toNat = l.text.map Char.toNat ∧
        (l.text ≠ [] → l.Placed (performAll patches steps .empty st).document.pages)) ∧
      ∀ earlier later, steps = earlier ++ later →
        Continues (performAll patches earlier .empty st).document.pages
          (performAll patches steps .empty st).document.pages := by
  obtain ⟨layings, accounts, gained⟩ := accounts_performAll patches steps .empty st
  have plain := plain_of_accounts accounts
  have texts : (performAll patches steps .empty st).document.pages.flatten.map Mark.text =
      (layings.flatten.map Laying.text).filter (· ≠ []) := gained.texts
  refine ⟨layings, map_step_performed .., accounts, ⟨_, mapM_shownStrings? ?_, ?_⟩, ?_, ?_⟩
  · intro text htext hnewline
    rw [texts] at htext
    obtain ⟨l, hl, rfl⟩ := List.mem_map.1 (List.mem_filter.1 htext).1
    exact (plain l hl _ hnewline).2 rfl
  · rw [← texts, List.map_flatten]
  · exact fun l hl => ⟨map_toNat_latin1Bytes fun c hc => (plain l hl c hc).1, gained.placed l hl⟩
  · rintro earlier later rfl
    rw [document_performAll_append]
    obtain ⟨_, -, later⟩ := accounts_performAll patches later
      (performAll patches earlier .empty st).document (performAll patches earlier .empty st).store
    exact later.continues

end ScriptPress
