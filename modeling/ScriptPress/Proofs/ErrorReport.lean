import ScriptPress.Proofs.ConversionCourse
import ScriptPress.Proofs.DrawingRun
import ScriptPress.Proofs.FileStream

/-!
# The error report

The last document that a request can deliver depends on a single call of the store. At every font
size that a script may ask for, nothing of the error line and of the source is skipped or lost in
the file that is stored, and the patches make no difference.

## Main definitions

* `readsAt` — the font sizes from 1 to 400, and no size.
* `Ready` — a document that is ready for a cell over a whole line.
* `Page.Document.sheet` — the page on which reports and printed texts are drawn.

## Main statements

* `exists_report_eq`, `exists_shownIn?_report` — what the report shows.
* `writeReport_access` — how the report is kept.
* `writeReport_complete` — both.
-/

namespace ScriptPress

open Conversion Page Page.Document Text

/-! ## Font sizes -/

/-- A font size of 1 to 400 points, or none. -/
def readsAt (fontSize : Option UInt32) : Prop := ∀ size ∈ fontSize, 1 ≤ size ∧ size ≤ 400

/-- A character of the report fits on a line. -/
theorem room_of_le_400 : ∀ n < 401, 0 < n → Binary32.lt 0 (.ofNat n) = true ∧
    Binary32.lt (usableWidth lineWidth)
      (Binary32.ofNat FontFamily.courier.advance / 1000 * .ofNat n / pointsPerMm) = false := by
  decide +kernel

theorem room_of_readsAt {fontSize : Option UInt32} (h : readsAt fontSize) :
    Binary32.lt 0 (documentFontSize fontSize) = true ∧
    Binary32.lt (usableWidth lineWidth) (Binary32.ofNat FontFamily.courier.advance / 1000 *
      documentFontSize fontSize / pointsPerMm) = false := by
  cases fontSize with
  | none => exact room_of_le_400 12 (by decide) (by decide)
  | some size =>
    obtain ⟨hpos, hle⟩ := h size rfl
    have hpos : 1 ≤ size.toNat := by simpa [UInt32.le_iff_toNat_le] using hpos
    have hle : size.toNat ≤ 400 := by simpa [UInt32.le_iff_toNat_le] using hle
    exact room_of_le_400 size.toNat (by omega) (by omega)

/-! ## The drawing calls of the report -/

/-- A document that is ready for a cell over a whole line of the report. -/
structure Ready (size : Binary32) (color : Color) (d : Document) : Prop where
  hasPage : d.pages ≠ []
  atMargin : d.x = margin
  family : d.family = .courier
  fontSize : d.fontSize = size
  color : d.color = color

/-- A cell of the report is drawn with question marks for what has no byte. -/
theorem Ready.exists_cell_lossy {size : Binary32} {color : Color} {d : Document}
    (ready : Ready size color d)
    (hroom : Binary32.lt (usableWidth lineWidth)
      (Binary32.ofNat FontFamily.courier.advance / 1000 * size / pointsPerMm) = false)
    (text : List Char) :
    ∃ d', d.cell ⟨0, Page.lineHeight size, latin1Lossy text⟩ = .ok d' := by
  have hwidth : Binary32.lt (usableWidth (d.cellWidth 0)) d.charWidth = false := by
    rw [cellWidth_zero ready.atMargin, charWidth, ready.family, ready.fontSize, hroom]
  exact exists_cell_eq_ok (c := ⟨0, Page.lineHeight size, latin1Lossy text⟩)
    ready.hasPage (fun _ => isLatin1_of_mem_latin1Lossy) hwidth

/-- A cell of the report is drawn in the same way under all patches, and shows all of its ink in
characters that a line can have. -/
theorem Ready.exists_run_cell {size : Binary32} {color : Color} {d : Document}
    (ready : Ready size color d)
    (hroom : Binary32.lt (usableWidth lineWidth)
      (Binary32.ofNat FontFamily.courier.advance / 1000 * size / pointsPerMm) = false)
    (text : List Char) :
    ∃ d' marks, (∀ patches : PatchSet, (patches.apply Document.backend).run
        (restOfLine size (latin1Lossy text)) d = (.ok (), d')) ∧
      d.Draws marks d' ∧ (d.IsPlain → d'.IsPlain) ∧
      withoutSpaces (shown marks) = ink (latin1Lossy text) := by
  obtain ⟨d', hcell⟩ := ready.exists_cell_lossy hroom text
  obtain ⟨marks, drawn, hshown⟩ := draws_of_cell hcell
  exact ⟨d', marks, fun patches => apply_cell patches ready.atMargin hcell, drawn,
    fun plain => plain.cell hcell, hshown⟩

def Page.Document.sheet (size : Binary32) : Document := (empty.addPage).setFont .courier size

theorem flatten_pages_sheet (size : Binary32) : (sheet size).pages.flatten = [] := by
  rw [sheet, pages_setFont]
  rfl

theorem isPlain_sheet (size : Binary32) : (sheet size).IsPlain := by
  simp [IsPlain, flatten_pages_sheet]

theorem ready_sheet {size : Binary32} (hpos : Binary32.lt 0 size = true) :
    Ready size .ink (sheet size) := by
  constructor <;> simp [sheet, addPage, setFont, setFontSize, empty, hpos]

theorem Ready.setColor {size : Binary32} {color : Color} {d : Document}
    (ready : Ready size color d) (color' : Color) : Ready size color' (d.setColor color') :=
  ⟨ready.hasPage, ready.atMargin, ready.family, ready.fontSize, rfl⟩

theorem drawEach_append {σ : Type} (b : Backend σ) (commands commands' : List Command) (s : σ) :
    b.drawEach (commands ++ commands') s = b.drawEach commands' (b.drawEach commands s) :=
  List.foldl_append

/-- The drawing calls of the report in front of those for the source. -/
def headlineCommands (message : String) (size : Binary32) : List Command :=
  [.addPage, .setFont .courier size, .setColor .alarm,
    restOfLine size (latin1Lossy ("ERROR: ".toList ++ message.toList)),
    .newLine (some reportGap), .setColor .ink]

theorem reportCommands_eq_append (message source : String) (size : Binary32) :
    reportCommands message source size = headlineCommands message size ++
      if source.isEmpty then [] else [restOfLine size (latin1Lossy source.toList)] :=
  rfl

theorem exists_headline (message : String) {size : Binary32} (hpos : Binary32.lt 0 size = true)
    (hroom : Binary32.lt (usableWidth lineWidth)
      (Binary32.ofNat FontFamily.courier.advance / 1000 * size / pointsPerMm) = false) :
    ∃ (below : Document) (headline : List Mark),
      (∀ patches : PatchSet, (patches.apply Document.backend).drawEach
        (headlineCommands message size) empty = below) ∧
      Ready size .ink below ∧ below.IsPlain ∧ below.pages.flatten = headline ∧
      (∀ m ∈ headline, m.color = .alarm) ∧
      withoutSpaces (shown headline) = ink (latin1Lossy ("ERROR: ".toList ++ message.toList)) := by
  have ready : Ready size .alarm ((sheet size).setColor .alarm) :=
    (ready_sheet hpos).setColor .alarm
  obtain ⟨headed, headline, hrun, drawn, plain, hshown⟩ :=
    ready.exists_run_cell hroom ("ERROR: ".toList ++ message.toList)
  refine ⟨(headed.newLine (some reportGap)).setColor .ink, headline, fun patches => ?_, ?_,
    plain (isPlain_sheet size), ?_, ?_, hshown⟩
  · simp only [headlineCommands, Backend.drawEach, List.foldl_cons, List.foldl_nil]
    rw [apply_run patches .addPage (by simp), apply_run patches (.setFont .courier size) (by simp),
      apply_run patches (.setColor .alarm) (by simp),
      apply_run patches (.newLine (some reportGap)) (by simp),
      apply_run patches (.setColor .ink) (by simp)]
    exact congrArg (fun r => ((r.2 : Document).newLine (some reportGap)).setColor .ink)
      (hrun patches)
  · exact ⟨drawn.hasPage, rfl, drawn.family.trans ready.family,
      drawn.fontSize.trans ready.fontSize, rfl⟩
  · have := drawn.pages
    rwa [pages_setColor, flatten_pages_sheet, List.nil_append] at this
  · intro m hm
    rw [drawn.colored m hm, ready.color]

/-- The report shows all ink of the error line in red, then all ink of the source in black,
whichever patches are on. -/
theorem exists_report_eq (d : Diagnosis) (source : String) {fontSize : Option UInt32}
    (h : readsAt fontSize) :
    ∃ (document : Document) (headline listing : List Mark),
      (∀ patches, d.report patches source fontSize = document) ∧ document.IsPlain ∧
      document.pages.flatten = headline ++ listing ∧
      (∀ m ∈ headline, m.color = .alarm) ∧ (∀ m ∈ listing, m.color = .ink) ∧
      withoutSpaces (shown headline) =
        ink (latin1Lossy ("ERROR: ".toList ++ d.message.toList)) ∧
      withoutSpaces (shown listing) = ink (latin1Lossy source.toList) := by
  obtain ⟨hpos, hroom⟩ := room_of_readsAt h
  obtain ⟨below, headline, hhead, ready, plain, hpages, hred, hshown⟩ :=
    exists_headline d.message hpos hroom
  by_cases hempty : source = ""
  · refine ⟨below, headline, [], fun patches => ?_, plain, by simpa using hpages, hred, by simp,
      hshown, by simp [hempty, shown, withoutSpaces, ink, latin1Lossy]⟩
    rw [Diagnosis.report, reportCommands_eq_append, hempty]
    exact hhead patches
  · obtain ⟨listed, listing, hrun, drawn, keeps, hshown'⟩ :=
      ready.exists_run_cell hroom source.toList
    refine ⟨listed, headline, listing, fun patches => ?_, keeps plain, ?_, hred, ?_, hshown,
      hshown'⟩
    · have hsource : source.isEmpty = false := by simpa using hempty
      rw [Diagnosis.report, reportCommands_eq_append, hsource, drawEach_append, hhead patches]
      exact congrArg Prod.snd (hrun patches)
    · rw [drawn.pages, hpages]
    · intro m hm
      rw [drawn.colored m hm, ready.color]

theorem flatMap_text_shownText (marks : List Mark) :
    (marks.map Mark.shownText).flatMap ShownText.text = shown marks := by
  rw [List.flatMap_map]
  rfl

/-- The file of the report shows all ink of the error line in red, then all ink of the source in
black. -/
theorem exists_shownIn?_report (d : Diagnosis) (source : String) {fontSize : Option UInt32}
    (h : readsAt fontSize) :
    ∃ (document : Document) (headline listing : List ShownText),
      (∀ patches, d.report patches source fontSize = document) ∧
      shownIn? document.bytes = some (headline ++ listing) ∧
      (∀ shown ∈ headline, shown.fill = "1 0 0 rg".toList) ∧
      (∀ shown ∈ listing, shown.fill = "0 0 0 rg".toList) ∧
      withoutSpaces (headline.flatMap ShownText.text) =
        ink (latin1Lossy ("ERROR: ".toList ++ d.message.toList)) ∧
      withoutSpaces (listing.flatMap ShownText.text) = ink (latin1Lossy source.toList) := by
  obtain ⟨document, headline, listing, same, plain, hpages, hred, hblack, hshown, hshown'⟩ :=
    exists_report_eq d source h
  have red : Color.alarm.fill = "1 0 0 rg".toList := by decide +kernel
  have black : Color.ink.fill = "0 0 0 rg".toList := by decide +kernel
  refine ⟨document, headline.map Mark.shownText, listing.map Mark.shownText, same, ?_, ?_, ?_, ?_,
    ?_⟩
  · rw [shownIn?_bytes plain, hpages, List.map_append]
  · simp only [List.forall_mem_map]
    intro m hm
    rw [Mark.shownText, hred m hm, red]
  · simp only [List.forall_mem_map]
    intro m hm
    rw [Mark.shownText, hblack m hm, black]
  · rw [flatMap_text_shownText, hshown]
  · rw [flatMap_text_shownText, hshown']

/-! ## The report in the store -/

/-- The report is kept by one call of the store, and there is one exactly when this succeeds. -/
theorem writeReport_access {σ : Type} (d : Diagnosis) (source : String)
    (fontSize : Option UInt32) (s : Session σ) :
    let write := s.sandbox.store.write reportName
      (d.report s.sandbox.patches source fontSize).bytes
    entries (writeReport d source fontSize) s = [.accessed .request (.write reportName
        (d.report s.sandbox.patches source fontSize).bytes) write.1.isOk] ∧
    (∀ name, (writeReport d source fontSize s).1 = .ok name ↔
      name = reportName ∧ write.1 = .ok ()) ∧
    (writeReport d source fontSize s).2.sandbox.store = write.2 := by
  intro write
  obtain ⟨leads, written⟩ := (meets_writeReport d source fontSize s).run
  rcases written with ⟨e, result, added⟩ | ⟨result, added, -⟩
  · rw [added] at leads
    obtain ⟨fits, effect⟩ := leads.store.of_single
    have failed : write.1.isOk = false := fits
    refine ⟨by rw [added, failed], fun name => ?_, effect.symm⟩
    rw [result]
    cases h : write.1 <;> simp_all [Except.isOk, Except.toBool]
  · rw [added] at leads
    obtain ⟨fits, effect⟩ := leads.store.of_single
    have succeeded : write.1.isOk = true := fits
    refine ⟨by rw [added, succeeded], fun name => ?_, effect.symm⟩
    rw [result]
    cases h : write.1 with
    | error e => simp [h, Except.isOk, Except.toBool] at succeeded
    | ok _ => simp [eq_comm]

/-- For every diagnosis, source, font size and store, the report is there exactly when its one call
of the store succeeds, which changes no other file. At a font size from 1 to 400, and at none, its
file shows the error line in red and behind it the source in black without a loss of ink, the same
under all patches. -/
theorem writeReport_complete (d : Diagnosis) (source : String) (fontSize : Option UInt32) :
    (∀ {σ : Type} (s : Session σ),
      let bytes := (d.report s.sandbox.patches source fontSize).bytes
      let write := s.sandbox.store.write reportName bytes
      let s' := (writeReport d source fontSize s).2
      entries (writeReport d source fontSize) s =
          [.accessed .request (.write reportName bytes) write.1.isOk] ∧
        (∀ name, (writeReport d source fontSize s).1 = .ok name ↔
          name = reportName ∧ write.1 = .ok ()) ∧
        (write.1 = .ok () → s'.sandbox.store.Holds reportName bytes) ∧
        ∀ name ≠ reportName, ∀ content,
          s'.sandbox.store.Holds name content ↔ s.sandbox.store.Holds name content) ∧
    (readsAt fontSize → ∃ (document : Document) (headline listing : List ShownText),
      (∀ patches, d.report patches source fontSize = document) ∧
      shownIn? document.bytes = some (headline ++ listing) ∧
      (∀ shown ∈ headline, shown.fill = "1 0 0 rg".toList) ∧
      (∀ shown ∈ listing, shown.fill = "0 0 0 rg".toList) ∧
      withoutSpaces (headline.flatMap ShownText.text) =
        ink (latin1Lossy ("ERROR: ".toList ++ d.message.toList)) ∧
      withoutSpaces (listing.flatMap ShownText.text) = ink (latin1Lossy source.toList)) := by
  refine ⟨fun {σ} s => ?_, exists_shownIn?_report d source⟩
  intro bytes write s'
  obtain ⟨added, result, store⟩ := writeReport_access d source fontSize s
  refine ⟨added, result, fun ok => ?_, fun name hname content => ?_⟩
  · have holds := Store.holds_write_iff s.sandbox.store reportName reportName bytes bytes
    have isOk : write.1.isOk = true := by rw [ok]; rfl
    rw [store]
    exact holds.2 (by rw [if_pos ⟨isOk, rfl⟩])
  · rw [store, Store.holds_write_iff, if_neg fun h => hname h.2]

/-- A report at the largest size, with a tab, line endings of two kinds and a character that the
fonts lack. -/
theorem writeReport_complete_at_400 :
    readsAt (some 400) ∧ ∃ (document : Document) (headline listing : List ShownText),
      (∀ patches, (Diagnosis.system "no disk").report patches "a\tb\r\nλ" (some 400) = document) ∧
      shownIn? document.bytes = some (headline ++ listing) ∧
      (∀ shown ∈ headline, shown.fill = "1 0 0 rg".toList) ∧
      (∀ shown ∈ listing, shown.fill = "0 0 0 rg".toList) ∧
      withoutSpaces (headline.flatMap ShownText.text) = "ERROR:nodisk".toList ∧
      withoutSpaces (listing.flatMap ShownText.text) = "ab?".toList :=
  have reads : readsAt (some 400) := by
    intro size h
    obtain rfl : 400 = size := by simpa using h
    decide
  ⟨reads, (writeReport_complete (.system "no disk") "a\tb\r\nλ" (some 400)).2 reads⟩

end ScriptPress
