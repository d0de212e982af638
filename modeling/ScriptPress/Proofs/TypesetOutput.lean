import ScriptPress.Proofs.AutoInvocation
import ScriptPress.Proofs.ErrorReport
import ScriptPress.Proofs.RefusedCell

/-!
# Printed text as a document

A script that saved nothing but printed something is delivered with a document of what it printed.
The document is drawn in one cell, as the script itself would draw it: with the patches that are on,
and without question marks put in beforehand. So it is the encoding patch that decides what becomes
of a text with characters that the fonts lack. With the patch they are shown as question marks;
without it the text cannot be drawn, and the request is told that its output could not be typeset.

Nothing else can go wrong. At every font size that a script may ask for, there is room for a
character on the page, and the cell begins at the left margin, where the width patch changes
nothing.

## Main definitions

* `PatchSet.CanShow` — the patches allow a text to be drawn.
* `ShowsInk` — the pages of a file show the ink of a text and nothing else.

## Main statements

* `apply_cell_of_lossy`, `apply_cell_of_unencodable` — what the encoding patch makes of a cell.
* `exists_printout_eq_ok`, `exists_printout_eq_error` — printed text as a document.
* `printed_text_delivered_iff` — what a script has to print in order to have it delivered.
* `arrow_undelivered` — a printed text that is not delivered.
-/

namespace ScriptPress

open Conversion Page Page.Document Text

/-! ## The encoding patch -/

namespace Page

/-- The patches allow a text to be drawn: its characters are replaced where the fonts lack them, or
the fonts have them all. -/
def PatchSet.CanShow (p : PatchSet) (text : List Char) : Prop :=
  p.encodingFallback = true ∨ ∀ ch ∈ text, isLatin1 ch = true

variable {p : PatchSet} {c : Cell} {d d' : Document}

/-- Where the encoding patch is on, a cell is drawn if it is with question marks. The width patch
does not look at the text, and gives both the same place and width. -/
theorem apply_cell_of_lossy (on : p.encodingFallback = true)
    (h : (p.apply Document.backend).cell c.lossy d = (.ok (), d')) :
    (p.apply Document.backend).cell c d = (.ok (), d') := by
  rw [p.apply_cell_eq] at h ⊢
  obtain ⟨text, attempted, drawn⟩ := (drawsAsDocument_encoder p).ok h
  obtain rfl : text = latin1Lossy c.text :=
    attempted.eq_of_isLatin1 fun _ => isLatin1_of_mem_latin1Lossy
  have again := encodingFallback_cell_of_lossy (c := ⟨p.width c d, c.height, c.text⟩) drawn
  rw [PatchSet.encoder, on]
  exact again

/-- Where the encoding patch is off, a cell is refused for its first character that has no byte. -/
theorem apply_cell_of_unencodable (off : p.encodingFallback = false) (hpages : d.pages ≠ [])
    {front rest : List Char} {ch : Char} (htext : c.text = front ++ ch :: rest)
    (hfront : ∀ b ∈ front, isLatin1 b = true) (hch : isLatin1 ch = false) :
    (p.apply Document.backend).cell c d =
      (.error (.encoding ch (prepare front).length d.family.baseFont), p.start c d) := by
  have hstart : (p.start c d).pages ≠ [] := by rwa [p.pages_start]
  have refused := Document.cell_of_unencodable (c := ⟨p.width c d, c.height, c.text⟩) hstart
    htext hfront hch
  rw [p.family_start] at refused
  rw [p.apply_cell_eq, PatchSet.encoder, off]
  exact backend_cell_of_error refused

/-! ## Ink in a file -/

/-- The pages of a file show the ink of a text and nothing else. -/
def ShowsInk (bs : Bytes) (text : List Char) : Prop :=
  ∃ texts, shownIn? bs = some texts ∧ withoutSpaces (texts.flatMap ShownText.text) = ink text

/-- On blank pages, a cell that is drawn shows its ink and nothing else. -/
theorem Document.showsInk_of_cell (h : d.cell c = .ok d') (blank : d.pages.flatten = []) :
    ShowsInk d'.bytes c.text := by
  obtain ⟨marks, drawn, hshown⟩ := draws_of_cell h
  have plain : d.IsPlain := by simp [IsPlain, blank]
  have pages : d'.pages.flatten = marks := by rw [drawn.pages, blank, List.nil_append]
  refine ⟨marks.map Mark.shownText, ?_, ?_⟩
  · rw [shownIn?_bytes (plain.cell h), pages]
  · rw [flatMap_text_shownText, hshown]

end Page

/-! ## Printed text -/

section

variable (patches : PatchSet)

/-- A call that is no cell succeeds. -/
theorem apply_draw_cons {command : Command} (h : ∀ c, command ≠ .cell c) (commands : List Command)
    (d : Document) :
    (patches.apply Document.backend).draw (command :: commands) d =
      (patches.apply Document.backend).draw commands (Document.backend.run command d).2 := by
  rw [Backend.draw, apply_run patches command h]
  cases command with
  | cell c => exact absurd rfl (h c)
  | _ => simp only [Backend.run]

theorem draw_singleton {σ : Type} (b : Backend σ) (command : Command) (s : σ) :
    b.draw [command] s = b.run command s := by
  rw [Backend.draw]
  rcases b.run command s with ⟨_ | _, _⟩ <;> rfl

/-- Printed text is drawn in one cell on a blank page. -/
theorem printout_eq (text : String) (fontSize : Option UInt32) :
    let size := documentFontSize fontSize
    let drawn := (patches.apply Document.backend).cell
      ⟨0, Page.lineHeight size, text.toList⟩ (sheet size)
    printout patches text fontSize = drawn.1.map fun _ => drawn.2 := by
  intro size drawn
  have opened : (Document.backend.run (.setFont .courier size)
      (Document.backend.run .addPage .empty).2).2 = sheet size := by
    simp only [Backend.run, Document.backend, sheet]
  simp only [printout]
  rw [apply_draw_cons patches (by simp), apply_draw_cons patches (by simp), draw_singleton, opened,
    restOfLine, Backend.run]
  split
  · rename_i d hcell
    rw [show drawn = (.ok (), d) from hcell]
    rfl
  · rename_i e d hcell
    rw [show drawn = (.error e, d) from hcell]
    rfl

variable {patches} {fontSize : Option UInt32} (reads : readsAt fontSize)

include reads

/-- A printed text that the patches allow to be drawn becomes a document that shows it. -/
theorem exists_printout_eq_ok {text : String} (h : patches.CanShow text.toList) :
    ∃ d, printout patches text fontSize = .ok d ∧
      ShowsInk d.bytes (latin1Lossy text.toList) := by
  obtain ⟨hpos, hroom⟩ := room_of_readsAt reads
  have ready := ready_sheet hpos
  obtain ⟨d, hcell⟩ := ready.exists_cell_lossy hroom text.toList
  have lossy := apply_cell patches ready.atMargin hcell
  refine ⟨d, ?_, Document.showsInk_of_cell hcell (flatten_pages_sheet _)⟩
  rw [printout_eq]
  rcases h with on | hlatin
  · let asGiven : Cell := ⟨0, Page.lineHeight (documentFontSize fontSize), text.toList⟩
    rw [apply_cell_of_lossy (c := asGiven) on lossy]
    rfl
  · rw [latin1Lossy_eq_self hlatin] at lossy
    rw [lossy]
    rfl

/-- Any other printed text cannot be drawn, for the first of its characters that has no byte. -/
theorem exists_printout_eq_error {text : String} (h : ¬patches.CanShow text.toList) :
    ∃ front ch rest, text.toList = front ++ ch :: rest ∧ (∀ b ∈ front, isLatin1 b = true) ∧
      isLatin1 ch = false ∧
      printout patches text fontSize = .error (.encoding ch (prepare front).length "Courier") := by
  obtain ⟨hpos, -⟩ := room_of_readsAt reads
  have ready := ready_sheet hpos
  obtain ⟨off, unencodable⟩ : patches.encodingFallback = false ∧
      ∃ ch ∈ text.toList, isLatin1 ch = false := by
    simpa [PatchSet.CanShow] using h
  obtain ⟨front, ch, rest, htext, hfront, hch⟩ := exists_eq_append_cons unencodable
  refine ⟨front, ch, rest, htext, hfront, hch, ?_⟩
  rw [printout_eq, apply_cell_of_unencodable off ready.hasPage htext hfront hch, ready.family]
  rfl

end

/-! ## The search for something to deliver -/

variable {σ : Type}

/-- What a printed text comes to if no call of the store fails: it is delivered, or it could not be
drawn. -/
theorem Resolved.printed_or {c c' : Context} {printed : String} {options : ResolveOptions}
    {s s' : Session σ} {resolution : Resolution} {es : List Entry}
    (h : Resolved c [] printed options s (resolution, c') es s')
    (spoken : isBlankText printed.toList = false) (faultless : Faultless es) :
    (∃ d, printout s.sandbox.patches printed options.fontSize = .ok d ∧
      resolution = .delivered ⟨.fromStdout, [printoutName]⟩ ∧
      s'.sandbox.store.Holds printoutName d.bytes) ∨
    ∃ e, printout s.sandbox.patches printed options.fontSize = .error e ∧
      resolution = .failed (.system s!"could not typeset printed output: {e.message}") ∧
      s' = s := by
  have unsilent : isBlankText printed.toList ≠ true := Bool.eq_false_iff.1 spoken
  cases h with
  | saved found => exact absurd rfl found
  | undrawn _ _ drawn => exact .inr ⟨_, drawn, rfl, rfl⟩
  | unwritten _ _ _ written =>
    cases written with
    | refused => exact absurd (List.mem_singleton.2 rfl) (faultless _)
  | typeset _ _ drawn written =>
    cases written with
    | kept holds => exact .inl ⟨_, drawn, rfl, holds⟩
  | beyondClock _ silent => exact absurd silent unsilent
  | produced _ silent => exact absurd silent unsilent
  | fruitless _ silent => exact absurd silent unsilent
  | noOutput _ silent => exact absurd silent unsilent

/-- After a run that left no document and printed something, what it printed is delivered exactly if
the encoding patch is on or the fonts have all of its characters. Then the file that is kept is
that of its document, and shows all of its ink, with question marks for what has no byte. Otherwise the first character that
has no byte is the reason why nothing is delivered, and nothing is kept. -/
theorem printed_text_delivered_iff (interpreter : Interpreter σ) (c : Context) {printed : String}
    {options : ResolveOptions} {s : Session σ} (spoken : isBlankText printed.toList = false)
    (reads : readsAt options.fontSize)
    (faultless : Faultless (entries (resolve interpreter c [] printed options) s)) :
    let search := resolve interpreter c [] printed options
    let shows := s.sandbox.patches.CanShow printed.toList
    ((search s).1.1 = .delivered ⟨.fromStdout, [printoutName]⟩ ↔ shows) ∧
    (shows → ∃ d, printout s.sandbox.patches printed options.fontSize = .ok d ∧
      (search s).2.sandbox.store.Holds printoutName d.bytes ∧
      ShowsInk d.bytes (latin1Lossy printed.toList)) ∧
    (¬shows → ∃ front ch rest, printed.toList = front ++ ch :: rest ∧
      (∀ b ∈ front, isLatin1 b = true) ∧ isLatin1 ch = false ∧
      (search s).1.1 = .failed (.system <| "could not typeset printed output: " ++
        (DrawError.encoding ch (prepare front).length "Courier").message) ∧
      (search s).2 = s) := by
  intro search shows
  have resolved : Resolved c [] printed options s (search s).1 (entries search s) (search s).2 :=
    (meets_resolve interpreter c [] printed options s).run.2
  have outcome := resolved.printed_or spoken faultless
  by_cases h : shows
  · obtain ⟨d, drawn, hshows⟩ := exists_printout_eq_ok reads h
    rcases outcome with ⟨d', drawn', delivered, holds⟩ | ⟨e, refused, -⟩
    · obtain rfl : d = d' := by
        rw [drawn] at drawn'
        exact Except.ok.inj drawn'
      exact ⟨iff_of_true delivered h, fun _ => ⟨d, drawn, holds, hshows⟩, fun off => absurd h off⟩
    · rw [drawn] at refused
      cases refused
  · obtain ⟨front, ch, rest, htext, hfront, hch, refused⟩ := exists_printout_eq_error reads h
    rcases outcome with ⟨d, drawn, -⟩ | ⟨e, refused', failed, same⟩
    · rw [refused] at drawn
      cases drawn
    · obtain rfl : DrawError.encoding ch (prepare front).length "Courier" = e := by
        rw [refused] at refused'
        exact Except.error.inj refused'
      have undelivered : ¬(search s).1.1 = .delivered ⟨.fromStdout, [printoutName]⟩ := by
        rw [failed]
        simp
      exact ⟨iff_of_false undelivered h, fun on => absurd on h,
        fun _ => ⟨front, ch, rest, htext, hfront, hch, failed, same⟩⟩

/-! ## An arrow is printed -/

def patchedSession (patches : PatchSet) : Session Unit := .new ⟨.inMemory .none, patches⟩ ()

def printedSearch (printed : String) : Conversion Unit (Resolution × Context) :=
  resolve .careless carelessContext [] printed usualOptions

/-- With the encoding patch, the arrow is shown as a question mark. -/
theorem arrow_delivered :
    isBlankText "→ ok\n".toList = false ∧ readsAt usualOptions.fontSize ∧
      Faultless (entries (printedSearch "→ ok\n") (patchedSession ⟨false, true⟩)) ∧
      (printedSearch "→ ok\n" (patchedSession ⟨false, true⟩)).1.1 =
        .delivered ⟨.fromStdout, [printoutName]⟩ ∧
      ∃ d, printout ⟨false, true⟩ "→ ok\n" usualOptions.fontSize = .ok d ∧
        (printedSearch "→ ok\n" (patchedSession ⟨false, true⟩)).2.sandbox.store.Holds
          printoutName d.bytes ∧
        ShowsInk d.bytes ['?', ' ', 'o', 'k', '\n'] := by
  have spoken : isBlankText "→ ok\n".toList = false := by decide +kernel
  have reads : readsAt usualOptions.fontSize := by
    intro size h
    cases h
  have faultless : Faultless (entries (printedSearch "→ ok\n") (patchedSession ⟨false, true⟩)) := by
    decide +kernel
  have lossy : latin1Lossy "→ ok\n".toList = ['?', ' ', 'o', 'k', '\n'] := by decide +kernel
  have can : (patchedSession ⟨false, true⟩).sandbox.patches.CanShow "→ ok\n".toList := .inl rfl
  obtain ⟨delivered, shown, -⟩ :=
    printed_text_delivered_iff .careless carelessContext spoken reads faultless
  rw [lossy] at shown
  refine ⟨spoken, reads, faultless, ?_⟩
  unfold printedSearch
  exact ⟨delivered.2 can, shown can⟩

/-- Without patches nothing is delivered, and the script is told that what it printed could not be
typeset. -/
theorem arrow_undelivered :
    isBlankText "→".toList = false ∧ readsAt usualOptions.fontSize ∧
      Faultless (entries (printedSearch "→") (patchedSession .none)) ∧
      (printedSearch "→" (patchedSession .none)).1.1 =
        .failed (.system <| "could not typeset printed output: Character \"→\" at index 0 in " ++
          "text is outside the range of characters supported by the font used: \"Courier\"") ∧
      (printedSearch "→" (patchedSession .none)).2.sandbox.store.documents = [] := by
  refine ⟨by decide +kernel, ?_, by decide +kernel, by decide +kernel, by decide +kernel⟩
  intro size h
  cases h

end ScriptPress
