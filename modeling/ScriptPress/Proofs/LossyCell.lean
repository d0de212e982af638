import ScriptPress.Proofs.DrawingRun

/-!
# Cells with question marks

The encoding patch draws a cell as it is given and, if the font lacks a character of it, once more
with question marks. A document that refuses a cell is left as it was, and the words of its refusal
tell the patch whether a character was the reason. So the patch comes to the same as putting in the
question marks at once; only an error is still that of the cell as it was given.

## Main definitions

* `Cell.lossy` — the cell with question marks.

## Main statements

* `isEncoding_encoding` — the words that refuse a character are known to the patch.
* `Document.cell_lossy_of_error` — a cell that is refused for another reason has no characters to
  replace.
* `encodingFallback_draws_lossy` — the patch draws the cell with question marks.
-/

namespace ScriptPress.Page

open Text

def Cell.lossy (c : Cell) : Cell := { c with text := latin1Lossy c.text }

/-! ## Refusals -/

theorem message_encoding (ch : Char) (index : Nat) (font : String) :
    (DrawError.encoding ch index font).message =
      "Character \"" ++ String.singleton ch ++
        ("\" at index " ++ toString index ++ " in text is outside the ") ++
        "range of characters supported by the font used: \"" ++ font ++ "\"" := rfl

/-- The patch knows the words that refuse a character, whatever the character and the font are. -/
theorem isEncoding_encoding (ch : Char) (index : Nat) (font : String) :
    (DrawError.encoding ch index font).isEncoding = true := by
  let front := "Character \"" ++ String.singleton ch ++ ("\" at index " ++ toString index)
  let middle := " in text is outside the range of characters supported by the font used: \""
  have hmiddle : " in text is outside the " ++
      "range of characters supported by the font used: \"" = middle := by decide +kernel
  have hmessage : (DrawError.encoding ch index font).message =
      front ++ middle ++ (font ++ "\"") := by
    rw [message_encoding, ← hmiddle]
    simp only [front, String.append_assoc]
  have hphrase : "outside the range".toList <:+: middle.toList.map Char.toLower := by
    decide +kernel
  have hoccurs : occursIn "outside the range".toList
      ((DrawError.encoding ch index font).message.toList.map Char.toLower) = true := by
    rw [occursIn_iff_isInfix, hmessage]
    simp only [String.toList_append, List.map_append]
    exact hphrase.trans (List.infix_append ..)
  rw [DrawError.isEncoding, isEncodingMessage, encodingPhrases, List.any_cons, hoccurs,
    Bool.true_or]

namespace Document

/-- A cell that is refused is refused in the same words with question marks, unless they take the
place of a character that the font lacks. -/
theorem cell_lossy_of_error {c : Cell} {d : Document} {e : DrawError} (h : d.cell c = .error e) :
    d.cell c.lossy = .error e ∨ e.isEncoding = true ∧ c.text ≠ [] := by
  by_cases hpages : d.pages = []
  · left
    simpa [cell, hpages] using h
  cases hchar : firstUnencodable? (prepare c.text) with
  | some found =>
    right
    obtain ⟨index, ch⟩ := found
    obtain rfl : DrawError.encoding ch index d.family.baseFont = e := by
      simpa [cell, hpages, hchar] using h
    refine ⟨isEncoding_encoding .., ?_⟩
    intro hnil
    simp [hnil, prepare, firstUnencodable?] at hchar
  | none =>
    left
    have hlatin : ∀ ch ∈ c.text, isLatin1 ch = true :=
      isLatin1_of_prepare (isLatin1_of_firstUnencodable?_eq_none hchar)
    rw [Cell.lossy, latin1Lossy_eq_self hlatin, h]

end Document

/-! ## The patch -/

theorem backend_cell_of_error {c : Cell} {d : Document} {e : DrawError} (h : d.cell c = .error e) :
    Document.backend.cell c d = (.error e, d) := by
  simp [Document.backend, h]

/-- Behind a refusal the patch has drawn the cell with question marks, or passes the refusal on. -/
theorem encodingFallback_cell_of_error {c : Cell} {d : Document} {e : DrawError}
    (h : d.cell c = .error e) :
    (encodingFallback Document.backend).cell c d =
      match d.cell c.lossy with
      | .ok d' => (.ok (), d')
      | .error _ => (.error e, d) := by
  have hplain := backend_cell_of_error h
  cases hlossy : d.cell c.lossy with
  | ok d' =>
    -- Only what the patch takes for a matter of encoding can be mended by question marks.
    obtain ⟨hretry, hne⟩ : e.isEncoding = true ∧ c.text ≠ [] := by
      rcases Document.cell_lossy_of_error h with hsame | hretry
      · rw [hsame] at hlossy
        cases hlossy
      · exact hretry
    have hagain := Document.backend_cell_of_ok hlossy
    rw [Cell.lossy] at hagain
    simp [encodingFallback, hplain, hretry, hne, hagain]
  | error e' =>
    have hagain := backend_cell_of_error hlossy
    rw [Cell.lossy] at hagain
    simp [encodingFallback, hplain, hagain]

/-- The encoding patch draws a cell like the one with question marks. -/
theorem encodingFallback_cell_of_lossy {c : Cell} {d d' : Document} (h : d.cell c.lossy = .ok d') :
    (encodingFallback Document.backend).cell c d = (.ok (), d') := by
  cases plain : d.cell c with
  | ok d₁ =>
    have same : c.lossy = c := by rw [Cell.lossy, latin1Lossy_eq_self (isLatin1_of_cell plain)]
    rw [same] at h
    exact Document.encodingFallback_cell_of_ok h
  | error e => rw [encodingFallback_cell_of_error plain, h]

/-- The encoding patch leaves the document as plain drawing leaves it for the cell with question
marks, and succeeds exactly when that does. If it fails, the error is that of the cell as given. -/
theorem encodingFallback_draws_lossy (c : Cell) (d : Document) :
    ((encodingFallback Document.backend).cell c d).2 = (Document.backend.cell c.lossy d).2 ∧
      (((encodingFallback Document.backend).cell c d).1 = .ok () ↔
        (Document.backend.cell c.lossy d).1 = .ok ()) ∧
      ∀ e, ((encodingFallback Document.backend).cell c d).1 = .error e →
        (Document.backend.cell c d).1 = .error e := by
  cases hplain : d.cell c with
  | ok d' =>
    have hlossy : c.lossy = c := by
      rw [Cell.lossy, latin1Lossy_eq_self (isLatin1_of_cell hplain)]
    rw [hlossy, Document.encodingFallback_cell_of_ok hplain, Document.backend_cell_of_ok hplain]
    simp
  | error e =>
    rw [encodingFallback_cell_of_error hplain, backend_cell_of_error hplain]
    cases hlossy : d.cell c.lossy with
    | ok d' =>
      rw [Document.backend_cell_of_ok hlossy]
      simp
    | error e' =>
      rw [backend_cell_of_error hlossy]
      simp

end ScriptPress.Page
