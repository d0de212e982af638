import ScriptPress.CommandLine.Run
import ScriptPress.Proofs.LastChoice
import ScriptPress.Proofs.Opening
import ScriptPress.Proofs.RawLine
import ScriptPress.Proofs.SavedFile

/-!
# The reported name

The command takes the name that it is given on two ways: to the path that it writes to, and through
the configuration to the name that the output reports. Both take the white space from its ends and
give it the extension of a document, but only the configuration takes a blank name for none. So the
file has the reported name for every name but a blank one.

## Main definitions

* `CommandLine.Delivers` — a run of the command that writes a document.

## Main statements

* `Converted.filename` — the reported name, for every course of a request.
* `CommandLine.delivers_iff` — a run delivers exactly if its exit status is not that of a failure.
* `CommandLine.reported_name_written_iff` — where the file is, and when that is the reported name.
* `CommandLine.blank_name_unreported` — a file that is not where the output says.
-/

namespace ScriptPress

open Conversion Disk Text

variable {σ : Type} {config : Config} {source : String}

/-! ## The name that an output reports -/

theorem Reported.filename {p : Progress} {d : Diagnosis} {s s' : Session σ} {o : Output}
    {es : List Entry} (h : Reported config p d s (.ok o) es s') :
    o.filename = filenameFor config o.artifact := by
  cases h with
  | delivered => rfl

theorem Delivered.filename {p : Progress} {delivery : Delivery} {s s' : Session σ} {o : Output}
    {es : List Entry} (h : Delivered config p delivery s (.ok o) es s') :
    o.filename = filenameFor config o.artifact := by
  cases h with
  | unread _ _ _ reported => exact reported.filename
  | delivered => rfl

theorem Performed.filename {script : String} {s s' : Session σ} {o : Output} {es : List Entry}
    (h : Performed config script s (.ok o) es s') : o.filename = filenameFor config o.artifact := by
  cases h with
  | failed _ _ reported => exact reported.filename
  | returned _ _ _ _ _ closed =>
    cases closed with
    | delivered delivered => exact delivered.filename
    | reported reported => exact reported.filename

/-- An output reports the chosen name, else that of its document in the store. -/
theorem Converted.filename {s s' : Session σ} {o : Output} {es : List Entry}
    (h : Converted config source s (.ok o) es s') :
    o.filename = filenameFor config o.artifact := by
  cases h.parted with
  | reported _ _ reported => exact reported.filename
  | conducted _ _ conducted => exact conducted.performed.filename

/-! ## A name with the extension of a document -/

theorem downloadName_of_blank {name : String} (blank : isBlankText name.toList = true) :
    downloadName name = ".pdf" := by
  have nothing : trim name.toList = [] := trim_eq_nil_iff.2 (List.all_eq_true.1 blank)
  rw [downloadName, nothing]
  rfl

namespace CommandLine

variable {o : Options} {s : Surroundings} {output : Output} {name : String}

/-! ## The two ways of a name -/

theorem Options.outputName_config {c : Config} (built : o.config = .ok c) :
    c.outputName = o.name.filter (!isBlankText ·.toList) := by
  obtain ⟨chosen, -⟩ := Config.build_eq_ok_iff.1 built
  rw [chosen.outputName]
  -- Of the choices that the options make, one at most is about the name.
  rcases o.name <;> rcases o.fontSize <;> rcases o.python <;> split_ifs <;> rfl

/-- The path that a name leads to. -/
theorem Options.path_of_name (named : o.name = some name) (bare : o.output = none) :
    o.path = downloadName name := by
  rw [path, bare, named]
  rfl

theorem convert_ok {env : Environment} {complaint : Complaint} {text : String} {host : Host}
    (h : (convert o env complaint text host).1 = .ok output) :
    ∃ c, o.config = .ok c ∧ output.filename = filenameFor c output.artifact := by
  unfold convert at h
  cases built : o.config with
  | error e => simp [built] at h
  | ok c =>
    rw [built] at h
    obtain ⟨-, converted⟩ := (meets_convert (processInterpreter (o.command env) complaint) c text
      (.new newSandbox host)).run
    rw [show (Conversion.convert (processInterpreter (o.command env) complaint) c text
      (.new newSandbox host)).1 = .ok output from h] at converted
    exact ⟨c, rfl, converted.filename⟩

/-- The name that a given name is reported as. -/
theorem filename_of_name {env : Environment} {complaint : Complaint} {text : String} {host : Host}
    (named : o.name = some name) (h : (convert o env complaint text host).1 = .ok output) :
    output.filename =
      if isBlankText name.toList then output.artifact else downloadName name := by
  obtain ⟨c, built, reported⟩ := convert_ok h
  rw [reported, filenameFor, o.outputName_config built, named]
  cases blank : isBlankText name.toList <;> simp [Option.filter, blank]

/-! ## Runs that deliver -/

/-- A run of the command delivers an output: it is no check, its source can be read, its request has
the output, and the file of its document is written. -/
structure Delivers (o : Options) (s : Surroundings) (output : Output) : Prop where
  converts : o.check = false
  written : ∃ text, s.sourceText o.input = .ok text ∧
    (saveOutput (withLeftovers s (convert o s.environment s.complaint text s.host).2) s.work o.path
      (convert o s.environment s.complaint text s.host).1).1 = .ok output

theorem perform_of_source {text : String} (converts : o.check = false)
    (read : s.sourceText o.input = .ok text) :
    perform o s =
      let (result, host) := convert o s.environment s.complaint text s.host
      let (result, root) := saveOutput (withLeftovers s host) s.work o.path result
      ⟨deliveryResponse o result, root, host⟩ := by
  simp [perform, read, converts]

theorem exit_deliveryResponse (result : Except ConversionError Output) :
    (deliveryResponse o result).exit ≠ 1 ↔ ∃ output, result = .ok output := by
  cases result with
  | error e => simp [deliveryResponse, Response.failed]
  | ok output =>
    simp only [deliveryResponse]
    split_ifs <;> simp

/-- A run that converts delivers exactly if its exit status is not that of a failure. -/
theorem delivers_iff (converts : o.check = false) :
    (∃ output, Delivers o s output) ↔ (perform o s).response.exit ≠ 1 := by
  cases read : s.sourceText o.input with
  | error cause =>
    have failed : (perform o s).response.exit = 1 := by
      simp only [perform, read, Response.unreadable]
      split_ifs <;> rfl
    refine ⟨fun ⟨output, h⟩ => ?_, fun delivered => absurd failed delivered⟩
    obtain ⟨text, read', -⟩ := h.written
    simp [read] at read'
  | ok text =>
    rw [perform_of_source converts read, exit_deliveryResponse]
    refine exists_congr fun output => ⟨fun h => ?_, fun written => ⟨converts, text, read, written⟩⟩
    obtain ⟨text', read', written⟩ := h.written
    obtain rfl : text = text' := Except.ok.inj (read.symm.trans read')
    exact written

/-- What a run that delivers has saved, and what it says. -/
theorem Delivers.saved (h : Delivers o s output) :
    (∃ text, s.sourceText o.input = .ok text ∧
        (convert o s.environment s.complaint text s.host).1 = .ok output) ∧
      System.ofTree.save (withLeftovers s (perform o s).host) s.work o.path.toList output.bytes =
        (.ok (), (perform o s).root) ∧
      (perform o s).response = deliveryResponse o (.ok output) := by
  obtain ⟨text, read, written⟩ := h.written
  rw [perform_of_source h.converts read]
  obtain ⟨delivered, saved⟩ := System.saveOutput_ok (Prod.ext written rfl)
  exact ⟨⟨text, read, delivered⟩, saved, congrArg (deliveryResponse o) written⟩

/-- Where a run that is given a name and no path writes: the name with its extension leads there,
the document is there, and of the files no other one changed. The output reports that name, unless
it is blank: then it reports the name of the document in the store, so the file has the reported
name exactly if the given one is not blank or the document has the very name of the file. -/
theorem reported_name_written_iff (o : Options) (s : Surroundings) (output : Output) (name : String)
    (named : o.name = some name) (bare : o.output = none) (h : Delivers o s output) :
    let before := withLeftovers s (perform o s).host
    let after := (perform o s).root
    let target := Disk.from s.work o.path.toList
    let ways := LeadsTo (folderPath s.work o.path.toList)
    o.path = downloadName name ∧ after.readFile target = .ok output.bytes ∧
      (∃ origin place, after.kind? origin = none ∧ after.place? target = some place ∧
        Grows ways [origin, place] before after) ∧
      (perform o s).response = deliveryResponse o (.ok output) ∧
      output.filename =
        (if isBlankText name.toList then output.artifact else downloadName name) ∧
      (o.path = output.filename ↔ isBlankText name.toList = false ∨ output.artifact = ".pdf") := by
  intro before after target ways
  have path := o.path_of_name named bare
  obtain ⟨⟨text, -, delivered⟩, saved, response⟩ := h.saved
  have reported := filename_of_name named delivered
  obtain ⟨read, origin, place, -, gone, here, grows⟩ := System.save_ok saved
  refine ⟨path, read, ⟨origin, place, gone, here, grows⟩, response, reported, ?_⟩
  rw [path, reported]
  cases blank : isBlankText name.toList with
  | false => simp
  | true => simp [downloadName_of_blank blank, eq_comm]

/-- The choices of a run that reads its source from the input and is given a name. -/
def Options.withName (name : String) : Options where
  input := "-"
  output := none
  name := some name
  fontSize := none
  timeout := 30
  python := none
  noAutoFix := false
  noAutoInvoke := false
  check := false
  json := true
  verbose := false
  quiet := false

/-- Surroundings in which a script leaves a document of one letter. -/
def letterSurroundings : Surroundings where
  environment := []
  stdin := utf8 "pass".toList
  root := []
  work := []
  host := ⟨["python3"], [.bare, { Reply.bare with files := [(utf8 "a.pdf".toList, [65])] }], [], []⟩
  complaint _ := ""

/-- A name with white space around it and with its extension in capital letters is reported as the
name of the file. -/
theorem padded_name_reported :
    let o := Options.withName " notes.PDF\t"
    ∃ output, Delivers o letterSurroundings output ∧ output.filename = "notes.PDF" ∧
      o.path = output.filename ∧
      (perform o letterSurroundings).root.readFile "notes.PDF".toList = .ok output.bytes := by
  intro o
  have visible : isBlankText " notes.PDF\t".toList = false := by decide
  obtain ⟨output, h⟩ : ∃ output, Delivers o letterSurroundings output :=
    (delivers_iff rfl).2 (by decide +kernel)
  obtain ⟨path, read, -, -, reported, agree⟩ :=
    reported_name_written_iff o letterSurroundings output " notes.PDF\t" rfl rfl h
  have whole : downloadName " notes.PDF\t" = "notes.PDF" := by decide +kernel
  have same := agree.2 (.inl visible)
  rw [visible, if_neg Bool.false_ne_true, whole] at reported
  rw [path, whole] at read
  exact ⟨output, h, reported, same, read⟩

/-- The name is blank: the file is called by its bare extension, and the output reports another
name, under which there is no file. -/
theorem blank_name_unreported :
    let o := Options.withName " "
    ∃ output, Delivers o letterSurroundings output ∧ o.name = some " " ∧ o.output = none ∧
      o.path = ".pdf" ∧ output.filename = "a.pdf" ∧
      (perform o letterSurroundings).root.kind? [utf8 ".pdf".toList] = some (.file [65]) ∧
      (perform o letterSurroundings).root.kind? [utf8 "a.pdf".toList] = none := by
  intro o
  obtain ⟨output, h⟩ : ∃ output, Delivers o letterSurroundings output :=
    (delivers_iff rfl).2 (by decide +kernel)
  obtain ⟨⟨text, read, delivered⟩, -⟩ := h.saved
  have source : letterSurroundings.sourceText o.input = .ok "pass" := by decide +kernel
  obtain rfl : text = "pass" := Except.ok.inj (read.symm.trans source)
  have name : (convert o letterSurroundings.environment letterSurroundings.complaint "pass"
      letterSurroundings.host).1.toOption.map Output.filename = some "a.pdf" := by
    decide +kernel
  rw [delivered] at name
  exact ⟨output, h, rfl, rfl, by decide +kernel, Option.some.inj name, by decide +kernel,
    by decide +kernel⟩

end CommandLine

end ScriptPress
