import ScriptPress.Exchange.Output
import ScriptPress.Proofs.JsonText

/-!
# Reading records back

Every record that is written as JSON is read back as it was: whatever characters its texts have,
whatever numbers fit into its fields, and whichever of its fields are missing. Of an output only the
bytes of the document stay behind.

## Main definitions

* `Json.ReadAs` — both texts of a value are read as the given record.

## Main statements

* `Json.record?_object` — a record with different field names is read field by field.
* `Diagnosis.ofJson?_toJson` — a record is read from its value; and the same for the others.
* `records_read_back` — records are read from their texts.
-/

namespace ScriptPress

open Json

namespace Json

/-! ## Fields -/

@[simp] theorem lookup_cons_of_ne {n m : String} (h : n ≠ m) (j : Json)
    (fields : List (String × Json)) : List.lookup n ((m, j) :: fields) = fields.lookup n := by
  have other : (n == m) = false := by simpa using h
  rw [List.lookup_cons, other]

theorem valuesOf_eq_toList_lookup {fields : List (String × Json)}
    (distinct : (fields.map (·.1)).Nodup) (name : String) :
    valuesOf name fields = (fields.lookup name).toList := by
  induction fields with
  | nil => rfl
  | cons f fields ih =>
    obtain ⟨n, j⟩ := f
    obtain ⟨fresh, distinct⟩ := List.nodup_cons.1 distinct
    have rest := ih distinct
    rw [valuesOf] at rest ⊢
    by_cases same : n = name
    · subst same
      have none : fields.lookup n = none := by
        refine List.lookup_eq_none_iff.2 fun e mem => ?_
        have other : n ≠ e.1 := fun same => fresh (List.mem_map.2 ⟨e, mem, same.symm⟩)
        simpa using other
      rw [none] at rest
      simp [rest]
    · simp [same, Ne.symm same, rest]

/-- A record whose fields have different names is read field by field. -/
theorem record?_object {fields : List (String × Json)} {names : List String} {spare : Nat}
    (named : fields.map (·.1) = names) (distinct : names.Nodup) :
    (object fields).record? names spare = some fun name => fields.lookup name := by
  have single : ∀ name, valuesOf name fields = (fields.lookup name).toList :=
    valuesOf_eq_toList_lookup (named ▸ distinct)
  have few : names.all (fun n => decide ((valuesOf n fields).length ≤ 1)) = true := by
    rw [List.all_eq_true]
    intro n _
    rw [single]
    cases fields.lookup n <;> simp
  rw [record?, if_pos few]
  congr 1
  funext n
  rw [single]
  cases fields.lookup n <;> rfl

@[simp] theorem word?_ofWord (n : UInt64) : word? (ofWord n) = some n := by
  simp [word?, ofWord, ofNat, below?, n.toNat_lt]

@[simp] theorem word32?_ofNat (n : UInt32) : word32? (ofNat n.toNat) = some n := by
  simp [word32?, ofNat, below?, n.toNat_lt]

theorem list?_array_map {α : Type} {f : Json → Option α} {g : α → Json}
    (h : ∀ a, f (g a) = some a) (as : List α) : list? f (array (as.map g)) = some as := by
  have read : (as.map g).mapM f = some (as.map id) := by
    rw [List.mapM_map]
    exact Text.mapM_eq_some_map fun a _ => h a
  simp [list?, items?, read]

theorem optional_ofOption {α : Type} {f : Json → Option α} {g : α → Json}
    (h : ∀ a, f (g a) = some a) (absent : f null = none) (o : Option α) :
    optional f (some (ofOption g o)) = some o := by
  cases o with
  | none => rfl
  | some a =>
    have present : g a ≠ null := fun same => by simp [← same, h] at absent
    rw [ofOption, optional, h, Option.map_some]
    simpa using present

end Json

/-! ## Records -/

theorem CompileFailure.ofJson?_toJson (f : CompileFailure) : ofJson? f.toJson = some f := by
  have record : f.toJson.record? fieldNames 0 = some _ := record?_object (by rfl) (by decide)
  have kind : kindOfLabel? (errorKind f.kind).label = some f.kind := by
    cases f.kind <;> decide
  have line := optional_ofOption word?_ofWord rfl f.line
  simp [ofJson?, record, required, variant?, text?, kind, line]

theorem Frame.ofJson?_toJson (f : Frame) : ofJson? f.toJson = some f := by
  have record : f.toJson.record? fieldNames 0 = some _ := record?_object (by rfl) (by decide)
  have line := optional_ofOption word?_ofWord rfl f.line
  simp [ofJson?, record, required, text?, line]

theorem RuntimeException.ofJson?_toJson (e : RuntimeException) : ofJson? e.toJson = some e := by
  have record : e.toJson.record? fieldNames 0 = some _ := record?_object (by rfl) (by decide)
  have frames := list?_array_map Frame.ofJson?_toJson e.frames
  simp [ofJson?, record, required, text?, frames]

theorem Diagnosis.ofJson?_toJson (d : Diagnosis) : ofJson? d.toJson = some d := by
  have record : d.toJson.record? fieldNames 0 = some _ := record?_object (by rfl) (by decide)
  have kind := ErrorKind.ofLabel?_label d.kind
  have line := optional_ofOption word?_ofWord rfl d.line
  have fix := optional_ofOption (f := text?) (g := .string) (fun _ => rfl) rfl d.proposedFix
  simp [ofJson?, record, required, variant?, text?, kind, line, fix]

theorem Page.PatchSet.ofJson?_toJson (p : PatchSet) : ofJson? p.toJson = some p := by
  have record : p.toJson.record? fieldNames 0 = some _ := record?_object (by rfl) (by decide)
  simp [ofJson?, record, required, flag?]

theorem SourceBuffer.ofJson?_toJson (b : SourceBuffer) : ofJson? b.toJson = some b := by
  have record : b.toJson.record? fieldNames 0 = some _ := record?_object (by rfl) (by decide)
  have size := optional_ofOption word32?_ofNat rfl b.fontSize
  simp [ofJson?, record, required, text?, size]

theorem Outcome.ofJson?_toJson (o : Outcome) {level : Nat} (shallow : level < maxLevels) :
    ofJson? level o.toJson = some o := by
  have loadable : isLoadable level o.toJson = true := by
    cases o <;> simp [toJson, isLoadable, fieldsAreLoadable, shallow]
  cases o <;> simp_all [toJson, ofJson?, ofLabel?, label, valuesOf]

theorem Stats.ofJson?_toJson (s : Stats) (word : s.artifactsFound < UInt64.size) :
    ofJson? s.toJson = some s := by
  have record : s.toJson.record? fieldNames 0 = some _ := record?_object (by rfl) (by decide)
  have found : word? (ofNat s.artifactsFound) = some (.ofNat s.artifactsFound) := by
    simp [word?, ofNat, below?, word]
  have same : (UInt64.ofNat s.artifactsFound).toNat = s.artifactsFound :=
    UInt64.toNat_ofNat_of_lt' word
  simp [ofJson?, record, required, flag?, found, same]

theorem Output.ofJson?_toJson (o : Output) (word : o.stats.artifactsFound < UInt64.size) :
    ofJson? o.toJson = some { o with bytes := [] } := by
  have record : o.toJson.record? fieldNames 0 = some _ := record?_object (by rfl) (by decide)
  have outcome : Outcome.ofJson? 1 o.outcome.toJson = some o.outcome :=
    o.outcome.ofJson?_toJson (by decide)
  have diagnosis := optional_ofOption Diagnosis.ofJson?_toJson rfl o.diagnosis
  have fix := optional_ofOption (f := text?) (g := .string) (fun _ => rfl) rfl o.proposedFix
  have stats := o.stats.ofJson?_toJson word
  simp [ofJson?, record, required, text?, outcome, diagnosis, fix, stats]

theorem RunResult.ofJson?_toJson (r : RunResult) : ofJson? r.toJson = some r := by
  cases r with
  | success pdfs =>
    have names := list?_array_map (f := text?) (g := .string) (fun _ => rfl) pdfs
    simp [toJson, ofJson?, names]
  | failure d => simp [toJson, ofJson?, Diagnosis.ofJson?_toJson]

/-! ## String literals -/

namespace Json

theorem whole_ofOption {α : Type} {f : α → Json} (h : ∀ a, (f a).Whole) (o : Option α) :
    (ofOption f o).Whole := by
  cases o with
  | none => exact .null
  | some a => exact h a

theorem whole_ofNat (n : Nat) : (ofNat n).Whole := .number _

theorem whole_ofWord (n : UInt64) : (ofWord n).Whole := whole_ofNat _

theorem whole_array_map {α : Type} {f : α → Json} (h : ∀ a, (f a).Whole) (as : List α) :
    (array (as.map f)).Whole :=
  .array (List.forall_mem_map.2 fun a _ => h a)

end Json

theorem CompileFailure.whole_toJson (f : CompileFailure) : f.toJson.Whole :=
  .object (by simp [Whole.string, whole_ofOption whole_ofWord])

theorem Frame.whole_toJson (f : Frame) : f.toJson.Whole :=
  .object (by simp [Whole.string, whole_ofOption whole_ofWord])

theorem RuntimeException.whole_toJson (e : RuntimeException) : e.toJson.Whole :=
  .object (by simp [Whole.string, whole_array_map Frame.whole_toJson])

theorem Diagnosis.whole_toJson (d : Diagnosis) : d.toJson.Whole :=
  .object (by simp [Whole.string, whole_ofOption whole_ofWord, whole_ofOption Whole.string])

theorem Page.PatchSet.whole_toJson (p : PatchSet) : p.toJson.Whole :=
  .object (by simp [Whole.bool])

theorem SourceBuffer.whole_toJson (b : SourceBuffer) : b.toJson.Whole :=
  .object (by simp [Whole.string, whole_ofOption fun n => whole_ofNat (UInt32.toNat n)])

theorem Outcome.whole_toJson (o : Outcome) : o.toJson.Whole := by
  cases o <;> exact .object (by simp [Whole.string])

theorem Stats.whole_toJson (s : Stats) : s.toJson.Whole :=
  .object (by simp [whole_ofWord, Whole.bool, whole_ofNat])

theorem Output.whole_toJson (o : Output) : o.toJson.Whole :=
  .object (by simp [Whole.string, Outcome.whole_toJson, whole_ofOption Diagnosis.whole_toJson,
    whole_ofOption Whole.string, Stats.whole_toJson])

theorem RunResult.whole_toJson (r : RunResult) : r.toJson.Whole := by
  cases r with
  | success pdfs => exact .object (by simp [whole_array_map Whole.string])
  | failure d => exact .object (by simp [Diagnosis.whole_toJson])

/-! ## Texts -/

/-- The text of a value on one line and its indented text are both read as the given record. -/
def Json.ReadAs {α : Type} (read : Json → Option α) (j : Json) (a : α) : Prop :=
  (parse? j.text.toList).bind read = some a ∧ (parse? j.prettyText.toList).bind read = some a

theorem Json.Whole.readAs {α : Type} {read : Json → Option α} {j : Json} {a : α} (whole : j.Whole)
    (h : read j = some a) : ReadAs read j a := by
  constructor
  · rw [parse?_text whole, Option.bind_some, h]
  · rw [parse?_prettyText whole, Option.bind_some, h]

/-- Every record is read from its text as it was written, and an output as it was but for its bytes;
the number of documents has to be a 64-bit number. -/
theorem records_read_back :
    (∀ o : Output, o.stats.artifactsFound < UInt64.size →
      ReadAs Output.ofJson? o.toJson { o with bytes := [] }) ∧
    (∀ d : Diagnosis, ReadAs Diagnosis.ofJson? d.toJson d) ∧
    (∀ r : RunResult, ReadAs RunResult.ofJson? r.toJson r) ∧
    (∀ o : Outcome, ReadAs (Outcome.ofJson? 0) o.toJson o) ∧
    (∀ s : Stats, s.artifactsFound < UInt64.size → ReadAs Stats.ofJson? s.toJson s) ∧
    (∀ b : SourceBuffer, ReadAs SourceBuffer.ofJson? b.toJson b) ∧
    (∀ script : String, ReadAs Script.ofJson? (Script.toJson script) script) ∧
    (∀ p : Page.PatchSet, ReadAs Page.PatchSet.ofJson? p.toJson p) ∧
    (∀ f : CompileFailure, ReadAs CompileFailure.ofJson? f.toJson f) ∧
    ∀ e : RuntimeException, ReadAs RuntimeException.ofJson? e.toJson e := by
  refine ⟨fun o word => ?output, fun d => ?diagnosis, fun r => ?run, fun o => ?outcome,
    fun s word => ?stats, fun b => ?buffer, fun script => ?script, fun p => ?patches,
    fun f => ?failure, fun e => ?exception⟩
  case output => exact o.whole_toJson.readAs (o.ofJson?_toJson word)
  case diagnosis => exact d.whole_toJson.readAs d.ofJson?_toJson
  case run => exact r.whole_toJson.readAs r.ofJson?_toJson
  case outcome => exact o.whole_toJson.readAs (o.ofJson?_toJson (by decide))
  case stats => exact s.whole_toJson.readAs (s.ofJson?_toJson word)
  case buffer => exact b.whole_toJson.readAs b.ofJson?_toJson
  case script => exact (Whole.string script).readAs rfl
  case patches => exact p.whole_toJson.readAs p.ofJson?_toJson
  case failure => exact f.whole_toJson.readAs f.ofJson?_toJson
  case exception => exact e.whole_toJson.readAs e.ofJson?_toJson

/-- An output whose texts need escapes and whose numbers are the greatest. -/
def Output.escaped : Output where
  filename := "\"a\\b\".pdf"
  artifact := "\x00\x1f\x7f\t.pdf"
  bytes := [37, 80, 68, 70]
  outcome := .autoInvoked "é\n𝄞"
  diagnosis := some ((Diagnosis.system "\r\x08\x0c/").withFix "")
  proposedFix := none
  stdout := "null"
  stats := { Stats.zero with
    totalMs := .ofNat (UInt64.size - 1)
    artifactsFound := UInt64.size - 1 }

theorem escaped_reads_back :
    Output.escaped.stats.artifactsFound < UInt64.size ∧
      ReadAs Output.ofJson? Output.escaped.toJson { Output.escaped with bytes := [] } := by
  have word : Output.escaped.stats.artifactsFound < UInt64.size := by decide
  exact ⟨word, records_read_back.1 Output.escaped word⟩

end ScriptPress
