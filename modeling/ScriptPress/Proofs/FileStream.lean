import Mathlib.Data.List.Forall2
import ScriptPress.Page.File
import ScriptPress.Proofs.ContentStream
import ScriptPress.Proofs.LaidLine

/-!
# Reading files

What a document shows can be read from the bytes of its file. They hold the content streams of its
pages, one after the other: what stands between two of them begins no stream, whatever the offsets
in the cross-reference stream are, and a stream is passed over by its length, whatever it holds.

## Main definitions

* `Bears` — the content streams that begin in a part of a file.
* `Document.IsPlain` — the marks show nothing but characters that a line can have.
* `shownIn?` — what the pages of a file show, read from its bytes.

## Main statements

* `pageStreams?_bytes` — the content streams in the file of a document are those of its pages.
* `shownIn?_bytes` — the file shows the texts of the marks, each in its colour.
* `Document.IsPlain.cell` — cells that are drawn leave marks of that kind only.
-/

namespace ScriptPress.Page

open Text

/-! ## Texts without brackets -/

theorem IsGraphic.isLatin1 {c : Char} (h : IsGraphic c) : isLatin1 c = true := by
  simp only [Text.isLatin1, decide_eq_true_eq]
  exact h.2.trans (by decide)

/-- A text in which each character has a byte and no stream can begin. -/
def Unbracketed (s : List Char) : Prop := ∀ c ∈ s, isLatin1 c = true ∧ c ≠ '<'

instance (s : List Char) : Decidable (Unbracketed s) :=
  List.decidableBAll _ s

theorem unbracketed_append {s t : List Char} :
    Unbracketed (s ++ t) ↔ Unbracketed s ∧ Unbracketed t := List.forall_mem_append

theorem unbracketed_nat (n : Nat) : Unbracketed (toString n).toList := by
  intro c hc
  have digit : c.isDigit = true := isDigit_of_mem_digits (by simpa [Binary32.digits] using hc)
  refine ⟨(isGraphic_of_isDigit digit).isLatin1, ?_⟩
  rintro rfl
  cases digit

theorem unbracketed_number (n : Binary32) : Unbracketed (toString n.toDecimal).toList := by
  intro c hc
  refine ⟨(isGraphic_of_mem_number hc).isLatin1, ?_⟩
  rintro rfl
  exact absurd (mem_number hc) (by decide)

theorem forall_mem_intercalate {P : Char → Prop} {sep : List Char} {ls : List (List Char)}
    (hsep : ∀ c ∈ sep, P c) (h : ∀ l ∈ ls, ∀ c ∈ l, P c) : ∀ c ∈ List.intercalate sep ls, P c := by
  cases ls with
  | nil => simp
  | cons l ls =>
    induction ls generalizing l with
    | nil => simpa using h
    | cons l' ls ih =>
      obtain ⟨here, there⟩ := List.forall_mem_cons.1 h
      rw [List.intercalate_cons_cons]
      exact List.forall_mem_append.2 ⟨List.forall_mem_append.2 ⟨here, hsep⟩, ih l' there⟩

/-! ## Parts of a file -/

/-- A part of a file: each character has a byte, and wherever the part stands, the content streams
that begin in it are these. -/
structure Bears (s : List Char) (streams : List (List Char)) : Prop where
  latin1 : ∀ c ∈ s, isLatin1 c = true
  streamsFrom_append : ∀ rest, streamsFrom 0 (s ++ rest) = streams ++ streamsFrom 0 rest

theorem Bears.nil : Bears [] [] := ⟨by simp, fun _ => rfl⟩

theorem Bears.append {s t : List Char} {streams streams' : List (List Char)} (hs : Bears s streams)
    (ht : Bears t streams') : Bears (s ++ t) (streams ++ streams') where
  latin1 := List.forall_mem_append.2 ⟨hs.latin1, ht.latin1⟩
  streamsFrom_append rest := by
    rw [List.append_assoc, hs.streamsFrom_append, ht.streamsFrom_append, List.append_assoc]

/-- What bears no stream makes no difference behind another part. -/
theorem Bears.append_nil {s t : List Char} {streams : List (List Char)} (hs : Bears s streams)
    (ht : Bears t []) : Bears (s ++ t) streams := by
  have := hs.append ht
  rwa [List.append_nil] at this

theorem streamsFrom_skip (k : Nat) (s : List Char) :
    streamsFrom k s = streamsFrom 0 (s.drop k) := by
  induction k generalizing s with
  | zero => rfl
  | succ k ih =>
    cases s with
    | nil => simp [streamsFrom]
    | cons c s => rw [streamsFrom, ih, List.drop_succ_cons]

/-- A place at which no stream begins is passed over. -/
theorem streamsFrom_cons {c : Char} {s : List Char}
    (h : startsWith? "<</Length ".toList (c :: s) = none) :
    streamsFrom 0 (c :: s) = streamsFrom 0 s := by
  have here : streamHere? (c :: s) = none := by
    rw [streamHere?, h]
    rfl
  rw [streamsFrom, here]

theorem Unbracketed.bears {s : List Char} (h : Unbracketed s) : Bears s [] where
  latin1 c hc := (h c hc).1
  streamsFrom_append rest := by
    induction s with
    | nil => rfl
    | cons c s ih =>
      obtain ⟨here, there⟩ := List.forall_mem_cons.1 h
      have pass : startsWith? "<</Length ".toList (c :: (s ++ rest)) = none := by
        simp [startsWith?, here.2.symm]
      rw [List.cons_append, streamsFrom_cons pass]
      exact ih there

/-! ## Objects -/

/-- The text of a stream object, with its length in decimal digits. -/
theorem streamObject_eq (entries : String) (content : List Char) :
    streamObject entries content = "<<".toList ++ (entries.toList ++ ("/Length ".toList ++
      ((toString content.length).toList ++ (">>stream\n".toList ++
        (content ++ "\nendstream ".toList))))) := by
  simp [streamObject, dictionary, toString]

theorem startsWith?_append (t s : List Char) : startsWith? t (t ++ s) = some s :=
  startsWith?_eq_some_iff.2 rfl

/-- A stream object is recognised, whatever its content is. -/
theorem streamHere?_streamObject (content rest : List Char) :
    streamHere? (streamObject "" content ++ rest) =
      some (content, "\nendstream ".toList ++ rest) := by
  have text : streamObject "" content ++ rest = "<</Length ".toList ++
      (Nat.toDigits 10 content.length ++ (">>stream\n".toList ++
        (content ++ ("\nendstream ".toList ++ rest)))) := by
    simp [streamObject_eq]
  have fits : content.length ≤ (content ++ ("\nendstream ".toList ++ rest)).length := by
    rw [List.length_append]
    exact Nat.le_add_right ..
  have cut : (content ++ ("\nendstream ".toList ++ rest)).splitAt content.length =
      (content, "\nendstream ".toList ++ rest) := by
    rw [List.splitAt_eq, List.take_left, List.drop_left]
  rw [text, streamHere?]
  refine Option.bind_eq_some_iff.2 ⟨_, startsWith?_append .., ?_⟩
  refine Option.bind_eq_some_iff.2 ⟨_, leadingNumber?_toDigits_append _ (by simp), ?_⟩
  refine Option.bind_eq_some_iff.2 ⟨_, startsWith?_append .., ?_⟩
  exact Option.bind_eq_some_iff.2 ⟨(), if_pos fits, congrArg some cut⟩

theorem isLatin1_streamObject {entries : String} {content : List Char}
    (hentries : ∀ c ∈ entries.toList, isLatin1 c = true)
    (hcontent : ∀ c ∈ content, isLatin1 c = true) :
    ∀ c ∈ streamObject entries content, isLatin1 c = true := by
  have length := fun c hc => (unbracketed_nat content.length c hc).1
  simp only [streamObject_eq, List.forall_mem_append]
  exact ⟨forall_mem_of_all (by decide), hentries, forall_mem_of_all (by decide), length,
    forall_mem_of_all (by decide), hcontent, forall_mem_of_all (by decide)⟩

/-- The content is passed over as a whole, whatever stands in it. -/
theorem bears_streamObject {content : List Char} (h : ∀ c ∈ content, isLatin1 c = true) :
    Bears (streamObject "" content) [content] where
  latin1 := isLatin1_streamObject (by simp) h
  streamsFrom_append rest := by
    have here := streamHere?_streamObject content rest
    obtain ⟨s, hs⟩ : ∃ s, streamObject "" content = '<' :: (s ++ "\nendstream ".toList) :=
      ⟨'<' :: ("/Length ".toList ++ ((toString content.length).toList ++ (">>stream\n".toList ++
        content))), by simp [streamObject_eq]⟩
    have behind : Bears "\nendstream ".toList [] := Unbracketed.bears (by decide)
    rw [hs, List.cons_append, List.append_assoc] at here ⊢
    rw [streamsFrom, here]
    simp only [List.length_append, Nat.add_sub_cancel]
    rw [streamsFrom_skip, List.drop_left, behind.streamsFrom_append]
    rfl

/-- The brackets of a dictionary of which the first entry is not the length. -/
theorem bears_opening {entries : List Char} {c : Char} (first : ['/', c] <+: entries)
    (hc : c ≠ 'L') (h : Unbracketed entries) : Bears ("<<".toList ++ entries) [] where
  latin1 := List.forall_mem_append.2 ⟨forall_mem_of_all (by decide), fun c hc => (h c hc).1⟩
  streamsFrom_append rest := by
    obtain ⟨s, rfl⟩ := first
    have outer : startsWith? "<</Length ".toList
        ('<' :: '<' :: (['/', c] ++ s ++ rest)) = none := by
      simp [startsWith?, hc.symm]
    have inner : startsWith? "<</Length ".toList ('<' :: (['/', c] ++ s ++ rest)) = none := by
      simp [startsWith?]
    change streamsFrom 0 ('<' :: '<' :: (['/', c] ++ s ++ rest)) = _
    rw [streamsFrom_cons outer, streamsFrom_cons inner]
    exact h.bears.streamsFrom_append rest

theorem bears_dictionary {entries : String} {c : Char} (first : ['/', c] <+: entries.toList)
    (hc : c ≠ 'L') (h : Unbracketed entries.toList) : Bears (dictionary entries) [] :=
  (bears_opening first hc h).append (Unbracketed.bears (by decide))

theorem bears_pagesObject (n : Nat) : Bears (pagesObject n) [] := by
  refine bears_dictionary (c := 'T') (by simp [toString]) (by decide) ?_
  have kids : Unbracketed
      (" ".intercalate ((List.range n).map fun i => s!"{pageNumber i} 0 R")).toList := by
    rw [String.toList_intercalate]
    refine forall_mem_intercalate (forall_mem_of_all (by decide)) ?_
    simp only [List.forall_mem_map, String.toList_append]
    exact fun i _ => unbracketed_append.2 ⟨unbracketed_nat _, by decide⟩
  simp only [String.toList_append, unbracketed_append]
  exact ⟨⟨⟨by decide, kids⟩, by decide⟩, unbracketed_nat n⟩

theorem bears_fontObject (family : FontFamily) : Bears (fontObject family) [] := by
  cases family <;> exact bears_dictionary (c := 'T') (by decide) (by decide) (by decide)

theorem bears_resources : Bears (dictionary "/Font<</F1 2 0 R/F2 3 0 R/F3 4 0 R>>") [] := by
  have outer : Bears ("<<".toList ++ "/Font".toList) [] :=
    bears_opening (c := 'F') (by decide) (by decide) (by decide)
  have inner : Bears ("<<".toList ++ "/F1 2 0 R/F2 3 0 R/F3 4 0 R>>>>".toList) [] :=
    bears_opening (c := 'F') (by decide) (by decide) (by decide)
  exact outer.append inner

theorem bears_pageObject (content : Nat) : Bears (pageObject content) [] := by
  refine bears_dictionary (c := 'T') (by simp [toString]) (by decide) ?_
  simp only [String.toList_append, unbracketed_append]
  exact ⟨⟨⟨by decide, unbracketed_nat content⟩, by decide⟩,
    ⟨⟨⟨by decide, unbracketed_number _⟩, by decide⟩, unbracketed_number _⟩, by decide⟩

theorem bears_catalog : Bears (dictionary "/Type/Catalog/Pages 1 0 R") [] :=
  bears_dictionary (c := 'T') (by decide) (by decide) (by decide)

/-- The streams of the objects, those of each object in a list of their own. -/
def Document.streams (d : Document) : List (List (List Char)) :=
  [[]] ++ FontFamily.all.map (fun _ => []) ++ [[]] ++
    d.writtenPages.flatMap (fun page => [[pageContent page], []]) ++ [[]]

theorem forall₂_bears_pageObjects {pages : List (List Mark)}
    (h : ∀ page ∈ pages, ∀ c ∈ pageContent page, isLatin1 c = true) :
    List.Forall₂ Bears (Document.pageObjects pages)
      (pages.flatMap fun page => [[pageContent page], []]) := by
  rw [Document.pageObjects]
  generalize 0 = first
  induction pages generalizing first with
  | nil => exact .nil
  | cons page pages ih =>
    obtain ⟨here, there⟩ := List.forall_mem_cons.1 h
    exact .cons (bears_streamObject here) (.cons (bears_pageObject _) (ih there _))

theorem forall₂_bears_objects {d : Document}
    (h : ∀ page ∈ d.writtenPages, ∀ c ∈ pageContent page, isLatin1 c = true) :
    List.Forall₂ Bears d.objects d.streams := by
  have fonts : List.Forall₂ Bears (FontFamily.all.map fontObject)
      (FontFamily.all.map fun _ => []) :=
    .cons (bears_fontObject _) (.cons (bears_fontObject _) (.cons (bears_fontObject _) .nil))
  have tree : List.Forall₂ Bears [pagesObject d.writtenPages.length] [[]] :=
    .cons (bears_pagesObject _) .nil
  have front := List.rel_append (List.rel_append tree fonts) (.cons bears_resources .nil)
  exact List.rel_append (List.rel_append front (forall₂_bears_pageObjects h))
    (.cons bears_catalog .nil)

theorem flatten_streams (d : Document) : d.streams.flatten = d.writtenPages.map pageContent := by
  have pages : (d.writtenPages.flatMap fun page => [[pageContent page], []]).flatten =
      d.writtenPages.map pageContent := by
    induction d.writtenPages with
    | nil => rfl
    | cons page pages ih => simp [ih]
  simp [Document.streams, pages]

/-! ## The cross-reference stream -/

theorem latin1_crossReference (offset : Nat) : ∀ c ∈ crossReference offset, isLatin1 c = true := by
  have byte : ∀ n, n < 256 → isLatin1 (Char.ofNat n) = true := by
    intro n hn
    have same : (Char.ofNat n).toNat = n := by
      rw [Char.ofNat, dif_pos (.inl (by omega))]
      rfl
    simp only [isLatin1, same, decide_eq_true_eq]
    omega
  simp only [crossReference, List.forall_mem_cons]
  exact ⟨byte _ (by decide), byte _ (Nat.mod_lt _ (by decide)), byte _ (Nat.mod_lt _ (by decide)),
    byte _ (Nat.mod_lt _ (by decide)), byte _ (Nat.mod_lt _ (by decide)), byte _ (by decide),
    byte _ (by decide), by simp⟩

/-- The marker of a stream does not fit in front of a zero byte. -/
theorem bears_append_zero {s : List Char} (h : ∀ c ∈ s, isLatin1 c = true)
    (hlength : s.length < 10) : Bears (s ++ ['\x00']) [] where
  latin1 := List.forall_mem_append.2 ⟨h, forall_mem_of_all (by decide)⟩
  streamsFrom_append rest := by
    induction s with
    | nil => exact streamsFrom_cons (by simp [startsWith?])
    | cons c s ih =>
      obtain ⟨here, there⟩ := List.forall_mem_cons.1 h
      have short : startsWith? "<</Length ".toList (c :: s) = none := by
        rw [Option.eq_none_iff_forall_ne_some]
        intro r hr
        have := congrArg List.length (startsWith?_eq_some_iff.1 hr)
        rw [List.length_append, show "<</Length ".toList.length = 10 from rfl] at this
        omega
      have pass : startsWith? "<</Length ".toList (c :: (s ++ '\x00' :: rest)) = none := by
        rw [← List.cons_append, startsWith?_append_cons (by decide), short]
        rfl
      simp only [List.cons_append, List.append_assoc, List.nil_append] at ih ⊢
      rw [streamsFrom_cons pass]
      exact ih there (by simp at hlength; omega)

theorem bears_crossReference (offset : Nat) : Bears (crossReference offset) [] := by
  have latin1 := latin1_crossReference offset
  exact bears_append_zero (s := (crossReference offset).dropLast)
    (fun c hc => latin1 c (List.dropLast_subset _ hc)) (by simp [crossReference])

theorem bears_rows (offsets : List Nat) : Bears (offsets.flatMap crossReference) [] := by
  induction offsets with
  | nil => exact .nil
  | cons offset offsets ih => exact (bears_crossReference offset).append ih

/-- The stream of another kind than that of a page. -/
theorem bears_table {entries : String} {c : Char} (first : ['/', c] <+: entries.toList)
    (hc : c ≠ 'L') (h : Unbracketed entries.toList) (offsets : List Nat) :
    Bears (streamObject entries (offsets.flatMap crossReference)) [] := by
  have opening : Bears ("<<".toList ++ (entries.toList ++ ("/Length ".toList ++
      ((toString (offsets.flatMap crossReference).length).toList ++ ">>stream\n".toList)))) [] := by
    refine bears_opening (first.trans (List.prefix_append ..)) hc ?_
    simp only [unbracketed_append]
    exact ⟨h, by decide, unbracketed_nat _, by decide⟩
  have closing : Bears "\nendstream ".toList [] := Unbracketed.bears (by decide)
  have := opening.append ((bears_rows offsets).append closing)
  simpa only [streamObject_eq, List.append_assoc, List.append_nil] using this

/-! ## Files -/

theorem Bears.numbered {object : List Char} {streams : List (List Char)} (h : Bears object streams)
    (n : Nat) : Bears (numbered n object) streams := by
  have front : Bears s!"{n} 0 obj\n".toList [] := by
    rw [String.toList_append]
    exact (unbracketed_append.2 ⟨unbracketed_nat n, by decide⟩).bears
  have behind : Bears "\nendobj\n".toList [] := Unbracketed.bears (by decide)
  exact (front.append h).append_nil behind

theorem bears_layOut {objects : List (List Char)} {streams : List (List (List Char))}
    (h : List.Forall₂ Bears objects streams) (n offset : Nat) :
    Bears (layOut n offset objects).1 streams.flatten := by
  induction h generalizing n offset with
  | nil => exact .nil
  | cons here _ ih => exact (here.numbered n).append (ih _ _)

theorem isLatin1_pageContent {page : List Mark}
    (h : ∀ m ∈ page, ∀ c ∈ m.text, isLatin1 c = true) :
    ∀ c ∈ pageContent page, isLatin1 c = true := by
  refine forall_mem_intercalate (forall_mem_of_all (by decide)) fun line hline c hc => ?_
  obtain ⟨m, hm, hline⟩ := List.mem_flatMap.1 hline
  exact ((mem_operators m line hline).2 c hc).elim (h m hm c) IsGraphic.isLatin1

/-! ## Documents -/

namespace Document

/-- The marks show characters that a line can have: each has a byte, and none ends a line. -/
def IsPlain (d : Document) : Prop :=
  ∀ m ∈ d.pages.flatten, ∀ c ∈ m.text, isLatin1 c = true ∧ c ≠ '\n'

/-- A drawn cell leaves marks of this kind only. -/
theorem IsPlain.cell {d d' : Document} {c : Cell} (plain : d.IsPlain) (h : d.cell c = .ok d') :
    d'.IsPlain := by
  obtain ⟨latin1, k, -, gained⟩ := exists_laid_of_cell h
  intro m hm ch hch
  have text : m.text ∈ d'.pages.flatten.map Mark.text := List.mem_map_of_mem hm
  rw [gained.texts, map_text_laid, List.mem_append] at text
  rcases text with before | line
  · obtain ⟨m', hm', same⟩ := List.mem_map.1 before
    exact plain m' hm' ch (same ▸ hch)
  · obtain ⟨hmem, hne⟩ := mem_of_mem_wrap (List.mem_filter.1 line).1 hch
    exact ⟨latin1 ch hmem, hne⟩

theorem IsPlain.writtenPages {d : Document} (plain : d.IsPlain) :
    ∀ page ∈ d.writtenPages, ∀ m ∈ page, ∀ c ∈ m.text, isLatin1 c = true ∧ c ≠ '\n' := by
  intro page hpage m hm
  rw [Document.writtenPages] at hpage
  split at hpage
  · rw [List.mem_singleton.1 hpage] at hm
    cases hm
  · exact plain m (List.mem_flatten_of_mem hpage hm)

theorem bears_fileText {d : Document} (plain : d.IsPlain) :
    Bears d.fileText (d.writtenPages.map pageContent) := by
  have contents : ∀ page ∈ d.writtenPages, ∀ c ∈ pageContent page, isLatin1 c = true :=
    fun page hpage => isLatin1_pageContent fun m hm c hc =>
      (plain.writtenPages page hpage m hm c hc).1
  have header : Bears fileHeader [] := Unbracketed.bears (by decide)
  have body := bears_layOut (forall₂_bears_objects contents) 1 fileHeader.length
  rw [flatten_streams] at body
  refine ((header.append body).append_nil (Bears.numbered ?table _)).append_nil ?trailer
  case table =>
    refine bears_table (c := 'R') (by simp [toString]) (by decide) ?_ _
    simp only [String.toList_append, unbracketed_append]
    exact ⟨⟨⟨⟨⟨⟨by decide, unbracketed_nat _⟩, by decide⟩, unbracketed_nat _⟩, by decide⟩,
      unbracketed_nat _⟩, by decide⟩
  case trailer =>
    simp only [String.toList_append]
    exact (unbracketed_append.2 ⟨unbracketed_append.2 ⟨by decide, unbracketed_nat _⟩,
      by decide⟩).bears

/-- The content streams that are read from the bytes of a file are those of its pages. -/
theorem pageStreams?_bytes {d : Document} (plain : d.IsPlain) :
    pageStreams? d.bytes = some (d.writtenPages.map pageContent) := by
  have bears := bears_fileText plain
  have mark : Bears "%PDF-".toList [] := Unbracketed.bears (by decide)
  obtain ⟨text, hd⟩ : ∃ text, d.fileText = "%PDF-".toList ++ text := ⟨_, rfl⟩
  have streams : streamsFrom 0 text = d.writtenPages.map pageContent := by
    have := bears.streamsFrom_append []
    rw [hd, List.append_assoc, mark.streamsFrom_append, List.append_nil] at this
    simpa [streamsFrom] using this
  rw [pageStreams?, bytes, ofLatin1Bytes_latin1Bytes bears.latin1, hd, startsWith?_append,
    Option.map_some, streams]

end Document

/-- What the pages of a file show, read from its bytes. -/
def shownIn? (bs : Bytes) : Option (List ShownText) := do
  let streams ← pageStreams? bs
  let texts ← streams.mapM shownTexts?
  return texts.flatten

/-- The file of a document shows the texts of its marks, each in its colour, and nothing else. -/
theorem Document.shownIn?_bytes {d : Document} (plain : d.IsPlain) :
    shownIn? d.bytes = some (d.pages.flatten.map Mark.shownText) := by
  have texts : (d.writtenPages.map pageContent).mapM shownTexts? =
      some (d.writtenPages.map (·.map Mark.shownText)) := by
    rw [List.mapM_map]
    exact mapM_eq_some_map fun page hpage => shownTexts?_pageContent fun m hm hnewline =>
      (plain.writtenPages page hpage m hm _ hnewline).2 rfl
  have marks : d.writtenPages.flatten = d.pages.flatten := by
    rw [writtenPages]
    split <;> simp [*]
  rw [shownIn?, pageStreams?_bytes plain]
  simp only [Option.bind_eq_bind, Option.bind_some, texts]
  simp [← List.map_flatten, marks]

end ScriptPress.Page
