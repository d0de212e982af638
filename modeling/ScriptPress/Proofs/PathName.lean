import ScriptPress.Disk.Path
import ScriptPress.Proofs.RawLine

/-!
# Names in paths

The last part of a path is the text in front of the slashes at its end. With another extension the
path ends in the stem of that part and the extension, which is another name wherever the extension
has a point in it.

## Main definitions

* `IsPart` — a text between slashes.
* `EndsIn` — a path with a given last part.

## Main statements

* `EndsIn.segments_eq`, `exists_endsIn` — the last part of a path.
* `last_withExtension` — the name that a path ends in once it has another extension.
-/

namespace ScriptPress.Disk

open Text

/-! ## The last part of a path -/

/-- A text that can stand between slashes. -/
structure IsPart (part : List Char) : Prop where
  ne_nil : part ≠ []
  plain : ∀ c ∈ part, c ≠ '/'

/-- The path has the part at its end, with only slashes behind it. -/
inductive EndsIn (part : List Char) : List Char → Prop
  | intro (front slashes : List Char) (cut : ∀ c ∈ front.getLast?, c = '/')
      (slashed : ∀ c ∈ slashes, c = '/') : EndsIn part (front ++ part ++ slashes)

theorem pieces_append {p : Char → Bool} (a b : List Char) {c : Char} (hc : p c = true) :
    pieces p (a ++ c :: b) = pieces p a ++ pieces p b := by
  induction a with
  | nil => simp [pieces, hc]
  | cons d a ih =>
    rw [List.cons_append, pieces, ih, pieces]
    cases whole : pieces p a with
    | nil => exact absurd whole (pieces_ne_nil p a)
    | cons l ls => split_ifs <;> rfl

theorem segments_append (a b : List Char) :
    segments (a ++ '/' :: b) = segments a ++ segments b := by
  rw [segments, pieces_append a b rfl, List.filter_append, List.map_append, segments, segments]

theorem segments_ne_nil {c : Char} {s : List Char} (h : (c == '/') = false) :
    segments (c :: s) ≠ [] := by
  have first : ∃ l ls, pieces (· == '/') (c :: s) = (c :: l) :: ls := by
    rw [pieces, h, if_neg Bool.false_ne_true]
    split <;> exact ⟨_, _, rfl⟩
  obtain ⟨l, ls, first⟩ := first
  simp [segments, first]

theorem segments_of_slashes {s : List Char} (h : ∀ c ∈ s, c = '/') : segments s = [] := by
  induction s with
  | nil => rfl
  | cons c s ih =>
    obtain ⟨rfl, rest⟩ := List.forall_mem_cons.1 h
    exact (segments_append [] s).trans (ih rest)

theorem segments_append_slashes (s : List Char) {slashes : List Char}
    (h : ∀ c ∈ slashes, c = '/') : segments (s ++ slashes) = segments s := by
  cases slashes with
  | nil => rw [List.append_nil]
  | cons c slashes =>
    obtain ⟨rfl, rest⟩ := List.forall_mem_cons.1 h
    rw [segments_append, segments_of_slashes rest, List.append_nil]

theorem IsPart.segments_eq {part : List Char} (h : IsPart part) :
    segments part = [.ofText part] := by
  have whole : pieces (· == '/') part = [part] :=
    pieces_of_forall fun c mem => beq_false_of_ne (h.plain c mem)
  simp [segments, whole, h.ne_nil]

theorem EndsIn.getLast?_segments {part path : List Char} (h : EndsIn part path)
    (isPart : IsPart part) : (segments path).getLast? = some (.ofText part) := by
  cases h with
  | intro front slashes cut slashed =>
    rw [segments_append_slashes _ slashed]
    rcases List.eq_nil_or_concat front with rfl | ⟨f, c, rfl⟩
    · rw [List.nil_append, isPart.segments_eq]
      rfl
    · rw [List.concat_eq_append] at cut ⊢
      obtain rfl : c = '/' := cut c (by simp)
      rw [List.append_assoc, List.singleton_append, segments_append, isPart.segments_eq,
        List.getLast?_concat]

/-- A path that is not only slashes has a last part. -/
theorem exists_endsIn {path : List Char} (h : segments path ≠ []) :
    ∃ part, IsPart part ∧ EndsIn part path := by
  let body := dropEndWhile (· == '/') path
  have slashed : ∀ c ∈ takeEndWhile (· == '/') path, c = '/' := fun c mem => by
    simpa using eq_true_of_mem_takeEndWhile mem
  have whole : body ++ takeEndWhile (· == '/') path = path := dropEndWhile_append_takeEndWhile _ _
  have split := dropEndWhile_append_takeEndWhile (· != '/') body
  have cut : ∀ d ∈ (dropEndWhile (· != '/') body).getLast?, d = '/' := fun d mem => by
    simpa using eq_false_of_getLast?_dropEndWhile mem
  refine ⟨takeEndWhile (· != '/') body, ⟨fun none => h ?_, fun d mem => ?_⟩, ?_⟩
  · rw [none, List.append_nil] at split
    have empty : body = [] := by
      refine List.getLast?_eq_none_iff.1 (Option.eq_none_iff_forall_not_mem.2 fun c mem => ?_)
      obtain rfl := cut c (split.symm ▸ mem)
      have plain := eq_false_of_getLast?_dropEndWhile mem
      cases plain
    rw [← whole, empty]
    exact segments_of_slashes slashed
  · simpa using eq_true_of_mem_takeEndWhile mem
  · rw [← whole]
    nth_rewrite 2 [← split]
    exact .intro _ _ cut slashed

theorem getLast?_filter_of_getLast? {α : Type} {p : α → Bool} {l : List α} {a : α}
    (last : l.getLast? = some a) (kept : p a = true) : (l.filter p).getLast? = some a := by
  obtain ⟨front, rfl⟩ := List.getLast?_eq_some_iff.1 last
  rw [List.filter_append, List.filter_cons_of_pos kept, List.filter_nil, List.getLast?_concat]

/-- A last part that leads away counts. -/
theorem getLast?_components {path : List Char} {last : Segment}
    (h : (segments path).getLast? = some last) (away : last ≠ .here) :
    (components path).getLast? = some last := by
  unfold components
  split
  · next rest parts =>
    rw [parts, List.getLast?_cons] at h
    have behind : rest.getLast? = some last := by
      cases ends : rest.getLast? with
      | none => simp [ends, away.symm] at h
      | some s => simpa [ends] using h
    have filtered : (rest.filter (· ≠ .here)).getLast? = some last :=
      getLast?_filter_of_getLast? behind (decide_eq_true away)
    split_ifs
    · exact filtered
    · rw [List.getLast?_cons, filtered]
      rfl
  · exact getLast?_filter_of_getLast? h (decide_eq_true away)

theorem fileName?_of_last {path name : List Char}
    (h : (segments path).getLast? = some (.name name)) : fileName? path = some name := by
  rw [fileName?, getLast?_components h (by simp)]

/-! ## Stems -/

/-- A name is cut at its last point, unless that is its first character. -/
theorem splitExtension_append (stem : List Char) {ext : List Char} (plain : ∀ c ∈ ext, c ≠ '.') :
    splitExtension (stem ++ '.' :: ext) =
      if stem.isEmpty then (stem ++ '.' :: ext, none) else (stem, some ext) := by
  have behind : takeEndWhile (· != '.') (stem ++ '.' :: ext) = ext := by
    rw [← List.singleton_append, ← List.append_assoc]
    exact takeEndWhile_append_of_getLast? (by simpa using plain) (by simp)
  have size : (stem ++ '.' :: ext).length - ext.length - 1 = stem.length := by
    rw [List.length_append, List.length_cons]
    omega
  simp only [splitExtension, behind, size, List.take_left]

theorem splitExtension_cases (name : List Char) :
    splitExtension name = (name, none) ∨ ∃ stem ext, stem ≠ [] ∧ (∀ c ∈ ext, c ≠ '.') ∧
      name = stem ++ '.' :: ext := by
  have whole := dropEndWhile_append_takeEndWhile (· != '.') name
  have plain : ∀ c ∈ takeEndWhile (· != '.') name, c ≠ '.' := fun c mem => by
    simpa using eq_true_of_mem_takeEndWhile mem
  rcases List.eq_nil_or_concat (dropEndWhile (· != '.') name) with none | ⟨stem, c, front⟩
  · left
    rw [none, List.nil_append] at whole
    simp [splitExtension, whole]
  · rw [List.concat_eq_append] at front
    obtain rfl : c = '.' := by
      have cut := @eq_false_of_getLast?_dropEndWhile _ (· != '.') name c
      simpa [front] using cut
    rw [front, List.append_assoc, List.singleton_append] at whole
    by_cases first : stem = []
    · left
      rw [← whole, splitExtension_append stem plain, first]
      rfl
    · exact .inr ⟨stem, _, first, plain, whole.symm⟩

/-- A stem with an extension that has a point in it is another name. -/
theorem fileStem_append_ne (name : List Char) {ext : List Char} (pointed : '.' ∈ ext) :
    fileStem name ++ '.' :: ext ≠ name := by
  intro same
  rcases splitExtension_cases name with whole | ⟨stem, old, full, plain, rfl⟩
  · simp [fileStem, whole] at same
  · rw [fileStem, splitExtension_append stem plain, if_neg (by simpa using full)] at same
    obtain rfl := (List.cons.inj (List.append_cancel_left same)).2
    exact plain '.' pointed rfl

theorem mem_of_mem_fileStem {name : List Char} {c : Char} (h : c ∈ fileStem name) : c ∈ name := by
  rcases splitExtension_cases name with whole | ⟨stem, old, full, plain, rfl⟩
  · rwa [fileStem, whole] at h
  · rw [fileStem, splitExtension_append stem plain, if_neg (by simpa using full)] at h
    exact List.mem_append_left _ h

/-! ## Another extension -/

theorem Segment.ofText_eq_name_iff {s name : List Char} :
    ofText s = .name name ↔ s = name ∧ s ≠ ['.'] ∧ s ≠ ['.', '.'] := by
  unfold ofText
  split_ifs with here up <;> simp_all

/-- Cut by the length of its extension, a path ends in its last part, of which nothing in front of
the last point is lost. -/
theorem endsIn_withoutExtension {path name : List Char}
    (h : (segments path).getLast? = some (.name name)) : ∃ part, IsPart part ∧ part ≠ ['.'] ∧
      EndsIn part (withoutExtension path) ∧ fileStem part = fileStem name := by
  have something : segments path ≠ [] := fun none => by simp [none] at h
  obtain ⟨part, isPart, ends⟩ := exists_endsIn something
  have last := (ends.getLast?_segments isPart).symm.trans h
  obtain ⟨rfl, point, -⟩ := Segment.ofText_eq_name_iff.1 (Option.some.inj last)
  rw [withoutExtension, fileName?_of_last h, Option.bind_some]
  rcases splitExtension_cases part with whole | ⟨stem, old, full, plain, rfl⟩
  · rw [whole]
    exact ⟨part, isPart, point, ends, rfl⟩
  · have split := splitExtension_append stem plain
    rw [if_neg (by simpa using full)] at split
    cases ends with
    | intro front slashes cut slashed =>
      have kept : ∀ c ∈ old.take slashes.length, c ≠ '.' := fun c mem =>
        plain c (List.mem_of_mem_take mem)
      have shorter : stem ++ '.' :: old.take slashes.length ⊆ stem ++ '.' :: old := by
        intro c mem
        simp only [List.mem_append, List.mem_cons] at mem ⊢
        exact mem.imp_right fun behind => behind.imp_right List.mem_of_mem_take
      have size : (front ++ (stem ++ '.' :: old) ++ slashes).length - old.length =
          front.length + (stem.length + (slashes.length + 1)) := by
        simp only [List.length_append, List.length_cons]
        omega
      have left : (front ++ (stem ++ '.' :: old) ++ slashes).take
          (front.length + (stem.length + (slashes.length + 1))) =
          front ++ (stem ++ '.' :: old.take slashes.length) ++
            slashes.take (slashes.length - old.length) := by
        simp only [List.append_assoc, List.take_length_add_append, List.cons_append,
          List.take_succ_cons]
        rw [List.take_append]
      refine ⟨stem ++ '.' :: old.take slashes.length,
        ⟨by simp, fun c mem => isPart.plain c (shorter mem)⟩,
        by simp [full, List.append_eq_cons_iff], ?_, ?_⟩
      · simp only [split, size, left]
        exact .intro _ _ cut fun c mem => slashed c (List.mem_of_mem_take mem)
      · rw [fileStem, splitExtension_append stem kept, if_neg (by simpa using full), fileStem,
          split]

theorem exists_intercalate_concat (parts : List (List Char)) (last : List Char) :
    ∃ front : List Char, List.intercalate ['/'] (parts ++ [last]) = front ++ last ∧
      ∀ c ∈ front.getLast?, c = '/' := by
  induction parts with
  | nil => exact ⟨[], by simp [List.intercalate], by simp⟩
  | cons part parts ih =>
    obtain ⟨front, whole, cut⟩ := ih
    refine ⟨part ++ '/' :: front, ?_, fun c mem => ?_⟩
    · obtain ⟨next, rest, tail⟩ : ∃ next rest, parts ++ [last] = next :: rest :=
        List.exists_cons_of_ne_nil (by simp)
      rw [tail] at whole
      rw [List.cons_append, tail, List.intercalate_cons_cons, whole]
      simp
    · rw [List.getLast?_append, List.getLast?_cons] at mem
      cases ends : front.getLast? with
      | none => simpa [ends, eq_comm] using mem
      | some d => exact cut c (by simpa [ends] using mem)

theorem endsIn_joined (absolute : Bool) (parts : List Segment) (s : Segment) :
    EndsIn s.text (joined absolute (parts ++ [s])) := by
  obtain ⟨front, whole, cut⟩ := exists_intercalate_concat (parts.map Segment.text) s.text
  have front_cut : ∀ c ∈ ((if absolute then ['/'] else []) ++ front).getLast?, c = '/' := by
    intro c mem
    rw [List.getLast?_append] at mem
    cases ends : front.getLast? with
    | none => cases absolute <;> simp [ends] at mem; exact mem.symm
    | some d => exact cut c (by simpa [ends] using mem)
  have whole' : joined absolute (parts ++ [s]) =
      (if absolute then ['/'] else []) ++ front ++ s.text ++ [] := by
    simp [joined, whole]
  rw [whole']
  exact .intro _ _ front_cut (List.forall_mem_nil _)

/-- With another extension a path ends in the stem of its last part and the extension, if it ends in
a name at all. -/
theorem last_withExtension {path name last ext : List Char}
    (h : (segments path).getLast? = some (.name name))
    (h' : (segments (withExtension path ext)).getLast? = some (.name last))
    (plain : ∀ c ∈ ext, c ≠ '/') : last = fileStem name ++ '.' :: ext := by
  obtain ⟨part, isPart, point, ends, stem⟩ := endsIn_withoutExtension h
  have bare := ends.getLast?_segments isPart
  by_cases up : part = ['.', '.']
  · -- The path was cut to one that leads to a folder, and stays so.
    subst up
    have unnamed : fileName? (withoutExtension path) = none := by
      rw [fileName?, getLast?_components bare (by decide)]
      rfl
    rw [withExtension, unnamed, bare] at h'
    cases h'
  · have named := Segment.ofText_eq_name_iff.2 ⟨rfl, point, up⟩
    rw [withExtension, fileName?_of_last (bare.trans (congrArg some named))] at h'
    have slashless : IsPart (fileStem part ++ '.' :: ext) := by
      refine ⟨by simp, fun c mem => ?_⟩
      rcases List.mem_append.1 mem with front | behind
      · exact isPart.plain c (mem_of_mem_fileStem front)
      · rcases List.mem_cons.1 behind with rfl | behind
        · decide
        · exact plain c behind
    have ends' := (endsIn_joined (isAbsolute (withoutExtension path))
      (components (withoutExtension path)).dropLast (.name (fileStem part ++ '.' :: ext)))
    have last' := (ends'.getLast?_segments slashless).symm.trans h'
    rw [← (Segment.ofText_eq_name_iff.1 (Option.some.inj last')).1, Segment.text, stem]

end ScriptPress.Disk
