import Mathlib.Data.List.Infix
import Mathlib.Data.Option.Basic
import ScriptPress.Proofs.DigitRun
import ScriptPress.Source.Marker

/-!
# Removing the markers of a chat

The markers are removed kind by kind, from left to right. What stands around a marker comes together
when it goes, and may be a marker of its own, of a kind that has been removed before. That takes the
beginning of a marker directly in front of a marker; where there is none, no marker is left.

## Main definitions

* `IsMarker`, `HoldsMarker` — the markers of a kind, and a text with a marker of any kind in it.
* `IsGuarded` — no marker stands directly behind the beginning of a marker.
* `Pass` — what the removal of one kind keeps and what it drops.

## Main statements

* `stripMarkers_cases` — a text with a marker becomes shorter, another one stays.
* `not_holdsMarker_stripMarkers` — no marker is left of a guarded text.
-/

namespace ScriptPress.Source

open Text

/-! ## Markers -/

/-- The kinds of markers, in the order in which they are removed. -/
inductive MarkerKind
  | fence
  | citeStart
  | citeNumber
  | citeEnd
  deriving DecidableEq, Repr

inductive IsMarker : MarkerKind → List Char → Prop
  | fence : IsMarker .fence "```".toList
  | citeStart : IsMarker .citeStart "[cite_start]".toList
  | citeNumber {digits : List Char} : IsNumeral digits →
      IsMarker .citeNumber ("[cite: ".toList ++ digits ++ "]".toList)
  | citeEnd : IsMarker .citeEnd "[cite_end]".toList

def HoldsMarker (s : List Char) : Prop := ∃ kind m, IsMarker kind m ∧ m <:+: s

def isOpener (c : Char) : Bool := c == '`' || c == '['

variable {kind kind' : MarkerKind} {m p q s t w x y : List Char} {c : Char}

theorem HoldsMarker.mono (h : HoldsMarker s) (hs : s <:+: t) : HoldsMarker t :=
  let ⟨kind, m, hm, hpart⟩ := h
  ⟨kind, m, hm, hpart.trans hs⟩

theorem IsMarker.exists_cons (h : IsMarker kind m) : ∃ c w, m = c :: w ∧ isOpener c = true := by
  cases h with
  | fence => exact ⟨'`', "``".toList, by decide, by decide⟩
  | citeStart => exact ⟨'[', "cite_start]".toList, by decide, by decide⟩
  | @citeNumber digits => exact ⟨'[', "cite: ".toList ++ digits ++ "]".toList, by simp, by decide⟩
  | citeEnd => exact ⟨'[', "cite_end]".toList, by decide, by decide⟩

theorem IsMarker.ne_nil (h : IsMarker kind m) : m ≠ [] := by
  obtain ⟨c, w, rfl, -⟩ := h.exists_cons
  simp

/-! ## Recognising them -/

def MarkerKind.find : MarkerKind → Recogniser
  | .fence => Source.fence
  | .citeStart => Source.citeStart
  | .citeNumber => Source.citeNumber
  | .citeEnd => Source.citeEnd

theorem literal_eq_some_iff {n : Nat} :
    literal m s = some n ↔ (∃ t, s = m ++ t) ∧ n = m.length - 1 := by
  simp only [literal, Option.map_eq_some_iff, startsWith?_eq_some_iff]
  constructor
  · rintro ⟨t, rfl, rfl⟩
    exact ⟨⟨t, rfl⟩, rfl⟩
  · rintro ⟨⟨t, rfl⟩, rfl⟩
    exact ⟨t, rfl, rfl⟩

theorem literal_append (m s : List Char) : literal m (m ++ s) = some (m.length - 1) :=
  literal_eq_some_iff.2 ⟨⟨s, rfl⟩, rfl⟩

theorem citeNumber_eq_some_iff {n : Nat} :
    citeNumber s = some n ↔ ∃ digits, IsNumeral digits ∧
      (∃ t, s = "[cite: ".toList ++ digits ++ "]".toList ++ t) ∧
      n = "[cite: ".length + digits.length := by
  simp only [citeNumber, Option.bind_eq_bind, Option.bind_eq_some_iff, Option.pure_def,
    Option.some.injEq, startsWith?_eq_some_iff, Option.guard_eq_some', exists_const]
  constructor
  · rintro ⟨rest, rfl, hne, hclose, rfl⟩
    have hrest := List.prefix_iff_eq_append.1 (List.takeWhile_prefix isDigit (l := rest))
    obtain ⟨t, ht⟩ := List.head?_eq_some_iff.1 (eq_of_beq hclose)
    rw [ht] at hrest
    refine ⟨rest.takeWhile isDigit, ⟨by simpa using hne, fun _ => List.mem_takeWhile_imp⟩,
      ⟨t, ?_⟩, rfl⟩
    conv_lhs => rw [← hrest]
    simp
  · rintro ⟨digits, hdigits, ⟨t, rfl⟩, rfl⟩
    have hclose : Halts (']' :: t) := halts_cons.2 (by decide)
    have htake := (takeWhile_append_of_all hdigits.digits hclose).1
    refine ⟨digits ++ ']' :: t, by simp, ?_⟩
    rw [htake, List.drop_left]
    exact ⟨by simpa using hdigits.ne_nil, by simp, rfl⟩

/-- A marker is recognised where it stands. -/
theorem IsMarker.find_append (h : IsMarker kind m) (s : List Char) : kind.find (m ++ s) ≠ none := by
  rw [Option.ne_none_iff_exists']
  cases h with
  | fence =>
    rw [MarkerKind.find, Source.fence, literal_append "```".toList]
    cases literal "```python".toList ("```".toList ++ s) with
    | none => exact ⟨_, rfl⟩
    | some n => exact ⟨n, rfl⟩
  | citeStart => exact ⟨_, literal_append "[cite_start]".toList s⟩
  | citeNumber hdigits => exact ⟨_, citeNumber_eq_some_iff.2 ⟨_, hdigits, ⟨s, rfl⟩, rfl⟩⟩
  | citeEnd => exact ⟨_, literal_append "[cite_end]".toList s⟩

/-- What is recognised begins with a marker of the kind. -/
theorem MarkerKind.exists_of_find_eq_some {n : Nat} (h : kind.find s = some n) :
    ∃ m x t, IsMarker kind m ∧ s = m ++ x ++ t ∧ n + 1 = (m ++ x).length := by
  cases kind with
  | fence =>
    simp only [MarkerKind.find, Source.fence, Option.or_eq_some_iff, literal_eq_some_iff] at h
    rcases h with ⟨⟨t, rfl⟩, rfl⟩ | ⟨-, ⟨t, rfl⟩, rfl⟩
    · exact ⟨_, "python".toList, t, .fence, rfl, rfl⟩
    · exact ⟨_, [], t, .fence, rfl, rfl⟩
  | citeStart =>
    obtain ⟨⟨t, rfl⟩, rfl⟩ := literal_eq_some_iff.1 h
    exact ⟨_, [], t, .citeStart, rfl, rfl⟩
  | citeNumber =>
    obtain ⟨digits, hdigits, ⟨t, rfl⟩, rfl⟩ := citeNumber_eq_some_iff.1 h
    refine ⟨_, [], t, .citeNumber hdigits, by simp, ?_⟩
    simp [← String.length_toList]
    omega
  | citeEnd =>
    obtain ⟨⟨t, rfl⟩, rfl⟩ := literal_eq_some_iff.1 h
    exact ⟨_, [], t, .citeEnd, rfl, rfl⟩

/-! ## One pass -/

/-- What the removal of one kind makes of a text: a character stays where no marker of the kind
begins, and a marker goes, together with what belongs to it. -/
inductive Pass (kind : MarkerKind) : List Char → List Char → Prop
  | nil : Pass kind [] []
  | keep {c : Char} {s t : List Char} : kind.find (c :: s) = none → Pass kind s t →
      Pass kind (c :: s) (c :: t)
  | drop {m x s t : List Char} : IsMarker kind m → Pass kind s t → Pass kind (m ++ x ++ s) t

theorem removeAllFrom_length (find : Recogniser) (s t : List Char) :
    removeAllFrom find s.length (s ++ t) = removeAllFrom find 0 t := by
  induction s with
  | nil => rfl
  | cons c s ih => exact ih

theorem pass_removeAll (kind : MarkerKind) (s : List Char) :
    Pass kind s (removeAll kind.find s) := by
  -- On the length: a marker takes several characters at once.
  induction hlength : s.length using Nat.strong_induction_on generalizing s with
  | _ n ih =>
    cases s with
    | nil => exact .nil
    | cons c s =>
      rw [removeAll, removeAllFrom]
      cases hfind : kind.find (c :: s) with
      | none => exact .keep hfind (ih s.length (by simp [← hlength]) s rfl)
      | some more =>
        obtain ⟨m, x, t, hm, htext, hmore⟩ := MarkerKind.exists_of_find_eq_some hfind
        obtain ⟨d, w, rfl, -⟩ := hm.exists_cons
        simp only [List.cons_append, List.cons.injEq] at htext
        obtain ⟨rfl, rfl⟩ := htext
        obtain rfl : more = (w ++ x).length := by simpa using hmore
        have hpass := ih t.length (by simp [← hlength]; omega) t rfl
        dsimp only
        rw [removeAllFrom_length]
        exact .drop hm hpass

namespace Pass

/-- A pass that finds no marker changes nothing; otherwise the beginning of a marker goes. -/
theorem eq_or_countP_lt (h : Pass kind s t) :
    ((∀ m, IsMarker kind m → ¬ m <:+: s) ∧ t = s) ∨
      (HoldsMarker s ∧ t.countP isOpener < s.countP isOpener) := by
  induction h with
  | nil => exact .inl ⟨fun m hm hpart => hm.ne_nil (List.infix_nil.1 hpart), rfl⟩
  | @keep c s t hfind _ ih =>
    rcases ih with ⟨hnone, rfl⟩ | ⟨hmarker, hlt⟩
    · refine .inl ⟨fun m hm hpart => ?_, rfl⟩
      rcases List.infix_cons_iff.1 hpart with ⟨r, hr⟩ | hpart
      · exact hm.find_append r (hr ▸ hfind)
      · exact hnone m hm hpart
    · refine .inr ⟨hmarker.mono (List.suffix_cons c s).isInfix, ?_⟩
      simpa [List.countP_cons] using hlt
  | @drop m x s t hm _ ih =>
    refine .inr ⟨⟨kind, m, hm, [], x ++ s, by simp⟩, ?_⟩
    have hle : t.countP isOpener ≤ s.countP isOpener := by
      rcases ih with ⟨-, rfl⟩ | ⟨-, hlt⟩
      · exact Nat.le_refl _
      · exact hlt.le
    obtain ⟨c, w, rfl, hc⟩ := hm.exists_cons
    simp only [List.countP_append, List.countP_cons, hc, if_true]
    omega

end Pass

/-! ## Guarded texts -/

/-- No marker stands directly behind the beginning of a marker. -/
def IsGuarded (s : List Char) : Prop :=
  ∀ {kind kind' p q m}, IsMarker kind (p ++ q) → p ≠ [] → q ≠ [] → IsMarker kind' m →
    ¬ (p ++ m) <:+: s

theorem IsGuarded.mono (h : IsGuarded s) (ht : t <:+: s) : IsGuarded t :=
  fun hpq hp hq hm hpart => h hpq hp hq hm (hpart.trans ht)

/-- Without citations, a text is guarded whose fences have three backticks each. -/
theorem isGuarded_of_fences (hcite : '[' ∉ s) (hfence : ¬ "````".toList <:+: s) :
    IsGuarded s := by
  have longer : ∀ p ∈ "```".toList.inits, p ≠ [] → "````".toList <:+: p ++ "```".toList := by
    decide
  have fence_of_mem : ∀ {kind : MarkerKind} {c w}, IsMarker kind (c :: w) → c ∈ s →
      c :: w = "```".toList := by
    intro kind c w h hc
    generalize hm : c :: w = m at h
    cases h with
    | fence => rfl
    | citeStart | citeNumber | citeEnd =>
      obtain ⟨rfl, -⟩ := List.cons.inj hm
      exact absurd hc hcite
  intro kind kind' p q m hpq hp _ hm hpart
  obtain ⟨c, p, rfl⟩ := List.exists_cons_of_ne_nil hp
  obtain ⟨d, w, rfl, -⟩ := hm.exists_cons
  have hbegin := fence_of_mem hpq (hpart.subset (by simp))
  rw [fence_of_mem hm (hpart.subset (by simp))] at hpart
  have hprefix : (c :: p) ∈ "```".toList.inits := (List.mem_inits ..).2 ⟨q, hbegin⟩
  exact hfence ((longer _ hprefix hp).trans hpart)

namespace Pass

/-- What goes on with the beginning of a marker behind a pass went on with it in front of it. -/
theorem exists_of_append (h : Pass kind s x) (hx : x = w ++ t)
    (hbegin : IsMarker kind' (p ++ w ++ q)) (hp : p ≠ [])
    (hguard : IsGuarded (p ++ s)) : ∃ r, s = w ++ r ∧ Pass kind r t := by
  induction h generalizing p w with
  | nil =>
    obtain ⟨rfl, rfl⟩ := List.append_eq_nil_iff.1 hx.symm
    exact ⟨[], rfl, .nil⟩
  | @keep c s x hfind hpass ih =>
    cases w with
    | nil =>
      obtain rfl : c :: x = t := hx
      exact ⟨c :: s, rfl, .keep hfind hpass⟩
    | cons d w =>
      obtain ⟨rfl, rfl⟩ := List.cons.inj hx
      obtain ⟨r, rfl, hr⟩ := ih (p := p ++ [c]) rfl (by simpa using hbegin) (by simp)
        (by rwa [List.append_assoc])
      exact ⟨r, rfl, hr⟩
  | @drop m y s x hm hpass ih =>
    cases w with
    | nil =>
      obtain rfl : x = t := hx
      exact ⟨m ++ y ++ s, rfl, .drop hm hpass⟩
    | cons d w =>
      -- The marker that goes would stand directly behind the beginning `p`.
      rw [List.append_assoc] at hbegin
      refine absurd ?_ (hguard hbegin hp (by simp) hm)
      exact ⟨[], y ++ s, by simp⟩

theorem exists_of_marker (h : Pass kind s (w ++ t)) (hm : IsMarker kind' (c :: w))
    (hguard : IsGuarded (c :: s)) : ∃ r, s = w ++ r := by
  obtain ⟨r, hr, -⟩ := h.exists_of_append (p := [c]) (q := []) rfl (by simpa using hm) (by simp)
    hguard
  exact ⟨r, hr⟩

/-- A marker that stands behind a pass stood there in front of it, and is of another kind. -/
theorem infix_front (h : Pass kind s t) (hguard : IsGuarded s) (hm : IsMarker kind' m)
    (hpart : m <:+: t) : m <:+: s ∧ kind' ≠ kind := by
  induction h with
  | nil => exact absurd (List.infix_nil.1 hpart) hm.ne_nil
  | @keep c s t hfind hpass ih =>
    rcases List.infix_cons_iff.1 hpart with ⟨r, hr⟩ | hpart
    · obtain ⟨d, w, rfl, -⟩ := hm.exists_cons
      obtain ⟨rfl, rfl⟩ := List.cons.inj hr
      obtain ⟨u, rfl⟩ := hpass.exists_of_marker hm hguard
      refine ⟨⟨[], u, rfl⟩, ?_⟩
      rintro rfl
      exact hm.find_append u hfind
    · obtain ⟨hs, hkind⟩ := ih (hguard.mono (List.suffix_cons c s).isInfix) hpart
      exact ⟨hs.trans (List.suffix_cons c s).isInfix, hkind⟩
  | @drop m' x s t _ _ ih =>
    have hsuffix : s <:+: m' ++ x ++ s := (List.suffix_append (m' ++ x) s).isInfix
    obtain ⟨hs, hkind⟩ := ih (hguard.mono hsuffix) hpart
    exact ⟨hs.trans hsuffix, hkind⟩

/-- Where a marker begins behind a pass, one began in front of it. -/
theorem exists_of_marker_append (h : Pass kind s x) (hx : x = m ++ t) (hm : IsMarker kind' m)
    (hguard : IsGuarded s) : ∃ kind' m' r, IsMarker kind' m' ∧ s = m' ++ r := by
  cases h with
  | nil => exact absurd (List.append_eq_nil_iff.1 hx.symm).1 hm.ne_nil
  | @keep c s x _ hpass =>
    obtain ⟨d, w, rfl, -⟩ := hm.exists_cons
    obtain ⟨rfl, rfl⟩ := List.cons.inj hx
    obtain ⟨r, rfl⟩ := hpass.exists_of_marker hm hguard
    exact ⟨kind', c :: w, r, hm, rfl⟩
  | @drop m' y s x hm' =>
    exact ⟨kind, m', y ++ s, hm', List.append_assoc ..⟩

/-- A pass brings no marker behind the beginning of one. -/
theorem isGuarded (h : Pass kind s t) (hguard : IsGuarded s) : IsGuarded t := by
  intro kind₁ kind₂ p q m hpq hp hq hm hpart
  induction h with
  | nil => exact hp (List.append_eq_nil_iff.1 (List.infix_nil.1 hpart)).1
  | @keep c s t hfind hpass ih =>
    rcases List.infix_cons_iff.1 hpart with ⟨r, hr⟩ | hpart
    · obtain ⟨d, w, rfl⟩ := List.exists_cons_of_ne_nil hp
      simp only [List.cons_append, List.cons.injEq, List.append_assoc] at hr
      obtain ⟨rfl, rfl⟩ := hr
      -- The beginning stood there in front of the pass, and behind it a marker that stays or goes.
      obtain ⟨u, rfl, hu⟩ := hpass.exists_of_append (p := [d]) rfl (by simpa using hpq) (by simp)
        hguard
      obtain ⟨_, m', r', hm', rfl⟩ := hu.exists_of_marker_append rfl hm
        (hguard.mono (List.suffix_append (d :: w) u).isInfix)
      exact hguard hpq hp hq hm' ⟨[], r', by simp⟩
    · exact ih (hguard.mono (List.suffix_cons c s).isInfix) hpart
  | @drop m' x s t _ _ ih =>
    exact ih (hguard.mono (List.suffix_append (m' ++ x) s).isInfix) hpart

end Pass

/-! ## All passes -/

def markerKinds : List MarkerKind := [.fence, .citeStart, .citeNumber, .citeEnd]

/-- A text without the markers of some kinds, removed one kind after the other. -/
def removeKinds (kinds : List MarkerKind) (s : List Char) : List Char :=
  kinds.foldl (fun s kind => removeAll kind.find s) s

theorem stripMarkers_eq_removeKinds (s : List Char) : stripMarkers s = removeKinds markerKinds s :=
  rfl

theorem mem_markerKinds (kind : MarkerKind) : kind ∈ markerKinds := by
  cases kind <;> decide

theorem removeKinds_cases (kinds : List MarkerKind) (s : List Char) :
    ((∀ kind ∈ kinds, ∀ m, IsMarker kind m → ¬ m <:+: s) ∧ removeKinds kinds s = s) ∨
      (HoldsMarker s ∧ (removeKinds kinds s).countP isOpener < s.countP isOpener) := by
  induction kinds generalizing s with
  | nil => exact .inl ⟨by simp, rfl⟩
  | cons kind kinds ih =>
    have hrest := ih (removeAll kind.find s)
    rw [removeKinds, List.foldl_cons, ← removeKinds]
    rcases (pass_removeAll kind s).eq_or_countP_lt with ⟨hnone, heq⟩ | ⟨hmarker, hlt⟩
    · rw [heq] at hrest ⊢
      exact hrest.imp_left fun ⟨hkinds, hs⟩ => ⟨List.forall_mem_cons.2 ⟨hnone, hkinds⟩, hs⟩
    · refine .inr ⟨hmarker, ?_⟩
      rcases hrest with ⟨-, hs⟩ | ⟨-, hlt'⟩
      · rwa [hs]
      · exact hlt'.trans hlt

/-- Either a text holds no marker and stays, or it loses the beginning of one. -/
theorem stripMarkers_cases (s : List Char) :
    (¬ HoldsMarker s ∧ stripMarkers s = s) ∨
      (HoldsMarker s ∧ (stripMarkers s).countP isOpener < s.countP isOpener) := by
  rw [stripMarkers_eq_removeKinds]
  refine (removeKinds_cases markerKinds s).imp_left fun ⟨hnone, hs⟩ => ⟨?_, hs⟩
  rintro ⟨kind, m, hm, hpart⟩
  exact hnone kind (mem_markerKinds kind) m hm hpart

theorem infix_of_removeKinds (kinds : List MarkerKind) (h : IsGuarded s)
    (hm : IsMarker kind m) (hpart : m <:+: removeKinds kinds s) : m <:+: s ∧ kind ∉ kinds := by
  induction kinds generalizing s with
  | nil => exact ⟨hpart, by simp⟩
  | cons kind' kinds ih =>
    have hpass := pass_removeAll kind' s
    obtain ⟨hrest, hkinds⟩ := ih (hpass.isGuarded h) hpart
    obtain ⟨hs, hkind⟩ := hpass.infix_front h hm hrest
    exact ⟨hs, by simp [hkind, hkinds]⟩

/-- Of a text in which no marker stands directly behind the beginning of a marker, none is left. -/
theorem not_holdsMarker_stripMarkers (h : IsGuarded s) : ¬ HoldsMarker (stripMarkers s) := by
  rintro ⟨kind, m, hm, hpart⟩
  exact (infix_of_removeKinds markerKinds h hm hpart).2 (mem_markerKinds kind)

end ScriptPress.Source
