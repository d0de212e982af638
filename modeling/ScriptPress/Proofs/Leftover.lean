import ScriptPress.Proofs.FatalError

/-!
# Leftovers

A request begins by dropping the documents of those before it. A document that cannot be dropped
stays, and the request goes on all the same: if nothing is put in its place, it is taken for a
document of the script.

## Main definitions

* `LeftBehind` — a document could not be dropped, and nothing was put in its place.

## Main statements

* `delivered_written_iff` — what a request delivers was put into the store while the request was
  served, unless it was left behind.
* `leftover_delivered` — a request that delivers what was left behind.
-/

namespace ScriptPress

open Conversion Text

variable {σ : Type}

/-- A document could not be dropped as the request began, and nothing was put in its place. -/
def LeftBehind (es : List Entry) (name : String) : Prop :=
  .accessed .request (.remove name) false ∈ es ∧ ∀ e ∈ es, ∀ bytes, ¬e.Puts name bytes

/-! ## Dropping the documents -/

namespace Removals

variable {names : List String} {es : List Entry} {name : String} {bytes : Bytes}

theorem not_puts (h : Removals names es) : ∀ e ∈ es, ∀ bytes, ¬e.Puts name bytes := by
  induction h with
  | nil => simp
  | cons ok _ ih => exact List.forall_mem_cons.2 ⟨fun bytes => by simp [Entry.Puts], ih⟩

/-- What is still held after it was to be dropped could not be dropped. -/
theorem failed (h : Removals names es) {st st' : Store} (undergoes : st.Undergoes es st')
    (mem : name ∈ names) (held : st'.Holds name bytes) :
    .accessed .request (.remove name) false ∈ es := by
  induction h generalizing st with
  | nil => cases mem
  | @cons n names es ok rest ih =>
    cases undergoes with
    | cons fits later =>
      rcases List.mem_cons.1 mem with rfl | mem
      · cases ok with
        | false => exact List.mem_cons_self
        | true =>
          -- It was dropped here, and what follows puts nothing anywhere.
          rcases later.holds_or held with ⟨e, he, puts⟩ | ⟨kept, -⟩
          · exact absurd puts (rest.not_puts e he bytes)
          · have dropped : (st.remove name).1.isOk := fits
            exact absurd ⟨dropped, rfl⟩ ((Store.holds_remove_iff st name name bytes).1 kept).1
      · exact List.mem_cons_of_mem _ (ih later mem)

end Removals

/-- As a request begins, nothing is put anywhere. -/
theorem not_puts_cleaning {names : List String} {removals : List Entry}
    (removed : Removals names removals) :
    ∀ e ∈ Stage.normalize.around [] ++ .accessed .request .list true :: removals,
      ∀ name bytes, ¬e.Puts name bytes := by
  intro e mem name bytes
  simp only [Stage.around, List.nil_append, List.cons_append, List.mem_cons] at mem
  rcases mem with rfl | rfl | rfl | mem
  · simp [Entry.Puts]
  · simp [Entry.Puts]
  · simp [Entry.Puts]
  · exact removed.not_puts e mem bytes

/-! ## What is delivered -/

/-- What is delivered was put there while the request was served, or was there before and could not
be dropped. -/
theorem Converted.written_or_left {config : Config} {source : String} {s s' : Session σ}
    {o : Output} {es : List Entry} (h : Converted config source s (.ok o) es s') :
    (∃ e ∈ es, e.Puts o.artifact o.bytes) ∨
      LeftBehind es o.artifact ∧ s.sandbox.store.Holds o.artifact o.bytes := by
  obtain ⟨pdf, held⟩ := h.delivered
  cases h with
  | @cleaned s₁ _ removals _ _ _ full listed removed leads checked leads₁ =>
    have idle := not_puts_cleaning removed
    -- Back from the end to the cleaning, and from there to the beginning.
    rcases leads₁.store.holds_or held with ⟨e, mem, puts⟩ | ⟨held₁, untouched⟩
    · exact .inl ⟨e, List.mem_append_right _ mem, puts⟩
    · rcases leads.store.holds_or held₁ with ⟨e, mem, puts⟩ | ⟨held₀, -⟩
      · exact absurd puts (idle e mem _ _)
      · have cleaning : s.sandbox.store.Undergoes
            ((Stage.normalize.around [] ++ [.accessed .request .list true]) ++ removals)
            s₁.sandbox.store := by simpa using leads.store
        obtain ⟨st, -, dropping⟩ := cleaning.split
        have failed := removed.failed dropping (held₀.mem_documents pdf) held₁
        refine .inr ⟨⟨by simp [failed], fun e mem bytes => ?_⟩, held₀⟩
        rcases List.mem_append.1 mem with mem | mem
        · exact idle e mem _ bytes
        · exact untouched e mem bytes

/-- What a request delivers was put into the store while the request was served, unless it was left
behind; then it is what the store held before. -/
theorem delivered_written_iff (interpreter : Interpreter σ) (config : Config) (source : String)
    (s : Session σ) {o : Output} (ok : (convert interpreter config source s).1 = .ok o) :
    let es := entries (convert interpreter config source) s
    ((∃ e ∈ es, e.Puts o.artifact o.bytes) ↔ ¬LeftBehind es o.artifact) ∧
      (LeftBehind es o.artifact → s.sandbox.store.Holds o.artifact o.bytes) := by
  intro es
  obtain ⟨-, converted⟩ := (meets_convert interpreter config source s).run
  rw [ok] at converted
  have either := converted.written_or_left
  have apart : LeftBehind es o.artifact → ¬∃ e ∈ es, e.Puts o.artifact o.bytes :=
    fun left ⟨e, mem, puts⟩ => left.2 e mem _ puts
  refine ⟨⟨fun written left => apart left written, fun new => ?_⟩, fun left => ?_⟩
  · exact either.resolve_right fun left => new left.1
  · exact (either.resolve_left (apart left)).2

/-! ## A leftover that is delivered -/

def stuckSession : Session Unit :=
  .new ⟨⟨.memory (FileMap.empty.insert "stale.pdf" (utf8 "old".toList)),
    .ofNumbers fun call => if call = .remove then [0] else []⟩, .all⟩ ()

theorem entries_stuckSession :
    entries (convert .silent .default "pass") stuckSession =
      Stage.normalize.around [] ++ .accessed .request .list true ::
        [.accessed .request (.remove "stale.pdf") false] ++
      (Stage.diagnose.around (compiling "pass" none) ++
        Stage.execute.around [.called (.execute "pass" "pass"),
          .answered (.execute "pass" "pass" .returned), .accessed .request .list true] ++
        Stage.resolve.around [] ++
        [.accessed .request (.read "stale.pdf") true, .told (.finished .saved "stale.pdf")]) := by
  decide +kernel

/-- Nothing is put anywhere in that session. -/
theorem not_puts_stuckSession (name : String) (bytes : Bytes) :
    ¬∃ e ∈ entries (convert .silent .default "pass") stuckSession, e.Puts name bytes := by
  rw [entries_stuckSession]
  simp [Stage.around, compiling, Entry.Puts]

/-- A script that does nothing delivers the document that could not be dropped. -/
theorem leftover_delivered :
    (convert .silent .default "pass" stuckSession).1.toOption.map
        (fun o => (o.outcome, o.artifact, o.bytes)) =
      some (.saved, "stale.pdf", utf8 "old".toList) ∧
    ¬∃ e ∈ entries (convert .silent .default "pass") stuckSession,
      e.Puts "stale.pdf" (utf8 "old".toList) :=
  ⟨by decide +kernel, not_puts_stuckSession _ _⟩

/-- The document that is delivered there was left behind. -/
theorem leftBehind_stuckSession :
    ∃ o, (convert .silent .default "pass" stuckSession).1 = .ok o ∧
      LeftBehind (entries (convert .silent .default "pass") stuckSession) o.artifact ∧
      stuckSession.sandbox.store.Holds o.artifact o.bytes := by
  obtain ⟨o, ok⟩ : ∃ o, (convert .silent .default "pass" stuckSession).1 = .ok o := ⟨_, rfl⟩
  obtain ⟨new, old⟩ := delivered_written_iff .silent .default "pass" stuckSession ok
  have left := Classical.not_not.1 (mt new.2 (not_puts_stuckSession _ _))
  exact ⟨o, ok, left, old left⟩

end ScriptPress
