import PlantGrammar.Proofs.Turtle.Path

/-! # What a step depends on

Only brackets look at the stack, and a nested word never takes what was saved before it. No step
looks at the last segment. A step forward replaces it, any other step leaves it alone.
-/
namespace PlantGrammar

theorem Command.ofSymbol_popSymbol : ofSymbol popSymbol = pop := rfl

/-- The same walk with another last segment. -/
def Walk.withLast (w : Walk) (p : List Float) (width : Float) : Walk :=
  { w with lastPosition := p, lastWidth := width }

namespace Turtle
open Brackets
variable {t : Turtle} {z : List String} {c : String} {w w' : Walk} {saved : List Cursor}
  {p : List Float} {width : Float}

theorem step_push (t : Turtle) (w : Walk) :
    t.step w pushSymbol = .ok { w with saved := w.cursor :: w.saved } := rfl

theorem step_pop_nil (t : Turtle) (hw : w.saved = []) : t.step w popSymbol = .ok w := by
  simp only [step, Command.ofSymbol_popSymbol, hw]

theorem step_pop_cons (t : Turtle) {d : Cursor} (hw : w.saved = d :: saved) :
    t.step w popSymbol = .ok { w with cursor := d, saved } := by
  simp only [step, Command.ofSymbol_popSymbol, hw]

/-- Only brackets look at the stack. -/
theorem step_with_saved (t : Turtle) (w : Walk) (hc : c ≠ pushSymbol ∧ c ≠ popSymbol)
    (kept : List Cursor) :
    t.step { w with saved := kept } c = (fun v => { v with saved := kept }) <$> t.step w c := by
  unfold step
  cases hk : Command.ofSymbol c with
  | forward =>
    dsimp only
    cases t.advance w.cursor with
    | error fault => rfl
    | ok d => rfl
  | push => exact absurd (Command.eq_pushSymbol hk) hc.1
  | pop => exact absurd (Command.eq_popSymbol hk) hc.2
  | turnLeft | turnRight | other => rfl

theorem step_saved (hs : t.step w c = .ok w') (hc : c ≠ pushSymbol ∧ c ≠ popSymbol) :
    w'.saved = w.saved := by
  have h : t.step w c = (fun v => { v with saved := w.saved }) <$> t.step w c :=
    t.step_with_saved w hc w.saved
  rw [hs] at h
  have hv : w' = { w' with saved := w.saved } := Except.ok.inj h
  rw [hv]

/-- Over a nested word the stack grows by one cursor for each bracket left open, and what was there
before stays below. By induction on the word, from its end. -/
theorem foldlM_step_saved (hz : Nested z) (h : z.foldlM t.step w = .ok w') :
    ∃ more, w'.saved = more ++ w.saved ∧ (more.length : ℤ) = excess z := by
  induction z using List.reverseRecOn generalizing w' with
  | nil =>
    cases h
    exact ⟨[], rfl, rfl⟩
  | append_singleton z c ih =>
    rw [List.foldlM_append] at h
    obtain ⟨v, hv, h⟩ := bind_eq_ok.mp h
    have hs : t.step v c = .ok w' := (bind_pure (t.step v c)).symm.trans h
    obtain ⟨more, hsaved, hlen⟩ := ih hz.left hv
    rw [excess_append]
    by_cases hpush : c = pushSymbol
    · subst hpush
      rw [step_push] at hs
      cases hs
      refine ⟨v.cursor :: more, by rw [hsaved]; rfl, ?_⟩
      rw [excess_push, ← hlen]
      rfl
    by_cases hpop : c = popSymbol
    · subst hpop
      have hpos := hz.excess_nonneg
      rw [excess_append, excess_pop] at hpos
      cases more with
      | nil =>
        -- a nested word closes nothing that it has not opened
        rw [List.length_nil] at hlen
        omega
      | cons d more =>
        rw [step_pop_cons t hsaved] at hs
        cases hs
        refine ⟨more, rfl, ?_⟩
        rw [List.length_cons] at hlen
        rw [excess_pop]
        omega
    · refine ⟨more, ?_, ?_⟩
      · rw [step_saved hs ⟨hpush, hpop⟩, hsaved]
      · rw [excess_other hpush hpop, hlen, add_zero]

theorem withLast_of_eq (hc : w'.cursor = w.cursor) (hs : w'.saved = w.saved) :
    w' = w.withLast w'.lastPosition w'.lastWidth := by
  rw [Walk.withLast, ← hc, ← hs]

theorem step_withLast_of_forward (hc : isForward c = true) :
    t.step (w.withLast p width) c = t.step w c := by
  unfold step
  rw [of_decide_eq_true hc]
  rfl

theorem step_withLast_of_not_forward (hc : isForward c = false) :
    t.step (w.withLast p width) c = (·.withLast p width) <$> t.step w c := by
  unfold step
  cases hk : Command.ofSymbol c with
  | forward => exact absurd hk (of_decide_eq_false hc)
  | pop =>
    rcases w with ⟨cursor, _ | ⟨d, saved⟩, lastPosition, lastWidth⟩
    · rfl
    · rfl
  | turnLeft | turnRight | push | other => rfl

/-- The last segment before a word is forgotten at its first step forward, and kept if there is
none. -/
theorem foldlM_step_withLast (z : List String) (w : Walk) :
    z.foldlM t.step (w.withLast p width) = if z.any isForward then z.foldlM t.step w
      else (·.withLast p width) <$> z.foldlM t.step w := by
  induction z generalizing w with
  | nil => rfl
  | cons c z ih =>
    rw [List.foldlM_cons, List.foldlM_cons, List.any_cons]
    by_cases hc : isForward c = true
    · rw [step_withLast_of_forward hc, hc]
      rfl
    · have hc : isForward c = false := Bool.eq_false_iff.mpr hc
      rw [step_withLast_of_not_forward hc, hc, Bool.false_or]
      cases t.step w c with
      | error fault =>
        change Except.error fault = if z.any isForward then Except.error fault else Except.error fault
        rw [ite_self]
      | ok v => exact ih v

theorem foldlM_step_last (hz : z.any isForward = false) (h : z.foldlM t.step w = .ok w') :
    w'.lastPosition = w.lastPosition ∧ w'.lastWidth = w.lastWidth := by
  have hkeep : z.foldlM t.step w = (·.withLast w.lastPosition w.lastWidth) <$> z.foldlM t.step w := by
    have hw : z.foldlM t.step (w.withLast w.lastPosition w.lastWidth) = _ :=
      foldlM_step_withLast z w
    rwa [hz] at hw
  rw [h] at hkeep
  have hv : w' = w'.withLast w.lastPosition w.lastWidth := Except.ok.inj hkeep
  rw [hv]
  exact ⟨rfl, rfl⟩

end Turtle
end PlantGrammar
