import PlantGrammar.Proofs.Turtle.Matching
import PlantGrammar.Proofs.Turtle.Steps

/-! # Unmatched brackets do nothing

Deleting the unmatched brackets of a word changes no call of its walk. The shorter walk keeps a
stack without the cursors saved at unmatched brackets. These are never taken back, so both walks
find the same cursor on top when a matched bracket closes.
-/
namespace PlantGrammar.Turtle
open Brackets
variable {t : Turtle} {registry : Registry} {s u rest : List String} {c : String} {w v : Walk}
  {saved kept : List Cursor} {calls : Array Call}

theorem resume_of_ok (hs : t.step w c = .ok v) (registry : Registry) (rest : List String)
    (calls : Array Call) : t.resume registry w (c :: rest) calls =
      t.resume registry v rest (calls ++ (call? registry v c).toArray) := by
  simp only [resume, hs]
  cases call? registry v c with
  | none => simp
  | some call => simp

theorem resume_of_error {fault : Fault} (hs : t.step w c = .error fault) (registry : Registry)
    (rest : List String) (calls : Array Call) :
    t.resume registry w (c :: rest) calls = ⟨calls, some fault⟩ := by
  simp only [resume, hs]

theorem resume_push (t : Turtle) (registry : Registry) (w : Walk) (rest : List String)
    (calls : Array Call) : t.resume registry w (pushSymbol :: rest) calls =
      t.resume registry { w with saved := w.cursor :: w.saved } rest calls := rfl

theorem resume_pop_nil (t : Turtle) (registry : Registry) (hw : w.saved = []) (rest : List String)
    (calls : Array Call) :
    t.resume registry w (popSymbol :: rest) calls = t.resume registry w rest calls := by
  rw [resume_of_ok (t.step_pop_nil hw)]
  exact congrArg (t.resume registry w rest) Array.append_empty

theorem resume_pop_cons (t : Turtle) (registry : Registry) {d : Cursor} (hw : w.saved = d :: saved)
    (rest : List String) (calls : Array Call) :
    t.resume registry w (popSymbol :: rest) calls =
      t.resume registry { w with cursor := d, saved } rest calls := by
  rw [resume_of_ok (t.step_pop_cons hw)]
  exact congrArg (t.resume registry _ rest) Array.append_empty

/-- The second stack is the first without the cursors saved at unmatched brackets of `s`; the words
before the brackets tell where these are. -/
inductive Thinned (s : List String) : List (List String) → List Cursor → List Cursor → Prop
  | nil : Thinned s [] [] []
  | keep {u : List String} {us : List (List String)} {saved kept : List Cursor} (d : Cursor)
      (matched : ¬ Unmatched s u.length) (rest : Thinned s us saved kept) :
      Thinned s (u :: us) (d :: saved) (d :: kept)
  | drop {u : List String} {us : List (List String)} {saved kept : List Cursor} (d : Cursor)
      (unmatched : Unmatched s u.length) (rest : Thinned s us saved kept) :
      Thinned s (u :: us) (d :: saved) kept

/-- What is kept of a stack when the walk over `u`, the beginning of `s`, leaves unmatched brackets
out. -/
def Keeps (s u : List String) (saved kept : List Cursor) : Prop :=
  ∃ us, Openings u us ∧ Thinned s us saved kept

theorem Keeps.plain (h : Keeps s u saved kept) (hc : c ≠ pushSymbol ∧ c ≠ popSymbol) :
    Keeps s (u ++ [c]) saved kept := by
  obtain ⟨us, hus, ht⟩ := h
  exact ⟨us, hus.append_balanced (balanced_singleton hc.1 hc.2), ht⟩

theorem Keeps.push (h : Keeps s u saved kept) (d : Cursor) :
    Keeps s (u ++ [pushSymbol]) (d :: saved) (if Unmatched s u.length then kept else d :: kept) := by
  obtain ⟨us, hus, ht⟩ := h
  refine ⟨u :: us, hus.push, ?_⟩
  by_cases hu : Unmatched s u.length
  · rw [if_pos hu]
    exact ht.drop d hu
  · rw [if_neg hu]
    exact ht.keep d hu

/-- A closing bracket takes the same cursor from both stacks, or is unmatched and finds the first
stack empty. -/
theorem Keeps.pop (h : Keeps (u ++ popSymbol :: rest) u saved kept) :
    (∃ d saved' kept', saved = d :: saved' ∧ kept = d :: kept' ∧
      ¬ Unmatched (u ++ popSymbol :: rest) u.length ∧
      Keeps (u ++ popSymbol :: rest) (u ++ [popSymbol]) saved' kept') ∨
    (saved = [] ∧ Unmatched (u ++ popSymbol :: rest) u.length ∧
      Keeps (u ++ popSymbol :: rest) (u ++ [popSymbol]) saved kept) := by
  have hpop : (u ++ popSymbol :: rest)[u.length]? = some popSymbol := by simp
  obtain ⟨us, hus, ht⟩ := h
  cases ht with
  | nil =>
    have hun := (unmatched_pop hpop).mpr fun k => hus.not_matched rest
    exact .inr ⟨rfl, hun, [], hus.pop_nil.1, .nil⟩
  | keep d hm ht =>
    have hun := fun h => (unmatched_pop hpop).mp h _ (hus.matched rest)
    exact .inl ⟨d, _, _, rfl, rfl, hun, _, hus.pop.1, ht⟩
  | drop d hu ht =>
    -- the top was saved at a bracket that this one matches
    have hm := hus.matched rest
    exact absurd hm ((unmatched_push hm.2.1).mp hu _)

/-- Going on without the unmatched brackets, from a stack without what they saved, changes nothing.
By induction on the symbols to come. -/
theorem resume_pairedAfter (registry : Registry) (h : Keeps (u ++ rest) u w.saved kept)
    (calls : Array Call) :
    t.resume registry { w with saved := kept } (pairedAfter u rest) calls =
      t.resume registry w rest calls := by
  induction rest generalizing u w kept calls with
  | nil => rfl
  | cons c rest ih =>
    have hs : u ++ [c] ++ rest = u ++ c :: rest := by simp
    rw [pairedAfter_cons]
    by_cases hpush : c = pushSymbol
    · subst hpush
      have hk := h.push w.cursor
      rw [resume_push]
      by_cases hu : Unmatched (u ++ pushSymbol :: rest) u.length
      · rw [if_pos hu] at hk ⊢
        exact ih (w := { w with saved := w.cursor :: w.saved }) (hs ▸ hk) calls
      · rw [if_neg hu] at hk ⊢
        exact ih (w := { w with saved := w.cursor :: w.saved }) (hs ▸ hk) calls
    by_cases hpop : c = popSymbol
    · subst hpop
      rcases h.pop with ⟨d, saved', kept', hw, rfl, hu, hk⟩ | ⟨hw, hu, hk⟩
      · rw [if_neg hu, resume_pop_cons t registry rfl, resume_pop_cons t registry hw]
        exact ih (w := { w with cursor := d, saved := saved' }) (hs ▸ hk) calls
      · rw [if_pos hu, resume_pop_nil t registry hw]
        exact ih (hs ▸ hk) calls
    · have hc : c ≠ pushSymbol ∧ c ≠ popSymbol := ⟨hpush, hpop⟩
      rw [if_neg (not_unmatched (by simp) hc)]
      have hstep := t.step_with_saved w hc kept
      cases hv : t.step w c with
      | error fault =>
        rw [hv] at hstep
        rw [resume_of_error hv, resume_of_error hstep]
      | ok v =>
        rw [hv] at hstep
        rw [resume_of_ok hv, resume_of_ok hstep]
        have hk := h.plain hc
        rw [← hs, ← step_saved hv hc] at hk
        exact ih hk _

/-- A walk does the same on a word and on the word without its unmatched brackets, and its stack is
as high as the prefix read so far has open brackets. -/
theorem walk_paired (t : Turtle) (registry : Registry) (symbols : List String) :
    t.walk registry (paired symbols) = t.walk registry symbols ∧
    ∀ n w, t.after (symbols.take n) = .ok w → w.saved.length = unclosed (symbols.take n) := by
  constructor
  · have hk : Keeps ([] ++ symbols) [] t.begin.saved [] := ⟨[], openings_nil, .nil⟩
    exact resume_pairedAfter registry hk #[]
  · intro n w h
    obtain ⟨us, hus, hf⟩ := (onPath_after h).saved
    rw [hus.unclosed_eq, hf.length_eq]

/-- Two brackets are open where the prefix ends, and one of them is closed later. -/
theorem walk_paired_two_open : ∃ w,
    after ⟨⟨[0, 0], 90, 2, 10⟩, 90, ⟨.geometric, 0.5⟩, .still⟩
        (["]", "[", "F", "[", "-", "L", "]", "[", "F", "]", "L"].take 8) = .ok w ∧
      unclosed (["]", "[", "F", "[", "-", "L", "]", "[", "F", "]", "L"].take 8) = 2 ∧
      w.saved.length =
        unclosed (["]", "[", "F", "[", "-", "L", "]", "[", "F", "]", "L"].take 8) := by
  obtain ⟨w, hw⟩ := walk_fault_eq_none_iff.mp (show (walk ⟨⟨[0, 0], 90, 2, 10⟩, 90,
    ⟨.geometric, 0.5⟩, .still⟩ .empty
      (["]", "[", "F", "[", "-", "L", "]", "[", "F", "]", "L"].take 8)).fault? = none from rfl)
  exact ⟨w, hw, by decide, (walk_paired _ .empty _).2 8 w hw⟩

end PlantGrammar.Turtle
