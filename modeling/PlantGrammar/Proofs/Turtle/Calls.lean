import Mathlib.Data.List.Range
import PlantGrammar.Turtle

/-! # The calls of a walk

A walk takes one step for each symbol, and makes at most one call there. It reports the calls in the
order of their symbols, up to the first symbol at which the step fails.
-/
namespace PlantGrammar.Turtle
variable {t : Turtle} {registry : Registry} {symbols u rest : List String} {c : String} {w : Walk}
  {i : ℕ}

/-- The walk over some symbols from the start, its calls left aside. -/
def after (t : Turtle) (symbols : List String) : Except Fault Walk := symbols.foldlM t.step t.begin

theorem after_append (t : Turtle) (u v : List String) :
    t.after (u ++ v) = t.after u >>= fun w => v.foldlM t.step w :=
  List.foldlM_append

theorem after_append_singleton (t : Turtle) (u : List String) (c : String) :
    t.after (u ++ [c]) = t.after u >>= fun w => t.step w c := by
  rw [after_append]
  congr 1
  funext w
  exact bind_pure (t.step w c)

theorem exists_after_take (h : t.after symbols = .ok w) (k : ℕ) :
    ∃ v, t.after (symbols.take k) = .ok v := by
  rw [← List.take_append_drop k symbols, after_append] at h
  obtain ⟨v, hv, -⟩ := bind_eq_ok.mp h
  exact ⟨v, hv⟩

/-- The call made at a position, if the walk gets past it and makes one there. -/
def callAt? (t : Turtle) (registry : Registry) (symbols : List String) (i : ℕ) : Option Call :=
  match symbols[i]?, t.after (symbols.take (i + 1)) with
  | some c, .ok w => call? registry w c
  | _, _ => none

theorem callAt?_of_ok (hc : symbols[i]? = some c) (hw : t.after (symbols.take (i + 1)) = .ok w) :
    t.callAt? registry symbols i = call? registry w c := by
  simp [callAt?, hc, hw]

theorem callAt?_of_error {n : ℕ} {fault : Fault} (h : t.after (symbols.take n) = .error fault)
    (hn : n ≤ i + 1) : t.callAt? registry symbols i = none := by
  have he : t.after (symbols.take (i + 1)) = .error fault := by
    rw [← List.take_append_drop n (symbols.take (i + 1)), List.take_take, Nat.min_eq_left hn,
      after_append, h]
    rfl
  unfold callAt?
  rw [he]
  cases symbols[i]? <;> rfl

theorem toList_resume_calls (h : t.after u = .ok w) (calls : Array Call) :
    (t.resume registry w rest calls).calls.toList = calls.toList ++
      (List.range rest.length).filterMap fun k => t.callAt? registry (u ++ rest) (u.length + k) := by
  induction rest generalizing u w calls with
  | nil => simp [resume]
  | cons c rest ih =>
    have htake : (u ++ c :: rest).take (u.length + 1) = u ++ [c] := by
      rw [List.take_length_add_append]
      rfl
    have hget : (u ++ c :: rest)[u.length]? = some c := by simp
    have hstep : t.after (u ++ [c]) = t.step w c := by
      rw [after_append_singleton, h]
      rfl
    cases hs : t.step w c with
    | error fault =>
      have hnone : (List.range (c :: rest).length).filterMap
          (fun k => t.callAt? registry (u ++ c :: rest) (u.length + k)) = [] := by
        rw [List.filterMap_eq_nil_iff]
        intro k _
        exact callAt?_of_error (by rw [htake, hstep, hs]) (by omega)
      rw [hnone, List.append_nil]
      simp [resume, hs]
    | ok w' =>
      rw [hs] at hstep
      have hcall : t.callAt? registry (u ++ c :: rest) u.length = call? registry w' c :=
        callAt?_of_ok hget (by rw [htake, hstep])
      have hrest := fun calls => ih hstep calls
      simp only [List.length_append, List.length_singleton, List.append_assoc, List.singleton_append,
        Nat.add_assoc, Nat.add_comm 1] at hrest
      rw [List.length_cons, List.range_succ_eq_map, List.filterMap_cons, Nat.add_zero, hcall,
        List.filterMap_map]
      simp only [resume, hs]
      cases call? registry w' c with
      | none => exact hrest calls
      | some call =>
        simp only [hrest, Array.toList_push, List.append_assoc, List.singleton_append]
        rfl

/-- The calls of a walk are those made at its positions, in order. -/
theorem toList_walk_calls (t : Turtle) (registry : Registry) (symbols : List String) :
    (t.walk registry symbols).calls.toList =
      (List.range symbols.length).filterMap (t.callAt? registry symbols) := by
  have h : (t.resume registry t.begin symbols #[]).calls.toList = _ :=
    toList_resume_calls (u := []) rfl #[]
  simpa [walk] using h

theorem resume_fault (t : Turtle) (registry : Registry) (w : Walk) (symbols : List String)
    (calls : Array Call) : (t.resume registry w symbols calls).fault? =
      match symbols.foldlM t.step w with
      | .ok _ => none
      | .error fault => some fault := by
  induction symbols generalizing w calls with
  | nil => rfl
  | cons c rest ih =>
    rw [List.foldlM_cons]
    cases hs : t.step w c with
    | error fault => simp [resume, hs, bind, Except.bind]
    | ok w' =>
      simp only [resume, hs]
      cases call? registry w' c with
      | none => exact ih w' calls
      | some call => exact ih w' (calls.push call)

theorem walk_fault_eq_none_iff :
    (t.walk registry symbols).fault? = none ↔ ∃ w, t.after symbols = .ok w := by
  unfold walk after
  rw [resume_fault]
  cases symbols.foldlM t.step t.begin <;> simp

theorem call?_congr {r₁ r₂ : Registry} (h : ∀ c, r₁.get? c = r₂.get? c) (w : Walk) (c : String) :
    call? r₁ w c = call? r₂ w c := by
  unfold call?
  rw [h c]

theorem resume_congr {r₁ r₂ : Registry} (h : ∀ c, r₁.get? c = r₂.get? c) (t : Turtle) (w : Walk)
    (symbols : List String) (calls : Array Call) :
    t.resume r₁ w symbols calls = t.resume r₂ w symbols calls := by
  induction symbols generalizing w calls with
  | nil => rfl
  | cons c rest ih =>
    simp only [resume]
    cases t.step w c with
    | error fault => rfl
    | ok w' =>
      dsimp only
      rw [call?_congr h]
      cases call? r₂ w' c with
      | none => exact ih w' calls
      | some call => exact ih w' (calls.push call)

/-- A walk only looks labels up. -/
theorem walk_congr {r₁ r₂ : Registry} (h : ∀ c, r₁.get? c = r₂.get? c) (t : Turtle)
    (symbols : List String) : t.walk r₁ symbols = t.walk r₂ symbols :=
  resume_congr h t t.begin symbols #[]

end PlantGrammar.Turtle
