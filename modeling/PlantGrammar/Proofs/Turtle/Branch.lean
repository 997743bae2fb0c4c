import PlantGrammar.Proofs.Turtle.Steps

/-! # Branches are isolated

A branch is a balanced word between brackets. The cursor and the stack after it are those before it.
Only the last segment is not restored, so the walk after a branch differs from the walk without it at
most in the start that is reported before the next step forward.
-/
namespace PlantGrammar

/-- Equal but for the start of the segment. -/
def Call.AlikeButStart (c d : Call) : Prop :=
  { c with start := d.start, startWidth := d.startWidth } = d

namespace Turtle
open Brackets
variable {t : Turtle} {registry : Registry} {symbols u z v : List String} {c : String} {a b w : Walk}
  {p : List Float} {width : Float} {i k m n : ℕ}

def branch (w : List String) : List String := pushSymbol :: (w ++ [popSymbol])

theorem length_branch (w : List String) : (branch w).length = 1 + w.length + 1 := by
  simp [branch, Nat.add_comm]

/-- A branch changes nothing but the last segment, and that only by a step forward. -/
theorem foldlM_step_branch (hz : Balanced z) (h : (branch z).foldlM t.step a = .ok b) :
    b.cursor = a.cursor ∧ b.saved = a.saved ∧ (z.any isForward = false → b = a) := by
  rw [branch, List.foldlM_cons] at h
  obtain ⟨opened, hopen, h⟩ := bind_eq_ok.mp h
  rw [step_push] at hopen
  cases hopen
  rw [List.foldlM_append] at h
  obtain ⟨w, hw, h⟩ := bind_eq_ok.mp h
  have hpop : t.step w popSymbol = .ok b := (bind_pure (t.step w popSymbol)).symm.trans h
  obtain ⟨more, hsaved, hlen⟩ := foldlM_step_saved hz.2 hw
  rw [hz.1, Nat.cast_eq_zero, List.length_eq_zero_iff] at hlen
  subst hlen
  rw [step_pop_cons t hsaved] at hpop
  cases hpop
  refine ⟨rfl, rfl, fun hf => ?_⟩
  obtain ⟨hp, hwidth⟩ := foldlM_step_last hf hw
  rw [hp, hwidth]

/-- A walk through a branch comes out with the cursor and the stack with which it went in. -/
theorem exists_around_branch (hz : Balanced z) (h : ∃ d, t.after (u ++ branch z ++ v) = .ok d) :
    ∃ a b, t.after u = .ok a ∧ t.after (u ++ branch z) = .ok b ∧ b.cursor = a.cursor ∧
      b.saved = a.saved ∧ (z.any isForward = false → b = a) ∧ ∃ d, v.foldlM t.step b = .ok d := by
  obtain ⟨d, hd⟩ := h
  rw [after_append] at hd
  obtain ⟨b, hb, hv⟩ := bind_eq_ok.mp hd
  have hbranch := hb
  rw [after_append] at hbranch
  obtain ⟨a, ha, hbranch⟩ := bind_eq_ok.mp hbranch
  obtain ⟨hcursor, hsaved, hstill⟩ := foldlM_step_branch hz hbranch
  exact ⟨a, b, ha, hb, hcursor, hsaved, hstill, d, hv⟩

/-- The calls made at so many positions from one on. -/
def callsFrom (t : Turtle) (registry : Registry) (symbols : List String) (i n : ℕ) : List Call :=
  (List.range n).filterMap fun k => t.callAt? registry symbols (i + k)

theorem callsFrom_add (i m n : ℕ) : t.callsFrom registry symbols i (m + n) =
    t.callsFrom registry symbols i m ++ t.callsFrom registry symbols (i + m) n := by
  simp only [callsFrom, List.range_add, List.filterMap_append, List.filterMap_map, Function.comp_def,
    Nat.add_assoc]

theorem callsFrom_bracket (hc : symbols[i]? = some c) (h : c = pushSymbol ∨ c = popSymbol) :
    t.callsFrom registry symbols i 1 = [] := by
  have hnone : t.callAt? registry symbols i = none := by
    unfold callAt?
    rw [hc]
    rcases h with rfl | rfl
    · cases t.after (symbols.take (i + 1)) <;> rfl
    · cases t.after (symbols.take (i + 1)) <;> rfl
  simp [callsFrom, hnone]

theorem walk_calls_append (t : Turtle) (registry : Registry) (u z : List String) :
    (t.walk registry (u ++ z)).calls.toList =
      (t.walk registry u).calls.toList ++ t.callsFrom registry (u ++ z) u.length z.length := by
  rw [toList_walk_calls, toList_walk_calls, List.length_append, List.range_add,
    List.filterMap_append, List.filterMap_map]
  congr 1
  refine List.filterMap_congr fun i hi => ?_
  have hi : i < u.length := List.mem_range.mp hi
  unfold callAt?
  rw [List.getElem?_append_left hi, List.take_append_of_le_length hi]

theorem callsFrom_branch (t : Turtle) (registry : Registry) (u w v : List String) :
    t.callsFrom registry (u ++ branch w ++ v) u.length (branch w).length =
      t.callsFrom registry (u ++ branch w ++ v) (u.length + 1) w.length := by
  have hpush : (u ++ branch w ++ v)[u.length]? = some pushSymbol := by simp [branch]
  have hpop : (u ++ branch w ++ v)[u.length + (1 + w.length)]? = some popSymbol := by
    rw [List.append_assoc, List.getElem?_append_right (by omega), Nat.add_sub_cancel_left,
      Nat.add_comm, List.getElem?_append_left (by simp [branch])]
    simp [branch]
  rw [length_branch, callsFrom_add, callsFrom_add, callsFrom_bracket hpush (.inl rfl),
    callsFrom_bracket hpop (.inr rfl), List.nil_append, List.append_nil]

/-- The calls of a word with a branch in it are those before the branch, in it and after it. -/
theorem walk_calls_branch (t : Turtle) (registry : Registry) (u w v : List String) :
    (t.walk registry (u ++ branch w ++ v)).calls.toList =
      (t.walk registry u).calls.toList ++
        t.callsFrom registry (u ++ branch w ++ v) (u.length + 1) w.length ++
        t.callsFrom registry (u ++ branch w ++ v) (u ++ branch w).length v.length := by
  rw [← callsFrom_branch, List.append_assoc u, walk_calls_append, List.length_append,
    callsFrom_add, List.length_append, List.append_assoc]

/-- The call made at a position of a word by a walk that comes to the word. -/
def callIn? (t : Turtle) (registry : Registry) (w : Walk) (z : List String) (k : ℕ) : Option Call :=
  match z[k]?, (z.take (k + 1)).foldlM t.step w with
  | some c, .ok w => call? registry w c
  | _, _ => none

theorem callAt?_append_right (h : t.after u = .ok w) (k : ℕ) :
    t.callAt? registry (u ++ z) (u.length + k) = t.callIn? registry w z k := by
  unfold callAt? callIn?
  rw [Nat.add_assoc, List.take_length_add_append, after_append, h,
    List.getElem?_append_right (by omega), Nat.add_sub_cancel_left]
  rfl

theorem call?_withLast (registry : Registry) (w : Walk) (c : String) :
    Option.Rel Call.AlikeButStart (call? registry (w.withLast p width) c) (call? registry w c) := by
  unfold call?
  cases Command.ofSymbol c with
  | forward | other =>
    cases registry.get? c with
    | none => exact .none
    | some label => exact .some rfl
  | turnLeft | turnRight | push | pop => exact .none

/-- A walk that comes with another last segment makes the same calls from its first step forward on,
and before that step calls that differ in the start alone. -/
theorem callIn?_withLast (registry : Registry) (w : Walk) (z : List String) (k : ℕ) :
    ((z.take (k + 1)).any isForward = true →
      t.callIn? registry (w.withLast p width) z k = t.callIn? registry w z k) ∧
    Option.Rel Call.AlikeButStart (t.callIn? registry (w.withLast p width) z k)
      (t.callIn? registry w z k) := by
  unfold callIn?
  rw [foldlM_step_withLast]
  by_cases hf : (z.take (k + 1)).any isForward = true
  · rw [if_pos hf]
    refine ⟨fun _ => rfl, ?_⟩
    cases z[k]? with
    | none => exact .none
    | some c =>
      cases (z.take (k + 1)).foldlM t.step w with
      | error fault => exact .none
      | ok w' =>
        dsimp only
        cases call? registry w' c with
        | none => exact .none
        | some call => exact .some rfl
  · rw [if_neg hf]
    refine ⟨fun h => absurd h hf, ?_⟩
    cases z[k]? with
    | none => exact .none
    | some c =>
      cases (z.take (k + 1)).foldlM t.step w with
      | error fault => exact .none
      | ok w' => exact call?_withLast registry w' c

theorem foldlM_step_withLast_ok (h : z.foldlM t.step (w.withLast p width) = .ok b) :
    ∃ a, z.foldlM t.step w = .ok a := by
  rw [foldlM_step_withLast] at h
  cases hz : z.foldlM t.step w with
  | ok a => exact ⟨a, rfl⟩
  | error fault =>
    rw [hz] at h
    split at h <;> cases h

/-- What a branch over `w` between `u` and `v` does to a walk. -/
structure Isolated (t : Turtle) (registry : Registry) (u w v : List String) : Prop where
  restored : ∃ a b, t.after u = .ok a ∧ t.after (u ++ branch w) = .ok b ∧ b.cursor = a.cursor ∧
    b.saved = a.saved
  fault_eq : (t.walk registry (u ++ v)).fault? = none
  /-- The calls before the branch, in it and after it. -/
  calls_eq : (t.walk registry (u ++ branch w ++ v)).calls.toList =
    (t.walk registry u).calls.toList ++
      t.callsFrom registry (u ++ branch w ++ v) (u.length + 1) w.length ++
      t.callsFrom registry (u ++ branch w ++ v) (u ++ branch w).length v.length
  /-- The calls without the branch. -/
  plain_eq : (t.walk registry (u ++ v)).calls.toList =
    (t.walk registry u).calls.toList ++ t.callsFrom registry (u ++ v) u.length v.length
  /-- Calls stand against calls, and differ in the start alone. -/
  alike : ∀ k, Option.Rel Call.AlikeButStart
    (t.callAt? registry (u ++ branch w ++ v) ((u ++ branch w).length + k))
    (t.callAt? registry (u ++ v) (u.length + k))
  /-- From the first step forward after the branch on, all calls are the same. -/
  same_after_forward : ∀ k, (v.take (k + 1)).any isForward = true →
    t.callAt? registry (u ++ branch w ++ v) ((u ++ branch w).length + k) =
      t.callAt? registry (u ++ v) (u.length + k)
  /-- A branch without a step forward changes no call. -/
  same_of_still : w.any isForward = false → ∀ k,
    t.callAt? registry (u ++ branch w ++ v) ((u ++ branch w).length + k) =
      t.callAt? registry (u ++ v) (u.length + k)

/-- A walk that gets through a branch goes on as if the branch were not there, but for the start of
the segment reported before the next step forward. -/
theorem isolated_of_walk {w : List String} (hw : Balanced w)
    (h : (t.walk registry (u ++ branch w ++ v)).fault? = none) : t.Isolated registry u w v := by
  obtain ⟨a, b, ha, hb, hcursor, hsaved, hstill, d, hv⟩ :=
    exists_around_branch hw (walk_fault_eq_none_iff.mp h)
  have hba : b = a.withLast b.lastPosition b.lastWidth := withLast_of_eq hcursor hsaved
  have hcalls (k : ℕ) : ((v.take (k + 1)).any isForward = true →
      t.callIn? registry b v k = t.callIn? registry a v k) ∧
      Option.Rel Call.AlikeButStart (t.callIn? registry b v k) (t.callIn? registry a v k) := by
    rw [hba]
    exact callIn?_withLast registry a v k
  refine ⟨⟨a, b, ha, hb, hcursor, hsaved⟩, ?_, walk_calls_branch t registry u w v,
    walk_calls_append t registry u v, ?_, ?_, ?_⟩
  · rw [hba] at hv
    obtain ⟨d', hd'⟩ := foldlM_step_withLast_ok hv
    refine walk_fault_eq_none_iff.mpr ⟨d', ?_⟩
    rw [after_append, ha]
    exact hd'
  · intro k
    rw [callAt?_append_right hb, callAt?_append_right ha]
    exact (hcalls k).2
  · intro k hk
    rw [callAt?_append_right hb, callAt?_append_right ha]
    exact (hcalls k).1 hk
  · intro hf k
    rw [callAt?_append_right hb, callAt?_append_right ha, hstill hf]

/-- The first bracket closes nothing and the one before the branch stays open. The leaf right after
the branch reports a start within it, the leaf after the next step forward does not. -/
theorem isolated_turned_branch :
    Balanced ["-", "F", "[", "F", "]", "L"] ∧
    (walk ⟨⟨[0, 0], 90, 2, 10⟩, 90, ⟨.geometric, 0.5⟩, .still⟩ (.ofList [("F", "F"), ("L", "L")])
      (["]", "F", "["] ++ branch ["-", "F", "[", "F", "]", "L"] ++ ["L", "]", "F", "L"])).fault? =
        none ∧
    Isolated ⟨⟨[0, 0], 90, 2, 10⟩, 90, ⟨.geometric, 0.5⟩, .still⟩
      (.ofList [("F", "F"), ("L", "L")]) ["]", "F", "["] ["-", "F", "[", "F", "]", "L"]
      ["L", "]", "F", "L"] :=
  ⟨by decide, rfl, isolated_of_walk (by decide) rfl⟩

end Turtle
end PlantGrammar
