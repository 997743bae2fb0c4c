import Mathlib.Data.List.Induction
import PlantGrammar.Proofs.Turtle.Brackets

/-! # Brackets without a partner

An opening bracket is matched just when the word after it closes more than it opens, by the first
bracket that does so. What a word leaves open are therefore its unmatched opening brackets.
-/
namespace PlantGrammar.Brackets
variable {u v w z : List String} {c : String} {us : List (List String)} {a b j : ℕ}

/-- A bracket that matches no other. -/
def Unmatched (w : List String) (j : ℕ) : Prop :=
  (w[j]? = some pushSymbol ∨ w[j]? = some popSymbol) ∧
    ∀ k < w.length, ¬ Matched w j k ∧ ¬ Matched w k j

instance (w : List String) (j : ℕ) : Decidable (Unmatched w j) := by unfold Unmatched; infer_instance

/-- A word with every unmatched bracket deleted. -/
def paired (w : List String) : List String :=
  (w.zipIdx.filter fun x => ¬ Unmatched w x.2).map Prod.fst

example : paired ["F", "]", "-", "[", "[", "F", "]", "+", "]", "]", "[", "F"] =
    ["F", "-", "[", "[", "F", "]", "+", "]", "F"] := by
  decide

/-- How many opening brackets a word does not close. -/
def unclosed (w : List String) : ℕ :=
  (List.range w.length).countP fun a => w[a]? = some pushSymbol ∧ Unmatched w a

theorem unmatched_push (h : w[j]? = some pushSymbol) : Unmatched w j ↔ ∀ k, ¬ Matched w j k := by
  constructor
  · intro hu k hm
    exact (hu.2 k hm.lt_length).1 hm
  · intro hn
    refine ⟨.inl h, fun k _ => ⟨hn k, fun hm => ?_⟩⟩
    have hpop := hm.2.2.1
    rw [h] at hpop
    exact absurd hpop (by decide)

theorem unmatched_pop (h : w[j]? = some popSymbol) : Unmatched w j ↔ ∀ k, ¬ Matched w k j := by
  constructor
  · intro hu k hm
    exact (hu.2 k (hm.1.trans hm.lt_length)).2 hm
  · intro hn
    refine ⟨.inr h, fun k _ => ⟨fun hm => ?_, hn k⟩⟩
    have hpush := hm.2.1
    rw [h] at hpush
    exact absurd hpush (by decide)

theorem not_unmatched (h : w[j]? = some c) (hc : c ≠ pushSymbol ∧ c ≠ popSymbol) :
    ¬ Unmatched w j := by
  rintro ⟨hb, -⟩
  rw [h] at hb
  simp [hc] at hb

theorem matched_of_balanced (u : List String) (hv : Balanced v) (z : List String) :
    Matched (u ++ pushSymbol :: v ++ popSymbol :: z) u.length (u ++ pushSymbol :: v).length := by
  refine ⟨by simp, by simp, by simp, ?_⟩
  rw [List.take_left, ← List.drop_drop, List.drop_left]
  exact hv

/-- A closing bracket matches the innermost open one. -/
theorem Openings.matched (h : Openings w (u :: us)) (z : List String) :
    Matched (w ++ popSymbol :: z) u.length w.length := by
  obtain ⟨⟨v, hv, rfl⟩, -⟩ := h
  exact matched_of_balanced u hv z

/-- A word that somewhere closes more than it opens does so first at a bracket with a balanced word
before it. -/
theorem exists_first_excess (h : ¬ Nested v) :
    ∃ x z, v = x ++ popSymbol :: z ∧ Balanced x := by
  induction v using List.reverseRecOn with
  | nil => exact absurd balanced_nil.2 h
  | append_singleton v c ih =>
    by_cases hv : Nested v
    · -- only the last symbol can go below zero
      have hc : c = popSymbol := by
        by_contra hc
        exact h (nested_append hv (nested_singleton hc))
      subst hc
      refine ⟨v, [], rfl, ?_, hv⟩
      by_contra he
      have hpos := hv.excess_nonneg
      exact h (nested_append_pop hv (by omega))
    · obtain ⟨x, z, rfl, hx⟩ := ih hv
      exact ⟨x, z ++ [c], by simp, hx⟩

/-- An opening bracket without a partner has a nested word after it. -/
theorem nested_of_unmatched (h : Unmatched (u ++ pushSymbol :: v) u.length) : Nested v := by
  by_contra hv
  obtain ⟨x, z, rfl, hx⟩ := exists_first_excess hv
  have hm := matched_of_balanced u hx z
  rw [List.append_assoc, List.cons_append] at hm
  exact (unmatched_push (by simp)).mp h _ hm

/-- The second part of a word without the brackets that are unmatched in all of it. -/
def pairedAfter (u z : List String) : List String :=
  ((z.zipIdx u.length).filter fun x => ¬ Unmatched (u ++ z) x.2).map Prod.fst

theorem pairedAfter_cons (u : List String) (c : String) (z : List String) :
    pairedAfter u (c :: z) = if Unmatched (u ++ c :: z) u.length then pairedAfter (u ++ [c]) z
      else c :: pairedAfter (u ++ [c]) z := by
  unfold pairedAfter
  rw [List.zipIdx_cons, List.filter_cons]
  by_cases h : Unmatched (u ++ c :: z) u.length <;> simp [h]

theorem unclosed_append (hv : Nested v) : unclosed (u ++ v) = unclosed u + unclosed v := by
  have hap : Apart u v := apart_of_nested hv
  unfold unclosed
  rw [List.length_append, List.range_add, List.countP_append, List.countP_map]
  congr 1
  · refine List.countP_congr fun a ha => ?_
    rw [List.mem_range] at ha
    rw [decide_eq_true_iff, decide_eq_true_iff, List.getElem?_append_left ha]
    refine and_congr_right fun hpush => ?_
    rw [unmatched_push hpush, unmatched_push (by rwa [List.getElem?_append_left ha])]
    constructor
    · intro h k hm
      exact h k ((matched_append_left hm.lt_length).mpr hm)
    · intro h k hm
      by_cases hk : k < u.length
      · exact h k ((matched_append_left hk).mp hm)
      · exact hap a k ha (Nat.not_lt.mp hk) hm
  · refine List.countP_congr fun a _ => ?_
    have hget : (u ++ v)[u.length + a]? = v[a]? := by
      rw [List.getElem?_append_right (by omega), Nat.add_sub_cancel_left]
    rw [Function.comp_apply, decide_eq_true_iff, decide_eq_true_iff, hget]
    refine and_congr_right fun hpush => ?_
    rw [unmatched_push hpush, unmatched_push (by rwa [hget])]
    constructor
    · intro h k hm
      exact h _ (matched_append_right.mpr hm)
    · intro h k hm
      obtain ⟨k, rfl⟩ := Nat.exists_eq_add_of_le (show u.length ≤ k from
        (Nat.le_add_right _ _).trans hm.1.le)
      exact h k (matched_append_right.mp hm)

theorem Openings.unclosed_eq_zero (h : Openings w []) : unclosed w = 0 := by
  rw [unclosed, List.countP_eq_zero]
  intro a ha hu
  obtain ⟨hpush, hu⟩ := of_decide_eq_true hu
  have hw := eq_take_cons_drop hpush
  refine h _ _ hw (nested_of_unmatched (u := w.take a) ?_)
  rwa [← hw, List.length_take_of_le (List.mem_range.mp ha).le]

/-- The words before the open brackets are as many as the brackets without a partner. -/
theorem Openings.unclosed_eq (h : Openings w us) : unclosed w = us.length := by
  induction us generalizing w with
  | nil => exact h.unclosed_eq_zero
  | cons u us ih =>
    obtain ⟨⟨v, hv, rfl⟩, hu⟩ := h
    have hpush : Nested [pushSymbol] := nested_singleton (by decide)
    have hone : unclosed [pushSymbol] = 1 := by decide
    have hzero : unclosed v = 0 := (openings_nil.append_balanced hv).unclosed_eq_zero
    calc unclosed (u ++ pushSymbol :: v)
        = unclosed (u ++ ([pushSymbol] ++ v)) := rfl
      _ = unclosed u + (unclosed [pushSymbol] + unclosed v) := by
          rw [unclosed_append (nested_append hpush hv.2), unclosed_append hv.2]
      _ = (u :: us).length := by rw [ih hu, hone, hzero, List.length_cons]

end PlantGrammar.Brackets
