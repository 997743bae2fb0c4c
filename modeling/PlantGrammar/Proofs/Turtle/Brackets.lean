import Mathlib.Algebra.Order.Ring.Int
import Mathlib.Data.List.Basic
import PlantGrammar.Turtle

/-! # Matching brackets

Two brackets match when the word between them is balanced. The path of a word is what is left when
every matched group is erased with its content, and every unmatched bracket alone.
-/
namespace PlantGrammar.Brackets
variable {u v w z : List String} {c : String} {us : List (List String)} {a b j : ℕ}

/-- Opening brackets less closing ones. -/
def excess (w : List String) : ℤ := w.count pushSymbol - w.count popSymbol

/-- No prefix closes more brackets than it opens. -/
def Nested (w : List String) : Prop := ∀ n ≤ w.length, 0 ≤ excess (w.take n)

def Balanced (w : List String) : Prop := excess w = 0 ∧ Nested w

instance (w : List String) : Decidable (Nested w) := by unfold Nested; infer_instance

instance (w : List String) : Decidable (Balanced w) := by unfold Balanced; infer_instance

@[simp] theorem excess_nil : excess [] = 0 := rfl

@[simp] theorem excess_append (u v : List String) : excess (u ++ v) = excess u + excess v := by
  simp only [excess, List.count_append, Nat.cast_add]
  omega

theorem excess_cons (c : String) (w : List String) : excess (c :: w) = excess [c] + excess w :=
  excess_append [c] w

@[simp] theorem excess_push : excess [pushSymbol] = 1 := rfl

@[simp] theorem excess_pop : excess [popSymbol] = -1 := rfl

theorem excess_other (h : c ≠ pushSymbol) (h' : c ≠ popSymbol) : excess [c] = 0 := by
  simp [excess, h, h']

theorem excess_nonneg (h : c ≠ popSymbol) : 0 ≤ excess [c] := by
  by_cases hc : c = pushSymbol
  · simp [hc]
  · simp [excess_other hc h]

theorem Nested.take (h : Nested w) (n : ℕ) : 0 ≤ excess (w.take n) := by
  by_cases hn : n ≤ w.length
  · exact h n hn
  · rw [List.take_of_length_le (by omega)]
    simpa using h w.length le_rfl

theorem Nested.excess_nonneg (h : Nested w) : 0 ≤ excess w := by
  simpa using h w.length le_rfl

theorem Nested.left (h : Nested (u ++ v)) : Nested u := by
  intro n hn
  simpa [List.take_append_of_le_length hn] using h.take n

theorem nested_append (hu : Nested u) (hv : Nested v) : Nested (u ++ v) := by
  intro n _
  rw [List.take_append, excess_append]
  exact add_nonneg (hu.take n) (hv.take _)

theorem nested_singleton (h : c ≠ popSymbol) : Nested [c] := by
  intro n _
  cases n with
  | zero => simp
  | succ n => simpa using excess_nonneg h

/-- One more bracket may close in a nested word that leaves some open. -/
theorem nested_append_pop (h : Nested u) (he : 0 < excess u) : Nested (u ++ [popSymbol]) := by
  intro n hn
  rcases Nat.lt_or_ge u.length n with hlt | hle
  · rw [List.take_of_length_le (by simpa using Nat.succ_le_of_lt hlt), excess_append, excess_pop]
    omega
  · rw [List.take_append_of_le_length hle]
    exact h n hle

theorem balanced_nil : Balanced [] := by decide

theorem balanced_append (hu : Balanced u) (hv : Balanced v) : Balanced (u ++ v) :=
  ⟨by rw [excess_append, hu.1, hv.1, add_zero], nested_append hu.2 hv.2⟩

theorem balanced_singleton (h : c ≠ pushSymbol) (h' : c ≠ popSymbol) : Balanced [c] :=
  ⟨excess_other h h', nested_singleton h'⟩

theorem Balanced.left (h : Balanced (u ++ v)) (hv : Balanced v) : Balanced u := by
  refine ⟨?_, h.2.left⟩
  have he := h.1
  rwa [excess_append, hv.1, add_zero] at he

theorem balanced_group (h : Balanced v) : Balanced (pushSymbol :: (v ++ [popSymbol])) := by
  refine ⟨by rw [excess_cons, excess_append, h.1]; rfl, ?_⟩
  intro n hn
  cases n with
  | zero => simp
  | succ n =>
    rw [List.take_succ_cons, excess_cons, excess_push, List.take_append, excess_append]
    have hv := h.2.take n
    have hp : -1 ≤ excess ([popSymbol].take (n - v.length)) := by
      cases n - v.length <;> simp
    omega

/-- The brackets at two positions match. -/
def Matched (w : List String) (a b : ℕ) : Prop :=
  a < b ∧ w[a]? = some pushSymbol ∧ w[b]? = some popSymbol ∧ Balanced ((w.take b).drop (a + 1))

/-- A position lies within a matched group. -/
def Inside (w : List String) (j : ℕ) : Prop := ∃ a < j, ∃ b < w.length, j < b ∧ Matched w a b

instance (w : List String) (a b : ℕ) : Decidable (Matched w a b) := by
  unfold Matched; infer_instance

instance (w : List String) (j : ℕ) : Decidable (Inside w j) := by unfold Inside; infer_instance

/-- The symbols of a word that are no brackets and lie within no matched group. -/
def path (w : List String) : List String :=
  (w.zipIdx.filter fun x => x.1 ≠ pushSymbol ∧ x.1 ≠ popSymbol ∧ ¬ Inside w x.2).map Prod.fst

example : path ["F", "]", "-", "[", "[", "F", "]", "+", "]", "L", "[", "F"] = ["F", "-", "L", "F"] := by
  decide

theorem eq_take_cons_drop (h : w[a]? = some c) : w = w.take a ++ c :: w.drop (a + 1) := by
  obtain ⟨ha, rfl⟩ := List.getElem?_eq_some_iff.mp h
  rw [← List.drop_eq_getElem_cons ha, List.take_append_drop]

theorem Matched.lt_length (h : Matched w a b) : b < w.length :=
  (List.getElem?_eq_some_iff.mp h.2.2.1).1

theorem matched_append_left (hb : b < u.length) : Matched (u ++ z) a b ↔ Matched u a b := by
  unfold Matched
  refine and_congr_right fun hab => ?_
  rw [List.getElem?_append_left hb, List.getElem?_append_left (hab.trans hb),
    List.take_append_of_le_length hb.le]

theorem matched_append_right :
    Matched (u ++ z) (u.length + a) (u.length + b) ↔ Matched z a b := by
  unfold Matched
  rw [Nat.add_lt_add_iff_left, List.getElem?_append_right (by omega),
    List.getElem?_append_right (by omega), Nat.add_sub_cancel_left, Nat.add_sub_cancel_left,
    List.take_length_add_append, Nat.add_assoc, List.drop_length_add_append]

/-- No bracket of the first word matches one of the second. -/
def Apart (u z : List String) : Prop :=
  ∀ a b, a < u.length → u.length ≤ b → ¬ Matched (u ++ z) a b

/-- A word that closes no more than it opens leaves the brackets before it alone. -/
theorem apart_of_nested (hz : Nested z) : Apart u z := by
  intro a b ha hb h
  obtain ⟨k, rfl⟩ := Nat.exists_eq_add_of_le hb
  obtain ⟨-, -, hpop, he, hn⟩ := h
  rw [List.getElem?_append_right hb, Nat.add_sub_cancel_left] at hpop
  rw [List.take_length_add_append, List.drop_append_of_le_length (by omega)] at he hn
  have hleft := hn.left.excess_nonneg
  have hk := hz.take k
  have hk' := hz.take (k + 1)
  rw [List.take_add_one, hpop, Option.toList_some, excess_append, excess_pop] at hk'
  rw [excess_append] at he
  omega

theorem inside_append_left (h : Apart u z) (hj : j < u.length) : Inside (u ++ z) j ↔ Inside u j := by
  constructor
  · rintro ⟨a, ha, b, -, hb, hm⟩
    have hbu : b < u.length := by
      by_contra hle
      exact h a b (ha.trans hj) (Nat.not_lt.mp hle) hm
    exact ⟨a, ha, b, hbu, hb, (matched_append_left hbu).mp hm⟩
  · rintro ⟨a, ha, b, hbu, hb, hm⟩
    have hm' := (matched_append_left (z := z) hbu).mpr hm
    exact ⟨a, ha, b, hm'.lt_length, hb, hm'⟩

theorem inside_append_right (h : Apart u z) : Inside (u ++ z) (u.length + j) ↔ Inside z j := by
  constructor
  · rintro ⟨a, ha, b, -, hb, hm⟩
    have hau : u.length ≤ a := by
      by_contra hlt
      exact h a b (Nat.not_le.mp hlt) (by omega) hm
    obtain ⟨a, rfl⟩ := Nat.exists_eq_add_of_le hau
    obtain ⟨b, rfl⟩ := Nat.exists_eq_add_of_le (show u.length ≤ b by omega)
    have hm' := matched_append_right.mp hm
    exact ⟨a, by omega, b, hm'.lt_length, by omega, hm'⟩
  · rintro ⟨a, ha, b, -, hb, hm⟩
    have hm' := (matched_append_right (u := u)).mpr hm
    exact ⟨u.length + a, by omega, u.length + b, hm'.lt_length, by omega, hm'⟩

theorem path_append (h : Apart u z) : path (u ++ z) = path u ++ path z := by
  unfold path
  rw [List.zipIdx_append, List.filter_append, List.map_append]
  congr 1
  · congr 1
    refine List.filter_congr fun x hx => ?_
    have hj : x.2 < u.length := by simpa using List.snd_lt_of_mem_zipIdx hx
    simp only [inside_append_left h hj]
  · rw [Nat.zero_add, List.zipIdx_eq_map_add, List.filter_map, List.map_map]
    congr 1
    refine List.filter_congr fun x _ => ?_
    simp only [Function.comp_apply, inside_append_right h]

theorem path_append_singleton (u : List String) (h : c ≠ pushSymbol) (h' : c ≠ popSymbol) :
    path (u ++ [c]) = path u ++ [c] := by
  rw [path_append (apart_of_nested (nested_singleton h'))]
  simp [path, h, h', Inside]

theorem path_append_push (u : List String) : path (u ++ [pushSymbol]) = path u := by
  rw [path_append (apart_of_nested (nested_singleton (by decide)))]
  simp [path]

theorem path_group (hv : Balanced v) : path (pushSymbol :: (v ++ [popSymbol])) = [] := by
  have hm : Matched (pushSymbol :: (v ++ [popSymbol])) 0 (v.length + 1) := by
    refine ⟨by omega, rfl, by simp, ?_⟩
    simpa using hv
  unfold path
  rw [List.map_eq_nil_iff, List.filter_eq_nil_iff]
  rintro ⟨c, j⟩ hx hc
  simp only [decide_eq_true_eq] at hc
  obtain ⟨hpush, hpop, hin⟩ := hc
  have hj := List.mk_mem_zipIdx_iff_getElem?.mp hx
  rcases Nat.lt_trichotomy j (v.length + 1) with hlt | rfl | hgt
  · cases j with
    | zero => exact hpush (by simpa using hj.symm)
    | succ j => exact hin ⟨0, j.succ_pos, v.length + 1, by simp, hlt, hm⟩
  · exact hpop (by simpa using hj.symm)
  · have := (List.getElem?_eq_some_iff.mp hj).1
    simp only [List.length_cons, List.length_append, List.length_nil] at this
    omega

/-- The words before the brackets that a word leaves open, innermost bracket first. -/
def Openings : List String → List (List String) → Prop
  | w, [] => ∀ u v, w = u ++ pushSymbol :: v → ¬ Nested v
  | w, u :: us => (∃ v, Balanced v ∧ w = u ++ pushSymbol :: v) ∧ Openings u us

theorem openings_nil : Openings [] [] := by
  intro u v h
  simp at h

theorem Openings.append_balanced (h : Openings u us) (hz : Balanced z) : Openings (u ++ z) us := by
  cases us with
  | cons x us =>
    obtain ⟨⟨v, hv, rfl⟩, hx⟩ := h
    exact ⟨⟨v ++ z, balanced_append hv hz, by simp⟩, hx⟩
  | nil =>
    intro x y hxy hy
    rcases List.append_eq_append_iff.mp hxy with ⟨r, rfl, hr⟩ | ⟨r, hu, hr⟩
    · -- the bracket stands in the balanced word, so what follows it there closes it
      have he := hz.1
      have hnr : Nested r := by
        have hzn := hz.2
        rw [hr] at hzn
        exact hzn.left
      have hr0 := hnr.excess_nonneg
      have hy0 := hy.excess_nonneg
      rw [hr, excess_append, excess_cons, excess_push] at he
      omega
    · cases r with
      | nil =>
        have he := hz.1
        have hy0 := hy.excess_nonneg
        rw [← (show pushSymbol :: y = z by simpa using hr), excess_cons, excess_push] at he
        omega
      | cons c r =>
        obtain ⟨rfl, rfl⟩ := List.cons.inj hr
        exact h x r hu hy.left

theorem Openings.push (h : Openings w us) : Openings (w ++ [pushSymbol]) (w :: us) :=
  ⟨⟨[], balanced_nil, rfl⟩, h⟩

theorem Openings.pop (h : Openings w (u :: us)) :
    Openings (w ++ [popSymbol]) us ∧ path (w ++ [popSymbol]) = path u := by
  obtain ⟨⟨v, hv, rfl⟩, hu⟩ := h
  have hg := balanced_group hv
  have he : u ++ pushSymbol :: v ++ [popSymbol] = u ++ pushSymbol :: (v ++ [popSymbol]) := by simp
  rw [he]
  refine ⟨hu.append_balanced hg, ?_⟩
  rw [path_append (apart_of_nested hg.2), path_group hv, List.append_nil]

/-- A closing bracket matches nothing when nothing is open before it. -/
theorem Openings.not_matched (h : Openings w []) (z : List String) :
    ¬ Matched (w ++ popSymbol :: z) a w.length := by
  rintro ⟨ha, hpush, -, hbal⟩
  rw [List.getElem?_append_left ha] at hpush
  rw [List.take_left] at hbal
  exact h _ _ (eq_take_cons_drop hpush) hbal.2

theorem Openings.pop_nil (h : Openings w []) :
    Openings (w ++ [popSymbol]) [] ∧ path (w ++ [popSymbol]) = path w := by
  constructor
  · intro u v huv hv
    rcases List.eq_nil_or_concat' v with rfl | ⟨r, c, rfl⟩
    · have hc := (List.append_inj' huv rfl).2
      exact absurd hc (by decide)
    · have hw : w ++ [popSymbol] = (u ++ pushSymbol :: r) ++ [c] := by simpa using huv
      exact h u r (List.append_inj' hw rfl).1 hv.left
  · have ha : Apart w [popSymbol] := by
      intro a b ha hb hm
      have hlt := hm.lt_length
      obtain rfl : b = w.length := by
        simp only [List.length_append, List.length_singleton] at hlt
        omega
      exact h.not_matched [] hm
    rw [path_append ha]
    simp [path]

end PlantGrammar.Brackets
