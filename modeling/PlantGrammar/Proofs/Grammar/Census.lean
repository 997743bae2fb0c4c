import Mathlib.Data.Matrix.Mul
import PlantGrammar.Proofs.Grammar.Derivation
import PlantGrammar.Proofs.Grammar.Iteration

/-! # Counting symbols

The census of a text tells how often each symbol of an alphabet stands in it. A derivation step takes
it to its product with a matrix, whose rows are the censuses of the bodies, so `n` steps take it to its
product with the `n`-th power. The length of a strand is the sum of its census.
-/
namespace PlantGrammar.Rules
open Matrix
variable {rules : Rules} {alphabet : Finset Char} {text : List Char} {c d : Char}

/-- The body of a symbol of the alphabet holds no symbols but those of the alphabet. -/
def ClosedOn (rules : Rules) (alphabet : Finset Char) : Prop :=
  ∀ d ∈ alphabet, ∀ body ∈ rules.body? d, ∀ c ∈ body.toList, c ∈ alphabet

instance (rules : Rules) (alphabet : Finset Char) : Decidable (rules.ClosedOn alphabet) :=
  -- the instance found otherwise tries all characters there are
  letI (text : List Char) : Decidable (∀ c ∈ text, c ∈ alphabet) := List.decidableBAll _ text
  Finset.decidableDforallFinset

def census (alphabet : Finset Char) (text : List Char) : alphabet → ℕ := fun c => text.count c.1

/-- The census of each body. A symbol without a body counts as its own. -/
def growthMatrix (rules : Rules) (alphabet : Finset Char) : Matrix alphabet alphabet ℕ := fun d c =>
  match rules.body? d with
  | some body => body.toList.count c.1
  | none => if d = c then 1 else 0

theorem ClosedOn.mem_image (h : rules.ClosedOn alphabet) (hd : d ∈ alphabet)
    (hc : c ∈ rules.image d) : c ∈ alphabet := by
  unfold image at hc
  cases hb : rules.body? d with
  | none =>
    rw [hb] at hc
    rwa [List.mem_singleton.mp hc]
  | some body =>
    rw [hb] at hc
    exact h d hd body hb c hc

theorem ClosedOn.mem_successor (h : rules.ClosedOn alphabet) (ht : ∀ c ∈ text, c ∈ alphabet) :
    ∀ c ∈ rules.successor text, c ∈ alphabet := by
  intro c hc
  obtain ⟨d, hd, hc⟩ := List.mem_flatMap.mp hc
  exact h.mem_image (ht d hd) hc

theorem ClosedOn.mem_iterate (h : rules.ClosedOn alphabet) (ht : ∀ c ∈ text, c ∈ alphabet) (n : ℕ) :
    ∀ c ∈ rules.successor^[n] text, c ∈ alphabet :=
  Function.Iterate.rec (fun text => ∀ c ∈ text, c ∈ alphabet) ht (fun _ => h.mem_successor) n

theorem growthMatrix_apply (rules : Rules) (d c : alphabet) :
    rules.growthMatrix alphabet d c = (rules.image d.1).count c.1 := by
  unfold growthMatrix image
  cases rules.body? d.1 with
  | some body => rfl
  | none =>
    by_cases h : d = c
    · simp [h]
    · simp [h, Subtype.coe_ne_coe.mpr h]

/-- A sum along a text is a sum over its alphabet, each symbol as often as it stands in the text. -/
theorem sum_map_eq_sum_census (ht : ∀ c ∈ text, c ∈ alphabet) (f : Char → ℕ) :
    (text.map f).sum = ∑ c : alphabet, census alphabet text c * f c.1 := by
  have hsub : text.toFinset ⊆ alphabet := fun c hc => ht c (List.mem_toFinset.mp hc)
  change _ = ∑ c : alphabet, text.count c.1 • f c.1
  rw [Finset.sum_list_map_count, Finset.sum_coe_sort alphabet fun c => text.count c • f c]
  refine Finset.sum_subset hsub fun c _ hc => ?_
  rw [List.count_eq_zero_of_not_mem (mt List.mem_toFinset.mpr hc), zero_nsmul]

theorem length_eq_sum_census (ht : ∀ c ∈ text, c ∈ alphabet) :
    text.length = ∑ c, census alphabet text c := by
  have h := sum_map_eq_sum_census ht fun _ => 1
  simpa using h

theorem census_successor (rules : Rules) (ht : ∀ c ∈ text, c ∈ alphabet) :
    census alphabet (rules.successor text) = census alphabet text ᵥ* rules.growthMatrix alphabet := by
  funext c
  calc (rules.successor text).count c.1
      = (text.map fun d => (rules.image d).count c.1).sum := List.count_flatMap
    _ = ∑ d : alphabet, census alphabet text d * (rules.image d.1).count c.1 :=
      sum_map_eq_sum_census ht _
    _ = ∑ d, census alphabet text d * rules.growthMatrix alphabet d c := by
      simp only [growthMatrix_apply]

theorem ClosedOn.census_iterate (h : rules.ClosedOn alphabet) (ht : ∀ c ∈ text, c ∈ alphabet)
    (n : ℕ) : census alphabet (rules.successor^[n] text) =
      census alphabet text ᵥ* rules.growthMatrix alphabet ^ n := by
  induction n with
  | zero => rw [pow_zero, vecMul_one, Function.iterate_zero_apply]
  | succ n ih =>
    rw [Function.iterate_succ_apply', census_successor rules (h.mem_iterate ht n), ih, vecMul_vecMul,
      pow_succ]

section
variable (a : Char)

/-- The rules with the one rule that writes a symbol twice. -/
def doubling : Rules := .ofList [(String.singleton a, String.ofList [a, a])]

theorem image_doubling : (doubling a).image a = [a, a] := by
  rw [image, doubling, body?_ofList_singleton, if_pos rfl]
  exact String.toList_ofList

theorem closedOn_doubling : (doubling a).ClosedOn {a} := by
  intro d hd body hb c hc
  obtain rfl := Finset.mem_singleton.mp hd
  have hc' : c ∈ (doubling d).image d := by rwa [image, hb]
  rw [image_doubling] at hc'
  simpa using hc'

theorem growthMatrix_doubling : (doubling a).growthMatrix {a} = 2 • 1 := by
  ext ⟨d, hd⟩ ⟨c, hc⟩
  obtain rfl := Finset.mem_singleton.mp hd
  obtain rfl := Finset.mem_singleton.mp hc
  simp [growthMatrix_apply, image_doubling]

theorem length_iterate_doubling (n : ℕ) : ((doubling a).successor^[n] [a]).length = 2 ^ n := by
  have ha : ∀ c ∈ [a], c ∈ ({a} : Finset Char) := by simp
  rw [length_eq_sum_census ((closedOn_doubling a).mem_iterate ha n),
    (closedOn_doubling a).census_iterate ha, growthMatrix_doubling, smul_pow, one_pow, vecMul_smul,
    vecMul_one]
  simp [census]

end

/-- Over an alphabet that the bodies do not leave, a text grows by the powers of one matrix: they give
the census of what is derived, and the stored length is the sum of that census. A single symbol that
is always doubled has become `2 ^ n` symbols after `n` steps. -/
theorem derive_grows_by_matrix {rules : Rules} {alphabet : Finset Char} (h : rules.ClosedOn alphabet)
    {text : String} (ht : ∀ c ∈ text.toList, c ∈ alphabet) (n : ℕ) :
    (∃ s, rules.derive text n = .ok s ∧
      (∀ c : alphabet, s.symbols.count c.1 =
        (census alphabet text.toList ᵥ* rules.growthMatrix alphabet ^ n) c) ∧
      (∀ c ∉ alphabet, s.symbols.count c = 0) ∧
      s.length = ∑ c, (census alphabet text.toList ᵥ* rules.growthMatrix alphabet ^ n) c) ∧
    ∀ a, ∃ s, (doubling a).derive (String.singleton a) n = .ok s ∧ s.length = 2 ^ n := by
  have hmem := h.mem_iterate ht n
  have hcensus := h.census_iterate ht n
  simp only [derive_eq_ofList, Int.toNat_natCast]
  refine ⟨⟨_, rfl, ?_, ?_, ?_⟩, fun a => ⟨_, rfl, ?_⟩⟩
  · intro c
    rw [Strand.symbols_ofList]
    exact congrFun hcensus c
  · intro c hc
    rw [Strand.symbols_ofList]
    exact List.count_eq_zero_of_not_mem (mt (hmem c) hc)
  · rw [← hcensus, ← length_eq_sum_census hmem]
    rfl
  · have hlength := length_iterate_doubling a n
    rwa [← String.toList_singleton] at hlength

/-- One body is empty, one holds its own symbol, one symbol has no body, and one key is no symbol. -/
theorem derive_grows_by_matrix_erasing : ∃ rules : Rules,
    rules = .ofList [("A", "BAC"), ("B", ""), ("AB", "D")] ∧ rules.ClosedOn {'A', 'B', 'C'} ∧
      (∀ c ∈ "ABCA".toList, c ∈ ({'A', 'B', 'C'} : Finset Char)) ∧
      ∃ s, rules.derive "ABCA" (3 : ℕ) = .ok s ∧ s.symbols.count 'C' = 7 ∧ s.length = 11 := by
  have h : ClosedOn (.ofList [("A", "BAC"), ("B", ""), ("AB", "D")]) {'A', 'B', 'C'} := by decide
  have ht : ∀ c ∈ "ABCA".toList, c ∈ ({'A', 'B', 'C'} : Finset Char) := by simp
  obtain ⟨s, hs, hcount, -, hlength⟩ := (derive_grows_by_matrix h ht 3).1
  exact ⟨_, rfl, h, ht, s, hs, (hcount ⟨'C', by decide⟩).trans rfl, hlength.trans rfl⟩

end PlantGrammar.Rules
