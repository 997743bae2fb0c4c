import Mathlib.Data.Nat.Notation
import PlantGrammar.Grammar
import PlantGrammar.Proofs.OrderedMap

/-! # Derivations

A derivation only looks bodies up, so rules that agree on every key derive the same strands, whatever
the order in which they were written.
-/
namespace PlantGrammar.Rules
variable {r₁ r₂ : Rules}

/-- A symbol stays, or becomes the body that is stored for it. -/
theorem image_cases (rules : Rules) (c : Char) : rules.image c = [c] ∨
    ∃ body, (String.singleton c, body) ∈ rules.entries ∧ rules.image c = body.toList := by
  unfold image
  cases hb : rules.body? c with
  | none => exact .inl rfl
  | some body => exact .inr ⟨body, OrderedMap.mem_of_get? hb, rfl⟩

theorem body?_ofList_singleton (key body : String) (c : Char) :
    body? (.ofList [(key, body)]) c = if key = String.singleton c then some body else none := by
  rw [body?, OrderedMap.ofList, List.foldl_cons, List.foldl_nil, OrderedMap.get?_insert]
  rfl

theorem body?_congr (h : ∀ key, r₁.get? key = r₂.get? key) : r₁.body? = r₂.body? :=
  funext fun c => h (String.singleton c)

theorem passStep_congr (h : ∀ key, r₁.get? key = r₂.get? key) : r₁.passStep = r₂.passStep := by
  funext ⟨s, following?⟩
  cases following? with
  | none => rfl
  | some i => rw [passStep, passStep, body?_congr h]

theorem passSteps_congr (h : ∀ key, r₁.get? key = r₂.get? key) (n : ℕ) (p : Pass) :
    r₁.passSteps n p = r₂.passSteps n p := by
  induction n generalizing p with
  | zero => rfl
  | succ n ih =>
    rw [passSteps, passSteps, passStep_congr h]
    exact bind_congr ih

theorem expand_congr (h : ∀ key, r₁.get? key = r₂.get? key) : r₁.expand = r₂.expand := by
  funext s
  rw [expand, expand, passSteps_congr h]

theorem deriveFrom_congr (h : ∀ key, r₁.get? key = r₂.get? key) (n : ℕ) (s : Strand) :
    r₁.deriveFrom n s = r₂.deriveFrom n s := by
  induction n generalizing s with
  | zero => rfl
  | succ n ih =>
    rw [deriveFrom, deriveFrom, expand_congr h]
    exact bind_congr fun t => ih t.renumber

theorem derive_congr (h : ∀ key, r₁.get? key = r₂.get? key) (text : String) (count : Int) :
    r₁.derive text count = r₂.derive text count :=
  deriveFrom_congr h count.toNat (.ofString text)

end PlantGrammar.Rules
