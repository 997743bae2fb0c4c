import Mathlib.Logic.Function.Iterate
import PlantGrammar.Proofs.Grammar.Expansion

/-! # Derivations iterate a substitution

Every derivation succeeds. In `n` steps it takes a text to its `n`-th successor, on a strand without
detached nodes, so its laws are those of iterating a map that respects concatenation.
-/
namespace PlantGrammar

namespace Strand

/-- The arena holds the live nodes only, numbered in strand order. -/
structure Compact (s : Strand) : Prop where
  capacity_eq : s.capacity = s.length
  indices_eq : s.indices = List.range s.length

theorem compact_ofList (cs : List Char) : (ofList cs).Compact := by
  have h := threads_ofList cs
  have hl : (ofList cs).length = cs.length := by simpa using h.length_eq
  refine ⟨?_, ?_⟩
  · simp [capacity, ofList]
  · rw [h.indices_eq, hl]

@[simp] theorem text_ofList (cs : List Char) : (ofList cs).text = String.ofList cs := by
  rw [text, symbols_ofList]

end Strand

namespace Rules
open Strand
variable {rules : Rules}

theorem expand_eq_ok {s : Strand} {path : List ℕ} (rules : Rules) (h : s.Threads path) :
    ∃ t, rules.expand s = .ok t ∧ t.symbols = rules.successor s.symbols := by
  obtain ⟨t, done, hp, ht⟩ := rules.exists_pass h
  exact ⟨t, expand_of_pass hp, (ht.expands h hp).symbols_eq⟩

theorem iterate_successor_append (rules : Rules) (n : ℕ) (u v : List Char) :
    rules.successor^[n] (u ++ v) = rules.successor^[n] u ++ rules.successor^[n] v := by
  induction n generalizing u v with
  | zero => rfl
  | succ n ih =>
    simp only [Function.iterate_succ_apply]
    rw [successor_append, ih]

theorem deriveFrom_ofList (rules : Rules) (n : ℕ) (cs : List Char) :
    rules.deriveFrom n (ofList cs) = .ok (ofList (rules.successor^[n] cs)) := by
  induction n generalizing cs with
  | zero => rfl
  | succ n ih =>
    obtain ⟨t, ht, hs⟩ := expand_eq_ok rules (threads_ofList cs)
    rw [symbols_ofList] at hs
    rw [deriveFrom, ht, Function.iterate_succ_apply, ← hs]
    exact ih t.symbols

/-- A derivation always succeeds, and no strand but that of the derived text comes out. -/
theorem derive_eq_ofList (rules : Rules) (text : String) (count : ℤ) :
    rules.derive text count = .ok (ofList (rules.successor^[count.toNat] text.toList)) :=
  deriveFrom_ofList rules count.toNat text.toList

/-- Derivation respects concatenation, adds up its counts, does nothing without a count to do, and
leaves a compact strand of the text substituted so many times. -/
theorem derive_laws (rules : Rules) (u v : String) {m n : ℤ} (hm : 0 ≤ m) (hn : 0 ≤ n) :
    (∃ r s t, rules.derive (u ++ v) n = .ok r ∧ rules.derive u n = .ok s ∧
      rules.derive v n = .ok t ∧ r.text = s.text ++ t.text) ∧
    (∃ s, rules.derive u m = .ok s ∧ rules.derive s.text n = rules.derive u (m + n)) ∧
    (∀ k ≤ 0, ∃ s, rules.derive u k = .ok s ∧ s.text = u) ∧
    ∀ k, ∃ s, rules.derive u k = .ok s ∧ s.symbols = rules.successor^[k.toNat] u.toList ∧
      s.Compact := by
  simp only [derive_eq_ofList]
  refine ⟨⟨_, _, _, rfl, rfl, rfl, ?_⟩, ⟨_, rfl, ?_⟩, ?_, ?_⟩
  · rw [String.toList_append, iterate_successor_append]
    simp
  · rw [text_ofList, String.toList_ofList, ← Function.iterate_add_apply, Int.toNat_add hm hn,
      Nat.add_comm]
  · intro k hk
    refine ⟨_, rfl, ?_⟩
    rw [Int.toNat_of_nonpos hk]
    simp
  · intro k
    exact ⟨_, rfl, symbols_ofList _, compact_ofList _⟩

/-- One rule grows and refers to itself, one erases, and one key is no symbol. -/
theorem derive_laws_growing_erasing :
    ∃ rules : Rules, rules = .ofList [("a", "aba"), ("b", ""), ("ab", "c")] ∧
      ((0 : ℤ) ≤ 2 ∧ (0 : ℤ) ≤ 3) ∧
      (∃ r s t, rules.derive ("ab" ++ "ca") 3 = .ok r ∧ rules.derive "ab" 3 = .ok s ∧
        rules.derive "ca" 3 = .ok t ∧ r.text = s.text ++ t.text) ∧
      ∃ s, rules.derive "ab" 2 = .ok s ∧ rules.derive s.text 3 = rules.derive "ab" (2 + 3) := by
  obtain ⟨happend, hadd, -⟩ := derive_laws (.ofList [("a", "aba"), ("b", ""), ("ab", "c")]) "ab" "ca"
    (show (0 : ℤ) ≤ 2 by decide) (show (0 : ℤ) ≤ 3 by decide)
  exact ⟨_, rfl, by decide, happend, hadd⟩

end Rules
end PlantGrammar
