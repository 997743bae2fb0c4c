import PlantGrammar.Proofs.Grammar.Derivation
import PlantGrammar.Proofs.Grammar.Iteration
import PlantGrammar.Proofs.Turtle.Steps

/-! # Derivations of balanced texts

Rules that leave both brackets alone and have balanced bodies derive balanced texts from balanced
ones. On such a text a turtle has a saved cursor at every closing bracket, and none at the end.
-/
namespace PlantGrammar
open Brackets

theorem symbolsOf_append (u v : List Char) : symbolsOf (u ++ v) = symbolsOf u ++ symbolsOf v :=
  List.map_append

theorem symbolsOf_singleton (c : Char) : symbolsOf [c] = [String.singleton c] :=
  rfl

namespace Rules
variable {rules : Rules} {cs : List Char} {c : Char}

/-- No bracket has a body, and every body is balanced. -/
structure KeepsBrackets (rules : Rules) : Prop where
  push : rules.get? pushSymbol = none
  pop : rules.get? popSymbol = none
  bodies : ∀ e ∈ rules.entries, Balanced (symbolsOf e.2.toList)

/-- A symbol stays, or is no bracket and becomes a balanced word. -/
theorem KeepsBrackets.image_cases (h : rules.KeepsBrackets) (c : Char) :
    rules.image c = [c] ∨ (String.singleton c ≠ pushSymbol ∧ String.singleton c ≠ popSymbol) ∧
      Balanced (symbolsOf (rules.image c)) := by
  rcases Rules.image_cases rules c with hc | ⟨body, hbody, hc⟩
  · exact .inl hc
  · have hget : rules.get? (String.singleton c) = some body := OrderedMap.get?_of_mem hbody
    refine .inr ⟨⟨?_, ?_⟩, hc ▸ h.bodies (String.singleton c, body) hbody⟩
    · intro hpush
      rw [hpush, h.push] at hget
      cases hget
    · intro hpop
      rw [hpop, h.pop] at hget
      cases hget

theorem KeepsBrackets.excess_successor (h : rules.KeepsBrackets) (cs : List Char) :
    excess (symbolsOf (rules.successor cs)) = excess (symbolsOf cs) := by
  induction cs using List.reverseRecOn with
  | nil => rfl
  | append_singleton cs c ih =>
    rw [successor_append, successor_singleton, symbolsOf_append, symbolsOf_append, excess_append,
      excess_append, ih]
    rcases h.image_cases c with hc | ⟨⟨hpush, hpop⟩, hb⟩
    · rw [hc]
    · rw [hb.1, symbolsOf_singleton, excess_other hpush hpop]

/-- A closing bracket of a nested word closes one that the word before it leaves open, and the
successor of that word leaves as many open. -/
theorem KeepsBrackets.nested_successor (h : rules.KeepsBrackets) (hn : Nested (symbolsOf cs)) :
    Nested (symbolsOf (rules.successor cs)) := by
  induction cs using List.reverseRecOn with
  | nil => exact hn
  | append_singleton cs c ih =>
    rw [symbolsOf_append, symbolsOf_singleton] at hn
    rw [successor_append, successor_singleton, symbolsOf_append]
    have hleft := ih hn.left
    rcases h.image_cases c with hc | ⟨-, hb⟩
    · rw [hc, symbolsOf_singleton]
      by_cases hpop : String.singleton c = popSymbol
      · have hopen := hn.excess_nonneg
        rw [excess_append, hpop, excess_pop, ← h.excess_successor] at hopen
        rw [hpop]
        exact nested_append_pop hleft (by omega)
      · exact nested_append hleft (nested_singleton hpop)
    · exact nested_append hleft hb.2

theorem KeepsBrackets.balanced_successor (h : rules.KeepsBrackets) (hb : Balanced (symbolsOf cs)) :
    Balanced (symbolsOf (rules.successor cs)) :=
  ⟨(h.excess_successor cs).trans hb.1, h.nested_successor hb.2⟩

theorem KeepsBrackets.balanced_iterate (h : rules.KeepsBrackets) (hb : Balanced (symbolsOf cs))
    (n : ℕ) : Balanced (symbolsOf (rules.successor^[n] cs)) :=
  Function.Iterate.rec (fun cs => Balanced (symbolsOf cs)) hb (fun _ => h.balanced_successor) n

end Rules

namespace Turtle
variable {t : Turtle} {z : List String} {w : Walk} {i : ℕ}

/-- The stack over a nested word is as high as the word has brackets left open. -/
theorem length_saved_of_nested (hz : Nested z) (h : t.after z = .ok w) :
    (w.saved.length : ℤ) = excess z := by
  obtain ⟨more, hsaved, hlen⟩ := foldlM_step_saved hz h
  rw [hsaved, ← hlen]
  simp [begin]

/-- A nested word never closes a bracket with nothing saved. -/
theorem saved_ne_nil_of_pop (hz : Nested z) (hi : z[i]? = some popSymbol)
    (h : t.after (z.take i) = .ok w) : w.saved ≠ [] := by
  have hopen := hz.take (i + 1)
  rw [List.take_add_one, hi, Option.toList_some, excess_append, excess_pop] at hopen
  have hleft : Nested (z.take i) := Nested.left (v := z.drop i) (by rwa [List.take_append_drop])
  have hlen := length_saved_of_nested hleft h
  intro hnil
  rw [hnil, List.length_nil] at hlen
  omega

theorem saved_eq_nil_of_balanced (hz : Balanced z) (h : t.after z = .ok w) : w.saved = [] := by
  have hlen := length_saved_of_nested hz.2 h
  rw [hz.1, Nat.cast_eq_zero] at hlen
  exact List.eq_nil_of_length_eq_zero hlen

end Turtle

namespace Rules

/-- Balanced rules keep the branches of a text well formed: what they derive from a balanced text is
balanced, so that no turtle comes to a closing bracket with nothing saved, and a turtle that gets to
the end has nothing saved there. -/
theorem balanced_of_derive {rules : Rules} (h : rules.KeepsBrackets) {text : String}
    (ht : Balanced (symbolsOf text.toList)) (count : ℤ) :
    ∃ s, rules.derive text count = .ok s ∧ Balanced (symbolsOf s.symbols) ∧ ∀ t : Turtle,
      (∀ i w, (symbolsOf s.symbols)[i]? = some popSymbol →
        t.after ((symbolsOf s.symbols).take i) = .ok w → w.saved ≠ []) ∧
      ∀ registry, (t.walk registry (symbolsOf s.symbols)).fault? = none →
        ∃ w, t.after (symbolsOf s.symbols) = .ok w ∧ w.saved = [] := by
  have hb := h.balanced_iterate ht count.toNat
  refine ⟨_, rules.derive_eq_ofList text count, ?_⟩
  rw [Strand.symbols_ofList]
  refine ⟨hb, fun t => ⟨fun i w hi hw => Turtle.saved_ne_nil_of_pop hb.2 hi hw, ?_⟩⟩
  intro registry hf
  obtain ⟨w, hw⟩ := Turtle.walk_fault_eq_none_iff.mp hf
  exact ⟨w, hw, Turtle.saved_eq_nil_of_balanced hb hw⟩

/-- One body nests a branch in a branch around the symbol itself, one is empty, and one key is no
symbol. -/
theorem balanced_of_derive_nested_branches :
    ∃ rules : Rules, rules = .ofList [("X", "F[-[X]X]+"), ("B", ""), ("[]", "X")] ∧
      rules.KeepsBrackets ∧ Balanced (symbolsOf "[XB]X".toList) ∧
      ∃ s, rules.derive "[XB]X" 3 = .ok s ∧ Balanced (symbolsOf s.symbols) := by
  have h : KeepsBrackets (.ofList [("X", "F[-[X]X]+"), ("B", ""), ("[]", "X")]) :=
    ⟨by decide, by decide, by decide⟩
  have ht : Balanced (symbolsOf "[XB]X".toList) := by decide
  obtain ⟨s, hs, hb, -⟩ := balanced_of_derive h ht 3
  exact ⟨_, rfl, h, ht, s, hs, hb⟩

end Rules
end PlantGrammar
