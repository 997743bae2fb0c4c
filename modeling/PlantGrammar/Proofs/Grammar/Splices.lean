import PlantGrammar.Proofs.Grammar.Derivation
import PlantGrammar.Proofs.Grammar.Pass

/-! # A pass is a run of splices

The splices of a pass can be told before it starts: at each node whose symbol has a body, from head
to tail, that body. Performing them in this order leaves the very strand that the pass leaves.
-/
namespace PlantGrammar.Rules
open Strand
variable {rules : Rules} {s t : Strand} {path done : List ℕ} {k : ℕ}

/-- The splice that a pass has in store for a node. -/
def splice? (rules : Rules) (letters : Array Char) (i : ℕ) : Option (ℕ × String) :=
  (letters[i]?.bind rules.body?).map (i, ·)

def splices (rules : Rules) (s : Strand) : List (ℕ × String) :=
  s.indices.filterMap (rules.splice? s.letters)

/-- What is left of a pass are the splices in store for the nodes still to come. -/
theorem PassAt.passSteps_eq (h : PassAt rules s path k t done) (hs : s.Threads path) {n : ℕ}
    (hn : k + n = path.length) : rules.passSteps n (t, path[k]?) =
      (·, none) <$> t.spliceAll ((path.drop k).filterMap (rules.splice? s.letters)) := by
  induction n generalizing k t done with
  | zero =>
    rw [List.getElem?_eq_none (by omega), List.drop_eq_nil_of_le (by omega)]
    rfl
  | succ n ih =>
    have hk : k < path.length := by omega
    obtain ⟨c, hc, hnode⟩ := h.exists_node hs hk
    have hstep : rules.passStep (t, some path[k]) = _ := passStep_of_node hnode rfl
    rw [passSteps, List.getElem?_eq_getElem hk, List.drop_eq_getElem_cons hk]
    cases hb : rules.body? c with
    | none =>
      have hnone : rules.splice? s.letters path[k] = none := by simp [splice?, hc, hb]
      rw [hstep, List.filterMap_cons_none hnone]
      simp only [hb]
      exact ih (h.keep hs hk hc hb) (by omega)
    | some body =>
      have hsome : rules.splice? s.letters path[k] = some (path[k], body) := by
        simp [splice?, hc, hb]
      obtain ⟨t', ends, ht', h'⟩ := h.rewrite hk hc hb
      rw [hstep, List.filterMap_cons_some hsome, spliceAll, List.foldlM_cons]
      simp only [hb, ht']
      exact ih h' (by omega)

theorem expand_eq_spliceAll (rules : Rules) (hs : s.Threads path) :
    rules.expand s = s.spliceAll (rules.splices s) := by
  have h := (passAt_zero rules hs).passSteps_eq hs (Nat.zero_add path.length)
  rw [List.drop_zero, ← List.head?_eq_getElem?, ← hs.head_eq, ← hs.length_eq] at h
  rw [expand, h, splices, hs.indices_eq]
  cases s.spliceAll (path.filterMap (rules.splice? s.letters)) <;> rfl

/-- A pass with one rule splices its body at every node that holds its key. -/
theorem splices_singleton (s : Strand) (key body : String) :
    splices (.ofList [(key, body)]) s = (s.holding key).map (·, body) := by
  rw [splices, holding, ← List.filterMap_eq_filter, List.map_filterMap]
  apply List.filterMap_congr
  intro i _
  simp only [splice?, letters, Array.getElem?_map, Option.guard]
  rcases (s.nodes[i]?).eq_none_or_eq_some with hnone | ⟨n, hsome⟩
  · simp [hnone]
  · by_cases hn : key = String.singleton n.symbol
    · simp [hsome, body?_ofList_singleton, ← hn]
    · simp [hsome, body?_ofList_singleton, hn, Ne.symm hn]

end PlantGrammar.Rules
