import PlantGrammar.Proofs.Strand.Edit

/-! # Expansion is simultaneous substitution

Expanding a strand in place never fails, takes one step for each symbol, and leaves the successor of
its text. The nodes it puts in stay, and the nodes it keeps do not move.
-/
namespace PlantGrammar.Rules
open Strand
variable {rules : Rules} {s t : Strand}

/-- The strand `t` comes from `s` by one pass. -/
structure Expands (rules : Rules) (s t : Strand) : Prop where
  /-- After `k` steps the pass stands on the `k`-th old node, and after the last it has ended. -/
  steps : ∀ k, ∃ r, rules.passSteps k (s, s.head) = .ok (r, s.indices[k]?)
  length_indices : s.indices.length = s.length
  pass : rules.passSteps s.length (s, s.head) = .ok (t, none)
  symbols_eq : t.symbols = rules.successor s.symbols
  /-- No node that the pass put in is taken out again. -/
  fresh_live : ∀ i, s.capacity ≤ i → i < t.capacity → i ∈ t.indices
  /-- The old nodes left are those without a body, in their old order. -/
  kept : t.indices.filter (· < s.capacity) = s.indices.filter (rules.keeps s.letters)
  letter_eq : ∀ i < s.capacity, t.letters[i]? = s.letters[i]?

theorem PassAt.expands {path done : List ℕ} (hs : s.Threads path)
    (hp : rules.passSteps s.length (s, s.head) = .ok (t, none))
    (h : rules.PassAt s path path.length t done) : rules.Expands s t := by
  have ht := h.threads_done
  have hspells := h.spells
  have hkept := h.kept
  rw [List.take_length] at hspells hkept
  refine ⟨?_, ?_, hp, ?_, ?_, ?_, ?_⟩
  · intro k
    obtain ⟨r, -, hr, -⟩ := (passAt_zero rules hs).steps hs k
    refine ⟨r, ?_⟩
    rw [Nat.zero_add] at hr
    rw [hs.head_eq, List.head?_eq_getElem?, hr, hs.indices_eq]
  · rw [hs.indices_eq, hs.length_eq]
  · rw [ht.symbols_eq, hs.symbols_eq, hspells]
  · intro i hi hit
    rw [ht.indices_eq]
    exact h.fresh i hi hit
  · rw [ht.indices_eq, hs.indices_eq, hkept]
  · intro i hi
    obtain ⟨new, hnew⟩ := h.grown
    rw [hnew, Array.getElem?_append_left (by simpa using hi)]

/-- Expanding whatever strand can be reached succeeds and substitutes all its symbols at once. -/
theorem expand_of_reachable (rules : Rules) (h : s.Reachable) :
    ∃ t, rules.expand s = .ok t ∧ rules.Expands s t := by
  obtain ⟨t, done, hp, ht⟩ := rules.exists_pass h.threads
  exact ⟨t, expand_of_pass hp, ht.expands h.threads hp⟩

/-- The first node is detached, one body is empty, one holds ruled symbols, and one key is no
symbol. -/
theorem expand_bc_after_removal :
    Reachable ⟨#[⟨'a', none, none, false⟩, ⟨'b', none, some 2, true⟩, ⟨'c', some 1, none, true⟩],
      2, some 1, some 2⟩ ∧
    ∃ t, Rules.expand (.ofList [("b", ""), ("c", "bcc"), ("bc", "b")]) ⟨#[⟨'a', none, none, false⟩,
        ⟨'b', none, some 2, true⟩, ⟨'c', some 1, none, true⟩], 2, some 1, some 2⟩ = .ok t ∧
      Rules.Expands (.ofList [("b", ""), ("c", "bcc"), ("bc", "b")]) ⟨#[⟨'a', none, none, false⟩,
        ⟨'b', none, some 2, true⟩, ⟨'c', some 1, none, true⟩], 2, some 1, some 2⟩ t := by
  have h : Reachable ⟨#[⟨'a', none, none, false⟩, ⟨'b', none, some 2, true⟩,
      ⟨'c', some 1, none, true⟩], 2, some 1, some 2⟩ :=
    ⟨ofString "abc", .inr ⟨"abc", rfl⟩, [.splice 0 ""], rfl⟩
  exact ⟨h, expand_of_reachable _ h⟩

end PlantGrammar.Rules
