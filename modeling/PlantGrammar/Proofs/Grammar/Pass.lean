import PlantGrammar.Grammar
import PlantGrammar.Proofs.Strand.Walk

/-! # One derivation pass over a strand

A pass walks the strand while it splices the nodes it stands on. Between two steps the strand is
threaded by the nodes that are finished, followed by the old nodes that are still to come, and the
finished part spells the image of the symbols already visited.
-/
namespace PlantGrammar.Rules
open Strand
variable {rules : Rules} {s t : Strand} {path done : List ℕ} {k : ℕ}

def keeps (rules : Rules) (letters : Array Char) (i : ℕ) : Bool :=
  letters[i]?.any fun c => (rules.body? c).isNone

theorem successor_append (rules : Rules) (u v : List Char) :
    rules.successor (u ++ v) = rules.successor u ++ rules.successor v :=
  List.flatMap_append

theorem successor_singleton (rules : Rules) (c : Char) : rules.successor [c] = rules.image c :=
  List.flatMap_singleton _ _

/-- A pass over a strand `s` that was threaded by `path` has become `t` at position `k`. -/
structure PassAt (rules : Rules) (s : Strand) (path : List ℕ) (k : ℕ) (t : Strand)
    (done : List ℕ) : Prop where
  threads : t.Threads (done ++ path.drop k)
  spells : spell t.letters done = rules.successor (spell s.letters (path.take k))
  kept : done.filter (· < s.capacity) = (path.take k).filter (rules.keeps s.letters)
  fresh : ∀ i, s.capacity ≤ i → i < t.capacity → i ∈ done
  grown : ∃ new : List Char, t.letters = s.letters ++ new.toArray

theorem passAt_zero (rules : Rules) (h : s.Threads path) : PassAt rules s path 0 s [] := by
  refine ⟨h, rfl, rfl, ?_, [], by simp⟩
  intro i hi hs
  omega

theorem PassAt.capacity_le (h : PassAt rules s path k t done) : s.capacity ≤ t.capacity := by
  obtain ⟨new, hnew⟩ := h.grown
  rw [capacity_of_letters_eq hnew]
  exact Nat.le_add_right _ _

/-- The next node of a pass is an old one and holds its old symbol. -/
theorem PassAt.exists_node (h : PassAt rules s path k t done) (hs : s.Threads path)
    (hk : k < path.length) : ∃ c, s.letters[path[k]]? = some c ∧
      t.nodes[path[k]]? = some ⟨c, done.getLast?, path[k + 1]?, true⟩ := by
  obtain ⟨new, hnew⟩ := h.grown
  have hth := h.threads
  rw [List.drop_eq_getElem_cons hk] at hth
  obtain ⟨c, hc⟩ := hth.getElem?
  rw [List.head?_drop] at hc
  refine ⟨c, ?_, hc⟩
  have hold : path[k] < s.letters.size := by simpa using hs.lt_capacity (List.getElem_mem hk)
  have hct : t.letters[path[k]]? = some c := by simp [letters, hc]
  rwa [hnew, Array.getElem?_append_left hold] at hct

theorem successor_spell_take_succ {letters : Array Char} (hk : k < path.length) {c : Char}
    (hc : letters[path[k]]? = some c) : rules.successor (spell letters (path.take (k + 1))) =
      rules.successor (spell letters (path.take k)) ++ rules.image c := by
  rw [List.take_succ_eq_append_getElem hk, spell_append, successor_append]
  simp [spell, successor, hc]

theorem PassAt.keep (h : PassAt rules s path k t done) (hs : s.Threads path) (hk : k < path.length)
    {c : Char} (hc : s.letters[path[k]]? = some c) (hb : rules.body? c = none) :
    PassAt rules s path (k + 1) t (done ++ [path[k]]) := by
  obtain ⟨new, hnew⟩ := h.grown
  have hold : path[k] < s.capacity := hs.lt_capacity (List.getElem_mem hk)
  have hct : t.letters[path[k]]? = some c := by
    rw [hnew, Array.getElem?_append_left (by simpa using hold), hc]
  have hkeep : rules.keeps s.letters path[k] = true := by simp [keeps, hc, hb]
  refine ⟨?_, ?_, ?_, ?_, h.grown⟩
  · simpa [← List.drop_eq_getElem_cons hk] using h.threads
  · rw [successor_spell_take_succ hk hc, spell_append, h.spells]
    simp [spell, hct, image, hb]
  · rw [List.take_succ_eq_append_getElem hk, List.filter_append, List.filter_append, h.kept]
    simp [hkeep, hold]
  · intro i hi ht
    exact List.mem_append_left _ (h.fresh i hi ht)

theorem PassAt.rewrite (h : PassAt rules s path k t done) (hk : k < path.length) {c : Char}
    (hc : s.letters[path[k]]? = some c) {body : String} (hb : rules.body? c = some body) :
    ∃ t' ends, t.splice path[k] body = .ok (t', ends) ∧ PassAt rules s path (k + 1) t'
      (done ++ List.range' t.capacity body.toList.length) := by
  have hth := h.threads
  rw [List.drop_eq_getElem_cons hk] at hth
  obtain ⟨t', ht', hth', hl'⟩ := hth.splice body
  have hle := h.capacity_le
  have hcap := capacity_of_letters_eq hl'
  have hkeep : rules.keeps s.letters path[k] = false := by simp [keeps, hc, hb]
  refine ⟨t', _, ht', by simpa using hth', ?_, ?_, ?_, ?_⟩
  · have hlt : ∀ i ∈ done, i < t.letters.size := by
      intro i hi
      simpa using hth.lt_capacity (List.mem_append_left _ hi)
    rw [successor_spell_take_succ hk hc, hl', spell_append, spell_append_left _ hlt, spell_run,
      h.spells]
    simp [image, hb]
  · rw [List.take_succ_eq_append_getElem hk, List.filter_append, List.filter_append, h.kept,
      filter_range'_eq_nil hle]
    simp [hkeep]
  · intro i hi ht
    by_cases hit : i < t.capacity
    · exact List.mem_append_left _ (h.fresh i hi hit)
    · exact List.mem_append_right _ (List.mem_range'_1.mpr (by omega))
  · obtain ⟨new, hnew⟩ := h.grown
    exact ⟨new ++ body.toList, by rw [hl', hnew]; simp⟩

theorem passStep_of_node {i : ℕ} {n : Node} (hn : t.nodes[i]? = some n) (hl : n.live = true) :
    rules.passStep (t, some i) =
      match rules.body? n.symbol with
      | some body => (fun r => (r.1, n.next)) <$> t.splice i body
      | none => .ok (t, n.next) := by
  rw [passStep, next_natCast hn hl, symbol_natCast hn hl]
  simp only [bind, Except.bind]
  cases rules.body? n.symbol with
  | none => rfl
  | some body => cases t.splice i body <;> rfl

/-- One step of a pass never fails, moves on to the old successor and keeps the invariant. -/
theorem PassAt.step (h : PassAt rules s path k t done) (hs : s.Threads path) (hk : k < path.length) :
    ∃ t' done', rules.passStep (t, path[k]?) = .ok (t', path[k + 1]?) ∧
      PassAt rules s path (k + 1) t' done' := by
  obtain ⟨c, hc, hn⟩ := h.exists_node hs hk
  rw [List.getElem?_eq_getElem hk, passStep_of_node hn rfl]
  cases hb : rules.body? c with
  | none => exact ⟨t, _, rfl, h.keep hs hk hc hb⟩
  | some body =>
    obtain ⟨t', ends, ht', h'⟩ := h.rewrite hk hc hb
    exact ⟨t', _, by simp [ht'], h'⟩

/-- After any number of steps the pass stands on the old node of that position, or has ended. -/
theorem PassAt.steps (h : PassAt rules s path k t done) (hs : s.Threads path) (n : ℕ) :
    ∃ t' done', rules.passSteps n (t, path[k]?) = .ok (t', path[k + n]?) ∧
      (k + n ≤ path.length → PassAt rules s path (k + n) t' done') := by
  induction n generalizing k t done with
  | zero => exact ⟨t, done, rfl, fun _ => h⟩
  | succ n ih =>
    by_cases hk : k < path.length
    · obtain ⟨t₁, done₁, hstep, h₁⟩ := h.step hs hk
      obtain ⟨t', done', hsteps, h'⟩ := ih h₁
      rw [show k + 1 + n = k + (n + 1) by omega] at hsteps h'
      refine ⟨t', done', ?_, h'⟩
      rw [passSteps, hstep]
      exact hsteps
    · -- the pass has ended, and further steps change nothing
      obtain ⟨t', done', hsteps, -⟩ := ih h
      refine ⟨t', done', ?_, fun hle => absurd hle (by omega)⟩
      have hnone : ∀ m, path[k + m]? = none := fun m => List.getElem?_eq_none (by omega)
      have h0 := hnone 0
      rw [Nat.add_zero] at h0
      rw [hnone, h0] at hsteps ⊢
      rw [passSteps]
      exact hsteps

/-- A whole pass succeeds in one step for each symbol. -/
theorem exists_pass (rules : Rules) (hs : s.Threads path) : ∃ t done,
    rules.passSteps s.length (s, s.head) = .ok (t, none) ∧ PassAt rules s path path.length t done := by
  obtain ⟨t, done, ht, h⟩ := (passAt_zero rules hs).steps hs path.length
  rw [Nat.zero_add] at ht h
  refine ⟨t, done, ?_, h le_rfl⟩
  rw [hs.length_eq, hs.head_eq, List.head?_eq_getElem?, ht, List.getElem?_eq_none le_rfl]

theorem expand_of_pass {p : Pass} (h : rules.passSteps s.length (s, s.head) = .ok p) :
    rules.expand s = .ok p.1 := by
  rw [expand, h]
  rfl

theorem PassAt.threads_done (h : PassAt rules s path path.length t done) : t.Threads done := by
  simpa using h.threads

end PlantGrammar.Rules
