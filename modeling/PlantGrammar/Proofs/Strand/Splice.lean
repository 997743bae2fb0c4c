import PlantGrammar.Proofs.Strand.Edit

/-! # Splicing replaces one index of a list

Seen through its walks, a strand is a list of indices. A splice puts the indices of new nodes in the
place of one index and leaves all others where they are. An index that no live node has is refused.
-/
namespace PlantGrammar.Strand
variable {s t : Strand} {path : List ℕ} {i : ℕ} {j : ℤ} {ends : Option (ℕ × ℕ)}

theorem Threads.symbol_eq_ok (h : s.Threads path) (hi : i ∈ path) :
    ∃ c, s.letters[i]? = some c ∧ s.symbol i = .ok c := by
  obtain ⟨n, hn, hl⟩ := h.chain.exists_node hi
  refine ⟨n.symbol, ?_, symbol_natCast hn hl⟩
  simp [letters, hn]

theorem Threads.symbol_eq_iff (h : s.Threads path) (hi : i ∈ path) {c : Char} :
    s.symbol i = .ok c ↔ s.letters[i]? = some c := by
  obtain ⟨d, hd, hs⟩ := h.symbol_eq_ok hi
  rw [hs, hd]
  simp

/-- The index is negative, past the arena, or that of a detached node. -/
def Dead (s : Strand) (j : ℤ) : Prop :=
  j < 0 ∨ s.capacity ≤ j ∨ ∃ n, s.nodes[j.toNat]? = some n ∧ n.live = false

theorem Threads.dead_iff (h : s.Threads path) : s.Dead j ↔ ∀ i ∈ path, j ≠ i := by
  constructor
  · rintro hd i hi rfl
    have hlt := h.lt_capacity hi
    obtain ⟨m, hm, hl⟩ := h.chain.exists_node hi
    rcases hd with hneg | hcap | ⟨n, hn, hdead⟩
    · omega
    · omega
    · rw [Int.toNat_natCast] at hn
      obtain rfl := Option.some.inj (hm.symm.trans hn)
      simp [hl] at hdead
  · intro hj
    by_cases hneg : j < 0
    · exact .inl hneg
    by_cases hcap : s.capacity ≤ j
    · exact .inr (.inl hcap)
    -- what is left addresses a node of the arena, and not one of the path
    have hlt : j.toNat < s.nodes.size := by
      simp only [capacity] at hcap
      omega
    have hn := Array.getElem?_eq_getElem hlt
    refine .inr (.inr ⟨_, hn, (h.detached _ _ hn fun hm => ?_).1⟩)
    exact hj _ hm (Int.toNat_of_nonneg (by omega)).symm

theorem Threads.splice_of_dead (h : s.Threads path) (hd : s.Dead j) (text : String) :
    s.splice j text = .error (.deadNode j) :=
  h.splice_eq_error (h.dead_iff.mp hd) text

/-- A splice that succeeds was at a node of the path. -/
theorem Threads.of_splice_eq_ok (h : s.Threads path) {text : String}
    (ht : s.splice j text = .ok (t, ends)) :
    ∃ (pre post : List ℕ) (i : ℕ), path = pre ++ i :: post ∧ j = i ∧
      t.Threads (pre ++ (List.range' s.capacity text.toList.length ++ post)) ∧
      t.letters = s.letters ++ text.toList.toArray := by
  by_cases hj : ∀ i ∈ path, j ≠ i
  · rw [h.splice_eq_error hj] at ht
    cases ht
  · push Not at hj
    obtain ⟨i, hi, rfl⟩ := hj
    obtain ⟨pre, post, rfl⟩ := List.append_of_mem hi
    obtain ⟨u, hu, hth, hl⟩ := h.splice text
    cases hu.symm.trans ht
    exact ⟨pre, post, i, rfl, rfl, hth, hl⟩

theorem spliceAll_cons_eq_ok {e : ℕ × String} {rest : List (ℕ × String)} :
    s.spliceAll (e :: rest) = .ok t ↔
      ∃ u ends, s.splice e.1 e.2 = .ok (u, ends) ∧ u.spliceAll rest = .ok t := by
  rw [spliceAll, List.foldlM_cons, bind_eq_ok]
  constructor
  · rintro ⟨u, hu, ht⟩
    cases hr : s.splice e.1 e.2 with
    | error fault =>
      rw [hr] at hu
      cases hu
    | ok r =>
      rw [hr] at hu
      cases hu
      exact ⟨r.1, r.2, rfl, ht⟩
  · rintro ⟨u, ends, hu, ht⟩
    exact ⟨u, by rw [hu]; rfl, ht⟩

/-- The strand `t` is `s` with a run of new nodes in the place of the one index between `pre` and
`post`; `ends` are the first and last of the run. -/
structure Replaced (s : Strand) (pre post : List ℕ) (text : String) (t : Strand)
    (ends : Option (ℕ × ℕ)) : Prop where
  indices_eq : t.indices = pre ++ (List.range' s.capacity text.length ++ post)
  /-- Both walks of `t` and all its links agree with these indices. -/
  consistent : t.Consistent
  new_symbol : ∀ k c, text.toList[k]? = some c → t.symbol ↑(s.capacity + k) = .ok c
  kept_symbol : ∀ j ∈ pre ++ post, ∃ c, s.symbol j = .ok c ∧ t.symbol j = .ok c
  capacity_eq : t.capacity = s.capacity + text.length
  length_sub : (t.length : ℤ) - s.length = text.length - 1
  ends_eq : ends = if text = "" then none else some (s.capacity, s.capacity + text.length - 1)
  head_eq : t.head = t.indices.head?
  tail_eq : t.tail = t.indices.getLast?

theorem Threads.replaced {pre post : List ℕ} (h : s.Threads (pre ++ i :: post)) (text : String) :
    ∃ t ends, s.splice i text = .ok (t, ends) ∧ Replaced s pre post text t ends := by
  obtain ⟨t, ht, hth, hl⟩ := h.splice text
  have hcap := capacity_of_letters_eq hl
  rw [String.length_toList] at ht hth hcap
  refine ⟨t, _, ht, hth.indices_eq, hth.consistent, ?_, ?_, hcap, ?_, ?_, ?_, ?_⟩
  · intro k c hc
    have hk := (List.getElem?_eq_some_iff.mp hc).1
    rw [String.length_toList] at hk
    have hnew : s.capacity + k ∈ pre ++ (List.range' s.capacity text.length ++ post) := by
      have : s.capacity + k ∈ List.range' s.capacity text.length :=
        List.mem_range'_1.mpr ⟨by omega, by omega⟩
      simp [this]
    rw [hth.symbol_eq_iff hnew, hl, Array.getElem?_append_right (by simp)]
    simpa using hc
  · intro k hk
    have hold : k ∈ pre ++ i :: post := by
      rcases List.mem_append.mp hk with hk | hk <;> simp [hk]
    have hstay : k ∈ pre ++ (List.range' s.capacity text.length ++ post) := by
      rcases List.mem_append.mp hk with hk | hk <;> simp [hk]
    obtain ⟨c, hc, hs⟩ := h.symbol_eq_ok hold
    refine ⟨c, hs, ?_⟩
    rw [hth.symbol_eq_iff hstay, hl, h.getElem?_letters_append hold, hc]
  · have hs := h.length_eq
    have ht := hth.length_eq
    simp only [List.length_append, List.length_cons, List.length_range'] at hs ht
    omega
  · simp [runEnds]
  · rw [hth.indices_eq, hth.head_eq]
  · rw [hth.indices_eq, hth.tail_eq]

/-- Splicing at a live node replaces its index by those of the new nodes. Splicing anywhere else is
refused and changes nothing. -/
theorem splice_refines (h : s.Reachable) (text : String) :
    (∀ (pre post : List ℕ) (i : ℕ), s.indices = pre ++ i :: post →
      ∃ t ends, s.splice i text = .ok (t, ends) ∧ Replaced s pre post text t ends) ∧
    ∀ j, s.Dead j → s.splice j text = .error (.deadNode j) ∧ s.edit (.splice j text) = s := by
  have hs := h.threads
  refine ⟨?_, ?_⟩
  · intro pre post i hi
    rw [hi] at hs
    exact hs.replaced text
  · intro j hd
    have herr := hs.splice_of_dead hd text
    refine ⟨herr, ?_⟩
    simp [Strand.edit, Edit.perform, herr]

/-- The first node is detached here. The last one is replaced, and the detached one refused. -/
theorem splice_refines_last_and_detached :
    ∃ s : Strand, s = ⟨#[⟨'a', none, none, false⟩, ⟨'b', none, some 2, true⟩,
        ⟨'c', some 1, none, true⟩], 2, some 1, some 2⟩ ∧ s.Reachable ∧
      (s.indices = [1] ++ 2 :: [] ∧
        ∃ t ends, s.splice 2 "xy" = .ok (t, ends) ∧ Replaced s [1] [] "xy" t ends) ∧
      s.Dead 0 ∧ s.splice 0 "xy" = .error (.deadNode 0) ∧ s.edit (.splice 0 "xy") = s := by
  have h := (reachable_ofString "abc").edit (.splice 0 "")
  obtain ⟨hlive, hdead⟩ := splice_refines h "xy"
  have hd : ((ofString "abc").edit (.splice 0 "")).Dead 0 := .inr (.inr ⟨_, rfl, rfl⟩)
  exact ⟨_, rfl, h, ⟨rfl, hlive [1] [] 2 rfl⟩, hd, hdead 0 hd⟩

end PlantGrammar.Strand
