import PlantGrammar.Proofs.Grammar.Pass

/-! # Edits of a strand

Every run of edits from the empty strand or from a text keeps the strand threaded. All that the
links and counts of a strand promise follows from this one invariant.
-/
namespace PlantGrammar.Strand
variable {s : Strand} {path : List ℕ} {i : ℕ}

inductive Edit where
  | splice (i : ℤ) (text : String)
  | renumber
  | expand (rules : Rules)

def Edit.perform (s : Strand) : Edit → Except Fault Strand
  | splice i text => Prod.fst <$> s.splice i text
  | renumber => .ok s.renumber
  | expand rules => rules.expand s

/-- The strand after an edit. A failed edit leaves it as it was. -/
def edit (s : Strand) (e : Edit) : Strand :=
  match e.perform s with
  | .ok t => t
  | .error _ => s

/-- Some run of edits, successful or failing, leads to the strand from the empty one or from a
text. -/
def Reachable (s : Strand) : Prop :=
  ∃ origin, (origin = empty ∨ ∃ text, origin = ofString text) ∧
    ∃ edits : List Edit, edits.foldl edit origin = s

theorem Threads.edit (h : s.Threads path) (e : Edit) : ∃ path', (s.edit e).Threads path' := by
  cases e with
  | splice j text =>
    by_cases hj : ∀ i ∈ path, j ≠ i
    · -- no live node has this index, so the splice fails
      refine ⟨path, ?_⟩
      simpa [Strand.edit, Edit.perform, h.splice_eq_error hj] using h
    · push Not at hj
      obtain ⟨i, hi, rfl⟩ := hj
      obtain ⟨pre, post, rfl⟩ := List.append_of_mem hi
      obtain ⟨t, ht, hth, -⟩ := h.splice text
      refine ⟨pre ++ (List.range' s.capacity text.toList.length ++ post), ?_⟩
      simpa [Strand.edit, Edit.perform, ht] using hth
  | renumber => exact ⟨_, threads_renumber s⟩
  | expand rules =>
    obtain ⟨t, done, ht, hp⟩ := rules.exists_pass h
    refine ⟨done, ?_⟩
    simpa [Strand.edit, Edit.perform, Rules.expand_of_pass ht] using hp.threads_done

theorem Threads.edits (h : s.Threads path) (edits : List Edit) :
    ∃ path', (edits.foldl Strand.edit s).Threads path' := by
  induction edits generalizing s path with
  | nil => exact ⟨path, h⟩
  | cons e rest ih =>
    obtain ⟨path', h'⟩ := h.edit e
    exact ih h'

theorem Reachable.threads (h : s.Reachable) : s.Threads s.indices := by
  obtain ⟨origin, ho, edits, rfl⟩ := h
  obtain ⟨path, hp⟩ : ∃ path, (edits.foldl Strand.edit origin).Threads path := by
    rcases ho with rfl | ⟨text, rfl⟩
    · exact threads_empty.edits edits
    · exact (threads_ofList text.toList).edits edits
  rwa [hp.indices_eq]

theorem reachable_ofString (text : String) : (ofString text).Reachable :=
  ⟨_, .inr ⟨text, rfl⟩, [], rfl⟩

theorem Reachable.edit (h : s.Reachable) (e : Edit) : (s.edit e).Reachable := by
  obtain ⟨origin, ho, edits, rfl⟩ := h
  exact ⟨origin, ho, edits ++ [e], by simp⟩

def liveIndices (s : Strand) : List ℕ :=
  (List.range s.capacity).filter fun i => s.nodes[i]?.any Node.live

theorem Threads.mem_liveIndices (h : s.Threads path) : i ∈ s.liveIndices ↔ i ∈ path := by
  simp only [liveIndices, List.mem_filter, List.mem_range, Option.any_eq_true]
  constructor
  · rintro ⟨_, n, hn, hl⟩
    exact (h.live_iff_mem hn).mp hl
  · intro hi
    exact ⟨h.lt_capacity hi, h.chain.exists_node hi⟩

theorem Threads.perm_liveIndices (h : s.Threads path) : path.Perm s.liveIndices :=
  (List.perm_ext_iff_of_nodup h.nodup (List.nodup_range.filter _)).mpr
    fun _ => h.mem_liveIndices.symm

/-- The links and counts of a strand agree with each other. -/
structure Consistent (s : Strand) : Prop where
  /-- The walk from the head ends, and meets exactly the live nodes, each once. -/
  walk_head : Leads s.nodes Node.next s.head s.indices
  perm_live : s.indices.Perm s.liveIndices
  /-- The walk from the tail ends, and meets the same nodes in reverse. -/
  walk_tail : Leads s.nodes Node.prev s.tail s.backIndices
  back_eq : s.backIndices = s.indices.reverse
  prev_head : ∀ i, s.head = some i → s.prev i = .ok none
  next_tail : ∀ i, s.tail = some i → s.next i = .ok none
  head_eq_none : s.head = none ↔ s.liveIndices = []
  tail_eq_none : s.tail = none ↔ s.liveIndices = []
  length_eq : s.length = s.liveIndices.length
  /-- Every column of the arena has an entry for each node. -/
  columns : (s.nodes.map Node.symbol).size = s.capacity ∧ (s.nodes.map Node.prev).size = s.capacity ∧
    (s.nodes.map Node.next).size = s.capacity ∧ (s.nodes.map Node.live).size = s.capacity
  detached : ∀ n ∈ s.nodes, n.live = false → n.prev = none ∧ n.next = none
  linked_live : ∀ n ∈ s.nodes, ∀ j, n.prev = some j ∨ n.next = some j → j ∈ s.liveIndices

theorem Threads.mem_of_link (h : s.Threads path) {n : Node} (hn : n ∈ s.nodes) {j : ℕ}
    (hj : n.prev = some j ∨ n.next = some j) : j ∈ path := by
  obtain ⟨i, hi⟩ := Array.getElem?_of_mem hn
  by_cases hm : i ∈ path
  · obtain ⟨pre, post, rfl⟩ := List.append_of_mem hm
    obtain ⟨c, hc⟩ := h.getElem?
    obtain rfl := Option.some.inj (hc.symm.trans hi)
    rcases hj with hj | hj
    · exact List.mem_append_left _ (List.mem_of_getLast? hj)
    · exact List.mem_append_right _ (List.mem_cons_of_mem i (List.mem_of_head? hj))
  · obtain ⟨-, hprev, hnext⟩ := h.detached i n hi hm
    simp [hprev, hnext] at hj

theorem Threads.consistent (h : s.Threads path) : s.Consistent := by
  have hp := h.perm_liveIndices
  have hnil : s.liveIndices = [] ↔ path = [] := by
    rw [← List.length_eq_zero_iff, ← hp.length_eq, List.length_eq_zero_iff]
  refine ⟨?_, ?_, ?_, ?_, ?_, ?_, ?_, ?_, ?_, ?_, ?_, ?_⟩
  · rw [h.indices_eq]
    exact h.leads_next
  · rw [h.indices_eq]
    exact hp
  · rw [h.backIndices_eq]
    exact h.leads_prev
  · rw [h.backIndices_eq, h.indices_eq]
  · intro i hi
    rw [h.head_eq] at hi
    obtain ⟨rest, rfl⟩ := List.head?_eq_some_iff.mp hi
    obtain ⟨c, hc⟩ := @Threads.getElem? s [] rest i h
    exact prev_natCast hc rfl
  · intro i hi
    rw [h.tail_eq] at hi
    obtain ⟨pre, rfl⟩ := List.getLast?_eq_some_iff.mp hi
    obtain ⟨c, hc⟩ := h.getElem?
    exact next_natCast hc rfl
  · rw [h.head_eq, List.head?_eq_none_iff, hnil]
  · rw [h.tail_eq, List.getLast?_eq_none_iff, hnil]
  · rw [h.length_eq, hp.length_eq]
  · simp [capacity]
  · intro n hn hl
    obtain ⟨i, hi⟩ := Array.getElem?_of_mem hn
    refine (h.detached i n hi fun hm => ?_).2
    simp [(h.live_iff_mem hi).mpr hm] at hl
  · intro n hn j hj
    exact h.mem_liveIndices.mpr (h.mem_of_link hn hj)

/-- Whatever edits led to a strand, its walks, ends, counts and links are consistent. -/
theorem consistent_of_reachable (h : s.Reachable) : s.Consistent :=
  h.threads.consistent

/-- Two nodes are detached here, and the splice at the first of them failed. -/
theorem consistent_two_detached :
    Reachable ⟨#[⟨'a', none, none, false⟩, ⟨'b', none, none, false⟩, ⟨'c', none, some 3, true⟩,
      ⟨'d', some 2, none, true⟩], 2, some 2, some 3⟩ ∧
    Consistent ⟨#[⟨'a', none, none, false⟩, ⟨'b', none, none, false⟩, ⟨'c', none, some 3, true⟩,
      ⟨'d', some 2, none, true⟩], 2, some 2, some 3⟩ := by
  have h : Reachable ⟨#[⟨'a', none, none, false⟩, ⟨'b', none, none, false⟩,
      ⟨'c', none, some 3, true⟩, ⟨'d', some 2, none, true⟩], 2, some 2, some 3⟩ :=
    ⟨ofString "ab", .inr ⟨"ab", rfl⟩,
      [.splice 0 "", .splice 0 "x", .expand (.ofList [("b", "cd")])], rfl⟩
  exact ⟨h, consistent_of_reachable h⟩

end PlantGrammar.Strand
