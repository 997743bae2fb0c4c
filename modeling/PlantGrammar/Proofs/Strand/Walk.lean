import Mathlib.Data.List.Range
import PlantGrammar.Proofs.Strand.Threading

/-! # Walks along a strand

Following the links of a threaded strand from its head lists the path, and from its tail the path
backwards. Both walks end by themselves, so their bound is never reached.
-/
namespace PlantGrammar.Strand
variable {nodes : Array Node} {link : Node → Option ℕ} {before after start : Option ℕ}
  {path : List ℕ} {s : Strand}

/-- Following a link from a node meets the nodes of a path and ends there. -/
inductive Leads (nodes : Array Node) (link : Node → Option ℕ) : Option ℕ → List ℕ → Prop
  | stop : Leads nodes link none []
  | step {i : ℕ} {n : Node} {path : List ℕ} : nodes[i]? = some n → Leads nodes link (link n) path →
      Leads nodes link (some i) (i :: path)

theorem Leads.follow_eq (h : Leads nodes link start path) {fuel : ℕ} (hf : path.length ≤ fuel)
    (seen : Array ℕ) : follow nodes link fuel start seen = seen ++ path.toArray := by
  induction h generalizing fuel seen with
  | stop => simp [follow]
  | @step i n path hn _ ih =>
    obtain ⟨fuel, rfl⟩ : ∃ k, fuel = k + 1 := Nat.exists_eq_add_one_of_ne_zero (by
      rintro rfl
      simp at hf)
    simp only [follow, hn, Option.bind_some]
    rw [ih (by simpa using hf)]
    simp

theorem Chain.leads_next (h : Chain nodes before path none) :
    Leads nodes Node.next path.head? path := by
  induction path generalizing before with
  | nil => exact .stop
  | cons i rest ih =>
    obtain ⟨⟨c, hc⟩, hr⟩ := h
    exact .step hc (by simpa using ih hr)

theorem Chain.leads_prev (h : Chain nodes none path after) :
    Leads nodes Node.prev path.getLast? path.reverse := by
  induction path using List.reverseRecOn generalizing after with
  | nil => exact .stop
  | append_singleton q i ih =>
    obtain ⟨hq, ⟨c, hc⟩, _⟩ := chain_append.mp h
    simpa using Leads.step hc (by simpa using ih hq)

theorem Threads.leads_next (h : s.Threads path) : Leads s.nodes Node.next s.head path :=
  h.head_eq ▸ h.chain.leads_next

theorem Threads.leads_prev (h : s.Threads path) : Leads s.nodes Node.prev s.tail path.reverse :=
  h.tail_eq ▸ h.chain.leads_prev

theorem Threads.length_le_capacity (h : s.Threads path) : path.length ≤ s.capacity := by
  have hsub : path ⊆ List.range s.capacity := by
    intro i hi
    exact List.mem_range.mpr (h.lt_capacity hi)
  simpa using h.nodup.length_le_of_subset hsub

theorem Threads.indices_eq (h : s.Threads path) : s.indices = path := by
  simp [indices, h.leads_next.follow_eq h.length_le_capacity]

theorem Threads.backIndices_eq (h : s.Threads path) : s.backIndices = path.reverse := by
  have hl : path.reverse.length ≤ s.capacity := by simpa using h.length_le_capacity
  simp [backIndices, h.leads_prev.follow_eq hl]

/-- The symbols at the indices of a path. -/
def spell (letters : Array Char) (path : List ℕ) : List Char :=
  path.map fun i => letters[i]?.getD default

@[simp] theorem spell_append (letters : Array Char) (p q : List ℕ) :
    spell letters (p ++ q) = spell letters p ++ spell letters q := by
  simp [spell]

theorem spell_append_left {letters : Array Char} (fresh : Array Char)
    (h : ∀ i ∈ path, i < letters.size) : spell (letters ++ fresh) path = spell letters path := by
  apply List.map_congr_left
  intro i hi
  rw [Array.getElem?_append_left (h i hi)]

theorem spell_append_range' (letters : Array Char) (cs : List Char) :
    spell (letters ++ cs.toArray) (List.range' letters.size cs.length) = cs := by
  apply List.ext_getElem
  · simp [spell]
  · intro k _ hk
    simp [spell, hk]

theorem spell_run (s : Strand) (cs : List Char) :
    spell (s.letters ++ cs.toArray) (List.range' s.capacity cs.length) = cs := by
  rw [← size_letters, spell_append_range']

theorem Threads.symbols_eq (h : s.Threads path) : s.symbols = spell s.letters path := by
  simp [symbols, h.indices_eq, spell, letters]

theorem Threads.length_eq_symbols (h : s.Threads path) : s.length = s.symbols.length := by
  rw [h.length_eq, h.symbols_eq, spell, List.length_map]

@[simp] theorem symbols_ofList (cs : List Char) : (ofList cs).symbols = cs := by
  rw [(threads_ofList cs).symbols_eq, letters_ofList, List.range_eq_range']
  simpa using spell_append_range' #[] cs

theorem threads_renumber (s : Strand) : s.renumber.Threads (List.range s.symbols.length) :=
  threads_ofList s.symbols

end PlantGrammar.Strand
