import Mathlib.Data.List.Nodup
import Mathlib.Data.List.Range
import PlantGrammar.Strand

/-! # The threading of a strand

A chain is a path through the arena whose nodes are live and linked to their neighbours on the path.
A strand is threaded by a path when the path is one chain from head to tail and every node off it is
detached. Putting a run in the place of a node puts its indices in the place of the node's index.
-/
namespace PlantGrammar.Strand
variable {nodes nodes' : Array Node} {before after : Option ℕ} {path : List ℕ}

/-- Live nodes linked to each other in the order of a path, and at its ends to `before` and
`after`. -/
def Chain (nodes : Array Node) : Option ℕ → List ℕ → Option ℕ → Prop
  | _, [], _ => True
  | before, i :: rest, after =>
    (∃ c, nodes[i]? = some ⟨c, before, rest.head?.or after, true⟩) ∧ Chain nodes (some i) rest after

theorem Chain.congr (h : Chain nodes before path after)
    (he : ∀ i ∈ path, nodes'[i]? = nodes[i]?) : Chain nodes' before path after := by
  induction path generalizing before with
  | nil => trivial
  | cons i rest ih =>
    obtain ⟨⟨c, hc⟩, hr⟩ := h
    have hrest : ∀ j ∈ rest, nodes'[j]? = nodes[j]? := by
      intro j hj
      exact he j (List.mem_cons_of_mem i hj)
    refine ⟨⟨c, ?_⟩, ih hr hrest⟩
    rw [he i List.mem_cons_self, hc]

theorem Chain.exists_node (h : Chain nodes before path after) {i : ℕ} (hi : i ∈ path) :
    ∃ n, nodes[i]? = some n ∧ n.live = true := by
  induction path generalizing before with
  | nil => simp at hi
  | cons j rest ih =>
    obtain ⟨⟨c, hc⟩, hr⟩ := h
    rcases List.mem_cons.mp hi with rfl | hi
    · exact ⟨_, hc, rfl⟩
    · exact ih hr hi

theorem Chain.lt_size (h : Chain nodes before path after) {i : ℕ} (hi : i ∈ path) :
    i < nodes.size := by
  obtain ⟨n, hn, _⟩ := h.exists_node hi
  exact (Array.getElem?_eq_some_iff.mp hn).1

theorem chain_append {p q : List ℕ} : Chain nodes before (p ++ q) after ↔
    Chain nodes before p (q.head?.or after) ∧ Chain nodes (p.getLast?.or before) q after := by
  induction p generalizing before with
  | nil => simp [Chain]
  | cons i rest ih =>
    simp only [List.cons_append, Chain, ih, List.head?_append, Option.or_assoc, List.getLast?_cons,
      Option.some_or, and_assoc]
    cases rest.getLast? <;> simp

@[simp] theorem getElem?_relink (i : Option ℕ) (f : Node → Node) (j : ℕ) :
    (relink nodes i f)[j]? = if i = some j then nodes[j]?.map f else nodes[j]? := by
  cases i with
  | none => simp [relink]
  | some i => simp [relink, Array.getElem?_modify]

theorem Chain.relink_after (h : Chain nodes before path after) (hd : path.Nodup) (next : Option ℕ) :
    Chain (relink nodes path.getLast? fun n => { n with next }) before path next := by
  rcases List.eq_nil_or_concat' path with rfl | ⟨q, i, rfl⟩
  · trivial
  · obtain ⟨hq, ⟨c, hc⟩, _⟩ := chain_append.mp h
    have hi : ∀ j ∈ q, i ≠ j := by
      intro j hj he
      subst he
      exact List.disjoint_of_nodup_append hd hj List.mem_cons_self
    refine chain_append.mpr ⟨hq.congr ?_, ⟨c, ?_⟩, trivial⟩
    · intro j hj
      simp [hi j hj]
    · simp [hc]

theorem Chain.relink_before (h : Chain nodes before path after) (hd : path.Nodup)
    (prev : Option ℕ) :
    Chain (relink nodes path.head? fun n => { n with prev }) prev path after := by
  cases path with
  | nil => trivial
  | cons i rest =>
    obtain ⟨⟨c, hc⟩, hr⟩ := h
    have hi : ∀ j ∈ rest, i ≠ j := by
      intro j hj he
      subst he
      exact (List.nodup_cons.mp hd).1 hj
    refine ⟨⟨c, ?_⟩, hr.congr ?_⟩
    · simp [hc]
    · intro j hj
      simp [hi j hj]

theorem chain_of_getElem? (h : ∀ k i : ℕ, path[k]? = some i → ∃ c, nodes[i]? =
      some ⟨c, if k = 0 then before else path[k - 1]?, path[k + 1]?.or after, true⟩) :
    Chain nodes before path after := by
  induction path generalizing before with
  | nil => trivial
  | cons i rest ih =>
    obtain ⟨c, hc⟩ := h 0 i rfl
    refine ⟨⟨c, by simpa [List.head?_eq_getElem?] using hc⟩, ih fun k j hj => ?_⟩
    obtain ⟨d, hd⟩ := h (k + 1) j (by simpa using hj)
    refine ⟨d, hd.trans ?_⟩
    cases k <;> simp

theorem getElem?_run (before after : Option ℕ) (base : ℕ) (cs : List Char) (k : ℕ) :
    (Node.run before after base cs)[k]? = cs[k]?.map fun c =>
      ⟨c, if k = 0 then before else some (base + k - 1),
        if k + 1 = cs.length then after else some (base + k + 1), true⟩ := by
  simp [Node.run]

@[simp] theorem size_run (before after : Option ℕ) (base : ℕ) (cs : List Char) :
    (Node.run before after base cs).size = cs.length := by
  simp [Node.run]

theorem chain_run (nodes : Array Node) (before after : Option ℕ) (cs : List Char) :
    Chain (nodes ++ Node.run before after nodes.size cs) before
      (List.range' nodes.size cs.length) after := by
  apply chain_of_getElem?
  intro k i hi
  have hk : k < cs.length := by simpa using (List.getElem?_eq_some_iff.mp hi).1
  obtain rfl : nodes.size + k = i := by simpa [List.getElem?_range' hk] using hi
  refine ⟨cs[k], ?_⟩
  rw [Array.getElem?_append_right (by omega), getElem?_run]
  simp only [Nat.add_sub_cancel_left, List.getElem?_eq_getElem hk, Option.map_some]
  congr 2
  · by_cases h0 : k = 0
    · simp [h0]
    · simp only [if_neg h0]
      rw [List.getElem?_range' (by omega)]
      congr 1
      omega
  · by_cases h1 : k + 1 = cs.length
    · simp [h1]
    · rw [if_neg h1, List.getElem?_range' (by omega)]
      simp [Nat.add_assoc]

theorem map_fst_runEnds (base count : ℕ) :
    (runEnds base count).map Prod.fst = (List.range' base count).head? := by
  cases count <;> simp [runEnds, List.range'_succ]

theorem map_snd_runEnds (base count : ℕ) :
    (runEnds base count).map Prod.snd = (List.range' base count).getLast? := by
  cases count with
  | zero => rfl
  | succ n => simp [runEnds, List.range'_concat]

/-- The indices of a run on the arena's end are none of the old ones. -/
theorem filter_range'_eq_nil {bound base : ℕ} (h : bound ≤ base) (count : ℕ) :
    (List.range' base count).filter (· < bound) = [] := by
  rw [List.filter_eq_nil_iff]
  intro i hi
  have := (List.mem_range'_1.mp hi).1
  simp only [decide_eq_true_eq]
  omega

/-- The path is the chain from the head of the strand to its tail, and the nodes off it are
detached. -/
structure Threads (s : Strand) (path : List ℕ) : Prop where
  nodup : path.Nodup
  chain : Chain s.nodes none path none
  detached : ∀ i n, s.nodes[i]? = some n → i ∉ path →
    n.live = false ∧ n.prev = none ∧ n.next = none
  length_eq : s.length = path.length
  head_eq : s.head = path.head?
  tail_eq : s.tail = path.getLast?

/-- The symbols of the arena by index, those of detached nodes included. -/
def letters (s : Strand) : Array Char := s.nodes.map Node.symbol

@[simp] theorem size_letters (s : Strand) : s.letters.size = s.capacity := by
  simp [letters, capacity]

variable {s t : Strand} {pre post : List ℕ} {i : ℕ}

theorem capacity_of_letters_eq {new : List Char} (h : t.letters = s.letters ++ new.toArray) :
    t.capacity = s.capacity + new.length := by
  rw [← size_letters t, h]
  simp

theorem Threads.lt_capacity (h : s.Threads path) (hi : i ∈ path) : i < s.capacity :=
  h.chain.lt_size hi

theorem Threads.getElem?_letters_append (h : s.Threads path) (hi : i ∈ path) (new : Array Char) :
    (s.letters ++ new)[i]? = s.letters[i]? :=
  Array.getElem?_append_left (by simpa using h.lt_capacity hi)

theorem Threads.getElem? (h : s.Threads (pre ++ i :: post)) :
    ∃ c, s.nodes[i]? = some ⟨c, pre.getLast?, post.head?, true⟩ := by
  simpa [Chain] using (chain_append.mp h.chain).2.1

theorem Threads.live_iff_mem (h : s.Threads path) {n : Node} (hn : s.nodes[i]? = some n) :
    n.live = true ↔ i ∈ path := by
  constructor
  · intro hl
    by_contra hi
    simp [(h.detached i n hn hi).1] at hl
  · intro hi
    obtain ⟨m, hm, hl⟩ := h.chain.exists_node hi
    exact Option.some.inj (hm.symm.trans hn) ▸ hl

theorem threads_empty : empty.Threads [] :=
  ⟨List.nodup_nil, trivial, by simp [empty], rfl, rfl, rfl⟩

theorem threads_ofList (cs : List Char) : (ofList cs).Threads (List.range cs.length) := by
  have hc := chain_run #[] none none cs
  simp only [Array.empty_append, List.size_toArray, List.length_nil, ← List.range_eq_range'] at hc
  refine ⟨List.nodup_range, hc, ?_, by simp [ofList], ?_, ?_⟩
  · intro i n hn hi
    have := (Array.getElem?_eq_some_iff.mp hn).1
    simp [ofList] at this hi
    omega
  · simp [ofList, map_fst_runEnds, List.range_eq_range']
  · simp [ofList, map_snd_runEnds, List.range_eq_range']

theorem letters_ofList (cs : List Char) : (ofList cs).letters = cs.toArray := by
  apply Array.ext_getElem?
  intro k
  simp [letters, ofList, getElem?_run, Function.comp_def]

theorem map_symbol_relink (nodes : Array Node) (i : Option ℕ) {f : Node → Node}
    (hf : ∀ n, (f n).symbol = n.symbol) :
    (relink nodes i f).map Node.symbol = nodes.map Node.symbol := by
  apply Array.ext_getElem?
  intro k
  simp only [Array.getElem?_map, getElem?_relink]
  split <;> simp [Function.comp_def, hf]

/-- The arena after a replacement: the run is appended, the neighbours are linked to its ends, and
the node is detached. -/
theorem nodes_replace (s : Strand) (i : ℕ) (node : Node) (cs : List Char) :
    (s.replace i node cs).nodes =
      relink (relink (relink (s.nodes ++ Node.run node.prev node.next s.capacity cs) node.prev
        fun n => { n with next := (List.range' s.capacity cs.length).head?.or node.next }) node.next
        fun n => { n with prev := (List.range' s.capacity cs.length).getLast?.or node.prev }) (some i)
        fun n => { n with live := false, prev := none, next := none } := by
  simp only [replace, map_fst_runEnds, map_snd_runEnds]
  rfl

theorem letters_replace (s : Strand) (i : ℕ) (node : Node) (cs : List Char) :
    (s.replace i node cs).letters = s.letters ++ cs.toArray := by
  have hrun : (Node.run node.prev node.next s.capacity cs).map Node.symbol = cs.toArray := by
    apply Array.ext_getElem?
    intro k
    simp [getElem?_run, Function.comp_def]
  rw [letters, nodes_replace, map_symbol_relink, map_symbol_relink, map_symbol_relink,
    Array.map_append, hrun]
  · rfl
  all_goals exact fun _ => rfl

theorem getElem?_nodes_replace {node : Node} (cs : List Char) {j : ℕ} (hi : i ≠ j)
    (hp : node.prev ≠ some j) (hn : node.next ≠ some j) : (s.replace i node cs).nodes[j]? =
      (s.nodes ++ Node.run node.prev node.next s.capacity cs)[j]? := by
  simp [nodes_replace, hi, hp, hn]

theorem Threads.nodup_replace (h : s.Threads (pre ++ i :: post)) (count : ℕ) :
    (pre ++ (List.range' s.capacity count ++ post)).Nodup := by
  have hlt : ∀ j ∈ pre ++ i :: post, j < s.capacity := fun j hj => h.lt_capacity hj
  obtain ⟨hpre, hi, hdis⟩ := List.nodup_append.mp h.nodup
  rw [List.nodup_append, List.nodup_append]
  refine ⟨hpre, ⟨List.nodup_range', (List.nodup_cons.mp hi).2, ?_⟩, ?_⟩
  · rintro j hj k hk rfl
    have := hlt j (by simp [hk])
    have := (List.mem_range'_1.mp hj).1
    omega
  · rintro j hj k hk rfl
    rcases List.mem_append.mp hk with hk | hk
    · have := hlt j (by simp [hj])
      have := (List.mem_range'_1.mp hk).1
      omega
    · exact hdis j hj j (List.mem_cons_of_mem i hk) rfl

/-- The part before the node is linked to the run, the run on both sides, and the part after the
node back to the run. -/
theorem Threads.chain_replace (h : s.Threads (pre ++ i :: post)) (c : Char) (cs : List Char) :
    Chain (s.replace i ⟨c, pre.getLast?, post.head?, true⟩ cs).nodes none
      (pre ++ (List.range' s.capacity cs.length ++ post)) none := by
  have hlt : ∀ j ∈ pre ++ i :: post, j < s.capacity := fun j hj => h.lt_capacity hj
  have hold : ∀ j ∈ pre ++ i :: post, (s.nodes ++ Node.run pre.getLast? post.head? s.capacity cs)[j]? =
      s.nodes[j]? := by
    intro j hj
    exact Array.getElem?_append_left (hlt j hj)
  have hlast : ∀ j ∉ pre, pre.getLast? ≠ some j := by
    intro j hj he
    exact hj (List.mem_of_getLast? he)
  have hhead : ∀ j ∉ post, post.head? ≠ some j := by
    intro j hj he
    exact hj (List.mem_of_head? he)
  obtain ⟨hdpre, hdi, hdis⟩ := List.nodup_append.mp h.nodup
  obtain ⟨hipost, hdpost⟩ := List.nodup_cons.mp hdi
  have hdisj : ∀ j ∈ pre, j ∉ post := by
    intro j hj hp
    exact hdis j hj j (List.mem_cons_of_mem i hp) rfl
  obtain ⟨hpre, -, hpost⟩ := chain_append.mp h.chain
  refine chain_append.mpr ⟨?_, chain_append.mpr ⟨?_, ?_⟩⟩
  · -- only the last node before the replaced one is linked anew
    have hlink := (hpre.congr fun j hj => hold j (by simp [hj])).relink_after hdpre
      ((List.range' s.capacity cs.length).head?.or post.head?)
    rw [List.head?_append, Option.or_none]
    refine hlink.congr ?_
    intro j hj
    have hi : i ≠ j := fun he => hdis j hj i List.mem_cons_self he.symm
    simp [nodes_replace, hhead j (hdisj j hj), hi]
  · -- the run is off the old path, so none of the three changes of links meets it
    simp only [Option.or_none]
    refine (chain_run s.nodes pre.getLast? post.head? cs).congr ?_
    intro j hj
    have hnew : j ∉ pre ++ i :: post := by
      intro hm
      have hbelow := hlt j hm
      have habove := (List.mem_range'_1.mp hj).1
      simp only [capacity] at hbelow
      omega
    simp only [List.mem_append, List.mem_cons, not_or] at hnew
    exact getElem?_nodes_replace cs (Ne.symm hnew.2.1) (hlast j hnew.1) (hhead j hnew.2.2)
  · have hlink := (hpost.congr fun j hj => hold j (by simp [hj])).relink_before hdpost
      ((List.range' s.capacity cs.length).getLast?.or pre.getLast?)
    rw [Option.or_none]
    refine hlink.congr ?_
    intro j hj
    have hi : i ≠ j := fun he => hipost (he ▸ hj)
    simp [nodes_replace, hlast j fun hp => hdisj j hp hj, hi]

theorem Threads.detached_replace (h : s.Threads (pre ++ i :: post)) (c : Char) (cs : List Char)
    {j : ℕ} {n : Node} (hn : (s.replace i ⟨c, pre.getLast?, post.head?, true⟩ cs).nodes[j]? = some n)
    (hj : j ∉ pre ++ (List.range' s.capacity cs.length ++ post)) :
    n.live = false ∧ n.prev = none ∧ n.next = none := by
  simp only [List.mem_append, not_or] at hj
  by_cases hi : i = j
  · subst hi
    simp only [nodes_replace, getElem?_relink, ↓reduceIte] at hn
    obtain ⟨m, -, rfl⟩ := Option.map_eq_some_iff.mp hn
    exact ⟨rfl, rfl, rfl⟩
  · rw [getElem?_nodes_replace cs hi (fun he => hj.1 (List.mem_of_getLast? he))
      (fun he => hj.2.2 (List.mem_of_head? he))] at hn
    by_cases hs : j < s.capacity
    · rw [Array.getElem?_append_left hs] at hn
      exact h.detached j n hn (by simp [hj.1, hj.2.2, Ne.symm hi])
    · have := (Array.getElem?_eq_some_iff.mp hn).1
      simp only [Array.size_append, size_run] at this
      exact absurd (List.mem_range'_1.mpr ⟨Nat.not_lt.mp hs, this⟩) hj.2.1

theorem Threads.replace (h : s.Threads (pre ++ i :: post)) (c : Char) (cs : List Char) :
    (s.replace i ⟨c, pre.getLast?, post.head?, true⟩ cs).Threads
      (pre ++ (List.range' s.capacity cs.length ++ post)) := by
  refine ⟨h.nodup_replace cs.length, h.chain_replace c cs, ?_, ?_, ?_, ?_⟩
  · intro j n hn hj
    exact h.detached_replace c cs hn hj
  · have hl := h.length_eq
    simp only [Strand.replace, List.length_append, List.length_cons, List.length_range'] at hl ⊢
    omega
  · have hh := h.head_eq
    cases pre with
    | nil => simp [Strand.replace, map_fst_runEnds]
    | cons a q => simpa [Strand.replace] using hh
  · have ht := h.tail_eq
    rcases List.eq_nil_or_concat' post with rfl | ⟨q, a, rfl⟩
    · simp [Strand.replace, map_snd_runEnds, List.getLast?_append]
    · simpa [Strand.replace, List.getLast?_append, List.getLast?_cons] using ht

theorem node_natCast {n : Node} (hn : s.nodes[i]? = some n) (hl : n.live = true) :
    s.node i = .ok (i, n) := by
  have hf : s.node? i = some (i, n) := by
    change (s.nodes[i]?.bind fun n => if n.live then some (i, n) else none) = _
    simp [hn, hl]
  simp [node, hf]

theorem symbol_natCast {n : Node} (hn : s.nodes[i]? = some n) (hl : n.live = true) :
    s.symbol i = .ok n.symbol := by
  rw [symbol, node_natCast hn hl]
  rfl

theorem prev_natCast {n : Node} (hn : s.nodes[i]? = some n) (hl : n.live = true) :
    s.prev i = .ok n.prev := by
  rw [prev, node_natCast hn hl]
  rfl

theorem next_natCast {n : Node} (hn : s.nodes[i]? = some n) (hl : n.live = true) :
    s.next i = .ok n.next := by
  rw [next, node_natCast hn hl]
  rfl

theorem Threads.node_eq_error (h : s.Threads path) {j : ℤ} (hj : ∀ i ∈ path, j ≠ i) :
    s.node j = .error (.deadNode j) := by
  have hf : s.node? j = none := by
    cases j with
    | negSucc j => rfl
    | ofNat j =>
      change (s.nodes[j]?.bind fun n => if n.live then some (j, n) else none) = none
      cases hn : s.nodes[j]? with
      | none => rfl
      | some n =>
        have hl := (h.detached j n hn fun hm => hj j hm rfl).1
        simp [hl]
  simp [node, hf]

/-- Splicing at a node of the path never fails. The run takes the place of the node, and the arena
keeps every symbol and gains those of the run. -/
theorem Threads.splice (h : s.Threads (pre ++ i :: post)) (text : String) :
    ∃ t, s.splice i text = .ok (t, runEnds s.capacity text.toList.length) ∧
      t.Threads (pre ++ (List.range' s.capacity text.toList.length ++ post)) ∧
      t.letters = s.letters ++ text.toList.toArray := by
  obtain ⟨c, hc⟩ := h.getElem?
  refine ⟨_, ?_, h.replace c text.toList, letters_replace s i _ text.toList⟩
  rw [Strand.splice, node_natCast hc rfl]
  rfl

theorem Threads.splice_eq_error (h : s.Threads path) {j : ℤ} (hj : ∀ i ∈ path, j ≠ i)
    (text : String) : s.splice j text = .error (.deadNode j) := by
  rw [Strand.splice, h.node_eq_error hj]
  rfl

end PlantGrammar.Strand
