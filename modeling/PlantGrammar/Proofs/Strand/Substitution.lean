import PlantGrammar.Proofs.Grammar.Splices
import PlantGrammar.Proofs.Strand.Handles

/-! # Splices at different nodes commute

Splicing a list of nodes one after the other gives each its text at the same time: a splice neither
moves the other nodes nor changes their symbols. What comes out is told by a table from nodes to
texts, so the order of the list does not show in it, but for the numbers of the new nodes.
-/
namespace PlantGrammar.Strand
variable {s t : Strand} {path pre post : List ℕ} {i : ℕ} {edits others : List (ℕ × String)}

theorem lookup_eq_some_iff_mem (hd : (edits.map Prod.fst).Nodup) {text : String} :
    edits.lookup i = some text ↔ (i, text) ∈ edits := by
  induction edits with
  | nil => simp
  | cons e rest ih =>
    obtain ⟨he, hr⟩ := List.nodup_cons.mp hd
    obtain ⟨j, other⟩ := e
    by_cases hij : i = j
    · subst hij
      have hrest : (i, text) ∉ rest := fun hm => he (List.mem_map.mpr ⟨_, hm, rfl⟩)
      simp [hrest, eq_comm]
    · simp [List.lookup_cons, beq_false_of_ne hij, ih hr, hij]

theorem lookup_eq_of_perm (hd : (edits.map Prod.fst).Nodup) (hp : others.Perm edits) (i : ℕ) :
    others.lookup i = edits.lookup i := by
  have hd' : (others.map Prod.fst).Nodup := (hp.map Prod.fst).nodup_iff.mpr hd
  ext text
  rw [lookup_eq_some_iff_mem hd', lookup_eq_some_iff_mem hd, hp.mem_iff]

/-- The symbols along a path, with the texts of a table in the place of the nodes that have one. -/
def substitute (letters : Array Char) (edits : List (ℕ × String)) (path : List ℕ) : List Char :=
  path.flatMap fun i => ((edits.lookup i).map String.toList).getD (spell letters [i])

theorem substitute_append (letters : Array Char) (edits : List (ℕ × String)) (p q : List ℕ) :
    substitute letters edits (p ++ q) = substitute letters edits p ++ substitute letters edits q :=
  List.flatMap_append

theorem substitute_congr {letters letters' : Array Char}
    (hl : ∀ i ∈ path, letters'[i]? = letters[i]?)
    (he : ∀ i ∈ path, others.lookup i = edits.lookup i) :
    substitute letters' others path = substitute letters edits path := by
  apply List.flatMap_congr
  intro i hi
  simp only [he i hi, spell, List.map_cons, List.map_nil, hl i hi]

theorem substitute_of_not_mem {letters : Array Char} (h : ∀ e ∈ edits, e.1 ∉ path) :
    substitute letters edits path = spell letters path := by
  have hnone : ∀ i ∈ path, edits.lookup i = none := by
    intro i hi
    rw [List.lookup_eq_none_iff]
    intro e he
    rw [bne_iff_ne]
    rintro rfl
    exact h e he hi
  rw [substitute, spell, List.map_eq_flatMap]
  apply List.flatMap_congr
  intro i hi
  simp [hnone i hi, spell]

/-- A splice that is done early leaves the rest of the table to be substituted. -/
theorem Threads.substitute_splice (h : s.Threads (pre ++ i :: post)) (text : String)
    (hrest : ∀ e ∈ edits, e.1 ∈ pre ++ i :: post ∧ e.1 ≠ i) :
    substitute (s.letters ++ text.toList.toArray) edits
        (pre ++ (List.range' s.capacity text.toList.length ++ post)) =
      substitute s.letters ((i, text) :: edits) (pre ++ i :: post) := by
  have hold : ∀ j ∈ pre ++ i :: post, (s.letters ++ text.toList.toArray)[j]? = s.letters[j]? :=
    fun j hj => h.getElem?_letters_append hj _
  have hother : ∀ j ∈ pre ++ post, edits.lookup j = ((i, text) :: edits).lookup j := by
    intro j hj
    rw [List.lookup_cons, beq_false_of_ne]
    rintro rfl
    exact (List.nodup_cons.mp (List.nodup_middle.mp h.nodup)).1 hj
  -- no text is in store for the nodes just put in
  have hnew : ∀ e ∈ edits, e.1 ∉ List.range' s.capacity text.toList.length := by
    intro e he hm
    have := h.lt_capacity (hrest e he).1
    have := (List.mem_range'_1.mp hm).1
    omega
  rw [substitute_append, substitute_append, substitute_append, substitute_of_not_mem hnew, spell_run,
    substitute_congr (fun j hj => hold j (by simp [hj])) fun j hj => hother j (by simp [hj]),
    substitute_congr (fun j hj => hold j (by simp [hj])) fun j hj => hother j (by simp [hj])]
  simp [substitute]

theorem Threads.exists_spliceAll (h : s.Threads path) (hd : (edits.map Prod.fst).Nodup)
    (hl : ∀ e ∈ edits, e.1 ∈ path) :
    ∃ t path', s.spliceAll edits = .ok t ∧ t.Threads path' ∧
      t.symbols = substitute s.letters edits path := by
  induction edits generalizing s path with
  | nil =>
    refine ⟨s, path, rfl, h, ?_⟩
    rw [h.symbols_eq, substitute_of_not_mem]
    simp
  | cons e rest ih =>
    obtain ⟨i, text⟩ := e
    obtain ⟨hi, hdr⟩ := List.nodup_cons.mp hd
    obtain ⟨hmem, hlr⟩ := List.forall_mem_cons.mp hl
    obtain ⟨pre, post, rfl⟩ := List.append_of_mem hmem
    obtain ⟨u, hu, hth, hletters⟩ := h.splice text
    have hrest : ∀ e ∈ rest, e.1 ∈ pre ++ i :: post ∧ e.1 ≠ i := by
      intro e he
      exact ⟨hlr e he, fun hei => hi (List.mem_map.mpr ⟨e, he, hei⟩)⟩
    have hlive : ∀ e ∈ rest, e.1 ∈ pre ++ (List.range' s.capacity text.toList.length ++ post) := by
      intro e he
      obtain ⟨hm, hne⟩ := hrest e he
      simp only [List.mem_append, List.mem_cons, hne, false_or] at hm ⊢
      tauto
    obtain ⟨t, path', ht, hpath, hsym⟩ := ih hth hdr hlive
    refine ⟨t, path', spliceAll_cons_eq_ok.mpr ⟨u, _, hu, ht⟩, hpath, ?_⟩
    rw [hsym, hletters, h.substitute_splice text hrest]

/-- Strands that look the same but for the numbers of their nodes, and take up equal room. -/
structure SameSize (s t : Strand) : Prop where
  text_eq : s.text = t.text
  length_eq : s.length = t.length
  capacity_eq : s.capacity = t.capacity

theorem Threads.sameSize_of_perm (h : s.Threads path) (hd : (edits.map Prod.fst).Nodup)
    (hl : ∀ e ∈ edits, e.1 ∈ path) (hp : others.Perm edits) :
    ∃ t u, s.spliceAll edits = .ok t ∧ s.spliceAll others = .ok u ∧ u.SameSize t ∧
      t.symbols = substitute s.letters edits path := by
  have hd' : (others.map Prod.fst).Nodup := (hp.map Prod.fst).nodup_iff.mpr hd
  obtain ⟨t, p, ht, hpt, hsym⟩ := h.exists_spliceAll hd hl
  obtain ⟨u, q, hu, hqu, hsym'⟩ := h.exists_spliceAll hd' fun e he => hl e (hp.mem_iff.mp he)
  have heq : u.symbols = t.symbols := by
    rw [hsym, hsym']
    exact substitute_congr (fun _ _ => rfl) fun i _ => lookup_eq_of_perm hd hp i
  have hroom : ((others.map Prod.snd).flatMap String.toList).length =
      ((edits.map Prod.snd).flatMap String.toList).length :=
    ((hp.map Prod.snd).flatMap_right _).length_eq
  refine ⟨t, u, ht, hu, ⟨?_, ?_, ?_⟩, hsym⟩
  · rw [text, text, heq]
  · rw [hpt.length_eq_symbols, hqu.length_eq_symbols, heq]
  · rw [capacity_of_letters_eq (h.extends_of_spliceAll ht).letters_eq,
      capacity_of_letters_eq (h.extends_of_spliceAll hu).letters_eq, hroom]

/-- Different nodes can be spliced in any order, to the same end: each is replaced by its text. A
pass with one rule is such a run over the nodes that hold its key. -/
theorem splices_in_any_order (h : s.Reachable) (hd : (edits.map Prod.fst).Nodup)
    (hl : ∀ e ∈ edits, e.1 ∈ s.indices) (hp : others.Perm edits) :
    (∃ t u, s.spliceAll edits = .ok t ∧ s.spliceAll others = .ok u ∧ u.SameSize t ∧
      t.symbols = substitute s.letters edits s.indices) ∧
    ∀ symbol text, ∃ t, s.spliceWhere symbol text = .ok t ∧
      Rules.expand (.ofList [(symbol, text)]) s = .ok t := by
  have hs := h.threads
  refine ⟨hs.sameSize_of_perm hd hl hp, ?_⟩
  intro symbol text
  obtain ⟨t, done, hpass, -⟩ := (Rules.exists_pass (.ofList [(symbol, text)]) hs)
  have ht := Rules.expand_of_pass hpass
  refine ⟨t, ?_, ht⟩
  rw [spliceWhere, ← Rules.splices_singleton, ← Rules.expand_eq_spliceAll _ hs, ht]

/-- The chosen nodes are neighbours, the first of them at the head, and one is removed. -/
theorem splices_in_any_order_neighbours :
    ∃ (s : Strand) (edits others : List (ℕ × String)),
      s = ⟨#[⟨'a', none, none, false⟩, ⟨'b', none, some 2, true⟩, ⟨'c', some 1, some 3, true⟩,
        ⟨'b', some 2, none, true⟩], 3, some 1, some 3⟩ ∧
      edits = [(1, ""), (2, "xy"), (3, "b")] ∧ others = [(3, "b"), (1, ""), (2, "xy")] ∧
      s.Reachable ∧ (edits.map Prod.fst).Nodup ∧ (∀ e ∈ edits, e.1 ∈ s.indices) ∧
      others.Perm edits ∧
      (∃ t u, s.spliceAll edits = .ok t ∧ s.spliceAll others = .ok u ∧ u.SameSize t ∧
        t.symbols = ['x', 'y', 'b']) ∧
      ∃ t, s.spliceWhere "b" "bb" = .ok t ∧ Rules.expand (.ofList [("b", "bb")]) s = .ok t := by
  have h := (reachable_ofString "abcb").edit (.splice 0 "")
  have hd : ([(1, ""), (2, "xy"), (3, "b")].map Prod.fst).Nodup := by decide
  have hl : ∀ e ∈ [(1, ""), (2, "xy"), (3, "b")], e.1 ∈ [1, 2, 3] := by decide
  have hp : [(3, "b"), (1, ""), (2, "xy")].Perm [(1, ""), (2, "xy"), (3, "b")] := by decide
  obtain ⟨hall, hwhere⟩ := splices_in_any_order h hd hl hp
  exact ⟨_, _, _, rfl, rfl, rfl, h, hd, hl, hp, hall, hwhere "b" "bb"⟩

end PlantGrammar.Strand
