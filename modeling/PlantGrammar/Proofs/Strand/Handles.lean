import Mathlib.Algebra.GroupWithZero.Nat
import PlantGrammar.Proofs.Grammar.Splices
import PlantGrammar.Proofs.Strand.Splice

/-! # Indices outlive edits

Edits that do not renumber only add to the arena, and they never put an old node back or move it. So
a caller can hold on to indices: each keeps its symbol and its order among the others while it lives,
and once detached it stays so.
-/
namespace PlantGrammar.Strand
variable {s t u : Strand} {path : List ℕ} {new more : List Char}

/-- The arena of `t` is that of `s` and the symbols `new`. -/
structure Extends (s : Strand) (new : List Char) (t : Strand) : Prop where
  letters_eq : t.letters = s.letters ++ new.toArray
  /-- The old nodes that still live stand in their old order. -/
  sublist : (t.indices.filter (· < s.capacity)).Sublist s.indices

theorem extends_self (s : Strand) : s.Extends [] s :=
  ⟨by simp, List.filter_sublist⟩

theorem Extends.trans (h : s.Extends new t) (h' : t.Extends more u) :
    s.Extends (new ++ more) u := by
  have hcap := capacity_of_letters_eq h.letters_eq
  refine ⟨?_, ?_⟩
  · rw [h'.letters_eq, h.letters_eq]
    simp
  · have hold : u.indices.filter (· < s.capacity) =
        (u.indices.filter (· < t.capacity)).filter (· < s.capacity) := by
      rw [List.filter_filter]
      apply List.filter_congr
      intro i _
      simp only [← Bool.decide_and, decide_eq_decide]
      omega
    rw [hold]
    exact (h'.sublist.filter _).trans h.sublist

theorem Threads.extends_of_splice (h : s.Threads path) {j : ℤ} {text : String}
    {ends : Option (ℕ × ℕ)} (ht : s.splice j text = .ok (t, ends)) : s.Extends text.toList t := by
  obtain ⟨pre, post, i, rfl, -, hth, hl⟩ := h.of_splice_eq_ok ht
  refine ⟨hl, ?_⟩
  rw [hth.indices_eq, h.indices_eq, List.filter_append, List.filter_append,
    filter_range'_eq_nil le_rfl, List.nil_append]
  exact (List.filter_sublist).append (List.filter_sublist.trans (List.sublist_cons_self i post))

theorem Threads.extends_of_spliceAll (h : s.Threads path) {edits : List (ℕ × String)}
    (ht : s.spliceAll edits = .ok t) :
    s.Extends ((edits.map Prod.snd).flatMap String.toList) t := by
  induction edits generalizing s path with
  | nil =>
    cases ht
    exact extends_self _
  | cons e rest ih =>
    obtain ⟨u, ends, hu, hrest⟩ := spliceAll_cons_eq_ok.mp ht
    obtain ⟨pre, post, i, -, -, hth, -⟩ := h.of_splice_eq_ok hu
    exact (h.extends_of_splice hu).trans (ih hth hrest)

def Edit.KeepsIndices : Edit → Prop
  | renumber => False
  | _ => True

/-- The texts that an edit splices in. A splice that fails puts in none. -/
def Edit.texts (s : Strand) : Edit → List String
  | splice i text => if (s.splice i text).isOk then [text] else []
  | renumber => []
  | expand rules => (rules.splices s).map Prod.snd

def splicedTexts (s : Strand) : List Edit → List String
  | [] => []
  | e :: rest => e.texts s ++ splicedTexts (s.edit e) rest

theorem Threads.extends_edit (h : s.Threads path) {e : Edit} (he : e.KeepsIndices) :
    s.Extends ((e.texts s).flatMap String.toList) (s.edit e) := by
  cases e with
  | splice i text =>
    cases hr : s.splice i text with
    | error fault =>
      simpa [Edit.texts, Strand.edit, Edit.perform, hr, Except.isOk, Except.toBool] using
        extends_self s
    | ok r =>
      simpa [Edit.texts, Strand.edit, Edit.perform, hr, Except.isOk, Except.toBool] using
        h.extends_of_splice hr
  | renumber => exact he.elim
  | expand rules =>
    obtain ⟨t, -, hp, -⟩ := rules.exists_pass h
    have ht := Rules.expand_of_pass hp
    have hall := ht
    rw [rules.expand_eq_spliceAll h] at hall
    simpa [Edit.texts, Strand.edit, Edit.perform, ht] using h.extends_of_spliceAll hall

theorem Threads.extends_edits (h : s.Threads path) {edits : List Edit}
    (hk : ∀ e ∈ edits, e.KeepsIndices) :
    s.Extends ((s.splicedTexts edits).flatMap String.toList) (edits.foldl Strand.edit s) := by
  induction edits generalizing s path with
  | nil => exact extends_self s
  | cons e rest ih =>
    obtain ⟨he, hrest⟩ := List.forall_mem_cons.mp hk
    obtain ⟨path', h'⟩ := h.edit e
    rw [splicedTexts, List.flatMap_append]
    exact (h.extends_edit he).trans (ih h' hrest)

/-- Whatever is asked of an index, the answer is that it is not in use. -/
structure Refuses (s : Strand) (i : ℤ) : Prop where
  symbol_eq : s.symbol i = .error (.deadNode i)
  prev_eq : s.prev i = .error (.deadNode i)
  next_eq : s.next i = .error (.deadNode i)
  splice_eq : ∀ text, s.splice i text = .error (.deadNode i)

theorem Threads.refuses (h : s.Threads path) {j : ℤ} (hj : ∀ i ∈ path, j ≠ i) : s.Refuses j := by
  have hn := h.node_eq_error hj
  refine ⟨?_, ?_, ?_, fun text => h.splice_eq_error hj text⟩
  · rw [symbol, hn]
    rfl
  · rw [prev, hn]
    rfl
  · rw [next, hn]
    rfl

/-- What the indices of `s` are worth in a later strand `t`. -/
structure KeepsHandles (s t : Strand) : Prop where
  symbol_eq : ∀ i ∈ s.indices, i ∈ t.indices → ∃ c, s.symbol i = .ok c ∧ t.symbol i = .ok c
  order_eq : s.indices.filter (· ∈ t.indices) = t.indices.filter (· ∈ s.indices)
  detached : ∀ i < s.capacity, i ∉ s.indices → i ∉ t.indices ∧ t.Refuses i
  fresh : ∀ i ∈ t.indices, i ∉ s.indices → s.capacity ≤ i

theorem Extends.mem_indices (h : s.Extends new t) {i : ℕ} (hi : i ∈ t.indices)
    (hlt : i < s.capacity) : i ∈ s.indices :=
  h.sublist.subset (List.mem_filter.mpr ⟨hi, by simpa using hlt⟩)

/-- The old nodes that still live are the same list in both strands. -/
theorem Extends.order_eq (h : s.Extends new t) (hs : s.Threads path) :
    s.indices.filter (· ∈ t.indices) = t.indices.filter (· ∈ s.indices) := by
  have hlt : ∀ i ∈ s.indices, i < s.capacity := by
    intro i hi
    rw [hs.indices_eq] at hi
    exact hs.lt_capacity hi
  have hnd : s.indices.Nodup := hs.indices_eq ▸ hs.nodup
  have hold : t.indices.filter (· ∈ s.indices) = t.indices.filter (· < s.capacity) := by
    apply List.filter_congr
    intro i hi
    rw [decide_eq_decide]
    exact ⟨hlt i, h.mem_indices hi⟩
  have hself : (t.indices.filter (· < s.capacity)).filter (· ∈ t.indices) =
      t.indices.filter (· < s.capacity) := by
    rw [List.filter_eq_self]
    intro i hi
    simpa using (List.mem_filter.mp hi).1
  have hsub := h.sublist.filter (· ∈ t.indices)
  rw [hself] at hsub
  rw [hold]
  refine (hsub.eq_of_length_le ((hnd.filter _).length_le_of_subset ?_)).symm
  intro i hi
  obtain ⟨his, hit⟩ := List.mem_filter.mp hi
  exact List.mem_filter.mpr ⟨by simpa using hit, by simpa using hlt i his⟩

theorem Extends.keepsHandles (h : s.Extends new t) {path' : List ℕ} (hs : s.Threads path)
    (ht : t.Threads path') : s.KeepsHandles t := by
  refine ⟨?_, h.order_eq hs, ?_, ?_⟩
  · intro i hi hit
    rw [hs.indices_eq] at hi
    rw [ht.indices_eq] at hit
    obtain ⟨c, hc, hsym⟩ := hs.symbol_eq_ok hi
    refine ⟨c, hsym, ?_⟩
    rw [ht.symbol_eq_iff hit, h.letters_eq, hs.getElem?_letters_append hi, hc]
  · intro i hlt hi
    have hit : i ∉ t.indices := fun hm => hi (h.mem_indices hm hlt)
    refine ⟨hit, ht.refuses ?_⟩
    rw [ht.indices_eq] at hit
    rintro j hj he
    exact hit (Int.ofNat.inj he ▸ hj)
  · intro i hit hi
    by_contra hlt
    exact hi (h.mem_indices hit (by omega))

/-- From any moment of a run that does not renumber to any later one, indices keep their symbol and
order or are gone for good. The symbols put in get the next free indices, one each. -/
theorem handles_stable (h : s.Reachable) {edits : List Edit}
    (hk : ∀ e ∈ edits, e.KeepsIndices) :
    (∀ early middle late, early ++ middle ++ late = edits →
      KeepsHandles (early.foldl Strand.edit s) ((early ++ middle).foldl Strand.edit s)) ∧
    (edits.foldl Strand.edit s).letters =
      s.letters ++ ((s.splicedTexts edits).flatMap String.toList).toArray ∧
    (edits.foldl Strand.edit s).capacity =
      s.capacity + ((s.splicedTexts edits).map String.length).sum := by
  have hs := h.threads
  have hrun := hs.extends_edits hk
  refine ⟨?_, hrun.letters_eq, ?_⟩
  · rintro early middle late rfl
    obtain ⟨path, hearly⟩ := hs.edits early
    obtain ⟨path', hmiddle⟩ := hearly.edits middle
    have hkeep : ∀ e ∈ middle, e.KeepsIndices := fun e he => hk e (by simp [he])
    rw [List.foldl_append]
    exact (hearly.extends_edits hkeep).keepsHandles hearly hmiddle
  · rw [capacity_of_letters_eq hrun.letters_eq, List.length_flatMap]
    simp only [String.length_toList]

/-- Index 2 is replaced, then refused, and a pass removes the `x` at its old place. -/
theorem handles_stable_refused_and_removed :
    ∃ (s : Strand) (edits : List Edit), s = ⟨#[⟨'a', none, none, false⟩, ⟨'b', none, some 2, true⟩,
        ⟨'c', some 1, none, true⟩], 2, some 1, some 2⟩ ∧
      edits = [.splice 2 "xy", .splice 2 "q", .expand (.ofList [("x", "")])] ∧
      s.Reachable ∧ (∀ e ∈ edits, e.KeepsIndices) ∧
      (edits.foldl Strand.edit s).indices = [1, 4] ∧
      KeepsHandles s ((edits.take 1).foldl Strand.edit s) ∧
      KeepsHandles ((edits.take 1).foldl Strand.edit s) (edits.foldl Strand.edit s) ∧
      s.splicedTexts edits = ["xy", ""] ∧ (edits.foldl Strand.edit s).capacity =
        s.capacity + ((s.splicedTexts edits).map String.length).sum := by
  have h := (reachable_ofString "abc").edit (.splice 0 "")
  have hk : ∀ e ∈ [Edit.splice 2 "xy", .splice 2 "q", .expand (.ofList [("x", "")])],
      e.KeepsIndices := by
    simp [Edit.KeepsIndices]
  obtain ⟨hkeeps, -, hcap⟩ := handles_stable h hk
  exact ⟨_, _, rfl, rfl, h, hk, rfl, hkeeps [] _ _ rfl, hkeeps _ _ [] rfl, by decide +kernel, hcap⟩

end PlantGrammar.Strand
