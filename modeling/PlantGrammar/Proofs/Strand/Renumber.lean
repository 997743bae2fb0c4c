import PlantGrammar.Proofs.Grammar.Iteration
import PlantGrammar.Proofs.Strand.Splice

/-! # Renumbering cannot be seen

An edit that addresses nodes by their place in the text does to a strand what it does to its text,
whatever the numbers of the nodes. Strands with equal text thus stay so under the same edits, and a
renumbering, which keeps the text, can stand anywhere in a run.
-/
namespace PlantGrammar.Strand
variable {s t : Strand} {path pre post : List ℕ} {i k : ℕ}

/-- The index of the node that stands at a place, `-1` past the last one. -/
def place (s : Strand) (k : ℕ) : ℤ :=
  match s.indices[k]? with
  | some i => i
  | none => -1

inductive PlaceEdit where
  | splice (k : ℕ) (text : String)
  | renumber
  | expand (rules : Rules)

def PlaceEdit.renumbers : PlaceEdit → Bool
  | renumber => true
  | _ => false

/-- The edit by index that an edit by place comes down to. -/
def PlaceEdit.resolve (s : Strand) : PlaceEdit → Edit
  | splice k text => .splice (s.place k) text
  | renumber => .renumber
  | expand rules => .expand rules

def editAt (s : Strand) (e : PlaceEdit) : Strand := s.edit (e.resolve s)

def failure? {α : Type} : Except Fault α → Option Fault
  | .ok _ => none
  | .error fault => some fault

/-- How the edits of a run fail or do not, renumberings left out. -/
def faults (s : Strand) : List PlaceEdit → List (Option Fault)
  | [] => []
  | e :: rest =>
    (if e.renumbers then [] else [failure? ((e.resolve s).perform s)]) ++ (s.editAt e).faults rest

/-- What an edit by place does to a text. -/
def PlaceEdit.onText : PlaceEdit → List Char → Except Fault (List Char)
  | splice k text, cs =>
    if k < cs.length then .ok (cs.take k ++ (text.toList ++ cs.drop (k + 1)))
    else .error (.deadNode (-1))
  | renumber, cs => .ok cs
  | expand rules, cs => .ok (rules.successor cs)

theorem Threads.symbols_splice (h : s.Threads (pre ++ i :: post)) (text : String) :
    ∃ t ends, s.splice i text = .ok (t, ends) ∧
      t.symbols = spell s.letters pre ++ (text.toList ++ spell s.letters post) := by
  obtain ⟨t, ht, hth, hl⟩ := h.splice text
  have hlt : ∀ j ∈ pre ++ i :: post, j < s.letters.size := by
    intro j hj
    simpa using h.lt_capacity hj
  refine ⟨t, _, ht, ?_⟩
  rw [hth.symbols_eq, hl, spell_append, spell_append, spell_run,
    spell_append_left _ fun j hj => hlt j (by simp [hj]),
    spell_append_left _ fun j hj => hlt j (by simp [hj])]

/-- Whether an edit by place succeeds, and the text it leaves, can be told from the text. -/
theorem Threads.map_symbols_perform (h : s.Threads path) (e : PlaceEdit) :
    symbols <$> (e.resolve s).perform s = e.onText s.symbols := by
  cases e with
  | splice k text =>
    simp only [PlaceEdit.resolve, Edit.perform, PlaceEdit.onText, h.symbols_eq, place, h.indices_eq]
    by_cases hk : k < path.length
    · have hsplit : path = path.take k ++ path[k] :: path.drop (k + 1) := by
        rw [← List.drop_eq_getElem_cons hk, List.take_append_drop]
      rw [hsplit] at h
      obtain ⟨t, ends, ht, hsym⟩ := h.symbols_splice text
      simp [hk, ht, hsym, spell]
    · have hnone : ∀ i ∈ path, (-1 : ℤ) ≠ i := fun i _ => by omega
      rw [List.getElem?_eq_none (by omega), h.splice_eq_error hnone]
      simp [spell, hk]
  | renumber =>
    simp [PlaceEdit.resolve, Edit.perform, PlaceEdit.onText, Strand.renumber]
  | expand rules =>
    obtain ⟨t, ht, hsym⟩ := rules.expand_eq_ok h
    simp [PlaceEdit.resolve, Edit.perform, PlaceEdit.onText, ht, hsym]

/-- Strands that differ in the numbers of their nodes only. -/
structure Alike (s t : Strand) : Prop where
  reachable_left : s.Reachable
  reachable_right : t.Reachable
  symbols_eq : s.symbols = t.symbols

theorem Reachable.alike_renumber (h : s.Reachable) : (s.edit .renumber).Alike s :=
  ⟨h.edit .renumber, h, symbols_ofList s.symbols⟩

theorem Alike.trans {u : Strand} (h : s.Alike t) (h' : t.Alike u) : s.Alike u :=
  ⟨h.reachable_left, h'.reachable_right, h.symbols_eq.trans h'.symbols_eq⟩

theorem failure?_map {α β : Type} (f : α → β) (r : Except Fault α) :
    failure? (f <$> r) = failure? r := by
  cases r <;> rfl

theorem symbols_edit (s : Strand) (e : Edit) :
    (s.edit e).symbols = (symbols <$> e.perform s).toOption.getD s.symbols := by
  rw [Strand.edit]
  cases e.perform s <;> rfl

/-- An edit by place keeps strands alike, and fails on both or on neither. -/
theorem Alike.step (h : s.Alike t) (e : PlaceEdit) :
    failure? ((e.resolve s).perform s) = failure? ((e.resolve t).perform t) ∧
      (s.editAt e).Alike (t.editAt e) := by
  have heq : symbols <$> (e.resolve s).perform s = symbols <$> (e.resolve t).perform t := by
    rw [h.reachable_left.threads.map_symbols_perform, h.reachable_right.threads.map_symbols_perform,
      h.symbols_eq]
  refine ⟨?_, h.reachable_left.edit _, h.reachable_right.edit _, ?_⟩
  · rw [← failure?_map symbols, heq, failure?_map]
  · rw [editAt, editAt, symbols_edit, symbols_edit, heq, h.symbols_eq]

/-- A run and the same run without its renumberings keep strands alike, edit by edit. -/
theorem Alike.run (h : s.Alike t) (es : List PlaceEdit) :
    s.faults es = t.faults (es.filter fun e => !e.renumbers) ∧
      (es.foldl editAt s).Alike ((es.filter fun e => !e.renumbers).foldl editAt t) := by
  induction es generalizing s t with
  | nil => exact ⟨rfl, h⟩
  | cons e rest ih =>
    cases hr : e.renumbers with
    | true =>
      -- the left strand renumbers, and the right one waits
      obtain rfl : e = .renumber := by cases e <;> first | rfl | cases hr
      exact ih (h.reachable_left.alike_renumber.trans h)
    | false =>
      obtain ⟨hfault, hstep⟩ := h.step e
      obtain ⟨hfaults, hrest⟩ := ih hstep
      rw [List.filter_cons_of_pos (by simp [hr])]
      refine ⟨?_, hrest⟩
      simp only [faults, hr, hfault, hfaults]

/-- The strands show one text and one length, and compare alike with whatever else. -/
structure SameFace (s t : Strand) : Prop where
  text_eq : s.text = t.text
  length_eq : s.length = t.length
  sameText_left : ∀ u, s.sameText u = t.sameText u
  sameText_right : ∀ u, sameText u s = sameText u t
  hasText_eq : ∀ text, s.hasText text = t.hasText text
  display_eq : s.display = t.display

theorem Alike.sameFace (h : s.Alike t) : s.SameFace t := by
  have htext : s.text = t.text := by rw [text, text, h.symbols_eq]
  refine ⟨htext, ?_, ?_, ?_, ?_, ?_⟩
  · rw [h.reachable_left.threads.length_eq_symbols, h.reachable_right.threads.length_eq_symbols,
      h.symbols_eq]
  · intro u
    rw [sameText, sameText, htext]
  · intro u
    rw [sameText, sameText, htext]
  · intro w
    rw [hasText, hasText, htext]
  · rw [display, display, htext]

/-- Renumbering builds the strand anew from its text, and no run of edits by place shows whether
strands were renumbered on the way. -/
theorem renumber_invisible (h : s.Reachable) :
    s.renumber = ofString s.text ∧ s.renumber.renumber = s.renumber ∧
    (∀ t : Strand, s.text = t.text → s.renumber = t.renumber) ∧
    ∀ es : List PlaceEdit,
      s.faults es = s.faults (es.filter fun e => !e.renumbers) ∧
      SameFace (es.foldl editAt s) ((es.filter fun e => !e.renumbers).foldl editAt s) := by
  refine ⟨?_, ?_, ?_, ?_⟩
  · rw [Strand.renumber, ofString, text, String.toList_ofList]
  · rw [Strand.renumber, Strand.renumber, symbols_ofList]
  · intro t htext
    rw [Strand.renumber, Strand.renumber, String.ofList_injective htext]
  · intro es
    obtain ⟨hfaults, halike⟩ := Alike.run ⟨h, h, rfl⟩ es
    exact ⟨hfaults, halike.sameFace⟩

/-- Two renumberings stand in the run. The splice past the end fails, and the last one removes. -/
theorem renumber_invisible_between_splices :
    ∃ (s : Strand) (es : List PlaceEdit), s = ⟨#[⟨'a', none, none, false⟩,
        ⟨'b', none, some 2, true⟩, ⟨'c', some 1, none, true⟩], 2, some 1, some 2⟩ ∧
      es = [.splice 0 "xb", .renumber, .splice 5 "q", .expand (.ofList [("b", "bb")]), .renumber,
        .splice 0 ""] ∧
      s.Reachable ∧ s.renumber = ofString s.text ∧
      s.faults es = [none, some (.deadNode (-1)), none, none] ∧
      s.faults es = s.faults (es.filter fun e => !e.renumbers) ∧
      SameFace (es.foldl editAt s) ((es.filter fun e => !e.renumbers).foldl editAt s) := by
  have h := (reachable_ofString "abc").edit (.splice 0 "")
  obtain ⟨hanew, -, -, hrun⟩ := renumber_invisible h
  exact ⟨_, _, rfl, rfl, h, hanew, by decide +kernel, hrun _⟩

end PlantGrammar.Strand
