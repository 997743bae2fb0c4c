import Mathlib.Data.List.DropRight
import PlantGrammar.Proofs.Turtle.Brackets
import PlantGrammar.Proofs.Turtle.Calls

/-! # The turtle follows its path

The cursor of a walk is the one that the path of the symbols read so far leads to, without any
stack: each saved cursor belongs to an open bracket and is where the path before that bracket ends.
-/
namespace PlantGrammar

theorem Command.eq_pushSymbol {c : String} (h : ofSymbol c = push) : c = pushSymbol := by
  unfold ofSymbol at h
  split_ifs at h
  assumption

theorem Command.eq_popSymbol {c : String} (h : ofSymbol c = pop) : c = popSymbol := by
  unfold ofSymbol at h
  split_ifs at h
  assumption

namespace Turtle
open Brackets
variable {t : Turtle} {registry : Registry} {u p : List String} {c : String} {w w' : Walk}

def isForward (symbol : String) : Bool := Command.ofSymbol symbol = .forward

/-- What a symbol does to a cursor. Brackets and other symbols do nothing. -/
def steer (t : Turtle) (c : Cursor) (symbol : String) : Except Fault Cursor :=
  match Command.ofSymbol symbol with
  | .forward => t.advance c
  | .turnLeft => .ok { c with angle := c.angle + t.deltaAngle }
  | .turnRight => .ok { c with angle := c.angle - t.deltaAngle }
  | .push | .pop | .other => .ok c

/-- Where a path leads from the start. -/
def drive (t : Turtle) (path : List String) : Except Fault Cursor := path.foldlM t.steer t.start

/-- The symbols before the last step forward, none if there is no such step. -/
def beforeLastStep (symbols : List String) : List String :=
  (symbols.rdropWhile fun c => !isForward c).dropLast

theorem beforeLastStep_forward (u : List String) (h : isForward c = true) :
    beforeLastStep (u ++ [c]) = u := by
  simp [beforeLastStep, h]

theorem beforeLastStep_other (u : List String) (h : isForward c = false) :
    beforeLastStep (u ++ [c]) = beforeLastStep u := by
  simp [beforeLastStep, h]

theorem drive_append_singleton {d : Cursor} (h : t.drive p = .ok d) (c : String) :
    t.drive (p ++ [c]) = t.steer d c := by
  unfold drive at h ⊢
  rw [List.foldlM_append, h]
  exact bind_pure (t.steer d c)

theorem advance_growth {d e : Cursor} (h : t.advance d = .ok e) :
    e.width = t.widthGrowth.apply d.width ∧ e.length = t.lengthGrowth.apply d.length := by
  obtain ⟨v, -, h⟩ := bind_eq_ok.mp h
  obtain ⟨q, -, h⟩ := bind_eq_ok.mp h
  cases h
  exact ⟨rfl, rfl⟩

theorem steer_growth {d e : Cursor} (h : t.steer d c = .ok e) (hc : isForward c = false) :
    e.width = d.width ∧ e.length = d.length := by
  unfold steer at h
  split at h
  · exact absurd ‹_› (of_decide_eq_false hc)
  all_goals
    cases h
    exact ⟨rfl, rfl⟩

/-- Along a path, width and length grow once for each step forward and change in no other way. -/
theorem foldlM_steer_growth {d e : Cursor} (h : p.foldlM t.steer d = .ok e) :
    e.width = t.widthGrowth.apply^[p.countP isForward] d.width ∧
    e.length = t.lengthGrowth.apply^[p.countP isForward] d.length := by
  induction p generalizing d with
  | nil =>
    cases h
    exact ⟨rfl, rfl⟩
  | cons c rest ih =>
    rw [List.foldlM_cons] at h
    obtain ⟨f, hs, h⟩ := bind_eq_ok.mp h
    obtain ⟨hw, hl⟩ := ih h
    by_cases hc : isForward c = true
    · have hf : t.advance d = .ok f := by rw [← hs, steer, of_decide_eq_true hc]
      obtain ⟨hfw, hfl⟩ := advance_growth hf
      rw [List.countP_cons_of_pos hc, Function.iterate_succ_apply, Function.iterate_succ_apply, hw, hl,
        hfw, hfl]
      exact ⟨rfl, rfl⟩
    · obtain ⟨hfw, hfl⟩ := steer_growth hs (Bool.eq_false_iff.mpr hc)
      rw [List.countP_cons_of_neg hc, hw, hl, hfw, hfl]
      exact ⟨rfl, rfl⟩

/-- A walk stands where the path leads, has saved where the paths before the open brackets lead, and
remembers where the path before the last step forward leads. -/
structure OnPath (t : Turtle) (u : List String) (w : Walk) : Prop where
  cursor : t.drive (path u) = .ok w.cursor
  saved : ∃ us, Openings u us ∧ List.Forall₂ (fun v d => t.drive (path v) = .ok d) us w.saved
  last : ∃ d, t.drive (path (beforeLastStep u)) = .ok d ∧ d.position = w.lastPosition ∧
    d.width = w.lastWidth

theorem onPath_begin (t : Turtle) : t.OnPath [] t.begin :=
  ⟨rfl, ⟨[], openings_nil, .nil⟩, ⟨t.start, rfl, rfl, rfl⟩⟩

theorem isForward_eq_false {k : Command} (h : Command.ofSymbol c = k) (hk : k ≠ .forward) :
    isForward c = false :=
  decide_eq_false fun hf => hk (h.symm.trans hf)

theorem ne_brackets {k : Command} (h : Command.ofSymbol c = k) (hk : k ≠ .push ∧ k ≠ .pop) :
    c ≠ pushSymbol ∧ c ≠ popSymbol := by
  constructor
  · rintro rfl
    exact hk.1 h.symm
  · rintro rfl
    exact hk.2 h.symm

theorem OnPath.plain (h : t.OnPath u w) (hc : c ≠ pushSymbol ∧ c ≠ popSymbol) {d : Cursor}
    (hs : t.steer w.cursor c = .ok d) : t.drive (path (u ++ [c])) = .ok d ∧
      ∃ us, Openings (u ++ [c]) us ∧ List.Forall₂ (fun v d => t.drive (path v) = .ok d) us w.saved := by
  obtain ⟨us, hus, hf⟩ := h.saved
  refine ⟨?_, us, hus.append_balanced (balanced_singleton hc.1 hc.2), hf⟩
  rw [path_append_singleton u hc.1 hc.2, drive_append_singleton h.cursor, hs]

theorem OnPath.turn (h : t.OnPath u w) {k : Command} (hk : Command.ofSymbol c = k)
    (hf : k ≠ .forward) (hb : k ≠ .push ∧ k ≠ .pop) {d : Cursor} (hs : t.steer w.cursor c = .ok d) :
    t.OnPath (u ++ [c]) { w with cursor := d } := by
  obtain ⟨hcur, hsaved⟩ := h.plain (ne_brackets hk hb) hs
  refine ⟨hcur, hsaved, ?_⟩
  rw [beforeLastStep_other u (isForward_eq_false hk hf)]
  exact h.last

theorem OnPath.push (h : t.OnPath u w) :
    t.OnPath (u ++ [pushSymbol]) { w with saved := w.cursor :: w.saved } := by
  obtain ⟨us, hus, hf⟩ := h.saved
  refine ⟨?_, ⟨u :: us, hus.push, .cons h.cursor hf⟩, ?_⟩
  · rw [path_append_push]
    exact h.cursor
  · rw [beforeLastStep_other u rfl]
    exact h.last

/-- A closing bracket leads back to where the path before its opening bracket ends. -/
theorem OnPath.pop (h : t.OnPath u w) {d : Cursor} {rest : List Cursor} (hw : w.saved = d :: rest) :
    t.OnPath (u ++ [popSymbol]) { w with cursor := d, saved := rest } := by
  obtain ⟨us, hus, hf⟩ := h.saved
  rw [hw] at hf
  cases hf with
  | cons hd hrest =>
    obtain ⟨hopen, hpath⟩ := hus.pop
    refine ⟨?_, ⟨_, hopen, hrest⟩, ?_⟩
    · rw [hpath]
      exact hd
    · rw [beforeLastStep_other u rfl]
      exact h.last

theorem OnPath.pop_nil (h : t.OnPath u w) (hw : w.saved = []) : t.OnPath (u ++ [popSymbol]) w := by
  obtain ⟨us, hus, hf⟩ := h.saved
  rw [hw] at hf
  cases hf with
  | nil =>
    obtain ⟨hopen, hpath⟩ := hus.pop_nil
    refine ⟨?_, ⟨[], hopen, hw ▸ .nil⟩, ?_⟩
    · rw [hpath]
      exact h.cursor
    · rw [beforeLastStep_other u rfl]
      exact h.last

/-- One step keeps a walk on its path. -/
theorem OnPath.step (h : t.OnPath u w) (hs : t.step w c = .ok w') : t.OnPath (u ++ [c]) w' := by
  unfold Turtle.step at hs
  cases hk : Command.ofSymbol c with
  | forward =>
    simp only [hk] at hs
    obtain ⟨d, hd, hs⟩ := bind_eq_ok.mp hs
    cases hs
    obtain ⟨hcur, hsaved⟩ := h.plain (ne_brackets hk (by decide)) (by rw [steer, hk, hd])
    -- the last step is now this one, which began at the cursor before it
    refine ⟨hcur, hsaved, w.cursor, ?_, rfl, rfl⟩
    rw [beforeLastStep_forward u (decide_eq_true hk)]
    exact h.cursor
  | turnLeft =>
    simp only [hk] at hs
    cases hs
    exact h.turn hk (by decide) (by decide) (by rw [steer, hk])
  | turnRight =>
    simp only [hk] at hs
    cases hs
    exact h.turn hk (by decide) (by decide) (by rw [steer, hk])
  | push =>
    obtain rfl := Command.eq_pushSymbol hk
    simp only [hk] at hs
    cases hs
    exact h.push
  | pop =>
    obtain rfl := Command.eq_popSymbol hk
    simp only [hk] at hs
    cases hw : w.saved with
    | nil =>
      simp only [hw] at hs
      cases hs
      exact h.pop_nil hw
    | cons d rest =>
      simp only [hw] at hs
      cases hs
      exact h.pop hw
  | other =>
    simp only [hk] at hs
    cases hs
    exact h.turn hk (by decide) (by decide) (by rw [steer, hk])

/-- Every walk is on its path. -/
theorem onPath_after (h : t.after u = .ok w) : t.OnPath u w := by
  induction u using List.reverseRecOn generalizing w with
  | nil =>
    cases h
    exact onPath_begin t
  | append_singleton u c ih =>
    rw [after_append_singleton] at h
    obtain ⟨v, hv, hs⟩ := bind_eq_ok.mp h
    exact (ih hv).step hs

/-- The walk `w` in force at position `i` and the call made there, told by paths alone. -/
structure InForce (t : Turtle) (registry : Registry) (symbols : List String) (i : ℕ) (w : Walk) :
    Prop where
  cursor_eq : t.drive (path (symbols.take i)) = .ok w.cursor
  width_eq : w.cursor.width =
    t.widthGrowth.apply^[(path (symbols.take i)).countP isForward] t.start.width
  length_eq : w.cursor.length =
    t.lengthGrowth.apply^[(path (symbols.take i)).countP isForward] t.start.length
  /-- A step forward reports its own segment. -/
  forward_call : ∀ c label d, symbols[i]? = some c → Command.ofSymbol c = .forward →
    registry.get? c = some label → t.advance w.cursor = .ok d →
    t.callAt? registry symbols i = some ⟨c, label, w.cursor.position, w.cursor.width, d.position,
      t.widthGrowth.apply w.cursor.width⟩
  /-- Another symbol reports the cursor before the last step forward, and the present one. -/
  other_call : ∀ c label, symbols[i]? = some c → Command.ofSymbol c = .other →
    registry.get? c = some label →
    ∃ d, t.drive (path (beforeLastStep (symbols.take i))) = .ok d ∧
      t.callAt? registry symbols i = some ⟨c, label, d.position, d.width, w.cursor.position,
        w.cursor.width⟩

theorem after_take_succ {symbols : List String} {i : ℕ} (h : t.after (symbols.take i) = .ok w)
    (hc : symbols[i]? = some c) : t.after (symbols.take (i + 1)) = t.step w c := by
  rw [List.take_add_one, hc, Option.toList_some, after_append_singleton, h]
  rfl

theorem inForce_of_after (registry : Registry) {symbols : List String} {i : ℕ}
    (h : t.after (symbols.take i) = .ok w) : t.InForce registry symbols i w := by
  have hw := onPath_after h
  obtain ⟨hwidth, hlength⟩ := foldlM_steer_growth hw.cursor
  refine ⟨hw.cursor, hwidth, hlength, ?_, ?_⟩
  · intro c label d hc hk hl hd
    have hstep : t.step w c =
        .ok { w with cursor := d, lastPosition := w.cursor.position, lastWidth := w.cursor.width } := by
      rw [Turtle.step, hk]
      simp only [hd]
      rfl
    rw [callAt?_of_ok hc ((after_take_succ h hc).trans hstep), ← (advance_growth hd).1]
    simp [call?, hk, hl]
  · intro c label hc hk hl
    obtain ⟨d, hd, hp, hdw⟩ := hw.last
    refine ⟨d, hd, ?_⟩
    have hstep : t.step w c = .ok w := by rw [Turtle.step, hk]
    rw [callAt?_of_ok hc ((after_take_succ h hc).trans hstep), hp, hdw]
    simp [call?, hk, hl]

/-- Walking needs no stack: the cursor in force at each symbol that is reached, and the call made
there, are those of the path of the symbols before it, whatever brackets they hold. -/
theorem walk_follows_path (t : Turtle) (registry : Registry) (symbols : List String) :
    (t.walk registry symbols).calls.toList =
      (List.range symbols.length).filterMap (t.callAt? registry symbols) ∧
    ∀ i, (t.walk registry (symbols.take i)).fault? = none →
      ∃ w, t.after (symbols.take i) = .ok w ∧ t.InForce registry symbols i w := by
  constructor
  · exact toList_walk_calls t registry symbols
  · intro i h
    obtain ⟨w, hw⟩ := walk_fault_eq_none_iff.mp h
    exact ⟨w, hw, inForce_of_after registry hw⟩

/-- A closing bracket opens the text, one group is matched, and one bracket stays open. -/
theorem walk_follows_path_around_brackets :
    (walk ⟨⟨[0, 0], 90, 2, 10⟩, 90, ⟨.geometric, 0.5⟩, .still⟩ (.ofList [("F", "F"), ("L", "L")])
      (["]", "F", "[", "-", "F", "]", "[", "F", "L"].take 8)).fault? = none ∧
    ∃ w, after ⟨⟨[0, 0], 90, 2, 10⟩, 90, ⟨.geometric, 0.5⟩, .still⟩
        (["]", "F", "[", "-", "F", "]", "[", "F", "L"].take 8) = .ok w ∧
      InForce ⟨⟨[0, 0], 90, 2, 10⟩, 90, ⟨.geometric, 0.5⟩, .still⟩ (.ofList [("F", "F"), ("L", "L")])
        ["]", "F", "[", "-", "F", "]", "[", "F", "L"] 8 w :=
  ⟨rfl, (walk_follows_path _ _ _).2 8 rfl⟩

end Turtle
end PlantGrammar
