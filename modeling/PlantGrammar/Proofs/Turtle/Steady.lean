import PlantGrammar.Proofs.Number.Moderate
import PlantGrammar.Proofs.Turtle.Calls

/-! # Turtles that never stop

A walk stops early at an infinite angle, or at a position that is no point. A turtle that starts at a
point, at an angle of moderate size, and turns by less than sixty-four degrees meets neither on any
string, and all its calls are between points.
-/
namespace PlantGrammar
open Number

/-- Two coordinates. -/
def IsPoint (xs : List Float) : Prop := ∃ x y, xs = [x, y]

structure Cursor.Steady (c : Cursor) : Prop where
  position : IsPoint c.position
  angle : (Magnitude.ofFloat c.angle).Within 10

structure Walk.Steady (w : Walk) : Prop where
  cursor : w.cursor.Steady
  saved : ∀ c ∈ w.saved, c.Steady
  lastPosition : IsPoint w.lastPosition

namespace Turtle
variable {t : Turtle} {c : Cursor} {w : Walk} {symbols : List String}

structure Steady (t : Turtle) : Prop where
  start : t.start.Steady
  turn : (Magnitude.ofFloat t.deltaAngle).Within (-47)

theorem Steady.begin (h : t.Steady) : t.begin.Steady := by
  refine ⟨h.start, ?_, h.start.position⟩
  intro c hc
  cases hc

theorem advance_of_isInf (t : Turtle) (h : (radians c.angle).isInf = true) :
    t.advance c = .error .infiniteAngle := by
  have hheading : heading c.angle = .error .infiniteAngle := if_pos h
  rw [advance, hheading]
  rfl

/-- From a point a step forward fails at an infinite angle only, and leads to a point. -/
theorem exists_advance_of_isPoint (t : Turtle) (hp : IsPoint c.position)
    (h : (radians c.angle).isInf = false) :
    ∃ c', t.advance c = .ok c' ∧ IsPoint c'.position ∧ c'.angle = c.angle := by
  obtain ⟨x, y, hposition⟩ := hp
  have hheading : heading c.angle = .ok ((radians c.angle).cos, (radians c.angle).sin) :=
    if_neg (Bool.eq_false_iff.mp h)
  rw [advance, hheading, hposition]
  exact ⟨_, rfl, ⟨_, _, rfl⟩, rfl⟩

theorem exists_advance (t : Turtle) (hc : c.Steady) : ∃ c', t.advance c = .ok c' ∧ c'.Steady := by
  obtain ⟨c', hc', hp, hangle⟩ := exists_advance_of_isPoint t hc.position (isInf_radians hc.angle)
  exact ⟨c', hc', hp, hangle ▸ hc.angle⟩

theorem exists_step (ht : t.Steady) (hw : w.Steady) (symbol : String) :
    ∃ w', t.step w symbol = .ok w' ∧ w'.Steady := by
  obtain ⟨hcursor, hsaved, hlast⟩ := hw
  unfold step
  cases Command.ofSymbol symbol with
  | forward =>
    obtain ⟨c, hc, hsteady⟩ := exists_advance t hcursor
    dsimp only
    rw [hc]
    exact ⟨_, rfl, hsteady, hsaved, hcursor.position⟩
  | turnLeft => exact ⟨_, rfl, ⟨hcursor.position, within_add_float hcursor.angle ht.turn⟩, hsaved, hlast⟩
  | turnRight => exact ⟨_, rfl, ⟨hcursor.position, within_sub_float hcursor.angle ht.turn⟩, hsaved, hlast⟩
  | push => exact ⟨_, rfl, hcursor, List.forall_mem_cons.mpr ⟨hcursor, hsaved⟩, hlast⟩
  | pop =>
    cases hs : w.saved with
    | nil => exact ⟨w, rfl, hcursor, hs ▸ hsaved, hlast⟩
    | cons c saved =>
      rw [hs, List.forall_mem_cons] at hsaved
      exact ⟨_, rfl, hsaved.1, hsaved.2, hlast⟩
  | other => exact ⟨w, rfl, hcursor, hsaved, hlast⟩

theorem exists_foldlM_step (ht : t.Steady) (hw : w.Steady) (symbols : List String) :
    ∃ w', symbols.foldlM t.step w = .ok w' ∧ w'.Steady := by
  induction symbols generalizing w with
  | nil => exact ⟨w, rfl, hw⟩
  | cons symbol rest ih =>
    obtain ⟨v, hv, hsteady⟩ := exists_step ht hw symbol
    rw [List.foldlM_cons, hv]
    exact ih hsteady

theorem exists_after (ht : t.Steady) (symbols : List String) :
    ∃ w, t.after symbols = .ok w ∧ w.Steady :=
  exists_foldlM_step ht ht.begin symbols

theorem fault_walk_of_steady (ht : t.Steady) (registry : Registry) (symbols : List String) :
    (t.walk registry symbols).fault? = none := by
  obtain ⟨w, hw, -⟩ := exists_after ht symbols
  exact walk_fault_eq_none_iff.mpr ⟨w, hw⟩

theorem points_of_call? {registry : Registry} {symbol : String} {call : Call} (hw : w.Steady)
    (h : call? registry w symbol = some call) : IsPoint call.start ∧ IsPoint call.finish := by
  have hpoints (label : String) : IsPoint
      (Call.mk symbol label w.lastPosition w.lastWidth w.cursor.position w.cursor.width).start ∧ IsPoint
      (Call.mk symbol label w.lastPosition w.lastWidth w.cursor.position w.cursor.width).finish :=
    ⟨hw.lastPosition, hw.cursor.position⟩
  unfold call? at h
  split at h
  · obtain ⟨label, -, rfl⟩ := Option.map_eq_some_iff.mp h
    exact hpoints label
  · obtain ⟨label, -, rfl⟩ := Option.map_eq_some_iff.mp h
    exact hpoints label
  · cases h

theorem points_of_mem_calls (ht : t.Steady) {registry : Registry} {call : Call}
    (h : call ∈ (t.walk registry symbols).calls.toList) : IsPoint call.start ∧ IsPoint call.finish := by
  rw [toList_walk_calls, List.mem_filterMap] at h
  obtain ⟨i, hi, hcall⟩ := h
  obtain ⟨w, hw, hsteady⟩ := exists_after ht (symbols.take (i + 1))
  rw [callAt?_of_ok (List.getElem?_eq_getElem (List.mem_range.mp hi)) hw] at hcall
  exact points_of_call? hsteady hcall

end Turtle
end PlantGrammar
