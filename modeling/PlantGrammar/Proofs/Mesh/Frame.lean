import Mathlib.Data.List.Basic
import PlantGrammar.Mesh.Point

/-! # Segments with a direction

Two points are apart when their distance is finite and not zero. A segment has a frame just when its
end points are apart, however many coordinates they came with.
-/
namespace PlantGrammar

/-- The plane point that coordinates stand for: the first two, or one for both. -/
def Coordinates.spread (p : Coordinates) : Except Fault Vec := p.leading >>= Vec.ofSpread

theorem Coordinates.take_of_leading {c : Coordinates} {xs : List Float} (h : c.leading = .ok xs) :
    xs.take 2 = xs := by
  cases c with
  | bare x => cases h
  | items ys =>
    cases h
    rw [List.take_take, Nat.min_self]

namespace Vec

/-- The distance between two points is neither zero nor infinite nor NaN. -/
def Apart (p q : Vec) : Prop :=
  (Number.hypotenuse (q.x - p.x) (q.y - p.y)).isFinite = true ∧
    (Number.hypotenuse (q.x - p.x) (q.y - p.y) == 0) = false

instance (p q : Vec) : Decidable (Apart p q) := by unfold Apart; infer_instance

theorem not_apart_iff {p q : Vec} : ¬ p.Apart q ↔
    (!(Number.hypotenuse (q.x - p.x) (q.y - p.y)).isFinite ||
      Number.hypotenuse (q.x - p.x) (q.y - p.y) == 0) = true := by
  unfold Apart
  cases (Number.hypotenuse (q.x - p.x) (q.y - p.y)).isFinite <;> simp

theorem ofSpread_of_ofPair {xs : List Float} {p : Vec} (h : ofPair xs = .ok p) :
    ofSpread xs = .ok p := by
  unfold ofPair at h
  split at h
  · exact h
  · cases h

theorem spread_of_ofPoint {c : Coordinates} {p : Vec} (h : ofPoint c = .ok p) : c.spread = .ok p := by
  obtain ⟨xs, hxs, hp⟩ := bind_eq_ok.mp h
  exact bind_eq_ok.mpr ⟨xs, hxs, ofSpread_of_ofPair hp⟩

end Vec

theorem map_eq_pair {f : Float → Float} {xs : List Float} {a b : Float} (h : xs.map f = [a, b]) :
    ∃ u v, xs = [u, v] ∧ a = f u ∧ b = f v := by
  obtain ⟨u, us, rfl, hu, h⟩ := List.map_eq_cons_iff.mp h
  obtain ⟨v, vs, rfl, hv, h⟩ := List.map_eq_cons_iff.mp h
  obtain rfl := List.map_eq_nil_iff.mp h
  exact ⟨u, v, rfl, hu.symm, hv.symm⟩

/-- Only two pairs, or a pair and a single number, have a difference of two coordinates. -/
theorem difference_eq_pair {xs ys : List Float} {dx dy : Float}
    (h : difference xs ys = .ok [dx, dy]) : ∃ p q, Vec.ofSpread ys = .ok p ∧
      Vec.ofSpread xs = .ok q ∧ dx = q.x - p.x ∧ dy = q.y - p.y := by
  unfold difference at h
  split at h
  · obtain ⟨u, v, rfl, hx, hy⟩ := map_eq_pair (Except.ok.inj h)
    exact ⟨_, _, rfl, rfl, hx, hy⟩
  · obtain ⟨u, v, rfl, hx, hy⟩ := map_eq_pair (Except.ok.inj h)
    exact ⟨_, _, rfl, rfl, hx, hy⟩
  · split at h
    · rename_i hlen
      have hl := congrArg List.length (Except.ok.inj h)
      rw [List.length_zipWith, hlen, Nat.min_self] at hl
      obtain ⟨u, v, rfl⟩ := List.length_eq_two.mp hl
      obtain ⟨a, b, rfl⟩ := List.length_eq_two.mp (hlen.trans hl)
      cases h
      exact ⟨_, _, rfl, rfl, rfl, rfl⟩
    · cases h

namespace Frame

/-- The frame of the segment between two points. -/
def between (p q : Vec) : Frame :=
  let length := Number.hypotenuse (q.x - p.x) (q.y - p.y)
  let direction : Vec := ⟨(q.x - p.x) / length, (q.y - p.y) / length⟩
  ⟨[p.x, p.y], p, direction, ⟨-direction.y, direction.x⟩, length⟩

theorem of_eq_ok {start finish : Coordinates} {f? : Option Frame} (h : of start finish = .ok f?) :
    ∃ p q, start.spread = .ok p ∧ finish.spread = .ok q ∧
      if p.Apart q then ∃ base, start.leading = .ok base ∧ f? = some { between p q with base }
      else f? = none := by
  unfold of at h
  obtain ⟨base, hb, h⟩ := bind_eq_ok.mp h
  obtain ⟨end', he, h⟩ := bind_eq_ok.mp h
  obtain ⟨d, hd, h⟩ := bind_eq_ok.mp h
  split at h
  · rename_i dx dy
    obtain ⟨p, q, hp, hq, rfl, rfl⟩ := difference_eq_pair hd
    refine ⟨p, q, bind_eq_ok.mpr ⟨base, hb, hp⟩, bind_eq_ok.mpr ⟨end', he, hq⟩, ?_⟩
    by_cases hpq : p.Apart q
    · rw [if_pos hpq]
      rw [if_neg (fun hn => Vec.not_apart_iff.mpr hn hpq), hp] at h
      cases h
      exact ⟨base, hb, rfl⟩
    · rw [if_neg hpq]
      rw [if_pos (Vec.not_apart_iff.mp hpq)] at h
      cases h
      rfl
  · cases h

/-- A first point of two coordinates is the origin. -/
theorem tail_eq_origin {start finish : Coordinates} {f : Frame} {tail : Vec}
    (h : of start finish = .ok (some f)) (ht : Vec.ofPoint (.items f.base) = .ok tail) :
    tail = f.origin := by
  obtain ⟨p, q, hp, -, hf⟩ := of_eq_ok h
  by_cases hpq : p.Apart q
  · rw [if_pos hpq] at hf
    obtain ⟨base, hb, hf⟩ := hf
    obtain rfl := Option.some.inj hf
    obtain ⟨xs, hxs, hp⟩ := bind_eq_ok.mp hp
    obtain rfl := Except.ok.inj (hxs.symm.trans hb)
    have hs : Vec.ofSpread (xs.take 2) = .ok tail := Vec.spread_of_ofPoint ht
    rw [Coordinates.take_of_leading hxs] at hs
    exact Except.ok.inj (hs.symm.trans hp)
  · rw [if_neg hpq] at hf
    cases hf

end Frame
end PlantGrammar
