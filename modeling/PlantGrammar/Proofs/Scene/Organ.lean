import PlantGrammar.Proofs.Mesh.Emission
import PlantGrammar.Scene.Organ

/-! # What an organ draws

An organ adds one shape to the mesh: a quad, a box, a kite or a star with a disc. Branches and kites
on points that are not apart add nothing. Only a box takes a number from the generator.
-/
namespace PlantGrammar

/-- The segment that a walk reports, from the start of its last step forward to the cursor. -/
def Walk.stem (w : Walk) : Stem :=
  ⟨.items w.lastPosition, w.lastWidth, .items w.cursor.position, w.cursor.width⟩

namespace Generator

/-- The generator after so many draws. -/
def skip (g : Generator) : ℕ → Generator
  | 0 => g
  | k + 1 => (g.skip k).nextFloat.2

/-- The number drawn after so many others. -/
def draw (g : Generator) (k : ℕ) : Float := (g.skip k).nextFloat.1

theorem skip_add (g : Generator) (k d : ℕ) : (g.skip k).skip d = g.skip (k + d) := by
  induction d with
  | zero => rfl
  | succ d ih => exact congrArg (fun g => g.nextFloat.2) ih

end Generator

namespace Painting
variable {c c' : Canvas}

theorem of_shape_emit_eq_ok {shape : Except Fault Mesh}
    (h : Painting.shape (.emit shape) c = .ok () c') :
    ∃ n, shape = .ok n ∧ c' = { c with mesh := c.mesh.append n } := by
  cases shape with
  | error fault => cases h
  | ok n =>
    cases h
    exact ⟨n, rfl, rfl⟩

end Painting

namespace Organ
variable {settings : Settings} {look : Appearance} {stem : Stem} {rotation : Float} {n : Mesh}
  {w : Walk} {c c' : Canvas}

/-- The tip of a leaf of some length, on the ray from one point through another. -/
def tip (p q : Vec) (length : Float) : Vec := p.add ((Frame.between p q).direction.scale length)

/-- The shape that an organ adds on a stem. The rotation is for boxes. -/
inductive Grows (settings : Settings) (look : Appearance) (stem : Stem) (rotation : Float) :
    Organ → Mesh → Prop
  | quad {p q : Vec} {color : ℤ} (start : stem.start.spread = .ok p)
      (finish : stem.finish.spread = .ok q) (apart : p.Apart q)
      (packed : Color.pack look.branchColor = .ok color) :
      Grows settings look stem rotation .branch
        (.quad (.between p q) stem.startWidth stem.finishWidth settings.branchDepth color)
  | noQuad {p q : Vec} (start : stem.start.spread = .ok p) (finish : stem.finish.spread = .ok q)
      (near : ¬ p.Apart q) : Grows settings look stem rotation .branch .empty
  | box {p size : Vec} {color : ℤ} (mode : look.leafType = .box)
      (start : stem.start.spread = .ok p) (extent : (Coordinates.items look.leafSize).spread = .ok size)
      (packed : Color.pack look.leafColor = .ok color) :
      Grows settings look stem rotation .leaf (.box p size rotation settings.leafDepth color)
  | kite {p q : Vec} {width length : Float} {rest : List Float} {color : ℤ}
      (mode : look.leafType = .kite) (start : stem.start.spread = .ok p)
      (finish : stem.finish.spread = .ok q) (apart : p.Apart q)
      (size : look.leafSize = width :: length :: rest) (long : p.Apart (tip p q length))
      (packed : Color.pack look.leafColor = .ok color) :
      Grows settings look stem rotation .leaf
        (.kite (.between p (tip p q length)) width look.leafRatio settings.leafDepth color)
  | noKite {p q : Vec} (mode : look.leafType = .kite) (start : stem.start.spread = .ok p)
      (finish : stem.finish.spread = .ok q) (near : ¬ p.Apart q) :
      Grows settings look stem rotation .leaf .empty
  | shortKite {p q : Vec} {width length : Float} {rest : List Float} (mode : look.leafType = .kite)
      (start : stem.start.spread = .ok p) (finish : stem.finish.spread = .ok q) (apart : p.Apart q)
      (size : look.leafSize = width :: length :: rest) (short : ¬ p.Apart (tip p q length)) :
      Grows settings look stem rotation .leaf .empty
  | flower {p : Vec} {points segments : ℕ} {outer inner : ℤ} (finish : stem.finish.spread = .ok p)
      (points_eq : settings.starPoints = points) (segments_eq : settings.circleSegments = segments)
      (outer_packed : Color.pack look.flowerOuterColor = .ok outer)
      (inner_packed : Color.pack look.flowerInnerColor = .ok inner) :
      Grows settings look stem rotation .flower
        ((Mesh.star p look.flowerOuterRadius (look.flowerOuterRadius * settings.starInnerRatio) points
            settings.flowerOuterDepth outer).append
          (.disc p look.flowerInnerRadius segments settings.flowerInnerDepth inner))

theorem grows_of_lineShape (h : Drawing.lineShape stem.start stem.startWidth stem.finish
    stem.finishWidth settings.branchDepth look.branchColor = .ok n) :
    Grows settings look stem rotation .branch n := by
  obtain ⟨p, q, hp, hq, hcase⟩ := Drawing.lineShape_eq_ok h
  by_cases hpq : p.Apart q
  · rw [if_pos hpq] at hcase
    obtain ⟨color, hcolor, rfl⟩ := hcase
    exact .quad hp hq hpq hcolor
  · rw [if_neg hpq] at hcase
    subst hcase
    exact .noQuad hp hq hpq

theorem drawBranch_eq_ok (h : drawBranch settings look stem c = .ok () c') :
    ∃ n, Grows settings look stem rotation .branch n ∧ c' = { c with mesh := c.mesh.append n } := by
  unfold drawBranch at h
  rw [Drawing.line_eq_emit] at h
  obtain ⟨n, hn, rfl⟩ := Painting.of_shape_emit_eq_ok h
  exact ⟨n, grows_of_lineShape hn, rfl⟩

theorem grows_of_boxShape (mode : look.leafType = .box)
    (h : Drawing.boxShape stem.start (.items look.leafSize) rotation settings.leafDepth
      look.leafColor = .ok n) : Grows settings look stem rotation .leaf n := by
  obtain ⟨p, size, color, hp, hsize, hcolor, rfl⟩ := Drawing.boxShape_eq_ok h
  exact .box mode hp hsize hcolor

theorem spread_items_of_ofSpread {xs : List Float} {p : Vec} (h : Vec.ofSpread xs = .ok p) :
    (Coordinates.items xs).spread = .ok p := by
  have htake : xs.take 2 = xs := by
    unfold Vec.ofSpread at h
    split at h
    · rfl
    · rfl
    · cases h
  change Vec.ofSpread (xs.take 2) = _
  rw [htake, h]

/-- A tip is there just when the two ends of the stem are apart. -/
theorem leafTip?_eq_ok {tip? : Option Vec} (h : leafTip? look w.stem = .ok tip?) :
    ∃ p q, w.stem.start.spread = .ok p ∧ w.stem.finish.spread = .ok q ∧
      if p.Apart q then ∃ width length rest, look.leafSize = width :: length :: rest ∧
        tip? = some (tip p q length)
      else tip? = none := by
  obtain ⟨d, hd, h⟩ := bind_eq_ok.mp h
  split at h
  · rename_i dx dy
    obtain ⟨p, q, hp, hq, rfl, rfl⟩ := difference_eq_pair hd
    refine ⟨p, q, spread_items_of_ofSpread hp, spread_items_of_ofSpread hq, ?_⟩
    dsimp only at h
    rw [Bool.or_comm] at h
    by_cases hpq : p.Apart q
    · rw [if_pos hpq]
      rw [if_neg (fun hn => Vec.not_apart_iff.mpr hn hpq)] at h
      match hsize : look.leafSize with
      | [] | [_] =>
        rw [hsize] at h
        cases h
      | width :: length :: rest =>
        rw [hsize] at h
        change some <$> (Vec.add · _) <$> Vec.ofSpread w.lastPosition = _ at h
        rw [hp] at h
        cases h
        exact ⟨width, length, rest, rfl, rfl⟩
    · rw [if_neg hpq]
      rw [if_pos (Vec.not_apart_iff.mp hpq)] at h
      cases h
      rfl
  · cases h

theorem grows_of_kiteShape {p q : Vec} {width length : Float} {rest : List Float}
    (mode : look.leafType = .kite) (start : stem.start.spread = .ok p)
    (finish : stem.finish.spread = .ok q) (apart : p.Apart q)
    (size : look.leafSize = width :: length :: rest)
    (h : Drawing.kiteShape stem.start (tip p q length).coordinates (look.leafSize.headD 0)
      look.leafRatio settings.leafDepth look.leafColor = .ok n) :
    Grows settings look stem rotation .leaf n := by
  obtain ⟨p', t, hp, ht, hcase⟩ := Drawing.kiteShape_eq_ok h
  obtain rfl : p = p' := Except.ok.inj (start.symm.trans hp)
  obtain rfl : tip p q length = t := Except.ok.inj ht
  by_cases hpt : p.Apart (tip p q length)
  · rw [if_pos hpt] at hcase
    obtain ⟨color, hcolor, rfl⟩ := hcase
    rw [size]
    exact .kite mode start finish apart size hpt hcolor
  · rw [if_neg hpt] at hcase
    subst hcase
    exact .shortKite mode start finish apart size hpt

/-- How many numbers an organ takes from the generator. -/
def draws (look : Appearance) (organ : Organ) : ℕ := if organ = leaf ∧ look.leafType = .box then 1 else 0

theorem drawLeaf_eq_ok (h : drawLeaf settings look w.stem c = .ok () c') :
    ∃ n, Grows settings look w.stem (c.generator.draw 0) .leaf n ∧
      c' = ⟨c.generator.skip (draws look .leaf), c.mesh.append n⟩ := by
  unfold drawLeaf at h
  cases hmode : look.leafType with
  | box =>
    rw [hmode] at h
    obtain ⟨r, c₁, hr, h⟩ := of_bind_eq_ok h
    cases hr
    rw [Drawing.box_eq_emit] at h
    obtain ⟨n, hn, rfl⟩ := Painting.of_shape_emit_eq_ok h
    refine ⟨n, grows_of_boxShape hmode hn, ?_⟩
    rw [draws, if_pos ⟨rfl, hmode⟩]
    rfl
  | kite =>
    have hdraws : draws look .leaf = 0 := if_neg fun hn => by simp [hmode] at hn
    rw [hmode] at h
    rw [hdraws]
    dsimp only at h
    cases htip : leafTip? look w.stem with
    | error fault =>
      rw [htip] at h
      cases h
    | ok tip? =>
      rw [htip] at h
      obtain ⟨p, q, hp, hq, hcase⟩ := leafTip?_eq_ok htip
      by_cases hpq : p.Apart q
      · rw [if_pos hpq] at hcase
        obtain ⟨width, length, rest, hsize, rfl⟩ := hcase
        change Painting.shape (.kite _ _ _ _ _ _) c = _ at h
        rw [Drawing.kite_eq_emit] at h
        obtain ⟨n, hn, rfl⟩ := Painting.of_shape_emit_eq_ok h
        exact ⟨n, grows_of_kiteShape hmode hp hq hpq hsize hn, rfl⟩
      · rw [if_neg hpq] at hcase
        subst hcase
        cases h
        exact ⟨.empty, .noKite hmode hp hq hpq, congrArg (Canvas.mk c.generator) (Mesh.append_empty _).symm⟩

theorem drawFlower_eq_ok (h : drawFlower settings look stem c = .ok () c') :
    ∃ n, Grows settings look stem rotation .flower n ∧ c' = { c with mesh := c.mesh.append n } := by
  obtain ⟨⟨⟩, c₁, hstar, hdisc⟩ := of_bind_eq_ok h
  rw [Drawing.star_eq_emit] at hstar
  rw [Drawing.disc_eq_emit] at hdisc
  obtain ⟨a, ha, rfl⟩ := Painting.of_shape_emit_eq_ok hstar
  obtain ⟨b, hb, rfl⟩ := Painting.of_shape_emit_eq_ok hdisc
  obtain ⟨p, outer, points, hpoints, hp, houter, rfl⟩ := Drawing.starShape_eq_ok ha
  obtain ⟨p', inner, segments, hsegments, hp', hinner, rfl⟩ := Drawing.discShape_eq_ok hb
  obtain rfl : p = p' := Except.ok.inj (hp.symm.trans hp')
  refine ⟨_, .flower hp hpoints hsegments houter hinner, ?_⟩
  exact congrArg (Canvas.mk c.generator) (Mesh.append_assoc ..)

/-- An organ that is drawn adds its shape and takes its numbers. -/
theorem draw_eq_ok {organ : Organ} (h : organ.draw settings look w.stem c = .ok () c') :
    ∃ n, Grows settings look w.stem (c.generator.draw 0) organ n ∧
      c' = ⟨c.generator.skip (draws look organ), c.mesh.append n⟩ := by
  cases organ with
  | branch => exact drawBranch_eq_ok h
  | leaf => exact drawLeaf_eq_ok h
  | flower => exact drawFlower_eq_ok h

/-- Only boxes are turned. -/
theorem Grows.turn {organ : Organ} (h : Grows settings look stem rotation organ n)
    (mode : look.leafType ≠ .box) (r : Float) : Grows settings look stem r organ n := by
  cases h with
  | quad start finish apart packed => exact .quad start finish apart packed
  | noQuad start finish near => exact .noQuad start finish near
  | box hbox => exact absurd hbox mode
  | kite mode start finish apart size long packed =>
    exact .kite mode start finish apart size long packed
  | noKite mode start finish near => exact .noKite mode start finish near
  | shortKite mode start finish apart size short =>
    exact .shortKite mode start finish apart size short
  | flower finish hpoints hsegments houter hinner =>
    exact .flower finish hpoints hsegments houter hinner

/-- The shape of an organ is determined. -/
theorem Grows.unique {organ : Organ} {m : Mesh} (h : Grows settings look stem rotation organ m)
    (h' : Grows settings look stem rotation organ n) : m = n := by
  cases h with
  | flower finish hpoints hsegments houter hinner =>
    cases h' with
    | flower finish' hpoints' hsegments' houter' hinner' =>
      obtain rfl := Except.ok.inj (finish.symm.trans finish')
      obtain rfl := Int.ofNat.inj (hpoints.symm.trans hpoints')
      obtain rfl := Int.ofNat.inj (hsegments.symm.trans hsegments')
      obtain rfl := Except.ok.inj (houter.symm.trans houter')
      obtain rfl := Except.ok.inj (hinner.symm.trans hinner')
      rfl
  | _ => cases h' <;> simp_all

/-- Branches and leaves that are drawn have four vertices and two triangles. -/
theorem Grows.counts_of_ne_empty {organ : Organ} (h : Grows settings look stem rotation organ n)
    (ho : organ ≠ .flower) (hn : n ≠ .empty) : n.Counts 4 2 := by
  cases h with
  | quad => exact Mesh.counts_quad ..
  | box => exact Mesh.counts_box ..
  | kite => exact Mesh.counts_kite ..
  | noQuad => exact absurd rfl hn
  | noKite => exact absurd rfl hn
  | shortKite => exact absurd rfl hn
  | flower => exact absurd rfl ho

theorem Grows.counts_flower (h : Grows settings look stem rotation .flower n) :
    ∃ points segments : ℕ, settings.starPoints = points ∧ settings.circleSegments = segments ∧
      n.Counts (2 * points + segments + 2) (2 * points + segments) := by
  cases h with
  | @flower p points segments outer inner _ hpoints hsegments _ _ =>
    refine ⟨points, segments, hpoints, hsegments, ?_⟩
    have h := (Mesh.counts_star p look.flowerOuterRadius
      (look.flowerOuterRadius * settings.starInnerRatio) points settings.flowerOuterDepth outer).append
      (Mesh.counts_disc p look.flowerInnerRadius segments settings.flowerInnerDepth inner)
    have hv : 2 * points + 1 + (segments + 1) = 2 * points + segments + 2 := by omega
    rwa [hv] at h

end Organ
end PlantGrammar
