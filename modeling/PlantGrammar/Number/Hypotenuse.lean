import PlantGrammar.Number.Binary

/-! # Length of a plane vector

Very long and very short vectors are scaled by a power of two, so no square overflows or vanishes.
One corrective step follows the square root.
-/
namespace PlantGrammar.Number

def powerOfTwo (e : Int) : Float := Float.ofBits (UInt64.ofNat ((e + 1023).toNat * exponentWeight))

/-- Length for `0 ≤ y ≤ x` when the squares stay in range. -/
def plainHypotenuse (x y : Float) : Float :=
  let h := (x * x + y * y).sqrt
  let (s, t) :=
    if h ≤ 2 * y then
      let d := h - y
      (x * (2 * d - x), (d - 2 * (x - y)) * d)
    else
      let d := h - x
      (2 * d * (x - 2 * y), (4 * d - y) * y + d * d)
  h - (s + t) / (2 * h)

/-- Length for `0 ≤ y ≤ x`. A component too small to matter is only added. -/
def orderedHypotenuse (x y : Float) : Float :=
  if y ≤ x * powerOfTwo (-54) then x + y
  else if powerOfTwo 511 < x then
    plainHypotenuse (x * powerOfTwo (-600)) (y * powerOfTwo (-600)) * powerOfTwo 600
  else if y < powerOfTwo (-459) then
    plainHypotenuse (x * powerOfTwo 600) (y * powerOfTwo 600) * powerOfTwo (-600)
  else plainHypotenuse x y

/-- Length of the vector with components `a` and `b`. One infinite component makes it infinite. -/
def hypotenuse (a b : Float) : Float :=
  if a.isInf || b.isInf then 1 / 0
  else if a.isNaN || b.isNaN then 0 / 0
  else if a.abs < b.abs then orderedHypotenuse b.abs a.abs
  else orderedHypotenuse a.abs b.abs

end PlantGrammar.Number
