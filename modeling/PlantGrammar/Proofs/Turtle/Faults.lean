import PlantGrammar.Proofs.Turtle.Registries
import PlantGrammar.Proofs.Turtle.Steady

/-! # What stops a walk

A turtle that starts at a point stops at the first step forward that it would have to take at an
infinite angle, and nowhere else. The angle at a symbol is told by the path of the symbols before it.
An interpreter that has been stopped walks the next text as if it had never walked before.
-/
namespace PlantGrammar
open Number

theorem isInf_radians_of_isNaN {angle : Float} (h : angle.isNaN = true) :
    (radians angle).isInf = false := by
  rw [eq_nan_of_isNaN h]
  rfl

namespace Turtle
open Brackets
variable {t : Turtle} {registry : Registry} {symbols p u v : List String} {c : String} {w w' : Walk}
  {d e : Cursor} {fault : Fault} {i : ℕ}

/-- What a symbol does to an angle. -/
def turn (t : Turtle) (angle : Float) (symbol : String) : Float :=
  match Command.ofSymbol symbol with
  | .turnLeft => angle + t.deltaAngle
  | .turnRight => angle - t.deltaAngle
  | .forward | .push | .pop | .other => angle

/-- The angle to which the turns of a path lead. -/
def bearing (t : Turtle) (path : List String) : Float := path.foldl t.turn t.start.angle

/-- At this position stands a step forward, and the angle there is infinite. -/
def Blocked (t : Turtle) (symbols : List String) (i : ℕ) : Prop :=
  symbols[i]?.any isForward = true ∧ (radians (t.bearing (path (symbols.take i)))).isInf = true

instance (t : Turtle) (symbols : List String) (i : ℕ) : Decidable (t.Blocked symbols i) := by
  unfold Blocked; infer_instance

theorem turn_of_steer (h : t.steer d c = .ok e) (hp : IsPoint d.position) :
    e.angle = t.turn d.angle c ∧ IsPoint e.position := by
  unfold steer at h
  unfold turn
  cases hk : Command.ofSymbol c with
  | forward =>
    simp only [hk] at h
    cases hinf : (radians d.angle).isInf with
    | true =>
      rw [advance_of_isInf t hinf] at h
      cases h
    | false =>
      obtain ⟨d', hd, hp', hangle⟩ := exists_advance_of_isPoint t hp hinf
      obtain rfl := Except.ok.inj (h.symm.trans hd)
      exact ⟨hangle, hp'⟩
  | turnLeft | turnRight | push | pop | other =>
    simp only [hk] at h
    cases h
    exact ⟨rfl, hp⟩

theorem turn_of_foldlM_steer (h : p.foldlM t.steer d = .ok e) (hp : IsPoint d.position) :
    e.angle = p.foldl t.turn d.angle ∧ IsPoint e.position := by
  induction p generalizing d with
  | nil =>
    cases h
    exact ⟨rfl, hp⟩
  | cons c rest ih =>
    rw [List.foldlM_cons] at h
    obtain ⟨f, hf, h⟩ := bind_eq_ok.mp h
    obtain ⟨hangle, hf'⟩ := turn_of_steer hf hp
    rw [List.foldl_cons, ← hangle]
    exact ih h hf'

/-- Wherever a walk gets, its cursor is at a point and has the angle of the path. -/
theorem bearing_of_after (hp : IsPoint t.start.position) (h : t.after u = .ok w) :
    w.cursor.angle = t.bearing (path u) ∧ IsPoint w.cursor.position :=
  turn_of_foldlM_steer (onPath_after h).cursor hp

theorem exists_step_of_not_forward (t : Turtle) (w : Walk) (hc : isForward c = false) :
    ∃ w', t.step w c = .ok w' := by
  unfold step
  cases hk : Command.ofSymbol c with
  | forward => exact absurd hk (of_decide_eq_false hc)
  | pop => cases hs : w.saved <;> exact ⟨_, rfl⟩
  | turnLeft | turnRight | push | other => exact ⟨_, rfl⟩

theorem step_of_forward (t : Turtle) (w : Walk) (hc : isForward c = true) :
    t.step w c = (fun cursor => { w with
      cursor, lastPosition := w.cursor.position, lastWidth := w.cursor.width }) <$>
        t.advance w.cursor := by
  unfold step
  rw [of_decide_eq_true hc]
  rfl

theorem exists_step_of_not_isInf (hp : IsPoint w.cursor.position)
    (h : (radians w.cursor.angle).isInf = false) (c : String) : ∃ w', t.step w c = .ok w' := by
  cases hc : isForward c with
  | true =>
    obtain ⟨d, hd, -⟩ := exists_advance_of_isPoint t hp h
    exact ⟨_, by rw [step_of_forward t w hc, hd]; rfl⟩
  | false => exact exists_step_of_not_forward t w hc

theorem step_of_blocked (hp : IsPoint t.start.position) (h : t.after (symbols.take i) = .ok w)
    (hb : t.Blocked symbols i) : ∃ c, symbols[i]? = some c ∧ t.step w c = .error .infiniteAngle := by
  obtain ⟨hforward, hinf⟩ := hb
  obtain ⟨c, hc, hforward⟩ := (Option.any_eq_true _ _).mp hforward
  rw [← (bearing_of_after hp h).1] at hinf
  exact ⟨c, hc, by rw [step_of_forward t w hforward, advance_of_isInf t hinf]; rfl⟩

theorem exists_step_of_not_blocked (hp : IsPoint t.start.position)
    (h : t.after (symbols.take i) = .ok w) (hb : ¬ t.Blocked symbols i) (hc : symbols[i]? = some c) :
    ∃ w', t.step w c = .ok w' := by
  obtain ⟨hangle, hpoint⟩ := bearing_of_after hp h
  cases hforward : isForward c with
  | false => exact exists_step_of_not_forward t w hforward
  | true =>
    refine exists_step_of_not_isInf hpoint (Bool.eq_false_iff.mpr fun hinf => hb ⟨?_, ?_⟩) c
    · rw [hc]
      exact hforward
    · rwa [← hangle]

/-- Before the first blocked symbol nothing stops a walk. By induction on the symbols taken. -/
theorem exists_after_of_not_blocked (hp : IsPoint t.start.position)
    (hb : ∀ j < i, ¬ t.Blocked symbols j) : ∃ w, t.after (symbols.take i) = .ok w := by
  induction i with
  | zero => exact ⟨t.begin, rfl⟩
  | succ i ih =>
    obtain ⟨w, hw⟩ := ih fun j hj => hb j (Nat.lt_succ_of_lt hj)
    cases hc : symbols[i]? with
    | none => exact ⟨w, by rwa [List.take_add_one, hc, Option.toList_none, List.append_nil]⟩
    | some c =>
      rw [after_take_succ hw hc]
      exact exists_step_of_not_blocked hp hw (hb i (Nat.lt_succ_self i)) hc

theorem not_blocked_of_after (hp : IsPoint t.start.position) (h : t.after symbols = .ok w) (i : ℕ) :
    ¬ t.Blocked symbols i := by
  intro hb
  obtain ⟨v, hv⟩ := exists_after_take h i
  obtain ⟨v', hv'⟩ := exists_after_take h (i + 1)
  obtain ⟨c, hc, hstep⟩ := step_of_blocked hp hv hb
  rw [after_take_succ hv hc, hstep] at hv'
  cases hv'

theorem walk_fault_eq_none_iff_not_blocked (hp : IsPoint t.start.position) :
    (t.walk registry symbols).fault? = none ↔ ∀ i, ¬ t.Blocked symbols i := by
  rw [walk_fault_eq_none_iff]
  constructor
  · rintro ⟨w, hw⟩
    exact not_blocked_of_after hp hw
  · intro hb
    obtain ⟨w, hw⟩ := exists_after_of_not_blocked (i := symbols.length) hp fun j _ => hb j
    exact ⟨w, by rwa [List.take_length] at hw⟩

theorem resume_append (h : u.foldlM t.step w = .ok w') (registry : Registry) (v : List String)
    (calls : Array Call) : t.resume registry w (u ++ v) calls =
      t.resume registry w' v (t.resume registry w u calls).calls := by
  induction u generalizing w calls with
  | nil =>
    cases h
    rfl
  | cons c rest ih =>
    rw [List.foldlM_cons] at h
    obtain ⟨b, hb, h⟩ := bind_eq_ok.mp h
    rw [List.cons_append, resume_of_ok hb, resume_of_ok hb, ih h]

/-- A walk that cannot take a symbol has made the calls of the symbols before it. -/
theorem walk_of_step_error (h : t.after u = .ok w) (hs : t.step w c = .error fault)
    (registry : Registry) (v : List String) :
    t.walk registry (u ++ c :: v) = ⟨(t.walk registry u).calls, some fault⟩ := by
  rw [walk, resume_append h, resume_of_error hs]
  rfl

/-- The first blocked symbol stops a walk, in every text that agrees with this one so far. -/
theorem walk_of_first_blocked (hp : IsPoint t.start.position) (registry : Registry)
    (hb : t.Blocked symbols i) (hfirst : ∀ j < i, ¬ t.Blocked symbols j) {n : ℕ} (hn : i < n) :
    t.walk registry (symbols.take n) =
      ⟨(t.walk registry (symbols.take i)).calls, some .infiniteAngle⟩ := by
  obtain ⟨w, hw⟩ := exists_after_of_not_blocked hp hfirst
  obtain ⟨c, hc, hstep⟩ := step_of_blocked hp hw hb
  have hsplit : symbols.take n = symbols.take i ++ c :: (symbols.take n).drop (i + 1) := by
    have hget : (symbols.take n)[i]? = some c := by rw [List.getElem?_take_of_lt hn, hc]
    have hcons := eq_take_cons_drop hget
    rwa [List.take_take, Nat.min_eq_left hn.le] at hcons
  rw [hsplit, walk_of_step_error hw hstep]

theorem stopsAt_of_first_blocked (hp : IsPoint t.start.position) (registry : Registry)
    (hb : t.Blocked symbols i) (hfirst : ∀ j < i, ¬ t.Blocked symbols j) :
    t.StopsAt registry symbols i .infiniteAngle := by
  obtain ⟨w, hw⟩ := exists_after_of_not_blocked hp hfirst
  obtain ⟨c, hc, -⟩ := step_of_blocked hp hw hb
  refine ⟨(List.getElem?_eq_some_iff.mp hc).1, walk_fault_eq_none_iff.mpr ⟨w, hw⟩, fun n hn => ?_⟩
  rw [walk_of_first_blocked hp registry hb hfirst hn]

theorem exists_first_blocked (h : ∃ i, t.Blocked symbols i) :
    ∃ i, t.Blocked symbols i ∧ ∀ j < i, ¬ t.Blocked symbols j :=
  ⟨Nat.find h, Nat.find_spec h, fun _ => Nat.find_min h⟩

theorem walk_fault_eq_some_iff_blocked (hp : IsPoint t.start.position) :
    (t.walk registry symbols).fault? = some .infiniteAngle ↔ ∃ i, t.Blocked symbols i := by
  constructor
  · intro h
    by_contra hnone
    rw [(walk_fault_eq_none_iff_not_blocked hp).mpr (not_exists.mp hnone)] at h
    cases h
  · intro h
    obtain ⟨i, hb, hfirst⟩ := exists_first_blocked h
    have hstops := stopsAt_of_first_blocked hp registry hb hfirst
    have hfault := hstops.fault_eq symbols.length hstops.lt_length
    rwa [List.take_length] at hfault

end Turtle

/-- An interpreter holds its settings, the registered symbols, and what its last walk has left. -/
structure Interpreter where
  turtle : Turtle
  registry : Registry
  walk : Walk
  calls : Array Call

namespace Interpreter

/-- Take one symbol and report it. A fault leaves the interpreter where it stands. -/
def visit (symbol : String) : EStateM Fault Interpreter Unit := fun s =>
  match s.turtle.step s.walk symbol with
  | .ok w => .ok () { s with walk := w, calls := s.calls ++ (Turtle.call? s.registry w symbol).toArray }
  | .error fault => .error fault s

def interpret (symbols : List String) : EStateM Fault Interpreter Unit := do
  modify fun s => { s with walk := s.turtle.begin, calls := #[] }
  symbols.forM visit

def traceOf : EStateM.Result Fault Interpreter Unit → Trace
  | .ok _ s => ⟨s.calls, none⟩
  | .error fault s => ⟨s.calls, some fault⟩

def leftBy : EStateM.Result Fault Interpreter Unit → Interpreter
  | .ok _ s => s
  | .error _ s => s

/-- What is left of an interpreter by some texts, whether their walks got to the end or not. -/
def afterAll (s : Interpreter) (texts : List (List String)) : Interpreter :=
  texts.foldl (fun s symbols => leftBy (interpret symbols s)) s

theorem forM_visit (symbols : List String) (s : Interpreter) :
    traceOf (symbols.forM visit s) = s.turtle.resume s.registry s.walk symbols s.calls ∧
      (leftBy (symbols.forM visit s)).turtle = s.turtle ∧
      (leftBy (symbols.forM visit s)).registry = s.registry := by
  induction symbols generalizing s with
  | nil => exact ⟨rfl, rfl, rfl⟩
  | cons c rest ih =>
    change traceOf (EStateM.bind (visit c) (fun _ => rest.forM visit) s) = _ ∧
      (leftBy (EStateM.bind (visit c) (fun _ => rest.forM visit) s)).turtle = _ ∧
      (leftBy (EStateM.bind (visit c) (fun _ => rest.forM visit) s)).registry = _
    cases hs : s.turtle.step s.walk c with
    | ok w =>
      have hvisit : visit c s = .ok () { s with
          walk := w, calls := s.calls ++ (Turtle.call? s.registry w c).toArray } := by
        simp only [visit, hs]
      simp only [EStateM.bind, hvisit]
      rw [Turtle.resume_of_ok hs]
      exact ih _
    | error fault =>
      have hvisit : visit c s = .error fault s := by simp only [visit, hs]
      simp only [EStateM.bind, hvisit]
      rw [Turtle.resume_of_error hs]
      exact ⟨rfl, rfl, rfl⟩

/-- Whatever walk an interpreter was on, it makes the walk of a fresh turtle, and keeps its settings
and its registered symbols. -/
theorem interpret_eq (symbols : List String) (s : Interpreter) :
    traceOf (interpret symbols s) = s.turtle.walk s.registry symbols ∧
      (leftBy (interpret symbols s)).turtle = s.turtle ∧
      (leftBy (interpret symbols s)).registry = s.registry :=
  forM_visit symbols { s with walk := s.turtle.begin, calls := #[] }

theorem afterAll_eq (texts : List (List String)) (s : Interpreter) :
    (s.afterAll texts).turtle = s.turtle ∧ (s.afterAll texts).registry = s.registry := by
  induction texts generalizing s with
  | nil => exact ⟨rfl, rfl⟩
  | cons symbols rest ih =>
    obtain ⟨-, ht, hr⟩ := interpret_eq symbols s
    obtain ⟨hturtle, hregistry⟩ := ih (leftBy (interpret symbols s))
    exact ⟨hturtle.trans ht, hregistry.trans hr⟩

end Interpreter

namespace Turtle
open Brackets

/-- From a point, a walk fails just when a step forward stands at an infinite angle. The first such
step stops it, and the calls are those of the symbols before. No other symbol fails, whatever numbers
the walk holds, and neither does an angle that is no number. An interpreter keeps its settings and its
registered symbols through all this, and its next walk is that of a fresh turtle. -/
theorem walk_fails_at_infinite_angle (t : Turtle) (hp : IsPoint t.start.position)
    (registry : Registry) (symbols : List String) :
    (((t.walk registry symbols).fault? = none ↔ ∀ i, ¬ t.Blocked symbols i) ∧
      ((t.walk registry symbols).fault? = some .infiniteAngle ↔ ∃ i, t.Blocked symbols i)) ∧
    (∀ i, t.Blocked symbols i → (∀ j < i, ¬ t.Blocked symbols j) →
      t.StopsAt registry symbols i .infiniteAngle ∧
      (t.walk registry symbols).calls = (t.walk registry (symbols.take i)).calls) ∧
    (∀ i w, t.after (symbols.take i) = .ok w → w.cursor.angle = t.bearing (path (symbols.take i))) ∧
    (∀ w c, isForward c = false → ∃ w', t.step w c = .ok w') ∧
    (∀ w c, IsPoint w.cursor.position → w.cursor.angle.isNaN = true → ∃ w', t.step w c = .ok w') ∧
    ∀ left made texts, ∃ s, s = (Interpreter.mk t registry left made).afterAll texts ∧
      s.turtle = t ∧ s.registry = registry ∧
      Interpreter.traceOf (Interpreter.interpret symbols s) = t.walk registry symbols := by
  refine ⟨⟨walk_fault_eq_none_iff_not_blocked hp, walk_fault_eq_some_iff_blocked hp⟩, ?_,
    fun i w hw => (bearing_of_after hp hw).1, fun w c => exists_step_of_not_forward t w,
    fun w c hw hnan => exists_step_of_not_isInf hw (isInf_radians_of_isNaN hnan) c, ?_⟩
  · intro i hb hfirst
    have hstops := stopsAt_of_first_blocked hp registry hb hfirst
    have hwalk := walk_of_first_blocked hp registry hb hfirst hstops.lt_length
    rw [List.take_length] at hwalk
    exact ⟨hstops, by rw [hwalk]⟩
  · intro left made texts
    obtain ⟨ht, hr⟩ := Interpreter.afterAll_eq texts ⟨t, registry, left, made⟩
    have htrace := (Interpreter.interpret_eq symbols
      (Interpreter.afterAll ⟨t, registry, left, made⟩ texts)).1
    rw [ht, hr] at htrace
    exact ⟨_, rfl, ht, hr, htrace⟩

/-- The first infinite angle is dropped by a bracket before a step is due. -/
theorem walk_fails_after_second_turn : ∃ t : Turtle,
    t = ⟨⟨[0, 0], 90, 2, 10⟩, 1 / 0, ⟨.geometric, 0.5⟩, .still⟩ ∧ IsPoint t.start.position ∧
    t.Blocked ["F", "[", "-", "]", "F", "-", "L", "F", "F"] 7 ∧
    (∀ j < 7, ¬ t.Blocked ["F", "[", "-", "]", "F", "-", "L", "F", "F"] j) ∧
    t.StopsAt (.ofList [("F", "bough"), ("L", "leaf")])
      ["F", "[", "-", "]", "F", "-", "L", "F", "F"] 7 .infiniteAngle := by
  have hp : IsPoint [0, 0] := ⟨0, 0, rfl⟩
  have hb : Blocked ⟨⟨[0, 0], 90, 2, 10⟩, 1 / 0, ⟨.geometric, 0.5⟩, .still⟩
      ["F", "[", "-", "]", "F", "-", "L", "F", "F"] 7 := by decide
  have hfirst : ∀ j < 7, ¬ Blocked ⟨⟨[0, 0], 90, 2, 10⟩, 1 / 0, ⟨.geometric, 0.5⟩, .still⟩
      ["F", "[", "-", "]", "F", "-", "L", "F", "F"] j := by decide
  exact ⟨_, rfl, hp, hb, hfirst, ((walk_fails_at_infinite_angle _ hp _ _).2.1 7 hb hfirst).1⟩

end Turtle
end PlantGrammar
