import PlantGrammar.Proofs.Turtle.Path

/-! # Every report starts where the turtle has been

When both forward symbols are registered, each point that a walk can go back to is the start or the
end of a step forward that was reported. This holds of the cursor, of all saved cursors and of the
start of the last segment, so it holds of the start of every report.
-/
namespace PlantGrammar

theorem Command.forward_iff {c : String} :
    ofSymbol c = forward ↔ c = drawSymbol ∨ c = moveSymbol := by
  unfold ofSymbol
  split_ifs with h <;> simpa using h

namespace Turtle
variable {t : Turtle} {registry : Registry} {calls : List Call} {w w' : Walk} {c : String}
  {p : List Float} {width : Float}

/-- A point and a width at which the walk began, or at which a reported step forward ended. -/
def Visited (t : Turtle) (calls : List Call) (p : List Float) (width : Float) : Prop :=
  (p = t.start.position ∧ width = t.start.width) ∨
    ∃ c ∈ calls, isForward c.symbol = true ∧ c.finish = p ∧ c.finishWidth = width

theorem Visited.append (h : t.Visited calls p width) (more : List Call) :
    t.Visited (calls ++ more) p width := by
  rcases h with h | ⟨c, hc, h⟩
  · exact .inl h
  · exact .inr ⟨c, List.mem_append_left more hc, h⟩

/-- All points that the walk may still report as a start. -/
structure Anchored (t : Turtle) (calls : List Call) (w : Walk) : Prop where
  cursor : t.Visited calls w.cursor.position w.cursor.width
  saved : ∀ d ∈ w.saved, t.Visited calls d.position d.width
  last : t.Visited calls w.lastPosition w.lastWidth

theorem anchored_begin (t : Turtle) : t.Anchored [] t.begin :=
  ⟨.inl ⟨rfl, rfl⟩, by simp [begin], .inl ⟨rfl, rfl⟩⟩

theorem Anchored.append (h : t.Anchored calls w) (more : List Call) :
    t.Anchored (calls ++ more) w :=
  ⟨h.cursor.append more, fun d hd => (h.saved d hd).append more, h.last.append more⟩

/-- The report of a step forward is what its end is known by. -/
theorem Anchored.forward (h : t.Anchored calls w) {d : Cursor} {report : Call}
    (hf : isForward report.symbol = true) (hp : report.finish = d.position)
    (hw : report.finishWidth = d.width) : t.Anchored (calls ++ [report])
      { w with cursor := d, lastPosition := w.cursor.position, lastWidth := w.cursor.width } := by
  have hold := h.append [report]
  exact ⟨.inr ⟨report, by simp, hf, hp, hw⟩, hold.saved, hold.cursor⟩

theorem Anchored.turn (h : t.Anchored calls w) (angle : Float) :
    t.Anchored calls { w with cursor.angle := angle } :=
  ⟨h.cursor, h.saved, h.last⟩

theorem Anchored.push (h : t.Anchored calls w) :
    t.Anchored calls { w with saved := w.cursor :: w.saved } := by
  refine ⟨h.cursor, ?_, h.last⟩
  intro d hd
  rcases List.mem_cons.mp hd with rfl | hd
  · exact h.cursor
  · exact h.saved d hd

theorem Anchored.pop (h : t.Anchored calls w) {d : Cursor} {rest : List Cursor}
    (hw : w.saved = d :: rest) : t.Anchored calls { w with cursor := d, saved := rest } := by
  refine ⟨h.saved d (by simp [hw]), ?_, h.last⟩
  intro e he
  exact h.saved e (by simp [hw, he])

/-- One step reports a visited start, and leaves the walk anchored in the reports with its own. -/
theorem Anchored.step (h : t.Anchored calls w) (hs : t.step w c = .ok w')
    (hreg : ∀ c, isForward c = true → (registry.get? c).isSome) :
    t.Anchored (calls ++ (call? registry w' c).toList) w' ∧
      ∀ report ∈ call? registry w' c, t.Visited calls report.start report.startWidth := by
  unfold Turtle.step at hs
  unfold call?
  cases hk : Command.ofSymbol c with
  | forward =>
    have hf : isForward c = true := decide_eq_true hk
    obtain ⟨label, hl⟩ := Option.isSome_iff_exists.mp (hreg c hf)
    simp only [hk] at hs
    obtain ⟨d, -, hs⟩ := bind_eq_ok.mp hs
    cases hs
    simp only [hl, Option.map_some, Option.toList_some, Option.mem_some, forall_eq']
    exact ⟨h.forward hf rfl rfl, h.cursor⟩
  | turnLeft | turnRight =>
    simp only [hk] at hs
    cases hs
    exact ⟨by simpa using h.turn _, by simp⟩
  | push =>
    simp only [hk] at hs
    cases hs
    exact ⟨by simpa using h.push, by simp⟩
  | pop =>
    simp only [hk] at hs
    cases hw : w.saved with
    | nil =>
      simp only [hw] at hs
      cases hs
      exact ⟨by simpa using h, by simp⟩
    | cons d rest =>
      simp only [hw] at hs
      cases hs
      exact ⟨by simpa using h.pop hw, by simp⟩
  | other =>
    simp only [hk] at hs
    cases hs
    refine ⟨h.append _, ?_⟩
    intro report hr
    obtain ⟨label, -, rfl⟩ := Option.map_eq_some_iff.mp hr
    exact h.last

/-- Every report starts where the walk began or where an earlier reported step forward ended, at the
width it had there. -/
def Rooted (t : Turtle) (calls : List Call) : Prop :=
  ∀ i report, calls[i]? = some report → t.Visited (calls.take i) report.start report.startWidth

theorem rooted_nil (t : Turtle) : t.Rooted [] := by simp [Rooted]

theorem Rooted.append_singleton (h : t.Rooted calls) {report : Call}
    (hv : t.Visited calls report.start report.startWidth) : t.Rooted (calls ++ [report]) := by
  intro i r hi
  by_cases hlt : i < calls.length
  · rw [List.getElem?_append_left hlt] at hi
    rw [List.take_append_of_le_length hlt.le]
    exact h i r hi
  · obtain rfl : i = calls.length := by
      have := (List.getElem?_eq_some_iff.mp hi).1
      simp only [List.length_append, List.length_singleton] at this
      omega
    obtain rfl : report = r := by simpa using hi
    rw [List.take_left]
    exact hv

theorem Rooted.resume (hreg : ∀ c, isForward c = true → (registry.get? c).isSome)
    (symbols : List String) {calls : Array Call} (h : t.Rooted calls.toList)
    (ha : t.Anchored calls.toList w) : t.Rooted (t.resume registry w symbols calls).calls.toList := by
  induction symbols generalizing w calls with
  | nil => exact h
  | cons c rest ih =>
    cases hs : t.step w c with
    | error fault => simpa only [Turtle.resume, hs] using h
    | ok w' =>
      obtain ⟨ha', hv⟩ := ha.step hs hreg
      cases hc : call? registry w' c with
      | none =>
        simp only [Turtle.resume, hs, hc]
        exact ih h (by simpa [hc] using ha')
      | some report =>
        simp only [Turtle.resume, hs, hc]
        refine ih ?_ (by simpa [hc] using ha')
        rw [Array.toList_push]
        exact h.append_singleton (hv report hc)

/-- The reports of a walk are rooted, also when the walk fails later. -/
theorem rooted_walk (t : Turtle) (hd : (registry.get? drawSymbol).isSome)
    (hm : (registry.get? moveSymbol).isSome) (symbols : List String) :
    t.Rooted (t.walk registry symbols).calls.toList := by
  have hreg (c : String) (hc : isForward c = true) : (registry.get? c).isSome := by
    rcases Command.forward_iff.mp (of_decide_eq_true hc) with rfl | rfl
    · exact hd
    · exact hm
  change t.Rooted (t.resume registry t.begin symbols #[]).calls.toList
  exact Rooted.resume hreg symbols t.rooted_nil t.anchored_begin

end Turtle
end PlantGrammar
