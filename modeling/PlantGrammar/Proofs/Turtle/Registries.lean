import PlantGrammar.Proofs.Turtle.Pairing

/-! # Registered symbols do not steer

What is registered decides which steps of a walk are reported, and under which label. It has no part
in the steps, so walks under two registries stop at the same symbol and report the same segments at
the symbols that both registries know.
-/
namespace PlantGrammar

def Registry.Knows (registry : Registry) (c : String) : Prop := (registry.get? c).isSome

instance (registry : Registry) (c : String) : Decidable (registry.Knows c) :=
  inferInstanceAs (Decidable ((registry.get? c).isSome = true))

/-- A call without the label under which its symbol is registered. -/
def Call.unlabelled (c : Call) : Call := { c with label := "" }

/-- The symbols that mean something to a turtle. -/
def turtleSymbols : List String := symbolsOf reservedSymbols.toList

/-- The turns and the brackets, which report nothing. -/
def silentSymbols : List String := [rightSymbol, leftSymbol, pushSymbol, popSymbol]

theorem turtleSymbols_eq : turtleSymbols =
    [moveSymbol, drawSymbol, leftSymbol, rightSymbol, pushSymbol, popSymbol] := by
  decide

theorem Command.ofSymbol_of_not_mem {c : String} (h : c ∉ turtleSymbols) : ofSymbol c = other := by
  simp only [turtleSymbols_eq, List.mem_cons, List.not_mem_nil, or_false, not_or] at h
  obtain ⟨hmove, hdraw, hleft, hright, hpush, hpop⟩ := h
  simp [ofSymbol, hmove, hdraw, hleft, hright, hpush, hpop]

theorem Command.ofSymbol_of_not_silent {c : String} (h : c ∉ silentSymbols) :
    ofSymbol c = forward ∨ ofSymbol c = other := by
  simp only [silentSymbols, List.mem_cons, List.not_mem_nil, or_false, not_or] at h
  obtain ⟨hright, hleft, hpush, hpop⟩ := h
  unfold ofSymbol
  rw [if_neg hleft, if_neg hright, if_neg hpush, if_neg hpop]
  split
  · exact .inl rfl
  · exact .inr rfl

namespace Turtle
variable {t : Turtle} {registry r₁ r₂ : Registry} {symbols u : List String} {w : Walk} {fault : Fault}
  {i : ℕ}

/-- A symbol is reported if it is known and not silent. -/
theorem call?_eq (registry : Registry) (w : Walk) (c : String) :
    call? registry w c = if c ∈ silentSymbols then none else (registry.get? c).map fun label =>
      ⟨c, label, w.lastPosition, w.lastWidth, w.cursor.position, w.cursor.width⟩ := by
  unfold call?
  by_cases hc : c ∈ silentSymbols
  · rw [if_pos hc]
    simp only [silentSymbols, List.mem_cons, List.not_mem_nil, or_false] at hc
    rcases hc with rfl | rfl | rfl | rfl <;> rfl
  · rw [if_neg hc]
    rcases Command.ofSymbol_of_not_silent hc with hk | hk
    · rw [hk]
    · rw [hk]

/-- The symbols that are reported. -/
def Reported (registry : Registry) (c : String) : Prop := registry.Knows c ∧ c ∉ silentSymbols

instance (registry : Registry) (c : String) : Decidable (Reported registry c) :=
  inferInstanceAs (Decidable (registry.Knows c ∧ c ∉ silentSymbols))

theorem map_symbol_call? (registry : Registry) (w : Walk) (c : String) :
    (call? registry w c).toList.map Call.symbol = [c].filter (Reported registry) := by
  rw [call?_eq]
  by_cases hc : c ∈ silentSymbols
  · simp [hc, Reported]
  · cases hl : registry.get? c with
    | none => simp [hc, hl, Reported, Registry.Knows]
    | some label => simp [hc, hl, Reported, Registry.Knows]

/-- The calls at symbols that two registries know, their labels left aside. -/
def shared (r₁ r₂ : Registry) (calls : Array Call) : List Call :=
  (calls.toList.filter fun call => r₁.Knows call.symbol ∧ r₂.Knows call.symbol).map Call.unlabelled

theorem shared_append (r₁ r₂ : Registry) (a b : Array Call) :
    shared r₁ r₂ (a ++ b) = shared r₁ r₂ a ++ shared r₁ r₂ b := by
  simp [shared]

theorem shared_call? (r₁ r₂ : Registry) (w : Walk) (c : String) :
    shared r₁ r₂ (call? r₁ w c).toArray = shared r₁ r₂ (call? r₂ w c).toArray := by
  rw [call?_eq, call?_eq]
  by_cases hc : c ∈ silentSymbols
  · rw [if_pos hc, if_pos hc]
  · rw [if_neg hc, if_neg hc]
    cases h₁ : r₁.get? c with
    | none =>
      cases h₂ : r₂.get? c with
      | none => rfl
      | some label => simp [shared, Registry.Knows, h₁]
    | some label =>
      cases h₂ : r₂.get? c with
      | none => simp [shared, Registry.Knows, h₂]
      | some label' => simp [shared, Registry.Knows, h₁, h₂, Call.unlabelled]

theorem shared_resume (r₁ r₂ : Registry) (t : Turtle) (w : Walk) (symbols : List String)
    {a b : Array Call} (h : shared r₁ r₂ a = shared r₁ r₂ b) :
    shared r₁ r₂ (t.resume r₁ w symbols a).calls = shared r₁ r₂ (t.resume r₂ w symbols b).calls := by
  induction symbols generalizing w a b with
  | nil => exact h
  | cons c rest ih =>
    cases hs : t.step w c with
    | error fault =>
      rw [resume_of_error hs, resume_of_error hs]
      exact h
    | ok v =>
      rw [resume_of_ok hs, resume_of_ok hs]
      apply ih
      rw [shared_append, shared_append, h, shared_call?]

theorem map_symbol_resume (registry : Registry) {calls : Array Call}
    (h : (t.resume registry w symbols calls).fault? = none) :
    (t.resume registry w symbols calls).calls.toList.map Call.symbol =
      calls.toList.map Call.symbol ++ symbols.filter (Reported registry) := by
  induction symbols generalizing w calls with
  | nil => simp [resume]
  | cons c rest ih =>
    cases hs : t.step w c with
    | error fault =>
      rw [resume_of_error hs] at h
      cases h
    | ok v =>
      rw [resume_of_ok hs] at h ⊢
      rw [ih h, ← List.singleton_append, List.filter_append, ← map_symbol_call? registry v c]
      simp

/-- A symbol that neither the turtle nor the registry knows may be left out. -/
theorem resume_filter (registry : Registry) (t : Turtle) (w : Walk) (symbols : List String)
    (calls : Array Call) :
    t.resume registry w (symbols.filter fun c => c ∈ turtleSymbols ∨ registry.Knows c) calls =
      t.resume registry w symbols calls := by
  induction symbols generalizing w calls with
  | nil => rfl
  | cons c rest ih =>
    rw [List.filter_cons]
    by_cases hc : c ∈ turtleSymbols ∨ registry.Knows c
    · rw [if_pos (decide_eq_true hc)]
      cases hs : t.step w c with
      | error fault => rw [resume_of_error hs, resume_of_error hs]
      | ok v => rw [resume_of_ok hs, resume_of_ok hs, ih]
    · rw [if_neg (by simpa using hc), ih]
      obtain ⟨hturtle, hknown⟩ := not_or.mp hc
      have hs : t.step w c = .ok w := by rw [step, Command.ofSymbol_of_not_mem hturtle]
      have hcall : call? registry w c = none := by
        rw [call?_eq, Option.not_isSome_iff_eq_none.mp hknown]
        simp
      rw [resume_of_ok hs, hcall]
      simp

/-- A walk gets to a position, and fails with the symbol there. -/
structure StopsAt (t : Turtle) (registry : Registry) (symbols : List String) (i : ℕ)
    (fault : Fault) : Prop where
  lt_length : i < symbols.length
  before : (t.walk registry (symbols.take i)).fault? = none
  fault_eq : ∀ n > i, (t.walk registry (symbols.take n)).fault? = some fault

theorem walk_fault_congr (t : Turtle) (r₁ r₂ : Registry) (symbols : List String) :
    (t.walk r₁ symbols).fault? = (t.walk r₂ symbols).fault? := by
  rw [walk, walk, resume_fault, resume_fault]

theorem StopsAt.congr (h : t.StopsAt r₁ symbols i fault) (r₂ : Registry) :
    t.StopsAt r₂ symbols i fault :=
  ⟨h.lt_length, (t.walk_fault_congr r₂ r₁ _).trans h.before,
    fun n hn => (t.walk_fault_congr r₂ r₁ _).trans (h.fault_eq n hn)⟩

theorem walk_fault_append (h : (t.walk registry u).fault? = some fault) (v : List String) :
    (t.walk registry (u ++ v)).fault? = some fault := by
  rw [walk, resume_fault] at h ⊢
  rw [List.foldlM_append]
  cases hu : u.foldlM t.step t.begin with
  | error fault' =>
    rw [hu] at h
    exact h
  | ok w =>
    rw [hu] at h
    cases h

/-- A walk with a fault stops somewhere. By induction on the symbols, from the last one. -/
theorem exists_stopsAt (h : (t.walk registry symbols).fault? = some fault) :
    ∃ i, t.StopsAt registry symbols i fault := by
  induction symbols using List.reverseRecOn with
  | nil => cases h
  | append_singleton u c ih =>
    cases hu : (t.walk registry u).fault? with
    | none =>
      refine ⟨u.length, by simp, by rwa [List.take_left], fun n hn => ?_⟩
      rwa [List.take_of_length_le (by simpa using Nat.succ_le_of_lt hn)]
    | some fault' =>
      obtain rfl : fault' = fault := Option.some.inj ((walk_fault_append hu [c]).symm.trans h)
      obtain ⟨i, hi⟩ := ih hu
      refine ⟨i, hi.lt_length.trans_le (by simp), ?_, fun n hn => ?_⟩
      · rw [List.take_append_of_le_length hi.lt_length.le]
        exact hi.before
      · rw [List.take_append]
        exact walk_fault_append (hi.fault_eq n hn) _

/-- Walks under two registries report the same segments at the symbols that both know, and both get
to the end or fail in the same way at the same symbol. A walk that gets to the end reports just the
known symbols that are not silent, each as often as it stands in the text. Symbols that mean nothing
to the turtle and are not known can be left out. -/
theorem walk_blind_to_registry (t : Turtle) (r₁ r₂ : Registry) (symbols : List String) :
    shared r₁ r₂ (t.walk r₁ symbols).calls = shared r₁ r₂ (t.walk r₂ symbols).calls ∧
    ((t.walk r₁ symbols).fault? = none ∧ (t.walk r₂ symbols).fault? = none ∨
      ∃ i fault, t.StopsAt r₁ symbols i fault ∧ t.StopsAt r₂ symbols i fault) ∧
    ((t.walk r₁ symbols).fault? = none →
      (t.walk r₁ symbols).calls.toList.map Call.symbol = symbols.filter (Reported r₁) ∧
      ∀ c, Reported r₁ c →
        (t.walk r₁ symbols).calls.toList.countP (·.symbol = c) = symbols.count c) ∧
    t.walk r₁ (symbols.filter fun c => c ∈ turtleSymbols ∨ r₁.Knows c) = t.walk r₁ symbols := by
  refine ⟨shared_resume r₁ r₂ t t.begin symbols rfl, ?_, fun h => ?_,
    resume_filter r₁ t t.begin symbols #[]⟩
  · cases h₁ : (t.walk r₁ symbols).fault? with
    | none => exact .inl ⟨rfl, (t.walk_fault_congr r₂ r₁ symbols).trans h₁⟩
    | some fault =>
      obtain ⟨i, hi⟩ := exists_stopsAt h₁
      exact .inr ⟨i, fault, hi, hi.congr r₂⟩
  · have hsymbols : (t.walk r₁ symbols).calls.toList.map Call.symbol =
        symbols.filter (Reported r₁) := map_symbol_resume r₁ h
    refine ⟨hsymbols, fun c hc => ?_⟩
    calc (t.walk r₁ symbols).calls.toList.countP (·.symbol = c)
        = ((t.walk r₁ symbols).calls.toList.map Call.symbol).count c := by
          rw [List.count, List.countP_map]
          rfl
      _ = symbols.count c := by rw [hsymbols, List.count_filter (by simpa using hc)]

/-- A turn is registered and still silent, `X` is known to one registry only and `Y` to neither. -/
theorem walk_blind_to_registry_silent_turn :
    (walk ⟨⟨[0, 0], 90, 2, 10⟩, 90, ⟨.geometric, 0.5⟩, .still⟩
      (.ofList [("F", "bough"), ("+", "turn"), ("X", "bud")])
      ["F", "+", "X", "Y", "[", "F", "]", "X"]).fault? = none ∧
    (walk ⟨⟨[0, 0], 90, 2, 10⟩, 90, ⟨.geometric, 0.5⟩, .still⟩
      (.ofList [("F", "bough"), ("+", "turn"), ("X", "bud")])
      ["F", "+", "X", "Y", "[", "F", "]", "X"]).calls.toList.map Call.symbol =
        ["F", "X", "F", "X"] :=
  ⟨rfl, ((walk_blind_to_registry _ _ .empty _).2.2.1 rfl).1⟩

end Turtle
end PlantGrammar
