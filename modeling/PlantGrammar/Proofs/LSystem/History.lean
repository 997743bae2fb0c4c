import PlantGrammar.LSystem
import PlantGrammar.Proofs.Grammar.Iteration
import PlantGrammar.Proofs.Turtle.Calls

/-! # What an L-system has been told

A generation reads the rules, the settings and the registered symbols. After any history these are
what the history last wrote, so the generation answers as a fresh turtle would on the plain text that
those rules derive. Generations write nothing.
-/
namespace PlantGrammar.LSystem
variable {start : Cursor}

inductive Setting where
  | position (position : List Float)
  | angle (angle : Float)
  | width (width : Float)
  | length (length : Float)
  | deltaAngle (angle : Float)
  | widthGrowth (growth : Growth)
  | lengthGrowth (growth : Growth)
deriving Repr, DecidableEq

def Setting.apply (t : Turtle) : Setting → Turtle
  | .position p => { t with start.position := p }
  | .angle a => { t with start.angle := a }
  | .width w => { t with start.width := w }
  | .length l => { t with start.length := l }
  | .deltaAngle a => { t with deltaAngle := a }
  | .widthGrowth g => { t with widthGrowth := g }
  | .lengthGrowth g => { t with lengthGrowth := g }

/-- What can happen to an L-system. -/
inductive Act where
  | addRule (key body : String)
  | clearRules
  | register (symbol label : String)
  | set (setting : Setting)
  | generate (axiomText : String) (count : ℤ)
deriving Repr, DecidableEq

def act (l : LSystem) : Act → LSystem
  | .addRule key body => l.addRule key body
  | .clearRules => l.clearRules
  | .register symbol label => l.register symbol label
  | .set setting => { l with turtle := setting.apply l.turtle }
  | .generate _ _ => l

/-- What a caller sees of a generation: the calls it makes, and the text that it returns or the fault
that stops it. -/
structure Answer where
  calls : Array Call
  result : Except Fault String
deriving DecidableEq

def answerOf (text : String) (trace : Trace) : Answer :=
  ⟨trace.calls, trace.fault?.elim (.ok text) .error⟩

def answer (l : LSystem) (axiomText : String) (count : ℤ) : Answer :=
  match l.grow axiomText count with
  | .ok (s, trace) => answerOf s.text trace
  | .error fault => ⟨#[], .error fault⟩

/-- The body last given to a key since the rules were last cleared. Acts are read from the most recent
one back. -/
def written? (key : String) : List Act → Option String
  | [] => none
  | .addRule k body :: earlier => if k = key then some body else written? key earlier
  | .clearRules :: _ => none
  | _ :: earlier => written? key earlier

/-- The label last given to a symbol. -/
def registered? (symbol : String) : List Act → Option String
  | [] => none
  | .register c label :: earlier => if c = symbol then some label else registered? symbol earlier
  | _ :: earlier => registered? symbol earlier

/-- The turtle that the settings made so far leave. -/
def settled (start : Cursor) : List Act → Turtle
  | [] => (ofCursor start).turtle
  | .set setting :: earlier => setting.apply (settled start earlier)
  | _ :: earlier => settled start earlier

theorem get?_rules_foldl_act (before : List Act) (key : String) :
    (before.foldl act (ofCursor start)).rules.get? key = written? key before.reverse := by
  induction before using List.reverseRecOn with
  | nil => rfl
  | append_singleton before a ih =>
    rw [List.foldl_append, List.reverse_append]
    cases a with
    | addRule k body =>
      have h := OrderedMap.get?_insert (before.foldl act (ofCursor start)).rules k body key
      rw [ih] at h
      exact h
    | clearRules => rfl
    | _ => exact ih

theorem get?_registry_foldl_act (before : List Act) (symbol : String) :
    (before.foldl act (ofCursor start)).registry.get? symbol = registered? symbol before.reverse := by
  induction before using List.reverseRecOn with
  | nil => rfl
  | append_singleton before a ih =>
    rw [List.foldl_append, List.reverse_append]
    cases a with
    | register c label =>
      have h := OrderedMap.get?_insert (before.foldl act (ofCursor start)).registry c label symbol
      rw [ih] at h
      exact h
    | _ => exact ih

theorem turtle_foldl_act (before : List Act) :
    (before.foldl act (ofCursor start)).turtle = settled start before.reverse := by
  induction before using List.reverseRecOn with
  | nil => rfl
  | append_singleton before a ih =>
    rw [List.foldl_append, List.reverse_append]
    cases a with
    | set setting => exact congrArg setting.apply ih
    | _ => exact ih

/-- Substitute every symbol that has a body, all at once. -/
def substitute (body? : String → Option String) (text : List Char) : List Char :=
  text.flatMap fun c => ((body? (String.singleton c)).map String.toList).getD [c]

theorem successor_eq_substitute {rules : Rules} {body? : String → Option String}
    (h : ∀ key, rules.get? key = body? key) : rules.successor = substitute body? := by
  funext text
  unfold Rules.successor substitute
  congr 1
  funext c
  rw [Rules.image, Rules.body?, h]
  cases body? (String.singleton c) <;> rfl

/-- A generation walks the derived text. -/
theorem answer_eq (l : LSystem) (axiomText : String) (count : ℤ) :
    l.answer axiomText count =
      answerOf (String.ofList (l.rules.successor^[count.toNat] axiomText.toList))
        (l.turtle.walk l.registry
          (symbolsOf (l.rules.successor^[count.toNat] axiomText.toList))) := by
  unfold answer grow
  rw [Rules.derive_eq_ofList]
  simp only [bind, Except.bind, pure, Except.pure, Strand.symbols_ofList, Strand.text_ofList]

/-- At every moment a generation answers as a fresh turtle, with the settings and the registered
symbols of the moment, answers on the text that the rules of the moment derive; and no generation has
a part in what a later one answers. -/
theorem answer_of_history (start : Cursor) (before : List Act) (axiomText : String) (count : ℤ)
    {registry : Registry} (hr : ∀ symbol, registry.get? symbol = registered? symbol before.reverse) :
    ((before.foldl act (ofCursor start)).answer axiomText count =
      let text := (substitute (written? · before.reverse))^[count.toNat] axiomText.toList
      answerOf (String.ofList text) ((settled start before.reverse).walk registry (symbolsOf text))) ∧
    ∀ later text n, ((before ++ .generate axiomText count :: later).foldl act (ofCursor start)).answer
      text n = ((before ++ later).foldl act (ofCursor start)).answer text n := by
  constructor
  · have hagree (c : String) :
        (before.foldl act (ofCursor start)).registry.get? c = registry.get? c := by
      rw [get?_registry_foldl_act, hr]
    rw [answer_eq, successor_eq_substitute (get?_rules_foldl_act before), Turtle.walk_congr hagree,
      turtle_foldl_act]
  · intro later text n
    simp [List.foldl_append, act]

/-- A generation has failed, the rules were cleared and written again, and the symbols were registered
in another order. -/
theorem answer_after_failure : ∃ before : List Act, before = [.addRule "A" "AA", .register "L" "leaf",
      .set (.angle (1 / 0)), .generate "AF" 1, .clearRules, .set (.angle 90), .addRule "B" "L",
      .addRule "A" "B", .addRule "A" "F[BA]", .register "F" "bough"] ∧
    (∀ symbol, OrderedMap.get? (.ofList [("F", "bough"), ("L", "leaf")]) symbol =
      registered? symbol before.reverse) ∧
    (before.foldl act (ofCursor ⟨[0, 0], 0, 1, 1⟩)).answer "ACB" 2 =
      let text := (substitute (written? · before.reverse))^[(2 : ℤ).toNat] "ACB".toList
      answerOf (String.ofList text) ((settled ⟨[0, 0], 0, 1, 1⟩ before.reverse).walk
        (.ofList [("F", "bough"), ("L", "leaf")]) (symbolsOf text)) := by
  refine ⟨_, rfl, ?_⟩
  have hr (symbol : String) : OrderedMap.get? (.ofList [("F", "bough"), ("L", "leaf")]) symbol =
      if "F" = symbol then some "bough" else if "L" = symbol then some "leaf" else none := by
    change ((OrderedMap.empty.insert "F" "bough").insert "L" "leaf").get? symbol = _
    rw [OrderedMap.get?_insert, OrderedMap.get?_insert]
    by_cases hl : "L" = symbol
    · subst hl
      rfl
    · rw [if_neg hl, if_neg hl]
      rfl
  exact ⟨hr, (answer_of_history _ _ "ACB" 2 hr).1⟩

end PlantGrammar.LSystem
