import Mathlib.Order.Monotone.Basic
import PlantGrammar.Proofs.Grammar.Iteration
import PlantGrammar.Proofs.Scene.Loading

/-! # Rules that a user adds

A scene takes a rule only if its key is one letter and its body some letters and turns. Such rules
put in nothing but letters and turns, for letters alone, so a derivation keeps all other symbols,
the brackets among them, and never gets shorter.
-/
namespace PlantGrammar

def isLetter (c : Char) : Bool := ('a' ≤ c && c ≤ 'z') || ('A' ≤ c && c ≤ 'Z')

/-- The symbols that the body of a user rule may have. -/
def isBodySymbol (c : Char) : Bool := isLetter c || c = '+' || c = '-'

/-- The symbols that no user rule has anything to do with. -/
def fixedSymbols (cs : List Char) : List Char := cs.filter fun c => !isBodySymbol c

theorem fixedSymbols_append (u v : List Char) :
    fixedSymbols (u ++ v) = fixedSymbols u ++ fixedSymbols v :=
  List.filter_append u v

theorem any_ranges_key (c : Char) :
    (RulePattern.key.ranges.any fun r => r.1 ≤ c && c ≤ r.2) = isLetter c := by
  simp [RulePattern.key, isLetter]

theorem any_ranges_body (c : Char) :
    (RulePattern.body.ranges.any fun r => r.1 ≤ c && c ≤ r.2) = isBodySymbol c := by
  have hsingle (d : Char) : (decide (d ≤ c) && decide (c ≤ d)) = decide (c = d) := by
    rw [← Bool.decide_and, decide_eq_decide]
    exact ⟨fun h => Char.le_antisymm h.2 h.1, fun h => h ▸ ⟨Char.le_refl c, Char.le_refl c⟩⟩
  simp [RulePattern.body, isBodySymbol, isLetter, hsingle, Bool.or_assoc]

theorem accepts_key_iff {key : String} : RulePattern.key.accepts key = true ↔
    ∃ c, isLetter c = true ∧ key = String.singleton c := by
  have hone : RulePattern.key.accepts key =
      (decide (key.toList.length = 1) && key.toList.all isLetter) := by
    simp only [RulePattern.accepts, any_ranges_key]
    rfl
  rw [hone, Bool.and_eq_true, decide_eq_true_iff, List.length_eq_one_iff]
  constructor
  · rintro ⟨⟨c, hc⟩, hall⟩
    rw [hc, List.all_cons, Bool.and_eq_true] at hall
    exact ⟨c, hall.1, String.toList_inj.mp (by rw [hc, String.toList_singleton])⟩
  · rintro ⟨c, hc, rfl⟩
    rw [String.toList_singleton]
    exact ⟨⟨c, rfl⟩, by simp [hc]⟩

theorem accepts_body_iff {body : String} : RulePattern.body.accepts body = true ↔
    body ≠ "" ∧ ∀ c ∈ body.toList, isBodySymbol c = true := by
  have hmany : RulePattern.body.accepts body =
      (!body.toList.isEmpty && body.toList.all isBodySymbol) := by
    simp only [RulePattern.accepts, any_ranges_body]
    rfl
  rw [hmany, Bool.and_eq_true, List.all_eq_true]
  simp

theorem isUserRule_iff {key body : String} : isUserRule key body = true ↔
    (∃ c, isLetter c = true ∧ key = String.singleton c) ∧ body ≠ "" ∧
      ∀ c ∈ body.toList, isBodySymbol c = true := by
  rw [isUserRule, Bool.and_eq_true, accepts_key_iff, accepts_body_iff]

namespace Rules
variable {rules : Rules} {cs : List Char}

/-- Every rule is one that a user may add. -/
def FromUser (rules : Rules) : Prop := ∀ e ∈ rules.entries, isUserRule e.1 e.2 = true

/-- A symbol stays, or is a letter and becomes letters and turns, at least one. -/
theorem FromUser.image_cases (h : rules.FromUser) (c : Char) : rules.image c = [c] ∨
    isLetter c = true ∧ rules.image c ≠ [] ∧ ∀ d ∈ rules.image c, isBodySymbol d = true := by
  rcases Rules.image_cases rules c with hc | ⟨body, hbody, hc⟩
  · exact .inl hc
  · obtain ⟨⟨d, hd, hkey⟩, hne, hsymbols⟩ := isUserRule_iff.mp (h _ hbody)
    have hcd : c = d := by simpa using congrArg String.toList hkey
    rw [hc]
    exact .inr ⟨hcd ▸ hd, fun hnil => hne (String.toList_eq_nil_iff.mp hnil), hsymbols⟩

theorem FromUser.fixedSymbols_image (h : rules.FromUser) (c : Char) :
    fixedSymbols (rules.image c) = fixedSymbols [c] := by
  rcases h.image_cases c with hc | ⟨hletter, -, hbody⟩
  · rw [hc]
  · have hc : isBodySymbol c = true := by simp [isBodySymbol, hletter]
    have himage : fixedSymbols (rules.image c) = [] := by
      rw [fixedSymbols, List.filter_eq_nil_iff]
      intro d hd
      simp [hbody d hd]
    rw [himage]
    simp [fixedSymbols, hc]

theorem FromUser.fixedSymbols_successor (h : rules.FromUser) (cs : List Char) :
    fixedSymbols (rules.successor cs) = fixedSymbols cs := by
  induction cs with
  | nil => rfl
  | cons c cs ih =>
    calc fixedSymbols (rules.successor ([c] ++ cs))
        = fixedSymbols (rules.image c) ++ fixedSymbols (rules.successor cs) := by
          rw [successor_append, successor_singleton, fixedSymbols_append]
      _ = fixedSymbols [c] ++ fixedSymbols cs := by rw [h.fixedSymbols_image, ih]
      _ = fixedSymbols ([c] ++ cs) := (fixedSymbols_append [c] cs).symm

theorem FromUser.fixedSymbols_iterate (h : rules.FromUser) (cs : List Char) (n : ℕ) :
    fixedSymbols (rules.successor^[n] cs) = fixedSymbols cs :=
  Function.Iterate.rec (fun ds => fixedSymbols ds = fixedSymbols cs) rfl
    (fun ds hd => (h.fixedSymbols_successor ds).trans hd) n

theorem FromUser.length_le_successor (h : rules.FromUser) (cs : List Char) :
    cs.length ≤ (rules.successor cs).length := by
  induction cs with
  | nil => exact le_rfl
  | cons c cs ih =>
    have hone : 1 ≤ (rules.image c).length := by
      rcases h.image_cases c with hc | ⟨-, hne, -⟩
      · rw [hc, List.length_singleton]
      · exact List.length_pos_iff.mpr hne
    rw [← List.singleton_append, successor_append, successor_singleton, List.length_append,
      List.length_append, List.length_singleton]
    omega

theorem FromUser.monotone_length (h : rules.FromUser) (cs : List Char) :
    Monotone fun n => (rules.successor^[n] cs).length := by
  refine monotone_nat_of_le_succ fun n => ?_
  rw [Function.iterate_succ_apply']
  exact h.length_le_successor _

end Rules

namespace Scene
variable {s u : Scene} {acts : List Act} {a : Act}

theorem fromUser_addRule (h : s.rules.FromUser) (key body : String) :
    (s.addRule key body).1.rules.FromUser := by
  unfold addRule
  split
  · intro e he
    rcases OrderedMap.mem_place he with rfl | he
    · assumption
    · exact h e he
  · exact h

/-- Acts that write no rules but those that a user adds: no preset is loaded and the rules are not
set as a whole. -/
def Act.AddsOnly : Act → Prop
  | .load key => ¬ key.Known
  | .setRules _ => False
  | _ => True

theorem fromUser_act (h : s.rules.FromUser) (ha : a.AddsOnly) : (s.act a).rules.FromUser := by
  cases a with
  | load key =>
    rw [(load_of_find_error (Preset.find_of_not_known ha)).2]
    exact h
  | addRule key body => exact fromUser_addRule h key body
  | clearRules => exact fun e he => absurd he List.not_mem_nil
  | setRules rules => exact ha.elim
  | draw organ stem =>
    obtain ⟨canvas, hs⟩ := leftBy_drawOrgan organ stem s
    rw [act, hs]
    exact h
  | grow =>
    obtain ⟨rules, canvas, strand, hs⟩ := leftBy_grow s
    rw [act, hs]
    exact h
  | _ => exact h

theorem fromUser_foldl_act (h : ∀ a ∈ acts, a.AddsOnly) (s : Scene) :
    (acts.foldl act s.clearRules).rules.FromUser := by
  refine List.foldlRecOn (motive := fun t => t.rules.FromUser) acts act ?_ ?_
  · exact fun e he => absurd he List.not_mem_nil
  · exact fun t ht a ha => fromUser_act ht (h a ha)

/-- However rules are added to a scene without rules, each one stored has a letter as its key and
letters and turns as its body. Whatever text these rules derive, all its other symbols stay in their
order, and it gets no shorter with one more iteration. -/
theorem user_rules_keep_structure (hacts : ∀ a ∈ acts, a.AddsOnly) (s : Scene)
    (hu : acts.foldl act s.clearRules = u) :
    (∀ e ∈ u.rules.entries, (∃ c, isLetter c = true ∧ e.1 = String.singleton c) ∧ e.2 ≠ "" ∧
      ∀ c ∈ e.2.toList, isBodySymbol c = true) ∧
    (∀ (text : String) (count : ℤ), ∃ r next, u.rules.derive text count = .ok r ∧
      u.rules.derive text (count + 1) = .ok next ∧
      fixedSymbols r.symbols = fixedSymbols text.toList ∧ r.length ≤ next.length) ∧
    ∀ mesh strand, u.outcome = .ok (mesh, strand) →
      fixedSymbols strand.symbols = fixedSymbols u.input.toList := by
  have h : u.rules.FromUser := hu ▸ fromUser_foldl_act hacts s
  refine ⟨fun e he => isUserRule_iff.mp (h e he), fun text count => ?_, fun mesh strand ho => ?_⟩
  · refine ⟨_, _, Rules.derive_eq_ofList _ _ _, Rules.derive_eq_ofList _ _ _, ?_, ?_⟩
    · rw [Strand.symbols_ofList, h.fixedSymbols_iterate]
    · exact h.monotone_length text.toList (Int.toNat_le_toNat (by omega))
  · have hstrand := derive_of_outcome ho
    rw [Rules.derive_eq_ofList] at hstrand
    cases hstrand
    rw [Strand.symbols_ofList, h.fixedSymbols_iterate]

/-- Refused are a key with a line break, a bracket, a letter with an accent, an empty body and an
unknown preset; the first rule is replaced by a later one. -/
theorem user_rules_keep_structure_refusals : ∃ acts : List Act, ∃ u r next,
    acts = [.addRule "A" "AA", .addRule "A\n" "B", .addRule "[" "F", .addRule "\u00e9" "F",
      .addRule "B" "", .addRule "F" "[F]", .load (.index 4), .install "]" "", .grow,
      .addRule "B" "b-", .addRule "A" "F+B"] ∧
    (∀ a ∈ acts, a.AddsOnly) ∧ acts.foldl act (default : Scene).clearRules = u ∧
    u.rules.entries = [("A", "F+B"), ("B", "b-")] ∧
    u.rules.derive "[A\n]B" 1 = .ok r ∧ u.rules.derive "[A\n]B" (1 + 1) = .ok next ∧
    fixedSymbols r.symbols = fixedSymbols "[A\n]B".toList ∧ r.length ≤ next.length := by
  have hacts : ∀ a ∈ [Act.addRule "A" "AA", .addRule "A\n" "B", .addRule "[" "F",
      .addRule "\u00e9" "F", .addRule "B" "", .addRule "F" "[F]", .load (.index 4),
      .install "]" "", .grow, .addRule "B" "b-", .addRule "A" "F+B"], a.AddsOnly := by
    have hload : ¬ (PresetKey.index 4).Known := fun h => absurd h.2 (by decide)
    simp [Act.AddsOnly, hload]
  obtain ⟨-, hderive, -⟩ := user_rules_keep_structure hacts default rfl
  obtain ⟨r, next, h⟩ := hderive "[A\n]B" 1
  exact ⟨_, _, r, next, rfl, hacts, rfl, by decide, h⟩

end Scene
end PlantGrammar
