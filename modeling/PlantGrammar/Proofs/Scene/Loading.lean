import PlantGrammar.Proofs.Scene.History

/-! # Loading a preset forgets the past

A preset says everything that a generation reads but the settings and the registered organs, and
these outlive any history that leaves the settings alone. A key without a preset is refused before
anything is written.
-/
namespace PlantGrammar

/-- The key gives the place or, letter case aside, the name of a preset in the catalogue. -/
def PresetKey.Known : PresetKey → Prop
  | .index i => 0 ≤ i ∧ i < Preset.catalogue.length
  | .name text => ∃ p ∈ Preset.catalogue, p.name.toLower = text.toLower

/-- What a key without a preset is told. -/
def PresetKey.refusal : PresetKey → Fault
  | .index i => .presetRange i Preset.catalogue.length
  | .name text => .unknownPreset text (Preset.catalogue.map Preset.name)

namespace Preset
variable {key : PresetKey}

theorem find_of_known (h : key.Known) : ∃ p ∈ catalogue, find key = .ok p := by
  cases key with
  | index i =>
    obtain ⟨h0, hi⟩ := h
    have hget : catalogue[i.toNat]? = some catalogue[i.toNat] :=
      List.getElem?_eq_getElem (by omega)
    refine ⟨catalogue[i.toNat], List.getElem_mem _, ?_⟩
    rw [find, if_pos h0, hget]
  | name text =>
    obtain ⟨p, hp, hname⟩ := h
    cases hf : catalogue.find? fun p => p.name.toLower = text.toLower with
    | none => exact absurd (decide_eq_true hname) (List.find?_eq_none.mp hf p hp)
    | some q =>
      refine ⟨q, List.mem_of_find?_eq_some hf, ?_⟩
      rw [find, hf]

theorem find_of_not_known (h : ¬ key.Known) : find key = .error key.refusal := by
  cases key with
  | index i =>
    have hnone : (if 0 ≤ i then catalogue[i.toNat]? else none) = none := by
      by_cases h0 : 0 ≤ i
      · have hi : ¬ i < catalogue.length := fun hi => h ⟨h0, hi⟩
        rw [if_pos h0, List.getElem?_eq_none (by omega)]
      · rw [if_neg h0]
    rw [find, hnone]
    rfl
  | name text =>
    have hnone : catalogue.find? (fun p => p.name.toLower = text.toLower) = none := by
      rw [List.find?_eq_none]
      intro p hp hname
      exact h ⟨p, hp, of_decide_eq_true hname⟩
    rw [find, hnone]
    rfl

end Preset

namespace Scene
variable {s s₁ s₂ fresh : Scene} {settings : Settings} {notice : Notice} {acts : List Act} {a : Act}

theorem settings_act (h : ∀ settings, a ≠ .setSettings settings) (s : Scene) :
    (s.act a).settings = s.settings := by
  cases a with
  | load key =>
    rcases s.act_load key with hs | ⟨p, hs⟩
    · rw [hs]
    · rw [hs]
      rfl
  | addRule key body =>
    rw [act, addRule]
    split
    · rfl
    · rfl
  | setSettings settings => exact absurd rfl (h settings)
  | draw organ stem =>
    obtain ⟨canvas, hs⟩ := leftBy_drawOrgan organ stem s
    rw [act, hs]
  | grow =>
    obtain ⟨rules, canvas, strand, hs⟩ := leftBy_grow s
    rw [act, hs]
  | _ => rfl

theorem settings_foldl_act (h : ∀ settings, .setSettings settings ∉ acts) (s : Scene) :
    (acts.foldl act s).settings = s.settings := by
  refine List.foldlRecOn (motive := fun t => t.settings = s.settings) acts act rfl ?_
  intro t ht a ha
  rw [settings_act (fun settings hs => h settings (hs ▸ ha)) t, ht]

theorem settings_new (h : new settings = .ok (s, notice)) : s.settings = settings := by
  obtain ⟨generator, -, hload⟩ := bind_eq_ok.mp h
  obtain ⟨p, -, happly⟩ := bind_eq_ok.mp hload
  cases happly
  rfl

/-- A preset makes scenes with equal settings alike. -/
theorem alike_apply (h : s₁.settings = s₂.settings) (key : PresetKey) (p : Preset) :
    Alike (s₁.apply key p) (s₂.apply key p) :=
  ⟨h, rfl, rfl, rfl, rfl, fun _ => rfl⟩

theorem Reachable.outcome_apply (h₁ : s₁.Reachable) (h₂ : s₂.Reachable)
    (h : s₁.settings = s₂.settings) (key : PresetKey) (p : Preset) :
    (s₁.apply key p).outcome = (s₂.apply key p).outcome :=
  (alike_apply h key p).outcome_eq (h₁.registry_eq.trans h₂.registry_eq.symm)

/-- A preset that is loaded after any history grows what it grows on the fresh scene of the same
settings. A key that is not known is refused, and the scene stays as it was. -/
theorem load_forgets (hnew : new settings = .ok (fresh, notice))
    (hacts : ∀ settings', .setSettings settings' ∉ acts) (hs : acts.foldl act fresh = s)
    (key : PresetKey) :
    (key.Known → ∃ loaded reloaded told,
      s.load key = .ok (loaded, told) ∧ fresh.load key = .ok (reloaded, told) ∧
      loaded.outcome = reloaded.outcome) ∧
    (¬ key.Known → s.load key = .error key.refusal ∧ s.act (.load key) = s) := by
  constructor
  · intro hkey
    obtain ⟨p, -, hp⟩ := Preset.find_of_known hkey
    have hreach : s.Reachable := ⟨settings, fresh, notice, acts, hnew, hs⟩
    have hfresh : fresh.Reachable := ⟨settings, fresh, notice, [], hnew, rfl⟩
    have hsettings : s.settings = fresh.settings := hs ▸ settings_foldl_act hacts fresh
    exact ⟨_, _, _, load_of_find hp, load_of_find hp, hreach.outcome_apply hfresh hsettings key p⟩
  · intro hkey
    exact load_of_find_error (Preset.find_of_not_known hkey)

/-- A box plant with a rule, colors of its own and a faulty turtle comes before the preset, whose key
is in the wrong letter case; the place after the last one is refused. -/
theorem load_forgets_box_plant : ∃ fresh notice s,
    (new ⟨7, 100, 0, 10, 1, "__data__", 0, -0.2, -0.1, -0.2, 10, 0.8, 6⟩ = .ok (fresh, notice) ∧
      [Act.clearRules, .addRule "L" "LF", .setInput "LF", .setIterations 3,
        .setLook { initialLook with leafSize := [3] }, .grow, .load (.name "Tree 3"),
        .setTurtle ⟨⟨[], 90, 1, 1⟩, 90, .still, .still⟩, .grow, .load (.index 3), .grow,
        .setLook initialLook].foldl act fresh = s) ∧
    (PresetKey.name "fLOWER 1").Known ∧ ¬ (PresetKey.index 4).Known ∧
    (∃ loaded reloaded told, s.load (.name "fLOWER 1") = .ok (loaded, told) ∧
      fresh.load (.name "fLOWER 1") = .ok (reloaded, told) ∧ loaded.outcome = reloaded.outcome) ∧
    s.load (.index 4) = .error (.presetRange 4 4) ∧ s.act (.load (.index 4)) = s := by
  have hknown : (PresetKey.name "fLOWER 1").Known := by
    refine ⟨Preset.flower1, List.mem_cons_self, ?_⟩
    change "Flower 1".map Char.toLower = "fLOWER 1".map Char.toLower
    rw [← String.toList_inj, String.toList_map, String.toList_map]
    simp
  have hunknown : ¬ (PresetKey.index 4).Known := fun h => absurd h.2 (by decide)
  have apply_to {settings : Settings} {fresh s : Scene} {notice : Notice} {acts : List Act}
      (hacts : ∀ settings', .setSettings settings' ∉ acts)
      (h : new settings = .ok (fresh, notice) ∧ acts.foldl act fresh = s) :=
    And.intro h (And.intro hknown (And.intro hunknown (And.intro
      ((load_forgets h.1 hacts h.2 _).1 hknown) ((load_forgets h.1 hacts h.2 _).2 hunknown))))
  exact ⟨_, _, _, apply_to (by simp) ⟨rfl, rfl⟩⟩

end Scene
end PlantGrammar
