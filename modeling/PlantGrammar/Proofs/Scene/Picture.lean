import Mathlib.Data.List.Forall2
import Mathlib.Data.List.Induction
import Mathlib.Tactic.Ring
import PlantGrammar.Proofs.Scene.History
import PlantGrammar.Proofs.Scene.Organ
import PlantGrammar.Proofs.Turtle.Calls

/-! # The picture of a string

A generation that succeeds draws one shape for each organ of the string, from left to right, and the
mesh is these shapes in a row.
-/
namespace PlantGrammar

/-- The organs that a string names, with their positions. -/
def organSites (symbols : List String) : List (ℕ × Organ) :=
  symbols.zipIdx.filterMap fun (c, i) => (Organ.ofSymbol? c).map (i, ·)

theorem organSites_append_singleton (symbols : List String) (c : String) :
    organSites (symbols ++ [c]) =
      organSites symbols ++ ((Organ.ofSymbol? c).map (symbols.length, ·)).toList := by
  unfold organSites
  rw [List.zipIdx_append, List.filterMap_append]
  cases h : Organ.ofSymbol? c <;> simp [h]

theorem Organ.symbol_of_ofSymbol? {c : String} {o : Organ} (h : Organ.ofSymbol? c = some o) :
    o.symbol = c := by
  simpa using List.find?_some h

theorem Organ.ofSymbol?_symbol (o : Organ) : Organ.ofSymbol? o.symbol = some o := by
  cases o <;> decide

theorem mem_organSites {symbols : List String} {i : ℕ} {o : Organ} :
    (i, o) ∈ organSites symbols ↔ symbols[i]? = some o.symbol := by
  simp only [organSites, List.mem_filterMap, List.mem_zipIdx_iff_getElem?, Prod.exists,
    Option.map_eq_some_iff, Prod.mk.injEq]
  constructor
  · rintro ⟨c, k, hk, o', ho, rfl, rfl⟩
    rw [hk, Organ.symbol_of_ofSymbol? ho]
  · intro h
    exact ⟨o.symbol, i, h, o, Organ.ofSymbol?_symbol o, rfl, rfl⟩

theorem Organ.symbol_inj {o o' : Organ} : o.symbol = o'.symbol ↔ o = o' := by
  constructor
  · intro h
    have hsome := Organ.ofSymbol?_symbol o
    rw [h, Organ.ofSymbol?_symbol] at hsome
    exact (Option.some.inj hsome).symm
  · rintro rfl
    rfl

theorem countP_organSites (symbols : List String) (o : Organ) :
    (organSites symbols).countP (·.2 = o) = symbols.count o.symbol := by
  induction symbols using List.reverseRecOn with
  | nil => rfl
  | append_singleton symbols c ih =>
    rw [organSites_append_singleton, List.countP_append, List.count_append, ih]
    congr 1
    cases hc : Organ.ofSymbol? c with
    | none =>
      have hne : c ≠ o.symbol := by
        rintro rfl
        rw [Organ.ofSymbol?_symbol] at hc
        cases hc
      simp [hne]
    | some o' =>
      obtain rfl := Organ.symbol_of_ofSymbol? hc
      simp [List.countP_cons, List.count_cons, Organ.symbol_inj]

/-- How many organs of a kind have drawn something. -/
def drawnCount (o : Organ) (sites : List (ℕ × Organ)) (shapes : List Mesh) : ℕ :=
  (sites.zip shapes).countP fun (site, shape) => site.2 = o ∧ shape ≠ .empty

theorem drawnCount_cons (o : Organ) (site : ℕ × Organ) (sites : List (ℕ × Organ)) (shape : Mesh)
    (shapes : List Mesh) : drawnCount o (site :: sites) (shape :: shapes) =
      drawnCount o sites shapes + if site.2 = o ∧ shape ≠ .empty then 1 else 0 := by
  simp [drawnCount, List.countP_cons]

theorem drawnCount_cons_of_ne_flower (i : ℕ) {o : Organ} (ho : o ≠ .flower)
    (sites : List (ℕ × Organ)) (shape : Mesh) (shapes : List Mesh) :
    drawnCount .branch ((i, o) :: sites) (shape :: shapes) +
        drawnCount .leaf ((i, o) :: sites) (shape :: shapes) =
      drawnCount .branch sites shapes + drawnCount .leaf sites shapes +
        if shape = .empty then 0 else 1 := by
  rw [drawnCount_cons, drawnCount_cons]
  cases o with
  | flower => exact absurd rfl ho
  | branch | leaf =>
    simp only [reduceCtorEq, true_and, false_and, if_false, ne_eq, ite_not]
    omega

namespace Scene
variable {s grown : Scene} {notice : Notice} {symbols : List String} {generator : Generator}
  {c c' : Canvas} {w : Walk}

theorem symbol_of_call? {registry : Registry} {symbol : String} {call : Call}
    (h : Turtle.call? registry w symbol = some call) : call.symbol = symbol := by
  unfold Turtle.call? at h
  split at h
  · obtain ⟨label, -, rfl⟩ := Option.map_eq_some_iff.mp h
    rfl
  · obtain ⟨label, -, rfl⟩ := Option.map_eq_some_iff.mp h
    rfl
  · cases h

theorem call?_organ (w : Walk) (o : Organ) :
    ∃ call, Turtle.call? initialSystem.registry w o.symbol = some call ∧
      call.symbol = o.symbol ∧ call.stem = w.stem := by
  cases o <;> exact ⟨_, rfl, rfl, rfl⟩

/-- What a call at a symbol paints: the organ that the symbol names, on the stem of the walk. -/
theorem forM_call?_paintCall (s : Scene) (w : Walk) (symbol : String) :
    (Turtle.call? initialSystem.registry w symbol).toList.forM s.paintCall =
      match Organ.ofSymbol? symbol with
      | some organ => organ.draw s.settings s.look w.stem
      | none => pure () := by
  cases ho : Organ.ofSymbol? symbol with
  | none =>
    cases hcall : Turtle.call? initialSystem.registry w symbol with
    | none => rfl
    | some call =>
      have hpaint : s.paintCall call = pure () := by
        rw [paintCall, symbol_of_call? hcall, ho]
      change (s.paintCall call >>= fun _ => pure ()) = pure ()
      rw [hpaint]
      rfl
  | some organ =>
    obtain rfl := Organ.symbol_of_ofSymbol? ho
    obtain ⟨call, hcall, hsymbol, hstem⟩ := call?_organ w organ
    rw [hcall]
    change (s.paintCall call >>= fun _ => pure ()) = _
    rw [paintCall, hsymbol, ho, hstem, bind_pure]

/-- A shape grown for an organ at its position: on the stem of the walk up to there, and turned by
the number that the leaves before it leave to be drawn next. -/
def GrownAt (s : Scene) (generator : Generator) (symbols : List String) (site : ℕ × Organ)
    (shape : Mesh) : Prop :=
  ∃ w, s.lsystem.turtle.after (symbols.take (site.1 + 1)) = .ok w ∧
    site.2.Grows s.settings s.look w.stem
      (generator.draw ((symbols.take site.1).count Organ.leaf.symbol)) shape

/-- How many numbers a string takes from the generator: one for each leaf, if leaves are boxes. -/
def drawsOf (s : Scene) (symbols : List String) : ℕ :=
  if s.look.leafType = .box then symbols.count Organ.leaf.symbol else 0

theorem drawsOf_append_organ (s : Scene) (symbols : List String) (o : Organ) :
    s.drawsOf (symbols ++ [o.symbol]) = s.drawsOf symbols + o.draws s.look := by
  unfold drawsOf Organ.draws
  by_cases hbox : s.look.leafType = .box
  · cases o <;> simp [hbox, Organ.symbol, drawSymbol]
  · simp [hbox]

theorem drawsOf_append_other (s : Scene) (symbols : List String) {c : String}
    (hc : Organ.ofSymbol? c = none) : s.drawsOf (symbols ++ [c]) = s.drawsOf symbols := by
  have hleaf : c ≠ Organ.leaf.symbol := by
    rintro rfl
    rw [Organ.ofSymbol?_symbol] at hc
    cases hc
  simp [drawsOf, hleaf]

theorem grows_draw (h : Organ.Grows s.settings s.look w.stem
    ((generator.skip (s.drawsOf symbols)).draw 0) o shape) :
    Organ.Grows s.settings s.look w.stem (generator.draw (symbols.count Organ.leaf.symbol)) o shape := by
  by_cases hbox : s.look.leafType = .box
  · rwa [drawsOf, if_pos hbox] at h
  -- the generator stands where it began, but nothing is turned
  · exact h.turn hbox _

/-- What the calls of the first symbols have painted: a shape for each organ among them. -/
def Painted (s : Scene) (generator : Generator) (symbols : List String) (k : ℕ) (c : Canvas) : Prop :=
  ∃ shapes, List.Forall₂ (s.GrownAt generator symbols) (organSites (symbols.take k)) shapes ∧
    c = ⟨generator.skip (s.drawsOf (symbols.take k)), .concat shapes⟩

theorem painted_zero (s : Scene) (generator : Generator) (symbols : List String) :
    s.Painted generator symbols 0 ⟨generator, .empty⟩ := by
  refine ⟨[], .nil, ?_⟩
  simp [drawsOf, Generator.skip]

/-- The next symbol adds the shape of its organ, or nothing. -/
theorem Painted.step {k : ℕ} {symbol : String} (hc : s.Painted generator symbols k c)
    (hsymbol : symbols[k]? = some symbol)
    (hw : s.lsystem.turtle.after (symbols.take (k + 1)) = .ok w)
    (h : (Turtle.call? initialSystem.registry w symbol).toList.forM s.paintCall c = .ok () c') :
    s.Painted generator symbols (k + 1) c' := by
  obtain ⟨shapes, hshapes, rfl⟩ := hc
  have hlen : (symbols.take k).length = k :=
    List.length_take_of_le (List.getElem?_eq_some_iff.mp hsymbol).1.le
  have htake : symbols.take (k + 1) = symbols.take k ++ [symbol] := by
    rw [List.take_add_one, hsymbol]
    rfl
  rw [forM_call?_paintCall] at h
  cases ho : Organ.ofSymbol? symbol with
  | none =>
    rw [ho] at h
    cases h
    refine ⟨shapes, ?_, ?_⟩
    · rw [htake, organSites_append_singleton, ho]
      simpa using hshapes
    · rw [htake, drawsOf_append_other s _ ho]
  | some organ =>
    rw [ho] at h
    obtain ⟨shape, hshape, rfl⟩ := Organ.draw_eq_ok h
    obtain rfl := Organ.symbol_of_ofSymbol? ho
    refine ⟨shapes ++ [shape], ?_, ?_⟩
    · rw [htake, organSites_append_singleton, ho, hlen]
      exact List.rel_append hshapes (.cons ⟨w, hw, grows_draw hshape⟩ .nil)
    · rw [htake, drawsOf_append_organ, Generator.skip_add, Mesh.concat_append_singleton]

theorem filterMap_range_succ {α : Type} (f : ℕ → Option α) (k : ℕ) :
    (List.range (k + 1)).filterMap f = (List.range k).filterMap f ++ (f k).toList := by
  rw [List.range_succ, List.filterMap_append]
  cases h : f k <;> simp [h]

/-- By induction on the number of symbols, as the calls come in the order of their positions. -/
theorem painted_of_calls (hw : s.lsystem.turtle.after symbols = .ok w) {k : ℕ}
    (hk : k ≤ symbols.length)
    (h : ((List.range k).filterMap
      (s.lsystem.turtle.callAt? initialSystem.registry symbols)).forM s.paintCall ⟨generator, .empty⟩ =
      .ok () c) : s.Painted generator symbols k c := by
  induction k generalizing c with
  | zero =>
    cases h
    exact painted_zero s generator symbols
  | succ k ih =>
    have hsymbol : symbols[k]? = some symbols[k] := List.getElem?_eq_getElem hk
    obtain ⟨v, hv⟩ := Turtle.exists_after_take hw (k + 1)
    rw [filterMap_range_succ, Turtle.callAt?_of_ok hsymbol hv, List.forM_eq_forM,
      List.forM_append] at h
    obtain ⟨⟨⟩, c₁, h₁, h₂⟩ := of_bind_eq_ok h
    exact (ih (by omega) h₁).step hsymbol hv h₂

theorem counts_concat {sites : List (ℕ × Organ)} {shapes : List Mesh}
    (h : List.Forall₂ (s.GrownAt generator symbols) sites shapes) :
    ∃ v t : ℕ, (Mesh.concat shapes).Counts v t ∧
      (v : ℤ) = 4 * drawnCount .branch sites shapes + 4 * drawnCount .leaf sites shapes +
        sites.countP (·.2 = .flower) * (2 * s.settings.starPoints + s.settings.circleSegments + 2) ∧
      (t : ℤ) = 2 * drawnCount .branch sites shapes + 2 * drawnCount .leaf sites shapes +
        sites.countP (·.2 = .flower) * (2 * s.settings.starPoints + s.settings.circleSegments) := by
  induction h with
  | nil => exact ⟨0, 0, Mesh.counts_empty, by simp [drawnCount], by simp [drawnCount]⟩
  | @cons site shape sites shapes hgrown _ ih =>
    obtain ⟨v, t, hcounts, hv, ht⟩ := ih
    obtain ⟨i, o⟩ := site
    obtain ⟨w, -, hshape⟩ := hgrown
    rw [Mesh.concat_cons]
    by_cases ho : o = .flower
    · subst ho
      obtain ⟨points, segments, hpoints, hsegments, hsize⟩ := hshape.counts_flower
      have hbranch : drawnCount .branch ((i, .flower) :: sites) (shape :: shapes) =
          drawnCount .branch sites shapes := by simp [drawnCount_cons]
      have hleaf : drawnCount .leaf ((i, .flower) :: sites) (shape :: shapes) =
          drawnCount .leaf sites shapes := by simp [drawnCount_cons]
      have hflower : ((i, Organ.flower) :: sites).countP (·.2 = .flower) =
          sites.countP (·.2 = .flower) + 1 := by simp
      rw [hbranch, hleaf, hflower]
      refine ⟨_, _, hsize.append hcounts, ?_, ?_⟩
      · push_cast
        rw [hv, hpoints, hsegments]
        ring
      · push_cast
        rw [ht, hpoints, hsegments]
        ring
    · have hflower : ((i, o) :: sites).countP (·.2 = .flower) = sites.countP (·.2 = .flower) := by
        simp [ho]
      have hdrawn := drawnCount_cons_of_ne_flower i ho sites shape shapes
      rw [hflower]
      by_cases hn : shape = .empty
      · rw [if_pos hn] at hdrawn
        rw [hn, Mesh.empty_append]
        rw [hn] at hdrawn
        exact ⟨v, t, hcounts, by omega, by omega⟩
      · rw [if_neg hn] at hdrawn
        exact ⟨_, _, (hshape.counts_of_ne_empty ho hn).append hcounts, by omega, by omega⟩

theorem grow_eq_ok (h : grow s = .ok notice grown) :
    ∃ generator trace, Generator.ofSeed s.settings.seed = .ok generator ∧
      LSystem.grow ⟨s.lsystem.turtle, s.rules, s.lsystem.registry⟩ s.input s.clampedIterations =
        .ok (grown.strand, trace) ∧
      s.paintTrace trace ⟨generator, .empty⟩ = .ok () grown.canvas := by
  unfold grow at h
  rw [installRules_eq] at h
  cases hg : Generator.ofSeed s.settings.seed with
  | error fault =>
    rw [hg] at h
    cases h
  | ok generator =>
    rw [hg] at h
    dsimp only at h
    split at h
    · cases h
    · rename_i strand trace hgrow
      split at h
      · cases h
      · rename_i canvas hpaint
        cases h
        exact ⟨generator, trace, rfl, hgrow, hpaint⟩

theorem paintTrace_eq_ok {trace : Trace} (h : s.paintTrace trace c = .ok () c') :
    trace.fault? = none ∧ trace.calls.toList.forM s.paintCall c = .ok () c' := by
  obtain ⟨⟨⟩, c₁, hcalls, hfault⟩ := of_bind_eq_ok h
  cases ht : trace.fault? with
  | some fault =>
    rw [ht] at hfault
    cases hfault
  | none =>
    rw [ht] at hfault
    cases hfault
    refine ⟨rfl, ?_⟩
    rw [← List.forM_toArray]
    exact hcalls

/-- A canvas shows a string from a fresh generator: one shape for each organ in order, numbers drawn
for boxes only, and so many vertices and triangles. -/
structure Shows (s : Scene) (generator : Generator) (symbols : List String) (shapes : List Mesh)
    (canvas : Canvas) : Prop where
  grown : List.Forall₂ (s.GrownAt generator symbols) (organSites symbols) shapes
  mesh_eq : canvas.mesh = .concat shapes
  generator_eq : canvas.generator = generator.skip (s.drawsOf symbols)
  vertexCount_eq : (canvas.mesh.vertexCount : ℤ) =
    4 * drawnCount .branch (organSites symbols) shapes +
      4 * drawnCount .leaf (organSites symbols) shapes +
      symbols.count Organ.flower.symbol *
        (2 * s.settings.starPoints + s.settings.circleSegments + 2)
  triangleCount_eq : (canvas.mesh.triangleCount : ℤ) =
    2 * drawnCount .branch (organSites symbols) shapes +
      2 * drawnCount .leaf (organSites symbols) shapes +
      symbols.count Organ.flower.symbol * (2 * s.settings.starPoints + s.settings.circleSegments)

/-- What a canvas shows is determined. -/
theorem Shows.unique {shapes shapes' : List Mesh} (h : s.Shows generator symbols shapes c)
    (h' : s.Shows generator symbols shapes' c') : c = c' := by
  have hgrown : Relator.RightUnique (s.GrownAt generator symbols) := by
    rintro site m n ⟨w, hw, hm⟩ ⟨w', hw', hn⟩
    obtain rfl := Except.ok.inj (hw.symm.trans hw')
    exact hm.unique hn
  obtain rfl := hgrown.forall₂ h.grown h'.grown
  cases c
  cases c'
  rw [Canvas.mk.injEq]
  exact ⟨h.generator_eq.trans h'.generator_eq.symm, h.mesh_eq.trans h'.mesh_eq.symm⟩

/-- The mesh of a successful generation is the shapes of the organs in a row, in the order in which
the derived string names them. -/
theorem grow_shows_organs (hs : s.Reachable) (h : grow s = .ok notice grown) :
    ∃ generator shapes, Generator.ofSeed s.settings.seed = .ok generator ∧
      s.rules.derive s.input s.clampedIterations = .ok grown.strand ∧
      s.Shows generator (symbolsOf grown.strand.symbols) shapes grown.canvas := by
  obtain ⟨generator, trace, hseed, hgrow, hpaint⟩ := grow_eq_ok h
  obtain ⟨strand, hderive, hwalk⟩ := bind_eq_ok.mp hgrow
  cases hwalk
  obtain ⟨hfault, hcalls⟩ := paintTrace_eq_ok hpaint
  rw [Turtle.toList_walk_calls, hs.registry_eq] at hcalls
  obtain ⟨w, hw⟩ := Turtle.walk_fault_eq_none_iff.mp hfault
  obtain ⟨shapes, hshapes, hcanvas⟩ := painted_of_calls hw le_rfl hcalls
  rw [List.take_length] at hshapes hcanvas
  obtain ⟨v, t, hcounts, hv, ht⟩ := counts_concat hshapes
  rw [countP_organSites] at hv ht
  refine ⟨generator, shapes, hseed, hderive, ⟨hshapes, ?_, ?_, ?_, ?_⟩⟩
  · rw [hcanvas]
  · rw [hcanvas]
  · rw [hcanvas, hcounts.vertexCount_eq, hv]
  · rw [hcanvas, hcounts.triangleCount_eq, ht]

/-- The notice of a generation on a new scene after some acts. -/
def noticeAfter (settings : Settings) (acts : List Act) : Option Notice :=
  match new settings with
  | .error _ => none
  | .ok (origin, _) =>
    match grow (acts.foldl act origin) with
    | .error _ _ => none
    | .ok notice _ => some notice

theorem exists_grown_of_noticeAfter {settings : Settings} {acts : List Act}
    (h : noticeAfter settings acts = some notice) :
    ∃ origin loaded s grown, new settings = .ok (origin, loaded) ∧ acts.foldl act origin = s ∧
      grow s = .ok notice grown := by
  unfold noticeAfter at h
  split at h
  · cases h
  · rename_i origin loaded hnew
    split at h
    · cases h
    · rename_i grown hgrow
      cases h
      exact ⟨origin, loaded, _, grown, hnew, rfl, hgrow⟩

/-- A box and a flower, without a step forward. -/
theorem grow_shows_box_and_flower : ∃ origin loaded s grown,
    (new ⟨0, 100, 0, 10, 0, "__data__", 0, -0.2, -0.1, -0.2, 10, 0.8, 6⟩ = .ok (origin, loaded) ∧
      [Act.setLook initialLook, .setInput "LA", .setIterations 1, .clearRules,
        .addRule "A" "XJ"].foldl act origin = s ∧
      grow s = .ok (.generated 3 32 28) grown) ∧
    ∃ generator shapes, Generator.ofSeed s.settings.seed = .ok generator ∧
      s.rules.derive s.input s.clampedIterations = .ok grown.strand ∧
      s.Shows generator (symbolsOf grown.strand.symbols) shapes grown.canvas := by
  obtain ⟨origin, loaded, s, grown, hnew, hacts, hgrow⟩ :=
    exists_grown_of_noticeAfter
      (show noticeAfter ⟨0, 100, 0, 10, 0, "__data__", 0, -0.2, -0.1, -0.2, 10, 0.8, 6⟩
        [Act.setLook initialLook, .setInput "LA", .setIterations 1, .clearRules,
          .addRule "A" "XJ"] = some (.generated 3 32 28) by decide +kernel)
  exact ⟨origin, loaded, s, grown, ⟨hnew, hacts, hgrow⟩,
    grow_shows_organs ⟨_, origin, loaded, _, hnew, hacts⟩ hgrow⟩

end Scene
end PlantGrammar
