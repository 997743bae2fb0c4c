import Mathlib
import PlantGrammar.Proofs.Skeleton.Merge

/-! # Order and repetition of recorded segments

The nodes, the pairs that are joined and the tips of a skeleton depend on which segments are recorded,
and not on their order. The order decides which of several segments between two nodes leaves its
data. Segments that are recorded again leave the whole graph as it is.
-/
namespace PlantGrammar

namespace Segment
variable {decimals : ℤ} {e : Segment} {es es' : List Segment} {a : Arc} {arcs : List Arc}

def limb (e : Segment) : Limb := ⟨e.symbol, e.startWidth, e.finishWidth⟩

/-- No coordinate of an end point rounds to NaN. An end point need not be one that can be rounded. -/
def AvoidsNaN (decimals : ℤ) (e : Segment) : Prop :=
  ∀ s, Site.ofPoint decimals e.start = .ok s ∨ Site.ofPoint decimals e.finish = .ok s →
    s.isNaN = false

theorem avoidsNaN_of_hasSite (hs : HasSite decimals e.start) (hf : HasSite decimals e.finish) :
    e.AvoidsNaN decimals := by
  obtain ⟨a, ha, han⟩ := hs
  obtain ⟨b, hb, hbn⟩ := hf
  rintro s (h | h)
  · rwa [← Except.ok.inj (ha.symm.trans h)]
  · rwa [← Except.ok.inj (hb.symm.trans h)]

/-- Both end points can be rounded. -/
def Rounded (decimals : ℤ) (e : Segment) : Prop :=
  ∃ s t, Site.ofPoint decimals e.start = .ok s ∧ Site.ofPoint decimals e.finish = .ok t

/-- Both ends of one segment round to the same points as those of the other. -/
def Coincides (decimals : ℤ) (e d : Segment) : Prop :=
  Site.RoundAlike decimals e.start d.start ∧ Site.RoundAlike decimals e.finish d.finish

theorem rightUnique_rounds : Relator.RightUnique (Rounds decimals) := by
  rintro e ⟨⟨a, b⟩, limb⟩ ⟨⟨c, d⟩, limb'⟩ h h'
  obtain rfl : a = c := Except.ok.inj (h.start.symm.trans h'.start)
  obtain rfl : b = d := Except.ok.inj (h.finish.symm.trans h'.finish)
  obtain rfl : limb = limb' := h.limb.trans h'.limb.symm
  rfl

theorem exists_arcs (hn : ∀ e ∈ es, e.AvoidsNaN decimals) (hr : ∀ e ∈ es, e.Rounded decimals) :
    ∃ arcs, List.Forall₂ (Rounds decimals) es arcs := by
  induction es with
  | nil => exact ⟨[], .nil⟩
  | cons e es ih =>
    obtain ⟨arcs, harcs⟩ := ih (fun d hd => hn d (List.mem_cons_of_mem e hd))
      fun d hd => hr d (List.mem_cons_of_mem e hd)
    obtain ⟨s, t, hs, ht⟩ := hr e List.mem_cons_self
    have hsite := hn e List.mem_cons_self
    exact ⟨((s, t), e.limb) :: arcs,
      .cons ⟨hs, ht, hsite s (.inl hs), hsite t (.inr ht), rfl⟩ harcs⟩

/-- The arcs of rearranged segments are the same ones rearranged. -/
theorem exists_arcs_of_perm (hp : es'.Perm es) (h : List.Forall₂ (Rounds decimals) es arcs) :
    ∃ arcs', List.Forall₂ (Rounds decimals) es' arcs' ∧ arcs'.Perm arcs :=
  List.perm_comp_forall₂ hp h

theorem exists_mem_of_mem_arcs (h : List.Forall₂ (Rounds decimals) es arcs) (ha : a ∈ arcs) :
    ∃ e ∈ es, e.Rounds decimals a := by
  induction h with
  | nil => cases ha
  | cons he _ ih =>
    rcases List.mem_cons.mp ha with rfl | ha
    · exact ⟨_, List.mem_cons_self, he⟩
    · obtain ⟨d, hd, hda⟩ := ih ha
      exact ⟨d, List.mem_cons_of_mem _ hd, hda⟩

theorem coincides_of_rounds {e d : Segment} {a b : Arc} (he : e.Rounds decimals a)
    (hd : d.Rounds decimals b) (hab : a.1 = b.1) : e.Coincides decimals d := by
  obtain ⟨hstart, hfinish⟩ := Prod.ext_iff.mp hab
  exact ⟨(Site.eq_iff_roundAlike he.start he.start_isNaN hd.start).mp hstart,
    (Site.eq_iff_roundAlike he.finish he.finish_isNaN hd.finish).mp hfinish⟩

end Segment

namespace Skeleton
variable {g g' : Skeleton} {decimals : ℤ} {es es' before : List Segment} {arcs arcs' more : List Arc}
  {a b : Site} {limb : Limb}

theorem ends_append (arcs more : List Arc) : ends (arcs ++ more) = ends arcs ++ ends more :=
  List.flatMap_append

theorem ends_subset_of_perm (h : arcs'.Perm arcs) : ends arcs' ⊆ ends arcs :=
  (h.flatMap_right _).subset

theorem exists_merges_of_rounds (h : List.Forall₂ (Segment.Rounds decimals) es arcs) :
    ∃ g, ofSegments decimals es = .ok g ∧ g.Merges arcs := by
  have hs : ∀ e ∈ es, HasSite decimals e.start ∧ HasSite decimals e.finish := by
    intro e he
    obtain ⟨i, hi, rfl⟩ := List.getElem_of_mem he
    obtain ⟨hlen, hget⟩ := List.forall₂_iff_get.mp h
    have ha := hget i hi (hlen ▸ hi)
    exact ⟨⟨_, ha.start, ha.start_isNaN⟩, ⟨_, ha.finish, ha.finish_isNaN⟩⟩
  obtain ⟨g, arcs', hg, harcs', hm⟩ := exists_merges hs
  obtain rfl := List.right_unique_forall₂' Segment.rightUnique_rounds h harcs'
  exact ⟨g, hg, hm⟩

theorem rounded_of_foldlM (h : es.foldlM (addSegment decimals) g = .ok g') :
    ∀ e ∈ es, e.Rounded decimals := by
  induction es generalizing g with
  | nil => simp
  | cons e es ih =>
    rw [List.foldlM_cons] at h
    obtain ⟨k, hk, h⟩ := bind_eq_ok.mp h
    obtain ⟨s, hs, hk⟩ := bind_eq_ok.mp hk
    obtain ⟨t, ht, -⟩ := bind_eq_ok.mp hk
    exact List.forall_mem_cons.mpr ⟨⟨s, t, hs, ht⟩, ih h⟩

/-- Segments make a graph just when all their end points can be rounded. -/
theorem exists_ofSegments_iff (hn : ∀ e ∈ es, e.AvoidsNaN decimals) :
    (∃ g, ofSegments decimals es = .ok g) ↔ ∀ e ∈ es, e.Rounded decimals := by
  constructor
  · rintro ⟨g, hg⟩
    exact rounded_of_foldlM hg
  · intro hr
    obtain ⟨arcs, harcs⟩ := Segment.exists_arcs hn hr
    obtain ⟨g, hg, -⟩ := exists_merges_of_rounds harcs
    exact ⟨g, hg⟩

theorem exists_merges_of_ofSegments (hn : ∀ e ∈ es, e.AvoidsNaN decimals)
    (hg : ofSegments decimals es = .ok g) :
    ∃ arcs, List.Forall₂ (Segment.Rounds decimals) es arcs ∧ g.Merges arcs := by
  obtain ⟨arcs, harcs⟩ := Segment.exists_arcs hn (rounded_of_foldlM hg)
  obtain ⟨k, hk, hm⟩ := exists_merges_of_rounds harcs
  obtain rfl := Except.ok.inj (hg.symm.trans hk)
  exact ⟨arcs, harcs, hm⟩

/-- An edge from one site to another carries the data. -/
def Carries (g : Skeleton) (a b : Site) (limb : Limb) : Prop :=
  ∃ i j, g.nodes[i]? = some a ∧ g.nodes[j]? = some b ∧ (i, j, limb) ∈ g.edges

theorem Merges.carries_iff (h : g.Merges arcs) :
    g.Carries a b limb ↔ lastValue? arcs (a, b) = some limb := by
  constructor
  · rintro ⟨i, j, hi, hj, he⟩
    exact (h.mem_edges hi hj).mp he
  · intro hlast
    have hnode : ∀ s ∈ [a, b], ∃ i : ℕ, g.nodes[i]? = some s := by
      intro s hs
      have hends : s ∈ ends arcs := List.mem_flatMap.mpr ⟨_, mem_of_lastValue? hlast, hs⟩
      rw [← List.mem_eraseDups, ← h.nodes, Array.mem_toList_iff] at hends
      exact Array.mem_iff_getElem?.mp hends
    obtain ⟨i, hi⟩ := hnode a (by simp)
    obtain ⟨j, hj⟩ := hnode b (by simp)
    exact ⟨i, j, hi, hj, (h.mem_edges hi hj).mpr hlast⟩

/-- The same nodes, the same pairs of nodes that are joined, and the same tips, in any order. -/
structure SameParts (g g' : Skeleton) : Prop where
  nodes : g.nodes.toList.Perm g'.nodes.toList
  pairs : ∀ a b, (∃ limb, g.Carries a b limb) ↔ ∃ limb, g'.Carries a b limb
  tips : g.tips.Perm g'.tips

theorem Merges.sameParts (h : g.Merges arcs) (h' : g'.Merges arcs') (hp : arcs.Perm arcs') :
    g.SameParts g' := by
  have hnodes : g.nodes.toList.Perm g'.nodes.toList := by
    refine (List.perm_ext_iff_of_nodup h.nodup h'.nodup).mpr fun s => ?_
    rw [h.nodes, h'.nodes, List.mem_eraseDups, List.mem_eraseDups]
    exact ⟨fun hs => ends_subset_of_perm hp hs, fun hs => ends_subset_of_perm hp.symm hs⟩
  refine ⟨hnodes, fun a b => ?_, ?_⟩
  · simp only [h.carries_iff, h'.carries_iff, exists_lastValue?_iff]
    exact (hp.map Prod.fst).mem_iff
  · rw [h.tips_eq, h'.tips_eq]
    have hstarts : (fun s => decide (∀ a ∈ arcs, a.1.1 ≠ s)) =
        fun s => decide (∀ a ∈ arcs', a.1.1 ≠ s) := by
      funext s
      simp only [hp.mem_iff]
    rw [hstarts]
    exact hnodes.filter _

/-- What two orders leave at the same pair is data of arcs between that pair. -/
theorem Merges.related {same : Limb → Limb → Prop} (h : g.Merges arcs) (h' : g'.Merges arcs')
    (hp : arcs.Perm arcs') (hsame : ∀ x ∈ arcs, ∀ y ∈ arcs, x.1 = y.1 → same x.2 y.2)
    {limb' : Limb} (hc : g.Carries a b limb) (hc' : g'.Carries a b limb') : same limb limb' :=
  hsame _ (mem_of_lastValue? (h.carries_iff.mp hc)) _
    (hp.mem_iff.mpr (mem_of_lastValue? (h'.carries_iff.mp hc'))) rfl

theorem exists_ofSegments_iff_of_perm (hn : ∀ e ∈ es, e.AvoidsNaN decimals) (hp : es'.Perm es) :
    (∃ g', ofSegments decimals es' = .ok g') ↔ ∃ g, ofSegments decimals es = .ok g := by
  rw [exists_ofSegments_iff hn, exists_ofSegments_iff fun e he => hn e (hp.mem_iff.mp he)]
  exact forall_congr' fun e => by rw [hp.mem_iff]

/-- The graphs of two orders come from rearranged arcs. -/
theorem exists_merges_of_perm (hn : ∀ e ∈ es, e.AvoidsNaN decimals) (hp : es'.Perm es)
    (hg : ofSegments decimals es = .ok g) (hg' : ofSegments decimals es' = .ok g') :
    ∃ arcs arcs', List.Forall₂ (Segment.Rounds decimals) es arcs ∧ g.Merges arcs ∧
      g'.Merges arcs' ∧ arcs.Perm arcs' := by
  obtain ⟨arcs, harcs, hm⟩ := exists_merges_of_ofSegments hn hg
  obtain ⟨arcs', harcs', hperm⟩ := Segment.exists_arcs_of_perm hp harcs
  obtain ⟨k, hk, hm'⟩ := exists_merges_of_rounds harcs'
  obtain rfl := Except.ok.inj (hg'.symm.trans hk)
  exact ⟨arcs, arcs', harcs, hm, hm', hperm.symm⟩

theorem Merges.eq_of_ends (h : g.Merges arcs) (h' : g'.Merges arcs')
    (hends : (ends arcs).eraseDups = (ends arcs').eraseDups)
    (hmap : OrderedMap.ofList arcs = OrderedMap.ofList arcs') : g = g' := by
  have hnodes : g.nodes = g'.nodes :=
    Array.toList_inj.mp (h.nodes.trans (hends.trans h'.nodes.symm))
  -- A site has one number, so an arc is stood for by one edge only.
  have hunique : Relator.LeftUnique (Stands g.nodes) := by
    rintro ⟨i, j, limb⟩ x ⟨k, l, limb'⟩ hx hy
    obtain rfl := (number_eq_iff h.nodup hx.1 hy.1).mpr rfl
    obtain rfl := (number_eq_iff h.nodup hx.2.1 hy.2.1).mpr rfl
    exact Prod.ext rfl (Prod.ext rfl (hx.2.2.trans hy.2.2.symm))
  have hedges : g.edges = g'.edges :=
    List.left_unique_forall₂' hunique h.edges (by rw [hmap, hnodes]; exact h'.edges)
  cases g
  cases g'
  cases hnodes
  cases hedges
  rfl

theorem ofList_append_again (arcs more : List Arc) :
    OrderedMap.ofList (arcs ++ more ++ more) = OrderedMap.ofList (arcs ++ more) := by
  refine OrderedMap.ofList_congr ?_ (lastValue?_append_again arcs more)
  rw [List.map_append]
  exact eraseDups_append_of_subset (List.map_subset _ (List.subset_append_right arcs more))

/-- Segments that have been recorded last are recorded again without effect. -/
theorem foldlM_addSegment_again (hn : ∀ e ∈ before ++ es, e.AvoidsNaN decimals)
    (hg : ofSegments decimals (before ++ es) = .ok g) :
    es.foldlM (addSegment decimals) g = .ok g := by
  obtain ⟨hnb, hne⟩ := List.forall_mem_append.mp hn
  obtain ⟨hrb, hre⟩ := List.forall_mem_append.mp (rounded_of_foldlM hg)
  obtain ⟨arcs, harcs⟩ := Segment.exists_arcs hnb hrb
  obtain ⟨more, hmore⟩ := Segment.exists_arcs hne hre
  obtain ⟨k, hk, hm⟩ := exists_merges_of_rounds (List.rel_append harcs hmore)
  obtain rfl := Except.ok.inj (hg.symm.trans hk)
  obtain ⟨k, hk, hm'⟩ := exists_merges_of_rounds (List.rel_append (List.rel_append harcs hmore) hmore)
  -- The graph of all three stretches goes on from `g` over the last one.
  rw [ofSegments, List.foldlM_append, ← ofSegments, hg] at hk
  have hkg : k = g := by
    refine hm'.eq_of_ends hm ?_ (ofList_append_again arcs more)
    rw [ends_append (arcs ++ more), ends_append arcs]
    exact eraseDups_append_of_subset (List.subset_append_right ..)
  rwa [hkg] at hk

theorem foldlM_addSegment_replicate (hg : es.foldlM (addSegment decimals) g = .ok g) (n : ℕ) :
    (List.replicate n es).flatten.foldlM (addSegment decimals) g = .ok g := by
  induction n with
  | zero => rfl
  | succ n ih =>
    rw [List.replicate_succ, List.flatten_cons, List.foldlM_append, hg]
    exact ih

/-- Recording the same segments any number of times makes the graph of recording them once. -/
theorem ofSegments_replicate (hn : ∀ e ∈ es, e.AvoidsNaN decimals) (n : ℕ) :
    ofSegments decimals (List.replicate (n + 1) es).flatten = ofSegments decimals es := by
  rw [List.replicate_succ, List.flatten_cons, ofSegments, List.foldlM_append, ← ofSegments]
  cases hg : ofSegments decimals es with
  | error fault => rfl
  | ok g =>
    have hagain : es.foldlM (addSegment decimals) g = .ok g :=
      foldlM_addSegment_again (List.nil_append es ▸ hn) (List.nil_append es ▸ hg)
    exact foldlM_addSegment_replicate hagain n

end Skeleton

namespace LSystem
variable {l : LSystem} {axiomText : String} {count : ℤ} {es : List Segment}

/-- The segments of one run. -/
def runSegments (l : LSystem) (axiomText : String) (count : ℤ) : Except Fault (List Segment) := do
  let (_, trace) ← l.grow axiomText count
  match trace.fault? with
  | some fault => .error fault
  | none => return trace.calls.toList.map Call.segment

theorem record_succ (l : LSystem) (axiomText : String) (count : ℤ) (afresh : Bool) (runs : ℕ) :
    l.record axiomText count afresh (runs + 1) = do
      let recorded ← l.record axiomText count afresh runs
      let es ← l.runSegments axiomText count
      return (if afresh then [] else recorded) ++ es := by
  rw [record, record, List.range_succ, List.foldlM_append]
  congr 1
  funext recorded
  simp only [List.foldlM_cons, List.foldlM_nil, runSegments, bind_pure]
  cases l.grow axiomText count with
  | error fault => rfl
  | ok grown =>
    simp only [bind, Except.bind]
    cases grown.2.fault? with
    | some fault => rfl
    | none => rfl

/-- Runs into one record repeat the segments of the first. -/
theorem record_replicate (h : l.record axiomText count false 1 = .ok es) (runs : ℕ) :
    l.record axiomText count false runs = .ok (List.replicate runs es).flatten := by
  have hrun : l.runSegments axiomText count = .ok es := by
    rw [record_succ] at h
    obtain ⟨recorded, hzero, h⟩ := bind_eq_ok.mp h
    obtain ⟨ds, hds, h⟩ := bind_eq_ok.mp h
    cases hzero
    cases h
    exact hds
  induction runs with
  | zero => rfl
  | succ runs ih =>
    rw [record_succ, ih, hrun, List.replicate_succ', List.flatten_append, List.flatten_singleton]
    rfl

end LSystem

namespace Skeleton
variable {decimals : ℤ} {es : List Segment}

/-- A graph has the same parts in whatever order its segments are recorded. If the data of any two
segments that coincide are related, for instance equal, then so are the data which two orders leave
at a pair of nodes. Segments recorded twice, or by more runs of one system into one record, make the
very graph that they make when recorded once. -/
theorem ofSegments_ignores_order_and_repetition (hn : ∀ e ∈ es, e.AvoidsNaN decimals) :
    (∀ es', es'.Perm es →
      ((∃ g', ofSegments decimals es' = .ok g') ↔ ∃ g, ofSegments decimals es = .ok g) ∧
      ∀ g g', ofSegments decimals es = .ok g → ofSegments decimals es' = .ok g' →
        g.SameParts g' ∧
        ∀ same : Limb → Limb → Prop,
          (∀ e ∈ es, ∀ d ∈ es, e.Coincides decimals d → same e.limb d.limb) →
          ∀ a b limb limb', g.Carries a b limb → g'.Carries a b limb' → same limb limb') ∧
    ofSegments decimals (es ++ es) = ofSegments decimals es ∧
    ∀ (l : LSystem) (axiomText : String) (count : ℤ) (runs : ℕ),
      l.record axiomText count false 1 = .ok es →
      (l.record axiomText count false (runs + 1) >>= ofSegments decimals) =
        ofSegments decimals es := by
  refine ⟨fun es' hp => ⟨exists_ofSegments_iff_of_perm hn hp, fun g g' hg hg' => ?_⟩, ?_,
    fun l axiomText count runs hrecord => ?_⟩
  · obtain ⟨arcs, arcs', harcs, hm, hm', hperm⟩ := exists_merges_of_perm hn hp hg hg'
    refine ⟨hm.sameParts hm' hperm, fun same hsame a b limb limb' hc hc' => ?_⟩
    refine hm.related hm' hperm (fun x hx y hy hxy => ?_) hc hc'
    obtain ⟨e, he, hex⟩ := Segment.exists_mem_of_mem_arcs harcs hx
    obtain ⟨d, hd, hdy⟩ := Segment.exists_mem_of_mem_arcs harcs hy
    rw [hex.limb, hdy.limb]
    exact hsame e he d hd (Segment.coincides_of_rounds hex hdy hxy)
  · have htwice := ofSegments_replicate hn 1
    rwa [List.replicate_succ, List.replicate_one, List.flatten_cons, List.flatten_singleton]
      at htwice
  · rw [LSystem.record_replicate hrecord]
    exact ofSegments_replicate hn runs

/-- The first and the last segment coincide with different data, of which the later ones stay. The
buds and leaves of a system whose turtle stays where it is are recorded three times. -/
theorem ofSegments_ignores_order_and_repetition_of_conflict : ∃ es l ds g g',
    es = [⟨"F", .items [0.04, -0.0], 2, .items [1.02, 0], 1⟩,
      ⟨"L", .items [1, 0], 1, .items [1, 2, 9], 1⟩,
      ⟨"F", .items [-0.0, 0], 3, .items [0.98, -0.04], 2⟩] ∧
    (∀ e ∈ es, Segment.AvoidsNaN 1 e) ∧
    ofSegments 1 es = .ok g ∧ ofSegments 1 es.reverse = .ok g' ∧ g.SameParts g' ∧
    g.edges = [(0, 1, ⟨"F", 3, 2⟩), (1, 2, ⟨"L", 1, 1⟩)] ∧
    g'.edges = [(0, 1, ⟨"F", 2, 1⟩), (1, 2, ⟨"L", 1, 1⟩)] ∧
    ofSegments 1 (es ++ es) = .ok g ∧
    l = ((LSystem.ofCursor ⟨[3, 4], 90, 2, 10⟩).register "X" "bud").register "L" "leaf" ∧
    l.record "XL" 0 false 1 = .ok ds ∧ (∀ e ∈ ds, Segment.AvoidsNaN 1 e) ∧ ds.length = 2 ∧
    (l.record "XL" 0 false 3 >>= ofSegments 1) = ofSegments 1 ds := by
  have hn : ∀ e ∈ [⟨"F", .items [0.04, -0.0], 2, .items [1.02, 0], 1⟩,
      ⟨"L", .items [1, 0], 1, .items [1, 2, 9], 1⟩,
      ⟨"F", .items [-0.0, 0], 3, .items [0.98, -0.04], 2⟩], Segment.AvoidsNaN 1 e := by
    intro e he
    refine Segment.avoidsNaN_of_hasSite ?_ ?_
    all_goals
      simp only [List.mem_cons, List.not_mem_nil, or_false] at he
      rcases he with rfl | rfl | rfl
    all_goals exact ⟨_, rfl, by decide +kernel⟩
  have hstill : ∀ e ∈ [⟨"bud", .items [3, 4], 2, .items [3, 4], 2⟩,
      ⟨"leaf", .items [3, 4], 2, .items [3, 4], 2⟩], Segment.AvoidsNaN 1 e := by
    intro e he
    refine Segment.avoidsNaN_of_hasSite ?_ ?_
    all_goals
      simp only [List.mem_cons, List.not_mem_nil, or_false] at he
      rcases he with rfl | rfl
    all_goals exact ⟨_, rfl, by decide +kernel⟩
  obtain ⟨hperm, htwice, -⟩ := ofSegments_ignores_order_and_repetition hn
  obtain ⟨-, -, hruns⟩ := ofSegments_ignores_order_and_repetition hstill
  have hparts := ((hperm _ (List.reverse_perm _)).2 _ _ rfl rfl).1
  exact ⟨_, _, _, _, _, rfl, hn, rfl, rfl, hparts, by decide +kernel, by decide +kernel, htwice, rfl,
    by decide +kernel, hstill, rfl, hruns _ "XL" 0 2 (by decide +kernel)⟩

end Skeleton
end PlantGrammar
