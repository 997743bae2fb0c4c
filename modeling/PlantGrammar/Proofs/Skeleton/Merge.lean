import Mathlib
import PlantGrammar.Proofs.OrderedMap
import PlantGrammar.Proofs.Skeleton.Reach

/-! # Skeletons merge what rounds to the same

The graph of recorded segments is their quotient by rounding: a node for each rounded point in the
order first seen, and an edge for each pair of nodes that a segment joins. An edge keeps the place of
the first of its segments and has the data of the last.
-/
namespace PlantGrammar

namespace Site
variable {x y : Float} {s t : Site} {decimals : ℤ} {p q : Coordinates}

theorem isNaN_unsignedZero (x : Float) : (unsignedZero x).isNaN = x.isNaN := by
  unfold unsignedZero
  by_cases h : (x == 0) = true
  · have hn : x ≠ Float.nan := (Float.beq_iff_ne_nan_and_eq.mp h).1
    rw [if_pos h, Float.isNaN_eq_decide_eq_nan (f := x), decide_eq_false hn]
    rfl
  · rw [if_neg h]

theorem unsignedZero_eq_iff (hx : x.isNaN = false) :
    unsignedZero x = unsignedZero y ↔ (x == y) = true := by
  have hzero : ((0 : Float) == 0) = true := rfl
  have hself : (x == x) = true := by simpa using hx
  unfold unsignedZero
  by_cases h : (x == 0) = true
  · by_cases h' : (y == 0) = true
    · rw [if_pos h, if_pos h']
      exact iff_of_true rfl (BEq.trans h (BEq.symm h'))
    · rw [if_pos h, if_neg h']
      refine iff_of_false ?_ fun hxy => h' (BEq.trans (BEq.symm hxy) h)
      rintro rfl
      exact h' hzero
  · by_cases h' : (y == 0) = true
    · rw [if_neg h, if_pos h']
      refine iff_of_false ?_ fun hxy => h (BEq.trans hxy h')
      rintro rfl
      exact h hzero
    · rw [if_neg h, if_neg h']
      constructor
      · rintro rfl
        exact hself
      · intro hxy
        obtain ⟨-, -, hxy | ⟨rfl, -⟩ | ⟨-, rfl⟩⟩ := Float.beq_iff_ne_nan_and_eq.mp hxy
        · exact hxy
        · exact absurd hzero h
        · exact absurd hzero h'

/-- Rounded to the same numbers, where zeros of both signs are the same. -/
def RoundAlike (decimals : ℤ) (p q : Coordinates) : Prop :=
  ∃ u v, Vec.ofPoint p = .ok u ∧ Vec.ofPoint q = .ok v ∧
    (Number.roundToPlaces decimals u.x == Number.roundToPlaces decimals v.x) = true ∧
    (Number.roundToPlaces decimals u.y == Number.roundToPlaces decimals v.y) = true

theorem ofPoint_eq_ok (h : ofPoint decimals p = .ok s) : ∃ v, Vec.ofPoint p = .ok v ∧
    s = ⟨unsignedZero (Number.roundToPlaces decimals v.x),
      unsignedZero (Number.roundToPlaces decimals v.y)⟩ := by
  obtain ⟨xs, hxs, h⟩ := bind_eq_ok.mp h
  split at h
  · cases h
  · obtain ⟨v, hv, h⟩ := bind_eq_ok.mp h
    cases h
    exact ⟨v, bind_eq_ok.mpr ⟨xs, hxs, hv⟩, rfl⟩

theorem eq_iff_roundAlike (hs : ofPoint decimals p = .ok s) (hn : s.isNaN = false)
    (ht : ofPoint decimals q = .ok t) : s = t ↔ RoundAlike decimals p q := by
  obtain ⟨u, hu, rfl⟩ := ofPoint_eq_ok hs
  obtain ⟨v, hv, rfl⟩ := ofPoint_eq_ok ht
  simp only [isNaN, isNaN_unsignedZero, Bool.or_eq_false_iff] at hn
  rw [Site.mk.injEq, unsignedZero_eq_iff hn.1, unsignedZero_eq_iff hn.2]
  constructor
  · intro h
    exact ⟨u, v, hu, hv, h⟩
  · rintro ⟨u', v', hu', hv', h⟩
    obtain rfl := Except.ok.inj (hu.symm.trans hu')
    obtain rfl := Except.ok.inj (hv.symm.trans hv')
    exact h

theorem eq_of_same (h : s.same t = true) : s = t := by
  obtain ⟨xs, ys⟩ := s
  obtain ⟨xt, yt⟩ := t
  simp only [same, Bool.and_eq_true, beq_iff_eq, Float.toBits_inj] at h
  rw [h.1.2, h.2]

end Site

/-- A segment between rounded points, by its ends and its data. -/
abbrev Arc := (Site × Site) × Limb

/-- A segment rounds to an arc, and no rounded coordinate is NaN. -/
structure Segment.Rounds (decimals : ℤ) (e : Segment) (a : Arc) : Prop where
  start : Site.ofPoint decimals e.start = .ok a.1.1
  finish : Site.ofPoint decimals e.finish = .ok a.1.2
  start_isNaN : a.1.1.isNaN = false
  finish_isNaN : a.1.2.isNaN = false
  limb : a.2 = ⟨e.symbol, e.startWidth, e.finishWidth⟩

/-- The ends of segments, each start before its finish. -/
def ends (arcs : List Arc) : List Site := arcs.flatMap fun a => [a.1.1, a.1.2]

namespace Skeleton
variable {g : Skeleton} {s a b : Site} {i j : ℕ} {limb : Limb} {decimals : ℤ} {arcs : List Arc}
  {sites : List Site} {nodes more : Array Site}

theorem getElem?_locate_of_eq_some (h : g.nodes[i]? = some a) (s : Site) :
    (g.locate s).2.nodes[i]? = some a := by
  unfold locate
  split
  · exact h
  · have hi := (Array.getElem?_eq_some_iff.mp h).1
    rw [Array.getElem?_push_lt hi, ← h, Array.getElem?_eq_getElem hi]

/-- Locating a site finds it where it was first seen, or adds it as the last. -/
theorem locate_first (hn : g.nodes.toList = sites.eraseDups) (hs : s.isNaN = false) :
    (g.locate s).2.nodes.toList = (sites ++ [s]).eraseDups ∧
      (g.locate s).2.nodes[(g.locate s).1]? = some s := by
  have hmem : s ∈ g.nodes ↔ s ∈ sites := by
    rw [← Array.mem_toList_iff, hn, List.mem_eraseDups]
  rw [eraseDups_append_singleton, ← hn]
  unfold locate
  cases hf : g.nodes.findIdx? (·.same s) with
  | some i =>
    obtain ⟨hi, hsame, -⟩ := Array.findIdx?_eq_some_iff_getElem.mp hf
    have hget : g.nodes[i]? = some s := by
      rw [Array.getElem?_eq_getElem hi, Site.eq_of_same hsame]
    rw [if_pos (hmem.mp (Array.mem_of_getElem? hget))]
    exact ⟨rfl, hget⟩
  | none =>
    have hnot : s ∉ sites := by
      intro h
      have hsame := Array.findIdx?_eq_none_iff.mp hf s (hmem.mpr h)
      rw [Site.same_self hs] at hsame
      cases hsame
    rw [if_neg hnot]
    exact ⟨Array.toList_push, Array.getElem?_push_size⟩

/-- An edge between numbers stands for an edge between sites. -/
def Stands (nodes : Array Site) (e : ℕ × ℕ × Limb) (a : Arc) : Prop :=
  nodes[e.1]? = some a.1.1 ∧ nodes[e.2.1]? = some a.1.2 ∧ e.2.2 = a.2

/-- Nodes have one number for each site. -/
theorem number_eq_iff (hnd : nodes.toList.Nodup) (hi : nodes[i]? = some a)
    (hj : nodes[j]? = some b) : i = j ↔ a = b := by
  constructor
  · rintro rfl
    exact Option.some.inj (hi.symm.trans hj)
  · rintro rfl
    have hlt : i < nodes.toList.length := (Array.getElem?_eq_some_iff.mp hi).1
    refine (List.getElem?_inj hlt hnd).mp ?_
    rw [Array.getElem?_toList, Array.getElem?_toList, hi, hj]

theorem placeEdge_stands (hnd : nodes.toList.Nodup) (hi : nodes[i]? = some a)
    (hj : nodes[j]? = some b) {es : List (ℕ × ℕ × Limb)} (h : List.Forall₂ (Stands nodes) es arcs) :
    List.Forall₂ (Stands nodes) (placeEdge i j limb es) (OrderedMap.place (a, b) limb arcs) := by
  induction h with
  | nil => exact .cons ⟨hi, hj, rfl⟩ .nil
  | @cons e x es xs he hes ih =>
    have hiff : (e.1 = i ∧ e.2.1 = j) ↔ x.1 = (a, b) := by
      rw [Prod.ext_iff]
      exact and_congr (number_eq_iff hnd he.1 hi) (number_eq_iff hnd he.2.1 hj)
    by_cases hx : x.1 = (a, b)
    · rw [placeEdge, if_pos (hiff.mpr hx), OrderedMap.place, if_pos hx]
      exact .cons ⟨hi, hj, rfl⟩ hes
    · rw [placeEdge, if_neg (mt hiff.mp hx), OrderedMap.place, if_neg hx]
      exact .cons he ih

theorem Stands.mono {e : ℕ × ℕ × Limb} {x : Arc} (h : Stands nodes e x)
    (hm : ∀ (i : ℕ) s, nodes[i]? = some s → more[i]? = some s) : Stands more e x :=
  ⟨hm _ _ h.1, hm _ _ h.2.1, h.2.2⟩

theorem lt_size_of_stands {es : List (ℕ × ℕ × Limb)} (h : List.Forall₂ (Stands nodes) es arcs) :
    ∀ e ∈ es, e.1 < nodes.size ∧ e.2.1 < nodes.size := by
  induction h with
  | nil => simp
  | cons hd _ ih =>
    intro e he
    rcases List.mem_cons.mp he with rfl | he
    · exact ⟨(Array.getElem?_eq_some_iff.mp hd.1).1, (Array.getElem?_eq_some_iff.mp hd.2.1).1⟩
    · exact ih e he

/-- A graph with the sites of segments as first seen, and an edge for each pair that they join. -/
structure Merges (g : Skeleton) (arcs : List Arc) : Prop where
  nodes : g.nodes.toList = (ends arcs).eraseDups
  edges : List.Forall₂ (Stands g.nodes) g.edges (OrderedMap.ofList arcs).entries

theorem merges_empty : empty.Merges [] := ⟨rfl, .nil⟩

theorem Merges.nodup (h : g.Merges arcs) : g.nodes.toList.Nodup := by
  rw [h.nodes]
  exact nodup_eraseDups _

/-- One more segment keeps the graph merged. -/
theorem Merges.link (h : g.Merges arcs) (ha : a.isNaN = false) (hb : b.isNaN = false)
    (limb : Limb) : ((g.locate a).2.link (g.locate a).1 b limb).Merges (arcs ++ [((a, b), limb)]) := by
  obtain ⟨hnodes, hi⟩ := locate_first h.nodes ha
  obtain ⟨hnodes', hj⟩ := locate_first hnodes hb
  have hi' := getElem?_locate_of_eq_some hi b
  have hends : ends (arcs ++ [((a, b), limb)]) = ends arcs ++ [a] ++ [b] := by simp [ends]
  have hnd : ((g.locate a).2.locate b).2.nodes.toList.Nodup := by
    rw [hnodes']
    exact nodup_eraseDups _
  have hedges : ((g.locate a).2.locate b).2.edges = g.edges := by
    rw [edges_locate, edges_locate]
  have hold : List.Forall₂ (Stands ((g.locate a).2.locate b).2.nodes) g.edges
      (OrderedMap.ofList arcs).entries := by
    refine List.Forall₂.imp (fun e x he => ?_) h.edges
    refine Stands.mono he fun i s hs => ?_
    exact getElem?_locate_of_eq_some (getElem?_locate_of_eq_some hs a) b
  refine ⟨hnodes'.trans (by rw [hends]), ?_⟩
  rw [OrderedMap.ofList_append_singleton]
  change List.Forall₂ _ (placeEdge _ _ limb ((g.locate a).2.locate b).2.edges)
    (OrderedMap.place (a, b) limb _)
  rw [hedges]
  exact placeEdge_stands hnd hi' hj hold

/-- Recorded segments with a site at each end can be rounded, and their graph is merged. -/
theorem exists_merges {es : List Segment}
    (hs : ∀ e ∈ es, HasSite decimals e.start ∧ HasSite decimals e.finish) :
    ∃ g arcs, ofSegments decimals es = .ok g ∧ List.Forall₂ (Segment.Rounds decimals) es arcs ∧
      g.Merges arcs := by
  induction es using List.reverseRecOn with
  | nil => exact ⟨empty, [], rfl, .nil, merges_empty⟩
  | append_singleton es e ih =>
    obtain ⟨g, arcs, hg, harcs, hm⟩ := ih fun d hd => hs d (List.mem_append_left _ hd)
    obtain ⟨⟨a, ha, han⟩, ⟨b, hb, hbn⟩⟩ := hs e (by simp)
    have he : e.Rounds decimals ((a, b), ⟨e.symbol, e.startWidth, e.finishWidth⟩) :=
      ⟨ha, hb, han, hbn, rfl⟩
    exact ⟨_, _, (ofSegments_append_singleton hg e).trans (addSegment_eq ha hb),
      List.rel_append harcs (.cons he .nil), hm.link han hbn _⟩

theorem flatMap_range_length {α β : Type} {xs : List α} {f : ℕ → List β} {h : α → List β}
    (hf : ∀ i a, xs[i]? = some a → f i = h a) : (List.range xs.length).flatMap f = xs.flatMap h := by
  induction xs using List.reverseRecOn with
  | nil => rfl
  | append_singleton xs a ih =>
    have hlast := hf xs.length a (by simp)
    have hinit := ih fun i b hb => hf i b (by
      rw [List.getElem?_append_left (List.getElem?_eq_some_iff.mp hb).1, hb])
    rw [List.length_append, List.length_singleton, List.range_succ, List.flatMap_append,
      List.flatMap_append, hinit, List.flatMap_singleton, List.flatMap_singleton, hlast]

/-- An edge as it is told from outside, by the sites at its ends. -/
def told (g : Skeleton) (e : ℕ × ℕ × Limb) : Option Site × Option Site × Option Limb :=
  (g.nodes[e.1]?, g.nodes[e.2.1]?, some e.2.2)

theorem told_filter (hnd : g.nodes.toList.Nodup) (hi : g.nodes[i]? = some s)
    {es : List (ℕ × ℕ × Limb)} (h : List.Forall₂ (Stands g.nodes) es arcs) :
    (es.filter fun e => e.1 = i).map g.told =
      (arcs.filter fun a => a.1.1 = s).map fun a => (some a.1.1, some a.1.2, some a.2) := by
  induction h with
  | nil => rfl
  | @cons e a es arcs he _ ih =>
    obtain ⟨hstart, hfinish, hlimb⟩ := he
    have hiff : e.1 = i ↔ a.1.1 = s := number_eq_iff hnd hstart hi
    by_cases ha : a.1.1 = s
    · rw [List.filter_cons_of_pos (by simpa using hiff.mpr ha),
        List.filter_cons_of_pos (by simpa using ha), List.map_cons, List.map_cons, ih, told, hstart,
        hfinish, hlimb]
    · rw [List.filter_cons_of_neg (by simpa using mt hiff.mp ha),
        List.filter_cons_of_neg (by simpa using ha), ih]

/-- The edges from a node, in the order in which their pairs of sites came first. -/
theorem Merges.told_edges (h : g.Merges arcs) (hi : g.nodes[i]? = some s) :
    (g.edges.filter fun e => e.1 = i).map g.told =
      ((arcs.map Prod.fst).eraseDups.filter fun k => k.1 = s).map fun k =>
        (some k.1, some k.2, lastValue? arcs k) := by
  have hentries := congrArg (fun l => (l.filter fun y => y.1.1 = s).map fun y =>
    (some y.1.1, some y.1.2, y.2)) (OrderedMap.entries_ofList arcs)
  simp only [List.filter_map, List.map_map, Function.comp_def] at hentries
  rw [told_filter h.nodup hi h.edges]
  exact hentries

theorem Merges.mem_edges (h : g.Merges arcs) (hi : g.nodes[i]? = some a)
    (hj : g.nodes[j]? = some b) :
    (i, j, limb) ∈ g.edges ↔ lastValue? arcs (a, b) = some limb := by
  have htold : (i, j, limb) ∈ g.edges ↔ (some a, some b, some limb) ∈
      (g.edges.filter fun e => e.1 = i).map g.told := by
    rw [List.mem_map]
    constructor
    · intro he
      exact ⟨_, List.mem_filter.mpr ⟨he, by simp⟩, by rw [told, hi, hj]⟩
    · rintro ⟨⟨k, l, m⟩, he, hk⟩
      obtain ⟨he, hki⟩ := List.mem_filter.mp he
      have hki : k = i := by simpa using hki
      simp only [told, Prod.mk.injEq, Option.some.injEq] at hk
      obtain ⟨-, hl, rfl⟩ := hk
      rwa [← hki, (number_eq_iff h.nodup hj hl).mpr rfl]
  rw [htold, h.told_edges hi, List.mem_map]
  constructor
  · rintro ⟨k, -, hk⟩
    simp only [Prod.mk.injEq, Option.some.injEq] at hk
    obtain ⟨rfl, rfl, hk⟩ := hk
    exact hk
  · intro hlast
    refine ⟨(a, b), List.mem_filter.mpr ⟨?_, by simp⟩, by rw [hlast]⟩
    exact List.mem_eraseDups.mpr (exists_lastValue?_iff.mp ⟨limb, hlast⟩)

/-- A node has no edge just when no segment starts at it. -/
theorem Merges.any_edges (h : g.Merges arcs) (hi : g.nodes[i]? = some s) :
    (g.edges.any fun e => e.1 = i) = false ↔ ∀ a ∈ arcs, a.1.1 ≠ s := by
  have hnone : (g.edges.any fun e => e.1 = i) = false ↔
      (g.edges.filter fun e => e.1 = i).map g.told = [] := by
    rw [List.map_eq_nil_iff, List.filter_eq_nil_iff, List.any_eq_false]
  rw [hnone, h.told_edges hi, List.map_eq_nil_iff, List.filter_eq_nil_iff]
  simp only [List.mem_eraseDups, List.mem_map, decide_eq_true_eq]
  constructor
  · intro hk a ha
    exact hk a.1 ⟨a, ha, rfl⟩
  · rintro hk _ ⟨a, ha, rfl⟩
    exact hk a ha

theorem Merges.told_edgeList (h : g.Merges arcs) : g.edgeList.map g.told =
    g.nodes.toList.flatMap fun s =>
      ((arcs.map Prod.fst).eraseDups.filter fun k => k.1 = s).map fun k =>
        (some k.1, some k.2, lastValue? arcs k) := by
  rw [edgeList, List.map_flatMap, ← Array.length_toList]
  refine flatMap_range_length fun i s hi => ?_
  exact h.told_edges (by rwa [Array.getElem?_toList] at hi)

theorem Merges.tips_eq (h : g.Merges arcs) :
    g.tips = g.nodes.toList.filter fun s => ∀ a ∈ arcs, a.1.1 ≠ s := by
  rw [tips, List.filterMap_eq_flatMap_toList, ← Array.length_toList,
    ← List.filterMap_eq_filter, List.filterMap_eq_flatMap_toList]
  refine flatMap_range_length fun i s hi => ?_
  rw [Array.getElem?_toList] at hi
  have hany := h.any_edges hi
  congr 1
  by_cases ha : (g.edges.any fun e => e.1 = i) = true
  · have hs : ¬ ∀ a ∈ arcs, a.1.1 ≠ s := fun hs => by
      rw [hany.mpr hs] at ha
      cases ha
    rw [if_pos ha, Option.guard, if_neg (by rwa [decide_eq_true_iff])]
  · have hs := hany.mp (Bool.eq_false_iff.mpr ha)
    rw [if_neg ha, hi, Option.guard, if_pos (decide_eq_true hs)]

/-- The graph is the quotient of the segments between rounded points. -/
structure IsQuotient (g : Skeleton) (arcs : List Arc) : Prop where
  /-- The nodes are the ends of the segments in the order first seen. -/
  nodes_eq : g.nodes.toList = (ends arcs).eraseDups
  nodup : g.nodes.toList.Nodup
  /-- Each node is found at its own place. -/
  locate_eq : ∀ i s, g.nodes[i]? = some s → g.locate s = (i, g)
  edges_lt_size : ∀ e ∈ g.edges, e.1 < g.nodes.size ∧ e.2.1 < g.nodes.size
  /-- An edge between two nodes has the data of the last segment between them. -/
  mem_edges : ∀ i j a b limb, g.nodes[i]? = some a → g.nodes[j]? = some b →
    ((i, j, limb) ∈ g.edges ↔ lastValue? arcs (a, b) = some limb)
  /-- Edges are listed by their start in the order of the nodes, and those with one start in the
  order of their first segments, each once. -/
  edgeList_eq : g.edgeList.map g.told = g.nodes.toList.flatMap fun s =>
    ((arcs.map Prod.fst).eraseDups.filter fun k => k.1 = s).map fun k =>
      (some k.1, some k.2, lastValue? arcs k)
  /-- The tips are the nodes at which no segment starts. -/
  tips_eq : g.tips = g.nodes.toList.filter fun s => ∀ a ∈ arcs, a.1.1 ≠ s

theorem isNaN_of_mem_ends {es : List Segment} (h : List.Forall₂ (Segment.Rounds decimals) es arcs) :
    ∀ s ∈ ends arcs, s.isNaN = false := by
  induction h with
  | nil => simp [ends]
  | cons he _ ih =>
    intro s hs
    rcases List.mem_append.mp hs with hs | hs
    · simp only [List.mem_cons, List.not_mem_nil, or_false] at hs
      rcases hs with rfl | rfl
      · exact he.start_isNaN
      · exact he.finish_isNaN
    · exact ih s hs

theorem Merges.locate_eq (h : g.Merges arcs) (hn : s.isNaN = false) (hi : g.nodes[i]? = some s) :
    g.locate s = (i, g) := by
  obtain ⟨j, -, hl⟩ := locate_of_covers ⟨s, Array.mem_of_getElem? hi, Site.same_self hn⟩
  obtain ⟨-, hj⟩ := locate_first h.nodes hn
  rw [hl] at hj
  obtain rfl := (number_eq_iff h.nodup hj hi).mpr rfl
  exact hl

/-- The graph of recorded segments whose rounded points have no NaN is their quotient by the rounded
points, and points round to the same site just when they round to the same numbers. -/
theorem isQuotient_of_segments {es : List Segment}
    (hs : ∀ e ∈ es, HasSite decimals e.start ∧ HasSite decimals e.finish) :
    ∃ g arcs, ofSegments decimals es = .ok g ∧ List.Forall₂ (Segment.Rounds decimals) es arcs ∧
      g.IsQuotient arcs ∧ ∀ p q s t, Site.ofPoint decimals p = .ok s → s.isNaN = false →
        Site.ofPoint decimals q = .ok t → (s = t ↔ Site.RoundAlike decimals p q) := by
  obtain ⟨g, arcs, hg, harcs, hm⟩ := exists_merges hs
  refine ⟨g, arcs, hg, harcs, ?_, fun p q s t hp hn hq => Site.eq_iff_roundAlike hp hn hq⟩
  refine ⟨hm.nodes, hm.nodup, ?_, lt_size_of_stands hm.edges, fun i j a b limb => hm.mem_edges,
    hm.told_edgeList, hm.tips_eq⟩
  intro i s hi
  have hmem : s ∈ ends arcs := by
    rw [← List.mem_eraseDups, ← hm.nodes, Array.mem_toList_iff]
    exact Array.mem_of_getElem? hi
  exact hm.locate_eq (isNaN_of_mem_ends harcs s hmem) hi

/-- The second segment is a loop at the first node, and the third joins the same nodes as the first,
although its start comes with zeros of another sign. -/
theorem isQuotient_of_loop_and_repeat : ∃ es : List Segment,
    es = [⟨"F", .items [0.04, -0.0], 2, .items [1.02, 0], 1⟩,
      ⟨"L", .items [-0.04, 0, 9], 1, .items [-0.0, 0.01], 1⟩,
      ⟨"F", .items [-0.0, 0], 3, .items [0.98, -0.04], 2⟩] ∧
    (∀ e ∈ es, HasSite 1 e.start ∧ HasSite 1 e.finish) ∧
    ∃ g arcs, ofSegments 1 es = .ok g ∧ List.Forall₂ (Segment.Rounds 1) es arcs ∧
      g.IsQuotient arcs ∧ ∀ p q s t, Site.ofPoint 1 p = .ok s → s.isNaN = false →
        Site.ofPoint 1 q = .ok t → (s = t ↔ Site.RoundAlike 1 p q) := by
  have hs : ∀ e ∈ [⟨"F", .items [0.04, -0.0], 2, .items [1.02, 0], 1⟩,
      ⟨"L", .items [-0.04, 0, 9], 1, .items [-0.0, 0.01], 1⟩,
      ⟨"F", .items [-0.0, 0], 3, .items [0.98, -0.04], 2⟩],
      HasSite 1 (Segment.start e) ∧ HasSite 1 (Segment.finish e) := by
    intro e he
    simp only [List.mem_cons, List.not_mem_nil, or_false] at he
    rcases he with rfl | rfl | rfl
    · exact ⟨⟨_, rfl, by decide +kernel⟩, ⟨_, rfl, by decide +kernel⟩⟩
    · exact ⟨⟨_, rfl, by decide +kernel⟩, ⟨_, rfl, by decide +kernel⟩⟩
    · exact ⟨⟨_, rfl, by decide +kernel⟩, ⟨_, rfl, by decide +kernel⟩⟩
  exact ⟨_, rfl, hs, isQuotient_of_segments hs⟩

end Skeleton
end PlantGrammar
