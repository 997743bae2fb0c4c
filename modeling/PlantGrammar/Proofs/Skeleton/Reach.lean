import Mathlib.Logic.Relation
import PlantGrammar.Proofs.Turtle.Anchor
import PlantGrammar.Skeleton

/-! # Skeletons grow from their root

Segments that each start at a root or at the end of an earlier segment give a graph in which every
node is reached from the first, the site of the root. Rounding may merge points, but a start that was
an end before is found again, so only ends make nodes after the first segment.
-/
namespace PlantGrammar

/-- The point can be rounded, and no rounded coordinate is NaN. -/
def HasSite (decimals : ℤ) (p : Coordinates) : Prop :=
  ∃ s, Site.ofPoint decimals p = .ok s ∧ s.isNaN = false

theorem Site.same_self {s : Site} (h : s.isNaN = false) : s.same s = true := by
  simp [same, h]

namespace Skeleton
open Relation
variable {g : Skeleton} {s a b root : Site} {i j : ℕ} {limb : Limb} {decimals : ℤ}

def Covers (g : Skeleton) (s : Site) : Prop := ∃ n ∈ g.nodes, n.same s = true

theorem locate_of_covers (h : g.Covers s) : ∃ i < g.nodes.size, g.locate s = (i, g) := by
  cases hf : g.nodes.findIdx? (·.same s) with
  | none =>
    obtain ⟨n, hn, hs⟩ := h
    have := Array.findIdx?_eq_none_iff.mp hf n hn
    simp [hs] at this
  | some i =>
    obtain ⟨hi, -⟩ := Array.findIdx?_eq_some_iff_getElem.mp hf
    exact ⟨i, hi, by rw [locate, hf]⟩

theorem locate_of_not_covers (h : ¬ g.Covers s) :
    g.locate s = (g.nodes.size, { g with nodes := g.nodes.push s }) := by
  have hf : g.nodes.findIdx? (·.same s) = none := by
    rw [Array.findIdx?_eq_none_iff]
    intro n hn
    exact Bool.eq_false_iff.mpr fun hs => h ⟨n, hn, hs⟩
  rw [locate, hf]

theorem Covers.locate (h : g.Covers s) (t : Site) : (g.locate t).2.Covers s := by
  by_cases ht : g.Covers t
  · obtain ⟨i, -, hl⟩ := locate_of_covers ht
    rwa [hl]
  · obtain ⟨n, hn, hs⟩ := h
    rw [locate_of_not_covers ht]
    exact ⟨n, Array.mem_push_of_mem t hn, hs⟩

theorem covers_locate (hs : s.isNaN = false) : (g.locate s).2.Covers s := by
  by_cases h : g.Covers s
  · obtain ⟨i, -, hl⟩ := locate_of_covers h
    rwa [hl]
  · rw [locate_of_not_covers h]
    exact ⟨s, Array.mem_push_self, Site.same_self hs⟩

/-- An edge leads from one node to the other. -/
def Joins (g : Skeleton) (i j : ℕ) : Prop := ∃ limb, (i, j, limb) ∈ g.edges

theorem exists_mem_placeEdge (i j : ℕ) (limb : Limb) (es : List (ℕ × ℕ × Limb)) (k l : ℕ) :
    (∃ m, (k, l, m) ∈ placeEdge i j limb es) ↔ (k = i ∧ l = j) ∨ ∃ m, (k, l, m) ∈ es := by
  induction es with
  | nil => simp [placeEdge]
  | cons e rest ih =>
    obtain ⟨a, b, c⟩ := e
    by_cases h : a = i ∧ b = j
    · obtain ⟨rfl, rfl⟩ := h
      simp only [placeEdge, and_self, if_true, List.mem_cons, Prod.mk.injEq, exists_or,
        exists_and_left, exists_eq, and_true]
      exact or_self_left.symm
    · simp only [placeEdge, if_neg h, List.mem_cons, Prod.mk.injEq, exists_or, exists_and_left,
        exists_eq, and_true, ih]
      exact or_left_comm

/-- The edge from a node to a site, which is added if it is new. -/
def link (g : Skeleton) (i : ℕ) (b : Site) (limb : Limb) : Skeleton :=
  { (g.locate b).2 with edges := placeEdge i (g.locate b).1 limb (g.locate b).2.edges }

theorem addSegment_eq {e : Segment} (ha : Site.ofPoint decimals e.start = .ok a)
    (hb : Site.ofPoint decimals e.finish = .ok b) : addSegment decimals g e =
      .ok ((g.locate a).2.link (g.locate a).1 b ⟨e.symbol, e.startWidth, e.finishWidth⟩) := by
  rw [addSegment, ha, hb]
  rfl

theorem edges_locate (g : Skeleton) (s : Site) : (g.locate s).2.edges = g.edges := by
  unfold Skeleton.locate
  split
  · rfl
  · rfl

theorem joins_link {k l : ℕ} :
    (g.link i b limb).Joins k l ↔ (k = i ∧ l = (g.locate b).1) ∨ g.Joins k l := by
  unfold Joins link
  rw [exists_mem_placeEdge, edges_locate]

theorem Covers.link (h : g.Covers s) (i : ℕ) (b : Site) (limb : Limb) : (g.link i b limb).Covers s :=
  h.locate b

theorem covers_link (hb : b.isNaN = false) : (g.link i b limb).Covers b :=
  covers_locate hb

/-- The first node is the root, and every node is reached from it. -/
structure GrownFrom (g : Skeleton) (root : Site) : Prop where
  first : g.nodes[0]? = some root
  reach : ∀ i < g.nodes.size, ReflTransGen g.Joins 0 i

theorem GrownFrom.covers (h : g.GrownFrom root) (hr : root.isNaN = false) : g.Covers root :=
  ⟨root, Array.mem_of_getElem? h.first, Site.same_self hr⟩

theorem grownFrom_singleton (root : Site) : GrownFrom ⟨#[root], []⟩ root := by
  refine ⟨rfl, ?_⟩
  intro i hi
  obtain rfl : i = 0 := by simpa using hi
  exact .refl

/-- An edge from a node that is there keeps all nodes within reach: a new one is its target. -/
theorem GrownFrom.link (h : g.GrownFrom root) (hi : i < g.nodes.size) (b : Site) (limb : Limb) :
    (g.link i b limb).GrownFrom root := by
  have hold : ∀ k < g.nodes.size, ReflTransGen (g.link i b limb).Joins 0 k := by
    intro k hk
    exact ReflTransGen.mono (fun _ _ hj => joins_link.mpr (.inr hj)) _ _ (h.reach k hk)
  by_cases hb : g.Covers b
  · obtain ⟨j, -, hl⟩ := locate_of_covers hb
    have hnodes : (g.link i b limb).nodes = g.nodes := by simp [Skeleton.link, hl]
    exact ⟨hnodes ▸ h.first, hnodes ▸ hold⟩
  · have hl := locate_of_not_covers hb
    have hnodes : (g.link i b limb).nodes = g.nodes.push b := by simp [Skeleton.link, hl]
    have h0 := (Array.getElem?_eq_some_iff.mp h.first).1
    refine ⟨?_, ?_⟩
    · rw [hnodes, Array.getElem?_push_lt h0, ← h.first, Array.getElem?_eq_getElem h0]
    · intro k hk
      rw [hnodes, Array.size_push] at hk
      by_cases hks : k < g.nodes.size
      · exact hold k hks
      · obtain rfl : k = g.nodes.size := by omega
        exact (hold i hi).tail (joins_link.mpr (.inl ⟨rfl, by rw [hl]⟩))

/-- Every segment starts at the root or at the end of an earlier one. -/
def Branching (root : Coordinates) (segments : List Segment) : Prop :=
  ∀ k e, segments[k]? = some e → e.start = root ∨ ∃ d ∈ segments.take k, d.finish = e.start

theorem Branching.left {root : Coordinates} {es more : List Segment}
    (h : Branching root (es ++ more)) : Branching root es := by
  intro k e hk
  have hlt := (List.getElem?_eq_some_iff.mp hk).1
  have he := h k e (by rwa [List.getElem?_append_left hlt])
  rwa [List.take_append_of_le_length hlt.le] at he

theorem Branching.last {root : Coordinates} {es : List Segment} {e : Segment}
    (h : Branching root (es ++ [e])) : e.start = root ∨ ∃ d ∈ es, d.finish = e.start := by
  have he := h es.length e (by simp)
  rwa [List.take_left] at he

theorem ofSegments_append_singleton {es : List Segment} (h : ofSegments decimals es = .ok g)
    (e : Segment) : ofSegments decimals (es ++ [e]) = addSegment decimals g e := by
  unfold ofSegments at h ⊢
  rw [List.foldlM_append, h]
  exact bind_pure (addSegment decimals g e)

/-- The graph of segments that branch from a root exists, holds all ends, and has grown from the
site of the root. -/
theorem exists_grownFrom {start : Coordinates} {es : List Segment} (h : Branching start es)
    (hs : ∀ e ∈ es, HasSite decimals e.start ∧ HasSite decimals e.finish) :
    ∃ g, ofSegments decimals es = .ok g ∧
      (∀ e ∈ es, ∀ s, Site.ofPoint decimals e.finish = .ok s → g.Covers s) ∧
      (es ≠ [] → ∃ root, Site.ofPoint decimals start = .ok root ∧ root.isNaN = false ∧
        g.GrownFrom root) := by
  induction es using List.reverseRecOn with
  | nil => exact ⟨empty, rfl, by simp, by simp⟩
  | append_singleton es e ih =>
    obtain ⟨g, hg, hcov, hgrown⟩ := ih h.left fun d hd => hs d (List.mem_append_left _ hd)
    obtain ⟨⟨a, ha, han⟩, ⟨b, hb, hbn⟩⟩ := hs e (by simp)
    -- the start is the first node of all, or one that the graph has
    have hstart : ∃ root, Site.ofPoint decimals start = .ok root ∧ root.isNaN = false ∧
        (g.locate a).2.GrownFrom root ∧ (g.locate a).1 < (g.locate a).2.nodes.size := by
      rcases List.eq_nil_or_concat' es with rfl | ⟨ds, d, rfl⟩
      · obtain rfl : e.start = start := by simpa using h.last
        cases hg
        have hl : empty.locate a = (0, ⟨#[a], []⟩) :=
          locate_of_not_covers fun ⟨n, hn, _⟩ => Array.not_mem_empty n hn
        rw [hl]
        exact ⟨a, ha, han, grownFrom_singleton a, Nat.one_pos⟩
      · obtain ⟨root, hr, hrn, hgr⟩ := hgrown (by simp)
        have hca : g.Covers a := by
          rcases h.last with he | ⟨c, hc, he⟩
          · rw [he, hr] at ha
            cases ha
            exact hgr.covers hrn
          · exact hcov c hc a (by rw [he, ha])
        obtain ⟨i, hi, hl⟩ := locate_of_covers hca
        rw [hl]
        exact ⟨root, hr, hrn, hgr, hi⟩
    obtain ⟨root, hr, hrn, hgr, hi⟩ := hstart
    refine ⟨_, (ofSegments_append_singleton hg e).trans (addSegment_eq ha hb), ?_, ?_⟩
    · intro d hd s hds
      rcases List.mem_append.mp hd with hd | hd
      · exact ((hcov d hd s hds).locate a).link ..
      · obtain rfl := List.mem_singleton.mp hd
        rw [hb] at hds
        cases hds
        exact covers_link hbn
    · intro _
      exact ⟨root, hr, hrn, hgr.link hi b _⟩

theorem branching_of_rooted {t : Turtle} {calls : List Call} (h : t.Rooted calls) :
    Branching (.items t.start.position) (calls.map Call.segment) := by
  intro k e hk
  rw [List.getElem?_map] at hk
  obtain ⟨c, hc, rfl⟩ := Option.map_eq_some_iff.mp hk
  rcases h k c hc with ⟨hp, -⟩ | ⟨d, hd, -, hp, -⟩
  · exact .inl (congrArg Coordinates.items hp)
  · refine .inr ⟨d.segment, ?_, congrArg Coordinates.items hp⟩
    rw [← List.map_take]
    exact List.mem_map_of_mem hd

/-- Recorded edges hang together: each starts where the walk began or where an earlier step forward
ended, with the width there, and the graph drawn from them, at any rounding that gives each point a
site, has the start as its first node and reaches all others from it. -/
theorem recorded_edges_connected (t : Turtle) {registry : Registry} (symbols : List String)
    (hd : (registry.get? drawSymbol).isSome) (hm : (registry.get? moveSymbol).isSome) :
    t.Rooted (t.walk registry symbols).calls.toList ∧
    ∀ decimals es, (t.walk registry symbols).calls.toList.map Call.segment = es → es ≠ [] →
      (∀ e ∈ es, HasSite decimals e.start ∧ HasSite decimals e.finish) →
      ∃ g root, ofSegments decimals es = .ok g ∧
        Site.ofPoint decimals (.items t.start.position) = .ok root ∧ g.nodes[0]? = some root ∧
        ∀ i < g.nodes.size, ReflTransGen g.Joins 0 i := by
  have hr := t.rooted_walk hd hm symbols
  refine ⟨hr, ?_⟩
  rintro decimals es rfl hne hs
  obtain ⟨g, hg, -, hgrown⟩ := exists_grownFrom (branching_of_rooted hr) hs
  obtain ⟨root, hroot, -, hgr⟩ := hgrown hne
  exact ⟨g, root, hg, hroot, hgr.first, hgr.reach⟩

/-- Steps forward in and after a branch are rooted. Two leaves before any step give one node and one
loop at it; the negative zero of the start is rounded away. -/
theorem recorded_edges_connected_leaves : ∃ registry : Registry,
    registry = .ofList [("F", "F"), ("f", "move"), ("L", "L")] ∧
    ((registry.get? drawSymbol).isSome ∧ (registry.get? moveSymbol).isSome) ∧
    Turtle.Rooted ⟨⟨[0.25, -0.0], 90, 2, 10⟩, 90, .still, .still⟩
      (Turtle.walk ⟨⟨[0.25, -0.0], 90, 2, 10⟩, 90, .still, .still⟩ registry
        ["F", "[", "-", "F", "]", "f", "L"]).calls.toList ∧
    (∀ e ∈ List.replicate 2 ⟨"L", .items [0.25, -0.0], 2, .items [0.25, -0.0], 2⟩,
      HasSite 1 (Segment.start e) ∧ HasSite 1 (Segment.finish e)) ∧
    ∃ g root, ofSegments 1 (List.replicate 2 ⟨"L", .items [0.25, -0.0], 2, .items [0.25, -0.0], 2⟩) =
        .ok g ∧ Site.ofPoint 1 (.items [0.25, -0.0]) = .ok root ∧ g.nodes[0]? = some root ∧
      ∀ i < g.nodes.size, ReflTransGen g.Joins 0 i := by
  have hd : (OrderedMap.get? (.ofList [("F", "F"), ("f", "move"), ("L", "L")]) drawSymbol).isSome := rfl
  have hm : (OrderedMap.get? (.ofList [("F", "F"), ("f", "move"), ("L", "L")]) moveSymbol).isSome := rfl
  have hs : ∀ e ∈ List.replicate 2 ⟨"L", .items [0.25, -0.0], 2, .items [0.25, -0.0], 2⟩,
      HasSite 1 (Segment.start e) ∧ HasSite 1 (Segment.finish e) := by
    intro e he
    rw [List.eq_of_mem_replicate he]
    exact ⟨⟨_, rfl, by decide +kernel⟩, ⟨_, rfl, by decide +kernel⟩⟩
  refine ⟨_, rfl, ⟨hd, hm⟩, (recorded_edges_connected _ _ hd hm).1, hs, ?_⟩
  exact (recorded_edges_connected ⟨⟨[0.25, -0.0], 90, 2, 10⟩, 90, .still, .still⟩
    ["L", "[", "L"] hd hm).2 1 _ rfl (by simp) hs

end Skeleton
end PlantGrammar
