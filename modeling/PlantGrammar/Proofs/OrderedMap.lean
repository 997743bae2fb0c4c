import Mathlib.Data.List.Basic
import Mathlib.Data.List.Induction
import PlantGrammar.OrderedMap

/-! # Maps made from a list

A key stands where its first entry does, and has the value of its last.
-/
namespace PlantGrammar

theorem eraseDups_append_singleton {α : Type} [BEq α] [LawfulBEq α] [DecidableEq α] (xs : List α)
    (a : α) : (xs ++ [a]).eraseDups = if a ∈ xs then xs.eraseDups else xs.eraseDups ++ [a] := by
  rw [List.eraseDups_append]
  by_cases h : a ∈ xs
  · rw [if_pos h]
    simp [List.removeAll, h]
  · rw [if_neg h]
    simp [List.removeAll, h, List.eraseDups_cons]

theorem nodup_eraseDups {α : Type} [BEq α] [LawfulBEq α] [DecidableEq α] (xs : List α) :
    xs.eraseDups.Nodup := by
  induction xs using List.reverseRecOn with
  | nil => exact .nil
  | append_singleton xs a ih =>
    rw [eraseDups_append_singleton]
    by_cases h : a ∈ xs
    · rwa [if_pos h]
    · rw [if_neg h, List.nodup_append]
      refine ⟨ih, by simp, ?_⟩
      intro b hb c hc
      rw [List.mem_singleton.mp hc]
      rintro rfl
      exact h (List.mem_eraseDups.mp hb)

theorem eraseDups_append_of_subset {α : Type} [BEq α] [LawfulBEq α] {xs ys : List α}
    (h : ys ⊆ xs) : (xs ++ ys).eraseDups = xs.eraseDups := by
  have hnone : ys.removeAll xs = [] := by
    rw [List.removeAll, List.filter_eq_nil_iff]
    intro y hy
    simp [h hy]
  rw [List.eraseDups_append, hnone, List.eraseDups_nil, List.append_nil]

/-- The value of the last entry with a key. -/
def lastValue? {α β : Type} [DecidableEq α] (es : List (α × β)) (k : α) : Option β :=
  (es.reverse.find? fun e => e.1 = k).map Prod.snd

section
variable {α β : Type} [DecidableEq α] {es : List (α × β)} {k : α} {v : β}

theorem mem_of_lastValue? (h : lastValue? es k = some v) : (k, v) ∈ es := by
  obtain ⟨e, he, rfl⟩ := Option.map_eq_some_iff.mp h
  have hkey : e.1 = k := by simpa using List.find?_some he
  rw [← hkey]
  exact List.mem_reverse.mp (List.mem_of_find?_eq_some he)

theorem exists_lastValue?_iff : (∃ v, lastValue? es k = some v) ↔ k ∈ es.map Prod.fst := by
  constructor
  · rintro ⟨v, hv⟩
    exact List.mem_map_of_mem (mem_of_lastValue? hv)
  · intro hk
    obtain ⟨e, he, rfl⟩ := List.mem_map.mp hk
    rw [← Option.isSome_iff_exists, lastValue?, Option.isSome_map, List.find?_isSome]
    exact ⟨e, List.mem_reverse.mpr he, decide_eq_true rfl⟩

/-- Entries that come once more leave the last values as they are. -/
theorem lastValue?_append_again (xs ys : List (α × β)) (k : α) :
    lastValue? (xs ++ ys ++ ys) k = lastValue? (xs ++ ys) k := by
  simp only [lastValue?, List.reverse_append, List.find?_append]
  rw [← Option.or_assoc, Option.or_self]

end

namespace OrderedMap
variable {α β : Type} [DecidableEq α]

theorem ofList_append_singleton (es : List (α × β)) (e : α × β) :
    ofList (es ++ [e]) = (ofList es).insert e.1 e.2 := by
  simp [ofList]

theorem keys_place {k : α} {v : β} {es : List (α × β)} (h : k ∈ es.map Prod.fst) :
    (place k v es).map Prod.fst = es.map Prod.fst := by
  induction es with
  | nil => cases h
  | cons e rest ih =>
    by_cases hk : e.1 = k
    · simp [place, hk]
    · have hr : k ∈ rest.map Prod.fst := by
        rcases List.mem_cons.mp h with h | h
        · exact absurd h.symm hk
        · exact h
      simp only [place, if_neg hk, List.map_cons, ih hr]

theorem keys_ofList [BEq α] [LawfulBEq α] (es : List (α × β)) :
    (ofList es).keys = (es.map Prod.fst).eraseDups := by
  induction es using List.reverseRecOn with
  | nil => rfl
  | append_singleton es e ih =>
    have hmem : e.1 ∈ (ofList es).entries.map Prod.fst ↔ e.1 ∈ es.map Prod.fst := by
      change e.1 ∈ (ofList es).keys ↔ _
      rw [ih, List.mem_eraseDups]
    rw [ofList_append_singleton, List.map_append, List.map_singleton, eraseDups_append_singleton,
      ← ih]
    by_cases h : e.1 ∈ es.map Prod.fst
    · rw [if_pos h]
      exact keys_place (hmem.mpr h)
    · rw [if_neg h]
      change (place e.1 e.2 (ofList es).entries).map Prod.fst = _
      rw [place_of_not_mem (mt hmem.mp h), List.map_append]
      rfl

theorem mem_of_get? {m : OrderedMap α β} {k : α} {v : β} (h : m.get? k = some v) :
    (k, v) ∈ m.entries := by
  obtain ⟨e, he, rfl⟩ := Option.map_eq_some_iff.mp h
  have hkey : e.1 = k := by simpa using List.find?_some he
  rw [← hkey]
  exact List.mem_of_find?_eq_some he

theorem mem_place {k : α} {v : β} {es : List (α × β)} {e : α × β} (h : e ∈ place k v es) :
    e = (k, v) ∨ e ∈ es := by
  induction es with
  | nil => exact .inl (List.mem_singleton.mp h)
  | cons d rest ih =>
    by_cases hk : d.1 = k
    · rw [place, if_pos hk] at h
      rcases List.mem_cons.mp h with h | h
      · exact .inl h
      · exact .inr (List.mem_cons_of_mem d h)
    · rw [place, if_neg hk] at h
      rcases List.mem_cons.mp h with rfl | h
      · exact .inr List.mem_cons_self
      · exact (ih h).imp_right (List.mem_cons_of_mem d)

theorem get?_ofList (es : List (α × β)) (k : α) : (ofList es).get? k = lastValue? es k := by
  induction es using List.reverseRecOn with
  | nil => rfl
  | append_singleton es e ih =>
    rw [ofList_append_singleton, get?_insert, ih, lastValue?, lastValue?, List.reverse_append,
      List.reverse_singleton, List.singleton_append, List.find?_cons]
    by_cases h : e.1 = k
    · simp [h]
    · simp [h]

theorem get?_of_mem {m : OrderedMap α β} {e : α × β} (h : e ∈ m.entries) :
    m.get? e.1 = some e.2 := by
  obtain ⟨es, hnd⟩ := m
  induction es with
  | nil => cases h
  | cons d rest ih =>
    obtain ⟨hd, hr⟩ := List.nodup_cons.mp hnd
    rcases List.mem_cons.mp h with rfl | h
    · simp [get?]
    · have hne : ¬ d.1 = e.1 := fun he => hd (he ▸ List.mem_map_of_mem h)
      have hrest := ih hr h
      simpa [get?, hne] using hrest

theorem isSome_get?_iff {m : OrderedMap α β} {k : α} : (m.get? k).isSome ↔ k ∈ m.keys := by
  rw [Option.isSome_iff_exists]
  constructor
  · rintro ⟨v, hv⟩
    exact List.mem_map_of_mem (mem_of_get? hv)
  · intro hk
    obtain ⟨e, he, rfl⟩ := List.mem_map.mp hk
    exact ⟨e.2, get?_of_mem he⟩

/-- The entries made from a list: each key once, where it came first, with its last value. -/
theorem entries_ofList [BEq α] [LawfulBEq α] (es : List (α × β)) :
    (ofList es).entries.map (fun e => (e.1, some e.2)) =
      (es.map Prod.fst).eraseDups.map fun k => (k, lastValue? es k) := by
  rw [← keys_ofList, keys, List.map_map]
  refine List.map_congr_left fun e he => ?_
  rw [Function.comp_apply, ← get?_ofList, get?_of_mem he]

theorem ofList_congr [BEq α] [LawfulBEq α] {es ds : List (α × β)}
    (hkeys : (es.map Prod.fst).eraseDups = (ds.map Prod.fst).eraseDups)
    (hlast : ∀ k, lastValue? es k = lastValue? ds k) : ofList es = ofList ds := by
  refine OrderedMap.ext (List.map_injective_iff.mpr ?_
    ((entries_ofList es).trans (Eq.trans ?_ (entries_ofList ds).symm)))
  · rintro ⟨k, v⟩ ⟨l, w⟩ h
    simpa using h
  · rw [hkeys, funext hlast]

end OrderedMap
end PlantGrammar
