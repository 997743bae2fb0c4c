/-! # Maps that remember the order of first insertion -/
namespace PlantGrammar

/-- Entries in the order in which their keys first appeared, one for each key. -/
structure OrderedMap (α β : Type) where
  entries : List (α × β)
  nodup : (entries.map Prod.fst).Nodup
deriving Repr, DecidableEq

namespace OrderedMap
variable {α β : Type}

def empty : OrderedMap α β := ⟨[], .nil⟩

instance : Inhabited (OrderedMap α β) := ⟨empty⟩

@[ext] theorem ext {m n : OrderedMap α β} (h : m.entries = n.entries) : m = n := by
  cases m
  cases n
  cases h
  rfl

def keys (m : OrderedMap α β) : List α := m.entries.map Prod.fst

variable [DecidableEq α]

def get? (m : OrderedMap α β) (k : α) : Option β :=
  (m.entries.find? fun e => e.1 = k).map Prod.snd

/-- Put a value at the place of its key, or at the end under a new key. -/
def place (k : α) (v : β) : List (α × β) → List (α × β)
  | [] => [(k, v)]
  | e :: rest => if e.1 = k then (k, v) :: rest else e :: place k v rest

theorem mem_keys_place {k a : α} {v : β} {es : List (α × β)} :
    a ∈ (place k v es).map Prod.fst ↔ a = k ∨ a ∈ es.map Prod.fst := by
  induction es with
  | nil => simp [place]
  | cons e rest ih =>
    by_cases h : e.1 = k
    · simp [place, h]
    · simp only [place, if_neg h, List.map_cons, List.mem_cons, ih]
      constructor <;> rintro (h | h | h) <;> simp [h]

theorem nodup_place (k : α) (v : β) {es : List (α × β)} (h : (es.map Prod.fst).Nodup) :
    ((place k v es).map Prod.fst).Nodup := by
  induction es with
  | nil => simp [place]
  | cons e rest ih =>
    obtain ⟨he, hr⟩ := List.nodup_cons.mp h
    by_cases hk : e.1 = k
    · simp only [place, if_pos hk, List.map_cons, List.nodup_cons]
      exact ⟨hk ▸ he, hr⟩
    · simp only [place, if_neg hk, List.map_cons, List.nodup_cons]
      refine ⟨fun hm => ?_, ih hr⟩
      rcases mem_keys_place.mp hm with h | h
      · exact hk h
      · exact he h

theorem place_of_not_mem {k : α} {v : β} {es : List (α × β)} (h : k ∉ es.map Prod.fst) :
    place k v es = es ++ [(k, v)] := by
  induction es with
  | nil => rfl
  | cons e rest ih =>
    simp only [List.map_cons, List.mem_cons, not_or] at h
    simp [place, Ne.symm h.1, ih h.2]

theorem find?_place (k : α) (v : β) (es : List (α × β)) (a : α) :
    (place k v es).find? (fun e => e.1 = a) =
      if k = a then some (k, v) else es.find? fun e => e.1 = a := by
  induction es with
  | nil => by_cases h : k = a <;> simp [place, h]
  | cons e rest ih =>
    by_cases hk : e.1 = k
    · subst hk
      by_cases ha : e.1 = a <;> simp [place, ha]
    · by_cases ha : e.1 = a
      · subst ha
        simp [place, hk, Ne.symm hk]
      · simp [place, hk, ha, ih]

def insert (m : OrderedMap α β) (k : α) (v : β) : OrderedMap α β :=
  ⟨place k v m.entries, nodup_place k v m.nodup⟩

theorem get?_insert (m : OrderedMap α β) (k : α) (v : β) (a : α) :
    (m.insert k v).get? a = if k = a then some v else m.get? a := by
  rw [get?, insert, find?_place]
  split
  · rfl
  · rfl

def erase (m : OrderedMap α β) (k : α) : OrderedMap α β :=
  ⟨m.entries.filter fun e => e.1 ≠ k, m.nodup.sublist (List.filter_sublist.map Prod.fst)⟩

/-- Later entries win, each key staying where it first appeared. -/
def ofList (entries : List (α × β)) : OrderedMap α β :=
  entries.foldl (fun m e => m.insert e.1 e.2) empty

theorem entries_foldl_insert (m : OrderedMap α β) (es : List (α × β))
    (h : ((m.entries ++ es).map Prod.fst).Nodup) :
    (es.foldl (fun m e => m.insert e.1 e.2) m).entries = m.entries ++ es := by
  induction es generalizing m with
  | nil => simp
  | cons e rest ih =>
    have hk : e.1 ∉ m.entries.map Prod.fst := by
      intro hm
      rw [List.map_append, List.map_cons, List.nodup_append] at h
      exact h.2.2 _ hm _ List.mem_cons_self rfl
    have he : (m.insert e.1 e.2).entries = m.entries ++ [e] := place_of_not_mem hk
    rw [List.foldl_cons, ih _ (by simpa [he] using h), he]
    simp

/-- A map is rebuilt from its entries, their order included. -/
theorem ofList_entries (m : OrderedMap α β) : ofList m.entries = m := by
  apply ext
  simpa [ofList, empty] using entries_foldl_insert empty m.entries (by simpa [empty] using m.nodup)

end OrderedMap
end PlantGrammar
