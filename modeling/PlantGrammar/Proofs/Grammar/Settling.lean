import Mathlib
import PlantGrammar.Proofs.Grammar.Derivation
import PlantGrammar.Proofs.Grammar.Iteration

/-! # Rules that settle

Where no key leads back to itself, every text comes to a text without ruled symbols, and stays there.
Ranks show when: if a ruled symbol ranks above those of its body, each step lowers the largest rank in
the text. Without a cycle the number of keys below a symbol is such a rank.
-/
namespace PlantGrammar.Rules
open Relation
variable {rules : Rules} {rank : Char → ℕ} {text : List Char} {c d : Char} {key other : String} {n : ℕ}

def Ruled (rules : Rules) (c : Char) : Prop := (rules.body? c).isSome

instance (rules : Rules) : DecidablePred rules.Ruled := fun c =>
  inferInstanceAs (Decidable ((rules.body? c).isSome = true))

/-- A key is a symbol in the body of a key. -/
def OccursIn (rules : Rules) (key other : String) : Prop :=
  key ∈ rules.keys ∧ ∃ body, rules.get? other = some body ∧ ∃ c ∈ body.toList, key = String.singleton c

/-- No key leads back to itself. -/
def Acyclic (rules : Rules) : Prop := ∀ key, ¬ TransGen rules.OccursIn key key

/-- A ruled symbol has a larger rank than the ruled symbols of its body. -/
def Ranks (rules : Rules) (rank : Char → ℕ) : Prop :=
  ∀ d, ∀ body ∈ rules.body? d, ∀ c ∈ body.toList, rules.Ruled c → rank c < rank d

theorem ruled_iff_mem_keys : rules.Ruled c ↔ String.singleton c ∈ rules.keys :=
  OrderedMap.isSome_get?_iff

/-- Ranks can be checked rule by rule, keys that are no symbols left aside. -/
theorem ranks_iff : rules.Ranks rank ↔ ∀ e ∈ rules.entries, ∀ d ∈ e.1.toList,
    e.1 = String.singleton d → ∀ c ∈ e.2.toList, rules.Ruled c → rank c < rank d := by
  constructor
  · rintro h ⟨key, body⟩ he d - rfl
    exact h d body (OrderedMap.get?_of_mem he)
  · intro h d body hb
    have hd : d ∈ (String.singleton d).toList := by simp
    exact h (String.singleton d, body) (OrderedMap.mem_of_get? hb) d hd rfl

instance (rules : Rules) (rank : Char → ℕ) : Decidable (rules.Ranks rank) :=
  -- the instance found otherwise tries all characters there are
  letI (text : List Char) (p : Char → Prop) [DecidablePred p] : Decidable (∀ c ∈ text, p c) :=
    List.decidableBAll p text
  decidable_of_iff _ ranks_iff.symm

theorem ruled_of_mem_body? {body : String} (h : body ∈ rules.body? c) : rules.Ruled c :=
  Option.isSome_of_mem h

theorem occursIn_of_mem_body {body : String} (hb : body ∈ rules.body? d) (hc : c ∈ body.toList)
    (hr : rules.Ruled c) : rules.OccursIn (String.singleton c) (String.singleton d) :=
  ⟨ruled_iff_mem_keys.mp hr, body, hb, c, hc, rfl⟩

/-- Along a chain of occurrences the rank grows. -/
theorem Ranks.lt_of_transGen (h : rules.Ranks rank) (ht : TransGen rules.OccursIn key other) :
    ∃ c, key = String.singleton c ∧ ∀ d, other = String.singleton d → rank c < rank d := by
  induction ht with
  | single hocc =>
    obtain ⟨hkey, body, hb, c, hc, rfl⟩ := hocc
    refine ⟨c, rfl, ?_⟩
    rintro d rfl
    exact h d body hb c hc (ruled_iff_mem_keys.mpr hkey)
  | tail _ hocc ih =>
    obtain ⟨hkey, body, hb, b, hbc, rfl⟩ := hocc
    obtain ⟨c, rfl, hlt⟩ := ih
    refine ⟨c, rfl, ?_⟩
    rintro d rfl
    exact (hlt b rfl).trans (h d body hb b hbc (ruled_iff_mem_keys.mpr hkey))

theorem Ranks.acyclic (h : rules.Ranks rank) : rules.Acyclic := by
  intro key hcycle
  obtain ⟨c, hc, hlt⟩ := h.lt_of_transGen hcycle
  exact absurd (hlt c hc) (lt_irrefl _)

open Classical in
/-- The keys that occur below a symbol, in its body or further down. -/
noncomputable def below (rules : Rules) (c : Char) : Finset String :=
  rules.keys.toFinset.filter fun key => TransGen rules.OccursIn key (String.singleton c)

theorem mem_below : key ∈ rules.below c ↔
    key ∈ rules.keys ∧ TransGen rules.OccursIn key (String.singleton c) := by
  simp [below]

theorem Acyclic.ranks (h : rules.Acyclic) : rules.Ranks fun c => (rules.below c).card := by
  intro d body hb c hc hr
  have hocc := occursIn_of_mem_body hb hc hr
  refine Finset.card_lt_card (Finset.ssubset_iff_of_subset ?_ |>.mpr ?_)
  · intro key hkey
    obtain ⟨hmem, hchain⟩ := mem_below.mp hkey
    exact mem_below.mpr ⟨hmem, hchain.tail hocc⟩
  · -- the symbol itself is below the key, but not below itself
    refine ⟨String.singleton c, mem_below.mpr ⟨hocc.1, .single hocc⟩, fun hself => ?_⟩
    exact h _ (mem_below.mp hself).2

theorem Acyclic.card_below_lt (h : rules.Acyclic) (hr : rules.Ruled c) :
    (rules.below c).card < rules.entries.length := by
  have hkeys : rules.keys.toFinset.card = rules.entries.length := by
    rw [OrderedMap.keys, List.toFinset_card_of_nodup rules.nodup, List.length_map]
  rw [← hkeys]
  refine Finset.card_lt_card (Finset.ssubset_iff_of_subset ?_ |>.mpr ?_)
  · intro key hkey
    exact List.mem_toFinset.mpr (mem_below.mp hkey).1
  · refine ⟨String.singleton c, List.mem_toFinset.mpr (ruled_iff_mem_keys.mp hr), fun hself => ?_⟩
    exact h _ (mem_below.mp hself).2

/-- One more than the largest rank of a ruled symbol in a text, zero if there is none. -/
def height (rules : Rules) (rank : Char → ℕ) (text : List Char) : ℕ :=
  (text.toFinset.filter rules.Ruled).sup (rank · + 1)

theorem height_le_iff : rules.height rank text ≤ n ↔ ∀ c ∈ text, rules.Ruled c → rank c < n := by
  simp only [height, Finset.sup_le_iff, Finset.mem_filter, List.mem_toFinset, and_imp,
    Nat.add_one_le_iff]

theorem Ranks.height_successor_le (h : rules.Ranks rank) (ht : rules.height rank text ≤ n + 1) :
    rules.height rank (rules.successor text) ≤ n := by
  rw [height_le_iff] at ht ⊢
  intro c hc hr
  obtain ⟨d, hd, hc⟩ := List.mem_flatMap.mp hc
  unfold image at hc
  cases hb : rules.body? d with
  | none =>
    rw [hb] at hc
    obtain rfl := List.mem_singleton.mp hc
    rw [Ruled, hb] at hr
    cases hr
  | some body =>
    rw [hb] at hc
    have hlt := h d body hb c hc hr
    have hle := ht d hd (ruled_of_mem_body? hb)
    omega

theorem Ranks.not_ruled_iterate (h : rules.Ranks rank) (ht : rules.height rank text ≤ n) :
    ∀ c ∈ rules.successor^[n] text, ¬ rules.Ruled c := by
  induction n generalizing text with
  | zero =>
    intro c hc hr
    exact absurd (height_le_iff.mp ht c hc hr) (Nat.not_lt_zero _)
  | succ n ih =>
    rw [Function.iterate_succ_apply]
    exact ih (h.height_successor_le ht)

theorem successor_of_not_ruled (h : ∀ c ∈ text, ¬ rules.Ruled c) : rules.successor text = text := by
  have himage : ∀ c ∈ text, rules.image c = [c] := by
    intro c hc
    rw [image, Option.not_isSome_iff_eq_none.mp (h c hc)]
  rw [successor, List.flatMap_congr himage, List.flatMap_singleton']

/-- From so many steps on, the derived strand is the same and holds no ruled symbol. -/
def SettlesAt (rules : Rules) (text : String) (steps : ℕ) : Prop :=
  ∀ n : ℤ, steps ≤ n → rules.derive text n = rules.derive text steps ∧
    ∃ s, rules.derive text n = .ok s ∧ ∀ c ∈ s.symbols, ¬ rules.Ruled c

theorem Ranks.settlesAt (h : rules.Ranks rank) {text : String} {steps : ℕ}
    (ht : rules.height rank text.toList ≤ steps) : rules.SettlesAt text steps := by
  intro n hn
  have hsettled := h.not_ruled_iterate ht
  have hsame : rules.successor^[n.toNat] text.toList = rules.successor^[steps] text.toList := by
    obtain ⟨k, hk⟩ := Nat.exists_eq_add_of_le' (Int.ofNat_le.mp (hn.trans n.self_le_toNat))
    rw [hk, Function.iterate_add_apply, Function.iterate_fixed (successor_of_not_ruled hsettled)]
  rw [derive_eq_ofList, derive_eq_ofList, Int.toNat_natCast, hsame]
  refine ⟨rfl, _, rfl, ?_⟩
  rwa [Strand.symbols_ofList]

/-- Without a cycle among the keys every text settles within as many steps as there are rules. Given
ranks, it settles within one step more than the largest rank of a ruled symbol in it, and at once if
it has no ruled symbol. -/
theorem derive_settles (rules : Rules) (text : String) :
    (rules.Acyclic → rules.SettlesAt text rules.entries.length) ∧
    ∀ rank, rules.Ranks rank → rules.SettlesAt text (rules.height rank text.toList) := by
  refine ⟨fun h => h.ranks.settlesAt ?_, fun rank h => h.settlesAt le_rfl⟩
  exact height_le_iff.mpr fun c _ hr => h.card_below_lt hr

/-- The bodies nest two deep, one of them is empty, and one key is no symbol. Ranks promise an end
sooner than the number of rules does. -/
theorem derive_settles_below_three : ∃ rules : Rules,
    rules = .ofList [("A", "BxCB"), ("B", "CC"), ("C", ""), ("AB", "A")] ∧ rules.Acyclic ∧
      rules.SettlesAt "AxB" 4 ∧ ∃ rank, rules.Ranks rank ∧ rules.height rank "AxB".toList = 3 ∧
        rules.SettlesAt "AxB" 3 := by
  have hranks : Ranks (.ofList [("A", "BxCB"), ("B", "CC"), ("C", ""), ("AB", "A")])
      fun c => if c = 'A' then 2 else if c = 'B' then 1 else 0 := by decide
  have hsettles := derive_settles (.ofList [("A", "BxCB"), ("B", "CC"), ("C", ""), ("AB", "A")]) "AxB"
  exact ⟨_, rfl, hranks.acyclic, hsettles.1 hranks.acyclic, _, hranks, rfl, hsettles.2 _ hranks⟩

end PlantGrammar.Rules
