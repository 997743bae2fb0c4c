import PlantGrammar.Proofs.Mesh.Distance
import PlantGrammar.Proofs.Mesh.Strokes
import PlantGrammar.Proofs.Number.HalfEven

/-! # Packing colors and taking them apart

Four finite channels make a word whose bytes are the channels, rounded and clamped, and the bytes of a
word make the same word again. Channels are read in order and no further than the fifth; the first
one that is not finite decides why a color is refused, or else their number.
-/
namespace PlantGrammar
open Number

namespace Channel
variable {c : Channel}

def isFinite : Channel → Bool
  | integer _ => true
  | real x => x.isFinite

def isInfinite : Channel → Bool
  | integer _ => false
  | real x => x.isInf

/-- The exact value of a finite channel. -/
def value? : Channel → Option ℚ
  | integer n => some n
  | real x =>
    match Magnitude.ofFloat x with
    | .finite v => some v.value
    | _ => none

def RoundsTo (c : Channel) (n : ℤ) : Prop := ∃ q, c.value? = some q ∧ NearestEven q n

theorem roundsTo_integer {m n : ℤ} : (integer m).RoundsTo n ↔ n = m := by
  constructor
  · rintro ⟨q, hq, hn⟩
    cases hq
    exact hn.unique (nearestEven_intCast m)
  · rintro rfl
    exact ⟨n, rfl, nearestEven_intCast n⟩

theorem roundsTo_of_round {n : ℤ} (h : c.round = .ok n) : c.RoundsTo n := by
  cases c with
  | integer m =>
    cases h
    exact roundsTo_integer.mpr rfl
  | real x =>
    rw [round] at h
    cases hv : Magnitude.ofFloat x with
    | finite v =>
      rw [hv] at h
      cases h
      exact ⟨v.value, by rw [value?, hv], v.nearestEven_round⟩
    | infinite s | nan =>
      rw [hv] at h
      cases h

theorem exists_round (h : c.isFinite = true) : ∃ n, c.round = .ok n := by
  cases c with
  | integer n => exact ⟨n, rfl⟩
  | real x =>
    change x.toModel.unpack.isFinite = true at h
    rw [round, ← Magnitude.ofUnpacked_unpack x]
    cases hu : x.toModel.unpack with
    | infinity s => rw [hu] at h; cases h
    | notANumber => rw [hu] at h; cases h
    | zero s => exact ⟨_, rfl⟩
    | finite s m e => exact ⟨_, rfl⟩

theorem round_of_not_isFinite (h : c.isFinite = false) :
    c.round = .error (if c.isInfinite then .infiniteChannel else .nanChannel) := by
  cases c with
  | integer n => cases h
  | real x =>
    have hinf : isInfinite (real x) = x.toModel.unpack.isInf := rfl
    change x.toModel.unpack.isFinite = false at h
    rw [hinf, round, ← Magnitude.ofUnpacked_unpack x]
    cases hu : x.toModel.unpack with
    | infinity s => rfl
    | notANumber => rfl
    | zero s => rw [hu] at h; cases h
    | finite s m e => rw [hu] at h; cases h

end Channel

namespace Color
variable {channels : List Channel} {c : Channel} {p : ℤ}

/-- The bytes of a word from the highest down, as shifts and masks take them. -/
def fields (p : ℕ) : List ℕ := [24, 16, 8, 0].map fun shift => p >>> shift &&& 0xff

theorem splitBytes_eq_fields (p : ℕ) : splitBytes p = fields p := by
  have hmask (n : ℕ) : n &&& 0xff = n % 256 := Nat.and_two_pow_sub_one_eq_mod n 8
  simp only [fields, splitBytes, List.map_cons, List.map_nil, hmask, Nat.shiftRight_eq_div_pow]
  norm_num

theorem splitBytes_joinBytes {r g b a : ℕ} (hr : r < 256) (hg : g < 256) (hb : b < 256)
    (ha : a < 256) : splitBytes (joinBytes r g b a) = [r, g, b, a] := by
  simp only [splitBytes, joinBytes, List.cons.injEq, and_true]
  omega

theorem exists_splitBytes {p : ℕ} (hp : p < 0x100000000) :
    ∃ r g b a, splitBytes p = [r, g, b, a] ∧ joinBytes r g b a = p ∧
      r < 256 ∧ g < 256 ∧ b < 256 ∧ a < 256 := by
  have hlt (n : ℕ) : n % 256 < 256 := Nat.mod_lt n (by decide)
  refine ⟨_, _, _, _, rfl, ?_, hlt _, hlt _, hlt _, hlt _⟩
  unfold joinBytes
  omega

theorem clampByte_of_le {n : ℤ} (hn : 0 ≤ n ∧ n ≤ 255) : (clampByte n : ℤ) = n := by
  unfold clampByte
  omega

/-- The first channel that is not finite, among the five that are read. -/
def firstStray? (channels : List Channel) : Option Channel :=
  (channels.take 5).find? fun c => !c.isFinite

theorem firstStray?_eq_none_iff (hlen : channels.length = 4) :
    firstStray? channels = none ↔ ∀ c ∈ channels, c.isFinite = true := by
  rw [firstStray?, List.take_of_length_le (by omega), List.find?_eq_none]
  simp

theorem pack_of_firstStray? (h : firstStray? channels = some c) :
    pack channels = .error (if c.isInfinite then .infiniteChannel else .nanChannel) := by
  have hc : c.isFinite = false := by simpa using List.find?_some h
  have hmap : (channels.take 5).mapM Channel.round =
      .error (if c.isInfinite then .infiniteChannel else .nanChannel) := by
    refine mapM_eq_error_of_find? (fun d hd => ?_) h (Channel.round_of_not_isFinite hc)
    exact Channel.exists_round (by simpa using hd)
  rw [pack, hmap]
  rfl

/-- Without a stray one, all channels that are read are rounded. -/
theorem mapM_round (h : firstStray? channels = none) :
    ∃ ns, (channels.take 5).mapM Channel.round = .ok ns ∧
      List.Forall₂ Channel.RoundsTo (channels.take 5) ns := by
  obtain ⟨ns, hns, -⟩ := exists_mapM_eq_ok (f := Channel.round) fun c hc =>
    Channel.exists_round (by simpa using List.find?_eq_none.mp h c hc)
  exact ⟨ns, hns, (forall₂_of_mapM_eq_ok hns).imp fun _ _ => Channel.roundsTo_of_round⟩

theorem pack_of_length (h : firstStray? channels = none) (hlen : channels.length ≠ 4) :
    pack channels = .error .channelCount := by
  obtain ⟨ns, hns, hrounds⟩ := mapM_round h
  have hcount : ns.length ≠ 4 := by
    have := hrounds.length_eq
    rw [List.length_take] at this
    omega
  rw [pack, hns]
  match ns, hcount with
  | [], _ | [_], _ | [_, _], _ | [_, _, _], _ | _ :: _ :: _ :: _ :: _ :: _, _ => rfl

/-- Four finite channels become the bytes of a word. -/
theorem pack_of_finite (h : firstStray? channels = none) (hlen : channels.length = 4) :
    ∃ (p : ℤ) (ns : List ℤ), pack channels = .ok p ∧ List.Forall₂ Channel.RoundsTo channels ns ∧
      fields p.toNat = ns.map clampByte := by
  obtain ⟨ns, hns, hrounds⟩ := mapM_round h
  rw [List.take_of_length_le (by omega)] at hrounds
  obtain ⟨r, g, b, a, rfl⟩ := List.length_eq_four.mp (hrounds.length_eq.symm.trans hlen)
  refine ⟨joinBytes (clampByte r) (clampByte g) (clampByte b) (clampByte a), [r, g, b, a], ?_,
    hrounds, ?_⟩
  · rw [pack, hns]
    rfl
  · rw [← splitBytes_eq_fields, Int.toNat_natCast]
    exact splitBytes_joinBytes (clampByte_lt r) (clampByte_lt g) (clampByte_lt b) (clampByte_lt a)

/-- The bytes of a word, as channels, make the word. -/
theorem pack_fields {p : ℕ} (hp : p < 0x100000000) :
    pack ((fields p).map fun b => .integer b) = .ok p := by
  obtain ⟨r, g, b, a, hsplit, hjoin, hr, hg, hb, ha⟩ := exists_splitBytes hp
  have hclamp {n : ℕ} (hn : n < 256) : clampByte n = n := by
    unfold clampByte
    omega
  rw [← splitBytes_eq_fields, hsplit]
  have hpack : pack ([r, g, b, a].map fun b => .integer b) =
      .ok (joinBytes (clampByte r) (clampByte g) (clampByte b) (clampByte a) : ℕ) := rfl
  rw [hpack, hclamp hr, hclamp hg, hclamp hb, hclamp ha, hjoin]

theorem pack_eq_ok_iff :
    (∃ p, pack channels = .ok p) ↔ channels.length = 4 ∧ ∀ c ∈ channels, c.isFinite = true := by
  constructor
  · rintro ⟨p, hp⟩
    cases hstray : firstStray? channels with
    | some c =>
      rw [pack_of_firstStray? hstray] at hp
      cases hp
    | none =>
      by_cases hlen : channels.length = 4
      · exact ⟨hlen, (firstStray?_eq_none_iff hlen).mp hstray⟩
      · rw [pack_of_length hstray hlen] at hp
        cases hp
  · rintro ⟨hlen, hfinite⟩
    obtain ⟨p, -, hp, -⟩ := pack_of_finite ((firstStray?_eq_none_iff hlen).mpr hfinite) hlen
    exact ⟨p, hp⟩

/-- The bytes of a packed color are its channels. -/
theorem fields_of_pack {p : ℤ} (hp : pack channels = .ok p) :
    ∃ ns, List.Forall₂ Channel.RoundsTo channels ns ∧ fields p.toNat = ns.map clampByte := by
  obtain ⟨hlen, hfinite⟩ := pack_eq_ok_iff.mp ⟨p, hp⟩
  obtain ⟨q, ns, hq, hrounds, hfields⟩ :=
    pack_of_finite ((firstStray?_eq_none_iff hlen).mpr hfinite) hlen
  rw [hq] at hp
  cases hp
  exact ⟨ns, hrounds, hfields⟩

theorem fault_of_pack {fault : Fault} (h : pack channels = .error fault) :
    (∀ c, firstStray? channels = some c →
      fault = if c.isInfinite then .infiniteChannel else .nanChannel) ∧
    (firstStray? channels = none → fault = .channelCount) := by
  constructor
  · intro c hc
    rw [pack_of_firstStray? hc] at h
    exact (Except.error.inj h).symm
  · intro hstray
    by_cases hlen : channels.length = 4
    · obtain ⟨p, -, hp, -⟩ := pack_of_finite hstray hlen
      rw [hp] at h
      cases h
    · rw [pack_of_length hstray hlen] at h
      exact (Except.error.inj h).symm

theorem eq_of_forall₂_roundsTo {ms ns : List ℤ}
    (h : List.Forall₂ Channel.RoundsTo (ms.map .integer) ns) : ns = ms := by
  rw [List.forall₂_map_left_iff] at h
  have heq : List.Forall₂ (fun m n => m = n) ms ns :=
    h.imp fun m n hmn => (Channel.roundsTo_integer.mp hmn).symm
  exact (List.forall₂_eq_eq_eq ▸ heq : ms = ns).symm

theorem map_clampByte {ns : List ℤ} (h : ∀ n ∈ ns, 0 ≤ n ∧ n ≤ 255) :
    (ns.map clampByte).map (fun b : ℕ => (b : ℤ)) = ns := by
  rw [List.map_map]
  refine (List.map_congr_left fun n hn => ?_).trans ns.map_id
  exact clampByte_of_le (h n hn)

/-- Channels that are bytes are read off the word that they make. -/
theorem eq_fields_of_pack {ns : List ℤ} (h : ∀ n ∈ ns, 0 ≤ n ∧ n ≤ 255) {p : ℤ}
    (hp : pack (ns.map .integer) = .ok p) : ns = (fields p.toNat).map fun b : ℕ => (b : ℤ) := by
  obtain ⟨ms, hrounds, hfields⟩ := fields_of_pack hp
  rw [hfields, eq_of_forall₂_roundsTo hrounds, map_clampByte h]

/-- Packing takes exactly four finite channels, and a packed color is the word whose bytes are they,
rounded and clamped. The bytes of a word make the word again, so that different bytes make different
words. A color is refused for its first stray channel, or else for the number of its channels. -/
theorem pack_inverse_fields :
    (∀ channels : List Channel,
      ((∃ p, pack channels = .ok p) ↔
        channels.length = 4 ∧ ∀ c ∈ channels, c.isFinite = true) ∧
      (∀ p, pack channels = .ok p →
        IsWord p ∧
        unpack p = .ok ((fields p.toNat).map fun b => b.toFloat / 255) ∧
        ∃ ns, List.Forall₂ Channel.RoundsTo channels ns ∧ fields p.toNat = ns.map clampByte) ∧
      ∀ fault, pack channels = .error fault →
        (∀ c, firstStray? channels = some c →
          fault = if c.isInfinite then .infiniteChannel else .nanChannel) ∧
        (firstStray? channels = none → fault = .channelCount)) ∧
    (∀ p : ℕ, p < 0x100000000 → pack ((fields p).map fun b => .integer b) = .ok p) ∧
    ∀ ms ns : List ℤ, (∀ n ∈ ms ++ ns, 0 ≤ n ∧ n ≤ 255) →
      ∀ p, pack (ms.map .integer) = .ok p → pack (ns.map .integer) = .ok p → ms = ns := by
  refine ⟨fun channels => ⟨pack_eq_ok_iff, fun p hp => ⟨isWord_of_pack hp, ?_, fields_of_pack hp⟩,
    fun fault => fault_of_pack⟩, fun p => pack_fields, fun ms ns h p hm hn => ?_⟩
  · rw [unpack_of_isWord (isWord_of_pack hp), levels, splitBytes_eq_fields]
  · rw [List.forall_mem_append] at h
    rw [eq_fields_of_pack h.1 hm, eq_fields_of_pack h.2 hn]

/-- Above, below and halfway: the word holds the clamped even neighbours. Of two stray channels the
first decides, a fifth channel is still read, and a sixth one is not. -/
theorem pack_inverse_fields_of_mixed :
    pack [.real 254.5, .integer 300, .real (-3.7), .real 2.5] = .ok 0xfeff0002 ∧
    (∃ ns, List.Forall₂ Channel.RoundsTo
        [.real 254.5, .integer 300, .real (-3.7), .real 2.5] ns ∧
      [0xfe, 0xff, 0, 2] = ns.map clampByte) ∧
    pack [.integer 0xfe, .integer 0xff, .integer 0, .integer 2] = .ok 0xfeff0002 ∧
    (∀ p, pack [.integer 1, .integer 2, .integer 3, .integer 4] = .ok p →
      pack [.integer 0xfe, .integer 0xff, .integer 0, .integer 2] ≠ .ok p) ∧
    (∃ fault, pack [.integer 0, .real (1 / 0), .real (0 / 0)] = .error fault ∧
      fault = .infiniteChannel) ∧
    (∃ fault, pack ((List.replicate 4 (.integer 0)).concat (.real (0 / 0))) = .error fault ∧
      fault = .nanChannel) ∧
    ∃ fault, pack ((List.replicate 5 (.integer 0)).concat (.real (0 / 0))) = .error fault ∧
      fault = .channelCount := by
  obtain ⟨hpack, hfields, hinj⟩ := pack_inverse_fields
  refine ⟨rfl, ((hpack _).2.1 0xfeff0002 rfl).2.2, hfields 0xfeff0002 (by decide), ?_, ?_, ?_, ?_⟩
  · intro p hone hother
    exact absurd (hinj [1, 2, 3, 4] [0xfe, 0xff, 0, 2] (by decide) p hone hother) (by decide)
  · exact ⟨_, rfl, ((hpack [.integer 0, .real (1 / 0), .real (0 / 0)]).2.2 _ rfl).1 _ rfl⟩
  · have hfifth := hpack ((List.replicate 4 (.integer 0)).concat (.real (0 / 0)))
    exact ⟨_, rfl, (hfifth.2.2 _ rfl).1 _ rfl⟩
  · have hsixth := hpack ((List.replicate 5 (.integer 0)).concat (.real (0 / 0)))
    exact ⟨_, rfl, (hsixth.2.2 _ rfl).2 rfl⟩

end Color
end PlantGrammar
