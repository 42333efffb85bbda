import Dlt.Lib.Machine
import Mathlib.Data.List.TakeWhile

/-!
# Identifiers of four bytes

* `memcmp` — the comparison of the C library. `Id4.key` is the value of an id as a number with the
  most significant byte first, and `memcmp` of two ids follows it (`memcmp_neg_iff`).
-/

namespace Dlt.Shared

open Dlt.Lib List

variable {text : List UInt8} {b a : Id4}

/-! ## Comparing -/

/-- `memcmp` on the first `n` bytes: the difference of the first bytes that differ. -/
def memcmp : List UInt8 → List UInt8 → ℕ → ℤ
  | a :: as, b :: bs, n + 1 => if a = b then memcmp as bs n else (a.toNat : ℤ) - b.toNat
  | _, _, _ => 0

theorem ofBeBytes_cons (a : UInt8) (as : List UInt8) :
    ofBeBytes (a :: as) = a.toNat * 256 ^ as.length + ofBeBytes as := by
  have happend : ∀ bs : List UInt8,
      ofLeBytes (bs ++ [a]) = a.toNat * 256 ^ bs.length + ofLeBytes bs := by
    intro bs
    induction bs with
    | nil => simp [ofLeBytes]
    | cons b bs ih =>
      rw [cons_append, ofLeBytes, ofLeBytes, ih, length_cons, pow_succ]
      ring
  rw [ofBeBytes, ofBeBytes, reverse_cons, happend, length_reverse]

theorem ofBeBytes_lt (bs : List UInt8) : ofBeBytes bs < 256 ^ bs.length := by
  simpa [ofBeBytes] using ofLeBytes_lt bs.reverse

theorem memcmp_cmp {as bs : List UInt8} (h : as.length = bs.length) :
    (memcmp as bs as.length < 0 ↔ ofBeBytes as < ofBeBytes bs) ∧
      (0 < memcmp as bs as.length ↔ ofBeBytes bs < ofBeBytes as) := by
  induction as generalizing bs with
  | nil =>
    cases bs with
    | nil => simp [memcmp]
    | cons b bs => simp at h
  | cons a as ih =>
    cases bs with
    | nil => simp at h
    | cons b bs =>
      have hlen : as.length = bs.length := by simpa using h
      have has := ofBeBytes_lt as
      have hbs := ofBeBytes_lt bs
      rw [ofBeBytes_cons, ofBeBytes_cons, length_cons, memcmp]
      split_ifs with hab
      · subst hab
        rw [(ih hlen).1, (ih hlen).2, hlen]
        omega
      · have hne : a.toNat ≠ b.toNat := fun heq => hab (UInt8.toNat_inj.mp heq)
        rw [hlen] at has ⊢
        generalize 256 ^ bs.length = p at has hbs ⊢
        rcases Nat.lt_or_gt_of_ne hne with hlt | hgt
        · have hmul : (a.toNat + 1) * p ≤ b.toNat * p := Nat.mul_le_mul_right p hlt
          rw [Nat.add_mul, Nat.one_mul] at hmul
          omega
        · have hmul : (b.toNat + 1) * p ≤ a.toNat * p := Nat.mul_le_mul_right p hgt
          rw [Nat.add_mul, Nat.one_mul] at hmul
          omega

/-! ## Identifiers -/

/-- Source: `dlt_common.h`, `ID4` -/
structure Id4 where
  bytes : List UInt8
  /-- There are `DLT_ID_SIZE` of them. -/
  length_eq : bytes.length = 4
deriving DecidableEq

/-- The bytes of a string up to its end, at most four. -/
def idText (text : List UInt8) : List UInt8 := (text.take 4).takeWhile (· ≠ 0)

theorem length_idText_le (text : List UInt8) : (idText text).length ≤ 4 :=
  (List.takeWhile_prefix _).length_le.trans (length_take_le 4 text)

theorem ne_zero_of_mem_idText {b : UInt8} (hb : b ∈ idText text) : decide (b ≠ 0) = true :=
  mem_takeWhile_imp (p := fun b => decide (b ≠ 0)) hb

theorem zero_not_mem_idText (text : List UInt8) : 0 ∉ idText text :=
  fun hzero => of_decide_eq_true (ne_zero_of_mem_idText hzero) rfl

theorem idText_of_short (hlen : text.length ≤ 4) (hzero : 0 ∉ text) : idText text = text := by
  rw [idText, take_of_length_le hlen, takeWhile_eq_self_iff]
  intro b hb
  exact decide_eq_true fun heq => hzero (heq ▸ hb)

/-- Source: `dlt_common.c`, `dlt_set_id` -/
def dltSetId (text : List UInt8) : Id4 :=
  ⟨idText text ++ List.replicate (4 - (idText text).length) 0, by
    have := length_idText_le text
    simp only [List.length_append, List.length_replicate]
    omega⟩

/-- Every byte behind the first zero is zero. -/
def Id4.Canonical (id : Id4) : Prop := dltSetId id.bytes = id

instance (id : Id4) : Decidable id.Canonical := inferInstanceAs (Decidable (_ = _))

/-- The id is the empty string: its first byte is zero. -/
def Id4.isEmpty (id : Id4) : Bool := id.bytes.headD 0 = 0

def Id4.key (id : Id4) : ℕ := ofBeBytes id.bytes

theorem Id4.key_injective (h : a.key = b.key) : a = b := by
  have hbytes := congrArg (leBytes 4) h
  unfold Id4.key ofBeBytes at hbytes
  have hround : ∀ id : Id4, leBytes 4 (ofLeBytes id.bytes.reverse) = id.bytes.reverse := by
    intro id
    have := leBytes_ofLeBytes id.bytes.reverse
    rwa [length_reverse, id.length_eq] at this
  rw [hround, hround, reverse_inj] at hbytes
  cases a
  cases b
  simpa using hbytes

theorem Id4.key_lt (id : Id4) : id.key < 4294967296 := by
  have := ofBeBytes_lt id.bytes
  rw [id.length_eq] at this
  exact this

/-- `memcmp` of two ids. -/
def Id4.cmp (a b : Id4) : ℤ := memcmp a.bytes b.bytes 4

theorem memcmp_neg_iff : a.cmp b < 0 ↔ a.key < b.key := by
  have h := (memcmp_cmp (a.length_eq.trans b.length_eq.symm)).1
  rwa [a.length_eq] at h

theorem memcmp_pos_iff : 0 < a.cmp b ↔ b.key < a.key := by
  have h := (memcmp_cmp (a.length_eq.trans b.length_eq.symm)).2
  rwa [a.length_eq] at h

theorem idText_idText (text : List UInt8) :
    idText (idText text ++ List.replicate (4 - (idText text).length) 0) = idText text := by
  have hle := length_idText_le text
  have htake : (idText text ++ replicate (4 - (idText text).length) 0).take 4 =
      idText text ++ replicate (4 - (idText text).length) 0 :=
    take_of_length_le (by simp only [length_append, length_replicate]; omega)
  conv_lhs => rw [idText, htake, takeWhile_append_of_pos fun b hb => ne_zero_of_mem_idText hb]
  cases 4 - (idText text).length with
  | zero => simp
  | succ n => simp [replicate_succ]

/-- What `dlt_set_id` makes is canonical. -/
theorem canonical_dltSetId (text : List UInt8) : (dltSetId text).Canonical := by
  simp only [Id4.Canonical, dltSetId, idText_idText]

theorem dltSetId_eq_iff {id : Id4} (h : id.Canonical) :
    id = dltSetId text ↔ idText id.bytes = idText text := by
  constructor
  · rintro rfl
    exact idText_idText text
  · intro htext
    rw [← h]
    simp only [dltSetId, htext]

theorem dltSetId_idText {id : Id4} (h : id.Canonical) : dltSetId (idText id.bytes) = id :=
  ((dltSetId_eq_iff h).mpr (idText_of_short (length_idText_le _) (zero_not_mem_idText _)).symm).symm

/-- Texts of at most four characters are the same when their ids are. -/
theorem dltSetId_inj {a b : List UInt8} (ha : a.length ≤ 4 ∧ 0 ∉ a) (hb : b.length ≤ 4 ∧ 0 ∉ b)
    (h : dltSetId a = dltSetId b) : a = b := by
  have hids := (dltSetId_eq_iff (canonical_dltSetId a)).mp h
  rw [← idText_of_short ha.1 ha.2, ← idText_of_short hb.1 hb.2, ← hids]
  exact (idText_idText a).symm

theorem canonical_dltSetId_nil : (dltSetId []).Canonical := canonical_dltSetId []

theorem isEmpty_dltSetId (id : Id4) : (dltSetId id.bytes).isEmpty = id.isEmpty := by
  obtain ⟨bytes, hlen⟩ := id
  cases bytes with
  | nil => simp at hlen
  | cons b bs =>
    by_cases hb : b = 0
    · simp [Id4.isEmpty, dltSetId, idText, hb, replicate]
    · simp [Id4.isEmpty, dltSetId, idText, hb]

end Dlt.Shared
