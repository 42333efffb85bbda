import Dlt.Lib.Ring

/-!
# A buffer that records are written into again and again

* `LogRing` — what a log ring is for: every flush stores the records since the last one that are still whole.
  `LogRing.Ordered` — what is stored keeps the order in which it was recorded, and is stored once.
-/

namespace Dlt.Lib

open List

variable {α : Type*}

/-! ## Records in a buffer -/

/-- A record at a position of a buffer. -/
structure Slot (α : Type*) where
  position : ℕ
  content : List α
deriving DecidableEq

/-- Where a record ends. -/
def Slot.stop (s : Slot α) : ℕ := s.position + s.content.length

/-- Two records share a position. -/
def Slot.Overlaps (s t : Slot α) : Prop := s.position < t.stop ∧ t.position < s.stop

instance (s t : Slot α) : Decidable (s.Overlaps t) := inferInstanceAs (Decidable (_ ∧ _))

/-- The records that no later one overlaps. -/
def intact : List (Slot α) → List (Slot α)
  | [] => []
  | s :: slots => if ∃ t ∈ slots, s.Overlaps t then intact slots else s :: intact slots

/-- The elements from one position up to another. -/
def slice (buffer : List α) (start stop : ℕ) : List α := (buffer.drop start).take (stop - start)

/-- Records that lie one behind the other and that the buffer holds. -/
def Tiles (buffer : List α) : ℕ → ℕ → List (Slot α) → Prop
  | start, stop, [] => start = stop
  | start, stop, s :: slots =>
    s.position = start ∧ 0 < s.content.length ∧ s.content <+: buffer.drop start ∧ Tiles buffer s.stop stop slots

/-- Each of the records is overlapped by a later one, or meets the condition. -/
def Dropped (P : Slot α → Prop) (keep : List (Slot α)) : List (Slot α) → Prop
  | [] => True
  | s :: rest => ((∃ t ∈ rest ++ keep, s.Overlaps t) ∨ P s) ∧ Dropped P keep rest

section tiles

variable {buffer content : List α} {start middle stop position i : ℕ} {slots more : List (Slot α)} {s : Slot α}

namespace Tiles

section

variable (h : Tiles buffer start stop slots)
include h

theorem le : start ≤ stop := by
  induction slots generalizing start with
  | nil => exact Nat.le_of_eq h
  | cons s slots ih =>
    obtain ⟨hs, -, -, hrest⟩ := h
    have hle := ih hrest
    rw [Slot.stop] at hle
    omega

theorem mem (hs : s ∈ slots) : start ≤ s.position ∧ s.stop ≤ stop ∧ 0 < s.content.length := by
  induction slots generalizing start with
  | nil => cases hs
  | cons t slots ih =>
    obtain ⟨ht, hpos, -, hrest⟩ := h
    rcases mem_cons.mp hs with rfl | hin
    · exact ⟨Nat.le_of_eq ht.symm, hrest.le, hpos⟩
    · obtain ⟨hle, hstop, hlen⟩ := ih hrest hin
      rw [Slot.stop] at hle
      exact ⟨by omega, hstop, hlen⟩

theorem covers (hi : start ≤ i) (hstop : i < stop) : ∃ t ∈ slots, t.position ≤ i ∧ i < t.stop := by
  induction slots generalizing start with
  | nil => exact absurd (h ▸ hstop) (Nat.not_lt.mpr hi)
  | cons t slots ih =>
    obtain ⟨ht, -, -, hrest⟩ := h
    by_cases hin : i < t.stop
    · exact ⟨t, mem_cons_self, by omega, hin⟩
    · obtain ⟨u, hu, hle, hlt⟩ := ih hrest (Nat.le_of_not_lt hin)
      exact ⟨u, mem_cons_of_mem _ hu, hle, hlt⟩

end

theorem append (h : Tiles buffer start middle slots) (hmore : Tiles buffer middle stop more) :
    Tiles buffer start stop (slots ++ more) := by
  induction slots generalizing start with
  | nil =>
    obtain rfl := h
    exact hmore
  | cons s slots ih => exact ⟨h.1, h.2.1, h.2.2.1, ih h.2.2.2⟩

theorem head (h : Tiles buffer start stop (s :: slots)) : s.content <+: buffer.drop start := h.2.2.1

theorem slice_eq (h : Tiles buffer start stop slots) : slice buffer start stop = slots.flatMap Slot.content := by
  induction slots generalizing start with
  | nil =>
    obtain rfl := h
    rw [slice, Nat.sub_self]
    rfl
  | cons s slots ih =>
    obtain ⟨hs, -, ⟨rest, hrest⟩, htail⟩ := h
    have hdrop : buffer.drop s.stop = rest := by
      rw [Slot.stop, hs, ← drop_drop, ← hrest, drop_left]
    have hle := htail.le
    have hlen : stop - start - s.content.length = stop - s.stop := by
      rw [Slot.stop] at hle ⊢
      omega
    rw [flatMap_cons, ← ih htail, slice, slice, ← hrest, take_append, hlen, hdrop, take_of_length_le]
    rw [Slot.stop] at hle
    omega

theorem overwrite (h : Tiles buffer start stop slots) (hposition : position ≤ buffer.length)
    (hapart : position + content.length ≤ start ∨ stop ≤ position) :
    Tiles (overwrite buffer position content) start stop slots := by
  induction slots generalizing start with
  | nil => exact h
  | cons s slots ih =>
    obtain ⟨hs, hpos, hin, hrest⟩ := h
    have hle := hrest.le
    rw [Slot.stop] at hle
    refine ⟨hs, hpos, ?_, ih hrest (by rw [Slot.stop]; omega)⟩
    rw [Dlt.Lib.overwrite]
    rcases hapart with hbefore | hbehind
    · have hsplit : start = (buffer.take position ++ content).length + (start - (position + content.length)) := by
        rw [length_append, length_take]
        omega
      rw [hsplit, ← drop_drop, drop_left, drop_drop]
      rwa [Nat.add_sub_cancel' hbefore]
    · rw [append_assoc, drop_append_of_le_length (by rw [length_take]; omega), drop_take]
      have hfits : s.content.length ≤ position - start := by omega
      exact (prefix_take_iff.mpr ⟨hin, hfits⟩).trans (prefix_append _ _)

theorem written (hposition : position ≤ buffer.length) (hcontent : 0 < content.length) :
    Tiles (Dlt.Lib.overwrite buffer position content) position (position + content.length) [⟨position, content⟩] := by
  refine ⟨rfl, hcontent, ?_, rfl⟩
  rw [drop_overwrite _ hposition]
  exact prefix_append _ _

theorem pairwise (h : Tiles buffer start stop slots) : slots.Pairwise fun s t => ¬ s.Overlaps t := by
  induction slots generalizing start with
  | nil => exact List.Pairwise.nil
  | cons s slots ih =>
    obtain ⟨-, -, -, hrest⟩ := h
    refine pairwise_cons.mpr ⟨?_, ih hrest⟩
    intro t ht hoverlaps
    exact absurd hoverlaps.2 (Nat.not_lt.mpr (hrest.mem ht).1)

/-- The records that begin before a position, and those that do not. -/
theorem split (h : Tiles buffer start stop slots) (limit : ℕ) :
    ∃ front back, slots = front ++ back ∧ (∀ s ∈ front, s.position < limit) ∧
      (back = [] ∨ ∃ q, start ≤ q ∧ limit ≤ q ∧ Tiles buffer q stop back) := by
  induction slots generalizing start with
  | nil => exact ⟨[], [], rfl, fun s hs => (not_mem_nil hs).elim, Or.inl rfl⟩
  | cons s slots ih =>
    by_cases hlimit : limit ≤ start
    · exact ⟨[], s :: slots, rfl, fun s hs => (not_mem_nil hs).elim, Or.inr ⟨start, Nat.le_refl _, hlimit, h⟩⟩
    · obtain ⟨hs, hpos, hin, hrest⟩ := h
      obtain ⟨front, back, rfl, hfront, hback⟩ := ih hrest
      refine ⟨s :: front, back, rfl, ?_, ?_⟩
      · intro t ht
        rcases mem_cons.mp ht with rfl | ht
        · omega
        · exact hfront t ht
      · rcases hback with rfl | ⟨q, hq, hlim, htiles⟩
        · exact Or.inl rfl
        · rw [Slot.stop] at hq
          exact Or.inr ⟨q, by omega, hlim, htiles⟩

end Tiles

end tiles

/-! ## What is still whole -/

section intact

variable {P Q : Slot α → Prop} {s : Slot α} {slots keep more rest dead : List (Slot α)}

theorem intact_of_pairwise (h : slots.Pairwise fun s t => ¬ s.Overlaps t) : intact slots = slots := by
  induction slots with
  | nil => rfl
  | cons s slots ih =>
    obtain ⟨hs, hrest⟩ := pairwise_cons.mp h
    rw [intact, if_neg (fun ⟨t, ht, hoverlaps⟩ => hs t ht hoverlaps), ih hrest]

theorem intact_sublist (slots : List (Slot α)) : (intact slots).Sublist slots := by
  induction slots with
  | nil => exact List.Sublist.refl _
  | cons s slots ih =>
    rw [intact]
    split_ifs
    · exact ih.trans (sublist_cons_self _ _)
    · exact ih.cons_cons _

namespace Dropped

theorem mono (h : Dropped P keep rest) (hP : ∀ s, P s → Q s) (hkeep : keep ⊆ more) : Dropped Q more rest := by
  induction rest with
  | nil => trivial
  | cons s rest ih =>
    refine ⟨?_, ih h.2⟩
    rcases h.1 with ⟨t, ht, hoverlaps⟩ | hs
    · refine Or.inl ⟨t, ?_, hoverlaps⟩
      rcases mem_append.mp ht with hin | hin
      · exact mem_append_left _ hin
      · exact mem_append_right _ (hkeep hin)
    · exact Or.inr (hP s hs)

theorem append (h : Dropped P (dead ++ keep) rest) (hdead : Dropped P keep dead) : Dropped P keep (rest ++ dead) := by
  induction rest with
  | nil => exact hdead
  | cons s rest ih =>
    rw [cons_append, Dropped, append_assoc]
    exact ⟨h.1, ih h.2⟩

/-- Each of the records is overlapped by one of those that are kept, or meets the condition. -/
theorem of_forall (h : ∀ s ∈ rest, (∃ t ∈ keep, s.Overlaps t) ∨ P s) : Dropped P keep rest := by
  induction rest with
  | nil => trivial
  | cons s rest ih =>
    refine ⟨?_, ih fun t ht => h t (mem_cons_of_mem _ ht)⟩
    rcases h s mem_cons_self with ⟨t, ht, hoverlaps⟩ | hs
    · exact Or.inl ⟨t, mem_append_right _ ht, hoverlaps⟩
    · exact Or.inr hs

end Dropped

/-- If no whole record meets the condition, the dropped ones are not whole. -/
theorem intact_dropped (h : Dropped P keep rest) (hwhole : ∀ s ∈ intact (rest ++ keep), ¬ P s) :
    intact (rest ++ keep) = intact keep := by
  induction rest with
  | nil => rfl
  | cons s rest ih =>
    rw [cons_append, intact] at hwhole ⊢
    split_ifs at hwhole ⊢ with hoverlapped
    · exact ih h.2 hwhole
    · rcases h.1 with hex | hs
      · exact absurd hex hoverlapped
      · exact absurd hs (hwhole s mem_cons_self)

end intact

/-! ## Log rings -/

/-- The purpose of a log ring: the records since the last flush, what the flushes stored, and all that was recorded. -/
structure LogRing (α : Type*) where
  /-- The records since the last flush. -/
  pending : List (Slot α)
  stored : List (List α)
  written : List (List α)

namespace LogRing

def record (r : LogRing α) (s : Slot α) : LogRing α :=
  { r with pending := r.pending ++ [s], written := r.written ++ [s.content] }

/-- The records since the last flush that are whole are stored. -/
def flush (r : LogRing α) : LogRing α :=
  { r with pending := [], stored := r.stored ++ (intact r.pending).map Slot.content }

/-- What was recorded is what was recorded up to the last flush, of which some is stored in this order, and what is
pending. -/
def Ordered (r : LogRing α) : Prop :=
  ∃ past, r.written = past ++ r.pending.map Slot.content ∧ r.stored.Sublist past

variable {r : LogRing α}

theorem Ordered.record (h : r.Ordered) (s : Slot α) : (r.record s).Ordered := by
  obtain ⟨past, hwritten, hstored⟩ := h
  refine ⟨past, ?_, hstored⟩
  rw [LogRing.record, hwritten, append_assoc, map_append]
  rfl

theorem Ordered.flush (h : r.Ordered) : r.flush.Ordered := by
  obtain ⟨past, hwritten, hstored⟩ := h
  refine ⟨r.written, (append_nil _).symm, ?_⟩
  rw [hwritten]
  exact hstored.append ((intact_sublist _).map _)

theorem Ordered.sublist (h : r.Ordered) : r.stored.Sublist r.written := by
  obtain ⟨past, hwritten, hstored⟩ := h
  rw [hwritten]
  exact hstored.trans (sublist_append_left _ _)

end LogRing

theorem length_flatten_le_of_sublist {kept parts : List (List α)} (h : kept.Sublist parts) :
    kept.flatten.length ≤ parts.flatten.length := by
  induction h with
  | slnil => exact Nat.le_refl _
  | cons part _ ih =>
    rw [flatten_cons, length_append]
    exact ih.trans (Nat.le_add_left _ _)
  | cons_cons part _ ih =>
    rw [flatten_cons, flatten_cons, length_append, length_append]
    exact Nat.add_le_add_left ih _

end Dlt.Lib
