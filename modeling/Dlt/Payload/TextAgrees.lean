import Dlt.Payload.PayloadSafe

/-!
# The text of a message that is not verbose

* `dltMessagePayloadNonverbose_agrees` — the text buffer holds the text that
  `Dlt.Shared.dltMessagePayloadNonverbose` gives.
-/

namespace Dlt.Payload

open Dlt.Lib Dlt.Shared Checked List

variable {msg : PayloadMessage} {s s' : PrintState} {t piece mem : List UInt8} {textlength pos : ℕ} {left : ℤ}
  {err : ℤ → PrintState → Prop}

/-! ## The text in the buffer -/

/-- The text buffer holds a text, and the payload is read at a position. -/
structure Shows (msg : PayloadMessage) (textlength : ℕ) (t : List UInt8) (pos : ℕ) (left : ℤ)
    (s : PrintState) : Prop where
  length : s.text.length = textlength
  no_zero : 0 ∉ t
  ends : t ++ [0] <+: s.text
  ptr : s.ptr = pos
  datalength : s.datalength = left
  within : 0 ≤ left → pos + left = msg.databuffer.length

theorem ends_overwrite (h : t ++ [0] <+: mem) (piece : List UInt8) :
    t ++ piece ++ [0] <+: overwrite mem t.length (piece ++ [0]) := by
  have htake : mem.take t.length = t := (prefix_iff_eq_take.mp ((prefix_append t [0]).trans h)).symm
  unfold overwrite
  rw [htake, ← append_assoc]
  exact prefix_append _ _

section

variable (hs : Shows msg textlength t pos left s)
include hs

theorem Shows.text : cstring s.text 0 = some t := by
  obtain ⟨rest, hrest⟩ := hs.ends
  rw [← hrest, append_assoc, singleton_append]
  exact cstring_append_zero hs.no_zero rest

theorem Shows.length_lt : t.length < textlength := by
  have hle := hs.ends.length_le
  rw [length_append, length_singleton, hs.length] at hle
  omega

theorem Shows.strlen {ok : ℕ → PrintState → Prop} (h : ok t.length s) : Ensures (strlen 0) ok err s := by
  simp only [Payload.strlen, ensures_bind, ensures_get, ensures_ofOption, ensures_pure]
  exact ⟨t, hs.text, h⟩

theorem Shows.appendf (hzero : 0 ∉ piece) :
    Ensures (appendf textlength piece)
      (fun _ s' => Shows msg textlength (snprintfAppend textlength t piece) pos left s') err s := by
  have hlt := hs.length_lt
  have hlength := hs.length
  have hfits : t.length + (piece.take (textlength - t.length - 1) ++ [0]).length ≤ s.text.length := by
    rw [length_append, length_take, length_singleton]
    omega
  unfold Payload.appendf
  rw [ensures_bind]
  refine hs.strlen (ensures_printf.mpr ⟨overwrite s.text t.length
      (piece.take (textlength - t.length - 1) ++ [0]), ?_, ?_⟩)
  · unfold snprintf poke
    rw [if_neg (by omega), if_pos hfits]
  · exact { length := (length_overwrite hfits).trans hlength
            no_zero := fun h => (mem_append.mp h).elim hs.no_zero fun h => hzero (mem_of_mem_take h)
            ends := ends_overwrite hs.ends _
            ptr := hs.ptr
            datalength := hs.datalength
            within := hs.within }

theorem Shows.skip {n : ℕ} (hle : (n : ℤ) ≤ left) : Shows msg textlength t (pos + n) (left - n) (s.skip n) :=
  { hs with
    ptr := congrArg (· + n) hs.ptr
    datalength := congrArg (· - (n : ℤ)) hs.datalength
    within := fun _ => by
      have := hs.within (by omega)
      omega }

theorem Shows.printed (h : PrintedText t.length piece s s') (hzero : 0 ∉ piece) :
    Shows msg textlength (t ++ piece) pos left s' :=
  { length := h.length_eq.trans hs.length
    no_zero := fun h => (mem_append.mp h).elim hs.no_zero hzero
    ends := by
      rw [h.written]
      split_ifs with hne
      · rw [hne, append_nil]
        exact hs.ends
      · exact ends_overwrite hs.ends piece
    ptr := h.ptr.trans hs.ptr
    datalength := h.datalength.trans hs.datalength
    within := hs.within }

/-- **The digits of bytes** behind the text. -/
theorem Shows.hex (hlt : textlength < 2147483648) {size : ℤ} (hsize : size ≤ left) :
    Ensures (dltPrintHexString msg.databuffer t.length (i32 ((textlength - t.length : ℕ) : ℤ)) s.ptr size)
      (fun r s' => ∃ t', Shared.dltPrintHexString t (textlength - t.length) (msg.databuffer.drop pos) size = (r, t') ∧
        Shows msg textlength t' pos left s') err s := by
  have hroom := hs.length_lt
  have hlength := hs.length
  rw [i32_natCast (by omega), Nat.cast_sub hroom.le]
  unfold dltPrintHexString Shared.dltPrintHexString
  by_cases hwrong : (textlength : ℤ) - t.length ≤ 0 ∨ size < 0
  · unfold dltPrintHexStringDelim
    rw [if_pos hwrong, if_pos hwrong]
    exact ⟨t, rfl, hs⟩
  by_cases hshort : (textlength : ℤ) - t.length < size * 3
  · unfold dltPrintHexStringDelim
    rw [if_neg hwrong, if_neg hwrong, if_pos hshort, if_pos hshort]
    exact ⟨t, rfl, hs⟩
  rw [if_neg hwrong, if_neg hshort]
  obtain ⟨n, rfl⟩ := Int.eq_ofNat_of_zero_le (not_lt.mp fun h => hwrong (.inr h))
  have hwithin := hs.within (by omega)
  refine (dltPrintHexStringDelim_printed 32 (by omega) (by omega) (by omega) ?_).mono ?_ fun _ _ h => h
  · rw [hs.ptr]
    omega
  · rintro r s' ⟨rfl, h⟩
    rw [hs.ptr] at h
    exact ⟨_, rfl, hs.printed h (zero_not_mem_hexString _)⟩

end

/-! ## The pieces -/

theorem zero_not_mem_decimal (n : ℕ) : 0 ∉ (toString n).toList.map fun c => UInt8.ofNat c.toNat := by
  intro h
  obtain ⟨c, hc, hzero⟩ := mem_map.mp h
  rw [Nat.toString_eq_repr, Nat.toList_repr] at hc
  have hdigit := Nat.isDigit_of_mem_toDigits (by decide) (by decide) hc
  unfold Char.isDigit at hdigit
  rw [Bool.and_eq_true, decide_eq_true_iff, decide_eq_true_iff, ge_iff_le, UInt32.le_iff_toNat_le,
    UInt32.le_iff_toNat_le] at hdigit
  have hrange : 48 ≤ c.toNat ∧ c.toNat ≤ 57 := hdigit
  have hvalue := congrArg UInt8.toNat hzero
  rw [UInt8.toNat_ofNat', Nat.mod_eq_of_lt (by omega)] at hvalue
  exact absurd (hvalue ▸ hrange.1) (by decide)

theorem zero_not_mem_getD {table : List (List UInt8)} (h : ∀ name ∈ table, 0 ∉ name) (i : ℕ) :
    0 ∉ table.getD i [] := by
  rw [getD_eq_getElem?_getD]
  cases hget : table[i]? with
  | none => exact not_mem_nil
  | some name => exact h name (mem_of_getElem? hget)

theorem zero_not_mem_returnValueText (retval : UInt8) : 0 ∉ returnValueText retval := by
  unfold returnValueText
  split_ifs
  · exact zero_not_mem_getD (by decide) _
  · exact zero_not_mem_hexString [retval]

/-! ## The parts of the text -/

theorem printId_shows (hs : Shows msg textlength [] pos left s) (id : ℕ) :
    Ensures (printId msg textlength id)
      (fun _ s' => Shows msg textlength (serviceText msg textlength id left) pos left s') err s := by
  have hname : 0 ∉ serviceIdName.getD id [] := zero_not_mem_getD (by decide) id
  have hcomma : 0 ∉ ascii ", " := by decide
  have hnumber : 0 ∉ ascii s!"service({id})" := by
    simp only [ascii, String.toList_append, map_append, mem_append, not_or]
    exact ⟨⟨by decide, zero_not_mem_decimal id⟩, by decide⟩
  have hmessage : 0 ∉ ascii s!"{id}, " := by
    simp only [ascii, String.toList_append, map_append, mem_append, not_or]
    exact ⟨zero_not_mem_decimal id, by decide⟩
  unfold printId serviceText
  rw [ensures_bind, ensures_get, hs.datalength]
  dsimp only
  split_ifs
  · exact (hs.appendf hname).bind fun _ _ h => h.appendf hcomma
  · exact (hs.appendf hname).bind fun _ _ h => h
  · exact hs.appendf hcomma
  · exact hs
  · exact (hs.appendf hnumber).bind fun _ _ h => h.appendf hcomma
  · exact (hs.appendf hnumber).bind fun _ _ h => h
  · exact hs.appendf hmessage

theorem printReturnValue_shows (hs : Shows msg textlength t pos left s) :
    Ensures (printReturnValue msg textlength)
      (fun _ s' => ∃ t' pos' left', responseText msg textlength t (msg.databuffer.drop pos) left =
        (t', msg.databuffer.drop pos', left') ∧ Shows msg textlength t' pos' left' s') err s := by
  unfold printReturnValue responseText
  rw [ensures_bind, ensures_get, hs.datalength]
  by_cases hresponse : dltMsgIsControlResponse msg = true ∧ left > 0
  swap
  · rw [if_neg hresponse, if_neg hresponse]
    exact ⟨t, pos, left, rfl, hs⟩
  have hskip : Shows msg textlength t (pos + 1) (left - 1) (s.skip 1) := hs.skip (by omega)
  have hhead : (bytesAt msg s 1).headD 0 = (msg.databuffer.drop pos).headD 0 := by
    unfold bytesAt
    rw [hs.ptr]
    cases msg.databuffer.drop pos <;> rfl
  have hwithin := hs.within (by omega)
  rw [if_pos hresponse, if_pos hresponse, ensures_bind, ensures_dltMsgReadValue, hs.datalength, if_neg (by omega)]
  refine ⟨by rw [hs.ptr]; omega, ?_⟩
  dsimp only [Option.getD_some]
  rw [hhead, tail_drop]
  refine (hskip.appendf (zero_not_mem_returnValueText _)).bind fun _ s₁ h₁ => ?_
  rw [ensures_bind, ensures_get, h₁.datalength]
  split_ifs
  · exact (h₁.appendf (by decide)).mono (fun _ _ h => ⟨_, _, _, rfl, h⟩) fun _ _ h => h
  · exact ⟨_, _, _, rfl, h₁⟩

theorem printBytes_shows (hs : Shows msg textlength t pos left s) (hlt : textlength < 2147483648) (limited : Bool) :
    Ensures (printBytes msg textlength limited)
      (fun r s' => ∃ t', restText textlength limited t (msg.databuffer.drop pos) left = (r, t') ∧
        Shows msg textlength t' pos left s') err s := by
  unfold printBytes restText
  rw [ensures_bind, ensures_get, ensures_bind]
  refine hs.strlen ?_
  rw [hs.datalength]
  cases limited with
  | false =>
    rw [ensures_bind]
    exact (hs.hex hlt le_rfl).mono (fun r s' h => h) fun _ _ h => h
  | true =>
    refine (hs.hex hlt (Int.min_le_left _ _)).bind ?_
    rintro r s' ⟨t', htext, h⟩
    dsimp only
    rw [htext, if_pos rfl]
    by_cases hlong : left > dltCommonAsciiLimitMaxChars
    swap
    · rw [if_neg fun h => hlong h.2, if_neg fun h => hlong h.1]
      exact ⟨t', rfl, h⟩
    rw [if_pos ⟨rfl, hlong⟩, ensures_bind]
    refine h.strlen ?_
    by_cases hroom : textlength - t'.length > 4
    · rw [if_pos hroom, if_pos ⟨hlong, hroom⟩]
      exact (h.appendf (by decide)).bind fun _ _ h => ⟨_, rfl, h⟩
    · rw [if_neg hroom, if_neg fun h => hroom h.2]
      exact ⟨t', rfl, h⟩

/-- **The text of a message that is not verbose** is the one that the buffer holds. -/
theorem dltMessagePayloadNonverbose_agrees (hs : Shows msg textlength [] 0 msg.databuffer.length s)
    (hlt : textlength < 2147483648) (limited : Bool) :
    Ensures (dltMessagePayloadNonverbose msg textlength limited)
      (fun r s' => ∃ t, Shared.dltMessagePayloadNonverbose msg textlength limited = (r, t) ∧ cstring s'.text 0 = some t)
      err s := by
  have hrest : ∀ {id : ℕ} {pos : ℕ} {left : ℤ} {s : PrintState}, Shows msg textlength [] pos left s →
      Ensures (if textlength < u32 (left * 3 + 20) then pure dltReturnError
        else do
          printId msg textlength id
          printReturnValue msg textlength
          printBytes msg textlength limited)
        (fun r s' => ∃ t, (if textlength < u32 (left * 3 + 20) then (dltReturnError, [])
          else
            let response := responseText msg textlength (serviceText msg textlength id left)
              (msg.databuffer.drop pos) left
            restText textlength limited response.1 response.2.1 response.2.2) = (r, t) ∧
              cstring s'.text 0 = some t) err s := by
    intro id pos left s hs
    split_ifs
    · exact ⟨[], rfl, hs.text⟩
    refine (printId_shows hs id).bind fun _ s₁ h₁ => (printReturnValue_shows h₁).bind ?_
    rintro _ s₂ ⟨t₂, pos₂, left₂, heq, h₂⟩
    rw [heq]
    refine (printBytes_shows h₂ hlt limited).mono ?_ fun _ _ h => h
    rintro r s' ⟨t, htext, h⟩
    exact ⟨t, htext, h.text⟩
  unfold dltMessagePayloadNonverbose Shared.dltMessagePayloadNonverbose dltEndianGet
  rw [ensures_bind, ensures_dltMsgReadValue, hs.datalength]
  by_cases hshort : (msg.databuffer.length : ℤ) < (4 : ℕ)
  · have hnot : ¬ 4 ≤ msg.databuffer.length := by omega
    rw [if_pos hshort]
    dsimp only
    rw [if_neg hnot, if_neg hnot, if_neg hnot, Option.getD_none, ensures_bind, ensures_get]
    generalize (if dltIsHtypMsbf msg.htyp = true then ofBeBytes [0, 0, 0, 0] else ofLeBytes [0, 0, 0, 0]) = id
    have hnone : Shows msg textlength [] 0 (-1) { s with datalength := -1 } :=
      { hs with datalength := rfl, within := fun h => absurd h (by decide) }
    have h := @hrest id 0 (-1) _ hnone
    rw [drop_zero] at h
    rw [hnone.datalength]
    exact h
  · have hread : 4 ≤ msg.databuffer.length := by omega
    rw [if_neg hshort]
    refine ⟨by rw [hs.ptr]; omega, ?_⟩
    dsimp only
    have hskip := @Shows.skip msg s [] textlength 0 _ hs 4 (by omega)
    rw [if_pos hread, if_pos hread, if_pos hread, ensures_bind, ensures_get, hskip.datalength, bytesAt, hs.ptr,
      drop_zero, Option.getD_some]
    exact hrest hskip

/-- **The buffer begins empty**, as the agreement asks. -/
theorem shows_begun (msg : ReadMessage) (buffer : TextBuffer) :
    Shows msg.toPayloadMessage buffer.bytes.length [] 0 msg.databuffer.length (begun msg buffer) :=
  { length := buffer.length_emptied
    no_zero := not_mem_nil
    ends := by
      change [0] <+: overwrite buffer.bytes 0 [0]
      rw [overwrite_zero]
      exact prefix_append _ _
    ptr := rfl
    datalength := rfl
    within := fun _ => by rw [Nat.cast_zero, zero_add] }

end Dlt.Payload
