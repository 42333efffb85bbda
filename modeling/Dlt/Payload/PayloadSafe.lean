import Dlt.Gateway.MessageParts
import Dlt.Payload.ArgumentSafe
import Dlt.Payload.MixedPrint

/-!
# A payload is printed safely if and only if its arguments fit

* `payload_safe_iff` — the whole function, in every output mode.
-/

namespace Dlt.Payload

open Dlt.Lib Dlt.Shared Dlt.User Checked List

variable {env : PrintEnv} {msg : PayloadMessage} {s s' : PrintState} {slot : Slot} {typeInfo num : ℕ}
  {text : List UInt8} {err : ℤ → PrintState → Prop}
variable {typeInfo' : ℕ}

/-! ## Messages that are not verbose -/

/-- What is known between two pieces: the text ends, and it is in the buffer that was given. -/
structure Between (msg : PayloadMessage) (start : List UInt8) (s : PrintState) : Prop
    extends ValueBegins msg start s where
  terminated : 0 ∈ s.text

theorem Between.prints (hs : Between msg text s) (h : Prints s s') : Between msg text s' :=
  ⟨hs.toValueBegins.prints h, h.kept.terminated hs.terminated⟩

theorem Between.appendf (hs : Between msg text s) (piece : List UInt8) :
    Ensures (appendf text.length piece) (fun _ s' => Between msg text s' ∧ s'.datalength = s.datalength) err s := by
  have happend := @ensures_appendf piece s err hs.terminated
  rw [hs.kept.length] at happend
  exact happend.mono (fun _ _ h => ⟨hs.prints h, h.datalength⟩) fun _ _ h => h

section

variable (hs : Between msg text s)
include hs

theorem Between.readValue (n : ℕ) :
    Ensures (dltMsgReadValue msg n) (fun _ s' => Between msg text s' ∧ s'.text = s.text) err s := by
  rw [ensures_dltMsgReadValue]
  split_ifs with hshort
  · exact ⟨⟨⟨hs.kept, fun h => absurd h (show ¬ (0 : ℤ) ≤ -1 by decide)⟩, hs.terminated⟩, rfl⟩
  · have hlength : (n : ℤ) ≤ s.datalength := Int.not_lt.mp hshort
    exact ⟨hs.within.ptr_add_le hlength, ⟨hs.toValueBegins.skip hlength, hs.terminated⟩, rfl⟩

theorem Between.append (piece : List UInt8) :
    Ensures (Payload.appendf text.length piece) (fun _ s' => Between msg text s') err s :=
  (hs.appendf piece).mono (fun _ _ h => h.1) fun _ _ h => h

theorem printId_safe (id : ℕ) :
    Ensures (printId msg text.length id) (fun _ s' => Between msg text s') err s := by
  unfold printId
  rw [ensures_bind, ensures_get]
  dsimp only
  split_ifs
  · exact (hs.append _).bind fun _ _ h => h.append _
  · exact (hs.append _).bind fun _ _ h => h
  · exact hs.append _
  · exact hs
  · exact (hs.append _).bind fun _ _ h => h.append _
  · exact (hs.append _).bind fun _ _ h => h
  · exact hs.append _

theorem printReturnValue_safe :
    Ensures (printReturnValue msg text.length) (fun _ s' => Between msg text s') err s := by
  unfold printReturnValue
  rw [ensures_bind, ensures_get]
  split_ifs
  · refine (hs.readValue 1).bind fun retval s₁ h₁ => ?_
    refine (h₁.1.append _).bind fun _ s₂ h₂ => ?_
    rw [ensures_bind, ensures_get]
    split_ifs
    · exact h₂.append _
    · exact h₂
  · exact hs

theorem printBytes_safe (limited : Bool) :
    Ensures (printBytes msg text.length limited) (fun _ s' => Between msg text s') err s := by
  have hlength := hs.kept.length
  unfold printBytes
  rw [ensures_bind, ensures_get]
  refine (@ensures_strlen 0 s err hs.terminated).bind ?_
  rintro n s₁ ⟨rfl, hn⟩
  have hroom := i32_natCast_le (text.length - n)
  have hread : ∀ size : ℤ, 0 ≤ size → size ≤ s₁.datalength → s₁.ptr + size ≤ msg.databuffer.length := by
    intro size hsize hle
    have := hs.within (by omega)
    omega
  dsimp only
  refine (dltPrintHexStringDelim_prints 32 (fun _ _ => by omega) fun hsize => hread _ hsize ?_).bind ?_
  · split_ifs
    · exact Int.min_le_left _ _
    · exact Int.le_refl _
  · rintro ret s₂ ⟨hprints, -⟩
    have hs₂ := hs.prints hprints
    split_ifs
    · refine (@ensures_strlen 0 s₂ err hs₂.terminated).bind ?_
      rintro n₂ s₃ ⟨rfl, -⟩
      split_ifs
      · exact (hs₂.append _).bind fun _ _ h => h
      · exact hs₂
    · exact hs₂

/-- **Messages that are not verbose are printed safely.** -/
theorem dltMessagePayloadNonverbose_safe (limited : Bool) :
    Ensures (dltMessagePayloadNonverbose msg text.length limited) (fun _ s' => Between msg text s') err s := by
  unfold dltMessagePayloadNonverbose
  refine (hs.readValue 4).bind fun idTmp s₁ h₁ => ?_
  rw [ensures_bind, ensures_get]
  split_ifs
  · exact h₁.1
  · refine (printId_safe h₁.1 _).bind fun _ s₂ h₂ => ?_
    exact (printReturnValue_safe h₂).bind fun _ s₃ h₃ => printBytes_safe h₃ limited

end

/-! ## Arguments -/

/-- What is known where an argument begins. -/
structure Begins (msg : PayloadMessage) (text : List UInt8) (slot : Slot) (s : PrintState) : Prop
    extends Between msg text s where
  ends : slot.pos + slot.room = s.text.length
  room : 0 < slot.room

theorem argumentStart_begins (hs : Between msg text s) (num typeInfo : ℕ) :
    Ensures (argumentStart msg text.length num typeInfo) (fun r s' => Begins msg text r.2 s') err s := by
  have hread : ∀ {s₁ : PrintState}, Between msg text s₁ →
      Ensures (do
        let typeInfoTmp ← dltMsgReadValue msg 4
        let textOffset ← strlen 0
        pure ((typeInfoTmp.map (dltEndianGet msg)).getD typeInfo,
          ({ pos := textOffset, room := text.length - textOffset } : Slot)))
        (fun r s' => Begins msg text r.2 s') err s₁ := by
    intro s₁ h₁
    refine (h₁.readValue 4).bind fun typeInfoTmp s₂ h₂ => ?_
    refine (@ensures_strlen 0 s₂ err h₂.1.terminated).bind ?_
    rintro n s₃ ⟨rfl, hn⟩
    have hlength := h₂.1.kept.length
    exact { toBetween := h₂.1
            ends := by dsimp only; omega
            room := by dsimp only; omega }
  unfold argumentStart
  split_ifs
  · exact (hs.append _).bind fun _ _ h => hread h
  · exact hread hs

theorem ValueBegins.between (h : ValueBegins msg text s) (htext : 0 ∈ text) : Between msg text s :=
  ⟨h, h.kept.terminated htext⟩

/-! ## The loop -/

section payload

variable {msg : ReadMessage} {buffer : TextBuffer}

def TextBuffer.emptied (buffer : TextBuffer) : List UInt8 := overwrite buffer.bytes 0 [0]

theorem TextBuffer.length_emptied (buffer : TextBuffer) : buffer.emptied.length = buffer.bytes.length :=
  length_overwrite (by rw [length_singleton]; have := buffer.length_pos; omega)

theorem TextBuffer.zero_mem_emptied (buffer : TextBuffer) : 0 ∈ buffer.emptied := by
  unfold TextBuffer.emptied
  rw [overwrite_zero]
  exact mem_append_left _ mem_cons_self

theorem between_begun : Between msg.toPayloadMessage buffer.emptied (begun msg buffer) :=
  { kept := .refl _
    within := fun _ => by simp [begun, called]
    terminated := buffer.zero_mem_emptied }

/-- The loop begins an argument: its number, the type information before it, and the state. -/
inductive Reaches (env : PrintEnv) (msg : ReadMessage) (buffer : TextBuffer) : ℕ → ℕ → PrintState → Prop
  | first : Reaches env msg buffer 0 0 (begun msg buffer)
  | next {num typeInfo : ℕ} {slot : Slot} {s s' : PrintState} : ComesTo env msg buffer num typeInfo slot s →
      (dltMessageArgumentPrint env msg.toPayloadMessage typeInfo slot).result s = some (.ok (), s') →
      Reaches env msg buffer (num + 1) typeInfo s'

theorem comesTo_iff : ComesTo env msg buffer num typeInfo slot s ↔ ∃ typeInfo₀ s₀,
    Reaches env msg buffer num typeInfo₀ s₀ ∧
      (argumentStart msg.toPayloadMessage buffer.bytes.length num typeInfo₀).result s₀ =
        some (.ok (typeInfo, slot), s) := by
  constructor
  · intro h
    cases h with
    | first hstart => exact ⟨0, _, .first, hstart⟩
    | next hcomes hprint hstart => exact ⟨_, _, .next hcomes hprint, hstart⟩
  · rintro ⟨typeInfo₀, s₀, hreaches, hstart⟩
    cases hreaches with
    | first => exact .first hstart
    | next hcomes hprint => exact .next hcomes hprint hstart

theorem ComesTo.unique_of_reaches {slot' : Slot}
    (hunique : ∀ typeInfo typeInfo' s s', Reaches env msg buffer num typeInfo s →
      Reaches env msg buffer num typeInfo' s' → typeInfo = typeInfo' ∧ s = s')
    (h : ComesTo env msg buffer num typeInfo slot s) (h' : ComesTo env msg buffer num typeInfo' slot' s') :
    typeInfo = typeInfo' ∧ slot = slot' ∧ s = s' := by
  obtain ⟨_, _, hreaches, hstart⟩ := comesTo_iff.mp h
  obtain ⟨_, _, hreaches', hstart'⟩ := comesTo_iff.mp h'
  obtain ⟨rfl, rfl⟩ := hunique _ _ _ _ hreaches hreaches'
  have hsame := hstart.symm.trans hstart'
  simp only [Option.some.injEq, Prod.mk.injEq, Except.ok.injEq] at hsame
  exact ⟨hsame.1.1, hsame.1.2, hsame.2⟩

theorem Reaches.unique (h : Reaches env msg buffer num typeInfo s) (h' : Reaches env msg buffer num typeInfo' s') :
    typeInfo = typeInfo' ∧ s = s' := by
  induction num generalizing typeInfo typeInfo' s s' with
  | zero =>
    cases h with
    | first =>
      cases h' with
      | first => exact ⟨rfl, rfl⟩
  | succ num ih =>
    cases h with
    | next hcomes hprint =>
      cases h' with
      | next hcomes' hprint' =>
        obtain ⟨rfl, rfl, rfl⟩ := hcomes.unique_of_reaches (fun _ _ _ _ => ih) hcomes'
        have hsame := hprint.symm.trans hprint'
        simp only [Option.some.injEq, Prod.mk.injEq, true_and] at hsame
        exact ⟨rfl, hsame⟩

theorem ComesTo.unique {slot' : Slot} (h : ComesTo env msg buffer num typeInfo slot s)
    (h' : ComesTo env msg buffer num typeInfo' slot' s') : typeInfo = typeInfo' ∧ slot = slot' ∧ s = s' :=
  h.unique_of_reaches (fun _ _ _ _ => Reaches.unique) h'

theorem ComesTo.exists_reaches (h : ComesTo env msg buffer num typeInfo slot s) {k : ℕ} (hk : k ≤ num) :
    ∃ typeInfo₀ s₀, Reaches env msg buffer k typeInfo₀ s₀ := by
  induction h with
  | @first typeInfo slot s hstart =>
    obtain rfl : k = 0 := Nat.le_zero.mp hk
    exact ⟨0, _, .first⟩
  | @next num typeInfo typeInfo' slot slot' s s' s'' hcomes hprint hstart ih =>
    rcases Nat.lt_or_eq_of_le hk with hlt | rfl
    · exact ih (Nat.le_of_lt_succ hlt)
    · exact ⟨_, _, .next hcomes hprint⟩

def LoopSafe (env : PrintEnv) (msg : ReadMessage) (buffer : TextBuffer) (left num typeInfo : ℕ) (s : PrintState) :
    Prop :=
  Ensures (argumentsLoop env msg.toPayloadMessage buffer.bytes.length left num typeInfo)
    (fun _ s' => Kept buffer.emptied s'.text) (Fails buffer.emptied) s

/-- **The loop is safe if and only if every argument that it comes to fits.** -/
theorem argumentsLoop_iff (left : ℕ) (hreaches : Reaches env msg buffer num typeInfo s)
    (hs : Between msg.toPayloadMessage buffer.emptied s) : LoopSafe env msg buffer left num typeInfo s ↔
      ∀ k, num ≤ k → k < num + left → ∀ typeInfo' slot s', ComesTo env msg buffer k typeInfo' slot s' →
        ArgumentFits env msg.toPayloadMessage typeInfo' slot s' := by
  induction left generalizing num typeInfo s with
  | zero => exact ⟨fun _ k hk hlt => absurd hk (by omega), fun _ => hs.kept⟩
  | succ left ih =>
    have hstarts := @argumentStart_begins _ s _ (fun _ _ => False) hs num typeInfo
    rw [TextBuffer.length_emptied] at hstarts
    obtain ⟨⟨typeInfo₁, slot₁⟩, s₁, hstart, hbegins⟩ := hstarts.exists_result
    have hcomes : ComesTo env msg buffer num typeInfo₁ slot₁ s₁ := comesTo_iff.mpr ⟨_, _, hreaches, hstart⟩
    have hlt : s₁.text.length < 18446744073709551616 := by
      rw [hbegins.kept.length, TextBuffer.length_emptied]
      exact buffer.length_lt
    -- The loop is the argument, and the loop behind it.
    have hloop : LoopSafe env msg buffer (left + 1) num typeInfo s ↔
        Ensures (dltMessageArgumentPrint env msg.toPayloadMessage typeInfo₁ slot₁)
          (fun _ s₂ => LoopSafe env msg buffer left (num + 1) typeInfo₁ s₂) (Fails buffer.emptied) s₁ := by
      unfold LoopSafe
      rw [argumentsLoop, ensures_bind, ensures_iff_of_result hstart]
      exact ensures_bind
    rw [hloop]
    constructor
    · intro h k hk hklt typeInfo' slot s' hcomes'
      have hfits : ArgumentFits env msg.toPayloadMessage typeInfo₁ slot₁ s₁ :=
        (@ensures_dltMessageArgumentPrint env _ s₁ slot₁ typeInfo₁ _ (fun _ => True) (fun _ _ => trivial)
          hbegins.toValueBegins hbegins.ends hbegins.room hlt).mp (h.mono (fun _ _ _ => trivial) fun _ _ h => h)
      rcases Nat.lt_or_eq_of_le hk with hnext | rfl
      · obtain ⟨typeInfo₂, s₂, hreaches₂⟩ := hcomes'.exists_reaches hnext
        cases hreaches₂ with
        | next hcomes₂ hprint =>
          obtain ⟨rfl, rfl, rfl⟩ := hcomes.unique hcomes₂
          have hnextSafe := (ensures_iff_of_result hprint).mp h
          have hbehind := (ensures_iff_of_result hprint).mp ((@ensures_dltMessageArgumentPrint env _ s₁ slot₁
            typeInfo₁ _ (ValueBegins msg.toPayloadMessage buffer.emptied) (fun _ h => h)
            hbegins.toValueBegins hbegins.ends hbegins.room hlt).mpr hfits)
          exact (ih (.next hcomes hprint) (hbehind.between buffer.zero_mem_emptied)).mp hnextSafe k hnext
            (by omega) _ _ _ hcomes'
      · obtain ⟨rfl, rfl, rfl⟩ := hcomes.unique hcomes'
        exact hfits
    · intro h
      have hfits := h num (Nat.le_refl num) (by omega) _ _ _ hcomes
      have hprint := (@ensures_dltMessageArgumentPrint env _ s₁ slot₁ typeInfo₁ _
        (ValueBegins msg.toPayloadMessage buffer.emptied) (fun _ h => h) hbegins.toValueBegins hbegins.ends
        hbegins.room hlt).mpr hfits
      refine hprint.with_result.mono ?_ fun _ _ h => h
      rintro ⟨⟩ s₂ ⟨hbehind, hresult⟩
      refine (ih (.next hcomes hresult) (hbehind.between buffer.zero_mem_emptied)).mpr ?_
      exact fun k hk hklt => h k (by omega) (by omega)

/-! ## The whole function -/

theorem payloadSafe_iff_ensures (type : OutputMode) : PayloadSafe env msg buffer type ↔
    Ensures (dltMessagePayload env msg.toPayloadMessage buffer.bytes.length type)
      (fun _ s => Kept buffer.emptied s.text) (Fails buffer.emptied) (called msg buffer) := by
  have hkept : ∀ s : PrintState, Kept buffer.emptied s.text ↔ s.text.length = buffer.bytes.length ∧ 0 ∈ s.text := by
    intro s
    rw [← buffer.length_emptied]
    exact ⟨fun h => ⟨h.length, h.terminated buffer.zero_mem_emptied⟩, fun h => ⟨h.1, fun _ => h.2⟩⟩
  unfold PayloadSafe Ensures Fails
  cases (dltMessagePayload env msg.toPayloadMessage buffer.bytes.length type).result (called msg buffer) with
  | none => exact ⟨fun ⟨_, _, h, _⟩ => absurd h nofun, False.elim⟩
  | some r =>
    obtain ⟨r, s⟩ := r
    have hsafe : (∃ ret s', some (r, s) = some (ret, s') ∧ s'.text.length = buffer.bytes.length ∧ 0 ∈ s'.text) ↔
        Kept buffer.emptied s.text := by
      rw [hkept]
      constructor
      · rintro ⟨ret, s', hsame, h⟩
        obtain ⟨rfl, rfl⟩ := Prod.mk.inj (Option.some.inj hsame)
        exact h
      · exact fun h => ⟨r, s, rfl, h⟩
    cases r with
    | ok a => exact hsafe
    | error e => exact hsafe

/-- **A payload is printed safely if and only if** the arguments of a verbose message that the loop comes to in the
ASCII modes fit. -/
theorem payload_safe_iff (env : PrintEnv) (msg : ReadMessage) (buffer : TextBuffer) (type : OutputMode) :
    PayloadSafe env msg buffer type ↔ PayloadFits env msg buffer type := by
  have hbegun : Between msg.toPayloadMessage buffer.emptied (begun msg buffer) := between_begun
  have hlength : (begun msg buffer).text.length = buffer.bytes.length := buffer.length_emptied
  have hpoke : poke (called msg buffer).text 0 [0] = some (begun msg buffer).text := by
    have := buffer.length_pos
    have hfits : 0 + [(0 : UInt8)].length ≤ (called msg buffer).text.length := by
      rw [length_singleton]
      exact this
    exact if_pos hfits
  have hroom := i32_natCast_le buffer.bytes.length
  -- The modes that do not decode the arguments are safe.
  have hsafe : ∀ {x : Printer ℤ}, (Ensures x (fun _ s => Prints (begun msg buffer) s) (fun _ _ => False)
      (begun msg buffer)) → Ensures x (fun _ s => Kept buffer.emptied s.text) (Fails buffer.emptied)
      (begun msg buffer) :=
    fun h => h.mono (fun _ _ h => h.kept) fun _ _ h => h.elim
  -- The ASCII modes are safe if the arguments fit.
  have hascii : ∀ limited : Bool, Ensures (if dltMsgIsNonverbose msg.toPayloadMessage then
        dltMessagePayloadNonverbose msg.toPayloadMessage buffer.bytes.length limited
      else do
        argumentsLoop env msg.toPayloadMessage buffer.bytes.length msg.noar.toNat 0 0
        pure dltReturnOk) (fun _ s => Kept buffer.emptied s.text) (Fails buffer.emptied) (begun msg buffer) ↔
      (dltMsgIsNonverbose msg.toPayloadMessage = false → ∀ num < msg.noar.toNat, ∀ typeInfo slot s,
        ComesTo env msg buffer num typeInfo slot s → ArgumentFits env msg.toPayloadMessage typeInfo slot s) := by
    intro limited
    by_cases hnonverbose : dltMsgIsNonverbose msg.toPayloadMessage = true
    · rw [if_pos hnonverbose, ← buffer.length_emptied]
      refine ⟨fun _ h => absurd (hnonverbose.symm.trans h) (by decide), fun _ => ?_⟩
      exact (dltMessagePayloadNonverbose_safe hbegun limited).mono (fun _ _ h => h.kept) fun _ _ h => h
    · rw [if_neg hnonverbose]
      have hloop := @argumentsLoop_iff env _ 0 0 msg buffer msg.noar.toNat .first hbegun
      rw [Nat.zero_add] at hloop
      unfold LoopSafe at hloop
      rw [ensures_bind]
      refine Iff.trans hloop ⟨fun h _ num hnum => h num (Nat.zero_le num) hnum, fun h num _ hnum => ?_⟩
      exact h (by simpa using hnonverbose) num hnum
  rw [payloadSafe_iff_ensures]
  unfold dltMessagePayload PayloadFits
  rw [ensures_bind, ensures_get, ensures_bind, ensures_ofOption]
  have hpoked : ∀ {C : List UInt8 → Prop}, (∃ text, poke (called msg buffer).text 0 [0] = some text ∧ C text) ↔
      C (begun msg buffer).text := by
    intro C
    rw [hpoke]
    exact ⟨fun ⟨_, h, hC⟩ => Option.some.inj h ▸ hC, fun h => ⟨_, rfl, h⟩⟩
  rw [hpoked, ensures_bind, ensures_set]
  cases type with
  | hex =>
    refine ⟨fun _ h => absurd h (by decide), fun _ => hsafe ?_⟩
    refine (dltPrintHexStringDelim_prints 32 (fun _ _ => by omega) fun _ => by omega).mono (fun _ _ h => h.1)
      fun _ _ h => h
  | mixedForPlain =>
    refine ⟨fun _ h => absurd h (by decide), fun _ => hsafe (dltPrintMixedString_prints false (by omega))⟩
  | mixedForHtml =>
    refine ⟨fun _ h => absurd h (by decide), fun _ => hsafe (dltPrintMixedString_prints true (by omega))⟩
  | ascii => exact (hascii false).trans ⟨fun h _ => h, fun h => h (.inl rfl)⟩
  | asciiLimited => exact (hascii true).trans ⟨fun h _ => h, fun h => h (.inr rfl)⟩

/-- A string that is as long as its room: the zero behind it is written behind the text buffer. -/
theorem payload_string_as_long_as_room :
    ¬ ∀ (env : PrintEnv) (msg : ReadMessage) (buffer : TextBuffer) (type : OutputMode),
      PayloadSafe env msg buffer type := by
  intro h
  let env : PrintEnv := { withAttributes := false, float32 := fun _ => [], float64 := fun _ => [] }
  let msg : ReadMessage :=
    { htyp := 0x21, msin := 0x41, noar := 1, databuffer := [0, 2, 0, 0, 1, 0, 97], datasize_lt := by decide }
  let buffer : TextBuffer := { bytes := [7], length_pos := by decide, length_lt := by decide }
  obtain ⟨ret, s, hresult, -⟩ := h env msg buffer .ascii
  have hnone : (dltMessagePayload env msg.toPayloadMessage buffer.bytes.length .ascii).result (called msg buffer) =
      none := by
    decide +kernel
  rw [hnone] at hresult
  exact absurd hresult nofun

/-! ## Messages that were read -/

theorem dltMessageLoadExtra_datasize (msg : DltMessage) (htyp : UInt8) (extra : List UInt8) :
    (dltMessageLoadExtra msg htyp extra).datasize = msg.datasize := by
  unfold dltMessageLoadExtra
  split_ifs <;> rfl

theorem dltMessageLoadData_datasize (malloc : Malloc) (msg : DltMessage) (payload : List UInt8) :
    (dltMessageLoadData malloc msg payload).1.datasize = msg.datasize := by
  have hallocate : (dltMessageAllocate malloc msg).datasize = msg.datasize := by
    unfold dltMessageAllocate
    split_ifs <;> rfl
  unfold dltMessageLoadData
  dsimp only
  split
  · exact hallocate
  · exact hallocate

theorem dltMessageReadBody_datasize {malloc : Malloc} {msg : DltMessage} {bytes : List UInt8} {length : ℕ}
    (h : (dltMessageReadBody malloc msg bytes length).2 = dltMessageErrorOk) :
    (dltMessageReadBody malloc msg bytes length).1.datasize < 65536 := by
  have herror : ∀ {m : DltMessage} {e : ℤ}, e ≠ 0 → (m, e).2 = dltMessageErrorOk → False := fun he h => he h
  unfold dltMessageReadBody at h ⊢
  dsimp only at h ⊢
  generalize (if dltIsHtypUeh ((bytes.take sizeofDltStandardHeader).getD 0 0) then sizeofDltExtendedHeader else 0) =
    extendedSize at h ⊢
  split_ifs at h ⊢
  · exact (herror (by decide) h).elim
  · exact (herror (by decide) h).elim
  · exact (herror (by decide) h).elim
  · exact (herror (by decide) h).elim
  · rw [dltMessageLoadData_datasize, dltMessageLoadExtra_datasize]
    unfold dltMessageLoadStandard
    dsimp only
    have hlen : (((bytes.take sizeofDltStandardHeader).drop 2).take 2).length ≤ 2 := length_take_le _ _
    have hlt := ofBeBytes_lt (((bytes.take sizeofDltStandardHeader).drop 2).take 2)
    have hpow := Nat.pow_le_pow_right (n := 256) (by decide) hlen
    omega

/-- **A message that was read has a payload that is not too long.** -/
theorem dltMessageRead_datasize {malloc : Malloc} {msg : DltMessage} {bytes : List UInt8} {length : ℕ} {resync : Bool}
    (h : (dltMessageRead malloc msg bytes length resync).2 = dltMessageErrorOk) :
    (dltMessageRead malloc msg bytes length resync).1.datasize < 65536 := by
  have herror : ∀ {m : DltMessage} {e : ℤ}, e ≠ 0 → (m, e).2 = dltMessageErrorOk → False := fun he h => he h
  unfold dltMessageRead at h ⊢
  dsimp only at h ⊢
  split_ifs at h ⊢
  · exact (herror (by decide) h).elim
  · exact (herror (by decide) h).elim
  · exact dltMessageReadBody_datasize h
  · exact dltMessageReadBody_datasize h
  · exact dltMessageReadBody_datasize h
  · exact dltMessageReadBody_datasize h

def ReadMessage.ofRead {malloc : Malloc} {msg : DltMessage} {bytes : List UInt8} {length : ℕ} {resync : Bool}
    (h : (dltMessageRead malloc msg bytes length resync).2 = dltMessageErrorOk) : ReadMessage where
  toPayloadMessage := Gateway.DltMessage.printed (dltMessageRead malloc msg bytes length resync).1
  datasize_lt := by
    have hsize := dltMessageRead_datasize h
    refine Nat.lt_of_le_of_lt (List.length_take_le _ _) ?_
    omega

end payload

end Dlt.Payload
