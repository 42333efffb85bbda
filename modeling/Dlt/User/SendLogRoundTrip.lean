import Dlt.Shared.MessageHistory
import Dlt.User.SendLog

/-!
# What a reader finds in a message that was sent

* `dltUserLogSendLog_recovered` — **`dlt_message_read` recovers them**, from all bytes and no others.
-/

namespace Dlt.User

open Dlt.Lib Dlt.Shared List

/-! ## The header type and the message type -/

section flags

variable (user : DltUser) (log : DltContextData)

theorem dltUserLogHtyp_flags :
    dltIsHtypWeid (dltUserLogHtyp user log) = user.withEcuId ∧
      dltIsHtypWsid (dltUserLogHtyp user log) = user.withSessionId ∧
      dltIsHtypWtms (dltUserLogHtyp user log) = user.withTimestamp ∧
      dltIsHtypUeh (dltUserLogHtyp user log) =
        (isVerboseMode user.verboseMode log || user.useExtendedHeaderForNonVerbose) ∧
      dltUserLogHtyp user log ≠ 0x44 := by
  unfold dltUserLogHtyp
  generalize isVerboseMode user.verboseMode log = verbose
  cases user.withEcuId <;> cases user.withSessionId <;> cases user.withTimestamp <;> cases verbose <;>
    cases user.useExtendedHeaderForNonVerbose <;> decide

/-- The parts of `msin`: a type below eight, four bits of the level and the verbose flag. -/
theorem msin_parts : ∀ (info : Fin 16) (verb : Bool),
    let low : UInt8 := UInt8.ofNat (16 * info.val) &&& 0xf0
    let flag : UInt8 := if verb then 0x01 else 0
    dltGetMsinMstp ((UInt8.ofInt (dltTypeLog * 2) ||| low) ||| flag) = 0 ∧
      dltGetMsinMtin ((UInt8.ofInt (dltTypeLog * 2) ||| low) ||| flag) = info.val ∧
      dltIsMsinVerb ((UInt8.ofInt (dltTypeLog * 2) ||| low) ||| flag) = verb ∧
      dltGetMsinMstp ((UInt8.ofInt (dltTypeNwTrace * 2) ||| low) ||| flag) = 2 ∧
      dltGetMsinMtin ((UInt8.ofInt (dltTypeNwTrace * 2) ||| low) ||| flag) = info.val ∧
      dltIsMsinVerb ((UInt8.ofInt (dltTypeNwTrace * 2) ||| low) ||| flag) = verb := by
  decide

theorem ofInt_level (level : ℤ) :
    UInt8.ofInt (level * 16) = UInt8.ofNat (16 * (level % 16).toNat) := by
  apply UInt8.toNat_inj.mp
  rw [UInt8.ofInt, UInt8.toNat_ofNat', UInt8.toNat_ofNat']
  omega

variable {user log}

theorem dltUserLogMsin_parts {mtype : ℤ} {msin : UInt8} (h : dltUserLogMsin user log mtype = some msin) :
    (dltGetMsinMstp msin : ℤ) = mtype ∧
      (dltGetMsinMtin msin : ℤ) = (if mtype = dltTypeLog then log.logLevel else log.traceStatus) % 16 ∧
      dltIsMsinVerb msin = isVerboseMode user.verboseMode log := by
  have hrange : ∀ level : ℤ, (level % 16).toNat < 16 := fun level => by omega
  unfold dltUserLogMsin at h
  by_cases hlog : mtype = dltTypeLog
  · rw [if_pos hlog, Option.some.injEq, ofInt_level] at h
    obtain ⟨hmstp, hmtin, hverb, -⟩ :=
      msin_parts ⟨_, hrange log.logLevel⟩ (isVerboseMode user.verboseMode log)
    rw [if_pos hlog, ← h]
    refine ⟨?_, ?_, hverb⟩
    · rw [hmstp, hlog]
      rfl
    · rw [hmtin, Int.toNat_of_nonneg (by omega)]
  · rw [if_neg hlog] at h
    by_cases htrace : mtype = dltTypeNwTrace
    · rw [if_pos htrace, Option.some.injEq, ofInt_level] at h
      obtain ⟨-, -, -, hmstp, hmtin, hverb⟩ :=
        msin_parts ⟨_, hrange log.traceStatus⟩ (isVerboseMode user.verboseMode log)
      rw [if_neg hlog, ← h]
      refine ⟨?_, ?_, hverb⟩
      · rw [hmstp, htrace]
        rfl
      · rw [hmtin, Int.toNat_of_nonneg (by omega)]
    · rw [if_neg htrace] at h
      cases h

end flags

/-! ## The headers that are made -/

theorem leBytes_dltHtobe32 (x : ℕ) : leBytes 4 (dltHtobe32 x) = beBytes 4 x := by
  have h := leBytes_ofLeBytes (beBytes 4 x)
  rwa [length_beBytes] at h

theorem leBytes_dltHtobe16 (x : ℕ) : leBytes 2 (dltHtobe16 x) = beBytes 2 x := by
  have h := leBytes_ofLeBytes (beBytes 2 x)
  rwa [length_beBytes] at h

/-- A block that is written if its flag is set. -/
def putIf (flag : Bool) (mem : List UInt8) (off : ℕ) (data : List UInt8) : List UInt8 :=
  if flag then overwrite mem off data else mem

section putIf

variable {flag : Bool} {mem data : List UInt8} {off off' n : ℕ}

theorem length_putIf (h : flag = true → off + data.length ≤ mem.length) :
    (putIf flag mem off data).length = mem.length := by
  unfold putIf
  split_ifs with hflag
  · exact length_overwrite (h hflag)
  · rfl

theorem field_putIf (hflag : flag = true) (h : off ≤ mem.length) :
    field (putIf flag mem off data) off data.length = data := by
  rw [putIf, if_pos hflag, field_overwrite data h]

theorem field_putIf_of_le (h : flag = true → off ≤ mem.length) (hle : flag = true → off' + n ≤ off) :
    field (putIf flag mem off data) off' n = field mem off' n := by
  unfold putIf
  split_ifs with hflag
  · exact field_overwrite_of_le data (h hflag) (hle hflag)
  · rfl

end putIf

/-- Where the headers hold the parameters behind the standard header. -/
structure ExtraOf (headerbuffer : List UInt8) (htyp : UInt8) (extra : DltStandardHeaderExtra) : Prop where
  ecu : dltIsHtypWeid htyp = true →
    field headerbuffer (sizeofDltStorageHeader + sizeofDltStandardHeader) 4 = extra.ecu
  seid : dltIsHtypWsid htyp = true →
    field headerbuffer (sizeofDltStorageHeader + seidStart htyp) 4 = beBytes 4 extra.seid
  tmsp : dltIsHtypWtms htyp = true →
    field headerbuffer (sizeofDltStorageHeader + tmspStart htyp) 4 = beBytes 4 extra.tmsp

theorem dltMessageSetExtraparameters_headerbuffer (msg : DltMessage) (htyp : UInt8) :
    (dltMessageSetExtraparameters msg htyp).headerbuffer =
      putIf (dltIsHtypWtms htyp)
        (putIf (dltIsHtypWsid htyp)
          (putIf (dltIsHtypWeid htyp) msg.headerbuffer
            (sizeofDltStorageHeader + sizeofDltStandardHeader) msg.headerextra.ecu)
          (sizeofDltStorageHeader + seidStart htyp) (beBytes 4 msg.headerextra.seid))
        (sizeofDltStorageHeader + tmspStart htyp) (beBytes 4 msg.headerextra.tmsp) := by
  unfold dltMessageSetExtraparameters seidStart tmspStart seidStart putIf
  simp only [leBytes_dltHtobe32, Nat.add_assoc]
  cases dltIsHtypWeid htyp <;> cases dltIsHtypWsid htyp <;> cases dltIsHtypWtms htyp <;> rfl

/-- The parameters are put behind each other, and what lies before them is kept. -/
theorem dltMessageSetExtraparameters_spec {msg : DltMessage} (htyp : UInt8)
    (hlen : msg.headerbuffer.length = sizeofHeaderbuffer) (hecu : msg.headerextra.ecu.length = 4) :
    (dltMessageSetExtraparameters msg htyp).headerbuffer.length = sizeofHeaderbuffer ∧
      ExtraOf (dltMessageSetExtraparameters msg htyp).headerbuffer htyp msg.headerextra ∧
      field (dltMessageSetExtraparameters msg htyp).headerbuffer sizeofDltStorageHeader 2 =
        field msg.headerbuffer sizeofDltStorageHeader 2 := by
  have hsize : sizeofHeaderbuffer = 42 := rfl
  have hstorage : sizeofDltStorageHeader = 16 := rfl
  have hstandard : sizeofDltStandardHeader = 4 := rfl
  have hseid : seidStart htyp = 4 + (if dltIsHtypWeid htyp then 4 else 0) := rfl
  have htmsp : tmspStart htyp = seidStart htyp + (if dltIsHtypWsid htyp then 4 else 0) := rfl
  have hseidLe : seidStart htyp ≤ 8 := by
    rw [hseid]
    split_ifs <;> omega
  have htmspLe : tmspStart htyp ≤ 12 := by
    rw [htmsp]
    split_ifs <;> omega
  have hweid : dltIsHtypWeid htyp = true → 8 ≤ seidStart htyp := fun h => by
    rw [hseid, if_pos h]
  have hwsid : dltIsHtypWsid htyp = true → seidStart htyp + 4 ≤ tmspStart htyp := fun h => by
    rw [htmsp, if_pos h]
  have hfour : ∀ x, (beBytes 4 x).length = 4 := length_beBytes 4
  rw [dltMessageSetExtraparameters_headerbuffer]
  -- the memory after each of the three blocks
  set first := putIf (dltIsHtypWeid htyp) msg.headerbuffer
    (sizeofDltStorageHeader + sizeofDltStandardHeader) msg.headerextra.ecu with hfirst
  have hlen1 : first.length = 42 := by
    rw [hfirst, length_putIf (fun _ => by omega), hlen, hsize]
  set second := putIf (dltIsHtypWsid htyp) first (sizeofDltStorageHeader + seidStart htyp)
    (beBytes 4 msg.headerextra.seid) with hsecond
  have hlen2 : second.length = 42 := by
    rw [hsecond, length_putIf (fun _ => by rw [hfour]; omega), hlen1]
  have hkeep2 : ∀ off n, off + n ≤ sizeofDltStorageHeader + seidStart htyp →
      field second off n = field first off n := by
    intro off n hle
    exact field_putIf_of_le (fun _ => by omega) (fun _ => hle)
  have hkeep3 : ∀ off n, off + n ≤ sizeofDltStorageHeader + tmspStart htyp →
      field (putIf (dltIsHtypWtms htyp) second (sizeofDltStorageHeader + tmspStart htyp)
        (beBytes 4 msg.headerextra.tmsp)) off n = field second off n := by
    intro off n hle
    exact field_putIf_of_le (fun _ => by omega) (fun _ => hle)
  refine ⟨?_, ⟨?_, ?_, ?_⟩, ?_⟩
  · rw [length_putIf (fun _ => by rw [hfour]; omega), hlen2, hsize]
  · intro h
    have := hweid h
    rw [hkeep3 _ _ (by omega), hkeep2 _ _ (by omega), ← hecu]
    exact field_putIf h (by omega)
  · intro h
    have := hwsid h
    rw [hkeep3 _ _ (by omega), ← hfour]
    exact field_putIf h (by omega)
  · intro h
    rw [← hfour]
    exact field_putIf h (by omega)
  · rw [hkeep3 _ _ (by omega), hkeep2 _ _ (by omega)]
    exact field_putIf_of_le (fun _ => by omega) (fun _ => by omega)

section headers

variable {env : SendEnv} {user : DltUser} {handle : DltContext} {log : DltContextData} {mtype : ℤ}
  {msg : DltMessage}

/-- The parameters of the message that is sent. -/
def sentExtra (env : SendEnv) (user : DltUser) (log : DltContextData) : DltStandardHeaderExtra :=
  ⟨user.ecuID.bytes, env.pid.toNat, (dltUserLogTmsp env log).toNat⟩

/-- The extended header of the message that is sent. -/
def sentExtended (user : DltUser) (handle : DltContext) (log : DltContextData) (msin : UInt8) : List UInt8 :=
  [msin, UInt8.ofInt log.argsNum] ++ user.appID.bytes ++ handle.contextID.bytes

/-- Where the headers hold their fields. -/
structure HeadersOf (env : SendEnv) (user : DltUser) (handle : DltContext) (log : DltContextData)
    (mtype : ℤ) (msg : DltMessage) : Prop where
  length_eq : msg.headerbuffer.length = sizeofHeaderbuffer
  headersize_eq : msg.headersize = sizeofDltStorageHeader + headerLength (dltUserLogHtyp user log)
  standard : field msg.headerbuffer sizeofDltStorageHeader 2 = [dltUserLogHtyp user log, handle.mcnt]
  extra : ExtraOf msg.headerbuffer (dltUserLogHtyp user log) (sentExtra env user log)
  extended : dltIsHtypUeh (dltUserLogHtyp user log) = true →
    ∃ msin, dltUserLogMsin user log mtype = some msin ∧
      field msg.headerbuffer (sizeofDltStorageHeader + sizeofDltStandardHeader +
        dltStandardHeaderExtraSize (dltUserLogHtyp user log)) sizeofDltExtendedHeader =
          sentExtended user handle log msin

theorem tmspStart_le (htyp : UInt8) :
    seidStart htyp + (if dltIsHtypWsid htyp then 4 else 0) + (if dltIsHtypWtms htyp then 4 else 0) =
        sizeofDltStandardHeader + dltStandardHeaderExtraSize htyp ∧
      tmspStart htyp + (if dltIsHtypWtms htyp then 4 else 0) =
        sizeofDltStandardHeader + dltStandardHeaderExtraSize htyp := by
  unfold tmspStart seidStart dltStandardHeaderExtraSize
  omega

/-- The message up to the parameters behind the standard header. -/
theorem dltUserLogStandard_spec (env : SendEnv) (user : DltUser) (handle : DltContext)
    (log : DltContextData) :
    (dltUserLogStandard env user handle log).headerbuffer.length = sizeofHeaderbuffer ∧
      field (dltUserLogStandard env user handle log).headerbuffer sizeofDltStorageHeader 2 =
        [dltUserLogHtyp user log, handle.mcnt] ∧
      ExtraOf (dltUserLogStandard env user handle log).headerbuffer (dltUserLogHtyp user log)
        (sentExtra env user log) := by
  have hsize : sizeofHeaderbuffer = 42 := rfl
  have hstorage : sizeofDltStorageHeader = 16 := rfl
  have hmemory := env.memory_length
  have hheader : (dltSetStorageheader env.time user.ecuID.bytes).length = 16 := by
    simp [dltSetStorageheader, length_leBytes, Id4.length_eq]
  -- the memory with the storage header, the header type and the counter
  obtain ⟨mem, hmem, hlen, hstandard⟩ : ∃ mem, overwrite (overwrite env.memory.headerbuffer 0
        (dltSetStorageheader env.time user.ecuID.bytes)) sizeofDltStorageHeader
          [dltUserLogHtyp user log, handle.mcnt] = mem ∧
      mem.length = sizeofHeaderbuffer ∧
      field mem sizeofDltStorageHeader 2 = [dltUserLogHtyp user log, handle.mcnt] := by
    have hfirst : (overwrite env.memory.headerbuffer 0
        (dltSetStorageheader env.time user.ecuID.bytes)).length = sizeofHeaderbuffer := by
      rw [length_overwrite (by omega), hmemory]
    refine ⟨_, rfl, ?_, ?_⟩
    · rw [length_overwrite (by rw [hfirst, length_cons, length_singleton]; omega), hfirst]
    · exact field_overwrite [dltUserLogHtyp user log, handle.mcnt] (by omega)
  unfold dltUserLogStandard
  simp only [dltMessageInit, hmem]
  obtain ⟨hlen', hextra, hkeep⟩ := @dltMessageSetExtraparameters_spec
    ({ env.memory with
      headersize := 0, datasize := 0, databuffer := none, databuffersize := 0
      storageheader := some 0, standardheader := some sizeofDltStorageHeader, extendedheader := none
      foundSerialheader := false
      headerbuffer := mem
      headerextra := {
        ecu := (dltSetId user.ecuID.bytes).bytes
        seid := if user.withSessionId then env.pid.toNat else env.memory.headerextra.seid
        tmsp := (dltUserLogTmsp env log).toNat } })
    (dltUserLogHtyp user log) hlen (dltSetId user.ecuID.bytes).length_eq
  refine ⟨hlen', hkeep.trans hstandard, ?_, ?_, ?_⟩
  · intro h
    rw [hextra.ecu h, user.ecuID_canonical]
    rfl
  · intro h
    rw [hextra.seid h, if_pos ((dltUserLogHtyp_flags user log).2.1.symm.trans h)]
    rfl
  · exact hextra.tmsp

theorem dltUserLogHeaders_spec (h : dltUserLogHeaders env user handle log mtype = some msg) :
    HeadersOf env user handle log mtype msg := by
  have hsize : sizeofHeaderbuffer = 42 := rfl
  have hstorage : sizeofDltStorageHeader = 16 := rfl
  have hstandardSize : sizeofDltStandardHeader = 4 := rfl
  obtain ⟨hlen, hstandard, hextra⟩ := dltUserLogStandard_spec env user handle log
  obtain ⟨hseidLe, htmspLe⟩ := tmspStart_le (dltUserLogHtyp user log)
  have hextraLe : dltStandardHeaderExtraSize (dltUserLogHtyp user log) ≤ 12 := by
    unfold dltStandardHeaderExtraSize
    split_ifs <;> omega
  unfold dltUserLogHeaders at h
  by_cases hueh : dltIsHtypUeh (dltUserLogHtyp user log) = true
  · simp only [hueh, if_true, Option.map_eq_some_iff] at h
    obtain ⟨msin, hmsin, rfl⟩ := h
    rw [user.appID_canonical, handle.contextID_canonical]
    have hlenExtended : (sentExtended user handle log msin).length = 10 := by
      simp [sentExtended, Id4.length_eq]
    have hkeep : ∀ off n, off + n ≤ sizeofDltStorageHeader + sizeofDltStandardHeader +
          dltStandardHeaderExtraSize (dltUserLogHtyp user log) →
        field (overwrite (dltUserLogStandard env user handle log).headerbuffer
          (sizeofDltStorageHeader + sizeofDltStandardHeader +
            dltStandardHeaderExtraSize (dltUserLogHtyp user log))
          (sentExtended user handle log msin)) off n =
            field (dltUserLogStandard env user handle log).headerbuffer off n :=
      fun off n hle => field_overwrite_of_le _ (by omega) hle
    refine ⟨?_, ?_, ?_, ⟨?_, ?_, ?_⟩, ?_⟩
    · exact (length_overwrite (by
        have : _ = 10 := hlenExtended
        unfold sentExtended at this
        rw [this]
        omega)).trans hlen
    · simp only [headerLength, hueh, if_true]
      omega
    · exact (hkeep _ _ (by omega)).trans hstandard
    · intro hflag
      refine (hkeep _ _ ?_).trans (hextra.ecu hflag)
      rw [dltStandardHeaderExtraSize, if_pos hflag]
      omega
    · intro hflag
      refine (hkeep _ _ ?_).trans (hextra.seid hflag)
      rw [if_pos hflag] at hseidLe
      omega
    · intro hflag
      refine (hkeep _ _ ?_).trans (hextra.tmsp hflag)
      rw [if_pos hflag] at htmspLe
      omega
    · intro _
      refine ⟨msin, hmsin, ?_⟩
      have hback := field_overwrite (sentExtended user handle log msin)
        (show sizeofDltStorageHeader + sizeofDltStandardHeader +
          dltStandardHeaderExtraSize (dltUserLogHtyp user log) ≤
            (dltUserLogStandard env user handle log).headerbuffer.length by omega)
      rw [hlenExtended] at hback
      exact hback
  · simp only [hueh, Bool.false_eq_true, if_false, Option.some.injEq] at h
    subst h
    refine ⟨hlen, ?_, hstandard, hextra, fun hno => absurd hno hueh⟩
    simp only [headerLength, hueh, Bool.false_eq_true, if_false]
    omega

/-- The length field is put into place, and the other fields are kept. -/
theorem HeadersOf.setLen (h : HeadersOf env user handle log mtype msg) (len : ℕ) :
    HeadersOf env user handle log mtype { msg with
        headerbuffer := overwrite msg.headerbuffer (sizeofDltStorageHeader + 2) (beBytes 2 len) } ∧
      field (overwrite msg.headerbuffer (sizeofDltStorageHeader + 2) (beBytes 2 len))
        (sizeofDltStorageHeader + 2) 2 = beBytes 2 len := by
  have hsize : sizeofHeaderbuffer = 42 := rfl
  have hstorage : sizeofDltStorageHeader = 16 := rfl
  have hstandardSize : sizeofDltStandardHeader = 4 := rfl
  have hlen := h.length_eq
  have htwo : (beBytes 2 len).length = 2 := length_beBytes 2 len
  have hkeep : ∀ off n, sizeofDltStorageHeader + sizeofDltStandardHeader ≤ off →
      field (overwrite msg.headerbuffer (sizeofDltStorageHeader + 2) (beBytes 2 len)) off n =
        field msg.headerbuffer off n :=
    fun off n hge => field_overwrite_of_ge _ (by omega) (by omega)
  have hseid : sizeofDltStandardHeader ≤ seidStart (dltUserLogHtyp user log) := Nat.le_add_right _ _
  have htmsp : seidStart (dltUserLogHtyp user log) ≤ tmspStart (dltUserLogHtyp user log) :=
    Nat.le_add_right _ _
  refine ⟨⟨?_, h.headersize_eq, ?_, ⟨?_, ?_, ?_⟩, ?_⟩, ?_⟩
  · exact (length_overwrite (by omega)).trans hlen
  · exact (field_overwrite_of_le _ (by omega) (by omega)).trans h.standard
  · exact fun hflag => (hkeep _ _ (by omega)).trans (h.extra.ecu hflag)
  · exact fun hflag => (hkeep _ _ (by omega)).trans (h.extra.seid hflag)
  · exact fun hflag => (hkeep _ _ (by omega)).trans (h.extra.tmsp hflag)
  · intro hueh
    obtain ⟨msin, hmsin, hfield⟩ := h.extended hueh
    exact ⟨msin, hmsin, (hkeep _ _ (by omega)).trans hfield⟩
  · have hback := field_overwrite (beBytes 2 len)
      (show sizeofDltStorageHeader + 2 ≤ msg.headerbuffer.length by omega)
    rwa [htwo] at hback

end headers

/-! ## The bytes that are handed on -/

/-- The bytes go to the connection or to the ring buffer. -/
def SendLogResult.Sends (result : SendLogResult) (bytes : List UInt8) : Prop :=
  result.written = some bytes ∨ result.stored = some bytes

section sent

variable {env : SendEnv} {user : DltUser} {log : DltContextData} {mtype : ℤ} {bytes : List UInt8}

theorem dltUserLogHandOn_sends {handle : Option DltContext} {msg : DltMessage}
    (h : (dltUserLogHandOn env user log handle msg).Sends bytes) :
    bytes = field msg.headerbuffer sizeofDltStorageHeader (msg.headersize - sizeofDltStorageHeader) ++
      log.buffer := by
  unfold SendLogResult.Sends dltUserLogHandOn at h
  by_cases hdaemon : user.dltIsDaemon = true
  · simp only [hdaemon, if_true] at h
    rcases h with h | h
    · simp only [Option.ite_none_right_eq_some, Option.some.injEq] at h
      exact h.2.symm
    · simp only [Option.ite_none_right_eq_some, Option.some.injEq] at h
      exact h.2.symm
  · simp only [hdaemon, Bool.false_eq_true, if_false, reduceCtorEq, or_self] at h

/-- Without a message the function returns an error, and a message is the one that the headers build. -/
theorem dltUserLogFrame_spec :
    match dltUserLogFrame env user log mtype with
    | .error (ret, _) => ret ≠ dltReturnOk
    | .ok (_, msg) => ∃ handle built, log.handle = some handle ∧
        dltUserLogHeaders env user handle log mtype = some built ∧
        i32 (built.headersize - sizeofDltStorageHeader + log.buffer.length) ≤ 65535 ∧ msg = { built with
          headerbuffer := overwrite built.headerbuffer (sizeofDltStorageHeader + 2)
            (leBytes 2 (dltHtobe16 (u32 (i32 (built.headersize - sizeofDltStorageHeader + log.buffer.length))))) } := by
  have herror : dltReturnError ≠ dltReturnOk ∧ dltReturnWrongParameter ≠ dltReturnOk := by decide
  unfold dltUserLogFrame
  by_cases hinit : ¬ user.initialised = true
  · rw [if_pos hinit]
    exact herror.1
  rw [if_neg hinit]
  cases hhandle : log.handle with
  | none => exact herror.2
  | some handle =>
    simp only
    by_cases hparam : handle.contextID.isEmpty = true ∨ mtype < dltTypeLog ∨ mtype > dltTypeControl
    · rw [if_pos hparam]
      exact herror.2
    rw [if_neg hparam]
    cases hheaders : dltUserLogHeaders env user handle log mtype with
    | none => exact herror.1
    | some built =>
      simp only
      split_ifs with hhuge
      · exact herror.1
      · exact herror.1
      · exact ⟨handle, built, rfl, hheaders, not_lt.mp hhuge, rfl⟩

theorem headerLength_le (htyp : UInt8) : headerLength htyp ≤ 26 := by
  have hextra := extraSize_le htyp
  unfold headerLength sizeofDltStandardHeader
  unfold sizeofDltStandardHeaderExtra sizeofDltExtendedHeader at hextra
  unfold sizeofDltExtendedHeader
  omega

/-- What is handed on is a message whose length field counts all of it. -/
theorem dltUserLogSendLog_sends (h : (dltUserLogSendLog env user log mtype).Sends bytes) :
    ∃ handle msg len, log.handle = some handle ∧ HeadersOf env user handle log mtype msg ∧
      len = headerLength (dltUserLogHtyp user log) + log.buffer.length ∧ len < 65536 ∧
      field msg.headerbuffer (sizeofDltStorageHeader + 2) 2 = beBytes 2 len ∧
      bytes = field msg.headerbuffer sizeofDltStorageHeader (headerLength (dltUserLogHtyp user log)) ++
        log.buffer := by
  have hsize := log.size_le
  have hheaderLe := headerLength_le (dltUserLogHtyp user log)
  have hframe := @dltUserLogFrame_spec env user log mtype
  unfold dltUserLogSendLog at h
  cases hresult : dltUserLogFrame env user log mtype with
  | error early =>
    rw [hresult] at h
    rcases h with h | h <;> cases h
  | ok counted =>
    obtain ⟨counted, msg⟩ := counted
    rw [hresult] at h hframe
    obtain ⟨handle, built, hhandle, hheaders, hle, hmsg⟩ := hframe
    have hspec := dltUserLogHeaders_spec hheaders
    -- the length fits, so that none of the conversions changes it
    have hlen : ((built.headersize : ℤ) - sizeofDltStorageHeader + log.buffer.length) =
        ((headerLength (dltUserLogHtyp user log) + log.buffer.length : ℕ) : ℤ) := by
      rw [hspec.headersize_eq]
      push_cast
      omega
    rw [hlen, i32_natCast (by omega)] at hle hmsg
    rw [leBytes_dltHtobe16, u32_natCast (by omega)] at hmsg
    have hbytes := dltUserLogHandOn_sends h
    obtain ⟨hkept, hfield⟩ := hspec.setLen (headerLength (dltUserLogHtyp user log) + log.buffer.length)
    subst hmsg
    refine ⟨handle, _, _, hhandle, hkept, rfl, by omega, hfield, ?_⟩
    rw [hbytes, hspec.headersize_eq, Nat.add_sub_cancel_left]

/-- The bytes that are handed on are one message of the grammar. -/
theorem dltUserLogSendLog_framed (h : (dltUserLogSendLog env user log mtype).Sends bytes) :
    ∃ handle msg f, log.handle = some handle ∧ HeadersOf env user handle log mtype msg ∧
      Matches false bytes f ∧ bytes = f.header ++ f.payload ∧ f.payload = log.buffer ∧
      f.header = field msg.headerbuffer sizeofDltStorageHeader (headerLength (dltUserLogHtyp user log)) ∧
      htypOf f.header = dltUserLogHtyp user log := by
  obtain ⟨handle, msg, len, hhandle, hspec, hlen, hsmall, hfield, hbytes⟩ := dltUserLogSendLog_sends h
  have hfour : 4 ≤ headerLength (dltUserLogHtyp user log) := by
    unfold headerLength sizeofDltStandardHeader
    omega
  have hfits : sizeofDltStorageHeader + headerLength (dltUserLogHtyp user log) ≤
      msg.headerbuffer.length := by
    have := extraSize_le (dltUserLogHtyp user log)
    rw [hspec.length_eq, headerLength, sizeofHeaderbuffer]
    omega
  have hlength := length_field hfits
  have hhtyp : htypOf (field msg.headerbuffer sizeofDltStorageHeader
      (headerLength (dltUserLogHtyp user log))) = dltUserLogHtyp user log := by
    have hfirst : (field msg.headerbuffer sizeofDltStorageHeader 2).getD 0 0 =
        msg.headerbuffer.getD sizeofDltStorageHeader 0 := getD_field 0 (by omega)
    rw [hspec.standard] at hfirst
    rw [htypOf, getD_field 0 (by omega), ← hfirst]
    rfl
  refine ⟨handle, msg, ⟨false, 0, field msg.headerbuffer sizeofDltStorageHeader
    (headerLength (dltUserLogHtyp user log)), log.buffer⟩, hhandle, hspec, ?_, hbytes, rfl, rfl, hhtyp⟩
  refine ⟨⟨[], [], rfl, ?_⟩, ?_, ?_, fun hno => absurd hno Bool.false_ne_true, fun _ => rfl,
    fun _ => ⟨rfl, ?_⟩⟩
  · rw [hbytes]
    simp
  · simp only
    rw [hlength, hhtyp]
  · have hlenField : lenOf (field msg.headerbuffer sizeofDltStorageHeader
        (headerLength (dltUserLogHtyp user log))) = len := by
      have hinner : field (field msg.headerbuffer sizeofDltStorageHeader
          (headerLength (dltUserLogHtyp user log))) 2 2 =
            field msg.headerbuffer (sizeofDltStorageHeader + 2) 2 := field_field (by omega)
      rw [lenOf, ← field, hinner, hfield, ofBeBytes_beBytes_of_lt (by omega)]
    simp only
    rw [hlenField, hlength, hlen]
  · -- a serial header begins with another byte than a header type
    intro hserial
    obtain ⟨rest, hrest⟩ := hserial
    have hhead : htypOf bytes = dltUserLogHtyp user log := by
      rw [hbytes, htypOf_append (by omega), hhtyp]
    rw [← hrest] at hhead
    exact (dltUserLogHtyp_flags user log).2.2.2.2 hhead.symm

end sent

/-! ## What is recovered -/

/-- The extended header of a record. -/
def extendedOf (msg : DltMessage) : List UInt8 :=
  field msg.headerbuffer (msg.extendedheader.getD 0) sizeofDltExtendedHeader

/-- The record holds the message that was sent: the flags, the fields that the flags announce, and the
payload. A message without extended header is one that is not verbose. -/
structure Recovered (env : SendEnv) (user : DltUser) (handle : DltContext) (log : DltContextData)
    (mtype : ℤ) (msg : DltMessage) : Prop where
  htyp : htypOf msg.header = dltUserLogHtyp user log
  weid : dltIsHtypWeid (htypOf msg.header) = user.withEcuId
  wsid : dltIsHtypWsid (htypOf msg.header) = user.withSessionId
  wtms : dltIsHtypWtms (htypOf msg.header) = user.withTimestamp
  ueh : dltIsHtypUeh (htypOf msg.header) =
    (isVerboseMode user.verboseMode log || user.useExtendedHeaderForNonVerbose)
  mcnt : msg.header.getD 1 0 = handle.mcnt
  ecu : user.withEcuId = true → msg.headerextra.ecu = user.ecuID.bytes
  seid : user.withSessionId = true → msg.headerextra.seid = env.pid.toNat
  tmsp : user.withTimestamp = true → msg.headerextra.tmsp = (dltUserLogTmsp env log).toNat
  verb : (dltIsHtypUeh (htypOf msg.header) && dltIsMsinVerb ((extendedOf msg).getD 0 0)) =
    isVerboseMode user.verboseMode log
  mstp : dltIsHtypUeh (htypOf msg.header) = true → (dltGetMsinMstp ((extendedOf msg).getD 0 0) : ℤ) = mtype
  mtin : dltIsHtypUeh (htypOf msg.header) = true → (dltGetMsinMtin ((extendedOf msg).getD 0 0) : ℤ) =
    (if mtype = dltTypeLog then log.logLevel else log.traceStatus) % 16
  noar : dltIsHtypUeh (htypOf msg.header) = true → (extendedOf msg).getD 1 0 = UInt8.ofInt log.argsNum
  apid : dltIsHtypUeh (htypOf msg.header) = true → field (extendedOf msg) 2 4 = user.appID.bytes
  ctid : dltIsHtypUeh (htypOf msg.header) = true → field (extendedOf msg) 6 4 = handle.contextID.bytes
  payload : msg.payload = log.buffer

theorem sentExtended_fields (user : DltUser) (handle : DltContext) (log : DltContextData) (msin : UInt8) :
    (sentExtended user handle log msin).getD 0 0 = msin ∧
      (sentExtended user handle log msin).getD 1 0 = UInt8.ofInt log.argsNum ∧
      field (sentExtended user handle log msin) 2 4 = user.appID.bytes ∧
      field (sentExtended user handle log msin) 6 4 = handle.contextID.bytes := by
  refine ⟨rfl, rfl, ?_, ?_⟩
  · unfold sentExtended
    rw [field_append _ (by simp [Id4.length_eq])]
    exact take_of_length_le user.appID.length_eq.le
  · have hlen : ([msin, UInt8.ofInt log.argsNum] ++ user.appID.bytes).length = 6 := by
      simp [Id4.length_eq]
    rw [sentExtended, field, drop_left' hlen]
    exact take_of_length_le handle.contextID.length_eq.le

section recovered

variable {malloc : Malloc} {env : SendEnv} {user : DltUser} {log : DltContextData} {mtype : ℤ}
  {bytes : List UInt8}

/-- A record that holds the headers that were sent holds their fields. -/
theorem recovered_of_headers {handle : DltContext} {sent msg : DltMessage} {f : Frame} {old : Option ℕ}
    (hspec : HeadersOf env user handle log mtype sent)
    (hheader : f.header = field sent.headerbuffer sizeofDltStorageHeader
      (headerLength (dltUserLogHtyp user log)))
    (hhtyp : htypOf f.header = dltUserLogHtyp user log) (hpayload : f.payload = log.buffer)
    (hholds : msg.Holds f) (hloaded : Loaded old msg (htypOf msg.header)) :
    Recovered env user handle log mtype msg := by
  have hstandardSize : sizeofDltStandardHeader = 4 := rfl
  have hextendedSize : sizeofDltExtendedHeader = 10 := rfl
  obtain ⟨hweid, hwsid, hwtms, hueh, -⟩ := dltUserLogHtyp_flags user log
  obtain ⟨hseidLe, htmspLe⟩ := tmspStart_le (dltUserLogHtyp user log)
  have hheaderLen : headerLength (dltUserLogHtyp user log) = sizeofDltStandardHeader +
      dltStandardHeaderExtraSize (dltUserLogHtyp user log) +
        (if dltIsHtypUeh (dltUserLogHtyp user log) then sizeofDltExtendedHeader else 0) := rfl
  have hfits : sizeofDltStorageHeader + headerLength (dltUserLogHtyp user log) ≤
      sent.headerbuffer.length := by
    have := extraSize_le (dltUserLogHtyp user log)
    rw [hspec.length_eq, headerLength, sizeofHeaderbuffer]
    omega
  have hlength : f.header.length = headerLength (dltUserLogHtyp user log) := by
    rw [hheader, length_field hfits]
  -- the record holds every field of the headers that were sent
  have hsame : ∀ k n, k + n ≤ headerLength (dltUserLogHtyp user log) →
      field msg.headerbuffer (sizeofDltStorageHeader + k) n =
        field sent.headerbuffer (sizeofDltStorageHeader + k) n := by
    intro k n hle
    have hmsg : field msg.headerbuffer sizeofDltStorageHeader (headerLength (dltUserLogHtyp user log)) =
        f.header := by
      rw [← hholds.header_eq, DltMessage.header, hholds.headersize_eq, hlength, Nat.add_sub_cancel_left]
      rfl
    rw [← field_field hle, ← field_field hle, hmsg, hheader]
  have hcode : htypOf msg.header = dltUserLogHtyp user log := by rw [hholds.header_eq, hhtyp]
  rw [hcode] at hloaded
  -- the extended header is where the flags say
  have hext : dltIsHtypUeh (htypOf msg.header) = true →
      ∃ msin, dltUserLogMsin user log mtype = some msin ∧
        extendedOf msg = sentExtended user handle log msin := by
    intro hflag
    rw [hcode] at hflag
    obtain ⟨msin, hmsin, hfield⟩ := hspec.extended hflag
    rw [if_pos hflag] at hheaderLen
    refine ⟨msin, hmsin, ?_⟩
    have hpos : extraLength (dltUserLogHtyp user log) > 0 := by
      rw [extraLength, if_pos hflag]
      omega
    rw [extendedOf, hloaded.extendedheader, if_pos hpos, if_pos hflag, Option.getD_some,
      Nat.add_assoc, hsame _ _ (by omega), ← Nat.add_assoc, hfield]
  refine ⟨hcode, ?_, ?_, ?_, ?_, ?_, ?_, ?_, ?_, ?_, ?_, ?_, ?_, ?_, ?_, ?_⟩
  · rw [hcode, hweid]
  · rw [hcode, hwsid]
  · rw [hcode, hwtms]
  · rw [hcode, hueh]
  · have hsecond : (field f.header 0 2).getD 1 0 = handle.mcnt := by
      rw [hheader, field_field (by omega), Nat.add_zero, hspec.standard]
      rfl
    rw [hholds.header_eq, ← hsecond]
    simp [field]
  · intro h
    rw [← hweid] at h
    rw [hloaded.ecu h]
    refine (hsame sizeofDltStandardHeader 4 ?_).trans (hspec.extra.ecu h)
    rw [hheaderLen, dltStandardHeaderExtraSize, if_pos h]
    omega
  · intro h
    rw [← hwsid] at h
    rw [if_pos h] at hseidLe
    rw [hloaded.seid h, ← field, hsame _ _ (by omega), hspec.extra.seid h, ofBeBytes_beBytes_of_lt]
    · rfl
    · exact env.pid.toNat_lt
  · intro h
    rw [← hwtms] at h
    rw [if_pos h] at htmspLe
    rw [hloaded.tmsp h, ← field, hsame _ _ (by omega), hspec.extra.tmsp h, ofBeBytes_beBytes_of_lt]
    · rfl
    · exact (dltUserLogTmsp env log).toNat_lt
  · by_cases hflag : dltIsHtypUeh (htypOf msg.header) = true
    · obtain ⟨msin, hmsin, hextended⟩ := hext hflag
      rw [hflag, hextended, (sentExtended_fields ..).1, Bool.true_and]
      exact (dltUserLogMsin_parts hmsin).2.2
    · rw [Bool.not_eq_true] at hflag
      rw [hflag, Bool.false_and]
      rw [hcode, hueh, Bool.or_eq_false_iff] at hflag
      exact hflag.1.symm
  · intro hflag
    obtain ⟨msin, hmsin, hextended⟩ := hext hflag
    rw [hextended, (sentExtended_fields ..).1]
    exact (dltUserLogMsin_parts hmsin).1
  · intro hflag
    obtain ⟨msin, hmsin, hextended⟩ := hext hflag
    rw [hextended, (sentExtended_fields ..).1]
    exact (dltUserLogMsin_parts hmsin).2.1
  · intro hflag
    obtain ⟨msin, hmsin, hextended⟩ := hext hflag
    rw [hextended, (sentExtended_fields ..).2.1]
  · intro hflag
    obtain ⟨msin, hmsin, hextended⟩ := hext hflag
    rw [hextended, (sentExtended_fields ..).2.2.1]
  · intro hflag
    obtain ⟨msin, hmsin, hextended⟩ := hext hflag
    rw [hextended, (sentExtended_fields ..).2.2.2]
  · rw [hholds.payload_eq, hpayload]

/-- **`dlt_message_read` recovers the message that was sent**: it succeeds on the bytes behind the user header,
takes all of them, and the record holds the flags, the fields that the flags announce, and the payload. -/
theorem dltUserLogSendLog_recovered (hm : malloc.Succeeds) {msg : DltMessage} (h : msg.Wf)
    (hsends : (dltUserLogSendLog env user log mtype).Sends bytes) :
    ∃ handle, log.handle = some handle ∧
      (dltMessageRead malloc msg bytes bytes.length false).2 = dltMessageErrorOk ∧
      ((dltMessageRead malloc msg bytes bytes.length false).1.headersize : ℤ) - sizeofDltStorageHeader +
          (dltMessageRead malloc msg bytes bytes.length false).1.datasize = bytes.length ∧
      Recovered env user handle log mtype (dltMessageRead malloc msg bytes bytes.length false).1 := by
  obtain ⟨handle, sent, f, hhandle, hspec, hmatches, hbytes, hpayload, hheader, hhtyp⟩ :=
    dltUserLogSendLog_framed hsends
  rw [← take_length (l := bytes)] at hmatches
  obtain ⟨-, -, hok⟩ := dltMessageRead_eq_readFrame hm h le_rfl false
  obtain ⟨hret, hholds⟩ := hok f (readFrame_ok_iff.mpr hmatches)
  have hloaded := dltMessageRead_loaded hm h le_rfl hret
  refine ⟨handle, hhandle, hret, ?_, recovered_of_headers hspec hheader hhtyp hpayload hholds hloaded⟩
  rw [hholds.headersize_eq, hholds.datasize_eq, congrArg List.length hbytes, length_append]
  push_cast
  omega

end recovered

/-! ## A message -/

/-- An application that sends every field. -/
def sampleUser : DltUser where
  initialised := true
  ecuID := dltSetId (ascii "ECU1")
  ecuID_canonical := canonical_dltSetId _
  appID := dltSetId (ascii "APP")
  appID_canonical := canonical_dltSetId _
  verboseMode := 1
  useExtendedHeaderForNonVerbose := true
  withSessionId := true
  withTimestamp := true
  withEcuId := true
  enableLocalPrint := false
  localPrintMode := 0
  dltIsFile := false
  dltIsDaemon := true

/-- A message of three bytes. -/
def sampleLog : DltContextData where
  handle := some ⟨dltSetId (ascii "CTX"), canonical_dltSetId _, 255⟩
  buffer := [1, 2, 3]
  size_le := by decide
  logLevel := 4
  traceStatus := 0
  argsNum := 1
  autoTimestamp := true
  userTimestamp := 0
  verboseMode := true

/-- A system in which sending succeeds. -/
def sampleSendEnv : SendEnv where
  memory := sampleMessage
  memory_length := rfl
  pid := 4711
  uptime := 100
  time := (0, 0)
  print := 0
  connected := true
  resend := 0
  out3 := 0
  errorHandling := 0

/-- The bytes of that message. -/
def sampleSent : List UInt8 :=
  [0x3d, 255, 0, 29] ++ ascii "ECU1" ++ [0, 0, 0x12, 0x67, 0, 0, 0, 100] ++ [0x41, 1] ++ ascii "APP" ++ [0] ++
    ascii "CTX" ++ [0, 1, 2, 3]

theorem dltUserLogSendLog_recovered_sample :
    ∃ handle, sampleLog.handle = some handle ∧
      (dltMessageRead zeroMalloc sampleMessage sampleSent sampleSent.length false).2 = dltMessageErrorOk ∧
      ((dltMessageRead zeroMalloc sampleMessage sampleSent sampleSent.length false).1.headersize : ℤ) -
          sizeofDltStorageHeader +
          (dltMessageRead zeroMalloc sampleMessage sampleSent sampleSent.length false).1.datasize =
            sampleSent.length ∧
      Recovered sampleSendEnv sampleUser handle sampleLog 0
        (dltMessageRead zeroMalloc sampleMessage sampleSent sampleSent.length false).1 :=
  dltUserLogSendLog_recovered zeroMalloc_succeeds sampleMessage_wf (.inl (by decide +kernel))

/-- A field that is not announced is not recovered, and of a level only four bits are: the ECU id that is not
sent, and the level `DLT_LOG_DEFAULT`. -/
theorem dltUserLogSendLog_not_recovered :
    (∃ bytes, (dltUserLogSendLog sampleSendEnv { sampleUser with withEcuId := false } sampleLog 0).Sends bytes ∧
      (dltMessageRead zeroMalloc sampleMessage bytes bytes.length false).1.headerextra.ecu ≠
        sampleUser.ecuID.bytes) ∧
    ∃ bytes, (dltUserLogSendLog sampleSendEnv sampleUser { sampleLog with logLevel := -1 } 0).Sends bytes ∧
      (dltGetMsinMtin ((extendedOf
        (dltMessageRead zeroMalloc sampleMessage bytes bytes.length false).1).getD 0 0) : ℤ) = 15 := by
  refine ⟨⟨[0x39, 255, 0, 25] ++ [0, 0, 0x12, 0x67, 0, 0, 0, 100] ++ [0x41, 1] ++ ascii "APP" ++ [0] ++
    ascii "CTX" ++ [0, 1, 2, 3], .inl ?_, ?_⟩, [0x3d, 255, 0, 29] ++ ascii "ECU1" ++
    [0, 0, 0x12, 0x67, 0, 0, 0, 100] ++ [0xf1, 1] ++ ascii "APP" ++ [0] ++ ascii "CTX" ++ [0, 1, 2, 3],
    .inl ?_, ?_⟩
  · decide +kernel
  · decide +kernel
  · decide +kernel
  · decide +kernel


end Dlt.User
