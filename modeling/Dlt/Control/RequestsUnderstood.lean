import Dlt.Control.ProcessControl
import Dlt.Daemon.ClientMessages
import Dlt.User.SendLogRoundTrip

/-!
# Control requests are understood as sent

* `clientRequest_understood` — **the daemon reads one control request from all bytes and calls this handler**,
  if the client sends the serial header or the daemon does not look for it.
-/

namespace Dlt.Control

open Dlt.Lib Dlt.Shared List Option ControlCall
open Dlt.Daemon (DltDaemon dltDaemonContextFind DltServiceSetLogLevel serviceSetLogLevelLayout
  DltServiceSetDefaultLogLevel serviceSetDefaultLogLevelLayout dltServiceIdSetLogLevel
  dltServiceIdSetTraceStatus dltServiceIdSetDefaultLogLevel dltServiceIdSetDefaultTraceStatus
  dltServiceIdSetAllLogLevel dltServiceIdSetAllTraceStatus dltServiceIdGetLogInfo bytesToBeRemoved
  dltMsgIsControlRequest)
open Dlt.Gateway (dltServiceIdGetDefaultLogLevel dltServiceIdGetSoftwareVersion)
open Dlt.User (dltSetStorageheader dltMessageSetExtraparameters dltMessageSetExtraparameters_spec
  leBytes_dltHtobe16)

/-! ## The headers -/

/-- The extended header of a request. -/
def ctrlExtended (apid ctid : List UInt8) : List UInt8 :=
  [dltMsinControlRequest, 1] ++ (dltSetId (orDummy apid dltClientDummyAppId)).bytes ++
    (dltSetId (orDummy ctid dltClientDummyConId)).bytes

/-- The headers of a request with a payload of `n` bytes. -/
def ctrlHeader (env : CtrlEnv) (client : DltClient) (apid ctid : List UInt8) (n : ℕ) : List UInt8 :=
  [ctrlHtyp, 0] ++ beBytes 2 (22 + n) ++ ((dltSetId client.ecuid.bytes).bytes ++ beBytes 4 env.uptime.toNat ++
    ctrlExtended apid ctid)

theorem length_ctrlExtended (apid ctid : List UInt8) : (ctrlExtended apid ctid).length = 10 := by
  simp [ctrlExtended, Id4.length_eq]

section

variable (env : CtrlEnv) (client : DltClient) (apid ctid : List UInt8) (n : ℕ)

theorem length_ctrlHeader :
    (ctrlHeader env client apid ctid n).length = 22 := by
  simp [ctrlHeader, Id4.length_eq, length_beBytes, length_ctrlExtended]

theorem htypOf_ctrlHeader :
    htypOf (ctrlHeader env client apid ctid n) = ctrlHtyp := rfl

theorem field_ctrlHeader :
    field (ctrlHeader env client apid ctid n) 12 10 = ctrlExtended apid ctid := by
  rw [ctrlHeader, ← append_assoc, field, drop_left' (by
    simp only [length_append, Id4.length_eq, length_cons, length_nil, length_beBytes])]
  exact take_of_length_le (length_ctrlExtended apid ctid).le

end

section sent

variable {env : CtrlEnv} {client : DltClient} {apid ctid payload bytes : List UInt8} {msg : DltMessage}

section

variable (h : msg.headerbuffer.length = sizeofHeaderbuffer)
include h

/-- The message up to the parameters behind the standard header. -/
theorem ctrlStandard_fields :
    (ctrlStandard env client msg).headerbuffer.length = sizeofHeaderbuffer ∧
      field (ctrlStandard env client msg).headerbuffer 16 2 = [ctrlHtyp, 0] ∧
      field (ctrlStandard env client msg).headerbuffer 20 8 =
        (dltSetId client.ecuid.bytes).bytes ++ beBytes 4 env.uptime.toNat := by
  have hsize : sizeofHeaderbuffer = 42 := rfl
  have hstorage : sizeofDltStorageHeader = 16 := rfl
  have hheader : (dltSetStorageheader env.time []).length = 16 := by
    simp [dltSetStorageheader, length_leBytes, Id4.length_eq]
  -- the memory with the storage header, the header type and the counter
  obtain ⟨mem, hmem, hlen, hstandard⟩ : ∃ mem, overwrite (overwrite msg.headerbuffer 0
        (dltSetStorageheader env.time [])) sizeofDltStorageHeader [ctrlHtyp, 0] = mem ∧
      mem.length = sizeofHeaderbuffer ∧ field mem sizeofDltStorageHeader 2 = [ctrlHtyp, 0] := by
    have hfirst : (overwrite msg.headerbuffer 0
        (dltSetStorageheader env.time [])).length = sizeofHeaderbuffer := by
      rw [length_overwrite (by omega), h]
    refine ⟨_, rfl, ?_, ?_⟩
    · rw [length_overwrite (by rw [hfirst, length_cons, length_singleton]; omega), hfirst]
    · exact field_overwrite [ctrlHtyp, 0] (by omega)
  unfold ctrlStandard
  simp only [hmem]
  obtain ⟨hlen', hextra, hkeep⟩ := @dltMessageSetExtraparameters_spec
    { msg with
      storageheader := some 0, standardheader := some sizeofDltStorageHeader, headerbuffer := mem
      headerextra := { msg.headerextra with
        ecu := (dltSetId client.ecuid.bytes).bytes, tmsp := env.uptime.toNat } }
    ctrlHtyp hlen (dltSetId client.ecuid.bytes).length_eq
  refine ⟨hlen', hkeep.trans hstandard, ?_⟩
  rw [field_add _ 20 4 4]
  exact congrArg₂ _ (hextra.ecu (by decide)) (hextra.tmsp (by decide))

theorem ctrlHeaders_fields :
    (ctrlHeaders env client apid ctid msg).headerbuffer.length = sizeofHeaderbuffer ∧
      field (ctrlHeaders env client apid ctid msg).headerbuffer 16 2 = [ctrlHtyp, 0] ∧
      field (ctrlHeaders env client apid ctid msg).headerbuffer 20 18 =
        (dltSetId client.ecuid.bytes).bytes ++ beBytes 4 env.uptime.toNat ++ ctrlExtended apid ctid := by
  have hsize : sizeofHeaderbuffer = 42 := rfl
  have hextended := length_ctrlExtended apid ctid
  obtain ⟨hlen, hstandard, hextra⟩ := @ctrlStandard_fields env client msg h
  have hbuffer : (ctrlHeaders env client apid ctid msg).headerbuffer =
      overwrite (ctrlStandard env client msg).headerbuffer 28 (ctrlExtended apid ctid) := rfl
  rw [hbuffer]
  refine ⟨?_, ?_, ?_⟩
  · rw [length_overwrite (by omega), hlen]
  · rw [field_overwrite_of_le _ (by omega) (by omega), hstandard]
  · have hback := field_overwrite (ctrlExtended apid ctid)
      (show 28 ≤ (ctrlStandard env client msg).headerbuffer.length by omega)
    rw [hextended] at hback
    rw [field_add _ 20 8 10, field_overwrite_of_le _ (by omega) (by omega), hextra, hback]

theorem ctrlHeaders_header (n : ℕ) :
    field (overwrite (ctrlHeaders env client apid ctid msg).headerbuffer 18 (beBytes 2 (22 + n))) 16 22 =
      ctrlHeader env client apid ctid n := by
  have hsize : sizeofHeaderbuffer = 42 := rfl
  obtain ⟨hlen, hstandard, hbehind⟩ := @ctrlHeaders_fields env client apid ctid msg h
  have htwo := length_beBytes 2 (22 + n)
  have hlength := field_overwrite (beBytes 2 (22 + n))
    (show 18 ≤ (ctrlHeaders env client apid ctid msg).headerbuffer.length by omega)
  rw [htwo] at hlength
  rw [field_add _ 16 2 20, field_add _ 18 2 18, field_overwrite_of_le _ (by omega) (by omega), hstandard, hlength,
    field_overwrite_of_ge _ (by omega) (by omega), hbehind]
  rfl

end

theorem writeBlocks_eq {written : ℕ → Bool} {blocks : List (List UInt8)}
    (h : writeBlocks written blocks = some bytes) : bytes = blocks.flatten := by
  unfold writeBlocks at h
  split_ifs at h
  exact (Option.some.inj h).symm

/-- **The bytes of a request**: the serial header, if the client sends one, the headers and the payload. -/
theorem dltClientSendCtrlMsg_eq (hsize : payload.length < 2147483600)
    (h : dltClientSendCtrlMsg env client apid ctid payload = some bytes) :
    22 + payload.length ≤ 65535 ∧ bytes = (if client.sendSerialHeader then dltSerialHeader else []) ++
      (ctrlHeader env client apid ctid payload.length ++ payload) := by
  unfold dltClientSendCtrlMsg at h
  by_cases hsock : client.sock < 0
  · rw [if_pos hsock] at h
    cases h
  rw [if_neg hsock] at h
  cases hmalloc : env.malloc payload.length with
  | none =>
    simp only [hmalloc] at h
    cases h
  | some fresh =>
    simp only [hmalloc] at h
    have hdata : overwrite ((List.range payload.length).map fresh) 0 payload = payload := by
      rw [overwrite_zero, drop_of_length_le (by simp), append_nil]
    rw [hdata, i32_natCast (by omega)] at h
    obtain ⟨msg, hmsg, hlen, hdatabuffer, hdatasize⟩ : ∃ msg, { dltMessageInit env.memory with
          datasize := (payload.length : ℤ)
          databuffer := some payload
          databuffersize := (payload.length : ℤ) } = msg ∧
        msg.headerbuffer.length = sizeofHeaderbuffer ∧ msg.databuffer = some payload ∧
        msg.datasize = (payload.length : ℤ) := ⟨_, rfl, env.memory_length, rfl, rfl⟩
    rw [hmsg] at h
    have hheader := @ctrlHeaders_header env client apid ctid msg hlen payload.length
    have hsizes : (ctrlHeaders env client apid ctid msg).headersize = 38 ∧
        (ctrlHeaders env client apid ctid msg).datasize = (payload.length : ℤ) ∧
        (ctrlHeaders env client apid ctid msg).databuffer = some payload :=
      ⟨rfl, hdatasize, hdatabuffer⟩
    generalize ctrlHeaders env client apid ctid msg = made at h hheader hsizes
    obtain ⟨hheadersize, hmadeSize, hmadeData⟩ := hsizes
    have hlen32 : i32 ((made.headersize : ℤ) - sizeofDltStorageHeader + made.datasize) =
        ((22 + payload.length : ℕ) : ℤ) := by
      have hsum : ((38 : ℕ) : ℤ) - (16 : ℕ) + payload.length = ((22 + payload.length : ℕ) : ℤ) := by
        push_cast
        ring
      rw [hheadersize, hmadeSize]
      exact (congrArg i32 hsum).trans (i32_natCast (by omega))
    rw [hlen32] at h
    by_cases hhuge : ((22 + payload.length : ℕ) : ℤ) > 65535
    · rw [if_pos hhuge] at h
      cases h
    rw [if_neg hhuge, u32_natCast (by omega), leBytes_dltHtobe16] at h
    refine ⟨by omega, ?_⟩
    -- both ways of sending write the same blocks
    have hblocks : writeBlocks env.written (ctrlBlocks client { made with
        headerbuffer := overwrite made.headerbuffer (sizeofDltStorageHeader + 2)
          (beBytes 2 (22 + payload.length)) }) = some bytes := by
      split_ifs at h with hmode
      · exact h
      · unfold dltClientSendMessageToSocket at h
        split_ifs at h
        exact h
    rw [writeBlocks_eq hblocks, ctrlBlocks]
    simp only [hheadersize, hmadeData, hmadeSize, getD_some, Int.toNat_natCast]
    have hfield : field (overwrite made.headerbuffer (sizeofDltStorageHeader + 2)
        (beBytes 2 (22 + payload.length))) sizeofDltStorageHeader (38 - sizeofDltStorageHeader) =
          ctrlHeader env client apid ctid payload.length := hheader
    rw [hfield, take_length]
    split_ifs <;> simp

end sent

/-! ## The record -/

/-- What the daemon's record holds of a request. -/
structure CtrlRead (apid ctid payload : List UInt8) (msg : DltMessage) : Prop where
  standardheader : msg.standardheader = some 16
  htyp : msg.headerbuffer.getD 16 0 = ctrlHtyp
  extendedheader : msg.extendedheader = some 28
  extended : field msg.headerbuffer 28 10 = ctrlExtended apid ctid
  databuffer : ∃ databuffer, msg.databuffer = some databuffer ∧ databuffer.take payload.length = payload ∧
    msg.databuffersize = databuffer.length
  datasize : msg.datasize = payload.length

section record

variable {malloc : Malloc} {env : CtrlEnv} {client : DltClient} {apid ctid payload bytes : List UInt8}
  {msg : DltMessage} {resync : Bool}

theorem ctrl_matches (hsize : 22 + payload.length ≤ 65535)
    (hresync : resync = true → client.sendSerialHeader = true)
    (hbytes : bytes = (if client.sendSerialHeader then dltSerialHeader else []) ++
      (ctrlHeader env client apid ctid payload.length ++ payload)) :
    Matches resync bytes
      ⟨client.sendSerialHeader, 0, ctrlHeader env client apid ctid payload.length, payload⟩ := by
  have hlen : lenOf (ctrlHeader env client apid ctid payload.length) = 22 + payload.length := by
    have htwo : ((ctrlHeader env client apid ctid payload.length).drop 2).take 2 =
        beBytes 2 (22 + payload.length) := rfl
    rw [lenOf, htwo, ofBeBytes_beBytes_of_lt (by omega)]
  have hsplit : bytes = [] ++ ((if client.sendSerialHeader then dltSerialHeader else []) ++
      (ctrlHeader env client apid ctid payload.length ++ payload)) ++ [] := by
    rw [hbytes, nil_append, append_nil]
  refine ⟨⟨[], [], rfl, hsplit⟩, ?_, ?_, ?_, fun _ => rfl, ?_⟩
  · rw [htypOf_ctrlHeader, length_ctrlHeader]
    decide
  · rw [hlen, length_ctrlHeader]
  · intro hfound
    simp only at hfound
    rw [hfound, if_pos rfl] at hbytes
    rw [hbytes]
    exact find_start (prefix_append _ _)
  · intro hfound
    simp only at hfound
    refine ⟨?_, ?_⟩
    · cases resync with
      | false => rfl
      | true => exact absurd (hresync rfl) (by rw [hfound]; decide)
    · -- a serial header begins with another byte than a header type
      rintro ⟨rest, hrest⟩
      rw [hfound, if_neg Bool.false_ne_true, ← hrest] at hbytes
      cases congrArg head? hbytes

def ctrlFrame (env : CtrlEnv) (client : DltClient) (apid ctid payload : List UInt8) : Frame :=
  ⟨client.sendSerialHeader, 0, ctrlHeader env client apid ctid payload.length, payload⟩

/-- The extended header of a request lies behind the parameters of the standard header. -/
theorem ctrlFrame_extendedheader (env : CtrlEnv) (client : DltClient) (apid ctid payload : List UInt8) :
    (ctrlFrame env client apid ctid payload).consumed.extendedheader = some 28 := by
  have hhtyp : htypOf (ctrlFrame env client apid ctid payload).header = ctrlHtyp := rfl
  have hueh : (if dltIsHtypUeh ctrlHtyp then some (sizeofDltStorageHeader + sizeofDltStandardHeader +
      dltStandardHeaderExtraSize ctrlHtyp) else none) = some 28 := by decide
  unfold Frame.consumed
  rw [hhtyp]
  exact hueh

theorem ctrlRead_of_holds (hwf : msg.Wf) (hholds : msg.Holds (ctrlFrame env client apid ctid payload))
    (hstandard : msg.standardheader = some 16)
    (hconsumed : msg.consumed = (ctrlFrame env client apid ctid payload).consumed) (hpos : payload ≠ []) :
    CtrlRead apid ctid payload msg := by
  have hheaderLen := length_ctrlHeader env client apid ctid payload.length
  have hheadersize : msg.headersize = 38 := by
    rw [hholds.headersize_eq, ctrlFrame, hheaderLen]
    rfl
  have hheader : field msg.headerbuffer 16 22 = ctrlHeader env client apid ctid payload.length := by
    have heq : msg.header = ctrlHeader env client apid ctid payload.length := hholds.header_eq
    rw [← heq, DltMessage.header, hheadersize]
    rfl
  have hdatasize : msg.datasize = (payload.length : ℤ) := hholds.datasize_eq
  refine ⟨hstandard, ?_, ?_, ?_, ?_, hdatasize⟩
  · rw [← getD_field 0 (show 0 < 22 by decide), hheader]
    rfl
  · exact (congrArg Consumed.extendedheader hconsumed).trans (ctrlFrame_extendedheader env client apid ctid payload)
  · have hinner : field (field msg.headerbuffer 16 22) 12 10 = field msg.headerbuffer 28 10 :=
      field_field (by decide)
    rw [← hinner, hheader, field_ctrlHeader]
  · have hpayload : msg.payload = payload := hholds.payload_eq
    rw [DltMessage.payload, hdatasize, Int.toNat_natCast] at hpayload
    cases hdata : msg.databuffer with
    | none =>
      rw [hdata, getD_none, take_nil] at hpayload
      exact absurd hpayload.symm hpos
    | some databuffer =>
      rw [hdata, getD_some] at hpayload
      exact ⟨databuffer, rfl, hpayload, hwf.databuffersize_eq databuffer hdata⟩

/-- **The reader takes a request as it was sent**, and all bytes of it. -/
theorem dltMessageRead_ctrl (hm : malloc.Succeeds) (h : msg.Wf) (rest : List UInt8)
    (hresync : resync = true → client.sendSerialHeader = true) (hsize : payload.length < 2147483600)
    (hpos : payload ≠ []) (hsend : dltClientSendCtrlMsg env client apid ctid payload = some bytes) :
    (dltMessageRead malloc msg (bytes ++ rest) bytes.length resync).2 = dltMessageErrorOk ∧
      bytesToBeRemoved (dltMessageRead malloc msg (bytes ++ rest) bytes.length resync).1 = bytes.length ∧
      CtrlRead apid ctid payload (dltMessageRead malloc msg (bytes ++ rest) bytes.length resync).1 := by
  obtain ⟨hfits, hbytes⟩ := dltClientSendCtrlMsg_eq hsize hsend
  have hmatches : Matches resync bytes (ctrlFrame env client apid ctid payload) :=
    ctrl_matches hfits hresync hbytes
  have hle : bytes.length ≤ (bytes ++ rest).length := by rw [length_append]; omega
  have htake : (bytes ++ rest).take bytes.length = bytes := take_left' rfl
  rw [← htake] at hmatches
  obtain ⟨hwf, -, hframe⟩ := dltMessageRead_eq_readFrame hm h hle resync
  obtain ⟨hret, hholds⟩ := hframe _ (readFrame_ok_iff.mpr hmatches)
  obtain ⟨-, hstandard⟩ := dltMessageRead_pointers hle hret
  have hconsumed := (dltMessageRead_consumed_iff hm h hle hmatches).mpr
    (.inl (by rw [ctrlFrame, htypOf_ctrlHeader]; decide))
  refine ⟨hret, ?_, ctrlRead_of_holds hwf hholds hstandard hconsumed hpos⟩
  have hfound : (dltMessageRead malloc msg (bytes ++ rest) bytes.length resync).1.foundSerialheader =
      client.sendSerialHeader := hholds.found_eq
  have hoffset : (dltMessageRead malloc msg (bytes ++ rest) bytes.length resync).1.resyncOffset = 0 :=
    hholds.offset_eq
  have hdatasize : (dltMessageRead malloc msg (bytes ++ rest) bytes.length resync).1.datasize =
      (payload.length : ℤ) := hholds.datasize_eq
  have hheadersize : (dltMessageRead malloc msg (bytes ++ rest) bytes.length resync).1.headersize = 16 + 22 := by
    rw [hholds.headersize_eq, ← length_ctrlHeader]
    rfl
  have hlength := congrArg List.length hbytes
  rw [length_append, length_append, length_ctrlHeader] at hlength
  rw [bytesToBeRemoved, hfound, hoffset, hdatasize, hheadersize, hlength]
  simp only [sizeofDltStorageHeader]
  split_ifs
  · push_cast
    omega
  · simp only [length_nil]
    push_cast
    omega

end record

/-! ## The calls -/

section calls

variable {Buf : Type}

/-- What becomes of an injection: it is refused when injections are switched off, the context is not
registered or there is no memory, and otherwise handed to the application of the context. -/
def injection (env : InjectionEnv) (daemon : DltDaemon Buf) (apid ctid : Id4) (serviceID : UInt32)
    (buffer : List UInt8) : InjectionOutcome :=
  if env.injectionMode = false then .respond serviceID.toNat .permDenied
  else
    match (dltDaemonContextFind daemon apid ctid daemon.ecuid).bind fun p =>
        (daemon.userList[p.1]?).bind fun users => users.contexts[p.2]? with
    | none => .respond serviceID.toNat .error
    | some context =>
        if env.malloc buffer.length = none then .respond serviceID.toNat .error
        else
          .logOut3 context.userHandle
            ⟨Int32.ofInt context.logLevelPos, serviceID, UInt32.ofNat buffer.length⟩ buffer

/-- The handler that a request is meant for, with what the caller passed. -/
def ClientRequest.call (env : InjectionEnv) (daemon : DltDaemon Buf) : ClientRequest → ControlCall
  | .logLevel apid ctid level =>
      .setLogLevel (some ⟨UInt32.ofNat dltServiceIdSetLogLevel, dltSetId apid, dltSetId ctid, level, remo⟩)
  | .traceStatus apid ctid status =>
      .setTraceStatus
        (some ⟨UInt32.ofNat dltServiceIdSetTraceStatus, dltSetId apid, dltSetId ctid, status, remo⟩)
  | .defaultLogLevel level =>
      .setDefaultLogLevel (some ⟨UInt32.ofNat dltServiceIdSetDefaultLogLevel, level, remo⟩)
  | .allLogLevel level => .setAllLogLevel (some ⟨UInt32.ofNat dltServiceIdSetAllLogLevel, level, remo⟩)
  | .defaultTraceStatus status =>
      .setDefaultTraceStatus (some ⟨UInt32.ofNat dltServiceIdSetDefaultTraceStatus, status, remo⟩)
  | .allTraceStatus status =>
      .setAllTraceStatus (some ⟨UInt32.ofNat dltServiceIdSetAllTraceStatus, status, remo⟩)
  | .timingPakets status => .setTimingPackets (some ⟨UInt32.ofNat dltServiceIdSetTimingPackets, status⟩)
  | .storeConfig => .storeConfig
  | .resetToFactoryDefault => .resetToFactoryDefault
  | .getLogInfo => .getLogInfo (some ⟨UInt32.ofNat dltServiceIdGetLogInfo, 7, dltSetId [], dltSetId [], remo⟩)
  | .getDefaultLogLevel => .getDefaultLogLevel
  | .getSoftwareVersion => .getSoftwareVersion
  | .injectMsg apid ctid serviceID buffer =>
      .callswCinjection (injection env daemon (dltSetId (orDummy apid dltClientDummyAppId))
        (dltSetId (orDummy ctid dltClientDummyConId)) serviceID buffer)

/-- The service ids and the data of injections are in range. -/
def ClientRequest.Valid : ClientRequest → Prop
  | .injectMsg _ _ serviceID buffer =>
      dltServiceIdCallswCinjection ≤ serviceID.toNat ∧ 0 < buffer.length ∧ buffer.length ≤ 65535
  | _ => True

variable {apid ctid payload : List UInt8} {msg : DltMessage} {env : InjectionEnv} {daemon : DltDaemon Buf}

theorem CtrlRead.standardHtyp_eq (h : CtrlRead apid ctid payload msg) : standardHtyp msg = ctrlHtyp := by
  rw [standardHtyp, h.standardheader, getD_some, h.htyp]

/-- **A request is a control request.** -/
theorem CtrlRead.isControlRequest (h : CtrlRead apid ctid payload msg) : dltMsgIsControlRequest msg = true := by
  have hmsin : msg.headerbuffer.getD 28 0 = dltMsinControlRequest := by
    rw [← getD_field 0 (show 0 < 10 by decide), h.extended]
    rfl
  unfold dltMsgIsControlRequest
  rw [h.standardheader, h.extendedheader]
  simp only [h.htyp, hmsin]
  decide

theorem CtrlRead.readRequest_eq {α : Type} {layout : Layout α} {req : α}
    (h : CtrlRead apid ctid (layout.encode req) msg) : readRequest layout msg = some req := by
  obtain ⟨databuffer, hdata, htake, -⟩ := h.databuffer
  rw [layout.length_encode] at htake
  have hdatasize := h.datasize
  rw [layout.length_encode] at hdatasize
  rw [readRequest, if_neg (by omega), hdata, map_some, htake, layout.decode_encode]

section

variable {id : ℕ} (h : CtrlRead apid ctid payload msg) (hlen : 4 ≤ payload.length)
  (hid : payload.take 4 = leBytes 4 id)
include h hlen hid

theorem CtrlRead.service (hlt : id < 4294967296) :
    dltEndianGet32 (standardHtyp msg) ((msg.databuffer.getD []).take 4) = id := by
  obtain ⟨databuffer, hdata, htake, -⟩ := h.databuffer
  have hmsbf : dltIsHtypMsbf ctrlHtyp = false := by decide
  have hfour : databuffer.take 4 = leBytes 4 id := by
    rw [← hid, ← htake, take_take, Nat.min_eq_left hlen]
  rw [h.standardHtyp_eq, hdata, getD_some, hfour, dltEndianGet32, hmsbf, if_neg Bool.false_ne_true,
    ofLeBytes_leBytes_of_lt hlt]

theorem CtrlRead.process_service (hpos : 0 < id) (hlt : id < dltServiceIdCallswCinjection) :
    dltDaemonClientProcessControl env daemon msg = some (controlService msg id) := by
  have hmax : dltServiceIdCallswCinjection = 4095 := rfl
  have hdatasize := h.datasize
  rw [dltDaemonClientProcessControl, if_neg (by omega), h.service hlen hid (by omega), if_pos ⟨hpos, hlt⟩]

end

/-- **An injection is dispatched to the handler of injections**, which reads what was sent. -/
theorem CtrlRead.process_injection {serviceID : UInt32} {buffer : List UInt8}
    (h : CtrlRead apid ctid (leBytes 4 serviceID.toNat ++ leBytes 4 buffer.length ++ buffer) msg)
    (hid : dltServiceIdCallswCinjection ≤ serviceID.toNat) (hsize : buffer.length < 4294967296) :
    dltDaemonClientProcessControl env daemon msg =
      some (.callswCinjection (injection env daemon (dltSetId (orDummy apid dltClientDummyAppId))
        (dltSetId (orDummy ctid dltClientDummyConId)) serviceID buffer)) := by
  have hlt := serviceID.toNat_lt
  have hmin : dltDaemonInjectionMin = dltServiceIdCallswCinjection := rfl
  have hdatasize := h.datasize
  have hlength : (leBytes 4 serviceID.toNat ++ leBytes 4 buffer.length ++ buffer).length = 8 + buffer.length := by
    simp only [length_append, length_leBytes]
  rw [hlength] at hdatasize
  rw [dltDaemonClientProcessControl, if_neg (by omega),
    h.service (by omega) (by rw [append_assoc, take_left' (length_leBytes ..)]) (by omega),
    if_neg (by omega)]
  obtain ⟨databuffer, hdata, htake, hroom⟩ := h.databuffer
  rw [hlength] at htake
  have hroomLe : 8 + buffer.length ≤ databuffer.length := by
    have := congrArg List.length htake
    rw [length_take, hlength] at this
    omega
  -- the three parts of the payload
  have hparts : databuffer = leBytes 4 serviceID.toNat ++ (leBytes 4 buffer.length ++
      (buffer ++ databuffer.drop (8 + buffer.length))) := by
    conv_lhs => rw [← take_append_drop (8 + buffer.length) databuffer, htake]
    simp only [append_assoc]
  generalize databuffer.drop (8 + buffer.length) = rest at hparts
  have hmsbf : dltIsHtypMsbf ctrlHtyp = false := by decide
  have hread : ∀ (n : ℕ) (xs : List UInt8) (length : ℤ), n < 4294967296 → 4 ≤ length →
      dltMsgReadUint32 ctrlHtyp (leBytes 4 n ++ xs) length = (n, xs, length - 4) := by
    intro n xs length hn hle
    rw [dltMsgReadUint32, if_neg (by omega), take_left' (length_leBytes 4 n),
      drop_left' (length_leBytes 4 n), dltEndianGet32, hmsbf, if_neg Bool.false_ne_true,
      ofLeBytes_leBytes_of_lt hn]
  have hapid : field msg.headerbuffer 30 4 = (dltSetId (orDummy apid dltClientDummyAppId)).bytes := by
    have hinner : field (field msg.headerbuffer 28 10) 2 4 = field msg.headerbuffer 30 4 :=
      field_field (by decide)
    rw [← hinner, h.extended, ctrlExtended, field_append _ (by simp [Id4.length_eq])]
    exact take_of_length_le (Id4.length_eq _).le
  have hctid : field msg.headerbuffer 34 4 = (dltSetId (orDummy ctid dltClientDummyConId)).bytes := by
    have hinner : field (field msg.headerbuffer 28 10) 6 4 = field msg.headerbuffer 34 4 :=
      field_field (by decide)
    rw [← hinner, h.extended, ctrlExtended, field, drop_left' (by simp [Id4.length_eq])]
    exact take_of_length_le (Id4.length_eq _).le
  have hueh : dltIsHtypUeh ctrlHtyp = true := by decide
  have hcanonical : ∀ text, dltSetId (dltSetId text).bytes = dltSetId text := canonical_dltSetId
  unfold dltDaemonControlCallswCinjection
  simp only [hdata, h.standardHtyp_eq, hparts, hread _ _ _ (show serviceID.toNat < 4294967296 by omega)
    (show 4 ≤ msg.datasize by omega), hread _ _ _ hsize (show 4 ≤ msg.datasize - 4 by omega), hueh, if_true,
    h.extendedheader, getD_some, hapid, hctid, hcanonical, hmin, hid]
  unfold injection injectTo
  have hfits : ¬ (buffer.length : ℤ) > msg.databuffersize := by omega
  generalize (dltDaemonContextFind daemon _ _ daemon.ecuid).bind _ = found
  cases found <;> simp only [hfits, if_false, take_left' (rfl : buffer.length = buffer.length), UInt32.ofNat_toNat]

end calls

/-! ## Every request -/

/-- The bytes at hand are read as one control request, which is dispatched to the call. -/
structure Understood {Buf : Type} (env : InjectionEnv) (daemon : DltDaemon Buf) (read : DltMessage × ℤ)
    (bytes : List UInt8) (call : ControlCall) : Prop where
  ok : read.2 = dltMessageErrorOk
  all : bytesToBeRemoved read.1 = bytes.length
  request : dltMsgIsControlRequest read.1 = true
  dispatched : dltDaemonClientProcessControl env daemon read.1 = some call

section understood

variable {Buf : Type} {malloc : Malloc} {env : CtrlEnv} {client : DltClient} {apid ctid bytes : List UInt8}
  {msg : DltMessage} {resync : Bool} {ienv : InjectionEnv} {daemon : DltDaemon Buf}

theorem understood_of_layout (id : ℕ) {α : Type} {layout : Layout α} {req : α} {call : ControlCall}
    (hm : malloc.Succeeds) (h : msg.Wf) (rest : List UInt8)
    (hresync : resync = true → client.sendSerialHeader = true)
    (hsend : dltClientSendCtrlMsg env client apid ctid (layout.encode req) = some bytes)
    (hsize : 4 ≤ layout.size ∧ layout.size ≤ 17) (hid : (layout.encode req).take 4 = leBytes 4 id)
    (hrange : 0 < id ∧ id < dltServiceIdCallswCinjection)
    (hcall : ∀ msg, readRequest layout msg = some req → controlService msg id = call) :
    Understood ienv daemon (dltMessageRead malloc msg (bytes ++ rest) bytes.length resync) bytes call := by
  have hlen := layout.length_encode req
  obtain ⟨hret, hall, hread⟩ := dltMessageRead_ctrl hm h rest hresync (by omega)
    (layout.encode_ne_nil req (by omega)) hsend
  refine ⟨hret, hall, hread.isControlRequest, ?_⟩
  rw [hread.process_service (by omega) hid hrange.1 hrange.2, hcall _ hread.readRequest_eq]

theorem understood_injection {serviceID : UInt32} {buffer : List UInt8} (hm : malloc.Succeeds) (h : msg.Wf)
    (rest : List UInt8) (hresync : resync = true → client.sendSerialHeader = true)
    (hvalid : (ClientRequest.injectMsg apid ctid serviceID buffer).Valid)
    (hsend : dltClientSendInjectMsg env client apid ctid serviceID buffer = some bytes) :
    Understood ienv daemon (dltMessageRead malloc msg (bytes ++ rest) bytes.length resync) bytes
      ((ClientRequest.injectMsg apid ctid serviceID buffer).call ienv daemon) := by
  obtain ⟨hid, hpos, hle⟩ := hvalid
  have hlength : (leBytes 4 serviceID.toNat ++ leBytes 4 buffer.length ++ buffer).length = 8 + buffer.length := by
    simp only [length_append, length_leBytes]
  unfold dltClientSendInjectMsg at hsend
  split_ifs at hsend
  have hwhole : u32 (4 + 4 + buffer.length) = 8 + buffer.length := by
    rw [u32_of_nonneg (by omega) (by omega)]
    omega
  simp only [u32_natCast (show buffer.length < 4294967296 by omega), hwhole,
    take_of_length_le hlength.le] at hsend
  have hne : leBytes 4 serviceID.toNat ++ leBytes 4 buffer.length ++ buffer ≠ [] := by
    intro hnil
    rw [hnil, length_nil] at hlength
    omega
  obtain ⟨hret, hall, hread⟩ := dltMessageRead_ctrl hm h rest hresync (by omega) hne hsend
  exact ⟨hret, hall, hread.isControlRequest, hread.process_injection hid (by omega)⟩

/-- **Control requests are understood as sent**, by every daemon that does not look for a serial header that
the client does not send: the daemon's reader takes all bytes as one control request, and the handler of the
service gets what the caller passed. -/
theorem clientRequest_understood {req : ClientRequest} (hm : malloc.Succeeds) (h : msg.Wf) (rest : List UInt8)
    (hresync : resync = true → client.sendSerialHeader = true) (hvalid : req.Valid)
    (hsend : req.send env client = some bytes) :
    Understood ienv daemon (dltMessageRead malloc msg (bytes ++ rest) bytes.length resync) bytes
      (req.call ienv daemon) := by
  have hrequest : ∀ {α : Type} {layout : Layout α} {r : α},
      sendRequest env client layout r = some bytes →
        dltClientSendCtrlMsg env client (ascii "APP") (ascii "CON") (layout.encode r) = some bytes := by
    intro α layout r hsent
    unfold sendRequest at hsent
    split_ifs at hsent
    exact hsent
  have hquery : ∀ {α : Type} {layout : Layout α} {r : α},
      sendQuery env client layout r = some bytes →
        dltClientSendCtrlMsg env client [] [] (layout.encode r) = some bytes := by
    intro α layout r hsent
    unfold sendQuery at hsent
    split_ifs at hsent
    exact hsent
  cases req with
  | logLevel apid ctid level =>
    exact understood_of_layout dltServiceIdSetLogLevel hm h rest hresync (hrequest hsend) (by decide) rfl
      (by decide) fun msg hread => congrArg setLogLevel hread
  | traceStatus apid ctid status =>
    exact understood_of_layout dltServiceIdSetTraceStatus hm h rest hresync (hrequest hsend) (by decide) rfl
      (by decide) fun msg hread => congrArg setTraceStatus hread
  | defaultLogLevel level =>
    exact understood_of_layout dltServiceIdSetDefaultLogLevel hm h rest hresync (hrequest hsend) (by decide) rfl
      (by decide) fun msg hread => congrArg setDefaultLogLevel hread
  | allLogLevel level =>
    exact understood_of_layout dltServiceIdSetAllLogLevel hm h rest hresync (hrequest hsend) (by decide) rfl
      (by decide) fun msg hread => congrArg setAllLogLevel hread
  | defaultTraceStatus status =>
    exact understood_of_layout dltServiceIdSetDefaultTraceStatus hm h rest hresync (hrequest hsend) (by decide) rfl
      (by decide) fun msg hread => congrArg setDefaultTraceStatus hread
  | allTraceStatus status =>
    exact understood_of_layout dltServiceIdSetAllTraceStatus hm h rest hresync (hrequest hsend) (by decide) rfl
      (by decide) fun msg hread => congrArg setAllTraceStatus hread
  | timingPakets status =>
    exact understood_of_layout dltServiceIdSetTimingPackets hm h rest hresync (hrequest hsend) (by decide) rfl
      (by decide) fun msg hread => congrArg setTimingPackets hread
  | storeConfig =>
    exact understood_of_layout dltServiceIdStoreConfig hm h rest hresync hsend (by decide) rfl
      (by decide) fun msg hread => rfl
  | resetToFactoryDefault =>
    exact understood_of_layout dltServiceIdResetToFactoryDefault hm h rest hresync hsend (by decide) rfl
      (by decide) fun msg hread => rfl
  | getLogInfo =>
    exact understood_of_layout dltServiceIdGetLogInfo hm h rest hresync (hquery hsend) (by decide) rfl
      (by decide) fun msg hread => congrArg ControlCall.getLogInfo hread
  | getDefaultLogLevel =>
    exact understood_of_layout dltServiceIdGetDefaultLogLevel hm h rest hresync (hquery hsend) (by decide) rfl
      (by decide) fun msg hread => rfl
  | getSoftwareVersion =>
    exact understood_of_layout dltServiceIdGetSoftwareVersion hm h rest hresync (hquery hsend) (by decide) rfl
      (by decide) fun msg hread => rfl
  | injectMsg apid ctid serviceID buffer => exact understood_injection hm h rest hresync hvalid hsend

end understood

/-! ## Samples -/

theorem sampleMessage_length : sampleMessage.headerbuffer.length = sizeofHeaderbuffer := rfl

/-- A system in which sending succeeds. -/
def sampleEnv : CtrlEnv where
  memory := sampleMessage
  memory_length := sampleMessage_length
  request := true
  malloc := zeroMalloc
  uptime := 100
  time := (0, 0)
  written := fun _ => true

/-- A client that sends the serial header or not. -/
def sampleClient (sendSerialHeader : Bool) : DltClient where
  sock := 3
  mode := .tcp
  sendSerialHeader
  ecuid := dltSetId (ascii "ECU1")

/-- A daemon with the context `TEST` of the application `LOG`. -/
def sampleDaemon : DltDaemon Unit where
  userList := [{
    applications := [{
      apid := dltSetId (ascii "LOG"), pid := 17, userHandle := 5, ownsUserHandle := false
      applicationDescription := none, numContexts := 1 }]
    numApplications := 1
    applicationsRoom := 500
    contexts := [{
      apid := dltSetId (ascii "LOG"), ctid := dltSetId (ascii "TEST"), logLevel := 4, traceStatus := 0
      logLevelPos := 2, userHandle := 5, contextDescription := none, storageLogLevel := -1
      predefined := false }]
    numContexts := 1
    contextsRoom := 1000
    ecu := dltSetId (ascii "ECU1") }]
  defaultLogLevel := 4
  defaultTraceStatus := 0
  forceLlTs := false
  overflowCounter := 0
  runtimeContextCfgLoaded := false
  ecuid := dltSetId (ascii "ECU1")
  sendserialheader := false
  clientRingbuffer := ()
  mode := .external
  state := .sendDirect

/-- An injection of two bytes. -/
def sampleInjection : ClientRequest := .injectMsg (ascii "LOG") (ascii "TESTS") 4096 [1, 2]

/-- The bytes of a request of the sample client. -/
def sampleBytes (sendSerialHeader : Bool) (req : ClientRequest) : List UInt8 :=
  (req.send sampleEnv (sampleClient sendSerialHeader)).getD []

/-- An injection with the serial header, for a daemon that looks for it. -/
theorem clientRequest_understood_sample :
    Understood ⟨true, zeroMalloc⟩ sampleDaemon
      (dltMessageRead zeroMalloc sampleMessage (sampleBytes true sampleInjection ++ [0x35])
        (sampleBytes true sampleInjection).length true)
      (sampleBytes true sampleInjection) (sampleInjection.call ⟨true, zeroMalloc⟩ sampleDaemon) :=
  @clientRequest_understood Unit zeroMalloc sampleEnv (sampleClient true) (sampleBytes true sampleInjection)
    sampleMessage true ⟨true, zeroMalloc⟩ sampleDaemon sampleInjection zeroMalloc_succeeds sampleMessage_wf [0x35]
    (fun _ => rfl) ⟨by decide, by decide, by decide⟩ rfl

example : sampleInjection.call ⟨true, zeroMalloc⟩ sampleDaemon =
    .callswCinjection (.logOut3 5 ⟨2, 4096, 2⟩ [1, 2]) := by decide +kernel

/-- A daemon that looks for the serial header does not find a request that was sent without, and a daemon that
denies injections does not read the data of one. -/
theorem clientRequest_not_understood :
    (ClientRequest.storeConfig.send sampleEnv (sampleClient false) = some (sampleBytes false .storeConfig) ∧
      (dltMessageRead zeroMalloc sampleMessage (sampleBytes false .storeConfig)
        (sampleBytes false .storeConfig).length true).2 ≠ dltMessageErrorOk) ∧
    (sampleInjection.Valid ∧
      sampleInjection.send sampleEnv (sampleClient false) = some (sampleBytes false sampleInjection) ∧
      dltDaemonClientProcessControl ⟨false, zeroMalloc⟩ sampleDaemon
          (dltMessageRead zeroMalloc sampleMessage (sampleBytes false sampleInjection)
            (sampleBytes false sampleInjection).length false).1 =
        some (.callswCinjection (.respond 4096 .permDenied))) := by
  refine ⟨⟨rfl, ?_⟩, ⟨by decide, by decide, by decide⟩, rfl, by decide +kernel⟩
  obtain ⟨-, herror, -⟩ := dltMessageRead_eq_readFrame zeroMalloc_succeeds sampleMessage_wf
    (le_refl (sampleBytes false .storeConfig).length) true
  rw [herror dltMessageErrorSize (by decide +kernel)]
  decide

end Dlt.Control
