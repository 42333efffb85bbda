import Dlt.User.NetworkTraceReassembly

/-!
# Network traces of every size

* `putArgs` — the arguments are written one after the other; `putArgs_fits` and `putArgs_full` say when there is room.
* `traceNetwork_carries_iff` — **a trace is never refused for its size**, unless its header and its payload fit without
  the sizes and the type information that are written with them, and not with these, or the message is too long to be
  sent.
-/

namespace Dlt.User

open Dlt.Lib Dlt.Shared List Option

/-! ## The functions -/

/-- `DLT_TRACE_NW_TRUNCATED`. Source: `dlt_common.h` -/
def dltTraceNwTruncated : List UInt8 := ascii "NWTR"

/-- The room for the payload behind the headers: a `uint16_t`. Source: `dlt_user.c`,
`dlt_user_trace_network_truncated` -/
def truncatedPayloadLen (env : WriteEnv) (log : LogData) : ℕ :=
  (((env.logBufLen.toNat : ℤ) - log.buffer.length - 2 - 4) % 65536).toNat

/-- The header is the empty list for a null pointer, and so is the payload, whose length then is zero.
Source: `dlt_user_trace_network_truncated` -/
def dltUserTraceNetworkTruncated (env : TraceEnv) (nwTraceType : ℤ) (header payload : List UInt8)
    (allowTruncate : Bool) : TraceCall :=
  sendTraceMessage env nwTraceType fun log =>
    if allowTruncate ∧ header.length + payload.length + 2 > env.logBufLen.toNat then do
      let log ← written (dltUserLogWriteString env.write log dltTraceNwTruncated)
      let log ← written (dltUserLogWriteRaw env.write log header)
      let log ← written (dltUserLogWriteUint32 env.write log payload.length)
      written (dltUserLogWriteRaw env.write log (payload.take (truncatedPayloadLen env.write log)))
    else do
      let log ← written (dltUserLogWriteRaw env.write log header)
      written (dltUserLogWriteRaw env.write log payload)

/-- Source: `dlt_user_trace_network` -/
def dltUserTraceNetwork (env : TraceEnv) (nwTraceType : ℤ) (header payload : List UInt8) : TraceCall :=
  dltUserTraceNetworkTruncated env nwTraceType header payload true

/-- What a call of the segmented function meets. -/
structure SegmentedEnv where
  trace : TraceEnv
  /-- `g_dlt_is_child`. -/
  isChild : Bool
  /-- Memory for the copy of the trace is there. -/
  malloc : Bool
  /-- The segment id: the microseconds of the clock. -/
  id : UInt32
  /-- The message queue is open, or it can be opened. -/
  queue : Bool
  /-- `mq_send` succeeds. -/
  mqSend : Bool

/-- A call of the segmented function: its return value and its message, and what was put in the queue. -/
structure SegmentedCall where
  /-- The return value and the message. -/
  call : TraceCall
  /-- What the segment thread will send. -/
  queued : Option SegmentedData

/-- Source: `dlt_user_trace_network_segmented` -/
def dltUserTraceNetworkSegmented (env : SegmentedEnv) (nwTraceType : ℤ) (header payload : List UInt8) :
    SegmentedCall :=
  if env.isChild then ⟨⟨dltReturnError, none⟩, none⟩
  else if header.length + payload.length + 2 < env.trace.logBufLen.toNat then
    ⟨dltUserTraceNetwork env.trace nwTraceType header payload, none⟩
  else if ¬ env.malloc then ⟨⟨dltReturnError, none⟩, none⟩
  else
    let start := dltUserTraceNetworkSegmentedStart env.trace env.id nwTraceType header payload.length
    if start.ret = dltReturnBufferFull ∨ start.ret = dltReturnError then ⟨⟨dltReturnError, start.message⟩, none⟩
    else if ¬ env.queue then ⟨⟨dltReturnError, start.message⟩, none⟩
    else if ¬ env.mqSend then ⟨⟨dltReturnError, start.message⟩, none⟩
    else ⟨⟨dltReturnOk, start.message⟩, some ⟨env.id, nwTraceType, payload⟩⟩

/-! ## Room for the arguments -/

/-- An argument is written where there is room for it. -/
def putArg (env : WriteEnv) (arg : TraceArg) (log : LogData) : Option LogData :=
  if log.buffer.length + (arg.encode env.verbose).length ≤ env.logBufLen.toNat then
    some (log.append (arg.encode env.verbose))
  else none

def putArgs (env : WriteEnv) : List TraceArg → LogData → Option LogData
  | [], log => some log
  | arg :: args, log => (putArg env arg log).bind (putArgs env args)

section put

variable {env : WriteEnv} {log : LogData}

def typeInfoSize (env : WriteEnv) : ℕ := if env.verbose then 4 else 0

/-- The size of an argument is that of its type information and of its body. -/
theorem length_encode (arg : TraceArg) :
    (arg.encode env.verbose).length = typeInfoSize env + arg.body.length := by
  unfold TraceArg.encode typeInfoSize
  rw [length_append]
  split_ifs
  · rw [length_leBytes]
  · rfl

/-- A writing function that looks twice whether the argument fits. -/
theorem written_twice {full full' : Prop} [Decidable full] [Decidable full'] (log' : LogData) :
    written (if full then (log, dltReturnUserBufferFull)
      else if full' then (log, dltReturnUserBufferFull) else (log', dltReturnOk)) =
      if full ∨ full' then none else some log' := by
  have hok : ¬ dltReturnOk < 0 := by decide
  by_cases hfull : full
  · rw [if_pos hfull, if_pos (Or.inl hfull)]
    exact if_pos dltReturnUserBufferFull_neg
  · rw [if_neg hfull]
    by_cases hfull' : full'
    · rw [if_pos hfull', if_pos (Or.inr hfull')]
      exact if_pos dltReturnUserBufferFull_neg
    · rw [if_neg hfull', if_neg (not_or.mpr ⟨hfull, hfull'⟩)]
      exact if_neg hok

theorem written_cut {full : Prop} [Decidable full] (cut log' : LogData) :
    written (if full then (cut, dltReturnUserBufferFull) else (log', dltReturnOk)) =
      if full then none else some log' := by
  by_cases hfull : full
  · rw [if_pos hfull, if_pos hfull]
    exact if_pos dltReturnUserBufferFull_neg
  · rw [if_neg hfull, if_neg hfull]
    exact if_neg (show ¬ dltReturnOk < 0 by decide)

/-- The argument fits when it does without and with its type information. -/
theorem room_iff (size : ℕ) :
    (log.buffer.length + size > env.logBufLen.toNat ∨
        env.verbose = true ∧ log.buffer.length + (size + 4) > env.logBufLen.toNat) ↔
      ¬ log.buffer.length + (typeInfoSize env + size) ≤ env.logBufLen.toNat := by
  unfold typeInfoSize
  by_cases hverbose : env.verbose = true
  · rw [if_pos hverbose]
    constructor
    · rintro (hdata | ⟨-, hinfo⟩) <;> omega
    · intro hroom
      exact .inr ⟨hverbose, by omega⟩
  · rw [if_neg hverbose]
    constructor
    · rintro (hdata | ⟨hv, -⟩)
      · omega
      · exact absurd hv hverbose
    · intro hroom
      exact .inl (by omega)

section

variable (hinit : env.initialised = true)
include hinit

theorem written_generic (data : List UInt8) (typeInfo : ℕ) :
    written (dltUserLogWriteGenericAttr env log data typeInfo) =
      if log.buffer.length + (typeInfoSize env + data.length) ≤ env.logBufLen.toNat then
        some (log.append (typeInfoBytes env typeInfo ++ data))
      else none := by
  unfold dltUserLogWriteGenericAttr
  rw [if_neg (not_not_intro hinit), written_twice]
  simp only [room_iff, ite_not]

theorem written_uint32_put (n : ℕ) :
    written (dltUserLogWriteUint32 env log n) = putArg env (.uint32 n) log := by
  unfold dltUserLogWriteUint32 putArg
  rw [written_generic hinit, length_encode]
  rfl

theorem written_uint16_put (n : ℕ) :
    written (dltUserLogWriteUint16 env log n) = putArg env (.uint16 n) log := by
  unfold dltUserLogWriteUint16 putArg
  rw [written_generic hinit, length_encode]
  rfl

theorem written_raw_put (data : List UInt8) :
    written (dltUserLogWriteRaw env log data) = putArg env (.raw data) log := by
  have hbytes : (TraceArg.raw data).encode env.verbose =
      typeInfoBytes env dltTypeInfoRawd ++ leBytes 2 data.length ++ data := (append_assoc ..).symm
  have hbody : (TraceArg.raw data).body.length = 2 + data.length := by
    unfold TraceArg.body
    rw [length_append, length_leBytes]
  unfold putArg
  rw [length_encode, hbody, hbytes, Nat.add_comm 2]
  unfold dltUserLogWriteRaw dltUserLogWriteRawInternal
  dsimp only
  rw [if_neg (not_not_intro hinit), written_twice]
  simp only [room_iff, ite_not]
  rfl

theorem written_string_put {text : List UInt8} (h : text.length < 65535) :
    written (dltUserLogWriteString env log text) = putArg env (.text text) log := by
  have hbytes : (TraceArg.text text).encode env.verbose =
      typeInfoBytes env dltTypeInfoStrg ++ leBytes 2 (text.length + 1) ++ (text ++ [0]) :=
    (append_assoc ..).symm
  have hbody : (TraceArg.text text).body.length = 2 + (text.length + 1) := by
    unfold TraceArg.body
    rw [length_append, length_leBytes, length_append, length_singleton]
  have hroom : log.buffer.length + (text.length + 1) + 2 + typeInfoSize env > env.logBufLen.toNat ↔
      ¬ log.buffer.length + (typeInfoSize env + (2 + (text.length + 1))) ≤ env.logBufLen.toNat := by omega
  unfold putArg
  rw [length_encode, hbody, hbytes]
  obtain ⟨cut, hwrite⟩ := dltUserLogWriteString_eq env log h hinit
  rw [hwrite, written_cut]
  exact (if_congr hroom rfl rfl).trans (ite_not ..)

end

/-- **Arguments fit** when there is room for all of them. -/
theorem putArgs_fits (args : List TraceArg)
    (h : log.buffer.length + (args.flatMap (TraceArg.encode env.verbose)).length ≤ env.logBufLen.toNat) :
    ∃ log', putArgs env args log = some log' ∧
      log'.buffer = log.buffer ++ args.flatMap (TraceArg.encode env.verbose) := by
  induction args generalizing log with
  | nil => exact ⟨log, rfl, (append_nil _).symm⟩
  | cons arg args ih =>
    rw [flatMap_cons, length_append] at h
    have hput : putArg env arg log = some (log.append (arg.encode env.verbose)) := if_pos (by omega)
    have hbuffer : (log.append (arg.encode env.verbose)).buffer = log.buffer ++ arg.encode env.verbose := rfl
    obtain ⟨log', hput', hbuffer'⟩ := @ih (log.append (arg.encode env.verbose))
      (by rw [hbuffer, length_append]; omega)
    refine ⟨log', ?_, ?_⟩
    · rw [putArgs, hput, bind_some, hput']
    · rw [hbuffer', hbuffer, flatMap_cons, append_assoc]

/-- **Arguments do not fit** when there is not. -/
theorem putArgs_full {args : List TraceArg} (hne : args ≠ [])
    (h : env.logBufLen.toNat < log.buffer.length + (args.flatMap (TraceArg.encode env.verbose)).length) :
    putArgs env args log = none := by
  induction args generalizing log with
  | nil => exact absurd rfl hne
  | cons arg args ih =>
    rw [flatMap_cons, length_append] at h
    rw [putArgs]
    by_cases hfits : log.buffer.length + (arg.encode env.verbose).length ≤ env.logBufLen.toNat
    · have hput : putArg env arg log = some (log.append (arg.encode env.verbose)) := if_pos hfits
      have hbuffer : (log.append (arg.encode env.verbose)).buffer = log.buffer ++ arg.encode env.verbose := rfl
      rw [hput, bind_some]
      apply ih
      · rintro rfl
        rw [flatMap_nil, length_nil] at h
        omega
      · rw [hbuffer, length_append]
        omega
    · have hput : putArg env arg log = none := if_neg hfits
      rw [hput, bind_none]

end put

/-! ## Calls that fail for their size only -/

/-- The call is not refused for another reason than its size: the trace status is on, the type is valid, nothing that
the call needs is missing, and a message that cannot be sent is stored. -/
structure NothingElseFails (env : TraceEnv) (nwTraceType : ℤ) : Prop where
  initialised : env.user.initialised = true
  table : env.table = true
  contextID : env.handle.contextID.isEmpty = false
  traceOn : env.traceOn = true
  logInit : env.logInit = true
  calloc : env.calloc = true
  print : env.send.print ≠ dltReturnError
  errorHandling : env.send.errorHandling = dltReturnOk
  type_ge : dltNwTraceIpc ≤ nwTraceType
  type_lt : nwTraceType < dltNwTraceMax

/-- The same for the segmented function. -/
structure NothingElseFailsSegmented (env : SegmentedEnv) (nwTraceType : ℤ) : Prop where
  trace : NothingElseFails env.trace nwTraceType
  isChild : env.isChild = false
  malloc : env.malloc = true
  queue : env.queue = true
  mqSend : env.mqSend = true

/-- A message with the header and the whole payload was sent, or one that is marked as truncated, with a beginning of
the payload that is not the whole. -/
def TraceCall.Carries (call : TraceCall) (verbose : Bool) (header payload : List UInt8) : Prop :=
  ∃ log, call.Sent log ∧ (log.HoldsArgs verbose [.raw header, .raw payload] ∨
    ∃ n < payload.length, log.HoldsArgs verbose
      [.text dltTraceNwTruncated, .raw header, .uint32 payload.length, .raw (payload.take n)])

/-- The arguments of the message that starts a segmented trace. -/
def startArgs (id : UInt32) (header : List UInt8) (payloadLen : ℕ) : List TraceArg :=
  [.text dltTraceNwStart, .uint32 id.toNat, .raw header, .uint32 payloadLen, .uint16 (segmentCount payloadLen),
    .uint16 dltMaxTraceSegmentSize]

/-- A message with the trace was sent, or the start of a segmented trace, and the segment thread has the payload. -/
def SegmentedCall.Carries (result : SegmentedCall) (env : SegmentedEnv) (nwTraceType : ℤ)
    (header payload : List UInt8) : Prop :=
  result.call.Carries env.trace.write.verbose header payload ∨
    ((∃ log, result.call.Sent log ∧
        log.HoldsArgs env.trace.write.verbose (startArgs env.id header payload.length)) ∧
      result.queued = some ⟨env.id, nwTraceType, payload⟩)

/-! ## Sending -/

/-- The size of the headers of a message, without the storage header. -/
def headersSize (user : DltUser) : ℕ :=
  4 + (if user.withEcuId then 4 else 0) + (if user.withSessionId then 4 else 0) +
    (if user.withTimestamp then 4 else 0) +
    if user.verboseMode = 1 ∨ user.useExtendedHeaderForNonVerbose then 10 else 0

/-- A message of a size fits the length field, which is one of 16 bits. -/
def FitsMessage (user : DltUser) (size : ℕ) : Prop := headersSize user + size ≤ 65535

instance (user : DltUser) (size : ℕ) : Decidable (FitsMessage user size) := Nat.decLe _ _

/-- The return value of a call that fails for its size only. -/
def sizeRet (user : DltUser) (size : ℕ) : ℤ := if FitsMessage user size then dltReturnOk else dltReturnError

theorem sizeRet_ok_iff (user : DltUser) (size : ℕ) : sizeRet user size = dltReturnOk ↔ FitsMessage user size := by
  unfold sizeRet
  split_ifs with hfits
  · exact iff_of_true rfl hfits
  · exact iff_of_false (by decide) hfits

section sending

variable {env : SendEnv} {user : DltUser} {log : DltContextData} {handle : DltContext}

theorem headerLength_eq (hverbose : log.verboseMode = false) :
    headerLength (dltUserLogHtyp user log) = headersSize user := by
  have hmode : isVerboseMode user.verboseMode log = (user.verboseMode == 1) := by
    rw [isVerboseMode, hverbose, Bool.or_false]
  unfold headerLength headersSize dltUserLogHtyp
  rw [hmode]
  cases user.withEcuId <;> cases user.withSessionId <;> cases user.withTimestamp <;>
    cases user.useExtendedHeaderForNonVerbose <;> by_cases hone : user.verboseMode = 1 <;> simp [hone] <;> decide

theorem handOn_ret (herror : env.errorHandling = dltReturnOk) (counted : Option DltContext) (msg : DltMessage) :
    (dltUserLogHandOn env user log counted msg).ret = dltReturnOk := by
  unfold dltUserLogHandOn
  by_cases hdaemon : user.dltIsDaemon = true
  · simp only [if_pos hdaemon, herror, ite_self, if_true]
  · simp only [if_neg hdaemon]

/-- **A network trace is sent exactly when it fits the length field**, when nothing else fails. -/
theorem sendLog_ret (hinit : user.initialised = true) (hhandle : log.handle = some handle)
    (hcontext : handle.contextID.isEmpty = false) (hverbose : log.verboseMode = false)
    (hprint : env.print ≠ dltReturnError) (herror : env.errorHandling = dltReturnOk) :
    (dltUserLogSendLog env user log dltTypeNwTrace).ret = sizeRet user log.buffer.length := by
  have hvalid : ¬ (handle.contextID.isEmpty = true ∨ dltTypeNwTrace < dltTypeLog ∨
      dltTypeNwTrace > dltTypeControl) := by
    rw [hcontext]
    decide
  have hheaders : (dltUserLogHeaders env user handle log dltTypeNwTrace).isSome = true := by
    unfold dltUserLogHeaders
    dsimp only
    split_ifs
    · rfl
    · rfl
  obtain ⟨msg, hmsg⟩ := Option.isSome_iff_exists.mp hheaders
  have hlen : (msg.headersize : ℤ) - sizeofDltStorageHeader + log.buffer.length =
      ((headersSize user + log.buffer.length : ℕ) : ℤ) := by
    rw [(dltUserLogHeaders_spec hmsg).headersize_eq, headerLength_eq hverbose]
    push_cast
    omega
  have hbound : headersSize user + log.buffer.length < 2147483648 := by
    have hle := headerLength_le (dltUserLogHtyp user log)
    have hsize := log.size_le
    rw [headerLength_eq hverbose] at hle
    omega
  have hnoprint : ∀ prints : Prop, ¬ (prints ∧ env.print = dltReturnError) := fun _ hprints => hprint hprints.2
  rw [dltUserLogSendLog, dltUserLogFrame]
  simp only [if_neg (not_not_intro hinit), hhandle, if_neg hvalid, hmsg, hlen, i32_natCast hbound]
  by_cases hfits : FitsMessage user log.buffer.length
  · have hle : ¬ ((headersSize user + log.buffer.length : ℕ) : ℤ) > 65535 := by
      have hsmall : headersSize user + log.buffer.length ≤ 65535 := hfits
      omega
    rw [if_neg hle, if_neg (hnoprint _), sizeRet, if_pos hfits]
    exact handOn_ret herror _ _
  · have hgt : ((headersSize user + log.buffer.length : ℕ) : ℤ) > 65535 := by
      have hlarge : ¬ headersSize user + log.buffer.length ≤ 65535 := hfits
      omega
    rw [if_pos hgt, sizeRet, if_neg hfits]

end sending

section size

variable {env : TraceEnv} {nwTraceType : ℤ} {header payload : List UInt8}

theorem length_raw (env : WriteEnv) (data : List UInt8) :
    ((TraceArg.raw data).encode env.verbose).length = typeInfoSize env + 2 + data.length := by
  rw [length_encode, TraceArg.body, length_append, length_leBytes, Nat.add_assoc]

theorem length_uint32 (env : WriteEnv) (n : ℕ) :
    ((TraceArg.uint32 n).encode env.verbose).length = typeInfoSize env + 4 := by
  rw [length_encode, TraceArg.body, length_leBytes]

theorem length_uint16 (env : WriteEnv) (n : ℕ) :
    ((TraceArg.uint16 n).encode env.verbose).length = typeInfoSize env + 2 := by
  rw [length_encode, TraceArg.body, length_leBytes]

theorem length_mark (env : WriteEnv) {text : List UInt8} (h : text.length = 4) :
    ((TraceArg.text text).encode env.verbose).length = typeInfoSize env + 7 := by
  rw [length_encode, TraceArg.body, length_append, length_leBytes, length_append, length_singleton, h]

/-- A message that holds what it ought to is sent when its size fits. -/
theorem carries_iff_fits {call : TraceCall} {verbose : Bool} {user : DltUser} {size : ℕ} {log : LogData}
    (hcall : call = ⟨sizeRet user size, some log⟩)
    (hholds : log.HoldsArgs verbose [.raw header, .raw payload] ∨ ∃ n < payload.length, log.HoldsArgs verbose
      [.text dltTraceNwTruncated, .raw header, .uint32 payload.length, .raw (payload.take n)]) :
    call.Carries verbose header payload ↔ FitsMessage user size := by
  rw [hcall]
  constructor
  · rintro ⟨log', ⟨hret, -⟩, -⟩
    exact (sizeRet_ok_iff user size).mp hret
  · intro hfits
    exact ⟨log, ⟨(sizeRet_ok_iff user size).mpr hfits, rfl⟩, hholds⟩

section

variable (h : NothingElseFails env nwTraceType)
include h

/-- A call fails when its arguments do, or when the message is too long to be sent. -/
theorem sendTraceMessage_eq {args : LogData → Option LogData} :
    (args { buffer := [], argsNum := 0 } = none →
        sendTraceMessage env nwTraceType args = ⟨dltReturnError, none⟩) ∧
      ∀ log, args { buffer := [], argsNum := 0 } = some log → log.buffer.length ≤ env.logBufLen.toNat →
        sendTraceMessage env nwTraceType args = ⟨sizeRet env.user log.buffer.length, some log⟩ := by
  have htype : ¬ (nwTraceType < dltNwTraceIpc ∨ nwTraceType ≥ dltNwTraceMax) :=
    not_or.mpr ⟨not_lt.mpr h.type_ge, not_le.mpr h.type_lt⟩
  unfold sendTraceMessage
  rw [if_neg htype, if_neg (not_not_intro h.table), if_pos h.traceOn, if_neg (not_not_intro h.logInit),
    if_neg (not_not_intro h.calloc)]
  refine ⟨fun hargs => by rw [hargs], fun log hargs hsize => ?_⟩
  have hall : (traceData env nwTraceType log).buffer = log.buffer :=
    take_of_length_le (Nat.le_trans hsize (Nat.le_of_lt_succ env.logBufLen.toNat_lt))
  have hret := @sendLog_ret env.send env.user (traceData env nwTraceType log) env.handle
      h.initialised rfl h.contextID rfl
    h.print h.errorHandling
  rw [hargs]
  dsimp only
  rw [hret, hall]

theorem sendTraceMessage_putArgs_fits (args : List TraceArg)
    (hfits : (args.flatMap (TraceArg.encode env.write.verbose)).length ≤ env.logBufLen.toNat) :
    ∃ log, sendTraceMessage env nwTraceType (putArgs env.write args) =
        ⟨sizeRet env.user (args.flatMap (TraceArg.encode env.write.verbose)).length, some log⟩ ∧
      log.HoldsArgs env.write.verbose args := by
  obtain ⟨log, hput, hbuffer⟩ := @putArgs_fits env.write { buffer := [], argsNum := 0 } args
    (by rw [length_nil, Nat.zero_add]; exact hfits)
  rw [nil_append] at hbuffer
  refine ⟨log, ?_, hbuffer⟩
  rw [← hbuffer]
  exact (sendTraceMessage_eq h).2 log hput (by rw [hbuffer]; exact hfits)

theorem sendTraceMessage_putArgs_full {args : List TraceArg} (hne : args ≠ [])
    (hfull : env.logBufLen.toNat < (args.flatMap (TraceArg.encode env.write.verbose)).length) :
    sendTraceMessage env nwTraceType (putArgs env.write args) = ⟨dltReturnError, none⟩ :=
  (sendTraceMessage_eq h).1 (putArgs_full hne (by rw [length_nil, Nat.zero_add]; exact hfull))

end

theorem traceNetwork_short (hinit : env.write.initialised = true)
    (hshort : header.length + payload.length + 2 ≤ env.logBufLen.toNat) :
    dltUserTraceNetwork env nwTraceType header payload =
      sendTraceMessage env nwTraceType (putArgs env.write [.raw header, .raw payload]) := by
  unfold dltUserTraceNetwork dltUserTraceNetworkTruncated
  congr 1
  funext log
  rw [if_neg (fun h => absurd h.2 (by omega))]
  simp only [written_raw_put hinit, putArgs, bind_eq_bind, bind_fun_some]

/-- **A trace that is short enough** is sent exactly when it fits with all that is written, and the message can be
sent. -/
theorem traceNetwork_short_iff (h : NothingElseFails env nwTraceType)
    (hshort : header.length + payload.length + 2 ≤ env.logBufLen.toNat) :
    (dltUserTraceNetwork env nwTraceType header payload).Carries env.write.verbose header payload ↔
      header.length + payload.length + 4 + 2 * typeInfoSize env.write ≤ env.logBufLen.toNat ∧
        FitsMessage env.user (header.length + payload.length + 4 + 2 * typeInfoSize env.write) := by
  have htotal : (([.raw header, .raw payload] : List TraceArg).flatMap (TraceArg.encode env.write.verbose)).length =
      header.length + payload.length + 4 + 2 * typeInfoSize env.write := by
    simp only [flatMap_cons, flatMap_nil, length_append, length_nil, length_raw]
    omega
  rw [traceNetwork_short h.initialised hshort, ← htotal]
  by_cases hfits : (([.raw header, .raw payload] : List TraceArg).flatMap
      (TraceArg.encode env.write.verbose)).length ≤ env.logBufLen.toNat
  · obtain ⟨log, hcall, hholds⟩ := sendTraceMessage_putArgs_fits h [.raw header, .raw payload] hfits
    rw [carries_iff_fits hcall (.inl hholds), and_iff_right hfits]
  · refine iff_of_false ?_ fun hboth => hfits hboth.1
    rintro ⟨log, ⟨-, hmessage⟩, -⟩
    rw [sendTraceMessage_putArgs_full h (cons_ne_nil _ _) (not_le.mp hfits)] at hmessage
    cases hmessage

theorem traceNetwork_cut (hinit : env.write.initialised = true)
    (hlong : env.logBufLen.toNat < header.length + payload.length + 2) :
    dltUserTraceNetwork env nwTraceType header payload =
      sendTraceMessage env nwTraceType fun log =>
        (putArgs env.write [.text dltTraceNwTruncated, .raw header, .uint32 payload.length] log).bind fun log =>
          putArgs env.write [.raw (payload.take (truncatedPayloadLen env.write log))] log := by
  have hmark : dltTraceNwTruncated.length < 65535 := by decide
  unfold dltUserTraceNetwork dltUserTraceNetworkTruncated
  congr 1
  funext log
  rw [if_pos ⟨rfl, hlong⟩]
  simp only [written_raw_put hinit, written_uint32_put hinit, written_string_put hinit hmark, putArgs,
    bind_eq_bind, bind_fun_some, bind_assoc]

/-- **A trace that is too long** is cut to what there is room for, and sent when the message can be. -/
theorem traceNetwork_long (h : NothingElseFails env nwTraceType)
    (hfixed : header.length + 21 + 6 * typeInfoSize env.write ≤ env.logBufLen.toNat)
    (hlong : env.logBufLen.toNat < header.length + payload.length + 2) :
    (dltUserTraceNetwork env nwTraceType header payload).Carries env.write.verbose header payload ↔
      FitsMessage env.user (env.logBufLen.toNat - 4 + typeInfoSize env.write) := by
  have hinfo : typeInfoSize env.write ≤ 4 := by
    unfold typeInfoSize
    split_ifs <;> decide
  have hmax : env.logBufLen.toNat < 65536 := env.logBufLen.toNat_lt
  have hroom : env.write.logBufLen.toNat = env.logBufLen.toNat := rfl
  have hhead : (([.text dltTraceNwTruncated, .raw header, .uint32 payload.length] : List TraceArg).flatMap
      (TraceArg.encode env.write.verbose)).length = header.length + 13 + 3 * typeInfoSize env.write := by
    simp only [flatMap_cons, flatMap_nil, length_append, length_nil, length_raw, length_uint32,
      length_mark env.write (show dltTraceNwTruncated.length = 4 from rfl)]
    omega
  obtain ⟨log, hput, hbuffer⟩ := @putArgs_fits env.write { buffer := [], argsNum := 0 }
    [.text dltTraceNwTruncated, .raw header, .uint32 payload.length]
    (by rw [length_nil, Nat.zero_add, hhead]; omega)
  have hlength : log.buffer.length = header.length + 13 + 3 * typeInfoSize env.write := by
    rw [hbuffer, nil_append, hhead]
  have hlen : truncatedPayloadLen env.write log =
      env.logBufLen.toNat - (header.length + 19 + 3 * typeInfoSize env.write) := by
    unfold truncatedPayloadLen
    rw [hlength, Int.emod_eq_of_lt (by omega) (by omega)]
    omega
  have hproper : truncatedPayloadLen env.write log < payload.length := by omega
  have hlast : (([.raw (payload.take (truncatedPayloadLen env.write log))] : List TraceArg).flatMap
      (TraceArg.encode env.write.verbose)).length = typeInfoSize env.write + 2 + truncatedPayloadLen env.write log := by
    rw [flatMap_singleton, length_raw, length_take, min_eq_left hproper.le]
  obtain ⟨log', hput', hbuffer'⟩ := @putArgs_fits env.write log
    [.raw (payload.take (truncatedPayloadLen env.write log))] (by rw [hlast, hlength, hlen]; omega)
  have hwhole : log'.buffer.length = env.logBufLen.toNat - 4 + typeInfoSize env.write := by
    rw [hbuffer', length_append, hlast, hlength, hlen]
    omega
  rw [← hwhole]
  apply carries_iff_fits
  · rw [traceNetwork_cut h.initialised hlong]
    refine (sendTraceMessage_eq h).2 log' ?_ (by rw [hwhole]; omega)
    rw [hput, bind_some, hput']
  · refine .inr ⟨_, hproper, ?_⟩
    unfold LogData.HoldsArgs
    rw [hbuffer', hbuffer, nil_append, ← flatMap_append]
    rfl

theorem segmentedStart_eq (hinit : env.write.initialised = true) (id : UInt32) (payloadLen : ℕ) :
    dltUserTraceNetworkSegmentedStart env id nwTraceType header payloadLen =
      sendTraceMessage env nwTraceType (putArgs env.write (startArgs id header payloadLen)) := by
  have hmark : dltTraceNwStart.length < 65535 := by decide
  unfold dltUserTraceNetworkSegmentedStart
  congr 1
  funext log
  simp only [written_raw_put hinit, written_uint32_put hinit, written_uint16_put hinit,
    written_string_put hinit hmark, startArgs, putArgs, bind_eq_bind, bind_fun_some]

end size

section segmented

variable {env : SegmentedEnv} {nwTraceType : ℤ} {header payload : List UInt8}

/-- **A segmented trace** starts, and the segment thread has the payload, when the message of the start can be sent. -/
theorem segmented_long (h : NothingElseFailsSegmented env nwTraceType)
    (hfixed : header.length + 21 + 6 * typeInfoSize env.trace.write ≤ env.trace.logBufLen.toNat)
    (hlong : env.trace.logBufLen.toNat ≤ header.length + payload.length + 2) :
    (dltUserTraceNetworkSegmented env nwTraceType header payload).Carries env nwTraceType header payload ↔
      FitsMessage env.trace.user (header.length + 21 + 6 * typeInfoSize env.trace.write) := by
  have hsize : ((startArgs env.id header payload.length).flatMap
      (TraceArg.encode env.trace.write.verbose)).length = header.length + 21 + 6 * typeInfoSize env.trace.write := by
    unfold startArgs
    simp only [flatMap_cons, flatMap_nil, length_append, length_nil, length_raw, length_uint32,
      length_uint16, length_mark env.trace.write (show dltTraceNwStart.length = 4 from rfl)]
    omega
  obtain ⟨log, hcall, hholds⟩ := sendTraceMessage_putArgs_fits h.trace
    (startArgs env.id header payload.length) (by rw [hsize]; exact hfixed)
  rw [← segmentedStart_eq h.trace.initialised, hsize] at hcall
  have hret : ¬ (dltReturnOk = dltReturnBufferFull ∨ dltReturnOk = dltReturnError) := by decide
  have hno : ¬ dltReturnError = dltReturnOk := by decide
  unfold dltUserTraceNetworkSegmented
  rw [if_neg (by rw [h.isChild]; exact Bool.false_ne_true), if_neg (not_lt.mpr hlong),
    if_neg (not_not_intro h.malloc)]
  dsimp only
  rw [hcall]
  unfold sizeRet
  by_cases hfits : FitsMessage env.trace.user (header.length + 21 + 6 * typeInfoSize env.trace.write)
  · rw [if_pos hfits, if_neg hret, if_neg (not_not_intro h.queue), if_neg (not_not_intro h.mqSend)]
    exact iff_of_true (.inr ⟨⟨log, ⟨rfl, rfl⟩, hholds⟩, rfl⟩) hfits
  · rw [if_neg hfits, if_pos (.inr rfl)]
    refine iff_of_false ?_ hfits
    rintro (⟨log', hsent, -⟩ | ⟨⟨log', hsent, -⟩, -⟩)
    · exact hno hsent.1
    · exact hno hsent.1

theorem segmented_short (h : NothingElseFailsSegmented env nwTraceType)
    (hshort : header.length + payload.length + 2 < env.trace.logBufLen.toNat) :
    dltUserTraceNetworkSegmented env nwTraceType header payload =
      ⟨dltUserTraceNetwork env.trace nwTraceType header payload, none⟩ := by
  unfold dltUserTraceNetworkSegmented
  rw [if_neg (by rw [h.isChild]; exact Bool.false_ne_true), if_pos hshort]

/-- **A trace is never refused for its size**, in one message or in segments, exactly when its header and its payload
do not even fit with one size, or fit with two sizes and the type information of both, and the message with its headers
fits the length field. -/
theorem traceNetwork_carries_iff (env : SegmentedEnv) (nwTraceType : ℤ) (header payload : List UInt8)
    (h : NothingElseFailsSegmented env nwTraceType)
    (hfixed : header.length + 21 + 6 * typeInfoSize env.trace.write ≤ env.trace.logBufLen.toNat) :
    ((dltUserTraceNetwork env.trace nwTraceType header payload).Carries env.trace.write.verbose header payload ↔
        env.trace.logBufLen.toNat < header.length + payload.length + 2 ∧
            FitsMessage env.trace.user (env.trace.logBufLen.toNat - 4 + typeInfoSize env.trace.write) ∨
          header.length + payload.length + 4 + 2 * typeInfoSize env.trace.write ≤ env.trace.logBufLen.toNat ∧
            FitsMessage env.trace.user (header.length + payload.length + 4 + 2 * typeInfoSize env.trace.write)) ∧
      ((dltUserTraceNetworkSegmented env nwTraceType header payload).Carries env nwTraceType header payload ↔
        env.trace.logBufLen.toNat ≤ header.length + payload.length + 2 ∧
            FitsMessage env.trace.user (header.length + 21 + 6 * typeInfoSize env.trace.write) ∨
          header.length + payload.length + 4 + 2 * typeInfoSize env.trace.write ≤ env.trace.logBufLen.toNat ∧
            FitsMessage env.trace.user (header.length + payload.length + 4 + 2 * typeInfoSize env.trace.write)) := by
  refine ⟨?_, ?_⟩
  · by_cases hlong : env.trace.logBufLen.toNat < header.length + payload.length + 2
    · rw [traceNetwork_long h.trace hfixed hlong, and_iff_right hlong, or_iff_left fun hshort => by omega]
    · rw [traceNetwork_short_iff h.trace (not_lt.mp hlong), or_iff_right fun hboth => hlong hboth.1]
  · by_cases hlong : env.trace.logBufLen.toNat ≤ header.length + payload.length + 2
    · rw [segmented_long h hfixed hlong, and_iff_right hlong, or_iff_left fun hshort => by omega]
    · rw [segmented_short h (not_le.mp hlong), or_iff_right fun hboth => hlong hboth.1]
      rw [← traceNetwork_short_iff h.trace (not_le.mp hlong).le]
      constructor
      · rintro (hcarries | ⟨-, hqueued⟩)
        · exact hcarries
        · cases hqueued
      · exact .inl

end segmented

/-- The connected application, with a segment thread. -/
def segmentedSample : SegmentedEnv :=
  { trace := connectedEnv, isChild := false, malloc := true, id := 7, queue := true, mqSend := true }

theorem nothingElseFails_segmentedSample : NothingElseFailsSegmented segmentedSample 1 :=
  ⟨⟨rfl, rfl, by decide, rfl, rfl, rfl, by decide, rfl, by decide, by decide⟩, rfl, rfl, rfl, rfl⟩

/-- **A header of 2 bytes and a payload of 1380 are refused** with room for 1390 bytes: both functions take them for
short enough, and the payload does not fit behind what is written before it. -/
theorem traceNetwork_refused : NothingElseFailsSegmented segmentedSample 1 ∧
    (dltUserTraceNetwork connectedEnv 1 [1, 2] (List.replicate 1380 5)).ret = dltReturnError ∧
      (dltUserTraceNetwork connectedEnv 1 [1, 2] (List.replicate 1380 5)).message = none ∧
      (dltUserTraceNetworkSegmented segmentedSample 1 [1, 2] (List.replicate 1380 5)).call.ret = dltReturnError ∧
      (dltUserTraceNetworkSegmented segmentedSample 1 [1, 2] (List.replicate 1380 5)).queued = none := by
  refine ⟨nothingElseFails_segmentedSample, ?_⟩
  decide +kernel

theorem traceNetwork_carries_large :
    (dltUserTraceNetwork connectedEnv 1 [1, 2] (List.replicate 2000 5)).Carries true [1, 2] (List.replicate 2000 5) ∧
      (dltUserTraceNetworkSegmented segmentedSample 1 [1, 2] (List.replicate 2000 5)).Carries segmentedSample 1 [1, 2]
        (List.replicate 2000 5) := by
  have hlen : (replicate 2000 (5 : UInt8)).length = 2000 := length_replicate
  have hiff := traceNetwork_carries_iff segmentedSample 1 [1, 2] (replicate 2000 5)
    nothingElseFails_segmentedSample (by decide)
  rw [hlen] at hiff
  exact ⟨hiff.1.mpr (.inl ⟨by decide, by decide⟩), hiff.2.mpr (.inl ⟨by decide, by decide⟩)⟩

end Dlt.User
