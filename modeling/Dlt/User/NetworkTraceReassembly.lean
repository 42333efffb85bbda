import Dlt.Lib.Pieces
import Dlt.User.NetworkTrace
import Dlt.User.SendLogDaemon

/-!
# What a receiver of a segmented trace gets

* `TraceArg` — the arguments of trace messages as a receiver reads them: `readArgs` takes them from a payload
  by their kinds, and `readArgs_encode` says that it finds what was written.
* `readStart`, `readSegment`, `readEnd` — the three messages, read.
* `segmented_reassembled` — **the segments make the payload**: one id, as many segments as announced, with the
  numbers from zero on.
-/

namespace Dlt.User

open Dlt.Lib Dlt.Shared List

variable {arg : TraceArg}

/-! ## Reading arguments -/

inductive ArgKind
  | text
  | uint16
  | uint32
  | raw
deriving DecidableEq, Repr

inductive TraceArg
  /-- A text, without its terminating zero. -/
  | text (text : List UInt8)
  /-- A number of two bytes. -/
  | uint16 (n : ℕ)
  /-- A number of four bytes. -/
  | uint32 (n : ℕ)
  | raw (data : List UInt8)
deriving DecidableEq, Repr

namespace TraceArg

def kind : TraceArg → ArgKind
  | text _ => .text
  | uint16 _ => .uint16
  | uint32 _ => .uint32
  | raw _ => .raw

/-- The argument can be written. -/
def Fits : TraceArg → Prop
  | text t => t.length < 65535
  | uint16 n => n < 65536
  | uint32 n => n < 4294967296
  | raw data => data.length < 65536

def typeInfo : ArgKind → ℕ
  | .text => dltTypeInfoStrg
  | .uint16 => dltTypeInfoUint ||| 2
  | .uint32 => dltTypeInfoUint ||| 3
  | .raw => dltTypeInfoRawd

/-- The bytes of an argument behind its type information. -/
def body : TraceArg → List UInt8
  | text t => leBytes 2 (t.length + 1) ++ (t ++ [0])
  | uint16 n => leBytes 2 n
  | uint32 n => leBytes 4 n
  | raw data => leBytes 2 data.length ++ data

/-- The bytes of an argument. -/
def encode (verbose : Bool) (arg : TraceArg) : List UInt8 :=
  (if verbose then leBytes 4 (typeInfo arg.kind) else []) ++ arg.body

end TraceArg

/-- A number of `n` bytes at the beginning, and the rest. -/
def readNumber (n : ℕ) (bytes : List UInt8) : Option (ℕ × List UInt8) :=
  if n ≤ bytes.length then some (ofLeBytes (bytes.take n), bytes.drop n) else none

/-- As many bytes as a number of two bytes says, and the rest. -/
def readSized (bytes : List UInt8) : Option (List UInt8 × List UInt8) :=
  (readNumber 2 bytes).bind fun p =>
    if p.1 ≤ p.2.length then some (p.2.take p.1, p.2.drop p.1) else none

/-- The body of an argument of a kind, and the rest. -/
def readBody : ArgKind → List UInt8 → Option (TraceArg × List UInt8)
  | .text, bytes => (readSized bytes).map fun p => (.text p.1.dropLast, p.2)
  | .uint16, bytes => (readNumber 2 bytes).map fun p => (.uint16 p.1, p.2)
  | .uint32, bytes => (readNumber 4 bytes).map fun p => (.uint32 p.1, p.2)
  | .raw, bytes => (readSized bytes).map fun p => (.raw p.1, p.2)

/-- An argument of a kind, and the rest. In verbose mode the type information has to be that of the kind. -/
def readArg (verbose : Bool) (kind : ArgKind) (bytes : List UInt8) : Option (TraceArg × List UInt8) :=
  if verbose then
    (readNumber 4 bytes).bind fun p =>
      if p.1 = TraceArg.typeInfo kind then readBody kind p.2 else none
  else readBody kind bytes

/-- The arguments of a payload, of the given kinds. -/
def readArgs (verbose : Bool) : List ArgKind → List UInt8 → Option (List TraceArg)
  | [], bytes => if bytes = [] then some [] else none
  | kind :: kinds, bytes =>
      (readArg verbose kind bytes).bind fun p => (readArgs verbose kinds p.2).map (p.1 :: ·)

theorem typeInfo_lt (kind : ArgKind) : TraceArg.typeInfo kind < 256 ^ 4 := by
  cases kind <;> decide

theorem readNumber_leBytes {k n : ℕ} (h : n < 256 ^ k) (rest : List UInt8) :
    readNumber k (leBytes k n ++ rest) = some (n, rest) := by
  unfold readNumber
  rw [if_pos (by rw [length_append, length_leBytes]; omega), take_left' (length_leBytes k n),
    drop_left' (length_leBytes k n), ofLeBytes_leBytes_of_lt h]

theorem readSized_append {data : List UInt8} (h : data.length < 65536) (rest : List UInt8) :
    readSized (leBytes 2 data.length ++ data ++ rest) = some (data, rest) := by
  unfold readSized
  rw [append_assoc, readNumber_leBytes h, Option.bind_some,
    if_pos (by rw [length_append]; omega), take_left' rfl, drop_left' rfl]

theorem readBody_body (h : arg.Fits) (rest : List UInt8) :
    readBody arg.kind (arg.body ++ rest) = some (arg, rest) := by
  cases arg with
  | text t =>
    have hlen : (t ++ [0]).length = t.length + 1 := by
      rw [length_append, length_singleton]
    have hfits : t.length < 65535 := h
    have hread := readSized_append (show (t ++ [0]).length < 65536 by omega) rest
    rw [hlen] at hread
    simp only [TraceArg.kind, TraceArg.body, readBody, hread, Option.map_some, dropLast_concat]
  | uint16 n =>
    have hread := @readNumber_leBytes 2 n h rest
    simp only [TraceArg.kind, TraceArg.body, readBody, hread, Option.map_some]
  | uint32 n =>
    have hread := @readNumber_leBytes 4 n h rest
    simp only [TraceArg.kind, TraceArg.body, readBody, hread, Option.map_some]
  | raw data =>
    have hread := readSized_append h rest
    simp only [TraceArg.kind, TraceArg.body, readBody, hread, Option.map_some]

theorem readArg_encode (h : arg.Fits) (verbose : Bool) (rest : List UInt8) :
    readArg verbose arg.kind (arg.encode verbose ++ rest) = some (arg, rest) := by
  unfold readArg TraceArg.encode
  cases verbose with
  | false => exact readBody_body h rest
  | true =>
    simp only [if_true]
    rw [append_assoc, readNumber_leBytes (typeInfo_lt arg.kind), Option.bind_some]
    simp only [if_true]
    exact readBody_body h rest

theorem readArgs_encode (verbose : Bool) {args : List TraceArg} (h : ∀ arg ∈ args, arg.Fits) :
    readArgs verbose (args.map TraceArg.kind) (args.flatMap (TraceArg.encode verbose)) = some args := by
  induction args with
  | nil => rfl
  | cons arg args ih =>
    rw [map_cons, flatMap_cons, readArgs, readArg_encode (h arg (mem_cons_self ..)),
      Option.bind_some, ih fun a ha => h a (mem_cons_of_mem _ ha)]
    rfl

/-! ## What is written -/

def LogData.HoldsArgs (verbose : Bool) (log : LogData) (args : List TraceArg) : Prop :=
  log.buffer = args.flatMap (TraceArg.encode verbose)

section written

variable {env : WriteEnv} {log log' : LogData} {args : List TraceArg}

section

variable (h : log.HoldsArgs env.verbose args)
include h

theorem LogData.HoldsArgs.append (arg : TraceArg) {bytes : List UInt8} (hbytes : bytes = arg.encode env.verbose) :
    (log.append bytes).HoldsArgs env.verbose (args ++ [arg]) := by
  unfold LogData.HoldsArgs at h ⊢
  rw [LogData.append, h, hbytes, flatMap_append, flatMap_singleton]

/-- A writing function that fails or appends an argument: when the message goes on, the argument is there. -/
theorem written_cases {result : LogData × ℤ} {bytes : List UInt8}
    (hcases : result.2 < 0 ∨ result = (log.append bytes, dltReturnOk)) (hbytes : bytes = arg.encode env.verbose)
    (hwritten : written result = some log') : log'.HoldsArgs env.verbose (args ++ [arg]) := by
  unfold written at hwritten
  rcases hcases with hneg | hok
  · rw [if_pos hneg] at hwritten
    cases hwritten
  · rw [hok, if_neg (show ¬ dltReturnOk < 0 by decide), Option.some.injEq] at hwritten
    rw [← hwritten]
    exact h.append arg hbytes

theorem written_string {text : List UInt8} (hlen : text.length < 65535)
    (hwritten : written (dltUserLogWriteString env log text) = some log') :
    log'.HoldsArgs env.verbose (args ++ [.text text]) :=
  written_cases h (dltUserLogWriteString_cases env log hlen) (append_assoc ..) hwritten

theorem written_uint32 {n : ℕ} (hwritten : written (dltUserLogWriteUint32 env log n) = some log') :
    log'.HoldsArgs env.verbose (args ++ [.uint32 n]) :=
  written_cases h (dltUserLogWriteGenericAttr_cases env log _ _) rfl hwritten

theorem written_uint16 {n : ℕ} (hwritten : written (dltUserLogWriteUint16 env log n) = some log') :
    log'.HoldsArgs env.verbose (args ++ [.uint16 n]) :=
  written_cases h (dltUserLogWriteGenericAttr_cases env log _ _) rfl hwritten

theorem written_raw {data : List UInt8} (hwritten : written (dltUserLogWriteRaw env log data) = some log') :
    log'.HoldsArgs env.verbose (args ++ [.raw data]) :=
  written_cases h (dltUserLogWriteRaw_cases env log data) (append_assoc ..) hwritten

end

end written

/-! ## The three messages -/

def TraceCall.Sent (call : TraceCall) (log : LogData) : Prop :=
  call.ret = dltReturnOk ∧ call.message = some log

theorem sendTraceMessage_sent {env : TraceEnv} {nwTraceType : ℤ} {args : LogData → Option LogData}
    {log : LogData} (h : (sendTraceMessage env nwTraceType args).Sent log) :
    args { buffer := [], argsNum := 0 } = some log := by
  obtain ⟨-, hmessage⟩ := h
  unfold sendTraceMessage at hmessage
  split_ifs at hmessage
  cases hargs : args { buffer := [], argsNum := 0 } with
  | none =>
    rw [hargs] at hmessage
    cases hmessage
  | some log' =>
    rw [hargs] at hmessage
    exact hmessage

/-- The start of a trace, as a receiver reads it. -/
structure TraceStart where
  id : ℕ
  header : List UInt8
  payloadLen : ℕ
  /-- The announced number of segments. -/
  count : ℕ
  size : ℕ
deriving DecidableEq, Repr

/-- A segment, as a receiver reads it. -/
structure TraceSegment where
  id : ℕ
  sequence : ℕ
  data : List UInt8
deriving DecidableEq, Repr

def readStart (verbose : Bool) (log : LogData) : Option TraceStart :=
  match readArgs verbose [.text, .uint32, .raw, .uint32, .uint16, .uint16] log.buffer with
  | some [.text t, .uint32 id, .raw header, .uint32 payloadLen, .uint16 count, .uint16 size] =>
      if t = dltTraceNwStart then some ⟨id, header, payloadLen, count, size⟩ else none
  | _ => none

def readSegment (verbose : Bool) (log : LogData) : Option TraceSegment :=
  match readArgs verbose [.text, .uint32, .uint16, .raw] log.buffer with
  | some [.text t, .uint32 id, .uint16 sequence, .raw data] =>
      if t = dltTraceNwSegment then some ⟨id, sequence, data⟩ else none
  | _ => none

def readEnd (verbose : Bool) (log : LogData) : Option ℕ :=
  match readArgs verbose [.text, .uint32] log.buffer with
  | some [.text t, .uint32 id] => if t = dltTraceNwEnd then some id else none
  | _ => none

theorem fits_text {text : List UInt8} (h : text.length = 4) : (TraceArg.text text).Fits := by
  unfold TraceArg.Fits
  omega

theorem segmentCount_lt (payloadLen : ℕ) : segmentCount payloadLen < 65536 := by
  unfold segmentCount dltMaxTraceSegmentSize
  dsimp only
  split_ifs <;> omega

section messages

variable {env : TraceEnv} {id : UInt32} {nwTraceType : ℤ} {log : LogData}

theorem holdsArgs_nil (verbose : Bool) : LogData.HoldsArgs verbose { buffer := [], argsNum := 0 } [] := rfl

theorem readStart_of_sent {header : List UInt8} {payloadLen : ℕ} (hheader : header.length < 65536)
    (hpayload : payloadLen < 65536)
    (h : (dltUserTraceNetworkSegmentedStart env id nwTraceType header payloadLen).Sent log) :
    readStart env.write.verbose log = some
      ⟨id.toNat, header, payloadLen, segmentCount payloadLen, dltMaxTraceSegmentSize⟩ := by
  have hargs := sendTraceMessage_sent h
  simp only [Option.bind_eq_bind, Option.bind_eq_some_iff] at hargs
  obtain ⟨log1, h1, log2, h2, log3, h3, log4, h4, log5, h5, h6⟩ := hargs
  have hholds := written_uint16 (written_uint16 (written_uint32 (written_raw (written_uint32
    (written_string (holdsArgs_nil env.write.verbose) (by decide) h1) h2) h3) h4) h5) h6
  have hread := @readArgs_encode env.write.verbose ([] ++ [.text dltTraceNwStart] ++ [.uint32 id.toNat] ++
    [.raw header] ++ [.uint32 payloadLen] ++ [.uint16 (segmentCount payloadLen)] ++
    [.uint16 dltMaxTraceSegmentSize]) (by
      simp only [nil_append, cons_append, mem_cons, not_mem_nil, or_false, forall_eq_or_imp,
        forall_eq]
      refine ⟨fits_text rfl, id.toNat_lt, hheader, ?_, segmentCount_lt payloadLen, ?_⟩
      · exact Nat.lt_trans hpayload (by decide)
      · exact show 1024 < 65536 by decide)
  rw [← hholds] at hread
  unfold readStart
  simp only [nil_append, cons_append, map_cons, map_nil, TraceArg.kind] at hread
  rw [hread]
  exact if_pos rfl

theorem readSegment_of_sent {sequence : ℕ} {data : List UInt8} (hdata : data.length < 65536)
    (h : (dltUserTraceNetworkSegmentedSegment env id nwTraceType sequence data).Sent log) :
    readSegment env.write.verbose log = some ⟨id.toNat, sequence % 65536, data⟩ := by
  have hargs := sendTraceMessage_sent h
  simp only [Option.bind_eq_bind, Option.bind_eq_some_iff] at hargs
  obtain ⟨log1, h1, log2, h2, log3, h3, h4⟩ := hargs
  have hholds := written_raw (written_uint16 (written_uint32
    (written_string (holdsArgs_nil env.write.verbose) (by decide) h1) h2) h3) h4
  have hread := @readArgs_encode env.write.verbose ([] ++ [.text dltTraceNwSegment] ++
    [.uint32 id.toNat] ++ [.uint16 (sequence % 65536)] ++ [.raw data]) (by
      simp only [nil_append, cons_append, mem_cons, not_mem_nil, or_false, forall_eq_or_imp,
        forall_eq]
      exact ⟨fits_text rfl, id.toNat_lt, Nat.mod_lt _ (by decide), hdata⟩)
  rw [← hholds] at hread
  unfold readSegment
  simp only [nil_append, cons_append, map_cons, map_nil, TraceArg.kind] at hread
  rw [hread]
  exact if_pos rfl

theorem readEnd_of_sent (h : (dltUserTraceNetworkSegmentedEnd env id nwTraceType).Sent log) :
    readEnd env.write.verbose log = some id.toNat := by
  have hargs := sendTraceMessage_sent h
  simp only [Option.bind_eq_bind, Option.bind_eq_some_iff] at hargs
  obtain ⟨log1, h1, h2⟩ := hargs
  have hholds := written_uint32
    (written_string (holdsArgs_nil env.write.verbose) (by decide) h1) h2
  have hread := @readArgs_encode env.write.verbose ([] ++ [.text dltTraceNwEnd] ++
    [.uint32 id.toNat]) (by
      simp only [nil_append, cons_append, mem_cons, not_mem_nil, or_false, forall_eq_or_imp,
        forall_eq]
      exact ⟨fits_text rfl, id.toNat_lt⟩)
  rw [← hholds] at hread
  unfold readEnd
  simp only [nil_append, cons_append, map_cons, map_nil, TraceArg.kind] at hread
  rw [hread]
  exact if_pos rfl

end messages

/-! ## The loop -/

section loop

variable (env : ℕ → TraceEnv) (data : SegmentedData)

/-- The call for the `i`-th piece. -/
def segmentCall (n sequence i : ℕ) (piece : List UInt8) : TraceCall :=
  dltUserTraceNetworkSegmentedSegment (env (n + i)) data.id data.nwTraceType ((sequence + i) % 65536) piece

section offset

variable {offset : ℕ} (hoffset : offset ≤ data.payload.length)

include hoffset

theorem add_segmentLength_le : offset + segmentLength data.payload.length offset ≤ data.payload.length := by
  unfold segmentLength dltMaxTraceSegmentSize
  split_ifs <;> omega

theorem segmentLength_eq_zero : segmentLength data.payload.length offset = 0 ↔ offset = data.payload.length := by
  unfold segmentLength dltMaxTraceSegmentSize
  by_cases hlast : offset + 1024 > data.payload.length
  · rw [if_pos hlast]
    omega
  · rw [if_neg hlast]
    constructor
    · intro h
      exact absurd h (by decide)
    · intro h
      omega

theorem take_segmentLength : (data.payload.drop offset).take (segmentLength data.payload.length offset) =
    (data.payload.drop offset).take dltMaxTraceSegmentSize := by
  unfold segmentLength
  by_cases hlast : offset + dltMaxTraceSegmentSize > data.payload.length
  · have hsmall : data.payload.length - offset < 65536 := by
      unfold dltMaxTraceSegmentSize at hlast
      omega
    rw [if_pos hlast, Nat.mod_eq_of_lt hsmall, take_of_length_le (by rw [length_drop]),
      take_of_length_le (by rw [length_drop]; omega)]
  · rw [if_neg hlast]

theorem drop_segmentLength : data.payload.drop (offset + segmentLength data.payload.length offset) =
    (data.payload.drop offset).drop dltMaxTraceSegmentSize := by
  rw [drop_drop]
  unfold segmentLength
  by_cases hlast : offset + dltMaxTraceSegmentSize > data.payload.length
  · have hsmall : data.payload.length - offset < 65536 := by
      unfold dltMaxTraceSegmentSize at hlast
      omega
    rw [if_pos hlast, Nat.mod_eq_of_lt hsmall, drop_eq_nil_of_le (by omega),
      drop_eq_nil_of_le (by omega)]
  · rw [if_neg hlast]

end offset

/-- The calls of the later pieces are those of a loop that begins one later. -/
theorem segmentCall_succ (n sequence : ℕ) :
    (fun i => segmentCall env data n sequence (i + 1)) = segmentCall env data (n + 1) ((sequence + 1) % 65536) := by
  funext i piece
  unfold segmentCall
  have hn : n + (i + 1) = n + 1 + i := by omega
  have hsequence : (sequence + (i + 1)) % 65536 = ((sequence + 1) % 65536 + i) % 65536 := by omega
  rw [hn, hsequence]

/-- A loop without failures sends the pieces of what is left, with consecutive numbers. -/
theorem segmenterLoop_eq (n offset sequence : ℕ)
    (hoffset : offset ≤ data.payload.length) (hsequence : sequence < 65536)
    (hok : ∀ call ∈ segmenterLoop env data n offset sequence, call.ret = dltReturnOk) :
    segmenterLoop env data n offset sequence =
      (pieces dltMaxTraceSegmentSize (data.payload.drop offset)).mapIdx (segmentCall env data n sequence) := by
  induction n, offset, sequence using segmenterLoop.induct env data with
  | case1 n offset sequence hzero =>
    have hend : offset = data.payload.length := (segmentLength_eq_zero data hoffset).mp hzero
    rw [segmenterLoop, dif_pos hzero, hend, drop_length, pieces_nil, mapIdx_nil]
  | case2 n offset sequence hpos len call hfail =>
    have hret := hok call (by
      rw [segmenterLoop, dif_neg hpos]
      dsimp only
      rw [if_pos hfail]
      exact mem_singleton_self _)
    rw [hret] at hfail
    exact absurd hfail (by decide)
  | case3 n offset sequence hpos len call hgoes hmore ih =>
    have hleft : 0 < (data.payload.drop offset).length := by
      rw [length_drop]
      omega
    have hfirst : call = segmentCall env data n sequence 0
        ((data.payload.drop offset).take dltMaxTraceSegmentSize) := by
      rw [← take_segmentLength data hoffset, segmentCall, Nat.add_zero, Nat.add_zero,
        Nat.mod_eq_of_lt hsequence]
    have hloop : segmenterLoop env data n offset sequence =
        call :: segmenterLoop env data (n + 1) (offset + len) ((sequence + 1) % 65536) := by
      rw [segmenterLoop, dif_neg hpos]
      dsimp only
      rw [if_neg hgoes, dif_pos hmore]
    rw [hloop] at hok ⊢
    rw [pieces_of_pos (by decide) hleft, mapIdx_cons, ← hfirst, segmentCall_succ,
      ← drop_segmentLength data hoffset,
      ih (add_segmentLength_le data hoffset) (Nat.mod_lt _ (by decide))
        fun c hc => hok c (mem_cons_of_mem _ hc)]
  | case4 n offset sequence hpos len call hgoes hdone =>
    have hend : offset = data.payload.length := by omega
    exact absurd ((segmentLength_eq_zero data hoffset).mpr hend) hpos

/-- The thread sends the pieces of the payload, numbered from zero on. -/
theorem dltUserTraceNetworkSegmentedThreadSegmenter_eq
    (hok : ∀ call ∈ dltUserTraceNetworkSegmentedThreadSegmenter env data, call.ret = dltReturnOk) :
    dltUserTraceNetworkSegmentedThreadSegmenter env data =
      (pieces dltMaxTraceSegmentSize data.payload).mapIdx (segmentCall env data 0 0) :=
  segmenterLoop_eq env data 0 0 0 (Nat.zero_le _) (by decide) hok

end loop

/-! ## The trace -/

theorem segmentCount_eq {payload : List UInt8} (h : payload.length < 65536) :
    segmentCount payload.length = (pieces dltMaxTraceSegmentSize payload).length := by
  rw [length_pieces (by decide)]
  unfold segmentCount dltMaxTraceSegmentSize
  dsimp only
  by_cases haligned : payload.length % 1024 = 0
  · rw [if_pos haligned]
    omega
  · rw [if_neg haligned]
    omega

/-- The call succeeds: it sends a message. -/
def TraceCall.Succeeds (call : TraceCall) : Prop := call.ret = dltReturnOk ∧ call.message.isSome

/-- What a receiver reads of the segment messages. -/
def readSegments (env : ℕ → TraceEnv) (calls : List TraceCall) : List (Option TraceSegment) :=
  calls.mapIdx fun i call => call.message.bind (readSegment (env i).write.verbose)

/-- A receiver reads the pieces of the payload, numbered from zero on. -/
theorem readSegments_eq (env : ℕ → TraceEnv) (data : SegmentedData)
    (hok : ∀ call ∈ dltUserTraceNetworkSegmentedThreadSegmenter env data, call.Succeeds) :
    readSegments env (dltUserTraceNetworkSegmentedThreadSegmenter env data) =
      (pieces dltMaxTraceSegmentSize data.payload).mapIdx
        fun i piece => some ⟨data.id.toNat, i % 65536, piece⟩ := by
  have hcalls := dltUserTraceNetworkSegmentedThreadSegmenter_eq env data fun call hcall => (hok call hcall).1
  rw [hcalls] at hok ⊢
  unfold readSegments
  rw [mapIdx_mapIdx]
  apply ext_getElem (by rw [length_mapIdx, length_mapIdx])
  intro i hi _
  rw [length_mapIdx] at hi
  rw [getElem_mapIdx, getElem_mapIdx]
  obtain ⟨hret, hmessage⟩ := hok _ (getElem_mem (show i < ((pieces dltMaxTraceSegmentSize
    data.payload).mapIdx (segmentCall env data 0 0)).length by rwa [length_mapIdx]))
  rw [getElem_mapIdx] at hret hmessage
  obtain ⟨log, hlog⟩ := Option.isSome_iff_exists.mp hmessage
  have hpiece := (of_mem_pieces (by decide) _ _ (getElem_mem hi)).2
  have hread := readSegment_of_sent (Nat.lt_of_le_of_lt hpiece (by decide)) ⟨hret, hlog⟩
  rw [Function.comp_apply, hlog, Option.bind_some]
  rw [Nat.mod_mod, Nat.zero_add] at hread
  exact hread

/-- What a receiver has of a trace: the start, the segments and the id of the end. -/
structure ReceivedTrace where
  start : TraceStart
  segments : List TraceSegment
  endId : ℕ

/-- The trace is whole: one id, as many segments as announced, numbered from zero on, none longer than announced,
and together the payload. -/
structure ReceivedTrace.Whole (trace : ReceivedTrace) (id : UInt32) (header payload : List UInt8) : Prop where
  id_start : trace.start.id = id.toNat
  id_segment : ∀ segment ∈ trace.segments, segment.id = id.toNat
  id_end : trace.endId = id.toNat
  header_eq : trace.start.header = header
  payloadLen_eq : trace.start.payloadLen = payload.length
  count_eq : trace.start.count = trace.segments.length
  sequence_eq : ∀ (i : ℕ) (segment : TraceSegment), trace.segments[i]? = some segment → segment.sequence = i
  size_le : ∀ segment ∈ trace.segments, segment.data.length ≤ trace.start.size
  payload_eq : (trace.segments.map TraceSegment.data).flatten = payload

/-- **The segments make the payload.** When all calls of a trace succeed, a receiver reads the start, the segments
and the end of a whole trace. -/
theorem segmented_reassembled (startEnv endEnv : TraceEnv) (env : ℕ → TraceEnv) (id : UInt32) (nwTraceType : ℤ)
    (header payload : List UInt8) (hheader : header.length < 65536) (hpayload : payload.length < 65536)
    (hstart : (dltUserTraceNetworkSegmentedStart startEnv id nwTraceType header payload.length).Succeeds)
    (hsegments : ∀ call ∈ dltUserTraceNetworkSegmentedThreadSegmenter env ⟨id, nwTraceType, payload⟩,
      call.Succeeds)
    (hend : (dltUserTraceNetworkSegmentedEnd endEnv id nwTraceType).Succeeds) :
    ∃ trace : ReceivedTrace, trace.Whole id header payload ∧
      (dltUserTraceNetworkSegmentedStart startEnv id nwTraceType header payload.length).message.bind
        (readStart startEnv.write.verbose) = some trace.start ∧
      readSegments env (dltUserTraceNetworkSegmentedThreadSegmenter env ⟨id, nwTraceType, payload⟩) =
        trace.segments.map some ∧
      (dltUserTraceNetworkSegmentedEnd endEnv id nwTraceType).message.bind (readEnd endEnv.write.verbose) =
        some trace.endId := by
  obtain ⟨startLog, hstartLog⟩ := Option.isSome_iff_exists.mp hstart.2
  obtain ⟨endLog, hendLog⟩ := Option.isSome_iff_exists.mp hend.2
  have hfew : (pieces dltMaxTraceSegmentSize payload).length < 65536 := by
    rw [← segmentCount_eq hpayload]
    exact segmentCount_lt _
  refine ⟨{ start := ⟨id.toNat, header, payload.length, segmentCount payload.length, dltMaxTraceSegmentSize⟩
            segments := (pieces dltMaxTraceSegmentSize payload).mapIdx fun i piece => ⟨id.toNat, i, piece⟩
            endId := id.toNat }, ?_, ?_, ?_, ?_⟩
  · refine { id_start := rfl, id_segment := ?_, id_end := rfl, header_eq := rfl, payloadLen_eq := rfl,
             count_eq := ?_, sequence_eq := ?_, size_le := ?_, payload_eq := ?_ }
    · intro segment hsegment
      obtain ⟨i, hi, rfl⟩ := mem_mapIdx.mp hsegment
      rfl
    · rw [length_mapIdx]
      exact segmentCount_eq hpayload
    · intro i segment hsegment
      rw [getElem?_mapIdx, Option.map_eq_some_iff] at hsegment
      obtain ⟨piece, -, rfl⟩ := hsegment
      rfl
    · intro segment hsegment
      obtain ⟨i, hi, rfl⟩ := mem_mapIdx.mp hsegment
      exact (of_mem_pieces (by decide) _ _ (getElem_mem hi)).2
    · have hdata : ((pieces dltMaxTraceSegmentSize payload).mapIdx fun i piece =>
          (⟨id.toNat, i, piece⟩ : TraceSegment)).map TraceSegment.data =
            pieces dltMaxTraceSegmentSize payload := by
        rw [map_mapIdx, mapIdx_self]
      rw [hdata, flatten_pieces (by decide)]
  · rw [hstartLog, Option.bind_some]
    exact readStart_of_sent hheader hpayload ⟨hstart.1, hstartLog⟩
  · rw [readSegments_eq env _ hsegments, map_mapIdx]
    apply ext_getElem (by rw [length_mapIdx, length_mapIdx])
    intro i hi _
    rw [length_mapIdx] at hi
    rw [getElem_mapIdx, getElem_mapIdx, Nat.mod_eq_of_lt (Nat.lt_trans hi hfew)]
  · rw [hendLog, Option.bind_some]
    exact readEnd_of_sent ⟨hend.1, hendLog⟩

theorem canonical_sampleCtid : (dltSetId (ascii "CTX")).Canonical := canonical_dltSetId _

/-- A connected application with room for 1390 bytes, in verbose mode. -/
def connectedEnv : TraceEnv :=
  { user := sampleUser, logBufLen := 1390, table := true
    handle := ⟨dltSetId (ascii "CTX"), canonical_sampleCtid, 255⟩
    traceOn := true, logInit := true, calloc := true, send := sampleSendEnv }

theorem segmented_reassembled_sample :
    ∃ trace : ReceivedTrace, trace.Whole 7 [1, 2] (List.replicate 1026 5) ∧
      (dltUserTraceNetworkSegmentedStart connectedEnv 7 1 [1, 2] (List.replicate 1026 (5 : UInt8)).length).message.bind
        (readStart connectedEnv.write.verbose) = some trace.start ∧
      readSegments (fun _ => connectedEnv) (dltUserTraceNetworkSegmentedThreadSegmenter (fun _ => connectedEnv)
        ⟨7, 1, List.replicate 1026 5⟩) = trace.segments.map some ∧
      (dltUserTraceNetworkSegmentedEnd connectedEnv 7 1).message.bind (readEnd connectedEnv.write.verbose) =
        some trace.endId :=
  segmented_reassembled connectedEnv connectedEnv (fun _ => connectedEnv) 7 1 [1, 2] (replicate 1026 5)
    (by decide) (by rw [length_replicate]; decide) ⟨by decide +kernel, by decide +kernel⟩
    (by unfold TraceCall.Succeeds; decide +kernel)
    ⟨by decide +kernel, by decide +kernel⟩

end Dlt.User
