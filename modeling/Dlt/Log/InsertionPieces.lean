import Dlt.Log.InsertionScalar

/-!
# When a string or bytes are inserted

* `Pieces.available`, `Pieces.overhead`, `Pieces.Fits` — what the loop can send before a zero stops it, what
  the library adds to a piece, and which pieces fit into `tmp`.
-/

namespace Dlt.Log

open Dlt.Lib Dlt.Shared Dlt.User List Option LogStream

variable {env : LogEnv} {σ σ' : LogState} {s s' : LogStream} {id : ℕ} {data data' : ContextData}
  {a : Pieces} {sent : ℕ} {piece : List UInt8}
variable {leftSize : ℕ}

/-! ## Pieces -/

/-- How many bytes can be sent: a string ends at its first zero. -/
def Pieces.available (a : Pieces) : ℕ :=
  if a.isText then (a.bytes.takeWhile (· ≠ 0)).length else a.sizeToSend.toNat

open Pieces

/-- What the library writes besides the piece. -/
def Pieces.overhead (a : Pieces) (verbose : Bool) : ℕ :=
  (if a.isText then 3 else 2) + if verbose then 4 else 0

theorem Pieces.overhead_le (a : Pieces) (verbose : Bool) : 2 ≤ a.overhead verbose ∧ a.overhead verbose ≤ 7 := by
  unfold overhead
  split_ifs <;> omega

/-- A piece fits into `tmp`. -/
def Pieces.Fits (a : Pieces) (leftSize length : ℕ) : Prop :=
  if a.isText then leftSize ≤ tmpSize ∧ length < tmpSize else length ≤ tmpSize

def Pieces.pieceLength (a : Pieces) (sent leftSize : ℕ) : ℕ := min leftSize (a.available - sent)

/-- `strlen` behind `strncpy`. -/
theorem length_takeWhile_take_drop (bytes : List UInt8) {sent : ℕ} (leftSize : ℕ)
    (h : sent ≤ (bytes.takeWhile (· ≠ 0)).length) :
    (((bytes.drop sent).take leftSize).takeWhile (· ≠ 0)).length =
      min leftSize ((bytes.takeWhile (· ≠ 0)).length - sent) := by
  have htake : ∀ (bytes : List UInt8) (k : ℕ),
      ((bytes.take k).takeWhile (· ≠ 0)).length = min k (bytes.takeWhile (· ≠ 0)).length := by
    intro bytes
    induction bytes with
    | nil => simp
    | cons b rest ih =>
      intro k
      cases k with
      | zero => simp
      | succ k =>
        rw [take_succ_cons]
        by_cases hb : b ≠ 0
        · rw [takeWhile_cons_of_pos (by simpa using hb), takeWhile_cons_of_pos (by simpa using hb),
            length_cons, length_cons, ih]
          omega
        · rw [takeWhile_cons_of_neg (by simpa using hb), takeWhile_cons_of_neg (by simpa using hb),
            length_nil]
          omega
  have hdrop : ∀ (bytes : List UInt8) (sent : ℕ), sent ≤ (bytes.takeWhile (· ≠ 0)).length →
      ((bytes.drop sent).takeWhile (· ≠ 0)).length = (bytes.takeWhile (· ≠ 0)).length - sent := by
    intro bytes
    induction bytes with
    | nil => simp
    | cons b rest ih =>
      intro sent hsent
      cases sent with
      | zero => simp
      | succ sent =>
        by_cases hb : b ≠ 0
        · rw [takeWhile_cons_of_pos (by simpa using hb), length_cons] at hsent ⊢
          rw [drop_succ_cons, ih sent (by omega)]
          omega
        · rw [takeWhile_cons_of_neg (by simpa using hb), length_nil] at hsent
          omega
  rw [htake, hdrop bytes sent h]

theorem piece_of_fits (hsent : sent ≤ a.available) (hn : sent < a.sizeToSend)
    (hfits : a.Fits leftSize (a.pieceLength sent leftSize)) :
    ∃ piece, a.piece sent leftSize = some piece ∧ piece.length = a.pieceLength sent leftSize := by
  unfold Pieces.piece Pieces.Fits pieceLength available at *
  cases htext : a.isText with
  | true =>
    rw [htext] at hfits hsent
    rw [if_pos rfl] at hfits hsent ⊢
    rw [if_pos rfl] at hfits ⊢
    have hlength := length_takeWhile_take_drop a.bytes leftSize hsent
    dsimp only
    rw [if_neg (by omega)]
    exact ⟨_, rfl, hlength⟩
  | false =>
    rw [htext] at hfits hsent
    simp only [Bool.false_eq_true, if_false] at hfits hsent ⊢
    have hle := a.sizeToSend_le htext
    rw [if_neg (by omega)]
    refine ⟨_, rfl, ?_⟩
    rw [length_take, length_drop]
    omega

theorem piece_of_not_fits (hsent : sent ≤ a.available) (hn : sent < a.sizeToSend)
    (hfits : ¬ a.Fits leftSize (a.pieceLength sent leftSize)) : a.piece sent leftSize = none := by
  unfold Pieces.piece Pieces.Fits pieceLength available at *
  cases htext : a.isText with
  | true =>
    rw [htext] at hfits hsent
    rw [if_pos rfl] at hfits hsent ⊢
    rw [if_pos rfl] at hfits
    have hlength := length_takeWhile_take_drop a.bytes leftSize hsent
    dsimp only
    rw [if_pos (by omega)]
  | false =>
    rw [htext] at hfits hsent
    simp only [Bool.false_eq_true, if_false] at hfits hsent ⊢
    rw [if_pos (by omega)]

theorem Pieces.Fits.le {length : ℕ} (h : a.Fits leftSize length) : length ≤ tmpSize := by
  unfold Pieces.Fits at h
  split_ifs at h
  · exact h.2.le
  · exact h

theorem Pieces.Fits.mono {leftSize' length length' : ℕ} (h : a.Fits leftSize length)
    (hleft : leftSize' ≤ leftSize) (hlength : length' ≤ length) : a.Fits leftSize' length' := by
  unfold Pieces.Fits at *
  split_ifs at *
  · exact ⟨hleft.trans h.1, by omega⟩
  · omega

/-! ## Writing a piece -/

section library

variable {env : WriteEnv} {log : LogData} {text : List UInt8}

theorem length_typeInfoBytes (typeInfo : ℕ) :
    (typeInfoBytes env typeInfo).length = if env.verbose then 4 else 0 := by
  unfold typeInfoBytes
  split_ifs <;> simp

/-- The size of the message with nothing of a string but the note that it was cut. -/
def cutSize (env : WriteEnv) (size : ℕ) : ℕ := size + strTruncatedMessage.length + 2 + if env.verbose then 4 else 0

section

variable (hinit : env.initialised = true) (hlength : text.length ≤ tmpSize)
include hinit hlength

/-- A string that fits is written whole. -/
theorem writeUtf8String_of_fits
    (hfits : ¬ env.logBufLen.toNat < log.buffer.length + text.length + (3 + if env.verbose then 4 else 0)) :
    dltUserLogWriteUtf8String text env log =
      some (log.append (typeInfoBytes env StringType.utf8String.typeInfo ++ leBytes 2 (text.length + 1) ++
        (text ++ [0])), dltReturnOk) := by
  have htmp : tmpSize = 1390 := rfl
  unfold dltUserLogWriteUtf8String dltUserLogWriteSizedStringUtilsAttr
  rw [if_neg (not_not_intro hinit)]
  dsimp only
  rw [Nat.mod_eq_of_lt (by omega : text.length + 1 < 65536), if_neg (by omega),
    take_of_length_le (by rw [length_append, length_singleton])]

/-- A string that does not fit is refused or cut. -/
theorem writeUtf8String_of_full
    (hfull : env.logBufLen.toNat < log.buffer.length + text.length + (3 + if env.verbose then 4 else 0)) :
    dltUserLogWriteUtf8String text env log =
      if env.logBufLen.toNat < cutSize env log.buffer.length then some (log, dltReturnUserBufferFull)
      else writeCutString env log text .utf8String (if env.verbose then 4 else 0)
        (env.logBufLen.toNat - cutSize env log.buffer.length) := by
  have htmp : tmpSize = 1390 := rfl
  unfold dltUserLogWriteUtf8String dltUserLogWriteSizedStringUtilsAttr
  rw [if_neg (not_not_intro hinit)]
  dsimp only
  rw [Nat.mod_eq_of_lt (by omega : text.length + 1 < 65536), if_pos (by omega)]
  rfl

end

/-- A string is cut where the bytes that are looked at are bytes of it. -/
theorem writeCutString_utf8 (header maxPayload : ℕ) :
    LooksInside text maxPayload ∧ (∃ log', writeCutString env log text .utf8String header maxPayload =
        some (log', dltReturnUserBufferFull) ∧ log' ≠ log) ∨
      ¬ LooksInside text maxPayload ∧ writeCutString env log text .utf8String header maxPayload = none := by
  unfold writeCutString
  by_cases hinside : LooksInside text maxPayload
  · rw [if_neg fun h => h.2 hinside]
    exact .inl ⟨hinside, _, rfl, append_ne _ _⟩
  · rw [if_pos ⟨rfl, hinside⟩]
    exact .inr ⟨hinside, rfl⟩

section

variable (hinit : env.initialised = true)
include hinit

/-- The function looks twice whether the bytes fit, with and without the type information. -/
theorem writeRawFormatted_of_full
    (hfull : env.logBufLen.toNat < log.buffer.length + text.length + (2 + if env.verbose then 4 else 0)) :
    dltUserLogWriteRawFormatted text .default env log = (log, dltReturnUserBufferFull) := by
  unfold dltUserLogWriteRawFormatted dltUserLogWriteRawInternal
  rw [if_neg (not_not_intro hinit)]
  by_cases hdata : log.buffer.length + (text.length + 2) > env.logBufLen.toNat
  · rw [if_pos hdata]
  · rw [if_neg hdata, if_pos]
    cases hverbose : env.verbose with
    | true =>
      rw [hverbose, if_pos rfl] at hfull
      exact ⟨rfl, by omega⟩
    | false =>
      rw [hverbose, if_neg Bool.false_ne_true] at hfull
      omega

theorem writeRawFormatted_of_fits
    (hfits : ¬ env.logBufLen.toNat < log.buffer.length + text.length + (2 + if env.verbose then 4 else 0)) :
    ∃ log', dltUserLogWriteRawFormatted text .default env log = (log', dltReturnOk) ∧ log' ≠ log ∧
      log'.buffer.length = log.buffer.length + text.length + (2 + if env.verbose then 4 else 0) := by
  have hinfo : ¬ (env.verbose = true ∧ log.buffer.length + (text.length + 2 + 4) > env.logBufLen.toNat) := by
    rintro ⟨hverbose, hlarge⟩
    rw [if_pos hverbose] at hfits
    omega
  unfold dltUserLogWriteRawFormatted dltUserLogWriteRawInternal
  rw [if_neg (not_not_intro hinit), if_neg (by omega), if_neg hinfo]
  refine ⟨_, rfl, append_ne _ _, ?_⟩
  unfold LogData.append
  dsimp only
  rw [length_append, length_append, length_append, length_typeInfoBytes, length_leBytes]
  omega

end

end library

/-- The library refuses a piece, or cuts it. -/
def Pieces.Fails (env : LogEnv) (a : Pieces) (data : ContextData) (length : ℕ) : Prop :=
  env.initialised = true → env.logBufLen.toNat < data.size + length + a.overhead (isVerboseMode env data)

/-- The library cuts a string that does not fit: there is room for the note that it was cut. -/
def Pieces.Cuts (env : LogEnv) (a : Pieces) (data : ContextData) : Prop :=
  env.initialised = true ∧ a.isText = true ∧ cutSize (writeEnv env data) data.size ≤ env.logBufLen.toNat

/-- The bytes that are looked at where a string is cut are bytes of it. -/
def CutInside (env : LogEnv) (data : ContextData) (piece : List UInt8) : Prop :=
  LooksInside piece (env.logBufLen.toNat - cutSize (writeEnv env data) data.size)

/-- A piece that is refused changes nothing; one that is cut changes the message, or it is undefined. -/
theorem Pieces.write_of_fails (env : LogEnv) (σ : LogState) (data : ContextData) (a : Pieces)
    (hlength : piece.length ≤ tmpSize) (hfails : a.Fails env data piece.length) :
    (¬ a.Cuts env data ∧ ∃ ret, ret < dltReturnOk ∧
        a.write piece (writeEnv env data) (σ.log data) = some (σ.log data, ret)) ∨
      a.Cuts env data ∧ (CutInside env data piece ∧ (∃ log ret, ret < dltReturnOk ∧
          a.write piece (writeEnv env data) (σ.log data) = some (log, ret) ∧ log ≠ σ.log data) ∨
        ¬ CutInside env data piece ∧ a.write piece (writeEnv env data) (σ.log data) = none) := by
  unfold Pieces.Cuts write
  by_cases hinit : env.initialised = true
  swap
  · refine .inl ⟨fun h => hinit h.1, dltReturnError, by decide, ?_⟩
    split_ifs
    · unfold dltUserLogWriteUtf8String dltUserLogWriteSizedStringUtilsAttr
      exact if_pos hinit
    · unfold dltUserLogWriteRawFormatted dltUserLogWriteRawInternal
      exact congrArg some (if_pos hinit)
  have hover := hfails hinit
  unfold overhead at hover
  cases htext : a.isText with
  | true =>
    rw [htext, if_pos rfl] at hover
    have hwrite := @writeUtf8String_of_full (writeEnv env data) (σ.log data) piece hinit hlength
      (by rw [length_log]; exact hover)
    rw [length_log] at hwrite
    by_cases hroom : env.logBufLen.toNat < cutSize (writeEnv env data) data.size
    · rw [if_pos (show (writeEnv env data).logBufLen.toNat < _ from hroom)] at hwrite
      exact .inl ⟨fun h => absurd h.2.2 (by omega), _, dltReturnUserBufferFull_neg, hwrite⟩
    · rw [if_neg (show ¬ (writeEnv env data).logBufLen.toNat < _ from hroom)] at hwrite
      refine .inr ⟨⟨hinit, rfl, by omega⟩, ?_⟩
      rw [if_pos rfl, hwrite]
      refine writeCutString_utf8 _ _ |>.imp_left fun ⟨hinside, log', hcut, hne⟩ => ?_
      exact ⟨hinside, log', _, dltReturnUserBufferFull_neg, hcut, hne⟩
  | false =>
    rw [htext, if_neg Bool.false_ne_true] at hover
    refine .inl ⟨fun h => Bool.false_ne_true h.2.1, dltReturnUserBufferFull, dltReturnUserBufferFull_neg, ?_⟩
    rw [if_neg Bool.false_ne_true, writeRawFormatted_of_full hinit (by rw [length_log]; exact hover)]

theorem Pieces.write_of_not_fails (env : LogEnv) (σ : LogState) (data : ContextData) (a : Pieces)
    (hlength : piece.length ≤ tmpSize) (hfails : ¬ a.Fails env data piece.length) :
    ∃ log, a.write piece (writeEnv env data) (σ.log data) = some (log, dltReturnOk) ∧ log ≠ σ.log data ∧
      log.buffer.length = data.size + piece.length + a.overhead (isVerboseMode env data) := by
  unfold Pieces.Fails at hfails
  push Not at hfails
  obtain ⟨hinit, hover⟩ := hfails
  unfold overhead at hover ⊢
  unfold write
  cases htext : a.isText with
  | true =>
    rw [htext, if_pos rfl] at hover
    rw [if_pos rfl, if_pos rfl, writeUtf8String_of_fits hinit hlength (by rw [length_log]; exact not_lt.mpr hover)]
    refine ⟨_, rfl, append_ne _ _, ?_⟩
    unfold LogData.append
    dsimp only
    rw [length_append, length_append, length_append, length_typeInfoBytes, length_leBytes, length_append,
      length_singleton, length_log]
    change _ = data.size + piece.length + (3 + if (writeEnv env data).verbose = true then 4 else 0)
    omega
  | false =>
    rw [htext, if_neg Bool.false_ne_true] at hover
    rw [if_neg Bool.false_ne_true, if_neg Bool.false_ne_true]
    obtain ⟨log, hwrite, hne, hsize⟩ := @writeRawFormatted_of_fits (writeEnv env data) (σ.log data) piece hinit
      (by rw [length_log]; exact not_lt.mpr hover)
    rw [length_log] at hsize
    exact ⟨log, congrArg some hwrite, hne, hsize⟩

structure Grown (data : ContextData) (n : ℕ) (data' : ContextData) : Prop where
  handle : data'.handle = data.handle
  buffer : data'.buffer = data.buffer
  size : data'.size = data.size + n
  logLevel : data'.logLevel = data.logLevel
  verboseMode : data'.verboseMode = data.verboseMode

theorem SameMemory.writable (h : SameMemory σ σ') (hbuffer : data'.buffer = data.buffer) :
    σ'.Writable data' ↔ σ.Writable data := by
  unfold LogState.Writable
  rw [hbuffer]
  exact exists_congr fun b => and_congr_right fun _ => h.live b

theorem LogState.Writable.releasable (h : σ.Writable data) : σ.Releasable data := by
  obtain ⟨b, hb, hlive⟩ := h
  intro b' hb'
  obtain rfl : b = b' := mem_unique hb hb'
  exact hlive

/-- Writing does not change what `Flush` needs. -/
theorem SameMemory.flushable (h : SameMemory σ σ') (hbuffer : data'.buffer = data.buffer)
    (hwritable : σ.Writable data) : Flushable σ' data' ↔ Flushable σ data := by
  have hdrainable : σ'.Drainable ↔ σ.Drainable := by
    have hearly : σ'.earlyBuffers = σ.earlyBuffers := by
      unfold LogState.earlyBuffers
      rw [h.logBuffer]
    constructor
    · rintro ⟨hkept, hnodup, hlive⟩
      rw [h.logBuffer] at hkept
      rw [hearly] at hnodup hlive
      exact ⟨hkept, hnodup, fun b hb => (h.live b).mp (hlive b hb)⟩
    · rintro ⟨hkept, hnodup, hlive⟩
      rw [← h.logBuffer] at hkept
      rw [← hearly] at hnodup hlive
      exact ⟨hkept, hnodup, fun b hb => (h.live b).mpr (hlive b hb)⟩
  unfold Flushable
  rw [hdrainable, h.loggingInit, h.logBuffer]
  unfold LogState.Pushable
  rw [h.logBuffer, h.bufferSize]
  split_ifs
  · exact Iff.rfl
  · exact Iff.rfl
  · exact ⟨fun _ _ => hwritable.releasable, fun _ _ => ((h.writable hbuffer).mpr hwritable).releasable⟩

/-- The message is exactly full behind the piece. -/
def Pieces.FillsUp (a : Pieces) (σ : LogState) (data : ContextData) (length : ℕ) : Prop :=
  data.size + a.header + length = σ.logLength

instance (σ : LogState) (data : ContextData) (length : ℕ) : Decidable (a.FillsUp σ data length) :=
  inferInstanceAs (Decidable (_ = _))

/-- What a piece needs that the library refuses or cuts. -/
def Pieces.RefusedSafely (env : LogEnv) (a : Pieces) (σ : LogState) (data : ContextData) (piece : List UInt8) : Prop :=
  (a.Cuts env data → CutInside env data piece ∧ σ.Writable data) ∧ (a.FillsUp σ data piece.length → Flushable σ data)

/-- What is left of a turn behind a piece that is refused is the flush. -/
theorem flushIf_refused {length : ℕ} {ret : ℤ} (hret : ret < dltReturnOk) (hs : s'.logLocalData = some (id, data'))
    (hlength : σ'.logLength = σ.logLength) (hflush : Flushable σ' data' ↔ Flushable σ data) :
    (a.FillsUp σ data length → Flushable σ data) ∧
        (∃ r, ((flushIf env (data.size + a.header + length = σ'.logLength) σ' s').map fun x =>
          (if ret < dltReturnOk then .done (x.1, x.2) else .again (x.1, x.2, sent + length) :
            Turn (LogState × LogStream × ℕ) (LogState × LogStream))) = some (.done r)) ∨
      ¬ (a.FillsUp σ data length → Flushable σ data) ∧
        ((flushIf env (data.size + a.header + length = σ'.logLength) σ' s').map fun x =>
          (if ret < dltReturnOk then .done (x.1, x.2) else .again (x.1, x.2, sent + length) :
            Turn (LogState × LogStream × ℕ) (LogState × LogStream))) = none := by
  unfold Pieces.FillsUp flushIf
  rw [hlength]
  by_cases hfull : data.size + a.header + length = σ.logLength
  · rw [if_pos hfull]
    by_cases hflushable : Flushable σ data
    · obtain ⟨x, hx⟩ := exists_flush env hs (hflush.mpr hflushable)
      rw [hx, map_some, if_pos hret]
      exact .inl ⟨fun _ => hflushable, _, rfl⟩
    · rw [flush_of_not_flushable hs fun h => hflushable (hflush.mp h)]
      exact .inr ⟨fun h => hflushable (h hfull), rfl⟩
  · rw [if_neg hfull, map_some, if_pos hret]
    exact .inl ⟨fun h => absurd h hfull, _, rfl⟩

theorem pieceWrite_of_fails (σ : LogState) (sent : ℕ) (hs : s.logLocalData = some (id, data))
    (hlength : piece.length ≤ tmpSize)
    (hfails : a.Fails env data piece.length) :
    a.RefusedSafely env σ data piece ∧ (∃ r, pieceWrite env a σ s data.size sent piece = some (.done r)) ∨
      ¬ a.RefusedSafely env σ data piece ∧ pieceWrite env a σ s data.size sent piece = none := by
  unfold Pieces.RefusedSafely pieceWrite
  rcases a.write_of_fails env σ data hlength hfails with ⟨hcuts, ret, hret, hwrite⟩ |
    ⟨hcuts, ⟨hinside, log, ret, hret, hwrite, hne⟩ | ⟨hinside, hwrite⟩⟩
  · rw [write_of_same hs hwrite, bind_some]
    exact (flushIf_refused hret hs rfl Iff.rfl).imp (And.imp_left fun hflush => ⟨fun h => absurd h hcuts, hflush⟩)
      (And.imp_left fun hflush h => hflush h.2)
  · by_cases hwritable : σ.Writable data
    · obtain ⟨σ', hstream, hmemory⟩ := write_of_changed hs hwrite hne hwritable
      rw [hstream, bind_some]
      refine (@flushIf_refused env σ σ' ⟨some (id, { data with size := log.buffer.length, argsNum := log.argsNum }),
        s.logRet⟩ id data _ a sent piece.length ret hret rfl hmemory.logLength
        (hmemory.flushable rfl hwritable)).imp (And.imp_left fun hflush => ?_) (And.imp_left fun hflush h => hflush h.2)
      exact ⟨fun _ => ⟨hinside, hwritable⟩, hflush⟩
    · rw [write_of_not_writable hs hwrite hne hwritable]
      exact .inr ⟨fun h => hwritable (h.1 hcuts).2, rfl⟩
  · rw [write_of_undefined hs hwrite]
    exact .inr ⟨fun h => hinside (h.1 hcuts).1, rfl⟩

/-- A piece is written: the loop goes on, behind a flush if the message is exactly full. -/
theorem pieceWrite_of_not_fails (sent : ℕ) (hs : s.logLocalData = some (id, data)) (hlength : piece.length ≤ tmpSize)
    (hfails : ¬ a.Fails env data piece.length) (hwritable : σ.Writable data) :
    ∃ σ' s' data', SameMemory σ σ' ∧ s'.logLocalData = some (id, data') ∧
      Grown data (piece.length + a.overhead (isVerboseMode env data)) data' ∧
      pieceWrite env a σ s data.size sent piece =
        (flushIf env (a.FillsUp σ data piece.length) σ' s').map fun x =>
          .again (x.1, x.2, sent + piece.length) := by
  obtain ⟨log, hwrite, hne, hsize⟩ := a.write_of_not_fails env σ data hlength hfails
  obtain ⟨σ', hstream, hmemory⟩ := write_of_changed hs hwrite hne hwritable
  refine ⟨σ', ⟨some (id, { data with size := log.buffer.length, argsNum := log.argsNum }), s.logRet⟩, _, hmemory,
    rfl, ⟨rfl, rfl, hsize.trans (Nat.add_assoc _ _ _), rfl, rfl⟩, ?_⟩
  unfold pieceWrite
  rw [hstream, bind_some]
  dsimp only
  have hlength : σ'.logLength = σ.logLength := hmemory.logLength
  unfold flushIf
  by_cases hfull : a.FillsUp σ data piece.length
  · rw [if_pos hfull, if_pos (Eq.trans hfull hlength.symm)]
    rfl
  · rw [if_neg hfull, if_neg fun h => hfull (Eq.trans h hlength)]
    rfl

theorem pieceWrite_of_not_writable (hs : s.logLocalData = some (id, data)) (hlength : piece.length ≤ tmpSize)
    (hfails : ¬ a.Fails env data piece.length) (hwritable : ¬ σ.Writable data) :
    pieceWrite env a σ s data.size sent piece = none := by
  obtain ⟨log, hwrite, hne, -⟩ := a.write_of_not_fails env σ data hlength hfails
  unfold pieceWrite
  rw [write_of_not_writable hs hwrite hne hwritable]
  rfl

end Dlt.Log
