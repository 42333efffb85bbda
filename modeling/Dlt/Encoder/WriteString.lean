import Dlt.Encoder.WriteAppends

/-!
# Where a string is written

* `dltUserLogWriteSizedStringUtilsAttr_undefined` — for any other string the behaviour is undefined.
* `dltUserLogWriteSizedStringUtilsAttr_agrees` — this writer and the one of `Dlt.User` write the same.
-/

namespace Dlt.Encoder

open Dlt.Lib Dlt.Shared Checked List
open Dlt.Log (CString)
open Dlt.User (WriteEnv StringType LooksInside strTruncatedMessage)

variable {log : LogMemory} {text : List UInt8} {maxPayload : ℕ}
variable {bytes : List UInt8}

/-! ## The end of a text that is cut -/

theorem byteAt_of_le {k : ℕ} {i : ℤ} (hi : i = maxPayload - k) (hpos : 0 < k) (hk : k ≤ maxPayload)
    (hle : maxPayload ≤ text.length) : byteAt text i = some (text.getD (maxPayload - k) 0) := by
  subst hi
  have hto : ((maxPayload : ℤ) - k).toNat = maxPayload - k := by omega
  have hlt : maxPayload - k < text.length := by omega
  unfold byteAt
  rw [if_pos (by omega), hto, getD_eq_getElem?_getD, getElem?_eq_getElem hlt, Option.getD_some]

theorem byteAt_of_lt {k : ℕ} {i : ℤ} (hi : i = maxPayload - k) (hk : maxPayload < k) : byteAt text i = none := by
  subst hi
  exact if_neg (by omega)

/-- **What is looked at where a text is cut** is in the text, or the behaviour is undefined. -/
theorem utf8ReduceSize_result (hle : maxPayload ≤ text.length) (log : LogMemory) :
    (utf8ReduceSize text (maxPayload - 3)).result log =
      if LooksInside text maxPayload then some (.ok (Dlt.User.utf8ReduceSize text maxPayload), log) else none := by
  unfold utf8ReduceSize Dlt.User.utf8ReduceSize
  by_cases hpos : 0 < maxPayload
  swap
  · rw [byteAt_of_lt (k := 1) (by ring) (by omega), if_neg fun h : LooksInside text maxPayload => hpos h.1]
    rfl
  rw [byteAt_of_le (by ring) (by decide) hpos hle, ofOption_some, pure_bind]
  by_cases hlast : text.getD (maxPayload - 1) 0 &&& 0x80 ≠ 0
  swap
  · rw [if_neg hlast, if_neg hlast, if_pos (show LooksInside text maxPayload from ⟨hpos, fun h => absurd h hlast⟩)]
    rfl
  rw [if_pos hlast, if_pos hlast]
  by_cases hbegins : text.getD (maxPayload - 1) 0 &&& 0x40 ≠ 0
  · rw [if_pos hbegins, if_pos hbegins,
      if_pos (show LooksInside text maxPayload from ⟨hpos, fun _ h => absurd h hbegins⟩)]
    rfl
  rw [if_neg hbegins, if_neg hbegins]
  have hmore : LooksInside text maxPayload ↔
      1 < maxPayload ∧ (text.getD (maxPayload - 2) 0 &&& 0xe0 ≠ 0xe0 → 2 < maxPayload) :=
    ⟨fun h => h.2 hlast (not_not.mp hbegins), fun h => ⟨hpos, fun _ _ => h⟩⟩
  by_cases htwo : 1 < maxPayload
  swap
  · rw [byteAt_of_lt (k := 2) (by ring) (by omega), if_neg fun h => htwo (hmore.mp h).1]
    rfl
  rw [byteAt_of_le (by ring) (by decide) htwo hle, ofOption_some, pure_bind]
  by_cases hmiddle : text.getD (maxPayload - 2) 0 &&& 0xe0 = 0xe0
  · rw [if_pos hmiddle, if_pos hmiddle, if_pos (hmore.mpr ⟨htwo, fun h => absurd hmiddle h⟩)]
    rfl
  rw [if_neg hmiddle, if_neg hmiddle]
  by_cases hthree : 2 < maxPayload
  · rw [byteAt_of_le (k := 3) (by ring) (by decide) hthree hle, ofOption_some, pure_bind,
      if_pos (hmore.mpr ⟨htwo, fun _ => hthree⟩)]
    split_ifs <;> rfl
  · rw [byteAt_of_lt (k := 3) (by ring) (by omega), if_neg fun h => hthree ((hmore.mp h).2 hmiddle)]
    rfl

theorem utf8ReduceSize_le (h : LooksInside text maxPayload) :
    Dlt.User.utf8ReduceSize text maxPayload ≤ maxPayload := by
  obtain ⟨hpos, hmore⟩ := h
  unfold Dlt.User.utf8ReduceSize
  split_ifs with hlast hbegins hmiddle
  · exact hpos
  · exact (hmore hlast (not_not.mp hbegins)).1
  · exact (hmore hlast (not_not.mp hbegins)).2 hmiddle
  · exact Nat.zero_le _
  · exact Nat.zero_le _

/-- `reduce_size`. -/
def reduceSize (type : StringType) (text : List UInt8) (maxPayload : ℕ) : ℕ :=
  if type = .utf8String then Dlt.User.utf8ReduceSize text maxPayload else 0

theorem reduceSizeOf_result {type : StringType} (hle : maxPayload ≤ text.length)
    (hinside : type = .utf8String → LooksInside text maxPayload) (log : LogMemory) :
    reduceSize type text maxPayload ≤ maxPayload ∧
      (reduceSizeOf type text maxPayload).result log = some (.ok (reduceSize type text maxPayload), log) := by
  unfold reduceSizeOf reduceSize
  by_cases htype : type = .utf8String
  · rw [if_pos htype, if_pos htype, utf8ReduceSize_result hle, if_pos (hinside htype)]
    exact ⟨utf8ReduceSize_le (hinside htype), rfl⟩
  · rw [if_neg htype, if_neg htype]
    exact ⟨Nat.zero_le _, rfl⟩

/-! ## The string -/

section string

variable (env : WriteEnv)

def stringHeaderBytes (argSize : ℕ) (type : StringType) (name : Option CString) (withVarInfo : Bool) : List UInt8 :=
  (if env.verbose then leBytes 4 (variFlag withVarInfo ||| type.typeInfo) else []) ++
    (leBytes 2 argSize ++ if env.verbose then nameInfoBytes withVarInfo name else [])

theorem length_stringHeaderBytes (argSize : ℕ) (type : StringType) (name : Option CString) (withVarInfo : Bool) :
    (stringHeaderBytes env argSize type name withVarInfo).length = 2 + stringHeaderSize env name withVarInfo := by
  unfold stringHeaderBytes stringHeaderSize
  split_ifs
  · simp only [length_append, length_leBytes, length_nameInfoBytes]
    omega
  · simp

theorem writeStringHeader_appends (argSize : ℕ) (type : StringType) (name : Option CString) (withVarInfo : Bool) :
    Appends (writeStringHeader env argSize type name withVarInfo)
      (stringHeaderBytes env argSize type name withVarInfo) :=
  ((write_appends _).onlyIf env.verbose).bind ((write_appends _).bind
    ((writeNameInfo_appends withVarInfo name).onlyIf env.verbose))

theorem writeWholeString_appends {length : ℕ} (h : length ≤ text.length) :
    Appends (writeWholeString text length (length + 1)) (text.take length ++ [0]) := by
  intro log hroom
  have hlength : (text.take length).length = length := length_take_of_le h
  rw [length_append, hlength, length_singleton] at hroom
  unfold LogMemory.Room at hroom
  have hcopied : poke log.buffer log.size (text.take length) =
      some (overwrite log.buffer log.size (text.take length)) :=
    if_pos (by omega)
  have hzero : poke (overwrite log.buffer log.size (text.take length)) (log.size + length) [0] =
      some (overwrite log.buffer log.size (text.take length ++ [0])) := by
    have hoverwrite := @overwrite_overwrite _ log.size log.buffer (text.take length) [0] (by omega)
    rw [hlength] at hoverwrite
    rw [← hoverwrite]
    refine if_pos ?_
    rw [length_overwrite (by omega), length_singleton]
    omega
  unfold writeWholeString
  rw [peek_zero h, ofOption_some, pure_bind, result_get_bind, hcopied, ofOption_some,
    pure_bind, hzero, ofOption_some, pure_bind]
  unfold LogMemory.written
  rw [length_append, hlength]
  rfl

/-- The zero behind a string that does not fit is written outside the buffer. -/
theorem writeWholeString_undefined {length argSize : ℕ} (h : length ≤ text.length)
    (hroom : log.buffer.length ≤ log.size + length) : (writeWholeString text length argSize).result log = none := by
  unfold writeWholeString
  rw [peek_zero h, ofOption_some, pure_bind, result_get_bind]
  cases hcopied : poke log.buffer log.size (text.take length) with
  | none => rfl
  | some copied =>
    have hzero : poke copied (log.size + length) [0] = none := by
      refine if_neg ?_
      rw [length_poke hcopied, length_singleton]
      omega
    rw [ofOption_some, pure_bind, hzero]
    rfl

variable (text : CallerData) (type : StringType) (name : Option CString) (withVarInfo : Bool)

/-- The string is not `65535` bytes long where it is written whole, and where it is cut, nothing in front of it is
looked at. -/
def StringFits (log : LogMemory) : Prop :=
  env.initialised = true → ∀ bytes, text.bytes = some bytes →
    (newLogSize env log text.length name withVarInfo ≤ env.logBufLen.toNat → text.length.toNat ≠ 65535) ∧
    (env.logBufLen.toNat < newLogSize env log text.length name withVarInfo →
      minPayloadStrTruncateMsg env log name withVarInfo ≤ env.logBufLen.toNat → type = .utf8String →
        LooksInside bytes (env.logBufLen.toNat - minPayloadStrTruncateMsg env log name withVarInfo))

/-- A string is refused, written whole, or cut. -/
inductive StringEnds (x : Writer ℤ) (log : LogMemory) : Prop
  | refused (r : ℤ) (h : x.result log = some (.ok r, log))
  | whole (bytes : List UInt8) (room : log.size + bytes.length ≤ env.logBufLen.toNat)
      (h : x.result log = some (.ok dltReturnOk, (log.written bytes).counted))
  | cut (bytes : List UInt8) (room : log.size + (bytes ++ strTruncatedMessage).length ≤ env.logBufLen.toNat)
      (h : x.result log =
        some (.ok dltReturnUserBufferFull, (log.written (bytes ++ strTruncatedMessage)).counted))

theorem length_strTruncatedMessage : strTruncatedMessage.length = 36 := rfl

variable {env text name withVarInfo} in
theorem maxPayload_le (hbytes : text.bytes = some bytes)
    (hlong : env.logBufLen.toNat < newLogSize env log text.length name withVarInfo) :
    env.logBufLen.toNat - minPayloadStrTruncateMsg env log name withVarInfo ≤ bytes.length := by
  have hle := text.length_le bytes hbytes
  unfold newLogSize at hlong
  unfold minPayloadStrTruncateMsg
  rw [length_strTruncatedMessage]
  omega

theorem dltUserLogWriteSizedStringUtilsAttr_result (hbytes : text.bytes = some bytes)
    (hinit : env.initialised = true) (log : LogMemory) :
    (dltUserLogWriteSizedStringUtilsAttr env text type name withVarInfo).result log =
      if newLogSize env log text.length name withVarInfo > env.logBufLen.toNat then
        if minPayloadStrTruncateMsg env log name withVarInfo > env.logBufLen.toNat then
          some (.ok dltReturnUserBufferFull, log)
        else (cutString env type name withVarInfo log bytes
          (env.logBufLen.toNat - minPayloadStrTruncateMsg env log name withVarInfo)).result log
      else (wholeString env text type name withVarInfo bytes).result log := by
  unfold dltUserLogWriteSizedStringUtilsAttr
  rw [hbytes]
  dsimp only
  rw [if_neg (not_not_intro hinit), result_get_bind]
  by_cases hlong : newLogSize env log text.length name withVarInfo > env.logBufLen.toNat
  swap
  · rw [if_neg hlong, if_neg hlong]
  rw [if_pos hlong, if_pos hlong]
  by_cases hmin : minPayloadStrTruncateMsg env log name withVarInfo > env.logBufLen.toNat
  · rw [if_pos hmin, if_pos hmin]
    rfl
  · rw [if_neg hmin, if_neg hmin]

/-- Nothing is written without the library or without a string. -/
theorem dltUserLogWriteSizedStringUtilsAttr_refused (h : ¬ (text.bytes.isSome ∧ env.initialised = true))
    (log : LogMemory) : ∃ r, (dltUserLogWriteSizedStringUtilsAttr env text type name withVarInfo).result log =
      some (.ok r, log) := by
  unfold dltUserLogWriteSizedStringUtilsAttr
  cases hbytes : text.bytes with
  | none => exact ⟨dltReturnWrongParameter, rfl⟩
  | some bytes =>
    have hinit : ¬ env.initialised = true := fun hinit => h ⟨by rw [hbytes]; rfl, hinit⟩
    dsimp only
    rw [if_pos hinit]
    exact ⟨dltReturnError, rfl⟩

variable {env text type name withVarInfo}

/-- The length that is written in front of a string that is cut. -/
theorem argSize_cut (hmin : minPayloadStrTruncateMsg env log name withVarInfo ≤ env.logBufLen.toNat)
    (hmax : maxPayload = env.logBufLen.toNat - minPayloadStrTruncateMsg env log name withVarInfo) {n : ℕ}
    (hn : n ≤ maxPayload) : env.logBufLen.toNat - log.size - 2 - stringHeaderSize env name withVarInfo - n =
      maxPayload - n + strTruncatedMessage.length := by
  unfold minPayloadStrTruncateMsg at hmin hmax
  omega

section

variable (hbuffer : log.buffer.length = env.logBufLen.toNat)
include hbuffer

theorem wholeString_result (hbytes : text.bytes = some bytes) (hlength : text.length.toNat ≠ 65535)
    (hshort : newLogSize env log text.length name withVarInfo ≤ env.logBufLen.toNat) :
    log.size + (stringHeaderBytes env (text.length.toNat + 1) type name withVarInfo ++
        (bytes.take text.length.toNat ++ [0])).length ≤ env.logBufLen.toNat ∧
      (wholeString env text type name withVarInfo bytes).result log =
        some (.ok dltReturnOk, (log.written (stringHeaderBytes env (text.length.toNat + 1) type name withVarInfo ++
          (bytes.take text.length.toNat ++ [0]))).counted) := by
  have hle := text.length_le bytes hbytes
  have hlt : text.length.toNat < 65536 := text.length.toNat_lt
  have hargSize : (text.length.toNat + 1) % 65536 = text.length.toNat + 1 := Nat.mod_eq_of_lt (by omega)
  have happends := (writeStringHeader_appends env (text.length.toNat + 1) type name withVarInfo).bind
    (writeWholeString_appends hle)
  have hroom : log.size + (stringHeaderBytes env (text.length.toNat + 1) type name withVarInfo ++
      (bytes.take text.length.toNat ++ [0])).length ≤ env.logBufLen.toNat := by
    rw [length_append, length_append, length_stringHeaderBytes, length_take_of_le hle,
      length_singleton]
    unfold newLogSize at hshort
    omega
  refine ⟨hroom, ?_⟩
  unfold wholeString
  rw [hargSize]
  simpa only [bind_assoc] using result_counted happends dltReturnOk (hroom.trans_eq hbuffer.symm)

/-- A string of `65535` bytes is not written inside the buffer. -/
theorem wholeString_undefined (hbytes : text.bytes = some bytes) (hlength : text.length.toNat = 65535)
    (hshort : newLogSize env log text.length name withVarInfo ≤ env.logBufLen.toNat) :
    (wholeString env text type name withVarInfo bytes).result log = none := by
  have hle := text.length_le bytes hbytes
  have hbound : env.logBufLen.toNat < 65536 := env.logBufLen.toNat_lt
  have hheader := writeStringHeader_appends env ((text.length.toNat + 1) % 65536) type name withVarInfo
  unfold newLogSize at hshort
  have hroom : log.Room (stringHeaderBytes env ((text.length.toNat + 1) % 65536) type name withVarInfo).length := by
    rw [length_stringHeaderBytes]
    unfold LogMemory.Room
    omega
  unfold wholeString
  rw [result_bind_of_ok (hheader log hroom), result_bind, writeWholeString_undefined hle]
  · rfl
  · rw [length_written hroom, size_written, length_stringHeaderBytes]
    omega

/-- A string that is cut. -/
theorem cutString_result (hmin : minPayloadStrTruncateMsg env log name withVarInfo ≤ env.logBufLen.toNat)
    (hmax : maxPayload = env.logBufLen.toNat - minPayloadStrTruncateMsg env log name withVarInfo)
    (hle : maxPayload ≤ bytes.length) (hinside : type = .utf8String → LooksInside bytes maxPayload)
    {n : ℕ} (hreduce : reduceSize type bytes maxPayload = n) :
    log.size + (stringHeaderBytes env (maxPayload - n + strTruncatedMessage.length) type name withVarInfo ++
        bytes.take (maxPayload - n) ++ strTruncatedMessage).length ≤ env.logBufLen.toNat ∧
      (cutString env type name withVarInfo log bytes maxPayload).result log =
        some (.ok dltReturnUserBufferFull, (log.written
          (stringHeaderBytes env (maxPayload - n + strTruncatedMessage.length) type name withVarInfo ++
            bytes.take (maxPayload - n) ++ strTruncatedMessage)).counted) := by
  obtain ⟨hn, hresult⟩ := reduceSizeOf_result hle hinside log
  rw [hreduce] at hn hresult
  have hpart : maxPayload - n ≤ bytes.length := by omega
  have hargSize := argSize_cut hmin hmax hn
  have happends := ((writeStringHeader_appends env (maxPayload - n + strTruncatedMessage.length) type name
    withVarInfo).bind (write_appends (bytes.take (maxPayload - n)))).bind (write_appends strTruncatedMessage)
  have hroom : log.size + (stringHeaderBytes env (maxPayload - n + strTruncatedMessage.length) type name
      withVarInfo ++ bytes.take (maxPayload - n) ++ strTruncatedMessage).length ≤ env.logBufLen.toNat := by
    rw [length_append, length_append, length_stringHeaderBytes, length_take_of_le hpart]
    unfold minPayloadStrTruncateMsg at hmin hmax
    omega
  refine ⟨hroom, ?_⟩
  unfold cutString
  rw [result_bind_of_ok hresult, peek_zero hpart, hargSize]
  simpa only [bind_assoc, ofOption_some, pure_bind] using
    result_counted happends dltReturnUserBufferFull (hroom.trans_eq hbuffer.symm)

end

theorem cutString_undefined (hbytes : text.bytes = some bytes)
    (hlong : env.logBufLen.toNat < newLogSize env log text.length name withVarInfo) (htype : type = .utf8String)
    (hinside : ¬ LooksInside bytes (env.logBufLen.toNat - minPayloadStrTruncateMsg env log name withVarInfo)) :
    (cutString env type name withVarInfo log bytes
      (env.logBufLen.toNat - minPayloadStrTruncateMsg env log name withVarInfo)).result log = none := by
  unfold cutString reduceSizeOf
  rw [if_pos htype, result_bind, utf8ReduceSize_result (maxPayload_le hbytes hlong), if_neg hinside]
  rfl

/-! ## The function -/

/-- **A string that fits is refused, written whole, or cut.** -/
theorem dltUserLogWriteSizedStringUtilsAttr_ends (hbuffer : log.buffer.length = env.logBufLen.toNat)
    (h : StringFits env text type name withVarInfo log) :
    StringEnds env (dltUserLogWriteSizedStringUtilsAttr env text type name withVarInfo) log := by
  by_cases hrefused : ¬ (text.bytes.isSome ∧ env.initialised = true)
  · obtain ⟨r, hr⟩ := dltUserLogWriteSizedStringUtilsAttr_refused env text type name withVarInfo hrefused log
    exact .refused r hr
  obtain ⟨hsome, hinit⟩ := not_not.mp hrefused
  obtain ⟨bytes, hbytes⟩ := Option.isSome_iff_exists.mp hsome
  obtain ⟨hwhole, hcut⟩ := h hinit bytes hbytes
  have hresult := dltUserLogWriteSizedStringUtilsAttr_result env text type name withVarInfo hbytes hinit log
  by_cases hlong : newLogSize env log text.length name withVarInfo > env.logBufLen.toNat
  swap
  · obtain ⟨hroom, hends⟩ :=
      @wholeString_result log bytes env text type name withVarInfo hbuffer hbytes (hwhole (not_lt.mp hlong))
        (not_lt.mp hlong)
    rw [if_neg hlong] at hresult
    exact .whole _ hroom (hresult.trans hends)
  rw [if_pos hlong] at hresult
  by_cases hmin : minPayloadStrTruncateMsg env log name withVarInfo > env.logBufLen.toNat
  · rw [if_pos hmin] at hresult
    exact .refused _ hresult
  · rw [if_neg hmin] at hresult
    obtain ⟨hroom, hends⟩ :=
      cutString_result hbuffer (not_lt.mp hmin) rfl (maxPayload_le hbytes hlong) (hcut hlong (not_lt.mp hmin)) rfl
    exact .cut _ hroom (hresult.trans hends)

/-- **For any other string the behaviour is undefined.** -/
theorem dltUserLogWriteSizedStringUtilsAttr_undefined (hbuffer : log.buffer.length = env.logBufLen.toNat)
    (h : ¬ StringFits env text type name withVarInfo log) :
    (dltUserLogWriteSizedStringUtilsAttr env text type name withVarInfo).result log = none := by
  unfold StringFits at h
  push Not at h
  obtain ⟨hinit, bytes, hbytes, hfails⟩ := h
  rw [dltUserLogWriteSizedStringUtilsAttr_result env text type name withVarInfo hbytes hinit log]
  by_cases hlong : newLogSize env log text.length name withVarInfo > env.logBufLen.toNat
  · obtain ⟨hmin, htype, hinside⟩ := (hfails fun h' => absurd h' (not_le.mpr hlong)).2
    rw [if_pos hlong, if_neg (not_lt.mpr hmin)]
    exact cutString_undefined hbytes hlong htype hinside
  · rw [if_neg hlong]
    by_cases hlength : text.length.toNat = 65535
    · exact wholeString_undefined hbuffer hbytes hlength (not_lt.mp hlong)
    · exact absurd (hfails fun _ => hlength).1 hlong

/-! ## Without information about the variable -/

/-- The part of the buffer that is used. -/
def LogMemory.data (log : LogMemory) : Dlt.User.LogData := ⟨log.buffer.take log.size, log.argsNum⟩

theorem data_counted (h : log.Room bytes.length) : (log.written bytes).counted.data = log.data.append bytes :=
  congrArg (Dlt.User.LogData.mk · _) (content_written h)

theorem stringHeaderBytes_none (argSize : ℕ) :
    stringHeaderBytes env argSize type none false =
      Dlt.User.typeInfoBytes env type.typeInfo ++ leBytes 2 argSize := by
  unfold stringHeaderBytes Dlt.User.typeInfoBytes variFlag nameInfoBytes
  cases env.verbose with
  | false => simp
  | true => simp

/-- Only what is left of a text is looked at. -/
theorem looksAt_take {n : ℕ} (hle : maxPayload ≤ n) :
    (LooksInside (bytes.take n) maxPayload ↔ LooksInside bytes maxPayload) ∧
      (LooksInside bytes maxPayload →
        Dlt.User.utf8ReduceSize (bytes.take n) maxPayload = Dlt.User.utf8ReduceSize bytes maxPayload) := by
  have hget : ∀ k, 0 < k → 0 < maxPayload →
      (bytes.take n).getD (maxPayload - k) 0 = bytes.getD (maxPayload - k) 0 := by
    intro k hk hpos
    rw [getD_eq_getElem?_getD, getD_eq_getElem?_getD, getElem?_take_of_lt (by omega)]
  by_cases hpos : 0 < maxPayload
  · unfold LooksInside Dlt.User.utf8ReduceSize
    rw [hget 1 (by decide) hpos, hget 2 (by decide) hpos, hget 3 (by decide) hpos]
    exact ⟨Iff.rfl, fun _ => rfl⟩
  · exact ⟨⟨fun h => absurd h.1 hpos, fun h => absurd h.1 hpos⟩, fun h => absurd h.1 hpos⟩

section

variable (hsize : log.size ≤ log.buffer.length) (hle : text.length.toNat ≤ bytes.length)
include hsize hle

theorem writeString_data (hinit : env.initialised = true) :
    Dlt.User.dltUserLogWriteSizedStringUtilsAttr env log.data (bytes.take text.length.toNat) type =
      if newLogSize env log text.length none false > env.logBufLen.toNat then
        if minPayloadStrTruncateMsg env log none false > env.logBufLen.toNat then
          some (log.data, dltReturnUserBufferFull)
        else
          Dlt.User.writeCutString env log.data (bytes.take text.length.toNat) type (stringHeaderSize env none false)
            (env.logBufLen.toNat - minPayloadStrTruncateMsg env log none false)
      else some (log.data.append (Dlt.User.typeInfoBytes env type.typeInfo ++
        leBytes 2 ((text.length.toNat + 1) % 65536) ++
          (bytes.take text.length.toNat ++ [0]).take ((text.length.toNat + 1) % 65536)), dltReturnOk) := by
  have hused : log.data.buffer.length = log.size := length_take_of_le hsize
  unfold Dlt.User.dltUserLogWriteSizedStringUtilsAttr
  rw [if_neg (not_not_intro hinit), hused, length_take_of_le hle]
  rfl

end

/-- **The function agrees with the one without information about the variable**: on the used part of the buffer, and
where the behaviour is undefined. -/
theorem dltUserLogWriteSizedStringUtilsAttr_agrees (hbuffer : log.buffer.length = env.logBufLen.toNat)
    (hsize : log.size ≤ log.buffer.length) (hbytes : text.bytes = some bytes) (hlength : text.length.toNat ≠ 65535) :
    ((dltUserLogWriteSizedStringUtilsAttr env text type none false).result log).map (fun r => (r.2.data, r.1)) =
      (Dlt.User.dltUserLogWriteSizedStringUtilsAttr env log.data (bytes.take text.length.toNat) type).map
        fun r => (r.1, .ok r.2) := by
  have hle := text.length_le bytes hbytes
  by_cases hinit : env.initialised = true
  swap
  · unfold dltUserLogWriteSizedStringUtilsAttr Dlt.User.dltUserLogWriteSizedStringUtilsAttr
    rw [hbytes, if_pos hinit]
    dsimp only
    rw [if_pos hinit]
    rfl
  rw [dltUserLogWriteSizedStringUtilsAttr_result env text type none false hbytes hinit log,
    writeString_data hsize hle hinit]
  by_cases hlong : newLogSize env log text.length none false > env.logBufLen.toNat
  swap
  · obtain ⟨hroom, hwhole⟩ := @wholeString_result log bytes env text type none false hbuffer hbytes hlength
      (not_lt.mp hlong)
    have hargSize : (text.length.toNat + 1) % 65536 = text.length.toNat + 1 :=
      Nat.mod_eq_of_lt (by have := text.length.toNat_lt; omega)
    have htext : (bytes.take text.length.toNat ++ [0]).length = text.length.toNat + 1 := by
      rw [length_append, length_take_of_le hle, length_singleton]
    rw [if_neg hlong, if_neg hlong, hwhole, hargSize, take_of_length_le htext.le, Option.map_some, Option.map_some,
      data_counted (hroom.trans_eq hbuffer.symm), stringHeaderBytes_none, append_assoc]
  rw [if_pos hlong, if_pos hlong]
  by_cases hmin : minPayloadStrTruncateMsg env log none false > env.logBufLen.toNat
  · rw [if_pos hmin, if_pos hmin]
    rfl
  rw [if_neg hmin, if_neg hmin]
  generalize hmax : env.logBufLen.toNat - minPayloadStrTruncateMsg env log none false = maxPayload
  have hpart : maxPayload ≤ text.length.toNat := by
    unfold newLogSize at hlong
    unfold minPayloadStrTruncateMsg at hmax
    rw [length_strTruncatedMessage] at hmax
    omega
  obtain ⟨hlooks, hsame⟩ := @looksAt_take maxPayload bytes _ hpart
  unfold Dlt.User.writeCutString
  by_cases hinside : type = .utf8String → LooksInside bytes maxPayload
  swap
  · obtain ⟨htype, hnot⟩ := Classical.not_imp.mp hinside
    subst hmax
    rw [if_pos ⟨htype, fun h => hnot (hlooks.mp h)⟩, cutString_undefined hbytes hlong htype hnot]
    rfl
  have hreduce : reduceSize type bytes maxPayload =
      if type = .utf8String then Dlt.User.utf8ReduceSize (bytes.take text.length.toNat) maxPayload else 0 := by
    unfold reduceSize
    split_ifs with htype
    · exact (hsame (hinside htype)).symm
    · rfl
  have hused : log.data.buffer.length = log.size := length_take_of_le hsize
  obtain ⟨hroom, hcut⟩ := cutString_result hbuffer (not_lt.mp hmin) hmax.symm (hpart.trans hle) hinside rfl
  rw [if_neg fun h => h.2 (hlooks.mpr (hinside h.1)), hcut, Option.map_some,
    data_counted (hroom.trans_eq hbuffer.symm), stringHeaderBytes_none]
  dsimp only
  rw [← hreduce, hused, Option.map_some, take_take, Nat.min_eq_left (by omega),
    argSize_cut (not_lt.mp hmin) hmax.symm (reduceSizeOf_result (hpart.trans hle) hinside log).1]

end string

end Dlt.Encoder
