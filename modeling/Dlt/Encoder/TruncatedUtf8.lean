import Dlt.Encoder.WriteSafe
import Dlt.Lib.Utf8

/-!
# A text in UTF-8 that is cut

* `reduce_ascii`, …, `reduce_none` — what `utf8ReduceSize` gives for the last bytes before the cut.
* `truncatedUtf8_iff` — a text in UTF-8 that is cut is stored right exactly when `CutSeesText` holds. The masks are
  right for every character; the three bytes are looked at without a check that they are there.
-/

namespace Dlt.Encoder

open Dlt.Lib Dlt.Shared Checked List
open Dlt.Log (CString)
open String (utf8EncodeChar)
open Dlt.User (WriteEnv StringType LooksInside strTruncatedMessage)

/-! ## The last bytes before the cut -/

section masks

variable {text : List UInt8} {maxPayload : ℕ}

/-- What is looked at is in the text, and `n` bytes are cut from its end. -/
structure Reduces (text : List UInt8) (maxPayload n : ℕ) : Prop where
  inside : LooksInside text maxPayload
  size : Dlt.User.utf8ReduceSize text maxPayload = n

theorem reduce_ascii (hpos : 0 < maxPayload) (hlast : (text.getD (maxPayload - 1) 0).toNat < 128) :
    Reduces text maxPayload 0 := by
  have hhigh : ¬ text.getD (maxPayload - 1) 0 &&& 0x80 ≠ 0 := by
    rw [and_0x80_iff]
    omega
  exact ⟨⟨hpos, fun h => absurd h hhigh⟩, if_neg hhigh⟩

theorem reduce_first (hpos : 0 < maxPayload) (hlast : 192 ≤ (text.getD (maxPayload - 1) 0).toNat) :
    Reduces text maxPayload 1 := by
  have hhigh : text.getD (maxPayload - 1) 0 &&& 0x80 ≠ 0 := by
    rw [and_0x80_iff]
    omega
  have hfirst : text.getD (maxPayload - 1) 0 &&& 0x40 ≠ 0 := by
    rw [and_0x40_iff _ (by omega)]
    exact hlast
  exact ⟨⟨hpos, fun _ h => absurd h hfirst⟩, (if_pos hhigh).trans (if_pos hfirst)⟩

section continuation

variable (hlast : Continuation (text.getD (maxPayload - 1) 0))
include hlast

/-- Where the last byte is a continuation byte, the one before it decides next. -/
theorem reduce_continuation :
    Dlt.User.utf8ReduceSize text maxPayload =
      if 224 ≤ (text.getD (maxPayload - 2) 0).toNat then 2
      else if 240 ≤ (text.getD (maxPayload - 3) 0).toNat then 3 else 0 := by
  obtain ⟨hlow, hhigh⟩ := hlast
  have hnext : ¬ text.getD (maxPayload - 1) 0 &&& 0x40 ≠ 0 := by
    rw [and_0x40_iff _ hlow]
    omega
  unfold Dlt.User.utf8ReduceSize
  rw [if_pos ((and_0x80_iff _).mpr hlow), if_neg hnext]
  simp only [and_0xe0_iff, and_0xf0_iff]

theorem reduce_second (htwo : 1 < maxPayload) (hfirst : 224 ≤ (text.getD (maxPayload - 2) 0).toNat) :
    Reduces text maxPayload 2 :=
  ⟨⟨by omega, fun _ _ => ⟨htwo, fun h => absurd ((and_0xe0_iff _).mpr hfirst) h⟩⟩, by
    rw [reduce_continuation hlast, if_pos hfirst]⟩

theorem reduce_third (hthree : 2 < maxPayload) (hmiddle : (text.getD (maxPayload - 2) 0).toNat < 224)
    (hfirst : 240 ≤ (text.getD (maxPayload - 3) 0).toNat) : Reduces text maxPayload 3 :=
  ⟨⟨by omega, fun _ _ => ⟨by omega, fun _ => hthree⟩⟩, by
    rw [reduce_continuation hlast, if_neg (by omega), if_pos hfirst]⟩

/-- The text ends with the last byte of a character of two bytes or more. -/
theorem reduce_none (hthree : 2 < maxPayload) (hmiddle : (text.getD (maxPayload - 2) 0).toNat < 224)
    (hfirst : (text.getD (maxPayload - 3) 0).toNat < 240) : Reduces text maxPayload 0 :=
  ⟨⟨by omega, fun _ _ => ⟨by omega, fun _ => hthree⟩⟩, by
    rw [reduce_continuation hlast, if_neg (by omega), if_neg (by omega)]⟩

end continuation

end masks

/-! ## A text in UTF-8 -/

section text

variable {pre post : List Char} {x : Char} {maxPayload j : ℕ}

/-- A byte before the cut, where the cut is in a character or behind it. -/
theorem getD_before_cut (hcut : maxPayload = (encoded utf8EncodeChar pre).length + j)
    (hj : j ≤ (utf8EncodeChar x).length) {k : ℕ} (hpos : 0 < k) (hk : k ≤ j) :
    (encoded utf8EncodeChar (pre ++ x :: post)).getD (maxPayload - k) 0 = (utf8EncodeChar x).getD (j - k) 0 := by
  have hindex : maxPayload - k = (encoded utf8EncodeChar pre).length + (j - k) := by omega
  rw [hindex]
  exact getD_encoded 0 (by omega)

/-- **The cut is in a character**: its bytes before the cut are taken away. -/
theorem reduce_inside (hcut : maxPayload = (encoded utf8EncodeChar pre).length + j) (hpos : 0 < j)
    (hj : j < (utf8EncodeChar x).length) : Reduces (encoded utf8EncodeChar (pre ++ x :: post)) maxPayload j := by
  have hbyte : ∀ k, 0 < k → k ≤ j →
      (encoded utf8EncodeChar (pre ++ x :: post)).getD (maxPayload - k) 0 = (utf8EncodeChar x).getD (j - k) 0 :=
    fun k hk hkj => getD_before_cut hcut hj.le hk hkj
  have hchar := charBytes_encode x
  have hfour := hchar.length.2
  rcases (by omega : j = 1 ∨ j = 2 ∨ j = 3) with rfl | rfl | rfl
  · apply reduce_first (by omega)
    rw [hbyte 1 (by decide) le_rfl]
    exact hchar.first hj
  · obtain ⟨hlast, hfirst⟩ := hchar.second hj
    refine reduce_second ?_ (by omega) ?_
    · rw [hbyte 1 (by decide) (by decide)]
      exact hlast
    · rw [hbyte 2 (by decide) le_rfl]
      exact hfirst
  · obtain ⟨hlast, hmiddle, hfirst⟩ := hchar.third hj
    refine reduce_third ?_ (by omega) ?_ ?_
    · rw [hbyte 1 (by decide) (by decide)]
      exact hlast
    · rw [hbyte 2 (by decide) (by decide)]
      exact hmiddle
    · rw [hbyte 3 (by decide) le_rfl]
      exact hfirst

/-- The last byte of the text in front of a character is not the first byte of several. -/
theorem getD_before_char (hpre : pre ≠ []) (tail : List UInt8) :
    ((encoded utf8EncodeChar pre ++ tail).getD ((encoded utf8EncodeChar pre).length - 1) 0).toNat < 192 := by
  obtain ⟨first, last, rfl⟩ : ∃ first last, pre = first ++ [last] :=
    ⟨pre.dropLast, pre.getLast hpre, (dropLast_append_getLast hpre).symm⟩
  have hchar := charBytes_encode last
  have hpos := hchar.length.1
  have hlength := @length_encoded_concat _ _ utf8EncodeChar first last
  have hindex : (encoded utf8EncodeChar (first ++ [last])).length - 1 =
      (encoded utf8EncodeChar first).length + ((utf8EncodeChar last).length - 1) := by omega
  have hinside : (encoded utf8EncodeChar (first ++ [last])).length - 1 <
      (encoded utf8EncodeChar (first ++ [last])).length := by omega
  rw [getD_append _ _ _ _ hinside, hindex, getD_encoded 0 (by omega)]
  exact hchar.last

/-- **The cut is behind a character**: nothing is taken away, unless the text is just a character of two bytes. -/
theorem reduce_between (hcut : maxPayload = (encoded utf8EncodeChar (pre ++ [x])).length)
    (htwo : pre = [] → (utf8EncodeChar x).length ≠ 2) :
    Reduces (encoded utf8EncodeChar (pre ++ x :: post)) maxPayload 0 := by
  rw [length_encoded_concat] at hcut
  have hbyte : ∀ k, 0 < k → k ≤ (utf8EncodeChar x).length →
      (encoded utf8EncodeChar (pre ++ x :: post)).getD (maxPayload - k) 0 =
        (utf8EncodeChar x).getD ((utf8EncodeChar x).length - k) 0 :=
    fun k hk hkj => getD_before_cut hcut le_rfl hk hkj
  have hchar := charBytes_encode x
  obtain ⟨hpos, hfour⟩ := hchar.length
  by_cases hone : (utf8EncodeChar x).length = 1
  · apply reduce_ascii (by omega)
    rw [hbyte 1 (by decide) hpos, hone]
    exact hchar.whole_one hone
  by_cases hpair : (utf8EncodeChar x).length = 2
  · -- the byte before is the last one of another character
    obtain ⟨hlast, hfirst⟩ := hchar.whole_two hpair
    have hpre : pre ≠ [] := fun h => htwo h hpair
    have hbefore := @getD_before_char pre hpre (encoded utf8EncodeChar (x :: post))
    have hnonempty : 0 < (encoded utf8EncodeChar pre).length := by
      obtain ⟨first, rest, rfl⟩ := exists_cons_of_ne_nil hpre
      rw [encoded_cons, length_append]
      exact Nat.add_pos_left (charBytes_encode first).length.1 _
    refine reduce_none ?_ (by omega) ?_ ?_
    · rw [hbyte 1 (by decide) hpos, hpair]
      exact hlast
    · rw [hbyte 2 (by decide) hpair.ge, hpair]
      exact hfirst
    · have hindex : maxPayload - 3 = (encoded utf8EncodeChar pre).length - 1 := by omega
      rw [hindex, encoded_append]
      exact hbefore.trans (by decide)
  · have hlong : 2 < (utf8EncodeChar x).length := by omega
    obtain ⟨hlast, hmiddle, hfirst⟩ := hchar.whole_three hlong
    refine reduce_none ?_ (by omega) ?_ ?_
    · rw [hbyte 1 (by decide) (by omega)]
      exact hlast
    · rw [hbyte 2 (by decide) (by omega)]
      exact hmiddle
    · rw [hbyte 3 (by decide) (by omega)]
      exact hfirst

/-- What is looked at where a text is cut is in the text: there is something to look at, and it is not just a
character of two bytes. -/
def CutSeesText (chars : List Char) (maxPayload : ℕ) : Prop :=
  0 < maxPayload ∧ (maxPayload = 2 → chars.head?.map (fun c => (utf8EncodeChar c).length) ≠ some 2)

variable {chars : List Char}

/-- **The cut is right** where what is looked at is in the text. -/
theorem utf8ReduceSize_right (hlt : maxPayload < (encoded utf8EncodeChar chars).length)
    (h : CutSeesText chars maxPayload) :
    ∃ n, Reduces (encoded utf8EncodeChar chars) maxPayload n ∧
      LongestFitting utf8EncodeChar chars maxPayload ((encoded utf8EncodeChar chars).take (maxPayload - n)) := by
  obtain ⟨hpos, hpair⟩ := h
  obtain ⟨pre, x, post, rfl, hle, hin⟩ := exists_cut hlt
  have hlongest := @longestFitting_of_cut _ _ utf8EncodeChar pre post x maxPayload hle hin
  have hkept : (encoded utf8EncodeChar (pre ++ x :: post)).take (encoded utf8EncodeChar pre).length =
      encoded utf8EncodeChar pre := by
    rw [encoded_append]
    exact take_left
  obtain ⟨j, rfl⟩ := Nat.exists_eq_add_of_le hle
  by_cases hinside : 0 < j
  · refine ⟨j, reduce_inside rfl hinside (by omega), ?_⟩
    rw [Nat.add_sub_cancel, hkept]
    exact hlongest
  · obtain rfl : j = 0 := by omega
    refine ⟨0, ?_, ?_⟩
    · -- the character before the cut
      have hne : pre ≠ [] := by
        rintro rfl
        exact absurd hpos (lt_irrefl 0)
      obtain ⟨first, last, rfl⟩ : ∃ first last, pre = first ++ [last] :=
        ⟨pre.dropLast, pre.getLast hne, (dropLast_append_getLast hne).symm⟩
      rw [append_assoc, singleton_append]
      refine reduce_between rfl ?_
      rintro rfl htwo
      refine hpair ?_ ?_
      · rw [length_encoded_concat, encoded_nil, length_nil]
        omega
      · rw [← htwo]
        rfl
    · rw [Nat.sub_zero, Nat.add_zero, hkept]
      exact hlongest

/-- **What is looked at is in the text** only there. -/
theorem cutSeesText_of_inside (hlt : maxPayload < (encoded utf8EncodeChar chars).length)
    (h : LooksInside (encoded utf8EncodeChar chars) maxPayload) : CutSeesText chars maxPayload := by
  obtain ⟨hpos, hmore⟩ := h
  refine ⟨hpos, ?_⟩
  rintro rfl hhead
  -- the text begins with a character of two bytes
  obtain ⟨c, rest, rfl⟩ : ∃ c rest, chars = c :: rest := by
    cases chars with
    | nil => cases hhead
    | cons c rest => exact ⟨c, rest, rfl⟩
  have hlength : (utf8EncodeChar c).length = 2 := Option.some.inj hhead
  obtain ⟨hlast, hfirst⟩ := (charBytes_encode c).whole_two hlength
  have hbyte : ∀ i < 2, (encoded utf8EncodeChar (c :: rest)).getD i 0 = (utf8EncodeChar c).getD i 0 := by
    intro i hi
    rw [encoded_cons, getD_append _ _ _ _ (by omega)]
  obtain ⟨hlow, hhigh⟩ := hlast
  rw [hbyte 1 (by decide), hbyte 0 (by decide)] at hmore
  have hmulti := (and_0x80_iff _).mpr hlow
  have hnext : (utf8EncodeChar c).getD 1 0 &&& 0x40 = 0 := by
    by_contra hne
    have := (and_0x40_iff _ hlow).mp hne
    omega
  have hnotlong : (utf8EncodeChar c).getD 0 0 &&& 0xe0 ≠ 0xe0 := by
    intro heq
    have := (and_0xe0_iff _).mp heq
    omega
  exact absurd ((hmore hmulti hnext).2 hnotlong) (lt_irrefl 2)

end text

/-! ## The argument -/

section argument

/-- The memory ends with the text. -/
def CallerData.exact (text : CallerData) : CallerData where
  bytes := text.bytes.map fun bytes => bytes.take text.length.toNat
  length := text.length
  length_le b hb := by
    obtain ⟨bytes, hbytes, rfl⟩ := Option.map_eq_some_iff.mp hb
    rw [List.length_take]
    exact le_min le_rfl (text.length_le bytes hbytes)

/-- The caller's text, in UTF-8. -/
def IsUtf8 (text : CallerData) (chars : List Char) : Prop :=
  ∃ bytes, text.bytes = some bytes ∧ bytes.take text.length.toNat = encoded utf8EncodeChar chars

variable (env : WriteEnv) (log : LogMemory) (text : CallerData) (name : Option CString) (withVarInfo : Bool)

/-- The text does not fit and is cut: the note that says so fits. -/
structure Truncates : Prop where
  initialised : env.initialised = true
  too_long : env.logBufLen.toNat < newLogSize env log text.length name withVarInfo
  room : minPayloadStrTruncateMsg env log name withVarInfo ≤ env.logBufLen.toNat

/-- The room for the text in front of the note.
Source: `dlt_user.c`, `dlt_user_log_write_sized_string_utils_attr`, `max_payload_str_msg` -/
def maxPayloadStrMsg : ℕ := env.logBufLen.toNat - minPayloadStrTruncateMsg env log name withVarInfo

/-- The longest part of whole characters that fits is stored, with the note and its zero behind it and their length
in front of it, and no byte but those of the text is read. -/
structure TruncatedRight (chars : List Char) : Prop where
  stored : ∃ kept, LongestFitting utf8EncodeChar chars (maxPayloadStrMsg env log name withVarInfo) kept ∧
    (kept ++ strTruncatedMessage).length < 65536 ∧
    (dltUserLogWriteSizedStringUtilsAttr env text .utf8String name withVarInfo).result log =
      some (.ok dltReturnUserBufferFull, (log.written
        (stringHeaderBytes env (kept ++ strTruncatedMessage).length .utf8String name withVarInfo ++ kept ++
          strTruncatedMessage)).counted)
  reads_text : (dltUserLogWriteSizedStringUtilsAttr env text.exact .utf8String name withVarInfo).result log =
    (dltUserLogWriteSizedStringUtilsAttr env text .utf8String name withVarInfo).result log

variable {env log text name withVarInfo}

theorem Truncates.result (h : Truncates env log text name withVarInfo) {bytes : List UInt8}
    (hbytes : text.bytes = some bytes) :
    (dltUserLogWriteSizedStringUtilsAttr env text .utf8String name withVarInfo).result log =
      (cutString env .utf8String name withVarInfo log bytes (maxPayloadStrMsg env log name withVarInfo)).result
        log := by
  rw [dltUserLogWriteSizedStringUtilsAttr_result env text .utf8String name withVarInfo hbytes h.initialised log,
    if_pos h.too_long, if_neg (not_lt.mpr h.room)]
  rfl

theorem Truncates.max_lt (h : Truncates env log text name withVarInfo) :
    maxPayloadStrMsg env log name withVarInfo < text.length.toNat := by
  have hlong := h.too_long
  have hroom := h.room
  unfold newLogSize at hlong
  unfold maxPayloadStrMsg
  unfold minPayloadStrTruncateMsg at hroom ⊢
  rw [length_strTruncatedMessage] at hroom ⊢
  omega

/-! ## Nothing outside the text is read -/

section memory

variable {bytes : List UInt8} {maxPayload n : ℕ}

theorem byteAt_take {i : ℤ} (hi : i < n) : byteAt (bytes.take n) i = byteAt bytes i := by
  unfold byteAt
  by_cases hpos : 0 ≤ i
  · rw [if_pos hpos, if_pos hpos]
    exact getElem?_take_of_lt (by omega)
  · rw [if_neg hpos, if_neg hpos]

theorem utf8ReduceSize_take (hle : maxPayload ≤ n) :
    utf8ReduceSize (bytes.take n) (maxPayload - 3) = utf8ReduceSize bytes (maxPayload - 3) := by
  unfold utf8ReduceSize
  rw [byteAt_take (by omega), byteAt_take (by omega), byteAt_take (by omega)]

theorem peek_take {m : ℕ} (hle : m ≤ n) (hn : n ≤ bytes.length) : peek (bytes.take n) 0 m = peek bytes 0 m := by
  rw [peek_zero (by rw [length_take]; omega), peek_zero (by omega), take_take, Nat.min_eq_left hle]

/-- The function does the same with a memory that ends with the text. -/
theorem cutString_take (hle : maxPayload ≤ n) (hn : n ≤ bytes.length) :
    cutString env .utf8String name withVarInfo log (bytes.take n) maxPayload =
      cutString env .utf8String name withVarInfo log bytes maxPayload := by
  have hpeek : ∀ r, peek (bytes.take n) 0 (maxPayload - r) = peek bytes 0 (maxPayload - r) :=
    fun r => peek_take (by omega) hn
  unfold cutString reduceSizeOf
  simp [utf8ReduceSize_take hle, hpeek]

end memory

theorem exact_bytes (text : CallerData) :
    text.exact.bytes = text.bytes.map fun bytes => bytes.take text.length.toNat := rfl

theorem Truncates.exact (h : Truncates env log text name withVarInfo) {bytes : List UInt8}
    (hbytes : text.bytes = some bytes) :
    (dltUserLogWriteSizedStringUtilsAttr env text.exact .utf8String name withVarInfo).result log =
      (dltUserLogWriteSizedStringUtilsAttr env text .utf8String name withVarInfo).result log := by
  have hexact : text.exact.bytes = some (bytes.take text.length.toNat) := by
    rw [exact_bytes, hbytes]
    rfl
  have hcut : Truncates env log text.exact name withVarInfo := ⟨h.initialised, h.too_long, h.room⟩
  rw [h.result hbytes, hcut.result hexact]
  exact congrArg (fun x => Checked.result x log)
    (cutString_take h.max_lt.le (text.length_le bytes hbytes))

section

variable (h : Truncates env log text name withVarInfo)
include h

theorem Truncates.result_utf8 {chars : List Char} (htext : IsUtf8 text chars) :
    (dltUserLogWriteSizedStringUtilsAttr env text .utf8String name withVarInfo).result log =
        (cutString env .utf8String name withVarInfo log (encoded utf8EncodeChar chars)
          (maxPayloadStrMsg env log name withVarInfo)).result log ∧
      maxPayloadStrMsg env log name withVarInfo < (encoded utf8EncodeChar chars).length := by
  obtain ⟨bytes, hbytes, htake⟩ := htext
  have hle := text.length_le bytes hbytes
  have hlt := h.max_lt
  refine ⟨?_, ?_⟩
  · rw [h.result hbytes, ← htake, cutString_take hlt.le hle]
  · rw [← htake, length_take_of_le hle]
    exact hlt

section

variable {chars : List Char} (htext : IsUtf8 text chars)
  (hsees : ¬ CutSeesText chars (maxPayloadStrMsg env log name withVarInfo))
include htext hsees

/-- A byte in front of the text is read where what is looked at is not in the text. -/
theorem Truncates.undefined :
    (dltUserLogWriteSizedStringUtilsAttr env text .utf8String name withVarInfo).result log = none := by
  obtain ⟨hresult, hlt⟩ := h.result_utf8 htext
  rw [hresult]
  unfold cutString reduceSizeOf
  rw [if_pos rfl, result_bind, utf8ReduceSize_result hlt.le, if_neg fun h => hsees (cutSeesText_of_inside hlt h)]
  rfl

theorem Truncates.not_right :
    ¬ TruncatedRight env log text name withVarInfo chars := by
  intro hright
  obtain ⟨kept, -, -, hstored⟩ := hright.stored
  rw [h.undefined htext hsees] at hstored
  cases hstored

end

end

/-- **A text in UTF-8 that is cut** is stored right exactly when what is looked at is in the text. -/
theorem truncatedUtf8_iff (env : WriteEnv) (log : StartedMemory env.logBufLen) (text : CallerData)
    (name : Option CString) (withVarInfo : Bool) (chars : List Char) (htext : IsUtf8 text chars)
    (h : Truncates env log.toLogMemory text name withVarInfo) :
    TruncatedRight env log.toLogMemory text name withVarInfo chars ↔
      CutSeesText chars (maxPayloadStrMsg env log.toLogMemory name withVarInfo) := by
  constructor
  · intro hright
    by_contra hsees
    exact h.not_right htext hsees hright
  · intro hsees
    obtain ⟨hresult, hlt⟩ := h.result_utf8 htext
    obtain ⟨bytes, hbytes, -⟩ := htext
    generalize hmax : maxPayloadStrMsg env log.toLogMemory name withVarInfo = maxPayload at hresult hlt hsees
    obtain ⟨n, hreduce, hlongest⟩ := utf8ReduceSize_right hlt hsees
    have hkept : ((encoded utf8EncodeChar chars).take (maxPayload - n)).length = maxPayload - n :=
      length_take_of_le (by omega)
    have hlength : ((encoded utf8EncodeChar chars).take (maxPayload - n) ++ strTruncatedMessage).length =
        maxPayload - n + strTruncatedMessage.length := by rw [length_append, hkept]
    obtain ⟨-, hcut⟩ :=
      cutString_result log.length_buffer h.room hmax.symm hlt.le (fun _ => hreduce.inside)
        (show reduceSize .utf8String _ maxPayload = n from hreduce.size)
    refine ⟨⟨(encoded utf8EncodeChar chars).take (maxPayload - n), ?_, ?_, ?_⟩, h.exact hbytes⟩
    · rw [hmax]
      exact hlongest
    · -- the note and the text are in the buffer
      have hbound := env.logBufLen.toNat_lt
      have hroom := h.room
      rw [hlength]
      unfold maxPayloadStrMsg at hmax
      unfold minPayloadStrTruncateMsg at hmax hroom
      omega
    · rw [hresult, hcut, hlength]

/-- The library with the usual size of messages. -/
def sampleEnv : WriteEnv := { initialised := true, verbose := true, logBufLen := 1390 }

/-- A message of which `size` bytes are used. -/
def usedMemory (size : ℕ) (h : size ≤ 1390) : StartedMemory sampleEnv.logBufLen :=
  { buffer := List.replicate 1390 0, size, argsNum := 1, length_buffer := List.length_replicate, size_le := h }

/-- Twenty characters of two bytes. -/
def sampleChars : List Char := List.replicate 20 'é'

def sampleText : CallerData :=
  { bytes := some (List.replicate 20 [0xc3, 0xa9]).flatten, length := 40
    length_le := fun b hb => by
      obtain rfl := Option.some.inj hb
      decide }

theorem sampleText_isUtf8 : IsUtf8 sampleText sampleChars := ⟨_, rfl, by decide +kernel⟩

theorem truncatedUtf8_sample : TruncatedRight sampleEnv (usedMemory 1345 (by decide)).toLogMemory sampleText none
    false sampleChars :=
  (truncatedUtf8_iff sampleEnv (usedMemory 1345 (by decide)) sampleText none false sampleChars sampleText_isUtf8
    ⟨rfl, by decide, by decide⟩).mpr ⟨by decide, by decide⟩

def noteOnlyMemory : StartedMemory sampleEnv.logBufLen := usedMemory 1348 (by decide)

/-- There is room for two bytes and the note. -/
def twoByteMemory : StartedMemory sampleEnv.logBufLen := usedMemory 1346 (by decide)

theorem noteOnlyMemory_truncates : Truncates sampleEnv noteOnlyMemory.toLogMemory sampleText none false :=
  ⟨rfl, by decide, by decide⟩

theorem twoByteMemory_truncates : Truncates sampleEnv twoByteMemory.toLogMemory sampleText none false :=
  ⟨rfl, by decide, by decide⟩

/-- In both the text is cut, and a byte in front of it is read. -/
theorem truncation_reads_in_front_of_text :
    ((dltUserLogWriteSizedStringUtilsAttr sampleEnv sampleText .utf8String none false).result
        noteOnlyMemory.toLogMemory = none ∧
      ¬ TruncatedRight sampleEnv noteOnlyMemory.toLogMemory sampleText none false sampleChars) ∧
    (dltUserLogWriteSizedStringUtilsAttr sampleEnv sampleText .utf8String none false).result
        twoByteMemory.toLogMemory = none ∧
      ¬ TruncatedRight sampleEnv twoByteMemory.toLogMemory sampleText none false sampleChars := by
  have hnote : ¬ CutSeesText sampleChars (maxPayloadStrMsg sampleEnv noteOnlyMemory.toLogMemory none false) :=
    fun hsees => absurd hsees.1 (by decide)
  have htwo : ¬ CutSeesText sampleChars (maxPayloadStrMsg sampleEnv twoByteMemory.toLogMemory none false) :=
    fun hsees => absurd rfl (hsees.2 (by decide))
  refine ⟨⟨?_, ?_⟩, ?_, ?_⟩
  · exact noteOnlyMemory_truncates.undefined sampleText_isUtf8 hnote
  · exact noteOnlyMemory_truncates.not_right sampleText_isUtf8 hnote
  · exact twoByteMemory_truncates.undefined sampleText_isUtf8 htwo
  · exact twoByteMemory_truncates.not_right sampleText_isUtf8 htwo

end argument

end Dlt.Encoder
