import Mathlib.Data.List.TakeWhile
import Dlt.Log.InsertionLoop

/-!
# What is logged of a `StringView`

* `loggedExactly_iff` — the one is the other.
-/

namespace Dlt.Log

open Dlt.Lib Dlt.Shared Dlt.User List Option

variable {x : LogState × LogStream × ℕ} {P : Prop}

/-! ## Model -/

/-- How many bytes `strncpy` reads of a string: up to a zero, and as many as it is told at most. -/
def strncpyReads (memory : List UInt8) (n : ℕ) : ℕ := min n ((memory.takeWhile (· ≠ 0)).length + 1)

/-- What one turn does with the view. -/
structure Copied where
  /-- The end of what is read, from the beginning of the view on. -/
  readEnd : ℕ
  text : List UInt8
deriving DecidableEq, Repr

/-- The text argument that was put behind a message: type information and length come first, and a zero ends it. -/
def storedText (env : WriteEnv) (log log' : LogData) : List UInt8 :=
  (log'.buffer.drop (log.buffer.length + (if env.verbose then 4 else 0) + 2)).dropLast

/-- The text argument behind a call of the library; there is none where the call is undefined. -/
def writtenText (env : WriteEnv) (log : LogData) (written : Option (LogData × ℤ)) : List UInt8 :=
  (written.map fun (log', _) => storedText env log log').getD []

/-- The piece that a turn copies. Source: `logstream.cpp`, `LogStream::operator<<` -/
def turnPiece (a : Pieces) : LogState × LogStream × ℕ → Option (ContextData × ℕ × List UInt8) :=
  fun (σ, s, sent) =>
    if ¬ sent < a.sizeToSend then none
    else
      s.logLocalData.bind fun (_, data) =>
        if leftSize σ.logLength a.header data.size ≤ 0 then none
        else
          (a.piece sent (leftSize σ.logLength a.header data.size).toNat).map fun piece =>
            (data, (leftSize σ.logLength a.header data.size).toNat, piece)

/-- What a turn does with the view. Source: `LogStream::operator<<` -/
def copied (env : LogEnv) (a : Pieces) (x : LogState × LogStream × ℕ) : List Copied :=
  match turnPiece a x with
  | none => []
  | some (data, left, piece) =>
      let log := x.1.log data
      [{ readEnd := x.2.2 + strncpyReads (a.bytes.drop x.2.2) left
         text := writtenText (writeEnv env data) log (a.write piece (writeEnv env data) log) }]

def StringView.pieces (value : StringView) : Pieces :=
  textPieces (i32 value.text.length) (value.text ++ value.behind)

def texts (cs : List Copied) : List UInt8 := cs.flatMap Copied.text

/-- What was copied is right: the text arguments are the beginning of the view, and nothing behind it was read. -/
structure Exact (value : StringView) (sent : ℕ) (cs : List Copied) : Prop where
  texts_eq : texts cs = value.text.take sent
  inside : ∀ c ∈ cs, c.readEnd ≤ value.text.length

/-- From a turn on, the loop ends with the whole view. -/
def EndsExact (env : LogEnv) (value : StringView) (x : (LogState × LogStream × ℕ) × List Copied) : Prop :=
  ∃ r cs, EndsWith (noted (piecesTurn env value.pieces) (copied env value.pieces)) x (r, cs) ∧
    Exact value value.text.length cs

/-- **A view is logged exactly**: the operator returns, the text arguments are the bytes of the view, and nothing
behind the view is read. -/
def LoggedExactly (env : LogEnv) (value : StringView) (σ : LogState) (s : LogStream) : Prop :=
  EndsExact env value ((σ, s, 0), [])

/-- Logging is initialised, the level is enabled, and the stream has a message. -/
structure EnabledStream (env : LogEnv) (σ : LogState) (s : LogStream) (id : ℕ) (data : ContextData) : Prop where
  loggingInit : σ.loggingInit = true
  logRet : s.logRet > dltReturnOk
  logLocalData : s.logLocalData = some (id, data)
  writable : σ.Writable data
  enabled : ∀ start, Starts env data.handle data.logLevel start

/-- Bytes fill messages that are started for them: there are none, or a message has room, its pieces fit into `tmp` and
into the memory of the message, and the last one ends the message. -/
def FillsFresh (env : LogEnv) (logLength n : ℕ) : Prop :=
  n = 0 ∨ ∃ fresh : ℕ, leftSize logLength 7 0 = fresh ∧ 0 < fresh ∧ fresh < tmpSize ∧
    fresh + 7 ≤ env.logBufLen.toNat ∧ fresh ∣ n

/-- Bytes fill the rest of the message of a stream and messages that are started for them. -/
structure FillsFrom (env : LogEnv) (value : StringView) (σ : LogState) (data : ContextData) (left : ℕ) : Prop where
  le : left ≤ value.text.length
  tmp : left < tmpSize
  memory : data.size + left + value.pieces.overhead (isVerboseMode env data) ≤ env.logBufLen.toNat
  last : left = value.text.length → value.pieces.FillsUp σ data left → Flushable σ data
  more : left ≠ value.text.length → σ.logBuffer = [] ∧ FillsFresh env σ.logLength (value.text.length - left)

/-- **The view fills messages exactly.** It is empty; or it has fewer than `2^31` bytes and no zero, and its pieces end
their messages, the first one that of the stream if there is room in it. -/
def FillsExactly (env : LogEnv) (value : StringView) (σ : LogState) (data : ContextData) : Prop :=
  value.text = [] ∨ (value.text.length < 2147483648 ∧ (0 : UInt8) ∉ value.text) ∧
    if leftSize σ.logLength 7 data.size ≤ 0 then
      σ.logBuffer = [] ∧ FillsFresh env σ.logLength value.text.length
    else FillsFrom env value σ data (leftSize σ.logLength 7 data.size).toNat

variable {env : LogEnv} {σ σ' : LogState} {s s' : LogStream} {id : ℕ} {data data' : ContextData}
  {a : Pieces} {sent : ℕ} {piece : List UInt8} {value : StringView} {cs : List Copied}

/-! ## What one turn does -/

theorem copied_of_sent (h : ¬ sent < a.sizeToSend) : copied env a (σ, s, sent) = [] := by
  unfold copied turnPiece
  dsimp only
  rw [if_pos h]

theorem copied_of_noRoom (hs : s.logLocalData = some (id, data))
    (hleft : leftSize σ.logLength a.header data.size ≤ 0) : copied env a (σ, s, sent) = [] := by
  unfold copied turnPiece
  dsimp only
  by_cases h : sent < a.sizeToSend
  · rw [if_neg (not_not_intro h), hs, bind_some]
    dsimp only
    rw [if_pos hleft]
  · rw [if_pos h]

theorem copied_of_piece (h : sent < a.sizeToSend) (hs : s.logLocalData = some (id, data))
    (hleft : ¬ leftSize σ.logLength a.header data.size ≤ 0)
    (hpiece : a.piece sent (leftSize σ.logLength a.header data.size).toNat = some piece) :
    copied env a (σ, s, sent) =
      [{ readEnd := sent + strncpyReads (a.bytes.drop sent) (leftSize σ.logLength a.header data.size).toNat
         text := writtenText (writeEnv env data) (σ.log data) (a.write piece (writeEnv env data) (σ.log data)) }] := by
  unfold copied turnPiece
  dsimp only
  rw [if_neg (not_not_intro h), hs, bind_some]
  dsimp only
  rw [if_neg hleft, hpiece]
  rfl

theorem storedText_append (env : WriteEnv) (log : LogData) (typeInfo argSize : ℕ) (text : List UInt8) :
    storedText env log (log.append (typeInfoBytes env typeInfo ++ leBytes 2 argSize ++ text)) = text.dropLast := by
  have hheader : log.buffer.length + (if env.verbose then 4 else 0) + 2 =
      (log.buffer ++ (typeInfoBytes env typeInfo ++ leBytes 2 argSize)).length := by
    rw [length_append, length_append, length_typeInfoBytes, length_leBytes]
    omega
  have hbuffer : (log.append (typeInfoBytes env typeInfo ++ leBytes 2 argSize ++ text)).buffer =
      (log.buffer ++ (typeInfoBytes env typeInfo ++ leBytes 2 argSize)) ++ text := (append_assoc ..).symm
  rw [storedText, hheader, hbuffer, drop_left]

/-- Of a string that is cut no more is stored than the bytes that are left of it and the note without its zero. -/
theorem length_writtenText_cut (env : WriteEnv) (log : LogData) (text : List UInt8) (header maxPayload : ℕ) :
    (writtenText env log (writeCutString env log text .utf8String header maxPayload)).length ≤ maxPayload + 35 := by
  have hnote : strTruncatedMessage.length = 36 := rfl
  unfold writeCutString
  by_cases hinside : LooksInside text maxPayload
  · rw [if_neg fun h => h.2 hinside]
    change (storedText env log (log.append _)).length ≤ _
    rw [append_assoc, storedText_append, length_dropLast, length_append, length_take]
    omega
  · rw [if_pos ⟨rfl, hinside⟩]
    exact Nat.zero_le _

section

variable {env : WriteEnv} {log : LogData} (hinit : env.initialised = true) (hlength : piece.length ≤ tmpSize)
include hinit hlength

theorem writtenText_of_fits
    (hfits : ¬ env.logBufLen.toNat < log.buffer.length + piece.length + (3 + if env.verbose then 4 else 0)) :
    writtenText env log (dltUserLogWriteUtf8String piece env log) = piece := by
  rw [writeUtf8String_of_fits hinit hlength hfits]
  change storedText env log (log.append _) = piece
  rw [storedText_append, dropLast_concat]

/-- Of a string that does not fit less is stored than it has. -/
theorem length_writtenText_of_full
    (hfull : env.logBufLen.toNat < log.buffer.length + piece.length + (3 + if env.verbose then 4 else 0)) :
    (writtenText env log (dltUserLogWriteUtf8String piece env log)).length ≤ piece.length - 1 := by
  have hnote : strTruncatedMessage.length = 36 := rfl
  rw [writeUtf8String_of_full hinit hlength hfull]
  by_cases hmin : env.logBufLen.toNat < cutSize env log.buffer.length
  · rw [if_pos hmin]
    change (storedText env log log).length ≤ _
    unfold storedText
    rw [length_dropLast, length_drop]
    omega
  · rw [if_neg hmin]
    refine (length_writtenText_cut env log piece _ _).trans ?_
    unfold cutSize at hmin ⊢
    omega

end

/-- A piece that is written ends the loop, or the loop goes on behind it. -/
theorem pieceWrite_turn (env : LogEnv) (a : Pieces) (σ : LogState) (s : LogStream) (size sent : ℕ)
    (piece : List UInt8) :
    pieceWrite env a σ s size sent piece = none ∨ (∃ r, pieceWrite env a σ s size sent piece = some (.done r)) ∨
      ∃ σ' s', pieceWrite env a σ s size sent piece = some (.again (σ', s', sent + piece.length)) := by
  unfold pieceWrite
  cases s.write env σ (a.write piece) with
  | none => exact .inl rfl
  | some written =>
    obtain ⟨σ₁, s₁, ret⟩ := written
    rw [bind_some]
    dsimp only
    cases flushIf env (size + a.header + piece.length = σ₁.logLength) σ₁ s₁ with
    | none => exact .inl rfl
    | some flushed =>
      rw [map_some]
      split_ifs
      · exact .inr (.inl ⟨_, rfl⟩)
      · exact .inr (.inr ⟨_, _, rfl⟩)

/-! ## Text that cannot be logged -/

theorem turn_length (hinit : env.initialised = true) (hsent : sent ≤ value.pieces.available)
    (σ : LogState) (s : LogStream) :
    piecesTurn env value.pieces (σ, s, sent) = .undefined ∨
      ∃ n, (texts (copied env value.pieces (σ, s, sent))).length ≤ n ∧ sent + n ≤ value.pieces.available ∧
        (n = 0 ∨ sent < value.pieces.sizeToSend ∧ n ≤ tmpSize) ∧
        ((∃ r, piecesTurn env value.pieces (σ, s, sent) = .done r) ∨
          ∃ σ' s', piecesTurn env value.pieces (σ, s, sent) = .again (σ', s', sent + n)) := by
  by_cases hn : sent < value.pieces.sizeToSend
  swap
  · refine .inr ⟨0, ?_, hsent, .inl rfl, .inl ⟨_, piecesTurn_of_sent hn⟩⟩
    rw [copied_of_sent hn]
    exact Nat.le_refl 0
  cases hs : s.logLocalData with
  | none => exact .inl (piecesTurn_of_none hn hs)
  | some message =>
    obtain ⟨id, data⟩ := message
    by_cases hleft : leftSize σ.logLength value.pieces.header data.size ≤ 0
    · rw [piecesTurn_of_noRoom env hn hs hleft, copied_of_noRoom hs hleft]
      cases flush env σ s with
      | none => exact .inl rfl
      | some flushed => exact .inr ⟨0, Nat.le_refl 0, hsent, .inl rfl, .inr ⟨_, _, rfl⟩⟩
    · rw [piecesTurn_of_room env hn hs hleft]
      by_cases hfits : value.pieces.Fits (leftSize σ.logLength value.pieces.header data.size).toNat
          (value.pieces.pieceLength sent (leftSize σ.logLength value.pieces.header data.size).toNat)
      swap
      · rw [piece_of_not_fits hsent hn hfits]
        exact .inl rfl
      obtain ⟨piece, hpiece, hlength⟩ := piece_of_fits hsent hn hfits
      have hle : piece.length ≤ value.pieces.available - sent := by
        rw [hlength]
        exact Nat.min_le_right _ _
      have htmp : piece.length ≤ tmpSize := by
        rw [hlength]
        exact hfits.le
      have htext : (texts (copied env value.pieces (σ, s, sent))).length ≤ piece.length := by
        rw [copied_of_piece hn hs hleft hpiece]
        simp only [texts, flatMap_cons, flatMap_nil, append_nil]
        by_cases hfull : (writeEnv env data).logBufLen.toNat < (σ.log data).buffer.length + piece.length +
            (3 + if (writeEnv env data).verbose then 4 else 0)
        · exact (length_writtenText_of_full hinit htmp hfull).trans (Nat.sub_le _ _)
        · exact (congrArg List.length (writtenText_of_fits hinit htmp hfull)).le
      rw [hpiece, bind_some]
      rcases pieceWrite_turn env value.pieces σ s data.size sent piece with hturn | ⟨r, hturn⟩ | ⟨σ', s', hturn⟩
      · rw [hturn]
        exact .inl rfl
      · rw [hturn]
        exact .inr ⟨piece.length, htext, by omega, .inr ⟨hn, htmp⟩, .inl ⟨r, rfl⟩⟩
      · rw [hturn]
        exact .inr ⟨piece.length, htext, by omega, .inr ⟨hn, htmp⟩, .inr ⟨σ', s', rfl⟩⟩

/-- The text arguments in front of a turn are no longer than what was sent. -/
structure ShortTexts (value : StringView) (sent : ℕ) (cs : List Copied) : Prop where
  texts_le : (texts cs).length ≤ sent
  available : sent ≤ value.pieces.available
  sizeToSend : (sent : ℤ) ≤ max 0 value.pieces.sizeToSend + tmpSize

theorem ShortTexts.turn (h : ShortTexts value sent cs) {n : ℕ}
    (htext : (texts (copied env value.pieces (σ, s, sent))).length ≤ n) (hle : sent + n ≤ value.pieces.available)
    (hn : n = 0 ∨ sent < value.pieces.sizeToSend ∧ n ≤ tmpSize) :
    ShortTexts value (sent + n) (cs ++ copied env value.pieces (σ, s, sent)) := by
  have hbefore := h.texts_le
  have hsize := h.sizeToSend
  refine ⟨?_, hle, ?_⟩
  · unfold texts at *
    rw [flatMap_append, length_append]
    omega
  · push_cast
    omega

/-- **The text arguments are no longer than the string in the view**, and they end soon behind the size to send. -/
theorem length_texts_le (hinit : env.initialised = true) {r : LogState × LogStream}
    (h : EndsWith (noted (piecesTurn env value.pieces) (copied env value.pieces)) ((σ, s, 0), []) (r, cs)) :
    ∃ sent, ShortTexts value sent cs := by
  have hstart : ShortTexts value 0 [] := by
    refine ⟨Nat.le_refl 0, Nat.zero_le _, ?_⟩
    push_cast
    unfold tmpSize
    omega
  refine @EndsWith.keeps _ _ _ _ _ (fun x => ShortTexts value x.1.2.2 x.2)
    (fun x => ∃ sent, ShortTexts value sent x.2) ?_ ?_ h hstart
  · rintro ⟨⟨σ, s, sent⟩, cs⟩ x hinv hturn
    obtain ⟨hdone, hcs⟩ := of_noted_done hturn
    rcases turn_length hinit hinv.available σ s with hundefined | ⟨n, htext, hle, hn, -⟩
    · cases hundefined.symm.trans hdone
    · rw [hcs]
      exact ⟨sent + n, hinv.turn htext hle hn⟩
  · rintro ⟨⟨σ, s, sent⟩, cs⟩ x hinv hturn
    obtain ⟨hagain, hcs⟩ := of_noted_again hturn
    rcases turn_length hinit hinv.available σ s with hundefined | ⟨n, htext, hle, hn, ⟨r, hdone⟩ | ⟨σ', s', hagain'⟩⟩
    · cases hundefined.symm.trans hagain
    · cases hdone.symm.trans hagain
    · have hstate := Turn.again.inj (hagain'.symm.trans hagain)
      rw [hcs, ← hstate]
      exact hinv.turn htext hle hn

/-- A view with a zero, or one that is too long, is not logged. -/
theorem not_loggedExactly (hinit : env.initialised = true)
    (h : ¬ (value.text.length < 2147483648 ∧ (0 : UInt8) ∉ value.text)) :
    ¬ LoggedExactly env value σ s := by
  rintro ⟨r, cs, hends, hexact⟩
  obtain ⟨sent, hshort⟩ := length_texts_le hinit hends
  have hlen := congrArg List.length hexact.texts_eq
  rw [take_length] at hlen
  have htexts := hshort.texts_le
  have havailable := hshort.available
  have hsize := hshort.sizeToSend
  by_cases hzero : (0 : UInt8) ∈ value.text
  · -- the string ends before the view does
    have hstops : value.pieces.available < value.text.length := by
      have hprefix_le := (List.takeWhile_prefix (l := value.text) (fun b => decide (b ≠ 0))).length_le
      have hcut : (value.text.takeWhile (· ≠ 0)).length ≠ value.text.length := by
        intro hall
        have hsame := (List.takeWhile_prefix (l := value.text) (fun b => decide (b ≠ 0))).eq_of_length hall
        have hpos := takeWhile_eq_self_iff.mp hsame 0 hzero
        simp at hpos
      change ((value.text ++ value.behind).takeWhile (· ≠ 0)).length < _
      rw [takeWhile_append, if_neg hcut]
      omega
    omega
  · have hlong : ¬ value.text.length < 2147483648 := fun hshort => h ⟨hshort, hzero⟩
    have hsend : value.pieces.sizeToSend = i32 value.text.length := rfl
    have htmp : tmpSize = 1390 := rfl
    rw [hsend] at hsize
    unfold i32 at hsize
    split_ifs at hsize <;> omega

/-! ## One turn -/

/-- The view has no zero, and its length is a number for the loop. -/
structure Loggable (value : StringView) : Prop where
  short : value.text.length < 2147483648
  nonzero : (0 : UInt8) ∉ value.text

theorem Loggable.sizeToSend (h : Loggable value) : value.pieces.sizeToSend = value.text.length := by
  change i32 _ = _
  have := h.short
  rw [i32_of_range] <;> omega

theorem takeWhile_nonzero {bytes : List UInt8} (h : (0 : UInt8) ∉ bytes) : bytes.takeWhile (· ≠ 0) = bytes := by
  rw [takeWhile_eq_self_iff]
  intro b hb
  exact decide_eq_true fun heq => h (heq ▸ hb)

theorem Loggable.available (h : Loggable value) : value.text.length ≤ value.pieces.available := by
  change _ ≤ ((value.text ++ value.behind).takeWhile (· ≠ 0)).length
  rw [takeWhile_append, takeWhile_nonzero h.nonzero, if_pos rfl, length_append]
  omega

theorem Loggable.piece_eq (h : Loggable value) {left : ℕ} (hle : sent + left ≤ value.text.length)
    (htmp : left < tmpSize) : value.pieces.piece sent left = some ((value.text.drop sent).take left) := by
  have hinside : ((value.text ++ value.behind).drop sent).take left = (value.text.drop sent).take left := by
    rw [drop_append_of_le_length (by omega), take_append_of_le_length]
    rw [length_drop]
    omega
  have hzero : (0 : UInt8) ∉ (value.text.drop sent).take left :=
    fun hmem => h.nonzero (mem_of_mem_drop (mem_of_mem_take hmem))
  change (if tmpSize < left ∨
      tmpSize ≤ ((((value.text ++ value.behind).drop sent).take left).takeWhile (· ≠ 0)).length then none
    else some ((((value.text ++ value.behind).drop sent).take left).takeWhile (· ≠ 0))) = _
  rw [hinside, takeWhile_nonzero hzero, if_neg]
  rw [length_take]
  omega

theorem Loggable.reads_le (h : Loggable value) {left : ℕ} (hsent : sent < value.text.length) :
    sent + strncpyReads (value.pieces.bytes.drop sent) left ≤ value.text.length ↔
      sent + left ≤ value.text.length := by
  have hbehind : (value.text.drop sent).length ≤ ((value.pieces.bytes.drop sent).takeWhile (· ≠ 0)).length := by
    change _ ≤ (((value.text ++ value.behind).drop sent).takeWhile (· ≠ 0)).length
    rw [drop_append_of_le_length hsent.le, takeWhile_append,
      takeWhile_nonzero fun hmem => h.nonzero (mem_of_mem_drop hmem), if_pos rfl, length_append]
    omega
  rw [length_drop] at hbehind
  unfold strncpyReads
  omega

theorem endsExact_iff_of_again {x' : LogState × LogStream × ℕ} (h : piecesTurn env value.pieces x = .again x') :
    EndsExact env value (x, cs) ↔ EndsExact env value (x', cs ++ copied env value.pieces x) :=
  exists_congr fun _ => exists_congr fun _ => and_congr_left fun _ => endsWith_iff_of_again (noted_of_again h)

theorem endsExact_iff_of_done {r : LogState × LogStream} (h : piecesTurn env value.pieces x = .done r) :
    EndsExact env value (x, cs) ↔ Exact value value.text.length (cs ++ copied env value.pieces x) := by
  constructor
  · rintro ⟨r', cs', hends, hexact⟩
    cases (endsWith_iff_of_done (noted_of_done h)).mp hends
    exact hexact
  · intro hexact
    exact ⟨r, _, (endsWith_iff_of_done (noted_of_done h)).mpr rfl, hexact⟩

theorem not_endsExact_of_not_ends (h : ¬ Ends (piecesTurn env value.pieces) x) :
    ¬ EndsExact env value (x, cs) :=
  fun ⟨r, _, hends, _⟩ => h ⟨r, hends.of_noted⟩

theorem EndsExact.copied_prefix (h : EndsExact env value (x, cs)) :
    ∃ cs', Exact value value.text.length cs' ∧ cs ++ copied env value.pieces x <+: cs' := by
  obtain ⟨r, cs', hends, hexact⟩ := h
  exact ⟨cs', hexact, hends.noted_turn_prefix⟩

theorem Exact.append (h : Exact value sent cs) {left readEnd : ℕ} (hread : readEnd ≤ value.text.length) :
    Exact value (sent + left) (cs ++ [⟨readEnd, (value.text.drop sent).take left⟩]) := by
  refine ⟨?_, ?_⟩
  · have hbefore := h.texts_eq
    unfold texts at *
    rw [flatMap_append, hbefore, flatMap_cons, flatMap_nil, append_nil, ← take_add]
  · intro c hc
    rcases mem_append.mp hc with hold | hnew
    · exact h.inside c hold
    · rw [mem_singleton.mp hnew]
      exact hread

/-! ## Behind a flush -/

/-- When a view is logged exactly from a message that was started for the rest of it. -/
def ExactFresh (env : LogEnv) (value : StringView) (σ : LogState) (id : ℕ) (data : ContextData) (sent : ℕ)
    (P : Prop) : Prop :=
  ∀ σ' s' cs, FreshStream id data σ' s' → σ'.logLength = σ.logLength → Exact value sent cs →
    (EndsExact env value ((σ', s', sent), cs) ↔ P)

/-- **A flush behind which something is left** has to start the message again. -/
theorem endsExact_flush_iff
    (hturn : piecesTurn env value.pieces x = ((flush env σ s).map fun y => .again (y.1, y.2, sent)).getD .undefined)
    (hn : sent < value.pieces.sizeToSend) (hs : s.logLocalData = some (id, data))
    (hleft : leftSize σ.logLength value.pieces.header data.size ≤ 0) (hinit : σ.loggingInit = true)
    (hwritable : σ.Writable data) (henabled : ∀ start, Starts env data.handle data.logLevel start)
    (hexact : Exact value sent (cs ++ copied env value.pieces x)) (hfresh : ExactFresh env value σ id data sent P) :
    EndsExact env value (x, cs) ↔ σ.logBuffer = [] ∧ P := by
  by_cases hqueue : σ.logBuffer = []
  · have hsettled : σ.Settled := ⟨hinit, hqueue⟩
    obtain ⟨σ', s', hres, ⟨-, hrestarted⟩ | ⟨hnot, -⟩⟩ :=
      flush_of_settled env hsettled hs (hwritable.flushable hsettled)
    · rw [hres] at hturn
      rw [endsExact_iff_of_again hturn,
        hfresh σ' s' _ (hrestarted.freshStream hsettled) hrestarted.logLength hexact]
      exact ⟨fun h => ⟨hqueue, h⟩, fun h => h.2⟩
    · exact absurd (henabled _) hnot
  · have hsettled : ¬ σ.Settled := fun h => hqueue h.2
    have hstuck : Stuck env value.pieces σ s := ⟨id, data, hs, hleft, .inl hsettled⟩
    refine iff_of_false ?_ fun h => hqueue h.1
    rcases hstuck.flush with hnone | ⟨σ', s', hres, hstuck'⟩
    · rw [hnone] at hturn
      exact not_endsExact_of_not_ends (not_ends_of_undefined hturn)
    · rw [hres] at hturn
      rw [endsExact_iff_of_again hturn]
      exact not_endsExact_of_not_ends (not_ends_of_stuck hn hstuck')

/-! ## A piece -/

section piece

variable {left : ℕ} (h : Loggable value) (hn : sent < value.text.length) (hs : s.logLocalData = some (id, data))
  (hleft : leftSize σ.logLength value.pieces.header data.size = left) (hpos : 0 < left)

include h hn hs hleft hpos

omit hs in
theorem room_of_pos : (sent : ℤ) < value.pieces.sizeToSend ∧
    ¬ leftSize σ.logLength value.pieces.header data.size ≤ 0 ∧
    (leftSize σ.logLength value.pieces.header data.size).toNat = left := by
  refine ⟨?_, by omega, by omega⟩
  rw [h.sizeToSend]
  exact_mod_cast hn

theorem not_endsExact_of_behind (hbehind : ¬ sent + left ≤ value.text.length) :
    ¬ EndsExact env value ((σ, s, sent), cs) := by
  intro hends
  obtain ⟨hsend, hroom, htoNat⟩ := room_of_pos h hn hleft hpos
  cases hpiece : value.pieces.piece sent left with
  | none =>
    have hturn := piecesTurn_of_room env hsend hs hroom
    rw [htoNat, hpiece] at hturn
    exact not_endsExact_of_not_ends (not_ends_of_undefined hturn) hends
  | some piece =>
    rw [← htoNat] at hpiece
    obtain ⟨cs', hexact, hpre⟩ := hends.copied_prefix
    rw [copied_of_piece hsend hs hroom hpiece, htoNat] at hpre
    have hread := hexact.inside _ (hpre.subset (mem_append_right cs (mem_singleton_self _)))
    exact hbehind ((h.reads_le hn).mp hread)

section

variable (hinside : sent + left ≤ value.text.length)
include hinside

/-- A piece that does not fit into `tmp`. -/
theorem not_endsExact_of_tmp (htmp : ¬ left < tmpSize) : ¬ EndsExact env value ((σ, s, sent), cs) := by
  obtain ⟨hsend, hroom, htoNat⟩ := room_of_pos h hn hleft hpos
  have havailable := h.available
  apply not_endsExact_of_not_ends
  apply not_ends_of_not_fits hsend hs hroom (by omega) rfl
  rw [htoNat]
  rintro ⟨-, hlength⟩
  unfold Pieces.pieceLength at hlength
  omega

theorem not_endsExact_of_refused (htmp : left < tmpSize) (hinit : env.initialised = true)
    (hfails : value.pieces.Fails env data left) (hcs : Exact value sent cs) :
    ¬ EndsExact env value ((σ, s, sent), cs) := by
  obtain ⟨hsend, hroom, htoNat⟩ := room_of_pos h hn hleft hpos
  have hpiece := h.piece_eq hinside htmp
  have hlength : ((value.text.drop sent).take left).length = left := by
    rw [length_take, length_drop]
    omega
  have hturn := piecesTurn_of_room env hsend hs hroom
  rw [htoNat, hpiece, bind_some] at hturn
  rcases pieceWrite_of_fails σ sent hs (by rw [hlength]; exact htmp.le) (by rw [hlength]; exact hfails) with
    ⟨-, r, hr⟩ | ⟨-, hr⟩
  · rw [hr] at hturn
    rw [endsExact_iff_of_done hturn, copied_of_piece hsend hs hroom (by rw [htoNat]; exact hpiece)]
    intro hexact
    have htexts := congrArg List.length hexact.texts_eq
    have hbefore := congrArg List.length hcs.texts_eq
    have hshort := @length_writtenText_of_full _ (writeEnv env data) (σ.log data) hinit
      (by rw [hlength]; exact htmp.le) (by rw [hlength, length_log]; exact hfails hinit)
    unfold texts at htexts hbefore
    rw [flatMap_append, length_append, flatMap_cons, flatMap_nil, append_nil, hbefore,
      take_length, length_take] at htexts
    rw [hlength] at hshort
    change _ + (writtenText (writeEnv env data) (σ.log data) (dltUserLogWriteUtf8String
      ((value.text.drop sent).take left) (writeEnv env data) (σ.log data))).length = _ at htexts
    omega
  · rw [hr] at hturn
    exact not_endsExact_of_not_ends (not_ends_of_undefined hturn)

/-- **A piece that is written** ends the view or the message. -/
theorem endsExact_written_iff (htmp : left < tmpSize) (hinit : env.initialised = true)
    (hfails : ¬ value.pieces.Fails env data left) (hcs : Exact value sent cs) (hlogging : σ.loggingInit = true)
    (hwritable : σ.Writable data) (henabled : ∀ start, Starts env data.handle data.logLevel start)
    (hfresh : ExactFresh env value σ id data (sent + left) P) :
    EndsExact env value ((σ, s, sent), cs) ↔
      (sent + left = value.text.length → value.pieces.FillsUp σ data left → Flushable σ data) ∧
        (sent + left ≠ value.text.length → σ.logBuffer = [] ∧ P) := by
  obtain ⟨hsend, hroom, htoNat⟩ := room_of_pos h hn hleft hpos
  have hpiece := h.piece_eq hinside htmp
  have hlength : ((value.text.drop sent).take left).length = left := by
    rw [length_take, length_drop]
    omega
  have hturn := piecesTurn_of_room env hsend hs hroom
  obtain ⟨σ₁, s₁, data₁, hmemory, hs₁, hgrown, hwrite⟩ := pieceWrite_of_not_fails sent hs
    (by rw [hlength]; exact htmp.le) (by rw [hlength]; exact hfails) hwritable
  rw [htoNat, hpiece, bind_some, hwrite, hlength] at hturn
  -- what was copied is the next piece of the view
  have hexact : Exact value (sent + left) (cs ++ copied env value.pieces (σ, s, sent)) := by
    rw [copied_of_piece hsend hs hroom (by rw [htoNat]; exact hpiece), htoNat]
    have htext : writtenText (writeEnv env data) (σ.log data) (value.pieces.write ((value.text.drop sent).take left)
        (writeEnv env data) (σ.log data)) = (value.text.drop sent).take left := by
      apply writtenText_of_fits hinit (by rw [hlength]; exact htmp.le)
      rw [hlength, length_log]
      exact fun hfull => hfails fun _ => hfull
    rw [htext]
    exact hcs.append ((h.reads_le hn).mpr hinside)
  have hwritable₁ := (hmemory.writable hgrown.buffer).mpr hwritable
  have hover := value.pieces.overhead_le (isVerboseMode env data)
  have hleft₁ : leftSize σ₁.logLength value.pieces.header data₁.size ≤ 0 := by
    rw [hmemory.logLength, hgrown.size, hlength, leftSize_add] <;> omega
  by_cases hlast : sent + left = value.text.length
  · have hsent : ¬ ((sent + left : ℕ) : ℤ) < value.pieces.sizeToSend := by
      rw [h.sizeToSend]
      omega
    have hdone : ∀ σ' s', EndsExact env value ((σ', s', sent + left), cs ++ copied env value.pieces (σ, s, sent)) := by
      intro σ' s'
      rw [endsExact_iff_of_done (piecesTurn_of_sent hsent), copied_of_sent hsent, append_nil, ← hlast]
      exact hexact
    have hflush := hmemory.flushable hgrown.buffer hwritable
    refine ⟨fun hends => ⟨fun _ hfill => ?_, fun hne => absurd hlast hne⟩, fun hcond => ?_⟩
    · by_contra hnot
      rw [flushIf, if_pos hfill, flush_of_not_flushable hs₁ fun h => hnot (hflush.mp h)] at hturn
      exact not_endsExact_of_not_ends (not_ends_of_undefined hturn) hends
    · unfold flushIf at hturn
      by_cases hfill : value.pieces.FillsUp σ data left
      · obtain ⟨x, hx⟩ := exists_flush env hs₁ (hflush.mpr (hcond.1 hlast hfill))
        rw [if_pos hfill, hx] at hturn
        exact (endsExact_iff_of_again hturn).mpr (hdone _ _)
      · rw [if_neg hfill] at hturn
        exact (endsExact_iff_of_again hturn).mpr (hdone _ _)
  · have hmore : ((sent + left : ℕ) : ℤ) < value.pieces.sizeToSend := by
      rw [h.sizeToSend]
      omega
    have hfresh₁ : ExactFresh env value σ₁ id data₁ (sent + left) P := by
      intro σ' s' cs' h' hlog hcs'
      exact hfresh σ' s' cs' (h'.congr hgrown.handle hgrown.logLevel) (by rw [hlog, hmemory.logLength]) hcs'
    have henabled₁ : ∀ start, Starts env data₁.handle data₁.logLevel start := by
      rw [hgrown.handle, hgrown.logLevel]
      exact henabled
    have hlogging₁ : σ₁.loggingInit = true := hmemory.loggingInit.trans hlogging
    have hiff : EndsExact env value ((σ, s, sent), cs) ↔ σ₁.logBuffer = [] ∧ P := by
      unfold flushIf at hturn
      by_cases hfill : value.pieces.FillsUp σ data left
      · rw [if_pos hfill] at hturn
        exact endsExact_flush_iff hturn hmore hs₁ hleft₁ hlogging₁ hwritable₁ henabled₁ hexact hfresh₁
      · rw [if_neg hfill, map_some] at hturn
        rw [endsExact_iff_of_again hturn]
        apply endsExact_flush_iff (piecesTurn_of_noRoom env hmore hs₁ hleft₁) hmore hs₁ hleft₁ hlogging₁ hwritable₁
          henabled₁ _ hfresh₁
        rw [copied_of_noRoom hs₁ hleft₁, append_nil]
        exact hexact
    rw [hiff, hmemory.logBuffer]
    exact ⟨fun h => ⟨fun h' => absurd h' hlast, fun _ => h⟩, fun h => h.2 hlast⟩

end

/-- **A turn with room in the message.** -/
theorem endsExact_room_iff (hinit : env.initialised = true) (hcs : Exact value sent cs)
    (hlogging : σ.loggingInit = true) (hwritable : σ.Writable data)
    (henabled : ∀ start, Starts env data.handle data.logLevel start)
    (hfresh : sent + left ≤ value.text.length → ExactFresh env value σ id data (sent + left) P) :
    EndsExact env value ((σ, s, sent), cs) ↔
      sent + left ≤ value.text.length ∧ left < tmpSize ∧
        data.size + left + value.pieces.overhead (isVerboseMode env data) ≤ env.logBufLen.toNat ∧
        (sent + left = value.text.length → value.pieces.FillsUp σ data left → Flushable σ data) ∧
        (sent + left ≠ value.text.length → σ.logBuffer = [] ∧ P) := by
  by_cases hinside : sent + left ≤ value.text.length
  swap
  · exact iff_of_false (not_endsExact_of_behind h hn hs hleft hpos hinside) fun hcond => hinside hcond.1
  by_cases htmp : left < tmpSize
  swap
  · exact iff_of_false (not_endsExact_of_tmp h hn hs hleft hpos hinside htmp) fun hcond => htmp hcond.2.1
  by_cases hmemory : data.size + left + value.pieces.overhead (isVerboseMode env data) ≤ env.logBufLen.toNat
  swap
  · refine iff_of_false ?_ fun hcond => hmemory hcond.2.2.1
    exact not_endsExact_of_refused h hn hs hleft hpos hinside htmp hinit (fun _ => by omega) hcs
  have hfails : ¬ value.pieces.Fails env data left := by
    intro hfails
    have := hfails hinit
    omega
  rw [endsExact_written_iff h hn hs hleft hpos hinside htmp hinit hfails hcs hlogging hwritable henabled
    (hfresh hinside)]
  exact ⟨fun hcond => ⟨hinside, htmp, hmemory, hcond⟩, fun hcond => hcond.2.2.2⟩

end piece

/-! ## The whole view -/

theorem overhead_verbose (value : StringView) : value.pieces.overhead true = 7 := rfl

/-- **A message that was started last**: the rest of the view has to fill messages. -/
theorem endsExact_fresh_iff (h : Loggable value) (hinit : env.initialised = true)
    (henabled : ∀ start, Starts env data.handle data.logLevel start) (hfresh : FreshStream id data σ s)
    (hsent : sent ≤ value.text.length) (hcs : Exact value sent cs) :
    EndsExact env value ((σ, s, sent), cs) ↔ FillsFresh env σ.logLength (value.text.length - sent) := by
  generalize hk : value.text.length - sent = k
  induction k using Nat.strongRecOn generalizing σ s sent cs with
  | ind k ih =>
    by_cases hn : sent < value.text.length
    swap
    · have hall : sent = value.text.length := by omega
      have hdone : ¬ (sent : ℤ) < value.pieces.sizeToSend := by
        rw [h.sizeToSend]
        omega
      rw [endsExact_iff_of_done (piecesTurn_of_sent hdone), copied_of_sent hdone, append_nil, ← hall]
      exact iff_of_true hcs (.inl (by omega))
    obtain ⟨b, hs, hlive⟩ := hfresh.logLocalData
    have hwritable : σ.Writable (data.fresh b) := ⟨b, rfl, hlive⟩
    by_cases hroom : leftSize σ.logLength value.pieces.header (data.fresh b).size ≤ 0
    · have hsend : (sent : ℤ) < value.pieces.sizeToSend := by
        rw [h.sizeToSend]
        omega
      have hstuck : Stuck env value.pieces σ s := ⟨id, data.fresh b, hs, hroom, .inr (.inr hroom)⟩
      refine iff_of_false (not_endsExact_of_not_ends (not_ends_of_stuck hsend hstuck)) ?_
      rintro (hzero | ⟨fresh, hfill, hpos, -⟩)
      · omega
      · change leftSize σ.logLength 7 0 ≤ 0 at hroom
        omega
    obtain ⟨left, hleft⟩ := Int.eq_ofNat_of_zero_le (Int.le_of_lt (Int.not_le.mp hroom))
    have hpos : 0 < left := by omega
    have hrest : sent + left ≤ value.text.length → ExactFresh env value σ id (data.fresh b) (sent + left)
        (FillsFresh env σ.logLength (k - left)) := by
      intro hinside σ' s' cs' h' hlog hcs'
      rw [← hlog]
      exact ih (k - left) (by omega) (h'.congr rfl rfl) hinside hcs' (by omega)
    have hverbose : isVerboseMode env (data.fresh b) = true := Bool.or_true _
    rw [endsExact_room_iff h hn hs hleft hpos hinit hcs hfresh.settled.1 hwritable henabled hrest, hverbose,
      overhead_verbose]
    have hlength : leftSize σ.logLength 7 0 = left := hleft
    have hempty : (data.fresh b).size = 0 := rfl
    constructor
    · rintro ⟨hinside, htmp, hmemory, -, hmore⟩
      refine .inr ⟨left, hlength, hpos, htmp, by omega, ?_⟩
      by_cases hlast : sent + left = value.text.length
      · exact ⟨1, by omega⟩
      · rcases (hmore hlast).2 with hzero | ⟨fresh, hfill, -, -, -, hdvd⟩
        · omega
        · obtain rfl : fresh = left := by omega
          have hsum := Nat.dvd_add hdvd (Nat.dvd_refl fresh)
          rwa [Nat.sub_add_cancel (by omega)] at hsum
    · rintro (hzero | ⟨fresh, hfill, -, htmp, hmemory, hdvd⟩)
      · omega
      obtain rfl : fresh = left := by omega
      have hle := Nat.le_of_dvd (by omega) hdvd
      refine ⟨by omega, htmp, by omega, fun _ _ => hwritable.flushable hfresh.settled,
        fun _ => ⟨hfresh.settled.2, .inr ⟨fresh, hfill, hpos, htmp, hmemory, ?_⟩⟩⟩
      exact Nat.dvd_sub hdvd (Nat.dvd_refl fresh)

/-- **When a view is logged exactly.** -/
theorem loggedExactly_iff (h : EnabledStream env σ s id data) (value : StringView) :
    LoggedExactly env value σ s ↔ FillsExactly env value σ data := by
  have hinit := (h.enabled 0).initialised
  unfold FillsExactly
  by_cases hloggable : value.text.length < 2147483648 ∧ (0 : UInt8) ∉ value.text
  swap
  · refine iff_of_false (not_loggedExactly hinit hloggable) ?_
    rintro (hnil | ⟨hcond, -⟩)
    · rw [hnil] at hloggable
      exact hloggable ⟨by decide, not_mem_nil⟩
    · exact hloggable hcond
  have hview : Loggable value := ⟨hloggable.1, hloggable.2⟩
  have hnone : Exact value 0 [] := ⟨rfl, fun c hc => absurd hc not_mem_nil⟩
  by_cases hempty : value.text = []
  · have hdone : ¬ ((0 : ℕ) : ℤ) < value.pieces.sizeToSend := by
      rw [hview.sizeToSend, hempty]
      decide
    refine iff_of_true ?_ (.inl hempty)
    unfold LoggedExactly
    rw [endsExact_iff_of_done (piecesTurn_of_sent hdone), copied_of_sent hdone, hempty]
    exact hnone
  have hn : 0 < value.text.length := length_pos_of_ne_nil hempty
  have hsend : ((0 : ℕ) : ℤ) < value.pieces.sizeToSend := by
    rw [hview.sizeToSend]
    exact_mod_cast hn
  rw [or_iff_right hempty, and_iff_right hloggable]
  have hfresh : ∀ sent, sent ≤ value.text.length → ExactFresh env value σ id data sent
      (FillsFresh env σ.logLength (value.text.length - sent)) := by
    intro sent hsent σ' s' cs' h' hlog hcs'
    rw [← hlog]
    exact endsExact_fresh_iff hview hinit h.enabled h' hsent hcs'
  by_cases hroom : leftSize σ.logLength 7 data.size ≤ 0
  · have hroom' : leftSize σ.logLength value.pieces.header data.size ≤ 0 := hroom
    have hcopied : Exact value 0 ([] ++ copied env value.pieces (σ, s, 0)) := by
      rw [copied_of_noRoom h.logLocalData hroom']
      exact hnone
    have hiff := endsExact_flush_iff (piecesTurn_of_noRoom env hsend h.logLocalData hroom') hsend h.logLocalData hroom'
      h.loggingInit h.writable h.enabled hcopied (hfresh 0 (Nat.zero_le _))
    rw [Nat.sub_zero] at hiff
    rw [if_pos hroom]
    exact hiff
  · rw [if_neg hroom]
    obtain ⟨left, hleft⟩ := Int.eq_ofNat_of_zero_le (Int.le_of_lt (Int.not_le.mp hroom))
    have htoNat : (leftSize σ.logLength 7 data.size).toNat = left := by omega
    have hiff := endsExact_room_iff hview hn h.logLocalData hleft (by omega) hinit hnone h.loggingInit h.writable
      h.enabled fun hinside => hfresh (0 + left) hinside
    rw [Nat.zero_add] at hiff
    unfold LoggedExactly
    rw [hiff, htoNat]
    exact ⟨fun hcond => ⟨hcond.1, hcond.2.1, hcond.2.2.1, hcond.2.2.2.1, hcond.2.2.2.2⟩,
      fun hcond => ⟨hcond.le, hcond.tmp, hcond.memory, hcond.last, hcond.more⟩⟩

/-! ## Samples -/

/-- A library that is initialised, with a context of the highest level. -/
def viewEnv : LogEnv :=
  { isChild := false, initialised := true, verboseMode := true, logBufLen := 1390, registered := fun _ => true,
    logLevel := fun _ _ => 6 }

/-- An empty message of the level `DLT_LOG_INFO`. -/
def viewData : ContextData :=
  { handle := some 0, buffer := some 0, size := 0, logLevel := 4, argsNum := 0, verboseMode := true }

/-- Logging is initialised, with the lengths by default. -/
def viewState : LogState :=
  { loggingInit := true, bufferSize := -1, logLength := 1390, logBuffer := [],
    buffers := fun _ => some (List.replicate 1390 0), nextBuffer := 1, nextData := 1, starts := 1, calls := [] }

/-- A stream with the empty message. -/
def viewStream : LogStream := { logLocalData := some (0, viewData), logRet := dltReturnTrue }

theorem viewStream_enabled : EnabledStream viewEnv viewState viewStream 0 viewData where
  loggingInit := rfl
  logRet := by decide
  logLocalData := rfl
  writable := ⟨0, rfl, rfl⟩
  enabled := fun _ => ⟨rfl, rfl, by decide, by decide, 0, rfl, rfl, (show (4 : ℤ) ≤ 6 by decide)⟩

/-- A view of as many bytes as there is room for. -/
def fullView : StringView := { text := List.replicate 1383 97, behind := [98] }

theorem length_fullView : fullView.text.length = 1383 := length_replicate ..

theorem nonzero_fullView : (0 : UInt8) ∉ fullView.text :=
  fun hmem => absurd (eq_of_mem_replicate hmem) (by decide)

theorem loggedExactly_fullView : LoggedExactly viewEnv fullView viewState viewStream := by
  refine (loggedExactly_iff viewStream_enabled fullView).mpr (.inr ⟨⟨?_, nonzero_fullView⟩, ?_⟩)
  · rw [length_fullView]
    decide
  · have hleft : leftSize viewState.logLength 7 viewData.size = 1383 := by decide
    have hlen : (1383 : ℤ).toNat = fullView.text.length := length_fullView.symm
    rw [hleft, if_neg (by decide)]
    exact ⟨hlen.le, by decide, by decide, fun _ _ => viewStream_enabled.writable.flushable ⟨rfl, rfl⟩,
      fun hne => absurd hlen hne⟩

/-- A view of three bytes in a longer string: what stands behind it is read. -/
theorem not_loggedExactly_short :
    ¬ LoggedExactly viewEnv { text := [97, 98, 99], behind := [100, 101, 102] } viewState viewStream :=
  not_endsExact_of_behind ⟨by decide, by decide⟩ (by decide) rfl (show leftSize 1390 7 0 = ((1383 : ℕ) : ℤ) by decide)
    (by decide) (by decide)

end Dlt.Log
