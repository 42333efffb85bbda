import Dlt.File.Index
import Dlt.File.QuickParsing
import Dlt.MsgFilter.FilterFile

/-!
# Quick parsing and the index

* `WholeMessage`, `wholeContent` — a file of whole messages. `Printable` — a message is printed without error, and
  `IsLine` — what is printed for it.
* `indexedMessages` — the messages in the index, `readAll_indexed` — they are those that the filter accepts.
* `quick_parsing_agrees_iff` — **quick parsing agrees with the index exactly when** the filter accepts the last message.
  If it rejects it, the loop looks for one more message at the end of the file and returns an error.
-/

namespace Dlt.File

open Dlt.Lib Dlt.Lib.Checked Dlt.Shared List Option
open Dlt.Gateway (DltMessage.printed)
open Dlt.MsgFilter (DltFilter dltMessageFilterCheck messageFilterCheck_cases oneApplication)
open Dlt.Payload (dltMessagePayload dltPrintHexStringDelim hexLoop_printed)

/-! ## A file of whole messages -/

/-- A message that lies whole in a file. -/
structure WholeMessage extends FileMessage where
  storage_begins : storagePattern <+: storage
  storage_length : storage.length = sizeofDltStorageHeader
  /-- The headers are those that the header type announces. -/
  header_length : header.length = headerLength (htypOf header)
  /-- The length field covers the headers and the payload. -/
  lenOf_eq : lenOf header = header.length + payload.length

open WholeMessage

def wholeContent (messages : List WholeMessage) : List UInt8 := (messages.map fun m => m.bytes).flatten

section

variable (m : WholeMessage)
include m

theorem wholeContent_cons (messages : List WholeMessage) :
    wholeContent (m :: messages) = m.bytes ++ wholeContent messages := rfl

theorem WholeMessage.storedMessage_eq (more : List UInt8) :
    storedMessage (m.bytes ++ more) = some (0, m.toFileMessage) := by
  have hbytes : m.bytes ++ more = m.storage ++ (m.header ++ m.payload ++ more) := by
    rw [FileMessage.bytes, append_assoc]
  have hfind : find storagePattern (m.bytes ++ more) = some 0 := by
    rw [hbytes]
    exact find_start (m.storage_begins.trans (prefix_append _ _))
  have hbody : bodyFrame ((m.bytes ++ more).drop (0 + sizeofDltStorageHeader)) = .ok (m.header, m.payload) := by
    rw [hbytes, Nat.zero_add, drop_left' m.storage_length]
    exact bodyFrame_ok_iff.mpr ⟨more, rfl, m.header_length, m.lenOf_eq⟩
  have hstorage : storageAt (m.bytes ++ more) 0 = m.storage := by
    rw [storageAt, hbytes, drop_zero, take_left' m.storage_length]
  unfold storedMessage
  rw [hfind]
  dsimp only
  rw [hbody, hstorage]

theorem WholeMessage.length_bytes : m.bytes.length = messageEnd 0 m.toFileMessage := by
  rw [FileMessage.bytes, length_append, length_append, m.storage_length, messageEnd]
  omega

theorem WholeMessage.bytes_pos : 0 < m.bytes.length := by
  have hpos : 0 < sizeofDltStorageHeader := by decide
  rw [m.length_bytes, messageEnd]
  omega

end

theorem headerAt_nil : headerAt [] = none := by decide

instance (filter : Option DltFilter) (header : List UInt8) : Decidable (Accepted filter header) :=
  inferInstanceAs (Decidable (∀ f ∈ filter, dltMessageFilterCheck (headerChecked header) f = dltReturnTrue))

def acceptedMessages (filter : Option DltFilter) (messages : List WholeMessage) : List WholeMessage :=
  messages.filter fun m => Accepted filter m.header

/-! ## Printing -/

/-- The message is printed without error into the text buffer, whatever is in it. -/
def Printable (env : LineEnv) (m : FileMessage) : Prop :=
  ∀ msg old text, LoadedBut msg m old → text.length = dltConvertTextbufsize →
    ∃ ret s, (dltMessagePayload env.print (DltMessage.printed msg) dltConvertTextbufsize env.type).result
        { text, ptr := 0, datalength := msg.payload.length } = some (ret, s) ∧
      dltReturnOk ≤ (ret.casesOn id id : ℤ) ∧ s.text.length = dltConvertTextbufsize ∧ 0 ∈ s.text

/-- What is printed for a message. -/
def IsLine (env : LineEnv) (line : List UInt8) (m : FileMessage) : Prop :=
  ∃ msg old text printed, LoadedBut msg m old ∧ text.length = dltConvertTextbufsize ∧
    printLine env msg text = some printed ∧ line = printed.line

section printing

variable {env : LineEnv} {m : FileMessage} {msg : DltMessage} {old : Option ℕ} {text : List UInt8}

theorem printLine_ok (h : Printable env m) (hloaded : LoadedBut msg m old)
    (htext : text.length = dltConvertTextbufsize) :
    ∃ printed, printLine env msg text = some printed ∧ dltReturnOk ≤ printed.ret ∧
      printed.text.length = dltConvertTextbufsize := by
  have hsize : 0 < dltConvertTextbufsize := by decide
  obtain ⟨begun, hbegun⟩ := snprintf_eq_some_iff.mpr (.inr (show
    0 + min (messageHeaderText env.localTime msg).length (dltConvertTextbufsize - 1) < text.length by omega))
  obtain ⟨header, hheader⟩ := cstring_eq_some_iff.mpr (terminated_snprintf hbegun hsize)
  obtain ⟨ret, s, hresult, hret, hlength, hzero⟩ := h msg old begun hloaded ((kept_snprintf hbegun).length.trans htext)
  obtain ⟨payload, hpayload⟩ := cstring_eq_some_iff.mpr (show 0 ∈ s.text.drop 0 from hzero)
  refine ⟨{ text := s.text, header, payload, ret := ret.casesOn id id }, ?_, hret, hlength⟩
  unfold printLine
  simp only [hbegun, hheader, hresult, hpayload, bind_eq_bind, bind_some]

/-- Digits are printed for every message that is not longer than a third of the buffer. -/
theorem printable_hex (htype : env.type = .hex) (hfits : m.payload.length * 3 ≤ dltConvertTextbufsize) :
    Printable env m := by
  intro msg old text hloaded htext
  have hpayload : msg.payload = m.payload := congrArg Consumed.payload hloaded.consumed_eq
  have hsize : i32 (dltConvertTextbufsize : ℤ) = dltConvertTextbufsize := by decide
  obtain ⟨begun, hbegun⟩ := poke_eq_some_iff.mpr (show 0 + [(0 : UInt8)].length ≤ text.length by
    rw [htext]
    decide)
  have hlength : begun.length = dltConvertTextbufsize := (length_poke hbegun).trans htext
  have hzero : 0 ∈ begun := terminated_poke hbegun mem_cons_self
  have hensures : Ensures (dltMessagePayload env.print (DltMessage.printed msg) dltConvertTextbufsize .hex)
      (fun ret s => ret = dltReturnOk ∧ s.text.length = dltConvertTextbufsize ∧ 0 ∈ s.text) (fun _ _ => False)
      { text, ptr := 0, datalength := msg.payload.length } := by
    unfold dltMessagePayload
    rw [ensures_bind, ensures_get, ensures_bind, ensures_ofOption]
    refine ⟨begun, hbegun, ?_⟩
    rw [ensures_bind, ensures_set]
    dsimp only
    have hdata : (DltMessage.printed msg).databuffer = m.payload := hpayload
    unfold Dlt.Payload.dltPrintHexString dltPrintHexStringDelim
    rw [hdata, hsize, if_neg (by unfold dltConvertTextbufsize; omega), if_neg (by omega), ensures_bind,
      ensures_ofOption]
    refine ⟨_, peek_eq (by rw [Int.toNat_natCast, Nat.zero_add]), (hexLoop_printed 32 false _ ?_).bind ?_⟩
    · right
      rw [drop_zero, Int.toNat_natCast, take_length, Bool.toNat_false]
      change _ ≤ begun.length
      omega
    · rintro - s hprinted
      have hkept := hprinted.prints.1.kept
      exact ⟨rfl, hkept.length.trans hlength, hkept.terminated hzero⟩
  obtain ⟨ret, s, hresult, rfl, hkept⟩ := hensures.exists_result
  rw [← htype] at hresult
  exact ⟨.ok dltReturnOk, s, hresult, le_rfl, hkept⟩

end printing

/-! ## The loop -/

/-- The loop stands before these messages. The position in the file may lag behind the handle. -/
structure Before (content : List UInt8) (filter : Option DltFilter) (messages : List WholeMessage) (p : ParseState) :
    Prop where
  ready : p.file.toLoadState.Ready content
  filter_eq : p.file.filter = filter
  rest_eq : p.file.handle.rest = wholeContent messages
  filePosition_le : p.file.filePosition ≤ p.file.handle.pos
  fileLength_eq : p.file.fileLength = content.length
  text_length : p.text.length = dltConvertTextbufsize
  ret_ok : dltReturnOk ≤ p.ret

section loop

variable {env : LineEnv} {malloc : Malloc} {content : List UInt8} {filter : Option DltFilter} {m : WholeMessage}
  {messages : List WholeMessage} {p p' : ParseState}

theorem quickCheck_eq_true_iff {file : DltFile} {old : Option ℕ} (h : LoadedBut file.msg m.toFileMessage old) :
    quickCheck file = dltReturnTrue ↔ Accepted file.filter m.header := by
  unfold quickCheck Accepted
  cases file.filter with
  | none => exact ⟨fun _ _ hnone => (by cases hnone), fun _ => rfl⟩
  | some f =>
    dsimp only
    rw [h.checked m.header_length m.lenOf_eq]
    exact ⟨fun hcheck _ hf => mem_some_iff.mp hf ▸ hcheck, fun haccepted => haccepted f rfl⟩

theorem quickCheck_ok (file : DltFile) : dltReturnOk ≤ quickCheck file := by
  unfold quickCheck
  cases file.filter with
  | none => exact Int.not_lt.mp true_not_lt
  | some f =>
    rcases messageFilterCheck_cases (checkedMessage file.msg) f with hcheck | hcheck
    · dsimp only
      rw [hcheck]
      exact Int.not_lt.mp true_not_lt
    · dsimp only
      rw [hcheck]

theorem Before.pos_lt (h : Before content filter (m :: messages) p) : p.file.handle.pos < content.length := by
  have hrest := congrArg List.length (h.ready.rest_eq.symm.trans h.rest_eq)
  rw [wholeContent_cons, length_append, length_drop] at hrest
  have hpos := m.bytes_pos
  omega

theorem Before.filePosition_lt (h : Before content filter (m :: messages) p) :
    p.file.filePosition < p.file.fileLength := by
  rw [h.fileLength_eq]
  exact h.filePosition_le.trans_lt h.pos_lt

section

variable (hm : malloc.Succeeds) (h : Before content filter (m :: messages) p)
include hm h

theorem Before.load :
    (dltFileLoad malloc p.file.toLoadState).2 = dltReturnOk ∧
      (dltFileLoad malloc p.file.toLoadState).1.handle.rest = wholeContent messages ∧
      p.file.handle.pos ≤ (dltFileLoad malloc p.file.toLoadState).1.handle.pos ∧
      LoadedBut (dltFileLoad malloc p.file.toLoadState).1.msg m.toFileMessage p.file.msg.extendedheader ∧
      (quickCheck { p.file with toLoadState := (dltFileLoad malloc p.file.toLoadState).1 } = dltReturnTrue ↔
        Accepted filter m.header) := by
  have hstored : storedMessage p.file.handle.rest = some (0, m.toFileMessage) := by
    rw [h.rest_eq, wholeContent_cons]
    exact m.storedMessage_eq _
  obtain ⟨hret, hhandle, hloaded⟩ := dltFileLoad_ok hm h.ready hstored
  refine ⟨hret, ?_, ?_, hloaded, ?_⟩
  · rw [hhandle, rest_behind, h.rest_eq, wholeContent_cons, drop_left' m.length_bytes]
  · rw [hhandle, ByteFile.pos_seek]
    exact Nat.le_add_right _ _
  · rw [← h.filter_eq]
    exact quickCheck_eq_true_iff hloaded

/-- **A message that the filter accepts is printed**, and the position catches up. -/
theorem quickTurn_accepted (hprint : Printable env m.toFileMessage) (haccepted : Accepted filter m.header) :
    ∃ p' line, quickTurn env malloc p = some (p', true) ∧ Before content filter messages p' ∧
      p'.output = p.output ++ line ∧ IsLine env line m.toFileMessage ∧
      p'.file.filePosition = p'.file.handle.pos := by
  obtain ⟨hret, hrest, -, hloaded, hcheck⟩ := h.load hm
  obtain ⟨printed, hprinted, hprintedRet, hlength⟩ := printLine_ok hprint hloaded h.text_length
  refine ⟨{
    file := DltFile.parsed { p.file with toLoadState := (dltFileLoad malloc p.file.toLoadState).1 }
    text := printed.text, output := p.output ++ printed.line, ret := printed.ret }, printed.line, ?_, ?_, rfl,
    ⟨_, _, _, printed, hloaded, h.text_length, hprinted, rfl⟩, rfl⟩
  · unfold quickTurn
    dsimp only
    rw [hret, if_neg ok_not_lt, if_neg (not_not.mpr (hcheck.mpr haccepted)), hprinted, bind_eq_bind,
      bind_some, if_neg (Int.not_lt.mpr hprintedRet)]
  · exact ⟨h.ready.load malloc, h.filter_eq, hrest, le_rfl, h.fileLength_eq, hlength, hprintedRet⟩

/-- **A message that the filter rejects is passed over**, and the position stays where it was. -/
theorem quickTurn_rejected (hrejected : ¬Accepted filter m.header) :
    ∃ p', quickTurn env malloc p = some (p', true) ∧ Before content filter messages p' ∧ p'.output = p.output ∧
      p'.file.filePosition < p'.file.fileLength := by
  obtain ⟨hret, hrest, hpos, -, hcheck⟩ := h.load hm
  refine ⟨{ p with
    file := { p.file with toLoadState := (dltFileLoad malloc p.file.toLoadState).1 }
    ret := quickCheck { p.file with toLoadState := (dltFileLoad malloc p.file.toLoadState).1 } }, ?_, ?_, rfl,
    h.filePosition_lt⟩
  · unfold quickTurn
    dsimp only
    rw [hret, if_neg ok_not_lt, if_pos (mt hcheck.mp hrejected)]
  · exact ⟨h.ready.load malloc, h.filter_eq, hrest, h.filePosition_le.trans hpos, h.fileLength_eq, h.text_length,
      quickCheck_ok _⟩

end

theorem quickLoop_turn {more : Bool} (hret : dltReturnOk ≤ p.ret) (hpos : p.file.filePosition < p.file.fileLength)
    (hturn : quickTurn env malloc p = some (p', more)) :
    quickLoop env malloc p = if more then quickLoop env malloc p' else some p' := by
  rw [quickLoop, if_pos ⟨hret, hpos⟩]
  split
  · rename_i hnone
    rw [hturn] at hnone
    cases hnone
  · rename_i hlast
    rw [hturn] at hlast
    cases hlast
    rfl
  · rename_i hnext
    rw [hturn] at hnext
    cases hnext
    rfl

/-- **At the end of the file** the loop fails unless the position is there as well. -/
theorem quickLoop_end (h : Before content filter [] p) :
    ∃ p', quickLoop env malloc p = some p' ∧ p'.output = p.output ∧
      (dltReturnOk ≤ p'.ret ↔ p.file.fileLength ≤ p.file.filePosition) := by
  by_cases hpos : p.file.filePosition < p.file.fileLength
  · have hload : (dltFileLoad malloc p.file.toLoadState).2 = dltReturnError := by
      apply dltFileLoad_error h.ready
      rw [h.rest_eq]
      exact storedMessage_none headerAt_nil
    have hturn : quickTurn env malloc p = some ({ p with
        file := { p.file with toLoadState := (dltFileLoad malloc p.file.toLoadState).1 }
        ret := dltReturnError }, false) := by
      unfold quickTurn
      dsimp only
      rw [hload, if_pos error_lt]
    exact ⟨_, quickLoop_turn h.ret_ok hpos hturn, rfl,
      iff_of_false (Int.not_le.mpr error_lt) (Nat.not_le.mpr hpos)⟩
  · refine ⟨p, ?_, rfl, iff_of_true h.ret_ok (Nat.not_lt.mp hpos)⟩
    rw [quickLoop, if_neg fun hgo => hpos hgo.2]

/-- What a turn does with the next message: the position reaches the end of the file only if the message is the last
one and is accepted. -/
theorem quickTurn_message (hm : malloc.Succeeds) (h : Before content filter (m :: messages) p)
    (hprint : Printable env m.toFileMessage) :
    ∃ p' lines, quickTurn env malloc p = some (p', true) ∧ Before content filter messages p' ∧
      p'.output = p.output ++ lines.flatten ∧
      List.Forall₂ (fun line l => IsLine env line (toFileMessage l)) lines (acceptedMessages filter [m]) ∧
      (messages = [] → (p'.file.fileLength ≤ p'.file.filePosition ↔ Accepted filter m.header)) := by
  by_cases haccepted : Accepted filter m.header
  · obtain ⟨p', line, hturn, hbefore, houtput, hline, hposition⟩ := quickTurn_accepted hm h hprint haccepted
    have hkept : acceptedMessages filter [m] = [m] := filter_cons_of_pos (decide_eq_true haccepted)
    refine ⟨p', [line], hturn, hbefore, ?_, ?_, ?_⟩
    · rw [houtput, flatten_singleton]
    · rw [hkept]
      exact .cons hline .nil
    · rintro rfl
      refine iff_of_true ?_ haccepted
      rw [hposition, hbefore.fileLength_eq]
      exact drop_eq_nil_iff.mp (hbefore.ready.rest_eq.symm.trans hbefore.rest_eq)
  · obtain ⟨p', hturn, hbefore, houtput, hposition⟩ := @quickTurn_rejected env _ _ _ _ _ _ hm h haccepted
    have hnone : acceptedMessages filter [m] = [] :=
      filter_cons_of_neg fun hpos => haccepted (of_decide_eq_true hpos)
    refine ⟨p', [], hturn, hbefore, ?_, ?_, fun _ => iff_of_false (Nat.not_le.mpr hposition) haccepted⟩
    · rw [houtput, flatten_nil, append_nil]
    · rw [hnone]
      exact .nil

theorem acceptedMessages_cons (filter : Option DltFilter) (m : WholeMessage) (messages : List WholeMessage) :
    acceptedMessages filter (m :: messages) = acceptedMessages filter [m] ++ acceptedMessages filter messages :=
  filter_append [m] messages

/-- **The whole loop**: a line for every message that the filter accepts, in order; and an error is returned if and only
if it rejects the last one. -/
theorem quickLoop_messages (hm : malloc.Succeeds) (h : Before content filter (m :: messages) p)
    (hprint : ∀ l ∈ m :: messages, Printable env l.toFileMessage) :
    ∃ p' lines, quickLoop env malloc p = some p' ∧ p'.output = p.output ++ lines.flatten ∧
      List.Forall₂ (fun line l => IsLine env line (toFileMessage l)) lines
        (acceptedMessages filter (m :: messages)) ∧
      (dltReturnOk ≤ p'.ret ↔ ∀ l ∈ (m :: messages).getLast?, Accepted filter l.header) := by
  induction messages generalizing m p with
  | nil =>
    obtain ⟨p₁, lines, hturn, hbefore, houtput, hlines, hend⟩ := quickTurn_message hm h (hprint m mem_cons_self)
    obtain ⟨p', hloop, houtput', hret⟩ := @quickLoop_end env malloc _ _ _ hbefore
    refine ⟨p', lines, (quickLoop_turn h.ret_ok h.filePosition_lt hturn).trans hloop,
        houtput'.trans houtput, hlines, ?_⟩
    rw [hret, hend rfl, getLast?_singleton]
    exact ⟨fun haccepted _ hl => mem_some_iff.mp hl ▸ haccepted, fun hall => hall m rfl⟩
  | cons m' messages ih =>
    obtain ⟨p₁, lines, hturn, hbefore, houtput, hlines, -⟩ := quickTurn_message hm h (hprint m mem_cons_self)
    obtain ⟨p', lines', hloop, houtput', hlines', hret⟩ :=
      ih hbefore fun l hl => hprint l (mem_cons_of_mem m hl)
    refine ⟨p', lines ++ lines', (quickLoop_turn h.ret_ok h.filePosition_lt hturn).trans hloop, ?_, ?_, ?_⟩
    · rw [houtput', houtput, flatten_append, append_assoc]
    · rw [acceptedMessages_cons]
      exact rel_append hlines hlines'
    · rw [hret, getLast?_cons_cons]

end loop

/-! ## The index -/

def indexedMessages (content : List UInt8) (file : DltFile) : List FileMessage :=
  (file.index.take file.counter).filterMap fun pos => (storedMessage (content.drop pos)).map Prod.snd

section indexed

variable {malloc : Malloc} {content : List UInt8} {m : WholeMessage} {messages : List WholeMessage} {run : FileRun}

/-- **A call of `dlt_file_read` takes the next message** into the index if the filter accepts it. -/
theorem read_message (hm : malloc.Succeeds) (h : Indexed content run)
    (hrest : content.drop run.file.filePosition = wholeContent (m :: messages)) :
    (run.step (.read malloc)).file.filter = run.file.filter ∧
      content.drop (run.step (.read malloc)).file.filePosition = wholeContent messages ∧
      indexedMessages content (run.step (.read malloc)).file = indexedMessages content run.file ++
        (acceptedMessages run.file.filter [m]).map toFileMessage := by
  have hstored : storedMessage (content.drop run.file.filePosition) = some (0, m.toFileMessage) := by
    rw [hrest, wholeContent_cons]
    exact m.storedMessage_eq _
  obtain ⟨hheader, -, hfields⟩ := storedMessage_eq_some.mp hstored
  have hheaders : headersAt (content.drop run.file.filePosition) 0 = m.header :=
    (congrArg FileMessage.header hfields).symm
  have hlenOf : lenOf (standardAt (content.drop run.file.filePosition) 0) = m.header.length + m.payload.length := by
    rw [← (headersAt_fields _ 0).2.2, hheaders, m.lenOf_eq]
  -- the position behind the message
  have hbehind : content.drop (run.file.filePosition +
      (0 + sizeofDltStorageHeader + lenOf (standardAt (content.drop run.file.filePosition) 0))) =
      wholeContent messages := by
    have hlength : m.bytes.length = 0 + sizeofDltStorageHeader + (m.header.length + m.payload.length) := by
      rw [m.length_bytes, messageEnd, Nat.add_assoc]
    rw [hlenOf, ← hlength, ← drop_drop, hrest, wholeContent_cons, drop_left]
  unfold FileRun.step
  dsimp only
  have houtcome := dltFileRead_outcome malloc h.ready
  generalize dltFileRead malloc run.file = read at houtcome ⊢
  cases houtcome with
  | failed hs hcut =>
    rw [hcut hm] at hstored
    cases hstored
  | rejected hs hk hpos hfilter =>
    obtain rfl := storedMessage_header hstored hk
    rw [hheaders] at hfilter
    have hnone : acceptedMessages run.file.filter [m] = [] :=
      filter_cons_of_neg fun haccepted => hfilter (of_decide_eq_true haccepted)
    refine ⟨rfl, ?_, ?_⟩
    · rw [← hbehind, ← hpos]
      rfl
    · rw [hnone, map_nil, append_nil]
      rfl
  | found hs hk hpos hfilter hbuffer =>
    obtain rfl := storedMessage_header hstored hk
    rw [hheaders] at hfilter
    have hkept : acceptedMessages run.file.filter [m] = [m] := filter_cons_of_pos (decide_eq_true hfilter)
    refine ⟨rfl, ?_, ?_⟩
    · rw [← hbehind, ← hpos]
      rfl
    · rw [hkept]
      unfold indexedMessages DltFile.next DltFile.store
      dsimp only
      have htake : (run.file.index.take run.file.counter ++ [run.file.filePosition]).length =
          run.file.counter + 1 := by
        rw [length_append, length_take, Nat.min_eq_left h.index_length]
        rfl
      rw [← htake, take_length, filterMap_append, filterMap_cons, hstored]
      rfl

/-- At the end of the file a call changes nothing that belongs to the index. -/
theorem read_end (h : Indexed content run) (hrest : content.drop run.file.filePosition = []) :
    (run.step (.read malloc)).file.filter = run.file.filter ∧
      (run.step (.read malloc)).file.filePosition = run.file.filePosition ∧
      indexedMessages content (run.step (.read malloc)).file = indexedMessages content run.file := by
  unfold FileRun.step
  dsimp only
  have houtcome := dltFileRead_outcome malloc h.ready
  generalize dltFileRead malloc run.file = read at houtcome ⊢
  cases houtcome with
  | failed hs hcut => exact ⟨rfl, rfl, rfl⟩
  | rejected hs hk hpos hfilter =>
    rw [hrest, headerAt_nil] at hk
    cases hk
  | found hs hk hpos hfilter hbuffer =>
    rw [hrest, headerAt_nil] at hk
    cases hk

/-- **Repeated calls index the messages that the filter accepts.** -/
theorem readAll_indexed (hm : malloc.Succeeds) (h : Indexed content run)
    (hrest : content.drop run.file.filePosition = wholeContent messages) {n : ℕ} (hn : messages.length ≤ n) :
    indexedMessages content ((List.replicate n (FileOp.read malloc)).foldl FileRun.step run).file =
      indexedMessages content run.file ++
        (acceptedMessages run.file.filter messages).map toFileMessage := by
  induction n generalizing messages run with
  | zero =>
    obtain rfl := length_eq_zero_iff.mp (Nat.le_zero.mp hn)
    exact (append_nil _).symm
  | succ n ih =>
    rw [replicate_succ, foldl_cons]
    cases messages with
    | nil =>
      obtain ⟨hfilter, hposition, hindexed⟩ := @read_end malloc _ _ h hrest
      have hbehind : content.drop (run.step (.read malloc)).file.filePosition = wholeContent [] := by
        rw [hposition]
        exact hrest
      have hnext := ih (h.step (.read malloc)) hbehind (Nat.zero_le n)
      rw [hnext, hindexed]
      rfl
    | cons m messages =>
      obtain ⟨hfilter, hbehind, hindexed⟩ := read_message hm h hrest
      have hnext := ih (h.step (.read malloc)) hbehind (Nat.le_of_succ_le_succ hn)
      rw [hnext, hindexed, hfilter, acceptedMessages_cons _ m messages, map_append, append_assoc]

end indexed

/-! ## Agreement -/

/-- Quick parsing agrees with `n` calls of `dlt_file_read`: it ends without error, and it prints one line for each
message of the index, in order. -/
def ParsesIndexed (env : LineEnv) (malloc : Malloc) (content : List UInt8) (file : DltFile) (n : ℕ) : Prop :=
  ∃ file' lines ret, dltFileQuickParsing env malloc true (dltFileOpen content file) = some (file', lines.flatten, ret) ∧
    List.Forall₂ (IsLine env) lines
      (indexedMessages content (runFile content file (List.replicate n (.read malloc))).file) ∧
    dltReturnOk ≤ ret

section agreement

variable {env : LineEnv} {malloc : Malloc} {messages : List WholeMessage} {file : DltFile}

/-- The loop prints a line for every message that the filter accepts, and returns no error if it accepts the last. -/
theorem quickParsing_lines (hm : malloc.Succeeds) (hwf : file.msg.Wf) (hsize : 0 ≤ file.msg.datasize)
    (hprint : ∀ m ∈ messages, Printable env m.toFileMessage) :
    ∃ file' lines ret, dltFileQuickParsing env malloc true (dltFileOpen (wholeContent messages) file) =
        some (file', lines.flatten, ret) ∧
      List.Forall₂ (fun line l => IsLine env line (toFileMessage l)) lines
        (acceptedMessages file.filter messages) ∧
      (dltReturnOk ≤ ret ↔ ∀ m ∈ messages.getLast?, Accepted file.filter m.header) := by
  have hbefore : Before (wholeContent messages) file.filter messages
      { file := dltFileOpen (wholeContent messages) file, text := replicate dltConvertTextbufsize 0
        output := [], ret := dltReturnOk } :=
    ⟨⟨rfl, hwf, hsize⟩, rfl, rfl, le_rfl, rfl, length_replicate, le_rfl⟩
  unfold dltFileQuickParsing
  rw [if_neg (by decide)]
  cases messages with
  | nil =>
    obtain ⟨p', hloop, houtput, hret⟩ := @quickLoop_end env malloc _ _ _ hbefore
    rw [hloop]
    refine ⟨p'.file, [], p'.ret, ?_, .nil, iff_of_true (hret.mpr (Nat.zero_le _)) fun _ hnone => ?_⟩
    · rw [map_some, houtput]
      rfl
    · cases hnone
  | cons m messages =>
    obtain ⟨p', lines, hloop, houtput, hlines, hret⟩ := quickLoop_messages hm hbefore hprint
    rw [hloop]
    refine ⟨p'.file, lines, p'.ret, ?_, hlines, hret⟩
    rw [map_some, houtput, nil_append]

/-- **Quick parsing agrees with the index if and only if** the filter accepts the last message of the file. -/
theorem quick_parsing_agrees_iff (hm : malloc.Succeeds) (hwf : file.msg.Wf) (hsize : 0 ≤ file.msg.datasize)
    (hprint : ∀ m ∈ messages, Printable env m.toFileMessage) {n : ℕ} (hn : messages.length ≤ n) :
    ParsesIndexed env malloc (wholeContent messages) file n ↔
      ∀ m ∈ messages.getLast?, Accepted file.filter m.header := by
  obtain ⟨file', lines, ret, hparsed, hlines, hret⟩ := quickParsing_lines hm hwf hsize hprint
  have hindexed := readAll_indexed hm (indexed_runFile (wholeContent messages) hwf hsize []) rfl hn
  constructor
  · rintro ⟨_, _, _, hparsed', -, hok⟩
    rw [hparsed] at hparsed'
    simp only [Option.some.injEq, Prod.mk.injEq] at hparsed'
    obtain ⟨-, -, rfl⟩ := hparsed'
    exact hret.mp hok
  · intro haccepted
    refine ⟨file', lines, ret, hparsed, ?_, hret.mpr haccepted⟩
    have hrun : (runFile (wholeContent messages) file (replicate n (.read malloc))).file =
        ((replicate n (FileOp.read malloc)).foldl FileRun.step (runFile (wholeContent messages) file [])).file :=
      rfl
    rw [hrun, hindexed]
    exact forall₂_map_right_iff.mpr hlines

end agreement

/-! ## Two files -/

/-- A message with an extended header. -/
def wholeExtended : WholeMessage where
  toFileMessage := extendedMessage
  storage_begins := by decide
  storage_length := by decide
  header_length := by decide
  lenOf_eq := by decide

/-- A message without one, which every filter accepts. -/
def wholePlain : WholeMessage where
  toFileMessage := plainMessage
  storage_begins := by decide
  storage_length := by decide
  header_length := by decide
  lenOf_eq := by decide

/-- Payloads are printed as digits. -/
def hexEnv : LineEnv where
  print := { withAttributes := false, float32 := fun _ => [], float64 := fun _ => [] }
  localTime := fun _ => []
  type := .hex

/-- A file that was initialised, with a filter for another application. -/
def filteredFile : DltFile := { freshFile with filter := some (oneApplication [65]) }

/-- The filter rejects the first message and accepts the last one. -/
theorem quick_parsing_agrees_sample :
    ParsesIndexed hexEnv zeroMalloc (wholeContent [wholeExtended, wholePlain]) filteredFile 2 := by
  have hprint : ∀ m ∈ [wholeExtended, wholePlain], Printable hexEnv m.toFileMessage := by
    intro m hm
    refine printable_hex rfl ?_
    rcases mem_pair.mp hm with rfl | rfl
    · decide
    · decide
  have hwf : filteredFile.msg.Wf := freshFile_wf
  refine (quick_parsing_agrees_iff zeroMalloc_succeeds hwf le_rfl hprint le_rfl).mpr ?_
  decide +kernel

/-- The filter rejects the last message: the first one is printed, and an error is returned. -/
theorem quick_parsing_differs :
    ¬ParsesIndexed hexEnv zeroMalloc (wholeContent [wholePlain, wholeExtended]) filteredFile 2 := by
  rintro ⟨file', lines, ret, hparsed, -, hok⟩
  have herror : (dltFileQuickParsing hexEnv zeroMalloc true
      (dltFileOpen (wholeContent [wholePlain, wholeExtended]) filteredFile)).map (fun r => r.2.2) =
        some dltReturnError := by
    decide +kernel
  rw [hparsed] at herror
  obtain rfl := Option.some.inj herror
  exact absurd error_lt (Int.not_lt.mpr hok)

end Dlt.File
