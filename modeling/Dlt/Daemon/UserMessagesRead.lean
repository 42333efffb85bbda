import Dlt.Daemon.UserMessages
import Dlt.Shared.MessageFrame

/-!
# How the handlers read a message

* `processUserFunc_lost` — **a part of a registration with its description** may be removed instead,
  and the message is lost.
-/

namespace Dlt.Daemon

open Dlt.Lib Dlt.Shared List UserMessage

variable {m : UserMessage} {part more : List UInt8}

/-! ## Messages on the wire -/

namespace UserMessage

/-- The message type. Source: `dlt_user_shared_cfg.h`, `DLT_USER_MESSAGE_LOG` and those below it -/
def type : UserMessage → ℕ
  | log .. => 1
  | registerApplication .. => 2
  | unregisterApplication .. => 3
  | registerContext .. => 4
  | unregisterContext .. => 5
  | overflow .. => 8
  | setAppLlTs .. => 9
  | marker .. => 13

/-- The part of fixed size behind the user header. A log message has none. -/
def payload : UserMessage → List UInt8
  | log .. => []
  | registerApplication userapp _ => registerApplicationLayout.encode userapp
  | unregisterApplication userapp => unregisterApplicationLayout.encode userapp
  | registerContext userctxt _ => registerContextLayout.encode userctxt
  | unregisterContext userctxt => unregisterContextLayout.encode userctxt
  | overflow userpayload => bufferOverflowLayout.encode userpayload
  | setAppLlTs userctxt => appLogLevelTraceStatusLayout.encode userctxt
  | marker userctxt => logModeLayout.encode userctxt

def description : UserMessage → List UInt8
  | registerApplication _ description => description
  | registerContext _ description => description
  | _ => []

/-- The bytes behind the part of fixed size. -/
def tail : UserMessage → List UInt8
  | log header payload => header ++ payload
  | m => m.description

/-- The user header of a message type. Source: `dlt_user_shared.c`, `dlt_user_set_userheader` -/
def userHeader (type : ℕ) : List UInt8 := userHeaderPattern ++ leBytes 4 type

/-- The bytes that the sender writes: the user header, the part of fixed size and the tail. -/
def encode (m : UserMessage) : List UInt8 := userHeader m.type ++ (m.payload ++ m.tail)

/-- The fields that a correct sender fills: the length of a description is that of its text, and a log
message is as long as its length field says, without a serial header. The marker is left out: its
sender writes the user header only. -/
def Valid : UserMessage → Prop
  | log header payload =>
      bodyFrame (header ++ payload) = .ok (header, payload) ∧
        ¬ dltSerialHeader <+: header ++ payload
  | registerApplication userapp description =>
      userapp.descriptionLength.toNat = description.length ∧ 0 ∉ description
  | registerContext userctxt description =>
      userctxt.descriptionLength.toNat = description.length ∧ 0 ∉ description
  | marker _ => False
  | _ => True

/-- What a handler takes: a long description is cut. -/
def taken : UserMessage → UserMessage
  | registerApplication userapp description =>
      registerApplication userapp (description.take dltDaemonDescsize)
  | registerContext userctxt description =>
      registerContext userctxt (description.take dltDaemonDescsize)
  | m => m

theorem taken_eq_iff : m.taken = m ↔ m.description.length ≤ dltDaemonDescsize := by
  cases m <;> simp [taken, description]

@[simp] theorem length_userHeader (type : ℕ) : (userHeader type).length = sizeofDltUserHeader := by
  simp [userHeader, userHeaderPattern, sizeofDltUserHeader]

theorem length_encode (m : UserMessage) :
    m.encode.length = sizeofDltUserHeader + (m.payload.length + m.tail.length) := by
  simp [encode]

theorem encode_ne_nil (m : UserMessage) : m.encode ≠ [] := by
  have hlen := m.length_encode
  unfold sizeofDltUserHeader at hlen
  intro hnil
  rw [hnil, length_nil] at hlen
  omega

end UserMessage

theorem check_userHeader (type : ℕ) (rest : List UInt8) :
    dltUserCheckUserheader (userHeader type ++ rest) = true := by
  simp [dltUserCheckUserheader, userHeader, userHeaderPattern]

theorem message_userHeader {type : ℕ} (h : type < 16) (rest : List UInt8) :
    userHeaderMessage (userHeader type ++ rest) = type := by
  have hdrop : (userHeader type ++ rest).drop 4 = leBytes 4 type ++ rest := by
    simp [userHeader, userHeaderPattern]
  rw [userHeaderMessage, hdrop, take_left' (length_leBytes 4 type),
    ofLeBytes_leBytes_of_lt (by omega)]

theorem type_lt (m : UserMessage) : m.type < 16 := by cases m <;> simp [type]

/-! ## What a handler does -/

section reads

variable {σ α : Type*} {malloc : Malloc} {h : UserHandlers σ} {s : UserState σ}
  {bytes rest : List UInt8}

/-- The bytes not yet consumed, in a state whose records are well-formed. -/
structure UserView (s : UserState σ) (bytes : List UInt8) : Prop where
  /-- The bytes lie behind the read pointer. -/
  view : View s.buffer s.receiver bytes
  /-- The record for the log messages. -/
  msg : s.msg.Wf
  /-- The receive buffer is the one of the application receivers. -/
  buffersize_eq : s.receiver.buffersize = dltReceiveBufsize

/-- The handler took the message `m` and left `rest`. -/
structure Took (h : UserHandlers σ) (s : UserState σ) (m : UserMessage) (rest : List UInt8)
    (step : UserStep σ) : Prop where
  dispatched_eq : step.dispatched = [m]
  ok_eq : step.ok = (h.handle s.daemon m).2
  daemon_eq : step.state.daemon = (h.handle s.daemon m).1
  view : UserView step.state rest

/-- The handler took no message, returned `-1` and left `rest`. -/
structure Refused (s : UserState σ) (rest : List UInt8) (step : UserStep σ) : Prop where
  dispatched_eq : step.dispatched = []
  ok_eq : step.ok = false
  daemon_eq : step.state.daemon = s.daemon
  view : UserView step.state rest

section

variable (hv : UserView s bytes)
include hv

theorem UserView.length_le : bytes.length ≤ dltReceiveBufsize := by
  have := hv.view.le_size
  have := hv.buffersize_eq
  omega

section

variable {receiver : DltReceiver} (hview : View s.buffer receiver rest)
  (hsize : receiver.buffersize = s.receiver.buffersize)
include hview hsize

theorem UserView.refused : Refused s rest (s.fail receiver) :=
  ⟨rfl, rfl, rfl, hview, hv.msg, hsize.trans hv.buffersize_eq⟩

theorem UserView.took : Took h s m rest (s.dispatch h receiver m) :=
  ⟨rfl, rfl, rfl, hview, hv.msg, hsize.trans hv.buffersize_eq⟩

end

theorem processFixed_partial {layout : Layout α} {message : α → UserMessage}
    (hshort : bytes.length < layout.size + sizeofDltUserHeader) (hsmall : layout.size ≤ 100) :
    Refused s bytes (processFixed h layout message s) := by
  rw [processFixed, checkAndGet_view_short hv.view layout.size ⟨true, true⟩ hshort (by
    simp only [DltRcvFlags.skip_true, sizeofDltUserHeader]
    omega)]
  exact hv.refused hv.view rfl

end

theorem processFixed_complete {layout : Layout α} {message : α → UserMessage} {type : ℕ} {a : α}
    (hv : UserView s (userHeader type ++ (layout.encode a ++ rest))) (hsmall : layout.size ≤ 100) :
    Took h s (message a) rest (processFixed h layout message s) := by
  have hlen : (userHeader type ++ (layout.encode a ++ rest)).length =
      sizeofDltUserHeader + (layout.size + rest.length) := by simp
  obtain ⟨hget, hview⟩ := checkAndGet_view_remove hv.view layout.size ⟨true, true⟩
    (by rw [hlen]; simp only [DltRcvFlags.skip_true]; omega)
    (by simp only [DltRcvFlags.skip_true, sizeofDltUserHeader]; omega)
    (by simp only [DltRcvFlags.skip_true, sizeofDltUserHeader]; omega) rfl
  have hdest : ((userHeader type ++ (layout.encode a ++ rest)).drop
      (DltRcvFlags.skip ⟨true, true⟩)).take layout.size = layout.encode a := by
    simp only [DltRcvFlags.skip_true]
    rw [drop_left' (length_userHeader type),
      take_left' (layout.length_encode a)]
  have hrest : (userHeader type ++ (layout.encode a ++ rest)).drop
      (layout.size + DltRcvFlags.skip ⟨true, true⟩) = rest := by
    simp only [DltRcvFlags.skip_true]
    rw [Nat.add_comm, ← drop_drop, drop_left' (length_userHeader type),
      drop_left' (layout.length_encode a)]
  rw [hrest] at hview
  rw [processFixed, hget, hdest, layout.decode_encode]
  dsimp only
  rw [if_neg (by omega)]
  exact hv.took hview (remove_buffersize _ _)

/-! ## Registrations -/

section register

variable {layout : Layout α} {descriptionLength : α → UInt32}
  {message : α → List UInt8 → UserMessage} {type : ℕ} {a : α} {d : List UInt8}

/-- A part of fixed size that is not complete is left for later. -/
theorem processRegister_partial (hv : UserView s bytes)
    (hshort : bytes.length < layout.size + sizeofDltUserHeader) (hsmall : layout.size ≤ 100) :
    Refused s bytes (processRegister h layout descriptionLength message s) := by
  rw [processRegister, checkAndGet_view_short hv.view layout.size ⟨true, false⟩ hshort (by
    simp only [DltRcvFlags.skip_true, sizeofDltUserHeader]
    omega)]
  exact hv.refused hv.view rfl

/-- With the part of fixed size there, the description is read when the bytes at hand, counted from
the user header on, are as many as its length. -/
theorem processRegister_read (hv : UserView s (userHeader type ++ (layout.encode a ++ d)))
    (hsmall : layout.size ≤ 100)
    (henough : min (descriptionLength a).toNat dltDaemonDescsize ≤
      sizeofDltUserHeader + (layout.size + d.length)) :
    processRegister h layout descriptionLength message s =
      if (dltReceiverRemove s.receiver (layout.size + (sizeofDltUserHeader +
          min (descriptionLength a).toNat dltDaemonDescsize) : ℕ)).2 ≠ dltReturnOk then
        s.fail (dltReceiverRemove s.receiver (layout.size + (sizeofDltUserHeader +
          min (descriptionLength a).toNat dltDaemonDescsize) : ℕ)).1
      else
        s.dispatch h (dltReceiverRemove s.receiver (layout.size + (sizeofDltUserHeader +
          min (descriptionLength a).toNat dltDaemonDescsize) : ℕ)).1
          (message a (cText ((s.buffer.drop
            (s.receiver.buf + (layout.size + sizeofDltUserHeader))).take
              (min (descriptionLength a).toNat dltDaemonDescsize)))) := by
  have hlen : (userHeader type ++ (layout.encode a ++ d)).length =
      sizeofDltUserHeader + (layout.size + d.length) := by simp
  have hget := checkAndGet_view_keep hv.view layout.size ⟨true, false⟩
    (by rw [hlen]; simp only [DltRcvFlags.skip_true]; omega)
    (by simp only [DltRcvFlags.skip_true, sizeofDltUserHeader]; omega) rfl
  have hdest : ((userHeader type ++ (layout.encode a ++ d)).drop
      (DltRcvFlags.skip ⟨true, false⟩)).take layout.size = layout.encode a := by
    simp only [DltRcvFlags.skip_true]
    rw [drop_left' (length_userHeader type),
      take_left' (layout.length_encode a)]
  have hdesc : min (descriptionLength a).toNat dltDaemonDescsize ≤ 256 := Nat.min_le_right ..
  rw [processRegister, hget, hdest, layout.decode_encode]
  dsimp only
  rw [if_neg (show ¬ (layout.size : ℤ) < 0 by omega), Int.toNat_natCast]
  generalize min (descriptionLength a).toNat dltDaemonDescsize = len at henough hdesc ⊢
  have hrcvd := hv.view.bytesRcvd_eq
  rw [hlen] at hrcvd
  -- the second read checks the counter of bytes, which still covers the whole message
  have hread : dltReceiverCheckAndGet s.buffer { s.receiver with
      buf := s.receiver.buf + (layout.size + sizeofDltUserHeader) } len ⟨false, false⟩ =
      ⟨(s.buffer.drop (s.receiver.buf + (layout.size + sizeofDltUserHeader))).take len,
        { s.receiver with buf := s.receiver.buf + (layout.size + sizeofDltUserHeader) }, len⟩ := by
    rw [checkAndGet_keep _ rfl, i32_natCast (show len < 2147483648 by omega)]
    · rfl
    · rw [DltRcvFlags.skip_false, Nat.add_zero, i32_natCast (show len < 2147483648 by omega)]
      dsimp only
      omega
  rw [hread]
  dsimp only
  rw [if_neg (show ¬ (len : ℤ) < 0 by omega), if_neg (show ¬ (len : ℤ) < 0 by omega),
    i32_natCast (by unfold sizeofDltUserHeader; omega)]

/-- A registration that is there is taken, and what was cut from its description is left. -/
theorem processRegister_complete
    (hv : UserView s (userHeader type ++ (layout.encode a ++ (d ++ rest))))
    (hsmall : layout.size ≤ 100) (hd : (descriptionLength a).toNat = d.length) (htext : 0 ∉ d) :
    Took h s (message a (d.take dltDaemonDescsize)) (d.drop dltDaemonDescsize ++ rest)
      (processRegister h layout descriptionLength message s) := by
  have hlen : (userHeader type ++ (layout.encode a ++ (d ++ rest))).length =
      sizeofDltUserHeader + (layout.size + (d.length + rest.length)) := by simp
  rw [processRegister_read hv hsmall (by
    rw [hd]
    simp only [length_append]
    omega), hd]
  have hmin : d.take (min d.length dltDaemonDescsize) = d.take dltDaemonDescsize := by
    rw [take_eq_take_iff]
    omega
  have hcut : (userHeader type ++ (layout.encode a ++ (d ++ rest))).drop
      (layout.size + sizeofDltUserHeader) = d ++ rest := by
    rw [Nat.add_comm, ← drop_drop, drop_left' (length_userHeader type),
      drop_left' (layout.length_encode a)]
  have hslice := hv.view.slice
    (show layout.size + sizeofDltUserHeader + min d.length dltDaemonDescsize ≤ _ by rw [hlen]; omega)
  rw [hcut, take_append_of_le_length (by omega), hmin] at hslice
  have htake : cText (d.take dltDaemonDescsize) = d.take dltDaemonDescsize := by
    rw [cText, takeWhile_eq_self_iff]
    intro b hb
    have : b ≠ 0 := fun hzero => htext (hzero ▸ mem_of_mem_take hb)
    simpa using this
  obtain ⟨hview, hret⟩ := remove_view hv.view
    (show 0 < layout.size + (sizeofDltUserHeader + min d.length dltDaemonDescsize) by
      unfold sizeofDltUserHeader
      omega)
    (show layout.size + (sizeofDltUserHeader + min d.length dltDaemonDescsize) ≤ _ by
      rw [hlen]
      omega)
  have hleft : (userHeader type ++ (layout.encode a ++ (d ++ rest))).drop
      (layout.size + (sizeofDltUserHeader + min d.length dltDaemonDescsize)) =
      d.drop dltDaemonDescsize ++ rest := by
    rw [← Nat.add_assoc, ← drop_drop, hcut, drop_append_of_le_length (by omega)]
    congr 1
    rw [drop_eq_drop_iff]
    omega
  rw [hleft] at hview
  rw [hret, hslice, htake, if_neg (by simp)]
  exact hv.took hview (remove_buffersize _ _)

/-- **A part of a registration**: when the fixed part is there and a part of the description, and the
bytes at hand are as many as the description is long, they are all removed. -/
theorem processRegister_lost (hv : UserView s (userHeader type ++ (layout.encode a ++ d)))
    (hsmall : layout.size ≤ 100)
    (henough : min (descriptionLength a).toNat dltDaemonDescsize ≤
      sizeofDltUserHeader + (layout.size + d.length))
    (hpart : d.length < min (descriptionLength a).toNat dltDaemonDescsize) :
    Refused s [] (processRegister h layout descriptionLength message s) := by
  have hlen : (userHeader type ++ (layout.encode a ++ d)).length =
      sizeofDltUserHeader + (layout.size + d.length) := by simp
  rw [processRegister_read hv hsmall henough]
  obtain ⟨hview, hret⟩ := remove_too_much hv.view
    (show ((userHeader type ++ (layout.encode a ++ d)).length : ℤ) <
      (layout.size + (sizeofDltUserHeader +
        min (descriptionLength a).toNat dltDaemonDescsize) : ℕ) by rw [hlen]; omega)
  rw [hret, if_pos (by decide)]
  exact hv.refused hview (remove_buffersize _ _)

end register

/-! ## Log messages -/

section log

variable {header payload : List UInt8}

/-- What the log handler reads are the bytes behind the user header. -/
theorem UserView.log_read (hv : UserView s bytes) (henough : sizeofDltUserHeader ≤ bytes.length) :
    u32 (s.receiver.bytesRcvd - sizeofDltUserHeader) = bytes.length - sizeofDltUserHeader ∧
      bytes.length - sizeofDltUserHeader ≤
        (s.buffer.drop (s.receiver.buf + sizeofDltUserHeader)).length ∧
      (s.buffer.drop (s.receiver.buf + sizeofDltUserHeader)).take
        (bytes.length - sizeofDltUserHeader) = bytes.drop sizeofDltUserHeader := by
  have hrcvd := hv.view.bytesRcvd_eq
  have hsize := hv.view.le_size
  have hbuffer := hv.view.length_buffer
  have hle := hv.length_le
  have hslice := hv.view.slice
    (show sizeofDltUserHeader + (bytes.length - sizeofDltUserHeader) ≤ bytes.length by omega)
  refine ⟨?_, ?_, ?_⟩
  · unfold dltReceiveBufsize at hle
    rw [u32_of_nonneg (by omega) (by omega)]
    omega
  · simp only [length_drop]
    omega
  · rw [hslice, take_of_length_le (by simp only [length_drop]; omega)]

theorem processLog_partial (hm : malloc.Succeeds) (hv : UserView s (userHeader 1 ++ part))
    (hvalid : (log header payload).Valid) (hpart : part ++ more = header ++ payload)
    (hmore : more ≠ []) : Refused s (userHeader 1 ++ part) (dltDaemonProcessUserMessageLog malloc h s) := by
  obtain ⟨hlength, hle, hbytes⟩ := hv.log_read (by simp)
  rw [drop_left' (length_userHeader 1)] at hbytes
  obtain ⟨e, he⟩ := readFrame_false_part hvalid.1 hvalid.2 hpart hmore
  obtain ⟨hwf, herror, -⟩ := dltMessageRead_eq_readFrame hm hv.msg hle false
  rw [hbytes] at herror
  have hne := herror e he
  rw [dltDaemonProcessUserMessageLog, hlength]
  dsimp only
  rw [if_pos (by rw [hne]; exact readFrame_error_ne he)]
  exact ⟨rfl, rfl, rfl, hv.view, hwf, hv.buffersize_eq⟩

theorem processLog_complete (hm : malloc.Succeeds)
    (hv : UserView s (userHeader 1 ++ (header ++ payload ++ rest)))
    (hvalid : (log header payload).Valid) :
    Took h s (.log header payload) rest (dltDaemonProcessUserMessageLog malloc h s) := by
  obtain ⟨hlength, hle, hbytes⟩ := hv.log_read (by simp)
  rw [drop_left' (length_userHeader 1)] at hbytes
  obtain ⟨hwf, -, hok⟩ := dltMessageRead_eq_readFrame hm hv.msg hle false
  rw [hbytes] at hok
  obtain ⟨hret, hholds⟩ := hok _ (readFrame_false hvalid.1 hvalid.2 rest)
  rw [dltDaemonProcessUserMessageLog, hlength]
  dsimp only
  generalize dltMessageRead malloc s.msg _ _ false = read at hwf hret hholds ⊢
  have hlog : logOf read.1 = .log header payload := by
    have hheader := hholds.header_eq
    have hpayload := hholds.payload_eq
    rw [logOf]
    exact congrArg₂ log hheader hpayload
  have hlen : (userHeader 1 ++ (header ++ payload ++ rest)).length =
      sizeofDltUserHeader + (header.length + payload.length + rest.length) := by
    simp only [length_append, length_userHeader]
  have htotal := hv.length_le
  rw [hlen] at htotal
  unfold dltReceiveBufsize at htotal
  have hsize : i32 (read.1.headersize + read.1.datasize - sizeofDltStorageHeader +
      sizeofDltUserHeader +
        ((if read.1.foundSerialheader = true then dltSerialHeader.length else 0 : ℕ) : ℤ)) =
      (sizeofDltUserHeader + (header.length + payload.length) : ℕ) := by
    rw [hholds.found_eq, hholds.headersize_eq, hholds.datasize_eq, if_neg Bool.false_ne_true,
      i32_of_range (by simp only; omega) (by simp only; omega)]
    simp only
    omega
  obtain ⟨hview, hremoved⟩ := remove_view hv.view
    (show 0 < sizeofDltUserHeader + (header.length + payload.length) by
      unfold sizeofDltUserHeader
      omega)
    (show sizeofDltUserHeader + (header.length + payload.length) ≤ _ by rw [hlen]; omega)
  have hrest : (userHeader 1 ++ (header ++ payload ++ rest)).drop
      (sizeofDltUserHeader + (header.length + payload.length)) = rest := by
    rw [← drop_drop, drop_left' (length_userHeader 1),
      drop_left' length_append]
  rw [hrest] at hview
  rw [if_neg (not_not.mpr hret)]
  rw [hsize, hlog]
  refine ⟨rfl, ?_, rfl, hview, hwf, (remove_buffersize _ _).trans hv.buffersize_eq⟩
  dsimp only
  rw [hremoved, decide_eq_true rfl, Bool.true_and]

end log

/-! ## All messages -/

/-- **A message that is there** is taken by its handler. -/
theorem processUserFunc_complete (hm : malloc.Succeeds) (hlist : ∀ d, h.usersList d = true) (hvalid : m.Valid)
    (hv : UserView s (m.encode ++ rest)) :
    Took h s m.taken (m.description.drop dltDaemonDescsize ++ rest)
      (processUserFunc malloc h m.type s) := by
  have hbytes : m.encode ++ rest = userHeader m.type ++ (m.payload ++ (m.tail ++ rest)) := by
    simp [encode]
  rw [hbytes] at hv
  cases m
  all_goals simp only [type, payload, UserMessage.tail,
    description, taken, drop_nil, nil_append] at hv ⊢
  case log header payload => exact processLog_complete hm hv hvalid
  case registerApplication userapp d =>
      exact processRegister_complete hv (by decide) hvalid.1 hvalid.2
  case unregisterApplication userapp => exact processFixed_complete hv (by decide)
  case registerContext userctxt d =>
      exact processRegister_complete hv (by decide) hvalid.1 hvalid.2
  case unregisterContext userctxt => exact processFixed_complete hv (by decide)
  case overflow userpayload => exact processFixed_complete hv (by decide)
  case setAppLlTs userctxt =>
      have hfunc : processUserFunc malloc h 9 s =
          processFixed h appLogLevelTraceStatusLayout .setAppLlTs s := if_pos (hlist s.daemon)
      exact hfunc ▸ processFixed_complete hv (by decide)
  case marker userctxt => exact hvalid.elim

theorem part_length {whole : List UInt8} (hpart : part ++ more = whole) (hmore : more ≠ []) :
    part.length < whole.length := by
  have := length_pos_iff.mpr hmore
  rw [← hpart, length_append]
  omega

/-- **A part of a message** that has no description is left for later. -/
theorem processUserFunc_partial (hm : malloc.Succeeds) (hvalid : m.Valid) (hdesc : m.description = [])
    (hpart : part ++ more = m.payload ++ m.tail) (hmore : more ≠ []) (hv : UserView s (userHeader m.type ++ part)) :
    Refused s (userHeader m.type ++ part) (processUserFunc malloc h m.type s) := by
  have hshort : ∀ {n : ℕ}, m.payload.length = n → m.tail = [] →
      (userHeader m.type ++ part).length < n + sizeofDltUserHeader := by
    rintro n rfl htail
    have hlt := part_length hpart hmore
    rw [htail, append_nil] at hlt
    rw [length_append, length_userHeader]
    omega
  cases m with
  | log header payload => exact processLog_partial hm hv hvalid hpart hmore
  | registerApplication userapp d =>
    exact processRegister_partial hv (hshort (Layout.length_encode _ userapp) hdesc) (by decide)
  | unregisterApplication userapp =>
    exact processFixed_partial hv (hshort (Layout.length_encode _ userapp) rfl) (by decide)
  | registerContext userctxt d =>
    exact processRegister_partial hv (hshort (Layout.length_encode _ userctxt) hdesc) (by decide)
  | unregisterContext userctxt =>
    exact processFixed_partial hv (hshort (Layout.length_encode _ userctxt) rfl) (by decide)
  | overflow userpayload =>
    exact processFixed_partial hv (hshort (Layout.length_encode _ userpayload) rfl) (by decide)
  | setAppLlTs userctxt =>
    change Refused s _ (dltDaemonProcessUserMessageSetAppLlTs h s)
    rw [dltDaemonProcessUserMessageSetAppLlTs]
    split_ifs with hlist
    · exact processFixed_partial hv (hshort (Layout.length_encode _ userctxt) rfl) (by decide)
    · exact hv.refused hv.view rfl
  | marker userctxt => exact hvalid.elim

/-- **A registration without the last byte of its description** is lost. -/
theorem processUserFunc_lost (hvalid : m.Valid) (hdesc : m.description ≠ [])
    (hle : m.description.length ≤ dltDaemonDescsize)
    (hv : UserView s (userHeader m.type ++ (m.payload ++ m.description.dropLast))) :
    Refused s [] (processUserFunc malloc h m.type s) := by
  have hpos := length_pos_iff.mpr hdesc
  have hlen : m.description.dropLast.length = m.description.length - 1 := length_dropLast
  cases m with
  | registerApplication userapp d =>
    have hd : userapp.descriptionLength.toNat = d.length := hvalid.1
    simp only [description] at hle hpos hlen hv
    exact processRegister_lost hv (by decide)
      (by rw [hd, Nat.min_eq_left hle, hlen]; unfold sizeofDltUserHeader; omega)
      (by rw [hd, Nat.min_eq_left hle, hlen]; omega)
  | registerContext userctxt d =>
    have hd : userctxt.descriptionLength.toNat = d.length := hvalid.1
    simp only [description] at hle hpos hlen hv
    exact processRegister_lost hv (by decide)
      (by rw [hd, Nat.min_eq_left hle, hlen]; unfold sizeofDltUserHeader; omega)
      (by rw [hd, Nat.min_eq_left hle, hlen]; omega)
  | log header payload => exact absurd rfl hdesc
  | unregisterApplication userapp => exact absurd rfl hdesc
  | unregisterContext userctxt => exact absurd rfl hdesc
  | overflow userpayload => exact absurd rfl hdesc
  | setAppLlTs userctxt => exact absurd rfl hdesc
  | marker userctxt => exact absurd rfl hdesc

end reads

end Dlt.Daemon
