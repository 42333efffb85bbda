import Dlt.Daemon.Levels
import Dlt.User.SendLogRoundTrip

/-!
# Log messages on their way to the clients

* `forwardLog_transparent` — **every accepted message is handed on so**, whatever the record held.
* `sendLog_arrives` — **what an application logs arrives at the clients**.
-/

namespace Dlt.Daemon

open Dlt.Lib Dlt.Shared List DltMessage
open Dlt.User (dltSetStorageheader dltMessageSetExtraparameters dltHtobe32 leBytes_dltHtobe32 putIf
  dltMessageSetExtraparameters_headerbuffer)

/-! ## Model -/

/-- `DLT_DAEMON_ECU_ID`: `ECU1`. Source: `dlt-daemon_cfg.h` -/
def dltDaemonEcuId : List UInt8 := [0x45, 0x43, 0x55, 0x31]

/-- The ECU id of the daemon, from the configured text `evalue`.
Source: `dlt-daemon.c`, `dlt_daemon_local_init_p2` -/
def ecuidOf (evalue : List UInt8) : Id4 :=
  if evalue.headD 0 ≠ 0 then dltSetId evalue else dltSetId dltDaemonEcuId

/-- The overwriting of the ECU id. The time stamp is converted back afterwards, the session id is not.
Source: `dlt_daemon_client.c`, `dlt_daemon_client_send_message_to_all_client` -/
def overwriteEcu (evalue : List UInt8) (ecuid : Id4) (msg : DltMessage) (htyp : UInt8) : DltMessage :=
  if evalue.headD 0 ≠ 0 ∧ strncmp msg.headerextra.ecu dltDaemonEcuId dltIdSize = 0 then
    let msg := { msg with headerextra := { msg.headerextra with ecu := (dltSetId ecuid.bytes).bytes } }
    let msg := dltMessageSetExtraparameters msg htyp
    { msg with headerextra := { msg.headerextra with tmsp := dltHtobe32 msg.headerextra.tmsp } }
  else msg

/-- What is handed to `dlt_daemon_client_send`. Source: `dlt_daemon_client_send` -/
structure ClientSend where
  /-- `storage_header`. -/
  storageHeader : List UInt8
  /-- `data1`. -/
  data1 : List UInt8
  /-- `data2`. -/
  data2 : List UInt8
deriving DecidableEq, Repr

/-- The message and what is handed on; `none` is a record without headers.
Source: `dlt_daemon_client_send_message_to_all_client` -/
def dltDaemonClientSendMessageToAllClient (evalue : List UInt8) (ecuid : Id4) (time : UInt32 × UInt32)
    (msg : DltMessage) : Option (DltMessage × ClientSend) :=
  match msg.storageheader, msg.standardheader with
  | some storageheader, some standardheader =>
      let htyp := msg.headerbuffer.getD standardheader 0
      let msg := overwriteEcu evalue ecuid msg htyp
      let ecu := if dltIsHtypWeid htyp then msg.headerextra.ecu else ecuid.bytes
      let msg := { msg with
        headerbuffer := overwrite msg.headerbuffer storageheader (dltSetStorageheader time ecu) }
      some (msg, {
        storageHeader := msg.headerbuffer.take sizeofDltStorageHeader
        data1 := (msg.headerbuffer.drop sizeofDltStorageHeader).take (msg.headersize - sizeofDltStorageHeader)
        data2 := (msg.databuffer.getD []).take msg.datasize.toNat })
  | _, _ => none

/-- A log message of an application: what is handed on, if the message is accepted.
Source: `dlt-daemon.c`, `dlt_daemon_process_user_message_log` -/
def forwardLog (malloc : Malloc) (evalue : List UInt8) (time : UInt32 × UInt32) (msg : DltMessage)
    (buffer : List UInt8) (length : ℕ) : Option (DltMessage × ClientSend) :=
  let read := dltMessageRead malloc msg buffer length false
  if read.2 ≠ dltMessageErrorOk then none
  else dltDaemonClientSendMessageToAllClient evalue (ecuidOf evalue) time read.1

/-! ## Memory that runs out -/

/-- The same blocks, and one of zeros where there was none. -/
def orZero (malloc : Malloc) : Malloc := fun n => some ((malloc n).getD fun _ => 0)

theorem orZero_succeeds (malloc : Malloc) : (orZero malloc).Succeeds := fun _ => rfl

/-- A call gives what it gives with more memory, or it fails and has no payload. -/
def SameOrFails (res full : DltMessage × ℤ) : Prop :=
  res = full ∨ res = ({ full.1 with databuffer := none }, dltMessageErrorUnknown)

section memory

variable {malloc : Malloc} {msg : DltMessage} {buffer : List UInt8} {length : ℕ} {resync : Bool}

theorem dltMessageLoadData_sameOrFails (payload : List UInt8) :
    SameOrFails (dltMessageLoadData malloc msg payload) (dltMessageLoadData (orZero malloc) msg payload) := by
  unfold dltMessageLoadData dltMessageAllocate
  by_cases hkeep : msg.databuffer.isSome ∧ msg.datasize ≤ msg.databuffersize
  · rw [if_pos hkeep, if_pos hkeep]
    exact .inl rfl
  rw [if_neg hkeep, if_neg hkeep]
  cases hmalloc : malloc msg.datasize.toNat with
  | none => exact .inr (by simp [orZero])
  | some fresh => exact .inl (by simp [orZero, hmalloc])

theorem dltMessageReadBody_sameOrFails :
    SameOrFails (dltMessageReadBody malloc msg buffer length)
      (dltMessageReadBody (orZero malloc) msg buffer length) := by
  unfold dltMessageReadBody
  dsimp only
  generalize dltStandardHeaderExtraSize ((buffer.take sizeofDltStandardHeader).getD 0 0) +
    (if dltIsHtypUeh ((buffer.take sizeofDltStandardHeader).getD 0 0) then sizeofDltExtendedHeader else 0) = extra
  split_ifs
  · exact .inl rfl
  · exact .inl rfl
  · exact .inl rfl
  · exact .inl rfl
  · exact dltMessageLoadData_sameOrFails _

theorem dltMessageRead_sameOrFails :
    SameOrFails (dltMessageRead malloc msg buffer length resync)
      (dltMessageRead (orZero malloc) msg buffer length resync) := by
  unfold dltMessageRead
  dsimp only
  split_ifs
  · exact .inl rfl
  · exact .inl rfl
  · exact dltMessageReadBody_sameOrFails
  · exact dltMessageReadBody_sameOrFails
  · exact dltMessageReadBody_sameOrFails
  · exact dltMessageReadBody_sameOrFails

theorem dltMessageRead_of_ok (h : (dltMessageRead malloc msg buffer length resync).2 = dltMessageErrorOk) :
    dltMessageRead malloc msg buffer length resync = dltMessageRead (orZero malloc) msg buffer length resync := by
  rcases @dltMessageRead_sameOrFails malloc msg buffer length resync with hsame | hfails
  · exact hsame
  · rw [hfails] at h
    cases h

theorem dltMessageRead_wf (h : msg.Wf) (hle : length ≤ buffer.length) :
    (dltMessageRead malloc msg buffer length resync).1.Wf := by
  have hfull := (dltMessageRead_eq_readFrame (orZero_succeeds malloc) h hle resync).1
  rcases @dltMessageRead_sameOrFails malloc msg buffer length resync with hsame | hfails
  · rw [hsame]
    exact hfull
  · rw [hfails]
    exact ⟨hfull.length_headerbuffer, by simp⟩

end memory

/-! ## The record of the daemon -/

/-- The records that the daemon's steps leave: they read messages from anywhere, hand them on, and the
handlers of control requests change the payload in its place. -/
inductive SharedMessage (evalue : List UInt8) : DltMessage → Prop
  /-- `dlt_message_init` on any memory of the record's size. -/
  | init (memory : DltMessage) (hsize : memory.headerbuffer.length = sizeofHeaderbuffer) :
      SharedMessage evalue (dltMessageInit memory)
  | read {msg : DltMessage} (h : SharedMessage evalue msg) (malloc : Malloc) (buffer : List UInt8) (length : ℕ)
      (resync : Bool) (hle : length ≤ buffer.length) :
      SharedMessage evalue (dltMessageRead malloc msg buffer length resync).1
  /-- A log message is accepted and handed on. -/
  | log {msg msg' : DltMessage} {sent : ClientSend} (h : SharedMessage evalue msg) (malloc : Malloc)
      (time : UInt32 × UInt32) (buffer : List UInt8) (length : ℕ) (hle : length ≤ buffer.length)
      (hlog : forwardLog malloc evalue time msg buffer length = some (msg', sent)) : SharedMessage evalue msg'
  | handle {msg : DltMessage} (h : SharedMessage evalue msg) {databuffer databuffer' : List UInt8}
      (hdata : msg.databuffer = some databuffer) (hlen : databuffer'.length = databuffer.length) :
      SharedMessage evalue { msg with databuffer := some databuffer' }

/-! ## The headers that are handed on -/

/-- The overwriting is configured, and the headers carry the ECU id that is overwritten. -/
def Overwritten (evalue header : List UInt8) : Prop :=
  evalue.headD 0 ≠ 0 ∧ dltIsHtypWeid (htypOf header) = true ∧
    field header sizeofDltStandardHeader dltIdSize = dltDaemonEcuId

instance (evalue header : List UInt8) : Decidable (Overwritten evalue header) :=
  inferInstanceAs (Decidable (_ ∧ _ ∧ _))

/-- What is handed on of the message `f`. -/
structure Transparent (evalue : List UInt8) (f : Frame) (sent : ClientSend) : Prop where
  /-- The headers are those of the message, with the ECU id of the daemon where it is overwritten. -/
  header : sent.data1 =
    if Overwritten evalue f.header then
      overwrite f.header sizeofDltStandardHeader (ecuidOf evalue).bytes
    else f.header
  payload : sent.data2 = f.payload
  storage : sent.storageHeader.length = sizeofDltStorageHeader ∧ sent.storageHeader.take 4 = [0x44, 0x4c, 0x54, 1]
  /-- The storage header names the ECU of the headers handed on, or the daemon's. -/
  names : field sent.storageHeader 12 dltIdSize =
    if dltIsHtypWeid (htypOf sent.data1) then
      (dltSetId (field sent.data1 sizeofDltStandardHeader dltIdSize)).bytes
    else (ecuidOf evalue).bytes

section forward

variable {evalue : List UInt8} {msg : DltMessage} {htyp : UInt8} {old : Option ℕ}

theorem canonical_ecuidOf (evalue : List UInt8) : dltSetId (ecuidOf evalue).bytes = ecuidOf evalue := by
  unfold ecuidOf
  split_ifs
  · exact canonical_dltSetId evalue
  · exact canonical_dltSetId dltDaemonEcuId

/-- Texts of one length without a zero compare equal only when they are. -/
theorem strncmp_eq_zero_iff {as bs : List UInt8} (h : as.length = bs.length) (hzero : 0 ∉ bs) :
    strncmp as bs bs.length = 0 ↔ as = bs := by
  induction bs generalizing as with
  | nil =>
    rw [eq_nil_of_length_eq_zero h]
    simp [strncmp]
  | cons b bs ih =>
    cases as with
    | nil => cases h
    | cons a as =>
      have hlen : as.length = bs.length := by simpa using h
      simp only [mem_cons, not_or] at hzero
      rw [length_cons, strncmp]
      by_cases hab : a = b
      · have ha : a ≠ 0 := fun h0 => hzero.1 (by rw [← hab, h0])
        rw [if_neg (not_not.mpr hab), if_neg ha, ih hlen hzero.2, hab]
        simp
      · have hne : a.toNat ≠ b.toNat := fun heq => hab (UInt8.toNat_inj.mp heq)
        rw [if_pos hab]
        simp only [List.cons.injEq, hab, false_and, iff_false]
        omega

/-- A block that is written over itself leaves the memory as it was. -/
theorem putIf_same {flag : Bool} {mem data : List UInt8} {off : ℕ}
    (h : flag = true → data = field mem off data.length ∧ off + data.length ≤ mem.length) :
    putIf flag mem off data = mem := by
  unfold putIf
  split_ifs with hflag
  · obtain ⟨hdata, hle⟩ := h hflag
    rw [hdata]
    exact overwrite_field hle
  · rfl

/-- The parameters that were loaded from the headers are put back where they were, the ECU id apart. -/
theorem setExtraparameters_loaded (hloaded : Loaded old msg htyp) (hlen : msg.headerbuffer.length = sizeofHeaderbuffer)
    (ecu : Id4) :
    (dltMessageSetExtraparameters { msg with headerextra := { msg.headerextra with ecu := ecu.bytes } }
      htyp).headerbuffer =
        putIf (dltIsHtypWeid htyp) msg.headerbuffer (sizeofDltStorageHeader + sizeofDltStandardHeader) ecu.bytes := by
  have hsize : sizeofHeaderbuffer = 42 := rfl
  have hstorage : sizeofDltStorageHeader = 16 := rfl
  have hstandard : sizeofDltStandardHeader = 4 := rfl
  have hfour := ecu.length_eq
  have hends := Dlt.User.tmspStart_le htyp
  have hextra : dltStandardHeaderExtraSize htyp ≤ 12 := by
    unfold dltStandardHeaderExtraSize
    split_ifs <;> omega
  have hseidStart : dltIsHtypWeid htyp = true → seidStart htyp = 8 := fun h => by
    rw [seidStart, if_pos h, hstandard]
  set first := putIf (dltIsHtypWeid htyp) msg.headerbuffer
    (sizeofDltStorageHeader + sizeofDltStandardHeader) ecu.bytes with hfirst
  have hfirstLen : first.length = 42 := by
    rw [hfirst, Dlt.User.length_putIf (fun _ => by omega), hlen, hsize]
  -- a field behind the ECU id, as it was loaded
  have hkeep : ∀ k, seidStart htyp ≤ k → k + 4 ≤ 16 →
      field first (sizeofDltStorageHeader + k) 4 = field msg.headerbuffer (sizeofDltStorageHeader + k) 4 := by
    intro k hk hend
    rw [hfirst, putIf]
    split_ifs with hweid
    · have := hseidStart hweid
      exact field_overwrite_of_ge ecu.bytes (by omega) (by omega)
    · rfl
  have hbytes : ∀ k, seidStart htyp ≤ k → k + 4 ≤ 16 →
      beBytes 4 (ofBeBytes ((msg.headerbuffer.drop (sizeofDltStorageHeader + k)).take 4)) =
        field first (sizeofDltStorageHeader + k) 4 := by
    intro k hk hend
    have hfield : (field msg.headerbuffer (sizeofDltStorageHeader + k) 4).length = 4 := length_field (by omega)
    have hround := beBytes_ofBeBytes (field msg.headerbuffer (sizeofDltStorageHeader + k) 4)
    rw [hfield] at hround
    rw [hkeep k hk hend]
    exact hround
  rw [dltMessageSetExtraparameters_headerbuffer]
  simp only [← hfirst]
  rw [@putIf_same (dltIsHtypWsid htyp), putIf_same]
  · intro hwtms
    rw [hwtms, if_pos rfl] at hends
    rw [length_beBytes, hloaded.tmsp hwtms]
    exact ⟨hbytes _ (Nat.le_add_right _ _) (by omega), by omega⟩
  · intro hwsid
    rw [hwsid, if_pos rfl] at hends
    rw [length_beBytes, hloaded.seid hwsid]
    exact ⟨hbytes _ (le_refl _) (by omega), by omega⟩

/-- Putting the parameters into place changes the headers and the order of their bytes. -/
theorem dltMessageSetExtraparameters_frame (msg : DltMessage) (htyp : UInt8) :
    ∃ seid tmsp, dltMessageSetExtraparameters msg htyp =
      { msg with
        headerbuffer := (dltMessageSetExtraparameters msg htyp).headerbuffer
        headerextra := ⟨msg.headerextra.ecu, seid, tmsp⟩ } := by
  unfold dltMessageSetExtraparameters
  cases dltIsHtypWeid htyp <;> cases dltIsHtypWsid htyp <;> cases dltIsHtypWtms htyp <;> exact ⟨_, _, rfl⟩

def AsksOverwrite (evalue : List UInt8) (msg : DltMessage) : Prop :=
  evalue.headD 0 ≠ 0 ∧ strncmp msg.headerextra.ecu dltDaemonEcuId dltIdSize = 0

/-- The overwriting changes the ECU id in the headers, if there is one, and nothing else of them. -/
theorem overwriteEcu_of_asks (hloaded : Loaded old msg htyp) (hlen : msg.headerbuffer.length = sizeofHeaderbuffer)
    (hasks : AsksOverwrite evalue msg) :
    ∃ headerextra : DltStandardHeaderExtra, headerextra.ecu = (ecuidOf evalue).bytes ∧
      overwriteEcu evalue (ecuidOf evalue) msg htyp =
        { msg with
          headerbuffer := putIf (dltIsHtypWeid htyp) msg.headerbuffer
            (sizeofDltStorageHeader + sizeofDltStandardHeader) (ecuidOf evalue).bytes
          headerextra } := by
  have hset := setExtraparameters_loaded hloaded hlen (ecuidOf evalue)
  obtain ⟨seid, tmsp, hframe⟩ := dltMessageSetExtraparameters_frame
    { msg with headerextra := { msg.headerextra with ecu := (ecuidOf evalue).bytes } } htyp
  rw [hset] at hframe
  refine ⟨⟨(ecuidOf evalue).bytes, seid, dltHtobe32 tmsp⟩, rfl, ?_⟩
  have hboth : evalue.headD 0 ≠ 0 ∧ strncmp msg.headerextra.ecu dltDaemonEcuId dltIdSize = 0 := hasks
  unfold overwriteEcu
  rw [if_pos hboth, canonical_ecuidOf]
  simp only [hframe]

theorem overwriteEcu_of_not_asks (hasks : ¬ AsksOverwrite evalue msg) :
    overwriteEcu evalue (ecuidOf evalue) msg htyp = msg := if_neg hasks

end forward

/-! ## Handing on -/

section handOn

variable {evalue : List UInt8} {time : UInt32 × UInt32} {msg : DltMessage} {f : Frame} {old : Option ℕ}

theorem dltSetStorageheader_fields (time : UInt32 × UInt32) (ecu : List UInt8) :
    (dltSetStorageheader time ecu).length = sizeofDltStorageHeader ∧
      (dltSetStorageheader time ecu).take 4 = [0x44, 0x4c, 0x54, 1] ∧
      field (dltSetStorageheader time ecu) 12 dltIdSize = (dltSetId ecu).bytes := by
  have hid := (dltSetId ecu).length_eq
  refine ⟨?_, rfl, ?_⟩
  · simp only [dltSetStorageheader, length_append, length_leBytes, hid, length_cons, length_nil]
    rfl
  · rw [field, dltSetStorageheader, drop_left', take_of_length_le (by rw [hid]; exact le_refl 4)]
    simp [length_leBytes]

/-- What is handed on of a record whose headers and ECU id are `headerbuffer` and `ecu`. -/
def sentOf (time : UInt32 × UInt32) (headerbuffer ecu : List UInt8) (n : ℕ) (payload : List UInt8) : ClientSend where
  storageHeader := dltSetStorageheader time ecu
  data1 := field headerbuffer sizeofDltStorageHeader n
  data2 := payload

theorem dltDaemonClientSendMessageToAllClient_eq {msg' : DltMessage} {htyp : UInt8}
    (hstorage : msg.storageheader = some 0) (hstandard : msg.standardheader = some sizeofDltStorageHeader)
    (hhtyp : msg.headerbuffer.getD sizeofDltStorageHeader 0 = htyp)
    (hecu : overwriteEcu evalue (ecuidOf evalue) msg htyp = msg')
    (hwf : msg'.Wf) :
    ∃ final : DltMessage, final.Wf ∧
      dltDaemonClientSendMessageToAllClient evalue (ecuidOf evalue) time msg = some (final,
        sentOf time msg'.headerbuffer (if dltIsHtypWeid htyp then msg'.headerextra.ecu else (ecuidOf evalue).bytes)
          (msg'.headersize - sizeofDltStorageHeader) msg'.payload) := by
  have hsize : sizeofHeaderbuffer = 42 := rfl
  have hsixteen : sizeofDltStorageHeader = 16 := rfl
  have hlen := hwf.length_headerbuffer
  have hfields := dltSetStorageheader_fields time
    (if dltIsHtypWeid htyp then msg'.headerextra.ecu else (ecuidOf evalue).bytes)
  have hfront : ∀ header : List UInt8, header.length = sizeofDltStorageHeader →
      (overwrite msg'.headerbuffer 0 header).take sizeofDltStorageHeader = header := by
    intro header hheader
    rw [overwrite_zero, take_left' hheader]
  have hbehind : ∀ header : List UInt8, header.length = sizeofDltStorageHeader → ∀ n,
      ((overwrite msg'.headerbuffer 0 header).drop sizeofDltStorageHeader).take n =
        field msg'.headerbuffer sizeofDltStorageHeader n := by
    intro header hheader n
    exact field_overwrite_of_ge header (Nat.zero_le _) (by omega)
  refine ⟨{ msg' with
    headerbuffer := overwrite msg'.headerbuffer 0 (dltSetStorageheader time
      (if dltIsHtypWeid htyp then msg'.headerextra.ecu else (ecuidOf evalue).bytes)) },
    ⟨by rw [length_overwrite (by omega), hlen], hwf.databuffersize_eq⟩, ?_⟩
  unfold dltDaemonClientSendMessageToAllClient sentOf
  simp only [hstorage, hstandard, hhtyp, hecu, hfront _ hfields.1, hbehind _ hfields.1]
  rfl

/-- What is handed on of such a record, for the headers and the ECU id that they hold. -/
theorem transparent_sentOf {headerbuffer header ecu : List UInt8} {n : ℕ}
    (hdata : field headerbuffer sizeofDltStorageHeader n = header)
    (hheader : header = if Overwritten evalue f.header then
      overwrite f.header sizeofDltStandardHeader (ecuidOf evalue).bytes else f.header)
    (hnames : (dltSetId ecu).bytes = if dltIsHtypWeid (htypOf header) then
      (dltSetId (field header sizeofDltStandardHeader dltIdSize)).bytes else (ecuidOf evalue).bytes) :
    Transparent evalue f (sentOf time headerbuffer ecu n f.payload) := by
  have hfields := dltSetStorageheader_fields time ecu
  refine ⟨hdata.trans hheader, rfl, ⟨hfields.1, hfields.2.1⟩, ?_⟩
  rw [sentOf, hdata, hfields.2.2]
  exact hnames

theorem held_fields (hholds : msg.Holds f) (hloaded : Loaded old msg (htypOf f.header))
    (hheader : f.header.length = headerLength (htypOf f.header)) :
    (4 ≤ f.header.length ∧ f.header.length ≤ 26) ∧
      field msg.headerbuffer sizeofDltStorageHeader f.header.length = f.header ∧
      msg.headerbuffer.getD sizeofDltStorageHeader 0 = htypOf f.header ∧
      (dltIsHtypWeid (htypOf f.header) = true →
        8 ≤ f.header.length ∧ msg.headerextra.ecu = field f.header sizeofDltStandardHeader dltIdSize) := by
  have hfour : sizeofDltStandardHeader = 4 := rfl
  have hlengths : 4 ≤ f.header.length ∧ f.header.length ≤ 26 := by
    have hextra := extraSize_le (htypOf f.header)
    unfold headerLength at hheader
    unfold sizeofDltStandardHeaderExtra sizeofDltExtendedHeader at hextra
    unfold sizeofDltExtendedHeader at hheader
    omega
  have hfield : field msg.headerbuffer sizeofDltStorageHeader f.header.length = f.header := by
    have hheld := hholds.header_eq
    rwa [header, hholds.headersize_eq, Nat.add_sub_cancel_left] at hheld
  refine ⟨hlengths, hfield, ?_, ?_⟩
  · rw [← getD_field 0 (show 0 < f.header.length by omega), hfield]
    rfl
  · intro hweid
    have hroom : 8 ≤ f.header.length := by
      unfold headerLength dltStandardHeaderExtraSize at hheader
      rw [if_pos hweid] at hheader
      omega
    refine ⟨hroom, ?_⟩
    rw [hloaded.ecu hweid, ← hfield]
    exact (field_field hroom).symm

/-- **An accepted message is handed on as it was received**, but for the ECU id that is overwritten. -/
theorem dltDaemonClientSendMessageToAllClient_transparent (hwf : msg.Wf) (hholds : msg.Holds f)
    (hloaded : Loaded old msg (htypOf f.header)) (hheader : f.header.length = headerLength (htypOf f.header))
    (hstorage : msg.storageheader = some 0) (hstandard : msg.standardheader = some sizeofDltStorageHeader) :
    ∃ msg' sent, dltDaemonClientSendMessageToAllClient evalue (ecuidOf evalue) time msg = some (msg', sent) ∧
      DltMessage.Wf msg' ∧ Transparent evalue f sent := by
  have hsize : sizeofHeaderbuffer = 42 := rfl
  have hsixteen : sizeofDltStorageHeader = 16 := rfl
  have hfour : sizeofDltStandardHeader = 4 := rfl
  have hlen := hwf.length_headerbuffer
  have hid := (ecuidOf evalue).length_eq
  have hsizes := hholds.headersize_eq
  obtain ⟨hheaderLe, hfield, hhtyp, hecu⟩ := held_fields hholds hloaded hheader
  have hn : msg.headersize - sizeofDltStorageHeader = f.header.length := by omega
  -- the headers are kept
  have hkept : ∀ headerextra : DltStandardHeaderExtra,
      overwriteEcu evalue (ecuidOf evalue) msg (htypOf f.header) = { msg with headerextra } →
      (dltIsHtypWeid (htypOf f.header) = true → headerextra.ecu = msg.headerextra.ecu) →
      ¬ Overwritten evalue f.header →
      ∃ msg' sent, dltDaemonClientSendMessageToAllClient evalue (ecuidOf evalue) time msg = some (msg', sent) ∧
        DltMessage.Wf msg' ∧ Transparent evalue f sent := by
    intro headerextra hover hsame hnot
    obtain ⟨final, hfinal, hsend⟩ := @dltDaemonClientSendMessageToAllClient_eq evalue time msg _ _ hstorage
      hstandard hhtyp hover ⟨hlen, hwf.databuffersize_eq⟩
    refine ⟨final, _, hsend, hfinal, ?_⟩
    simp only [hn, payload]
    rw [← payload, hholds.payload_eq]
    refine transparent_sentOf hfield (if_neg hnot).symm ?_
    by_cases hweid : dltIsHtypWeid (htypOf f.header) = true
    · rw [if_pos hweid, if_pos hweid, hsame hweid, (hecu hweid).2]
    · rw [if_neg hweid, if_neg hweid, canonical_ecuidOf]
  by_cases hasks : AsksOverwrite evalue msg
  · obtain ⟨headerextra, hnew, hover⟩ := overwriteEcu_of_asks hloaded hlen hasks
    by_cases hweid : dltIsHtypWeid (htypOf f.header) = true
    · -- the headers carry the ECU id that is overwritten
      obtain ⟨hroom, hloadedEcu⟩ := hecu hweid
      have hoverwritten : Overwritten evalue f.header := by
        refine ⟨hasks.1, hweid, ?_⟩
        rw [← hloadedEcu]
        have hecuLen : msg.headerextra.ecu.length = 4 := by
          rw [hloadedEcu]
          exact length_field hroom
        exact (strncmp_eq_zero_iff hecuLen (by decide)).mp hasks.2
      have hwf' : DltMessage.Wf { msg with
          headerbuffer := putIf (dltIsHtypWeid (htypOf f.header)) msg.headerbuffer
            (sizeofDltStorageHeader + sizeofDltStandardHeader) (ecuidOf evalue).bytes
          headerextra } :=
        ⟨by rw [Dlt.User.length_putIf (fun _ => by omega), hlen], hwf.databuffersize_eq⟩
      obtain ⟨final, hfinal, hsend⟩ := @dltDaemonClientSendMessageToAllClient_eq evalue time msg _ _ hstorage
        hstandard hhtyp hover hwf'
      refine ⟨final, _, hsend, hfinal, ?_⟩
      simp only [hweid, if_true, hnew, putIf, payload, hn]
      rw [← payload, hholds.payload_eq]
      have hnewHtyp : htypOf (overwrite f.header sizeofDltStandardHeader (ecuidOf evalue).bytes) = htypOf f.header := by
        rw [← htypOf_take (show 0 < sizeofDltStandardHeader by decide), take_overwrite _ (by omega),
          htypOf_take (by decide)]
      refine transparent_sentOf ?_ (if_pos hoverwritten).symm ?_
      · rw [field_overwrite_inside (by omega) (by omega), hfield]
      · rw [hnewHtyp, if_pos hweid, show dltIdSize = (ecuidOf evalue).bytes.length from hid.symm,
          field_overwrite _ (by omega)]
    · -- there is no ECU id to overwrite, whatever the record held
      rw [Bool.not_eq_true] at hweid
      refine hkept headerextra ?_ (fun h => absurd (hweid.symm.trans h) (by decide)) fun hoverwritten => ?_
      · rw [hover, hweid]
        rfl
      · exact absurd (hweid.symm.trans hoverwritten.2.1) (by decide)
  · refine hkept msg.headerextra (overwriteEcu_of_not_asks hasks) (fun _ => rfl) fun hoverwritten => ?_
    obtain ⟨-, hloadedEcu⟩ := hecu hoverwritten.2.1
    apply hasks
    refine ⟨hoverwritten.1, ?_⟩
    rw [hloadedEcu, hoverwritten.2.2]
    decide

end handOn

/-! ## From the receiver to the clients -/

section accepted

variable {malloc : Malloc} {evalue : List UInt8} {msg : DltMessage} {buffer : List UInt8} {length : ℕ}

/-- An accepted message is handed on, and leaves a record for the next one. -/
theorem forwardLog_accepted (h : msg.Wf) (time : UInt32 × UInt32) (hle : length ≤ buffer.length)
    (hok : (dltMessageRead malloc msg buffer length false).2 = dltMessageErrorOk) :
    ∃ f msg' sent, Matches false (buffer.take length) f ∧
      forwardLog malloc evalue time msg buffer length = some (msg', sent) ∧
      DltMessage.Wf msg' ∧ Transparent evalue f sent := by
  have hfull := dltMessageRead_of_ok hok
  have hm := orZero_succeeds malloc
  have hok' := hok
  rw [hfull] at hok'
  obtain ⟨f, hf⟩ := (dltMessageRead_ok_iff hm h hle).mp hok'
  obtain ⟨hwf, -, hframe⟩ := dltMessageRead_eq_readFrame hm h hle false
  obtain ⟨-, hholds⟩ := hframe f (readFrame_ok_iff.mpr hf)
  have hloaded := dltMessageRead_loaded hm h hle hok'
  rw [hholds.header_eq] at hloaded
  obtain ⟨hstorage, hstandard⟩ := dltMessageRead_pointers hle hok'
  obtain ⟨msg', sent, hsend, hwf', htransparent⟩ := @dltDaemonClientSendMessageToAllClient_transparent evalue time
    _ f _ hwf hholds hloaded hf.header_eq hstorage hstandard
  refine ⟨f, msg', sent, hf, ?_, hwf', htransparent⟩
  unfold forwardLog
  rw [if_neg (not_not.mpr hok), hfull]
  exact hsend

theorem SharedMessage.wf (h : SharedMessage evalue msg) : msg.Wf := by
  induction h with
  | init memory hsize => exact dltMessageInit_wf hsize
  | read h malloc buffer length resync hle ih => exact dltMessageRead_wf ih hle
  | @log msg msg' sent h malloc time buffer length hle hlog ih =>
    by_cases hok : (dltMessageRead malloc msg buffer length false).2 = dltMessageErrorOk
    · obtain ⟨f, final, sent', -, hlog', hfinal, -⟩ :=
        @forwardLog_accepted malloc evalue msg buffer length ih time hle hok
      rw [hlog', Option.some.injEq, Prod.mk.injEq] at hlog
      rw [← hlog.1]
      exact hfinal
    · rw [forwardLog, if_pos hok] at hlog
      cases hlog
  | @handle msg h databuffer databuffer' hdata hlen ih =>
    refine ⟨ih.length_headerbuffer, ?_⟩
    intro other hother
    rw [Option.mem_some_iff] at hother
    rw [← hother, hlen]
    exact ih.databuffersize_eq databuffer hdata

/-- **Forwarding is transparent**: whatever the record held before, an accepted log message is handed on
byte for byte, but for the ECU id that the configuration overwrites. -/
theorem forwardLog_transparent (h : SharedMessage evalue msg) (malloc : Malloc) (time : UInt32 × UInt32)
    (hle : length ≤ buffer.length) (hok : (dltMessageRead malloc msg buffer length false).2 = dltMessageErrorOk) :
    ∃ f msg' sent, Matches false (buffer.take length) f ∧
      forwardLog malloc evalue time msg buffer length = some (msg', sent) ∧ Transparent evalue f sent := by
  obtain ⟨f, msg', sent, hf, hlog, -, htransparent⟩ :=
    @forwardLog_accepted malloc evalue msg buffer length h.wf time hle hok
  exact ⟨f, msg', sent, hf, hlog, htransparent⟩

/-- A message of nine bytes with the ECU id that is overwritten. -/
def sampleLogBytes : List UInt8 := [0x24, 0, 0, 9] ++ dltDaemonEcuId ++ [7]

/-- The record was read into before. -/
theorem forwardLog_transparent_sample :
    ∃ f msg' sent, Matches false (sampleLogBytes.take 9) f ∧
      forwardLog zeroMalloc [0x41, 0] (1, 2) recordAfterExtended sampleLogBytes 9 = some (msg', sent) ∧
        Transparent [0x41, 0] f sent :=
  forwardLog_transparent (.read (.init sampleMessage (length_replicate ..)) _ _ _ _ (Nat.le_refl 14)) zeroMalloc (1, 2)
    (by decide) (by decide)

example : (forwardLog zeroMalloc [0x41, 0] (1, 2) (dltMessageInit sampleMessage) sampleLogBytes 9).map
    (fun r => (r.2.data1, r.2.data2)) = some ([0x24, 0, 0, 9, 0x41, 0, 0, 0], [7]) := by decide

end accepted

/-! ## From a log call to the clients -/

section arrives

open Dlt.User

/-- What a log call sends is handed on, and a client reads the message that was logged, but for the ECU id that is
overwritten. -/
def Arrives (malloc malloc' : Malloc) (evalue : List UInt8) (time : UInt32 × UInt32) (msg client : DltMessage)
    (env : SendEnv) (user : DltUser) (log : DltContextData) (mtype : ℤ) (bytes : List UInt8) : Prop :=
  ∃ handle f msg' sent, log.handle = some handle ∧ bytes = f.header ++ f.payload ∧ f.payload = log.buffer ∧
    forwardLog malloc evalue time msg bytes bytes.length = some (msg', sent) ∧ Transparent evalue f sent ∧
      (¬ Overwritten evalue f.header → Recovered env user handle log mtype
        (dltMessageRead malloc' client (sent.data1 ++ sent.data2) (sent.data1 ++ sent.data2).length false).1)

/-- **What an application logs arrives at the clients**, whatever the records held before. -/
theorem sendLog_arrives {malloc malloc' : Malloc} (hm : malloc.Succeeds) (hm' : malloc'.Succeeds)
    {evalue bytes : List UInt8} {msg client : DltMessage} (h : SharedMessage evalue msg) (hclient : client.Wf)
    {env : SendEnv} {user : DltUser} {log : DltContextData} {mtype : ℤ}
    (hsends : (dltUserLogSendLog env user log mtype).Sends bytes) (time : UInt32 × UInt32) :
    Arrives malloc malloc' evalue time msg client env user log mtype bytes := by
  obtain ⟨handle, logged, f, hhandle, hspec, hmatches, hbytes, hpayload, hheader, hhtyp⟩ :=
    dltUserLogSendLog_framed hsends
  have hok := (@dltMessageRead_ok_iff _ _ bytes _ false hm h.wf le_rfl).mpr ⟨f, take_length.symm ▸ hmatches⟩
  obtain ⟨f', msg', sent, hf', hlog, -, hsent⟩ := @forwardLog_accepted malloc evalue msg bytes _ h.wf time le_rfl hok
  rw [take_length] at hf'
  obtain rfl : f' = f := Except.ok.inj ((readFrame_ok_iff.mpr hf').symm.trans (readFrame_ok_iff.mpr hmatches))
  refine ⟨handle, f', msg', sent, hhandle, hbytes, hpayload, hlog, hsent, fun hnot => ?_⟩
  have hsame : sent.data1 ++ sent.data2 = bytes := by rw [hsent.header, if_neg hnot, hsent.payload, hbytes]
  rw [hsame]
  obtain ⟨-, -, hread⟩ := dltMessageRead_eq_readFrame hm' hclient le_rfl false
  obtain ⟨hret, hholds⟩ := hread f' (by rwa [take_length, readFrame_ok_iff])
  exact recovered_of_headers hspec hheader hhtyp hpayload hholds (dltMessageRead_loaded hm' hclient le_rfl hret)

theorem sendLog_arrives_sample : Arrives zeroMalloc zeroMalloc [] (1, 2) (dltMessageInit sampleMessage) sampleMessage
    sampleSendEnv sampleUser sampleLog 0 sampleSent :=
  sendLog_arrives zeroMalloc_succeeds zeroMalloc_succeeds (.init sampleMessage (length_replicate ..)) sampleMessage_wf
    (.inl (by decide +kernel)) (1, 2)

end arrives

end Dlt.Daemon
