import Dlt.Daemon.RegistrationEntries
import Dlt.Daemon.RuntimeCfg

/-!
# Loading the runtime configuration files

* `applicationsLoad_saved`, `contextsLoad_saved` — the entries that the saved lines make.
-/

namespace Dlt.Daemon

open Dlt.Lib Dlt.Shared List

variable {Buf : Type}

/-! ## Texts -/

section texts

variable {text : List UInt8}

theorem prefix_cText (text : List UInt8) : cText text <+: text := List.takeWhile_prefix _

/-- Before its last character, a text that is cut is as it was before its last character. -/
theorem dropLast_cText_subset (text : List UInt8) : (cText text).dropLast ⊆ text.dropLast := by
  obtain ⟨rest, hrest⟩ := prefix_cText text
  rcases eq_or_ne rest [] with rfl | hne
  · rw [append_nil] at hrest
    rw [hrest]
    exact List.Subset.refl _
  · intro b hb
    have hdrop : text.dropLast = cText text ++ rest.dropLast := by
      rw [← dropLast_append_of_ne_nil hne, hrest]
    rw [hdrop]
    exact mem_append_left _ (dropLast_subset _ hb)

theorem zero_not_mem_cText (text : List UInt8) : 0 ∉ cText text := by
  intro h
  have := mem_takeWhile_imp (p := fun b => decide (b ≠ 0)) h
  simp at this

theorem cText_of_not_mem (h : 0 ∉ text) : cText text = text := by
  rw [cText, takeWhile_eq_self_iff]
  intro b hb
  rw [decide_eq_true_eq]
  exact fun heq => h (heq ▸ hb)

theorem idText_ne_nil {id : Id4} (h : id.isEmpty = false) : idText id.bytes ≠ [] := by
  obtain ⟨bytes, hlen⟩ := id
  cases bytes with
  | nil => simp at hlen
  | cons b bs =>
    have hb : b ≠ 0 := by simpa [Id4.isEmpty] using h
    simp [idText, hb]

/-- The id made from a field is not empty, and its text is the beginning of the field. -/
theorem dltSetId_field (hne : text ≠ []) (hzero : 0 ∉ text) :
    (dltSetId text).isEmpty = false ∧ idText (dltSetId text).bytes <+: text := by
  refine ⟨?_, ?_⟩
  · cases text with
    | nil => exact absurd rfl hne
    | cons b bs =>
      have hb : b ≠ 0 := fun heq => hzero (heq ▸ mem_cons_self)
      simp [Id4.isEmpty, dltSetId, idText, hb]
  · rw [dltSetId, idText_idText]
    exact (prefix_cText _).trans (List.take_prefix 4 text)

end texts

/-! ## The lines of a file -/

/-- A line as `fgets` reads it: it fits into the buffer, and only its last character can be a line
break. -/
def ReadLine (line : List UInt8) : Prop :=
  line.length ≤ dltDaemonCommonTextbufsize - 1 ∧ 10 ∉ line.dropLast

/-- A line of a file: the fields in front, the description, and a delimiter behind each of them. -/
def savedLine (front : List (List UInt8)) (description : List UInt8) : List UInt8 :=
  front.flatMap (· ++ [colon]) ++ description ++ [colon, 10]

/-- A text that is read back as one field. -/
structure FieldText (text : List UInt8) : Prop where
  nonempty : text ≠ []
  no_colon : colon ∉ text
  no_break : 10 ∉ text
  no_zero : 0 ∉ text

/-- The room for a description behind the fields in front of it. -/
def descriptionRoom (front : List (List UInt8)) : ℕ := 254 - (front.flatMap (· ++ [colon])).length

/-- **A saved line is read in pieces.** -/
theorem savedLine_read {front : List (List UInt8)} {description : List UInt8}
    (hfront : ∀ f ∈ front, FieldText f) (hdescription : FieldText description)
    (hroom : 0 < descriptionRoom front) (rest : List UInt8) :
    ∃ first more fields, readLines dltDaemonCommonTextbufsize (savedLine front description ++ rest) =
        first :: (more ++ readLines dltDaemonCommonTextbufsize rest) ∧
      strtok colon (cText first) =
        front ++ description.take (descriptionRoom front) :: fields ∧
      ∀ piece ∈ more, (strtok colon (cText piece)).length ≤ 2 ∧
        (description.length ≤ descriptionRoom front → (strtok colon (cText piece)).length ≤ 1) := by
  have hline : ∀ (b : UInt8), b ≠ colon → (∀ f ∈ front, b ∉ f) → b ∉ description →
      b ∉ front.flatMap (· ++ [colon]) ++ description ++ [colon] := by
    intro b hb hf hd hin
    rcases mem_append.mp hin with hin | hin
    · rcases mem_append.mp hin with hin | hin
      · obtain ⟨f, hf', hin⟩ := mem_flatMap.mp hin
        rcases mem_append.mp hin with hin | hin
        · exact hf f hf' hin
        · exact hb (mem_singleton.mp hin)
      · exact hd hin
    · exact hb (mem_singleton.mp hin)
  have hbreak := hline 10 (by decide) (fun f hf => (hfront f hf).no_break) hdescription.no_break
  have hzero := hline 0 (by decide) (fun f hf => (hfront f hf).no_zero) hdescription.no_zero
  obtain ⟨more, hmore, hpieces⟩ :=
    readLines_line (show 2 ≤ dltDaemonCommonTextbufsize by decide) hbreak rest
  generalize hF : front.flatMap (· ++ [colon]) = text at *
  have hroomEq : descriptionRoom front = 254 - text.length := by rw [descriptionRoom, hF]
  rw [hroomEq] at hroom ⊢
  -- what the first piece holds behind the description
  have hfirst : (text ++ description ++ [colon] ++ [10]).take 254 =
      text ++ (description.take (254 - text.length) ++
        [colon, 10].take (254 - text.length - description.length)) := by
    rw [append_assoc, append_assoc, take_append,
      take_of_length_le (by omega), take_append]
    rfl
  have hdrop : (text ++ description ++ [colon] ++ [10]).drop 254 =
      (description ++ [colon, 10]).drop (254 - text.length) := by
    rw [append_assoc, append_assoc, drop_append,
      drop_of_length_le (by omega), nil_append]
    rfl
  obtain ⟨fields, hfields⟩ := strtok_head (d := colon) (t := description.take (254 - text.length))
    (s := [colon, 10].take (254 - text.length - description.length))
    (by
      have hlen := length_pos_iff.mpr hdescription.nonempty
      intro hnil
      have := congrArg List.length hnil
      simp only [length_take, length_nil] at this
      omega)
    (fun hin => hdescription.no_colon (mem_of_mem_take hin))
    (by
      cases 254 - text.length - description.length with
      | zero => exact .inl rfl
      | succ n => exact .inr ⟨_, rfl⟩)
  have hfront' : ∀ f ∈ front, f ≠ [] ∧ colon ∉ f :=
    fun f hf => ⟨(hfront f hf).nonempty, (hfront f hf).no_colon⟩
  refine ⟨(text ++ description ++ [colon] ++ [10]).take 254, more, fields, ?_, ?_, ?_⟩
  · rw [← show 255 - 1 = 254 from rfl, ← show dltDaemonCommonTextbufsize = 255 from rfl, ← hmore]
    simp [savedLine, hF]
  · rw [cText_of_not_mem, hfirst]
    · have hsplit := strtok_fields hfront' (description.take (254 - text.length) ++
        [colon, 10].take (254 - text.length - description.length))
      rw [hF, hfields] at hsplit
      exact hsplit
    · intro hin
      rcases mem_append.mp (mem_of_mem_take hin) with hin | hin
      · exact hzero hin
      · simp at hin
  · intro piece hpiece
    have hinfix : piece <:+: (description ++ [colon, 10]).drop (254 - text.length) := by
      rw [← hdrop]
      exact hpieces piece hpiece
    have hsub := (prefix_cText piece).sublist.trans hinfix.sublist
    refine ⟨?_, fun hle => ?_⟩
    · have hcount := (hsub.trans (drop_sublist _ _)).count_le colon
      have hle := length_strtok_le colon (cText piece)
      rw [count_append, count_eq_zero_of_not_mem hdescription.no_colon] at hcount
      have : List.count colon [colon, 10] = 1 := by decide
      omega
    · rw [drop_append, drop_of_length_le hle, nil_append] at hsub
      have hmem := mem_sublists.mpr (hsub.trans (drop_sublist _ _))
      have hall : ∀ p ∈ [colon, 10].sublists, (strtok colon p).length ≤ 1 := by decide
      exact hall _ hmem

/-! ## Applications -/

/-- What the file keeps of an application: the id and the description. -/
def DltDaemonApplication.record (application : DltDaemonApplication) : Id4 × List UInt8 :=
  (application.apid, descriptionText application.applicationDescription)

/-- The applications that the file gives back. -/
structure ApplicationPersists (record : Id4 × List UInt8) : Prop where
  /-- The id can be told from the rest of the line. -/
  apid_text : colon ∉ idText record.1.bytes ∧ 10 ∉ idText record.1.bytes
  description_text : record.2 ≠ [] ∧ colon ∉ record.2
  /-- The id and the description fit into the buffer. -/
  length_le : (idText record.1.bytes).length + 1 + record.2.length ≤ 254

/-- Everything but the tables is the same. -/
def SameSettings (daemon daemon' : DltDaemon Buf) : Prop :=
  daemon' = { daemon with userList := daemon'.userList }

theorem SameSettings.refl (daemon : DltDaemon Buf) : SameSettings daemon daemon := rfl

theorem SameSettings.symm {daemon daemon' : DltDaemon Buf} (h : SameSettings daemon daemon') :
    SameSettings daemon' daemon := by
  unfold SameSettings at h ⊢
  rw [h]

theorem SameSettings.trans {daemon daemon' daemon'' : DltDaemon Buf}
    (h : SameSettings daemon daemon') (h' : SameSettings daemon' daemon'') :
    SameSettings daemon daemon'' := by
  unfold SameSettings at h h'
  rw [h] at h'
  exact h'

section applications

variable {malloc : Malloc} {ipc : UserIpc} {daemon : DltDaemon Buf} {l : ℕ}
  {users : DltDaemonRegisteredUsers} {line : List UInt8}

theorem applicationLine_eq (application : DltDaemonApplication) :
    applicationLine application =
      savedLine [idText application.apid.bytes] application.record.2 := by
  have hcolon : ascii ":" = [colon] := by decide
  have hend : ascii ":\n" = [colon, 10] := by decide
  have hends : ascii "::\n" = [colon, colon, 10] := by decide
  unfold applicationLine savedLine DltDaemonApplication.record
  split_ifs with hdescription
  · simp [hcolon, hend]
  · rw [not_not] at hdescription
    simp [hends, hdescription]

theorem applicationsLoadLine_skip (h : (strtok colon (cText line)).length < 2) :
    applicationsLoadLine malloc ipc daemon line = (daemon, true) := by
  unfold applicationsLoadLine
  split
  · rename_i hfields
    rw [hfields, length_cons, length_cons] at h
    omega
  · rfl

variable (malloc ipc daemon) in
theorem applicationsLoadLines_skip {more : List (List UInt8)} (lines : List (List UInt8))
    (h : ∀ line ∈ more, (strtok colon (cText line)).length < 2) :
    applicationsLoadLines malloc ipc daemon (more ++ lines) =
      applicationsLoadLines malloc ipc daemon lines := by
  induction more with
  | nil => rfl
  | cons line more ih =>
    rw [cons_append, applicationsLoadLines,
      applicationsLoadLine_skip (h line mem_cons_self), if_pos rfl]
    exact ih fun line' hin => h line' (mem_cons_of_mem line hin)

/-- No application of the table has a process. -/
def NoProcesses (users : DltDaemonRegisteredUsers) : Prop :=
  ∀ application ∈ users.applications, application.pid = 0

variable (ipc) in
theorem applicationsLoadLine_add (h : Own daemon l users) (hpid : NoProcesses users)
    (hm : malloc.Succeeds) {apid description : List UInt8} {fields : List (List UInt8)}
    (hfields : strtok colon (cText line) = apid :: description :: fields) :
    ∃ users' application, Own (applicationsLoadLine malloc ipc daemon line).1 l users' ∧
      (applicationsLoadLine malloc ipc daemon line).2 = true ∧
      SameSettings daemon (applicationsLoadLine malloc ipc daemon line).1 ∧ NoProcesses users' ∧
      application.record = (dltSetId apid, description) ∧
      Replaces (·.apid) application users.applications users'.applications ∧
      users'.contexts = users.contexts := by
  obtain ⟨hne, -, hsub⟩ := mem_strtok (hfields ▸ mem_cons_self)
  have hdescription : description ∈ strtok colon (cText line) := by
    rw [hfields]
    exact mem_cons_of_mem _ mem_cons_self
  obtain ⟨-, -, hsub'⟩ := mem_strtok hdescription
  have hzero : 0 ∉ description := fun hin => zero_not_mem_cText line (hsub' hin)
  obtain ⟨users', application, hown, hsome, hframe, hid, hdesc, hpid', hreplaces, hctxs⟩ :=
    applicationAdd_predefined h hpid hm ipc (canonical_dltSetId apid)
      (dltSetId_field hne fun hin => zero_not_mem_cText line (hsub hin)).1 (some description) (-1)
  have hstep : applicationsLoadLine malloc ipc daemon line =
      ((dltDaemonApplicationAdd malloc ipc daemon (dltSetId apid) 0 (some description) (-1)
        daemon.ecuid).1, true) := by
    unfold applicationsLoadLine
    rw [hfields]
    simp only [hsome]
  rw [hstep]
  refine ⟨users', application, hown, rfl, hframe, ?_, ?_, hreplaces, hctxs⟩
  · intro a ha
    rcases (hreplaces a).mp ha with rfl | ⟨hin, -⟩
    · exact hpid'
    · exact hpid a hin
  · rw [DltDaemonApplication.record, hid, hdesc, descriptionText, Option.getD_some,
      cText_of_not_mem hzero]

/-- The fields of a line that was read make an application that the file gives back. -/
theorem applicationPersists_of_fields {apid description : List UInt8}
    {fields : List (List UInt8)} (hline : ReadLine line)
    (hfields : strtok colon (cText line) = apid :: description :: fields) :
    ApplicationPersists (dltSetId apid, description) := by
  obtain ⟨hlen, hbreak⟩ := hline
  have hprefix := prefix_cText line
  obtain ⟨hinit, hsum⟩ := strtok_init (show _ = [apid] ++ description :: fields from hfields)
  obtain ⟨hne, hcolon, hsub⟩ := mem_strtok (hfields ▸ mem_cons_self)
  have hdescription : description ∈ strtok colon (cText line) := by
    rw [hfields]
    exact mem_cons_of_mem _ mem_cons_self
  obtain ⟨hne', hcolon', -⟩ := mem_strtok hdescription
  have htext := (dltSetId_field hne fun hin => zero_not_mem_cText line (hsub hin)).2
  refine ⟨⟨fun hin => hcolon (htext.subset hin), fun hin => hbreak ?_⟩, ⟨hne', hcolon'⟩, ?_⟩
  · exact dropLast_cText_subset line (hinit apid mem_cons_self (htext.subset hin))
  · have hid := htext.length_le
    have htext' := hprefix.length_le
    have hsize : dltDaemonCommonTextbufsize - 1 = 254 := rfl
    simp only [map_cons, map_nil, sum_cons, sum_nil] at hsum ⊢
    omega

variable (ipc) in
/-- **Loading applications**: every line is loaded, and the entries that come from the lines are ones
that the file gives back. -/
theorem applicationsLoadLines_loaded (h : Own daemon l users) (hpid : NoProcesses users)
    (hm : malloc.Succeeds) {lines : List (List UInt8)} (hlines : ∀ line ∈ lines, ReadLine line) :
    ∃ users', Own (applicationsLoadLines malloc ipc daemon lines).1 l users' ∧
      (applicationsLoadLines malloc ipc daemon lines).2 = 0 ∧
      SameSettings daemon (applicationsLoadLines malloc ipc daemon lines).1 ∧
      users'.contexts = users.contexts ∧
      (∀ a ∈ users'.applications, a ∈ users.applications ∨ ApplicationPersists a.record) ∧
      ((∃ line ∈ lines, 2 ≤ (strtok colon (cText line)).length) ∨ users.applications ≠ [] →
        users'.applications ≠ []) := by
  induction lines generalizing daemon users with
  | nil => exact ⟨users, h, rfl, rfl, rfl, fun a ha => .inl ha, by simp⟩
  | cons line lines ih =>
    have hlines' : ∀ line' ∈ lines, ReadLine line' :=
      fun line' hin => hlines line' (mem_cons_of_mem line hin)
    rw [applicationsLoadLines]
    match hfields : strtok colon (cText line) with
    | [] | [_] =>
      have hskip : (strtok colon (cText line)).length < 2 := by simp [hfields]
      rw [applicationsLoadLine_skip hskip, if_pos rfl]
      obtain ⟨users', hown, hret, hsame, hctxs, hall, hne⟩ := ih h hpid hlines'
      refine ⟨users', hown, hret, hsame, hctxs, hall, fun hex => hne ?_⟩
      rcases hex with ⟨line', hin, hlen⟩ | husers
      · rcases mem_cons.mp hin with rfl | hin
        · omega
        · exact .inl ⟨line', hin, hlen⟩
      · exact .inr husers
    | apid :: description :: fields =>
      obtain ⟨mid, application, hown, htrue, hframe, hpid', hrecord, hreplaces, hctxs⟩ :=
        applicationsLoadLine_add ipc h hpid hm hfields
      rw [if_pos htrue]
      obtain ⟨users', hown', hret, hsame, hctxs', hall, hne⟩ := ih hown hpid' hlines'
      refine ⟨users', hown', hret, hframe.trans hsame, hctxs'.trans hctxs, ?_, ?_⟩
      · intro a ha
        rcases hall a ha with hin | hok
        · rcases (hreplaces a).mp hin with rfl | ⟨hin, -⟩
          · rw [hrecord]
            exact .inr (applicationPersists_of_fields (hlines line mem_cons_self) hfields)
          · exact .inl hin
        · exact .inr hok
      · intro _
        apply hne
        exact .inr (ne_nil_of_mem ((hreplaces application).mpr (.inl rfl)))

variable (ipc) in
/-- **Loading saved applications** adds exactly these. -/
theorem applicationsLoad_saved (h : Own daemon l users) (hpid : NoProcesses users)
    (hm : malloc.Succeeds) {saved : List DltDaemonApplication}
    (hids : ∀ a ∈ saved, a.apid.Canonical ∧ a.apid.isEmpty = false)
    (hbreaks : ∀ a ∈ saved, 10 ∉ a.record.2) (hok : ∀ a ∈ saved, ApplicationPersists a.record)
    (hnodup : (saved.map (·.apid)).Nodup) :
    ∃ users', Own (applicationsLoadLines malloc ipc daemon
        (readLines dltDaemonCommonTextbufsize (saved.flatMap applicationLine))).1 l users' ∧
      ∀ record, record ∈ users'.applications.map DltDaemonApplication.record ↔
        record ∈ saved.map DltDaemonApplication.record ∨
          record ∈ users.applications.map DltDaemonApplication.record ∧
            record.1 ∉ saved.map (·.apid) := by
  induction saved generalizing daemon users with
  | nil => exact ⟨users, h, by simp⟩
  | cons a saved ih =>
    obtain ⟨hcanonical, hempty⟩ := hids a mem_cons_self
    obtain ⟨hid, hdescription, hlen⟩ := hok a mem_cons_self
    have hzero : 0 ∉ a.record.2 := zero_not_mem_cText _
    have hroom : descriptionRoom [idText a.apid.bytes] = 254 - ((idText a.apid.bytes).length + 1) := by
      simp [descriptionRoom]
    have hidLen := length_idText_le a.apid.bytes
    have hlen' : (idText a.apid.bytes).length + 1 + a.record.2.length ≤ 254 := hlen
    have hfront : ∀ f ∈ [idText a.apid.bytes], FieldText f := by
      intro f hf
      rw [mem_singleton.mp hf]
      exact ⟨idText_ne_nil hempty, hid.1, hid.2, zero_not_mem_idText _⟩
    obtain ⟨first, more, fields, hread, hfields, hmore⟩ := savedLine_read hfront
      ⟨hdescription.1, hdescription.2, hbreaks a mem_cons_self, hzero⟩
      (by omega) (saved.flatMap applicationLine)
    rw [take_of_length_le (by omega)] at hfields
    obtain ⟨mid, application, hown, htrue, -, hpid', hrecord, hreplaces, -⟩ :=
      applicationsLoadLine_add ipc h hpid hm hfields
    obtain ⟨hnotin, hnodup'⟩ := nodup_cons.mp hnodup
    obtain ⟨users', hown', hrecords⟩ := ih hown hpid'
      (fun b hb => hids b (mem_cons_of_mem a hb))
      (fun b hb => hbreaks b (mem_cons_of_mem a hb))
      (fun b hb => hok b (mem_cons_of_mem a hb)) hnodup'
    refine ⟨users', ?_, ?_⟩
    · rw [flatMap_cons, applicationLine_eq, hread, applicationsLoadLines, htrue, if_pos rfl,
        applicationsLoadLines_skip _ _ _ _ fun piece hpiece => ?_]
      · exact hown'
      · have := (hmore piece hpiece).2 (by omega)
        omega
    · intro record
      have hnew : application.record = a.record := by
        rw [hrecord, dltSetId_idText hcanonical]
        rfl
      have hmid := hreplaces.map (g := DltDaemonApplication.record)
        (show ∀ a, Prod.fst (DltDaemonApplication.record a) = a.apid from fun _ => rfl) record
      rw [hrecords, hmid, hnew, map_cons, map_cons, mem_cons, mem_cons]
      constructor
      · rintro (hin | ⟨rfl | ⟨hin, hne⟩, hnot⟩)
        · exact .inl (.inr hin)
        · exact .inl (.inl rfl)
        · exact .inr ⟨hin, not_or.mpr ⟨hne, hnot⟩⟩
      · rintro ((rfl | hin) | ⟨hin, hnot⟩)
        · exact .inr ⟨.inl rfl, hnotin⟩
        · exact .inl hin
        · obtain ⟨hne, hnot⟩ := not_or.mp hnot
          exact .inr ⟨.inr ⟨hin, hne⟩, hnot⟩

end applications

/-! ## Contexts -/

/-- What the file keeps of a context. -/
@[ext] structure ContextRecord where
  apid : Id4
  ctid : Id4
  logLevel : ℤ
  traceStatus : ℤ
  description : List UInt8

def ContextRecord.ids (record : ContextRecord) : Id4 × Id4 := (record.apid, record.ctid)

/-- The fields in front of the description. -/
def ContextRecord.front (record : ContextRecord) : List (List UInt8) :=
  [idText record.apid.bytes, idText record.ctid.bytes, printDecimal record.logLevel,
    printDecimal record.traceStatus]

/-- What the file keeps of a context. -/
def DltDaemonContext.record (context : DltDaemonContext) : ContextRecord where
  apid := context.apid
  ctid := context.ctid
  logLevel := context.logLevel
  traceStatus := context.traceStatus
  description := descriptionText context.contextDescription

open DltDaemonContext

/-- The contexts that a daemon can read back, up to the length of the description. -/
structure ContextReadable (daemon : DltDaemon Buf) (record : ContextRecord) : Prop where
  /-- The ids can be told from the rest of the line. -/
  apid_text : colon ∉ idText record.apid.bytes ∧ 10 ∉ idText record.apid.bytes
  ctid_text : colon ∉ idText record.ctid.bytes ∧ 10 ∉ idText record.ctid.bytes
  description_text : record.description ≠ [] ∧ colon ∉ record.description
  /-- The values are in range, and do not exceed the default ones if they must not. -/
  logLevel_range : dltLogDefault ≤ record.logLevel ∧ record.logLevel ≤ dltLogVerbose
  traceStatus_range :
    dltTraceStatusDefault ≤ record.traceStatus ∧ record.traceStatus ≤ dltTraceStatusOn
  enforced : daemon.forceLlTs = true →
    record.logLevel ≤ daemon.defaultLogLevel ∧ record.traceStatus ≤ daemon.defaultTraceStatus

/-- The contexts that the file gives back: the fields fit into the buffer. -/
structure ContextPersists (daemon : DltDaemon Buf) (record : ContextRecord) : Prop
    extends ContextReadable daemon record where
  length_le : (idText record.apid.bytes).length + (idText record.ctid.bytes).length +
    (printDecimal record.logLevel).length + (printDecimal record.traceStatus).length + 4 +
      record.description.length ≤ 254

section contexts

variable {malloc : Malloc} {slot : DltDaemonContext} {s : ContextsLoad Buf} {l : ℕ}
  {users : DltDaemonRegisteredUsers} {line : List UInt8}

theorem ContextReadable.sameSettings {daemon daemon' : DltDaemon Buf} {record : ContextRecord}
    (hsame : SameSettings daemon daemon') (h : ContextReadable daemon' record) :
    ContextReadable daemon record := by
  unfold SameSettings at hsame
  rw [hsame] at h
  exact ⟨h.apid_text, h.ctid_text, h.description_text, h.logLevel_range, h.traceStatus_range,
    h.enforced⟩

theorem contextLine_eq (context : DltDaemonContext) :
    contextLine context = savedLine context.record.front context.record.description := by
  have hcolon : ascii ":" = [colon] := by decide
  have hend : ascii ":\n" = [colon, 10] := by decide
  have hends : ascii "::\n" = [colon, colon, 10] := by decide
  unfold contextLine savedLine DltDaemonContext.record ContextRecord.front
  simp only [hcolon, hend, hends]
  split_ifs with hdescription
  · simp
  · rw [not_not] at hdescription
    simp [hdescription]

variable (malloc slot s) in
theorem contextsLoadLine_skip (h : (strtok colon (cText line)).length < 5) :
    (contextsLoadLine malloc slot s line).2 = true ∧
      (contextsLoadLine malloc slot s line).1.daemon = s.daemon := by
  unfold contextsLoadLine
  split
  · rename_i hfields
    rw [hfields] at h
    split
    · split
      · simp only [length_cons] at h
        omega
      · exact ⟨rfl, rfl⟩
    · exact ⟨rfl, rfl⟩
  · exact ⟨rfl, rfl⟩

structure LineValues where
  logLevel : ℤ
  traceStatus : ℤ

/-- The values of the fields of a line, or the ones of a line before. -/
def lineValues (s : ContextsLoad Buf) (ll ts : List UInt8) : LineValues where
  logLevel := i8 ((scanDecimal ll).getD s.ll)
  traceStatus := i8 ((scanDecimal ts).getD s.ts)

section add

variable {apid ctid ll ts description : List UInt8} {fields : List (List UInt8)}
  (hfields : strtok colon (cText line) = apid :: ctid :: ll :: ts :: description :: fields)

include hfields

variable (slot) in
theorem contextsLoadLine_refused (h : Own s.daemon l users) (hm : malloc.Succeeds)
    (hrefused : ¬ AcceptsContext users (dltSetId apid) (dltSetId ctid)
      (lineValues s ll ts).logLevel (lineValues s ll ts).traceStatus) :
    (contextsLoadLine malloc slot s line).2 = false := by
  have hadd := (contextAdd_refused h hm slot (canonical_dltSetId apid) hrefused 0 0
    (some description)).1
  unfold lineValues at hadd
  unfold contextsLoadLine
  rw [hfields]
  simp only [hadd, Option.isSome_none]

variable (slot) in
theorem contextsLoadLine_add (h : Own s.daemon l users) (hm : malloc.Succeeds)
    (haccepts : AcceptsContext users (dltSetId apid) (dltSetId ctid)
      (lineValues s ll ts).logLevel (lineValues s ll ts).traceStatus) :
    (contextsLoadLine malloc slot s line).2 = true ∧
      ∃ users' c old, old.ids = (dltSetId apid, dltSetId ctid) ∧
        ((dltSetId apid, dltSetId ctid) ∈ users.contexts.map ids →
          old ∈ users.contexts) ∧
        ContextAdded s.daemon (contextsLoadLine malloc slot s line).1.daemon l users users' c
          (contextSet s.daemon s.daemon.ecuid
            (decide ((dltSetId apid, dltSetId ctid) ∉ users.contexts.map ids))
            (lineValues s ll ts).logLevel (lineValues s ll ts).traceStatus 0 0 (some description)
            old) := by
  obtain ⟨users', c, old, hsome, hids, hold, hadded⟩ := contextAdd_accepted h hm slot
    (canonical_dltSetId apid) (canonical_dltSetId ctid) haccepts 0 0 (some description)
  unfold lineValues at hsome hadded
  have hstep : (contextsLoadLine malloc slot s line).2 = true ∧
      (contextsLoadLine malloc slot s line).1.daemon = (dltDaemonContextAdd malloc slot s.daemon
        (dltSetId apid) (dltSetId ctid) (i8 ((scanDecimal ll).getD s.ll))
        (i8 ((scanDecimal ts).getD s.ts)) 0 0 (some description) s.daemon.ecuid).1 := by
    unfold contextsLoadLine
    rw [hfields]
    simp only [hsome, Option.isSome_some, and_self]
  refine ⟨hstep.1, users', c, old, hids, hold, ?_⟩
  rw [hstep.2]
  exact hadded

/-- A context whose line was read and accepted can be read back. -/
theorem contextReadable_contextSet (daemon : DltDaemon Buf) (hline : ReadLine line)
    (hdefaults : 0 ≤ daemon.defaultLogLevel ∧ 0 ≤ daemon.defaultTraceStatus)
    {logLevel traceStatus : ℤ}
    (hlevel : dltLogDefault ≤ logLevel ∧ logLevel ≤ dltLogVerbose)
    (htrace : dltTraceStatusDefault ≤ traceStatus ∧ traceStatus ≤ dltTraceStatusOn)
    {old : DltDaemonContext} (hids : old.ids = (dltSetId apid, dltSetId ctid)) (new : Bool)
    (hold : new = false → ContextReadable daemon old.record) (logLevelPos userHandle : ℤ) :
    ContextReadable daemon (contextSet daemon daemon.ecuid new logLevel traceStatus logLevelPos
      userHandle (some description) old).record := by
  have hbreak := hline.2
  obtain ⟨hinit, -⟩ := strtok_init
    (show _ = [apid, ctid] ++ ll :: ts :: description :: fields from hfields)
  have hid : ∀ id ∈ [apid, ctid], colon ∉ idText (dltSetId id).bytes ∧
      10 ∉ idText (dltSetId id).bytes := by
    intro id hin
    have hmem : id ∈ strtok colon (cText line) := by
      rw [hfields]
      exact mem_append_left _ hin
    obtain ⟨hne, hcolon, hsub⟩ := mem_strtok hmem
    have htext := (dltSetId_field hne fun hzero => zero_not_mem_cText line (hsub hzero)).2
    exact ⟨fun h => hcolon (htext.subset h),
      fun h => hbreak (dropLast_cText_subset line (hinit id hin (htext.subset h)))⟩
  have hmem : description ∈ strtok colon (cText line) := by
    rw [hfields]
    simp
  obtain ⟨hne, hcolon, hsub⟩ := mem_strtok hmem
  have htext : descriptionText (some description) = description :=
    cText_of_not_mem fun hzero => zero_not_mem_cText line (hsub hzero)
  obtain ⟨hapid, hctid⟩ := Prod.mk.inj hids
  have hlow : dltLogDefault ≤ 0 := by decide
  have hlow' : dltTraceStatusDefault ≤ 0 := by decide
  have hlevelOk := contextSet_logLevel_ok daemon logLevel traceStatus logLevelPos userHandle
    (some description) (hlow.trans hdefaults.1) hlevel fun hnew =>
      ⟨(hold hnew).logLevel_range, fun hforce => ((hold hnew).enforced hforce).1⟩
  have htraceOk := contextSet_traceStatus_ok daemon logLevel traceStatus logLevelPos userHandle
    (some description) (hlow'.trans hdefaults.2) htrace fun hnew =>
      ⟨(hold hnew).traceStatus_range, fun hforce => ((hold hnew).enforced hforce).2⟩
  refine ⟨?_, ?_, ?_, hlevelOk.range, htraceOk.range,
    fun hforce => ⟨hlevelOk.enforced hforce, htraceOk.enforced hforce⟩⟩
  · have hid' := hid apid mem_cons_self
    rw [← hapid] at hid'
    exact hid'
  · have hid' := hid ctid (mem_cons_of_mem _ mem_cons_self)
    rw [← hctid] at hid'
    exact hid'
  · simp only [DltDaemonContext.record, contextSet, htext]
    exact ⟨hne, hcolon⟩

end add

section

variable {daemon daemon' : DltDaemon Buf} {users' : DltDaemonRegisteredUsers} {c : ℕ} {context : DltDaemonContext}
  (h : ContextAdded daemon daemon' l users users' c context)
include h

/-- What the file keeps of the applications does not depend on their counters. -/
theorem ContextAdded.applications_record :
    users'.applications.map DltDaemonApplication.record =
      users.applications.map DltDaemonApplication.record := by
  have hmap := congrArg (List.map DltDaemonApplication.record) h.applications
  rw [map_map, map_map] at hmap
  exact hmap

theorem ContextAdded.apids :
    users'.applications.map (·.apid) = users.applications.map (·.apid) := by
  have hmap := congrArg (List.map Prod.fst) h.applications_record
  rw [map_map, map_map] at hmap
  exact hmap

end

/-- **Loading contexts**: when every line is loaded, all contexts of the table can be read back. -/
theorem contextsLoadLines_loaded (slots : ℕ → DltDaemonContext) (h : Own s.daemon l users)
    (hm : malloc.Succeeds) (hdefaults : 0 ≤ s.daemon.defaultLogLevel ∧ 0 ≤ s.daemon.defaultTraceStatus)
    (hall : ∀ c ∈ users.contexts, ContextReadable s.daemon c.record)
    {lines : List (List UInt8)} (hlines : ∀ line ∈ lines, ReadLine line)
    (hret : (contextsLoadLines malloc slots s lines).2 = 0) :
    ∃ users', Own (contextsLoadLines malloc slots s lines).1 l users' ∧
      users'.applications.map DltDaemonApplication.record =
        users.applications.map DltDaemonApplication.record ∧
      (∀ c ∈ users'.contexts, ContextReadable s.daemon c.record) ∧
      ((∃ line ∈ lines, 5 ≤ (strtok colon (cText line)).length) ∨ users.contexts ≠ [] →
        users'.contexts ≠ []) := by
  induction lines generalizing slots s users with
  | nil => exact ⟨users, h, rfl, hall, by simp⟩
  | cons line lines ih =>
    have hlines' : ∀ line' ∈ lines, ReadLine line' :=
      fun line' hin => hlines line' (mem_cons_of_mem line hin)
    rw [contextsLoadLines] at hret ⊢
    by_cases hskip : (strtok colon (cText line)).length < 5
    · obtain ⟨htrue, hsame⟩ := contextsLoadLine_skip malloc (slots 0) s hskip
      rw [if_pos htrue] at hret ⊢
      obtain ⟨users', hown, happs, hall', hne⟩ :=
        ih (s := (contextsLoadLine malloc (slots 0) s line).1) _ (by rwa [hsame]) (by rwa [hsame])
          (by rwa [hsame]) hlines' hret
      refine ⟨users', hown, happs, by rwa [hsame] at hall', fun hex => hne ?_⟩
      rcases hex with ⟨line', hin, hlen⟩ | husers
      · rcases mem_cons.mp hin with rfl | hin
        · omega
        · exact .inl ⟨line', hin, hlen⟩
      · exact .inr husers
    · obtain ⟨apid, ctid, ll, ts, description, fields, hfields⟩ :
          ∃ apid ctid ll ts description fields, strtok colon (cText line) =
            apid :: ctid :: ll :: ts :: description :: fields := by
        match hfields : strtok colon (cText line) with
        | [] | [_] | [_, _] | [_, _, _] | [_, _, _, _] => simp [hfields] at hskip
        | apid :: ctid :: ll :: ts :: description :: fields => exact ⟨_, _, _, _, _, _, rfl⟩
      by_cases haccepts : AcceptsContext users (dltSetId apid) (dltSetId ctid)
          (lineValues s ll ts).logLevel (lineValues s ll ts).traceStatus
      · obtain ⟨htrue, mid, c, old, hids, hold, hadded⟩ :=
          contextsLoadLine_add (slots 0) hfields h hm haccepts
        rw [if_pos htrue] at hret ⊢
        have hframe : SameSettings s.daemon (contextsLoadLine malloc (slots 0) s line).1.daemon :=
          hadded.frame
        have hall' : ∀ x ∈ mid.contexts, ContextReadable s.daemon x.record := by
          intro x hx
          rcases (hadded.replaces x).mp hx with rfl | ⟨hin, -⟩
          · refine contextReadable_contextSet hfields s.daemon (hlines line mem_cons_self)
              hdefaults haccepts.logLevel_range haccepts.traceStatus_range hids _ (fun hnew => ?_) 0 0
            exact hall old (hold (not_not.mp (of_decide_eq_false hnew)))
          · exact hall x hin
        obtain ⟨users', hown, happs, hall'', hne⟩ :=
          ih (s := (contextsLoadLine malloc (slots 0) s line).1) _ hadded.own
            (by rw [hframe]; exact hdefaults)
            (fun x hx => (hall' x hx).sameSettings hframe.symm) hlines' hret
        refine ⟨users', hown, happs.trans hadded.applications_record,
          fun x hx => (hall'' x hx).sameSettings hframe, fun _ => hne ?_⟩
        exact .inr (ne_nil_of_mem ((hadded.replaces _).mpr (.inl rfl)))
      · have hfalse := contextsLoadLine_refused (slots 0) hfields h hm haccepts
        rw [hfalse, if_neg Bool.false_ne_true] at hret
        exact absurd hret (show ¬ (-1 : ℤ) = 0 by decide)

variable (malloc s) in
theorem contextsLoadLines_skip (slots : ℕ → DltDaemonContext) {more : List (List UInt8)}
    (lines : List (List UInt8))
    (h : ∀ line ∈ more, (strtok colon (cText line)).length < 5) :
    ∃ slots' s', s'.daemon = s.daemon ∧ contextsLoadLines malloc slots s (more ++ lines) =
      contextsLoadLines malloc slots' s' lines := by
  induction more generalizing slots s with
  | nil => exact ⟨slots, s, rfl, rfl⟩
  | cons line more ih =>
    obtain ⟨htrue, hsame⟩ := contextsLoadLine_skip malloc (slots 0) s (h line mem_cons_self)
    obtain ⟨slots', s', hdaemon, hlines⟩ := ih (contextsLoadLine malloc (slots 0) s line).1
      (fun n => slots (n + 1)) fun line' hin => h line' (mem_cons_of_mem line hin)
    refine ⟨slots', s', hdaemon.trans hsame, ?_⟩
    rw [cons_append, contextsLoadLines, if_pos htrue, hlines]

/-- A context as its line gives it back: the description is cut at the end of the buffer. -/
def ContextRecord.cut (record : ContextRecord) : ContextRecord :=
  { record with description := record.description.take (descriptionRoom record.front) }

section

variable {daemon : DltDaemon Buf} {record : ContextRecord} (h : ContextReadable daemon record)
include h

theorem descriptionRoom_front :
    descriptionRoom record.front = 254 - ((idText record.apid.bytes).length +
      (idText record.ctid.bytes).length + (printDecimal record.logLevel).length +
        (printDecimal record.traceStatus).length + 4) ∧ 200 < descriptionRoom record.front := by
  have hlevel := printDecimal_spec (n := record.logLevel)
    (by have := h.logLevel_range.1; unfold dltLogDefault at this; omega)
    (by have := h.logLevel_range.2; unfold dltLogVerbose at this; omega)
  have htrace := printDecimal_spec (n := record.traceStatus)
    (by have := h.traceStatus_range.1; unfold dltTraceStatusDefault at this; omega)
    (by have := h.traceStatus_range.2; unfold dltTraceStatusOn at this; omega)
  have hapid := length_idText_le record.apid.bytes
  have hctid := length_idText_le record.ctid.bytes
  have hroom : descriptionRoom record.front = 254 - ((idText record.apid.bytes).length +
      (idText record.ctid.bytes).length + (printDecimal record.logLevel).length +
        (printDecimal record.traceStatus).length + 4) := by
    simp only [descriptionRoom, ContextRecord.front, flatMap_cons, flatMap_nil,
      length_append, length_singleton, length_nil]
    omega
  exact ⟨hroom, by omega⟩

/-- The fields in front of the description of a context that can be read back. -/
theorem fieldText_front (hapid : record.apid.isEmpty = false) (hctid : record.ctid.isEmpty = false) :
    ∀ f ∈ record.front, FieldText f := by
  have hnumber : ∀ n : ℤ, -9 ≤ n → n ≤ 9 → FieldText (printDecimal n) := by
    intro n hlow hhigh
    obtain ⟨hne, -, hchars, -⟩ := printDecimal_spec hlow hhigh
    refine ⟨hne, fun hin => ?_, fun hin => ?_, fun hin => ?_⟩
    · exact absurd (hchars _ hin).2 (by decide)
    · exact absurd (hchars _ hin).1 (by decide)
    · exact absurd (hchars _ hin).1 (by decide)
  have hlevel := h.logLevel_range
  have htrace := h.traceStatus_range
  unfold dltLogDefault dltLogVerbose at hlevel
  unfold dltTraceStatusDefault dltTraceStatusOn at htrace
  intro f hf
  simp only [ContextRecord.front, mem_cons, not_mem_nil, or_false] at hf
  rcases hf with rfl | rfl | rfl | rfl
  · exact ⟨idText_ne_nil hapid, h.apid_text.1, h.apid_text.2, zero_not_mem_idText _⟩
  · exact ⟨idText_ne_nil hctid, h.ctid_text.1, h.ctid_text.2, zero_not_mem_idText _⟩
  · exact hnumber _ (by omega) (by omega)
  · exact hnumber _ (by omega) (by omega)

theorem lineValues_printDecimal :
    lineValues s (printDecimal record.logLevel) (printDecimal record.traceStatus) =
      ⟨record.logLevel, record.traceStatus⟩ := by
  have hlevel := h.logLevel_range
  have htrace := h.traceStatus_range
  unfold dltLogDefault dltLogVerbose at hlevel
  unfold dltTraceStatusDefault dltTraceStatusOn at htrace
  unfold lineValues
  rw [(printDecimal_spec (by omega) (by omega)).2.2.2, (printDecimal_spec (by omega) (by omega)).2.2.2,
    Option.getD_some, Option.getD_some, i8_of_range (by omega) (by omega),
    i8_of_range (by omega) (by omega)]

/-- A new context has the values of its line, when these need not be adapted. -/
theorem record_contextSet {description : List UInt8} (hzero : 0 ∉ description) {old : DltDaemonContext}
    (hids : old.ids = record.ids) (logLevelPos userHandle : ℤ) :
    (contextSet daemon daemon.ecuid true record.logLevel record.traceStatus logLevelPos userHandle
      (some description) old).record = { record with description } := by
  obtain ⟨hapid, hctid⟩ := Prod.mk.inj hids
  have hself : strncmpEq daemon.ecuid daemon.ecuid = true := by simp [strncmpEq]
  have hlevel : (if daemon.forceLlTs = true ∧ record.logLevel > daemon.defaultLogLevel then
      daemon.defaultLogLevel else record.logLevel) = record.logLevel :=
    if_neg fun hif => not_le.mpr hif.2 (h.enforced hif.1).1
  have htrace : (if daemon.forceLlTs = true ∧ record.traceStatus > daemon.defaultTraceStatus then
      daemon.defaultTraceStatus else record.traceStatus) = record.traceStatus :=
    if_neg fun hif => not_le.mpr hif.2 (h.enforced hif.1).2
  have htext : descriptionText (some description) = description := cText_of_not_mem hzero
  simp [DltDaemonContext.record, contextSet, hself, hlevel, htrace, htext, hapid, hctid]

end

/-- **Loading saved contexts** adds exactly these, with their descriptions cut. -/
theorem contextsLoad_saved (slots : ℕ → DltDaemonContext) (h : Own s.daemon l users)
    (hm : malloc.Succeeds) {saved : List DltDaemonContext}
    (hids : ∀ c ∈ saved, (c.apid.Canonical ∧ c.apid.isEmpty = false) ∧
      c.ctid.Canonical ∧ c.ctid.isEmpty = false)
    (hbreaks : ∀ c ∈ saved, 10 ∉ c.record.description)
    (hok : ∀ c ∈ saved, ContextReadable s.daemon c.record)
    (happs : ∀ c ∈ saved, c.apid ∈ users.applications.map (·.apid))
    (hnodup : (saved.map ids).Nodup)
    (hnew : ∀ c ∈ saved, c.ids ∉ users.contexts.map ids) :
    (contextsLoadLines malloc slots s
        (readLines dltDaemonCommonTextbufsize (saved.flatMap contextLine))).2 = 0 ∧
      ∃ users', Own (contextsLoadLines malloc slots s
          (readLines dltDaemonCommonTextbufsize (saved.flatMap contextLine))).1 l users' ∧
        ∀ record, record ∈ users'.contexts.map DltDaemonContext.record ↔
          record ∈ saved.map (fun c => c.record.cut) ∨
            record ∈ users.contexts.map DltDaemonContext.record := by
  induction saved generalizing slots s users with
  | nil => exact ⟨rfl, users, h, by simp⟩
  | cons a saved ih =>
    obtain ⟨⟨hapid, hapid'⟩, hctid, hctid'⟩ := hids a mem_cons_self
    have hread := hok a mem_cons_self
    have hzero : 0 ∉ a.record.description := zero_not_mem_cText _
    obtain ⟨first, more, fields, hlines, hfields, hmore⟩ := savedLine_read
      (fieldText_front hread hapid' hctid')
      ⟨hread.description_text.1, hread.description_text.2, hbreaks a mem_cons_self, hzero⟩
      (by have := (descriptionRoom_front hread).2; omega) (saved.flatMap contextLine)
    have hcut : 0 ∉ a.record.cut.description := fun hin => hzero (mem_of_mem_take hin)
    have hset : dltSetId (idText a.record.apid.bytes) = a.apid := dltSetId_idText hapid
    have hset' : dltSetId (idText a.record.ctid.bytes) = a.ctid := dltSetId_idText hctid
    have hvalues := lineValues_printDecimal (s := s) hread
    have haccepts : AcceptsContext users (dltSetId (idText a.record.apid.bytes))
        (dltSetId (idText a.record.ctid.bytes))
        (lineValues s (printDecimal a.record.logLevel) (printDecimal a.record.traceStatus)).logLevel
        (lineValues s (printDecimal a.record.logLevel)
          (printDecimal a.record.traceStatus)).traceStatus := by
      rw [hset, hset', hvalues]
      exact ⟨hapid', hctid', hread.logLevel_range, hread.traceStatus_range,
        happs a mem_cons_self⟩
    obtain ⟨htrue, mid, c, old, holdIds, -, hadded⟩ :=
      contextsLoadLine_add (slots 0) hfields h hm haccepts
    have hnewA : (a.apid, a.ctid) ∉ users.contexts.map ids :=
      hnew a mem_cons_self
    rw [hset, hset', hvalues, decide_eq_true hnewA] at hadded
    rw [hset, hset'] at holdIds
    have hrecord := record_contextSet hread hcut holdIds 0 0
    have hframe : SameSettings s.daemon (contextsLoadLine malloc (slots 0) s first).1.daemon :=
      hadded.frame
    obtain ⟨hnotin, hnodup'⟩ := nodup_cons.mp hnodup
    obtain ⟨slots', s', hsame, hskip⟩ := contextsLoadLines_skip malloc
      (contextsLoadLine malloc (slots 0) s first).1 (fun n => slots (n + 1))
      (readLines dltDaemonCommonTextbufsize (saved.flatMap contextLine))
      fun piece hpiece => (hmore piece hpiece).1.trans_lt (by decide)
    have hloads : contextsLoadLines malloc slots s
        (readLines dltDaemonCommonTextbufsize ((a :: saved).flatMap contextLine)) =
          contextsLoadLines malloc slots' s'
            (readLines dltDaemonCommonTextbufsize (saved.flatMap contextLine)) := by
      rw [flatMap_cons, contextLine_eq, hlines, contextsLoadLines, if_pos htrue, hskip]
    have hready : ∀ record, ContextReadable s.daemon record → ContextReadable s'.daemon record := by
      intro record hr
      rw [hsame]
      exact hr.sameSettings hframe.symm
    have hmap : Replaces ContextRecord.ids a.record.cut (users.contexts.map DltDaemonContext.record)
        (mid.contexts.map DltDaemonContext.record) := by
      have hsets := hadded.replaces.map (g := DltDaemonContext.record)
        (show ∀ x, ContextRecord.ids (DltDaemonContext.record x) = x.ids from fun _ => rfl)
      exact (congrArg (fun r => Replaces ContextRecord.ids r _ _) hrecord).mp hsets
    have hreplaces : ∀ record, record ∈ mid.contexts.map DltDaemonContext.record ↔
        record = a.record.cut ∨ record ∈ users.contexts.map DltDaemonContext.record := by
      intro record
      rw [hmap]
      refine or_congr_right ⟨fun hin => hin.1, fun hin => ⟨hin, fun heq => hnewA ?_⟩⟩
      obtain ⟨x, hx, rfl⟩ := mem_map.mp hin
      exact mem_map.mpr ⟨x, hx, heq⟩
    obtain ⟨hret, users', hown', hrecords⟩ := ih slots' (s := s')
      (hsame ▸ hadded.own) (fun b hb => hids b (mem_cons_of_mem a hb))
      (fun b hb => hbreaks b (mem_cons_of_mem a hb))
      (fun b hb => hready _ (hok b (mem_cons_of_mem a hb)))
      (fun b hb => hadded.apids ▸ happs b (mem_cons_of_mem a hb)) hnodup'
      (by
        intro b hb hin
        obtain ⟨x, hx, hxb⟩ := mem_map.mp hin
        rcases (hadded.replaces x).mp hx with rfl | ⟨hx, -⟩
        · exact hnotin (mem_map.mpr ⟨b, hb, hxb.symm.trans holdIds⟩)
        · exact hnew b (mem_cons_of_mem a hb) (mem_map.mpr ⟨x, hx, hxb⟩))
    rw [hloads]
    refine ⟨hret, users', hown', fun record => ?_⟩
    rw [hrecords, hreplaces, map_cons, mem_cons]
    tauto

end contexts

end Dlt.Daemon
