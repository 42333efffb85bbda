import Dlt.Lib.Runs
import Dlt.User.OfflineFiles

/-!
# What the log files of an application hold

* `intact` — **no message is overwritten or torn**.
-/

namespace Dlt.User

open Dlt.Lib List Directory

variable {p : Logger}

/-! ## Processes -/

/-- A process, and the files that it began, the last one first, with the messages that were written to each. -/
structure LogWriter where
  logger : Logger
  story : List (ℕ × List (List UInt8))
deriving DecidableEq

open LogWriter

/-- A directory and the processes that log to it. -/
structure LogHost where
  files : LogFiles
  writers : List LogWriter
deriving DecidableEq

inductive HostOp
  | begin (k : ℕ) (sys : LogSystem) (data1 data2 : Option (List UInt8))
  | step (k : ℕ) (sys : LogSystem)

def messageBytes (data1 data2 : Option (List UInt8)) : List UInt8 := data1.getD [] ++ data2.getD []

/-- A message more in the last file. -/
def addMessage (message : List UInt8) : List (ℕ × List (List UInt8)) → List (ℕ × List (List UInt8))
  | [] => []
  | e :: rest => (e.1, e.2 ++ [message]) :: rest

/-- What is told of a step: a file is begun when it is opened, and a message is in it when its call has ended. -/
def LogWriter.told (w : LogWriter) (next : Logger) : List (ℕ × List (List UInt8)) :=
  match w.logger.phase, next.dltFileHandle with
  | .opening _ _, some handle => (handle.i, []) :: w.story
  | .write2 data1 data2, _ =>
    if next.phase = .idle then addMessage (messageBytes data1 data2) w.story else w.story
  | _, _ => w.story

/-- A process goes on. -/
def LogWriter.next (sys : LogSystem) (files : LogFiles) (w : LogWriter) : LogWriter :=
  ⟨(w.logger.step sys files).2, w.told (w.logger.step sys files).2⟩

/-- One step. A process begins a call when it is not in one. -/
def LogHost.step (s : LogHost) : HostOp → LogHost
  | .begin k sys data1 data2 =>
    { s with writers := s.writers.modify k fun w =>
        if w.logger.phase = .idle then { w with logger := w.logger.begin sys s.files (.write data1 data2) } else w }
  | .step k sys =>
    match s.writers[k]? with
    | none => s
    | some w => ⟨(w.logger.step sys s.files).1, s.writers.set k (w.next sys s.files)⟩

/-- **Every message is stored**, as a whole and in the order of the calls, and no process has crashed. -/
def Intact (s : LogHost) : Prop :=
  ∀ w ∈ s.writers, w.logger.phase ≠ .crashed ∧ (w.story.map Prod.fst).Pairwise (· > ·) ∧
    ∀ e ∈ w.story, ∃ content, s.files.contentAt e.1 = some content ∧ e.2.flatten <+: content

/-- Two processes have no file in common. -/
def Apart (w w' : LogWriter) : Prop := ∀ e ∈ w.story, ∀ e' ∈ w'.story, e.1 ≠ e'.1

/-- A process has begun an empty file. -/
def LogWriter.Start (files : LogFiles) (w : LogWriter) : Prop :=
  w.logger.phase = .idle ∧ ∃ handle, w.logger.dltFileHandle = some handle ∧ handle.off = 0 ∧
    w.story = [(handle.i, [])] ∧ files.contentAt handle.i = some []

/-- Every process has begun an empty file of its own. -/
def LogHost.Start (s : LogHost) : Prop :=
  (∀ w ∈ s.writers, w.Start s.files) ∧
    ∀ (j k : ℕ) (w w' : LogWriter), s.writers[j]? = some w → s.writers[k]? = some w' → j ≠ k → Apart w w'

def WritesWhole (sys : LogSystem) (data : Option (List UInt8)) : Prop :=
  ∀ bytes, data = some bytes → (bytes.length : ℤ) ≤ sys.writes

/-- A step of a process that does no harm. -/
def SafeStep (sys : LogSystem) (files : LogFiles) (p : Logger) : Prop :=
  match p.phase with
  | .opening _ name => sys.opens = true ∧ files.has name = false
  | .write1 data1 _ => WritesWhole sys data1
  | .write2 _ data2 => WritesWhole sys data2
  | _ => True

/-- **A step that does no harm**: a file is opened under a name that is not used, and a buffer is written as a
whole. -/
def SafeHostOp (s : LogHost) : HostOp → Prop
  | .begin _ _ _ _ => True
  | .step k sys => ∀ w, s.writers[k]? = some w → SafeStep sys s.files w.logger

/-! ## What holds of a process -/

/-- What the call that a process is in has written. -/
def LogPhase.written : LogPhase → List UInt8
  | .write2 data1 _ => data1.getD []
  | _ => []

/-- The file that is open ends at the offset, with the messages that were written and what the call has written. -/
structure Current (files : LogFiles) (p : Logger) (handle : OpenFile) (messages : List (List UInt8)) : Prop where
  opened : p.dltFileHandle = some handle
  content : files.contentAt handle.i = some (messages.flatten ++ p.phase.written)
  off : handle.off = (messages.flatten ++ p.phase.written).length
  /-- No null pointer was dereferenced. -/
  running : p.phase ≠ .crashed

/-- What holds of a process. -/
structure WriterOk (files : LogFiles) (w : LogWriter) : Prop where
  /-- The file that is open is the last one. -/
  current : ∃ handle messages rest, w.story = (handle.i, messages) :: rest ∧ Current files w.logger handle messages
  order : (w.story.map Prod.fst).Pairwise (· > ·)
  stored : ∀ e ∈ w.story, ∃ content, files.contentAt e.1 = some content ∧ e.2.flatten <+: content

section writer

variable {files files' : LogFiles} {w : LogWriter} {sys : LogSystem}

theorem lt_of_contentAt {i : ℕ} {content : List UInt8} (h : files.contentAt i = some content) : i < files.length := by
  obtain ⟨f, hf, -⟩ := Option.map_eq_some_iff.mp h
  exact (List.getElem?_eq_some_iff.mp hf).1

/-- **A process does not see what happens to other files.** -/
theorem WriterOk.frame (h : WriterOk files w)
    (hsame : ∀ e ∈ w.story, files'.contentAt e.1 = files.contentAt e.1) : WriterOk files' w := by
  obtain ⟨⟨handle, messages, rest, hstory, hcurrent⟩, horder, hstored⟩ := h
  refine ⟨⟨handle, messages, rest, hstory, hcurrent.opened, ?_, hcurrent.off, hcurrent.running⟩, horder, ?_⟩
  · rw [hsame (handle.i, messages) (by rw [hstory]; exact mem_cons_self)]
    exact hcurrent.content
  · intro e he
    rw [hsame e he]
    exact hstored e he

theorem WriterOk.setLogger (h : WriterOk files w) (hhandle : p.dltFileHandle = w.logger.dltFileHandle)
    (hwritten : p.phase.written = w.logger.phase.written) (hrunning : p.phase ≠ .crashed) :
    WriterOk files { w with logger := p } := by
  obtain ⟨⟨handle, messages, rest, hstory, hcurrent⟩, horder, hstored⟩ := h
  refine ⟨⟨handle, messages, rest, hstory, hhandle.trans hcurrent.opened, ?_, ?_, hrunning⟩, horder, hstored⟩
  · rw [hwritten]
    exact hcurrent.content
  · rw [hwritten]
    exact hcurrent.off

theorem WriterOk.begin (h : WriterOk files w) (hidle : w.logger.phase = .idle) (data1 data2 : Option (List UInt8)) :
    WriterOk files { w with logger := w.logger.begin sys files (.write data1 data2) } := by
  have hwritten : w.logger.phase.written = [] := by rw [hidle]; rfl
  unfold Logger.begin
  dsimp only
  cases hhandle : w.logger.dltFileHandle with
  | none => exact h.setLogger rfl hwritten.symm LogPhase.noConfusion
  | some handle =>
    dsimp only
    split_ifs
    · exact h.setLogger rfl hwritten.symm LogPhase.noConfusion
    · exact h.setLogger hhandle.symm hwritten.symm LogPhase.noConfusion

/-- What a step of a process does. -/
structure Goes (files files' : LogFiles) (w w' : LogWriter) : Prop where
  ok : WriterOk files' w'
  others : ∀ i < files.length, (∀ e ∈ w.story, e.1 ≠ i) → files'.contentAt i = files.contentAt i
  /-- Its files are those that it had, and new ones. -/
  story : ∀ e ∈ w'.story, (∃ e' ∈ w.story, e'.1 = e.1) ∨ files.length ≤ e.1

theorem WriterOk.goes (h : WriterOk files w) (hhandle : p.dltFileHandle = w.logger.dltFileHandle)
    (hwritten : p.phase.written = w.logger.phase.written) (hrunning : p.phase ≠ .crashed)
    (hsame : ∀ i, files'.contentAt i = files.contentAt i) : Goes files files' w { w with logger := p } := by
  have hok := h.setLogger hhandle hwritten hrunning
  exact ⟨hok.frame fun e _ => hsame e.1, fun i _ _ => hsame i, fun e he => .inl ⟨e, he, rfl⟩⟩

/-- **A buffer is written** behind what the file holds. -/
theorem Current.writeBuffer (next : Logger) {handle : OpenFile} {messages : List (List UInt8)}
    (h : Current files p handle messages) {data : Option (List UInt8)} (hwhole : WritesWhole sys data)
    (hnext : next.dltFileHandle = p.dltFileHandle) :
    ∃ handle', handle'.i = handle.i ∧ handle'.off = handle.off + (data.getD []).length ∧
      (p.writeBuffer sys files data next).2 = { next with dltFileHandle := some handle' } ∧
        (p.writeBuffer sys files data next).1.contentAt handle.i =
          some (messages.flatten ++ p.phase.written ++ data.getD []) ∧
          ∀ i, handle.i ≠ i → (p.writeBuffer sys files data next).1.contentAt i = files.contentAt i := by
  unfold Logger.writeBuffer
  cases data with
  | none =>
    refine ⟨handle, rfl, rfl, ?_, ?_, fun _ _ => rfl⟩
    · rw [← h.opened, ← hnext]
    · rw [Option.getD_none, append_nil]
      exact h.content
  | some bytes =>
    have htaken : Logger.taken sys bytes = bytes := by
      have hle := hwhole bytes rfl
      unfold Logger.taken
      exact take_of_length_le (by omega)
    rw [h.opened]
    dsimp only
    rw [htaken]
    refine ⟨⟨handle.i, handle.off + bytes.length, _⟩, rfl, rfl, rfl, ?_, ?_⟩
    · rw [h.off]
      exact contentAt_write_end h.content sys.now bytes
    · exact fun i hi => contentAt_write_of_ne hi sys.now bytes

/-- **A file is opened** under a name that is not used. -/
theorem WriterOk.opening (h : WriterOk files w) {call : LogCall} {name : List UInt8}
    (hphase : w.logger.phase = .opening call name) (hopens : sys.opens = true) (hfree : files.has name = false) :
    Goes files (w.logger.step sys files).1 w (w.next sys files) := by
  have heq := openCreate_of_not sys.now hfree
  have hstep : ∃ p, w.logger.step sys files = ((files.openCreate sys.now name).1, p) ∧
      (∃ size, p.dltFileHandle = some ⟨files.length, 0, size⟩) ∧ p.phase.written = [] ∧ p.phase ≠ .crashed := by
    unfold Logger.step
    rw [hphase]
    dsimp only
    unfold Logger.openFile
    rw [if_pos hopens]
    refine ⟨_, rfl, ?_, ?_, ?_⟩
    · unfold Logger.openedNext
      rw [heq]
      split_ifs <;> exact ⟨_, rfl⟩
    · unfold Logger.openedNext
      split_ifs <;> rfl
    · unfold Logger.openedNext
      split_ifs <;> exact LogPhase.noConfusion
  obtain ⟨p, hp, ⟨size, hhandle⟩, hwritten, hrunning⟩ := hstep
  have hsame : ∀ i < files.length, (files.openCreate sys.now name).1.contentAt i = files.contentAt i :=
    fun i hi => contentAt_openCreate files sys.now name hi
  have htold : w.told p = (files.length, []) :: w.story := by
    unfold told
    rw [hphase, hhandle]
  have hnew : (files.openCreate sys.now name).1.contentAt files.length = some [] := by
    rw [heq]
    unfold contentAt
    rw [getElem?_concat_length]
    rfl
  have hlt : ∀ e ∈ w.story, e.1 < files.length := by
    intro e he
    obtain ⟨content, hcontent, -⟩ := h.stored e he
    exact lt_of_contentAt hcontent
  unfold LogWriter.next
  rw [hp]
  dsimp only
  rw [htold]
  refine ⟨⟨⟨⟨files.length, 0, size⟩, [], w.story, rfl, hhandle, ?_, ?_, hrunning⟩, ?_, ?_⟩, ?_, ?_⟩
  · dsimp only
    rw [hwritten]
    exact hnew
  · dsimp only
    rw [hwritten]
    rfl
  · rw [map_cons, pairwise_cons]
    refine ⟨?_, h.order⟩
    intro i hi
    obtain ⟨e, he, rfl⟩ := mem_map.mp hi
    exact hlt e he
  · intro e he
    rcases mem_cons.mp he with rfl | he
    · exact ⟨[], hnew, prefix_refl _⟩
    · rw [hsame e.1 (hlt e he)]
      exact h.stored e he
  · exact fun i hi _ => hsame i hi
  · intro e he
    rcases mem_cons.mp he with rfl | he
    · exact .inr (Nat.le_refl _)
    · exact .inl ⟨e, he, rfl⟩

/-- **A buffer is written**, and what is told of the last file agrees with it. -/
theorem WriterOk.wrote (h : WriterOk files w) {data : Option (List UInt8)} {next : Logger}
    (hstep : w.logger.step sys files = w.logger.writeBuffer sys files data next) (hwhole : WritesWhole sys data)
    (hnext : next.dltFileHandle = w.logger.dltFileHandle) (hrunning : next.phase ≠ .crashed)
    (htold : ∀ handle messages rest, w.story = (handle, messages) :: rest → ∃ messages',
      (∀ p : Logger, p.phase = next.phase → w.told p = (handle, messages') :: rest) ∧
        messages'.flatten ++ next.phase.written = messages.flatten ++ w.logger.phase.written ++ data.getD []) :
    Goes files (w.logger.step sys files).1 w (w.next sys files) := by
  obtain ⟨⟨handle, messages, rest, hstory, hcurrent⟩, horder, hstored⟩ := h
  obtain ⟨handle', hi, hoff, hp, hcontent, hothers⟩ := hcurrent.writeBuffer next hwhole hnext
  obtain ⟨messages', htold, hbytes⟩ := htold _ _ _ hstory
  have hkeys : (((handle.i, messages') :: rest).map Prod.fst) = w.story.map Prod.fst := by rw [hstory]; rfl
  have hrest : ∀ e ∈ rest, handle.i ≠ e.1 := by
    intro e he
    rw [hstory, map_cons, pairwise_cons] at horder
    exact (horder.1 e.1 (mem_map_of_mem he)).ne'
  have hwriter : w.next sys files = ⟨{ next with dltFileHandle := some handle' }, (handle.i, messages') :: rest⟩ := by
    have hlast := htold { next with dltFileHandle := some handle' } rfl
    unfold LogWriter.next
    rw [hstep, hp, hlast]
  rw [hwriter, hstep]
  refine ⟨⟨⟨handle', messages', rest, by rw [hi], rfl, ?_, ?_, hrunning⟩, hkeys ▸ horder, ?_⟩, ?_, ?_⟩
  · rw [hi, hbytes]
    exact hcontent
  · dsimp only
    rw [hoff, hcurrent.off, hbytes]
    simp only [length_append]
  · intro e he
    rcases mem_cons.mp he with rfl | he
    · refine ⟨_, hcontent, ?_⟩
      rw [← hbytes]
      exact prefix_append _ _
    · rw [hothers e.1 (hrest e he)]
      exact hstored e (by rw [hstory]; exact mem_cons_of_mem _ he)
  · intro i _ hi
    exact hothers i (hi (handle.i, messages) (by rw [hstory]; exact mem_cons_self))
  · intro e he
    refine .inl ?_
    rcases mem_cons.mp he with rfl | he
    · exact ⟨(handle.i, messages), by rw [hstory]; exact mem_cons_self, rfl⟩
    · exact ⟨e, by rw [hstory]; exact mem_cons_of_mem _ he, rfl⟩

/-- **A process goes on**, and does no harm to others. -/
theorem WriterOk.step (h : WriterOk files w) (hsafe : SafeStep sys files w.logger) :
    Goes files (w.logger.step sys files).1 w (w.next sys files) := by
  unfold SafeStep at hsafe
  cases hphase : w.logger.phase with
  | idle =>
    have hstep : w.logger.step sys files = (files, w.logger) := by
      unfold Logger.step
      rw [hphase]
    have hnext : w.next sys files = { w with logger := w.logger } := by
      unfold LogWriter.next told
      rw [hstep, hphase]
    rw [hnext, hstep]
    exact h.goes rfl rfl (by rw [hphase]; exact LogPhase.noConfusion) fun _ => rfl
  | crashed =>
    obtain ⟨handle, messages, rest, -, hcurrent⟩ := h.current
    exact absurd hphase hcurrent.running
  | pop call =>
    have hnext : w.next sys files = { w with logger := (w.logger.step sys files).2 } := by
      unfold LogWriter.next told
      rw [hphase]
    rw [hnext]
    unfold Logger.step
    rw [hphase]
    dsimp only
    have hwritten : w.logger.phase.written = [] := by rw [hphase]; rfl
    cases hremoval : w.logger.nextRemoval with
    | some name =>
      dsimp only
      refine h.goes rfl hwritten.symm LogPhase.noConfusion ?_
      intro i
      split_ifs
      · exact contentAt_unlink files name i
      · rfl
    | none =>
      dsimp only
      cases call with
      | init => exact h.goes rfl hwritten.symm LogPhase.noConfusion fun _ => rfl
      | write data1 data2 => exact h.goes rfl hwritten.symm LogPhase.noConfusion fun _ => rfl
  | access call stamp name index =>
    have hnext : w.next sys files = { w with logger := (w.logger.step sys files).2 } := by
      unfold LogWriter.next told
      rw [hphase]
    have hwritten : w.logger.phase.written = [] := by rw [hphase]; rfl
    rw [hnext]
    unfold Logger.step
    rw [hphase]
    dsimp only
    split_ifs
    · exact h.goes rfl hwritten.symm LogPhase.noConfusion fun _ => rfl
    · exact h.goes rfl hwritten.symm LogPhase.noConfusion fun _ => rfl
  | opening call name =>
    rw [hphase] at hsafe
    exact h.opening hphase hsafe.1 hsafe.2
  | write1 data1 data2 =>
    rw [hphase] at hsafe
    have hstep : w.logger.step sys files =
        w.logger.writeBuffer sys files data1 { w.logger with phase := .write2 data1 data2 } := by
      unfold Logger.step
      rw [hphase]
    refine h.wrote hstep hsafe rfl LogPhase.noConfusion ?_
    intro handle messages rest hstory
    refine ⟨messages, fun p hp => ?_, ?_⟩
    · unfold told
      rw [hphase]
      exact hstory
    · have hwritten : w.logger.phase.written = [] := by rw [hphase]; rfl
      rw [hwritten, append_nil]
      rfl
  | write2 data1 data2 =>
    rw [hphase] at hsafe
    have hstep : w.logger.step sys files = w.logger.writeBuffer sys files data2 (w.logger.done 1) := by
      unfold Logger.step
      rw [hphase]
    refine h.wrote hstep hsafe rfl LogPhase.noConfusion ?_
    intro handle messages rest hstory
    refine ⟨messages ++ [messageBytes data1 data2], fun p hp => ?_, ?_⟩
    · unfold told
      have hidle : p.phase = .idle := hp
      rw [hphase]
      dsimp only
      rw [if_pos hidle, hstory]
      rfl
    · have hwritten : w.logger.phase.written = data1.getD [] := by rw [hphase]; rfl
      have hidle : (w.logger.done 1).phase.written = [] := rfl
      rw [hwritten, hidle, append_nil, flatten_append, append_assoc]
      exact congrArg (messages.flatten ++ ·) (append_nil _)

end writer

/-! ## Runs -/

/-- What holds of all processes. -/
structure HostOk (s : LogHost) : Prop where
  writers : ∀ w ∈ s.writers, WriterOk s.files w
  /-- No two have a file in common. -/
  apart : ∀ (j k : ℕ) (w w' : LogWriter), s.writers[j]? = some w → s.writers[k]? = some w' → j ≠ k → Apart w w'

section runs

variable {s : LogHost}

theorem HostOk.storesAll (h : HostOk s) : Intact s := by
  intro w hw
  obtain ⟨⟨handle, messages, rest, -, hcurrent⟩, horder, hstored⟩ := h.writers w hw
  exact ⟨hcurrent.running, horder, hstored⟩

theorem HostOk.begin {k : ℕ} {sys : LogSystem} {data1 data2 : Option (List UInt8)} (h : HostOk s) :
    HostOk (s.step (.begin k sys data1 data2)) := by
  have hget : ∀ (j : ℕ) (w : LogWriter), (s.step (.begin k sys data1 data2)).writers[j]? = some w →
      ∃ v : LogWriter, s.writers[j]? = some v ∧ w.story = v.story ∧ WriterOk s.files w := by
    intro j w hw
    unfold LogHost.step at hw
    dsimp only at hw
    rw [getElem?_modify] at hw
    obtain ⟨v, hv, rfl⟩ := Option.map_eq_some_iff.mp hw
    have hok := h.writers v (mem_of_getElem? hv)
    refine ⟨v, hv, ?_⟩
    split_ifs with hk hidle
    · exact ⟨rfl, hok.begin hidle data1 data2⟩
    · exact ⟨rfl, hok⟩
    · exact ⟨rfl, hok⟩
  constructor
  · intro w hw
    obtain ⟨j, hj⟩ := mem_iff_getElem?.mp hw
    obtain ⟨v, -, -, hok⟩ := hget j w hj
    exact hok
  · intro i j w w' hw hw' hij
    obtain ⟨v, hv, hstory, -⟩ := hget i w hw
    obtain ⟨v', hv', hstory', -⟩ := hget j w' hw'
    have hapart := h.apart i j v v' hv hv' hij
    unfold Apart
    rw [hstory, hstory']
    exact hapart

/-- **A process goes on.** -/
theorem HostOk.step {k : ℕ} {sys : LogSystem} (h : HostOk s) (hsafe : SafeHostOp s (.step k sys)) :
    HostOk (s.step (.step k sys)) := by
  unfold LogHost.step
  dsimp only
  cases hk : s.writers[k]? with
  | none => exact h
  | some w =>
    have hgoes := (h.writers w (mem_of_getElem? hk)).step (hsafe w hk)
    have hlt : ∀ (j : ℕ) (v : LogWriter), s.writers[j]? = some v → ∀ e ∈ v.story, e.1 < s.files.length := by
      intro j v hv e he
      obtain ⟨content, hcontent, -⟩ := (h.writers v (mem_of_getElem? hv)).stored e he
      exact lt_of_contentAt hcontent
    -- a file of the process that goes on is an old one of its own, or one that no other process has
    have hnew : ∀ (j : ℕ) (v : LogWriter), s.writers[j]? = some v → k ≠ j → Apart (w.next sys s.files) v := by
      intro j v hv hkj e he e' he'
      rcases hgoes.story e he with ⟨e0, he0, heq⟩ | hle
      · rw [← heq]
        exact h.apart k j w v hk hv hkj e0 he0 e' he'
      · have hlt' := hlt j v hv e' he'
        omega
    have hget : ∀ (j : ℕ) (v : LogWriter), (s.writers.set k (w.next sys s.files))[j]? = some v →
        k = j ∧ v = w.next sys s.files ∨ k ≠ j ∧ s.writers[j]? = some v := by
      intro j v hv
      rw [getElem?_set] at hv
      split_ifs at hv with hkj hlen
      · exact .inl ⟨hkj, (Option.some.inj hv).symm⟩
      · exact .inr ⟨hkj, hv⟩
    constructor
    · intro v hv
      obtain ⟨j, hj⟩ := mem_iff_getElem?.mp hv
      rcases hget j v hj with ⟨-, rfl⟩ | ⟨hkj, hold⟩
      · exact hgoes.ok
      · refine (h.writers v (mem_of_getElem? hold)).frame ?_
        intro e he
        refine hgoes.others e.1 (hlt j v hold e he) ?_
        intro e0 he0
        exact h.apart k j w v hk hold hkj e0 he0 e he
    · intro i j v v' hv hv' hij
      rcases hget i v hv with ⟨rfl, rfl⟩ | ⟨hki, hold⟩
      · rcases hget j v' hv' with ⟨rfl, -⟩ | ⟨hkj, hold'⟩
        · exact absurd rfl hij
        · exact hnew j v' hold' hkj
      · rcases hget j v' hv' with ⟨rfl, rfl⟩ | ⟨-, hold'⟩
        · intro e he e' he'
          exact (hnew i v hold hki e' he' e he).symm
        · exact h.apart i j v v' hold hold' hij

/-- **No message is overwritten or torn**, and no null pointer is dereferenced, in every run whose steps do no
harm: whatever the sizes of the messages and of the files, and in whatever order the processes take their steps. -/
theorem intact (hreach : Reach LogHost.Start LogHost.step SafeHostOp s) : Intact s := by
  apply HostOk.storesAll
  refine hreach.invariant ?_ ?_
  · rintro s ⟨hwriters, hapart⟩
    refine ⟨?_, hapart⟩
    intro w hw
    obtain ⟨hidle, handle, hhandle, hoff, hstory, hcontent⟩ := hwriters w hw
    have hwritten : w.logger.phase.written = [] := by rw [hidle]; rfl
    refine ⟨⟨handle, [], [], hstory, hhandle, ?_, ?_, ?_⟩, ?_, ?_⟩
    · rw [hwritten]
      exact hcontent
    · rw [hwritten]
      exact hoff
    · rw [hidle]
      exact LogPhase.noConfusion
    · rw [hstory]
      exact pairwise_singleton _ _
    · rw [hstory]
      intro e he
      obtain rfl := mem_singleton.mp he
      exact ⟨[], hcontent, prefix_refl _⟩
  · intro s op h hsafe
    cases op with
    | begin k sys data1 data2 => exact h.begin
    | step k sys => exact h.step hsafe

/-- A host with one process, which has begun its first file. -/
def oneWriter : LogHost :=
  ⟨[⟨ascii "A20200101-000000.dlt", true, [], 1000⟩],
    [⟨⟨ascii "A", 2, 0, [ascii "A20200101-000000.dlt"], some ⟨0, 0, 0⟩, .idle, 0⟩, [(0, [])]⟩]⟩

theorem start_oneWriter : oneWriter.Start := by
  constructor
  · intro w hw
    obtain rfl := mem_singleton.mp hw
    exact ⟨rfl, ⟨0, 0, 0⟩, rfl, rfl, rfl, rfl⟩
  · intro j k w w' hj hk hjk
    have hj0 := (List.getElem?_eq_some_iff.mp hj).1
    have hk0 := (List.getElem?_eq_some_iff.mp hk).1
    have hlen : oneWriter.writers.length = 1 := rfl
    omega

/-- All operations succeed, at one second. -/
def calmHostSystem : LogSystem := ⟨1000, ascii "20200101-000000", true, true, true, true, 1000000⟩

instance (sys : LogSystem) (data : Option (List UInt8)) : Decidable (WritesWhole sys data) :=
  inferInstanceAs (Decidable (∀ bytes ∈ data, _))

instance (sys : LogSystem) (files : LogFiles) : (p : Logger) → Decidable (SafeStep sys files p)
  | ⟨_, _, _, _, _, .opening _ _, _⟩ => inferInstanceAs (Decidable (_ ∧ _))
  | ⟨_, _, _, _, _, .write1 data _, _⟩ => inferInstanceAs (Decidable (WritesWhole sys data))
  | ⟨_, _, _, _, _, .write2 _ data, _⟩ => inferInstanceAs (Decidable (WritesWhole sys data))
  | ⟨_, _, _, _, _, .idle, _⟩ | ⟨_, _, _, _, _, .pop _, _⟩ | ⟨_, _, _, _, _, .access .., _⟩
  | ⟨_, _, _, _, _, .crashed, _⟩ => isTrue trivial

instance (s : LogHost) : (op : HostOp) → Decidable (SafeHostOp s op)
  | .begin _ _ _ _ => isTrue trivial
  | .step k _ => inferInstanceAs (Decidable (∀ w ∈ s.writers[k]?, _))

/-- Two messages are written; with the second one the file is changed. -/
theorem intact_sample : Intact
    (([.begin 0 calmHostSystem (some [1]) (some [2]), .begin 0 calmHostSystem (some [3]) none].flatMap
      (· :: List.replicate 8 (.step 0 calmHostSystem))).foldl LogHost.step oneWriter) :=
  intact (.run (.start start_oneWriter) (by decide +kernel))

/-- The next file cannot be opened: a null pointer is dereferenced. -/
theorem crashes_when_open_fails :
    let failing : LogSystem := { calmHostSystem with opens := false }
    oneWriter.Start ∧
      ¬ Intact ([.begin 0 calmHostSystem (some [1]) (some [2]), .step 0 calmHostSystem, .step 0 calmHostSystem,
        .begin 0 calmHostSystem (some [3]) (some [4]), .step 0 calmHostSystem, .step 0 calmHostSystem, .step 0 failing,
        .step 0 calmHostSystem, .step 0 calmHostSystem].foldl LogHost.step oneWriter) := by
  refine ⟨start_oneWriter, ?_⟩
  intro h
  have hlast := h _ (mem_of_getElem? (i := 0) rfl)
  exact hlast.1 (by decide +kernel)

end runs

end Dlt.User
