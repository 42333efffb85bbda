import Dlt.Encoder.WriteString

/-!
# The message encoder stays in its buffer

* `StartedMemory` — a message that was started: its buffer has `log_buf_len` bytes. `WriteStep` — a call, with the
  verbose mode at that time.
* `runSafe_iff_runFits` — **a sequence of calls is safe exactly if its strings fit.**
-/

namespace Dlt.Encoder

open Dlt.Lib Dlt.Shared Checked
open Dlt.Log (CString)
open Dlt.User (WriteEnv StringType strTruncatedMessage)

/-! ## What a call may do -/

structure StartedMemory (logBufLen : UInt16) extends LogMemory where
  length_buffer : buffer.length = logBufLen.toNat
  size_le : size ≤ logBufLen.toNat

structure WriteStep where
  /-- `dlt_user_initialised`. -/
  initialised : Bool
  verbose : Bool
  call : WriteCall

/-- What a call reads of the library. -/
def WriteStep.env (logBufLen : UInt16) (step : WriteStep) : WriteEnv where
  initialised := step.initialised
  verbose := step.verbose
  logBufLen := logBufLen

/-- What a call does: it is undefined where a byte outside the buffer is written, or a byte outside the data of the
caller is read. -/
def WriteStep.result (logBufLen : UInt16) (step : WriteStep) (log : LogMemory) :
    Option (Except Empty ℤ × LogMemory) :=
  ((step.call.internal step.verbose).writer (step.env logBufLen)).result log

structure Unchanged (log log' : LogMemory) : Prop where
  size : log'.size = log.size
  argsNum : log'.argsNum = log.argsNum
  bytes : log'.buffer.take log.size = log.buffer.take log.size

/-- The calls that write a string. -/
def Internal.IsString : Internal → Prop
  | sizedStringUtilsAttr .. => True
  | _ => False

/-- A string was cut, and a note says so. -/
structure Truncated (internal : Internal) (r : ℤ) (log log' : LogMemory) : Prop where
  isString : internal.IsString
  result : r = dltReturnUserBufferFull
  argsNum : log'.argsNum = log.argsNum + 1
  bytes : ∃ part, log'.buffer.take log'.size = log.buffer.take log.size ++ (part ++ strTruncatedMessage)

/-- What a call may do. -/
structure StepSafe (logBufLen : UInt16) (internal : Internal) (r : ℤ) (log log' : LogMemory) : Prop where
  size_le : log'.size ≤ logBufLen.toNat
  error : r ≠ dltReturnOk → Unchanged log log' ∨ Truncated internal r log log'

/-- Every call is defined, and does what it may do. -/
def RunSafe (logBufLen : UInt16) : List WriteStep → LogMemory → Prop
  | [], _ => True
  | step :: rest, log => ∃ r log', step.result logBufLen log = some (.ok r, log') ∧
      StepSafe logBufLen (step.call.internal step.verbose) r log log' ∧ RunSafe logBufLen rest log'

/-! ## Strings that fit -/

/-- What is written fits, if it is a string. -/
def Internal.Fits (env : WriteEnv) (log : LogMemory) : Internal → Prop
  | sizedStringUtilsAttr text type name withVarInfo => StringFits env text type name withVarInfo log
  | _ => True

/-- Every string fits the message before it. -/
def RunFits (logBufLen : UInt16) : List WriteStep → LogMemory → Prop
  | [], _ => True
  | step :: rest, log => (step.call.internal step.verbose).Fits (step.env logBufLen) log ∧
      ∀ r log', step.result logBufLen log = some (.ok r, log') → RunFits logBufLen rest log'

/-! ## One call -/

variable {logBufLen : UInt16} {log log' : LogMemory} {bytes : List UInt8} {internal : Internal} {r : ℤ}

theorem Unchanged.refl (log : LogMemory) : Unchanged log log := ⟨rfl, rfl, rfl⟩

/-- What a call leaves: the result, and the message whose buffer has its size. -/
def Leaves (logBufLen : UInt16) (internal : Internal) (x : Writer ℤ) (log : LogMemory) : Prop :=
  ∃ r log', x.result log = some (.ok r, log') ∧ log'.buffer.length = logBufLen.toNat ∧
    StepSafe logBufLen internal r log log'

section step

variable {x : Writer ℤ} (hbuffer : log.buffer.length = logBufLen.toNat) (hsize : log.size ≤ logBufLen.toNat)
include hbuffer

include hsize in
theorem leaves_of_refused (h : x.result log = some (.ok r, log)) : Leaves logBufLen internal x log :=
  ⟨r, log, h, hbuffer, hsize, fun _ => .inl (.refl log)⟩

theorem leaves_of_appended (hroom : log.size + bytes.length ≤ logBufLen.toNat)
    (h : x.result log = some (.ok dltReturnOk, (log.written bytes).counted)) : Leaves logBufLen internal x log := by
  refine ⟨dltReturnOk, _, h, ?_, hroom, fun hne => absurd rfl hne⟩
  exact (length_written (hroom.trans_eq hbuffer.symm)).trans hbuffer

theorem leaves_of_cut (hstring : internal.IsString)
    (hroom : log.size + (bytes ++ strTruncatedMessage).length ≤ logBufLen.toNat)
    (h : x.result log =
      some (.ok dltReturnUserBufferFull, (log.written (bytes ++ strTruncatedMessage)).counted)) :
    Leaves logBufLen internal x log := by
  have hroom' : log.Room (bytes ++ strTruncatedMessage).length := hroom.trans_eq hbuffer.symm
  refine ⟨dltReturnUserBufferFull, _, h, (length_written hroom').trans hbuffer, hroom, fun _ => .inr ?_⟩
  exact ⟨hstring, rfl, rfl, bytes, content_written hroom'⟩

include hsize in
theorem Ends.leaves (h : Ends logBufLen x bytes log) : Leaves logBufLen internal x log := by
  cases h with
  | refused r h => exact leaves_of_refused hbuffer hsize h
  | appended hroom h => exact leaves_of_appended hbuffer hroom h

end step

/-- **A call whose string fits.** -/
theorem leaves_of_fits (env : WriteEnv) (hbuffer : log.buffer.length = env.logBufLen.toNat)
    (hsize : log.size ≤ env.logBufLen.toNat) (internal : Internal) (h : internal.Fits env log) :
    Leaves env.logBufLen internal (internal.writer env) log := by
  cases internal with
  | genericAttr data typeInfo varinfo =>
    exact (dltUserLogWriteGenericAttr_ends env hbuffer data typeInfo varinfo).leaves hbuffer hsize
  | genericFormatted data typeInfo type =>
    exact (dltUserLogWriteGenericFormatted_ends env hbuffer data typeInfo type).leaves hbuffer hsize
  | rawInternal data type name withVarInfo =>
    exact (dltUserLogWriteRawInternal_ends env hbuffer data type name withVarInfo).leaves hbuffer hsize
  | sizedStringUtilsAttr text type name withVarInfo =>
    cases dltUserLogWriteSizedStringUtilsAttr_ends hbuffer h with
    | refused r hresult => exact leaves_of_refused hbuffer hsize hresult
    | whole bytes hroom hresult => exact leaves_of_appended hbuffer hroom hresult
    | cut bytes hroom hresult => exact leaves_of_cut hbuffer trivial hroom hresult
  | skip => exact leaves_of_refused hbuffer hsize rfl

/-- **Any other call is undefined.** -/
theorem result_of_not_fits (env : WriteEnv) (hbuffer : log.buffer.length = env.logBufLen.toNat) (internal : Internal)
    (h : ¬ internal.Fits env log) : (internal.writer env).result log = none := by
  cases internal with
  | genericAttr data typeInfo varinfo => exact absurd trivial h
  | genericFormatted data typeInfo type => exact absurd trivial h
  | rawInternal data type name withVarInfo => exact absurd trivial h
  | sizedStringUtilsAttr text type name withVarInfo =>
    exact dltUserLogWriteSizedStringUtilsAttr_undefined hbuffer h
  | skip => exact absurd trivial h

/-! ## Runs -/

/-- **A sequence of calls is safe exactly if its strings fit.** -/
theorem runSafe_iff_runFits (logBufLen : UInt16) (log : StartedMemory logBufLen) (steps : List WriteStep) :
    RunSafe logBufLen steps log.toLogMemory ↔ RunFits logBufLen steps log.toLogMemory := by
  obtain ⟨log, hbuffer, hsize⟩ := log
  induction steps generalizing log with
  | nil => exact Iff.rfl
  | cons step rest ih =>
    unfold RunSafe RunFits
    dsimp only
    by_cases hfits : (step.call.internal step.verbose).Fits (step.env logBufLen) log
    · obtain ⟨r, log', hresult, hbuffer', hsafe⟩ := leaves_of_fits (step.env logBufLen) hbuffer hsize _ hfits
      have hrest := ih log' hbuffer' hsafe.size_le
      constructor
      · rintro ⟨r₁, log₁, hresult₁, -, hrun⟩
        obtain ⟨rfl, rfl⟩ : r = r₁ ∧ log' = log₁ := by simpa using hresult.symm.trans hresult₁
        refine ⟨hfits, fun r₂ log₂ hresult₂ => ?_⟩
        obtain ⟨rfl, rfl⟩ : r = r₂ ∧ log' = log₂ := by simpa using hresult.symm.trans hresult₂
        exact hrest.mp hrun
      · rintro ⟨-, hrun⟩
        exact ⟨r, log', hresult, hsafe, hrest.mpr (hrun r log' hresult)⟩
    · have hnone : step.result logBufLen log = none := result_of_not_fits (step.env logBufLen) hbuffer _ hfits
      rw [hnone]
      exact ⟨fun ⟨_, _, h, _⟩ => absurd h nofun, fun ⟨h, _⟩ => absurd h hfits⟩

/-- The string of `65535` bytes: its length with the zero is cut to `0`, and it is written behind the buffer. -/
theorem string_of_65535_bytes_leaves_buffer :
    ¬ ∀ (logBufLen : UInt16) (log : StartedMemory logBufLen) (steps : List WriteStep),
      RunSafe logBufLen steps log.toLogMemory := by
  intro h
  let log : StartedMemory 1390 :=
    { buffer := List.replicate 1390 0, size := 0, argsNum := 0, length_buffer := List.length_replicate
      size_le := Nat.zero_le _ }
  let text : CallerData :=
    { bytes := some (List.replicate 65535 97), length := 65535
      length_le := fun b hb => by
        obtain rfl := Option.some.inj hb
        exact List.length_replicate.ge }
  let step : WriteStep := { initialised := true, verbose := true, call := .sizedString text }
  obtain ⟨r, log', hresult, -⟩ := h 1390 log [step]
  have hnone : step.result 1390 log.toLogMemory = none := by
    refine result_of_not_fits (step.env 1390) log.length_buffer _ fun hfits => ?_
    refine (hfits rfl _ rfl).1 ?_ rfl
    change 0 + (UInt16.toNat 65535 + 1) % 65536 + 2 + 4 ≤ UInt16.toNat 1390
    decide
  rw [hnone] at hresult
  exact absurd hresult nofun

end Dlt.Encoder
