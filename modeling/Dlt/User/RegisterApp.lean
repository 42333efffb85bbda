import Dlt.Contexts.ContextTable
import Dlt.Log.LogStream
import Dlt.User.SendLogDaemon

/-!
# Registering the application: `dlt_register_app`

* `keepsId_iff` — **after a call the id is that of the call**, unless its id is shorter and begins the present one.
  `registerApps_keepsId_iff` — for every sequence of calls.
-/

namespace Dlt.User

open Dlt.Lib Dlt.Shared List
open Dlt.Contexts (descriptionOf)
open Dlt.Log (dltReturnLoggingDisabled)
open Dlt.Daemon (userHeaderPattern registerApplicationLayout)

/-! ## Data -/

/-- `DLT_USER_MESSAGE_REGISTER_APPLICATION`. Source: `dlt_user_shared_cfg.h` -/
def dltUserMessageRegisterApplication : ℕ := 2

/-- What the functions read and change of the library. Source: `dlt_user.h`, `DltUser` -/
structure AppUser where
  /-- `dlt_user_initialised`. -/
  initialised : Bool
  appID : Id4
  /-- It is written by `dlt_set_id`. -/
  canonical : appID.Canonical
  applicationDescription : Option (List UInt8)
  /-- `dlt_is_daemon`: the messages go to the daemon. -/
  dltIsDaemon : Bool
  buffers : DltUserBuffers

/-- What becomes of `dlt_init`: the step that fails, if one does, and the buffers and the connection that are set
up. -/
inductive InitOutcome
  | disabled
  /-- `sem_init` fails. -/
  | noSemaphore
  /-- `dlt_init_common` fails behind the ids. -/
  | noMemory
  /-- The pipe cannot be set up. -/
  | noConnection (buffers : DltUserBuffers)
  /-- The receiver or the threads cannot be set up. -/
  | noThreads (buffers : DltUserBuffers)
  | started (buffers : DltUserBuffers)

/-- A call of `dlt_register_app`, and what the system does during it. -/
structure RegisterCall where
  /-- `g_dlt_is_child`. -/
  isChild : Bool
  /-- What becomes of `dlt_init`. -/
  init : InitOutcome
  /-- The string at `apid`. -/
  apid : Option (List UInt8)
  /-- The string at `description`. -/
  description : Option (List UInt8)
  hasMemory : Bool
  pid : Int32
  /-- The memory of the startup buffer. -/
  malloc : Malloc
  write : WriteOutcome
  /-- What becomes of writing the stored messages. -/
  resends : ℕ → WriteOutcome

/-- What a call gives: the state, its result, and the bytes it handed to `dlt_user_log_out3`. -/
structure RegisterResult where
  user : AppUser
  ret : ℤ
  writes : List (List UInt8)

/-! ## The functions -/

/-- The ids and the description are reset. Source: `dlt_user.c`, `dlt_init_common` -/
def AppUser.reset (user : AppUser) : AppUser :=
  { user with appID := dltSetId [], canonical := canonical_dltSetId_nil, applicationDescription := none }

/-- Source: `dlt_init` -/
def dltInit (outcome : InitOutcome) (user : AppUser) : AppUser × ℤ :=
  match outcome with
  | .disabled => ({ user with initialised := true }, dltReturnLoggingDisabled)
  | .noSemaphore => ({ user with initialised := false }, dltReturnError)
  | .noMemory => ({ user.reset with initialised := false }, dltReturnError)
  | .noConnection buffers => ({ user.reset with initialised := true, dltIsDaemon := true, buffers }, dltReturnError)
  | .noThreads buffers => ({ user.reset with initialised := false, dltIsDaemon := true, buffers }, dltReturnError)
  | .started buffers => ({ user.reset with initialised := true, dltIsDaemon := true, buffers }, dltReturnOk)

/-- The test for the present id. Source: `dlt_register_app` -/
def alreadyRegistered (apid : List UInt8) (appID : Id4) : Bool :=
  if apid.getD 1 0 = 0 then apid.getD 0 0 = appID.bytes.getD 0 0
  else if apid.getD 2 0 = 0 then apid.getD 0 0 = appID.bytes.getD 0 0 && apid.getD 1 0 = appID.bytes.getD 1 0
  else if apid.getD 3 0 = 0 then
    apid.getD 0 0 = appID.bytes.getD 0 0 && apid.getD 1 0 = appID.bytes.getD 1 0 &&
      apid.getD 2 0 = appID.bytes.getD 2 0
  else
    apid.getD 0 0 = appID.bytes.getD 0 0 && apid.getD 1 0 = appID.bytes.getD 1 0 &&
      apid.getD 2 0 = appID.bytes.getD 2 0 && apid.getD 3 0 = appID.bytes.getD 3 0

/-- Source: `dlt_user_log_send_register_application` -/
def dltUserLogSendRegisterApplication (call : RegisterCall) (user : AppUser) : RegisterResult :=
  if user.appID.isEmpty then { user, ret := dltReturnError, writes := [] }
  else
    let userheader := userHeaderPattern ++ leBytes 4 dltUserMessageRegisterApplication
    let description := descriptionOf user.applicationDescription
    let usercontext := registerApplicationLayout.encode
      { apid := dltSetId user.appID.bytes, pid := call.pid, descriptionLength := description.1 }
    if ¬ user.dltIsDaemon then { user, ret := dltReturnOk, writes := [] }
    else
      let ret := dltUserLogOut3 user.buffers.connected call.write
      let writes := [userheader ++ usercontext ++ description.2]
      if ret < dltReturnOk then
        let handled := dltUserLogOutErrorHandling call.malloc user.buffers.startupBuffer userheader usercontext
          description.2
        { user := { user with buffers := { user.buffers with startupBuffer := handled.1 } }, ret := handled.2, writes }
      else { user, ret := dltReturnOk, writes }

/-- The id and the description are stored, `none` where there is no memory for the description.
Source: `dlt_register_app` -/
def storeApplication (call : RegisterCall) (apid : List UInt8) (user : AppUser) : AppUser × Bool :=
  let user := { user with appID := dltSetId apid, canonical := canonical_dltSetId _, applicationDescription := none }
  match call.description with
  | none => (user, true)
  | some description =>
      if call.hasMemory then ({ user with applicationDescription := some description }, true) else (user, false)

/-- The registration is sent, and then the stored messages. Source: `dlt_register_app` -/
def sendApplication (call : RegisterCall) (user : AppUser) : RegisterResult :=
  let sent := dltUserLogSendRegisterApplication call user
  if sent.ret = dltReturnOk ∧ sent.user.buffers.connected then
    let resent := dltUserLogResendBuffer call.malloc call.resends sent.user.appID sent.user.buffers
    { user := { sent.user with buffers := resent.user }, ret := resent.ret, writes := sent.writes ++ resent.writes }
  else sent

/-- The function behind `dlt_init`. Source: `dlt_register_app` -/
def registerInitialised (call : RegisterCall) (user : AppUser) : RegisterResult :=
  match call.apid with
  | none => { user, ret := dltReturnWrongParameter, writes := [] }
  | some apid =>
      if apid.getD 0 0 = 0 then { user, ret := dltReturnWrongParameter, writes := [] }
      else if alreadyRegistered apid user.appID then { user, ret := dltReturnOk, writes := [] }
      else
        let stored := storeApplication call apid user
        if stored.2 then sendApplication call stored.1 else { user := stored.1, ret := dltReturnError, writes := [] }

/-- Source: `dlt_register_app` -/
def dltRegisterApp (call : RegisterCall) (user : AppUser) : RegisterResult :=
  if call.isChild then { user, ret := dltReturnError, writes := [] }
  else if user.initialised then registerInitialised call user
  else
    let initialised := dltInit call.init user
    if initialised.2 < 0 then { user := initialised.1, ret := dltReturnError, writes := [] }
    else registerInitialised call initialised.1

/-- The state after a sequence of calls. -/
def registerApps (user : AppUser) (calls : List RegisterCall) : AppUser :=
  calls.foldl (fun user call => (dltRegisterApp call user).user) user

/-! ## The test -/

section test

variable {apid : List UInt8} {appID : Id4}

theorem idText_cases (h : apid.getD 0 0 ≠ 0) :
    idText apid = if apid.getD 1 0 = 0 then [apid.getD 0 0]
      else if apid.getD 2 0 = 0 then [apid.getD 0 0, apid.getD 1 0]
      else if apid.getD 3 0 = 0 then [apid.getD 0 0, apid.getD 1 0, apid.getD 2 0]
      else [apid.getD 0 0, apid.getD 1 0, apid.getD 2 0, apid.getD 3 0] := by
  rcases apid with _ | ⟨a, _ | ⟨b, _ | ⟨c, _ | ⟨d, rest⟩⟩⟩⟩
  · exact absurd rfl h
  · have ha : a ≠ 0 := h
    simp [idText, ha]
  · have ha : a ≠ 0 := h
    by_cases hb : b = 0 <;> simp [idText, ha, hb]
  · have ha : a ≠ 0 := h
    by_cases hb : b = 0
    · simp [idText, ha, hb]
    · by_cases hc : c = 0 <;> simp [idText, ha, hb, hc]
  · have ha : a ≠ 0 := h
    by_cases hb : b = 0
    · simp [idText, ha, hb]
    · by_cases hc : c = 0
      · simp [idText, ha, hb, hc]
      · by_cases hd : d = 0 <;> simp [idText, ha, hb, hc, hd]

/-- **The test** holds when the new id is a prefix of the present one. -/
theorem alreadyRegistered_iff (h : apid.getD 0 0 ≠ 0) :
    alreadyRegistered apid appID = true ↔ idText apid <+: appID.bytes := by
  obtain ⟨bytes, hlen⟩ := appID
  obtain ⟨w, x, y, z, rfl⟩ := length_eq_four.mp hlen
  rw [idText_cases h]
  unfold alreadyRegistered
  split_ifs <;> simp [and_assoc]

theorem prefix_bytes_iff : idText apid <+: appID.bytes ↔ idText apid <+: idText appID.bytes := by
  constructor
  · rintro ⟨rest, hrest⟩
    refine ⟨rest.takeWhile fun b => decide (b ≠ 0), ?_⟩
    have hall : appID.bytes.take 4 = appID.bytes := take_of_length_le appID.length_eq.le
    have htext : idText appID.bytes = appID.bytes.takeWhile fun b => decide (b ≠ 0) := congrArg _ hall
    rw [htext, ← hrest, takeWhile_append_of_pos fun b hb => ne_zero_of_mem_idText hb]
  · intro htext
    exact htext.trans ((List.takeWhile_prefix _).trans (List.take_prefix _ _))

end test

/-! ## One call -/

section call

variable {call : RegisterCall} {user : AppUser}

theorem sendRegisterApplication_appID : (dltUserLogSendRegisterApplication call user).user.appID = user.appID := by
  unfold dltUserLogSendRegisterApplication
  dsimp only
  split_ifs <;> rfl

/-- Sending the registration and the stored messages does not change the id. -/
theorem sendApplication_appID : (sendApplication call user).user.appID = user.appID := by
  unfold sendApplication
  dsimp only
  split_ifs
  · exact sendRegisterApplication_appID
  · exact sendRegisterApplication_appID

theorem storeApplication_appID (apid : List UInt8) : (storeApplication call apid user).1.appID = dltSetId apid := by
  unfold storeApplication
  split
  · rfl
  · split_ifs <;> rfl

/-- What a call does: it is refused and sends nothing, or it finds its id and changes nothing, or its id is stored. -/
inductive Registers (call : RegisterCall) (user : AppUser) (result : RegisterResult) : Prop
  /-- The string is missing or empty. -/
  | refused (hmissing : ∀ apid, call.apid = some apid → apid.getD 0 0 = 0) (hret : result.ret ≠ dltReturnOk)
      (hwrites : result.writes = [])
  /-- The id begins the present one. -/
  | found (apid : List UInt8) (hapid : call.apid = some apid) (hfirst : apid.getD 0 0 ≠ 0)
      (hbegins : idText apid <+: idText user.appID.bytes)
      (hresult : result = { user, ret := dltReturnOk, writes := [] })
  | stored (apid : List UInt8) (hapid : call.apid = some apid) (hfirst : apid.getD 0 0 ≠ 0)
      (hbegins : ¬ idText apid <+: idText user.appID.bytes) (hid : result.user.appID = dltSetId apid)

theorem registerInitialised_cases (call : RegisterCall) (user : AppUser) :
    Registers call user (registerInitialised call user) := by
  have hwrong : dltReturnWrongParameter ≠ dltReturnOk := by decide
  unfold registerInitialised
  cases hapid : call.apid with
  | none => exact .refused (fun apid heq => nomatch hapid.symm.trans heq) hwrong rfl
  | some apid =>
    dsimp only
    by_cases hfirst : apid.getD 0 0 = 0
    · rw [if_pos hfirst]
      refine .refused ?_ hwrong rfl
      intro apid' hapid'
      cases hapid.symm.trans hapid'
      exact hfirst
    · rw [if_neg hfirst]
      by_cases hfound : alreadyRegistered apid user.appID = true
      · rw [if_pos hfound]
        exact .found apid hapid hfirst (prefix_bytes_iff.mp ((alreadyRegistered_iff hfirst).mp hfound)) rfl
      · rw [if_neg hfound]
        refine .stored apid hapid hfirst ?_ ?_
        · intro hbegins
          exact hfound ((alreadyRegistered_iff hfirst).mpr (prefix_bytes_iff.mpr hbegins))
        · split_ifs
          · exact sendApplication_appID.trans (storeApplication_appID apid)
          · exact storeApplication_appID apid

theorem dltInit_ok {outcome : InitOutcome} (h : ¬ (dltInit outcome user).2 < 0) :
    (dltInit outcome user).1.appID = dltSetId [] := by
  have herror : dltReturnError < 0 := by decide
  have hdisabled : dltReturnLoggingDisabled < 0 := by decide
  cases outcome with
  | disabled => exact absurd hdisabled h
  | noSemaphore => exact absurd herror h
  | noMemory => exact absurd herror h
  | noConnection buffers => exact absurd herror h
  | noThreads buffers => exact absurd herror h
  | started buffers => rfl

/-- **A call**: with a library that is initialised it is one of the three; else it is refused, or it is one of the
three with a library that has no id. -/
theorem dltRegisterApp_cases (call : RegisterCall) (user : AppUser) :
    ((dltRegisterApp call user).ret ≠ dltReturnOk ∧ (dltRegisterApp call user).writes = [] ∧
        ¬ (call.isChild = false ∧ user.initialised = true)) ∨
      ∃ user', Registers call user' (dltRegisterApp call user) ∧
        ((call.isChild = false ∧ user.initialised = true ∧ user' = user) ∨
          (user.initialised = false ∧ user'.appID = dltSetId [])) := by
  have herror : dltReturnError ≠ dltReturnOk := by decide
  unfold dltRegisterApp
  by_cases hchild : call.isChild = true
  · rw [if_pos hchild]
    refine .inl ⟨herror, rfl, ?_⟩
    rintro ⟨hnot, -⟩
    rw [hchild] at hnot
    cases hnot
  · rw [if_neg hchild]
    have hparent : call.isChild = false := Bool.not_eq_true _ ▸ hchild
    by_cases hinit : user.initialised = true
    · rw [if_pos hinit]
      exact .inr ⟨user, registerInitialised_cases call user, .inl ⟨hparent, hinit, rfl⟩⟩
    · rw [if_neg hinit]
      dsimp only
      have hfresh : user.initialised = false := Bool.not_eq_true _ ▸ hinit
      by_cases hfail : (dltInit call.init user).2 < 0
      · rw [if_pos hfail]
        exact .inl ⟨herror, rfl, fun h => hinit h.2⟩
      · rw [if_neg hfail]
        exact .inr ⟨_, registerInitialised_cases call _, .inr ⟨hfresh, dltInit_ok hfail⟩⟩

/-! ## The id after a call -/

/-- After a call that is successful the id is that of the call, cut to four characters, and a call with the present id
sends nothing. -/
def KeepsId (call : RegisterCall) (user : AppUser) : Prop :=
  ((dltRegisterApp call user).ret = dltReturnOk →
      ∃ apid, call.apid = some apid ∧ (dltRegisterApp call user).user.appID = dltSetId apid) ∧
    ∀ apid, call.apid = some apid → user.initialised = true → user.appID = dltSetId apid →
      (dltRegisterApp call user).writes = []

/-- The id of the call is not a shorter one that begins the present id. -/
def NotShortened (call : RegisterCall) (user : AppUser) : Prop :=
  call.isChild = false → user.initialised = true → ∀ apid, call.apid = some apid → apid.getD 0 0 ≠ 0 →
    idText apid <+: idText user.appID.bytes → idText apid = idText user.appID.bytes

/-- The text of a string that is not empty is no prefix of an empty one. -/
theorem not_prefix_empty {apid : List UInt8} (h : apid.getD 0 0 ≠ 0) :
    ¬ idText apid <+: idText (dltSetId []).bytes := by
  have hempty : idText (dltSetId []).bytes = [] := rfl
  rw [hempty, prefix_nil, idText_cases h]
  split_ifs <;> exact not_false

/-- **After a call the id is that of the call**, exactly when its id is not a shorter one that begins the present
one. -/
theorem keepsId_iff (call : RegisterCall) (user : AppUser) : KeepsId call user ↔ NotShortened call user := by
  constructor
  · rintro ⟨hok, -⟩ hparent hinit apid hapid hfirst hbegins
    rcases dltRegisterApp_cases call user with ⟨-, -, hnot⟩ | ⟨user', hregisters, hstate⟩
    · exact absurd ⟨hparent, hinit⟩ hnot
    · rcases hstate with ⟨-, -, rfl⟩ | ⟨hfresh, -⟩
      · cases hregisters with
        | refused hmissing hret hwrites => exact absurd (hmissing apid hapid) hfirst
        | found apid' hapid' hfirst' hbegins' hresult =>
          rw [hresult] at hok
          obtain ⟨apid'', hapid'', hid⟩ := hok rfl
          cases hapid.symm.trans hapid''
          exact ((dltSetId_eq_iff user'.canonical).mp hid).symm
        | stored apid' hapid' hfirst' hbegins' hid =>
          cases hapid.symm.trans hapid'
          exact absurd hbegins hbegins'
      · rw [hinit] at hfresh
        cases hfresh
  · intro hnot
    rcases dltRegisterApp_cases call user with ⟨hret, hwrites, -⟩ | ⟨user', hregisters, hstate⟩
    · exact ⟨fun hok => absurd hok hret, fun _ _ _ _ => hwrites⟩
    · cases hregisters with
      | refused hmissing hret hwrites => exact ⟨fun hok => absurd hok hret, fun _ _ _ _ => hwrites⟩
      | found apid hapid hfirst hbegins hresult =>
        rw [KeepsId, hresult]
        refine ⟨?_, fun _ _ _ _ => rfl⟩
        intro _
        refine ⟨apid, hapid, ?_⟩
        rcases hstate with ⟨hparent, hinit, rfl⟩ | ⟨-, hempty⟩
        · exact (dltSetId_eq_iff user'.canonical).mpr (hnot hparent hinit apid hapid hfirst hbegins).symm
        · rw [hempty] at hbegins
          exact absurd hbegins (not_prefix_empty hfirst)
      | stored apid hapid hfirst hbegins hid =>
        refine ⟨fun _ => ⟨apid, hapid, hid⟩, ?_⟩
        intro apid' hapid' hinit hsame
        rcases hstate with ⟨-, -, rfl⟩ | ⟨hfresh, -⟩
        · cases hapid.symm.trans hapid'
          rw [(dltSetId_eq_iff user'.canonical).mp hsame] at hbegins
          exact absurd (prefix_refl _) hbegins
        · rw [hinit] at hfresh
          cases hfresh

end call

/-! ## Sequences of calls -/

/-- Each call of a sequence keeps its id: the state before it is that after the calls before it. -/
def CallsKeepId (user : AppUser) (calls : List RegisterCall) : Prop :=
  ∀ before call after, calls = before ++ call :: after → KeepsId call (registerApps user before)

/-- No call of a sequence has a shorter id that begins the present one. -/
def CallsNotShortened (user : AppUser) (calls : List RegisterCall) : Prop :=
  ∀ before call after, calls = before ++ call :: after → NotShortened call (registerApps user before)

/-- **In every sequence of calls** the id after each successful call is that of the call, and the present id is not
registered again, exactly when no call has a shorter id that begins the present one. -/
theorem registerApps_keepsId_iff (user : AppUser) (calls : List RegisterCall) :
    CallsKeepId user calls ↔ CallsNotShortened user calls := by
  constructor
  · intro hkeeps before call after hcalls
    exact (keepsId_iff call _).mp (hkeeps before call after hcalls)
  · intro hnot before call after hcalls
    exact (keepsId_iff call _).mpr (hnot before call after hcalls)

/-- A startup buffer of 200 bytes, and a connection. -/
def connectedBuffers : DltUserBuffers where
  startupBuffer :=
    { shm := { write := 0, read := 0, count := 0 }, size := 200, mem := List.replicate 200 0,
      minSize := 212, maxSize := 1000, stepSize := 100 }
  resendBuffer := List.replicate 100 0
  logBufLen := 66
  connected := true

/-- A library that is not initialised. -/
def freshUser : AppUser where
  initialised := false
  appID := dltSetId []
  canonical := canonical_dltSetId_nil
  applicationDescription := none
  dltIsDaemon := false
  buffers := connectedBuffers

/-- A call where nothing fails. -/
def sampleRegister (apid : List UInt8) : RegisterCall where
  isChild := false
  init := .started connectedBuffers
  apid := some apid
  description := none
  hasMemory := true
  pid := 1
  malloc := zeroMalloc
  write := .complete
  resends := fun _ => .complete

/-- **The application `AB` is registered as `ABCD`**: the call after that of `ABCD` is successful, and the id stays. -/
theorem registerApps_shortened :
    (dltRegisterApp (sampleRegister [65, 66, 67, 68]) freshUser).ret = dltReturnOk ∧
      (dltRegisterApp (sampleRegister [65, 66]) (registerApps freshUser [sampleRegister [65, 66, 67, 68]])).ret =
        dltReturnOk ∧
      (registerApps freshUser [sampleRegister [65, 66, 67, 68], sampleRegister [65, 66]]).appID =
        dltSetId [65, 66, 67, 68] ∧
      ¬ CallsKeepId freshUser [sampleRegister [65, 66, 67, 68], sampleRegister [65, 66]] := by
  have hret : (dltRegisterApp (sampleRegister [65, 66])
      (registerApps freshUser [sampleRegister [65, 66, 67, 68]])).ret = dltReturnOk := by decide +kernel
  have hid : (registerApps freshUser [sampleRegister [65, 66, 67, 68], sampleRegister [65, 66]]).appID =
      dltSetId [65, 66, 67, 68] := by decide +kernel
  refine ⟨by decide +kernel, hret, hid, ?_⟩
  intro hkeeps
  obtain ⟨apid, hapid, hkept⟩ := (hkeeps [sampleRegister [65, 66, 67, 68]] (sampleRegister [65, 66]) [] rfl).1 hret
  have hsame : apid = [65, 66] := (Option.some.inj hapid).symm
  rw [hsame] at hkept
  have hne : dltSetId [65, 66, 67, 68] ≠ dltSetId [65, 66] := by decide
  exact hne (hid.symm.trans hkept)

end Dlt.User
