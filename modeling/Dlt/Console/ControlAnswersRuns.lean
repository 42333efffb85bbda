import Dlt.Console.ControlAnswers

/-!
# Which answers the control tools return

* `controlRun_answered` — **in every run whose steps are regular, every state is answered.**
-/

namespace Dlt.Console

open Dlt.Lib Option

variable {α : Type} {analyzer : α → ℤ} {s s' : ControlState α}

/-! ## What a step does -/

/-- The steps, with the states in which they can happen. -/
inductive ControlMoves (analyzer : α → ℤ) (s : ControlState α) :
    ControlEvent α → ControlState α → Prop
  | callFails : s.caller = .idle →
      ControlMoves analyzer s .callFails (ControlState.finish { s with calls := s.calls + 1 } (-1))
  | call : s.caller = .idle →
      ControlMoves analyzer s .call { s with calls := s.calls + 1, caller := .locking }
  | callerLocks : s.caller = .locking → s.answerLock = none →
      ControlMoves analyzer s .callerLocks
        { s with answerLock := some .caller, callbackReturn := -1, caller := .sending }
  | sends : s.caller = .sending →
      ControlMoves analyzer s .sends { s with sent := s.calls :: s.sent, caller := .sent }
  | sendFails : s.caller = .sending → ControlMoves analyzer s .sendFails (s.finish (-1))
  | waits : s.caller = .sent →
      ControlMoves analyzer s .waits { s with answerLock := none, caller := .waiting }
  | wakes : s.caller = .waiting → ControlMoves analyzer s .wakes { s with caller := .waking false }
  | timesOut : s.caller = .waiting → ControlMoves analyzer s .timesOut { s with caller := .waking true }
  | relocks : s.caller = .waking false → s.answerLock = none →
      ControlMoves analyzer s .relocks { s with answerLock := some .caller, caller := .unlocking }
  | relocksLate : s.caller = .waking true → s.answerLock = none →
      ControlMoves analyzer s .relocks { s with answerLock := some .caller, caller := .returning }
  | callerUnlocks : s.caller = .unlocking →
      ControlMoves analyzer s .callerUnlocks { s with answerLock := none, caller := .returning }
  | returns : s.caller = .returning → ControlMoves analyzer s .returns (s.finish s.callbackReturn)
  | receives {message : Answer α} : s.listener = .reading →
      (∀ call ∈ message.answers, call ∈ s.sent) →
      ControlMoves analyzer s (.receives message) { s with listener := .locking message }
  | listenerLocks {message : Answer α} : s.listener = .locking message → s.answerLock = none →
      ControlMoves analyzer s .listenerLocks
        { s with answerLock := some .listener, listener := .analysing message }
  | analyses {message : Answer α} : s.listener = .analysing message →
      ControlMoves analyzer s .analyses { s with
        callbackReturn := analyzer message.content
        analysed := message :: s.analysed
        listener := .signalling }
  | signals : s.listener = .signalling →
      ControlMoves analyzer s .signals { s with
        caller := if s.caller = .waiting then .waking false else s.caller
        listener := .unlocking }
  | listenerUnlocks : s.listener = .unlocking →
      ControlMoves analyzer s .listenerUnlocks { s with answerLock := none, listener := .reading }

variable {event : ControlEvent α}

theorem of_guard {p : Prop} [Decidable p] {next : ControlState α} (h : (if p then some next else none) = some s') :
    p ∧ next = s' := by
  rwa [ite_none_right_eq_some, Option.some.injEq] at h

theorem callerStep_moves (h : callerStep s event = some s') :
    ControlMoves analyzer s event s' := by
  cases event with
  | callFails =>
    obtain ⟨hcaller, rfl⟩ := of_guard h
    exact .callFails hcaller
  | call =>
    obtain ⟨hcaller, rfl⟩ := of_guard h
    exact .call hcaller
  | callerLocks =>
    obtain ⟨⟨hcaller, hlock⟩, rfl⟩ := of_guard h
    exact .callerLocks hcaller hlock
  | sends =>
    obtain ⟨hcaller, rfl⟩ := of_guard h
    exact .sends hcaller
  | sendFails =>
    obtain ⟨hcaller, rfl⟩ := of_guard h
    exact .sendFails hcaller
  | waits =>
    obtain ⟨hcaller, rfl⟩ := of_guard h
    exact .waits hcaller
  | wakes =>
    obtain ⟨hcaller, rfl⟩ := of_guard h
    exact .wakes hcaller
  | timesOut =>
    obtain ⟨hcaller, rfl⟩ := of_guard h
    exact .timesOut hcaller
  | relocks =>
    simp only [callerStep, ite_none_right_eq_some] at h
    obtain ⟨hlock, h⟩ := h
    split_ifs at h with hwoken hlate
    · cases h
      exact .relocks hwoken hlock
    · cases h
      exact .relocksLate hlate hlock
  | callerUnlocks =>
    obtain ⟨hcaller, rfl⟩ := of_guard h
    exact .callerUnlocks hcaller
  | returns =>
    obtain ⟨hcaller, rfl⟩ := of_guard h
    exact .returns hcaller
  | receives message => cases h
  | listenerLocks => cases h
  | analyses => cases h
  | signals => cases h
  | listenerUnlocks => cases h

theorem listenerStep_moves (h : listenerStep analyzer s event = some s') :
    ControlMoves analyzer s event s' := by
  cases event with
  | receives message =>
    cases hlistener : s.listener with
    | reading =>
      simp only [listenerStep, hlistener, ite_none_right_eq_some, Option.some.injEq] at h
      obtain ⟨hsent, rfl⟩ := h
      refine .receives hlistener fun call hcall => ?_
      rw [mem_def.mp hcall, all_some, decide_eq_true_eq] at hsent
      exact hsent
    | _ => simp [listenerStep, hlistener] at h
  | listenerLocks =>
    cases hlistener : s.listener with
    | locking message =>
      simp only [listenerStep, hlistener, ite_none_right_eq_some, Option.some.injEq] at h
      obtain ⟨hlock, rfl⟩ := h
      exact .listenerLocks hlistener hlock
    | _ => simp [listenerStep, hlistener] at h
  | analyses =>
    cases hlistener : s.listener with
    | analysing message =>
      simp only [listenerStep, hlistener, Option.some.injEq] at h
      obtain rfl := h
      exact .analyses hlistener
    | _ => simp [listenerStep, hlistener] at h
  | signals =>
    cases hlistener : s.listener with
    | signalling =>
      simp only [listenerStep, hlistener, Option.some.injEq] at h
      obtain rfl := h
      exact .signals hlistener
    | _ => simp [listenerStep, hlistener] at h
  | listenerUnlocks =>
    cases hlistener : s.listener with
    | unlocking =>
      simp only [listenerStep, hlistener, Option.some.injEq] at h
      obtain rfl := h
      exact .listenerUnlocks hlistener
    | _ => simp [listenerStep, hlistener] at h
  | _ => cases h

theorem controlStep_moves (h : controlStep analyzer s event = some s') :
    ControlMoves analyzer s event s' := by
  unfold controlStep at h
  cases hcaller : callerStep s event with
  | some next =>
    rw [hcaller] at h
    exact callerStep_moves (hcaller.trans h)
  | none =>
    rw [hcaller] at h
    exact listenerStep_moves h

/-! ## What is asked for -/

/-- The call returned `-1` or what the analyzer gave for a response to its request, without the mutex. -/
structure Returned.Matches (analyzer : α → ℤ) (analysed : List (Answer α)) (r : Returned) : Prop where
  value : r.value = -1 ∨ ∃ message ∈ analysed, message.answers = some r.call ∧ r.value = analyzer message.content
  released : r.holdsLock = false

/-- The thread that holds the mutex can go on until the mutex is free, so that the other one gets it. -/
def Unblocked (analyzer : α → ℤ) (s : ControlState α) : Prop :=
  ∃ events, (runControl analyzer s events).answerLock = none

/-- Every call that has returned matches, a caller outside of the function does not hold the mutex, and nobody
is blocked for ever. -/
structure Answered (analyzer : α → ℤ) (s : ControlState α) : Prop where
  returned : ∀ r ∈ s.returned, r.Matches analyzer s.analysed
  idle : s.caller = .idle → s.answerLock ≠ some .caller
  unblocked : Unblocked analyzer s

/-- A call is between the reset of the return value and its end. -/
def ControlState.UnderWay (s : ControlState α) : Prop := s.caller ≠ .idle ∧ s.caller ≠ .locking

/-- The condition on a step. -/
def Regular (analyzer : α → ℤ) (s : ControlState α) : ControlEvent α → Prop
  | .sendFails => s.caller ≠ .sending
  | .timesOut => s.caller ≠ .waiting
  | .analyses => s.UnderWay → ∀ message, s.listener = .analysing message →
      message.answers = some s.calls ∨ analyzer message.content = -1
  | _ => True

/-! ## The invariant -/

/-- The caller holds the mutex here. -/
def Caller.holds : Caller → Bool
  | .sending | .sent | .unlocking => true
  | _ => false

/-- The listener holds the mutex here. -/
def Listener.holds : Listener α → Bool
  | .analysing _ | .signalling | .unlocking => true
  | _ => false

/-- What regular steps keep. -/
structure ControlInv (analyzer : α → ℤ) (s : ControlState α) : Prop where
  caller : s.answerLock = some .caller ↔ s.caller.holds = true
  listener : s.answerLock = some .listener ↔ s.listener.holds = true
  inTime : s.caller ≠ .waking true
  value : s.UnderWay → s.callbackReturn = -1 ∨ ∃ message ∈ s.analysed,
    message.answers = some s.calls ∧ s.callbackReturn = analyzer message.content
  returned : ∀ r ∈ s.returned, r.Matches analyzer s.analysed

theorem controlInv_initial : ControlInv analyzer (ControlState.initial : ControlState α) where
  caller := by simp [ControlState.initial, Caller.holds]
  listener := by simp [ControlState.initial, Listener.holds]
  inTime := Caller.noConfusion
  value h := absurd rfl h.1
  returned := by simp [ControlState.initial]

theorem Returned.Matches.mono {r : Returned} {analysed : List (Answer α)} (h : r.Matches analyzer analysed)
    (message : Answer α) : r.Matches analyzer (message :: analysed) := by
  refine ⟨?_, h.released⟩
  rcases h.value with hvalue | ⟨m, hm, hanswers, hvalue⟩
  · exact .inl hvalue
  · exact .inr ⟨m, List.mem_cons_of_mem _ hm, hanswers, hvalue⟩

section

variable (h : ControlInv analyzer s)
include h

/-- A call that ends without the mutex and with a value that matches. -/
theorem ControlInv.finish (hholds : s.caller.holds = false) {value : ℤ}
    (hvalue : value = -1 ∨ ∃ message ∈ s.analysed,
      message.answers = some s.calls ∧ value = analyzer message.content) :
    ControlInv analyzer (s.finish value) := by
  have hlock : s.answerLock ≠ some .caller := by
    intro hlock
    rw [h.caller.mp hlock] at hholds
    cases hholds
  refine ⟨?_, h.listener, Caller.noConfusion, fun hway => absurd rfl hway.1, ?_⟩
  · exact ⟨fun hheld => absurd hheld hlock, Bool.noConfusion⟩
  · intro r hr
    rcases List.mem_cons.mp hr with rfl | hr
    · exact ⟨hvalue, decide_eq_false hlock⟩
    · exact h.returned r hr

theorem ControlInv.free (hlock : s.answerLock = none) :
    s.caller.holds = false ∧ s.listener.holds = false := by
  have hcaller := h.caller
  have hlistener := h.listener
  rw [hlock] at hcaller hlistener
  refine ⟨?_, ?_⟩
  · rw [← Bool.not_eq_true, ← hcaller]
    simp
  · rw [← Bool.not_eq_true, ← hlistener]
    simp

theorem ControlInv.alone :
    (s.caller.holds = true → s.listener.holds = false) ∧ (s.listener.holds = true → s.caller.holds = false) := by
  refine ⟨fun hcaller => ?_, fun hlistener => ?_⟩
  · rw [← Bool.not_eq_true, ← h.listener, h.caller.mpr hcaller]
    simp
  · rw [← Bool.not_eq_true, ← h.caller, h.listener.mpr hlistener]
    simp

end

theorem ControlState.underWay_of {caller : Caller} (hcaller : s.caller = caller)
    (h : caller ≠ .idle ∧ caller ≠ .locking) : s.UnderWay := by
  rw [ControlState.UnderWay, hcaller]
  exact h

section

variable (h : ControlInv analyzer s)
include h

/-- The caller takes a step that concerns neither the mutex nor the return value. -/
theorem ControlInv.setCaller {caller : Caller} (hholds : caller.holds = s.caller.holds) (hway : s.UnderWay)
    (htime : caller ≠ .waking true) :
    ControlInv analyzer { s with caller } where
  caller := by
    rw [hholds]
    exact h.caller
  listener := h.listener
  inTime := htime
  value := fun _ => h.value hway
  returned := h.returned

theorem ControlInv.setListener {listener : Listener α} (hholds : listener.holds = s.listener.holds) :
    ControlInv analyzer { s with listener } where
  caller := h.caller
  listener := by
    rw [hholds]
    exact h.listener
  inTime := h.inTime
  value := h.value
  returned := h.returned

/-- **Regular steps keep the invariant.** -/
theorem ControlMoves.inv (hmoves : ControlMoves analyzer s event s') (hregular : Regular analyzer s event) :
    ControlInv analyzer s' := by
  cases hmoves with
  | callFails hcaller =>
    have hbegun : ControlInv analyzer { s with calls := s.calls + 1 } :=
      ⟨h.caller, h.listener, h.inTime, fun hway => absurd hcaller hway.1, h.returned⟩
    exact hbegun.finish (by rw [hcaller]; rfl) (.inl rfl)
  | call hcaller =>
    refine ⟨?_, h.listener, Caller.noConfusion, fun hway => absurd rfl hway.2, h.returned⟩
    rw [h.caller, hcaller]
    rfl
  | callerLocks hcaller hlock =>
    obtain ⟨-, hlistener⟩ := h.free hlock
    refine ⟨?_, ?_, Caller.noConfusion, fun _ => .inl rfl, h.returned⟩
    · simp [Caller.holds]
    · simp [hlistener]
  | sends hcaller =>
    have hway := ControlState.underWay_of hcaller (by decide)
    refine ⟨?_, h.listener, Caller.noConfusion, fun _ => h.value hway, h.returned⟩
    rw [h.caller, hcaller]
    rfl
  | sendFails hcaller => exact absurd hcaller hregular
  | waits hcaller =>
    have hway := ControlState.underWay_of hcaller (by decide)
    have hlistener := h.alone.1 (by rw [hcaller]; rfl)
    refine ⟨?_, ?_, Caller.noConfusion, fun _ => h.value hway, h.returned⟩
    · simp [Caller.holds]
    · simp [hlistener]
  | wakes hcaller =>
    apply h.setCaller _ (ControlState.underWay_of hcaller (by decide)) (by decide)
    rw [hcaller]
    rfl
  | timesOut hcaller => exact absurd hcaller hregular
  | relocks hcaller hlock =>
    have hway := ControlState.underWay_of hcaller (by decide)
    obtain ⟨-, hlistener⟩ := h.free hlock
    refine ⟨?_, ?_, Caller.noConfusion, fun _ => h.value hway, h.returned⟩
    · simp [Caller.holds]
    · simp [hlistener]
  | relocksLate hcaller => exact absurd hcaller h.inTime
  | callerUnlocks hcaller =>
    have hway := ControlState.underWay_of hcaller (by decide)
    have hlistener := h.alone.1 (by rw [hcaller]; rfl)
    refine ⟨?_, ?_, Caller.noConfusion, fun _ => h.value hway, h.returned⟩
    · simp [Caller.holds]
    · simp [hlistener]
  | returns hcaller =>
    exact h.finish (by rw [hcaller]; rfl) (h.value (ControlState.underWay_of hcaller (by decide)))
  | receives hlistener =>
    apply h.setListener
    rw [hlistener]
    rfl
  | listenerLocks hlistener hlock =>
    obtain ⟨hcaller, -⟩ := h.free hlock
    refine ⟨?_, ?_, h.inTime, h.value, h.returned⟩
    · simp [hcaller]
    · simp [Listener.holds]
  | @analyses message hlistener =>
    refine ⟨h.caller, ?_, h.inTime, fun hway => ?_, fun r hr => (h.returned r hr).mono message⟩
    · rw [h.listener, hlistener]
      rfl
    · -- what is analysed during a call is a response to its request, or counts as `-1`
      rcases hregular hway message hlistener with hanswers | hminus
      · exact .inr ⟨message, List.mem_cons_self, hanswers, rfl⟩
      · exact .inl hminus
  | signals hlistener =>
    have hset := h.setListener (show (Listener.unlocking : Listener α).holds = s.listener.holds by
      rw [hlistener]
      rfl)
    by_cases hwaiting : s.caller = .waiting
    · rw [if_pos hwaiting]
      apply hset.setCaller _ (ControlState.underWay_of hwaiting (by decide)) (by decide)
      rw [hwaiting]
      rfl
    · rw [if_neg hwaiting]
      exact hset
  | listenerUnlocks hlistener =>
    have hcaller := h.alone.2 (by rw [hlistener]; rfl)
    refine ⟨?_, ?_, h.inTime, h.value, h.returned⟩
    · simp [hcaller]
    · simp [Listener.holds]

end

/-! ## Runs -/

theorem ControlInv.unblocked (h : ControlInv analyzer s) : Unblocked analyzer s := by
  cases hlock : s.answerLock with
  | none => exact ⟨[], hlock⟩
  | some thread =>
    cases thread with
    | caller =>
      have hholds := h.caller.mp hlock
      cases hcaller : s.caller with
      | sending => exact ⟨[.sends, .waits], by simp [runControl, controlStep, callerStep, hcaller]⟩
      | sent => exact ⟨[.waits], by simp [runControl, controlStep, callerStep, hcaller]⟩
      | unlocking => exact ⟨[.callerUnlocks], by simp [runControl, controlStep, callerStep, hcaller]⟩
      | _ =>
        rw [hcaller] at hholds
        cases hholds
    | listener =>
      have hholds := h.listener.mp hlock
      cases hlistener : s.listener with
      | analysing message =>
        exact ⟨[.analyses, .signals, .listenerUnlocks],
          by simp [runControl, controlStep, callerStep, listenerStep, hlistener]⟩
      | signalling =>
        exact ⟨[.signals, .listenerUnlocks],
          by simp [runControl, controlStep, callerStep, listenerStep, hlistener]⟩
      | unlocking =>
        exact ⟨[.listenerUnlocks], by simp [runControl, controlStep, callerStep, listenerStep, hlistener]⟩
      | _ =>
        rw [hlistener] at hholds
        cases hholds

theorem ControlInv.answered (h : ControlInv analyzer s) : Answered analyzer s := by
  refine ⟨h.returned, fun hidle hlock => ?_, h.unblocked⟩
  have hholds := h.caller.mp hlock
  rw [hidle] at hholds
  cases hholds

/-- The states of the runs whose steps meet a condition. -/
abbrev ControlRun (analyzer : α → ℤ) (meets : ControlState α → ControlEvent α → Prop) :
    ControlState α → Prop :=
  Reach (· = ControlState.initial) (fun s event => (controlStep analyzer s event).getD s) meets

/-- **Requests and answers match in every run whose steps are regular**: every call returns `-1` or the value
of a response to its request, and nobody keeps the mutex. -/
theorem controlRun_answered (h : ControlRun analyzer (Regular analyzer) s) : Answered analyzer s := by
  have hinv : ControlInv analyzer s := by
    refine h.invariant ?_ ?_
    · rintro s rfl
      exact controlInv_initial
    · intro s event hinv hregular
      cases hstep : controlStep analyzer s event with
      | none => exact hinv
      | some s' => exact (controlStep_moves hstep).inv hinv hregular
  exact hinv.answered

theorem ControlRun.snoc {meets : ControlState α → ControlEvent α → Prop} (h : ControlRun analyzer meets s)
    (event : ControlEvent α) (hmeets : meets s event) :
    ControlRun analyzer meets (runControl analyzer s [event]) := Reach.step h hmeets

/-! ## Samples -/

/-- The response to the first request arrives while the caller waits. -/
theorem controlRun_answered_sample :
    Answered id (runControl id (ControlState.initial : ControlState ℤ)
      [.call, .callerLocks, .sends, .waits, .receives ⟨7, some 1⟩, .listenerLocks, .analyses, .signals,
        .listenerUnlocks, .relocks, .callerUnlocks, .returns]) := by
  have hstart : ControlRun id (Regular id) (ControlState.initial : ControlState ℤ) := .start rfl
  have hlocked := ((((hstart.snoc .call trivial).snoc .callerLocks trivial).snoc .sends trivial).snoc .waits
    trivial).snoc (.receives ⟨7, some 1⟩) trivial |>.snoc .listenerLocks trivial
  have hanalysed := hlocked.snoc .analyses fun _ message hmessage => .inl (by cases hmessage; rfl)
  exact controlRun_answered (((((hanalysed.snoc .signals trivial).snoc .listenerUnlocks trivial).snoc .relocks
    trivial).snoc .callerUnlocks trivial).snoc .returns trivial)

/-- The request cannot be sent. -/
def sendFailure : List (ControlEvent ℤ) := [.call, .callerLocks, .sendFails]

/-- No answer arrives in time. -/
def noAnswer : List (ControlEvent ℤ) := [.call, .callerLocks, .sends, .waits, .timesOut, .relocks, .returns]

/-- A message that is no response arrives while the caller waits. -/
def otherMessage : List (ControlEvent ℤ) :=
  [.call, .callerLocks, .sends, .waits, .receives ⟨7, none⟩, .listenerLocks, .analyses, .signals,
    .listenerUnlocks, .relocks, .callerUnlocks, .returns]

/-- A call keeps the mutex when its request cannot be sent and when no answer arrives in time, so that the next
call and the listener wait for ever; and a call takes the value of another message for the answer. -/
theorem controlRun_not_answered :
    (¬ Answered id (runControl id .initial sendFailure) ∧
      controlStep id (runControl id .initial (sendFailure ++ [.call])) .callerLocks = none ∧
      controlStep id (runControl id .initial (sendFailure ++ [.receives ⟨7, none⟩])) .listenerLocks = none) ∧
    (¬ Answered id (runControl id .initial noAnswer) ∧
      controlStep id (runControl id .initial (noAnswer ++ [.call])) .callerLocks = none ∧
      controlStep id (runControl id .initial (noAnswer ++ [.receives ⟨7, some 1⟩])) .listenerLocks = none) ∧
    ¬ Answered id (runControl id .initial otherMessage) := by
  have hkeeps : ∀ {s : ControlState ℤ}, (⟨1, -1, true⟩ : Returned) ∈ s.returned → ¬ Answered id s := by
    intro s hmem hanswered
    cases (hanswered.returned _ hmem).released
  refine ⟨⟨hkeeps (by decide), by decide, by decide⟩, ⟨hkeeps (by decide), by decide, by decide⟩, ?_⟩
  intro hanswered
  have hmatches := hanswered.returned ⟨1, 7, false⟩ (by decide)
  rcases hmatches.value with hminus | ⟨message, hmem, hresponse, -⟩
  · cases hminus
  · rw [show (runControl id ControlState.initial otherMessage).analysed = [⟨7, none⟩] by decide,
      List.mem_singleton] at hmem
    rw [hmem] at hresponse
    cases hresponse

end Dlt.Console
