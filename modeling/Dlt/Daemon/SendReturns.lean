import Dlt.Daemon.ClientDelivery

/-!
# When sending to clients returns

* `returns_clientSend` — **in a calm state nested messages return**, whatever the sends give: each of them is sent with
  one client less.
* `clientSend_returns_iff` — **sending returns, whatever the sends give,** if and only if this is not so.
-/

namespace Dlt.Daemon

open Dlt.Lib Dlt.Shared List Option

variable {Buf : Type} {env : ClientsEnv Buf} {s s' : ClientsState Buf} {data1 data2 : Option (List UInt8)}
variable {con : DltConnection}

/-! ## Calm states -/

/-- Lost messages are not reported, or there is no client left to report them to. -/
def Calm (s : ClientsState Buf) : Prop :=
  s.daemon.overflowCounter = 0 ∨ s.clientConnections ≤ 0 ∨ s.daemon.state.isBuffering = true

/-- What is kept while messages are sent. -/
structure Calmer (s s' : ClientsState Buf) : Prop where
  sound : Sound s'
  calm : Calm s'
  clients : s'.clientConnections ≤ s.clientConnections

/-- Nested messages return that are sent to fewer clients than a bound. -/
def Returns (send : Sock → Option (List UInt8) → Option (List UInt8) → ClientsState Buf →
    Option (ClientsState Buf × ℤ)) (bound : ℕ) : Prop :=
  ∀ (s : ClientsState Buf) (data1 data2 : Option (List UInt8)), Sound s → Calm s → s.clientConnections < bound →
    ∃ s' ret, send .toAll data1 data2 s = some (s', ret) ∧ Calmer s s'

theorem Calmer.trans {s'' : ClientsState Buf} (h : Calmer s s') (h' : Calmer s' s'') : Calmer s s'' :=
  ⟨h'.sound, h'.calm, h'.clients.trans h.clients⟩

theorem Calm.unregistered (h : Calm s) (hun : Unregistered env con s s') : Calm s' := by
  unfold Calm at h ⊢
  rw [hun.overflowCounter, hun.clientConnections, hun.state]
  rcases h with h | h | h
  · exact .inl h
  · exact .inr (.inl (by omega))
  · refine .inr (.inr ?_)
    split_ifs
    · rfl
    · exact h

theorem sendToClient_only (call : ℕ) (con : DltConnection) (s : ClientsState Buf) :
    SentOnly s (sendToClient call data1 data2 con s).1 := by
  refine ⟨rfl, rfl, rfl, rfl, rfl, fun fd => ?_⟩
  show _ ≤ if fd = con.fd then s.messages con.fd + 1 else s.messages fd
  split_ifs with hfd
  · rw [hfd]
    exact Nat.le_succ _
  · exact le_rfl

theorem SentOnly.sound (honly : SentOnly s s') (h : Sound s) : Sound s' := by
  refine ⟨honly.pEvent ▸ h.consistent, ?_⟩
  rw [honly.clientConnections, honly.pEvent]
  exact h.count

theorem SentOnly.calmer (honly : SentOnly s s') (h : Sound s) (hcalm : Calm s) : Calmer s s' := by
  refine ⟨honly.sound h, ?_, honly.clientConnections.le⟩
  unfold Calm
  rw [honly.daemon, honly.clientConnections]
  exact hcalm

section returns

variable {send : Sock → Option (List UInt8) → Option (List UInt8) → ClientsState Buf →
  Option (ClientsState Buf × ℤ)} {bound : ℕ}

/-- **Closing a client returns**: its messages go to the others. -/
theorem Returns.closeSocket (hsend : Returns send bound) (h : Sound s) (hcalm : Calm s)
    (hbound : s.clientConnections ≤ bound) (hcon : con ∈ s.pEvent.active) (hclient : con.type.isClient = true) :
    ∃ s', dltDaemonCloseSocket env send con.fd s = some s' ∧ Calmer s s' := by
  have hun := h.unregistered env hcon hclient
  have h₁ := h.of_unregistered hcon hclient hun
  have hcalm₁ := hcalm.unregistered hun
  have hless := hun.clientConnections
  unfold dltDaemonCloseSocket
  generalize unregisterSocket env con.fd s = s₁ at hun h₁ hcalm₁ hless ⊢
  obtain ⟨s₂, ret, hinfo, h₂⟩ := hsend s₁.tick (some (controlHeader s₁.daemon.ecuid (env.uptime s₁.ticks)
    (connectionInfo dltConnectionStatusDisconnected).length)) (some (connectionInfo dltConnectionStatusDisconnected))
    ⟨h₁.consistent, h₁.count⟩ hcalm₁ (show s₁.clientConnections < bound by omega)
  have hle₂ : s₂.clientConnections ≤ s₁.clientConnections := h₂.clients
  obtain ⟨s₃, ret', hlog, h₃⟩ := hsend { s₂.tick with uiMsgCount := s₂.uiMsgCount + 1 }
    (some (internalHeader s₂.daemon.ecuid s₂.uiMsgCount env.pid (env.uptime s₂.ticks)
      (internalPayload (closedText con.fd s₂.clientConnections)).length))
    (some (internalPayload (closedText con.fd s₂.clientConnections))) ⟨h₂.sound.consistent, h₂.sound.count⟩ h₂.calm
    (show s₂.clientConnections < bound by omega)
  have hinfo' : dltDaemonClientSendControlMessage env send .toAll
      (connectionInfo dltConnectionStatusDisconnected) s₁ = some (s₂, ret) := hinfo
  have hlog' : dltDaemonLogInternal env send (closedText con.fd s₂.clientConnections) s₂ = some s₃ := by
    unfold dltDaemonLogInternal
    exact congrArg (fun r => r.bind fun x => some x.1) hlog
  refine ⟨s₃, by simp only [hinfo', bind_eq_bind, bind_some, hlog'], h₃.sound, h₃.calm, ?_⟩
  have hle₃ : s₃.clientConnections ≤ s₂.clientConnections := h₃.clients
  omega

variable (env) in
/-- **The loop over the entries returns.** -/
theorem Returns.loop (hsend : Returns send bound) {call : ℕ} (k : ℕ) :
    ∀ (i : ℕ) (s : ClientsState Buf) (sent : ℤ), Sound s → Calm s → s.clientConnections ≤ bound →
    ∃ s' sent', sendAllFrom env send call data1 data2 k i s sent = some (s', sent') ∧ Calmer s s' := by
  induction k with
  | zero => exact fun _ s sent h hcalm _ => ⟨s, sent, rfl, h, hcalm, le_rfl⟩
  | succ k ih =>
    intro i s sent h hcalm hbound
    by_cases hi : i < s.pEvent.polled.length
    · obtain ⟨con, hget, -⟩ := drop_polled hi
      have hcon := h.consistent.mem_polled.mp (mem_of_getElem? hget)
      rw [sendAllFrom_step h.consistent hget]
      have honly := @sendToClient_only _ data1 data2 call con s
      have h₁ := honly.calmer h hcalm
      generalize sendToClient call data1 data2 con s = r at honly h₁ ⊢
      have hgo : ∀ {s₁ : ClientsState Buf} (sent : ℤ), Calmer s s₁ → ∃ s' sent',
          sendAllFrom env send call data1 data2 k (i + 1) s₁ sent = some (s', sent') ∧ Calmer s s' := by
        intro s₁ sent hcalmer
        obtain ⟨s', sent', hloop, hrest⟩ := ih (i + 1) s₁ sent hcalmer.sound hcalmer.calm (hcalmer.clients.trans hbound)
        exact ⟨s', sent', hloop, hcalmer.trans hrest⟩
      split_ifs with hclient hok htcp
      · exact hgo 1 h₁
      · obtain ⟨s₂, hclosed, h₂⟩ := hsend.closeSocket h₁.sound h₁.calm (h₁.clients.trans hbound)
          (honly.pEvent ▸ hcon) hclient
        rw [hclosed, bind_some]
        exact hgo sent (h₁.trans h₂)
      · exact hgo sent h₁
      · exact hgo sent ⟨h, hcalm, le_rfl⟩
    · rw [sendAllFrom_end (by rw [← h.consistent.length_polled]; omega)]
      exact ⟨s, sent, rfl, h, hcalm, le_rfl⟩

theorem Returns.sendToAll (hsend : Returns send bound) (force : Bool) (h : Sound s) (hcalm : Calm s)
    (hbound : s.clientConnections ≤ bound) :
    ∃ s' sent, sendToAll env send force data1 data2 s = some (s', sent) ∧ Calmer s s' := by
  unfold Daemon.sendToAll
  split_ifs
  · obtain ⟨s', sent, hloop, hrest⟩ := @Returns.loop _ env data1 data2 _ _ hsend s.calls s.pEvent.pfd.length 0
      { s with calls := s.calls + 1 } 0 ⟨h.consistent, h.count⟩ hcalm hbound
    exact ⟨s', sent, hloop, hrest.sound, hrest.calm, hrest.clients⟩
  · exact ⟨s, 1, rfl, h, hcalm, le_rfl⟩

/-- **Reporting lost messages returns.** -/
theorem Returns.reportOverflow (hsend : Returns send bound) (h : Sound s) (hcalm : Calm s)
    (hbound : s.clientConnections < bound) : ∃ r, reportOverflow env send s = some r := by
  unfold Daemon.reportOverflow
  split_ifs
  · obtain ⟨s', ret, hreport, -⟩ := hsend s.tick (some (controlHeader s.daemon.ecuid (env.uptime s.ticks)
      (bufferOverflow s.daemon.overflowCounter).length)) (some (bufferOverflow s.daemon.overflowCounter))
      ⟨h.consistent, h.count⟩ hcalm hbound
    have hreport' : dltDaemonSendMessageOverflow env send s = some (s', ret) := hreport
    simp only [hreport', bind_eq_bind, bind_some]
    split_ifs <;> exact ⟨_, rfl⟩
  · exact ⟨_, rfl⟩

end returns

theorem Calm.quiet (hcalm : Calm s) (hbuffering : s.daemon.state.isBuffering = false) :
    ¬ (s.daemon.overflowCounter > 0 ∧ s.clientConnections > 0) := by
  rintro ⟨hover, hclients⟩
  rcases hcalm with h | h | h
  · omega
  · omega
  · rw [hbuffering] at h
    exact Bool.noConfusion h

/-- **Nested messages return**, if there is fuel for every client. -/
theorem returns_clientSend (env : ClientsEnv Buf) (fuel : ℕ) : Returns (dltDaemonClientSend env fuel) fuel := by
  induction fuel with
  | zero =>
    intro s _ _ h _ hbound
    have hcount := h.count
    omega
  | succ fuel ih =>
    intro s data1 data2 h hcalm hbound
    obtain ⟨s₁, sent, hall, h₁⟩ := @Returns.sendToAll _ env s data1 data2 _ _ ih false h hcalm (by omega)
    unfold dltDaemonClientSend clientSend
    simp only [hall, bind_eq_bind, bind_some]
    split_ifs with hbuffering
    · obtain ⟨clientRingbuffer, overflowCounter, state, hstate, heq⟩ := storeMessage_frame env data1 data2 s₁ hbuffering
      refine ⟨(storeMessage env data1 data2 s₁).1, (storeMessage env data1 data2 s₁).2, rfl, ?_⟩
      rw [heq]
      exact ⟨⟨h₁.sound.consistent, h₁.sound.count⟩, .inr (.inr hstate), h₁.clients⟩
    · unfold reportOverflow
      rw [if_neg (h₁.calm.quiet (Bool.eq_false_of_not_eq_true hbuffering))]
      exact ⟨s₁, dltDaemonErrorOk, rfl, h₁⟩

/-! ## Messages that all arrive -/

/-- The client can get the message: writing nothing to a serial device counts as an error. -/
def Takes (data1 data2 : Option (List UInt8)) (con : DltConnection) : Prop :=
  con.type.isClient = true ∧ (con.type = .clientMsgTcp ∨ data1 ≠ some [] ∧ data2 ≠ some [])

/-- Every call writes all that there is. -/
def allWritten : ℤ → ℕ → ℕ → IoResult := fun _ _ _ => .wrote 4294967295

theorem serialSend_ok {results : ℕ → IoResult} (hresults : ∀ calls, results calls ≠ .error) (calls : ℕ)
    {part : List UInt8} (hpart : part ≠ []) :
    (dltConnectionSend .clientMsgSerial results calls part).ret = dltDaemonErrorOk := by
  unfold dltConnectionSend writeOnce
  cases hresult : results calls with
  | error => exact absurd hresult (hresults calls)
  | wrote n =>
    have hne : part.take (n + 1) ≠ [] := by simpa using hpart
    simp [hne]

theorem serialSend_empty (results : ℕ → IoResult) (calls : ℕ) :
    (dltConnectionSend .clientMsgSerial results calls []).ret ≠ dltDaemonErrorOk := by
  unfold dltConnectionSend writeOnce
  cases results calls <;> simp

theorem sendParts_ret {send : ℕ → List UInt8 → Written} {part : List UInt8}
    (hsend : ∀ calls, (send calls part).ret ≠ dltDaemonErrorOk) (parts : List (List UInt8)) (w : Written)
    (hmem : part ∈ parts) : (sendParts send parts w).ret ≠ dltDaemonErrorOk := by
  induction parts generalizing w with
  | nil => cases hmem
  | cons first parts ih =>
    rcases mem_cons.mp hmem with rfl | hmem
    · have hfails : (w.andThen fun calls => send calls part).ret ≠ dltDaemonErrorOk := by
        unfold Written.andThen
        split_ifs with hok
        · exact hsend w.calls
        · exact hok
      rw [sendParts, sendParts_failed _ hfails]
      exact hfails
    · exact ih _ hmem

theorem not_sent_of_not_takes (hclient : con.type.isClient = true) (h : ¬ Takes data1 data2 con)
    (results : ℕ → IoResult) (serialheader : Bool) :
    con.type ≠ .clientMsgTcp ∧
      (dltConnectionSendMultiple con.type results serialheader data1 data2).ret ≠ dltDaemonErrorOk := by
  have htcp : con.type ≠ .clientMsgTcp := fun htcp => h ⟨hclient, .inl htcp⟩
  have hserial : con.type = .clientMsgSerial := by
    cases htype : con.type <;> rw [htype] at hclient htcp <;> first | exact absurd rfl htcp | rfl | cases hclient
  refine ⟨htcp, ?_⟩
  rw [hserial]
  refine @sendParts_ret _ [] (serialSend_empty results) _ _ ?_
  have hempty : data1 = some [] ∨ data2 = some [] := by
    by_contra hnone
    rw [not_or] at hnone
    exact h ⟨hclient, .inr hnone⟩
  rcases hempty with rfl | rfl
  · simp
  · simp

theorem sent_of_takes (h : Takes data1 data2 con) {results : ℕ → IoResult}
    (hresults : ∀ calls, results calls ≠ .error) (serialheader : Bool) :
    (dltConnectionSendMultiple con.type results serialheader data1 data2).ret = dltDaemonErrorOk := by
  obtain ⟨hclient, htcp | ⟨hdata1, hdata2⟩⟩ := h
  · rw [htcp]
    exact sendMultiple_tcp_ok hresults ..
  · cases htype : con.type <;> rw [htype] at hclient <;> try cases hclient
    · exact sendMultiple_tcp_ok hresults ..
    · refine sendParts_ok (fun calls part hpart => serialSend_ok hresults calls ?_) rfl
      rintro rfl
      unfold headerPart at hpart
      cases data1 <;> cases data2 <;> cases serialheader <;> simp_all [dltSerialHeader]

section quiet

variable {send : Sock → Option (List UInt8) → Option (List UInt8) → ClientsState Buf →
  Option (ClientsState Buf × ℤ)} {call : ℕ}

variable (env send) in
/-- **The loop, when a message fails exactly at the clients that cannot get it**: no client is closed. -/
theorem Sound.loopQuiet (k : ℕ) : ∀ (i : ℕ) (s : ClientsState Buf) (sent : ℤ), Sound s → s.pEvent.pfd.length ≤ i + k →
    (∀ con ∈ s.pEvent.polled.drop i, Takes data1 data2 con → ∀ m calls, s.results con.fd m calls ≠ .error) →
    ∃ s' sent', sendAllFrom env send call data1 data2 k i s sent = some (s', sent') ∧ SentOnly s s' ∧
      ((∃ con ∈ s.pEvent.polled.drop i, Takes data1 data2 con) → sent' = 1) ∧
      ((∀ con ∈ s.pEvent.polled.drop i, ¬ Takes data1 data2 con) → sent' = sent) := by
  induction k with
  | zero =>
    intro i s sent h hk _
    rw [drop_eq_nil_of_le (by rw [h.consistent.length_polled]; omega)]
    refine ⟨s, sent, rfl, .refl s, ?_, fun _ => rfl⟩
    rintro ⟨con, hcon, -⟩
    cases hcon
  | succ k ih =>
    intro i s sent h hk hresults
    by_cases hi : i < s.pEvent.polled.length
    · obtain ⟨con, hget, hdrop⟩ := drop_polled hi
      have hcon := h.consistent.mem_polled.mp (mem_of_getElem? hget)
      rw [hdrop] at hresults ⊢
      rw [sendAllFrom_step h.consistent hget]
      have honly := @sendToClient_only _ data1 data2 call con s
      have hret : (sendToClient call data1 data2 con s).2 = (dltConnectionSendMultiple con.type
          (s.results con.fd (s.messages con.fd)) s.daemon.sendserialheader data1 data2).ret := by
        unfold sendToClient ClientsState.nextResults
        rw [h.consistent.find hcon]
      generalize sendToClient call data1 data2 con s = r at honly hret ⊢
      have hgo : ∀ {s₁ : ClientsState Buf} (sent : ℤ), SentOnly s s₁ → ∃ s' sent',
          sendAllFrom env send call data1 data2 k (i + 1) s₁ sent = some (s', sent') ∧ SentOnly s s' ∧
            ((∃ con ∈ s.pEvent.polled.drop (i + 1), Takes data1 data2 con) → sent' = 1) ∧
            ((∀ con ∈ s.pEvent.polled.drop (i + 1), ¬ Takes data1 data2 con) → sent' = sent) := by
        intro s₁ sent honly
        obtain ⟨s', sent', hloop, hrest, hone, hnone⟩ := ih (i + 1) s₁ sent (honly.sound h)
          (by rw [honly.pEvent]; omega) (by
            rw [honly.pEvent, honly.results]
            exact fun con hcon => hresults con (mem_cons_of_mem _ hcon))
        rw [honly.pEvent] at hone hnone
        exact ⟨s', sent', hloop, honly.trans hrest, hone, hnone⟩
      by_cases htakes : Takes data1 data2 con
      · have hok := sent_of_takes htakes (hresults con mem_cons_self htakes (s.messages con.fd))
          s.daemon.sendserialheader
        rw [if_pos htakes.1, if_pos (hret.trans hok)]
        obtain ⟨s', sent', hloop, hrest, hone, hnone⟩ := hgo 1 honly
        refine ⟨s', sent', hloop, hrest, fun _ => ?_, fun hall => absurd htakes (hall con mem_cons_self)⟩
        by_cases hex : ∃ con ∈ s.pEvent.polled.drop (i + 1), Takes data1 data2 con
        · exact hone hex
        · exact hnone fun con hcon htakes => hex ⟨con, hcon, htakes⟩
      · have hstep : ∃ s₁, SentOnly s s₁ ∧ (if con.type.isClient then
            if r.2 = dltDaemonErrorOk then sendAllFrom env send call data1 data2 k (i + 1) r.1 1
            else if con.type = .clientMsgTcp then (dltDaemonCloseSocket env send con.fd r.1).bind fun s =>
              sendAllFrom env send call data1 data2 k (i + 1) s sent
            else sendAllFrom env send call data1 data2 k (i + 1) r.1 sent
          else sendAllFrom env send call data1 data2 k (i + 1) s sent) =
            sendAllFrom env send call data1 data2 k (i + 1) s₁ sent := by
          by_cases hclient : con.type.isClient = true
          · obtain ⟨htcp, hfails⟩ := not_sent_of_not_takes hclient htakes (s.results con.fd (s.messages con.fd))
              s.daemon.sendserialheader
            rw [if_pos hclient, if_neg (by rw [hret]; exact hfails), if_neg htcp]
            exact ⟨r.1, honly, rfl⟩
          · rw [if_neg hclient]
            exact ⟨s, .refl s, rfl⟩
        obtain ⟨s₁, honly₁, hstep⟩ := hstep
        rw [hstep]
        obtain ⟨s', sent', hloop, hrest, hone, hnone⟩ := hgo sent honly₁
        refine ⟨s', sent', hloop, hrest, ?_, fun hall => hnone fun con hcon => hall con (mem_cons_of_mem _ hcon)⟩
        rintro ⟨con', hcon', htakes'⟩
        rcases mem_cons.mp hcon' with rfl | hcon'
        · exact absurd htakes' htakes
        · exact hone ⟨con', hcon', htakes'⟩
    · have hlength := h.consistent.length_polled
      rw [sendAllFrom_end (by omega), drop_eq_nil_of_le (by omega)]
      refine ⟨s, sent, rfl, .refl s, ?_, fun _ => rfl⟩
      rintro ⟨con, hcon, -⟩
      cases hcon

variable (env send) in
/-- A message that goes to all clients, when all that can get it do. -/
theorem Sound.sendToAllQuiet (h : Sound s) (force : Bool)
    (hresults : ∀ con ∈ s.pEvent.polled, Takes data1 data2 con → ∀ m calls, s.results con.fd m calls ≠ .error) :
    ∃ s' sent, sendToAll env send force data1 data2 s = some (s', sent) ∧ SentOnly { s with calls := s'.calls } s' ∧
      (sent = 0 ↔ (s.daemon.mode.isExternal = true ∧ (force = true ∨ s.daemon.state = .sendDirect)) ∧
        ∀ con ∈ s.pEvent.polled, ¬ Takes data1 data2 con) := by
  unfold sendToAll
  split_ifs with hgoes
  · obtain ⟨s', sent, hloop, honly, hone, hnone⟩ := @Sound.loopQuiet _ env data1 data2 send s.calls s.pEvent.pfd.length
      0 { s with calls := s.calls + 1 } 0 ⟨h.consistent, h.count⟩ (Nat.zero_add _).ge hresults
    refine ⟨s', sent, hloop, honly.calls ▸ honly, fun hsent => ⟨hgoes, ?_⟩, fun hno => hnone hno.2⟩
    intro con hcon htakes
    rw [hone ⟨con, hcon, htakes⟩] at hsent
    exact absurd hsent one_ne_zero
  · exact ⟨s, 1, rfl, .refl s, fun hsent => absurd hsent one_ne_zero, fun hno => absurd hno.1 hgoes⟩

end quiet

/-! ## The own messages -/

theorem OwnMessage.payload_ne_nil {header payload : List UInt8} (h : OwnMessage header payload) : payload ≠ [] := by
  cases h with
  | disconnected => exact nofun
  | internal => exact nofun
  | overflow => exact nofun

theorem Sound.serving (h : Sound s) (hresults : s.results = allWritten) : Serving (fun _ => false) s := by
  refine ⟨h.consistent, h.count, fun header payload hown con _ hclient m _ => iff_of_true ?_ rfl⟩
  rw [hresults]
  refine sent_of_takes ⟨hclient, .inr ⟨?_, ?_⟩⟩ (fun _ => IoResult.noConfusion) _
  · exact fun hempty => hown.header_ne_nil (Option.some.inj hempty)
  · exact fun hempty => hown.payload_ne_nil (Option.some.inj hempty)

/-- **The report of lost messages is never done**, when all sends succeed. -/
theorem Sound.reportOverflow_hangs (h : Sound s) (hresults : s.results = allWritten)
    (hover : 0 < s.daemon.overflowCounter) (hclients : 0 < s.clientConnections)
    (hbuffering : s.daemon.state.isBuffering = false) (fuel : ℕ) :
    reportOverflow env (dltDaemonClientSend env fuel) s = none := by
  apply (hangs_clientSend env fuel).reportOverflow (h.serving hresults)
  refine ⟨hover, hbuffering, ?_⟩
  have hfailing : failing (fun _ => false) s = 0 :=
    countP_eq_zero.mpr fun con _ hcloses => Bool.noConfusion ((Bool.and_eq_true _ _).mp hcloses).2
  unfold depth
  rw [hfailing, ite_self]
  exact hclients

/-! ## When sending returns -/

/-- A message reports lost messages to a client, and the report does so again. -/
def Reports (sock : Sock) (data1 data2 : Option (List UInt8)) (s : ClientsState Buf) : Prop :=
  0 < s.daemon.overflowCounter ∧ 0 < s.clientConnections ∧ s.daemon.state.isBuffering = false ∧
    match sock with
    | .fd _ => False
    | .toAll => True
    | .force => s.daemon.mode.isExternal = true → ∃ con ∈ s.pEvent.polled, Takes data1 data2 con

/-- **A report is never done**, when all sends succeed. -/
theorem Reports.hangs (h : Sound s) {sock : Sock} (hreports : Reports sock data1 data2 s)
    (hresults : s.results = allWritten) (fuel : ℕ) : dltDaemonClientSend env fuel sock data1 data2 s = none := by
  cases fuel with
  | zero => rfl
  | succ fuel =>
    obtain ⟨hover, hclients, hbuffering, hsock⟩ := hreports
    have hreport : ∀ {s' : ClientsState Buf}, SentOnly { s with calls := s'.calls } s' →
        reportOverflow env (dltDaemonClientSend env fuel) s' = none := by
      intro s' honly
      apply (honly.sound ⟨h.consistent, h.count⟩).reportOverflow_hangs (honly.results.trans hresults)
      · rw [honly.daemon]
        exact hover
      · rw [honly.clientConnections]
        exact hclients
      · rw [honly.daemon]
        exact hbuffering
    have hall : ∀ con ∈ s.pEvent.polled, Takes data1 data2 con → ∀ m calls, s.results con.fd m calls ≠ .error := by
      rw [hresults]
      exact fun _ _ _ _ _ => IoResult.noConfusion
    unfold dltDaemonClientSend clientSend
    cases sock with
    | fd sock => exact hsock.elim
    | toAll =>
      obtain ⟨s', sent, hsend, honly, -⟩ := h.sendToAllQuiet env (dltDaemonClientSend env fuel) false hall
      have hbuffering' : s'.daemon.state.isBuffering = false := by
        rw [honly.daemon]
        exact hbuffering
      simp only [hsend, bind_eq_bind, bind_some, hbuffering', Bool.false_eq_true, if_false]
      exact hreport honly
    | force =>
      obtain ⟨s', sent, hsend, honly, hsent⟩ := h.sendToAllQuiet env (dltDaemonClientSend env fuel) true hall
      have hne : sent ≠ 0 := by
        intro hzero
        obtain ⟨⟨hmode, -⟩, hnone⟩ := hsent.mp hzero
        obtain ⟨con, hcon, htakes⟩ := hsock hmode
        exact hnone con hcon htakes
      simp only [hsend, bind_eq_bind, bind_some, hne, if_false]
      exact hreport honly

/-- A state that does not report is calm, or nobody gets the message that is forced. -/
theorem calm_of_not_reports {sock : Sock} (hreports : ¬ Reports sock data1 data2 s) :
    Calm s ∨ (∃ fd, sock = .fd fd) ∨
      sock = .force ∧ s.daemon.mode.isExternal = true ∧ ∀ con ∈ s.pEvent.polled, ¬ Takes data1 data2 con := by
  by_cases hcalm : Calm s
  · exact .inl hcalm
  · right
    unfold Calm at hcalm
    rw [not_or, not_or] at hcalm
    obtain ⟨hover, hclients, hbuffering⟩ := hcalm
    have hreports' := fun hsock => hreports ⟨by omega, by omega, Bool.eq_false_of_not_eq_true hbuffering, hsock⟩
    cases sock with
    | fd fd => exact .inl ⟨fd, rfl⟩
    | toAll => exact absurd trivial hreports'
    | force =>
      obtain ⟨hmode, hnone⟩ := Classical.not_imp.mp hreports'
      exact .inr ⟨rfl, hmode, fun con hcon htakes => hnone ⟨con, hcon, htakes⟩⟩

/-- **A forced message returns** in a calm state. -/
theorem Calm.force_returns (hcalm : Calm s) (h : Sound s) {bound : ℕ} (hbound : s.clientConnections < bound) :
    ∃ r, dltDaemonClientSend env (bound + 1) .force data1 data2 s = some r := by
  have hreturns := returns_clientSend env bound
  obtain ⟨s₁, sent, hsend, h₁⟩ := @Returns.sendToAll _ env s data1 data2 _ _ hreturns true h hcalm hbound.le
  unfold dltDaemonClientSend clientSend
  simp only [hsend, bind_eq_bind, bind_some]
  split_ifs
  · exact ⟨_, rfl⟩
  · exact hreturns.reportOverflow h₁.sound h₁.calm (h₁.clients.trans_lt hbound)

/-- **Sending a message returns, whatever the sends give,** exactly when it does not report lost messages. -/
theorem clientSend_returns_iff (env : ClientsEnv Buf) (sock : Sock) (data1 data2 : Option (List UInt8))
    (s : ClientsState Buf) (h : Sound s) :
    (∀ results, ∃ fuel r, dltDaemonClientSend env fuel sock data1 data2 { s with results } = some r) ↔
      ¬ Reports sock data1 data2 s := by
  constructor
  · intro hreturns hreports
    obtain ⟨fuel, r, hr⟩ := hreturns allWritten
    rw [@Reports.hangs _ env { s with results := allWritten } _ _ ⟨h.consistent, h.count⟩ sock hreports rfl fuel] at hr
    cases hr
  · intro hreports results
    have h' : Sound { s with results } := ⟨h.consistent, h.count⟩
    have hbound : s.clientConnections < (s.clientConnections.toNat + 1 : ℕ) := by omega
    rcases calm_of_not_reports hreports with hcalm | ⟨fd, rfl⟩ | ⟨rfl, hmode, hnone⟩
    · have hcalm' : Calm { s with results } := hcalm
      cases sock with
      | fd fd => exact ⟨1, _, rfl⟩
      | toAll =>
        obtain ⟨s', ret, hsend, -⟩ := returns_clientSend env _ { s with results } data1 data2 h' hcalm' hbound
        exact ⟨_, _, hsend⟩
      | force => exact ⟨_, hcalm'.force_returns h' hbound⟩
    · exact ⟨1, _, rfl⟩
    · obtain ⟨s', sent, hsend, -, hsent⟩ := h'.sendToAllQuiet env (dltDaemonClientSend env 0) true
        fun con hcon htakes => absurd htakes (hnone con hcon)
      refine ⟨1, (s', dltDaemonErrorSendFailed), ?_⟩
      unfold dltDaemonClientSend clientSend
      simp only [hsend, bind_eq_bind, bind_some, hsent.mpr ⟨⟨hmode, .inl rfl⟩, hnone⟩, if_true]
      rfl

/-- No message was lost: sending returns, also when every send fails. -/
theorem clientSend_returns_sample : ∃ fuel r, dltDaemonClientSend sampleClientsEnv fuel .toAll (some [1, 2])
    (some [3]) { sampleClients fun _ => false with results := fun _ _ _ => .error } = some r :=
  (clientSend_returns_iff sampleClientsEnv .toAll (some [1, 2]) (some [3]) (sampleClients fun _ => false)
    (sampleClients_serving _).sound).mpr (fun hreports => absurd hreports.1 (by decide)) _

/-- Two clients, and one message was lost before. -/
def lostOne : ClientsState Unit :=
  { sampleClients fun _ => false with daemon := { emptyDaemon with state := .sendDirect, overflowCounter := 1 } }

/-- **One message was lost, and all sends succeed**: the report calls itself again and again. -/
theorem clientSend_not_returns :
    Sound lostOne ∧ ¬ ∃ fuel r, dltDaemonClientSend sampleClientsEnv fuel .toAll (some [1, 2]) (some [3]) lostOne =
      some r := by
  have hserving := sampleClients_serving fun _ => false
  have hlost : Serving (fun _ => false) lostOne := ⟨hserving.consistent, hserving.count, hserving.own⟩
  have hfated : Fated (fun _ => false) (some [1, 2]) (some [3]) lostOne :=
    sampleClients_fated (fun _ => false) (by decide) (some [3])
  refine ⟨hlost.sound, ?_⟩
  rintro ⟨fuel, r, hr⟩
  rw [hangs_clientSend sampleClientsEnv fuel lostOne _ _ hlost ⟨by decide, rfl, by decide⟩ hfated] at hr
  cases hr

end Dlt.Daemon
