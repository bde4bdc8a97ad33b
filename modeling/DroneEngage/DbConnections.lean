import DroneEngage.DbRequests

/-! The connections to the storage server, one after the other.

    A socket that was replaced still hands its events to the handlers, which act on the module and so
    on the connection that replaced it. As long as no replaced socket opens, fails or closes, and what
    it says concerns no one, the successor is left alone and no second socket is opened beside it. -/

namespace DroneEngage
open Js

namespace DbProxyClient

open Action

variable {s s' : DbProxyClient} {w : WsId} {t : TimerId}

/-- Open or connecting, and not asked to close. -/
def live (s : DbProxyClient) (w : WsId) : Prop :=
  s.sockets w = .connecting ∨ s.sockets w = .isOpen

instance (s : DbProxyClient) (w : WsId) : Decidable (s.live w) := inferInstanceAs (Decidable (_ ∨ _))

theorem live_setSocket_ne {v : WsId} (x : WsState) (h : w ≠ v) :
    (s.setSocket v x).live w ↔ s.live w := by
  simp only [live, setSocket, Function.update_of_ne h]

theorem live_setSocket_self (x : WsState) :
    (s.setSocket w x).live w ↔ x = .connecting ∨ x = .isOpen := by
  simp only [live, setSocket, Function.update_self]

/-! ### Parts that leave the connection alone -/

/-- The connection stays, except that sockets may be closed and timers disarmed. -/
structure Steady (s s' : DbProxyClient) : Prop where
  ws : s'.ws = s.ws
  nextSocket : s'.nextSocket = s.nextSocket
  s2sAuthTimer : s'.s2sAuthTimer = s.s2sAuthTimer
  sockets : ∀ w, s'.sockets w = s.sockets w ∨ ¬ s'.live w ∧ s.sockets w ≠ .closed
  s2sAuth : ∀ t, s'.timers t = some .s2sAuth → s.timers t = some .s2sAuth

instance : IsPreorder DbProxyClient Steady where
  refl := fun _ => ⟨rfl, rfl, rfl, fun _ => Or.inl rfl, fun _ => id⟩
  trans := fun s t u h h' => by
    refine ⟨h'.ws.trans h.ws, h'.nextSocket.trans h.nextSocket,
      h'.s2sAuthTimer.trans h.s2sAuthTimer, fun w => ?_, fun t ht => h.s2sAuth t (h'.s2sAuth t ht)⟩
    rcases h.sockets w with hw | ⟨hdead, hw⟩
    · rcases h'.sockets w with hw' | ⟨hdead', hw'⟩
      · exact Or.inl (hw'.trans hw)
      · exact Or.inr ⟨hdead', hw ▸ hw'⟩
    · refine Or.inr ⟨?_, hw⟩
      rcases h'.sockets w with hw' | ⟨hdead', -⟩
      · rw [live, hw']
        exact hdead
      · exact hdead'

/-- And neither its authentication nor a planned reconnect changes. -/
structure Quiet (s s' : DbProxyClient) : Prop extends Steady s s' where
  authenticated : s'.authenticated = s.authenticated
  reconnectTimer : s'.reconnectTimer = s.reconnectTimer
  reconnect : ∀ t, s'.timers t = some .reconnect → s.timers t = some .reconnect

instance : IsPreorder DbProxyClient Quiet where
  refl := fun s => ⟨refl_of Steady s, rfl, rfl, fun _ => id⟩
  trans := fun _ _ _ h h' => ⟨trans_of Steady h.toSteady h'.toSteady,
    h'.authenticated.trans h.authenticated, h'.reconnectTimer.trans h.reconnectTimer,
    fun t ht => h.reconnect t (h'.reconnect t ht)⟩

/-- Writes to the other fields. -/
theorem steady_write (hws : s'.ws = s.ws) (hnext : s'.nextSocket = s.nextSocket)
    (hs2s : s'.s2sAuthTimer = s.s2sAuthTimer) (hsockets : s'.sockets = s.sockets)
    (htimers : s'.timers = s.timers) : Steady s s' :=
  ⟨hws, hnext, hs2s, fun w => Or.inl (congrFun hsockets w), fun _ ht => htimers ▸ ht⟩

theorem quiet_write (h : Steady s s') (hauth : s'.authenticated = s.authenticated)
    (hreconnect : s'.reconnectTimer = s.reconnectTimer) (htimers : s'.timers = s.timers) :
    Quiet s s' :=
  ⟨h, hauth, hreconnect, fun _ ht => htimers ▸ ht⟩

theorem quiet_emit (x : DbEffect) (s : DbProxyClient) : Quiet s (s.emit x) :=
  quiet_write (steady_write rfl rfl rfl rfl rfl) rfl rfl rfl

theorem timers_disarm {u : TimerId} {x : Timeout} (h : (s.disarm u).timers t = some x) :
    t ≠ u ∧ s.timers t = some x := by
  simp only [disarm, Function.update_apply] at h
  split at h
  · exact absurd h (by simp)
  · next hne => exact ⟨hne, h⟩

theorem quiet_disarm (u : TimerId) (s : DbProxyClient) : Quiet s (s.disarm u) :=
  ⟨⟨rfl, rfl, rfl, fun _ => Or.inl rfl, fun _ ht => (timers_disarm ht).2⟩, rfl, rfl,
    fun _ ht => (timers_disarm ht).2⟩

theorem quiet_disarm? (u : Option TimerId) (s : DbProxyClient) : Quiet s (s.disarm? u) := by
  cases u with
  | none => exact refl_of Quiet s
  | some u => exact quiet_disarm u s

theorem timers_armed {x y : Timeout} (hne : x ≠ y) (h : (s.armed x).timers t = some y) :
    s.timers t = some y := by
  simp only [armed, Function.update_apply] at h
  split at h
  · exact absurd (Option.some.inj h) hne
  · exact h

theorem quiet_armed {x : Timeout} (hx : x ≠ .reconnect) (hx' : x ≠ .s2sAuth) (s : DbProxyClient) :
    Quiet s (s.armed x) :=
  ⟨⟨rfl, rfl, rfl, fun _ => Or.inl rfl, fun _ => timers_armed hx'⟩, rfl, rfl,
    fun _ => timers_armed hx⟩

/-- A socket is on its way to be closed. -/
theorem quiet_setSocket {x : WsState} (hx : ¬ (x = .connecting ∨ x = .isOpen))
    (hw : s.sockets w ≠ .closed) : Quiet s (s.setSocket w x) := by
  refine ⟨⟨rfl, rfl, rfl, fun v => ?_, fun _ => id⟩, rfl, rfl, fun _ => id⟩
  by_cases hv : v = w
  · subst hv
    exact Or.inr ⟨fun hlive => hx ((live_setSocket_self x).mp hlive), hw⟩
  · exact Or.inl (by simp [setSocket, hv])

theorem quiet_closeSocket (w : WsId) : Moves Quiet (closeSocket w) := by
  intro s
  rw [closeSocket, final_modify]
  cases hw : s.sockets w with
  | connecting | isOpen => exact quiet_setSocket (by simp) (by simp [hw])
  | closing | closed => exact refl_of Quiet s

theorem quiet_send (w : WsId) (x : DbEffect) : Moves Quiet (send w x) := by
  refine moves_bind moves_get fun s => ?_
  cases s.sockets w with
  | connecting => exact moves_throw _
  | isOpen => exact moves_modify (quiet_emit x)
  | closing | closed => exact moves_pure ()

theorem quiet_sendStorageStatus (status : StorageState) (error : Option String) (force : Bool) :
    Moves Quiet (sendStorageStatus status error force) := by
  refine moves_bind moves_get fun s => moves_ite (fun _ => ?_) fun _ => moves_pure ()
  exact moves_bind (moves_modify fun _ => quiet_write (steady_write rfl rfl rfl rfl rfl) rfl rfl rfl) fun _ =>
    moves_modify (quiet_emit _)

theorem quiet_startHeartbeat : Moves Quiet startHeartbeat := by
  refine moves_bind (moves_modify fun s => quiet_disarm? _ s) fun _ s => ?_
  rw [final_bind_of_ok (run_setTimer _ s), final_modify]
  refine trans_of Quiet (quiet_armed (x := .heartbeat) (by simp) (by simp) s) ?_
  exact quiet_write (steady_write rfl rfl rfl rfl rfl) rfl rfl rfl

theorem quiet_stopHeartbeat : Moves Quiet stopHeartbeat := by
  refine moves_modify fun s => trans_of Quiet (quiet_disarm? s.heartbeatTimer s) ?_
  exact quiet_write (steady_write rfl rfl rfl rfl rfl) rfl rfl rfl

theorem quiet_clearPending : Moves Quiet clearPending := by
  refine moves_bind moves_get fun s => moves_bind (moves_forEach _ fun req _ => ?_) fun _ =>
    moves_modify fun _ => quiet_write (steady_write rfl rfl rfl rfl rfl) rfl rfl rfl
  exact moves_bind (moves_modify (quiet_disarm req.timeout)) fun _ => moves_modify (quiet_emit _)

theorem quiet_settleRow (rid : String) (req : PendingRequest) (x : RequestOutcome) (s : DbProxyClient) :
    Quiet s (s.settleRow rid req x) := by
  refine trans_of Quiet (quiet_disarm req.timeout s) ?_
  exact quiet_write (steady_write rfl rfl rfl rfl rfl) rfl rfl rfl

/-- What any message but `auth_success` does. -/
theorem quiet_onStorageMessage {msg : Json} (h : msg.field "type" ≠ some (.str "auth_success")) :
    Moves Quiet (onStorageMessage msg) := by
  intro s
  rcases final_onStorageMessage h s with ⟨k, req, -, -, hf⟩ | hf | hf
  · rw [hf]
    exact quiet_settleRow k req _ s
  · rw [hf]
    exact quiet_emit _ s
  · rw [hf]
    exact refl_of Quiet s

theorem quiet_onError (message : String) : Moves Quiet (onError message) := by
  refine moves_bind (moves_modify fun _ => quiet_write (steady_write rfl rfl rfl rfl rfl) rfl rfl rfl)
    fun _ => moves_bind (quiet_sendStorageStatus _ _ _) fun _ => moves_bind moves_get fun s => ?_
  cases s.ws with
  | none => exact moves_pure ()
  | some w => exact quiet_closeSocket w

theorem quiet_heartbeat : Moves Quiet heartbeat :=
  moves_bind moves_get fun _ => quiet_sendStorageStatus _ _ _

theorem quiet_requestTimeout (p : PromiseId) (rid : String) : Moves Quiet (requestTimeout p rid) :=
  moves_bind (moves_modify fun _ => quiet_write (steady_write rfl rfl rfl rfl rfl) rfl rfl rfl) fun _ =>
    moves_modify (quiet_emit _)

theorem quiet_entered (rid : String) (s : DbProxyClient) : Quiet s (s.entered rid) := by
  refine trans_of Quiet (quiet_armed (x := .request s.nextPromise rid) (by simp) (by simp) s) ?_
  exact quiet_write (steady_write rfl rfl rfl rfl rfl) rfl rfl rfl

theorem quiet_sendRequest {rid : String} (mt ms : Json) (fails : Bool) (hrid : s.FreshRid rid) :
    Quiet s ((sendRequest mt ms rid fails).final s) := by
  rcases final_sendRequest mt ms fails hrid with ⟨-, h⟩ | ⟨w, -, -, -, h⟩ | ⟨-, -, h⟩
  · rw [h]
    exact quiet_write (steady_write rfl rfl rfl rfl rfl) rfl rfl rfl
  · rw [h]
    exact trans_of Quiet (quiet_entered rid s) (quiet_emit _ _)
  · rw [h]
    exact trans_of Quiet (quiet_entered rid s) (quiet_settleRow rid _ _ _)

/-! ### Parts that open no socket -/

/-- No socket is opened or replaced, and no reconnect is planned. -/
structure OpensNone (s s' : DbProxyClient) : Prop where
  ws : s'.ws = s.ws
  reconnectTimer : s'.reconnectTimer = s.reconnectTimer
  live : ∀ w, s'.live w → s.live w
  reconnect : ∀ t, s'.timers t = some .reconnect → s.timers t = some .reconnect

instance : IsPreorder DbProxyClient OpensNone where
  refl := fun _ => ⟨rfl, rfl, fun _ => id, fun _ => id⟩
  trans := fun _ _ _ h h' => ⟨h'.ws.trans h.ws, h'.reconnectTimer.trans h.reconnectTimer,
    fun w hw => h.live w (h'.live w hw), fun t ht => h.reconnect t (h'.reconnect t ht)⟩

theorem Quiet.opensNone (h : Quiet s s') : OpensNone s s' where
  ws := h.ws
  reconnectTimer := h.reconnectTimer
  reconnect := h.reconnect
  live := fun w hw => by
    rcases h.sockets w with hsame | ⟨hdead, -⟩
    · rw [live, ← hsame]
      exact hw
    · exact absurd hw hdead

theorem quiet_opensNone {α : Type} {m : Action DbProxyClient α} (h : Moves Quiet m) :
    Moves OpensNone m := h.mono Quiet.opensNone

theorem opensNone_write (hws : s'.ws = s.ws) (hreconnect : s'.reconnectTimer = s.reconnectTimer)
    (hsockets : s'.sockets = s.sockets) (htimers : s'.timers = s.timers) : OpensNone s s' :=
  ⟨hws, hreconnect, fun w hw => by rwa [live, hsockets] at hw, fun _ ht => htimers ▸ ht⟩

theorem opensNone_setConnected : Moves OpensNone setConnected :=
  moves_bind (moves_modify fun _ => opensNone_write rfl rfl rfl rfl) fun _ =>
    moves_bind (quiet_opensNone (quiet_sendStorageStatus _ _ _)) fun _ =>
      quiet_opensNone quiet_startHeartbeat

theorem opensNone_clearS2sAuthTimer : Moves OpensNone clearS2sAuthTimer := by
  refine moves_modify fun s => trans_of OpensNone (quiet_disarm? s.s2sAuthTimer s).opensNone ?_
  exact opensNone_write rfl rfl rfl rfl

theorem opensNone_onOpen : Moves OpensNone onOpen := by
  refine moves_bind (moves_modify fun _ => opensNone_write rfl rfl rfl rfl) fun _ =>
    moves_bind (quiet_opensNone (quiet_sendStorageStatus _ _ _)) fun _ =>
      moves_bind (moves_modify fun s => (quiet_disarm? _ s).opensNone) fun _ s => ?_
  rw [final_bind_of_ok (run_setTimer _ s), final_modify]
  exact ⟨rfl, rfl, fun _ => id, fun _ => timers_armed (x := .s2sAuth) (by simp)⟩

theorem opensNone_s2sAuthTimeout : Moves OpensNone s2sAuthTimeout :=
  moves_bind moves_get fun _ => moves_ite (fun _ => opensNone_setConnected) fun _ => moves_pure ()

section

variable {PrivateKey PublicKey : Type} (E : StorageSettings PrivateKey PublicKey)

theorem opensNone_onEnvelope (env : Json) : Moves OpensNone (onEnvelope E env) := by
  refine moves_bind moves_get fun s => ?_
  cases s.ws with
  | none => exact moves_pure ()
  | some w =>
    refine moves_ite (fun _ => ?_) fun _ => moves_pure ()
    exact moves_bind opensNone_clearS2sAuthTimer fun _ => moves_attempt
      (moves_bind (moves_ofExcept _) fun _ => quiet_opensNone (quiet_send w _))
      fun _ => quiet_opensNone (quiet_closeSocket w)

theorem opensNone_onStorageMessage (msg : Json) : Moves OpensNone (onStorageMessage msg) := by
  by_cases h : msg.field "type" = some (.str "auth_success")
  · rw [onStorageMessage_success h]
    exact moves_bind opensNone_clearS2sAuthTimer fun _ => opensNone_setConnected
  · exact quiet_opensNone (quiet_onStorageMessage h)

theorem opensNone_onMessage (data : Bytes) (isText : Bool) :
    Moves OpensNone (onMessage E data isText) := by
  rw [onMessage]
  cases S2sAuth.parseEnvelope E.J data isText with
  | some env => exact opensNone_onEnvelope E env
  | none =>
    cases E.J.parse data with
    | none => exact moves_pure ()
    | some msg => exact opensNone_onStorageMessage msg

end

/-! ### At most one live socket -/

/-- The only live socket is the current one, and a reconnect is planned only while there is none. -/
structure Single (s : DbProxyClient) : Prop where
  live : ∀ w, s.live w → s.ws = some w
  reconnect : ∀ t, s.timers t = some .reconnect → s.reconnectTimer = some t ∧ s.ws = none

theorem OpensNone.single (h : OpensNone s s') (hs : s.Single) : s'.Single where
  live := fun w hw => by
    rw [h.ws]
    exact hs.live w (h.live w hw)
  reconnect := fun t ht => by
    rw [h.reconnectTimer, h.ws]
    exact hs.reconnect t (h.reconnect t ht)

/-- There is no connection and none is planned. -/
structure Idle (s : DbProxyClient) : Prop where
  ws : s.ws = none
  live : ∀ w, ¬ s.live w
  reconnect : ∀ t, s.timers t ≠ some .reconnect

theorem OpensNone.idle (h : OpensNone s s') (hs : s.Idle) : s'.Idle :=
  ⟨h.ws.trans hs.ws, fun w hw => hs.live w (h.live w hw),
    fun t ht => hs.reconnect t (h.reconnect t ht)⟩

theorem Idle.single (h : s.Idle) : s.Single :=
  ⟨fun w hw => absurd hw (h.live w), fun t ht => absurd ht (h.reconnect t)⟩

theorem Single.disarmReconnect (hs : s.Single) (hws : s.ws = none) :
    (s.disarm? s.reconnectTimer).Idle where
  ws := ((quiet_disarm? s.reconnectTimer s).ws).trans hws
  live := fun w hw => by
    have hlive := hs.live w ((quiet_disarm? s.reconnectTimer s).opensNone.live w hw)
    rw [hws] at hlive
    exact absurd hlive (by simp)
  reconnect := fun t ht => by
    have hold := (quiet_disarm? s.reconnectTimer s).reconnect t ht
    rw [(hs.reconnect t hold).1] at ht
    exact (timers_disarm ht).1 rfl

/-- A socket is opened where there is none. -/
theorem Single.connectInternal (hs : s.Single) (hws : s.ws = none) (validUrl : Endpoint → Bool) :
    ((connectInternal validUrl).final s).Single := by
  rw [DbProxyClient.connectInternal, final_get_bind]
  cases s.currentEndpoint with
  | none => exact hs
  | some endpoint =>
    have hidle := hs.disarmReconnect hws
    rw [final_modify_bind]
    split
    · rw [final_modify]
      refine ⟨fun w hw => ?_, fun t ht => absurd ht (hidle.reconnect t)⟩
      by_cases hnew : w = (s.disarm? s.reconnectTimer).nextSocket
      · rw [hnew]
      · exact absurd ((live_setSocket_ne .connecting hnew).mp hw) (hidle.live w)
    · exact ⟨fun w hw => absurd hw (hidle.live w), fun t ht => absurd ht (hidle.reconnect t)⟩

theorem dead_closeSocket (w : WsId) (s : DbProxyClient) : ¬ ((closeSocket w).final s).live w := by
  rw [closeSocket, final_modify]
  cases hw : s.sockets w with
  | connecting | isOpen => simp [live_setSocket_self]
  | closing | closed => simp [live, hw]

theorem Single.connect (hs : s.Single) (validUrl : Endpoint → Bool) (endpoint : Endpoint) :
    ((connect validUrl endpoint).final s).Single := by
  have hrest : ∀ s : DbProxyClient, s.Single → s.ws = none → ((do
      Action.modify fun s => { s with authenticated := false, currentEndpoint := some endpoint }
      DbProxyClient.connectInternal validUrl : Action DbProxyClient Unit).final s).Single := by
    intro s hs hws
    have hwrite : Single { s with authenticated := false, currentEndpoint := some endpoint } :=
      ⟨hs.live, hs.reconnect⟩
    rw [final_modify_bind]
    exact hwrite.connectInternal hws validUrl
  rw [DbProxyClient.connect, final_get_bind]
  split
  · exact hs
  · cases hws : s.ws with
    | none => exact hrest s hs hws
    | some w =>
      have hclose := (quiet_closeSocket w s).opensNone
      have hdead : (∀ v, ¬ ((closeSocket w).final s).live v) ∧
          ∀ t, ((closeSocket w).final s).timers t ≠ some .reconnect := by
        refine ⟨fun v hv => ?_, fun t ht => ?_⟩
        · have hv' := hs.live v (hclose.live v hv)
          rw [hws, Option.some.injEq] at hv'
          exact dead_closeSocket w s (hv' ▸ hv)
        · have hnone := (hs.reconnect t (hclose.reconnect t ht)).2
          rw [hws] at hnone
          exact absurd hnone (by simp)
      refine final_bind_leads (P := fun t : DbProxyClient => (∀ v, ¬ t.live v) ∧
        ∀ u, t.timers u ≠ some .reconnect) hdead (fun t ht => ?_) fun _ t ht => ?_
      · exact ⟨fun v hv => absurd hv (ht.1 v), fun u hu => absurd hu (ht.2 u)⟩
      · exact hrest _ ⟨fun v hv => absurd hv (ht.1 v), fun u hu => absurd hu (ht.2 u)⟩ rfl

/-- The current socket is closed. -/
theorem Single.onClose (hs : s.Single) (hws : s.ws = some w) :
    (onClose.final (s.setSocket w .closed)).Single := by
  have hidle : Idle { s.setSocket w .closed with
      authenticated := false, ws := none, connectionState := .disconnected } := by
    refine ⟨rfl, fun v hv => ?_, fun t ht => ?_⟩
    · by_cases hv' : v = w
      · subst hv'
        exact absurd ((live_setSocket_self .closed).mp hv) (by simp)
      · have hlive := hs.live v ((live_setSocket_ne .closed hv').mp hv)
        rw [hws, Option.some.injEq] at hlive
        exact hv' hlive.symm
    · have hnone := (hs.reconnect t ht).2
      rw [hws] at hnone
      exact absurd hnone (by simp)
  rw [DbProxyClient.onClose, final_modify_bind]
  refine final_bind_leads (quiet_stopHeartbeat.mono Quiet.opensNone _ |>.idle hidle)
    (fun _ => Idle.single) fun _ s hs => ?_
  refine final_bind_leads (quiet_sendStorageStatus _ _ _ s |>.opensNone.idle hs)
    (fun _ => Idle.single) fun _ s hs => ?_
  refine final_bind_leads (quiet_clearPending s |>.opensNone.idle hs)
    (fun _ => Idle.single) fun _ s hs => ?_
  refine final_bind_leads (opensNone_clearS2sAuthTimer s |>.idle hs)
    (fun _ => Idle.single) fun _ s hs => ?_
  rw [final_get_bind]
  split
  · rw [final_modify_bind, final_bind_of_ok (run_setTimer _ _), final_modify]
    refine ⟨fun v hv => absurd hv (hs.live v), fun t ht => ?_⟩
    by_cases hnew : t = s.nextTimer
    · exact ⟨by rw [hnew], hs.ws⟩
    · refine absurd ?_ (hs.reconnect t)
      simpa [armed, hnew] using ht
  · exact hs.single

theorem opensNone_setSocket {x : WsState} (hx : (x = .connecting ∨ x = .isOpen) → s.live w) :
    OpensNone s (s.setSocket w x) := by
  refine ⟨rfl, rfl, fun v hv => ?_, fun _ => id⟩
  by_cases hv' : v = w
  · subst hv'
    exact hx ((live_setSocket_self x).mp hv)
  · exact (live_setSocket_ne x hv').mp hv

theorem Single.fire (hs : s.Single) (validUrl : Endpoint → Bool) (t : TimerId) :
    ((fire validUrl t).final s).Single := by
  rw [DbProxyClient.fire, final_get_bind]
  cases htimer : s.timers t with
  | none => exact hs
  | some x =>
    have hdisarm : (s.disarm t).Single := (quiet_disarm t s).opensNone.single hs
    cases x with
    | heartbeat => exact (quiet_heartbeat s).opensNone.single hs
    | reconnect =>
      rw [final_modify_bind]
      exact hdisarm.connectInternal (hs.reconnect t htimer).2 validUrl
    | s2sAuth =>
      rw [final_modify_bind]
      exact (opensNone_s2sAuthTimeout _).single hdisarm
    | request p rid =>
      rw [final_modify_bind]
      exact (quiet_requestTimeout p rid _).opensNone.single hdisarm

/-! ### Events of a replaced socket -/

/-- Was the request sent on the current socket? -/
def sentOnCurrent (s : DbProxyClient) (p : PromiseId) : Bool :=
  s.log.any fun
    | .request w q _ => s.ws = some w && q = p
    | _ => false

/-- The current connection, its requests and its timers stay as they are. -/
structure Undisturbed (s s' : DbProxyClient) : Prop where
  ws : s'.ws = s.ws
  authenticated : s'.authenticated = s.authenticated
  connectionState : s'.connectionState = s.connectionState
  heartbeatTimer : s'.heartbeatTimer = s.heartbeatTimer
  s2sAuthTimer : s'.s2sAuthTimer = s.s2sAuthTimer
  reconnectTimer : s'.reconnectTimer = s.reconnectTimer
  requests : ∀ rid req, s.sentOnCurrent req.promise = true →
    (s'.pendingRequests.own? rid = some req ↔ s.pendingRequests.own? rid = some req)
  timers : ∀ t, (∀ p rid, s.timers t = some (.request p rid) → s.sentOnCurrent p = true) →
    s'.timers t = s.timers t

theorem undisturbed_refl (s : DbProxyClient) : Undisturbed s s :=
  ⟨rfl, rfl, rfl, rfl, rfl, rfl, fun _ _ _ => Iff.rfl, fun _ _ => rfl⟩

theorem undisturbed_emit (x : DbEffect) (s : DbProxyClient) : Undisturbed s (s.emit x) :=
  ⟨rfl, rfl, rfl, rfl, rfl, rfl, fun _ _ _ => Iff.rfl, fun _ _ => rfl⟩

/-- A request of another connection is settled. -/
theorem undisturbed_settleRow {rid : String} {req : PendingRequest} (hb : s.Booked)
    (hrow : s.pendingRequests.own? rid = some req) (hother : s.sentOnCurrent req.promise = false)
    (x : RequestOutcome) : Undisturbed s (s.settleRow rid req x) := by
  refine ⟨rfl, rfl, rfl, rfl, rfl, rfl, fun rid' req' hsent => ?_, fun t ht => ?_⟩
  · change (s.pendingRequests.delete rid).own? rid' = some req' ↔ _
    rw [Table.own?_delete]
    split
    · next heq =>
      subst heq
      rw [hrow]
      refine ⟨fun h => absurd h (by simp), fun h => ?_⟩
      rw [Option.some.inj h, hsent] at hother
      exact absurd hother (by simp)
    · exact Iff.rfl
  · have hne : t ≠ req.timeout := by
      rintro rfl
      have hsent := ht _ _ (hb.row rid req hrow).2.1
      rw [hsent] at hother
      exact absurd hother (by simp)
    simp [settleRow, emit, disarm, hne]

section

variable {PrivateKey PublicKey : Type} (E : StorageSettings PrivateKey PublicKey)

/-- Does a message with this `rid` answer a request of the current connection? -/
def answersCurrent (s : DbProxyClient) (rid : Val) : Bool :=
  match s.pendingFor rid with
  | .ok (some (_, req)) => s.sentOnCurrent req.promise
  | _ => false

/-- Does a message do anything to the current connection? -/
def concerns (s : DbProxyClient) (data : Bytes) (isText : Bool) : Bool :=
  match S2sAuth.parseEnvelope E.J data isText with
  | some env => s.ws.isSome && env.field "s2s_auth" = some (.str S2sAuth.challenge)
  | none => (E.J.parse data).any fun msg =>
    msg.field "type" = some (.str "auth_success") ||
      (msg.field "type" ≠ some (.str "error") && s.answersCurrent (msg.field "rid"))

/-- No socket but the current one opens, fails or closes, and what others say does not concern it. -/
def Spares (s : DbProxyClient) : Op → Prop
  | .opened w | .errored w _ | .closed w => s.ws = some w
  | .message w data isText => s.ws = some w ∨ s.concerns E data isText = false
  | .connect _ | .sendRequest .. | .closing _ | .timer _ => True

/-- Only a challenge is answered, and only on a socket. -/
theorem final_onEnvelope_ignored {env : Json}
    (h : s.ws = none ∨ env.field "s2s_auth" ≠ some (.str S2sAuth.challenge)) :
    (onEnvelope E env).final s = s := by
  rw [onEnvelope, final_get_bind]
  cases hws : s.ws with
  | none => rfl
  | some w =>
    rw [hws] at h
    simp only [if_neg (h.resolve_left (by simp))]
    rfl

variable {E}

/-- What a message that concerns no one does. -/
theorem undisturbed_onMessage {data : Bytes} {isText : Bool} (hb : s.Booked)
    (h : s.concerns E data isText = false) :
    Undisturbed s ((onMessage E data isText).final s) := by
  rw [concerns] at h
  rw [onMessage]
  cases henv : S2sAuth.parseEnvelope E.J data isText with
  | some env =>
    rw [henv] at h
    have hignored : s.ws = none ∨ env.field "s2s_auth" ≠ some (.str S2sAuth.challenge) := by
      cases hws : s.ws with
      | none => exact Or.inl rfl
      | some w => exact Or.inr (by simpa [hws] using h)
    simp only [final_onEnvelope_ignored E hignored]
    exact undisturbed_refl s
  | none =>
    rw [henv] at h
    cases hmsg : E.J.parse data with
    | none => exact undisturbed_refl s
    | some msg =>
      rw [hmsg] at h
      simp only [Option.any_some, Bool.or_eq_false_iff, decide_eq_false_iff_not,
        Bool.and_eq_false_iff] at h
      obtain ⟨hsuccess, hrest⟩ := h
      rcases final_onStorageMessage hsuccess s with ⟨k, req, herror, hfound, hf⟩ | hf | hf
      · simp only [hf]
        refine undisturbed_settleRow hb (pendingFor_some hfound).2 ?_ _
        rcases hrest with hrest | hrest
        · exact absurd herror hrest
        · rw [answersCurrent, hfound] at hrest
          exact hrest
      · simp only [hf]
        exact undisturbed_emit _ s
      · simp only [hf]
        exact undisturbed_refl s

theorem Single.step {o : Op} (hs : s.Single) (hfresh : s.FreshRids o) (hc : s.Spares E o)
    (h : Step E s o s') : s'.Single := by
  obtain ⟨henabled, rfl⟩ := h
  cases o with
  | connect endpoint => exact hs.connect E.validUrl endpoint
  | sendRequest mt ms rid fails => exact (quiet_sendRequest mt ms fails hfresh).opensNone.single hs
  | opened w =>
    have hopen : OpensNone s (s.setSocket w .isOpen) := opensNone_setSocket fun _ => Or.inl henabled
    exact (opensNone_onOpen _).single (hopen.single hs)
  | message w data isText => exact (opensNone_onMessage E data isText s).single hs
  | errored w message => exact (quiet_onError message s).opensNone.single hs
  | closing w => exact (opensNone_setSocket (by simp)).single hs
  | closed w => exact hs.onClose hc
  | timer t => exact hs.fire E.validUrl t

theorem single_path (h : Lts.Path (Step E) (fun s o => s.FreshRids o ∧ s.Spares E o) {} s) :
    s.Single := by
  refine h.invariant (P := Single) (fun hs hc hstep => hs.step hc.1 hc.2 hstep) ?_
  exact ⟨fun w hw => absurd hw (by simp [live]), fun t ht => absurd ht (by simp)⟩

end

/-- The socket whose handler is called. -/
def Op.event? : Op → Option WsId
  | .opened w | .message w .. | .errored w _ | .closed w => some w
  | .connect _ | .sendRequest .. | .closing _ | .timer _ => none

/-- While replaced sockets only send what concerns no one, their events leave the current connection
    alone and there is at most one live socket. -/
theorem replaced_sockets_harmless {PrivateKey PublicKey : Type}
    {E : StorageSettings PrivateKey PublicKey} {o : Op}
    (h : Lts.Path (Step E) (fun s o => s.FreshRids o ∧ s.Spares E o) {} s)
    (hfresh : s.FreshRids o) (hc : s.Spares E o) (hstep : Step E s o s') :
    (∀ w, o.event? = some w → s.ws ≠ some w → Undisturbed s s') ∧
      ∀ v w, s'.live v → s'.live w → v = w := by
  refine ⟨fun w hw hother => ?_, fun v w hv hw => ?_⟩
  · have hb := booked_path (h.mono And.left)
    obtain ⟨-, rfl⟩ := hstep
    cases o with
    | connect | sendRequest | closing | timer => exact absurd hw (by simp [Op.event?])
    | opened v | errored v | closed v =>
      rw [← Option.some.inj hw] at hother
      exact absurd hc hother
    | message v data isText =>
      rw [← Option.some.inj hw] at hother
      exact undisturbed_onMessage hb (hc.resolve_left hother)
  · have hs := (single_path h).step hfresh hc hstep
    have hv' := hs.live v hv
    rw [hs.live w hw] at hv'
    exact (Option.some.inj hv').symm

/-! ### A second endpoint -/

section

variable {PrivateKey PublicKey : Type} (E : StorageSettings PrivateKey PublicKey)

instance (s : DbProxyClient) : ∀ o : Op, Decidable (s.Spares E o)
  | .opened _ | .errored .. | .closed _ => inferInstanceAs (Decidable (_ = _))
  | .message .. => inferInstanceAs (Decidable (_ ∨ _))
  | .connect _ | .sendRequest .. | .closing _ | .timer _ => inferInstanceAs (Decidable True)

end

def otherEndpoint : Endpoint := ⟨"storage", "9968", "configured-storage-server"⟩

/-- The client turns to another storage server, and that connection stands. -/
def moves : List Op :=
  [.connect storageEndpoint, .opened 0, .timer 0, .connect otherEndpoint, .opened 1, .timer 2]

/-- A frame that answers nothing. -/
def chatter (w : WsId) : Op := .message w (Js.Text.stringify (.obj [("rid", .str "none")])) true

theorem replaced_sockets_harmless_chatter : ∃ s s',
    Lts.Path (Step plainSettings) (fun s o => s.FreshRids o ∧ s.Spares plainSettings o) {} s ∧
    Step plainSettings s (chatter 0) s' ∧ s.ws = some 1 ∧ Undisturbed s s' := by
  have h : (run plainSettings (fun s o => s.FreshRids o ∧ s.Spares plainSettings o) {} moves).map
      (fun s => (s.ws, decide (s.Enabled (chatter 0)), decide (s.Spares plainSettings (chatter 0)))) =
        some (some 1, true, true) := by
    decide +kernel
  obtain ⟨s, hs, hf⟩ := Option.map_eq_some_iff.mp h
  simp only [Prod.mk.injEq, decide_eq_true_eq] at hf
  obtain ⟨hws, henabled, hspares⟩ := hf
  have hfresh : s.FreshRids (chatter 0) := trivial
  have hstep : Step plainSettings s (chatter 0) _ := ⟨henabled, rfl⟩
  refine ⟨s, _, path_of_run hs, hstep, hws, ?_⟩
  exact (replaced_sockets_harmless (path_of_run hs) hfresh hspares hstep).1 0 rfl (by simp [hws])

/-- The old socket closes after the new one was opened: the client drops the new one, and opens a
    third beside it. -/
theorem late_close_opens_third : ∃ s s' s'',
    Lts.Path (Step plainSettings) FreshRids {} s ∧ s.ws = some 1 ∧ s.isConnected = true ∧
    Step plainSettings s (.closed 0) s' ∧ s'.ws = none ∧ s'.authenticated = false ∧
    Lts.Path (Step plainSettings) FreshRids s' s'' ∧ s''.live 1 ∧ s''.live 2 := by
  have h : (run plainSettings FreshRids {} moves).map (fun s => (decide (s.ws = some 1),
      s.isConnected && decide (s.Enabled (.closed 0)),
      decide (((perform plainSettings (.closed 0)).final s).ws = none),
      ((perform plainSettings (.closed 0)).final s).authenticated,
      (run plainSettings FreshRids ((perform plainSettings (.closed 0)).final s) [.timer 4]).any
        fun s'' => decide (s''.live 1 ∧ s''.live 2))) = some (true, true, true, false, true) := by
    decide +kernel
  obtain ⟨s, hs, hf⟩ := Option.map_eq_some_iff.mp h
  simp only [Prod.mk.injEq, decide_eq_true_eq, Bool.and_eq_true] at hf
  obtain ⟨hws, ⟨hconnected, henabled⟩, hnone, hauth, hlast⟩ := hf
  obtain ⟨s'', hs'', hlive⟩ := (Option.any_eq_true _ _).mp hlast
  exact ⟨s, _, s'', path_of_run hs, hws, hconnected, ⟨henabled, rfl⟩, hnone, hauth,
    path_of_run hs'', of_decide_eq_true hlive⟩

end DbProxyClient

end DroneEngage
