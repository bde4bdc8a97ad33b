import DroneEngage.Deliveries
import DroneEngage.Entering

/-! The auth frame.

    A connection that brings no credentials in its URL waits for one `de_auth` frame. Two listeners
    see its messages: the ordinary one, which ignores a socket without a login record, and the one
    that waits for the frame and listens once; a timer ends the wait. The answer is read off the
    login record, which is set before the tables are looked at. A `Session` is the server with a
    record of the answers and of the sockets that have been in their rooms. -/

namespace DroneEngage
open Js

/-! ### Acks -/

/-- The message of `fn_sendAuthAck`. -/
def authAck (reason : Option String) : Json :=
  (Json.obj [("ty", .str "s"), ("mt", .str "de_auth_ack"),
    ("r", .str (if reason.isNone then "ok" else "fail"))]).setField "em" (reason.map Json.str)

/-- The answer that an effect gives to the socket: `true` for `ok`. -/
def ackTo? (J : JsonCodec) (ws : SocketId) : Effect → Option Bool
  | .send v message _ =>
    if v = ws then (J.parse message).bind fun jmsg =>
      if jmsg.field Const.messageID = some (.str "de_auth_ack")
      then some (jmsg.field "r" = some (.str "ok")) else none
    else none
  | _ => none

/-- The answers to the socket among some effects. -/
def acksIn (J : JsonCodec) (ws : SocketId) (l : List Effect) : List Bool :=
  l.filterMap (ackTo? J ws)

namespace Server

variable (J : JsonCodec) (isAlphanumeric : String → Bool)

/-- What the listener for the auth frame, or the timer, adds to the log when the event is handled.
    These two are the callers of `fn_sendAuthAck`. -/
def authEffects (s : Server) : Event → List Effect
  | .message ws message isBinary =>
    let s₁ := (Action.when (s.sockets ws).listening (onWsMessage J ws message isBinary)).final s
    ((Action.when (s.sockets ws).authFrameHandler
      (authFrameHandler J isAlphanumeric ws message)).final s₁).log.drop s₁.log.length
  | .authTimeout ws => ((authTimeout J ws).final s).log.drop s.log.length
  | _ => []

/-- A connection that the event opens has no credentials in its URL. -/
def deferred (s : Server) : Event → Bool
  | .connect url _ => (hasQueryCreds s.proto url).toOption = some false
  | _ => true

/-- An acceptance the event leads to succeeds; on a local server the welcome message is sent. -/
def Orderly (s : Server) (e : Event) : Prop :=
  ∀ w params login, credentials J s e = some (w, params) → s.loginFor params = some login →
    s.Enterable login ∧ (s.config.local_server_enabled = true → s.sendFails w = false)

end Server

/-! ### Sessions -/

/-- An effect that passes nothing on: the socket itself is answered, a connection ends, or AUTH gets
    the INFO card. -/
def KeepsBack (ws : SocketId) : Effect → Prop
  | .send v _ _ => v = ws
  | .close _ | .terminate _ | .updateAuth => True
  | _ => False

/-- A server, the answers it has given to each connection, and the sockets that have been in the
    room of their account and group as the active senders of their ids. -/
structure Session where
  server : Server
  acks : SocketId → List Bool := fun _ => []
  entered : SocketId → Bool := fun _ => false

namespace Session

variable (J : JsonCodec) (isAlphanumeric : String → Bool)

/-- The record after an event that has led to the server `s`. -/
def record (t : Session) (e : Event) (s : Server) : Session where
  server := s
  acks ws := t.acks ws ++ acksIn J ws (t.server.authEffects J isAlphanumeric e)
  entered ws := t.entered ws || s.isEntered ws

/-- One event, on a server whose connections bring no credentials in their URLs. -/
def advance (t : Session) (e : Event) : Option Session :=
  if t.server.enabled e && t.server.deferred e
  then (t.server.step J isAlphanumeric e).map (t.record J isAlphanumeric e) else none

/-- A step of a session. -/
def Step (t : Session) (e : Event) (t' : Session) : Prop := t.advance J isAlphanumeric e = some t'

/-- A connection is answered once, with `ok` exactly when its socket has been in its room as the
    active sender of its id; before an `ok` its frames are not routed and nothing of them is passed
    on, and after a `fail` it has no login record. -/
structure Sound (t : Session) : Prop where
  once : ∀ ws, (t.acks ws).length ≤ 1
  ok : ∀ ws, true ∈ t.acks ws ↔ t.entered ws = true
  silent : ∀ ws, true ∉ t.acks ws → ∀ message isBinary,
    (Server.onWsMessage J ws message isBinary).final t.server = t.server
  withheld : ∀ ws, true ∉ t.acks ws → ∀ message isBinary, Server.Logs (KeepsBack ws) t.server
    ((Server.messageEvent J isAlphanumeric ws message isBinary).final t.server)
  never : ∀ ws, false ∈ t.acks ws → (t.server.sockets ws).loginRequest = none

end Session

namespace Server

open Action

variable {J : JsonCodec} {isAlphanumeric : String → Bool} {s s' : Server} {w : SocketId}

/-! ### What a completed connection puts out -/

/-- The message of `send_ok_message`. -/
def welcome (text : String) : Json :=
  .obj [("ty", .str "s"), ("mt", .num "9007"), ("ms", .obj [("s", .str text)])]

/-- Completing a connection welcomes its socket, ends others and tells AUTH. -/
inductive Greeting (J : JsonCodec) (ws : SocketId) : Effect → Prop
  | welcome (text : String) : Greeting J ws (.send ws (J.stringify (welcome text)) false)
  | close (v : SocketId) : Greeting J ws (.close v)
  | terminate (v : SocketId) : Greeting J ws (.terminate v)
  | updateAuth : Greeting J ws .updateAuth

section

variable (J) (isAlphanumeric) (ws : SocketId)

theorem greeting_closeSocket (v : SocketId) : Moves (Logs (Greeting J ws)) (closeSocket v) :=
  moves_modify fun _ => logs_emit (.close v) _

theorem greeting_rejectSocket : Moves (Logs (Greeting J ws)) (rejectSocket ws) :=
  moves_bind (moves_modify fun _ => logs_of_eq rfl) fun _ => greeting_closeSocket J ws ws

theorem greeting_acceptConnection (login : LoginRequest) :
    Moves (Logs (Greeting J ws)) (_acceptConnection J login ws) :=
  moves_bind (moves_modify fun _ => logs_of_eq rfl) fun _ => moves_bind
    (moves_bind (moves_ofExcept _) fun _ => moves_modify fun _ => logs_of_eq rfl) fun _ =>
      moves_bind (moves_delMemberFromAccountByName logs_rooms
          (logs_terminateSocket .terminate) _ _) fun _ =>
        moves_bind (moves_addMemberToAccountGroup logs_rooms ws) fun _ =>
          moves_bind moves_get fun _ => moves_bind (moves_modify (logs_emit (.welcome _))) fun _ =>
            moves_bind moves_get fun _ => moves_ite (fun _ => moves_throw _) fun _ => moves_pure ()

theorem greeting_completeConnection (params : Table Json) :
    Moves (Logs (Greeting J ws)) (completeConnection J isAlphanumeric params ws) := by
  refine moves_bind moves_get fun s => moves_ite (fun _ => moves_bind ?_ fun key => ?_) fun _ =>
    moves_bind (moves_validateKey isAlphanumeric (greeting_closeSocket J ws ws) params)
      fun key => ?_
  · rw [validateKeyLocal]
    cases params.own? Const.loginTempKey with
    | none => exact moves_throw _
    | some f => exact moves_bind (moves_ofExcept _) fun _ => moves_pure _
  · cases key with
    | none => exact greeting_rejectSocket J ws
    | some key => exact moves_bind moves_get fun _ => greeting_acceptConnection J ws _
  · cases key with
    | none => exact greeting_rejectSocket J ws
    | some key =>
      refine moves_attempt (moves_bind moves_get fun s => moves_ite
        (fun _ => greeting_rejectSocket J ws) fun _ => moves_bind ?_ fun _ =>
          moves_bind (greeting_acceptConnection J ws _) fun _ => ?_) fun _ => moves_pure ()
      · exact moves_bind moves_get fun _ => moves_ite (fun _ => moves_pure ()) fun _ =>
          moves_modify fun _ => logs_of_eq rfl
      · exact moves_bind moves_get fun _ => moves_ite (fun _ => moves_throw _) fun _ =>
          moves_modify (logs_emit .updateAuth)

end

/-! ### Answers -/

theorem parse_authAck (J : JsonCodec) (reason : Option String) :
    J.parse (J.stringify (authAck reason)) = some (authAck reason) := by
  refine J.parse_stringify _ (Json.Proper.setField _ ?_ fun y hy => ?_)
  · simp [Json.Proper, properFields]
  · obtain ⟨text, -, rfl⟩ := Option.map_eq_some_iff.mp hy
    trivial

theorem ackTo_authAck (J : JsonCodec) (v w : SocketId) (reason : Option String) (isBinary : Bool) :
    ackTo? J v (.send w (J.stringify (authAck reason)) isBinary) =
      if w = v then some reason.isNone else none := by
  have hmt : (authAck reason).field Const.messageID = some (.str "de_auth_ack") := by
    rw [authAck, Json.field_setField_ne _ _ (by decide)]; rfl
  have hr : (authAck reason).field "r" = some (.str (if reason.isNone then "ok" else "fail")) := by
    rw [authAck, Json.field_setField_ne _ _ (by decide)]; rfl
  simp only [ackTo?, parse_authAck, Option.bind_some, hmt, hr, if_true]
  cases reason with
  | none => simp
  | some text => simp

/-- A welcome is no answer: its message id is a number. -/
theorem Greeting.ackTo (hJ : J.isNumber "9007" = true) {e : Effect} (h : Greeting J w e)
    (v : SocketId) : ackTo? J v e = none := by
  cases h with
  | welcome text =>
    have hparse := J.parse_stringify (Server.welcome text)
      (by simp [Server.welcome, Json.Proper, properFields, hJ])
    simp only [ackTo?, hparse, Option.bind_some]
    split
    · rfl
    · rfl
  | close | terminate | updateAuth => rfl

/-- The socket is given one answer. -/
def Answers (J : JsonCodec) (ws : SocketId) (ok : Bool) (s s' : Server) : Prop :=
  ∃ reason u, reason.isNone = ok ∧ Logs (Greeting J ws) s u ∧
    Logs (Greeting J ws) (u.emit (.send ws (J.stringify (authAck reason)) false)) s'

theorem Answers.acksIn (hJ : J.isNumber "9007" = true) {ok : Bool} (h : Answers J w ok s s')
    (v : SocketId) : acksIn J v (s'.log.drop s.log.length) = if w = v then [ok] else [] := by
  obtain ⟨reason, u, hok, ⟨l, hl, hgreet⟩, ⟨l', hl', hgreet'⟩⟩ := h
  have hnone : ∀ {l : List Effect}, (∀ e ∈ l, Greeting J w e) → l.filterMap (ackTo? J v) = [] :=
    fun h => List.filterMap_eq_nil_iff.mpr fun e he => (h e he).ackTo hJ v
  rw [hl', emit_log, hl, List.append_assoc, List.append_assoc, List.drop_left, DroneEngage.acksIn,
    List.filterMap_append, List.filterMap_append, hnone hgreet, hnone hgreet', List.append_nil,
    List.nil_append, List.filterMap_cons, ackTo_authAck, hok]
  by_cases hwv : w = v
  · simp [hwv]
  · simp [hwv]

/-! ### An orderly acceptance -/

theorem Enterable.of_rooms {login : LoginRequest} (h : s.Enterable login)
    (hproto : s'.proto = s.proto) (haccounts : s'.accounts = s.accounts)
    (hheap : s'.accountHeap = s.accountHeap) (hgroups : s'.groupHeap = s.groupHeap) :
    s'.Enterable login := by
  have hroom : s'.roomFor login = s.roomFor login := by
    rw [roomFor, roomFor, haccounts, hheap]
  have hvacates : ∀ {g}, s.Vacates login g → s'.Vacates login g := by
    rintro g ⟨hr, hthawed, hkeys⟩
    exact ⟨hr, by rw [Frozen, hproto, hgroups]; exact hthawed, by rw [hgroups]; exact hkeys⟩
  refine ⟨by rw [hproto]; exact h.sender, by rw [hproto]; exact h.account,
    by rw [hproto]; exact h.group, ?_, fun a ha => ?_, fun m a g hm ha hg => ?_, fun g hg => ?_⟩
  · rw [AccountReadable, haccounts, hproto]; exact h.readable
  · rw [haccounts] at ha
    obtain ⟨hr, hm, hv⟩ := h.accounts a ha
    exact ⟨hr, hm, fun l g hg => hvacates (hv l g (hheap ▸ hg))⟩
  · exact hvacates (h.groups m a g hm (haccounts ▸ ha) (hheap ▸ hg))
  · rw [hgroups]
    exact (h.units g (hroom ▸ hg)).imp_left hvacates

theorem loginRequest_of_isEntered (h : s.isEntered w = true) :
    (s.sockets w).loginRequest.isSome = true := by
  rw [isEntered] at h
  cases hl : (s.sockets w).loginRequest with
  | none => rw [hl] at h; exact absurd h (by simp)
  | some login => rfl

theorem sendOkMessage_run (J : JsonCodec) (ws : SocketId) (s : Server) : ∃ e,
    (sendOkMessage J ws).final s = s.emit e ∧
      (s.sendFails ws = false → sendOkMessage J ws s = (.ok (), s.emit e)) := by
  refine ⟨.send ws (J.stringify (welcome ("OK:connected:tcp:" ++ (s.sockets ws).remote))) false, ?_,
    fun h => ?_⟩
  · rw [sendOkMessage, final_get_bind, send, final_modify_bind, final_get_bind]
    split <;> rfl
  · rw [sendOkMessage, run_bind_get, send, run_bind_modify, run_bind_get, emit_sendFails, h]
    rfl

theorem acceptConnection_isEntered {login : LoginRequest} {key : String} {params : Table Json}
    (hs : s.Consistent) (hl : (s.sockets w).loginRequest = none)
    (hf : (s.sockets w).authFrameHandler = false) (hw : w < s.nextSocket)
    (hkey : (s.getLogin key).isNullish = false)
    (hlogin : login = announcedLogin params (s.getLogin key)) (h : s.Enterable login) :
    ((acceptConnection J key params w).final s).isEntered w = true := by
  obtain ⟨t, ht, hentered, -⟩ := acceptConnection_enters J
    (s := { s with waitingAccounts := s.waitingAccounts.delete key }) (hs.withWaiting _) hl hf hw
    (h.of_rooms rfl rfl rfl rfl)
  obtain ⟨e, he, -⟩ := sendOkMessage_run J w t
  rw [acceptConnection, final_attempt_pure, final_get_bind, if_neg (by simp [hkey]),
    final_bind_of_ok (deleteLogin_run key hkey), ← hlogin]
  -- whatever throws from here on, the socket is in
  refine final_bind_keeps (P := fun s' : Server => s'.isEntered w = true) ?_ fun _ s' hs' => ?_
  · rw [final, ht, ← final, he]
    exact hentered
  · rw [updateAuthServer, final_get_bind]
    split
    · exact hs'
    · exact hs'

variable (J) (isAlphanumeric) in
/-- Parameters that are good for a login that succeeds: the connection is completed. -/
theorem completeConnection_isEntered {login : LoginRequest} {params : Table Json}
    (hs : s.Consistent) (hl : (s.sockets w).loginRequest = none)
    (hf : (s.sockets w).authFrameHandler = false) (hw : w < s.nextSocket)
    (hlogin : s.loginFor params = some login) (h : s.Enterable login)
    (hsend : s.config.local_server_enabled = true → s.sendFails w = false) :
    ∃ t, completeConnection J isAlphanumeric params w s = (.ok (), t) ∧ t.isEntered w = true := by
  rw [completeConnection, run_bind_get]
  rw [loginFor] at hlogin
  by_cases hlocal : s.config.local_server_enabled = true
  · rw [if_pos hlocal] at hlogin ⊢
    rw [validateKeyLocal]
    cases hkey : params.own? Const.loginTempKey with
    | none => rw [hkey] at hlogin; exact absurd hlogin (by simp)
    | some f =>
      cases htext : toText f with
      | error e => rw [hkey] at hlogin; simp [htext, Except.toOption] at hlogin
      | ok key =>
        rw [hkey] at hlogin
        simp only [htext, Except.toOption, Option.map_some, Option.some.injEq] at hlogin
        obtain ⟨t, ht, hentered, hfails⟩ := acceptConnection_enters J hs hl hf hw h
        obtain ⟨e, -, he⟩ := sendOkMessage_run J w t
        refine ⟨t.emit e, ?_, hentered⟩
        have hrun : (do
            let key ← ofExcept (toText f)
            return some key : Action Server (Option String)) s = (.ok (some key), s) := by
          rw [htext]; rfl
        rw [run_bind_of_ok hrun]
        dsimp only
        rw [acceptLocalConnection, run_bind_get, hlogin, ht]
        exact he (hfails ▸ hsend hlocal)
  · rw [if_neg hlocal] at hlogin ⊢
    have hkept := moves_validateKey isAlphanumeric (roomsKept_closeSocket w) params s
    rcases hr : validateKey isAlphanumeric params w s with ⟨r, s₁⟩
    have hkey := validateKey_result isAlphanumeric (congrArg Prod.fst hr)
    rw [final, hr] at hkept
    dsimp only at hkey hkept
    rw [hkey] at hlogin
    rcases r with e | (_ | key)
    · exact absurd hlogin (by simp [Except.toOption])
    · exact absurd hlogin (by simp [Except.toOption])
    · simp only [Except.toOption, Option.join_some] at hlogin
      by_cases hnull : (s.getLogin key).isNullish = true
      · rw [if_pos hnull] at hlogin; exact absurd hlogin (by simp)
      · rw [if_neg hnull, Option.some.injEq] at hlogin
        have hshr := hkept.shrinks
        have hget : s₁.getLogin key = s.getLogin key := by
          unfold getLogin; rw [hshr.proto, hshr.waitingAccounts]
        rw [run_bind_of_ok hr]
        refine ⟨_, run_of_not_escapes (not_escapes_attempt fun _ _ => not_escapes_pure () _), ?_⟩
        refine acceptConnection_isEntered (hs.shrinks hshr) ((hshr.sockets w).loginRequest.trans hl)
          ((hshr.sockets w).handler_off hf) (hshr.nextSocket ▸ hw)
          (hget ▸ Bool.eq_false_iff.mpr hnull) (hget ▸ hlogin.symm) ?_
        exact h.of_rooms hshr.proto hkept.accounts hkept.accountHeap hkept.groupHeap

/-! ### Who waits for an auth frame -/

/-- The listener for the auth frame is registered, or its timer would still refuse the socket. -/
def Waits (s : Server) (ws : SocketId) : Prop :=
  (s.sockets ws).authFrameHandler = true ∨ (s.sockets ws).authPending = true

/-- Nobody begins to wait for an auth frame, and the logins of the sockets in `C` stay. -/
structure LeavesLogins (C : SocketId → Prop) (s s' : Server) : Prop where
  loginRequest : ∀ v, C v → (s'.sockets v).loginRequest = (s.sockets v).loginRequest
  waits : ∀ v, s'.Waits v → s.Waits v
  nextSocket : s'.nextSocket = s.nextSocket

section

variable {C : SocketId → Prop} {login : LoginRequest}

instance : IsPreorder Server (LeavesLogins C) where
  refl := fun _ => ⟨fun _ _ => rfl, fun _ => id, rfl⟩
  trans := fun _ _ _ h h' => ⟨fun v hv => (h'.loginRequest v hv).trans (h.loginRequest v hv),
    fun v => h.waits v ∘ h'.waits v, h'.nextSocket.trans h.nextSocket⟩

theorem leavesLogins_of_eq (hsockets : s'.sockets = s.sockets)
    (hnext : s'.nextSocket = s.nextSocket) : LeavesLogins C s s' :=
  ⟨fun v _ => by rw [hsockets], fun v => by rw [Waits, Waits, hsockets]; exact id, hnext⟩

theorem Shrinks.leavesLogins (h : s.Shrinks s') : LeavesLogins C s s' :=
  ⟨fun v _ => (h.sockets v).loginRequest,
    fun v => Or.imp (h.sockets v).authFrameHandler (h.sockets v).authPending, h.nextSocket⟩

theorem AdmitWrite.leavesLogins (h : AdmitWrite w login s s') : LeavesLogins (· ≠ w) s s' := by
  have hset : ∀ (t : Server) (f : Socket → Socket), (∀ u, (f u).authFrameHandler =
      u.authFrameHandler ∧ (f u).authPending = u.authPending) →
      LeavesLogins (· ≠ w) t (setSocket w f t) := by
    refine fun t f hf => ⟨fun v hv => by rw [setSocket_ne _ _ _ _ hv], fun v => ?_, rfl⟩
    rw [Waits, Waits, setSocket_sockets]
    split
    · next hv => rw [hv, (hf _).1, (hf _).2]; exact id
    · exact id
  cases h with
  | shrinks h => exact h.leavesLogins
  | login => exact hset s _ fun _ => ⟨rfl, rfl⟩
  | active | account | group => exact leavesLogins_of_eq rfl rfl
  | @member g k =>
    have hunits : LeavesLogins (· ≠ w) s (setGroup g (fun G =>
        { G with units := G.units.assign s.proto k w }) s) := leavesLogins_of_eq rfl rfl
    exact trans_of (LeavesLogins _) hunits (hset _ (fun v =>
      { v with name := login.senderID, group := some g }) fun _ => ⟨rfl, rfl⟩)

theorem admitWrites_leavesLogins (h : Relation.ReflTransGen (AdmitWrite w login) s s') :
    LeavesLogins (· ≠ w) s s' := by
  induction h with
  | refl => exact refl_of (LeavesLogins _) s
  | tail _ hw ih => exact trans_of (LeavesLogins _) ih hw.leavesLogins

end

/-! ### The answer to an auth frame -/

/-- A socket that waited is given its answer: it is in its room, or it has no login record. -/
structure Answered (J : JsonCodec) (ws : SocketId) (ok : Bool) (s s' : Server) : Prop where
  answers : Answers J ws ok s s'
  logins : LeavesLogins (· ≠ ws) s s'
  heard : ¬ s'.Waits ws
  entered : ok = true → s'.isEntered ws = true
  refused : ok = false → (s'.sockets ws).loginRequest = none

/-- The state after `fn_sendAuthAck`, whose `try` hides whether the message could be sent. -/
def answer (J : JsonCodec) (reason : Option String) (ws : SocketId) (s : Server) : Server :=
  s.emit (.send ws (J.stringify (authAck reason)) false)

theorem sendAuthAck_run (J : JsonCodec) (reason : Option String) (ws : SocketId) (s : Server) :
    sendAuthAck J reason ws s = (.ok (), s.answer J reason ws) := by
  rw [sendAuthAck, run_attempt, send, run_bind_modify, run_bind_get, emit_sendFails]
  cases s.sendFails ws with
  | false => rfl
  | true => rfl

/-- What is left of a socket that is refused. -/
theorem Answered.of_refusal {reason : String} {u : Server}
    (hl : (s.sockets w).loginRequest = none) (hlogs : Logs (Greeting J w) s u) (hu : s.Shrinks u)
    (hlogs' : Logs (Greeting J w) (u.answer J (some reason) w) s')
    (hs' : (u.answer J (some reason) w).Shrinks s') (hheard : ¬ s'.Waits w) :
    Answered J w false s s' where
  answers := ⟨some reason, u, rfl, hlogs, hlogs'⟩
  logins := ((hu.trans (shrinks_emit _ u)).trans hs').leavesLogins
  heard := hheard
  entered := fun h => Bool.noConfusion h
  refused := fun _ =>
    ((((hu.trans (shrinks_emit _ u)).trans hs').sockets w).loginRequest).trans hl

theorem not_waits_shrinks (h : s.Shrinks s') (hw : ¬ s.Waits w) : ¬ s'.Waits w :=
  mt ((Shrinks.leavesLogins (C := fun _ => True) h).waits w) hw

/-- The answer to a frame that is a `de_auth` frame. -/
theorem authenticateFrame_final (parsed : Json) (s : Server) :
    (authenticateFrame J isAlphanumeric parsed w).final s =
      match completeConnection J isAlphanumeric (frameParams s.proto parsed) w
        (setSocket w (fun v => { v with authPending := false }) s) with
      | (.error _, u) => (closeSocket w).final (u.answer J (some "validation error") w)
      | (.ok _, u) => if (u.sockets w).loginRequest.isSome then u.answer J none w
        else (closeSocket w).final (u.answer J (some "auth rejected") w) := by
  rw [authenticateFrame, final_modify_bind, final_get_bind, setSocket_proto]
  generalize setSocket w (fun v => { v with authPending := false }) s = s₁
  rcases hc : completeConnection J isAlphanumeric (frameParams s.proto parsed) w s₁ with
    ⟨e | x, u⟩
  · have hcatch : (do
        sendAuthAck J (some "validation error") w
        closeSocket w
        return false : Action Server Bool) u =
          (.ok false, (closeSocket w).final (u.answer J (some "validation error") w)) :=
      run_bind_of_ok (sendAuthAck_run J _ w u)
    rw [final_attempt_bind_of_error (run_bind_of_error hc), final_bind_of_ok hcatch]
    rfl
  · have hrun : (do
        completeConnection J isAlphanumeric (frameParams s.proto parsed) w
        return true : Action Server Bool) s₁ = (.ok true, u) := run_bind_of_ok hc
    rw [final_attempt_bind_of_ok hrun, if_pos rfl, final_get_bind]
    dsimp only
    split
    · rw [final, sendAuthAck_run]
    · rw [final_bind_of_ok (sendAuthAck_run J _ w u)]

/-- Nothing is put out before. -/
theorem Answered.of_shrinks {ok : Bool} {u : Server} (h : Answered J w ok u s') (hu : s.Shrinks u)
    (hlog : u.log = s.log) : Answered J w ok s s' where
  answers := by
    obtain ⟨reason, v, hok, hlogs, hlogs'⟩ := h.answers
    exact ⟨reason, v, hok, trans_of (Logs _) (logs_of_eq hlog) hlogs, hlogs'⟩
  logins := trans_of (LeavesLogins _) hu.leavesLogins h.logins
  heard := h.heard
  entered := h.entered
  refused := h.refused

/-- Closing a socket that has been refused. -/
theorem Answered.of_closed {reason : String} {u : Server}
    (hl : (s.sockets w).loginRequest = none) (hlogs : Logs (Greeting J w) s u) (hu : s.Shrinks u)
    (hheard : ¬ u.Waits w) :
    Answered J w false s ((closeSocket w).final (u.answer J (some reason) w)) :=
  .of_refusal hl hlogs hu (greeting_closeSocket J w w _) (onlyShrinks_closeSocket w _)
    (not_waits_shrinks ((shrinks_emit _ u).trans (onlyShrinks_closeSocket w _)) hheard)

variable (isAlphanumeric) in
/-- A socket whose listener has been removed gets its answer, if an acceptance succeeds. -/
theorem authenticateFrame_answered (parsed : Json) (hs : s.Consistent)
    (hl : (s.sockets w).loginRequest = none) (hf : (s.sockets w).authFrameHandler = false)
    (hw : w < s.nextSocket)
    (h : ∀ login, s.loginFor (frameParams s.proto parsed) = some login → s.Enterable login ∧
      (s.config.local_server_enabled = true → s.sendFails w = false)) :
    ∃ ok, Answered J w ok s ((authenticateFrame J isAlphanumeric parsed w).final s) := by
  rw [authenticateFrame_final]
  have hpend : s.Shrinks (setSocket w (fun v => { v with authPending := false }) s) :=
    (roomsKept_setSocket socketShrinks_settled (fun _ => rfl) s).shrinks
  have hlog : (setSocket w (fun v => { v with authPending := false }) s).log = s.log := rfl
  have hheard : ¬ (setSocket w (fun v => { v with authPending := false }) s).Waits w := by
    simp [Waits, hf]
  have hrooms : ∀ {login}, s.Enterable login →
      (setSocket w (fun v => { v with authPending := false }) s).Enterable login :=
    fun h => h.of_rooms rfl rfl rfl rfl
  have hfails : (setSocket w (fun v => { v with authPending := false }) s).sendFails =
      s.sendFails := rfl
  generalize setSocket w (fun v => { v with authPending := false }) s = s₁ at *
  have hl₁ := (hpend.sockets w).loginRequest.trans hl
  have hf₁ := (hpend.sockets w).handler_off hf
  have hw₁ : w < s₁.nextSocket := hpend.nextSocket ▸ hw
  have hs₁ := hs.shrinks hpend
  have hgreet := greeting_completeConnection J isAlphanumeric w
    (frameParams s.proto parsed) s₁
  have hfinal := completeConnection_final J isAlphanumeric (frameParams s.proto parsed) hs₁ hl₁
    hf₁ hw₁
  rw [hpend.loginFor] at hfinal
  cases hlogin : s.loginFor (frameParams s.proto parsed) with
  | none =>
    -- whatever the check said, there is no login record
    rw [hlogin] at hfinal
    dsimp only at hfinal
    refine ⟨false, ?_⟩
    rcases hc : completeConnection J isAlphanumeric (frameParams s.proto parsed) w s₁ with
      ⟨e | x, u⟩
    · rw [final, hc] at hgreet hfinal
      exact .of_closed hl (trans_of (Logs _) (logs_of_eq hlog) hgreet) (hpend.trans hfinal)
        (not_waits_shrinks hfinal hheard)
    · rw [final, hc] at hgreet hfinal
      dsimp only
      rw [if_neg (by rw [(hfinal.sockets w).loginRequest, hl₁]; simp)]
      exact .of_closed hl (trans_of (Logs _) (logs_of_eq hlog) hgreet) (hpend.trans hfinal)
        (not_waits_shrinks hfinal hheard)
  | some login =>
    rw [hlogin] at hfinal
    obtain ⟨hroom, hsend⟩ := h login hlogin
    obtain ⟨t, ht, hentered⟩ := completeConnection_isEntered J isAlphanumeric hs₁ hl₁ hf₁ hw₁
      (hpend.loginFor.trans hlogin) (hrooms hroom) (by rw [hpend.config, hfails]; exact hsend)
    have hlogins : LeavesLogins (· ≠ w) s₁ t := by
      have hwrites := admitWrites_leavesLogins hfinal.writes
      have hkeys : LeavesLogins (· ≠ w) s₁ (s₁.consumeKey (frameParams s.proto parsed)) :=
        leavesLogins_of_eq rfl rfl
      rw [final, ht] at hwrites
      exact trans_of (LeavesLogins _) hkeys hwrites
    rw [final, ht] at hgreet
    rw [ht]
    dsimp only
    rw [if_pos (loginRequest_of_isEntered hentered)]
    exact ⟨true,
      { answers := ⟨none, t, rfl, trans_of (Logs _) (logs_of_eq hlog) hgreet, refl_of (Logs _) _⟩
        logins := trans_of (LeavesLogins _) (trans_of (LeavesLogins _) hpend.leavesLogins hlogins)
          (shrinks_emit _ t).leavesLogins
        heard := mt (hlogins.waits w) hheard
        entered := fun _ => hentered
        refused := fun h => Bool.noConfusion h }⟩

/-- A refused frame: the answer, then the end of the waiting and of the connection. -/
theorem refuseAuthFrame_answered {reason : String} (hl : (s.sockets w).loginRequest = none)
    (hlog : s'.log = s.log) (hs' : s.Shrinks s') (hf : (s'.sockets w).authFrameHandler = false) :
    Answered J w false s ((refuseAuthFrame J reason w).final s') := by
  have hpend : ∀ u, Shrinks u (setSocket w (fun v => { v with authPending := false }) u) :=
    fun u => (roomsKept_setSocket socketShrinks_settled (fun _ => rfl) u).shrinks
  rw [refuseAuthFrame, final_bind_of_ok (sendAuthAck_run J _ w s'), final_modify_bind]
  refine .of_refusal hl (logs_of_eq hlog) hs'
    (trans_of (Logs _) (logs_of_eq rfl) (greeting_closeSocket J w w _))
    ((hpend _).trans (onlyShrinks_closeSocket w _))
    (not_waits_shrinks (onlyShrinks_closeSocket w _) ?_)
  rw [Waits, setSocket_self]
  rintro (h | h)
  · exact absurd (hf.symm.trans h) (by simp)
  · exact absurd h (by simp)

variable (isAlphanumeric) in
/-- The first message of a socket that waits is answered. -/
theorem authFrameHandler_answered (message : Bytes) (hs : s.Consistent)
    (hh : (s.sockets w).authFrameHandler = true) (hp : (s.sockets w).authPending = true)
    (hw : w < s.nextSocket) (h : s.Orderly J (.message w message false)) :
    ∃ ok, Answered J w ok s ((authFrameHandler J isAlphanumeric w message).final s) := by
  have hl := hs.waiting w hh
  have hoff : s.Shrinks (setSocket w (fun v =>
      { v with authFrameHandler := false, authTimer := false }) s) :=
    (roomsKept_setSocket socketShrinks_heard (fun _ => rfl) s).shrinks
  rw [authFrameHandler, final_modify_bind, final_get_bind, if_neg (by simp [hp])]
  cases hparse : J.parse message with
  | none => exact ⟨false, refuseAuthFrame_answered hl rfl hoff (by simp)⟩
  | some parsed =>
    dsimp only
    by_cases hauth : isAuthFrame parsed = true
    · rw [if_pos hauth]
      have hcreds : credentials J s (.message w message false) =
          some (w, frameParams s.proto parsed) := by
        rw [credentials_message, hh, hp, frameCredentials, hparse]
        simp [hauth]
      obtain ⟨ok, hok⟩ := authenticateFrame_answered isAlphanumeric parsed (hs.shrinks hoff)
        ((hoff.sockets w).loginRequest.trans hl) (by simp) hw fun login hlogin => by
          obtain ⟨hroom, hsend⟩ := h w _ login hcreds (hoff.loginFor ▸ hlogin)
          exact ⟨hroom.of_rooms rfl rfl rfl rfl, hsend⟩
      exact ⟨ok, hok.of_shrinks hoff rfl⟩
    · rw [if_neg hauth]
      exact ⟨false, refuseAuthFrame_answered hl rfl hoff (by simp)⟩

/-- The timer refuses a socket that still waits. -/
theorem authTimeout_answered (hl : (s.sockets w).loginRequest = none)
    (hp : (s.sockets w).authPending = true) :
    Answered J w false s ((authTimeout J w).final s) := by
  have htimer : s.Shrinks (setSocket w (fun v => { v with authTimer := false }) s) :=
    shrinks_setSocket (f := fun v => { v with authTimer := false })
      (fun v => { Socket.Shrinks.refl v with }) (fun _ => rfl) s
  have hoff : ∀ u, Shrinks u (setSocket w (fun v =>
      { v with authPending := false, authFrameHandler := false }) u) :=
    shrinks_setSocket (fun v => { Socket.Shrinks.refl v with
      authPending := fun h => Bool.noConfusion h
      authFrameHandler := fun h => Bool.noConfusion h }) fun _ => rfl
  rw [authTimeout, final_modify_bind, final_get_bind, if_pos (by simpa using hp), final_modify_bind,
    final_bind_of_ok (sendAuthAck_run J _ w _)]
  exact .of_closed hl (logs_of_eq rfl) (htimer.trans (hoff _)) (by simp [Waits])

/-! ### A frame of a socket without a login record -/

theorem onWsMessage_silent (hl : (s.sockets w).loginRequest = none) (message : Bytes)
    (isBinary : Bool) : onWsMessage J w message isBinary s = (.ok (), s) := by
  have hnone : s.injectPermission J w message isBinary = none := by
    rw [injectPermission, hl]
    simp
  rw [onWsMessage, parseMessage, run_bind_get, hnone]
  rfl

theorem messageEvent_silent (hl : (s.sockets w).loginRequest = none) (message : Bytes)
    (isBinary : Bool) : (messageEvent J isAlphanumeric w message isBinary).final s =
      (when (s.sockets w).authFrameHandler
        (authFrameHandler J isAlphanumeric w message)).final s := by
  have hrun : when (s.sockets w).listening (onWsMessage J w message isBinary) s = (.ok (), s) := by
    cases (s.sockets w).listening with
    | false => rfl
    | true => exact onWsMessage_silent hl message isBinary
  rw [messageEvent, final_get_bind, final_bind_of_ok hrun]

theorem Greeting.keepsBack {e : Effect} (h : Greeting J w e) : KeepsBack w e := by
  cases h with
  | welcome => rfl
  | close | terminate | updateAuth => trivial

theorem keepsBack_of_greeting {α : Type} {m : Action Server α} (h : Moves (Logs (Greeting J w)) m) :
    Moves (Logs (KeepsBack w)) m := fun s => by
  obtain ⟨l, hl, hgreet⟩ := h s
  exact ⟨l, hl, fun e he => (hgreet e he).keepsBack⟩

/-- The listener for the auth frame passes nothing of it on. -/
theorem keepsBack_authFrameHandler (message : Bytes) :
    Moves (Logs (KeepsBack w)) (authFrameHandler J isAlphanumeric w message) := by
  have hset : ∀ f, Moves (Logs (KeepsBack w)) (modify (setSocket w f)) :=
    fun f => moves_modify fun _ => logs_of_eq rfl
  have hack : ∀ reason, Moves (Logs (KeepsBack w)) (sendAuthAck J reason w) := fun reason s => by
    have hown : KeepsBack w (.send w (J.stringify (authAck reason)) false) := rfl
    rw [final, sendAuthAck_run]
    exact logs_emit hown s
  have hclose : Moves (Logs (KeepsBack w)) (closeSocket w) :=
    keepsBack_of_greeting (greeting_closeSocket J w w)
  have hrefuse : ∀ reason, Moves (Logs (KeepsBack w)) (refuseAuthFrame J reason w) :=
    fun _ => moves_bind (hack _) fun _ => moves_bind (hset _) fun _ => hclose
  refine moves_bind (hset _) fun _ => moves_bind moves_get fun s =>
    moves_ite (fun _ => moves_pure ()) fun _ => ?_
  cases J.parse message with
  | none => exact hrefuse _
  | some parsed =>
    refine moves_ite (fun _ => ?_) fun _ => hrefuse _
    have hcomplete := fun params => keepsBack_of_greeting
      (greeting_completeConnection J isAlphanumeric w params)
    refine moves_bind (hset _) fun _ => moves_bind moves_get fun _ => moves_bind
      (moves_attempt (moves_bind (hcomplete _) fun _ => moves_pure _) fun _ =>
        moves_bind (hack _) fun _ => moves_bind hclose fun _ => moves_pure _) fun _ => ?_
    exact moves_ite (fun _ => moves_bind moves_get fun _ => moves_ite (fun _ => hack _) fun _ =>
      moves_bind (hack _) fun _ => hclose) fun _ => moves_pure ()

/-! ### What an event does to the waiting sockets -/

/-- An event either leaves the waiting alone, or opens a connection, or answers one that waits. -/
inductive Turn (J : JsonCodec) (isAlphanumeric : String → Bool) (s : Server) (e : Event)
    (s' : Server) : Prop
  | leaves : s.authEffects J isAlphanumeric e = [] → LeavesLogins (fun _ => True) s s' →
      Turn J isAlphanumeric s e s'
  | opens : s.authEffects J isAlphanumeric e = [] → s'.nextSocket = s.nextSocket + 1 →
      (s'.sockets s.nextSocket).loginRequest = none →
      (∀ v, v ≠ s.nextSocket → s'.sockets v = s.sockets v) → Turn J isAlphanumeric s e s'
  | answers {w : SocketId} {ok : Bool} : s.Waits w →
      (∀ v, acksIn J v (s.authEffects J isAlphanumeric e) = if w = v then [ok] else []) →
      Answered J w ok s s' → Turn J isAlphanumeric s e s'

section

variable (isAlphanumeric)

theorem turn_message (hJ : J.isNumber "9007" = true) (hs : s.Consistent) (hw : w < s.nextSocket)
    (message : Bytes) (isBinary : Bool) (h : s.Orderly J (.message w message isBinary)) :
    Turn J isAlphanumeric s (.message w message isBinary)
      ((messageEvent J isAlphanumeric w message isBinary).final s) := by
  have hfinal := messageEvent_final J isAlphanumeric message isBinary hs hw
  by_cases hh : (s.sockets w).authFrameHandler = true
  · -- only the second listener does anything
    have hl := hs.waiting w hh
    have hfirst :
        (when (s.sockets w).listening (onWsMessage J w message isBinary)).final s = s := by
      rw [final, onWsMessage_waiting J hs hh]
    have heffects : s.authEffects J isAlphanumeric (.message w message isBinary) =
        ((authFrameHandler J isAlphanumeric w message).final s).log.drop s.log.length := by
      rw [authEffects, hfirst, hh]
      rfl
    rw [messageEvent_silent hl, hh] at hfinal ⊢
    by_cases hp : (s.sockets w).authPending = true
    · obtain ⟨ok, hok⟩ := authFrameHandler_answered isAlphanumeric message hs hh
        hp hw h
      exact .answers (Or.inl hh) (fun v => by rw [heffects]; exact hok.answers.acksIn hJ v) hok
    · rw [credentials_message, hh, Bool.eq_false_iff.mpr hp] at hfinal
      refine .leaves ?_ (Shrinks.leavesLogins hfinal)
      rw [heffects, authFrameHandler, final_modify_bind, final_get_bind, if_pos (by simpa using hp)]
      exact List.drop_length
  · rw [credentials_message, Bool.eq_false_iff.mpr hh] at hfinal
    refine .leaves ?_ (Shrinks.leavesLogins hfinal)
    rw [authEffects, Bool.eq_false_iff.mpr hh]
    exact List.drop_length

/-- A connection without credentials in its URL waits for its auth frame. -/
theorem turn_connect {url remote : String} (hd : s.deferred (.connect url remote) = true) :
    Turn J isAlphanumeric s (.connect url remote)
      ((handle J isAlphanumeric (.connect url remote)).final s) := by
  have hcreds : hasQueryCreds s.proto url = .ok false := by
    have h := of_decide_eq_true hd
    cases hq : hasQueryCreds s.proto url with
    | error e => rw [hq] at h; exact absurd h (by simp [Except.toOption])
    | ok b => rw [hq] at h; rw [Option.some.inj h]
  have hfinal : (handle J isAlphanumeric (.connect url remote)).final s =
      greet (.ok false) s.nextSocket ((openSocket remote).final s) := by
    change (onConnect J isAlphanumeric url s.nextSocket).final ((openSocket remote).final s) = _
    have hproto : ((openSocket remote).final s).proto = s.proto := rfl
    rw [onConnect, final_get_bind, hproto, hcreds, final_ok_bind, serveSocket_final,
      if_neg Bool.false_ne_true]
  rw [hfinal]
  refine .opens rfl rfl ?_ fun v hv => ?_
  · rw [greet, setSocket_self, openSocket_sockets, if_pos rfl]
  · rw [greet, setSocket_ne _ _ _ _ hv, openSocket_sockets, if_neg hv]

theorem turn_authTimeout (hJ : J.isNumber "9007" = true)
    (hl : s.Waits w → (s.sockets w).loginRequest = none) :
    Turn J isAlphanumeric s (.authTimeout w) ((authTimeout J w).final s) := by
  by_cases hp : (s.sockets w).authPending = true
  · have h := authTimeout_answered (J := J) (hl (Or.inr hp)) hp
    exact .answers (Or.inr hp) (fun v => h.answers.acksIn hJ v) h
  · refine .leaves ?_ (onlyShrinks_authTimeout J w s).leavesLogins
    rw [authEffects, authTimeout, final_modify_bind, final_get_bind, if_neg (by simpa using hp)]
    exact List.drop_length

theorem turn (hJ : J.isNumber "9007" = true) (hs : s.Consistent)
    (hl : ∀ w, s.Waits w → (s.sockets w).loginRequest = none) {e : Event} (he : s.enabled e = true)
    (hd : s.deferred e = true) (h : s.Orderly J e) :
    Turn J isAlphanumeric s e ((handle J isAlphanumeric e).final s) := by
  have hfinal := handle_final J isAlphanumeric hs he
  cases e with
  | message w message isBinary =>
    rw [enabled, Bool.and_eq_true] at he
    exact turn_message isAlphanumeric hJ hs (of_decide_eq_true he.1) message isBinary h
  | connect url remote => exact turn_connect isAlphanumeric hd
  | authTimeout w => exact turn_authTimeout isAlphanumeric hJ (hl w)
  | authMessage message key =>
    obtain ⟨t, ht⟩ := issue_eq key (issuedLogin J message key) s
    rw [arrive_authMessage, ht] at hfinal
    have hissue : LeavesLogins (fun _ => True) s { s with waitingAccounts := t } :=
      leavesLogins_of_eq rfl rfl
    exact .leaves rfl (trans_of (LeavesLogins _) hissue (Shrinks.leavesLogins hfinal))
  | keyTimeout key =>
    obtain ⟨t, ht⟩ := deleteLogin_eq key s
    refine .leaves rfl ?_
    change LeavesLogins (fun _ => True) s ((deleteLogin key).final s)
    rw [ht]
    exact leavesLogins_of_eq rfl rfl
  | close | external | faults | udpProgress | storage =>
    exact .leaves rfl (Shrinks.leavesLogins hfinal)

end

end Server

namespace Session

open Server

variable {J : JsonCodec} {isAlphanumeric : String → Bool} {t t' : Session} {e : Event}

/-! ### Every run of a session -/

/-- Where a socket is in the exchange. -/
inductive Stage (t : Session) (ws : SocketId) : Prop
  | unanswered : t.acks ws = [] → (t.server.sockets ws).loginRequest = none →
      t.entered ws = false → (t.server.Waits ws → ws < t.server.nextSocket) → Stage t ws
  | accepted : t.acks ws = [true] → (t.server.sockets ws).loginRequest.isSome = true →
      t.entered ws = true → ¬ t.server.Waits ws → ws < t.server.nextSocket → Stage t ws
  | refused : t.acks ws = [false] → (t.server.sockets ws).loginRequest = none →
      t.entered ws = false → ¬ t.server.Waits ws → ws < t.server.nextSocket → Stage t ws

/-- The tables are consistent, and every socket is at a stage of the exchange. -/
structure InStep (t : Session) : Prop where
  consistent : t.server.Consistent
  stage : ∀ ws, t.Stage ws

@[simp] theorem record_server (s : Server) :
    (t.record J isAlphanumeric e s).server = s := rfl
@[simp] theorem record_acks (s : Server) (ws : SocketId) : (t.record J isAlphanumeric e s).acks ws =
    t.acks ws ++ acksIn J ws (t.server.authEffects J isAlphanumeric e) := rfl
@[simp] theorem record_entered (s : Server) (ws : SocketId) :
    (t.record J isAlphanumeric e s).entered ws = (t.entered ws || s.isEntered ws) := rfl

theorem inStep_start (config : Config) : InStep { server := .start config } :=
  ⟨consistent_start config, fun _ => .unanswered rfl rfl rfl fun h => by simp [Waits, start] at h⟩

section

variable {ws : SocketId}

theorem Stage.loginRequest_of_waits (h : t.Stage ws) (hw : t.server.Waits ws) :
    (t.server.sockets ws).loginRequest = none := by
  cases h with
  | unanswered _ hl => exact hl
  | accepted _ _ _ hn => exact absurd hw hn
  | refused _ hl => exact hl

theorem isEntered_eq_false {s : Server} (hl : (s.sockets ws).loginRequest = none) :
    s.isEntered ws = false := by
  rw [isEntered, hl]

/-- A socket that keeps its login record and does not begin to wait stays at its stage. -/
theorem Stage.keeps (h : t.Stage ws) (hacks : t'.acks ws = t.acks ws)
    (hlogin : (t'.server.sockets ws).loginRequest = (t.server.sockets ws).loginRequest)
    (hwaits : t'.server.Waits ws → t.server.Waits ws)
    (hnext : t.server.nextSocket ≤ t'.server.nextSocket)
    (hentered : t'.entered ws = (t.entered ws || t'.server.isEntered ws)) : t'.Stage ws := by
  have hout : t.entered ws = false → (t.server.sockets ws).loginRequest = none →
      t'.entered ws = false := fun he hl => by
    rw [hentered, he, isEntered_eq_false (hlogin.trans hl)]
    rfl
  cases h with
  | unanswered ha hl he hw =>
    exact .unanswered (hacks.trans ha) (hlogin.trans hl) (hout he hl)
      fun h => Nat.lt_of_lt_of_le (hw (hwaits h)) hnext
  | accepted ha hl he hn hlt =>
    exact .accepted (hacks.trans ha) (hlogin ▸ hl) (by rw [hentered, he]; rfl) (mt hwaits hn)
      (Nat.lt_of_lt_of_le hlt hnext)
  | refused ha hl he hn hlt =>
    exact .refused (hacks.trans ha) (hlogin.trans hl) (hout he hl) (mt hwaits hn)
      (Nat.lt_of_lt_of_le hlt hnext)

/-- What an event does to the stage of a socket. -/
theorem Stage.turn {s' : Server} (h : t.Stage ws) (hturn : Turn J isAlphanumeric t.server e s') :
    (t.record J isAlphanumeric e s').Stage ws := by
  have hsame : acksIn J ws (t.server.authEffects J isAlphanumeric e) = [] →
      (t.record J isAlphanumeric e s').acks ws = t.acks ws := fun h => by
    rw [record_acks, h, List.append_nil]
  cases hturn with
  | leaves hacks hleaves =>
    exact h.keeps (hsame (by rw [hacks]; rfl)) (hleaves.loginRequest ws trivial)
      (hleaves.waits ws) (Nat.le_of_eq hleaves.nextSocket.symm) rfl
  | opens hacks hnext hnew hold =>
    by_cases hws : ws = t.server.nextSocket
    · -- a new socket has not been answered
      subst hws
      cases h with
      | unanswered ha hl he hw =>
        refine .unanswered ?_ hnew ?_ fun _ => ?_
        · rw [record_acks, ha, hacks]; rfl
        · rw [record_entered, he, isEntered_eq_false hnew]; rfl
        · rw [record_server, hnext]; exact Nat.lt_succ_self _
      | accepted _ _ _ _ hlt => exact absurd hlt (Nat.lt_irrefl _)
      | refused _ _ _ _ hlt => exact absurd hlt (Nat.lt_irrefl _)
    · have hsocket : (t.record J isAlphanumeric e s').server.sockets ws = t.server.sockets ws :=
        hold ws hws
      exact h.keeps (hsame (by rw [hacks]; rfl)) (congrArg Socket.loginRequest hsocket)
        (by rw [Waits, Waits, hsocket]; exact id)
        (by rw [record_server, hnext]; exact Nat.le_succ _) rfl
  | @answers w ok hw hacks hans =>
    by_cases hws : w = ws
    · -- the answer is the first, and it says where the socket is
      subst hws
      cases h with
      | unanswered ha hl he hlt =>
        have hlt' : w < s'.nextSocket := hans.logins.nextSocket ▸ hlt hw
        have hacks' : (t.record J isAlphanumeric e s').acks w = [ok] := by
          rw [record_acks, ha, hacks, if_pos rfl]; rfl
        cases ok with
        | true =>
          have hin := hans.entered rfl
          exact .accepted hacks' (loginRequest_of_isEntered hin)
            (by rw [record_entered, hin, Bool.or_true]) hans.heard hlt'
        | false =>
          have hnone := hans.refused rfl
          exact .refused hacks' hnone
            (by rw [record_entered, he, isEntered_eq_false hnone]; rfl) hans.heard hlt'
      | accepted _ _ _ hn => exact absurd hw hn
      | refused _ _ _ hn => exact absurd hw hn
    · exact h.keeps (hsame (by rw [hacks, if_neg hws])) (hans.logins.loginRequest ws (Ne.symm hws))
        (hans.logins.waits ws) (Nat.le_of_eq hans.logins.nextSocket.symm) rfl

end

theorem InStep.step (hJ : J.isNumber "9007" = true) (h : t.InStep) (he : t.server.Orderly J e)
    (hstep : t.Step J isAlphanumeric e t') : t'.InStep := by
  rw [Step, advance] at hstep
  split at hstep
  · next hguard =>
    rw [Bool.and_eq_true] at hguard
    obtain ⟨henabled, hdeferred⟩ := hguard
    obtain ⟨server, hserver, rfl⟩ := Option.map_eq_some_iff.mp hstep
    obtain rfl : server = (handle J isAlphanumeric e).final t.server := by
      rcases step_eq_some hserver with ⟨-, h⟩ | ⟨h, -⟩
      · exact h
      · exact absurd (henabled.symm.trans h) (by simp)
    have hturn := turn isAlphanumeric hJ h.consistent
      (fun w => (h.stage w).loginRequest_of_waits) henabled hdeferred he
    exact ⟨h.consistent.handle J isAlphanumeric henabled, fun ws => (h.stage ws).turn hturn⟩
  · exact absurd hstep (by simp)

theorem InStep.sound (h : t.InStep) : t.Sound J isAlphanumeric := by
  have hl : ∀ {ws}, true ∉ t.acks ws → (t.server.sockets ws).loginRequest = none :=
    fun {ws} hno => by
      cases h.stage ws with
      | unanswered _ hl => exact hl
      | accepted ha => exact absurd ha (fun ha => hno (by rw [ha]; simp))
      | refused _ hl => exact hl
  refine ⟨fun ws => ?_, fun ws => ?_, fun ws hno message isBinary => ?_,
    fun ws hno message isBinary => ?_, fun ws hfail => ?_⟩
  · cases h.stage ws with
    | unanswered ha | accepted ha | refused ha => rw [ha]; simp
  · cases h.stage ws with
    | unanswered ha _ he | accepted ha _ he | refused ha _ he => rw [ha, he]; simp
  · rw [Action.final, onWsMessage_silent (hl hno)]
  · rw [messageEvent_silent (hl hno)]
    exact Action.moves_when (fun _ => keepsBack_authFrameHandler message) _
  · cases h.stage ws with
    | unanswered _ hl | refused _ hl => exact hl
    | accepted ha => rw [ha] at hfail; exact absurd hfail (by simp)

/-- In every run in which the acceptances succeed the exchange is sound. -/
theorem auth_frames_sound (hJ : J.isNumber "9007" = true) {config : Config} {t : Session}
    (h : Lts.Path (Session.Step J isAlphanumeric) (fun t e => t.server.Orderly J e)
      { server := .start config } t) : t.Sound J isAlphanumeric :=
  (h.invariant (P := InStep) (fun hi he hstep => hi.step hJ he hstep) (inStep_start config)).sound

/-- An event without credentials is orderly. -/
theorem orderly_of_credentials {s : Server} (h : credentials J s e = none) : s.Orderly J e :=
  fun w params login hcreds => by rw [h] at hcreds; exact absurd hcreds (by simp)

theorem orderly_connect {s : Server} {url remote : String}
    (h : s.deferred (.connect url remote) = true) : s.Orderly J (.connect url remote) := by
  refine orderly_of_credentials ?_
  have hcreds := of_decide_eq_true h
  rw [credentials_connect]
  split
  · next hq => rw [hq] at hcreds; exact absurd hcreds (by simp [Except.toOption])
  · rfl

/-- Where nobody is, whoever has ids with ordinary texts can enter. -/
theorem enterable_of_empty {s : Server} {login : LoginRequest} {k l m : String}
    (h : s.accounts.keys = []) (hk : propKey login.senderID = .ok k ∧ k ≠ "__proto__")
    (hm : propKey login.accountID = .ok m ∧ m ≠ "__proto__" ∧ m ∉ s.proto)
    (hl : propKey login.groupID = .ok l ∧ l ≠ "__proto__") : s.Enterable login := by
  have hnone := Table.keys_eq_nil_iff.mp h
  have hroom : s.roomFor login = none := by
    rw [roomFor_of_keys hm.1 hl.1, hnone]; rfl
  refine ⟨⟨k, hk.1, fun h => hk.2 h.1⟩, ⟨m, hm.1, fun h => hm.2.1 h.1⟩,
    ⟨l, hl.1, fun h => hl.2 h.1⟩, Or.inr (Or.inr ⟨.absent, ?_, by simp⟩), fun a ha => ?_,
    fun m a g _ ha => ?_, fun g hg => ?_⟩
  · rw [Table.index, hm.1]
    simp [Except.map, Table.get, hnone, hm.2.2]
  · rw [hnone] at ha; exact absurd ha (by simp)
  · rw [hnone] at ha; exact absurd ha (by simp)
  · rw [hroom] at hg; exact absurd hg (by simp)

/-- A `de_auth` frame. -/
def deAuth (fields : List (String × Json)) : Bytes :=
  Text.stringify (.obj ([("ty", .str "s"), ("mt", .str "de_auth")] ++ fields))

/-- A unit logs in with an auth frame. -/
def loginFrame : Event := .message 0 (deAuth [("f", .str "k1"), ("s", .str "drone")]) false

theorem auth_frames_sound_login : ∃ t : Session, t.acks 0 = [true] ∧ t.entered 0 = true ∧
    t.Sound Text.codec isAsciiAlphanumeric := by
  have hrun : ([announceUnit "k1", .connect "/" "peer", loginFrame].foldlM
      (advance Text.codec isAsciiAlphanumeric) { server := .start {} }).map
        (fun t => (t.acks 0, t.entered 0)) = some ([true], true) := by
    decide +kernel
  have hrooms : ([announceUnit "k1", .connect "/" "peer"].foldlM
      (advance Text.codec isAsciiAlphanumeric) { server := .start {} }).map (fun t =>
        (t.server.accounts.keys, t.server.proto.contains "acc",
          t.server.config.local_server_enabled)) = some ([], false, false) := by
    decide +kernel
  have hlogins : ([announceUnit "k1", .connect "/" "peer"].foldlM
      (advance Text.codec isAsciiAlphanumeric) { server := .start {} }).bind (fun t =>
        (credentials Text.codec t.server loginFrame).bind fun c => (t.server.loginFor c.2).map
          fun l => (l.senderID, l.accountID, l.groupID)) =
        some (some (.str "drone"), some (.str "acc"), some (.str "1")) := by
    decide +kernel
  obtain ⟨t, ht, hf⟩ := Option.map_eq_some_iff.mp hrun
  rw [Prod.mk.injEq] at hf
  rw [List.foldlM_cons] at ht
  obtain ⟨t₁, ht₁, ht⟩ := Option.bind_eq_some_iff.mp ht
  rw [List.foldlM_cons] at ht
  obtain ⟨t₂, ht₂, ht⟩ := Option.bind_eq_some_iff.mp ht
  rw [List.foldlM_cons] at ht
  obtain ⟨t₃, ht₃, ht⟩ := Option.bind_eq_some_iff.mp ht
  obtain rfl : t₃ = t := Option.some.inj ht
  have htwo : [announceUnit "k1", .connect "/" "peer"].foldlM
      (advance Text.codec isAsciiAlphanumeric) { server := .start {} } = some t₂ := by
    simp [ht₁, ht₂]
  rw [htwo, Option.map_some, Option.some.injEq, Prod.mk.injEq, Prod.mk.injEq] at hrooms
  rw [htwo, Option.bind_some] at hlogins
  obtain ⟨hempty, hproto, hlocal⟩ := hrooms
  have hconnect : t₁.server.Orderly Text.codec (.connect "/" "peer") := by
    refine orderly_connect ?_
    rw [advance] at ht₂
    split at ht₂
    · next hguard => exact (Bool.and_eq_true _ _ ▸ hguard).2
    · exact absurd ht₂ (by simp)
  have hlogin : t₂.server.Orderly Text.codec loginFrame := by
    intro w params login hcreds hlogin
    rw [hcreds, Option.bind_some, hlogin, Option.map_some, Option.some.injEq, Prod.mk.injEq,
      Prod.mk.injEq] at hlogins
    obtain ⟨hsender, haccount, hgroup⟩ := hlogins
    refine ⟨enterable_of_empty hempty ⟨hsender ▸ propKey_str "drone", by decide⟩
      ⟨haccount ▸ propKey_str "acc", by decide, by simpa using hproto⟩
      ⟨hgroup ▸ propKey_str "1", by decide⟩, fun h => ?_⟩
    exact absurd (hlocal.symm.trans h) (by simp)
  exact ⟨t₃, hf.1, hf.2, auth_frames_sound (by decide +kernel) (.tail (.tail (.tail .refl
    (orderly_of_credentials rfl) ht₁) hconnect ht₂) hlogin ht₃)⟩

/-! ### Two runs with an acceptance that fails -/

/-- Two units of one room log in, and neither gives a sender id. -/
def namelessRun : List Event :=
  [announceUnit "k1", announceUnit "k2", .connect "/" "peer", .connect "/" "peer",
    .message 0 (deAuth [("f", .str "k1")]) false, .message 1 (deAuth [("f", .str "k2")]) false]

/-- A unit logs in on a local server, which cannot send to it. -/
def mutedRun : List Event :=
  [.connect "/" "peer", .faults fun _ => true,
    .message 0 (deAuth [("f", .str "k"), ("s", .str "drone")]) false]

/-- The second nameless unit is told `ok` although its room has refused it; the muted one is told
    `fail` although it has a login record. -/
theorem auth_frames_unsound :
    (∃ t, Lts.Path (Session.Step Text.codec isAsciiAlphanumeric) (fun _ _ => True)
        { server := .start {} } t ∧ t.acks 1 = [true] ∧ t.entered 1 = false ∧
        ¬ t.Sound Text.codec isAsciiAlphanumeric) ∧
    ∃ t, Lts.Path (Session.Step Text.codec isAsciiAlphanumeric) (fun _ _ => True)
        { server := .start { local_server_enabled := true } } t ∧ t.acks 0 = [false] ∧
        (t.server.sockets 0).loginRequest.isSome = true ∧
        ¬ t.Sound Text.codec isAsciiAlphanumeric := by
  have hnameless : (namelessRun.foldlM (advance Text.codec isAsciiAlphanumeric)
      { server := .start {} }).map (fun t => (t.acks 1, t.entered 1)) = some ([true], false) := by
    decide +kernel
  have hmuted : (mutedRun.foldlM (advance Text.codec isAsciiAlphanumeric)
      { server := .start { local_server_enabled := true } }).map
        (fun t => (t.acks 0, (t.server.sockets 0).loginRequest.isSome)) = some ([false], true) := by
    decide +kernel
  obtain ⟨t, ht, hf⟩ := Option.map_eq_some_iff.mp hnameless
  obtain ⟨u, hu, hf'⟩ := Option.map_eq_some_iff.mp hmuted
  rw [Prod.mk.injEq] at hf hf'
  refine ⟨⟨t, .of_foldlM (fun h => ⟨trivial, h⟩) ht, hf.1, hf.2, fun hsound => ?_⟩,
    u, .of_foldlM (fun h => ⟨trivial, h⟩) hu, hf'.1, hf'.2, fun hsound => ?_⟩
  · have hentered := (hsound.ok 1).mp (by rw [hf.1]; simp)
    exact absurd (hf.2.symm.trans hentered) (by simp)
  · have hnone := hsound.never 0 (by rw [hf'.1]; simp)
    rw [hnone] at hf'
    exact absurd hf'.2 (by simp)

end Session

end DroneEngage
