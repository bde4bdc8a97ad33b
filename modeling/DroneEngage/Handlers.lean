import DroneEngage.Admission

/-! What each event does to the tables.

    Every handler first does what belongs to its kind of event (`arrive`: a waiting key is issued or
    expires, a socket opens). After that it only takes things away, unless the event carries
    credentials and these are good for a login (`loginFor`): then the rest of the handler is an
    acceptance. This is the one case analysis over the events; what holds in every run follows
    from it. -/

namespace DroneEngage
open Js

namespace Server

/-! ### Credentials -/

/-- The key a client presents: the text of its own parameter `f`. -/
def presentedKey (proto : List String) (params : Table Json) : Option String :=
  match params.hasOwnProperty proto (some (.str Const.loginTempKey)),
      params.own? Const.loginTempKey with
  | .ok true, some f => (toText f).toOption
  | _, _ => none

/-- The parameters of an acceptable auth frame. -/
def frameCredentials (J : JsonCodec) (s : Server) (message : Bytes) : Option (Table Json) :=
  match J.parse message with
  | some parsed => if isAuthFrame parsed then some (frameParams s.proto parsed) else none
  | none => none

/-- The socket and the parameters of an event that makes the server check credentials. -/
def credentials (J : JsonCodec) (s : Server) : Event → Option (SocketId × Table Json)
  | .connect url _ =>
    match hasQueryCreds s.proto url with
    | .ok true => if s.config.ws_auth_no_frame_old_compatibility
      then some (s.nextSocket, getHeaderParams s.proto url) else none
    | _ => none
  | .message ws message _ =>
    if (s.sockets ws).authFrameHandler && (s.sockets ws).authPending
    then (frameCredentials J s message).map (ws, ·) else none
  | _ => none

theorem credentials_close (J : JsonCodec) (s : Server) (ws : SocketId) :
    credentials J s (.close ws) = none := rfl

theorem credentials_connect (J : JsonCodec) (s : Server) (url remote : String) :
    credentials J s (.connect url remote) = match hasQueryCreds s.proto url with
      | .ok true => if s.config.ws_auth_no_frame_old_compatibility
        then some (s.nextSocket, getHeaderParams s.proto url) else none
      | _ => none := rfl

theorem credentials_of_query (J : JsonCodec) {s : Server} {url : String} (remote : String)
    (h : (hasQueryCreds s.proto url).toOption = some true)
    (hc : s.config.ws_auth_no_frame_old_compatibility = true) :
    credentials J s (.connect url remote) = some (s.nextSocket, getHeaderParams s.proto url) := by
  rw [credentials_connect]
  cases hq : hasQueryCreds s.proto url with
  | error e => rw [hq] at h; exact absurd h (by simp [Except.toOption])
  | ok b => rw [hq] at h; obtain rfl := Option.some.inj h; rw [hc]; rfl

theorem credentials_message (J : JsonCodec) (s : Server) (ws : SocketId) (message : Bytes)
    (isBinary : Bool) : credentials J s (.message ws message isBinary) =
      if (s.sockets ws).authFrameHandler && (s.sockets ws).authPending
      then (frameCredentials J s message).map (ws, ·) else none := rfl

/-- The login record the parameters are good for, in the present state. -/
def loginFor (s : Server) (params : Table Json) : Option LoginRequest :=
  if s.config.local_server_enabled then
    match params.own? Const.loginTempKey with
    | some f => (toText f).toOption.map fun _ => localLogin s.config params
    | none => none
  else
    match presentedKey s.proto params with
    | some key => if (s.getLogin key).isNullish then none
      else some (announcedLogin params (s.getLogin key))
    | none => none

/-- The waiting accounts once the presented key is used up. -/
def keysAfter (s : Server) (params : Table Json) : Table Json :=
  if s.config.local_server_enabled then s.waitingAccounts else
    match presentedKey s.proto params with
    | some key => s.waitingAccounts.delete key
    | none => s.waitingAccounts

def consumeKey (params : Table Json) (s : Server) : Server :=
  { s with waitingAccounts := s.keysAfter params }

/-- The announcement AUTH makes in a login request, as it is stored under the key. -/
def announcement (cmd : Json) (key : String) : Option Json :=
  match cmd.hasOwnProperty "c", cmd.hasOwnProperty "d" with
  | .ok true, .ok true =>
    if cmd.field "c" = some (.str "b") then
      match ((cmd.field "d").getD .null).hasOwnProperty "d" with
      | .ok false => (writeProp Const.loginTempKey (some (.str key)) (cmd.field "d")).toOption
      | _ => none
    else none
  | _, _ => none

def issuedLogin (J : JsonCodec) (message : Bytes) (key : String) : Option Json :=
  match J.parse message with
  | none | some .null => none
  | some cmd => announcement cmd key

/-- The waiting accounts after a possible issue of a key. -/
def issue (key : String) (d? : Option Json) (s : Server) : Server :=
  match d? with
  | some d => { s with waitingAccounts := s.waitingAccounts.assign s.proto key d }
  | none => s

/-- A new connection before its credentials are checked: `hasQueryCreds` is what the look for them
    said, or that it threw. -/
def greet (hasQueryCreds : Except JsError Bool) (w : SocketId) (s : Server) : Server :=
  match hasQueryCreds with
  | .error _ => s
  | .ok true => if s.config.ws_auth_no_frame_old_compatibility
    then setSocket w (fun v => { v with listening := true }) s else s
  | .ok false => setSocket w (fun v => { v with
      listening := true, authPending := true, authTimer := true, authFrameHandler := true }) s

/-- The part of an event that is the same whatever the credentials are. -/
def arrive (J : JsonCodec) (s : Server) : Event → Server
  | .authMessage message key => issue key (issuedLogin J message key) s
  | .keyTimeout key => (deleteLogin key).final s
  | .connect url remote =>
    greet (hasQueryCreds s.proto url) s.nextSocket ((openSocket remote).final s)
  | _ => s

theorem arrive_authMessage (J : JsonCodec) (s : Server) (message : Bytes) (key : String) :
    arrive J s (.authMessage message key) = issue key (issuedLogin J message key) s := rfl

theorem arrive_keyTimeout (J : JsonCodec) (s : Server) (key : String) :
    arrive J s (.keyTimeout key) = (deleteLogin key).final s := rfl

theorem arrive_connect (J : JsonCodec) (s : Server) (url remote : String) :
    arrive J s (.connect url remote) =
      greet (hasQueryCreds s.proto url) s.nextSocket ((openSocket remote).final s) := rfl

/-! ### Reading credentials does not depend on what was taken away -/

section

variable {s s' : Server} {params : Table Json}

theorem Shrinks.loginFor (h : s.Shrinks s') : s'.loginFor params = s.loginFor params := by
  unfold Server.loginFor getLogin; rw [h.config, h.proto, h.waitingAccounts]

theorem Shrinks.withWaiting (h : s.Shrinks s') (t : Table Json) :
    Shrinks { s with waitingAccounts := t } { s' with waitingAccounts := t } :=
  { h with waitingAccounts := rfl }

theorem Shrinks.consumeKey (h : s.Shrinks s') :
    (s.consumeKey params).Shrinks (s'.consumeKey params) := by
  have hkeys : s'.keysAfter params = s.keysAfter params := by
    unfold keysAfter; rw [h.config, h.proto, h.waitingAccounts]
  unfold Server.consumeKey
  rw [hkeys]
  exact h.withWaiting _

theorem Consistent.withWaiting (hs : s.Consistent) (t : Table Json) :
    Consistent { s with waitingAccounts := t } := { hs with }

end

/-! ### Looking at credentials leaves the rooms alone -/

/-- Something may be taken away, but nothing from the rooms. -/
structure RoomsKept (s s' : Server) : Prop where
  shrinks : s.Shrinks s'
  accounts : s'.accounts = s.accounts
  accountHeap : s'.accountHeap = s.accountHeap
  groupHeap : s'.groupHeap = s.groupHeap

instance : IsPreorder Server RoomsKept where
  refl := fun s => ⟨.refl s, rfl, rfl, rfl⟩
  trans := fun _ _ _ h h' => ⟨h.shrinks.trans h'.shrinks, h'.accounts.trans h.accounts,
    h'.accountHeap.trans h.accountHeap, h'.groupHeap.trans h.groupHeap⟩

theorem roomsKept_setSocket {ws : SocketId} {f : Socket → Socket}
    (hf : ∀ w : Socket, w.Shrinks (f w)) (hname : ∀ w : Socket, (f w).name = w.name) (s : Server) :
    s.RoomsKept (setSocket ws f s) :=
  ⟨shrinks_setSocket hf hname s, rfl, rfl, rfl⟩

theorem RoomsKept.withWaiting {s s' : Server} (h : s.RoomsKept s') (t : Table Json) :
    RoomsKept { s with waitingAccounts := t } { s' with waitingAccounts := t } :=
  ⟨h.shrinks.withWaiting t, h.accounts, h.accountHeap, h.groupHeap⟩

theorem RoomsKept.consumeKey {s s' : Server} {params : Table Json} (h : s.RoomsKept s') :
    (s.consumeKey params).RoomsKept (s'.consumeKey params) :=
  ⟨h.shrinks.consumeKey, h.accounts, h.accountHeap, h.groupHeap⟩

theorem roomsKept_closeSocket (ws : SocketId) : Action.Moves RoomsKept (closeSocket ws) :=
  fun s => ⟨onlyShrinks_closeSocket ws s, rfl, rfl, rfl⟩

/-- `s'` is what an acceptance of `w` under `login` leaves of `s`: it performs only the writes of an
    acceptance, and what follows `_acceptConnection` itself only takes things away. -/
structure Accepted (J : JsonCodec) (w : SocketId) (login : LoginRequest) (s s' : Server) : Prop where
  writes : Relation.ReflTransGen (AdmitWrite w login) s s'
  accepts : ∃ s₀, s.RoomsKept s₀ ∧ ((_acceptConnection J login w).final s₀).Shrinks s'

section

variable {J : JsonCodec} {w : SocketId} {login : LoginRequest} {s s₁ s' : Server}

theorem Accepted.of_roomsKept (h : s.RoomsKept s₁) (ha : Accepted J w login s₁ s') :
    Accepted J w login s s' := by
  obtain ⟨s₀, h₀, hacc⟩ := ha.accepts
  exact ⟨.head (.shrinks h.shrinks) ha.writes, s₀, trans_of RoomsKept h h₀, hacc⟩

theorem Accepted.then_shrinks (ha : Accepted J w login s s₁) (h : s₁.Shrinks s') :
    Accepted J w login s s' := by
  obtain ⟨s₀, h₀, hacc⟩ := ha.accepts
  exact ⟨.tail ha.writes (.shrinks h), s₀, h₀, hacc.trans h⟩

end

/-! ### Completing a connection -/

open Action

section

variable (J : JsonCodec) (isAlphanumeric : String → Bool)

section

variable {R : Server → Server → Prop} [IsPreorder Server R] {ws : SocketId}

/-- The only thing that looking at a key can do is to close the socket. -/
theorem moves_validateWaiting (hclose : Moves R (closeSocket ws)) (key : Val) :
    Moves R (validateWaiting key ws) :=
  moves_bind moves_get fun _ => moves_bind (moves_ofExcept _) fun _ =>
    moves_ite (fun _ => moves_pure ()) fun _ => hclose

theorem moves_validateKey (hclose : Moves R (closeSocket ws)) (params : Table Json) :
    Moves R (validateKey isAlphanumeric params ws) := by
  refine moves_bind moves_get fun s => moves_bind (moves_ofExcept _) fun hasKey => ?_
  split
  · exact moves_bind (moves_ofExcept _) fun key => moves_bind
      (moves_ite (fun _ => hclose) fun _ => moves_validateWaiting hclose _) fun _ => moves_pure _
  · exact moves_bind (moves_validateWaiting hclose _) fun _ => moves_pure _

end

/-- A rejected socket that had not logged in only loses its connection. -/
theorem shrinks_rejectSocket {ws : SocketId} {s : Server}
    (hl : (s.sockets ws).loginRequest = none) : s.Shrinks ((rejectSocket ws).final s) := by
  refine Shrinks.trans (t := setSocket ws (fun w => { w with loginRequest := none }) s) ?_
    (onlyShrinks_closeSocket ws _)
  refine { Shrinks.refl s with sockets := fun v => ?_, renamed := fun v => Or.inl ?_ }
  · rw [setSocket_sockets]
    split
    · next h => subst h; exact { Socket.Shrinks.refl _ with loginRequest := hl.symm }
    · exact .refl _
  · rw [setSocket_sockets]
    split
    · next h => subst h; rfl
    · rfl

theorem deleteLogin_run (key : String) {s : Server} (h : (s.getLogin key).isNullish = false) :
    deleteLogin key s = (.ok (), { s with waitingAccounts := s.waitingAccounts.delete key }) := by
  unfold getLogin at h
  unfold deleteLogin
  simp [h]

section

variable {w : SocketId} {s : Server}

theorem acceptConnection_shrinks {key : String} (params : Table Json)
    (hl : (s.sockets w).loginRequest = none) (h : (s.getLogin key).isNullish = true) :
    s.Shrinks ((acceptConnection J key params w).final s) := by
  unfold acceptConnection
  rw [final_attempt_pure, final_get_bind, if_pos h]
  exact shrinks_rejectSocket hl

theorem accepted_then {login : LoginRequest} {m : Action Server Unit} (hm : OnlyShrinks m)
    (hs : s.Consistent) (hl : (s.sockets w).loginRequest = none)
    (hf : (s.sockets w).authFrameHandler = false) (hw : w < s.nextSocket) :
    Accepted J w login s ((do
      _acceptConnection J login w
      m).final s) := by
  have hadm : Admits w login s ((_acceptConnection J login w).final s) :=
    admits_acceptConnection J hl hf hw
  refine ⟨moves_bind_at hadm (fun _ _ => hm.admits _) hs, s, refl_of RoomsKept s, ?_⟩
  rcases hr : _acceptConnection J login w s with ⟨e | u, s₁⟩
  · simp only [final, run_bind_of_error hr, hr]; exact Shrinks.refl s₁
  · rw [final_bind_of_ok hr, final, hr]; exact hm s₁

theorem acceptConnection_accepted {key : String} (params : Table Json) (hs : s.Consistent)
    (hl : (s.sockets w).loginRequest = none) (hf : (s.sockets w).authFrameHandler = false)
    (hw : w < s.nextSocket) (h : (s.getLogin key).isNullish = false) :
    Accepted J w (announcedLogin params (s.getLogin key))
      { s with waitingAccounts := s.waitingAccounts.delete key }
      ((acceptConnection J key params w).final s) := by
  unfold acceptConnection
  rw [final_attempt_pure, final_get_bind, if_neg (by simp [h]),
    final_bind_of_ok (deleteLogin_run key h)]
  exact accepted_then J onlyShrinks_updateAuthServer (hs.withWaiting _) hl hf hw

theorem validateWaiting_ok {key : Val} {k : String} (hk : propKey key = .ok k) :
    ∃ s', validateWaiting key w s = (.ok (), s') := by
  unfold validateWaiting isLoginExist Table.index
  rw [run_bind_get, hk]
  cases hnull : (s.waitingAccounts.get s.proto k).isNullish with
  | true => exact ⟨_, by simp [Except.map, hnull]; rfl⟩
  | false => exact ⟨_, by simp [Except.map, hnull]; rfl⟩

theorem checkKey_ok (key : String) : ∃ s', checkKey isAlphanumeric key w s = (.ok (), s') := by
  unfold checkKey
  split
  · exact ⟨_, rfl⟩
  · exact validateWaiting_ok (propKey_str key)

/-- `validateKey` returns the presented key, also when it has closed the socket. -/
theorem validateKey_result {params : Table Json} {r : Except JsError (Option String)}
    (h : (validateKey isAlphanumeric params w s).1 = r) :
    presentedKey s.proto params = r.toOption.join := by
  subst h
  unfold validateKey presentedKey
  rw [run_bind_get]
  obtain ⟨s', hs'⟩ := validateWaiting_ok (w := w) (s := s) propKey_none
  cases params.hasOwnProperty s.proto (some (.str Const.loginTempKey)) with
  | error e => rfl
  | ok b =>
    cases params.own? Const.loginTempKey with
    | none => cases b <;> simp [run_bind_of_ok hs', Except.toOption]
    | some f =>
      cases b with
      | false => simp [run_bind_of_ok hs', Except.toOption]
      | true =>
        cases hk : toText f with
        | error e => simp [hk, Except.toOption]
        | ok key =>
          obtain ⟨s'', hs''⟩ := checkKey_ok (w := w) (s := s) isAlphanumeric key
          simp [hk, run_bind_of_ok hs'', Except.toOption]

/-- `fn_completeConnection` either accepts the socket under the login its parameters are good for,
    or only takes things away. -/
theorem completeConnection_final (params : Table Json) (hs : s.Consistent)
    (hl : (s.sockets w).loginRequest = none) (hf : (s.sockets w).authFrameHandler = false)
    (hw : w < s.nextSocket) :
    match s.loginFor params with
    | none => s.Shrinks ((completeConnection J isAlphanumeric params w).final s)
    | some login => Accepted J w login (s.consumeKey params)
        ((completeConnection J isAlphanumeric params w).final s) := by
  unfold completeConnection loginFor consumeKey keysAfter
  rw [final_get_bind]
  by_cases hlocal : s.config.local_server_enabled = true
  · simp only [if_pos hlocal]
    unfold validateKeyLocal
    cases params.own? Const.loginTempKey with
    | none => exact Shrinks.refl s
    | some f =>
      cases hf' : toText f with
      | error e => simp only [hf']; exact Shrinks.refl s
      | ok key =>
        simp only [hf']
        exact ⟨admits_acceptConnection J hl hf hw hs, s, refl_of RoomsKept s, .refl _⟩
  · simp only [if_neg hlocal]
    have hkept := moves_validateKey isAlphanumeric (roomsKept_closeSocket w) params s
    rcases hr : validateKey isAlphanumeric params w s with ⟨e | key?, s₁⟩
    · rw [validateKey_result isAlphanumeric (congrArg Prod.fst hr)]
      simp only [final, run_bind_of_error hr]
      rw [final, hr] at hkept
      exact hkept.shrinks
    · rw [validateKey_result isAlphanumeric (congrArg Prod.fst hr)]
      rw [final, hr] at hkept
      have hshr := hkept.shrinks
      have hl₁ := (hshr.sockets w).loginRequest.trans hl
      rw [final_bind_of_ok hr]
      cases key? with
      | none => exact hshr.trans (shrinks_rejectSocket hl₁)
      | some key =>
        have hget : s₁.getLogin key = s.getLogin key := by
          unfold getLogin; rw [hshr.proto, hshr.waitingAccounts]
        simp only [Except.toOption, Option.join_some]
        cases hnull : (s.getLogin key).isNullish with
        | true =>
          exact hshr.trans (acceptConnection_shrinks J params hl₁ (hget ▸ hnull))
        | false =>
          have hacc := acceptConnection_accepted J params (hs.shrinks hshr) hl₁
            ((hshr.sockets w).handler_off hf) (hshr.nextSocket ▸ hw) (hget ▸ hnull)
          rw [hget, hshr.waitingAccounts] at hacc
          exact .of_roomsKept (hkept.withWaiting _) hacc

end

/-! ### The events -/

theorem loginRequestCommand_shrinks (cmd : Json) (key : String) (s : Server)
    (hb : cmd.field "c" = some (.str "b")) (hc : cmd.hasOwnProperty "c" = .ok true) :
    (issue key (announcement cmd key) s).Shrinks ((loginRequestCommand cmd key).final s) := by
  unfold loginRequestCommand announcement
  rw [hc, if_pos hb]
  cases cmd.hasOwnProperty "d" with
  | error e => exact Shrinks.refl s
  | ok b =>
    cases b with
    | false => exact Shrinks.refl s
    | true =>
      cases ((cmd.field "d").getD .null).hasOwnProperty "d" with
      | error e => exact Shrinks.refl s
      | ok b =>
        cases b with
        | true => exact Shrinks.refl s
        | false =>
          unfold handleLoginResponses addWaitingAccount
          cases writeProp Const.loginTempKey (some (.str key)) (cmd.field "d") with
          | error e => exact Shrinks.refl s
          | ok d => exact shrinks_emit _ _

theorem authCommand_shrinks (cmd : Json) (key : String) (s : Server) :
    (issue key (announcement cmd key) s).Shrinks ((authCommand cmd key).final s) := by
  unfold authCommand
  cases hc : cmd.hasOwnProperty "c" with
  | error e => unfold announcement; rw [hc]; exact Shrinks.refl s
  | ok b =>
    cases b with
    | false => unfold announcement; rw [hc]; exact Shrinks.refl s
    | true =>
      rw [final_ok_bind, if_pos rfl]
      by_cases hb : cmd.field "c" = some (.str "b")
      · rw [if_pos hb]; exact loginRequestCommand_shrinks cmd key s hb hc
      · have hnone : announcement cmd key = none := by
          unfold announcement; rw [if_neg hb]; split <;> rfl
        rw [if_neg hb, hnone]
        exact moves_ite (fun _ => onlyShrinks_emit _) (fun _ => moves_pure ()) s

theorem authMessage_shrinks (message : Bytes) (key : String) (s : Server) :
    (issue key (issuedLogin J message key) s).Shrinks
      ((authServerMessagesHandler J message key).final s) := by
  unfold authServerMessagesHandler issuedLogin
  rw [final_attempt_pure]
  cases J.parse message with
  | none => exact Shrinks.refl s
  | some cmd =>
    cases cmd with
    | null => exact Shrinks.refl s
    | bool | num | str | arr | obj => exact authCommand_shrinks _ key s

/-- The result of checking credentials on `w`: an acceptance, or less than there was. -/
def Checked (w : SocketId) (params : Table Json) (s s' : Server) : Prop :=
  match s.loginFor params with
  | none => s.Shrinks s'
  | some login => Accepted J w login (s.consumeKey params) s'

variable {J} in
theorem Checked.of_roomsKept {w : SocketId} {params : Table Json} {s s₁ s' : Server}
    (h : s.RoomsKept s₁) (hc : Checked J w params s₁ s') : Checked J w params s s' := by
  unfold Checked at hc ⊢
  rw [h.shrinks.loginFor] at hc
  cases hl : s.loginFor params with
  | none => rw [hl] at hc; exact h.shrinks.trans hc
  | some login => rw [hl] at hc; exact .of_roomsKept h.consumeKey hc

variable {J} in
theorem Checked.then_shrinks {w : SocketId} {params : Table Json} {s s₁ s' : Server}
    (hc : Checked J w params s s₁) (h : s₁.Shrinks s') : Checked J w params s s' := by
  unfold Checked at hc ⊢
  cases hl : s.loginFor params with
  | none => rw [hl] at hc; exact hc.trans h
  | some login => rw [hl] at hc; exact hc.then_shrinks h

theorem serveSocket_final (creds : Bool) (params : Table Json) (w : SocketId) (s : Server) :
    (serveSocket J isAlphanumeric creds params w).final s =
      if creds then
        if s.config.ws_auth_no_frame_old_compatibility
        then (completeConnection J isAlphanumeric params w).final (greet (.ok true) w s)
        else (closeSocket w).final s
      else greet (.ok false) w s := by
  unfold serveSocket greet
  rw [final_get_bind]
  cases creds with
  | false =>
    rw [if_neg (by simp), final_modify_bind, if_neg (by simp), final_modify, setSocket_setSocket,
      if_neg (by simp)]
  | true =>
    cases s.config.ws_auth_no_frame_old_compatibility with
    | false => rw [if_pos ⟨rfl, rfl⟩, if_pos rfl, if_neg Bool.false_ne_true]
    | true => rw [if_neg (by simp), final_modify_bind, if_pos rfl]; simp only [if_true]

/-- A socket that no longer listens for its auth frame. -/
theorem socketShrinks_heard (v : Socket) :
    v.Shrinks { v with authFrameHandler := false, authTimer := false } :=
  { Socket.Shrinks.refl v with authFrameHandler := fun h => Bool.noConfusion h }

/-- A socket whose auth frame has come. -/
theorem socketShrinks_settled (v : Socket) : v.Shrinks { v with authPending := false } :=
  { Socket.Shrinks.refl v with authPending := fun h => Bool.noConfusion h }

/-- `authenticateFrame` is a completed connection with acks around it. -/
theorem authenticateFrame_checked {w : SocketId} {s : Server} (parsed : Json) (hs : s.Consistent)
    (hl : (s.sockets w).loginRequest = none) (hf : (s.sockets w).authFrameHandler = false)
    (hw : w < s.nextSocket) :
    Checked J w (frameParams s.proto parsed) s
      ((authenticateFrame J isAlphanumeric parsed w).final s) := by
  have hkept : s.RoomsKept (setSocket w (fun v => { v with authPending := false }) s) :=
    roomsKept_setSocket socketShrinks_settled (fun _ => rfl) s
  have hpend := hkept.shrinks
  refine .of_roomsKept hkept ?_
  have hcompl := completeConnection_final J isAlphanumeric (frameParams s.proto parsed)
    (hs.shrinks hpend) ((hpend.sockets w).loginRequest.trans hl)
    ((hpend.sockets w).handler_off hf) hw
  refine Checked.then_shrinks hcompl ?_
  have hack : ∀ reason, OnlyShrinks (do
      sendAuthAck J (some reason) w
      closeSocket w) := fun reason =>
    moves_bind (onlyShrinks_sendAuthAck J _ w) fun _ => onlyShrinks_closeSocket w
  have hrest : ∀ completed, OnlyShrinks (if completed = true then do
      let s ← Action.get
      if (s.sockets w).loginRequest.isSome then sendAuthAck J none w
      else do
        sendAuthAck J (some "auth rejected") w
        closeSocket w
    else pure ()) := fun _ =>
    moves_ite (fun _ => moves_bind moves_get fun _ =>
      moves_ite (fun _ => onlyShrinks_sendAuthAck J _ w) fun _ => hack _) fun _ => moves_pure ()
  unfold authenticateFrame
  rw [final_modify_bind, final_get_bind, setSocket_proto]
  generalize setSocket w (fun v => { v with authPending := false }) s = s₁
  rcases hc : completeConnection J isAlphanumeric (frameParams s.proto parsed) w s₁ with
    ⟨e | u, s₂⟩
  · -- the validation threw
    rw [final_attempt_bind_of_error (run_bind_of_error hc), final, hc]
    exact moves_bind (moves_bind (onlyShrinks_sendAuthAck J _ w) fun _ =>
      moves_bind (onlyShrinks_closeSocket w) fun _ => moves_pure false) hrest s₂
  · have hrun : (do
        completeConnection J isAlphanumeric (frameParams s.proto parsed) w
        return true : Action Server Bool) s₁ = (.ok true, s₂) := run_bind_of_ok hc
    rw [final_attempt_bind_of_ok hrun, final, hc]
    exact hrest true s₂

/-- The outcome of an event with or without credentials. -/
def Outcome (creds : Option (SocketId × Table Json)) (s s' : Server) : Prop :=
  match creds with
  | none => s.Shrinks s'
  | some (w, params) => Checked J w params s s'

theorem authFrameHandler_final {w : SocketId} {s : Server} (message : Bytes) (hs : s.Consistent)
    (hh : (s.sockets w).authFrameHandler = true) (hw : w < s.nextSocket) :
    Outcome J (credentials J s (.message w message false)) s
      ((authFrameHandler J isAlphanumeric w message).final s) := by
  have hkept : s.RoomsKept (setSocket w (fun v =>
      { v with authFrameHandler := false, authTimer := false }) s) :=
    roomsKept_setSocket socketShrinks_heard (fun _ => rfl) s
  have hoff := hkept.shrinks
  have hl := hs.waiting w hh
  have hl₁ := (hoff.sockets w).loginRequest.trans hl
  unfold authFrameHandler
  rw [credentials_message, final_modify_bind, final_get_bind, hh, Bool.true_and]
  cases hp : (s.sockets w).authPending with
  | false => rw [if_neg Bool.false_ne_true, if_pos (by simpa using hp)]; exact hoff
  | true =>
    rw [if_pos rfl, if_neg (by simp [hp])]
    unfold frameCredentials
    cases J.parse message with
    | none => exact hoff.trans (onlyShrinks_refuseAuthFrame J _ w _)
    | some parsed =>
      cases hauth : isAuthFrame parsed with
      | false =>
        simp only [hauth, Bool.false_eq_true, if_false, Option.map_none]
        exact hoff.trans (onlyShrinks_refuseAuthFrame J _ w _)
      | true =>
        simp only [hauth, if_true, Option.map_some]
        exact .of_roomsKept hkept (authenticateFrame_checked J isAlphanumeric parsed
          (hs.shrinks hoff) hl₁ (by simp) hw)

/-- A socket that waits for its auth frame has not logged in, and its frames are ignored. -/
theorem onWsMessage_waiting {w : SocketId} {s : Server} (hs : s.Consistent)
    (hh : (s.sockets w).authFrameHandler = true) (message : Bytes) (isBinary : Bool) :
    when (s.sockets w).listening (onWsMessage J w message isBinary) s = (.ok (), s) := by
  have hnone : s.injectPermission J w message isBinary = none := by
    unfold injectPermission
    rw [hs.waiting w hh]
    simp
  have hparse : parseMessage J w message isBinary s = (.ok (), s) := by
    unfold parseMessage; rw [run_bind_get, hnone]; rfl
  cases (s.sockets w).listening with
  | false => rfl
  | true => exact hparse

theorem messageEvent_final {w : SocketId} {s : Server} (message : Bytes) (isBinary : Bool)
    (hs : s.Consistent) (hw : w < s.nextSocket) :
    Outcome J (credentials J s (.message w message isBinary)) s
      ((messageEvent J isAlphanumeric w message isBinary).final s) := by
  unfold messageEvent
  rw [final_get_bind]
  cases hh : (s.sockets w).authFrameHandler with
  | false =>
    have hnone : credentials J s (.message w message isBinary) = none := by
      rw [credentials_message, hh]; rfl
    rw [hnone]
    exact moves_bind (moves_when fun _ => onlyShrinks_parseMessage J w _ _)
      (fun _ => moves_when fun h => absurd h (by simp)) s
  | true =>
    rw [final_bind_of_ok (onWsMessage_waiting J hs hh message isBinary)]
    exact authFrameHandler_final J isAlphanumeric message hs hh hw

theorem openSocket_sockets (remote : String) (s : Server) (v : SocketId) :
    ((openSocket remote).final s).sockets v =
      if v = s.nextSocket then { remote := remote } else s.sockets v := by
  change Function.update s.sockets s.nextSocket _ v = _
  rw [Function.update_apply]

/-- Nothing points to a socket that has just been opened. -/
theorem Consistent.openSocket {s : Server} (hs : s.Consistent) (remote : String) :
    ((openSocket remote).final s).Consistent := by
  have hold : ∀ ws login, (s.sockets ws).loginRequest = some login →
      ((Server.openSocket remote).final s).sockets ws = s.sockets ws := fun ws login hl => by
    rw [openSocket_sockets, if_neg]
    rintro rfl
    rw [hs.fresh _ (Nat.le_refl _)] at hl
    exact absurd hl (by simp)
  exact
    { account_lt := hs.account_lt, account_key := hs.account_key, group_lt := hs.group_lt
      group_key := hs.group_key, group_parent := hs.group_parent, parent_lt := hs.parent_lt
      room := fun ws g hg => by
        rw [openSocket_sockets] at hg ⊢
        split at hg
        · exact absurd hg (by simp)
        · next h => rw [if_neg h]; exact hs.room ws g hg
      member := fun g k ws hu => by
        obtain ⟨login, hl, hk, hr⟩ := hs.member g k ws hu
        exact ⟨login, (hold ws login hl).symm ▸ hl, hk, hr⟩
      home := fun g k ws hu => by
        obtain ⟨login, hl, -⟩ := hs.member g k ws hu
        rw [hold ws login hl]; exact hs.home g k ws hu
      named := fun g k ws login hu hl' => by
        obtain ⟨l, hl, -⟩ := hs.member g k ws hu
        rw [hold ws l hl] at hl' ⊢; exact hs.named g k ws login hu hl'
      active := fun k ws ha => by
        obtain ⟨login, hl, hk⟩ := hs.active k ws ha
        exact ⟨login, (hold ws login hl).symm ▸ hl, hk⟩
      name := fun ws => by
        rw [openSocket_sockets]
        split
        · exact Or.inl rfl
        · exact hs.name ws
      waiting := fun ws hw => by
        rw [openSocket_sockets] at hw ⊢
        split at hw
        · exact absurd hw (by simp)
        · next h => rw [if_neg h]; exact hs.waiting ws hw
      fresh := fun ws hws => by
        rw [openSocket_sockets]
        split
        · rfl
        · exact hs.fresh ws (Nat.le_of_succ_le hws) }

/-- Registering listeners keeps the rooms consistent. -/
theorem Consistent.setListeners {s : Server} {w : SocketId} {f : Socket → Socket}
    (hs : s.Consistent) (hlogin : (f (s.sockets w)).loginRequest = (s.sockets w).loginRequest)
    (hname : (f (s.sockets w)).name = (s.sockets w).name)
    (hgroup : (f (s.sockets w)).group = (s.sockets w).group)
    (hw : (s.sockets w).loginRequest = none) : (setSocket w f s).Consistent := by
  have hlog : ∀ v, ((setSocket w f s).sockets v).loginRequest = (s.sockets v).loginRequest :=
    fun v => by rw [setSocket_sockets]; split <;> simp_all
  exact
    { account_lt := hs.account_lt, account_key := hs.account_key, group_lt := hs.group_lt
      group_key := hs.group_key, group_parent := hs.group_parent, parent_lt := hs.parent_lt
      room := fun v g hg => by
        rw [hlog]
        refine hs.room v g ?_
        rw [setSocket_sockets] at hg
        split at hg
        · next h => subst h; rw [← hgroup]; exact hg
        · exact hg
      member := fun g k v hu => by rw [hlog]; exact hs.member g k v hu
      home := fun g k v hu => by
        rw [setSocket_ne _ _ _ _ ((hs.unlisted hw).ne_of_listed hu)]; exact hs.home g k v hu
      named := fun g k v login hu hl => by
        rw [hlog] at hl
        rw [setSocket_ne _ _ _ _ ((hs.unlisted hw).ne_of_listed hu)]
        exact hs.named g k v login hu hl
      active := fun k v ha => by rw [hlog]; exact hs.active k v ha
      name := fun v => by
        rw [hlog, setSocket_sockets]
        split
        · next h => subst h; rw [hname]; exact hs.name v
        · exact hs.name v
      waiting := fun v hv => by
        rw [hlog]
        rw [setSocket_sockets] at hv
        split at hv
        · next h => subst h; exact hw
        · exact hs.waiting v hv
      fresh := fun v hv => by rw [hlog]; exact hs.fresh v hv }

theorem Consistent.greet {s : Server} {w : SocketId} (hs : s.Consistent)
    (creds : Except JsError Bool) (hw : (s.sockets w).loginRequest = none) :
    (greet creds w s).Consistent := by
  unfold Server.greet
  split
  · exact hs
  · split
    · exact hs.setListeners rfl rfl rfl hw
    · exact hs
  · exact hs.setListeners rfl rfl rfl hw

theorem connect_final {url remote : String} {s : Server} (hs : s.Consistent) :
    Outcome J (credentials J s (.connect url remote)) (arrive J s (.connect url remote))
      ((onConnect J isAlphanumeric url s.nextSocket).final ((openSocket remote).final s)) := by
  have hopen := hs.openSocket remote
  have hnew := openSocket_sockets remote s s.nextSocket
  rw [if_pos rfl] at hnew
  have hproto : ((openSocket remote).final s).proto = s.proto := rfl
  have hconfig : ((openSocket remote).final s).config = s.config := rfl
  have hlt : s.nextSocket < ((openSocket remote).final s).nextSocket := Nat.lt_succ_self _
  unfold onConnect
  rw [credentials_connect, arrive_connect, final_get_bind, hproto]
  generalize (openSocket remote).final s = s₀ at *
  cases hasQueryCreds s.proto url with
  | error e => exact Shrinks.refl s₀
  | ok creds =>
    rw [final_ok_bind, serveSocket_final, hconfig]
    cases creds with
    | false => exact Shrinks.refl _
    | true =>
      unfold greet
      rw [hconfig, if_pos rfl]
      cases s.config.ws_auth_no_frame_old_compatibility with
      | false => exact onlyShrinks_closeSocket _ s₀
      | true =>
        have hlisten := hopen.setListeners (f := fun v => { v with listening := true })
          rfl rfl rfl (congrArg Socket.loginRequest hnew)
        exact completeConnection_final J isAlphanumeric _ hlisten (by simp [hnew])
          (by simp [hnew]) hlt

/-- What an event leaves behind. -/
theorem handle_final {s : Server} {e : Event} (hs : s.Consistent) (he : s.enabled e = true) :
    Outcome J (credentials J s e) (arrive J s e) ((handle J isAlphanumeric e).final s) := by
  cases e with
  | authMessage message key => exact authMessage_shrinks J message key s
  | keyTimeout key => exact Shrinks.refl _
  | connect url remote => exact connect_final J isAlphanumeric hs
  | message ws message isBinary =>
    unfold enabled at he
    rw [Bool.and_eq_true] at he
    exact messageEvent_final J isAlphanumeric message isBinary hs (of_decide_eq_true he.1)
  | authTimeout ws => exact onlyShrinks_authTimeout J ws s
  | close ws => exact onlyShrinks_closeEvent ws s
  | external message isBinary source => exact onlyShrinks_parseExternalMessage J _ _ _ s
  | faults sendFails => exact { Shrinks.refl s with }
  | udpProgress name entry => exact shrinks_udp _ s
  | storage connected state => exact { Shrinks.refl s with }

/-! ### Every run keeps the rooms consistent -/

theorem issue_eq (key : String) (d? : Option Json) (s : Server) :
    ∃ t, issue key d? s = { s with waitingAccounts := t } := by
  cases d? with
  | none => exact ⟨_, rfl⟩
  | some d => exact ⟨_, rfl⟩

theorem deleteLogin_eq (key : String) (s : Server) :
    ∃ t, (deleteLogin key).final s = { s with waitingAccounts := t } := by
  unfold deleteLogin
  rw [final_get_bind]
  split
  · exact ⟨_, rfl⟩
  · exact ⟨_, rfl⟩

theorem Consistent.arrive {s : Server} (hs : s.Consistent) (e : Event) :
    (arrive J s e).Consistent := by
  cases e with
  | authMessage message key =>
    obtain ⟨t, ht⟩ := issue_eq key (issuedLogin J message key) s
    rw [arrive_authMessage, ht]; exact hs.withWaiting t
  | keyTimeout key =>
    obtain ⟨t, ht⟩ := deleteLogin_eq key s
    rw [arrive_keyTimeout, ht]; exact hs.withWaiting t
  | connect url remote =>
    refine (hs.openSocket remote).greet _ ?_
    rw [openSocket_sockets, if_pos rfl]
  | message | authTimeout | close | external | faults | udpProgress | storage => exact hs

variable {J} in
theorem Consistent.outcome {s s' : Server} {creds : Option (SocketId × Table Json)}
    (hs : s.Consistent) (h : Outcome J creds s s') : s'.Consistent := by
  unfold Outcome Checked at h
  split at h
  · exact hs.shrinks h
  · split at h
    · exact hs.shrinks h
    · exact (hs.withWaiting _).admitWrites h.writes

theorem Consistent.handle {s : Server} {e : Event} (hs : s.Consistent)
    (he : s.enabled e = true) : ((handle J isAlphanumeric e).final s).Consistent :=
  (hs.arrive J e).outcome (handle_final J isAlphanumeric hs he)

/-- In every state of every run the tables agree with the objects they point to. -/
theorem consistent_run {config : Config} {es : List Event} {s : Server}
    (h : run J isAlphanumeric (start config) es = some s) : s.Consistent :=
  run_invariant (fun _ _ hs he => hs.handle J isAlphanumeric he) (consistent_start config) h

end

end Server

end DroneEngage
