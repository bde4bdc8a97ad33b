import DroneEngage.DbConnections

/-! Challenges of the storage server.

    A storage server that wants to know its client sends a challenge, and `auth_success` once the
    answer satisfies it. A client that hears nothing for two seconds after its socket opened takes the
    connection to be authenticated, and a challenge that comes later than that does not undo it.

    Here every event is one of the current socket, so each connection is followed on its own. -/

namespace DroneEngage
open Js

namespace DbProxyClient

open Action

variable {s s' : DbProxyClient} {w : WsId} {t : TimerId}

/-! ### The timer of the handshake -/

theorem isConnected_iff : s.isConnected = true ↔
    s.authenticated = true ∧ ∃ w, s.ws = some w ∧ s.sockets w = .isOpen := by
  constructor
  · intro h
    obtain ⟨w, hws, hopen, hauth⟩ := isConnected_socket h
    exact ⟨hauth, w, hws, hopen⟩
  · rintro ⟨hauth, w, hws, hopen⟩
    simp [isConnected, socketOpen, hws, hopen, hauth]

theorem Quiet.isConnected (h : Quiet s s') (hc : s'.isConnected = true) : s.isConnected = true := by
  obtain ⟨hauth, w, hws, hopen⟩ := isConnected_iff.mp hc
  rw [h.authenticated] at hauth
  rw [h.ws] at hws
  refine isConnected_iff.mpr ⟨hauth, w, hws, ?_⟩
  rcases h.sockets w with hsame | ⟨hdead, -⟩
  · rw [← hsame, hopen]
  · exact absurd (Or.inr hopen) hdead

/-- Only the timer in `m_s2sAuthTimer` can be armed, and sockets are numbered in order. -/
structure Guarded (s : DbProxyClient) : Prop where
  timer : ∀ t, s.timers t = some .s2sAuth → s.s2sAuthTimer = some t
  fresh : ∀ w, s.nextSocket ≤ w → s.sockets w = .closed

/-- No timer of the handshake is armed. -/
def TimerOff (s : DbProxyClient) : Prop := ∀ t, s.timers t ≠ some .s2sAuth

/-- The connection stays, and the timer of the handshake is not armed anew. -/
structure Waits (s s' : DbProxyClient) : Prop where
  ws : s'.ws = s.ws
  nextSocket : s'.nextSocket = s.nextSocket
  sockets : ∀ w, s'.sockets w = .connecting → s.sockets w = .connecting
  guarded : s.Guarded → s'.Guarded
  off : s.Guarded → s.TimerOff → s'.TimerOff

instance : IsPreorder DbProxyClient Waits where
  refl := fun _ => ⟨rfl, rfl, fun _ => id, id, fun _ => id⟩
  trans := fun _ _ _ h h' => ⟨h'.ws.trans h.ws, h'.nextSocket.trans h.nextSocket,
    fun w hw => h.sockets w (h'.sockets w hw), fun hg => h'.guarded (h.guarded hg),
    fun hg hoff => h'.off (h.guarded hg) (h.off hg hoff)⟩

theorem Steady.waits (h : Steady s s') : Waits s s' where
  ws := h.ws
  nextSocket := h.nextSocket
  off := fun _ hoff t ht => hoff t (h.s2sAuth t ht)
  sockets := fun w hw => by
    rcases h.sockets w with hsame | ⟨hdead, -⟩
    · rw [← hsame, hw]
    · exact absurd (Or.inl hw) hdead
  guarded := fun hg => by
    refine ⟨fun t ht => ?_, fun w hw => ?_⟩
    · rw [h.s2sAuthTimer]
      exact hg.timer t (h.s2sAuth t ht)
    · rw [h.nextSocket] at hw
      rcases h.sockets w with hsame | ⟨-, hne⟩
      · rw [hsame, hg.fresh w hw]
      · exact absurd (hg.fresh w hw) hne

theorem waits_write (hws : s'.ws = s.ws) (hnext : s'.nextSocket = s.nextSocket)
    (hs2s : s'.s2sAuthTimer = s.s2sAuthTimer) (hsockets : s'.sockets = s.sockets)
    (htimers : s'.timers = s.timers) : Waits s s' :=
  (steady_write hws hnext hs2s hsockets htimers).waits

theorem disarm?_timerOff (hg : s.Guarded) : (s.disarm? s.s2sAuthTimer).TimerOff := by
  intro t ht
  have hold := (quiet_disarm? s.s2sAuthTimer s).s2sAuth t ht
  rw [hg.timer t hold] at ht
  exact (timers_disarm ht).1 rfl

theorem timerOff_clearS2sAuthTimer (hg : s.Guarded) : (clearS2sAuthTimer.final s).TimerOff :=
  disarm?_timerOff hg

theorem waits_clearS2sAuthTimer : Moves Waits clearS2sAuthTimer := by
  intro s
  have hsame := (quiet_disarm? s.s2sAuthTimer s).toSteady.waits
  refine ⟨hsame.ws, hsame.nextSocket, hsame.sockets, fun hg => ?_,
    fun hg _ => timerOff_clearS2sAuthTimer hg⟩
  exact ⟨fun t ht => absurd ht (timerOff_clearS2sAuthTimer hg t), (hsame.guarded hg).fresh⟩

theorem steady_setConnected : Moves Steady setConnected :=
  moves_bind (moves_modify fun _ => steady_write rfl rfl rfl rfl rfl) fun _ =>
    moves_bind ((quiet_sendStorageStatus _ _ _).mono Quiet.toSteady) fun _ =>
      quiet_startHeartbeat.mono Quiet.toSteady

section

variable {PrivateKey PublicKey : Type} (E : StorageSettings PrivateKey PublicKey)

/-- The answer to a challenge, once the timer is cleared. -/
def respond (w : WsId) (nonce : Val) : Action DbProxyClient Unit :=
  Action.attempt
    (do
      let response ← Action.ofExcept (S2sAuth.buildResponse E.J E.crypto E.config nonce)
      send w (.response w response))
    fun _ => closeSocket w

theorem quiet_respond (w : WsId) (nonce : Val) : Moves Quiet (respond E w nonce) :=
  moves_attempt (moves_bind (moves_ofExcept _) fun _ => quiet_send w _) fun _ => quiet_closeSocket w

theorem final_onEnvelope_challenge {env : Json} (hws : s.ws = some w)
    (h : env.field "s2s_auth" = some (.str S2sAuth.challenge)) :
    (onEnvelope E env).final s = (respond E w (env.field "nonce")).final (clearS2sAuthTimer.final s) := by
  rw [onEnvelope, final_get_bind, hws]
  simp only [if_pos h]
  rfl

/-- A challenge leaves the client connected if it can be answered. -/
theorem isConnected_respond (hws : s.ws = some w) (nonce : Val) :
    ((respond E w nonce).final s).isConnected = true ↔ s.isConnected = true ∧
      ∃ r, S2sAuth.buildResponse E.J E.crypto E.config nonce = .ok r := by
  constructor
  · intro h
    refine ⟨(quiet_respond E w nonce s).isConnected h, ?_⟩
    cases hr : S2sAuth.buildResponse E.J E.crypto E.config nonce with
    | ok r => exact ⟨r, rfl⟩
    | error e =>
      obtain ⟨-, v, hv, hopen⟩ := isConnected_iff.mp h
      rw [(quiet_respond E w nonce s).ws, hws, Option.some.injEq] at hv
      subst hv
      have hclosed : (respond E w nonce).final s = (closeSocket w).final s := by
        rw [respond, hr]
        rfl
      rw [hclosed] at hopen
      exact absurd (Or.inr hopen) (dead_closeSocket w s)
  · rintro ⟨hc, r, hr⟩
    obtain ⟨-, v, hv, hopen⟩ := isConnected_iff.mp hc
    rw [hws, Option.some.injEq] at hv
    subst hv
    have hsent : (respond E w nonce).final s = s.emit (.response w r) := by
      rw [respond, hr, final, run_attempt, run_bind_ok, send, run_bind_get]
      simp only [hopen, run_modify]
    rw [hsent]
    exact hc

theorem waits_onMessage (data : Bytes) (isText : Bool) : Moves Waits (onMessage E data isText) := by
  rw [onMessage]
  cases S2sAuth.parseEnvelope E.J data isText with
  | some env =>
    intro s
    by_cases h : env.field "s2s_auth" = some (.str S2sAuth.challenge)
    · cases hws : s.ws with
      | none =>
        simp only [final_onEnvelope_ignored E (Or.inl hws)]
        exact refl_of Waits s
      | some w =>
        simp only [final_onEnvelope_challenge E hws h]
        exact trans_of Waits (waits_clearS2sAuthTimer s) (quiet_respond E w _ _).toSteady.waits
    · simp only [final_onEnvelope_ignored E (Or.inr h)]
      exact refl_of Waits s
  | none =>
    cases E.J.parse data with
    | none => exact moves_pure ()
    | some msg =>
      by_cases h : msg.field "type" = some (.str "auth_success")
      · simp only [onStorageMessage_success h]
        exact moves_bind waits_clearS2sAuthTimer fun _ => steady_setConnected.mono Steady.waits
      · exact (quiet_onStorageMessage h).mono fun hq => hq.toSteady.waits

end

/-! ### Connections that come and go -/

theorem guarded_onOpen (hg : s.Guarded) :
    (onOpen.final s).Guarded ∧ (onOpen.final s).nextSocket = s.nextSocket := by
  let Kept : DbProxyClient → Prop := fun u => u.Guarded ∧ u.nextSocket = s.nextSocket
  have hsteady : ∀ {u v : DbProxyClient}, Steady u v → Kept u → Kept v := fun h hu =>
    ⟨h.waits.guarded hu.1, h.nextSocket.trans hu.2⟩
  have hstart : Kept { s with reconnectAttempts := 0, connectionState := .connecting } :=
    ⟨⟨hg.timer, hg.fresh⟩, rfl⟩
  change Kept (onOpen.final s)
  rw [onOpen, final_modify_bind]
  refine final_bind_keeps (hsteady (quiet_sendStorageStatus _ _ _ _).toSteady hstart) fun _ u hu => ?_
  have hoff := disarm?_timerOff hu.1
  have hdisarm := hsteady (quiet_disarm? u.s2sAuthTimer u).toSteady hu
  rw [final_modify_bind, final_bind_of_ok (run_setTimer _ _), final_modify]
  refine ⟨⟨fun t ht => ?_, hdisarm.1.fresh⟩, hdisarm.2⟩
  simp only [armed, Function.update_apply] at ht ⊢
  split at ht
  · next heq => rw [heq]
  · exact absurd ht (hoff t)

/-- After a close there is no socket. -/
theorem waits_onClose (s : DbProxyClient) : Waits { s with
    authenticated := false, ws := none, connectionState := .disconnected } (onClose.final s) := by
  have hquiet : ∀ {m : Action DbProxyClient Unit}, Moves Quiet m → Moves Waits m := fun h =>
    h.mono fun hq => hq.toSteady.waits
  rw [onClose, final_modify_bind]
  refine moves_bind (R := Waits) (hquiet quiet_stopHeartbeat) (fun _ =>
    moves_bind (hquiet (quiet_sendStorageStatus _ _ _)) fun _ =>
      moves_bind (hquiet quiet_clearPending) fun _ => moves_bind waits_clearS2sAuthTimer fun _ =>
        moves_bind moves_get fun u => moves_ite (fun _ => ?_) fun _ => moves_pure ()) _
  refine moves_bind (moves_modify fun _ => waits_write rfl rfl rfl rfl rfl) fun _ v => ?_
  rw [final_bind_of_ok (run_setTimer _ _), final_modify]
  have harmed : Steady v (v.armed .reconnect) :=
    ⟨rfl, rfl, rfl, fun _ => Or.inl rfl, fun _ => timers_armed (by simp)⟩
  refine trans_of Waits harmed.waits ?_
  exact waits_write rfl rfl rfl rfl rfl

/-- A new socket takes the place of the current one. -/
structure Dials (s s' : DbProxyClient) : Prop where
  ws : s'.ws = some s.nextSocket
  nextSocket : s'.nextSocket = s.nextSocket + 1
  guarded : s.Guarded → s'.Guarded

theorem connectInternal_cases (validUrl : Endpoint → Bool) (s : DbProxyClient) :
    Dials s ((connectInternal validUrl).final s) ∨
    Waits s ((connectInternal validUrl).final s) ∧
      ((connectInternal validUrl).final s).isConnected = s.isConnected := by
  rw [connectInternal, final_get_bind]
  cases s.currentEndpoint with
  | none => exact Or.inr ⟨refl_of Waits s, rfl⟩
  | some endpoint =>
    have hdisarm := (quiet_disarm? s.reconnectTimer s).toSteady.waits
    rw [final_modify_bind]
    split
    · refine Or.inl ⟨?_, ?_, fun hg => ?_⟩
      · rw [final_modify, ← hdisarm.nextSocket]
      · rw [final_modify, ← hdisarm.nextSocket]
      · have hg' := hdisarm.guarded hg
        refine ⟨hg'.timer, fun w hw => ?_⟩
        have hlt : (s.disarm? s.reconnectTimer).nextSocket < w := hw
        simp only [final_modify, setSocket, Function.update_of_ne (Nat.ne_of_gt hlt)]
        exact hg'.fresh w (Nat.le_of_lt hlt)
    · refine Or.inr ⟨trans_of Waits hdisarm ?_, ?_⟩
      · exact waits_write rfl rfl rfl rfl rfl
      · cases s.reconnectTimer with
        | none => rfl
        | some t => rfl

/-- The client turns to another endpoint. -/
theorem connect_cases (validUrl : Endpoint → Bool) (endpoint : Endpoint) (s : DbProxyClient) :
    (connect validUrl endpoint).final s = s ∨ Dials s ((connect validUrl endpoint).final s) ∨
    ((connect validUrl endpoint).final s).ws = none ∧
      ((connect validUrl endpoint).final s).nextSocket = s.nextSocket ∧
      (s.Guarded → ((connect validUrl endpoint).final s).Guarded) := by
  let Result : DbProxyClient → Prop := fun s' => Dials s s' ∨
    s'.ws = none ∧ s'.nextSocket = s.nextSocket ∧ (s.Guarded → s'.Guarded)
  have hrest : ∀ m : DbProxyClient, m.ws = none → m.nextSocket = s.nextSocket →
      (s.Guarded → m.Guarded) → Result ((do
        Action.modify fun s => { s with authenticated := false, currentEndpoint := some endpoint }
        connectInternal validUrl : Action DbProxyClient Unit).final m) := by
    intro m hws hnext hg
    have hwrite : Waits m { m with authenticated := false, currentEndpoint := some endpoint } :=
      waits_write rfl rfl rfl rfl rfl
    rw [final_modify_bind]
    rcases connectInternal_cases validUrl _ with h | ⟨h, -⟩
    · refine Or.inl ⟨?_, ?_, fun hs => h.guarded (hwrite.guarded (hg hs))⟩
      · rw [h.ws, hwrite.nextSocket, hnext]
      · rw [h.nextSocket, hwrite.nextSocket, hnext]
    · have hall := trans_of Waits hwrite h
      exact Or.inr ⟨hall.ws.trans hws, hall.nextSocket.trans hnext, fun hs => hall.guarded (hg hs)⟩
  rw [connect, final_get_bind]
  split
  · exact Or.inl rfl
  · refine Or.inr ?_
    cases hws : s.ws with
    | none => exact hrest s hws rfl id
    | some w =>
      have hclose := (quiet_closeSocket w s).toSteady.waits
      exact hrest { (closeSocket w).final s with ws := none } rfl hclose.nextSocket fun hs =>
        ⟨(hclose.guarded hs).timer, (hclose.guarded hs).fresh⟩

/-! ### Challenges along a run -/

/-- The client, the sockets whose last challenge waits for `auth_success`, and whether a request was
    sent on such a socket. -/
structure Watched where
  client : DbProxyClient := {}
  challenged : WsId → Bool := fun _ => false
  leaked : Bool := false

section

variable {PrivateKey PublicKey : Type} (E : StorageSettings PrivateKey PublicKey)

def isChallenge (data : Bytes) (isText : Bool) : Bool :=
  (S2sAuth.parseEnvelope E.J data isText).any fun env =>
    env.field "s2s_auth" = some (.str S2sAuth.challenge)

def isSuccess (data : Bytes) (isText : Bool) : Bool :=
  (S2sAuth.parseEnvelope E.J data isText).isNone && (E.J.parse data).any fun msg =>
    msg.field "type" = some (.str "auth_success")

/-- What a message means for the socket it came from. -/
def hear (challenged : WsId → Bool) : Op → WsId → Bool
  | .message w data isText =>
    if isChallenge E data isText then Function.update challenged w true
    else if isSuccess E data isText then Function.update challenged w false
    else challenged
  | _ => challenged

/-- Is there a request among the effects that was sent on such a socket? -/
def leaks (challenged : WsId → Bool) (effects : List DbEffect) : Bool :=
  effects.any fun
    | .request w _ _ => challenged w
    | _ => false

/-- One step in which no other socket takes part. -/
def Watched.Step (s : Watched) (o : Op) (s' : Watched) : Prop :=
  DbProxyClient.Step E s.client o s'.client ∧ s.client.FreshRids o ∧
    (∀ w, o.event? = some w → s.client.ws = some w) ∧ s'.challenged = hear E s.challenged o ∧
    s'.leaked = (s.leaked || leaks s.challenged (s'.client.log.drop s.client.log.length))

/-- The client does not count as connected while a challenge waits, and sends no request then. -/
def Watched.Withholds (s : Watched) : Prop :=
  (∀ w, s.client.ws = some w → s.challenged w = true → s.client.isConnected = false) ∧
    s.leaked = false

/-- A challenge comes while the client does not count as connected, or cannot be answered. -/
def Watched.InTime (s : Watched) : Op → Prop
  | .message _ data isText => ∀ env, S2sAuth.parseEnvelope E.J data isText = some env →
    env.field "s2s_auth" = some (.str S2sAuth.challenge) → s.client.isConnected = true →
      ∀ r, S2sAuth.buildResponse E.J E.crypto E.config (env.field "nonce") ≠ .ok r
  | _ => True

variable {E}

/-- A challenge that waits came on a socket that exists; if it is the current one, the timer of the
    handshake is off. -/
structure Tracked (challenged : WsId → Bool) (s : DbProxyClient) : Prop where
  guarded : s.Guarded
  known : ∀ w, challenged w = true → w < s.nextSocket
  off : ∀ w, s.ws = some w → challenged w = true → s.TimerOff ∧ s.sockets w ≠ .connecting

variable {challenged : WsId → Bool}

theorem Waits.tracked (h : Waits s s') (ht : Tracked challenged s) : Tracked challenged s' where
  guarded := h.guarded ht.guarded
  known := fun w hw => by
    rw [h.nextSocket]
    exact ht.known w hw
  off := fun w hws hw => by
    rw [h.ws] at hws
    obtain ⟨hoff, hne⟩ := ht.off w hws hw
    exact ⟨h.off ht.guarded hoff, fun hc => hne (h.sockets w hc)⟩

theorem Dials.tracked (h : Dials s s') (ht : Tracked challenged s) : Tracked challenged s' where
  guarded := h.guarded ht.guarded
  known := fun w hw => by
    rw [h.nextSocket]
    exact Nat.lt_succ_of_lt (ht.known w hw)
  off := fun w hws hw => by
    rw [h.ws, Option.some.injEq] at hws
    exact absurd (ht.known w hw) (by rw [hws]; exact Nat.lt_irrefl w)

theorem tracked_idle (hws : s.ws = none) (hg : s.Guarded)
    (hknown : ∀ w, challenged w = true → w < s.nextSocket) : Tracked challenged s :=
  ⟨hg, hknown, fun w hw => absurd (hws.symm.trans hw) (by simp)⟩

theorem Tracked.lt (ht : Tracked challenged s) (hw : s.sockets w ≠ .closed) : w < s.nextSocket :=
  Nat.lt_of_not_le fun hle => hw (ht.guarded.fresh w hle)

/-- The current socket opens. -/
theorem Tracked.opened (ht : Tracked challenged s) (hws : s.ws = some w)
    (hw : s.sockets w = .connecting) :
    challenged w = false ∧ Tracked challenged (onOpen.final (s.setSocket w .isOpen)) := by
  have hfree : challenged w = false :=
    Bool.eq_false_iff.mpr fun hc => (ht.off w hws hc).2 hw
  have hlt := ht.lt (w := w) (by simp [hw])
  have hopen : (s.setSocket w .isOpen).Guarded := by
    refine ⟨ht.guarded.timer, fun v hv => ?_⟩
    have hne : v ≠ w := fun heq => absurd hlt (Nat.not_lt_of_le (heq ▸ hv))
    simp only [setSocket, Function.update_of_ne hne]
    exact ht.guarded.fresh v hv
  obtain ⟨hg, hnext⟩ := guarded_onOpen hopen
  refine ⟨hfree, hg, fun v hv => ?_, fun v hvs hv => ?_⟩
  · rw [hnext]
    exact ht.known v hv
  · have hsame : (onOpen.final (s.setSocket w .isOpen)).ws = s.ws := (opensNone_onOpen _).ws
    rw [hsame, hws, Option.some.injEq] at hvs
    rw [← hvs, hfree] at hv
    exact absurd hv (by simp)

theorem parse_of_isChallenge {data : Bytes} {isText : Bool} (h : isChallenge E data isText = true) :
    ∃ env, S2sAuth.parseEnvelope E.J data isText = some env ∧
      env.field "s2s_auth" = some (.str S2sAuth.challenge) := by
  obtain ⟨env, henv, hfield⟩ := (Option.any_eq_true _ _).mp h
  exact ⟨env, henv, of_decide_eq_true hfield⟩

/-- The current socket hands over a message. -/
theorem Tracked.message (ht : Tracked challenged s) (hws : s.ws = some w)
    (hw : s.sockets w = .isOpen ∨ s.sockets w = .closing) (data : Bytes) (isText : Bool) :
    Tracked (hear E challenged (.message w data isText)) ((onMessage E data isText).final s) := by
  have hwaits := waits_onMessage E data isText s
  have hkeep := hwaits.tracked ht
  rw [hear]
  split
  · next hch =>
    refine ⟨hkeep.guarded, fun v hv => ?_, fun v hvs _ => ?_⟩
    · by_cases hvw : v = w
      · rw [hvw, hwaits.nextSocket]
        refine ht.lt ?_
        rcases hw with hw | hw
        · simp [hw]
        · simp [hw]
      · rw [Function.update_of_ne hvw] at hv
        exact hkeep.known v hv
    · obtain ⟨env, henv, hfield⟩ := parse_of_isChallenge hch
      have hfinal : (onMessage E data isText).final s =
          (respond E w (env.field "nonce")).final (clearS2sAuthTimer.final s) := by
        rw [onMessage, henv]
        exact final_onEnvelope_challenge E hws hfield
      rw [hwaits.ws, hws, Option.some.injEq] at hvs
      refine ⟨?_, fun hc => ?_⟩
      · rw [hfinal]
        exact (quiet_respond E w _ _).toSteady.waits.off
          ((waits_clearS2sAuthTimer s).guarded ht.guarded) (timerOff_clearS2sAuthTimer ht.guarded)
      · have hold := hwaits.sockets v hc
        rw [← hvs] at hold
        rcases hw with hw | hw
        · rw [hold] at hw
          exact absurd hw (by simp)
        · rw [hold] at hw
          exact absurd hw (by simp)
  · split
    · refine ⟨hkeep.guarded, fun v hv => ?_, fun v hvs hv => ?_⟩
      · by_cases hvw : v = w
        · rw [hvw, Function.update_self] at hv
          exact absurd hv (by simp)
        · rw [Function.update_of_ne hvw] at hv
          exact hkeep.known v hv
      · rw [hwaits.ws, hws, Option.some.injEq] at hvs
        rw [← hvs, Function.update_self] at hv
        exact absurd hv (by simp)
    · exact hkeep

/-- The client does not count as connected while a challenge waits on its socket. -/
def Held (challenged : WsId → Bool) (s : DbProxyClient) : Prop :=
  ∀ w, s.ws = some w → challenged w = true → s.isConnected = false

theorem Quiet.held (h : Quiet s s') (hs : Held challenged s) : Held challenged s' := by
  intro w hws hw
  rw [h.ws] at hws
  refine Bool.eq_false_iff.mpr fun hc => ?_
  have hold := h.isConnected hc
  rw [hs w hws hw] at hold
  exact absurd hold (by simp)

/-- A socket no challenge waits on. -/
theorem held_free (hws : ∀ w, s.ws = some w → challenged w = false) : Held challenged s := by
  intro w hw hc
  rw [hws w hw] at hc
  exact absurd hc (by simp)

theorem Dials.held (h : Dials s s') (ht : Tracked challenged s) : Held challenged s' := by
  refine held_free fun w hw => Bool.eq_false_iff.mpr fun hc => ?_
  rw [h.ws, Option.some.injEq] at hw
  exact absurd (ht.known w hc) (by rw [hw]; exact Nat.lt_irrefl w)

theorem Tracked.fire (ht : Tracked challenged s) (hs : Held challenged s)
    (validUrl : Endpoint → Bool) (t : TimerId) :
    Tracked challenged ((fire validUrl t).final s) ∧ Held challenged ((fire validUrl t).final s) := by
  have hquiet : ∀ {u v : DbProxyClient}, Quiet u v → Tracked challenged u ∧ Held challenged u →
      Tracked challenged v ∧ Held challenged v := fun h hu =>
    ⟨h.toSteady.waits.tracked hu.1, h.held hu.2⟩
  have hdisarm := hquiet (quiet_disarm t s) ⟨ht, hs⟩
  rw [DbProxyClient.fire, final_get_bind]
  cases htimer : s.timers t with
  | none => exact ⟨ht, hs⟩
  | some x =>
    cases x with
    | heartbeat => exact hquiet (quiet_heartbeat s) ⟨ht, hs⟩
    | reconnect =>
      rw [final_modify_bind]
      rcases connectInternal_cases validUrl (s.disarm t) with h | ⟨h, hsame⟩
      · exact ⟨h.tracked hdisarm.1, h.held hdisarm.1⟩
      · refine ⟨h.tracked hdisarm.1, fun w hws hw => ?_⟩
        rw [hsame]
        exact hdisarm.2 w (h.ws.symm.trans hws) hw
    | s2sAuth =>
      rw [final_modify_bind]
      have hsteady : Moves Steady s2sAuthTimeout :=
        moves_bind moves_get fun _ => moves_ite (fun _ => steady_setConnected) fun _ => moves_pure ()
      have hwaits := (hsteady (s.disarm t)).waits
      refine ⟨hwaits.tracked hdisarm.1, held_free fun w hws => Bool.eq_false_iff.mpr fun hw => ?_⟩
      -- the timer is off once a challenge waits, so it is not the one that fires
      exact (ht.off w (hwaits.ws.symm.trans hws) hw).1 t htimer
    | request p rid =>
      rw [final_modify_bind]
      exact hquiet (quiet_requestTimeout p rid _) hdisarm

theorem quiet_onMessage {data : Bytes} {isText : Bool} (hch : ¬ isChallenge E data isText = true)
    (hsuccess : ¬ isSuccess E data isText = true) : Moves Quiet (onMessage E data isText) := by
  intro s
  rw [isChallenge] at hch
  rw [isSuccess] at hsuccess
  rw [onMessage]
  cases henv : S2sAuth.parseEnvelope E.J data isText with
  | some env =>
    have hother : env.field "s2s_auth" ≠ some (.str S2sAuth.challenge) := by
      simpa [henv] using hch
    simp only [final_onEnvelope_ignored E (Or.inr hother)]
    exact refl_of Quiet s
  | none =>
    cases hmsg : E.J.parse data with
    | none => exact refl_of Quiet s
    | some msg => exact quiet_onStorageMessage (by simpa [henv, hmsg] using hsuccess) s

/-- A message of the current socket. -/
theorem held_message_iff (hs : Held challenged s) (hws : s.ws = some w) (data : Bytes)
    (isText : Bool) :
    Held (hear E challenged (.message w data isText)) ((onMessage E data isText).final s) ↔
      ∀ env, S2sAuth.parseEnvelope E.J data isText = some env →
        env.field "s2s_auth" = some (.str S2sAuth.challenge) → s.isConnected = true →
          ∀ r, S2sAuth.buildResponse E.J E.crypto E.config (env.field "nonce") ≠ .ok r := by
  have hsame : ((onMessage E data isText).final s).ws = s.ws := (waits_onMessage E data isText s).ws
  rw [hear]
  split
  · next hch =>
    obtain ⟨env, henv, hfield⟩ := parse_of_isChallenge hch
    have hfinal : (onMessage E data isText).final s =
        (respond E w (env.field "nonce")).final (clearS2sAuthTimer.final s) := by
      rw [onMessage, henv]
      exact final_onEnvelope_challenge E hws hfield
    have hconnected : (clearS2sAuthTimer.final s).isConnected = s.isConnected := by
      rw [clearS2sAuthTimer, final_modify]
      cases s.s2sAuthTimer with
      | none => rfl
      | some t => rfl
    have hws' : (clearS2sAuthTimer.final s).ws = some w := (waits_clearS2sAuthTimer s).ws.trans hws
    have hiff := isConnected_respond E hws' (env.field "nonce")
    rw [hconnected, ← hfinal] at hiff
    constructor
    · intro hheld env' henv' _ hc r hr
      obtain rfl := Option.some.inj (henv.symm.trans henv')
      have hdown := hheld w (hsame.trans hws) (Function.update_self ..)
      rw [hiff.mpr ⟨hc, r, hr⟩] at hdown
      exact absurd hdown (by simp)
    · intro htime v hvs _
      refine Bool.eq_false_iff.mpr fun hc => ?_
      obtain ⟨hold, r, hr⟩ := hiff.mp hc
      exact htime env henv hfield hold r hr
  · next hch =>
    have hno : ∀ env, S2sAuth.parseEnvelope E.J data isText = some env →
        env.field "s2s_auth" ≠ some (.str S2sAuth.challenge) := by
      intro env henv hfield
      exact hch ((Option.any_eq_true _ _).mpr ⟨env, henv, decide_eq_true hfield⟩)
    refine iff_of_true ?_ fun env henv hfield => absurd hfield (hno env henv)
    split
    · refine held_free fun v hvs => ?_
      rw [hsame, hws, Option.some.injEq] at hvs
      rw [← hvs, Function.update_self]
    · next hsuccess => exact (quiet_onMessage hch hsuccess s).held hs

/-- What one step of the current connection does. -/
theorem Tracked.step {o : Op} (ht : Tracked challenged s) (hs : Held challenged s)
    (hfresh : s.FreshRids o) (hown : ∀ w, o.event? = some w → s.ws = some w)
    (h : Step E s o s') : Tracked (hear E challenged o) s' ∧
      ((∀ w data isText, o ≠ .message w data isText) → Held (hear E challenged o) s') := by
  obtain ⟨henabled, rfl⟩ := h
  have hquiet : ∀ {v : DbProxyClient}, Quiet s v → Tracked challenged v ∧ Held challenged v :=
    fun h => ⟨h.toSteady.waits.tracked ht, h.held hs⟩
  cases o with
  | connect endpoint =>
    rcases connect_cases E.validUrl endpoint s with h | h | ⟨hws, hnext, hg⟩
    · simp only [perform, h]
      exact ⟨ht, fun _ => hs⟩
    · exact ⟨h.tracked ht, fun _ => h.held ht⟩
    · refine ⟨tracked_idle hws (hg ht.guarded) fun w hw => ?_, fun _ => held_free fun w hw => ?_⟩
      · rw [perform, hnext]
        exact ht.known w hw
      · exact absurd (hws.symm.trans hw) (by simp)
  | sendRequest mt ms rid fails =>
    exact (hquiet (quiet_sendRequest mt ms fails hfresh)).imp_right fun h _ => h
  | opened w =>
    have hws := hown w rfl
    obtain ⟨hfree, htracked⟩ := ht.opened hws henabled
    refine ⟨htracked, fun _ => held_free fun v hvs => ?_⟩
    have hsame : (onOpen.final (s.setSocket w .isOpen)).ws = s.ws := (opensNone_onOpen _).ws
    rw [hsame.symm.trans hvs, Option.some.injEq] at hws
    rw [hws]
    exact hfree
  | message w data isText =>
    exact ⟨ht.message (hown w rfl) henabled data isText, fun hno => absurd rfl (hno w data isText)⟩
  | errored w message =>
    exact (hquiet (quiet_onError message s)).imp_right fun h _ => h
  | closing w =>
    have hopen : s.sockets w = .isOpen := henabled
    have hw : s.sockets w ≠ .closed := by simp [hopen]
    exact (hquiet (quiet_setSocket (by simp) hw)).imp_right fun h _ => h
  | closed w =>
    have hclosed := (hquiet (quiet_setSocket (w := w) (x := .closed) (by simp) henabled)).1
    have hrest := waits_onClose (s.setSocket w .closed)
    refine ⟨hrest.tracked (tracked_idle rfl ?_ hclosed.known), fun _ => held_free fun v hv => ?_⟩
    · exact ⟨hclosed.guarded.timer, hclosed.guarded.fresh⟩
    · exact absurd (hrest.ws.symm.trans hv) (by simp)
  | timer t => exact (ht.fire hs E.validUrl t).imp_right fun h _ => h

/-- What is known along a run. -/
def Watched.Known (s : Watched) : Prop := s.client.Booked ∧ Tracked s.challenged s.client

theorem Watched.Known.step {s s' : Watched} {o : Op} (h : s.Known) (hs : s.Withholds)
    (hstep : s.Step E o s') : s'.Known := by
  obtain ⟨hclient, hfresh, hown, hchallenged, -⟩ := hstep
  refine ⟨(keeps_step h.1 hfresh hclient).booked h.1, ?_⟩
  rw [hchallenged]
  exact (h.2.step hs.1 hfresh hown hclient).1

/-- Requests are sent only while the client counts as connected. -/
theorem Watched.Withholds.no_leak {s s' : Watched} {o : Op} (hs : s.Withholds) (h : s.Known)
    (hstep : s.Step E o s') : s'.leaked = false := by
  obtain ⟨hclient, hfresh, -, -, hleaked⟩ := hstep
  obtain ⟨new, hnew, hR, -⟩ := (keeps_step h.1 hfresh hclient).log
  rw [hleaked, hs.2, hnew, List.drop_left, Bool.false_or, leaks, List.any_eq_false]
  intro x hx
  cases x with
  | request w p frame =>
    obtain ⟨hws, hc, -⟩ := hR _ hx rfl
    intro hw
    rw [hs.1 w hws hw] at hc
    exact absurd hc (by simp)
  | response | settle | toAuth | newsPush => simp

theorem Watched.Withholds.step_iff {s s' : Watched} {o : Op} (hs : s.Withholds) (h : s.Known)
    (hstep : s.Step E o s') : s'.Withholds ↔ s.InTime E o := by
  have hleak := hs.no_leak h hstep
  obtain ⟨hclient, hfresh, hown, hchallenged, -⟩ := hstep
  have hheld : s'.Withholds ↔ Held (hear E s.challenged o) s'.client := by
    rw [← hchallenged]
    exact ⟨And.left, fun hh => ⟨hh, hleak⟩⟩
  rw [hheld]
  cases o with
  | message w data isText =>
    obtain ⟨-, hfinal⟩ := hclient
    rw [hfinal]
    exact held_message_iff hs.1 (hown w rfl) data isText
  | connect | sendRequest | opened | errored | closing | closed | timer =>
    exact iff_of_true ((h.2.step hs.1 hfresh hown hclient).2 fun _ _ _ => Op.noConfusion) trivial

theorem known_init : Watched.Known {} := by
  refine ⟨booked_init, tracked_idle rfl ⟨fun t ht => absurd ht (by simp), fun _ _ => rfl⟩ ?_⟩
  exact fun w hw => absurd hw (by simp)

/-- A run withholds requests in all its states, from every challenge to the `auth_success` after it,
    exactly when no challenge that can be answered comes while the client counts as connected. -/
theorem challenged_withholds_iff {s : Watched} :
    Lts.Path (Watched.Step E) (fun t _ => t.Withholds) {} s ∧ s.Withholds ↔
      Lts.Path (Watched.Step E) (Watched.InTime E) {} s :=
  Lts.Path.holds_iff (fun h hs hstep => h.step hs hstep) (fun h hs hstep => hs.step_iff h hstep)
    known_init ⟨fun w hw => absurd hw (by simp), rfl⟩

end

/-! ### A slow challenge -/

section

variable {PrivateKey PublicKey : Type} (E : StorageSettings PrivateKey PublicKey)

/-- The next state of a watched client. -/
def Watched.next (s : Watched) (o : Op) : Watched :=
  let client := (perform E o).final s.client
  { client
    challenged := hear E s.challenged o
    leaked := s.leaked || leaks s.challenged (client.log.drop s.client.log.length) }

/-- A run of given operations. -/
def Watched.run (s : Watched) (os : List Op) : Option Watched :=
  os.foldlM (fun s o => if s.client.Enabled o ∧ s.client.FreshRids o ∧
    o.event?.all (fun w => s.client.ws = some w) = true then some (s.next E o) else none) s

variable {E} in
theorem Watched.path_of_run {s s' : Watched} {os : List Op} (h : s.run E os = some s') :
    Lts.Path (Watched.Step E) (fun _ _ => True) s s' := by
  refine Lts.Path.of_guarded (fun {t o} hc => ?_) h
  obtain ⟨henabled, hfresh, hown⟩ := hc
  refine ⟨trivial, ⟨henabled, rfl⟩, hfresh, fun w hw => ?_, rfl, rfl⟩
  rw [hw] at hown
  exact of_decide_eq_true hown

end

/-- A client that can answer challenges. -/
def signingSettings : StorageSettings Char Char :=
  { plainSettings with config := { server_id := some "comm", s2s_my_private_key := some 'k' } }

/-- Two seconds pass before the challenge comes; then a request is sent. -/
def slowChallenge : List Op :=
  [.connect storageEndpoint, .opened 0, .timer 0,
    .message 0 (S2sAuth.buildChallenge Text.codec "n") true,
    .sendRequest (.num "9001") (.obj []) firstRid false]

/-- The challenge is not answered for by `auth_success`, and the request is sent all the same. -/
theorem slow_challenge_leaks : ∃ s, Lts.Path (Watched.Step signingSettings) (fun _ _ => True) {} s ∧
    s.client.ws = some 0 ∧ s.challenged 0 = true ∧ s.client.isConnected = true ∧
    s.leaked = true := by
  have h : (Watched.run signingSettings {} slowChallenge).map (fun s => (s.client.ws,
      s.challenged 0, s.client.isConnected, s.leaked)) = some (some 0, true, true, true) := by
    decide +kernel
  obtain ⟨s, hs, hf⟩ := Option.map_eq_some_iff.mp h
  simp only [Prod.mk.injEq] at hf
  exact ⟨s, Watched.path_of_run hs, hf⟩

end DbProxyClient

end DroneEngage
