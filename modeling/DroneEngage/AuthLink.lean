import DroneEngage.DbProxyClient

/-! The link to AUTH.

    A message is sent at once while the link is open, and queued otherwise; the queue is sent when the
    link opens and dropped when it closes. A link that closed is followed by a new one, and AUTH knows
    nothing of what it was told on the old one. -/

namespace DroneEngage
open Js

/-- A message to AUTH. -/
inductive AuthMessage where
  /-- the INFO card -/
  | info
  /-- the answer to a challenge -/
  | response (message : Bytes)
  /-- `CONST_CS_CMD_STORAGE_STATUS` -/
  | storageStatus (status : StorageStatus)
  /-- the answer to a request of AUTH -/
  | reply (message : Json)

/-- The state of the module. -/
structure AuthLink where
  /-- `readyState` of `m_ws`, once there is one -/
  ws : Option WsState := none
  messageQueue : List AuthMessage := []
  /-- the timer that starts the next link is armed -/
  retryTimer : Bool := false
  /-- what AUTH was sent on this link -/
  received : List AuthMessage := []

namespace AuthLink

/-- `fn_sendMessage` -/
def sendMessage (m : AuthMessage) (l : AuthLink) : AuthLink :=
  if l.ws = some .isOpen then { l with received := l.received ++ [m] }
  else if l.ws.isSome = true ∨ l.messageQueue.length < 1000 then
    { l with messageQueue := l.messageQueue ++ [m] }
  else l

/-- The loop of `fn_flushQueue` over what is in the queue. -/
def flush : List AuthMessage → AuthLink → AuthLink
  | [], l => l
  | m :: rest, l =>
    if l.ws = some .isOpen then
      flush rest { l with received := l.received ++ [m], messageQueue := rest }
    else l

/-- `fn_flushQueue` -/
def flushQueue (l : AuthLink) : AuthLink := flush l.messageQueue l

/-- `fn_startWebSocketListener` -/
def startWebSocketListener (l : AuthLink) : AuthLink := { l with ws := some .connecting }

/-- `fn_onOpen_Handler`; `fn_updateAuthServer` sends the INFO card. -/
def onOpen (l : AuthLink) : AuthLink := flushQueue (sendMessage .info l)

/-- `fn_onClose_Handler` -/
def onClose (l : AuthLink) : AuthLink := { l with messageQueue := [], retryTimer := true }

/-- `m_ws.send(..)`, which drops the message once the link is closing -/
def send (m : AuthMessage) (l : AuthLink) : AuthLink :=
  if l.ws = some .isOpen then { l with received := l.received ++ [m] } else l

section

variable {PrivateKey PublicKey : Type} (E : StorageSettings PrivateKey PublicKey)

/-- `fn_onMessage_Handler`; what is no envelope of the handshake is handed on. -/
def onMessage (data : Bytes) (isText : Bool) (l : AuthLink) : AuthLink :=
  match S2sAuth.parseEnvelope E.J data isText with
  | some env =>
    if env.field "s2s_auth" = some (.str S2sAuth.challenge) then
      match S2sAuth.buildResponse E.J E.crypto E.config (env.field "nonce") with
      | .ok response => flushQueue (sendMessage .info (send (.response response) l))
      | .error _ => if l.ws = some .isOpen then { l with ws := some .closing } else l
    else l
  | none => l

/-- What can happen to the link. -/
inductive Op where
  | opened
  | message (data : Bytes) (isText : Bool)
  /-- the peer or the network ends the link: the `close` event follows -/
  | closing
  | closed
  | retry
  /-- `fn_updateAuthServer` is called -/
  | update
  /-- a request of AUTH is answered -/
  | reply (message : Json)

/-- Is it the `close` event? -/
def Op.closes : Op → Bool
  | .closed => true
  | .opened | .message .. | .closing | .retry | .update | .reply _ => false

/-- Can it happen? -/
def Enabled (l : AuthLink) : Op → Prop
  | .opened => l.ws = some .connecting
  | .message .. => l.ws = some .isOpen ∨ l.ws = some .closing
  | .closing => l.ws = some .isOpen
  | .closed => l.ws ≠ none ∧ l.ws ≠ some .closed
  | .retry => l.retryTimer = true
  | .update | .reply _ => True

instance (l : AuthLink) : ∀ o : Op, Decidable (l.Enabled o)
  | .opened | .closing | .retry => inferInstanceAs (Decidable (_ = _))
  | .message .. => inferInstanceAs (Decidable (_ ∨ _))
  | .closed => inferInstanceAs (Decidable (_ ∧ _))
  | .update | .reply _ => inferInstanceAs (Decidable True)

/-- What it does. -/
def step (l : AuthLink) : Op → AuthLink
  | .opened => onOpen { l with ws := some .isOpen }
  | .message data isText => onMessage E data isText l
  | .closing => { l with ws := some .closing }
  | .closed => onClose { l with ws := some .closed, received := [] }
  | .retry => startWebSocketListener { l with retryTimer := false }
  | .update => sendMessage .info l
  | .reply message => sendMessage (.reply message) l

end

/-- `fn_startServer` -/
def start : AuthLink := startWebSocketListener {}

/-! ### What AUTH is told about the storage server -/

/-- The last storage status among messages. -/
def lastStatus (ms : List AuthMessage) : Option StorageState :=
  (ms.filterMap fun
    | .storageStatus status => some status.status
    | _ => none).getLast?

theorem lastStatus_append (ms ms' : List AuthMessage) :
    lastStatus (ms ++ ms') = (lastStatus ms').or (lastStatus ms) := by
  rw [lastStatus, List.filterMap_append, List.getLast?_append]
  rfl

/-- What AUTH was or will be told, if the link stays. -/
def told (l : AuthLink) : Option StorageState := lastStatus (l.received ++ l.messageQueue)

variable {l : AuthLink} {m : AuthMessage}

/-- There is a link, and what waited for it to open was sent. -/
structure Flushed (l : AuthLink) : Prop where
  started : l.ws.isSome = true
  empty : l.ws = some .isOpen → l.messageQueue = []

theorem Flushed.received (h : l.Flushed) (hopen : l.ws = some .isOpen) :
    lastStatus l.received = l.told := by
  rw [told, h.empty hopen, List.append_nil]

@[simp] theorem ws_sendMessage (m : AuthMessage) (l : AuthLink) : (sendMessage m l).ws = l.ws := by
  rw [sendMessage]
  split
  · rfl
  · split
    · rfl
    · rfl

/-- A message is sent or queued. -/
theorem told_sendMessage (hstarted : l.ws.isSome = true) (h : l.messageQueue = [] ∨
    l.ws ≠ some .isOpen ∨ lastStatus [m] = none) :
    (sendMessage m l).told = (lastStatus [m]).or l.told := by
  rw [sendMessage]
  split
  · next hopen =>
    rw [told, told, lastStatus_append, lastStatus_append, lastStatus_append]
    rcases h with h | h | h
    · simp [h, lastStatus]
    · exact absurd hopen h
    · simp [h]
  · rw [if_pos (Or.inl hstarted), told, told, ← List.append_assoc, lastStatus_append]

theorem Flushed.sendMessage (h : l.Flushed) (m : AuthMessage) : (sendMessage m l).Flushed := by
  refine ⟨by rw [ws_sendMessage]; exact h.started, fun hopen => ?_⟩
  rw [ws_sendMessage] at hopen
  rw [AuthLink.sendMessage, if_pos hopen]
  exact h.empty hopen

theorem flush_spec : ∀ (ms : List AuthMessage) (l : AuthLink), l.messageQueue = ms →
    (flush ms l).ws = l.ws ∧ (flush ms l).told = l.told ∧
      (l.ws = some .isOpen → (flush ms l).messageQueue = [])
  | [], _, h => ⟨rfl, rfl, fun _ => h⟩
  | m :: rest, l, h => by
    rw [flush]
    split
    · next hopen =>
      obtain ⟨hws, htold, hempty⟩ :=
        flush_spec rest { l with received := l.received ++ [m], messageQueue := rest } rfl
      refine ⟨hws, htold.trans ?_, fun _ => hempty hopen⟩
      rw [told, told, h, List.append_assoc, List.singleton_append]
    · next hopen => exact ⟨rfl, rfl, fun h => absurd h hopen⟩

/-- The link opens: what was queued is sent, after the INFO card. -/
theorem flushQueue_update (hstarted : l.ws.isSome = true) :
    (flushQueue (sendMessage .info l)).Flushed ∧
      (flushQueue (sendMessage .info l)).ws = l.ws ∧
      (flushQueue (sendMessage .info l)).told = l.told := by
  obtain ⟨hws, htold, hempty⟩ := flush_spec _ (sendMessage .info l) rfl
  rw [ws_sendMessage] at hws hempty
  refine ⟨⟨?_, fun hopen => hempty (hws.symm.trans hopen)⟩, hws, ?_⟩
  · rw [flushQueue, hws]
    exact hstarted
  · rw [flushQueue, htold, told_sendMessage hstarted (Or.inr (Or.inr rfl))]
    rfl

section

variable {PrivateKey PublicKey : Type} (E : StorageSettings PrivateKey PublicKey)

theorem told_send (hm : lastStatus [m] = none) (l : AuthLink) :
    (send m l).ws = l.ws ∧ (send m l).told = l.told := by
  rw [send]
  split
  · refine ⟨rfl, ?_⟩
    rw [told, told, lastStatus_append, lastStatus_append, lastStatus_append, hm, Option.none_or]
  · exact ⟨rfl, rfl⟩

theorem Flushed.onMessage (h : l.Flushed) (data : Bytes) (isText : Bool) :
    (onMessage E data isText l).Flushed ∧ (onMessage E data isText l).told = l.told := by
  rw [AuthLink.onMessage]
  cases S2sAuth.parseEnvelope E.J data isText with
  | none => exact ⟨h, rfl⟩
  | some env =>
    dsimp only
    split
    · cases S2sAuth.buildResponse E.J E.crypto E.config (env.field "nonce") with
      | ok response =>
        obtain ⟨hws, htold⟩ := told_send (m := .response response) rfl l
        obtain ⟨hflushed, -, hsame⟩ := flushQueue_update (l := send (.response response) l)
          (by rw [hws]; exact h.started)
        exact ⟨hflushed, hsame.trans htold⟩
      | error e =>
        dsimp only
        split
        · exact ⟨⟨rfl, fun hopen => absurd hopen (by simp)⟩, rfl⟩
        · exact ⟨h, rfl⟩
    · exact ⟨h, rfl⟩

/-- Only a close makes AUTH forget, and nothing here tells it a status. -/
theorem Flushed.step (h : l.Flushed) {o : Op} (henabled : l.Enabled o) :
    (l.step E o).Flushed ∧ (l.step E o).told = if o.closes then none else l.told := by
  cases o with
  | opened =>
    obtain ⟨hflushed, -, htold⟩ := flushQueue_update (l := { l with ws := some .isOpen }) rfl
    exact ⟨hflushed, htold⟩
  | message data isText => exact h.onMessage E data isText
  | closing => exact ⟨⟨rfl, fun hopen => absurd (Option.some.inj hopen) (by simp)⟩, rfl⟩
  | closed => exact ⟨⟨rfl, fun _ => rfl⟩, rfl⟩
  | retry => exact ⟨⟨rfl, fun hopen => absurd (Option.some.inj hopen) (by simp)⟩, rfl⟩
  | update =>
    exact ⟨h.sendMessage _, told_sendMessage h.started (Or.inr (Or.inr rfl))⟩
  | reply message =>
    exact ⟨h.sendMessage _, told_sendMessage h.started (Or.inr (Or.inr rfl))⟩

end

end AuthLink

end DroneEngage
