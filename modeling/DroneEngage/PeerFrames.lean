import DroneEngage.AuthLink
import DroneEngage.ChildCommServer
import DroneEngage.DbRequests
import DroneEngage.ParentCommServer
import DroneEngage.Uncaught

/-! Frames of the other servers.

    AUTH, the storage server, the parent and the children each have a handler of their own. All four
    try first to read a frame as an envelope of the handshake. Of what is left, the handler of AUTH,
    of the parent and of a child read every field inside a `try`; the one of the storage server
    protects the parser and the news callback only, and reads the fields of the message outside. -/

namespace DroneEngage
open Js

/-- `fn_onNewsPush` -/
def Server.onNewsPush (J : JsonCodec) (payload : Val) : Action Server Unit :=
  Action.attempt
    (do
      let news ← Action.ofExcept (if isTruthy payload then readProp "news" payload else .ok payload)
      match news with
      | none | some .null => return
      | some news =>
        let message := J.stringify (.obj [(Const.routing, .str Const.routingSystem),
          (Const.wsSenderID, .str Const.senderCommServer), (Const.messageID, .num "9018"),
          (Const.payload, news)])
        let sender : Server.SenderRef := ⟨some (.str Const.senderCommServer), none⟩
        if news.field "scope" = some (.str "global") ∨
            isNullish (news.field "account_id") = true then
          sendToAllGCS message false sender
        else do
          let _ ← sendToAllGCSInAccount message false sender (news.field "account_id"))
    fun _ => pure ()

namespace AuthLink

/-- `m_ws.send(..)`, which throws without a link and while the link is connecting. -/
def sendNow (m : AuthMessage) : Action AuthLink Unit := do
  let l ← Action.get
  match l.ws with
  | none => Action.throw .typeError
  | some .connecting => Action.throw .foreign
  | some _ => Action.modify (send m)

/-- `m_ws.close()` -/
def closeNow : Action AuthLink Unit := do
  let l ← Action.get
  match l.ws with
  | none => Action.throw .typeError
  | some .connecting | some .isOpen => Action.modify fun l => { l with ws := some .closing }
  | some .closing | some .closed => pure ()

end AuthLink

/-! ### The table of requests -/

namespace DbProxyClient

open Action

/-- No request was added. -/
def Drops (s s' : DbProxyClient) : Prop :=
  ∀ k req, s'.pendingRequests.own? k = some req → s.pendingRequests.own? k = some req

instance : IsPreorder DbProxyClient Drops where
  refl := fun _ _ _ => id
  trans := fun _ _ _ h h' k req hrow => h k req (h' k req hrow)

variable {s s' : DbProxyClient}

theorem drops_write (h : s'.pendingRequests = s.pendingRequests) : Drops s s' :=
  fun _ _ hrow => h ▸ hrow

theorem drops_delete (k : String) (h : s'.pendingRequests = s.pendingRequests.delete k) :
    Drops s s' := fun _ _ hrow => Table.own?_delete_imp (h ▸ hrow)

theorem drops_disarm? (t : Option TimerId) (s : DbProxyClient) : Drops s (disarm? t s) :=
  drops_write (pendingRequests_disarm? t s)

theorem drops_closeSocket (w : WsId) : Moves Drops (closeSocket w) := by
  refine moves_modify fun s => ?_
  cases s.sockets w with
  | connecting | isOpen | closing | closed => exact drops_write rfl

theorem drops_send (w : WsId) (x : DbEffect) : Moves Drops (send w x) := by
  refine moves_bind moves_get fun s => ?_
  cases s.sockets w with
  | connecting => exact moves_throw _
  | isOpen => exact moves_modify fun _ => drops_write rfl
  | closing | closed => exact moves_pure ()

theorem drops_setTimer (x : Timeout) : Moves Drops (setTimer x) :=
  moves_bind moves_get fun _ => moves_bind (moves_modify fun _ => drops_write rfl) fun _ =>
    moves_pure _

theorem drops_sendStorageStatus (status : StorageState) (error : Option String) (force : Bool) :
    Moves Drops (sendStorageStatus status error force) :=
  moves_bind moves_get fun _ => moves_ite (fun _ => moves_bind (moves_modify fun _ =>
    drops_write rfl) fun _ => moves_modify fun _ => drops_write rfl) fun _ => moves_pure ()

theorem drops_setConnected : Moves Drops setConnected := by
  refine moves_bind (moves_modify fun _ => drops_write rfl) fun _ =>
    moves_bind (drops_sendStorageStatus _ _ _) fun _ => ?_
  exact moves_bind (moves_modify fun s => drops_disarm? _ s) fun _ =>
    moves_bind (drops_setTimer _) fun _ => moves_modify fun _ => drops_write rfl

theorem drops_clearS2sAuthTimer : Moves Drops clearS2sAuthTimer :=
  moves_modify fun s => drops_write (pendingRequests_disarm? s.s2sAuthTimer s)

theorem drops_connectInternal (validUrl : Endpoint → Bool) :
    Moves Drops (connectInternal validUrl) := by
  refine moves_bind moves_get fun s => ?_
  cases s.currentEndpoint with
  | none => exact moves_pure ()
  | some endpoint =>
    exact moves_bind (moves_modify fun s => drops_write (pendingRequests_disarm? _ s)) fun _ =>
      moves_ite (fun _ => moves_modify fun _ => drops_write rfl) fun _ => moves_throw _

theorem drops_connect (validUrl : Endpoint → Bool) (endpoint : Endpoint) :
    Moves Drops (connect validUrl endpoint) := by
  have hrest : Moves Drops (do
      modify fun s => { s with authenticated := false, currentEndpoint := some endpoint }
      connectInternal validUrl : Action DbProxyClient Unit) :=
    moves_bind (moves_modify fun _ => drops_write rfl) fun _ => drops_connectInternal validUrl
  refine moves_bind moves_get fun s => moves_ite (fun _ => moves_pure ()) fun _ => ?_
  cases s.ws with
  | none => exact hrest
  | some w =>
    exact moves_bind (drops_closeSocket w) fun _ =>
      moves_bind (moves_modify fun _ => drops_write rfl) fun _ => hrest

theorem drops_onOpen : Moves Drops onOpen :=
  moves_bind (moves_modify fun _ => drops_write rfl) fun _ =>
    moves_bind (drops_sendStorageStatus _ _ _) fun _ =>
      moves_bind (moves_modify fun s => drops_disarm? _ s) fun _ =>
        moves_bind (drops_setTimer _) fun _ => moves_modify fun _ => drops_write rfl

theorem drops_clearPending : Moves Drops clearPending := by
  refine moves_bind moves_get fun s => moves_bind (moves_forEach _ fun req _ => ?_) fun _ =>
    moves_modify fun _ _ _ hrow => absurd hrow (by simp)
  exact moves_bind (moves_modify fun _ => drops_write rfl) fun _ =>
    moves_modify fun _ => drops_write rfl

theorem drops_onClose : Moves Drops onClose := by
  refine moves_bind (moves_modify fun _ => drops_write rfl) fun _ =>
    moves_bind (moves_modify fun s => drops_write (pendingRequests_disarm? _ s)) fun _ =>
      moves_bind (drops_sendStorageStatus _ _ _) fun _ => moves_bind drops_clearPending fun _ =>
        moves_bind drops_clearS2sAuthTimer fun _ => moves_bind moves_get fun _ =>
          moves_ite (fun _ => ?_) fun _ => moves_pure ()
  exact moves_bind (moves_modify fun _ => drops_write rfl) fun _ =>
    moves_bind (drops_setTimer _) fun _ => moves_modify fun _ => drops_write rfl

theorem drops_onError (message : String) : Moves Drops (onError message) := by
  refine moves_bind (moves_modify fun _ => drops_write rfl) fun _ =>
    moves_bind (drops_sendStorageStatus _ _ _) fun _ => moves_bind moves_get fun s => ?_
  cases s.ws with
  | none => exact moves_pure ()
  | some w => exact drops_closeSocket w

theorem drops_fire (validUrl : Endpoint → Bool) (t : TimerId) : Moves Drops (fire validUrl t) := by
  refine moves_bind moves_get fun s => ?_
  have hdisarm {α : Type} {m : Action DbProxyClient α} (h : Moves Drops m) :
      Moves Drops (modify (disarm t) >>= fun _ => m) :=
    moves_bind (moves_modify fun _ => drops_write rfl) fun _ => h
  match s.timers t with
  | none => exact moves_pure ()
  | some .heartbeat => exact moves_bind moves_get fun _ => drops_sendStorageStatus _ _ _
  | some .reconnect => exact hdisarm (drops_connectInternal validUrl)
  | some .s2sAuth =>
    exact hdisarm (moves_bind moves_get fun _ => moves_ite (fun _ => drops_setConnected) fun _ =>
      moves_pure ())
  | some (.request p rid) =>
    exact hdisarm (moves_bind (moves_modify fun _ => drops_delete rid rfl) fun _ =>
      moves_modify fun _ => drops_write rfl)

section

variable {PrivateKey PublicKey : Type} (E : StorageSettings PrivateKey PublicKey)

theorem drops_onMessage (data : Bytes) (isText : Bool) : Moves Drops (onMessage E data isText) := by
  rw [onMessage]
  cases S2sAuth.parseEnvelope E.J data isText with
  | some env =>
    refine moves_bind moves_get fun s => ?_
    cases s.ws with
    | none => exact moves_pure ()
    | some w =>
      refine moves_ite (fun _ => ?_) fun _ => moves_pure ()
      exact moves_bind drops_clearS2sAuthTimer fun _ => moves_attempt
        (moves_bind (moves_ofExcept _) fun _ => drops_send w _) fun _ => drops_closeSocket w
  | none =>
    cases E.J.parse data with
    | none => exact moves_pure ()
    | some msg =>
      dsimp only
      by_cases hsuccess : msg.field "type" = some (.str "auth_success")
      · rw [onStorageMessage_success hsuccess]
        exact moves_bind drops_clearS2sAuthTimer fun _ => drops_setConnected
      · intro s
        rcases final_onStorageMessage hsuccess s with ⟨k, req, -, -, hf⟩ | hf | hf
        · rw [hf]; exact drops_delete k rfl
        · rw [hf]; exact drops_write rfl
        · rw [hf]; exact refl_of Drops s

/-- A request is stored under its fresh id, which is no name an object inherits. -/
theorem unshadowed_sendRequest {mt ms : Json} {rid : String} {fails : Bool} (hrid : s.FreshRid rid)
    (hs : Server.Unshadowed s.pendingRequests) :
    Server.Unshadowed ((sendRequest mt ms rid fails).final s).pendingRequests := by
  have hne : "hasOwnProperty" ≠ rid := by
    rintro rfl
    exact absurd hrid.1 (by decide)
  have hentered : Server.Unshadowed (s.entered rid).pendingRequests :=
    (Table.own?_insert_ne s.pendingRequests _ hne).trans hs
  rcases final_sendRequest mt ms fails hrid with
    ⟨-, hf⟩ | ⟨w, -, -, -, hf⟩ | ⟨-, -, hf⟩
  · rw [hf]; exact hs
  · rw [hf]; exact hentered
  · rw [hf]; exact hentered.of_imp (drops_delete rid rfl)

/-- No request is ever stored under the name of the method that looks requests up. -/
theorem unshadowed_perform {o : Op} (hfresh : s.FreshRids o)
    (hs : Server.Unshadowed s.pendingRequests) :
    Server.Unshadowed ((perform E o).final s).pendingRequests := by
  cases o with
  | connect endpoint => exact hs.of_imp (drops_connect E.validUrl endpoint s)
  | sendRequest mt ms rid fails => exact unshadowed_sendRequest hfresh hs
  | opened w => exact hs.of_imp (drops_onOpen (s.setSocket w .isOpen))
  | message w data isText => exact hs.of_imp (drops_onMessage E data isText s)
  | errored w message => exact hs.of_imp (drops_onError message s)
  | closing w => exact hs
  | closed w => exact hs.of_imp (drops_onClose (s.setSocket w .closed))
  | timer t => exact hs.of_imp (drops_fire E.validUrl t s)

end

/-! ### The log -/

/-- Only effects of the kind `Q` are added to the log. -/
def Adds (Q : DbEffect → Prop) (s s' : DbProxyClient) : Prop :=
  ∃ l, s'.log = s.log ++ l ∧ ∀ x ∈ l, Q x

variable {Q : DbEffect → Prop}

instance : IsPreorder DbProxyClient (Adds Q) where
  refl := fun s => ⟨[], (List.append_nil _).symm, by simp⟩
  trans := by
    rintro s t u ⟨l, hl, hQ⟩ ⟨l', hl', hQ'⟩
    refine ⟨l ++ l', by rw [hl', hl, List.append_assoc], fun x hmem => ?_⟩
    rcases List.mem_append.mp hmem with h | h
    · exact hQ x h
    · exact hQ' x h

theorem adds_write (h : s'.log = s.log) : Adds Q s s' := ⟨[], by rw [h, List.append_nil], by simp⟩

theorem adds_emit {x : DbEffect} (hx : Q x) (s : DbProxyClient) : Adds Q s (s.emit x) :=
  ⟨[x], rfl, fun _ hmem => List.mem_singleton.mp hmem ▸ hx⟩

theorem log_disarm? (t : Option TimerId) (s : DbProxyClient) : (s.disarm? t).log = s.log := by
  cases t with
  | none => rfl
  | some t => rfl

theorem adds_clearS2sAuthTimer : Moves (Adds Q) clearS2sAuthTimer :=
  moves_modify fun s => adds_write (log_disarm? s.s2sAuthTimer s)

theorem adds_setConnected (hQ : ∀ status, Q (.toAuth status)) : Moves (Adds Q) setConnected := by
  refine moves_bind (moves_modify fun _ => adds_write rfl) fun _ => moves_bind ?_ fun _ => ?_
  · exact moves_bind moves_get fun _ => moves_ite
      (fun _ => moves_bind (moves_modify fun _ => adds_write rfl) fun _ =>
        moves_modify fun s => adds_emit (hQ _) s)
      fun _ => moves_pure ()
  · exact moves_bind (moves_modify fun s => adds_write (log_disarm? _ s)) fun _ =>
      moves_bind (moves_bind moves_get fun _ => moves_bind
        (moves_modify fun _ => adds_write rfl) fun _ => moves_pure _) fun _ =>
          moves_modify fun _ => adds_write rfl

end DbProxyClient

/-! ### The process -/

/-- The parts of the process that take frames of other servers. -/
structure Process (PublicKey : Type) where
  server : Server
  auth : AuthLink
  storage : DbProxyClient := {}
  children : ParentCommServer PublicKey := {}
  parent : ChildCommServer := {}

/-- Where a frame comes from. -/
inductive Peer where
  | auth
  | storage (w : WsId)
  | parent
  | child (c : LinkId)

namespace Process

variable {PrivateKey PublicKey : Type} {α : Type}

/-! ### The handlers -/

def onServer (m : Action Server α) : Action (Process PublicKey) α :=
  Action.zoom server (fun t p => { p with server := t }) m

def onAuth (m : Action AuthLink α) : Action (Process PublicKey) α :=
  Action.zoom auth (fun t p => { p with auth := t }) m

def onStorage (m : Action DbProxyClient α) : Action (Process PublicKey) α :=
  Action.zoom storage (fun t p => { p with storage := t }) m

def onChildren (m : Action (ParentCommServer PublicKey) α) : Action (Process PublicKey) α :=
  Action.zoom children (fun t p => { p with children := t }) m

def onParent (m : Action ChildCommServer α) : Action (Process PublicKey) α :=
  Action.zoom parent (fun t p => { p with parent := t }) m

/-- The news among what the storage client did. -/
def newsPushes (effects : List DbEffect) : List Val :=
  effects.filterMap fun
    | .newsPush ms => some ms
    | _ => none

section

variable (E : StorageSettings PrivateKey PublicKey)

/-- The answer to a challenge of AUTH; `fn_updateAuthServer` sends the INFO card. -/
def answerChallenge (nonce : Val) : Action AuthLink Unit :=
  Action.attempt
    (do
      let response ← Action.ofExcept (S2sAuth.buildResponse E.J E.crypto E.config nonce)
      AuthLink.sendNow (.response response)
      Action.modify (AuthLink.sendMessage .info)
      Action.modify AuthLink.flushQueue)
    fun _ => AuthLink.closeNow

/-- `fn_onMessage_Handler` with `fn_AuthServerMessagesHandler`; `key` is the text `uuidv4` would
    yield, without its dashes. -/
def onAuthFrame (data : Bytes) (isText : Bool) (key : String) : Action (Process PublicKey) Unit :=
  match S2sAuth.parseEnvelope E.J data isText with
  | some env =>
    Action.when (env.field "s2s_auth" = some (.str S2sAuth.challenge))
      (onAuth (answerChallenge E (env.field "nonce")))
  | none => onServer (Server.authServerMessagesHandler E.J data key)

/-- `fn_onMessage` of the storage client. The news callback is its last call. -/
def onStorageFrame (data : Bytes) (isText : Bool) : Action (Process PublicKey) Unit := do
  let before ← Action.get
  onStorage (DbProxyClient.onMessage E data isText)
  let after ← Action.get
  Action.forEach (newsPushes (after.storage.log.drop before.storage.log.length)) fun ms =>
    Action.attempt (onServer (Server.onNewsPush E.J ms)) fun _ => pure ()

/-- `ChildCommServer.onReceive` -/
def onParentFrame (data : Bytes) (isText : Bool) : Action (Process PublicKey) Unit :=
  Action.attempt
    (match S2sAuth.parseEnvelope E.J data isText with
    | some env => onParent (ChildCommServer.answerEnvelope E.J E.crypto E.config env)
    | none => do
      onParent (Action.modify (ChildCommServer.emit (.parseExternalMessage data (!isText))))
      onServer (Server.parseExternalMessage E.J data (!isText) none))
    fun _ => pure ()

/-- The `message` handler of `ParentCommServer`. -/
def onChildFrame (c : LinkId) (data : Bytes) (isText : Bool) : Action (Process PublicKey) Unit :=
  Action.attempt
    (do
      let p ← Action.get
      if (p.children.children c).m_s2s_authed = false then
        onChildren (ParentCommServer.handshake E.J E.crypto E.config c data isText)
      else do
        onChildren (Action.modify
          (ParentCommServer.emit (.parseExternalMessage c data (!isText))))
        onServer (Server.parseExternalMessage E.J data (!isText) (some c)))
    fun _ => pure ()

/-- The handler of a frame. -/
def onFrame (data : Bytes) (isText : Bool) (key : String) : Peer → Action (Process PublicKey) Unit
  | .auth => onAuthFrame E data isText key
  | .storage _ => onStorageFrame E data isText
  | .parent => onParentFrame E data isText
  | .child c => onChildFrame E c data isText

/-! ### Runs of the process -/

/-- Is it a frame of another server? -/
def isRelayed : Event → Bool
  | .authMessage .. | .external .. => true
  | .keyTimeout _ | .connect .. | .message .. | .authTimeout _ | .close _ | .faults _
  | .udpProgress .. | .storage .. => false

/-- What can happen to the process. What one part has for another one (a status for AUTH, a message to
    relay) is an operation of the part that sends it. -/
inductive Op where
  | chat (e : Event)
  | auth (o : AuthLink.Op)
  | storage (o : DbProxyClient.Op)
  | children (e : ParentEvent)
  | parentLink (ws : Option ReadyState)
  | frame (peer : Peer) (data : Bytes) (isText : Bool) (key : String)

/-- Can a frame of the peer come in? -/
def Receives (p : Process PublicKey) : Peer → Prop
  | .auth => p.auth.ws = some .isOpen ∨ p.auth.ws = some .closing
  | .storage w => p.storage.sockets w = .isOpen ∨ p.storage.sockets w = .closing
  | .parent => p.parent.parentWs.isSome
  | .child c => c < p.children.nextChild

/-- Can it happen? The frames of the other servers come in as frames only. -/
def Enabled (p : Process PublicKey) : Op → Prop
  | .chat e => p.server.enabled e = true ∧ isRelayed e = false
  | .auth o => p.auth.Enabled o ∧ ∀ data isText, o ≠ .message data isText
  | .storage o => p.storage.Enabled o ∧ ∀ w data isText, o ≠ .message w data isText
  | .children e => p.children.enabled e = true ∧ ∀ c data isText, e ≠ .message c data isText
  | .parentLink _ => True
  | .frame peer .. => p.Receives peer

variable (isAlphanumeric : String → Bool)

/-- What it does. -/
def perform : Op → Action (Process PublicKey) Unit
  | .chat e => onServer (Server.handle E.J isAlphanumeric e)
  | .auth o => onAuth (Action.modify fun l => l.step E o)
  | .storage o => onStorage (DbProxyClient.perform E o)
  | .children e => onChildren (ParentCommServer.handle E.J E.crypto E.config e)
  | .parentLink ws => onParent (Action.modify fun c => { c with parentWs := ws })
  | .frame peer data isText key => onFrame E data isText key peer

/-- One step the process survives. -/
def Step (p : Process PublicKey) (o : Op) (p' : Process PublicKey) : Prop :=
  p.Enabled o ∧ perform E isAlphanumeric o p = (.ok (), p')

end

/-- The process when it starts. -/
def start (config : Config) : Process PublicKey where
  server := .start config
  auth := if config.ignore_auth_server then {} else .start
  storage := { sendToAuthCallback := !config.ignore_auth_server }

/-- A request to the storage server draws a fresh id. -/
def DrawsFresh (p : Process PublicKey) : Op → Prop
  | .storage o => p.storage.FreshRids o
  | _ => True

/-! ### What the handlers can read -/

/-- The value can be converted to a text. -/
def HasText (v : Val) : Prop := ∃ text, propKey v = .ok text

/-- A message of the storage server whose fields can be read: it is not `null`, its `error` has a text
    if it is an error, and its `rid` has one if it is neither an error nor the end of the handshake. -/
structure Readable (msg : Json) : Prop where
  notNull : msg ≠ .null
  error : msg.field "type" = some (.str "error") → HasText (msg.field "error")
  rid : msg.field "type" ≠ some (.str "auth_success") → msg.field "type" ≠ some (.str "error") →
    HasText (msg.field "rid")

/-- A frame whose handler returns. -/
def Harmless (J : JsonCodec) (data : Bytes) (isText : Bool) : Peer → Prop
  | .storage _ => S2sAuth.parseEnvelope J data isText = none → ∀ msg, J.parse data = some msg →
    Readable msg
  | .auth | .parent | .child _ => True

/-! ### AUTH, the parent and the children -/

section

open Action

variable {E : StorageSettings PrivateKey PublicKey} {p : Process PublicKey} {data : Bytes}
  {isText : Bool} {key : String}

/-- The answer to a challenge on a link that has been open. -/
theorem run_answerChallenge {l : AuthLink} (h : l.ws = some .isOpen ∨ l.ws = some .closing)
    (nonce : Val) : answerChallenge E nonce l = (.ok (),
      match S2sAuth.buildResponse E.J E.crypto E.config nonce with
      | .ok response =>
        AuthLink.flushQueue (AuthLink.sendMessage .info (AuthLink.send (.response response) l))
      | .error _ => if l.ws = some .isOpen then { l with ws := some .closing } else l) := by
  rw [answerChallenge, run_attempt]
  cases S2sAuth.buildResponse E.J E.crypto E.config nonce with
  | ok response =>
    rcases h with h | h
    · simp [AuthLink.sendNow, run_bind, h]
    · simp [AuthLink.sendNow, run_bind, h]
  | error e =>
    rcases h with h | h
    · simp [AuthLink.closeNow, h]
    · simp [AuthLink.closeNow, h]

/-- On the link the handler does what `AuthLink.onMessage` says. -/
theorem run_onAuthFrame (h : p.Receives .auth) : ∃ p', onAuthFrame E data isText key p = (.ok (), p') ∧
    p'.auth = AuthLink.onMessage E data isText p.auth := by
  rw [onAuthFrame, AuthLink.onMessage]
  cases S2sAuth.parseEnvelope E.J data isText with
  | none =>
    have hreturns : ¬ (Server.authServerMessagesHandler E.J data key).Escapes p.server :=
      not_escapes_attempt fun _ s => not_escapes_pure () s
    have hrun : ¬ (onServer (Server.authServerMessagesHandler E.J data key)).Escapes p := hreturns
    exact ⟨_, run_of_not_escapes hrun, rfl⟩
  | some env =>
    dsimp only
    by_cases hchallenge : env.field "s2s_auth" = some (.str S2sAuth.challenge)
    · rw [if_pos hchallenge, decide_eq_true hchallenge, run_when_true]
      refine ⟨_, run_of_not_escapes (escapes_zoom.not.mpr ?_), ?_⟩
      · rintro ⟨e, he⟩
        rw [run_answerChallenge h] at he
        exact absurd he (by simp)
      · rw [onAuth, final_zoom]
        exact congrArg Prod.snd (run_answerChallenge h (env.field "nonce"))
    · rw [if_neg hchallenge, decide_eq_false hchallenge, run_when_false]
      exact ⟨p, rfl, rfl⟩

/-- On the connection to the parent the handler does what `ChildCommServer.onReceive` does. -/
theorem parent_onParentFrame : ((onParentFrame E data isText).final p).parent =
    (ChildCommServer.onReceive E.J E.crypto E.config data isText).final p.parent := by
  rw [onParentFrame, ChildCommServer.onReceive, final_attempt_pure, final_attempt_pure]
  cases S2sAuth.parseEnvelope E.J data isText with
  | some env => rfl
  | none => rfl

/-- On the connection to the child the handler does what `ParentCommServer.onMessage` does. -/
theorem children_onChildFrame (c : LinkId) : ((onChildFrame E c data isText).final p).children =
    (ParentCommServer.onMessage E.J E.crypto E.config c data isText).final p.children := by
  rw [onChildFrame, ParentCommServer.onMessage, final_attempt_pure, final_attempt_pure,
    final_get_bind, final_get_bind]
  split
  · rfl
  · rfl

/-! ### The storage server -/

variable {s : DbProxyClient} {msg : Json}

theorem hasText_of_nullish {v : Val} (h : isNullish v = true) : HasText v := by
  match v with
  | none => exact ⟨"undefined", rfl⟩
  | some .null => exact ⟨"null", rfl⟩

/-- The request an answer is for can be looked up exactly when its `rid` has a text. -/
theorem pendingFor_error_iff (hs : Server.Unshadowed s.pendingRequests) (rid : Val) :
    (∃ e, s.pendingFor rid = .error e) ↔ ¬ HasText rid := by
  rw [DbProxyClient.pendingFor]
  by_cases hnull : isNullish rid = true
  · rw [if_pos hnull]
    exact iff_of_false (by simp) fun h => h (hasText_of_nullish hnull)
  · rw [if_neg hnull]
    cases htext : propKey rid with
    | error e =>
      rw [Table.hasOwnProperty_of_error _ htext]
      refine iff_of_true ⟨e, rfl⟩ ?_
      rintro ⟨text, h⟩
      exact absurd (htext.symm.trans h) (by simp)
    | ok text =>
      rw [Server.hasOwnProperty_ok_of_unshadowed hs htext]
      exact iff_of_false (by simp [bind, Except.bind, pure, Except.pure]) fun h => h ⟨text, htext⟩

theorem not_escapes_startHeartbeat (s : DbProxyClient) :
    ¬ DbProxyClient.startHeartbeat.Escapes s := by
  rintro ⟨e, he⟩
  exact absurd he (by simp [DbProxyClient.startHeartbeat, DbProxyClient.setTimer, run_bind])

theorem not_escapes_setConnected (s : DbProxyClient) : ¬ DbProxyClient.setConnected.Escapes s :=
  not_escapes_bind (not_escapes_modify _ s) fun _ _ =>
    not_escapes_bind (DbProxyClient.not_escapes_sendStorageStatus _ _ _ _) fun _ _ =>
      not_escapes_startHeartbeat _

/-- A message ends the process exactly when its fields cannot be read. -/
theorem escapes_onStorageMessage_iff (hs : Server.Unshadowed s.pendingRequests) :
    (DbProxyClient.onStorageMessage msg).Escapes s ↔ ¬ Readable msg := by
  by_cases hnull : msg = .null
  · subst hnull
    exact iff_of_true ⟨.typeError, rfl⟩ fun h => h.notNull rfl
  have htype : readProp "type" (some msg) = .ok (msg.field "type") := by
    cases msg with
    | null => exact absurd rfl hnull
    | bool | num | str | arr | obj => rfl
  by_cases hsuccess : msg.field "type" = some (.str "auth_success")
  · rw [DbProxyClient.onStorageMessage_success hsuccess]
    refine iff_of_false ?_ fun h => h ⟨hnull, fun herror => ?_, fun hne => absurd hsuccess hne⟩
    · exact not_escapes_bind (not_escapes_modify _ s) fun _ _ => not_escapes_setConnected _
    · exact absurd (hsuccess.symm.trans herror) (by simp)
  rw [DbProxyClient.onStorageMessage, htype, escapes_ok_bind, if_neg hsuccess]
  by_cases herror : msg.field "type" = some (.str "error")
  · rw [if_pos herror]
    cases htext : propKey (msg.field "error") with
    | error e =>
      refine iff_of_true (escapes_error_bind ..) fun h => ?_
      obtain ⟨text, ht⟩ := h.error herror
      exact absurd (htext.symm.trans ht) (by simp)
    | ok text =>
      exact iff_of_false (not_escapes_pure () s) fun h =>
        h ⟨hnull, fun _ => ⟨text, htext⟩, fun _ hne => absurd herror hne⟩
  · rw [if_neg herror, escapes_get_bind]
    have hreadable : Readable msg ↔ HasText (msg.field "rid") :=
      ⟨fun h => h.rid hsuccess herror, fun h => ⟨hnull, fun he => absurd he herror, fun _ _ => h⟩⟩
    rw [hreadable, ← pendingFor_error_iff hs]
    cases s.pendingFor (msg.field "rid") with
    | error e => exact iff_of_true (escapes_error_bind ..) ⟨e, rfl⟩
    | ok found =>
      refine iff_of_false ?_ (by simp)
      rw [escapes_ok_bind]
      cases found with
      | some row => exact not_escapes_modify _ _
      | none =>
        dsimp only
        split
        · exact not_escapes_modify _ s
        · exact not_escapes_pure () s

theorem not_escapes_onEnvelope (env : Json) (s : DbProxyClient) :
    ¬ (DbProxyClient.onEnvelope E env).Escapes s := by
  rw [DbProxyClient.onEnvelope, escapes_get_bind]
  cases s.ws with
  | none => exact not_escapes_pure () s
  | some w =>
    dsimp only
    split
    · exact not_escapes_bind (not_escapes_modify _ s) fun _ _ =>
        not_escapes_attempt fun _ s' => not_escapes_modify _ s'
    · exact not_escapes_pure () s

/-- The handler of the storage server lets an exception out exactly when the fields of a message that
    is no envelope cannot be read. -/
theorem escapes_onStorageFrame_iff (hs : Server.Unshadowed p.storage.pendingRequests) (w : WsId) :
    (onStorageFrame E data isText).Escapes p ↔ ¬ Harmless E.J data isText (.storage w) := by
  have hnews : ∀ p' : Process PublicKey, ¬ (forEach
      (newsPushes (p'.storage.log.drop p.storage.log.length)) fun ms =>
        attempt (onServer (Server.onNewsPush E.J ms)) fun _ => pure ()).Escapes p' := fun p' =>
    not_escapes_forEach _ fun _ _ => not_escapes_attempt fun _ s => not_escapes_pure () s
  rw [onStorageFrame, escapes_get_bind, escapes_seq_iff, escapes_get_bind,
    or_iff_left fun h => hnews _ h.2, onStorage, escapes_zoom, DbProxyClient.onMessage, Harmless]
  cases S2sAuth.parseEnvelope E.J data isText with
  | some env => exact iff_of_false (not_escapes_onEnvelope env _) (by simp)
  | none =>
    cases E.J.parse data with
    | none => exact iff_of_false (not_escapes_pure () _) (by simp)
    | some msg =>
      refine (escapes_onStorageMessage_iff hs).trans (not_congr ?_)
      exact ⟨fun h _ _ hmsg => Option.some.inj hmsg ▸ h, fun h => h rfl msg rfl⟩

/-! ### Every run -/

/-- The storage client is left alone. -/
def SameStorage (p p' : Process PublicKey) : Prop := p'.storage = p.storage

instance : IsPreorder (Process PublicKey) SameStorage where
  refl := fun _ => rfl
  trans := fun _ _ _ h h' => h'.trans h

theorem sameStorage_onServer (m : Action Server α) :
    Moves SameStorage (onServer m : Action (Process PublicKey) α) := fun _ => rfl

theorem sameStorage_onAuth (m : Action AuthLink α) :
    Moves SameStorage (onAuth m : Action (Process PublicKey) α) := fun _ => rfl

theorem sameStorage_onChildren (m : Action (ParentCommServer PublicKey) α) :
    Moves SameStorage (onChildren m) := fun _ => rfl

theorem sameStorage_onParent (m : Action ChildCommServer α) :
    Moves SameStorage (onParent m : Action (Process PublicKey) α) := fun _ => rfl

theorem storage_onAuthFrame : ((onAuthFrame E data isText key).final p).storage = p.storage := by
  have h : Moves SameStorage (onAuthFrame E data isText key : Action (Process PublicKey) Unit) := by
    rw [onAuthFrame]
    cases S2sAuth.parseEnvelope E.J data isText with
    | some env => exact moves_when fun _ => sameStorage_onAuth _
    | none => exact sameStorage_onServer _
  exact h p

theorem storage_onParentFrame : ((onParentFrame E data isText).final p).storage = p.storage := by
  have h : Moves SameStorage (onParentFrame E data isText : Action (Process PublicKey) Unit) := by
    refine moves_attempt ?_ fun _ => moves_pure ()
    cases S2sAuth.parseEnvelope E.J data isText with
    | some env => exact sameStorage_onParent _
    | none => exact moves_bind (sameStorage_onParent _) fun _ => sameStorage_onServer _
  exact h p

theorem storage_onChildFrame (c : LinkId) :
    ((onChildFrame E c data isText).final p).storage = p.storage := by
  have h : Moves SameStorage (onChildFrame E c data isText) := by
    refine moves_attempt (moves_bind moves_get fun p => moves_ite (fun _ => ?_) fun _ => ?_)
      fun _ => moves_pure ()
    · exact sameStorage_onChildren _
    · exact moves_bind (sameStorage_onChildren _) fun _ => sameStorage_onServer _
  exact h p

/-- The news callback does not touch the storage client. -/
theorem storage_onStorageFrame : ((onStorageFrame E data isText).final p).storage =
    (DbProxyClient.onMessage E data isText).final p.storage := by
  rw [onStorageFrame, final_get_bind]
  rcases hrun : onStorage (DbProxyClient.onMessage E data isText) p with ⟨e | u, p'⟩
  · rw [final, run_bind_of_error hrun]
    exact congrArg (fun r => r.2.storage) hrun.symm
  · rw [final_bind_of_ok hrun, final_get_bind]
    have hsame : SameStorage p' ((forEach
        (newsPushes (p'.storage.log.drop p.storage.log.length)) fun ms =>
          attempt (onServer (Server.onNewsPush E.J ms)) fun _ => pure ()).final p') :=
      moves_forEach _ (fun _ _ => moves_attempt (sameStorage_onServer _) fun _ => moves_pure ()) p'
    exact hsame.trans (congrArg (fun r => r.2.storage) hrun.symm)

variable {isAlphanumeric : String → Bool} {config : Config} {p' : Process PublicKey}

theorem unshadowed_step {o : Op} (hs : Server.Unshadowed p.storage.pendingRequests)
    (hfresh : DrawsFresh p o) (h : Step E isAlphanumeric p o p') :
    Server.Unshadowed p'.storage.pendingRequests := by
  obtain ⟨-, hrun⟩ := h
  obtain rfl : (perform E isAlphanumeric o).final p = p' := congrArg Prod.snd hrun
  cases o with
  | chat e => exact hs
  | auth o => exact hs
  | storage o => exact DbProxyClient.unshadowed_perform E hfresh hs
  | children e => exact hs
  | parentLink ws => exact hs
  | frame peer data isText key =>
    cases peer with
    | auth => rw [perform, onFrame, storage_onAuthFrame]; exact hs
    | storage w =>
      rw [perform, onFrame, storage_onStorageFrame]
      exact DbProxyClient.unshadowed_perform E (o := .message w data isText) trivial hs
    | parent => rw [perform, onFrame, storage_onParentFrame]; exact hs
    | child c => rw [perform, onFrame, storage_onChildFrame]; exact hs

/-- In every run, the handler of a frame returns unless it is a message of the storage server whose
    fields cannot be read. -/
theorem frame_returns_iff
    (hrun : Lts.Path (Step E isAlphanumeric) DrawsFresh (start config) p) {peer : Peer}
    (hreceives : p.Receives peer) (data : Bytes) (isText : Bool) (key : String) :
    ¬ (onFrame E data isText key peer).Escapes p ↔ Harmless E.J data isText peer := by
  cases peer with
  | auth =>
    obtain ⟨p', hframe, -⟩ : ∃ p', onAuthFrame E data isText key p = (.ok (), p') ∧
      p'.auth = AuthLink.onMessage E data isText p.auth := run_onAuthFrame hreceives
    refine iff_of_true ?_ trivial
    rintro ⟨e, he⟩
    rw [onFrame, hframe] at he
    exact absurd he (by simp)
  | storage w =>
    have hs : Server.Unshadowed p.storage.pendingRequests := by
      refine hrun.invariant (P := fun p => Server.Unshadowed p.storage.pendingRequests) ?_ ?_
      · exact fun hs hfresh hstep => unshadowed_step hs hfresh hstep
      · exact Table.own?_empty _
    exact not_iff_comm.mp (escapes_onStorageFrame_iff hs w).symm
  | parent => exact iff_of_true (not_escapes_attempt fun _ p => not_escapes_pure () p) trivial
  | child c => exact iff_of_true (not_escapes_attempt fun _ p => not_escapes_pure () p) trivial

end

/-! ### Frames of a storage server -/

open DbProxyClient (plainSettings storageEndpoint)

/-- The connection to the storage server is open. -/
def storageUp : Process Char :=
  (perform plainSettings (fun _ => true) (.storage (.opened 0))).final
    ((perform plainSettings (fun _ => true) (.storage (.connect storageEndpoint))).final (start {}))

theorem path_storageUp :
    Lts.Path (Step plainSettings fun _ => true) DrawsFresh (start {}) storageUp :=
  .tail (.single (o := .storage (.connect storageEndpoint)) trivial ⟨⟨trivial, by simp⟩, rfl⟩)
    (o := .storage (.opened 0)) trivial ⟨⟨rfl, by simp⟩, rfl⟩

/-- A message of the storage server. -/
def storageFrame (msg : Json) : Action (Process Char) Unit :=
  onFrame plainSettings (Js.Text.stringify msg) false "" (.storage 0)

/-- The message that ends the handshake, and any bytes that are no JSON. -/
theorem frame_returns_storageUp :
    ¬ (storageFrame (.obj [("type", .str "auth_success")])).Escapes storageUp ∧
      ¬ (onFrame plainSettings [0xff] false "" (.storage 0)).Escapes storageUp := by
  have hreceives : storageUp.Receives (.storage 0) := Or.inl rfl
  refine ⟨(frame_returns_iff path_storageUp hreceives _ _ _).mpr fun _ msg hmsg => ?_,
    (frame_returns_iff path_storageUp hreceives _ _ _).mpr fun _ msg hmsg => ?_⟩
  · obtain rfl : Json.obj [("type", .str "auth_success")] = msg := by
      refine Option.some.inj (Eq.trans ?_ hmsg)
      decide +kernel
    exact ⟨by simp, fun h => absurd h (by decide), fun h => absurd rfl h⟩
  · have hnone : plainSettings.J.parse [0xff] = none := by decide +kernel
    exact absurd (hnone.symm.trans hmsg) (by simp)

/-- Messages without a text where one is read: `null`, an error and an answer. -/
def textless : List Json :=
  [.null, .obj [("type", .str "error"), ("error", .obj [("toString", .null)])],
    .obj [("rid", .obj [("toString", .null)])]]

/-- Each of them ends the process. -/
theorem textless_escapes :
    Lts.Path (Step plainSettings fun _ => true) DrawsFresh (start {}) storageUp ∧
      storageUp.Receives (.storage 0) ∧ ∀ msg ∈ textless, (storageFrame msg).Escapes storageUp := by
  have h : textless.any (fun msg => (storageFrame msg storageUp).1.toBool) = false := by
    decide +kernel
  refine ⟨path_storageUp, Or.inl rfl, fun msg hmsg => ?_⟩
  have hfails := List.any_eq_false.mp h msg hmsg
  cases hrun : (storageFrame msg storageUp).1 with
  | error e => exact ⟨e, hrun⟩
  | ok u => exact absurd (by rw [hrun]; rfl) hfails

end Process

end DroneEngage
