import DroneEngage.S2sAuth
import DroneEngage.State

/-! The parent side of the relay: the server that accepts child servers.

    Every connection gets a nonce and has to answer it with a signed response before its messages
    are routed; `forwardMessage` sends to the connections that have. The connections are listed in
    `clientData` by their address. The server handles one event after the other. Messages may still
    come in on a connection that has been terminated: the `ws` package hands over what it has
    received. -/

namespace DroneEngage
open Js

/-- A connection to a child server, with the properties the server hangs on it. -/
structure ChildSocket where
  /-- `IP:port` -/
  clientKey : String := ""
  m_s2s_nonce : String := ""
  m_s2s_authed : Bool := false
  m_s2s_server_id : Val := none
  /-- `v_authTimer` is armed -/
  authTimer : Bool := false
  readyState : ReadyState := .isOpen

/-- What the server does to its connections, and what it hands to the chat server. -/
inductive ParentEffect where
  /-- `child_ws.send(fn_buildChallenge(nonce))` -/
  | challenge (child : LinkId) (message : Bytes)
  /-- `child_ws.terminate()` -/
  | terminate (child : LinkId)
  /-- `fn_parseExternalMessage(message, isBinary, child_ws)` -/
  | parseExternalMessage (child : LinkId) (message : Bytes) (isBinary : Bool)
  /-- `child_ws.send(message, { binary })` -/
  | send (child : LinkId) (message : Bytes) (isBinary : Bool)

/-- What can happen to the server next. -/
inductive ParentEvent where
  /-- a child connects; `nonce` is what `fn_generateNonce` yields -/
  | connection (clientKey nonce : String)
  | message (child : LinkId) (message : Bytes) (isText : Bool)
  | handshakeTimeout (child : LinkId)
  /-- the connection leaves the open state without an action of this server -/
  | closing (child : LinkId)
  | close (child : LinkId)
  /-- the chat server forwards a message, excluding its source -/
  | forwardMessage (message : Bytes) (isBinary : Bool) (exclude : Option LinkId)

structure ParentCommServer (PublicKey : Type) where
  /-- the `Map` from addresses to connections -/
  clientData : Table LinkId := .empty
  children : LinkId → ChildSocket := fun _ => {}
  nextChild : LinkId := 0
  m_publicKeys : S2sAuth.KeyCache PublicKey := none
  log : List ParentEffect := []

namespace ParentCommServer

variable {PrivateKey PublicKey : Type}

def emit (e : ParentEffect) (s : ParentCommServer PublicKey) : ParentCommServer PublicKey :=
  { s with log := s.log ++ [e] }

def setChild (c : LinkId) (f : ChildSocket → ChildSocket) (s : ParentCommServer PublicKey) :
    ParentCommServer PublicKey :=
  { s with children := Function.update s.children c (f (s.children c)) }

/-- A computation on the key cache of the process. -/
def withKeys {α : Type} (m : Action (S2sAuth.KeyCache PublicKey) α) :
    Action (ParentCommServer PublicKey) α := fun s =>
  ((m s.m_publicKeys).1, { s with m_publicKeys := (m s.m_publicKeys).2 })

/-- `child_ws.terminate()` -/
def terminate (c : LinkId) : Action (ParentCommServer PublicKey) Unit :=
  Action.modify fun s => emit (.terminate c) (setChild c (fun w =>
    if w.readyState = .isOpen then { w with readyState := .closing } else w) s)

section

variable (J : JsonCodec) (crypto : Crypto PrivateKey PublicKey)
  (config : S2sConfig PrivateKey PublicKey)

/-- The `connection` handler. -/
def onConnection (clientKey nonce : String) : Action (ParentCommServer PublicKey) Unit := do
  let s ← Action.get
  let c := s.nextChild
  Action.modify fun s => { s with
    nextChild := s.nextChild + 1
    clientData := s.clientData.insert clientKey c
    children := Function.update s.children c
      { clientKey := clientKey, m_s2s_nonce := nonce, authTimer := true } }
  Action.modify (emit (.challenge c (S2sAuth.buildChallenge J nonce)))

/-- The condition of the handshake gate on a message of a connection that has not answered. -/
def isAcceptedResponse (c : LinkId) (env : Json) : Action (ParentCommServer PublicKey) Bool := do
  if env.field "s2s_auth" = some (.str S2sAuth.response) ∧ isNullish (env.field "id") = false then do
    let s ← Action.get
    withKeys (S2sAuth.verify crypto config.s2s_trusted_server_keys (s.children c).m_s2s_nonce
      (env.field "sig") (env.field "id"))
  else return false

/-- The handshake gate: the first message is a signed response, or the connection is terminated. -/
def handshake (c : LinkId) (message : Bytes) (isText : Bool) :
    Action (ParentCommServer PublicKey) Unit := do
  match S2sAuth.parseEnvelope J message isText with
  | none => terminate c
  | some env =>
    if ← isAcceptedResponse crypto config c env then
      Action.modify (setChild c fun w =>
        { w with m_s2s_authed := true, m_s2s_server_id := env.field "id", authTimer := false })
    else terminate c

/-- The `message` handler. -/
def onMessage (c : LinkId) (message : Bytes) (isText : Bool) :
    Action (ParentCommServer PublicKey) Unit :=
  Action.attempt
    (do
      let s ← Action.get
      if (s.children c).m_s2s_authed = false then handshake J crypto config c message isText
      else Action.modify (emit (.parseExternalMessage c message (!isText))))
    fun _ => pure ()

end

/-- The callback of the handshake timer. -/
def onHandshakeTimeout (c : LinkId) : Action (ParentCommServer PublicKey) Unit := do
  let s ← Action.get
  if (s.children c).authTimer then
    Action.modify (setChild c fun w => { w with authTimer := false })
    if (s.children c).m_s2s_authed = false then terminate c

/-- The `close` handler. -/
def onClose (c : LinkId) : Action (ParentCommServer PublicKey) Unit := do
  Action.modify fun s => { s with clientData := s.clientData.delete (s.children c).clientKey }
  Action.modify (setChild c fun w => { w with authTimer := false, readyState := .closed })

/-- `forwardMessage` -/
def forwardMessage (message : Bytes) (isBinary : Bool) (exclude : Option LinkId) :
    Action (ParentCommServer PublicKey) Unit := do
  let s ← Action.get
  Action.forEach s.clientData.values fun c => do
    let s ← Action.get
    if (s.children c).readyState = .isOpen ∧ (s.children c).m_s2s_authed = true ∧
        exclude ≠ some c then
      Action.modify (emit (.send c message isBinary))

section

variable (J : JsonCodec) (crypto : Crypto PrivateKey PublicKey)
  (config : S2sConfig PrivateKey PublicKey)

/-- The handler of an event. -/
def handle : ParentEvent → Action (ParentCommServer PublicKey) Unit
  | .connection clientKey nonce => onConnection J clientKey nonce
  | .message c message isText => onMessage J crypto config c message isText
  | .handshakeTimeout c => onHandshakeTimeout c
  | .closing c => Action.modify (setChild c fun w =>
      if w.readyState = .isOpen then { w with readyState := .closing } else w)
  | .close c => onClose c
  | .forwardMessage message isBinary exclude => forwardMessage message isBinary exclude

/-- Can the event happen? Events of a connection come after it has been accepted. -/
def enabled (s : ParentCommServer PublicKey) : ParentEvent → Bool
  | .message c .. | .handshakeTimeout c | .closing c | .close c => c < s.nextChild
  | _ => true

/-- One event. No handler throws: the message handler catches, and the others call nothing that
    does. -/
def step (s : ParentCommServer PublicKey) (e : ParentEvent) : ParentCommServer PublicKey :=
  if s.enabled e then (handle J crypto config e).final s else s

/-- A run: the events in order. -/
def run (es : List ParentEvent) : ParentCommServer PublicKey :=
  es.foldl (step J crypto config) {}

end

/-! ### Forwarding -/

section

open Action

/-- The connections a forwarded message is sent over. -/
def forwardsOver (p : ParentCommServer PublicKey) (exclude : Option LinkId) (c : LinkId) : Bool :=
  (p.children c).readyState = .isOpen ∧ (p.children c).m_s2s_authed = true ∧ exclude ≠ some c

/-- A round of the loop over the connections. -/
def forwardTo (m : Bytes) (b : Bool) (exclude : Option LinkId) (c : LinkId) :
    Action (ParentCommServer PublicKey) Unit := do
  let s ← get
  if (s.children c).readyState = .isOpen ∧ (s.children c).m_s2s_authed = true ∧
      exclude ≠ some c then
    modify (emit (.send c m b))

theorem forwardTo_run (m : Bytes) (b : Bool) (exclude : Option LinkId) (c : LinkId)
    (p : ParentCommServer PublicKey) : forwardTo m b exclude c p =
      (.ok (), if p.forwardsOver exclude c then p.emit (.send c m b) else p) := by
  rw [forwardTo, run_bind_get, forwardsOver]
  by_cases hc : (p.children c).readyState = .isOpen ∧ (p.children c).m_s2s_authed = true ∧
      exclude ≠ some c
  · rw [if_pos hc, if_pos (decide_eq_true hc)]; rfl
  · rw [if_neg hc, if_neg (by simpa using hc)]; rfl

theorem forEach_forwardTo (m : Bytes) (b : Bool) (exclude : Option LinkId) (cs : List LinkId) :
    ∀ p : ParentCommServer PublicKey, (forEach cs (forwardTo m b exclude)).final p =
      { p with log := p.log ++ (cs.filter (p.forwardsOver exclude)).map fun c => .send c m b } := by
  induction cs with
  | nil => intro p; rw [List.filter_nil, List.map_nil, List.append_nil]; rfl
  | cons c cs ih =>
    intro p
    rw [forEach]
    refine (final_bind_of_ok (forwardTo_run m b exclude c p)).trans ?_
    rw [ih]
    by_cases hc : p.forwardsOver exclude c = true
    · rw [if_pos hc, List.filter_cons_of_pos hc]
      change { p with log := (p.log ++ [ParentEffect.send c m b]) ++ _ } = _
      rw [List.append_assoc]; rfl
    · rw [if_neg hc, List.filter_cons_of_neg hc]

/-- A message is sent over every connection that is open and authenticated, but the one it came
    over. -/
theorem forwardMessage_final (m : Bytes) (b : Bool) (exclude : Option LinkId)
    (p : ParentCommServer PublicKey) : (forwardMessage m b exclude).final p =
      { p with log := p.log ++
        (p.clientData.values.filter (p.forwardsOver exclude)).map fun c => .send c m b } := by
  rw [forwardMessage, final_get_bind]
  exact forEach_forwardTo m b exclude p.clientData.values p

end

end ParentCommServer

end DroneEngage
