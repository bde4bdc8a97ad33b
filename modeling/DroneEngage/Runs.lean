import DroneEngage.ChatConnection

/-! Runs of one communication server.

    The process handles one event after the other: messages of AUTH, timers, connections, frames and
    close events of clients, frames of other servers. An exception that leaves a handler ends the
    process, since nothing listens for uncaught exceptions; a run is then over. Three kinds of events
    are moves of the environment: which sockets fail to send, what the proxy module's own sockets do
    to its table, and the state of the storage client. -/

namespace DroneEngage
open Js

/-- What can happen to a server next. -/
inductive Event where
  /-- a message of AUTH; `key` is the text `uuidv4` would yield, without its dashes -/
  | authMessage (message : Bytes) (key : String)
  /-- the timer of a waiting key fires -/
  | keyTimeout (key : String)
  | connect (url remote : String)
  | message (ws : SocketId) (message : Bytes) (isBinary : Bool)
  | authTimeout (ws : SocketId)
  | close (ws : SocketId)
  /-- a frame of another server -/
  | external (message : Bytes) (isBinary : Bool) (source : Option LinkId)
  | faults (sendFails : SocketId → Bool)
  | udpProgress (name : String) (entry : Option UdpEntry)
  | storage (connected : Bool) (state : String)

namespace Server

variable (J : JsonCodec) (isAlphanumeric : String → Bool)

/-- Can the event happen in this state? -/
def enabled (s : Server) : Event → Bool
  | .authMessage .. => !s.config.ignore_auth_server
  | .message ws .. | .close ws => ws < s.nextSocket && (s.sockets ws).readyState ≠ .closed
  | .authTimeout ws => (s.sockets ws).authTimer
  | .external .. => s.config.enable_super_server || s.config.enable_persistant_relay
  | .udpProgress name _ => (s.activeUdpProxy.own? name).isSome
  | .keyTimeout _ | .connect .. | .faults _ | .storage .. => true

/-- A new socket object. -/
def openSocket (remote : String) : Action Server SocketId := do
  let s ← Action.get
  Action.modify fun s => { s with
    sockets := Function.update s.sockets s.nextSocket { remote := remote }
    nextSocket := s.nextSocket + 1 }
  return s.nextSocket

/-- The `message` event of a socket: the listeners it has run in the order they were added. -/
def messageEvent (ws : SocketId) (message : Bytes) (isBinary : Bool) : Action Server Unit := do
  let s ← Action.get
  Action.when (s.sockets ws).listening (onWsMessage J ws message isBinary)
  Action.when (s.sockets ws).authFrameHandler (authFrameHandler J isAlphanumeric ws message)

/-- The `close` event of a socket. -/
def closeEvent (ws : SocketId) : Action Server Unit := do
  Action.modify (setSocket ws fun w => { w with readyState := .closed })
  let s ← Action.get
  Action.when (s.sockets ws).listening (onWsClose ws)

/-- The handler of an event. -/
def handle : Event → Action Server Unit
  | .authMessage message key => authServerMessagesHandler J message key
  | .keyTimeout key => deleteLogin key
  | .connect url remote => do
    let ws ← openSocket remote
    onConnect J isAlphanumeric url ws
  | .message ws message isBinary => messageEvent J isAlphanumeric ws message isBinary
  | .authTimeout ws => authTimeout J ws
  | .close ws => closeEvent ws
  | .external message isBinary source => parseExternalMessage J message isBinary source
  | .faults sendFails => Action.modify fun s => { s with sendFails }
  | .udpProgress name entry => Action.modify fun s => { s with
      activeUdpProxy := match entry with
        | some e => s.activeUdpProxy.insert name e
        | none => s.activeUdpProxy.delete name }
  | .storage connected state => Action.modify fun s =>
      { s with storageConnected := connected, storageState := state }

/-- One event: `none` when an exception leaves its handler and ends the process. -/
def step (s : Server) (e : Event) : Option Server :=
  if s.enabled e then
    match handle J isAlphanumeric e s with
    | (.ok _, s') => some s'
    | (.error _, _) => none
  else some s

/-- A run: the events in order. -/
def run (s : Server) (es : List Event) : Option Server := es.foldlM (step J isAlphanumeric) s

variable {J isAlphanumeric}

theorem step_eq_some {s s' : Server} {e : Event} (h : step J isAlphanumeric s e = some s') :
    (s.enabled e = true ∧ s' = (handle J isAlphanumeric e).final s) ∨
      (s.enabled e = false ∧ s' = s) := by
  unfold step at h
  split at h
  · next he =>
    left
    refine ⟨he, ?_⟩
    unfold Action.final
    split at h
    · next hr => rw [hr]; exact (Option.some.inj h).symm
    · exact absurd h (by simp)
  · next he => exact Or.inr ⟨by simpa using he, (Option.some.inj h).symm⟩

/-- The process ends at an event exactly when its handler lets an exception out. -/
theorem step_eq_none_iff {s : Server} {e : Event} :
    step J isAlphanumeric s e = none ↔
      s.enabled e = true ∧ (handle J isAlphanumeric e).Escapes s := by
  unfold step Action.Escapes
  split
  · next he =>
    rcases handle J isAlphanumeric e s with ⟨r | r, s'⟩
    · simp [he]
    · simp
  · next he => simp [he]

@[simp] theorem run_nil (s : Server) : run J isAlphanumeric s [] = some s := rfl

theorem run_cons (s : Server) (e : Event) (es : List Event) :
    run J isAlphanumeric s (e :: es) =
      (step J isAlphanumeric s e).bind fun s' => run J isAlphanumeric s' es := rfl

theorem run_append (s : Server) (es fs : List Event) :
    run J isAlphanumeric s (es ++ fs) =
      (run J isAlphanumeric s es).bind fun s' => run J isAlphanumeric s' fs := by
  unfold run; rw [List.foldlM_append]; rfl

/-- What every handler preserves holds at the end of every run. -/
theorem run_invariant {P : Server → Prop}
    (hstep : ∀ s e, P s → s.enabled e = true → P ((handle J isAlphanumeric e).final s)) :
    ∀ {es : List Event} {s s' : Server}, P s → run J isAlphanumeric s es = some s' → P s'
  | [], s, s', hs, h => by rw [run_nil] at h; exact Option.some.inj h ▸ hs
  | e :: es, s, s', hs, h => by
    rw [run_cons] at h
    obtain ⟨s₁, h₁, h₂⟩ := Option.bind_eq_some_iff.mp h
    refine run_invariant hstep ?_ h₂
    rcases step_eq_some h₁ with ⟨he, rfl⟩ | ⟨-, rfl⟩
    · exact hstep s e hs he
    · exact hs

end Server

end DroneEngage
