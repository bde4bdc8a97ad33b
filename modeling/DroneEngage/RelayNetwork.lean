import DroneEngage.Forwarding
import DroneEngage.TreeFlood

/-! A network of communication servers.

    Every server is a process with a chat server and the two relay modules. A server has at most one
    parent, and keeps one connection for each of its children. What a module sends goes onto a link
    and arrives some time later; links deliver in any order. An exception of `fn_parseExternalMessage`
    is caught by the module that called it, so only the server's own events can end a process.

    `cause`, `trail`, `sent`, `deliveries` and `origins` are a record beside the network that nothing
    reads: every message on a link is put down to the event at the server it first came from. -/

namespace DroneEngage
open Js

/-! ### One process -/

structure RelayServer (PrivateKey PublicKey : Type) where
  chat : Server
  /-- the `ParentCommServer` of the process -/
  children : ParentCommServer PublicKey := {}
  /-- its `ChildCommServer` -/
  parent : ChildCommServer := {}
  s2s : S2sConfig PrivateKey PublicKey := {}

namespace RelayServer

variable {PrivateKey PublicKey : Type}

/-- A call of the chat server to a relay module. -/
def relay (p : RelayServer PrivateKey PublicKey) : Effect → RelayServer PrivateKey PublicKey
  | .toChildren m b source =>
    { p with children := (ParentCommServer.forwardMessage m b source).final p.children }
  | .toParent m b => { p with parent := (ChildCommServer.forwardMessage m b).final p.parent }
  | _ => p

/-- The chat server has moved on; its calls to the relay modules are made in their order. -/
def settle (p : RelayServer PrivateKey PublicKey) (s : Server) : RelayServer PrivateKey PublicKey :=
  (s.log.drop p.chat.log.length).foldl relay { p with chat := s }

variable (J : JsonCodec) (crypto : Crypto PrivateKey PublicKey) (isAlphanumeric : String → Bool)

/-- An event of the server's own. -/
def onEvent (p : RelayServer PrivateKey PublicKey) (e : Event) : Option (RelayServer PrivateKey PublicKey) :=
  (Server.step J isAlphanumeric p.chat e).map p.settle

/-- `fn_parseExternalMessage`, called by a relay module. -/
def onExternal (p : RelayServer PrivateKey PublicKey) (m : Bytes) (b : Bool) (source : Option LinkId) :
    RelayServer PrivateKey PublicKey :=
  p.settle ((Server.parseExternalMessage J m b source).final p.chat)

/-- A message of the parent; the `ws` package hands it over as a buffer. -/
def onParentMessage (p : RelayServer PrivateKey PublicKey) (m : Bytes) : RelayServer PrivateKey PublicKey :=
  let parent := (ChildCommServer.onReceive J crypto p.s2s m false).final p.parent
  (parent.log.drop p.parent.log.length).foldl
    (fun q e => match e with
      | .parseExternalMessage m b => q.onExternal J m b none
      | _ => q) { p with parent }

/-- A message of a child. -/
def onChildMessage (p : RelayServer PrivateKey PublicKey) (c : LinkId) (m : Bytes) :
    RelayServer PrivateKey PublicKey :=
  let children := (ParentCommServer.onMessage J crypto p.s2s c m false).final p.children
  (children.log.drop p.children.log.length).foldl
    (fun q e => match e with
      | .parseExternalMessage c m b => q.onExternal J m b (some c)
      | _ => q) { p with children }

end RelayServer

/-! ### The network -/

/-- Who is whose parent, and over which of its connections the parent reaches a child. -/
structure Topology (ι : Type) where
  parentOf : ι → Option ι
  linkOf : ι → LinkId
  childAt : ι → LinkId → Option ι
  childAt_iff : ∀ p c i, childAt p c = some i ↔ parentOf i = some p ∧ linkOf i = c

/-- A message on a link. -/
structure Wire (ι : Type) where
  src : ι
  dst : ι
  /-- from a child to its parent -/
  up : Bool
  message : Bytes
  /-- the number of the event it comes from; none for the answer to an envelope -/
  cause : Option ℕ
  /-- the servers that have handled it -/
  trail : List ι

structure Net (ι PrivateKey PublicKey : Type) where
  peers : ι → RelayServer PrivateKey PublicKey
  wires : List (Wire ι) := []
  /-- everything that was ever put on a link -/
  sent : List (Wire ι) := []
  /-- the local deliveries of relayed broadcasts, the latest first -/
  deliveries : List (ι × Option ℕ) := []
  /-- where the events happened, in their order -/
  origins : List ι := []

/-- A frame of another server. -/
def Event.isExternal : Event → Bool
  | .external .. => true
  | _ => false

/-- What can happen in the network next. -/
inductive NetEvent (ι : Type) where
  | event (i : ι) (e : Event)
  /-- the message at this place of the list of messages arrives -/
  | arrive (n : ℕ)

namespace Topology

variable {ι PrivateKey PublicKey : Type} (T : Topology ι) (i : ι) (cause : Option ℕ) (trail : List ι)

/-- What a module has sent to the parent. -/
def upward : ChildEffect → Option (Wire ι)
  | .send m _ => (T.parentOf i).map fun p => ⟨i, p, true, m, cause, trail⟩
  | .respond _ m => (T.parentOf i).map fun p => ⟨i, p, true, m, none, trail⟩
  | .parseExternalMessage .. => none

/-- What a module has sent to a child. -/
def downward : ParentEffect → Option (Wire ι)
  | .send c m _ => (T.childAt i c).map fun j => ⟨i, j, false, m, cause, trail⟩
  | .challenge c m => (T.childAt i c).map fun j => ⟨i, j, false, m, none, trail⟩
  | .terminate _ | .parseExternalMessage .. => none

/-- What the modules of a server have put on its links. -/
def outgoing (p p' : RelayServer PrivateKey PublicKey) : List (Wire ι) :=
  (p'.parent.log.drop p.parent.log.length).filterMap (T.upward i cause trail) ++
    (p'.children.log.drop p.children.log.length).filterMap (T.downward i cause trail)

end Topology

namespace Net

variable {ι PrivateKey PublicKey : Type} [DecidableEq ι] (T : Topology ι)

/-- A server has moved on: what it sent goes onto the links. -/
def record (N : Net ι PrivateKey PublicKey) (i : ι) (p : RelayServer PrivateKey PublicKey)
    (cause : Option ℕ) (trail : List ι) : Net ι PrivateKey PublicKey :=
  let out := T.outgoing i cause trail (N.peers i) p
  { N with
    peers := Function.update N.peers i p
    wires := N.wires ++ out
    sent := N.sent ++ out
    deliveries := ((p.chat.log.drop (N.peers i).chat.log.length).filter Effect.isDelivery).map
      (fun _ => (i, cause)) ++ N.deliveries }

variable (J : JsonCodec) (crypto : Crypto PrivateKey PublicKey) (isAlphanumeric : String → Bool)

/-- What a server makes of a message that arrives. -/
def receive (N : Net ι PrivateKey PublicKey) (w : Wire ι) : RelayServer PrivateKey PublicKey :=
  if w.up then (N.peers w.dst).onChildMessage J crypto (T.linkOf w.src) w.message
  else (N.peers w.dst).onParentMessage J crypto w.message

/-- One event: `none` when there is no such message, and when a process ends. Frames of other
    servers come over the links only. -/
def act (N : Net ι PrivateKey PublicKey) : NetEvent ι → Option (Net ι PrivateKey PublicKey)
  | .event i e =>
    if e.isExternal then none else
      ((N.peers i).onEvent J isAlphanumeric e).map fun p =>
        { N.record T i p (some N.origins.length) [i] with origins := N.origins ++ [i] }
  | .arrive n =>
    N.wires[n]?.map fun w =>
      { N with wires := N.wires.eraseIdx n }.record T w.dst (N.receive T J crypto w) w.cause
        (w.trail ++ [w.dst])

/-- A run: the events in order. -/
def run (N : Net ι PrivateKey PublicKey) (es : List (NetEvent ι)) :
    Option (Net ι PrivateKey PublicKey) :=
  es.foldlM (act T J crypto isAlphanumeric) N

end Net

/-! ### What a server sends -/

namespace ParentCommServer

variable {PublicKey : Type}

/-- What the module sends of a message, over the connections that it is forwarded over. -/
def sends (s : ParentCommServer PublicKey) (x : Bytes × Bool × Option LinkId) : List ParentEffect :=
  (s.clientData.values.filter (s.forwardsOver x.2.2)).map fun c => .send c x.1 x.2.1

end ParentCommServer

namespace ChildCommServer

def sends (s : ChildCommServer) (x : Bytes × Bool) : List ChildEffect :=
  if s.parentWs = some .isOpen then [.send x.1 x.2] else []

open Action in
theorem forwardMessage_final (m : Bytes) (b : Bool) (s : ChildCommServer) :
    (forwardMessage m b).final s = { s with log := s.log ++ s.sends (m, b) } := by
  rw [forwardMessage, final_get_bind, sends]
  split
  · rfl
  · rw [List.append_nil]; rfl

end ChildCommServer

namespace RelayServer

variable {PrivateKey PublicKey : Type}

/-- The modules have sent these messages. -/
def handOver (p : RelayServer PrivateKey PublicKey) (down : List (Bytes × Bool × Option LinkId))
    (up : List (Bytes × Bool)) : RelayServer PrivateKey PublicKey :=
  { p with
    children := { p.children with log := p.children.log ++ down.flatMap p.children.sends }
    parent := { p.parent with log := p.parent.log ++ up.flatMap p.parent.sends } }

theorem handOver_nil (p : RelayServer PrivateKey PublicKey) : p.handOver [] [] = p := by
  rw [handOver, List.flatMap_nil, List.flatMap_nil, List.append_nil, List.append_nil]

/-- The calls to the modules are made one after the other. -/
theorem foldl_relay (l : List Effect) (p : RelayServer PrivateKey PublicKey) : l.foldl relay p =
    p.handOver (l.filterMap Effect.toChildren?) (l.filterMap Effect.toParent?) := by
  induction l generalizing p with
  | nil => exact (handOver_nil p).symm
  | cons e l ih =>
    rw [List.foldl_cons, ih]
    cases e with
    | toChildren m b source =>
      rw [relay, ParentCommServer.forwardMessage_final]
      simp only [handOver, Effect.toChildren?, Effect.toParent?, List.filterMap_cons,
        List.flatMap_cons, ← List.append_assoc]
      rfl
    | toParent m b =>
      rw [relay, ChildCommServer.forwardMessage_final]
      simp only [handOver, Effect.toChildren?, Effect.toParent?, List.filterMap_cons,
        List.flatMap_cons, ← List.append_assoc]
      rfl
    | send | close | terminate | toAuth | updateAuth | udpProxyCommand | deliverBroadcast
    | storageCommand => rfl

/-- The chat server has moved on, and the modules have sent what it asked for. -/
theorem settle_eq {p : RelayServer PrivateKey PublicKey} {s : Server} {n : ℕ}
    {down : List (Bytes × Bool × Option LinkId)} {up : List (Bytes × Bool)}
    (h : Server.Puts n down up p.chat s) : p.settle s = { p with chat := s }.handOver down up := by
  obtain ⟨l, hl, -, rfl, rfl⟩ := h
  rw [settle, hl, List.drop_left, foldl_relay]

end RelayServer

/-! ### Trees of servers -/

namespace Topology

variable {ι PrivateKey PublicKey : Type} (T : Topology ι)

/-- The servers and their links. -/
def graph : SimpleGraph ι := SimpleGraph.fromRel fun u v => T.parentOf u = some v

/-- Nobody is his own ancestor: every server is deeper than its parent. -/
def IsForest : Prop := ∃ depth : ι → ℕ, ∀ i p, T.parentOf i = some p → depth p < depth i

/-- The links of a server are open and authenticated, each listed once, and its relay is switched on
    where it has links. -/
structure Linked (i : ι) (p : RelayServer PrivateKey PublicKey) : Prop where
  parentWs : (T.parentOf i).isSome → p.parent.parentWs = some .isOpen
  nodup : p.children.clientData.values.Nodup
  listed : ∀ j, T.parentOf j = some i → T.linkOf j ∈ p.children.clientData.values
  children : ∀ j, T.parentOf j = some i → (p.children.children (T.linkOf j)).readyState = .isOpen ∧
    (p.children.children (T.linkOf j)).m_s2s_authed = true
  upOn : (T.parentOf i).isSome → p.chat.config.enable_persistant_relay = true
  downOn : ∀ j, T.parentOf j = some i → p.chat.config.enable_super_server = true

/-- The neighbours that a message is forwarded to. -/
def targets (i : ι) (p : RelayServer PrivateKey PublicKey) (source : Option LinkId) : List ι :=
  (if p.chat.config.enable_persistant_relay ∧ p.parent.parentWs = some .isOpen then
    (T.parentOf i).toList else []) ++
  if p.chat.config.enable_super_server then
    (p.children.clientData.values.filter (p.children.forwardsOver source)).filterMap (T.childAt i)
  else []

/-- A message of a server to a neighbour. -/
def wireTo [DecidableEq ι] (i : ι) (m : Bytes) (cause : Option ℕ) (trail : List ι) (j : ι) :
    Wire ι :=
  ⟨i, j, T.parentOf i = some j, m, cause, trail⟩

variable {T} {i j : ι} {p : RelayServer PrivateKey PublicKey}

theorem IsForest.ne (hT : T.IsForest) (h : T.parentOf i = some j) : i ≠ j := by
  obtain ⟨depth, hdepth⟩ := hT
  rintro rfl
  exact Nat.lt_irrefl _ (hdepth i i h)

/-- A child is not a parent. -/
theorem IsForest.not_parent (hT : T.IsForest) (h : T.parentOf j = some i) :
    T.parentOf i ≠ some j := by
  obtain ⟨depth, hdepth⟩ := hT
  intro h'
  have hlt := hdepth j i h
  have hgt := hdepth i j h'
  omega

theorem IsForest.adj_iff (hT : T.IsForest) :
    T.graph.Adj i j ↔ T.parentOf i = some j ∨ T.parentOf j = some i := by
  rw [graph, SimpleGraph.fromRel_adj]
  refine ⟨And.right, fun h => ⟨?_, h⟩⟩
  rcases h with h | h
  · exact hT.ne h
  · exact (hT.ne h).symm

theorem IsForest.isAcyclic (hT : T.IsForest) : T.graph.IsAcyclic := by
  have hadj : ∀ u v, T.graph.Adj u v → T.parentOf u = some v ∨ T.parentOf v = some u :=
    fun _ _ h => hT.adj_iff.mp h
  obtain ⟨depth, hdepth⟩ := hT
  exact TreeFlood.isAcyclic_of_parents hadj hdepth

/-- The children a message is forwarded to. -/
theorem mem_children {source : Option LinkId} (hp : T.Linked i p) :
    j ∈ (p.children.clientData.values.filter (p.children.forwardsOver source)).filterMap
      (T.childAt i) ↔ T.parentOf j = some i ∧ source ≠ some (T.linkOf j) := by
  rw [List.mem_filterMap]
  constructor
  · rintro ⟨c, hc, hj⟩
    obtain ⟨hparent, rfl⟩ := (T.childAt_iff i c j).mp hj
    exact ⟨hparent, (of_decide_eq_true (List.mem_filter.mp hc).2).2.2⟩
  · rintro ⟨hparent, hne⟩
    obtain ⟨hopen, hauthed⟩ := hp.children j hparent
    exact ⟨T.linkOf j, List.mem_filter.mpr ⟨hp.listed j hparent, decide_eq_true ⟨hopen, hauthed, hne⟩⟩,
      (T.childAt_iff i _ j).mpr ⟨hparent, rfl⟩⟩

/-- A message goes to the parent and to every child but the one it came from. -/
theorem mem_targets {source : Option LinkId} (hp : T.Linked i p) : j ∈ T.targets i p source ↔
    T.parentOf i = some j ∨ T.parentOf j = some i ∧ source ≠ some (T.linkOf j) := by
  rw [targets, List.mem_append]
  refine or_congr ?_ ?_
  · constructor
    · intro h
      split at h
      · exact Option.mem_toList.mp h
      · exact absurd h List.not_mem_nil
    · intro h
      rw [if_pos ⟨hp.upOn (by rw [h]; rfl), hp.parentWs (by rw [h]; rfl)⟩]
      exact Option.mem_toList.mpr h
  · constructor
    · intro h
      split at h
      · exact (mem_children hp).mp h
      · exact absurd h List.not_mem_nil
    · intro h
      rw [if_pos (hp.downOn j h.1)]
      exact (mem_children hp).mpr h

theorem nodup_targets (hT : T.IsForest) (hp : T.Linked i p) (source : Option LinkId) :
    (T.targets i p source).Nodup := by
  have hchildren : ((p.children.clientData.values.filter
      (p.children.forwardsOver source)).filterMap (T.childAt i)).Nodup := by
    refine (hp.nodup.filter _).filterMap fun c c' j hc hc' => ?_
    rw [← ((T.childAt_iff i c j).mp hc).2, ← ((T.childAt_iff i c' j).mp hc').2]
  refine List.nodup_append.mpr ⟨?_, ?_, ?_⟩
  · split
    · cases T.parentOf i <;> simp
    · exact List.nodup_nil
  · split
    · exact hchildren
    · exact List.nodup_nil
  · rintro j hj k hk rfl
    have hparent : T.parentOf i = some j := by
      split at hj
      · exact Option.mem_toList.mp hj
      · exact absurd hj List.not_mem_nil
    have hchild : T.parentOf j = some i := by
      split at hk
      · exact ((mem_children hp).mp hk).1
      · exact absurd hk List.not_mem_nil
    exact hT.not_parent hchild hparent

/-- The neighbours that a server sends a message to, as flooding has it. -/
theorem targets_spec (hT : T.IsForest) (hp : T.Linked i p) {src : Option ι} {source : Option LinkId}
    (hsource : ∀ j, T.parentOf j = some i → source = some (T.linkOf j) → src = some j)
    (passes : ι → Prop) : TreeFlood.Targets T.graph passes i src (T.targets i p source) := by
  refine ⟨nodup_targets hT hp source, fun j hj => ?_, fun _ j hadj hne => ?_⟩
  · rw [hT.adj_iff]
    exact ((mem_targets hp).mp hj).imp_right And.left
  · refine (mem_targets hp).mpr ((hT.adj_iff.mp hadj).imp_right fun h => ⟨h, fun heq => ?_⟩)
    exact hne (hsource j h heq).symm

theorem linked_congr {p' : RelayServer PrivateKey PublicKey} (hp : T.Linked i p)
    (hws : p'.parent.parentWs = p.parent.parentWs)
    (hdata : p'.children.clientData = p.children.clientData)
    (hchildren : p'.children.children = p.children.children)
    (hconfig : p'.chat.config = p.chat.config) : T.Linked i p' := by
  refine ⟨?_, ?_, ?_, ?_, ?_, ?_⟩
  · rw [hws]; exact hp.parentWs
  · rw [hdata]; exact hp.nodup
  · rw [hdata]; exact hp.listed
  · rw [hchildren]; exact hp.children
  · rw [hconfig]; exact hp.upOn
  · rw [hconfig]; exact hp.downOn

section

variable [DecidableEq ι] {cause : Option ℕ} {trail : List ι} {s : Server} {m : Bytes} {b : Bool}
  {source : Option LinkId}

/-- What a forwarded message puts on the links. -/
theorem outgoing_forward (hT : T.IsForest) : T.outgoing i cause trail p
    ({ p with chat := s }.handOver (p.chat.downs m b source) (p.chat.ups m b)) =
      (T.targets i p source).map (T.wireTo i m cause trail) := by
  rw [outgoing, RelayServer.handOver, targets, List.map_append]
  dsimp only
  rw [List.drop_left, List.drop_left]
  refine congrArg₂ List.append ?_ ?_
  · -- to the parent
    rw [Server.ups]
    by_cases hon : p.chat.config.enable_persistant_relay = true
    · rw [if_pos hon, List.flatMap_singleton, ChildCommServer.sends]
      by_cases hws : p.parent.parentWs = some .isOpen
      · rw [if_pos hws, if_pos ⟨hon, hws⟩]
        cases hparent : T.parentOf i with
        | none => simp [upward, hparent]
        | some j => simp [upward, hparent, wireTo]
      · rw [if_neg hws, if_neg fun h => hws h.2]; rfl
    · rw [if_neg hon, if_neg fun h => hon h.1]; rfl
  · -- to the children
    rw [Server.downs]
    by_cases hon : p.chat.config.enable_super_server = true
    · rw [if_pos hon, if_pos hon, List.flatMap_singleton, ParentCommServer.sends, List.filterMap_map,
        List.map_filterMap]
      refine List.filterMap_congr fun c _ => ?_
      cases hchild : T.childAt i c with
      | none => simp [downward, hchild]
      | some j =>
        have hparent := hT.not_parent ((T.childAt_iff i c j).mp hchild).1
        simp [downward, hchild, wireTo, hparent]
    · rw [if_neg hon, if_neg hon]; rfl

omit [DecidableEq ι] in
theorem outgoing_nothing : T.outgoing i cause trail p { p with chat := s } = [] := by
  rw [outgoing, List.drop_length, List.drop_length]; rfl

end

end Topology

end DroneEngage
