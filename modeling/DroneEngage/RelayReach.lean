import DroneEngage.RelayDelivery

/-! How far a frame gets over a tree of servers.

    Whatever its client writes into it, a frame is sent over few links, never delivered where it came
    from, and nowhere twice. It is delivered on every other server if its client has written neither a
    `_path` nor an `s2s_auth`, and if no server finds an inherited property where it looks up the room:
    a server that hosts the account, but not a group of the name `constructor`, takes the function
    `Object` for the group, and the frame of such a room goes no further.

    Two frames that differ in `_path` get to the same servers if their trails cut off the same ones. -/

namespace DroneEngage
open Js

namespace Server

section

variable {J : JsonCodec} {s : Server} {ws : SocketId} {login : LoginRequest} {g : GroupId}
  {fs fs' : List (String × Json)} {message message' : Bytes} {isBinary : Bool}

/-- The frames are the same but for what the client has written into `_path`. -/
structure SameButPath (fs fs' : List (String × Json)) (message message' : Bytes) : Prop where
  fields : ∀ k, k ≠ "_path" → (Json.obj fs').field k = (Json.obj fs).field k
  payload : payload message' = payload message

theorem Broadcasts.sameButPath (h : s.Broadcasts J ws message isBinary login fs g)
    (hv : J.parse (if isBinary then header message' else message') = some (.obj fs'))
    (hsame : SameButPath fs fs' message message') :
    s.Broadcasts J ws message' isBinary login fs' g := by
  obtain ⟨actorType, hroute⟩ := h.routed
  refine ⟨h.enabled, h.listening, hv, ⟨actorType, ?_⟩, h.speaks⟩
  rw [localRoute_congr _ (hsame.fields _ (by decide)) (hsame.fields _ (by decide))
    (by rw [Json.owns, Json.owns, hsame.fields _ (by decide)])]
  exact hroute

end

end Server

namespace Net

section

variable {ι PrivateKey PublicKey : Type} [DecidableEq ι] {T : Topology ι} {J : JsonCodec}
  {crypto : Crypto PrivateKey PublicKey} {isAlphanumeric : String → Bool}
  {N₀ N N' N₁ N₂ : Net ι PrivateKey PublicKey} {es es' : List (NetEvent ι)} {i o : ι} {k : ℕ}
  {ws : SocketId} {message : Bytes} {isBinary : Bool} {login : LoginRequest}
  {fs : List (String × Json)} {g : GroupId}

/-! ### The events of a run -/

theorem act_origins {e : NetEvent ι} (h : act T J crypto isAlphanumeric N e = some N') :
    N.origins <+: N'.origins := by
  cases e with
  | event i e =>
    obtain ⟨-, p, -, rfl⟩ := act_event h
    exact List.prefix_append _ _
  | arrive n =>
    obtain ⟨w, -, rfl⟩ := act_arrive h
    exact List.prefix_rfl

theorem run_origins (h : run T J crypto isAlphanumeric N es = some N') : N.origins <+: N'.origins := by
  induction es generalizing N with
  | nil =>
    obtain rfl := Option.some.inj h
    exact List.prefix_rfl
  | cons e es ih =>
    obtain ⟨N₁, h₁, h₂⟩ := run_cons.mp h
    exact (act_origins h₁).trans (ih h₂)

/-- The event keeps its number. -/
theorem run_origin {e : Event} (h₁ : act T J crypto isAlphanumeric N (.event o e) = some N₁)
    (h₂ : run T J crypto isAlphanumeric N₁ es = some N₂) : N₂.origins[N.origins.length]? = some o := by
  obtain ⟨l, hl⟩ := run_origins h₂
  obtain ⟨-, p, -, rfl⟩ := act_event h₁
  rw [← hl]
  dsimp only
  rw [List.append_assoc, List.getElem?_append_right (Nat.le_refl _), Nat.sub_self]
  rfl

/-! ### Few transmissions -/

/-- No link carries the frame twice in one direction, so there are at most as many transmissions as
    pairs of servers. -/
theorem countP_sent_le [Fintype ι] {opens : ι → ι → Prop} {passes : ι → Prop}
    (h : TreeFlood.Inv T.graph o opens passes (N.flood k)) :
    N.sent.countP (fun w => w.cause = some k) ≤ Fintype.card ι * Fintype.card ι := by
  have hlength : (N.flood k).sent.length = N.sent.countP fun w => w.cause = some k := by
    rw [flood, List.length_map, List.countP_eq_length_filter]
  rw [← hlength, ← Fintype.card_prod]
  exact h.sent.length_le_card

/-! ### A frame that its client has left alone -/

omit [DecidableEq ι] in
theorem clear_of_reachable (ids : ι → String) (message : Bytes)
    (hpath : (Json.obj fs).field "_path" = none) (hauth : (Json.obj fs).field "s2s_auth" = none)
    (h : T.graph.Reachable o i) : Clear T ids fs message o i := by
  obtain ⟨w, hw⟩ := h.exists_isPath
  refine ⟨w, hw, fun j _ => ?_, Or.inl (Or.inl ?_)⟩
  · rw [Unnamed, Server.alreadyRelayed, hpath]
    rfl
  · rw [hauth]
    rfl

/-- In every run over a tree of servers with different names, the frame of a client is sent over few
    links, is never delivered by the server it was sent to, and by no server twice. If its server routes
    it as a broadcast, no inherited property is found under the ids of the room, no prototype is
    written to, and it carries neither a `_path` nor an `s2s_auth`, every other server has delivered it
    once when none of its messages is under way. -/
theorem relayed_safely [Fintype ι] (hT : T.IsForest) (hN : N₀.Starts T)
    (hids : Function.Injective N₀.originID)
    (h₀ : run T J crypto isAlphanumeric N₀ es = some N)
    (h₁ : act T J crypto isAlphanumeric N (.event o (.message ws message isBinary)) = some N₁)
    (h₂ : run T J crypto isAlphanumeric N₁ es' = some N₂) :
    N₂.sent.countP (fun w => w.cause = some N.origins.length) ≤ Fintype.card ι * Fintype.card ι ∧
    (o, some N.origins.length) ∉ N₂.deliveries ∧
    (∀ i, N₂.deliveries.count (i, some N.origins.length) ≤ 1) ∧
    ∀ login fs g, (N.peers o).chat.Broadcasts J ws message isBinary login fs g →
      AllStampsRead T J crypto isAlphanumeric N.origins.length
        ((N.peers o).chat.accountOf g).accountID ((N.peers o).chat.groupHeap g).ID N₁ es' →
      N₂.SparesPrototypes →
      (Json.obj fs).field "_path" = none → (Json.obj fs).field "s2s_auth" = none →
      (∀ w ∈ N₂.wires, w.cause ≠ some N.origins.length) →
      ∀ i, i ≠ o → T.graph.Reachable o i →
        N₂.deliveries.count (i, some N.origins.length) = 1 := by
  obtain ⟨hsound, hfloods⟩ := run_sound hT (hN.sound (J := J)) hN.floods h₀
  have hend := run_sound hT (hsound.act hT h₁) (hfloods.act hT hsound h₁) h₂
  have hinv := hend.2.inv _ o (run_origin h₁ h₂)
  refine ⟨countP_sent_le hinv, ?_, fun i => ?_, ?_⟩
  · rw [← mem_taken]
    exact hinv.origin_notMem
  · rw [← count_taken]
    exact List.nodup_iff_count_le_one.mp hinv.nodup i
  · intro login fs g hsend hreads _ hpath hauth hquiet i hi hreach
    have hcarries := carries_run hT hN hids h₀ h₁ h₂ hsend hreads
    exact (hcarries.count_deliveries hT hquiet i).1 ⟨hi, clear_of_reachable _ _ hpath hauth hreach⟩

/-! ### Two frames -/

theorem Carries.mem_deliveries {s : Server} {ids : ι → String}
    (h : N.Carries T J s ws login fs message ids k o) (hT : T.IsForest)
    (hquiet : ∀ w ∈ N.wires, w.cause ≠ some k) (i : ι) :
    (i, some k) ∈ N.deliveries ↔ i ≠ o ∧ Clear T ids fs message o i := by
  obtain ⟨hone, hzero⟩ := h.count_deliveries hT hquiet i
  rw [← List.count_pos_iff]
  constructor
  · intro hpos
    by_contra hnot
    rw [hzero hnot] at hpos
    exact absurd hpos (Nat.lt_irrefl 0)
  · intro hclear
    rw [hone hclear]
    exact Nat.one_pos

/-- A client sends one of two broadcasts that differ in what it has written into `_path`. When none of
    their messages is under way, the same servers have delivered the one and the other exactly if each
    of them gets along the path to the same servers. -/
theorem reach_agrees_iff {fs' : List (String × Json)} {message' : Bytes}
    {N₁' N₂' : Net ι PrivateKey PublicKey} {es₁ es₂ : List (NetEvent ι)} (hT : T.IsForest)
    (hN : N₀.Starts T) (hids : Function.Injective N₀.originID)
    (h₀ : run T J crypto isAlphanumeric N₀ es = some N)
    (hsend : (N.peers o).chat.Broadcasts J ws message isBinary login fs g)
    (hv : J.parse (if isBinary then header message' else message') = some (.obj fs'))
    (hsame : Server.SameButPath fs fs' message message')
    (h₁ : act T J crypto isAlphanumeric N (.event o (.message ws message isBinary)) = some N₁)
    (h₂ : run T J crypto isAlphanumeric N₁ es₁ = some N₂)
    (h₁' : act T J crypto isAlphanumeric N (.event o (.message ws message' isBinary)) = some N₁')
    (h₂' : run T J crypto isAlphanumeric N₁' es₂ = some N₂')
    (hreads : AllStampsRead T J crypto isAlphanumeric N.origins.length
      ((N.peers o).chat.accountOf g).accountID ((N.peers o).chat.groupHeap g).ID N₁ es₁)
    (hreads' : AllStampsRead T J crypto isAlphanumeric N.origins.length
      ((N.peers o).chat.accountOf g).accountID ((N.peers o).chat.groupHeap g).ID N₁' es₂)
    (_ : N₂.SparesPrototypes) (_ : N₂'.SparesPrototypes)
    (hquiet : ∀ w ∈ N₂.wires, w.cause ≠ some N.origins.length)
    (hquiet' : ∀ w ∈ N₂'.wires, w.cause ≠ some N.origins.length) :
    (∀ i, (i, some N.origins.length) ∈ N₂.deliveries ↔ (i, some N.origins.length) ∈ N₂'.deliveries) ↔
      ∀ i, i ≠ o → (Clear T N₀.originID fs message o i ↔ Clear T N₀.originID fs' message' o i) := by
  have hmem := (carries_run hT hN hids h₀ h₁ h₂ hsend hreads).mem_deliveries hT hquiet
  have hmem' := (carries_run hT hN hids h₀ h₁' h₂' (hsend.sameButPath hv hsame)
    hreads').mem_deliveries hT hquiet'
  refine forall_congr' fun i => ?_
  rw [hmem i, hmem' i, and_congr_right_iff]

end

/-! ### On the star -/

theorem reachable_star (i j : Fin 3) : Topology.star.graph.Reachable i j := by
  have hroot : ∀ i, Topology.star.graph.Reachable i 0 := by
    intro i
    by_cases hi : i = 0
    · rw [hi]
    · exact (Topology.isForest_star.adj_iff.mpr (Or.inl (if_neg hi))).reachable
  exact (hroot i).trans (hroot j).symm

/-- The frame of a unit at a child gets to the root and to the other child. -/
theorem relayed_safely_star : ∃ N N₁ N₂,
    run Topology.star Text.codec Crypto.sealing Server.isAsciiAlphanumeric star starJoined = some N ∧
    act Topology.star Text.codec Crypto.sealing Server.isAsciiAlphanumeric N
      (.event 1 (.message 0 (Server.broadcastFrame []) false)) = some N₁ ∧
    run Topology.star Text.codec Crypto.sealing Server.isAsciiAlphanumeric N₁
      [.arrive 0, .arrive 0, .arrive 0] = some N₂ ∧
    N₂.sent.countP (fun w => w.cause = some 2) ≤ 9 ∧ (1, some 2) ∉ N₂.deliveries ∧
    ∀ i, i ≠ 1 → N₂.deliveries.count (i, some 2) = 1 := by
  have h : (run Topology.star Text.codec Crypto.sealing Server.isAsciiAlphanumeric star
      starEvents).map (fun N => (N.wires.length, decide N.SparesPrototypes)) = some (0, true) := by
    decide +kernel
  obtain ⟨N, h₀, horigins, hroom, hsend⟩ := broadcasts_starJoined
  obtain ⟨N₁, N₂, h₁, h₂, hends⟩ := run_then h₀ h
  obtain ⟨hlen, hspares⟩ := Prod.mk.inj hends
  obtain ⟨hfew, hown, -, hall⟩ := relayed_safely Topology.isForest_star starts_star
    originID_star_injective h₀ h₁ h₂
  have hone := hall _ _ _ (hsend [] (by decide +kernel))
    (allStampsRead_of_plain Topology.isForest_star starts_star h₀ h₁ hroom _)
    (of_decide_eq_true hspares) rfl rfl (ne_of_wires_nil hlen _)
  rw [horigins] at hfew hown hone
  exact ⟨N, N₁, N₂, h₀, h₁, h₂, hfew, hown, fun i hi => hone i hi (reachable_star 1 i)⟩

/-- AUTH announces a vehicle of the account in the group `constructor`. -/
def announceConstructor (key : String) : Event :=
  .authMessage (Text.stringify (.obj [("c", .str "b"), ("d", .obj [("a", .str "acc"),
    ("b", .str "constructor"), ("r", .str "q"), ("at", .str "d")])])) key

/-- A unit of the account is in another group at the root, and the sender in the group `constructor`. -/
def constructorJoined {ι : Type} (root i : ι) : List (NetEvent ι) :=
  [.event root (Server.announceUnit "k0"), .event root (.connect "/?f=k0&s=other" "peer"),
    .event i (announceConstructor "k1"), .event i (.connect "/?f=k1&s=drone" "peer")]

/-- The root takes the function `Object` for the group, and the other child never gets the frame. -/
theorem relayed_safely_constructor : ∃ N N₁ N₂ login,
    run Topology.star Text.codec Crypto.sealing Server.isAsciiAlphanumeric star
      (constructorJoined 0 1) = some N ∧
    (N.peers 1).chat.Broadcasts Text.codec 0 (Server.broadcastFrame []) false login
      [("ty", .str "g")] 0 ∧
    act Topology.star Text.codec Crypto.sealing Server.isAsciiAlphanumeric N
      (.event 1 (.message 0 (Server.broadcastFrame []) false)) = some N₁ ∧
    run Topology.star Text.codec Crypto.sealing Server.isAsciiAlphanumeric N₁ [.arrive 0] = some N₂ ∧
    N₂.SparesPrototypes ∧ N₂.wires = [] ∧ Topology.star.graph.Reachable 1 2 ∧
    N₂.deliveries.count (2, some N.origins.length) = 0 := by
  have hbefore : (run Topology.star Text.codec Crypto.sealing Server.isAsciiAlphanumeric star
      (constructorJoined 0 1)).map (fun N => (((N.peers 1).chat.enabled (.message 0 [] false),
        ((N.peers 1).chat.sockets 0).listening), ((N.peers 1).chat.sockets 0).hasStatus,
        ((N.peers 1).chat.sockets 0).group, ((N.peers 1).chat.sockets 0).loginRequest.bind
          (·.actorType), N.origins.length)) = some ((true, true), true, some 0, some (.str "d"), 4) := by
    decide +kernel
  have hafter : (run Topology.star Text.codec Crypto.sealing Server.isAsciiAlphanumeric star
      (constructorJoined 0 1 ++ [.event 1 (.message 0 (Server.broadcastFrame []) false), .arrive 0])).map
        (fun N => (N.wires.length, decide N.SparesPrototypes, N.deliveries)) =
      some (0, true, [(0, some 4)]) := by decide +kernel
  obtain ⟨N, h₀, hf⟩ := Option.map_eq_some_iff.mp hbefore
  obtain ⟨N₁, N₂, h₁, h₂, hends⟩ := run_then h₀ hafter
  simp only [Prod.mk.injEq] at hf hends
  obtain ⟨⟨henabled, hlistening⟩, hstatus, hgroup, hactor, horigins⟩ := hf
  obtain ⟨hlen, hspares, hdeliveries⟩ := hends
  obtain ⟨login, hlogin, hdrone⟩ := Option.bind_eq_some_iff.mp hactor
  refine ⟨N, N₁, N₂, login, h₀, ⟨henabled, hlistening, by decide +kernel, ⟨some "g", ?_⟩, hlogin, hstatus,
    hgroup⟩, h₁, h₂, of_decide_eq_true hspares, List.length_eq_zero_iff.mp hlen, reachable_star 1 2, ?_⟩
  · rw [hdrone]
    rfl
  · rw [hdeliveries, horigins]
    rfl

/-- A trail that names none of the servers. -/
def elsewhereFields : List (String × Json) := [("_path", .arr [.str "S9"])]

theorem sameButPath_singleton (v : Json) : Server.SameButPath [("ty", .str "g")]
    [("ty", .str "g"), ("_path", v)] (Server.broadcastFrame [])
    (Server.broadcastFrame [("_path", v)]) := by
  refine ⟨fun k hk => ?_, ?_⟩
  · have hother : (k == "_path") = false := beq_false_of_ne hk
    rw [Json.field, Json.field, List.lookup_cons, List.lookup_cons, List.lookup_cons, hother]
  · rw [Server.broadcastFrame, Server.broadcastFrame,
      Server.payload_eq_nil (Text.zero_notMem_stringify _),
      Server.payload_eq_nil (Text.zero_notMem_stringify _)]

/-- With such a trail the frame gets to both other servers, as it does without. -/
theorem reach_agrees_iff_elsewhere : ∃ N N₁ N₂ N₁' N₂',
    run Topology.star Text.codec Crypto.sealing Server.isAsciiAlphanumeric star starJoined = some N ∧
    act Topology.star Text.codec Crypto.sealing Server.isAsciiAlphanumeric N
      (.event 1 (.message 0 (Server.broadcastFrame []) false)) = some N₁ ∧
    run Topology.star Text.codec Crypto.sealing Server.isAsciiAlphanumeric N₁
      [.arrive 0, .arrive 0, .arrive 0] = some N₂ ∧
    act Topology.star Text.codec Crypto.sealing Server.isAsciiAlphanumeric N
      (.event 1 (.message 0 (Server.broadcastFrame elsewhereFields) false)) = some N₁' ∧
    run Topology.star Text.codec Crypto.sealing Server.isAsciiAlphanumeric N₁'
      [.arrive 0, .arrive 0, .arrive 0] = some N₂' ∧
    (2, some 2) ∈ N₂.deliveries ∧ ∀ i, (i, some 2) ∈ N₂.deliveries ↔ (i, some 2) ∈ N₂'.deliveries := by
  have h : (run Topology.star Text.codec Crypto.sealing Server.isAsciiAlphanumeric star
      starEvents).map (fun N => (N.wires.length, decide N.SparesPrototypes,
        decide ((2, some 2) ∈ N.deliveries))) = some (0, true, true) := by
    decide +kernel
  have h' : (run Topology.star Text.codec Crypto.sealing Server.isAsciiAlphanumeric star
      (starJoined ++ [.event 1 (.message 0 (Server.broadcastFrame elsewhereFields) false), .arrive 0,
        .arrive 0, .arrive 0])).map (fun N => (N.wires.length, decide N.SparesPrototypes)) =
      some (0, true) := by decide +kernel
  obtain ⟨N, h₀, horigins, hroom, hsend⟩ := broadcasts_starJoined
  obtain ⟨N₁, N₂, h₁, h₂, hends⟩ := run_then h₀ h
  obtain ⟨N₁', N₂', h₁', h₂', hends'⟩ := run_then h₀ h'
  simp only [Prod.mk.injEq] at hends hends'
  have hagree := reach_agrees_iff Topology.isForest_star starts_star originID_star_injective h₀
    (hsend [] (by decide +kernel)) (by decide +kernel) (sameButPath_singleton (.arr [.str "S9"])) h₁ h₂
    h₁' h₂'
    (allStampsRead_of_plain Topology.isForest_star starts_star h₀ h₁ hroom _)
    (allStampsRead_of_plain Topology.isForest_star starts_star h₀ h₁' hroom _)
    (of_decide_eq_true hends.2.1) (of_decide_eq_true hends'.2) (ne_of_wires_nil hends.1 _)
    (ne_of_wires_nil hends'.1 _)
  rw [horigins] at hagree
  refine ⟨N, N₁, N₂, N₁', N₂', h₀, h₁, h₂, h₁', h₂', of_decide_eq_true hends.2.2, hagree.mpr ?_⟩
  -- neither frame names a server
  have hfree : ∀ j, Unnamed star.originID [("ty", .str "g")] j ∧
      Unnamed star.originID (("ty", .str "g") :: elsewhereFields) j := by
    intro j
    fin_cases j <;> exact ⟨rfl, rfl⟩
  intro i _
  refine exists_congr fun w => and_congr_right fun _ => ?_
  exact iff_of_true ⟨fun j _ => (hfree j).1, Or.inl (Or.inl rfl)⟩
    ⟨fun j _ => (hfree j).2, Or.inl (Or.inl rfl)⟩

/-- A client that names the other child in `_path` keeps the frame from it. -/
theorem reach_steered : ∃ N N₁ N₂ N₁' N₂',
    run Topology.star Text.codec Crypto.sealing Server.isAsciiAlphanumeric star starJoined = some N ∧
    (N.peers 1).chat.Broadcasts Text.codec 0 (Server.broadcastFrame []) false
      (Server.announcedDrone "drone") [("ty", .str "g")] 0 ∧
    (N.peers 1).chat.Broadcasts Text.codec 0 (Server.broadcastFrame namingFields) false
      (Server.announcedDrone "drone") (("ty", .str "g") :: namingFields) 0 ∧
    Server.SameButPath [("ty", .str "g")] (("ty", .str "g") :: namingFields)
      (Server.broadcastFrame []) (Server.broadcastFrame namingFields) ∧
    act Topology.star Text.codec Crypto.sealing Server.isAsciiAlphanumeric N
      (.event 1 (.message 0 (Server.broadcastFrame []) false)) = some N₁ ∧
    run Topology.star Text.codec Crypto.sealing Server.isAsciiAlphanumeric N₁
      [.arrive 0, .arrive 0, .arrive 0] = some N₂ ∧
    act Topology.star Text.codec Crypto.sealing Server.isAsciiAlphanumeric N
      (.event 1 (.message 0 (Server.broadcastFrame namingFields) false)) = some N₁' ∧
    run Topology.star Text.codec Crypto.sealing Server.isAsciiAlphanumeric N₁'
      [.arrive 0, .arrive 0] = some N₂' ∧
    N₂.wires = [] ∧ N₂'.wires = [] ∧
    (2, some 2) ∈ N₂.deliveries ∧ (2, some 2) ∉ N₂'.deliveries := by
  have h : (run Topology.star Text.codec Crypto.sealing Server.isAsciiAlphanumeric star
      starEvents).map (fun N => (N.wires.length, decide ((2, some 2) ∈ N.deliveries))) =
      some (0, true) := by decide +kernel
  have h' : (run Topology.star Text.codec Crypto.sealing Server.isAsciiAlphanumeric star
      (starJoined ++ [.event 1 (.message 0 (Server.broadcastFrame namingFields) false), .arrive 0,
        .arrive 0])).map (fun N => (N.wires.length, decide ((2, some 2) ∈ N.deliveries))) =
      some (0, false) := by decide +kernel
  obtain ⟨N, h₀, -, -, hsend⟩ := broadcasts_starJoined
  obtain ⟨N₁, N₂, h₁, h₂, hends⟩ := run_then h₀ h
  obtain ⟨N₁', N₂', h₁', h₂', hends'⟩ := run_then h₀ h'
  obtain ⟨hlen, hgets⟩ := Prod.mk.inj hends
  obtain ⟨hlen', hcut⟩ := Prod.mk.inj hends'
  exact ⟨N, N₁, N₂, N₁', N₂', h₀, hsend [] (by decide +kernel), hsend namingFields (by decide +kernel),
    sameButPath_singleton _, h₁, h₂, h₁', h₂', List.length_eq_zero_iff.mp hlen,
    List.length_eq_zero_iff.mp hlen', of_decide_eq_true hgets, of_decide_eq_false hcut⟩

end Net

end DroneEngage
