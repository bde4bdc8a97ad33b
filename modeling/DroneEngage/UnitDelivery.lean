import DroneEngage.Receipts

/-! From unit to unit, over a tree of servers.

    What a server delivers goes to the units of the sender's room, and a broadcast is delivered by
    every server that it gets to, once. So a unit that stays in the room hears it once, on whichever
    server it is: on the sender's own from the server's routing, on another one from the copy that has
    come over the links. -/

namespace DroneEngage
open Js

namespace Net

variable {ι PrivateKey PublicKey : Type} [DecidableEq ι]

section

variable (T : Topology ι) (J : JsonCodec) (crypto : Crypto PrivateKey PublicKey)
  (isAlphanumeric : String → Bool)

omit [DecidableEq ι] in
/-- The number of the event that what happens next comes from. -/
def causeOf (N : Net ι PrivateKey PublicKey) : NetEvent ι → Option ℕ
  | .event .. => some N.origins.length
  | .arrive n => N.wires[n]?.bind Wire.cause

/-- How many frames a socket of a server is sent in a run, of those that come from one event. -/
def heard (i : ι) (u : SocketId) (k : ℕ) : Net ι PrivateKey PublicKey → List (NetEvent ι) → ℕ
  | _, [] => 0
  | N, e :: es => match act T J crypto isAlphanumeric N e with
    | none => 0
    | some N' => (if N.causeOf e = some k then
        Server.receipts u (N.peers i).chat (N'.peers i).chat else 0) + heard i u k N' es

/-- Wherever the run has got to, the unit is in a room with these ids. -/
def Stays (i : ι) (u : SocketId) (unit : LoginRequest) (ka kg : String)
    (N : Net ι PrivateKey PublicKey) (es : List (NetEvent ι)) : Prop :=
  ∀ n N', run T J crypto isAlphanumeric N (es.take n) = some N' →
    ∃ k a g, (N'.peers i).chat.Placed ka kg k a g u unit

end

variable {T : Topology ι} {J : JsonCodec} {crypto : Crypto PrivateKey PublicKey}
  {isAlphanumeric : String → Bool} {N N' : Net ι PrivateKey PublicKey} {i j o : ι} {k n : ℕ}
  {u : SocketId} {unit : LoginRequest} {ka kg : String} {es : List (NetEvent ι)} {e : NetEvent ι}

theorem heard_cons (h : act T J crypto isAlphanumeric N e = some N') :
    heard T J crypto isAlphanumeric i u k N (e :: es) = (if N.causeOf e = some k then
      Server.receipts u (N.peers i).chat (N'.peers i).chat else 0) +
        heard T J crypto isAlphanumeric i u k N' es := by
  rw [heard, h]

theorem Stays.here (h : Stays T J crypto isAlphanumeric i u unit ka kg N es) :
    ∃ k a g, (N.peers i).chat.Placed ka kg k a g u unit := h 0 N rfl

theorem Stays.tail (h : Stays T J crypto isAlphanumeric i u unit ka kg N (e :: es))
    (hact : act T J crypto isAlphanumeric N e = some N') :
    Stays T J crypto isAlphanumeric i u unit ka kg N' es := by
  intro n N₂ hrun
  refine h (n + 1) N₂ ?_
  rw [List.take_succ_cons]
  exact run_cons.mpr ⟨N', hact, hrun⟩

/-! ### A server moves on -/

section

variable {p : RelayServer PrivateKey PublicKey} {cause : Option ℕ} {trail : List ι}

theorem count_record {down : List (Bytes × Bool × Option LinkId)} {up : List (Bytes × Bool)}
    (h : (N.peers j).chat.Puts n down up p.chat) (i : ι) :
    (N.record T j p cause trail).deliveries.count (i, some k) =
      (if cause = some k ∧ j = i then n else 0) + N.deliveries.count (i, some k) := by
  rw [← count_taken, flood_record h, List.count_append, count_taken]
  congr 1
  by_cases hc : cause = some k
  · rw [if_pos hc, List.count_replicate]
    simp [hc]
  · rw [if_neg hc, if_neg fun hboth => hc hboth.1, List.count_nil]

theorem receipts_record (u : SocketId) (i : ι) :
    Server.receipts u (N.peers i).chat ((N.record T j p cause trail).peers i).chat =
      if j = i then Server.receipts u (N.peers i).chat p.chat else 0 := by
  change Server.receipts u _ (Function.update N.peers j p i).chat = _
  by_cases hi : j = i
  · subst hi
    rw [Function.update_self, if_pos rfl]
  · rw [Function.update_of_ne (Ne.symm hi), if_neg hi, Server.receipts_self]

end

/-! ### Copies that arrive -/

section

variable {s : Server} {ws : SocketId} {login : LoginRequest} {fs : List (String × Json)}
  {message : Bytes} {ids : ι → String} {a : Addressing} {g : GroupId}

/-- A unit in the room is sent a copy exactly when its server delivers it. -/
theorem Carries.heard_arrive (h : N.Carries T J s ws login fs message ids k o) (hT : T.IsForest)
    (hg : (s.sockets ws).group = some g) (hto : AddressedTo (.obj fs) a)
    (hread : Readable (.obj fs) a) (hroom : s.PlainRoom g) (haid : propKey (s.accountOf g).accountID = .ok ka)
    (hgid : propKey (s.groupHeap g).ID = .ok kg)
    (hsd : (Json.obj fs).field Const.wsSenderID ≠ unit.senderID)
    (hplaced : ∃ k a g, (N.peers i).chat.Placed ka kg k a g u unit)
    (hact : Net.act T J crypto isAlphanumeric N (.arrive n) = some N') :
    (if N.causeOf (.arrive n) = some k then
        Server.receipts u (N.peers i).chat (N'.peers i).chat else 0) +
      N.deliveries.count (i, some k) * (if unit.Hears a.relayedAudience then 1 else 0) =
    N'.deliveries.count (i, some k) * (if unit.Hears a.relayedAudience then 1 else 0) := by
  obtain ⟨w, hw, rfl⟩ := act_arrive hact
  have hmem := List.mem_of_getElem? hw
  have hon := h.sound.onTree w hmem
  have hcauseOf : N.causeOf (.arrive n) = w.cause := by rw [causeOf, hw]; rfl
  obtain ⟨m, down, up, hputs⟩ := Arrival.puts (receive_arrival crypto hT h.sound hon).1
  generalize hc : (if unit.Hears a.relayedAudience then 1 else 0) = c
  rw [hcauseOf, receipts_record (N := { N with wires := N.wires.eraseIdx n }),
    count_record (N := { N with wires := N.wires.eraseIdx n }) hputs]
  dsimp only
  by_cases hcause : w.cause = some k
  · by_cases hi : w.dst = i
    · subst hi
      obtain ⟨k', b, g', ht⟩ := hplaced
      have hcopy := h.copies w hmem hcause
      rw [if_pos hcause, if_pos rfl, if_pos ⟨hcause, rfl⟩]
      have hnothing : (N.receive T J crypto w).chat = (N.peers w.dst).chat →
          Server.receipts u (N.peers w.dst).chat (N.receive T J crypto w).chat +
            N.deliveries.count (w.dst, some k) * c =
          (m + N.deliveries.count (w.dst, some k)) * c := by
        intro hsame
        rw [hsame] at hputs
        rw [hsame, Server.receipts_self, ← ((Server.homeOnly_refl _).unique hputs).1, Nat.zero_add,
          Nat.zero_add]
      by_cases hframe : w.up = true ∨ S2sAuth.parseEnvelope J w.message false = none
      · have hchat : (N.receive T J crypto w).chat = (Server.parseExternalMessage J w.message true
            (sourceOf T w)).final (N.peers w.dst).chat := receive_frame hT h.sound hon hframe
        by_cases hnew : Server.alreadyRelayed (N.peers w.dst).chat.serverOriginID (.obj fs) = false ∧
            (N.peers w.dst).chat.serverOriginID ∉ w.trail.map ids
        · -- the server delivers it
          have hone := hcopy.taken hto hread hg (hroom.reads (h.proto w.dst)) hnew.1 hnew.2 (sourceOf T w)
          rw [← hchat] at hone
          rw [hchat, ht.receipts_parseExternalMessage hg haid hgid hcopy hto hread hnew.1
            hnew.2 hsd, hc, ← (hone.unique hputs).1, Nat.add_mul, Nat.one_mul]
        · -- it goes no further
          refine hnothing ?_
          rw [hchat]
          exact hcopy.dropped hnew (sourceOf T w)
      · -- an envelope
        rw [not_or] at hframe
        exact hnothing (receive_envelope (T := T) (Bool.eq_false_iff.mpr hframe.1) hframe.2)
    · rw [if_pos hcause, if_neg hi, if_neg fun hboth => hi hboth.2, Nat.zero_add, Nat.zero_add]
  · rw [if_neg hcause, if_neg fun hboth => hcause hboth.1, Nat.zero_add, Nat.zero_add]

/-- In a run it is sent as many copies as its server delivers. -/
theorem Carries.heard_run (h : N.Carries T J s ws login fs message ids k o) (hT : T.IsForest)
    (hids : Function.Injective ids) (hg : (s.sockets ws).group = some g)
    (hto : AddressedTo (.obj fs) a) (hread : Readable (.obj fs) a) (hroom : s.PlainRoom g)
    (haid : propKey (s.accountOf g).accountID = .ok ka)
    (hgid : propKey (s.groupHeap g).ID = .ok kg)
    (hsd : (Json.obj fs).field Const.wsSenderID ≠ unit.senderID)
    (hstays : Stays T J crypto isAlphanumeric i u unit ka kg N es)
    (hrun : Net.run T J crypto isAlphanumeric N es = some N') :
    heard T J crypto isAlphanumeric i u k N es +
      N.deliveries.count (i, some k) * (if unit.Hears a.relayedAudience then 1 else 0) =
    N'.deliveries.count (i, some k) * (if unit.Hears a.relayedAudience then 1 else 0) := by
  induction es generalizing N with
  | nil =>
    obtain rfl := Option.some.inj hrun
    rw [heard, Nat.zero_add]
  | cons e es ih =>
    obtain ⟨N₁, h₁, h₂⟩ := run_cons.mp hrun
    have hone : (if N.causeOf e = some k then
          Server.receipts u (N.peers i).chat (N₁.peers i).chat else 0) +
        N.deliveries.count (i, some k) * (if unit.Hears a.relayedAudience then 1 else 0) =
        N₁.deliveries.count (i, some k) * (if unit.Hears a.relayedAudience then 1 else 0) := by
      cases e with
      | arrive n => exact h.heard_arrive hT hg hto hread hroom haid hgid hsd hstays.here h₁
      | event j e =>
        -- a later event
        have hlater : k ≠ N.origins.length := Nat.ne_of_lt h.past
        have hother : N.causeOf (.event j e) ≠ some k := fun heq => hlater (Option.some.inj heq).symm
        rw [if_neg hother, Nat.zero_add, ← count_taken, ← count_taken,
          flood_event_other hT h.sound h₁ hlater]
    have hstamps : N.StampsRead k (s.accountOf g).accountID (s.groupHeap g).ID e := by
      cases e with
      | event => trivial
      | arrive => exact fun w _ _ => hroom.reads (h.proto w.dst)
    have hrest := ih (h.act hT hids hg hto hread hstamps h₁) (hstays.tail h₁) h₂
    rw [heard_cons h₁]
    omega

end

/-! ### The sender's own server -/

section

variable {ws : SocketId} {login : LoginRequest} {fs : List (String × Json)} {message : Bytes}
  {isBinary : Bool} {a : Addressing} {g : GroupId} {role l : String}

/-- The event itself sends the frame to the units of the server, and delivers no copy. -/
theorem heard_event (hT : T.IsForest) (hN : N.Sound T J)
    (hsend : (N.peers o).chat.Broadcasts J ws message isBinary login fs g)
    (hactor : login.actorType = some (.str role))
    (hrole : role = Const.actorGCS ∨ role = Const.actorDrone)
    (hto : AddressedTo (.obj fs) a) (hread : Readable (.obj fs) a) (hother : unit.senderID ≠ login.senderID)
    (hu : i = o → (N.peers o).chat.Stands g l u unit)
    (hact : act T J crypto isAlphanumeric N (.event o (.message ws message isBinary)) = some N') :
    Server.receipts u (N.peers i).chat (N'.peers i).chat =
        (if i = o ∧ unit.Hears (a.audience role) then 1 else 0) ∧
      N'.deliveries.count (i, some k) = N.deliveries.count (i, some k) := by
  obtain ⟨he, p, hp, rfl⟩ := act_event hact
  obtain ⟨-, hstep, ⟨down, up, hputs⟩, -⟩ := onEvent_outcome (i := o) hT (hN.consistent o)
    (hN.properIds o) he hp
  have hreceipts : Server.receipts u (N.peers i).chat
      ((N.record T o p (some N.origins.length) [o]).peers i).chat =
        if o = i then Server.receipts u (N.peers i).chat p.chat else 0 := receipts_record u i
  have hcount : (N.record T o p (some N.origins.length) [o]).deliveries.count (i, some k) =
      (if some N.origins.length = some k ∧ o = i then 0 else 0) + N.deliveries.count (i, some k) :=
    count_record hputs i
  refine ⟨hreceipts.trans ?_, hcount.trans (by rw [ite_self, Nat.zero_add])⟩
  by_cases hi : o = i
  · subst hi
    have hwaits : ((N.peers o).chat.sockets ws).authFrameHandler = false := by
      rw [Bool.eq_false_iff]
      intro htrue
      have hnone := (hN.consistent o).waiting ws htrue
      exact absurd (hsend.speaks.loginRequest.symm.trans hnone) (by simp)
    have hfinal : p.chat = (Server.parseMessage J ws message isBinary).final (N.peers o).chat := by
      rcases Server.step_eq_some hstep with ⟨-, heq⟩ | ⟨hdisabled, -⟩
      · rw [heq, Server.messageEvent_parts, hwaits, hsend.listening]
        rfl
      · rw [hsend.enabled] at hdisabled
        exact absurd hdisabled (by simp)
    rw [if_pos rfl, hfinal, hsend.speaks.receipts_parseMessage (hu rfl) hother hsend.parsed hactor hrole
      hto hread]
    simp
  · rw [if_neg hi, if_neg fun hboth => hi hboth.1.symm]

theorem once_iff (c : Prop) [Decidable c] :
    (if c then 1 else 0) ≤ 1 ∧ ((if c then 1 else 0) = 1 ↔ c) := by
  by_cases hc : c
  · simp [hc]
  · simp [hc]

/-- A unit other than the sender that stays in the sender's room, and whose id is not the frame's `sd`,
    hears a broadcast once, if the frame gets along the path to its server and it is in the audience,
    and else not at all: on the server of the sender the audience is the one that its routing
    has for the sender's role, on the others the one that the frame names. This holds in every run that
    spares the prototypes. -/
theorem heard_exactly_once {N₀ N₁ N₂ : Net ι PrivateKey PublicKey} {es es' : List (NetEvent ι)}
    {c : AccountId} (hT : T.IsForest) (hN : N₀.Starts T) (hids : Function.Injective N₀.originID)
    (h₀ : run T J crypto isAlphanumeric N₀ es = some N)
    (h₁ : act T J crypto isAlphanumeric N (.event o (.message ws message isBinary)) = some N₁)
    (h₂ : run T J crypto isAlphanumeric N₁ es' = some N₂) (_ : N₂.SparesPrototypes)
    (hsend : (N.peers o).chat.Broadcasts J ws message isBinary login fs g)
    (hactor : login.actorType = some (.str role))
    (hrole : role = Const.actorGCS ∨ role = Const.actorDrone) (hto : AddressedTo (.obj fs) a)
    (hplain : (N.peers o).chat.PlainRoom g) (hroom : (N.peers o).chat.Hosts ka kg c g)
    (hstays : Stays T J crypto isAlphanumeric i u unit ka kg N
      (.event o (.message ws message isBinary) :: es'))
    (hother : unit.senderID ≠ login.senderID)
    (hsd : (Json.obj fs).field Const.wsSenderID ≠ unit.senderID)
    (hquiet : ∀ w ∈ N₂.wires, w.cause ≠ some N.origins.length) :
    heard T J crypto isAlphanumeric i u N.origins.length N
        (.event o (.message ws message isBinary) :: es') ≤ 1 ∧
      (heard T J crypto isAlphanumeric i u N.origins.length N
          (.event o (.message ws message isBinary) :: es') = 1 ↔
        Clear T N₀.originID fs message o i ∧
          unit.Hears (if i = o then a.audience role else a.relayedAudience)) := by
  obtain ⟨hsound, hfloods⟩ := run_sound hT (hN.sound (J := J)) hN.floods h₀
  have hsame : N.originID = N₀.originID :=
    funext fun j => (run_goesOn hT (hN.sound (J := J)) h₀ j).serverOriginID
  have hread : Readable (.obj fs) a := by
    by_contra hnot
    obtain ⟨_, hroute⟩ := hsend.routed
    obtain ⟨e, he⟩ := hto.unreadable hnot login.actorType
    exact absurd (he.symm.trans hroute) (by simp)
  have hs := hsound.consistent o
  have hgid : propKey ((N.peers o).chat.groupHeap g).ID = .ok kg := hs.group_key c kg g hroom.group
  have haid : propKey ((N.peers o).chat.accountOf g).accountID = .ok ka := by
    rw [Server.accountOf, hs.group_parent c kg g hroom.group]
    exact hs.account_key ka c hroom.account
  -- the unit is in the very room of the sender where it is on its server
  obtain ⟨l, c', g', hstands, hhosts⟩ := hstays.here
  have hu : i = o → (N.peers o).chat.Stands g l u unit := by
    rintro rfl
    obtain rfl := Option.some.inj (hhosts.account.symm.trans hroom.account)
    obtain rfl := Option.some.inj (hhosts.group.symm.trans hroom.group)
    exact hstands
  obtain ⟨hfirst, hnone⟩ := heard_event (k := N.origins.length) hT hsound hsend hactor hrole
    hto hread hother hu h₁
  have hzero : N.deliveries.count (i, some N.origins.length) = 0 := by
    rw [← count_taken, hfloods.past _ (Nat.le_refl _)]
    rfl
  have hcount := (carries_plain hT hN hids h₀ h₁ h₂ hsend hplain).count_deliveries hT hquiet i
  rw [← hsame] at hids hcount ⊢
  have hcarries := carries_event hT hsound hfloods (run_proto hT hN h₀) hsend h₁
  have hrest := hcarries.heard_run hT hids hsend.speaks.group hto hread hplain haid hgid hsd
    (hstays.tail h₁) h₂
  rw [hnone, hzero, Nat.zero_mul, Nat.add_zero] at hrest
  have hcause : N.causeOf (.event o (.message ws message isBinary)) = some N.origins.length := rfl
  rw [heard_cons h₁, if_pos hcause, hfirst, hrest]
  by_cases hi : i = o
  · subst hi
    have hclear : Clear T N.originID fs message i i := ⟨.nil, .nil, by simp, Or.inr (by simp)⟩
    rw [hcount.2 fun h => h.1 rfl, Nat.zero_mul, Nat.add_zero, if_pos rfl, and_iff_right hclear,
      if_congr (and_iff_right rfl) rfl rfl]
    exact once_iff _
  · rw [if_neg fun hboth => hi hboth.1, if_neg hi, Nat.zero_add]
    by_cases hclear : Clear T N.originID fs message o i
    · rw [hcount.1 ⟨hi, hclear⟩, Nat.one_mul, and_iff_right hclear]
      exact once_iff _
    · rw [hcount.2 fun h => hclear h.2, Nat.zero_mul]
      exact ⟨Nat.zero_le 1, iff_of_false Nat.zero_ne_one fun h => hclear h.1⟩

end

/-- A unit logs in at a child of the star, and another one at `i`. -/
def joinedAt (i : Fin 3) : List (NetEvent (Fin 3)) :=
  starJoined ++ [.event i (Server.announceUnit "k2"), .event i (.connect "/?f=k2&s=other" "peer")]

/-- A unit at `i` names the other child in a frame. -/
def namingFrame (i : Fin 3) : List (NetEvent (Fin 3)) :=
  [.event i (.message 0 (Server.broadcastFrame namingFields) false), .arrive 0, .arrive 0]

/-- The unit at the root hears the frame once. -/
theorem heard_exactly_once_rootUnit : ∃ N,
    run Topology.star Text.codec Crypto.sealing Server.isAsciiAlphanumeric star (joinedAt 0) = some N ∧
    heard Topology.star Text.codec Crypto.sealing Server.isAsciiAlphanumeric 0 0 N.origins.length N
      (namingFrame 1) = 1 := by
  -- the unit at the root and its room, wherever the run has got to
  have hunit : ∀ n : Fin 4, (run Topology.star Text.codec Crypto.sealing Server.isAsciiAlphanumeric
      star (joinedAt 0 ++ (namingFrame 1).take n)).map (fun N =>
        (((N.peers 0).chat.sockets 0).loginRequest,
          ((N.peers 0).chat.groupHeap 0).units.own? "other")) =
      some (some (Server.announcedDrone "other"), some 0) := by decide +kernel
  have hroot : ∀ n : Fin 4, (run Topology.star Text.codec Crypto.sealing Server.isAsciiAlphanumeric
      star (joinedAt 0 ++ (namingFrame 1).take n)).map (fun N =>
        ((N.peers 0).chat.accounts.own? "acc",
          ((N.peers 0).chat.accountHeap 0).groups.own? "1")) = some (some 0, some 0) := by
    decide +kernel
  have hchild : (run Topology.star Text.codec Crypto.sealing Server.isAsciiAlphanumeric star
      (joinedAt 0)).map (fun N => (((N.peers 1).chat.sockets 0).loginRequest,
        ((N.peers 1).chat.sockets 0).hasStatus, ((N.peers 1).chat.sockets 0).group,
        (N.peers 1).chat.accounts.own? "acc", ((N.peers 1).chat.accountHeap 0).groups.own? "1")) =
      some (some (Server.announcedDrone "drone"), true, some 0, some 0, some 0) := by decide +kernel
  have hbefore : (run Topology.star Text.codec Crypto.sealing Server.isAsciiAlphanumeric star
      (joinedAt 0)).map (fun N => ((N.peers 1).chat.enabled
        (.message 0 (Server.broadcastFrame namingFields) false),
        ((N.peers 1).chat.sockets 0).listening, ((N.peers 1).chat.accountOf 0).accountID,
        ((N.peers 1).chat.groupHeap 0).ID)) =
      some (true, true, some (.str "acc"), some (.str "1")) := by decide +kernel
  have hafter : ((run Topology.star Text.codec Crypto.sealing Server.isAsciiAlphanumeric star
      (joinedAt 0 ++ namingFrame 1)).map fun N => (N.wires.length,
        decide N.SparesPrototypes)) = some (0, true) := by decide +kernel
  obtain ⟨N₂, h₂, hends⟩ := Option.map_eq_some_iff.mp hafter
  obtain ⟨hlen, hspares⟩ := Prod.mk.inj hends
  obtain ⟨N, h₀, hf⟩ := Option.map_eq_some_iff.mp hbefore
  rw [h₀] at hchild
  simp only [Option.map_some, Option.some.injEq, Prod.mk.injEq] at hf hchild
  obtain ⟨henabled, hlistening, haid, hgid⟩ := hf
  obtain ⟨hlogin, hstatus, hgroup, haccount, hrow⟩ := hchild
  have hstays : Stays Topology.star Text.codec Crypto.sealing Server.isAsciiAlphanumeric 0 0
      (Server.announcedDrone "other") "acc" "1" N (namingFrame 1) := by
    intro n N' hrun
    have htake : (namingFrame 1).take n = (namingFrame 1).take (min n 3) :=
      List.take_take (l := namingFrame 1) ▸ rfl
    rw [htake, ← run_append h₀] at hrun
    have hlisted := hunit ⟨min n 3, by omega⟩
    have hrows := hroot ⟨min n 3, by omega⟩
    rw [hrun] at hlisted hrows
    obtain ⟨hl, hu⟩ := Prod.mk.inj (Option.some.inj hlisted)
    obtain ⟨ha, hg⟩ := Prod.mk.inj (Option.some.inj hrows)
    have hsound := (run_sound Topology.isForest_star (starts_star.sound (J := Text.codec))
      starts_star.floods hrun).1
    exact ⟨"other", 0, 0, ⟨hsound.consistent 0, hu, hl⟩, ha, hg⟩
  rw [run_append h₀] at h₂
  obtain ⟨N₁, h₁, hlast⟩ := run_cons.mp h₂
  have hplain : (N.peers 1).chat.PlainRoom 0 := by
    refine ⟨?_, ?_⟩
    · rw [haid]
      exact ⟨"acc", rfl, by decide⟩
    · rw [hgid]
      exact ⟨"1", rfl, by decide⟩
  have hsend : (N.peers 1).chat.Broadcasts Text.codec 0 (Server.broadcastFrame namingFields) false
      (Server.announcedDrone "drone") (("ty", .str "g") :: namingFields) 0 :=
    ⟨henabled, hlistening, by decide +kernel, ⟨_, rfl⟩, hlogin, hstatus, hgroup⟩
  have hadj : Topology.star.graph.Adj 1 0 := Topology.isForest_star.adj_iff.mpr (Or.inl rfl)
  refine ⟨N, h₀, (heard_exactly_once Topology.isForest_star starts_star originID_star_injective h₀ h₁
    hlast (of_decide_eq_true hspares) hsend rfl (Or.inr rfl) (.group rfl) hplain ⟨haccount, hrow⟩ hstays
    (by decide) (by decide) (ne_of_wires_nil hlen _)).2.mpr ⟨⟨.cons hadj .nil, .cons .nil (by simp), fun j hj => ?_,
      Or.inl (Or.inl rfl)⟩, Or.inl rfl⟩⟩
  obtain rfl : j = 0 := by simpa using hj
  rfl

end Net

end DroneEngage
