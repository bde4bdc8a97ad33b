import DroneEngage.RelayAgreement
import DroneEngage.RelaySafety

/-! Exactly once, over a tree of servers.

    A broadcast gets to every server of the tree but for what its client has written into it. A server
    that the client names in `_path` drops the frame as one that it has relayed, and so cuts off the
    servers behind it. A field `s2s_auth` in a text makes an envelope of it, which only the parent of a
    server takes for a frame. The stamps of the room have to be keys that no object inherits, or else
    the local delivery throws and the frame goes no further. So would it, once a prototype has been
    written to; runs are without. -/

namespace DroneEngage
open Js

namespace Server

open Action

/-! ### A delivery that does not throw -/

/-- A value that names no inherited property. -/
def PlainKey (proto : List String) (v : Val) : Prop := ∃ k, propKey v = .ok k ∧ k ∉ proto

section

variable {s : Server} {message : Bytes} {isBinary : Bool} {senderID : SenderRef}
  {actorType : Option String}

/-- The account and the group under these ids are found in the tables or not at all, and no inherited
    property is. -/
def Reads (s : Server) (aid gid : Val) : Prop :=
  s.accounts.index s.proto aid = .ok .absent ∨
    ∃ a, s.accounts.index s.proto aid = .ok (.own a) ∧
      ((s.accountHeap a).groups.index s.proto gid = .ok .absent ∨
        ∃ g, (s.accountHeap a).groups.index s.proto gid = .ok (.own g))

theorem PlainKey.index {α : Type} {proto : List String} {v : Val} (h : PlainKey proto v)
    (t : Table α) : t.index proto v = .ok .absent ∨ ∃ a, t.index proto v = .ok (.own a) := by
  obtain ⟨k, hk, hnot⟩ := h
  have hindex : t.index proto v = .ok (t.get proto k) := by rw [Table.index, hk]; rfl
  cases hslot : t.get proto k with
  | own a => exact Or.inr ⟨a, hindex.trans (by rw [hslot])⟩
  | absent => exact Or.inl (hindex.trans (by rw [hslot]))
  | inherited => exact absurd (Table.get_eq_inherited_iff.mp hslot).2 hnot

theorem not_escapes_broadcast (g : GroupId) :
    ¬ (broadcast g message isBinary senderID actorType).Escapes s :=
  not_escapes_forEach _ (round_goes g message isBinary senderID actorType)

theorem not_escapes_broadcastEverywhere :
    ¬ (broadcastEverywhere message isBinary senderID actorType).Escapes s :=
  not_escapes_forEach _ (everyRound_goes message isBinary senderID actorType)

theorem reads_of_plain {aid gid : Val} (haid : PlainKey s.proto aid) (hgid : PlainKey s.proto gid) :
    s.Reads aid gid := by
  rcases haid.index s.accounts with ha | ⟨a, ha⟩
  · exact Or.inl ha
  · exact Or.inr ⟨a, ha, hgid.index _⟩

theorem not_escapes_sendToAccountGroup {aid gid : Val} (hreads : s.Reads aid gid) :
    ¬ (sendToAccountGroup message isBinary senderID aid gid actorType).Escapes s := by
  rintro ⟨e, he⟩
  rw [sendToAccountGroup, run_bind_get] at he
  rcases hreads with ha | ⟨a, ha, hg | ⟨g, hg⟩⟩
  · rw [ha] at he
    exact absurd he (by simp)
  · rw [ha, run_bind_ok] at he
    simp only [hg] at he
    exact absurd he (by simp)
  · rw [ha, run_bind_ok] at he
    simp only [hg, run_bind_ok] at he
    rw [run_bind_of_ok (run_of_not_escapes (not_escapes_broadcast g))] at he
    exact absurd he (by simp)

/-- The delivery of a broadcast does not throw where no inherited property is found. -/
theorem not_escapes_deliver {jmsg : Json} {v : Val}
    (hreads : s.Reads (jmsg.field "_aid") (jmsg.field "_gid")) :
    ¬ (deliverExternalBroadcast message isBinary v jmsg actorType).Escapes s := by
  have hfallback : ∀ t : Server, ¬ (fallbackDelivery actorType message isBinary v).Escapes t := by
    intro t
    rw [fallbackDelivery]
    split
    · exact not_escapes_broadcastEverywhere
    · split
      · exact not_escapes_broadcastEverywhere
      · exact not_escapes_broadcastEverywhere
  refine not_escapes_bind (not_escapes_modify _ s) fun _ _ => ?_
  dsimp only
  split
  · refine not_escapes_bind (not_escapes_sendToAccountGroup hreads) fun b _ => ?_
    split
    · exact not_escapes_pure () _
    · exact hfallback _
  · exact hfallback _

/-- A broadcast that has not been here is delivered and passed on. -/
theorem puts_fresh {J : JsonCodec} {m : Bytes} {fs : List (String × Json)}
    {source : Option LinkId} (hparse : J.parse (header m) = some (.obj fs))
    (hnew : alreadyRelayed s.serverOriginID (.obj fs) = false)
    (hroute : externalRoute (.obj fs) = .ok (.broadcast actorType))
    (hreads : s.Reads ((Json.obj fs).field "_aid") ((Json.obj fs).field "_gid")) :
    s.Puts 1 (s.downs (s.passedOn J m true) true source) (s.ups (s.passedOn J m true) true)
      ((parseExternalMessage J m true source).final s) := by
  rw [parseExternalMessage_final J (by rw [if_pos rfl]; exact hparse) (by simp) hnew hroute]
  rcases puts_broadcast (J := J) m true source actorType (.obj fs) s with ⟨hesc, -⟩ | h
  · exact absurd hesc (not_escapes_deliver hreads)
  · exact h

end

/-! ### Copies -/

/-- A copy of a client's frame that has passed these servers. -/
def IsCopy (J : JsonCodec) (s : Server) (ws : SocketId) (login : LoginRequest)
    (fs : List (String × Json)) (message : Bytes) (trail : List String) (m : Bytes) : Prop :=
  ∃ v, CopyOf s ws login (.obj fs) trail v ∧ v.Proper J.isNumber ∧
    m = J.stringify v ++ payload message

section

variable {J : JsonCodec} {s t : Server} {ws : SocketId} {login : LoginRequest}
  {fs : List (String × Json)} {message m : Bytes} {trail : List String}

theorem IsCopy.parse (h : IsCopy J s ws login fs message trail m) :
    ∃ gs, J.parse (header m) = some (.obj gs) ∧ CopyOf s ws login (.obj fs) trail (.obj gs) ∧
      (Json.obj gs).Proper J.isNumber ∧ m = J.stringify (.obj gs) ++ payload message := by
  obtain ⟨v, hcopy, hproper, rfl⟩ := h
  obtain ⟨gs, rfl⟩ := hcopy.isObj
  exact ⟨gs, parse_printed hproper message, hcopy, hproper, rfl⟩

/-- The copy of a copy. -/
theorem IsCopy.passedOn (h : IsCopy J s ws login fs message trail m) (t : Server) :
    IsCopy J s ws login fs message (trail ++ [t.serverOriginID]) (t.passedOn J m true) := by
  obtain ⟨gs, hparse, hcopy, hproper, rfl⟩ := h.parse
  refine ⟨_, hcopy.appendPath t.serverOriginID, proper_appendPath t.serverOriginID hproper, ?_⟩
  rw [Server.passedOn, rewriteMessage, if_pos rfl, hparse]
  simp only [Json.isObject, if_true, payload_of_zero_notMem (J.zero_notMem_stringify _)]

/-- The copy that leaves the first server. -/
theorem ForwardedAs.isCopy {isBinary : Bool} {frame : Bytes} (hp : s.ProperIds J)
    (hl : (s.sockets ws).loginRequest = some login)
    (hv : J.parse (if isBinary then header message else message) = some (.obj fs))
    (h : s.ForwardedAs J ws message isBinary frame) :
    IsCopy J s ws login fs message [s.serverOriginID] frame := by
  obtain ⟨login', fs', hl', hv', rfl⟩ := h
  obtain rfl := Option.some.inj (hl.symm.trans hl')
  obtain rfl := Json.obj.inj (Option.some.inj (hv.symm.trans hv'))
  refine ⟨_, copyOf_first s ws login fs s.serverOriginID, proper_stampGroup hp _
    (proper_appendPath s.serverOriginID
      ((J.parse_proper _ _ hv).setField "p" (hp.login ws login hl).prm)),
    ?_⟩
  cases isBinary with
  | true => rfl
  | false =>
    rw [payload_eq_nil (J.zero_notMem_of_parse message _ hv)]
    rfl

/-- The stamps of the room name nothing that an object inherits. -/
structure PlainRoom (s : Server) (g : GroupId) : Prop where
  account : PlainKey objectPrototype (s.accountOf g).accountID
  group : PlainKey objectPrototype (s.groupHeap g).ID

theorem PlainRoom.reads {g : GroupId} (h : s.PlainRoom g) (hproto : t.proto = objectPrototype) :
    t.Reads (s.accountOf g).accountID (s.groupHeap g).ID := by
  refine reads_of_plain ?_ ?_
  · rw [hproto]
    exact h.account
  · rw [hproto]
    exact h.group

/-- No server takes the frame for an envelope. -/
def Traffic (fs : List (String × Json)) (message : Bytes) : Prop :=
  isNullish ((Json.obj fs).field "s2s_auth") = true ∨ 0 ∈ message

/-- A copy names the servers that the client named and those that it has passed. -/
theorem alreadyRelayed_copy {v v' : Json} (h : CopyOf s ws login v trail v') (id : String) :
    alreadyRelayed id v' = false ↔ alreadyRelayed id v = false ∧ id ∉ trail := by
  rw [alreadyRelayed, alreadyRelayed, h.trail]
  change (trailOf v ++ trail.map Json.str).contains _ = false ↔
    (trailOf v).contains _ = false ∧ id ∉ trail
  rw [List.contains_append, Bool.or_eq_false_iff]
  refine and_congr_right fun _ => ?_
  simp

/-- A copy is an envelope if the frame is. -/
theorem IsCopy.parseEnvelope_iff (h : IsCopy J s ws login fs message trail m) :
    S2sAuth.parseEnvelope J m false = none ↔ Traffic fs message := by
  obtain ⟨gs, -, hcopy, hproper, hm⟩ := h.parse
  rw [hm]
  exact hcopy.parseEnvelope_iff hproper message false

/-- A server that a copy does not name delivers it and passes it on. -/
theorem IsCopy.taken {a : Addressing} {g : GroupId}
    (h : IsCopy J s ws login fs message trail m) (hto : AddressedTo (.obj fs) a)
    (hread : Readable (.obj fs) a) (hg : (s.sockets ws).group = some g)
    (hreads : t.Reads (s.accountOf g).accountID (s.groupHeap g).ID)
    (hfree : alreadyRelayed t.serverOriginID (.obj fs) = false) (hnew : t.serverOriginID ∉ trail)
    (source : Option LinkId) :
    t.Puts 1 (t.downs (t.passedOn J m true) true source) (t.ups (t.passedOn J m true) true)
      ((parseExternalMessage J m true source).final t) := by
  obtain ⟨gs, hparse, hcopy, -, -⟩ := h.parse
  have hsame : ∀ k, k ≠ "p" → k ≠ "_path" → k ≠ "_aid" → k ≠ "_gid" →
      (Json.obj gs).field k = (Json.obj fs).field k := fun k hp hpath haid hgid =>
    hcopy.others k hp hpath fun _ => ⟨haid, hgid⟩
  have hto' : AddressedTo (.obj gs) a := hto.congr
    (hsame _ (by decide) (by decide) (by decide) (by decide))
    (hsame _ (by decide) (by decide) (by decide) (by decide))
  have hread' : Readable (.obj gs) a := by
    refine hread.imp id fun hown => ?_
    rw [Json.owns, hsame _ (by decide) (by decide) (by decide) (by decide)]
    exact hown
  obtain ⟨haid, hgid⟩ := hcopy.stamps g hg
  refine puts_fresh hparse ((alreadyRelayed_copy hcopy _).mpr ⟨hfree, hnew⟩)
    (hto'.externalRoute_eq hread') ?_
  rw [haid, hgid]
  exact hreads

/-- A server that a copy names, or that it has passed, drops it. -/
theorem IsCopy.dropped (h : IsCopy J s ws login fs message trail m)
    (hseen : ¬ (alreadyRelayed t.serverOriginID (.obj fs) = false ∧ t.serverOriginID ∉ trail))
    (source : Option LinkId) : (parseExternalMessage J m true source).final t = t := by
  obtain ⟨gs, hparse, hcopy, -, -⟩ := h.parse
  rw [← alreadyRelayed_copy hcopy, Bool.not_eq_false] at hseen
  exact parseExternalMessage_dropped (by rw [if_pos rfl]; exact hparse) (Or.inl hseen)

/-- A unit in a room sends a frame that its server routes as a broadcast. -/
structure Broadcasts (J : JsonCodec) (s : Server) (ws : SocketId) (message : Bytes)
    (isBinary : Bool) (login : LoginRequest) (fs : List (String × Json)) (g : GroupId) : Prop where
  enabled : s.enabled (.message ws message isBinary) = true
  listening : (s.sockets ws).listening = true
  parsed : J.parse (if isBinary then header message else message) = some (.obj fs)
  routed : ∃ actorType, localRoute login.actorType (.obj fs) = .ok (.broadcast actorType)
  speaks : s.Speaks ws login g

theorem Broadcasts.addressed {isBinary : Bool} {g : GroupId}
    (h : s.Broadcasts J ws message isBinary login fs g) :
    ∃ a, AddressedTo (.obj fs) a ∧ Readable (.obj fs) a := by
  obtain ⟨_, hroute⟩ := h.routed
  exact exists_addressedTo hroute

/-- Such a frame is forwarded. -/
theorem Broadcasts.puts {isBinary : Bool} {g : GroupId}
    (h : s.Broadcasts J ws message isBinary login fs g) (isAlphanumeric : String → Bool)
    (hs : s.Consistent)
    (hp : s.ProperIds J) : ∃ frame, s.ForwardedAs J ws message isBinary frame ∧
      s.Puts 0 (s.downs frame isBinary none) (s.ups frame isBinary)
        ((handle J isAlphanumeric (.message ws message isBinary)).final s) := by
  obtain ⟨_, hroute⟩ := h.routed
  rcases puts_parseMessage hs hp ws message isBinary with
    ⟨l, hl, hcount, hdown, hup⟩ | ⟨frame, hframe, hputs⟩
  · -- a frame that stays here: the relay is switched off
    obtain ⟨frame, hframe⟩ := h.speaks.relays hp h.parsed hroute
    rw [hl, List.drop_left] at hframe
    have hoff : s.config.enable_super_server = false := by
      by_contra hon
      have hmem := hframe _ (Or.inl ⟨Bool.not_eq_false _ ▸ hon, rfl⟩)
      exact absurd (List.filterMap_eq_nil_iff.mp hdown _ hmem) (by simp [Effect.toChildren?])
    have hoff' : s.config.enable_persistant_relay = false := by
      by_contra hon
      have hmem := hframe _ (Or.inr ⟨Bool.not_eq_false _ ▸ hon, rfl⟩)
      exact absurd (List.filterMap_eq_nil_iff.mp hup _ hmem) (by simp [Effect.toParent?])
    refine ⟨_, ⟨login, fs, h.speaks.loginRequest, h.parsed, rfl⟩,
      puts_messageEvent h.listening ⟨l, hl, hcount, ?_, ?_⟩⟩
    · rw [hdown, downs, hoff]; rfl
    · rw [hup, ups, hoff']; rfl
  · exact ⟨frame, hframe, puts_messageEvent h.listening hputs⟩

end

end Server

/-! ### The network -/

namespace Net

section

variable {ι PrivateKey PublicKey : Type} [DecidableEq ι] {T : Topology ι} {J : JsonCodec}
  {crypto : Crypto PrivateKey PublicKey} {isAlphanumeric : String → Bool}
  {N N' : Net ι PrivateKey PublicKey} {i : ι} {w : Wire ι} {k n : ℕ}

/-- A message of a child, and one of the parent that is no envelope, is handed to the chat server. -/
theorem receive_frame (hT : T.IsForest) (hN : N.Sound T J) (hw : w.OnTree T)
    (hframe : w.up = true ∨ S2sAuth.parseEnvelope J w.message false = none) :
    (N.receive T J crypto w).chat = (Server.parseExternalMessage J w.message true
      (sourceOf T w)).final (N.peers w.dst).chat := by
  rw [receive, sourceOf]
  cases hup : w.up with
  | true =>
    rw [if_pos rfl, if_pos rfl]
    obtain ⟨-, hauthed⟩ := (hN.linked w.dst).children w.src (hw.up hup)
    exact (onChildMessage_arrival (i := w.dst) crypto hT hauthed).2.2
  | false =>
    rw [if_neg Bool.false_ne_true, if_neg Bool.false_ne_true]
    have htraffic := hframe.resolve_left (by rw [hup]; simp)
    exact (onParentMessage_arrival (i := w.dst) crypto hT htraffic).2.2

/-- An envelope of the parent is nothing to the chat server. -/
theorem receive_envelope (hup : w.up = false)
    (henv : S2sAuth.parseEnvelope J w.message false ≠ none) :
    (N.receive T J crypto w).chat = (N.peers w.dst).chat := by
  rw [receive, hup, if_neg Bool.false_ne_true]
  exact (onParentMessage_envelope (T := T) (i := w.dst) (p := N.peers w.dst) crypto henv).2.2

/-- What a server passes on goes to all its neighbours but the one it came from. -/
theorem passesOn_of_puts (hT : T.IsForest) (hN : N.Sound T J) (hw : w.OnTree T)
    (h : (N.peers w.dst).chat.Puts 1
      ((N.peers w.dst).chat.downs ((N.peers w.dst).chat.passedOn J w.message true) true
        (sourceOf T w))
      ((N.peers w.dst).chat.ups ((N.peers w.dst).chat.passedOn J w.message true) true)
      (N.receive T J crypto w).chat) : PassesOn T J crypto N w := by
  refine ⟨⟨_, _, h⟩, fun cause trail => ?_⟩
  have houtcome := (receive_arrival crypto hT hN hw).1
  cases houtcome with
  | ignored hq => exact absurd hq (not_homeOnly h)
  | taken _ _ _ hout =>
    rcases hout with ⟨hputs, hout⟩ | ⟨-, hout⟩
    · -- nothing was handed to the modules: the relay is switched off
      obtain ⟨-, hdown, hup⟩ := h.unique hputs
      have hoff : (N.peers w.dst).chat.config.enable_super_server = false := by
        by_contra hon
        rw [Server.downs, if_pos (Bool.not_eq_false _ ▸ hon)] at hdown
        exact absurd hdown (by simp)
      have hoff' : (N.peers w.dst).chat.config.enable_persistant_relay = false := by
        by_contra hon
        rw [Server.ups, if_pos (Bool.not_eq_false _ ▸ hon)] at hup
        exact absurd hup (by simp)
      rw [hout, Topology.targets, hoff, hoff']
      rfl
    · exact hout cause trail

/-! ### A frame on its way -/

/-- What every event of the network keeps of every server. -/
theorem act_goesOn (hT : T.IsForest) (hN : N.Sound T J) {e : NetEvent ι}
    (h : act T J crypto isAlphanumeric N e = some N') (j : ι) :
    GoesOn J (N.peers j).chat (N'.peers j).chat := by
  have hupdate : ∀ {i p}, GoesOn J (N.peers i).chat p.chat →
      GoesOn J (N.peers j).chat (Function.update N.peers i p j).chat := by
    intro i p hgo
    by_cases hj : j = i
    · subst hj; rw [Function.update_self]; exact hgo
    · rw [Function.update_of_ne hj]; exact goesOn_refl (hN.consistent j) (hN.properIds j)
  cases e with
  | event i e =>
    obtain ⟨he, p, hp, rfl⟩ := act_event h
    obtain ⟨-, hstep, -⟩ := onEvent_outcome (i := i) hT (hN.consistent i) (hN.properIds i) he hp
    exact hupdate (goesOn_step (hN.consistent i) (hN.properIds i) hstep)
  | arrive n =>
    obtain ⟨w, hw, rfl⟩ := act_arrive h
    exact hupdate (receive_goesOn hT hN (hN.onTree w (List.mem_of_getElem? hw)))

/-- The client has not written the name of the server into `_path`. -/
def Unnamed (ids : ι → String) (fs : List (String × Json)) (i : ι) : Prop :=
  Server.alreadyRelayed (ids i) (.obj fs) = false

/-- Where a message of the event with this number arrives next, no inherited property is found under
    these ids. -/
def StampsRead (N : Net ι PrivateKey PublicKey) (k : ℕ) (aid gid : Val) : NetEvent ι → Prop
  | .event .. => True
  | .arrive n => ∀ w, N.wires[n]? = some w → w.cause = some k →
      (N.peers w.dst).chat.Reads aid gid

/-- The server takes the frame when it comes: the client has not named it, and it is the parent of the
    server before it unless no server takes the frame for an envelope. -/
def Admits (T : Topology ι) (ids : ι → String) (fs : List (String × Json)) (message : Bytes) (o v : ι) :
    Prop :=
  Unnamed ids fs v ∧ (Server.Traffic fs message ∨
    ∀ u, TreeFlood.Leads T.graph o u v → T.parentOf u = some v)

/-- The frame of the unit is under way from server `o`; its event was the one with this number. -/
structure Carries (T : Topology ι) (J : JsonCodec) (s : Server) (ws : SocketId)
    (login : LoginRequest) (fs : List (String × Json)) (message : Bytes) (ids : ι → String) (k : ℕ)
    (o : ι) (N : Net ι PrivateKey PublicKey) : Prop where
  sound : N.Sound T J
  named : ∀ i, N.originID i = ids i
  proto : ∀ i, (N.peers i).chat.proto = objectPrototype
  past : k < N.origins.length
  copies : ∀ w ∈ N.wires, w.cause = some k →
    Server.IsCopy J s ws login fs message (w.trail.map ids) w.message
  inv : TreeFlood.Inv T.graph o (fun _ v => Admits T ids fs message o v)
    (fun v => v = o ∨ Admits T ids fs message o v) (N.flood k)
  admits : ∀ v, (v, some k) ∈ N.deliveries → Admits T ids fs message o v

section

variable {s : Server} {ws : SocketId} {login : LoginRequest} {fs : List (String × Json)}
  {message : Bytes} {ids : ι → String} {a : Addressing} {g : GroupId} {o : ι}

/-- A message on its way has come from the server that leads to where it goes. -/
theorem Carries.leads (h : N.Carries T J s ws login fs message ids k o) (hw : w ∈ N.wires)
    (hcause : w.cause = some k) (hnew : w.dst ∉ w.trail) : TreeFlood.Leads T.graph o w.src w.dst := by
  have hmem : w.parcel ∈ (N.flood k).flight :=
    Multiset.mem_coe.mpr (List.mem_map_of_mem (List.mem_filter.mpr ⟨hw, decide_eq_true hcause⟩))
  exact (h.inv.underway _ hmem).leads hnew

/-- A server that admits the frame and that it has not passed passes it on. -/
theorem Carries.passesOn (h : N.Carries T J s ws login fs message ids k o) (hT : T.IsForest)
    (hids : Function.Injective ids) (hg : (s.sockets ws).group = some g)
    (hto : AddressedTo (.obj fs) a) (hread : Readable (.obj fs) a) (hw : w ∈ N.wires)
    (hreads : (N.peers w.dst).chat.Reads (s.accountOf g).accountID (s.groupHeap g).ID)
    (hcause : w.cause = some k) (hnew : w.dst ∉ w.trail)
    (hadmits : Admits T ids fs message o w.dst ∨ w.dst = o ∨ Admits T ids fs message o w.dst) :
    PassesOn T J crypto N w := by
  have hleads := h.leads hw hcause hnew
  obtain ⟨hunnamed, hway⟩ : Admits T ids fs message o w.dst :=
    hadmits.elim id fun h => h.resolve_left hleads.ne_origin
  have hid : (N.peers w.dst).chat.serverOriginID = ids w.dst := h.named w.dst
  have hnotin : (N.peers w.dst).chat.serverOriginID ∉ w.trail.map ids := by
    rw [hid, List.mem_map_of_injective hids]
    exact hnew
  have hcopy := h.copies w hw hcause
  have hon := h.sound.onTree w hw
  have hframe : w.up = true ∨ S2sAuth.parseEnvelope J w.message false = none := by
    refine hway.symm.imp (fun hparent => ?_) hcopy.parseEnvelope_iff.mpr
    rw [← Bool.not_eq_false]
    exact fun hdown => hT.not_parent (hparent _ hleads) (hon.down hdown)
  refine passesOn_of_puts hT h.sound hon ?_
  rw [receive_frame hT h.sound hon hframe]
  exact hcopy.taken hto hread hg hreads (by rw [hid]; exact hunnamed) hnotin (sourceOf T w)

/-- What leaves a server on which a copy has arrived is a copy. -/
theorem Carries.copies_arrive (h : N.Carries T J s ws login fs message ids k o) (hT : T.IsForest)
    (hact : act T J crypto isAlphanumeric N (.arrive n) = some N') : ∀ w ∈ N'.wires,
      w.cause = some k → Server.IsCopy J s ws login fs message (w.trail.map ids) w.message := by
  obtain ⟨w₀, hw₀, rfl⟩ := act_arrive hact
  have hmem := List.mem_of_getElem? hw₀
  intro w hw hcause
  rcases List.mem_append.mp hw with hw | hw
  · exact h.copies w (List.mem_of_mem_eraseIdx hw) hcause
  have houtcome := (receive_arrival crypto hT h.sound (h.sound.onTree w₀ hmem)).1
  by_cases hcause₀ : w₀.cause = some k
  · cases houtcome with
    | ignored _ hanswers =>
      rw [(hanswers _ _ w hw).cause] at hcause
      exact absurd hcause (by simp)
    | taken _ _ _ hout =>
      rcases hout with ⟨-, hout⟩ | ⟨-, hout⟩
      · have hnone : w ∈ ([] : List (Wire ι)) := hout _ _ ▸ hw
        exact absurd hnone List.not_mem_nil
      · have hsent := hout w₀.cause (w₀.trail ++ [w₀.dst]) ▸ hw
        obtain ⟨j, -, rfl⟩ := List.mem_map.mp hsent
        have hcopy := (h.copies w₀ hmem hcause₀).passedOn (N.peers w₀.dst).chat
        rw [Topology.wireTo, List.map_append, List.map_singleton, ← h.named w₀.dst]
        exact hcopy
  · exact absurd hcause (cause_of_arrival houtcome hcause₀ w hw)

/-- A server that delivers a copy admits the frame. -/
theorem Carries.admits_arrive (h : N.Carries T J s ws login fs message ids k o) (hT : T.IsForest)
    (hact : act T J crypto isAlphanumeric N (.arrive n) = some N') :
    ∀ v, (v, some k) ∈ N'.deliveries → Admits T ids fs message o v := by
  obtain ⟨w, hw, rfl⟩ := act_arrive hact
  have hmem := List.mem_of_getElem? hw
  have hon := h.sound.onTree w hmem
  intro v hv
  rcases List.mem_append.mp hv with hv | hv
  · obtain ⟨e, he, heq⟩ := List.mem_map.mp hv
    obtain ⟨rfl, hcause⟩ := Prod.mk.inj heq
    have hcopy := h.copies w hmem hcause
    have hdelivers : ¬ (N.peers w.dst).chat.HomeOnly (N.receive T J crypto w).chat := by
      rintro ⟨l, hl, hcount, -⟩
      dsimp only at he
      rw [hl, List.drop_left] at he
      exact absurd (List.mem_filter.mp he).2 (List.countP_eq_zero.mp hcount _ (List.mem_filter.mp he).1)
    cases (receive_arrival crypto hT h.sound hon).1 with
    | ignored hq => exact absurd hq hdelivers
    | taken hparse hnew =>
      obtain ⟨gs, hgs, hfields, -⟩ := hcopy.parse
      obtain rfl := Option.some.inj (hgs.symm.trans hparse)
      have hnotin := h.sound.notMem_trail hmem (by rw [hcause]; simp) hparse hnew
      refine ⟨?_, ?_⟩
      · rw [Unnamed, ← h.named]
        exact ((Server.alreadyRelayed_copy hfields _).mp hnew).1
      · by_cases htraffic : Server.Traffic fs message
        · exact Or.inl htraffic
        · -- an envelope is delivered by a parent only
          refine Or.inr fun u hu => ?_
          rw [hu.unique hT.isAcyclic (h.leads hmem hcause hnotin)]
          refine hon.up ?_
          rw [← Bool.not_eq_false]
          intro hdown
          have hsame : (N.receive T J crypto w).chat = (N.peers w.dst).chat :=
            receive_envelope hdown (mt hcopy.parseEnvelope_iff.mp htraffic)
          rw [hsame] at hdelivers
          exact hdelivers (Server.homeOnly_refl _)
  · exact h.admits v hv

/-- Every event of the network leaves the frame under way. -/
theorem Carries.act (h : N.Carries T J s ws login fs message ids k o) (hT : T.IsForest)
    (hids : Function.Injective ids) (hg : (s.sockets ws).group = some g)
    (hto : AddressedTo (.obj fs) a) (hread : Readable (.obj fs) a) {e : NetEvent ι}
    (hreads : N.StampsRead k (s.accountOf g).accountID (s.groupHeap g).ID e)
    (hact : act T J crypto isAlphanumeric N e = some N') :
    N'.Carries T J s ws login fs message ids k o := by
  have hgo := act_goesOn hT h.sound hact
  have hids' : ∀ i, N'.originID i = ids i := fun i => (hgo i).serverOriginID.trans (h.named i)
  have hproto : ∀ i, (N'.peers i).chat.proto = objectPrototype := fun i =>
    (hgo i).proto.trans (h.proto i)
  cases e with
  | event i e =>
    have hold := flood_event_other hT h.sound hact (Nat.ne_of_lt h.past)
    refine ⟨h.sound.act hT hact, hids', hproto, ?_, ?_, by rw [hold]; exact h.inv, fun v hv => ?_⟩
    · obtain ⟨-, p, -, rfl⟩ := act_event hact
      have hpast := h.past
      dsimp only
      rw [List.length_append, List.length_singleton]
      omega
    · obtain ⟨he, p, hp, rfl⟩ := act_event hact
      intro w hw hcause
      rcases List.mem_append.mp hw with hw | hw
      · exact h.copies w hw hcause
      · -- what the server sends comes from a later event
        obtain ⟨-, -, -, hout⟩ := onEvent_outcome (i := i) hT (h.sound.consistent i)
          (h.sound.properIds i) he hp
        rcases hout with hout | ⟨_, _, _, frame, -, -, hout⟩
        · rw [hout] at hw
          exact absurd hw List.not_mem_nil
        · rw [hout] at hw
          obtain ⟨j, -, rfl⟩ := List.mem_map.mp hw
          exact absurd (Option.some.inj hcause) (Nat.ne_of_gt h.past)
    · rw [← mem_taken, hold, mem_taken] at hv
      exact h.admits v hv
  | arrive n =>
    refine ⟨h.sound.act hT hact, hids', hproto, ?_, h.copies_arrive hT hact, ?_,
      h.admits_arrive hT hact⟩
    · obtain ⟨w, -, rfl⟩ := act_arrive hact
      exact h.past
    · exact inv_of_arrive hT h.sound hact
        (fun w hw hc hnew hadmits => h.passesOn hT hids hg hto hread (List.mem_of_getElem? hw)
          (hreads w hw hc) hc hnew hadmits) h.inv

/-- The event of such a frame puts a copy on every link of the server. -/
theorem onEvent_broadcast (isAlphanumeric : String → Bool)
    {p p' : RelayServer PrivateKey PublicKey} {isBinary : Bool} (hT : T.IsForest)
    (hs : p.chat.Consistent) (hp : p.chat.ProperIds J)
    (hsend : p.chat.Broadcasts J ws message isBinary login fs g)
    (h : p.onEvent J isAlphanumeric (.message ws message isBinary) = some p') :
    ∃ frame, p.chat.ForwardedAs J ws message isBinary frame ∧ ∀ cause trail,
      T.outgoing i cause trail p p' =
        (T.targets i p none).map (T.wireTo i frame cause trail) := by
  obtain ⟨frame, hframe, hputs⟩ := hsend.puts isAlphanumeric hs hp
  obtain ⟨s', hstep, rfl⟩ := Option.map_eq_some_iff.mp h
  rcases Server.step_eq_some hstep with ⟨-, rfl⟩ | ⟨hdisabled, -⟩
  · refine ⟨frame, hframe, fun cause trail => ?_⟩
    rw [RelayServer.settle_eq hputs]
    exact Topology.outgoing_forward hT
  · rw [hsend.enabled] at hdisabled
    exact absurd hdisabled (by simp)

/-- The event of the frame sets it under way. -/
theorem carries_event {isBinary : Bool} (hT : T.IsForest) (hN : N.Sound T J) (hF : N.Floods T)
    (hproto : ∀ i, (N.peers i).chat.proto = objectPrototype)
    (hsend : (N.peers o).chat.Broadcasts J ws message isBinary login fs g)
    (hact : act T J crypto isAlphanumeric N (.event o (.message ws message isBinary)) = some N') :
    N'.Carries T J (N.peers o).chat ws login fs message N.originID N.origins.length o := by
  have hgo := act_goesOn hT hN hact
  have hforward : ∀ p, (N.peers o).onEvent J isAlphanumeric (.message ws message isBinary) = some p →
      ∃ frame, (N.peers o).chat.ForwardedAs J ws message isBinary frame ∧ ∀ cause trail,
        T.outgoing o cause trail (N.peers o) p =
          (T.targets o (N.peers o) none).map (T.wireTo o frame cause trail) := fun _ =>
    onEvent_broadcast isAlphanumeric hT (hN.consistent o) (hN.properIds o) hsend
  have hstart : TreeFlood.Start T.graph (fun v => v = o ∨ Admits T N.originID fs message o v) o
      (N'.flood N.origins.length) := by
    refine flood_event hT hN hact (hF.past _ (Nat.le_refl _)) fun _ p hp => ?_
    obtain ⟨frame, -, hout⟩ := hforward p hp
    exact ⟨frame, hout⟩
  have hinv := TreeFlood.inv_start (fun _ v => Admits T N.originID fs message o v) hstart
  refine ⟨hN.act hT hact, fun i => (hgo i).serverOriginID, fun i => (hgo i).proto.trans (hproto i),
    ?_, ?_, hinv, fun v hv => ?_⟩
  · obtain ⟨-, p, -, rfl⟩ := act_event hact
    dsimp only
    rw [List.length_append, List.length_singleton]
    exact Nat.lt_succ_self _
  · obtain ⟨-, p, hp, rfl⟩ := act_event hact
    obtain ⟨frame, hframe, hout⟩ := hforward p hp
    intro w hw hcause
    rcases List.mem_append.mp hw with hw | hw
    · -- nothing of the frame was under way before its event
      have hnone := congrArg TreeFlood.State.flight (hF.past _ (Nat.le_refl _))
      have hmem : w.parcel ∈ (N.flood N.origins.length).flight :=
        Multiset.mem_coe.mpr (List.mem_map_of_mem (List.mem_filter.mpr ⟨hw, decide_eq_true hcause⟩))
      rw [hnone] at hmem
      exact absurd hmem (Multiset.notMem_zero _)
    · rw [hout] at hw
      obtain ⟨j, -, rfl⟩ := List.mem_map.mp hw
      exact hframe.isCopy (hN.properIds o) hsend.speaks.loginRequest hsend.parsed
  · -- nobody has delivered it yet
    have hnone : v ∈ (N'.flood N.origins.length).taken := mem_taken.mpr hv
    obtain ⟨ws', -, hs⟩ := hstart
    rw [hs] at hnone
    exact absurd hnone List.not_mem_nil

end

/-! ### Exactly once -/

section

variable {N₀ N₁ N₂ : Net ι PrivateKey PublicKey} {es fs' : List (NetEvent ι)} {o : ι}
  {ws : SocketId} {message : Bytes} {isBinary : Bool} {login : LoginRequest}
  {fs : List (String × Json)} {g : GroupId}

theorem GoesOn.trans {s s₁ s₂ : Server} (h : GoesOn J s s₁) (h' : GoesOn J s₁ s₂) :
    GoesOn J s s₂ :=
  ⟨h'.consistent, h'.properIds, h'.config.trans h.config, h'.proto.trans h.proto,
    fun ws => trans_of (Server.Lasts ws) (h.lasts ws) (h'.lasts ws), h.log.trans h'.log⟩

omit [DecidableEq ι] in
theorem ne_of_wires_nil (h : N.wires.length = 0) (k : ℕ) : ∀ w ∈ N.wires, w.cause ≠ some k := by
  rw [List.length_eq_zero_iff.mp h]
  simp

/-- What every run keeps of every server. -/
theorem run_goesOn (hT : T.IsForest) (hN : N.Sound T J)
    (h : run T J crypto isAlphanumeric N es = some N') (i : ι) :
    GoesOn J (N.peers i).chat (N'.peers i).chat := by
  induction es generalizing N with
  | nil =>
    obtain rfl := Option.some.inj h
    exact goesOn_refl (hN.consistent i) (hN.properIds i)
  | cons e es ih =>
    obtain ⟨N₁, h₁, h₂⟩ := run_cons.mp h
    exact (act_goesOn hT hN h₁ i).trans (ih (hN.act hT h₁) h₂)

/-- A computed run, from one of its states on. -/
theorem run_then {α : Type} {f : Net ι PrivateKey PublicKey → α} {v : α} {e : NetEvent ι}
    (h₀ : run T J crypto isAlphanumeric N₀ es = some N)
    (h : (run T J crypto isAlphanumeric N₀ (es ++ e :: fs')).map f = some v) :
    ∃ N₁ N₂, act T J crypto isAlphanumeric N e = some N₁ ∧
      run T J crypto isAlphanumeric N₁ fs' = some N₂ ∧ f N₂ = v := by
  obtain ⟨N₂, h₂, hv⟩ := Option.map_eq_some_iff.mp h
  rw [run_append h₀] at h₂
  obtain ⟨N₁, h₁, hlast⟩ := run_cons.mp h₂
  exact ⟨N₁, N₂, h₁, hlast, hv⟩

/-- On no server a prototype has been written to. -/
def SparesPrototypes (N : Net ι PrivateKey PublicKey) : Prop :=
  ∀ i, (N.peers i).chat.SparesPrototypes

instance [Fintype ι] (N : Net ι PrivateKey PublicKey) : Decidable N.SparesPrototypes :=
  inferInstanceAs (Decidable (∀ i, (N.peers i).chat.SparesPrototypes))

/-- When none has at the end of a run, none had before. -/
theorem SparesPrototypes.earlier (hT : T.IsForest) (hN : N.Sound T J)
    (h : run T J crypto isAlphanumeric N es = some N') (hspares : N'.SparesPrototypes) :
    N.SparesPrototypes := by
  intro i
  have hgo := run_goesOn hT hN h i
  exact (hspares i).of_lasts hgo.consistent hgo.lasts hgo.log

/-- So it is at every step of the run. -/
def AllStampsRead (T : Topology ι) (J : JsonCodec) (crypto : Crypto PrivateKey PublicKey)
    (isAlphanumeric : String → Bool) (k : ℕ) (aid gid : Val) (N : Net ι PrivateKey PublicKey)
    (es : List (NetEvent ι)) : Prop :=
  ∀ n N' e, run T J crypto isAlphanumeric N (es.take n) = some N' → es[n]? = some e →
    N'.StampsRead k aid gid e

theorem AllStampsRead.here {aid gid : Val} {e : NetEvent ι}
    (h : AllStampsRead T J crypto isAlphanumeric k aid gid N (e :: es)) :
    N.StampsRead k aid gid e := h 0 N e rfl rfl

theorem AllStampsRead.tail {aid gid : Val} {e : NetEvent ι}
    (h : AllStampsRead T J crypto isAlphanumeric k aid gid N (e :: es))
    (hact : act T J crypto isAlphanumeric N e = some N') :
    AllStampsRead T J crypto isAlphanumeric k aid gid N' es := by
  intro n N₂ e' hrun he
  refine h (n + 1) N₂ e' ?_ he
  rw [List.take_succ_cons]
  exact run_cons.mpr ⟨N', hact, hrun⟩

/-- Every run in which the stamps are read leaves the frame under way. -/
theorem Carries.run {s : Server} {ids : ι → String} {a : Addressing}
    (h : N.Carries T J s ws login fs message ids k o) (hT : T.IsForest)
    (hids : Function.Injective ids) (hg : (s.sockets ws).group = some g)
    (hto : AddressedTo (.obj fs) a) (hread : Readable (.obj fs) a)
    (hreads : AllStampsRead T J crypto isAlphanumeric k (s.accountOf g).accountID (s.groupHeap g).ID
      N es) (hrun : run T J crypto isAlphanumeric N es = some N') :
    N'.Carries T J s ws login fs message ids k o := by
  induction es generalizing N with
  | nil =>
    obtain rfl := Option.some.inj hrun
    exact h
  | cons e es ih =>
    obtain ⟨N₁, h₁, h₂⟩ := run_cons.mp hrun
    exact ih (h.act hT hids hg hto hread hreads.here h₁) (hreads.tail h₁) h₂

/-- The server at the end of a path that the frame gets along: the client has named no server on it but,
    perhaps, the first, and it leads from parent to parent if the frame is taken for an envelope. -/
def Clear (T : Topology ι) (ids : ι → String) (fs : List (String × Json)) (message : Bytes) (o i : ι) :
    Prop :=
  ∃ w : T.graph.Walk o i, w.IsPath ∧ (∀ j ∈ w.support.tail, Unnamed ids fs j) ∧
    (Server.Traffic fs message ∨ ∀ d ∈ w.darts, T.parentOf d.fst = some d.snd)

omit [DecidableEq ι] in
theorem clear_iff (hT : T.IsForest) {ids : ι → String} {i : ι} : Clear T ids fs message o i ↔
    ∃ w : T.graph.Walk o i, w.IsPath ∧ ∀ j ∈ w.support.tail, Admits T ids fs message o j := by
  refine exists_congr fun w => and_congr_right fun hw => ?_
  by_cases htraffic : Server.Traffic fs message
  · rw [and_iff_left (Or.inl htraffic)]
    exact forall₂_congr fun j _ => (and_iff_left (Or.inl htraffic)).symm
  · rw [or_iff_right htraffic, ← TreeFlood.forall_leads_iff hT.isAcyclic w hw
      (R := fun u v => T.parentOf u = some v), ← forall₂_and]
    exact forall₂_congr fun j _ => and_congr_right fun _ => (or_iff_right htraffic).symm

/-- How often a server has delivered a frame of which nothing is under way any more. -/
theorem Carries.count_deliveries {s : Server} {ids : ι → String}
    (h : N.Carries T J s ws login fs message ids k o) (hT : T.IsForest)
    (hquiet : ∀ w ∈ N.wires, w.cause ≠ some k) (i : ι) :
    (i ≠ o ∧ Clear T ids fs message o i → N.deliveries.count (i, some k) = 1) ∧
      (¬ (i ≠ o ∧ Clear T ids fs message o i) → N.deliveries.count (i, some k) = 0) := by
  have hnone : (N.flood k).flight = 0 := by
    rw [flood]
    dsimp only
    rw [List.filter_eq_nil_iff.mpr fun w hw => by simpa using hquiet w hw]
    rfl
  rw [← count_taken, clear_iff hT]
  constructor
  · rintro ⟨hio, w, hw, hadmits⟩
    refine List.count_eq_one_of_mem h.inv.nodup ?_
    have hreached := TreeFlood.reached_of_path w hw hadmits
    exact (h.inv.complete hnone hreached).resolve_left hio
  · intro hnot
    rw [List.count_eq_zero]
    intro hmem
    refine hnot ⟨?_, ?_⟩
    · rintro rfl
      exact h.inv.origin_notMem hmem
    · obtain ⟨w, hw⟩ := h.inv.exists_path hmem
      exact ⟨w, hw, h.inv.free_of_holds hT.isAcyclic (fun v hv => h.admits v (mem_taken.mp hv)) w hw
        (Or.inr hmem)⟩

/-- In runs no prototype is replaced. -/
theorem run_proto (hT : T.IsForest) (hN : N₀.Starts T)
    (h₀ : run T J crypto isAlphanumeric N₀ es = some N) (i : ι) :
    (N.peers i).chat.proto = objectPrototype := by
  obtain ⟨config, hconfig⟩ := hN.chat i
  rw [(run_goesOn hT (hN.sound (J := J)) h₀ i).proto, hconfig]
  rfl

/-- No inherited property is found under ids that name none. -/
theorem allStampsRead_of_plain {e : NetEvent ι} (hT : T.IsForest) (hN : N₀.Starts T)
    (h₀ : run T J crypto isAlphanumeric N₀ es = some N)
    (h₁ : act T J crypto isAlphanumeric N e = some N₁) {s : Server} (h : s.PlainRoom g) (k : ℕ) :
    AllStampsRead T J crypto isAlphanumeric k (s.accountOf g).accountID (s.groupHeap g).ID N₁ fs' := by
  have hsound := (run_sound hT (hN.sound (J := J)) hN.floods h₀).1
  intro n N' e' hrun _
  cases e' with
  | event => trivial
  | arrive m =>
    intro w _ _
    have hgo := run_goesOn hT (hsound.act hT h₁) hrun w.dst
    exact h.reads (hgo.proto.trans ((act_goesOn hT hsound h₁ w.dst).proto.trans
      (run_proto hT hN h₀ w.dst)))

/-- The frame of the event is under way for the rest of the run. -/
theorem carries_run (hT : T.IsForest) (hN : N₀.Starts T) (hids : Function.Injective N₀.originID)
    (h₀ : run T J crypto isAlphanumeric N₀ es = some N)
    (h₁ : act T J crypto isAlphanumeric N (.event o (.message ws message isBinary)) = some N₁)
    (h₂ : run T J crypto isAlphanumeric N₁ fs' = some N₂)
    (hsend : (N.peers o).chat.Broadcasts J ws message isBinary login fs g)
    (hreads : AllStampsRead T J crypto isAlphanumeric N.origins.length
      ((N.peers o).chat.accountOf g).accountID ((N.peers o).chat.groupHeap g).ID N₁ fs') :
    N₂.Carries T J (N.peers o).chat ws login fs message N₀.originID N.origins.length o := by
  obtain ⟨hsound, hfloods⟩ := run_sound hT (hN.sound (J := J)) hN.floods h₀
  have hsame : N.originID = N₀.originID :=
    funext fun j => (run_goesOn hT (hN.sound (J := J)) h₀ j).serverOriginID
  rw [← hsame] at hids ⊢
  obtain ⟨a, hto, hread⟩ := hsend.addressed
  exact (carries_event hT hsound hfloods (run_proto hT hN h₀) hsend h₁).run hT hids
    hsend.speaks.group hto hread hreads h₂

/-- So it is where the ids of the room name no inherited property. -/
theorem carries_plain (hT : T.IsForest) (hN : N₀.Starts T) (hids : Function.Injective N₀.originID)
    (h₀ : run T J crypto isAlphanumeric N₀ es = some N)
    (h₁ : act T J crypto isAlphanumeric N (.event o (.message ws message isBinary)) = some N₁)
    (h₂ : run T J crypto isAlphanumeric N₁ fs' = some N₂)
    (hsend : (N.peers o).chat.Broadcasts J ws message isBinary login fs g)
    (hroom : (N.peers o).chat.PlainRoom g) :
    N₂.Carries T J (N.peers o).chat ws login fs message N₀.originID N.origins.length o :=
  carries_run hT hN hids h₀ h₁ h₂ hsend (allStampsRead_of_plain hT hN h₀ h₁ hroom _)

/-- A broadcast of a unit in a room at one server of a tree of servers with different names: as soon as
    none of its messages is under way, a server has delivered it once if it is another one and the frame
    gets along the path to it, and else never. This holds in every run that spares the prototypes,
    whatever else happens and in whatever order the links deliver. -/
theorem relayed_exactly_once (hT : T.IsForest) (hN : N₀.Starts T)
    (hids : Function.Injective N₀.originID)
    (h₀ : run T J crypto isAlphanumeric N₀ es = some N)
    (h₁ : act T J crypto isAlphanumeric N (.event o (.message ws message isBinary)) = some N₁)
    (h₂ : run T J crypto isAlphanumeric N₁ fs' = some N₂) (_ : N₂.SparesPrototypes)
    (hsend : (N.peers o).chat.Broadcasts J ws message isBinary login fs g)
    (hroom : (N.peers o).chat.PlainRoom g)
    (hquiet : ∀ w ∈ N₂.wires, w.cause ≠ some N.origins.length) (i : ι) :
    (i ≠ o ∧ Clear T N₀.originID fs message o i →
        N₂.deliveries.count (i, some N.origins.length) = 1) ∧
      (¬ (i ≠ o ∧ Clear T N₀.originID fs message o i) →
        N₂.deliveries.count (i, some N.origins.length) = 0) :=
  (carries_plain hT hN hids h₀ h₁ h₂ hsend hroom).count_deliveries hT hquiet i

end

end

/-- The unit at the child of the star sends a broadcast, whatever it writes into it. -/
theorem broadcasts_starJoined : ∃ N,
    run Topology.star Text.codec Crypto.sealing Server.isAsciiAlphanumeric star starJoined = some N ∧
    N.origins.length = 2 ∧ (N.peers 1).chat.PlainRoom 0 ∧ ∀ fields,
      Text.codec.parse (Server.broadcastFrame fields) = some (.obj (("ty", .str "g") :: fields)) →
      (N.peers 1).chat.Broadcasts Text.codec 0 (Server.broadcastFrame fields) false
        (Server.announcedDrone "drone") (("ty", .str "g") :: fields) 0 := by
  have hbefore : (run Topology.star Text.codec Crypto.sealing Server.isAsciiAlphanumeric star
      starJoined).map (fun N => (N.origins.length, (N.peers 1).chat.enabled (.message 0 [] false),
        ((N.peers 1).chat.sockets 0).listening)) = some (2, true, true) := by decide +kernel
  have hunit : (run Topology.star Text.codec Crypto.sealing Server.isAsciiAlphanumeric star
      starJoined).map (fun N => (((N.peers 1).chat.sockets 0).loginRequest,
        ((N.peers 1).chat.sockets 0).hasStatus, ((N.peers 1).chat.sockets 0).group,
        ((N.peers 1).chat.accountOf 0).accountID, ((N.peers 1).chat.groupHeap 0).ID)) =
      some (some (Server.announcedDrone "drone"), true, some 0, some (.str "acc"),
        some (.str "1")) := by decide +kernel
  obtain ⟨N, hN, hf⟩ := Option.map_eq_some_iff.mp hbefore
  rw [hN] at hunit
  simp only [Option.map_some, Option.some.injEq, Prod.mk.injEq] at hf hunit
  obtain ⟨horigins, henabled, hlistening⟩ := hf
  obtain ⟨hlogin, hstatus, hgroup, haid, hgid⟩ := hunit
  refine ⟨N, hN, horigins, ⟨?_, ?_⟩, fun fields hparsed =>
    ⟨henabled, hlistening, hparsed, ⟨_, rfl⟩, hlogin, hstatus, hgroup⟩⟩
  · rw [haid]
    exact ⟨"acc", rfl, by decide⟩
  · rw [hgid]
    exact ⟨"1", rfl, by decide⟩

theorem originID_star_injective : Function.Injective star.originID := by
  intro i j h
  fin_cases i <;> fin_cases j <;> first | rfl | exact absurd h (by decide)

/-- The unit names the other child. -/
def namingFields : List (String × Json) := [("_path", .arr [.str "S2"])]

/-- The root delivers its frame, and the other child does not. -/
theorem relayed_exactly_once_named : ∃ N N₁ N₂,
    run Topology.star Text.codec Crypto.sealing Server.isAsciiAlphanumeric star starJoined = some N ∧
    act Topology.star Text.codec Crypto.sealing Server.isAsciiAlphanumeric N
      (.event 1 (.message 0 (Server.broadcastFrame namingFields) false)) = some N₁ ∧
    run Topology.star Text.codec Crypto.sealing Server.isAsciiAlphanumeric N₁ [.arrive 0, .arrive 0]
      = some N₂ ∧
    N₂.deliveries.count (0, some 2) = 1 ∧ N₂.deliveries.count (2, some 2) = 0 := by
  have hafter : ((run Topology.star Text.codec Crypto.sealing Server.isAsciiAlphanumeric star
      (starJoined ++ [.event 1 (.message 0 (Server.broadcastFrame namingFields) false), .arrive 0,
        .arrive 0])).map fun N => (N.wires.length,
          decide N.SparesPrototypes)) = some (0, true) := by decide +kernel
  obtain ⟨N, h₀, horigins, hroom, hsend⟩ := broadcasts_starJoined
  obtain ⟨N₁, N₂, h₁, hlast, hends⟩ := run_then h₀ hafter
  obtain ⟨hlen, hspares⟩ := Prod.mk.inj hends
  have hexact := relayed_exactly_once Topology.isForest_star starts_star originID_star_injective h₀ h₁
    hlast (of_decide_eq_true hspares) (hsend namingFields (by decide +kernel)) hroom
    (ne_of_wires_nil hlen _)
  rw [horigins] at hexact
  have hadj : Topology.star.graph.Adj 1 0 := Topology.isForest_star.adj_iff.mpr (Or.inl rfl)
  refine ⟨N, N₁, N₂, h₀, h₁, hlast,
    (hexact 0).1 ⟨by decide, .cons hadj .nil, ?_, ?_, Or.inl (Or.inl rfl)⟩, (hexact 2).2 ?_⟩
  · exact SimpleGraph.Walk.IsPath.cons .nil (by simp)
  · intro j hj
    obtain rfl : j = 0 := by simpa using hj
    rfl
  · -- the other child is on every path to it
    rintro ⟨-, w, -, hfree, -⟩
    have hend := w.end_mem_support
    rw [← SimpleGraph.Walk.cons_tail_support] at hend
    have hunnamed := hfree 2 ((List.mem_cons.mp hend).resolve_left (by decide))
    exact absurd (show true = false from hunnamed) (by decide)

end Net

end DroneEngage
