import DroneEngage.KeyLedger
import DroneEngage.RelayArrivals

/-! At most once, over a tree of servers.

    Put down to the event a frame comes from, the messages on the links are the parcels of a flood
    (`Net.flood`), and every event of the network is a delivery of that flood or nothing to it. So no
    server delivers a frame twice, the first server never delivers its own, and no link carries it
    twice in one direction: whatever the clients write into their frames, whatever else happens at
    the servers, and in whatever order the links deliver. -/

namespace DroneEngage
open Js

variable {ι PrivateKey PublicKey : Type} [DecidableEq ι] {T : Topology ι} {J : JsonCodec}
  {crypto : Crypto PrivateKey PublicKey} {isAlphanumeric : String → Bool}

/-- A message as a parcel. -/
def Wire.parcel (w : Wire ι) : TreeFlood.Parcel ι := ⟨w.src, w.dst, w.trail⟩

/-- A message goes over a link of the tree. -/
structure Wire.OnTree (T : Topology ι) (w : Wire ι) : Prop where
  up : w.up = true → T.parentOf w.src = some w.dst
  down : w.up = false → T.parentOf w.dst = some w.src

namespace Net

/-- The id a server writes into the trail of a frame. -/
def originID (N : Net ι PrivateKey PublicKey) (i : ι) : String := (N.peers i).chat.serverOriginID

/-- What became of the frame of an event. -/
def flood (N : Net ι PrivateKey PublicKey) (k : ℕ) : TreeFlood.State ι where
  flight := ((N.wires.filter fun w => w.cause = some k).map Wire.parcel : List _)
  taken := (N.deliveries.filter fun d => d.2 = some k).map Prod.fst
  sent := (N.sent.filter fun w => w.cause = some k).map fun w => (w.src, w.dst)

/-! ### A server moves on -/

section

variable {N : Net ι PrivateKey PublicKey} {i : ι} {p : RelayServer PrivateKey PublicKey}
  {cause : Option ℕ} {trail : List ι} {n k : ℕ}

theorem flood_record {down : List (Bytes × Bool × Option LinkId)} {up : List (Bytes × Bool)}
    (h : (N.peers i).chat.Puts n down up p.chat) : (N.record T i p cause trail).flood k =
      (let out := (T.outgoing i cause trail (N.peers i) p).filter fun w => w.cause = some k
      ⟨(N.flood k).flight + (out.map Wire.parcel : List _),
        (if cause = some k then List.replicate n i else []) ++ (N.flood k).taken,
        (N.flood k).sent ++ out.map fun w => (w.src, w.dst)⟩) := by
  obtain ⟨l, hl, rfl, -, -⟩ := h
  rw [record, flood, flood]
  dsimp only
  rw [hl, List.drop_left, List.filter_append, List.filter_append, List.filter_append,
    List.map_append, List.map_append, List.map_append, ← Multiset.coe_add]
  refine congrArg (TreeFlood.State.mk _ · _) (congrArg (· ++ _) ?_)
  rw [List.map_const', List.filter_replicate, ← List.countP_eq_length_filter]
  by_cases hc : cause = some k
  · rw [if_pos hc, if_pos (by simpa using hc), List.map_replicate]
  · rw [if_neg hc, if_neg (by simpa using hc)]; rfl

/-- What does not come from the event is nothing to its frame. -/
theorem flood_record_other (cause : Option ℕ) (trail : List ι)
    {down : List (Bytes × Bool × Option LinkId)} {up : List (Bytes × Bool)}
    (h : (N.peers i).chat.Puts n down up p.chat) (hn : cause = some k → n = 0)
    (hout : ∀ w ∈ T.outgoing i cause trail (N.peers i) p, w.cause ≠ some k) :
    (N.record T i p cause trail).flood k = N.flood k := by
  rw [flood_record h]
  dsimp only
  rw [List.filter_eq_nil_iff.mpr fun w hw => by simpa using hout w hw]
  have hnone : (if cause = some k then List.replicate n i else []) = [] := by
    split
    · next hc => rw [hn hc]; rfl
    · rfl
  rw [hnone, List.map_nil, List.map_nil, Multiset.coe_nil, add_zero, List.nil_append, List.append_nil]

theorem filter_wireTo (m : Bytes) (ws : List ι) :
    ((ws.map (T.wireTo i m (some k) trail)).filter fun w => w.cause = some k) =
      ws.map (T.wireTo i m (some k) trail) := by
  refine List.filter_eq_self.mpr fun w hw => ?_
  obtain ⟨j, -, rfl⟩ := List.mem_map.mp hw
  exact decide_eq_true rfl

/-- A server that takes the frame and sends it on. -/
theorem flood_record_taken {down : List (Bytes × Bool × Option LinkId)} {up : List (Bytes × Bool)}
    {m : Bytes} {ws : List ι} (h : (N.peers i).chat.Puts n down up p.chat)
    (hout : T.outgoing i (some k) trail (N.peers i) p = ws.map (T.wireTo i m (some k) trail)) :
    (N.record T i p (some k) trail).flood k =
      ⟨(N.flood k).flight + (TreeFlood.parcels i trail ws : List _),
        List.replicate n i ++ (N.flood k).taken, (N.flood k).sent ++ ws.map fun j => (i, j)⟩ := by
  rw [flood_record h, hout]
  dsimp only
  rw [filter_wireTo, List.map_map, List.map_map, if_pos rfl]
  rfl

end

/-! ### The invariant -/

/-- What every event keeps of a chat server. -/
structure GoesOn (J : JsonCodec) (s s' : Server) : Prop where
  consistent : s'.Consistent
  properIds : s'.ProperIds J
  config : s'.config = s.config
  proto : s'.proto = s.proto
  lasts : ∀ ws, Server.Lasts ws s s'
  log : Server.Recalls s s'

theorem goesOn_refl {s : Server} (hs : s.Consistent) (hp : s.ProperIds J) : GoesOn J s s :=
  ⟨hs, hp, rfl, rfl, fun ws => refl_of (Server.Lasts ws) s, List.prefix_rfl⟩

theorem goesOn_shrinks {s s' : Server} (hs : s.Consistent) (hp : s.ProperIds J) (h : s.Shrinks s') :
    GoesOn J s s' := ⟨hs.shrinks h, hp.shrinks h, h.config, h.proto, h.lasts, h.log⟩

theorem goesOn_step {s s' : Server} {e : Event} (hs : s.Consistent) (hp : s.ProperIds J)
    (h : Server.step J isAlphanumeric s e = some s') : GoesOn J s s' := by
  rcases Server.step_eq_some h with ⟨he, rfl⟩ | ⟨-, rfl⟩
  · have hfinal := Server.handle_final J isAlphanumeric hs he
    obtain ⟨hconfig, hproto⟩ := Server.outcome_frame J hfinal
    obtain ⟨hconfig', hproto'⟩ := Server.arrive_frame J e s
    exact ⟨hs.handle J isAlphanumeric he, (hp.arrive e).outcome hfinal, hconfig.trans hconfig',
      hproto.trans hproto', Server.handle_lasts J isAlphanumeric hs he,
      Server.handle_log J isAlphanumeric hs he⟩
  · exact goesOn_refl hs hp

theorem GoesOn.serverOriginID {s s' : Server} (h : GoesOn J s s') :
    s'.serverOriginID = s.serverOriginID := by
  rw [Server.serverOriginID, h.config, Server.serverOriginID]

/-- What holds of the servers and the messages in every state of the network. -/
structure Sound (T : Topology ι) (J : JsonCodec) (N : Net ι PrivateKey PublicKey) : Prop where
  linked : ∀ i, T.Linked i (N.peers i)
  consistent : ∀ i, (N.peers i).chat.Consistent
  properIds : ∀ i, (N.peers i).chat.ProperIds J
  onTree : ∀ w ∈ N.wires, w.OnTree T
  answers : ∀ w ∈ N.wires, w.cause = none → w.up = true ∧ Unrouted J w.message
  frames : ∀ w ∈ N.wires, w.cause ≠ none → TrailedBy J (w.trail.map N.originID) w.message

section

variable {N N' : Net ι PrivateKey PublicKey} {i : ι} {p : RelayServer PrivateKey PublicKey}
  {cause : Option ℕ} {trail : List ι} {n k : ℕ} {w : Wire ι}

theorem act_event {e : Event} (h : act T J crypto isAlphanumeric N (.event i e) = some N') :
    e.isExternal = false ∧ ∃ p, (N.peers i).onEvent J isAlphanumeric e = some p ∧
      N' = { N.record T i p (some N.origins.length) [i] with origins := N.origins ++ [i] } := by
  rw [act] at h
  split at h
  · exact absurd h (by simp)
  · next he =>
    obtain ⟨p, hp, rfl⟩ := Option.map_eq_some_iff.mp h
    exact ⟨Bool.eq_false_iff.mpr he, p, hp, rfl⟩

theorem act_arrive (h : act T J crypto isAlphanumeric N (.arrive n) = some N') :
    ∃ w, N.wires[n]? = some w ∧ N' = { N with wires := N.wires.eraseIdx n }.record T w.dst
      (N.receive T J crypto w) w.cause (w.trail ++ [w.dst]) := by
  obtain ⟨w, hw, rfl⟩ := Option.map_eq_some_iff.mp h
  exact ⟨w, hw, rfl⟩

theorem run_cons {e : NetEvent ι} {es : List (NetEvent ι)} :
    run T J crypto isAlphanumeric N (e :: es) = some N' ↔ ∃ N₁,
      act T J crypto isAlphanumeric N e = some N₁ ∧
        run T J crypto isAlphanumeric N₁ es = some N' := by
  rw [run, List.foldlM_cons]
  exact Option.bind_eq_some_iff

theorem run_append {es es' : List (NetEvent ι)} (h : run T J crypto isAlphanumeric N es = some N') :
    run T J crypto isAlphanumeric N (es ++ es') = run T J crypto isAlphanumeric N' es' := by
  rw [run] at h
  rw [run, List.foldlM_append, h]
  rfl

omit [DecidableEq ι] in
/-- The message that arrives is one of those under way. -/
theorem flood_erase (h : N.wires[n]? = some w) : (N.flood k).flight =
    if w.cause = some k then w.parcel ::ₘ ({ N with wires := N.wires.eraseIdx n }.flood k).flight
    else ({ N with wires := N.wires.eraseIdx n }.flood k).flight := by
  obtain ⟨hn, rfl⟩ := List.getElem?_eq_some_iff.mp h
  have hperm : (N.wires : Multiset (Wire ι)) = N.wires[n] ::ₘ (N.wires.eraseIdx n : List _) :=
    Multiset.coe_eq_coe.mpr (List.getElem_cons_eraseIdx_perm hn).symm
  have hflight : ∀ ws : List (Wire ι), (((ws.filter fun w => w.cause = some k).map Wire.parcel :
      List _) : Multiset (TreeFlood.Parcel ι)) =
        ((ws : Multiset (Wire ι)).filter fun w => w.cause = some k).map Wire.parcel := by
    intro ws
    rw [Multiset.filter_coe, Multiset.map_coe]
  rw [flood, flood]
  dsimp only
  rw [hflight, hflight, hperm]
  split
  · next hc =>
    rw [Multiset.filter_cons_of_pos (p := fun w : Wire ι => w.cause = some k) _ hc,
      Multiset.map_cons]
  · next hc => rw [Multiset.filter_cons_of_neg (p := fun w : Wire ι => w.cause = some k) _ hc]

/-- The connection a message comes over, as the server it comes to sees it. -/
def sourceOf (T : Topology ι) (w : Wire ι) : Option LinkId :=
  if w.up then some (T.linkOf w.src) else none

/-- What a server makes of a message on one of its links. -/
theorem receive_arrival (crypto : Crypto PrivateKey PublicKey) (hT : T.IsForest)
    (hN : N.Sound T J) (hw : w.OnTree T) :
    Arrival T J w.dst (N.peers w.dst) (N.receive T J crypto w) w.message (sourceOf T w) ∧
      (N.peers w.dst).SameLinks (N.receive T J crypto w) ∧
      ((N.receive T J crypto w).chat = (N.peers w.dst).chat ∨ (N.receive T J crypto w).chat =
        (Server.parseExternalMessage J w.message true (sourceOf T w)).final (N.peers w.dst).chat) := by
  rw [receive, sourceOf]
  cases hup : w.up with
  | true =>
    rw [if_pos rfl, if_pos rfl]
    obtain ⟨-, hauthed⟩ := (hN.linked w.dst).children w.src (hw.up hup)
    obtain ⟨ho, hl, hc⟩ := onChildMessage_arrival (i := w.dst) (m := w.message) (J := J)
      crypto hT hauthed
    exact ⟨ho, hl, Or.inr hc⟩
  | false =>
    rw [if_neg Bool.false_ne_true, if_neg Bool.false_ne_true]
    by_cases htraffic : S2sAuth.parseEnvelope J w.message false = none
    · obtain ⟨ho, hl, hc⟩ := onParentMessage_arrival (i := w.dst) (p := N.peers w.dst)
        crypto hT htraffic
      exact ⟨ho, hl, Or.inr hc⟩
    · obtain ⟨ho, hl, hc⟩ := onParentMessage_envelope (i := w.dst) (p := N.peers w.dst)
        (T := T) crypto htraffic
      exact ⟨ho, hl, Or.inl hc⟩

/-- What is put on a link is as the invariant has it. -/
structure Fits (T : Topology ι) (J : JsonCodec) (N : Net ι PrivateKey PublicKey) (w : Wire ι) :
    Prop where
  onTree : w.OnTree T
  answer : w.cause = none → w.up = true ∧ Unrouted J w.message
  frame : w.cause ≠ none → TrailedBy J (w.trail.map N.originID) w.message

omit [DecidableEq ι] in
theorem Sound.fits (hN : N.Sound T J) (hw : w ∈ N.wires) : Fits T J N w :=
  ⟨hN.onTree w hw, hN.answers w hw, hN.frames w hw⟩

/-- A server moves on. -/
theorem Sound.record (hN : N.Sound T J) (cause : Option ℕ) (trail : List ι)
    (hlinks : (N.peers i).SameLinks p)
    (hgo : GoesOn J (N.peers i).chat p.chat)
    (hout : ∀ w ∈ T.outgoing i cause trail (N.peers i) p, Fits T J N w) :
    (N.record T i p cause trail).Sound T J := by
  have hpeers : ∀ {P : ι → RelayServer PrivateKey PublicKey → Prop}, P i p → (∀ j, P j (N.peers j)) →
      ∀ j, P j ((N.record T i p cause trail).peers j) := by
    intro P hi hall j
    change P j (Function.update N.peers i p j)
    by_cases hj : j = i
    · subst hj; rw [Function.update_self]; exact hi
    · rw [Function.update_of_ne hj]; exact hall j
  have hids : (N.record T i p cause trail).originID = N.originID := by
    funext j
    exact hpeers (P := fun j q => q.chat.serverOriginID = N.originID j) hgo.serverOriginID
      (fun _ => rfl) j
  have hfits : ∀ w ∈ (N.record T i p cause trail).wires, Fits T J N w := by
    intro w hw
    rcases List.mem_append.mp hw with hw | hw
    · exact hN.fits hw
    · exact hout w hw
  refine ⟨hpeers (hlinks.linked hgo.config (hN.linked i)) hN.linked,
    hpeers (P := fun _ q => q.chat.Consistent) hgo.consistent hN.consistent,
    hpeers (P := fun _ q => q.chat.ProperIds J) hgo.properIds hN.properIds,
    fun w hw => (hfits w hw).onTree, fun w hw => (hfits w hw).answer, fun w hw => ?_⟩
  rw [hids]
  exact (hfits w hw).frame

omit [DecidableEq ι] in
theorem Sound.erase (hN : N.Sound T J) (n : ℕ) :
    Sound T J { N with wires := N.wires.eraseIdx n } := by
  have hsub : ∀ w ∈ N.wires.eraseIdx n, w ∈ N.wires := fun _ => List.mem_of_mem_eraseIdx
  exact ⟨hN.linked, hN.consistent, hN.properIds, fun w hw => hN.onTree w (hsub w hw),
    fun w hw => hN.answers w (hsub w hw), fun w hw => hN.frames w (hsub w hw)⟩

theorem onTree_wireTo (hT : T.IsForest) {source : Option LinkId} {m : Bytes} {j : ι}
    (hp : T.Linked i p) (hj : j ∈ T.targets i p source) :
    (T.wireTo i m cause trail j).OnTree T := by
  rcases (Topology.mem_targets hp).mp hj with h | ⟨h, -⟩
  · exact ⟨fun _ => h, fun hdown => absurd h (of_decide_eq_false hdown)⟩
  · exact ⟨fun hup => absurd (of_decide_eq_true hup) (hT.not_parent h), fun _ => h⟩

omit [DecidableEq ι] in
/-- The server that takes a frame is not in its trail. -/
theorem Sound.notMem_trail (hN : N.Sound T J) (hw : w ∈ N.wires) (hcause : w.cause ≠ none)
    {jmsg : Json} (hparse : J.parse (header w.message) = some jmsg)
    (hnew : Server.alreadyRelayed (N.peers w.dst).chat.serverOriginID jmsg = false) :
    w.dst ∉ w.trail := by
  intro hmem
  have hseen := (hN.frames w hw hcause).alreadyRelayed (List.mem_map_of_mem hmem) hparse
  rw [originID, hnew] at hseen
  exact absurd hseen (by simp)

omit [DecidableEq ι] in
/-- A message that is taken comes from an event. -/
theorem Sound.cause_of_taken (hN : N.Sound T J) (hw : w ∈ N.wires) {jmsg : Json}
    {actorType : Option String} (hparse : J.parse (header w.message) = some jmsg)
    (hroute : externalRoute jmsg = .ok (.broadcast actorType)) : w.cause ≠ none := by
  intro hnone
  obtain ⟨fs, hfs, hrouting⟩ := (hN.answers w hw hnone).2
  obtain rfl := Option.some.inj (hfs.symm.trans hparse)
  rw [externalRoute, hrouting, if_neg (by simp), if_neg (by simp)] at hroute
  exact Route.noConfusion (Except.ok.inj hroute)

/-- What a server sends when a message arrives. -/
theorem fits_of_arrival {w₀ : Wire ι} {source : Option LinkId} (hT : T.IsForest) (hN : N.Sound T J)
    (hw₀ : w₀ ∈ N.wires) (h : Arrival T J w₀.dst (N.peers w₀.dst) p w₀.message source) :
    ∀ w ∈ T.outgoing w₀.dst w₀.cause (w₀.trail ++ [w₀.dst]) (N.peers w₀.dst) p, Fits T J N w := by
  intro w hw
  cases h with
  | ignored _ hanswers =>
    have ha := hanswers _ _ w hw
    refine ⟨⟨fun _ => ha.src ▸ ha.parent, fun hdown => ?_⟩, fun _ => ⟨ha.up, ha.unrouted⟩,
      fun hc => absurd ha.cause hc⟩
    rw [ha.up] at hdown
    exact absurd hdown (by simp)
  | taken hparse hnew hroute hout =>
    have hcause := hN.cause_of_taken hw₀ hparse hroute
    rcases hout with ⟨-, hout⟩ | ⟨-, hout⟩
    · rw [hout] at hw
      exact absurd hw List.not_mem_nil
    · rw [hout] at hw
      obtain ⟨j, hj, rfl⟩ := List.mem_map.mp hw
      refine ⟨onTree_wireTo hT (hN.linked _) hj, fun hc => absurd hc hcause, fun _ => ?_⟩
      have hpassed := (hN.frames w₀ hw₀ hcause).passedOn (N.peers w₀.dst).chat
      rw [Topology.wireTo, List.map_append]
      exact hpassed

/-- What the arrival of a message keeps of the server. -/
theorem receive_goesOn (hT : T.IsForest) (hN : N.Sound T J) (hw : w.OnTree T) :
    GoesOn J (N.peers w.dst).chat (N.receive T J crypto w).chat := by
  rcases (receive_arrival crypto hT hN hw).2.2 with h | h
  · rw [h]
    exact goesOn_refl (hN.consistent _) (hN.properIds _)
  · rw [h]
    exact goesOn_shrinks (hN.consistent _) (hN.properIds _)
      (Server.onlyShrinks_parseExternalMessage J _ _ _ _)

/-- What the arrival of a message keeps. -/
theorem Sound.arrive (hT : T.IsForest) (hN : N.Sound T J)
    (h : act T J crypto isAlphanumeric N (.arrive n) = some N') : N'.Sound T J := by
  obtain ⟨w, hw, rfl⟩ := act_arrive h
  have hmem := List.mem_of_getElem? hw
  have hgo : GoesOn J (N.peers w.dst).chat (N.receive T J crypto w).chat :=
    receive_goesOn hT hN (hN.onTree w hmem)
  obtain ⟨houtcome, hlinks, -⟩ := receive_arrival crypto hT hN (hN.onTree w hmem)
  refine (hN.erase n).record w.cause (w.trail ++ [w.dst]) hlinks hgo fun x hx => ?_
  have hfits := fits_of_arrival hT hN hmem houtcome x hx
  exact ⟨hfits.onTree, hfits.answer, hfits.frame⟩

/-- What an event of a server's own keeps. -/
theorem Sound.event (hT : T.IsForest) (hN : N.Sound T J) {e : Event}
    (h : act T J crypto isAlphanumeric N (.event i e) = some N') : N'.Sound T J := by
  obtain ⟨he, p, hp, rfl⟩ := act_event h
  obtain ⟨hlinks, hstep, -, hout⟩ := onEvent_outcome (i := i) hT (hN.consistent i)
    (hN.properIds i) he hp
  have hsound := hN.record (some N.origins.length) [i] hlinks
    (goesOn_step (hN.consistent i) (hN.properIds i) hstep) ?_
  · exact ⟨hsound.linked, hsound.consistent, hsound.properIds, hsound.onTree, hsound.answers,
      hsound.frames⟩
  · intro w hw
    rcases hout with hout | ⟨ws, message, isBinary, frame, -, hframe, hout⟩
    · rw [hout] at hw
      exact absurd hw List.not_mem_nil
    · rw [hout] at hw
      obtain ⟨j, hj, rfl⟩ := List.mem_map.mp hw
      exact ⟨onTree_wireTo hT (hN.linked i) hj, fun hc => absurd hc (by simp [Topology.wireTo]),
        fun _ => hframe.trailedBy (hN.properIds i)⟩

theorem Sound.act (hT : T.IsForest) (hN : N.Sound T J) {e : NetEvent ι}
    (h : act T J crypto isAlphanumeric N e = some N') : N'.Sound T J := by
  cases e with
  | event i e => exact hN.event hT h
  | arrive n => exact hN.arrive hT h

/-! ### The floods -/

/-- The server has delivered the frame and sent it to all its neighbours but the one it came from. -/
def PassesOn (T : Topology ι) (J : JsonCodec) (crypto : Crypto PrivateKey PublicKey)
    (N : Net ι PrivateKey PublicKey) (w : Wire ι) : Prop :=
  (∃ down up, (N.peers w.dst).chat.Puts 1 down up (N.receive T J crypto w).chat) ∧
  ∀ cause trail, T.outgoing w.dst cause trail (N.peers w.dst) (N.receive T J crypto w) =
    (T.targets w.dst (N.peers w.dst) (sourceOf T w)).map
      (T.wireTo w.dst ((N.peers w.dst).chat.passedOn J w.message true) cause trail)

omit [DecidableEq ι] in
theorem not_homeOnly {s s' : Server} {down : List (Bytes × Bool × Option LinkId)}
    {up : List (Bytes × Bool)} (h : s.Puts 1 down up s') : ¬ s.HomeOnly s' :=
  fun hq => absurd (h.unique hq).1 (by simp)

omit [DecidableEq ι] in
/-- The child that a message came from, among the children. -/
theorem src_eq (hw : w.OnTree T) {j : ι} (hj : T.parentOf j = some w.dst)
    (hsource : sourceOf T w = some (T.linkOf j)) : some w.src = some j := by
  rw [sourceOf] at hsource
  split at hsource
  · next hup =>
    have hsrc := (T.childAt_iff w.dst (T.linkOf j) w.src).mpr ⟨hw.up hup, Option.some.inj hsource⟩
    have hchild := (T.childAt_iff w.dst (T.linkOf j) j).mpr ⟨hj, rfl⟩
    exact hsrc.symm.trans hchild
  · exact absurd hsource (by simp)

/-- What a server puts on its links when a message arrives comes from the same event, or is the answer
    to an envelope. -/
theorem cause_of_arrival {source : Option LinkId} {k' : ℕ}
    (h : Arrival T J w.dst (N.peers w.dst) p w.message source)
    (hk : w.cause ≠ some k') : ∀ x ∈ T.outgoing w.dst w.cause trail (N.peers w.dst) p,
      x.cause ≠ some k' := by
  intro x hx
  cases h with
  | ignored _ hanswers => rw [(hanswers _ _ x hx).cause]; simp
  | taken _ _ _ hout =>
    rcases hout with ⟨-, hout⟩ | ⟨-, hout⟩
    · rw [hout] at hx
      exact absurd hx List.not_mem_nil
    · rw [hout] at hx
      obtain ⟨j, -, rfl⟩ := List.mem_map.mp hx
      exact hk

theorem Arrival.puts {source : Option LinkId}
    (h : Arrival T J w.dst (N.peers w.dst) p w.message source) :
    ∃ n down up, (N.peers w.dst).chat.Puts n down up p.chat := by
  cases h with
  | ignored hq => exact ⟨_, _, _, hq⟩
  | taken _ _ _ hout =>
    rcases hout with ⟨hputs, -⟩ | ⟨hputs, -⟩
    · exact ⟨_, _, _, hputs⟩
    · exact ⟨_, _, _, hputs⟩

/-- A server that has taken a frame was not in its trail, and has sent it to some of its neighbours;
    one of those that pass it on, to all but the one it came from. An open server does take it. -/
theorem takes (hT : T.IsForest) (hN : N.Sound T J) (hw : w ∈ N.wires) (hcause : w.cause = some k)
    {opens passes : ι → Prop}
    (hok : w.dst ∉ w.trail → opens w.dst ∨ passes w.dst → PassesOn T J crypto N w)
    (h : Arrival T J w.dst (N.peers w.dst) (N.receive T J crypto w) w.message (sourceOf T w)) :
    (N.peers w.dst).chat.HomeOnly (N.receive T J crypto w).chat ∧
      (w.dst ∈ w.trail ∨ ¬ opens w.dst) ∨
    w.dst ∉ w.trail ∧
      (∃ down up, (N.peers w.dst).chat.Puts 1 down up (N.receive T J crypto w).chat) ∧
      ∃ ws m, TreeFlood.Targets T.graph passes w.dst (some w.src) ws ∧ ∀ trail,
        T.outgoing w.dst (some k) trail (N.peers w.dst) (N.receive T J crypto w) =
          ws.map (T.wireTo w.dst m (some k) trail) := by
  have hspec := Topology.targets_spec hT (hN.linked w.dst)
    (fun j hj hsource => src_eq (hN.onTree w hw) hj hsource) passes
  cases h with
  | ignored hq =>
    refine Or.inl ⟨hq, ?_⟩
    by_contra hnot
    obtain ⟨hnew, hopen⟩ := not_or.mp hnot
    obtain ⟨⟨down, up, hputs⟩, -⟩ := hok hnew (Or.inl (not_not.mp hopen))
    exact not_homeOnly hputs hq
  | taken hparse hnew _ hout =>
    have hnotin := hN.notMem_trail hw (by rw [hcause]; simp) hparse hnew
    rcases hout with ⟨hputs, hout⟩ | ⟨hputs, hout⟩
    · refine Or.inr ⟨hnotin, ⟨_, _, hputs⟩, [], [], ⟨List.nodup_nil, by simp, ?_⟩, fun trail => hout _ _⟩
      -- nobody is left out where the server passes the frame on
      intro hpass j hadj hne
      have hall := (hok hnotin (Or.inr hpass)).2 none []
      rw [hout] at hall
      have hin := hspec.all hpass j hadj hne
      rw [List.map_eq_nil_iff.mp hall.symm] at hin
      exact absurd hin List.not_mem_nil
    · exact Or.inr ⟨hnotin, ⟨_, _, hputs⟩, _, _, hspec, fun trail => hout _ _⟩

/-- For the frame of an event, the arrival of a message is nothing or a delivery of its flood. -/
theorem flood_arrive (hT : T.IsForest) (hN : N.Sound T J)
    (h : act T J crypto isAlphanumeric N (.arrive n) = some N') (k : ℕ) (opens passes : ι → Prop)
    (hok : ∀ w, N.wires[n]? = some w → w.cause = some k → w.dst ∉ w.trail →
      opens w.dst ∨ passes w.dst → PassesOn T J crypto N w) : N'.flood k = N.flood k ∨
      TreeFlood.Step T.graph (fun _ v => opens v) passes (N.flood k) (N'.flood k) := by
  obtain ⟨w, hw, rfl⟩ := act_arrive h
  have hmem := List.mem_of_getElem? hw
  have houtcome := (receive_arrival crypto hT hN (hN.onTree w hmem)).1
  have hflight := flood_erase (k := k) hw
  have hrest : N.flood k = ⟨(N.flood k).flight,
      (flood { N with wires := N.wires.eraseIdx n } k).taken,
      (flood { N with wires := N.wires.eraseIdx n } k).sent⟩ := rfl
  by_cases hcause : w.cause = some k
  · rw [if_pos hcause] at hflight
    rw [hrest, hflight, hcause]
    rcases takes hT hN hmem hcause (hok w hw hcause) houtcome with
      ⟨hq, hlost⟩ | ⟨hnew, ⟨down, up, hputs⟩, ws, m, hws, hout⟩
    · -- dropped; what is sent is the answer to an envelope
      refine Or.inr ?_
      have hsame : (record T { N with wires := N.wires.eraseIdx n } w.dst (N.receive T J crypto w)
          (some k) (w.trail ++ [w.dst])).flood k = flood { N with wires := N.wires.eraseIdx n } k := by
        refine flood_record_other _ _ hq (fun _ => rfl) fun x hx => ?_
        cases houtcome with
        | ignored _ hanswers => rw [(hanswers _ _ x hx).cause]; simp
        | taken _ _ _ hout =>
          rcases hout with ⟨hputs, -⟩ | ⟨hputs, -⟩
          · exact absurd hq (not_homeOnly hputs)
          · exact absurd hq (not_homeOnly hputs)
      rw [hsame]
      exact .drop hlost
    · refine Or.inr ?_
      rw [flood_record_taken (N := { N with wires := N.wires.eraseIdx n }) hputs (hout _)]
      exact .take hnew hws
  · -- a message of another event
    rw [if_neg hcause] at hflight
    rw [hrest, hflight]
    obtain ⟨_, down, up, hputs⟩ := Arrival.puts houtcome
    exact Or.inl (flood_record_other (N := { N with wires := N.wires.eraseIdx n }) _ _ hputs
      (fun hc => absurd hc hcause) (cause_of_arrival houtcome hcause))

/-- An event that is not the cause of a frame is nothing to it. -/
theorem flood_event_other (hT : T.IsForest) (hN : N.Sound T J) {e : Event}
    (h : act T J crypto isAlphanumeric N (.event i e) = some N') (hk : k ≠ N.origins.length) :
    N'.flood k = N.flood k := by
  obtain ⟨he, p, hp, rfl⟩ := act_event h
  obtain ⟨-, -, ⟨down, up, hputs⟩, hout⟩ := onEvent_outcome (i := i) hT (hN.consistent i)
    (hN.properIds i) he hp
  refine flood_record_other (some N.origins.length) [i] hputs (fun _ => rfl) fun w hw => ?_
  rcases hout with hout | ⟨ws, message, isBinary, frame, -, -, hout⟩
  · rw [hout] at hw
    exact absurd hw List.not_mem_nil
  · rw [hout] at hw
    obtain ⟨j, -, rfl⟩ := List.mem_map.mp hw
    exact fun hc => hk (Option.some.inj hc).symm

/-- An event starts the flood of its frame. -/
theorem flood_event (hT : T.IsForest) (hN : N.Sound T J) {e : Event}
    (h : act T J crypto isAlphanumeric N (.event i e) = some N')
    (hempty : N.flood N.origins.length = ⟨0, [], []⟩) {passes : ι → Prop}
    (hok : passes i → ∀ p, (N.peers i).onEvent J isAlphanumeric e = some p → ∃ frame,
      ∀ cause trail, T.outgoing i cause trail (N.peers i) p =
        (T.targets i (N.peers i) none).map (T.wireTo i frame cause trail)) :
    TreeFlood.Start T.graph passes i (N'.flood N.origins.length) := by
  obtain ⟨he, p, hp, rfl⟩ := act_event h
  obtain ⟨-, -, ⟨down, up, hputs⟩, hout⟩ := onEvent_outcome (i := i) hT (hN.consistent i)
    (hN.properIds i) he hp
  have hstart : ∀ (ws : List ι) (m : Bytes), TreeFlood.Targets T.graph passes i none ws →
      T.outgoing i (some N.origins.length) [i] (N.peers i) p =
        ws.map (T.wireTo i m (some N.origins.length) [i]) →
      TreeFlood.Start T.graph passes i
        ((N.record T i p (some N.origins.length) [i]).flood N.origins.length) := by
    intro ws m hws hws'
    refine ⟨ws, hws, ?_⟩
    rw [flood_record_taken hputs hws', hempty]
    simp
  have hspec : TreeFlood.Targets T.graph passes i none (T.targets i (N.peers i) none) :=
    Topology.targets_spec hT (hN.linked i) (fun j _ hj => absurd hj (by simp)) passes
  rcases hout with hout | ⟨ws, message, isBinary, frame, -, -, hout⟩
  · refine hstart [] [] ⟨List.nodup_nil, by simp, fun hpass j hadj hne => ?_⟩ (hout _ _)
    obtain ⟨frame, hframe⟩ := hok hpass p hp
    have hon := hframe none []
    rw [hout] at hon
    have hin := hspec.all hpass j hadj hne
    rw [List.map_eq_nil_iff.mp hon.symm] at hin
    exact absurd hin List.not_mem_nil
  · exact hstart _ _ hspec (hout _ _)

/-- Every frame is flooded from where it came, and no frame comes before its event. -/
structure Floods (T : Topology ι) (N : Net ι PrivateKey PublicKey) : Prop where
  past : ∀ k, N.origins.length ≤ k → N.flood k = ⟨0, [], []⟩
  inv : ∀ k o, N.origins[k]? = some o →
    TreeFlood.Inv T.graph o (fun _ _ => False) (fun _ => False) (N.flood k)

theorem inv_of_arrive (hT : T.IsForest) (hN : N.Sound T J) {o : ι} {opens passes : ι → Prop}
    (h : act T J crypto isAlphanumeric N (.arrive n) = some N')
    (hok : ∀ w, N.wires[n]? = some w → w.cause = some k → w.dst ∉ w.trail →
      opens w.dst ∨ passes w.dst → PassesOn T J crypto N w)
    (hinv : TreeFlood.Inv T.graph o (fun _ v => opens v) passes (N.flood k)) :
    TreeFlood.Inv T.graph o (fun _ v => opens v) passes (N'.flood k) := by
  rcases flood_arrive hT hN h k opens passes hok with heq | hstep
  · rw [heq]; exact hinv
  · exact hinv.step hT.isAcyclic hstep

/-- Every event of the network keeps the floods. -/
theorem Floods.act (hT : T.IsForest) (hN : N.Sound T J) (hF : N.Floods T) {e : NetEvent ι}
    (h : act T J crypto isAlphanumeric N e = some N') : N'.Floods T := by
  cases e with
  | event i e =>
    have horigins : N'.origins = N.origins ++ [i] := by
      obtain ⟨-, p, -, rfl⟩ := act_event h
      rfl
    refine ⟨fun k hk => ?_, fun k o hk => ?_⟩
    · rw [horigins, List.length_append, List.length_singleton] at hk
      rw [flood_event_other hT hN h (by omega)]
      exact hF.past k (by omega)
    · rw [horigins] at hk
      by_cases hlast : k = N.origins.length
      · subst hlast
        obtain rfl : i = o := by
          rw [List.getElem?_append_right (Nat.le_refl _), Nat.sub_self] at hk
          exact Option.some.inj hk
        exact TreeFlood.inv_start _ (flood_event hT hN h
          (hF.past _ (Nat.le_refl _)) False.elim)
      · have hlt : k < (N.origins ++ [i]).length := (List.getElem?_eq_some_iff.mp hk).1
        rw [List.length_append, List.length_singleton] at hlt
        rw [List.getElem?_append_left (by omega)] at hk
        rw [flood_event_other hT hN h hlast]
        exact hF.inv k o hk
  | arrive n =>
    have horigins : N'.origins = N.origins := by
      obtain ⟨w, -, rfl⟩ := act_arrive h
      rfl
    refine ⟨fun k hk => ?_, fun k o hk => ?_⟩
    · rw [horigins] at hk
      rcases flood_arrive hT hN h k (fun _ => False) (fun _ => False)
        (fun _ _ _ _ hnone => (or_self_iff.mp hnone).elim) with heq | hstep
      · rw [heq]; exact hF.past k hk
      · -- nothing of a later frame is under way
        rw [hF.past k hk] at hstep
        generalize N'.flood k = s' at hstep
        generalize hs : (⟨0, [], []⟩ : TreeFlood.State ι) = s at hstep
        cases hstep with
        | drop => exact absurd (TreeFlood.State.mk.inj hs).1.symm (Multiset.cons_ne_zero)
        | take => exact absurd (TreeFlood.State.mk.inj hs).1.symm (Multiset.cons_ne_zero)
    · rw [horigins] at hk
      exact inv_of_arrive hT hN h (fun _ _ _ _ hnone => (or_self_iff.mp hnone).elim) (hF.inv k o hk)

end

/-- Chat servers that have just started, on the links of the tree. -/
structure Starts (T : Topology ι) (N : Net ι PrivateKey PublicKey) : Prop where
  linked : ∀ i, T.Linked i (N.peers i)
  chat : ∀ i, ∃ config, (N.peers i).chat = Server.start config
  wires : N.wires = []
  sent : N.sent = []
  deliveries : N.deliveries = []
  origins : N.origins = []

section

variable {N N' : Net ι PrivateKey PublicKey}

omit [DecidableEq ι] in
theorem Starts.sound (h : N.Starts T) : N.Sound T J := by
  refine ⟨h.linked, fun i => ?_, fun i => ?_, ?_, ?_, ?_⟩
  · obtain ⟨config, hc⟩ := h.chat i
    rw [hc]
    exact Server.consistent_start config
  · obtain ⟨config, hc⟩ := h.chat i
    rw [hc]
    exact Server.properIds_start config
  · rw [h.wires]; simp
  · rw [h.wires]; simp
  · rw [h.wires]; simp

theorem Starts.floods (h : N.Starts T) : N.Floods T := by
  refine ⟨fun k _ => ?_, fun k o hk => ?_⟩
  · rw [flood, h.wires, h.deliveries, h.sent]; rfl
  · rw [h.origins] at hk
    exact absurd hk (by simp)

/-- Every run keeps both. -/
theorem run_sound (hT : T.IsForest) {es : List (NetEvent ι)} (hN : N.Sound T J) (hF : N.Floods T)
    (h : run T J crypto isAlphanumeric N es = some N') : N'.Sound T J ∧ N'.Floods T := by
  induction es generalizing N with
  | nil =>
    obtain rfl := Option.some.inj h
    exact ⟨hN, hF⟩
  | cons e es ih =>
    obtain ⟨N₁, h₁, h₂⟩ := run_cons.mp h
    exact ih (hN.act hT h₁) (hF.act hT hN h₁) h₂

theorem count_taken (N : Net ι PrivateKey PublicKey) (k : ℕ) (i : ι) :
    (N.flood k).taken.count i = N.deliveries.count (i, some k) := by
  rw [flood, List.count, List.countP_map, List.countP_filter, List.count]
  refine List.countP_congr fun d _ => ?_
  simp [Prod.ext_iff]

theorem mem_taken {k : ℕ} {i : ι} : i ∈ (N.flood k).taken ↔ (i, some k) ∈ N.deliveries := by
  rw [← List.count_pos_iff, count_taken, List.count_pos_iff]

theorem count_sent (N : Net ι PrivateKey PublicKey) (k : ℕ) (i j : ι) :
    (N.flood k).sent.count (i, j) =
      N.sent.countP fun w => w.src = i ∧ w.dst = j ∧ w.cause = some k := by
  rw [flood, List.count, List.countP_map, List.countP_filter]
  refine List.countP_congr fun w _ => ?_
  simp [and_assoc]

/-- In every run over a tree of servers, a frame is delivered at most once by every server and never
    by the one it was sent to, and no link carries it twice in one direction. -/
theorem relayed_at_most_once (hT : T.IsForest) (hN : N.Starts T) {es : List (NetEvent ι)}
    (h : run T J crypto isAlphanumeric N es = some N') {k : ℕ} {o : ι}
    (hk : N'.origins[k]? = some o) :
    (o, some k) ∉ N'.deliveries ∧ (∀ i, N'.deliveries.count (i, some k) ≤ 1) ∧
      ∀ i j, N'.sent.countP (fun w => w.src = i ∧ w.dst = j ∧ w.cause = some k) ≤ 1 := by
  have hinv := (run_sound hT hN.sound hN.floods h).2.inv k o hk
  refine ⟨fun hmem => ?_, fun i => ?_, fun i j => ?_⟩
  · have hzero := List.count_eq_zero.mpr hinv.origin_notMem
    rw [count_taken, List.count_eq_zero] at hzero
    exact hzero hmem
  · rw [← count_taken]
    exact List.nodup_iff_count_le_one.mp hinv.nodup i
  · rw [← count_sent]
    exact List.nodup_iff_count_le_one.mp hinv.sent (i, j)

end

end Net

/-! ### A star -/

namespace Topology

/-- A server with two children. -/
def star : Topology (Fin 3) where
  parentOf i := if i = 0 then none else some 0
  linkOf i := i
  childAt p c := if h : c < 3 then (if p = 0 ∧ c ≠ 0 then some ⟨c, h⟩ else none) else none
  childAt_iff p c i := by
    constructor
    · intro h
      split at h
      · split at h
        · next hc =>
          obtain rfl := Option.some.inj h
          obtain ⟨rfl, hne⟩ := hc
          exact ⟨if_neg fun h0 => hne (congrArg Fin.val h0), rfl⟩
        · exact absurd h (by simp)
      · exact absurd h (by simp)
    · rintro ⟨hp, rfl⟩
      split at hp
      · exact absurd hp (by simp)
      · next hi =>
        obtain rfl := Option.some.inj hp
        have hne : (i : ℕ) ≠ 0 := fun h0 => hi (Fin.ext h0)
        rw [dif_pos i.isLt, if_pos ⟨rfl, hne⟩]

theorem isForest_star : star.IsForest := by
  refine ⟨Fin.val, fun i p h => ?_⟩
  change (if i = 0 then none else some 0) = some p at h
  split at h
  · exact absurd h (by simp)
  · next hi =>
    obtain rfl := Option.some.inj h
    exact Nat.pos_of_ne_zero fun h0 => hi (Fin.ext h0)

end Topology

namespace Net

/-- The servers of the star, linked. -/
def star : Net (Fin 3) Char Char where
  peers i := if i = 0 then {
      chat := Server.start { server_id := some "S0", enable_super_server := true }
      children := { clientData := (Table.empty.insert "a" 1).insert "b" 2
                    children := fun _ => { m_s2s_authed := true } } }
    else {
      chat := Server.start
        { server_id := some (if i = 1 then "S1" else "S2"), enable_persistant_relay := true }
      parent := { parentWs := some .isOpen } }

theorem starts_star : star.Starts Topology.star := by
  refine ⟨fun i => ?_, fun i => ?_, rfl, rfl, rfl, rfl⟩
  · fin_cases i
    · refine ⟨by decide, by decide +kernel, fun j hj => ?_, fun j _ => ⟨rfl, rfl⟩, by decide,
        fun _ _ => rfl⟩
      fin_cases j
      · exact absurd hj (by decide)
      · decide +kernel
      · decide +kernel
    · refine ⟨fun _ => rfl, by decide +kernel, fun j hj => ?_, fun j hj => ?_, fun _ => rfl,
        fun j hj => ?_⟩ <;>
      · fin_cases j <;> exact absurd hj (by decide)
    · refine ⟨fun _ => rfl, by decide +kernel, fun j hj => ?_, fun j hj => ?_, fun _ => rfl,
        fun j hj => ?_⟩ <;>
      · fin_cases j <;> exact absurd hj (by decide)
  · fin_cases i
    · exact ⟨_, rfl⟩
    · exact ⟨_, rfl⟩
    · exact ⟨_, rfl⟩

/-- A unit logs in at a child. -/
def starJoined : List (NetEvent (Fin 3)) :=
  [.event 1 (Server.announceUnit "k1"), .event 1 (.connect "/?f=k1&s=drone" "peer")]

/-- Its frame gets to the root and to the other child. -/
def starEvents : List (NetEvent (Fin 3)) :=
  starJoined ++ [.event 1 (.message 0 (Server.broadcastFrame []) false), .arrive 0, .arrive 0,
    .arrive 0]

/-- The root passes the frame on to the other child, which sends it back. -/
theorem relayed_at_most_once_star : ∃ N,
    run Topology.star Text.codec Crypto.sealing Server.isAsciiAlphanumeric star starEvents = some N ∧
    N.origins[2]? = some 1 ∧
    N.deliveries = [(2, some 2), (0, some 2)] ∧ (1, some 2) ∉ N.deliveries ∧
    (∀ i, N.deliveries.count (i, some 2) ≤ 1) ∧
    ∀ i j, N.sent.countP (fun w => w.src = i ∧ w.dst = j ∧ w.cause = some 2) ≤ 1 := by
  have h : (run Topology.star Text.codec Crypto.sealing Server.isAsciiAlphanumeric star
      starEvents).map (fun N => (N.origins, N.deliveries)) =
      some ([1, 1, 1], [((2 : Fin 3), some 2), (0, some 2)]) := by decide +kernel
  obtain ⟨N, hN, hf⟩ := Option.map_eq_some_iff.mp h
  obtain ⟨horigins, hdeliveries⟩ := Prod.mk.inj hf
  have hk : N.origins[2]? = some 1 := by
    rw [horigins]
    rfl
  exact ⟨N, hN, hk, hdeliveries, relayed_at_most_once Topology.isForest_star starts_star hN hk⟩

end Net

end DroneEngage
