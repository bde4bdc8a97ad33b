import DroneEngage.Forwarding

/-! What the units of a room can do to the others.

    A client's frame may hold anything, and it leads to sends, to dead members that are removed, to a
    logout, to proxy requests and to storage commands. All of it stays with the sockets of the room that
    the client is in: nothing is sent to any other socket, no other one is closed, and the members of
    every other room stay where they are. -/

namespace DroneEngage
open Js

/-- The client socket that an effect is about. -/
def Effect.socket? : Effect → Option SocketId
  | .send v _ _ | .close v | .terminate v | .storageCommand v _ => some v
  | _ => none

namespace Server

open Action

/-- The sockets of a room: those that say they are in it, and those it lists. -/
def around (s : Server) (g : GroupId) : Set SocketId :=
  {v | (s.sockets v).group = some g ∨ ∃ k, (s.groupHeap g).units.own? k = some v}

/-- Sockets that have logged in and are in no other room than `g`, which lists no others. -/
structure Circle (g : GroupId) (V : Set SocketId) (s : Server) : Prop where
  group : ∀ v ∈ V, (s.sockets v).group = some g ∨ (s.sockets v).group = none
  listed : ∀ k v, (s.groupHeap g).units.own? k = some v → v ∈ V
  quiet : ∀ v ∈ V, (s.sockets v).authFrameHandler = false

/-- Only the room and these sockets are concerned. -/
structure Within (g : GroupId) (V : Set SocketId) (s s' : Server) : Prop where
  sockets : ∀ v ∉ V, s'.sockets v = s.sockets v
  groups : ∀ h, h ≠ g → s'.groupHeap h = s.groupHeap h
  ID : (s'.groupHeap g).ID = (s.groupHeap g).ID
  accounts : s'.accounts = s.accounts
  /-- the rooms of other ids are listed as before -/
  rows : ∀ a l, propKey (s.groupHeap g).ID ≠ .ok l →
    (s'.accountHeap a).groups.own? l = (s.accountHeap a).groups.own? l
  log : Logs (fun e => ∀ v, e.socket? = some v → v ∈ V) s s'

/-- What starts in the circle stays in it. -/
def Confined (g : GroupId) (V : Set SocketId) (s s' : Server) : Prop :=
  s.Circle g V → s'.Circle g V ∧ Within g V s s'

section

variable {g : GroupId} {V : Set SocketId}

theorem Within.refl (s : Server) : Within g V s s :=
  ⟨fun _ _ => rfl, fun _ _ => rfl, rfl, rfl, fun _ _ _ => rfl, refl_of (Logs _) s⟩

theorem Within.trans {s s₁ s' : Server} (h : Within g V s s₁) (h' : Within g V s₁ s') :
    Within g V s s' :=
  ⟨fun v hv => (h'.sockets v hv).trans (h.sockets v hv),
    fun k hk => (h'.groups k hk).trans (h.groups k hk), h'.ID.trans h.ID,
    h'.accounts.trans h.accounts,
    fun a l hl => (h'.rows a l (by rw [h.ID]; exact hl)).trans (h.rows a l hl),
    trans_of (Logs _) h.log h'.log⟩

instance : IsPreorder Server (Confined g V) where
  refl := fun s hs => ⟨hs, .refl s⟩
  trans := fun _ _ _ h h' hs => ⟨(h' (h hs).1).1, (h hs).2.trans (h' (h hs).1).2⟩

/-! ### State changes -/

variable {v ws : SocketId}

theorem confined_emit {e : Effect} (he : ∀ v, e.socket? = some v → v ∈ V) :
    Moves (Confined g V) (modify (emit e)) := fun s hs =>
  ⟨⟨hs.group, hs.listed, hs.quiet⟩,
    ⟨fun _ _ => rfl, fun _ _ => rfl, rfl, rfl, fun _ _ _ => rfl, logs_emit he s⟩⟩

/-- The table of UDP proxies is not looked at. -/
theorem confined_udp (f : Server → Table UdpEntry) :
    Moves (Confined g V) (modify fun s => { s with activeUdpProxy := f s }) := fun _ hs =>
  ⟨⟨hs.group, hs.listed, hs.quiet⟩,
    ⟨fun _ _ => rfl, fun _ _ => rfl, rfl, rfl, fun _ _ _ => rfl, logs_of_eq rfl⟩⟩

theorem confined_setSocket (hv : v ∈ V) {f : Socket → Socket}
    (hgroup : ∀ w, (f w).group = w.group ∨ (f w).group = none)
    (hquiet : ∀ w, (f w).authFrameHandler = w.authFrameHandler) (s : Server) :
    Confined g V s (setSocket v f s) := by
  intro hs
  have hother : ∀ w, w ≠ v → (setSocket v f s).sockets w = s.sockets w := fun w hw =>
    setSocket_ne v w f s hw
  refine ⟨⟨fun w hw => ?_, hs.listed, fun w hw => ?_⟩,
    ⟨fun w hw => hother w ?_, fun _ _ => rfl, rfl, rfl, fun _ _ _ => rfl, logs_of_eq rfl⟩⟩
  · by_cases hwv : w = v
    · subst hwv
      rw [setSocket_self]
      rcases hgroup (s.sockets w) with h | h
      · rw [h]; exact hs.group w hw
      · exact Or.inr h
    · rw [hother w hwv]; exact hs.group w hw
  · by_cases hwv : w = v
    · subst hwv
      rw [setSocket_self, hquiet]
      exact hs.quiet w hw
    · rw [hother w hwv]; exact hs.quiet w hw
  · rintro rfl
    exact hw hv

theorem confined_unlink {k : String} (hv : v ∈ V) (s : Server) :
    Confined g V s (unlink g k v s) := by
  have hrows : Confined g V s (setGroup g (fun G => { G with units := G.units.delete k }) s) := by
    intro hs
    refine ⟨⟨hs.group, fun l w hw => ?_, hs.quiet⟩,
      ⟨fun _ _ => rfl, fun h hh => ?_, ?_, rfl, fun _ _ _ => rfl, logs_of_eq rfl⟩⟩
    · rw [setGroup_groupHeap, if_pos rfl] at hw
      exact hs.listed l w (Table.own?_delete_imp hw)
    · rw [setGroup_groupHeap, if_neg hh]
    · rw [setGroup_groupHeap, if_pos rfl]
  exact trans_of (Confined g V) hrows
    (confined_setSocket (f := fun w => { w with group := none }) hv (fun _ => Or.inr rfl)
      (fun _ => rfl) _)

/-! ### Calls -/

theorem confined_send (hv : v ∈ V) (message : Bytes) (isBinary : Bool) :
    Moves (Confined g V) (send v message isBinary) := by
  refine moves_bind (confined_emit ?_) fun _ => moves_bind moves_get fun _ =>
    moves_ite (fun _ => moves_throw _) fun _ => moves_pure ()
  rintro w ⟨⟩
  exact hv

theorem confined_terminateSocket (hv : v ∈ V) : Moves (Confined g V) (terminateSocket v) := by
  intro s
  have hsocket : Confined g V s (setSocket v (fun w =>
      if w.readyState = .isOpen then { w with readyState := .closing } else w) s) := by
    refine confined_setSocket hv (fun w => ?_) (fun w => ?_) s
    · split
      · exact Or.inl rfl
      · exact Or.inl rfl
    · split
      · rfl
      · rfl
  refine trans_of (Confined g V) hsocket (confined_emit (e := .terminate v) ?_ _)
  rintro w ⟨⟩
  exact hv

theorem confined_dropIfEmpty : Moves (Confined g V) (dropIfEmpty g) := by
  intro s hs
  have hsockets := dropIfEmpty_sockets g s
  have hgroups := dropIfEmpty_groupHeap g s
  have hlog : ((dropIfEmpty g).final s).log = s.log := by
    rw [dropIfEmpty, final_get_bind]
    split
    · cases propKey (s.groupHeap g).ID with
      | error e => rfl
      | ok id => rfl
    · rfl
  refine ⟨⟨?_, ?_, ?_⟩, ⟨fun _ _ => by rw [hsockets], fun _ _ => by rw [hgroups], by rw [hgroups],
    dropIfEmpty_accounts g s, fun a l hl => ?_, logs_of_eq hlog⟩⟩
  · rw [hsockets]; exact hs.group
  · rw [hgroups]; exact hs.listed
  · rw [hsockets]; exact hs.quiet
  · exact (dropIfEmpty_groups g s a l).resolve_right fun h => hl h.2.1

theorem confined_deleteMemberByName (unitname : Val) (terminate : Bool) :
    Moves (Confined g V) (deleteMemberByName g unitname terminate) := by
  intro s hs
  rcases deleteMemberByName_final g unitname terminate s with ⟨-, hfin⟩ | ⟨k, v, hfound, hfin⟩
  · rw [hfin]
    exact refl_of (Confined g V) s hs
  · have hv : v ∈ V := hs.listed k v (memberNamed_found hfound).2.1
    have hrest : Moves (Confined g V) (do
        dropIfEmpty g
        if terminate then
          modify (setSocket v fun w => { w with terminated := true })
          terminateSocket v
        else pure () : Action Server Unit) :=
      moves_bind confined_dropIfEmpty fun _ => moves_ite (fun _ =>
        moves_bind (moves_modify (confined_setSocket hv (fun _ => Or.inl rfl) fun _ => rfl)) fun _ =>
          confined_terminateSocket hv) fun _ => moves_pure ()
    rw [hfin]
    exact trans_of (Confined g V) (confined_unlink hv s) (hrest _) hs

theorem confined_handleOrphanSocket (hv : v ∈ V) : Moves (Confined g V) (handleOrphanSocket v) := by
  refine moves_attempt (moves_get_bind fun s hs => ?_) fun _ => moves_pure ()
  rcases hs.group v hv with hg | hg
  · have hrest : Moves (Confined g V) (do
        deleteMemberByName g (s.sockets v).name false
        modify (setSocket v fun w => { w with name := none })
        terminateSocket v : Action Server Unit) :=
      moves_bind (confined_deleteMemberByName _ false) fun _ =>
        moves_bind (moves_modify (confined_setSocket hv (fun _ => Or.inl rfl) fun _ => rfl)) fun _ =>
          confined_terminateSocket hv
    rw [hg]
    exact hrest s hs
  · rw [hg]
    exact refl_of (Confined g V) s hs

theorem confined_delMemberFromGroup (hv : v ∈ V) : Moves (Confined g V) (delMemberFromGroup v) := by
  refine moves_get_bind fun s hs => ?_
  rcases hs.group v hv with hg | hg
  · rw [hg]
    dsimp only
    split
    · exact confined_setSocket (f := fun w => { w with group := none }) hv (fun _ => Or.inr rfl)
        (fun _ => rfl) s hs
    · exact confined_deleteMemberByName _ false s hs
  · rw [hg]
    exact refl_of (Confined g V) s hs

/-! ### Messages -/

theorem confined_broadcastTo (hv : v ∈ V) (message : Bytes) (isBinary : Bool)
    (senderID : SenderRef) (actorType : Option String) :
    Moves (Confined g V) (broadcastTo message isBinary senderID actorType v) := by
  refine moves_attempt (moves_bind moves_get fun s => ?_) fun _ => confined_handleOrphanSocket hv
  cases (s.sockets v).loginRequest with
  | none => exact moves_throw _
  | some login => exact moves_ite (fun _ => confined_send hv _ _) fun _ => moves_pure ()

theorem confined_broadcast (message : Bytes) (isBinary : Bool) (senderID : SenderRef)
    (actorType : Option String) :
    Moves (Confined g V) (broadcast g message isBinary senderID actorType) := by
  refine moves_bind moves_get fun _ => moves_forEach _ fun k _ => moves_get_bind fun s hs => ?_
  cases hv : (s.groupHeap g).units.own? k with
  | none => exact refl_of (Confined g V) s hs
  | some v =>
    exact confined_broadcastTo (hs.listed k v hv) message isBinary senderID actorType s hs

theorem confined_sendToIndividual (message : Bytes) (isBinary : Bool) (target : Val)
    {onNotFound : Action Server Unit} (hnone : Moves (Confined g V) onNotFound) :
    Moves (Confined g V) (sendToIndividual g message isBinary target onNotFound) := by
  refine moves_attempt (moves_get_bind fun s hs => ?_) fun _ => moves_throw _
  cases hslot : (s.groupHeap g).units.index s.proto target with
  | error e => exact refl_of (Confined g V) s hs
  | ok slot =>
    rw [final_ok_bind]
    cases slot with
    | own v =>
      obtain ⟨k, -, hv⟩ := index_own hslot
      exact confined_send (hs.listed k v hv) message isBinary s hs
    | inherited => exact refl_of (Confined g V) s hs
    | absent => exact hnone s hs

theorem confined_forwardMessage (J : JsonCodec) (m : Bytes) (b : Bool) (ws : SocketId) :
    Moves (Confined g V) (forwardMessage J m b ws) :=
  moves_bind moves_get fun _ => moves_ite (fun _ => moves_pure ()) fun _ =>
    moves_bind (moves_when fun _ => confined_emit (by rintro v ⟨⟩)) fun _ =>
      moves_when fun _ => confined_emit (by rintro v ⟨⟩)

theorem confined_udpProxyCommand (J : JsonCodec) (hws : ws ∈ V) (jmsg : Json) :
    Moves (Confined g V) (udpProxyCommand J jmsg ws) := by
  have hreply : ∀ jmsg ms, Moves (Confined g V) (replyUdpProxy J jmsg ms ws) := fun _ _ =>
    moves_bind moves_get fun _ => confined_send hws _ _
  refine moves_bind moves_get fun s => ?_
  cases (s.sockets ws).loginRequest with
  | none => exact moves_throw _
  | some login =>
    refine moves_ite (fun _ => moves_pure ()) fun _ => moves_bind (moves_ofExcept _) fun en =>
      moves_ite (fun _ => ?_) fun _ => moves_ite (fun _ => ?_) fun _ => moves_pure ()
    · refine moves_bind (moves_ofExcept _) fun ms =>
        moves_bind (moves_getUDPSocket confined_udp _ _ _) fun report => ?_
      cases report with
      | none => exact moves_pure ()
      | some report => exact hreply _ _
    · exact moves_bind (moves_closeUDPSocket confined_udp _) fun _ => hreply _ _

theorem confined_onSystemMessage (J : JsonCodec) (hws : ws ∈ V) (jmsg : Json) :
    Moves (Confined g V) (onSystemMessage J jmsg ws) := by
  refine moves_attempt ?_ fun _ => moves_pure ()
  split
  · exact confined_udpProxyCommand J hws jmsg
  · exact moves_bind (moves_ofExcept _) fun _ => confined_send hws _ _
  · exact moves_throw _
  · exact moves_bind (confined_delMemberFromGroup hws) fun _ => confined_send hws _ _
  · exact moves_bind moves_get fun _ => moves_ite (fun _ => moves_pure ()) fun _ =>
      moves_bind (moves_ofExcept _) fun _ => confined_send hws _ _
  · refine moves_ite (fun _ => confined_emit ?_) fun _ => moves_pure ()
    rintro v ⟨⟩
    exact hws
  · exact moves_pure ()

theorem confined_dispatch (J : JsonCodec) (hws : ws ∈ V) (route : Route) (jmsg : Json)
    (message : Bytes) (isBinary : Bool) :
    Moves (Confined g V) (dispatch J route jmsg message isBinary ws) := by
  have hrelay := confined_forwardMessage (g := g) (V := V) J message isBinary ws
  cases route with
  | broadcast actorType =>
    refine moves_bind (moves_attempt (moves_get_bind fun s hs => ?_) fun _ => moves_pure ())
      fun _ => hrelay
    rcases hs.group ws hws with hg | hg
    · rw [hg]
      cases (s.sockets ws).loginRequest with
      | none => exact refl_of (Confined g V) s hs
      | some login => exact confined_broadcast message isBinary _ actorType s hs
    · rw [hg]
      exact refl_of (Confined g V) s hs
  | individual target =>
    refine moves_attempt (moves_get_bind fun s hs => ?_) fun _ => moves_pure ()
    rcases hs.group ws hws with hg | hg
    · rw [hg]
      exact confined_sendToIndividual message isBinary target hrelay s hs
    · rw [hg]
      exact refl_of (Confined g V) s hs
  | system => exact confined_onSystemMessage J hws jmsg
  | nowhere => exact moves_pure ()

theorem confined_parseMessage (J : JsonCodec) (hws : ws ∈ V) (message : Bytes) (isBinary : Bool) :
    Moves (Confined g V) (parseMessage J ws message isBinary) := by
  refine moves_bind moves_get fun s => ?_
  split
  · exact moves_pure ()
  · exact moves_attempt (moves_bind (moves_ofExcept _) fun _ => confined_dispatch J hws _ _ _ _)
      fun _ => moves_pure ()

end

/-! ### Runs -/

section

variable {J : JsonCodec} {isAlphanumeric : String → Bool} {s s' : Server} {g : GroupId}
  {V : Set SocketId}

/-- The sockets of a room and the room make a circle. -/
theorem Consistent.circle (hs : s.Consistent) (g : GroupId) : s.Circle g (s.around g) := by
  have hlogged : ∀ v ∈ s.around g, ∃ login, (s.sockets v).loginRequest = some login := by
    rintro v (hg | ⟨k, hv⟩)
    · obtain ⟨login, hl, -⟩ := hs.room v g hg
      exact ⟨login, hl⟩
    · obtain ⟨login, hl, -⟩ := hs.member g k v hv
      exact ⟨login, hl⟩
  refine ⟨?_, fun k v hv => Or.inr ⟨k, hv⟩, fun v hv => ?_⟩
  · rintro v (hg | ⟨k, hv⟩)
    · exact Or.inl hg
    · exact hs.home g k v hv
  · rw [Bool.eq_false_iff]
    intro htrue
    obtain ⟨login, hl⟩ := hlogged v hv
    exact absurd (hl.symm.trans (hs.waiting v htrue)) (by simp)

/-- A frame of one of the sockets. -/
theorem confined_message {ws : SocketId} (hws : ws ∈ V) (message : Bytes) (isBinary : Bool)
    (h : step J isAlphanumeric s (.message ws message isBinary) = some s') : Confined g V s s' := by
  intro hs
  rcases step_eq_some h with ⟨-, rfl⟩ | ⟨-, rfl⟩
  · rw [messageEvent_parts, hs.quiet ws hws]
    exact moves_when (fun _ => confined_parseMessage J hws message isBinary) s hs
  · exact refl_of (Confined g V) _ hs

/-- Whatever the sockets of a room send, in whatever order, nothing happens to any other socket or
    any other room: nothing is sent to it, it is not closed, and it is listed where it was; the rooms
    of other ids are still found. -/
theorem room_confined {config : Config} {es : List Event} {fs : List (SocketId × Bytes × Bool)}
    (h : run J isAlphanumeric (start config) es = some s) (hfs : ∀ x ∈ fs, x.1 ∈ s.around g)
    (h' : run J isAlphanumeric s (fs.map fun x => .message x.1 x.2.1 x.2.2) = some s') :
    Within g (s.around g) s s' := by
  have hrun : ∀ {V t}, (∀ x ∈ fs, x.1 ∈ V) →
      run J isAlphanumeric t (fs.map fun x => .message x.1 x.2.1 x.2.2) = some s' →
      Confined g V t s' := by
    intro V
    clear hfs h'
    induction fs with
    | nil =>
      intro t _ ht
      obtain rfl := Option.some.inj ht
      exact refl_of (Confined g V) t
    | cons x fs ih =>
      intro t hV ht
      rw [List.map_cons, run_cons] at ht
      obtain ⟨t₁, hstep, hrest⟩ := Option.bind_eq_some_iff.mp ht
      exact trans_of (Confined g V)
        (confined_message (hV x List.mem_cons_self) x.2.1 x.2.2 hstep)
        (ih (fun y hy => hV y (List.mem_cons_of_mem x hy)) hrest)
  exact (hrun hfs h' ((consistent_run J isAlphanumeric h).circle g)).2

end

/-- A unit of another group logs in beside the unit of group 1. -/
def neighboursRun : List Event :=
  joinedRun ++ [.authMessage (Text.stringify (.obj [("c", .str "b"),
    ("d", .obj [("a", .str "acc"), ("b", .str "2"), ("r", .str "q"), ("at", .str "g")])])) "k2",
    .connect "/?f=k2&s=neighbour" "peer"]

/-- A broadcast and a logout in group 1 are nothing to the unit in group 2. -/
theorem room_confined_neighbours : ∃ s s',
    run Text.codec isAsciiAlphanumeric (start {}) neighboursRun = some s ∧
    run Text.codec isAsciiAlphanumeric s ([(0, broadcastFrame [], false),
      (0, Text.stringify (.obj [("ty", .str "s"), ("mt", .num "9006")]), false)].map
        fun x => .message x.1 x.2.1 x.2.2) = some s' ∧
    (s.sockets 0).group = some 0 ∧ (s'.sockets 0).group = none ∧
    (s.groupHeap 1).units.own? "neighbour" = some 1 ∧ s'.sockets 1 = s.sockets 1 ∧
    s'.groupHeap 1 = s.groupHeap 1 := by
  have h : (run Text.codec isAsciiAlphanumeric (start {}) neighboursRun).map (fun s =>
      ((s.sockets 0).group, (s.sockets 1).group, (s.groupHeap 1).units.own? "neighbour",
        (s.groupHeap 0).units.own? "drone", (s.groupHeap 0).units.keys)) =
      some (some 0, some 1, some 1, some 0, ["drone"]) := by decide +kernel
  have h' : (run Text.codec isAsciiAlphanumeric (start {}) (neighboursRun ++
      [(0, broadcastFrame [], false),
        (0, Text.stringify (.obj [("ty", .str "s"), ("mt", .num "9006")]), false)].map
        fun x => .message x.1 x.2.1 x.2.2)).map (fun s => (s.sockets 0).group) = some none := by
    decide +kernel
  obtain ⟨s, hs, hf⟩ := Option.map_eq_some_iff.mp h
  obtain ⟨s', hs', hleft⟩ := Option.map_eq_some_iff.mp h'
  simp only [Prod.mk.injEq] at hf
  obtain ⟨hzero, hone, hrow, hdrone, hkeys⟩ := hf
  rw [run_append, hs] at hs'
  have hwithin := room_confined (g := 0) hs (by simp [around, hzero]) hs'
  have hout : 1 ∉ s.around 0 := by
    rintro (hg | ⟨k, hk⟩)
    · rw [hone] at hg
      exact absurd hg (by simp)
    · have hmem := Table.mem_keys_iff.mpr ⟨1, hk⟩
      rw [hkeys, List.mem_singleton] at hmem
      rw [hmem, hdrone] at hk
      exact absurd hk (by decide)
  exact ⟨s, s', hs, hs', hzero, hleft, hrow, hwithin.sockets 1 hout, hwithin.groups 1 (by decide)⟩

end Server

end DroneEngage
