import DroneEngage.FanOut
import DroneEngage.RelayAgreement

/-! Routing of a local message.

    Whom a message is for is a matter of its routing type, its target and the role of its sender
    (`Recipients`). The code works it out in nested switches and leaves the exclusion of the sender to
    the loop over the members, by sender id. The relay is called with the same message afterwards, or
    instead: what is said here about local delivery holds whatever the relay does, so it is an argument
    (`parseMessageVia`). -/

namespace DroneEngage
open Js

/-! ### Whom a message is for -/

/-- Whom a message is for, among the members of the sender's room. -/
inductive Recipients where
  /-- the other members with an actor type, or all others -/
  | others (actorType : Option String)
  /-- the member with this name -/
  | member (name : String)

/-- Whom a message without a target is for. -/
def Recipients.byDefault (role : String) : Recipients :=
  if role = Const.actorGCS then .others none else .others (some Const.actorGCS)

/-- Whom a message routed `g` or `i` is for, if its sender has the role. -/
def recipients (role : String) (jmsg : Json) : Recipients :=
  if jmsg.field Const.routing = some (.str Const.routingGroup) then .byDefault role
  else match jmsg.field Const.targetID with
    | some (.str target) =>
      if target = "" then .byDefault role
      else if target = Const.senderAllGCS then .others (some Const.actorGCS)
      else if target = Const.senderAll then .others none
      else if target = Const.senderAllAgents then .others (some Const.actorDrone)
      else .member target
    | _ => .byDefault role

namespace Server

open Action

/-- The socket is one of the recipients of a message that `ws` sends to its room `g`. -/
def Addresses (s : Server) (g : GroupId) (ws : SocketId) : Recipients → SocketId → Prop
  | .others actorType, v => v ≠ ws ∧ (∃ k, (s.groupHeap g).units.own? k = some v) ∧
    ∃ login, (s.sockets v).loginRequest = some login ∧ login.Hears actorType
  | .member name, v => (s.groupHeap g).units.own? name = some v

/-- A message for a member of the room stays on the server; all others leave it too. -/
def leaves (s : Server) (g : GroupId) : Recipients → Bool
  | .others _ => true
  | .member name => ((s.groupHeap g).units.own? name).isNone

/-! ### The routing code over any relay -/

section

variable (J : JsonCodec) (forward : Bytes → Bool → SocketId → Action Server Unit)

/-- `dispatch`, where `forward` stands for `forwardMessage`. -/
def dispatchVia (route : Route) (jmsg : Json) (message : Bytes) (isBinary : Bool)
    (ws : SocketId) : Action Server Unit :=
  match route with
  | .broadcast actorType => do
    sendMessageToMyGroup actorType message isBinary ws
    forward message isBinary ws
  | .individual target =>
    sendMessageToTarget message isBinary target ws (forward message isBinary ws)
  | .system => onSystemMessage J jmsg ws
  | .nowhere => pure ()

/-- `fn_parseMessage`, where `forward` stands for `forwardMessage`. -/
def parseMessageVia (ws : SocketId) (message : Bytes) (isBinary : Bool) :
    Action Server Unit := do
  let s ← get
  match s.injectPermission J ws message isBinary with
  | none => pure ()
  | some (login, jmsg, message') =>
    attempt
      (do
        let route ← ofExcept (localRoute login.actorType jmsg)
        dispatchVia J forward route jmsg message' isBinary ws)
      fun _ => pure ()

theorem parseMessage_eq_via (ws : SocketId) (message : Bytes) (isBinary : Bool) :
    parseMessage J ws message isBinary =
      parseMessageVia J (forwardMessage J) ws message isBinary := rfl

end

/-! ### A broadcast without dead sockets -/

section

variable {message : Bytes} {isBinary : Bool} {senderID : SenderRef} {actorType : Option String}
  {s : Server} {g : GroupId} {ws v : SocketId} {k : String}

/-- `Wanted`, as the loop computes it. -/
def isWanted (s : Server) (senderID : SenderRef) (actorType : Option String) (v : SocketId) : Bool :=
  match (s.sockets v).loginRequest with
  | none => false
  | some login => wants login v senderID actorType

theorem isWanted_iff : s.isWanted senderID actorType v = true ↔ s.Wanted senderID actorType v := by
  rw [isWanted, Wanted]
  cases (s.sockets v).loginRequest with
  | none => simp
  | some login => simp

variable (message isBinary senderID actorType g) in
/-- The loop over some of the rows. -/
theorem forEach_clean (hs : s.RoomsInvariant) (hsends : ∀ v, s.sendFails v = false) :
    ∀ (rows : List (String × SocketId)) (l : List Effect),
      (∀ r ∈ rows, (s.groupHeap g).units.own? r.1 = some r.2) →
      (forEach (rows.map Prod.fst) (broadcastRound g message isBinary senderID actorType)).final
        { s with log := l } =
      { s with
        log := l ++ ((rows.map Prod.snd).filter (s.isWanted senderID actorType)).map
          (.send · message isBinary) } := by
  intro rows
  induction rows with
  | nil =>
    intro l hrows
    rw [List.map_nil, List.map_nil, List.filter_nil, List.map_nil, List.append_nil]
    rfl
  | cons r rest ih =>
    intro l hrows
    obtain ⟨k, v⟩ := r
    have hu : (s.groupHeap g).units.own? k = some v := hrows _ List.mem_cons_self
    obtain ⟨-, -, login, hl, -⟩ := hs.entry hu
    have hturn : (broadcastRound g message isBinary senderID actorType k).final
        { s with log := l } = if s.isWanted senderID actorType v then
          { s with log := l ++ [.send v message isBinary] } else { s with log := l } := by
      rw [broadcastRound, final_get_bind]
      dsimp only
      rw [hu]
      dsimp only
      rw [broadcastTo_final (s := { s with log := l }) hl, isWanted, hl]
      split
      · rw [if_neg]
        · rfl
        · rw [Bool.not_eq_true]
          exact hsends v
      · rfl
    have hlater := fun l => ih l fun r hr => hrows r (List.mem_cons_of_mem _ hr)
    rw [List.map_cons, final_forEach_cons (round_goes g message isBinary senderID actorType), hturn,
      List.map_cons]
    by_cases hw : s.isWanted senderID actorType v = true
    · rw [if_pos hw, hlater, List.filter_cons_of_pos hw, List.map_cons, List.append_assoc]
      rfl
    · rw [if_neg hw, hlater, List.filter_cons_of_neg hw]

variable (message isBinary senderID actorType g) in
/-- The members that a broadcast reaches. -/
theorem RoomsInvariant.broadcast_clean (hs : s.RoomsInvariant)
    (hsends : ∀ v, s.sendFails v = false) : ∃ vs : List SocketId, vs.Nodup ∧
      (∀ v, v ∈ vs ↔ v ∈ s.wantedIn senderID actorType g) ∧
      broadcast g message isBinary senderID actorType s =
        (.ok (), { s with log := s.log ++ vs.map (.send · message isBinary) }) := by
  refine ⟨(s.groupHeap g).units.values.filter (s.isWanted senderID actorType), ?_, fun v => ?_, ?_⟩
  · have hrows : (s.groupHeap g).units.rows.Nodup := .of_map _ (s.groupHeap g).units.nodup
    refine (hrows.map_on fun r hr r' hr' hsame => ?_).filter _
    obtain ⟨k, v⟩ := r
    obtain ⟨k', v'⟩ := r'
    obtain rfl : v = v' := hsame
    obtain rfl := (hs.row_eq (Table.own?_of_mem_rows hr) (Table.own?_of_mem_rows hr')).2
    rfl
  · rw [List.mem_filter, Table.mem_values_iff, isWanted_iff]
    rfl
  · have hfinal := forEach_clean message isBinary senderID actorType g hs hsends
      (s.groupHeap g).units.rows s.log fun r hr => Table.own?_of_mem_rows hr
    exact (run_of_not_escapes (not_escapes_forEach _
      (round_goes g message isBinary senderID actorType))).trans (congrArg _ hfinal)

end

/-! ### The route of a message -/

/-- The route that leads to the recipients. -/
def routeTo : Recipients → Route
  | .others actorType => .broadcast actorType
  | .member name => .individual (some (.str name))

/-- The message is routed `g`, or `i` without a target or with a text for one. -/
structure WellRouted (jmsg : Json) : Prop where
  plain : jmsg.owns "hasOwnProperty" = false
  routing : jmsg.field Const.routing = some (.str Const.routingGroup) ∨
    jmsg.field Const.routing = some (.str Const.routingIndividual) ∧
      (jmsg.field Const.targetID = none ∨ ∃ target, jmsg.field Const.targetID = some (.str target))

section

variable {role : String} {fs : List (String × Json)}

theorem routeTo_byDefault (hrole : role = Const.actorGCS ∨ role = Const.actorDrone) :
    (if some (Json.str role) = some (.str Const.actorDrone) then
        .ok (.broadcast (some Const.actorGCS))
      else if some (Json.str role) = some (.str Const.actorGCS) then .ok (.broadcast none)
      else .ok .nowhere : Except JsError Route) = .ok (routeTo (.byDefault role)) := by
  rcases hrole with rfl | rfl
  · rfl
  · rfl

/-- The nested switches lead to the recipients. -/
theorem WellRouted.localRoute_eq (h : WellRouted (.obj fs))
    (hrole : role = Const.actorGCS ∨ role = Const.actorDrone) :
    localRoute (some (.str role)) (.obj fs) = .ok (routeTo (recipients role (.obj fs))) := by
  rcases h.routing with hg | ⟨hi, htarget⟩
  · rw [localRoute, if_pos hg, recipients, if_pos hg]
    rcases hrole with rfl | rfl
    · rfl
    · rfl
  · have hng := routing_ne hi
    rw [localRoute, if_neg hng, if_pos hi, hasTarget_plain h.plain, recipients, if_neg hng, Json.owns]
    rcases htarget with hnone | ⟨target, htarget⟩
    · rw [hnone]
      exact routeTo_byDefault hrole
    · rw [htarget]
      by_cases hempty : target = ""
      · rw [hempty]
        exact routeTo_byDefault hrole
      · -- a target that is not empty
        have hlength : lengthGtZero (some (.str target)) = .ok true :=
          congrArg Except.ok (decide_eq_true hempty)
        rw [if_pos (Option.isSome_some (a := Json.str target)), hlength]
        change Except.ok (targetRoute (some (.str target))) = Except.ok (routeTo (if target = "" then
          .byDefault role else _))
        rw [targetRoute, if_neg hempty]
        simp only [Option.some.injEq, Json.str.injEq, apply_ite routeTo]
        rfl

variable (role) in
/-- The permission field is read by neither. -/
theorem WellRouted.withPermission (h : WellRouted (.obj fs)) (prm : Val) :
    ∃ gs, (Json.obj fs).setField "p" prm = .obj gs ∧ WellRouted (.obj gs) ∧
      recipients role (.obj gs) = recipients role (.obj fs) := by
  obtain ⟨gs, hgs⟩ := Json.setField_obj fs "p" prm
  have hsame : ∀ k, k ≠ "p" → (Json.obj gs).field k = (Json.obj fs).field k := by
    intro k hk
    rw [← hgs, Json.field_setField_ne _ _ hk]
  have hrouting := hsame Const.routing (by decide)
  have htarget := hsame Const.targetID (by decide)
  refine ⟨gs, hgs, ⟨?_, ?_⟩, ?_⟩
  · rw [Json.owns, hsame _ (by decide)]
    exact h.plain
  · rw [hrouting, htarget]
    exact h.routing
  · rw [recipients, recipients, hrouting, htarget]

end

/-! ### Local delivery is exact -/

section

variable {J : JsonCodec} {s : Server} {ws v : SocketId} {sender login : LoginRequest} {g : GroupId}
  {role : String} {message : Bytes} {isBinary : Bool} {fs : List (String × Json)}

/-- The loop leaves out the sender, and nobody else for the sender's sake. -/
theorem RoomsInvariant.wantedIn_others (hs : s.RoomsInvariant) (hws : s.Speaks ws sender g)
    (actorType : Option String) :
    v ∈ s.wantedIn ⟨sender.senderID, some ws⟩ actorType g ↔
      s.Addresses g ws (.others actorType) v := by
  obtain ⟨k, -, hrow⟩ := hs.listed hws.group
  obtain ⟨-, -, l, hl, hk, -⟩ := hs.entry hrow
  obtain rfl : l = sender := Option.some.inj (hl.symm.trans hws.loginRequest)
  have hself : sameSender l ws ⟨l.senderID, some ws⟩ = true := by
    rw [sameSender]
    split
    · exact decide_eq_true rfl
    · exact decide_eq_true rfl
    · exact decide_eq_true rfl
  have hother : ∀ {m login}, (s.groupHeap g).units.own? m = some v → v ≠ ws →
      (s.sockets v).loginRequest = some login →
      (wants login v ⟨l.senderID, some ws⟩ actorType = true ↔ login.Hears actorType) := by
    intro m login hu hne hlogin
    refine wants_iff (fun hsame => hne ?_) (fun hsame => hne ?_) actorType
    · -- two members of one sender id are listed under one name
      obtain ⟨-, -, login', hl', hm, -⟩ := hs.entry hu
      obtain rfl : login' = login := Option.some.inj (hl'.symm.trans hlogin)
      rw [hsame, hk] at hm
      obtain rfl := Except.ok.inj hm
      exact Option.some.inj (hu.symm.trans hrow)
    · exact (Option.some.inj hsame).symm
  constructor
  · rintro ⟨⟨m, hu⟩, login, hlogin, hw⟩
    have hne : v ≠ ws := by
      rintro rfl
      obtain rfl : l = login := Option.some.inj (hl.symm.trans hlogin)
      rw [wants, hself] at hw
      exact absurd hw (by simp)
    exact ⟨hne, ⟨m, hu⟩, login, hlogin, (hother hu hne hlogin).mp hw⟩
  · rintro ⟨hne, ⟨m, hu⟩, login, hlogin, hhears⟩
    exact ⟨⟨m, hu⟩, login, hlogin, (hother hu hne hlogin).mpr hhears⟩

variable (message isBinary) in
theorem run_sendToIndividual_member {name : String} (hmaps : s.proto = [])
    (hsends : ∀ v, s.sendFails v = false) (hu : (s.groupHeap g).units.own? name = some v)
    (onNotFound : Action Server Unit) :
    sendToIndividual g message isBinary (some (.str name)) onNotFound s =
      (.ok (), s.emit (.send v message isBinary)) := by
  have hindex : (s.groupHeap g).units.index s.proto (some (.str name)) =
      .ok ((s.groupHeap g).units.get [] name) := by
    rw [hmaps]
    rfl
  have hsend : send v message isBinary s = (.ok (), s.emit (.send v message isBinary)) := by
    rw [send, run_bind_modify, run_bind_get, emit_sendFails, hsends]
    rfl
  rw [sendToIndividual, run_attempt, run_bind_get, hindex, Table.get_eq_own_iff.mpr hu, run_bind_ok]
  simp only [hsend]

variable (message isBinary) in
theorem run_sendToIndividual_stranger {name : String} (hmaps : s.proto = [])
    (hu : (s.groupHeap g).units.own? name = none) (onNotFound : Action Server Unit) :
    sendToIndividual g message isBinary (some (.str name)) onNotFound s =
      attempt onNotFound (fun _ => throw .referenceError) s := by
  have hindex : (s.groupHeap g).units.index s.proto (some (.str name)) =
      .ok ((s.groupHeap g).units.get [] name) := by
    rw [hmaps]
    rfl
  rw [sendToIndividual, run_attempt, run_bind_get, hindex,
    Table.get_eq_absent_iff.mpr ⟨hu, by simp⟩, run_bind_ok]
  rfl

variable (J message isBinary) in
/-- What is done with a message for these recipients. -/
theorem RoomsInvariant.dispatch_clean (hs : s.RoomsInvariant) (hmaps : s.proto = [])
    (hsends : ∀ v, s.sendFails v = false) (hws : s.Speaks ws sender g) (r : Recipients)
    (jmsg : Json) : ∃ vs : List SocketId, vs.Nodup ∧ (∀ v, v ∈ vs ↔ s.Addresses g ws r v) ∧
      ∀ forward : Bytes → Bool → SocketId → Action Server Unit,
        attempt (dispatchVia J forward (routeTo r) jmsg message isBinary ws) (fun _ => pure ()) s =
          attempt (when (s.leaves g r) (forward message isBinary ws)) (fun _ => pure ())
            { s with log := s.log ++ vs.map (.send · message isBinary) } := by
  cases r with
  | others actorType =>
    obtain ⟨vs, hnodup, hmem, hrun⟩ := hs.broadcast_clean message isBinary
      ⟨sender.senderID, some ws⟩ actorType g hsends
    refine ⟨vs, hnodup, fun v => (hmem v).trans (hs.wantedIn_others hws actorType),
      fun forward => ?_⟩
    have hgroup : sendMessageToMyGroup actorType message isBinary ws s =
        (.ok (), { s with log := s.log ++ vs.map (.send · message isBinary) }) := by
      rw [sendMessageToMyGroup, run_attempt, run_bind_get, hws.group, hws.loginRequest]
      simp only [hrun]
    rw [run_attempt, routeTo, dispatchVia, run_bind_of_ok hgroup]
    rfl
  | member name =>
    cases hu : (s.groupHeap g).units.own? name with
    | some v =>
      refine ⟨[v], List.nodup_singleton v, fun w => ?_, fun forward => ?_⟩
      · rw [List.mem_singleton, Addresses, hu, Option.some.injEq, eq_comm]
      · have hrun := run_sendToIndividual_member message isBinary hmaps hsends hu
          (forward message isBinary ws)
        rw [run_attempt, routeTo, dispatchVia, sendMessageToTarget, run_attempt, run_bind_get,
          hws.group]
        simp only [hrun]
        rw [leaves, hu]
        rfl
    | none =>
      refine ⟨[], List.nodup_nil, fun w => ?_, fun forward => ?_⟩
      · rw [Addresses, hu]
        simp
      · have hrun := run_sendToIndividual_stranger message isBinary hmaps hu
          (forward message isBinary ws)
        rw [run_attempt, routeTo, dispatchVia, sendMessageToTarget, run_attempt, run_bind_get,
          hws.group]
        simp only [hrun, List.map_nil, List.append_nil]
        rw [leaves, hu]
        -- an exception of the relay is caught on the way, whatever it is
        change _ = attempt (forward message isBinary ws) (fun _ => pure ()) s
        rw [run_attempt, run_attempt]
        rcases forward message isBinary ws s with ⟨e | u, t⟩
        · rfl
        · rfl

/-- The message of `ws` to its room `g` is sent as `frame` to its recipients, once each, and to no
    other socket; and what the relay then does is its own affair. -/
structure DeliveredTo (s : Server) (J : JsonCodec) (g : GroupId) (ws : SocketId) (r : Recipients)
    (message : Bytes) (isBinary : Bool) (frame : Bytes) : Prop where
  via : parseMessage J ws message isBinary =
    parseMessageVia J (forwardMessage J) ws message isBinary
  delivered : ∃ vs : List SocketId, vs.Nodup ∧ (∀ v, v ∈ vs ↔ s.Addresses g ws r v) ∧
    ∀ forward : Bytes → Bool → SocketId → Action Server Unit,
      parseMessageVia J forward ws message isBinary s =
        attempt (when (s.leaves g r) (forward frame isBinary ws)) (fun _ => pure ())
          { s with log := s.log ++ vs.map (.send · frame isBinary) }

/-- A message of a drone or a ground station to its room goes to its recipients, one frame each, and
    to no other socket. The relay gets it once, but for a message to a member of the room. -/
theorem local_routing_exact (hs : s.RoomsInvariant) (hmaps : s.proto = [])
    (hsends : ∀ v, s.sendFails v = false) (hws : s.Speaks ws sender g)
    (hactor : sender.actorType = some (.str role))
    (hrole : role = Const.actorGCS ∨ role = Const.actorDrone)
    (hv : J.parse (if isBinary then header message else message) = some (.obj fs))
    (hrouted : WellRouted (.obj fs)) :
    s.DeliveredTo J g ws (recipients role (.obj fs)) message isBinary
      (J.stringify ((Json.obj fs).setField "p" sender.prm) ++
        if isBinary then payload message else []) := by
  obtain ⟨gs, hgs, hrouted', hsame⟩ := hrouted.withPermission role sender.prm
  obtain ⟨vs, hnodup, hmem, hrun⟩ := hs.dispatch_clean J
    (J.stringify (.obj gs) ++ if isBinary then payload message else []) isBinary hmaps hsends hws
    (recipients role (.obj fs)) (.obj gs)
  refine ⟨rfl, vs, hnodup, hmem, fun forward => ?_⟩
  rw [parseMessageVia, run_bind_get, hws.injectPermission hv, hgs]
  simp only [hactor]
  rw [hrouted'.localRoute_eq hrole, hsame, ← hrun forward]
  rfl

/-- The fields of a message to the unit `other`. -/
def toOther : List (String × Json) := [("ty", .str "i"), ("tg", .str "other")]

/-- A drone's message to another drone in its room, which gets it, and no other socket. -/
theorem local_routing_exact_pair : ∃ s, Pair "other" s ∧
    (∀ v, Addresses { s with sendFails := fun _ => false } 0 0 (.member "other") v ↔ v = 1) ∧
    DeliveredTo { s with sendFails := fun _ => false } Text.codec 0 0 (.member "other")
      (Text.codec.stringify (.obj toOther)) false (Text.codec.stringify (.obj toOther)) := by
  obtain ⟨s, hs⟩ := pair_of_facts "other" (by decide +kernel)
  have h : (run Text.codec isAsciiAlphanumeric (startOver [] {}) (joinedBy "other")).map (fun s =>
      ((s.sockets 0).loginRequest, (s.sockets 0).hasStatus, (s.sockets 0).group)) =
      some (some (announcedDrone "drone"), true, some 0) := by decide +kernel
  rw [hs.run] at h
  obtain ⟨hl, hrest⟩ := Prod.mk.inj (Option.some.inj h)
  obtain ⟨hstatus, hgroup⟩ := Prod.mk.inj hrest
  have hspeaks : Speaks { s with sendFails := fun _ => false } 0 (announcedDrone "drone") 0 :=
    ⟨hl, hstatus, hgroup⟩
  have hmaps : s.proto = [] := (inOrder_run hs.run hs.ids).maps
  have hparsed : Text.codec.parse (if false then header (Text.codec.stringify (.obj toOther))
      else Text.codec.stringify (.obj toOther)) = some (.obj toOther) := by decide +kernel
  refine ⟨s, hs, fun v => ?_, local_routing_exact
    (hs.wellKept.of_tables s.proto fun _ => false).toRoomsInvariant hmaps (fun _ => rfl) hspeaks rfl
    (Or.inr rfl) hparsed ⟨rfl, Or.inr ⟨rfl, Or.inr ⟨"other", rfl⟩⟩⟩⟩
  rw [Addresses, hs.unit, Option.some.injEq, eq_comm]

end

end Server

end DroneEngage
