import DroneEngage.LocalRouting

/-! Messages for one unit.

    A message routed `i` is delivered to the unit its target names, or handed to the relay, or lost
    without a trace: the routing reads `tg.length` and calls `hasOwnProperty` on what the client sent,
    inside a `try` block whose handler drops the message. And where the target's socket is dead, the
    handler of the send names a variable that is out of its scope, so the dead unit stays where it is
    and a `ReferenceError` leaves the function. -/

namespace DroneEngage
open Js

namespace Server

open Action

/-! ### Lost messages -/

/-- A relay that notes what it is called with. -/
def noting (message : Bytes) (isBinary : Bool) (_ : SocketId) : Action Server Unit :=
  modify (emit (.toParent message isBinary))

section

variable (J : JsonCodec) (s : Server) (g : GroupId) (ws : SocketId) (message : Bytes)
  (isBinary : Bool) (jmsg : Json)

/-- What the routing of a message does, with a relay that notes its calls. -/
def noted : List Effect :=
  ((parseMessageVia J noting ws message isBinary).final s).log.drop s.log.length

/-- The relay is called, or the member that the target names is sent something. -/
def Handled : Prop :=
  (∃ m b, .toParent m b ∈ s.noted J ws message isBinary) ∨
  ∃ v m b, (s.groupHeap g).units.index s.proto (jmsg.field Const.targetID) = .ok (.own v) ∧
    .send v m b ∈ s.noted J ws message isBinary

/-- The targets that stand for a part of the room. -/
def reservedTargets : List String := [Const.senderAllGCS, Const.senderAll, Const.senderAllAgents]

/-- The target can be read, and the code knows what to do about it. -/
inductive Arrives (actorType : Val) : Prop where
  /-- without a target, from a drone or a ground station -/
  | untargeted : hasTarget jmsg = .ok false →
    actorType = some (.str Const.actorDrone) ∨ actorType = some (.str Const.actorGCS) → Arrives _
  /-- to `_GCS_`, `_GD_` or `_AGN_` -/
  | reserved {target : String} : hasTarget jmsg = .ok true → target ∈ reservedTargets →
    jmsg.field Const.targetID = some (.str target) → Arrives _
  /-- to a target that finds a member of the group, or nothing -/
  | named {slot : Slot SocketId} : hasTarget jmsg = .ok true →
    (s.groupHeap g).units.index s.proto (jmsg.field Const.targetID) = .ok slot →
    slot ≠ .inherited → Arrives _

end

section

variable {J : JsonCodec} {s : Server} {g : GroupId} {ws : SocketId} {sender : LoginRequest}
  {message m : Bytes} {isBinary : Bool} {fs gs : List (String × Json)}

theorem hasTarget_congr (h : ∀ k, k ≠ "p" → (Json.obj gs).field k = (Json.obj fs).field k) :
    hasTarget (.obj gs) = hasTarget (.obj fs) := by
  have htarget := h Const.targetID (by decide)
  have hown : (Json.obj gs).owns "hasOwnProperty" = (Json.obj fs).owns "hasOwnProperty" := by
    rw [Json.owns, Json.owns, h _ (by decide)]
  cases hplain : (Json.obj fs).owns "hasOwnProperty" with
  | true => rw [hasTarget_shadowed hplain, hasTarget_shadowed (hown.trans hplain)]
  | false =>
    rw [hasTarget_plain hplain, hasTarget_plain (hown.trans hplain), Json.owns, Json.owns, htarget]

/-- The route of an individual message. -/
theorem localRoute_individual (actorType : Val)
    (hi : (Json.obj fs).field Const.routing = some (.str Const.routingIndividual)) :
    localRoute actorType (.obj fs) = match hasTarget (.obj fs) with
      | .error e => .error e
      | .ok true => .ok (targetRoute ((Json.obj fs).field Const.targetID))
      | .ok false =>
        if actorType = some (.str Const.actorDrone) then .ok (.broadcast (some Const.actorGCS))
        else if actorType = some (.str Const.actorGCS) then .ok (.broadcast none)
        else .ok .nowhere := by
  rw [localRoute, if_neg (routing_ne hi), if_pos hi]
  cases hasTarget (.obj fs) with
  | error e => rfl
  | ok b =>
    cases b with
    | true => rfl
    | false => rfl

theorem targetRoute_cases (target : Val) :
    (∃ text ∈ reservedTargets, target = some (.str text) ∧
      ∃ audience, targetRoute target = .broadcast audience) ∨
    (∀ text ∈ reservedTargets, target ≠ some (.str text)) ∧
      targetRoute target = .individual target := by
  rw [targetRoute]
  split
  · next h => exact Or.inl ⟨_, by simp [reservedTargets], h, _, rfl⟩
  · next hgcs =>
    split
    · next h => exact Or.inl ⟨_, by simp [reservedTargets], h, _, rfl⟩
    · next hall =>
      split
      · next h => exact Or.inl ⟨_, by simp [reservedTargets], h, _, rfl⟩
      · next hagents =>
        refine Or.inr ⟨?_, rfl⟩
        simp only [reservedTargets, List.forall_mem_cons]
        exact ⟨hgcs, hall, hagents, by simp⟩

/-- What the relay and the room are asked to do, by the route. -/
theorem Speaks.noted_eq (h : s.Speaks ws sender g)
    (hv : J.parse (if isBinary then header message else message) = some (.obj fs))
    (hi : (Json.obj fs).field Const.routing = some (.str Const.routingIndividual)) :
    ∃ m jmsg, (parseMessageVia J noting ws message isBinary).final s =
      match localRoute sender.actorType (.obj fs) with
      | .error _ => s
      | .ok route => (dispatchVia J noting route jmsg m isBinary ws).final s := by
  obtain ⟨gs, hgs⟩ := Json.setField_obj fs "p" sender.prm
  have hsame : ∀ k, k ≠ "p" → (Json.obj gs).field k = (Json.obj fs).field k := by
    intro k hk
    rw [← hgs, Json.field_setField_ne _ _ hk]
  have hroute : localRoute sender.actorType (.obj gs) = localRoute sender.actorType (.obj fs) := by
    rw [localRoute_individual _ hi, localRoute_individual _ ((hsame _ (by decide)).trans hi),
      hasTarget_congr hsame, hsame _ (by decide)]
  refine ⟨J.stringify (.obj gs) ++ (if isBinary then payload message else []), .obj gs, ?_⟩
  rw [parseMessageVia, final_get_bind, h.injectPermission hv, hgs]
  simp only [final_attempt_pure, hroute]
  cases localRoute sender.actorType (.obj fs) with
  | error e => rfl
  | ok route => rfl

/-- A broadcast is handed to the relay. -/
theorem noting_broadcast (audience : Option String) (jmsg : Json) :
    .toParent m isBinary ∈ ((dispatchVia J noting (.broadcast audience) jmsg m isBinary ws).final
      s).log.drop s.log.length := by
  have hgoes : ¬ (sendMessageToMyGroup audience m isBinary ws).Escapes s :=
    not_escapes_attempt fun _ s' => not_escapes_pure () s'
  have hgrow : s.log <+: ((sendMessageToMyGroup audience m isBinary ws).final s).log :=
    (moves_sendMessageToMyGroup (R := Shrinks) (fun v => onlyShrinks_send v _ _)
      onlyShrinks_handleOrphanSocket audience ws s).log
  obtain ⟨l, hl⟩ := hgrow
  have hfinal : ((dispatchVia J noting (.broadcast audience) jmsg m isBinary ws).final s).log =
      s.log ++ (l ++ [.toParent m isBinary]) := by
    rw [dispatchVia, final_bind_of_ok (run_of_not_escapes hgoes), noting, final_modify, emit_log,
      ← hl, List.append_assoc]
  rw [hfinal, List.drop_left]
  exact List.mem_append_right _ (List.mem_singleton.mpr rfl)

/-- What a targeted send leaves behind, by what the target finds. -/
theorem Speaks.dispatch_individual (h : s.Speaks ws sender g) (target : Val) (jmsg : Json) :
    (dispatchVia J noting (.individual target) jmsg m isBinary ws).final s =
      match (s.groupHeap g).units.index s.proto target with
      | .error _ | .ok .inherited => s
      | .ok (.own v) => s.emit (.send v m isBinary)
      | .ok .absent => s.emit (.toParent m isBinary) := by
  rw [dispatchVia, sendMessageToTarget, final_attempt_pure, final_get_bind, h.group]
  change (sendToIndividual g m isBinary target (noting m isBinary ws)).final s = _
  rw [sendToIndividual, final_attempt_throw, final_get_bind]
  cases (s.groupHeap g).units.index s.proto target with
  | error e => rfl
  | ok slot =>
    cases slot with
    | inherited => rfl
    | absent => rfl
    | own v => exact send_final v m isBinary s

theorem not_handled_of_final (jmsg : Json)
    (h : (parseMessageVia J noting ws message isBinary).final s = s) :
    ¬ s.Handled J g ws message isBinary jmsg := by
  rw [Handled, noted, h, List.drop_length]
  simp

/-- Without a target only the messages of drones and of ground stations have a branch. -/
theorem untargeted_handled_iff (h : s.Speaks ws sender g)
    (hv : J.parse (if isBinary then header message else message) = some (.obj fs))
    (hi : (Json.obj fs).field Const.routing = some (.str Const.routingIndividual))
    (htarget : hasTarget (.obj fs) = .ok false) :
    s.Handled J g ws message isBinary (.obj fs) ↔ s.Arrives g (.obj fs) sender.actorType := by
  obtain ⟨m, jmsg, hfinal⟩ := h.noted_eq hv hi
  rw [localRoute_individual _ hi, htarget] at hfinal
  by_cases hd : sender.actorType = some (.str Const.actorDrone)
  · simp only [hd, if_true] at hfinal
    refine iff_of_true (Or.inl ⟨m, isBinary, ?_⟩) (.untargeted htarget (Or.inl hd))
    rw [noted, hfinal]
    exact noting_broadcast _ _
  · by_cases hg : sender.actorType = some (.str Const.actorGCS)
    · simp only [hg] at hfinal
      refine iff_of_true (Or.inl ⟨m, isBinary, ?_⟩) (.untargeted htarget (Or.inr hg))
      rw [noted, hfinal]
      exact noting_broadcast _ _
    · -- any other actor type: there is no branch for it
      simp only [hd, hg, if_false] at hfinal
      refine iff_of_false (not_handled_of_final _ hfinal) ?_
      rintro (⟨-, hactor⟩ | ⟨ht, -⟩ | ⟨ht, -⟩)
      · exact hactor.elim hd hg
      · rw [htarget] at ht
        exact absurd ht (by simp)
      · rw [htarget] at ht
        exact absurd ht (by simp)

/-- With a target it is one of the reserved audiences, or the table of members decides. -/
theorem targeted_handled_iff (h : s.Speaks ws sender g)
    (hv : J.parse (if isBinary then header message else message) = some (.obj fs))
    (hi : (Json.obj fs).field Const.routing = some (.str Const.routingIndividual))
    (htarget : hasTarget (.obj fs) = .ok true) :
    s.Handled J g ws message isBinary (.obj fs) ↔ s.Arrives g (.obj fs) sender.actorType := by
  obtain ⟨m, jmsg, hfinal⟩ := h.noted_eq hv hi
  rw [localRoute_individual _ hi, htarget] at hfinal
  rcases targetRoute_cases ((Json.obj fs).field Const.targetID) with
    ⟨text, hreserved, htext, audience, hroute⟩ | ⟨hnamed, hroute⟩
  · simp only [hroute] at hfinal
    refine iff_of_true (Or.inl ⟨m, isBinary, ?_⟩) (.reserved htarget hreserved htext)
    rw [noted, hfinal]
    exact noting_broadcast _ _
  · simp only [hroute] at hfinal
    rw [h.dispatch_individual] at hfinal
    have hlost : ∀ slot?, (s.groupHeap g).units.index s.proto
        ((Json.obj fs).field Const.targetID) = slot? →
        (∀ slot, slot? = .ok slot → slot = .inherited) →
        ¬ s.Arrives g (.obj fs) sender.actorType := by
      rintro slot? hslot hbad (⟨hf, -⟩ | ⟨-, hreserved, htext⟩ | ⟨-, hfound, hne⟩)
      · rw [htarget] at hf
        exact absurd hf (by simp)
      · exact hnamed _ hreserved htext
      · exact hne (hbad _ (hslot.symm.trans hfound))
    cases hslot : (s.groupHeap g).units.index s.proto ((Json.obj fs).field Const.targetID) with
    | error e =>
      rw [hslot] at hfinal
      exact iff_of_false (not_handled_of_final _ hfinal) (hlost _ hslot (by simp))
    | ok slot =>
      rw [hslot] at hfinal
      cases slot with
      | inherited =>
        exact iff_of_false (not_handled_of_final _ hfinal) (hlost _ hslot (by simp))
      | own v =>
        refine iff_of_true (Or.inr ⟨v, m, isBinary, hslot, ?_⟩) (.named htarget hslot (by simp))
        rw [noted, hfinal, emit_log, List.drop_left]
        exact List.mem_singleton.mpr rfl
      | absent =>
        refine iff_of_true (Or.inl ⟨m, isBinary, ?_⟩) (.named htarget hslot (by simp))
        rw [noted, hfinal, emit_log, List.drop_left]
        exact List.mem_singleton.mpr rfl

/-- Where no prototype has been written to, an individual message is handed to the relay or sent to the
    member it names exactly when its target can be read and is none of the cases the code does not
    know. -/
theorem individual_handled_iff (_ : s.SparesPrototypes) (h : s.Speaks ws sender g)
    (hv : J.parse (if isBinary then header message else message) = some (.obj fs))
    (hi : (Json.obj fs).field Const.routing = some (.str Const.routingIndividual)) :
    s.Handled J g ws message isBinary (.obj fs) ↔ s.Arrives g (.obj fs) sender.actorType := by
  cases htarget : hasTarget (.obj fs) with
  | error e =>
    obtain ⟨m, jmsg, hfinal⟩ := h.noted_eq hv hi
    rw [localRoute_individual _ hi, htarget] at hfinal
    refine iff_of_false (not_handled_of_final _ hfinal) ?_
    rintro (⟨hf, -⟩ | ⟨ht, -⟩ | ⟨ht, -⟩)
    all_goals simp_all
  | ok b =>
    cases b with
    | false => exact untargeted_handled_iff h hv hi htarget
    | true => exact targeted_handled_iff h hv hi htarget

end

/-- A message for the unit that the target names. -/
def individualFrame (target : Json) : Json := .obj [("ty", .str "i"), ("tg", target)]

theorem speaks_joinedRun : ∃ s, run Text.codec isAsciiAlphanumeric (start {}) joinedRun = some s ∧
    s.Speaks 0 (announcedDrone "drone") 0 ∧ s.SparesPrototypes := by
  have h : (run Text.codec isAsciiAlphanumeric (start {}) joinedRun).map (fun s =>
      ((s.sockets 0).loginRequest, (s.sockets 0).hasStatus, (s.sockets 0).group,
        decide s.SparesPrototypes)) =
      some (some (announcedDrone "drone"), true, some 0, true) := by decide +kernel
  obtain ⟨s, hs, hf⟩ := Option.map_eq_some_iff.mp h
  simp only [Prod.mk.injEq] at hf
  obtain ⟨hl, hstatus, hgroup, hplain⟩ := hf
  exact ⟨s, hs, ⟨hl, hstatus, hgroup⟩, of_decide_eq_true hplain⟩

/-- A drone's message for another unit. -/
theorem individual_handled_iff_other : ∃ s,
    run Text.codec isAsciiAlphanumeric (start {}) joinedRun = some s ∧
    (s.Handled Text.codec 0 0 (Text.stringify (individualFrame (.str "other"))) false
      (individualFrame (.str "other")) ↔
    s.Arrives 0 (individualFrame (.str "other")) (announcedDrone "drone").actorType) := by
  obtain ⟨s, hs, hspeaks, hplain⟩ := speaks_joinedRun
  have hparse : Text.codec.parse (if false then
      header (Text.stringify (individualFrame (.str "other")))
      else Text.stringify (individualFrame (.str "other"))) =
      some (individualFrame (.str "other")) := by decide +kernel
  exact ⟨s, hs, individual_handled_iff hplain hspeaks hparse rfl⟩

/-- A drone's messages with the target `null`, and with a target that names an inherited property,
    are neither sent to anybody nor handed to the relay. -/
theorem individual_lost : ∃ s, run Text.codec isAsciiAlphanumeric (start {}) joinedRun = some s ∧
    s.Speaks 0 (announcedDrone "drone") 0 ∧
    ∀ target ∈ [Json.null, .str "constructor"],
      Text.codec.parse (Text.stringify (individualFrame target)) = some (individualFrame target) ∧
      ¬ s.Handled Text.codec 0 0 (Text.stringify (individualFrame target)) false
        (individualFrame target) := by
  obtain ⟨s, hs, hspeaks, -⟩ := speaks_joinedRun
  have h : (run Text.codec isAsciiAlphanumeric (start {}) joinedRun).map (fun s =>
      [Json.null, .str "constructor"].map fun target =>
        s.noted Text.codec 0 (Text.stringify (individualFrame target)) false) =
      some [[], []] := by decide +kernel
  rw [hs] at h
  have hnoted := Option.some.inj h
  have hnone : ∀ target ∈ [Json.null, .str "constructor"],
      s.noted Text.codec 0 (Text.stringify (individualFrame target)) false = [] := by
    simp only [List.map_cons, List.map_nil, List.cons.injEq, and_true] at hnoted
    simp only [List.forall_mem_cons, List.not_mem_nil, false_imp_iff, implies_true, and_true]
    exact hnoted
  refine ⟨s, hs, hspeaks, fun target htarget => ⟨?_, ?_⟩⟩
  · simp only [List.mem_cons, List.not_mem_nil, or_false] at htarget
    rcases htarget with rfl | rfl
    · decide +kernel
    · decide +kernel
  · rw [Handled, hnone target htarget]
    simp

/-! ### A dead target -/

/-- The action goes on after the attempt to send to a dead member, and leaves the rooms as they are
    without the member. -/
structure Buries (v : SocketId) (message : Bytes) (isBinary : Bool) (m : Action Server Unit)
    (s : Server) : Prop where
  goes : ¬ m.Escapes s
  rooms : SameRooms ((handleOrphanSocket v).final (s.emit (.send v message isBinary))) (m.final s)

section

variable {s : Server} {g : GroupId} {v : SocketId} {target : Val}

/-- A broadcast does that in the round of the member. -/
theorem broadcastTo_buries {login : LoginRequest} {senderID : SenderRef}
    {actorType : Option String} (hl : (s.sockets v).loginRequest = some login)
    (hw : wants login v senderID actorType = true) (hfails : s.sendFails v = true)
    (message : Bytes) (isBinary : Bool) :
    Buries v message isBinary (broadcastTo message isBinary senderID actorType v) s := by
  refine ⟨not_escapes_broadcastTo message isBinary senderID actorType v s, ?_⟩
  rw [broadcastTo_final hl, if_pos hw, if_pos hfails]
  exact refl_of SameRooms _

/-- A targeted send never does: a `ReferenceError` leaves the function, and the rooms are as they
    were. -/
theorem targeted_send_escapes (hu : (s.groupHeap g).units.index s.proto target = .ok (.own v))
    (hfails : s.sendFails v = true) (message : Bytes) (isBinary : Bool)
    (onNotFound : Action Server Unit) :
    sendToIndividual g message isBinary target onNotFound s =
      (.error .referenceError, s.emit (.send v message isBinary)) ∧
    ¬ Buries v message isBinary (sendToIndividual g message isBinary target onNotFound) s := by
  have hrun : sendToIndividual g message isBinary target onNotFound s =
      (.error .referenceError, s.emit (.send v message isBinary)) := by
    rw [sendToIndividual, run_attempt, run_bind_get, hu, run_bind_ok]
    simp only [send, run_bind_modify, run_bind_get, emit_sendFails, hfails, if_true]
    rfl
  exact ⟨hrun, fun h => h.goes ⟨_, congrArg Prod.fst hrun⟩⟩

end

theorem Pair.index_drone {name : String} {s : Server} (h : Pair name s) :
    ((droneDead s).groupHeap 0).units.index (droneDead s).proto (some (.str "drone")) =
      .ok (.own 0) := index_of_own (propKey_str "drone") h.drone

/-- A message for the drone, whose connection is dead. -/
theorem targeted_send_escapes_drone : ∃ s, Pair "other" s ∧
    sendToIndividual 0 [1] false (some (.str "drone")) (pure ()) (droneDead s) =
      (.error .referenceError, (droneDead s).emit (.send 0 [1] false)) ∧
    ¬ Buries 0 [1] false (sendToIndividual 0 [1] false (some (.str "drone")) (pure ()))
      (droneDead s) := by
  obtain ⟨s, hs⟩ := pair_of_facts "other" (by decide +kernel)
  exact ⟨s, hs, targeted_send_escapes hs.index_drone rfl [1] false (pure ())⟩

/-- The dead drone is still in the room after a message for it, and an exception has left the
    function; a broadcast buries the drone. -/
theorem dead_target_stays : ∃ s, Pair "other" s ∧ (droneDead s).WellKept ∧
    (droneDead s).sendFails 0 = true ∧
    (sendToIndividual 0 [1] false (some (.str "drone")) (pure ())).Escapes (droneDead s) ∧
    (((sendToIndividual 0 [1] false (some (.str "drone")) (pure ())).final
      (droneDead s)).groupHeap 0).units.own? "drone" = some 0 ∧
    Buries 0 [1] false (broadcastTo [1] false ⟨none, none⟩ none 0) (droneDead s) := by
  obtain ⟨s, hs⟩ := pair_of_facts "other" (by decide +kernel)
  have hfinal : (sendToIndividual 0 [1] false (some (.str "drone")) (pure ())).final (droneDead s) =
      (droneDead s).emit (.send 0 [1] false) := by
    rw [sendToIndividual, final_attempt_throw, final_get_bind, hs.index_drone]
    exact send_final 0 [1] false (droneDead s)
  obtain ⟨g, -, -, login, hl, hw⟩ := hs.drone_target
  refine ⟨s, hs, hs.wellKept.of_tables s.proto fun ws => decide (ws = 0), rfl,
    ⟨.referenceError, ?_⟩, ?_, broadcastTo_buries (s := droneDead s) hl hw rfl [1] false⟩
  · rw [sendToIndividual, run_attempt, run_bind_get, hs.index_drone]
    rfl
  · rw [hfinal]
    exact hs.drone

end Server

end DroneEngage
