import DroneEngage.Stamps

/-! The frames that leave a server for another one.

    A client's frame goes out as its own object with the permission, the trail and the stamps
    written into it, and its own payload; a relayed frame goes on with its trail one server longer.
    Both are again an object and the payload of the client's frame, so the boundary between the two
    stays where it is over any number of servers. -/

namespace DroneEngage
open Js

namespace Server

open Action

section

variable {J : JsonCodec}

theorem Shrinks.serverOriginID {s s' : Server} (h : s.Shrinks s') :
    s'.serverOriginID = s.serverOriginID := by
  rw [Server.serverOriginID, h.config, Server.serverOriginID]

theorem Shrinks.stampGroup {s s' : Server} (h : s.Shrinks s') (group : Option GroupId) (v : Json) :
    s'.stampGroup group v = s.stampGroup group v := by
  cases group with
  | none => rfl
  | some g => rw [Server.stampGroup, h.groupID, h.parentAccount, h.accountID]; rfl

/-- A frame looks the same whenever it leaves, as long as its sender stays in its room. -/
theorem Shrinks.forwardedFrame {s s' : Server} (h : s.Shrinks s') {ws : SocketId}
    (hkept : GroupKept ws s s') (jmsg : Json) (message : Bytes) (isBinary : Bool) :
    s'.forwardedFrame J ws jmsg message isBinary = s.forwardedFrame J ws jmsg message isBinary := by
  rw [Server.forwardedFrame, hkept, h.serverOriginID, h.stampGroup, Server.forwardedFrame]

/-! ### A client's frame -/

/-- A client's frame stays here, or what follows its local delivery is that it is forwarded. -/
theorem parseMessage_relays {s : Server} (hs : s.Consistent) (hp : s.ProperIds J) (ws : SocketId)
    (message : Bytes) (isBinary : Bool) :
    Unrelayed s ((parseMessage J ws message isBinary).final s) ∨
    ∃ login jmsg message' s₁, s.injectPermission J ws message isBinary = some (login, jmsg, message') ∧
      (∃ fs, jmsg = .obj fs) ∧ Unrelayed s s₁ ∧ s.Shrinks s₁ ∧ GroupKept ws s s₁ ∧
      (parseMessage J ws message isBinary).final s =
        (forwardMessage J message' isBinary ws).final s₁ := by
  rcases parseMessage_final s ws message isBinary with
    ⟨hfin, -⟩ | ⟨login, jmsg, message', route, hinj, hroute, hfin⟩
  · rw [hfin]
    exact Or.inl (refl_of Unrelayed s)
  rw [hfin]
  have hobj := localRoute_obj hroute
  cases route with
  | nowhere => exact Or.inl (refl_of Unrelayed s)
  | system => exact Or.inl (unrelayed_onSystemMessage J jmsg ws s)
  | individual target =>
    rcases sendMessageToTarget_final (J := J) s message' isBinary target ws with h | ⟨-, h⟩
    · exact Or.inl h
    · exact Or.inr ⟨login, jmsg, message', s, hinj, hobj.resolve_left Route.noConfusion,
        refl_of Unrelayed s, .refl s, rfl, h⟩
  | broadcast actorType =>
    obtain ⟨hl, -⟩ := injectPermission_eq hp hinj
    obtain ⟨⟨hshrinks, hkept⟩, hlocal⟩ := sendMessageToMyGroup_stays hl actorType message' isBinary
    have hrun : sendMessageToMyGroup actorType message' isBinary ws s =
        (.ok (), (sendMessageToMyGroup actorType message' isBinary ws).final s) :=
      run_of_not_escapes (not_escapes_attempt fun _ s' => not_escapes_pure () s')
    exact Or.inr ⟨login, jmsg, message', _, hinj, hobj.resolve_left Route.noConfusion, hlocal,
      hshrinks, hkept hs hl, final_bind_of_ok hrun⟩

/-- If the effect hands a message to another server, that message is the client's frame: its object
    with the permission of the login and the stamps of the room, and its payload. -/
def Carries (J : JsonCodec) (s : Server) (ws : SocketId) (message : Bytes) (isBinary : Bool)
    (e : Effect) : Prop :=
  ∀ m b, e.relayed? = some (m, b) → b = isBinary ∧ ∃ login fs,
    (s.sockets ws).loginRequest = some login ∧
    J.parse (if isBinary then header message else message) = some (.obj fs) ∧
    m = s.forwardedFrame J ws ((Json.obj fs).setField "p" login.prm) message isBinary

theorem carries_parseMessage {s : Server} (hs : s.Consistent) (hp : s.ProperIds J) (ws : SocketId)
    (message : Bytes) (isBinary : Bool) :
    Logs (s.Carries J ws message isBinary) s ((parseMessage J ws message isBinary).final s) := by
  have hnone : ∀ {s₀ s' : Server}, Unrelayed s₀ s' → Logs (s.Carries J ws message isBinary) s₀ s' := by
    rintro s₀ s' ⟨l, hl, hQ⟩
    refine ⟨l, hl, fun e he m b hm => ?_⟩
    rw [hQ e he] at hm
    exact absurd hm (by simp)
  rcases parseMessage_relays hs hp ws message isBinary with
    h | ⟨login, jmsg, message', s₁, hinj, ⟨gs, hobj⟩, hlocal, hshrinks, hkept, hfin⟩
  · exact hnone h
  · obtain ⟨hl, hj, hisobj, rfl⟩ := injectPermission_eq hp hinj
    obtain ⟨-, -, v, hv, -, hset⟩ := injectPermission_some hinj
    obtain ⟨l, hlog, hcopies, -⟩ := forwardMessage_log
      (((hshrinks.sockets ws).loginRequest).trans hl) hj hisobj message isBinary
    rw [hfin]
    refine trans_of (Logs _) (hnone hlocal) ⟨l, hlog, fun e he m b hm => ?_⟩
    rw [hcopies e he, hshrinks.forwardedFrame hkept] at hm
    obtain ⟨rfl, rfl⟩ := Prod.mk.inj (Option.some.inj hm)
    have hfields : ∃ fs, v = .obj fs := by
      cases v with
      | obj fs => exact ⟨fs, rfl⟩
      | null | bool | num | str | arr => rw [hset] at hobj; exact absurd hobj (by simp [Json.setField])
    obtain ⟨fs, rfl⟩ := hfields
    exact ⟨rfl, login, fs, hl, hv, by rw [hset]⟩

/-! ### A relayed frame -/

/-- Passing a frame on hands out copies with a trail that is one server longer. -/
theorem forwardExternalMessage_log (s : Server) (message : Bytes) (isBinary : Bool)
    (source : Option LinkId) :
    ∃ l, ((forwardExternalMessage J message isBinary source).final s).log = s.log ++ l ∧
      ∀ e ∈ l, e.relayed? = some
        (rewriteMessage J (appendPath s.serverOriginID) message isBinary, isBinary) := by
  refine ⟨_, forwardTwice_log _ _ _ _ s, fun e he => ?_⟩
  rcases List.mem_append.mp he with he | he
  · split at he
    · rw [List.mem_singleton.mp he]; rfl
    · exact absurd he (by simp)
  · split at he
    · rw [List.mem_singleton.mp he]; rfl
    · exact absurd he (by simp)

/-- The messages that a step of a server hands to other servers. -/
def relayedBy (s s' : Server) : List (Bytes × Bool) :=
  (s'.log.drop s.log.length).filterMap Effect.relayed?

theorem relayedBy_of_log {s s' : Server} {l : List Effect} (h : s'.log = s.log ++ l) :
    s.relayedBy s' = l.filterMap Effect.relayed? := by
  rw [relayedBy, h, List.drop_left]

/-- A copy of a client's frame, with the servers it has passed: `fn_parseMessage` at the first, and
    `forwardExternalMessage` at each next one. A link may hand a text over as a buffer, but not the
    other way round. -/
inductive Copy (J : JsonCodec) (s : Server) (ws : SocketId) (message : Bytes) (isBinary : Bool) :
    List String → Bytes → Bool → Prop
  | first {m : Bytes} {b : Bool} :
    (m, b) ∈ s.relayedBy ((parseMessage J ws message isBinary).final s) →
    Copy J s ws message isBinary [s.serverOriginID] m b
  | next {trail : List String} {m m' : Bytes} {b b' received : Bool} (t : Server)
    (source : Option LinkId) : Copy J s ws message isBinary trail m b →
    (b = true → received = true) →
    (m', b') ∈ t.relayedBy ((forwardExternalMessage J m received source).final t) →
    Copy J s ws message isBinary (trail ++ [t.serverOriginID]) m' b'

/-! ### What every copy holds -/

/-- The trail a frame carries: its `_path` if that is an array. -/
def trailOf (v : Json) : List Json := ((v.field "_path").bind Json.items?).getD []

/-- The object of a copy: the client's, with the permission of the login and the stamps of the room
    in their places and the servers it has passed at the end of its trail. -/
structure CopyOf (s : Server) (ws : SocketId) (login : LoginRequest) (v : Json)
    (trail : List String) (v' : Json) : Prop where
  isObj : ∃ fs, v' = .obj fs
  permission : v'.field "p" = login.prm
  trail : v'.field "_path" = some (.arr (trailOf v ++ trail.map Json.str))
  stamps : ∀ g, (s.sockets ws).group = some g →
    v'.field "_aid" = (s.accountOf g).accountID ∧ v'.field "_gid" = (s.groupHeap g).ID
  others : ∀ k, k ≠ "p" → k ≠ "_path" →
    ((s.sockets ws).group.isSome → k ≠ "_aid" ∧ k ≠ "_gid") → v'.field k = v.field k

theorem appendPath_obj (originID : String) (fs : List (String × Json)) :
    ∃ fs', appendPath originID (.obj fs) = .obj fs' := by
  rw [appendPath]
  exact Json.setField_obj _ _ _

theorem field_appendPath_self (originID : String) (fs : List (String × Json)) :
    (appendPath originID (.obj fs)).field "_path" =
      some (.arr (trailOf (.obj fs) ++ [.str originID])) := by
  rw [appendPath]
  exact Json.field_setField_self rfl _ _

/-- The copy that the first server makes. -/
theorem copyOf_first (s : Server) (ws : SocketId) (login : LoginRequest)
    (fs : List (String × Json)) (originID : String) :
    CopyOf s ws login (.obj fs) [originID] (s.stampGroup (s.sockets ws).group
      (appendPath originID ((Json.obj fs).setField "p" login.prm))) := by
  obtain ⟨gs, hgs⟩ := Json.setField_obj fs "p" login.prm
  have htrail : trailOf (.obj gs) = trailOf (.obj fs) := by
    rw [← hgs, trailOf, Json.field_setField_ne _ _ (by decide)]; rfl
  have hp : (Json.obj gs).field "p" = login.prm := by rw [← hgs]; exact Json.field_setField_self rfl _ _
  have hother : ∀ k, k ≠ "p" → (Json.obj gs).field k = (Json.obj fs).field k := by
    intro k hk
    rw [← hgs, Json.field_setField_ne _ _ hk]
  rw [hgs]
  obtain ⟨hs, hhs⟩ := appendPath_obj originID gs
  cases hg : (s.sockets ws).group with
  | none =>
    refine ⟨⟨hs, hhs⟩, ?_, ?_, fun g h => ?_, fun k hkp hk _ => ?_⟩
    · exact (field_appendPath_ne originID _ (by decide)).trans hp
    · rw [stampGroup, field_appendPath_self, htrail]; rfl
    · exact absurd (hg.symm.trans h) (by simp)
    · exact (field_appendPath_ne originID _ hk).trans (hother k hkp)
  | some g =>
    have hstamp : ∀ k, k ≠ "_aid" → k ≠ "_gid" →
        (s.stampGroup (some g) (appendPath originID (.obj gs))).field k =
          (appendPath originID (.obj gs)).field k := by
      intro k ha hk
      rw [stampGroup, Json.field_setField_ne _ _ ha, Json.field_setField_ne _ _ hk]
    obtain ⟨is, his⟩ := Json.setField_obj hs "_gid" (s.groupHeap g).ID
    refine ⟨?_, ?_, ?_, fun g' h => ?_, fun k hkp hk hstamps => ?_⟩
    · rw [stampGroup, hhs, his]
      exact Json.setField_obj _ _ _
    · rw [hstamp _ (by decide) (by decide), field_appendPath_ne originID _ (by decide), hp]
    · rw [hstamp _ (by decide) (by decide), field_appendPath_self, htrail]; rfl
    · obtain rfl : g = g' := Option.some.inj (hg.symm.trans h)
      rw [stampGroup, hhs, his]
      refine ⟨Json.field_setField_self rfl _ _, ?_⟩
      rw [Json.field_setField_ne _ _ (by decide), ← his]
      exact Json.field_setField_self rfl _ _
    · obtain ⟨ha, hgid⟩ := hstamps (by rw [hg]; rfl)
      rw [hstamp k ha hgid, field_appendPath_ne originID _ hk, hother k hkp]

/-- The copy that a further server makes of a copy. -/
theorem CopyOf.appendPath {s : Server} {ws : SocketId} {login : LoginRequest} {v v' : Json}
    {trail : List String} (h : CopyOf s ws login v trail v') (originID : String) :
    CopyOf s ws login v (trail ++ [originID]) (appendPath originID v') := by
  obtain ⟨fs, rfl⟩ := h.isObj
  refine ⟨appendPath_obj originID fs, ?_, ?_, fun g hg => ?_, fun k hkp hk hstamps => ?_⟩
  · rw [field_appendPath_ne originID _ (by decide)]; exact h.permission
  · have htrail : trailOf (.obj fs) = trailOf v ++ trail.map Json.str := by
      rw [trailOf, h.trail]; rfl
    rw [field_appendPath_self, htrail, List.map_append, List.append_assoc]; rfl
  · rw [field_appendPath_ne originID _ (by decide), field_appendPath_ne originID _ (by decide)]
    exact h.stamps g hg
  · rw [field_appendPath_ne originID _ hk]; exact h.others k hkp hk hstamps

theorem payload_eq_nil {b : Bytes} (h : 0 ∉ b) : payload b = [] := by
  have hcut := header_append_payload b
  rw [header_eq_self h] at hcut
  exact List.append_cancel_left (hcut.trans (List.append_nil b).symm)

/-- Every copy is such an object and the client's own payload. -/
theorem Copy.content {s : Server} (hs : s.Consistent) (hp : s.ProperIds J) {ws : SocketId}
    {message : Bytes} {isBinary : Bool} {fs : List (String × Json)}
    (hv : J.parse (if isBinary then header message else message) = some (.obj fs))
    {trail : List String} {m : Bytes} {b : Bool} (h : Copy J s ws message isBinary trail m b) :
    (b = true ∨ payload message = []) ∧ ∃ login v', (s.sockets ws).loginRequest = some login ∧
      CopyOf s ws login (.obj fs) trail v' ∧ v'.Proper J.isNumber ∧
      m = J.stringify v' ++ payload message := by
  have htext : isBinary = true ∨ payload message = [] := by
    cases isBinary with
    | true => exact Or.inl rfl
    | false => exact Or.inr (payload_eq_nil (J.zero_notMem_of_parse message _ hv))
  induction h with
  | first hmem =>
    -- the copy of the first server
    obtain ⟨l, hl, hQ⟩ := carries_parseMessage hs hp ws message isBinary
    rw [relayedBy_of_log hl] at hmem
    obtain ⟨e, he, hrel⟩ := List.mem_filterMap.mp hmem
    obtain ⟨rfl, login, gs, hlogin, hgs, rfl⟩ := hQ e he _ _ hrel
    rw [hv] at hgs
    obtain rfl := Json.obj.inj (Option.some.inj hgs)
    refine ⟨htext, login, _, hlogin, copyOf_first s ws login fs s.serverOriginID, ?_, ?_⟩
    · exact proper_stampGroup hp _ (proper_appendPath s.serverOriginID
        ((J.parse_proper _ _ hv).setField "p" (hp.login ws login hlogin).prm))
    · rw [forwardedFrame]
      rcases htext with rfl | hnil
      · rw [if_pos rfl]
      · rw [hnil, ite_self]
  | @next trail m m' b b' received t source _ hreceived hmem ih =>
    -- the copy of a further one
    obtain ⟨hkind, login, v', hlogin, hcopy, hproper, rfl⟩ := ih
    obtain ⟨l, hl, hQ⟩ := forwardExternalMessage_log (J := J) t
      (J.stringify v' ++ payload message) received source
    rw [relayedBy_of_log hl] at hmem
    obtain ⟨e, he, hrel⟩ := List.mem_filterMap.mp hmem
    rw [hQ e he] at hrel
    obtain ⟨rfl, rfl⟩ := Prod.mk.inj (Option.some.inj hrel)
    have hreads : received = true ∨ payload message = [] := hkind.imp_left hreceived
    have hif : payload message = if received then payload message else [] := by
      rcases hreads with rfl | hnil
      · rw [if_pos rfl]
      · rw [hnil, ite_self]
    obtain ⟨gs, hgs⟩ := hcopy.isObj
    refine ⟨hreads, login, _, hlogin, hcopy.appendPath t.serverOriginID,
      proper_appendPath t.serverOriginID hproper, ?_⟩
    rw [hif, rewriteMessage_frame hproper (by rw [hgs]; rfl)]

/-- Over any chain of servers a frame keeps its payload and its header boundary, and its header is
    the client's object with the permission, the trail and the stamps of its sender. -/
theorem frame_preserved {isAlphanumeric : String → Bool} {config : Config} {es : List Event}
    {s : Server} (hrun : run J isAlphanumeric (start config) es = some s) {ws : SocketId}
    {message : Bytes} {isBinary : Bool} {fs : List (String × Json)}
    (hv : J.parse (if isBinary then header message else message) = some (.obj fs))
    {trail : List String} {m : Bytes} {b : Bool} (h : Copy J s ws message isBinary trail m b) :
    ∃ login v', (s.sockets ws).loginRequest = some login ∧
      CopyOf s ws login (.obj fs) trail v' ∧ J.parse (header m) = some v' ∧
      header m = J.stringify v' ∧ payload m = payload message := by
  obtain ⟨-, login, v', hlogin, hcopy, hproper, rfl⟩ :=
    h.content (consistent_run J isAlphanumeric hrun) (properIds_run hrun) hv
  have hzero := J.zero_notMem_stringify v'
  have hheader : header (J.stringify v' ++ payload message) = J.stringify v' :=
    header_of_zero_notMem hzero message
  refine ⟨login, v', hlogin, hcopy, ?_, hheader, payload_of_zero_notMem hzero message⟩
  rw [hheader]
  exact J.parse_stringify v' hproper

/-- A binary frame: a header with a trail and a permission of the client's own, a zero byte, and a
    payload with another one. -/
def markedFrame : Bytes :=
  Text.stringify (.obj [("ty", .str "g"), ("p", .num "1"), ("_path", .arr [.str "X"])]) ++ [0, 7, 0]

/-- A copy of it with this trail. -/
def markedCopy (trail : List String) : Bytes :=
  Text.stringify (.obj [("ty", .str "g"), ("_path", .arr (trail.map Json.str)), ("_gid", .str "1"),
    ("_aid", .str "acc")]) ++ [0, 7, 0]

theorem frame_preserved_markedFrame : ∃ s : Server,
    run Text.codec isAsciiAlphanumeric (start { enable_super_server := true }) joinedRun = some s ∧
    ∃ login v', (s.sockets 0).loginRequest = some login ∧
      CopyOf s 0 login (.obj [("ty", .str "g"), ("p", .num "1"), ("_path", .arr [.str "X"])])
        ["unknown", "S1"] v' ∧
      Text.codec.parse (header (markedCopy ["X", "unknown", "S1"])) = some v' ∧
      header (markedCopy ["X", "unknown", "S1"]) = Text.codec.stringify v' ∧
      payload (markedCopy ["X", "unknown", "S1"]) = payload markedFrame := by
  have h : (run Text.codec isAsciiAlphanumeric (start { enable_super_server := true }) joinedRun).map
      (fun s => (s.serverOriginID, s.relayedBy ((parseMessage Text.codec 0 markedFrame true).final s))) =
      some ("unknown", [(markedCopy ["X", "unknown"], true)]) := by
    decide +kernel
  obtain ⟨s, hs, hf⟩ := Option.map_eq_some_iff.mp h
  obtain ⟨hid, hrel⟩ := Prod.mk.inj hf
  have hmem : (markedCopy ["X", "unknown"], true) ∈
      s.relayedBy ((parseMessage Text.codec 0 markedFrame true).final s) := by
    rw [hrel]
    exact List.mem_singleton.mpr rfl
  have hfirst := Copy.first hmem
  rw [hid] at hfirst
  have hnext : Copy Text.codec s 0 markedFrame true ["unknown", "S1"]
      (markedCopy ["X", "unknown", "S1"]) true :=
    hfirst.next (start { server_id := some "S1", enable_persistant_relay := true }) none
      (fun _ => rfl) (by decide +kernel)
  exact ⟨s, hs, frame_preserved hs (by decide +kernel) hnext⟩

end

end Server

end DroneEngage
