import DroneEngage.Deliveries
import DroneEngage.StaleClose

/-! Who receives a relayed message.

    A frame of another server names the sender's room by the stamps `_aid` and `_gid`. A broadcast
    goes to that room when it exists on this server, and by the legacy path to all rooms when it does
    not. A one-to-one message goes to the active sender its target names; whether the stamps have a
    say depends on what the frame's own sender id finds in the table of active senders. -/

namespace DroneEngage
open Js

namespace Server

/-- The socket is listed in a room whose account and group have these ids. -/
def InRoom (s : Server) (ws : SocketId) (aid gid : Val) : Prop :=
  ∃ g k, (s.groupHeap g).units.own? k = some ws ∧ SameId (s.groupHeap g).ID gid ∧
    SameId (s.accountOf g).accountID aid

/-- The socket is listed in some room. -/
def InSomeRoom (s : Server) (ws : SocketId) : Prop :=
  ∃ g k, (s.groupHeap g).units.own? k = some ws

/-- The account, or the group in it, does not exist on this server. -/
def NoRoom (s : Server) (aid gid : Val) : Prop :=
  s.accounts.index s.proto aid = .ok .absent ∨ ∃ a, s.accounts.index s.proto aid = .ok (.own a) ∧
    (s.accountHeap a).groups.index s.proto gid = .ok .absent

/-- The effect is no delivery, or a delivery to a socket of this kind. -/
def DeliversTo (P : SocketId → Prop) (e : Effect) : Prop :=
  ∀ ws message isBinary, e = .send ws message isBinary → P ws

theorem deliversTo_send {P : SocketId → Prop} {ws : SocketId} (h : P ws) (message : Bytes)
    (isBinary : Bool) : DeliversTo P (.send ws message isBinary) := by
  rintro v m b ⟨⟩
  exact h

theorem index_own {α : Type} {proto : List String} {t : Table α} {v : Val} {a : α}
    (h : t.index proto v = .ok (.own a)) : ∃ k, propKey v = .ok k ∧ t.own? k = some a := by
  rw [Table.index] at h
  cases hk : propKey v with
  | error e => rw [hk] at h; exact absurd h (by simp [Except.map])
  | ok k =>
    rw [hk] at h
    exact ⟨k, rfl, Table.get_eq_own_iff.mp (Except.ok.inj h)⟩

/-- The room that two ids lead to carries these ids. -/
theorem room_of_index {s : Server} (hs : s.Consistent) {aid gid : Val} {a : AccountId} {g : GroupId}
    (ha : s.accounts.index s.proto aid = .ok (.own a))
    (hg : (s.accountHeap a).groups.index s.proto gid = .ok (.own g)) :
    SameId (s.groupHeap g).ID gid ∧ SameId (s.accountOf g).accountID aid := by
  obtain ⟨ka, hka, hacc⟩ := index_own ha
  obtain ⟨kg, hkg, hgroup⟩ := index_own hg
  refine ⟨⟨kg, hs.group_key a kg g hgroup, hkg⟩, ka, ?_, hka⟩
  rw [accountOf, hs.group_parent a kg g hgroup]
  exact hs.account_key ka a hacc

open Action

/-! ### Broadcasts -/

section

variable (J : JsonCodec)

/-- What a frame of another server does is decided by its route. -/
theorem parseExternalMessage_final {s : Server} {message : Bytes} {isBinary : Bool}
    {source : Option LinkId} {jmsg : Json} {route : Route}
    (hparse : J.parse (if isBinary then header message else message) = some jmsg)
    (hnull : jmsg ≠ .null) (hnew : alreadyRelayed s.serverOriginID jmsg = false)
    (hroute : externalRoute jmsg = .ok route) :
    (parseExternalMessage J message isBinary source).final s =
      (dispatchExternal J route jmsg message isBinary source).final s := by
  rw [parseExternalMessage, final_get_bind, hparse]
  have hgo : ∀ (b : Bool), b = false → (if b = true then pure () else
      if jmsg.field Const.routing = some (.str Const.routingIndividual) then
        attempt (do
          let route ← Action.ofExcept (externalRoute jmsg)
          dispatchExternal J route jmsg message isBinary source) fun _ => pure ()
      else do
        let route ← Action.ofExcept (externalRoute jmsg)
        dispatchExternal J route jmsg message isBinary source : Action Server Unit).final s =
      (dispatchExternal J route jmsg message isBinary source).final s := by
    rintro b rfl
    rw [if_neg Bool.false_ne_true, hroute]
    split
    · rw [final_attempt_pure, final_ok_bind]
    · rw [final_ok_bind]
  cases jmsg with
  | null => exact absurd rfl hnull
  | bool | num | str | arr | obj => exact hgo _ hnew

/-- The scoped delivery throws, finds no room, or is a broadcast in the room of the two ids. -/
theorem sendToAccountGroup_cases (message : Bytes) (isBinary : Bool) (senderID : SenderRef)
    (aid gid : Val) (actorType : Option String) (s : Server) :
    (∃ e, sendToAccountGroup message isBinary senderID aid gid actorType s = (.error e, s)) ∨
    (s.NoRoom aid gid ∧
      sendToAccountGroup message isBinary senderID aid gid actorType s = (.ok false, s)) ∨
    ∃ a g, s.accounts.index s.proto aid = .ok (.own a) ∧
      (s.accountHeap a).groups.index s.proto gid = .ok (.own g) ∧
      sendToAccountGroup message isBinary senderID aid gid actorType s = (do
        broadcast g message isBinary senderID actorType
        return true : Action Server Bool) s := by
  rw [sendToAccountGroup, run_bind_get]
  cases ha : s.accounts.index s.proto aid with
  | error e => exact Or.inl ⟨e, rfl⟩
  | ok slot =>
    cases slot with
    | absent => exact Or.inr (Or.inl ⟨Or.inl ha, rfl⟩)
    | inherited => exact Or.inl ⟨_, rfl⟩
    | own a =>
      rw [run_bind_ok]
      cases hg : (s.accountHeap a).groups.index s.proto gid with
      | error e => exact Or.inl ⟨e, by simp only [hg]; rfl⟩
      | ok slot =>
        cases slot with
        | absent => exact Or.inr (Or.inl ⟨Or.inr ⟨a, ha, hg⟩, by simp only [hg]; rfl⟩)
        | inherited => exact Or.inl ⟨.typeError, by simp only [hg]; rfl⟩
        | own g => exact Or.inr (Or.inr ⟨a, g, rfl, hg, by simp only [hg]; rfl⟩)

theorem emits_forwardExternalMessage {s₀ : Server} {P : SocketId → Prop} (message : Bytes)
    (isBinary : Bool) (source : Option LinkId) :
    Moves (Emits s₀ (DeliversTo P)) (forwardExternalMessage J message isBinary source) :=
  moves_bind moves_get fun _ =>
    moves_bind (moves_when fun _ => emits_emit (by rintro _ _ _ ⟨⟩)) fun _ =>
      moves_when fun _ => emits_emit (by rintro _ _ _ ⟨⟩)

/-- The scoped delivery of a relayed broadcast, and the legacy one. -/
theorem emits_deliverExternalBroadcast {s : Server} (hs : s.Consistent) {message : Bytes}
    {isBinary : Bool} {senderID : Val} {jmsg : Json} {actorType : Option String}
    (haid : (jmsg.field "_aid").isSome) (hgid : (jmsg.field "_gid").isSome) :
    Emits s (DeliversTo fun ws => s.InRoom ws (jmsg.field "_aid") (jmsg.field "_gid") ∨
        s.NoRoom (jmsg.field "_aid") (jmsg.field "_gid") ∧ s.InSomeRoom ws) s
      ((deliverExternalBroadcast message isBinary senderID jmsg actorType).final s) := by
  generalize hQ : (DeliversTo fun ws => s.InRoom ws (jmsg.field "_aid") (jmsg.field "_gid") ∨
    s.NoRoom (jmsg.field "_aid") (jmsg.field "_gid") ∧ s.InSomeRoom ws) = Q
  have hterm : ∀ ws, Q (.terminate ws) := by rw [← hQ]; rintro ws _ _ _ ⟨⟩
  have hfallback : s.NoRoom (jmsg.field "_aid") (jmsg.field "_gid") →
      Moves (Emits s Q) (fallbackDelivery actorType message isBinary senderID) := by
    intro hno
    have hall : ∀ g k ws, (s.groupHeap g).units.own? k = some ws →
        Q (.send ws message isBinary) := by
      intro g k ws hu
      rw [← hQ]
      exact deliversTo_send (Or.inr ⟨hno, g, k, hu⟩) message isBinary
    exact moves_ite (fun _ => emits_broadcastEverywhere hterm _ _ hall) fun _ =>
      moves_ite (fun _ => emits_broadcastEverywhere hterm _ _ hall) fun _ =>
        emits_broadcastEverywhere hterm _ _ hall
  refine moves_bind_at (emits_emit ?_ s) fun _ _ => ?_
  · rw [← hQ]; rintro _ _ _ ⟨⟩
  rw [final_modify, if_pos ⟨haid, hgid⟩]
  rcases sendToAccountGroup_cases message isBinary ⟨senderID, none⟩ (jmsg.field "_aid")
    (jmsg.field "_gid") actorType (emit (.deliverBroadcast message) s) with
    ⟨e, h⟩ | ⟨hno, h⟩ | ⟨a, g, ha, hg, h⟩
  · rw [final, run_bind_of_error h]
    exact refl_of (Emits s Q) _
  · rw [final_bind_of_ok h]
    exact hfallback hno _
  · have hroom := room_of_index hs ha hg
    have hbroadcast : Moves (Emits s Q)
        (broadcast g message isBinary ⟨senderID, none⟩ actorType) := by
      refine emits_broadcast hterm _ _ fun k ws hu => ?_
      rw [← hQ]
      exact deliversTo_send (Or.inl ⟨g, k, hu, hroom⟩) message isBinary
    generalize emit (.deliverBroadcast message) s = s₁ at h ⊢
    have hb := hbroadcast s₁
    rcases hr : broadcast g message isBinary ⟨senderID, none⟩ actorType s₁ with ⟨e | u, s₂⟩
    · rw [final, hr] at hb
      rw [run_bind_of_error hr] at h
      rw [final, run_bind_of_error h]
      exact hb
    · rw [final, hr] at hb
      rw [run_bind_of_ok hr] at h
      rw [final_bind_of_ok h]
      exact hb

/-- Every socket that receives a relayed broadcast with both stamps is listed in the room they name,
    or there is no such room on this server and the socket is listed in another one. -/
theorem relayed_broadcast {isAlphanumeric : String → Bool} {config : Config} {es : List Event}
    {s : Server} (h : run J isAlphanumeric (start config) es = some s) {message : Bytes}
    {isBinary : Bool} {source : Option LinkId} {jmsg : Json} {actorType : Option String}
    (hparse : J.parse (if isBinary then header message else message) = some jmsg)
    (hnew : alreadyRelayed s.serverOriginID jmsg = false)
    (hroute : externalRoute jmsg = .ok (.broadcast actorType))
    (haid : (jmsg.field "_aid").isSome) (hgid : (jmsg.field "_gid").isSome) :
    ∃ l, ((parseExternalMessage J message isBinary source).final s).log = s.log ++ l ∧
      ∀ ws m b, Effect.send ws m b ∈ l → s.InRoom ws (jmsg.field "_aid") (jmsg.field "_gid") ∨
        s.NoRoom (jmsg.field "_aid") (jmsg.field "_gid") ∧ s.InSomeRoom ws := by
  have hs := consistent_run J isAlphanumeric h
  have hnull : jmsg ≠ .null := by
    rintro rfl
    exact absurd haid (by simp [Json.field])
  rw [parseExternalMessage_final J hparse hnull hnew hroute]
  have hemits : Emits s (DeliversTo fun ws => s.InRoom ws (jmsg.field "_aid") (jmsg.field "_gid") ∨
      s.NoRoom (jmsg.field "_aid") (jmsg.field "_gid") ∧ s.InSomeRoom ws) s
      ((dispatchExternal J (.broadcast actorType) jmsg message isBinary source).final s) :=
    moves_bind_at (emits_deliverExternalBroadcast hs haid hgid) fun _ _ =>
      emits_forwardExternalMessage J message isBinary source _
  obtain ⟨-, l, hl, hQ⟩ := hemits (.refl s)
  exact ⟨l, hl, fun ws m b he => hQ _ he ws m b rfl⟩

/-- A vehicle of the account `acc` is connected, in its group `1`. -/
def vehicleRun : List Event := [announceUnit "k1", .connect "/?f=k1&s=drone" "peer"]

/-- A group frame of another server, stamped with an account. -/
def groupFrame (aid : String) : Json :=
  .obj [("ty", .str "g"), ("sd", .str "gcs"), ("_aid", .str aid), ("_gid", .str "1")]

theorem relayed_broadcast_groupFrame : ∃ s : Server,
    run Text.codec isAsciiAlphanumeric (start {}) vehicleRun = some s ∧
    ∃ l, ((parseExternalMessage Text.codec (Text.stringify (groupFrame "acc")) false none).final
        s).log = s.log ++ l ∧
      ∀ ws m b, Effect.send ws m b ∈ l → s.InRoom ws (some (.str "acc")) (some (.str "1")) ∨
        s.NoRoom (some (.str "acc")) (some (.str "1")) ∧ s.InSomeRoom ws := by
  have h : (run Text.codec isAsciiAlphanumeric (start {}) vehicleRun).isSome = true := by
    decide +kernel
  have hparse : Text.codec.parse (Text.stringify (groupFrame "acc")) = some (groupFrame "acc") := by
    decide +kernel
  obtain ⟨s, hs⟩ := Option.isSome_iff_exists.mp h
  exact ⟨s, hs, @relayed_broadcast Text.codec _ {} vehicleRun s hs
    (Text.stringify (groupFrame "acc")) false none _ none hparse rfl rfl rfl rfl⟩

/-- A frame of an account that is not here reaches a vehicle of another account. -/
theorem relayed_broadcast_otherAccount : ∃ s : Server,
    run Text.codec isAsciiAlphanumeric (start {}) vehicleRun = some s ∧
    (∃ l, ((parseExternalMessage Text.codec (Text.stringify (groupFrame "other")) false none).final
        s).log = s.log ++ l ∧ Effect.send 0 (Text.stringify (groupFrame "other")) false ∈ l) ∧
    ¬ s.InRoom 0 (some (.str "other")) (some (.str "1")) := by
  have h : (run Text.codec isAsciiAlphanumeric (start {}) vehicleRun).map (fun s =>
      ((s.sockets 0).loginRequest.map fun l => l.accountID,
        decide (Effect.send 0 (Text.stringify (groupFrame "other")) false ∈
          ((parseExternalMessage Text.codec (Text.stringify (groupFrame "other")) false none).final
            s).log.drop s.log.length))) = some (some (some (.str "acc")), true) := by
    decide +kernel
  obtain ⟨s, hs, hf⟩ := Option.map_eq_some_iff.mp h
  rw [Prod.mk.injEq, decide_eq_true_eq] at hf
  obtain ⟨hlogin, hsend⟩ := hf
  obtain ⟨login, hl, hacc⟩ := Option.map_eq_some_iff.mp hlogin
  refine ⟨s, hs, ?_, ?_⟩
  · obtain ⟨l, hlog⟩ := (onlyShrinks_parseExternalMessage Text.codec
      (Text.stringify (groupFrame "other")) false none s).log
    rw [← hlog, List.drop_left] at hsend
    exact ⟨l, hlog.symm, hsend⟩
  · rintro ⟨g, k, hu, -, haid⟩
    obtain ⟨login', hl', -, hroom⟩ := (consistent_run _ _ hs).member g k 0 hu
    rw [hl] at hl'
    obtain rfl := Option.some.inj hl'
    have hkey := (haid.symm.trans hroom.2.2).key (propKey_str "other")
    rw [hacc, propKey_str] at hkey
    exact absurd (Except.ok.inj hkey) (by decide)

end

/-! ### One-to-one messages -/

/-- The group has these ids. -/
def Stamped (s : Server) (g : GroupId) (aid gid : Val) : Prop :=
  (s.groupHeap g).ID = gid ∧ (s.accountOf g).accountID = aid

/-- The socket is a member of a room with these ids. -/
def MemberOf (s : Server) (ws : SocketId) (aid gid : Val) : Prop :=
  ∃ g, (s.sockets ws).group = some g ∧ s.Stamped g aid gid

/-- The room of the active sender an id names. -/
def senderRoom (s : Server) (senderID : Val) : Except JsError (Option GroupId) :=
  (s.activeSenderIDsList.index s.proto senderID).map fun slot =>
    slot.stored?.bind fun w => (s.sockets w).group

/-- The ways a frame gets past the check of `fn_sendTIndividualId` without its stamps having
    matched the room of the target's socket `ws`. -/
inductive Misdirected (s : Server) (ws : SocketId) (senderID aid gid : Val) : Prop
  /-- neither the target nor the named sender is in a room -/
  | roomless : s.senderRoom senderID = .ok none → (s.sockets ws).group = none →
      Misdirected s ws senderID aid gid
  /-- the named sender is here and in the target's room, so the stamps are not looked at -/
  | localSender {g : GroupId} : s.senderRoom senderID = .ok (some g) →
      (s.sockets ws).group = some g → ¬ s.Stamped g aid gid → Misdirected s ws senderID aid gid
  /-- the named sender is not here, and only the group id is compared -/
  | groupOnly {g : GroupId} : s.activeSenderIDsList.index s.proto senderID = .ok .absent →
      gid.isSome → (s.sockets ws).group = some g → strictEq (s.groupHeap g).ID gid = true →
      (s.accountOf g).accountID ≠ aid → Misdirected s ws senderID aid gid

theorem eq_of_strictEq : ∀ {v w : Val}, strictEq v w = true → v = w
  | none, w, h => of_decide_eq_true h
  | some .null, w, h => of_decide_eq_true h
  | some (.bool _), w, h => of_decide_eq_true h
  | some (.num _), w, h => of_decide_eq_true h
  | some (.str _), w, h => of_decide_eq_true h
  | some (.arr _), w, h => absurd h (by simp [strictEq])
  | some (.obj _), w, h => absurd h (by simp [strictEq])

/-- The check of `fn_sendTIndividualId`, once the target's socket is found open. -/
def PassesCheck (s : Server) (ws : SocketId) (senderID gid : Val) : Prop :=
  s.senderRoom senderID = .ok (s.sockets ws).group ∨
    ∃ g, s.activeSenderIDsList.index s.proto senderID = .ok .absent ∧ gid.isSome ∧
      (s.sockets ws).group = some g ∧ strictEq (s.groupHeap g).ID gid = true

/-- A frame that passes has matching stamps, or is misdirected. -/
theorem passesCheck_misdirected {s : Server} {ws : SocketId} {senderID aid gid : Val}
    (h : s.PassesCheck ws senderID gid) :
    s.MemberOf ws aid gid ↔ ¬ s.Misdirected ws senderID aid gid := by
  constructor
  · rintro ⟨g, hg, hstamped⟩ hmis
    cases hmis with
    | roomless _ hnone => rw [hg] at hnone; exact absurd hnone (by simp)
    | localSender _ hg' hnot =>
      rw [hg] at hg'
      obtain rfl := Option.some.inj hg'
      exact hnot hstamped
    | groupOnly _ _ hg' _ hne =>
      rw [hg] at hg'
      obtain rfl := Option.some.inj hg'
      exact hne hstamped.2
  · intro hmis
    rcases h with h | ⟨g, habsent, hgid, hg, heq⟩
    · -- sender and target agree on their room
      cases hg : (s.sockets ws).group with
      | none => rw [hg] at h; exact absurd (.roomless h hg) hmis
      | some g =>
        rw [hg] at h
        by_contra hno
        exact hmis (.localSender h hg fun hst => hno ⟨g, hg, hst⟩)
    · by_contra hno
      refine hmis (.groupOnly habsent hgid hg heq fun hacc => hno ⟨g, hg, ?_, hacc⟩)
      exact eq_of_strictEq heq

theorem send_final (ws : SocketId) (message : Bytes) (isBinary : Bool) (s : Server) :
    (send ws message isBinary).final s = s.emit (.send ws message isBinary) := by
  rw [send, final_modify_bind, final_get_bind]
  split
  · rfl
  · rfl

theorem send_log (ws : SocketId) (message : Bytes) (isBinary : Bool) (s : Server) :
    ((send ws message isBinary).final s).log = s.log ++ [.send ws message isBinary] := by
  rw [send_final, emit_log]

/-- Without an open socket under the target nothing happens. -/
theorem sendTIndividualId_skip {s : Server} {message : Bytes} {isBinary : Bool}
    {target senderID gid : Val} (h : ∀ ws, s.activeSenderIDsList.index s.proto target =
      .ok (.own ws) → (s.sockets ws).readyState ≠ .isOpen) :
    (sendTIndividualId message isBinary target senderID gid).final s = s := by
  simp only [sendTIndividualId, getActiveSender, final, run_bind, run_get, run_ofExcept]
  cases hi : s.activeSenderIDsList.index s.proto target with
  | error e => rfl
  | ok slot =>
    cases slot with
    | absent => rfl
    | inherited => rfl
    | own ws => simp only [run_bind, run_get, if_neg (h ws hi)]; rfl

theorem sendTIndividualId_passes {s : Server} {message : Bytes} {isBinary : Bool}
    {target senderID gid : Val} {ws : SocketId}
    (hi : s.activeSenderIDsList.index s.proto target = .ok (.own ws))
    (ho : (s.sockets ws).readyState = .isOpen) (hp : s.PassesCheck ws senderID gid) :
    (sendTIndividualId message isBinary target senderID gid).final s =
      (send ws message isBinary).final s := by
  simp only [sendTIndividualId, getActiveSender, final, run_bind, run_get, run_ofExcept, hi, if_pos ho]
  rcases hp with hroom | ⟨g, habsent, hgid, hg, heq⟩
  · rw [senderRoom] at hroom
    cases hs : s.activeSenderIDsList.index s.proto senderID with
    | error e => rw [hs] at hroom; exact absurd hroom (by simp [Except.map])
    | ok sender =>
      rw [hs] at hroom
      simp only [if_pos (Except.ok.inj hroom)]
  · simp only [habsent, Slot.stored?, Option.bind_none, hgid, and_self, if_true, hg, if_pos heq]
    exact congrArg Prod.snd (congrFun (ite_self _) s)

theorem sendTIndividualId_fails {s : Server} {message : Bytes} {isBinary : Bool}
    {target senderID gid : Val} {ws : SocketId}
    (hi : s.activeSenderIDsList.index s.proto target = .ok (.own ws))
    (ho : (s.sockets ws).readyState = .isOpen) (hp : ¬ s.PassesCheck ws senderID gid) :
    (sendTIndividualId message isBinary target senderID gid).final s = s := by
  simp only [sendTIndividualId, getActiveSender, final, run_bind, run_get, run_ofExcept, hi, if_pos ho]
  obtain ⟨hroom, hstamp⟩ := not_or.mp hp
  rw [senderRoom] at hroom
  cases hs : s.activeSenderIDsList.index s.proto senderID with
  | error e => rfl
  | ok sender =>
    have hne : (sender.stored?.bind fun w => (s.sockets w).group) ≠ (s.sockets ws).group := by
      intro h
      rw [hs] at hroom
      exact hroom (congrArg Except.ok h)
    simp only [if_neg hne]
    split
    · next habsent =>
      cases hg : (s.sockets ws).group with
      | none => rfl
      | some g =>
        have hneq : ¬ strictEq (s.groupHeap g).ID gid = true := fun heq =>
          hstamp ⟨g, by rw [hs, habsent.1], habsent.2, hg, heq⟩
        simp only [if_neg hneq]
        rfl
    · rfl

/-- What `fn_sendTIndividualId` sends, it sends to the open socket its target names, when the check
    passes. -/
theorem sendTIndividualId_log (s : Server) (message : Bytes) (isBinary : Bool)
    (target senderID gid : Val) : ∃ l,
      ((sendTIndividualId message isBinary target senderID gid).final s).log = s.log ++ l ∧
      ∀ ws, (∃ m b, Effect.send ws m b ∈ l) ↔
        s.activeSenderIDsList.index s.proto target = .ok (.own ws) ∧
        (s.sockets ws).readyState = .isOpen ∧ s.PassesCheck ws senderID gid := by
  by_cases hsent : ∃ ws, s.activeSenderIDsList.index s.proto target = .ok (.own ws) ∧
      (s.sockets ws).readyState = .isOpen ∧ s.PassesCheck ws senderID gid
  · obtain ⟨ws, hi, ho, hp⟩ := hsent
    refine ⟨[.send ws message isBinary], ?_, fun v => ?_⟩
    · rw [sendTIndividualId_passes hi ho hp]; exact send_log ws message isBinary s
    · constructor
      · rintro ⟨m, b, hmem⟩
        obtain ⟨rfl, -, -⟩ := Effect.send.inj (List.mem_singleton.mp hmem)
        exact ⟨hi, ho, hp⟩
      · rintro ⟨hi', -, -⟩
        rw [hi] at hi'
        obtain rfl := Slot.own.inj (Except.ok.inj hi')
        exact ⟨message, isBinary, List.mem_singleton_self _⟩
  · refine ⟨[], ?_, fun v => iff_of_false (by simp) fun h => hsent ⟨v, h⟩⟩
    rw [List.append_nil]
    by_cases hopen : ∃ ws, s.activeSenderIDsList.index s.proto target = .ok (.own ws) ∧
        (s.sockets ws).readyState = .isOpen
    · obtain ⟨ws, hi, ho⟩ := hopen
      rw [sendTIndividualId_fails hi ho fun hp => hsent ⟨ws, hi, ho, hp⟩]
    · rw [sendTIndividualId_skip fun ws hi ho => hopen ⟨ws, hi, ho⟩]

/-- In every state in which no prototype has been written to, a relayed one-to-one message reaches
    members of the room its stamps name only, exactly when it is not misdirected. -/
theorem relayed_individual (J : JsonCodec) {s : Server} {message : Bytes} {isBinary : Bool}
    {source : Option LinkId} {jmsg : Json} {target : Val} (_ : s.SparesPrototypes)
    (hparse : J.parse (if isBinary then header message else message) = some jmsg)
    (hnew : alreadyRelayed s.serverOriginID jmsg = false)
    (hroute : externalRoute jmsg = .ok (.individual target)) :
    ∃ l, ((parseExternalMessage J message isBinary source).final s).log = s.log ++ l ∧
      ((∀ ws m b, Effect.send ws m b ∈ l →
          s.MemberOf ws (jmsg.field "_aid") (jmsg.field "_gid")) ↔
        ∀ ws, s.activeSenderIDsList.index s.proto target = .ok (.own ws) →
          (s.sockets ws).readyState = .isOpen →
            ¬ s.Misdirected ws (jmsg.field Const.wsSenderID) (jmsg.field "_aid")
              (jmsg.field "_gid")) := by
  have hnull : jmsg ≠ .null := by
    rintro rfl
    cases hroute
  rw [parseExternalMessage_final J hparse hnull hnew hroute]
  obtain ⟨l, hl, hsends⟩ := sendTIndividualId_log s message isBinary target
    (jmsg.field Const.wsSenderID) (jmsg.field "_gid")
  refine ⟨l, hl, ?_, ?_⟩
  · intro hall ws hi ho hmis
    have hp : s.PassesCheck ws (jmsg.field Const.wsSenderID) (jmsg.field "_gid") := by
      cases hmis with
      | roomless hr hg => exact Or.inl (by rw [hr, hg])
      | localSender hr hg _ => exact Or.inl (by rw [hr, hg])
      | groupOnly ha hgid hg heq _ => exact Or.inr ⟨_, ha, hgid, hg, heq⟩
    obtain ⟨m, b, hmem⟩ := (hsends ws).mpr ⟨hi, ho, hp⟩
    exact (passesCheck_misdirected hp).mp (hall ws m b hmem) hmis
  · intro hnone ws m b hmem
    obtain ⟨hi, ho, hp⟩ := (hsends ws).mp ⟨m, b, hmem⟩
    exact (passesCheck_misdirected hp).mpr (hnone ws hi ho)

/-- A frame of another server for one unit, stamped with an account. -/
def unitFrame (aid : String) : Json :=
  .obj [("ty", .str "i"), ("sd", .str "gcs"), ("tg", .str "drone"), ("_aid", .str aid),
    ("_gid", .str "1")]

theorem relayed_individual_unitFrame : ∃ s : Server,
    run Text.codec isAsciiAlphanumeric (start {}) vehicleRun = some s ∧
    ∃ l, ((parseExternalMessage Text.codec (Text.stringify (unitFrame "acc")) false none).final
        s).log = s.log ++ l ∧
      ((∀ ws m b, Effect.send ws m b ∈ l → s.MemberOf ws (some (.str "acc")) (some (.str "1"))) ↔
        ∀ ws, s.activeSenderIDsList.index s.proto (some (.str "drone")) = .ok (.own ws) →
          (s.sockets ws).readyState = .isOpen →
            ¬ s.Misdirected ws (some (.str "gcs")) (some (.str "acc")) (some (.str "1"))) := by
  have h : (run Text.codec isAsciiAlphanumeric (start {}) vehicleRun).map
      (fun s => decide s.SparesPrototypes) = some true := by
    decide +kernel
  have hparse : Text.codec.parse (Text.stringify (unitFrame "acc")) = some (unitFrame "acc") := by
    decide +kernel
  obtain ⟨s, hs, hplain⟩ := Option.map_eq_some_iff.mp h
  exact ⟨s, hs, @relayed_individual Text.codec s (Text.stringify (unitFrame "acc")) false none _
    (some (.str "drone")) (of_decide_eq_true hplain) hparse rfl rfl⟩

/-- A frame of another account reaches the vehicle, because the two groups have the same id. -/
theorem relayed_individual_otherAccount : ∃ s : Server,
    run Text.codec isAsciiAlphanumeric (start {}) vehicleRun = some s ∧
    (∃ l, ((parseExternalMessage Text.codec (Text.stringify (unitFrame "other")) false none).final
        s).log = s.log ++ l ∧ Effect.send 0 (Text.stringify (unitFrame "other")) false ∈ l) ∧
    s.activeSenderIDsList.own? "drone" = some 0 ∧
    ¬ s.MemberOf 0 (some (.str "other")) (some (.str "1")) := by
  have h : (run Text.codec isAsciiAlphanumeric (start {}) vehicleRun).map (fun s =>
      (s.activeSenderIDsList.own? "drone", (s.sockets 0).group.map fun g =>
        (s.accountOf g).accountID, decide (Effect.send 0 (Text.stringify (unitFrame "other")) false ∈
          ((parseExternalMessage Text.codec (Text.stringify (unitFrame "other")) false none).final
            s).log.drop s.log.length))) = some (some 0, some (some (.str "acc")), true) := by
    decide +kernel
  obtain ⟨s, hs, hf⟩ := Option.map_eq_some_iff.mp h
  simp only [Prod.mk.injEq, decide_eq_true_eq] at hf
  obtain ⟨hactive, hgroup, hsend⟩ := hf
  obtain ⟨g, hg, hacc⟩ := Option.map_eq_some_iff.mp hgroup
  refine ⟨s, hs, ?_, hactive, ?_⟩
  · obtain ⟨l, hlog⟩ := (onlyShrinks_parseExternalMessage Text.codec
      (Text.stringify (unitFrame "other")) false none s).log
    rw [← hlog, List.drop_left] at hsend
    exact ⟨l, hlog.symm, hsend⟩
  · rintro ⟨g', hg', -, haid⟩
    rw [hg] at hg'
    obtain rfl := Option.some.inj hg'
    rw [hacc] at haid
    exact absurd haid (by decide)

end Server

end DroneEngage
