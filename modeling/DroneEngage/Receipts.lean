import DroneEngage.RelayDelivery

/-! How often a unit is sent a broadcast.

    A broadcast is up to three loops inside each other: over the accounts, over the groups of one and
    over the members of one. A unit is listed under the name of its login, in the group and the account
    of its login, so one round at most of each loop is about it, and it is sent the broadcast once or
    not at all. -/

namespace DroneEngage
open Js

namespace Server

open Action

def isSendTo (w : SocketId) : Effect → Bool
  | .send v _ _ => v = w
  | _ => false

/-- How many frames the socket is sent. -/
def receipts (w : SocketId) (s s' : Server) : ℕ :=
  (s'.log.drop s.log.length).countP (isSendTo w)

section

variable {w : SocketId} {s s₁ s' : Server}

theorem isSendTo_eq_false_iff {e : Effect} : isSendTo w e = false ↔ Misses w e := by
  cases e with
  | send v m b =>
    rw [isSendTo, decide_eq_false_iff_not, Misses]
    constructor
    · rintro hne m' b' ⟨⟩
      exact hne rfl
    · rintro h rfl
      exact h m b rfl
  | close | terminate | toAuth | updateAuth | udpProxyCommand | deliverBroadcast | toParent
    | toChildren | storageCommand => exact iff_of_true rfl (by rintro m b ⟨⟩)

theorem receipts_self : receipts w s s = 0 := by
  rw [receipts, List.drop_length, List.countP_nil]

theorem receipts_self_le : receipts w s s ≤ 1 := by
  rw [receipts_self]
  exact Nat.zero_le 1

theorem receipts_trans (h : s.log <+: s₁.log) (h' : s₁.log <+: s'.log) :
    receipts w s s' = receipts w s s₁ + receipts w s₁ s' := by
  obtain ⟨l, hl⟩ := h
  obtain ⟨l', hl'⟩ := h'
  rw [receipts, receipts, receipts, ← hl', List.drop_left, ← hl, List.append_assoc, List.drop_left,
    List.drop_left, List.countP_append]

theorem receipts_eq_zero_iff (h : s.log <+: s'.log) :
    receipts w s s' = 0 ↔ Logs (Misses w) s s' := by
  obtain ⟨l, hl⟩ := h
  rw [receipts, ← hl, List.drop_left, List.countP_eq_zero]
  constructor
  · exact fun hl' => ⟨l, hl.symm, fun e he => isSendTo_eq_false_iff.mp (Bool.eq_false_iff.mpr (hl' e he))⟩
  · rintro ⟨l', hl', hQ⟩ e he
    rw [← hl] at hl'
    obtain rfl := List.append_cancel_left hl'
    exact Bool.eq_false_iff.mp (isSendTo_eq_false_iff.mpr (hQ e he))

theorem receives_iff_pos (h : s.log <+: s'.log) : Receives w s s' ↔ 0 < receipts w s s' := by
  rw [Nat.pos_iff_ne_zero, ne_eq, receipts_eq_zero_iff h, ← not_receives_iff h, not_not]

theorem receipts_of_misses (h : Logs (Misses w) s s') : receipts w s s' = 0 := by
  obtain ⟨l, hl, -⟩ := id h
  exact (receipts_eq_zero_iff ⟨l, hl.symm⟩).mpr h

/-- What misses the socket afterwards does not count. -/
theorem receipts_then (hgrow : s.log <+: s₁.log) (h : Logs (Misses w) s₁ s') :
    receipts w s s' = receipts w s s₁ := by
  obtain ⟨l, hl, -⟩ := id h
  rw [receipts_trans hgrow ⟨l, hl.symm⟩, receipts_of_misses h, add_zero]

theorem receipts_emit_send (v : SocketId) (m : Bytes) (b : Bool) :
    receipts w s (s.emit (.send v m b)) = if v = w then 1 else 0 := by
  rw [receipts, emit_log, List.drop_left, List.countP_singleton, isSendTo]
  simp

end

/-! ### One round of a loop -/

section

variable {α : Type} {w : SocketId} {f : α → Action Server Unit} {P : Server → Prop} {x : α}
  (hgoes : ∀ y s, ¬ (f y).Escapes s) (hgrow : ∀ y s, s.log <+: ((f y).final s).log)
  (hkeep : ∀ y s, P s → P ((f y).final s))
  (hother : ∀ y s, y ≠ x → P s → receipts w s ((f y).final s) = 0)

include hgoes hgrow hkeep hother

theorem forEach_receipts_zero (ys : List α) (hx : x ∉ ys) :
    ∀ s, P s → receipts w s ((forEach ys f).final s) = 0 := by
  induction ys with
  | nil => exact fun s _ => receipts_self
  | cons y ys ih =>
    intro s hs
    obtain ⟨hne, hx'⟩ := List.ne_and_not_mem_of_not_mem_cons hx
    rw [final_forEach_cons hgoes, receipts_trans (hgrow y s) (grows_forEach hgoes hgrow ys _),
      hother y s (Ne.symm hne) hs, ih hx' _ (hkeep y s hs)]

/-- A loop of which one round is about the socket. -/
theorem forEach_receipts_le (hround : ∀ s, P s → receipts w s ((f x).final s) ≤ 1) (ys : List α)
    (hnodup : ys.Nodup) : ∀ s, P s → receipts w s ((forEach ys f).final s) ≤ 1 := by
  induction ys with
  | nil =>
    exact fun s _ => receipts_self_le
  | cons y ys ih =>
    intro s hs
    obtain ⟨hy, hys⟩ := List.nodup_cons.mp hnodup
    rw [final_forEach_cons hgoes, receipts_trans (hgrow y s) (grows_forEach hgoes hgrow ys _)]
    by_cases hyx : y = x
    · subst hyx
      rw [forEach_receipts_zero hgoes hgrow hkeep hother ys hy _ (hkeep y s hs), add_zero]
      exact hround s hs
    · rw [hother y s hyx hs, zero_add]
      exact ih hys _ (hkeep y s hs)

end

/-! ### At most once -/

/-- The socket has logged in with these keys. -/
structure LoggedInAs (w : SocketId) (ka kg k : String) (s : Server) : Prop where
  consistent : s.Consistent
  login : ∃ login, (s.sockets w).loginRequest = some login ∧ propKey login.accountID = .ok ka ∧
    propKey login.groupID = .ok kg ∧ propKey login.senderID = .ok k

section

variable {s s' : Server} {w v : SocketId} {ka kg k l m : String} {a : AccountId} {g : GroupId}
  {message : Bytes} {isBinary : Bool} {senderID : SenderRef} {actorType : Option String}

theorem LoggedInAs.shrinks (h : s.LoggedInAs w ka kg k) (hs : s.Shrinks s') :
    s'.LoggedInAs w ka kg k := by
  obtain ⟨login, hl, hkeys⟩ := h.login
  exact ⟨h.consistent.shrinks hs, login, ((hs.sockets w).loginRequest).trans hl, hkeys⟩

/-- The row of a member is under the keys of its login. -/
theorem LoggedInAs.row (h : s.LoggedInAs w ka kg k) (hu : (s.groupHeap g).units.own? l = some w) :
    l = k ∧ propKey (s.groupHeap g).ID = .ok kg ∧ propKey (s.accountOf g).accountID = .ok ka := by
  obtain ⟨login, hl, hka, hkg, hk⟩ := h.login
  obtain ⟨login', hl', hl'', -, hgroup, haccount⟩ := h.consistent.member g l w hu
  obtain rfl := Option.some.inj (hl.symm.trans hl')
  exact ⟨Except.ok.inj (hl''.symm.trans hk), hgroup.symm.key hkg, haccount.symm.key hka⟩

/-- The turn of another member. -/
theorem receipts_broadcastTo_ne (hs : s.Consistent) (hv : (s.groupHeap g).units.own? l = some v)
    (hne : v ≠ w) :
    receipts w s ((broadcastTo message isBinary senderID actorType v).final s) = 0 := by
  obtain ⟨login, hl, -⟩ := hs.member g l v hv
  refine receipts_of_misses ?_
  have hsent : Logs (Misses w) s (s.emit (.send v message isBinary)) :=
    logs_emit (misses_send hne _ _) s
  rw [broadcastTo_final hl]
  split
  · split
    · exact trans_of (Logs (Misses w)) hsent (logs_handleOrphanSocket misses_terminate v _)
    · exact hsent
  · exact refl_of (Logs (Misses w)) s

/-- The turn of the member itself. -/
theorem receipts_broadcastTo_le (hs : s.Consistent) (hv : (s.groupHeap g).units.own? l = some v) :
    receipts w s ((broadcastTo message isBinary senderID actorType v).final s) ≤ 1 := by
  obtain ⟨login, hl, -⟩ := hs.member g l v hv
  have hsent : receipts w s (s.emit (.send v message isBinary)) ≤ 1 := by
    rw [receipts_emit_send]
    split
    · exact Nat.le_refl 1
    · exact Nat.zero_le 1
  rw [broadcastTo_final hl]
  split
  · split
    · rw [receipts_then (shrinks_emit _ s).log (logs_handleOrphanSocket misses_terminate v _)]
      exact hsent
    · exact hsent
  · exact receipts_self_le

/-- In a group a broadcast is sent to a socket once at most. -/
theorem LoggedInAs.receipts_broadcast_le (h : s.LoggedInAs w ka kg k) (g : GroupId) :
    receipts w s ((broadcast g message isBinary senderID actorType).final s) ≤ 1 := by
  refine forEach_receipts_le (f := broadcastRound g message isBinary senderID actorType)
    (P := LoggedInAs w ka kg k) (x := k) (round_goes g message isBinary senderID actorType)
    (round_grows g message isBinary senderID actorType) (fun n t ht => ?_) (fun n t hn ht => ?_)
    (fun t ht => ?_) _ (s.groupHeap g).units.nodup s h
  · rw [broadcastRound, final_get_bind]
    cases (t.groupHeap g).units.own? n with
    | none => exact ht
    | some v =>
      exact ht.shrinks (moves_broadcastTo (fun v => onlyShrinks_send v _ _)
        onlyShrinks_handleOrphanSocket senderID actorType v t)
  · rw [broadcastRound, final_get_bind]
    cases hv : (t.groupHeap g).units.own? n with
    | none => exact receipts_self
    | some v =>
      refine receipts_broadcastTo_ne ht.consistent hv ?_
      rintro rfl
      exact hn (ht.row hv).1
  · rw [broadcastRound, final_get_bind]
    cases hv : (t.groupHeap g).units.own? k with
    | none => exact receipts_self_le
    | some v => exact receipts_broadcastTo_le ht.consistent hv

/-- In a group of other ids it is sent nothing. -/
theorem LoggedInAs.receipts_broadcast_zero (h : s.LoggedInAs w ka kg k)
    (hg : ¬ (propKey (s.groupHeap g).ID = .ok kg ∧ propKey (s.accountOf g).accountID = .ok ka)) :
    receipts w s ((broadcast g message isBinary senderID actorType).final s) = 0 := by
  have hemits : Moves (Emits s (Misses w)) (broadcast g message isBinary senderID actorType) := by
    refine emits_broadcast misses_terminate senderID actorType fun l v hv => ?_
    refine misses_send ?_ _ _
    rintro rfl
    exact hg (h.row hv).2
  exact receipts_of_misses (hemits s (.refl s)).2

theorem onlyShrinks_accountRound (a : AccountId) (n : String) :
    OnlyShrinks (accountRound a message isBinary senderID actorType n) := by
  refine moves_bind moves_get fun t => ?_
  cases (t.accountHeap a).groups.own? n with
  | none => exact moves_pure ()
  | some g => exact onlyShrinks_broadcast g message isBinary senderID actorType

/-- In an account a broadcast is sent to a socket once at most. -/
theorem LoggedInAs.receipts_broadcastInAccount_le (h : s.LoggedInAs w ka kg k) (a : AccountId) :
    receipts w s ((broadcastInAccount a message isBinary senderID actorType).final s) ≤ 1 := by
  refine forEach_receipts_le (f := accountRound a message isBinary senderID actorType)
    (P := LoggedInAs w ka kg k) (x := kg) (accountRound_goes a message isBinary senderID actorType)
    (accountRound_grows a message isBinary senderID actorType)
    (fun n t ht => ht.shrinks (onlyShrinks_accountRound a n t)) (fun n t hn ht => ?_)
    (fun t ht => ?_) _ (s.accountHeap a).groups.nodup s h
  · rw [accountRound, final_get_bind]
    cases hg : (t.accountHeap a).groups.own? n with
    | none => exact receipts_self
    | some g =>
      refine ht.receipts_broadcast_zero fun hkeys => hn ?_
      exact Except.ok.inj ((ht.consistent.group_key a n g hg).symm.trans hkeys.1)
  · rw [accountRound, final_get_bind]
    cases (t.accountHeap a).groups.own? kg with
    | none => exact receipts_self_le
    | some g => exact ht.receipts_broadcast_le g

/-- In an account of another id it is sent nothing. -/
theorem LoggedInAs.receipts_broadcastInAccount_zero (h : s.LoggedInAs w ka kg k)
    (ha : propKey (s.accountHeap a).accountID ≠ .ok ka) :
    receipts w s ((broadcastInAccount a message isBinary senderID actorType).final s) = 0 := by
  have hemits : Moves (Emits s (Misses w))
      (broadcastInAccount a message isBinary senderID actorType) := by
    refine emits_broadcastInAccount misses_terminate senderID actorType fun l g hg n v hv => ?_
    refine misses_send ?_ _ _
    rintro rfl
    have hkey := (h.row hv).2.2
    rw [accountOf, h.consistent.group_parent a l g hg] at hkey
    exact ha hkey
  exact receipts_of_misses (hemits s (.refl s)).2

/-- By the legacy path too a broadcast is sent to a socket once at most. -/
theorem LoggedInAs.receipts_broadcastEverywhere_le (h : s.LoggedInAs w ka kg k) :
    receipts w s ((broadcastEverywhere message isBinary senderID actorType).final s) ≤ 1 := by
  refine forEach_receipts_le (f := everyRound message isBinary senderID actorType)
    (P := LoggedInAs w ka kg k) (x := ka) (everyRound_goes message isBinary senderID actorType)
    (everyRound_grows message isBinary senderID actorType) (fun n t ht => ?_) (fun n t hn ht => ?_)
    (fun t ht => ?_) _ s.accounts.nodup s h
  · rw [everyRound, final_get_bind]
    cases t.accounts.own? n with
    | none => exact ht
    | some a =>
      exact ht.shrinks (moves_broadcastInAccount (fun v => onlyShrinks_send v _ _)
        onlyShrinks_handleOrphanSocket a senderID actorType t)
  · rw [everyRound, final_get_bind]
    cases ha : t.accounts.own? n with
    | none => exact receipts_self
    | some a =>
      refine ht.receipts_broadcastInAccount_zero fun hkey => hn ?_
      exact Except.ok.inj ((ht.consistent.account_key n a ha).symm.trans hkey)
  · rw [everyRound, final_get_bind]
    cases t.accounts.own? ka with
    | none => exact receipts_self_le
    | some a => exact ht.receipts_broadcastInAccount_le a

end

/-! ### Exactly once -/

instance (login : LoginRequest) (actorType : Option String) : Decidable (login.Hears actorType) :=
  inferInstanceAs (Decidable (_ ∨ _))

section

variable {s s' : Server} {w : SocketId} {login : LoginRequest} {ka kg k : String} {a : AccountId}
  {g : GroupId} {message : Bytes} {isBinary : Bool} {senderID : SenderRef}
  {actorType : Option String}

theorem receipts_eq_ite {c : Prop} [Decidable c] (hgrow : s.log <+: s'.log)
    (hle : receipts w s s' ≤ 1) (hiff : Receives w s s' ↔ c) :
    receipts w s s' = if c then 1 else 0 := by
  rw [receives_iff_pos hgrow] at hiff
  by_cases hc : c
  · have hpos := hiff.mpr hc
    rw [if_pos hc]
    omega
  · have hzero : ¬ 0 < receipts w s s' := fun hpos => hc (hiff.mp hpos)
    rw [if_neg hc]
    omega

theorem Stands.loggedInAs (h : s.Stands g k w login) : ∃ ka kg, s.LoggedInAs w ka kg k := by
  obtain ⟨login', hl, hk, -, hgroup, haccount⟩ := h.consistent.member g k w h.unit
  obtain ⟨kg, -, hkg⟩ := hgroup
  obtain ⟨ka, -, hka⟩ := haccount
  exact ⟨ka, kg, h.consistent, login', hl, hka, hkg, hk⟩

/-- A listed unit is sent a broadcast in its group once if it is wanted, and else not. -/
theorem Stands.receipts_broadcast (h : s.Stands g k w login) :
    receipts w s ((Server.broadcast g message isBinary senderID actorType).final s) =
      if wants login w senderID actorType = true then 1 else 0 := by
  obtain ⟨ka, kg, hw⟩ := h.loggedInAs
  exact receipts_eq_ite (onlyShrinks_broadcast _ _ _ _ _ s).log (hw.receipts_broadcast_le g)
    h.broadcast_iff

/-- So it is with a broadcast of another server. -/
theorem Placed.receipts_deliver (h : s.Placed ka kg k a g w login) (ha : IsAudience actorType)
    {jmsg : Json} (haid : propKey (jmsg.field "_aid") = .ok ka)
    (hgid : propKey (jmsg.field "_gid") = .ok kg) (v : Val) :
    receipts w s ((deliverExternalBroadcast message isBinary v jmsg actorType).final s) =
      if wants login w ⟨v, none⟩ actorType = true then 1 else 0 := by
  refine receipts_eq_ite (onlyShrinks_deliver message isBinary v jmsg actorType s).log ?_
    (h.deliver_iff ha haid hgid v)
  have hstart : receipts w s (s.emit (.deliverBroadcast message)) = 0 :=
    receipts_of_misses (logs_emit (by rintro m b ⟨⟩) s)
  have hplaced := h.emit (.deliverBroadcast message)
  obtain ⟨ka', kg', hw⟩ := hplaced.1.loggedInAs
  rw [deliverExternalBroadcast, final_modify_bind]
  by_cases hstamped : (jmsg.field "_aid").isSome ∧ (jmsg.field "_gid").isSome
  · rw [if_pos hstamped, final_bind_of_ok (hplaced.2.sendToAccountGroup haid hgid), if_pos rfl,
      final_pure, receipts_trans (shrinks_emit _ s).log (onlyShrinks_broadcast _ _ _ _ _ _).log,
      hstart, zero_add]
    exact hw.receipts_broadcast_le g
  · have hgrow : OnlyShrinks (Server.broadcastEverywhere message isBinary ⟨v, none⟩ actorType) :=
      moves_broadcastEverywhere (fun v => onlyShrinks_send v _ _) onlyShrinks_handleOrphanSocket _ _
    rw [if_neg hstamped, fallbackDelivery_eq ha, receipts_trans (shrinks_emit _ s).log (hgrow _).log,
      hstart, zero_add]
    exact hw.receipts_broadcastEverywhere_le

end

/-! ### A frame of a unit, and its copies -/

section

variable {J : JsonCodec} {s t : Server} {ws u : SocketId} {sender unit : LoginRequest} {b g : GroupId}
  {c : AccountId} {k ka kg role : String} {a : Addressing} {message m : Bytes} {isBinary : Bool}
  {fs : List (String × Json)} {trail : List String}

/-- How often a unit in the room is sent a frame of a unit of the same server. -/
theorem Speaks.receipts_parseMessage (h : s.Speaks ws sender g) (hu : s.Stands g k u unit)
    (hother : unit.senderID ≠ sender.senderID)
    (hv : J.parse (if isBinary then header message else message) = some (.obj fs))
    (hactor : sender.actorType = some (.str role))
    (hrole : role = Const.actorGCS ∨ role = Const.actorDrone) (hto : AddressedTo (.obj fs) a)
    (hread : Readable (.obj fs) a) :
    receipts u s ((parseMessage J ws message isBinary).final s) =
      if unit.Hears (a.audience role) then 1 else 0 := by
  rcases h.parseMessage_final hv hactor hrole hto with ⟨hr, -⟩ | ⟨-, m, s₁, -, hs₁, hfin⟩
  · exact absurd hread hr
  have hne : some ws ≠ some u := by
    rintro ⟨⟩
    have hsame := h.loginRequest.symm.trans hu.loginRequest
    rw [Option.some.inj hsame] at hother
    exact hother rfl
  have hgrow : s.log <+: s₁.log := by rw [hs₁]; exact (onlyShrinks_broadcast _ _ _ _ _ s).log
  rw [hfin, receipts_then hgrow (misses_forwardMessage m isBinary s₁), hs₁, hu.receipts_broadcast]
  exact if_congr (wants_iff hother hne _) rfl rfl

/-- How often a unit in the room is sent a copy that has not been on its server. -/
theorem Placed.receipts_parseExternalMessage (ht : t.Placed ka kg k c b u unit)
    (hg : (s.sockets ws).group = some g) (haid : propKey (s.accountOf g).accountID = .ok ka)
    (hgid : propKey (s.groupHeap g).ID = .ok kg) (hcopy : IsCopy J s ws sender fs message trail m)
    (hto : AddressedTo (.obj fs) a) (hr : Readable (.obj fs) a)
    (hfree : alreadyRelayed t.serverOriginID (.obj fs) = false) (hnew : t.serverOriginID ∉ trail)
    (hsd : (Json.obj fs).field Const.wsSenderID ≠ unit.senderID) (source : Option LinkId) :
    receipts u t ((parseExternalMessage J m true source).final t) =
      if unit.Hears a.relayedAudience then 1 else 0 := by
  obtain ⟨gs, hparse, hcopy, -, -⟩ := hcopy.parse
  have hstamps := hcopy.stamps g hg
  have hsame : ∀ k, k ≠ "p" → k ≠ "_path" → k ≠ "_aid" → k ≠ "_gid" →
      (Json.obj gs).field k = (Json.obj fs).field k := fun k hp hpath ha hgid =>
    hcopy.others k hp hpath fun _ => ⟨ha, hgid⟩
  have hto' : AddressedTo (.obj gs) a := hto.congr
    (hsame _ (by decide) (by decide) (by decide) (by decide))
    (hsame _ (by decide) (by decide) (by decide) (by decide))
  have hr' : Readable (.obj gs) a := by
    refine hr.imp id fun hown => ?_
    rw [Json.owns, hsame _ (by decide) (by decide) (by decide) (by decide)]
    exact hown
  have hsender : (Json.obj gs).field Const.wsSenderID = (Json.obj fs).field Const.wsSenderID :=
    hsame _ (by decide) (by decide) (by decide) (by decide)
  rw [parseExternalMessage_final J (by rw [if_pos rfl]; exact hparse) (by simp)
    ((alreadyRelayed_copy hcopy _).mpr ⟨hfree, hnew⟩) (hto'.externalRoute_eq hr'), dispatchExternal,
    receipts_then (onlyShrinks_deliver _ _ _ _ _ t).log (final_bind_keeps
      (P := fun t' => Logs (Misses u) _ t') (refl_of (Logs (Misses u)) _)
      fun _ t' h => trans_of (Logs (Misses u)) h (misses_forwardExternalMessage m true source t')),
    ht.receipts_deliver (Addressing.isAudience hto) (by rw [hstamps.1]; exact haid)
      (by rw [hstamps.2]; exact hgid)]
  exact if_congr (wants_iff (by rw [hsender]; exact hsd.symm) (by simp) _) rfl rfl

end

end Server

end DroneEngage
