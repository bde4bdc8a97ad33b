import DroneEngage.DbProxyClient

/-! Requests to the storage server are settled once.

    A request that has its id waits in `m_pendingRequests` with an armed timer, and whatever settles
    it takes the entry away and disarms the timer in the same turn. So the four that race for it, the
    answer, the timer, a close and a failing `send`, find it once. -/

namespace DroneEngage
open Js

namespace DbProxyClient

open Action

variable {s s' : DbProxyClient} {p : PromiseId} {t : TimerId} {rid : String}

/-- Is this a call of `resolve` or `reject` of the promise? -/
def isSettle (p : PromiseId) : DbEffect → Bool
  | .settle q _ => q = p
  | _ => false

/-- Neither settles a promise nor sends a request. -/
def routine : DbEffect → Bool
  | .settle .. | .request .. => false
  | .response .. | .toAuth _ | .newsPush _ => true

/-- How often a promise has been settled. -/
def settles (s : DbProxyClient) (p : PromiseId) : ℕ := s.log.countP (isSettle p)

/-- The unsettled requests are those in the table, each with its id and its armed timer. -/
structure Booked (s : DbProxyClient) : Prop where
  row : ∀ rid req, s.pendingRequests.own? rid = some req → s.rids req.promise = some rid ∧
    s.timers req.timeout = some (.request req.promise rid) ∧ s.settles req.promise = 0
  timer : ∀ t p rid, s.timers t = some (.request p rid) →
    s.pendingRequests.own? rid = some ⟨p, t⟩
  waits : ∀ p < s.nextPromise, s.settles p = 0 →
    ∃ rid t, s.pendingRequests.own? rid = some ⟨p, t⟩
  once : ∀ p, s.settles p ≤ 1
  fresh : ∀ p, s.nextPromise ≤ p → s.settles p = 0 ∧ s.rids p = none
  freshTimer : ∀ t, s.nextTimer ≤ t → s.timers t = none
  handles : ∀ t, s.heartbeatTimer = some t ∨ s.s2sAuthTimer = some t ∨ s.reconnectTimer = some t →
    t < s.nextTimer ∧ ∀ p rid, s.timers t ≠ some (.request p rid)

/-! ### Writes that keep the books -/

theorem settles_emit (x : DbEffect) (s : DbProxyClient) (p : PromiseId) :
    (s.emit x).settles p = s.settles p + (isSettle p x).toNat := by
  rw [settles, emit, List.countP_append, List.countP_singleton, settles]
  cases isSettle p x with
  | true => rfl
  | false => rfl

theorem Booked.emit (h : s.Booked) {x : DbEffect} (hx : ∀ p, isSettle p x = false) :
    (s.emit x).Booked := by
  have hsame : ∀ p, (s.emit x).settles p = s.settles p := fun p => by rw [settles_emit, hx]; rfl
  exact { h with
    row := fun rid req hrow => by rw [hsame]; exact h.row rid req hrow
    waits := fun p hp hzero => h.waits p hp (by rw [← hsame]; exact hzero)
    once := fun p => by rw [hsame]; exact h.once p
    fresh := fun p hp => by rw [hsame]; exact h.fresh p hp }

/-- A timer that is not one of a request is disarmed. -/
theorem Booked.disarm (h : s.Booked) (ht : ∀ p rid, s.timers t ≠ some (.request p rid)) :
    (s.disarm t).Booked :=
  { h with
    row := fun rid req hrow => by
      obtain ⟨hrid, htimer, hzero⟩ := h.row rid req hrow
      have hne : req.timeout ≠ t := fun heq => ht _ _ (heq ▸ htimer)
      refine ⟨hrid, ?_, hzero⟩
      simpa [DbProxyClient.disarm, hne] using htimer
    timer := fun u p rid hu => by
      simp only [DbProxyClient.disarm, Function.update_apply] at hu
      split at hu
      · exact absurd hu (by simp)
      · exact h.timer u p rid hu
    freshTimer := fun u hu => by
      simp only [DbProxyClient.disarm, Function.update_apply]
      split
      · rfl
      · exact h.freshTimer u hu
    handles := fun u hu => by
      obtain ⟨hlt, hnot⟩ := h.handles u hu
      refine ⟨hlt, fun p rid => ?_⟩
      simp only [DbProxyClient.disarm, Function.update_apply]
      split
      · simp
      · exact hnot p rid }

theorem Booked.disarm? (h : s.Booked) {u : Option TimerId}
    (hu : ∀ t, u = some t → ∀ p rid, s.timers t ≠ some (.request p rid)) :
    (s.disarm? u).Booked := by
  cases u with
  | none => exact h
  | some t => exact h.disarm (hu t rfl)

/-- The state after `setTimer`. -/
def armed (x : Timeout) (s : DbProxyClient) : DbProxyClient :=
  { s with timers := Function.update s.timers s.nextTimer (some x), nextTimer := s.nextTimer + 1 }

theorem run_setTimer (x : Timeout) (s : DbProxyClient) :
    setTimer x s = (.ok s.nextTimer, s.armed x) := rfl

theorem Booked.armed (h : s.Booked) {x : Timeout} (hx : ∀ p rid, x ≠ .request p rid) :
    (s.armed x).Booked :=
  { h with
    row := fun rid req hrow => by
      obtain ⟨hrid, htimer, hzero⟩ := h.row rid req hrow
      have hne : req.timeout ≠ s.nextTimer := by
        intro heq
        rw [heq, h.freshTimer s.nextTimer (Nat.le_refl _)] at htimer
        exact absurd htimer (by simp)
      refine ⟨hrid, ?_, hzero⟩
      simpa [DbProxyClient.armed, hne] using htimer
    timer := fun u p rid hu => by
      simp only [DbProxyClient.armed, Function.update_apply] at hu
      split at hu
      · exact absurd (Option.some.inj hu) (hx p rid)
      · exact h.timer u p rid hu
    freshTimer := fun u hu => by
      have hlt : s.nextTimer < u := hu
      simp only [DbProxyClient.armed, Function.update_apply]
      rw [if_neg (Nat.ne_of_gt hlt)]
      exact h.freshTimer u (Nat.le_of_lt hlt)
    handles := fun u hu => by
      obtain ⟨hlt, hnot⟩ := h.handles u hu
      refine ⟨Nat.lt_succ_of_lt hlt, fun p rid => ?_⟩
      simp only [DbProxyClient.armed, Function.update_apply]
      rw [if_neg (Nat.ne_of_lt hlt)]
      exact hnot p rid }

/-- The handle just returned is that of a timer of the module itself. -/
theorem Booked.handle (h : s.Booked) {x : Timeout} (hx : ∀ p rid, x ≠ .request p rid) {u : TimerId}
    (hu : u = s.nextTimer ∨ s.heartbeatTimer = some u ∨ s.s2sAuthTimer = some u ∨
      s.reconnectTimer = some u) :
    u < (s.armed x).nextTimer ∧ ∀ p rid, (s.armed x).timers u ≠ some (.request p rid) := by
  rcases hu with rfl | hu
  · refine ⟨Nat.lt_succ_self _, fun p rid heq => ?_⟩
    simp only [DbProxyClient.armed, Function.update_self, Option.some.injEq] at heq
    exact hx p rid heq
  · exact (h.armed hx).handles u hu

/-! ### Settling -/

/-- The entry goes, the timer is disarmed, the promise is settled. -/
def settleRow (rid : String) (req : PendingRequest) (x : RequestOutcome) (s : DbProxyClient) :
    DbProxyClient :=
  emit (.settle req.promise x)
    { s.disarm req.timeout with pendingRequests := s.pendingRequests.delete rid }

theorem settleRow_settles (req : PendingRequest) (x : RequestOutcome) (q : PromiseId) :
    (s.settleRow rid req x).settles q = s.settles q + if req.promise = q then 1 else 0 := by
  rw [settleRow, settles_emit]
  by_cases hq : req.promise = q
  · rw [if_pos hq]
    simp [isSettle, hq, settles, disarm]
  · rw [if_neg hq]
    simp [isSettle, hq, settles, disarm]

theorem Booked.promise_inj (h : s.Booked) {rid rid' : String} {req req' : PendingRequest}
    (hrow : s.pendingRequests.own? rid = some req)
    (hrow' : s.pendingRequests.own? rid' = some req') (hp : req.promise = req'.promise) :
    rid = rid' := by
  have hrid := (h.row rid req hrow).1
  rw [hp, (h.row rid' req' hrow').1] at hrid
  exact (Option.some.inj hrid).symm

theorem Booked.settleRow {req : PendingRequest} (h : s.Booked)
    (hrow : s.pendingRequests.own? rid = some req) (x : RequestOutcome) :
    (s.settleRow rid req x).Booked := by
  obtain ⟨hrid, htimer, hzero⟩ := h.row rid req hrow
  have hother : ∀ rid' req', (s.pendingRequests.delete rid).own? rid' = some req' →
      rid' ≠ rid ∧ s.pendingRequests.own? rid' = some req' ∧ req.promise ≠ req'.promise := by
    intro rid' req' hrow'
    have hne : rid' ≠ rid := by
      rintro rfl
      exact absurd hrow' (by simp)
    have hold := Table.own?_delete_imp hrow'
    exact ⟨hne, hold, fun hp => hne (h.promise_inj hrow hold hp).symm⟩
  have htimer_ne : ∀ rid' req', s.pendingRequests.own? rid' = some req' →
      req.promise ≠ req'.promise → req'.timeout ≠ req.timeout := by
    intro rid' req' hold hp heq
    have hold' := (h.row rid' req' hold).2.1
    rw [heq, htimer, Option.some.injEq, Timeout.request.injEq] at hold'
    exact hp hold'.1
  constructor
  · intro rid' req' hrow'
    obtain ⟨hne, hold, hp⟩ := hother rid' req' hrow'
    obtain ⟨hrid', htimer', hzero'⟩ := h.row rid' req' hold
    refine ⟨hrid', ?_, ?_⟩
    · simpa [DbProxyClient.settleRow, DbProxyClient.emit, DbProxyClient.disarm,
        htimer_ne rid' req' hold hp] using htimer'
    · rw [settleRow_settles, if_neg hp, hzero']
  · intro u q rid' hu
    simp only [DbProxyClient.settleRow, DbProxyClient.emit, DbProxyClient.disarm,
      Function.update_apply] at hu ⊢
    split at hu
    · exact absurd hu (by simp)
    · next hut =>
      have hold := h.timer u q rid' hu
      have hne : rid' ≠ rid := by
        rintro rfl
        rw [hrow] at hold
        exact hut (by rw [Option.some.inj hold])
      rw [Table.own?_delete, if_neg hne]
      exact hold
  · intro q hq hnone
    rw [settleRow_settles] at hnone
    have hp : req.promise ≠ q := by
      intro heq
      rw [if_pos heq] at hnone
      exact absurd hnone (by omega)
    rw [if_neg hp] at hnone
    obtain ⟨rid', u, hold⟩ := h.waits q hq hnone
    have hne : rid' ≠ rid := by
      rintro rfl
      rw [hrow] at hold
      exact hp (by rw [Option.some.inj hold])
    refine ⟨rid', u, ?_⟩
    change (s.pendingRequests.delete rid).own? rid' = _
    rw [Table.own?_delete, if_neg hne]
    exact hold
  · intro q
    rw [settleRow_settles]
    split
    · next heq =>
      rw [← heq]
      omega
    · exact h.once q
  · intro q hq
    obtain ⟨hnone, hfresh⟩ := h.fresh q hq
    have hp : req.promise ≠ q := by
      rintro rfl
      rw [hfresh] at hrid
      exact absurd hrid (by simp)
    refine ⟨?_, hfresh⟩
    rw [settleRow_settles, if_neg hp, hnone]
  · intro u hu
    simp only [DbProxyClient.settleRow, DbProxyClient.emit, DbProxyClient.disarm,
      Function.update_apply]
    split
    · rfl
    · exact h.freshTimer u hu
  · intro u hu
    obtain ⟨hlt, hnot⟩ := h.handles u hu
    refine ⟨hlt, fun q rid' => ?_⟩
    simp only [DbProxyClient.settleRow, DbProxyClient.emit, DbProxyClient.disarm,
      Function.update_apply]
    split
    · simp
    · exact hnot q rid'

/-! ### Parts of a step -/

/-- The statuses handed over for AUTH. -/
def reports (effects : List DbEffect) : List StorageStatus :=
  effects.filterMap fun
    | .toAuth status => some status
    | _ => none

theorem reports_append (l l' : List DbEffect) : reports (l ++ l') = reports l ++ reports l' :=
  List.filterMap_append

/-- The books are kept, whatever is settled or requested meanwhile has a reason, and the last status
    that is handed over for AUTH is remembered. -/
structure Keeps (R : DbEffect → Prop) (s s' : DbProxyClient) : Prop where
  log : ∃ new, s'.log = s.log ++ new ∧ (∀ x ∈ new, routine x = false → R x) ∧
    s'.lastSentStorageStatus =
      ((reports new).getLast?.map StorageStatus.status).or s.lastSentStorageStatus
  callback : s'.sendToAuthCallback = s.sendToAuthCallback
  booked : s.Booked → s'.Booked

variable {R : DbEffect → Prop}

instance : IsPreorder DbProxyClient (Keeps R) where
  refl := fun _ => ⟨⟨[], by simp, by simp, rfl⟩, rfl, id⟩
  trans := fun s t u h h' => by
    obtain ⟨new, hnew, hR, hlast⟩ := h.log
    obtain ⟨new', hnew', hR', hlast'⟩ := h'.log
    refine ⟨⟨new ++ new', ?_, fun x hmem => ?_, ?_⟩, h'.callback.trans h.callback,
      fun hs => h'.booked (h.booked hs)⟩
    · rw [hnew', hnew, List.append_assoc]
    · rcases List.mem_append.mp hmem with hmem | hmem
      · exact hR x hmem
      · exact hR' x hmem
    · rw [hlast', hlast, reports_append, List.getLast?_append, Option.map_or, Option.or_assoc]

/-- What was said to the outside, and what is remembered of it. -/
def said (s : DbProxyClient) : List DbEffect × Option StorageState × Bool :=
  (s.log, s.lastSentStorageStatus, s.sendToAuthCallback)

/-- A write that tells the outside nothing. -/
theorem keeps_silent (hsaid : s'.said = s.said) (hbooked : s.Booked → s'.Booked) : Keeps R s s' := by
  obtain ⟨hlog, hlast, hcallback⟩ := Prod.mk.inj hsaid |>.imp_right Prod.mk.inj
  exact ⟨⟨[], by rw [hlog, List.append_nil], by simp, by rw [hlast]; rfl⟩, hcallback, hbooked⟩

/-- One more effect, which settles nothing and tells AUTH nothing. -/
theorem keeps_say {x : DbEffect} (hx : ∀ p, isSettle p x = false) (hsilent : reports [x] = [])
    (hR : routine x = false → R x) (s : DbProxyClient) : Keeps R s (s.emit x) := by
  refine ⟨⟨[x], rfl, fun y hmem => ?_, by rw [hsilent]; rfl⟩, rfl, fun h => h.emit hx⟩
  rw [List.mem_singleton.mp hmem]
  exact hR

theorem keeps_emit {x : DbEffect} (hx : routine x = true) (hsilent : reports [x] = [])
    (s : DbProxyClient) : Keeps R s (s.emit x) := by
  refine keeps_say (fun p => ?_) hsilent (fun h => absurd h (by simp [hx])) s
  cases x with
  | settle q o => exact absurd hx (by simp [routine])
  | response | request | toAuth | newsPush => rfl

/-- A status is remembered and handed over. -/
theorem keeps_report (status : StorageStatus) (s : DbProxyClient) :
    Keeps R s (emit (.toAuth status) { s with lastSentStorageStatus := some status.status }) := by
  refine ⟨⟨[.toAuth status], rfl, fun x hmem hx => ?_, rfl⟩, rfl, fun h => ?_⟩
  · rw [List.mem_singleton.mp hmem] at hx
    exact absurd hx (by simp [routine])
  · have hwrite : Booked { s with lastSentStorageStatus := some status.status } := { h with }
    exact hwrite.emit fun _ => rfl

theorem keeps_setSocket (w : WsId) (x : WsState) (s : DbProxyClient) :
    Keeps R s (s.setSocket w x) := keeps_silent rfl fun h => { h with }

theorem keeps_closeSocket (w : WsId) : Moves (Keeps R) (closeSocket w) := by
  intro s
  rw [closeSocket, final_modify]
  cases s.sockets w with
  | connecting | isOpen => exact keeps_setSocket w .closing s
  | closing | closed => exact refl_of (Keeps R) s

theorem keeps_send (w : WsId) {x : DbEffect} (hx : routine x = true) (hsilent : reports [x] = []) :
    Moves (Keeps R) (send w x) := by
  refine moves_bind moves_get fun s => ?_
  cases s.sockets w with
  | connecting => exact moves_throw _
  | isOpen => exact moves_modify fun s => keeps_emit hx hsilent s
  | closing | closed => exact moves_pure ()

theorem keeps_sendStorageStatus (status : StorageState) (error : Option String) (force : Bool) :
    Moves (Keeps R) (sendStorageStatus status error force) := by
  refine moves_get_bind fun s => ?_
  split
  · exact keeps_report { status, endpoint := s.currentEndpoint, error } s
  · exact refl_of (Keeps R) s

theorem Booked.disarmHandle (h : s.Booked) {u : Option TimerId}
    (hu : u = s.heartbeatTimer ∨ u = s.s2sAuthTimer ∨ u = s.reconnectTimer) :
    (s.disarm? u).Booked := by
  refine h.disarm? fun t ht => (h.handles t ?_).2
  rcases hu with rfl | rfl | rfl
  · exact Or.inl ht
  · exact Or.inr (Or.inl ht)
  · exact Or.inr (Or.inr ht)

theorem said_disarm? (u : Option TimerId) (s : DbProxyClient) : (s.disarm? u).said = s.said := by
  cases u with
  | none => rfl
  | some t => rfl

theorem keeps_startHeartbeat : Moves (Keeps R) startHeartbeat := by
  refine moves_bind (moves_modify fun s => keeps_silent (said_disarm? _ s)
    fun h => h.disarmHandle (Or.inl rfl)) fun _ s => ?_
  rw [final_bind_of_ok (run_setTimer _ s), final_modify]
  refine keeps_silent rfl fun h => { h.armed (x := .heartbeat) (by simp) with handles := ?_ }
  intro u hu
  refine h.handle (by simp) ?_
  rcases hu with hu | hu | hu
  · exact Or.inl (Option.some.inj hu).symm
  · exact Or.inr (Or.inr (Or.inl hu))
  · exact Or.inr (Or.inr (Or.inr hu))

theorem keeps_setConnected : Moves (Keeps R) setConnected :=
  moves_bind (moves_modify fun _ => keeps_silent rfl fun h => { h with }) fun _ =>
    moves_bind (keeps_sendStorageStatus _ _ _) fun _ => keeps_startHeartbeat

theorem keeps_clearS2sAuthTimer : Moves (Keeps R) clearS2sAuthTimer := by
  refine moves_modify fun s => keeps_silent (said_disarm? _ s) fun h => ?_
  have hoff := h.disarmHandle (Or.inr (Or.inl rfl))
  exact { hoff with handles := fun u hu => hoff.handles u (by
    rcases hu with hu | hu | hu
    · exact Or.inl hu
    · exact absurd hu (by simp)
    · exact Or.inr (Or.inr hu)) }

theorem keeps_stopHeartbeat : Moves (Keeps R) stopHeartbeat := by
  refine moves_modify fun s => keeps_silent (said_disarm? _ s) fun h => ?_
  have hoff := h.disarmHandle (Or.inl rfl)
  exact { hoff with handles := fun u hu => hoff.handles u (by
    rcases hu with hu | hu
    · exact absurd hu (by simp)
    · exact Or.inr hu) }

theorem keeps_connectInternal (validUrl : Endpoint → Bool) :
    Moves (Keeps R) (connectInternal validUrl) := by
  refine moves_bind moves_get fun s => ?_
  cases s.currentEndpoint with
  | none => exact moves_pure ()
  | some endpoint =>
    refine moves_bind (moves_modify fun s => keeps_silent (said_disarm? _ s) fun h => ?_) fun _ =>
      moves_ite (fun _ => moves_modify fun _ => keeps_silent rfl fun h => { h with })
        fun _ => moves_throw _
    have hoff := h.disarmHandle (Or.inr (Or.inr rfl))
    exact { hoff with handles := fun u hu => hoff.handles u (by
      rcases hu with hu | hu | hu
      · exact Or.inl hu
      · exact Or.inr (Or.inl hu)
      · exact absurd hu (by simp)) }

theorem keeps_connect (validUrl : Endpoint → Bool) (endpoint : Endpoint) :
    Moves (Keeps R) (connect validUrl endpoint) := by
  have hrest : Moves (Keeps R) (do
      Action.modify fun s => { s with authenticated := false, currentEndpoint := some endpoint }
      connectInternal validUrl : Action DbProxyClient Unit) :=
    moves_bind (moves_modify fun _ => keeps_silent rfl fun h => { h with }) fun _ =>
      keeps_connectInternal validUrl
  refine moves_bind moves_get fun s => moves_ite (fun _ => moves_pure ()) fun _ => ?_
  cases s.ws with
  | none => exact hrest
  | some w =>
    exact moves_bind (keeps_closeSocket w) fun _ =>
      moves_bind (moves_modify fun _ => keeps_silent rfl fun h => { h with }) fun _ => hrest

theorem keeps_onOpen : Moves (Keeps R) onOpen := by
  refine moves_bind (moves_modify fun _ => keeps_silent rfl fun h => { h with }) fun _ =>
    moves_bind (keeps_sendStorageStatus _ _ _) fun _ =>
      moves_bind (moves_modify fun s => keeps_silent (said_disarm? _ s)
        fun h => h.disarmHandle (Or.inr (Or.inl rfl))) fun _ s => ?_
  rw [final_bind_of_ok (run_setTimer _ s), final_modify]
  refine keeps_silent rfl fun h => { h.armed (x := .s2sAuth) (by simp) with handles := ?_ }
  intro u hu
  refine h.handle (by simp) ?_
  rcases hu with hu | hu | hu
  · exact Or.inr (Or.inl hu)
  · exact Or.inl (Option.some.inj hu).symm
  · exact Or.inr (Or.inr (Or.inr hu))

theorem keeps_s2sAuthTimeout : Moves (Keeps R) s2sAuthTimeout :=
  moves_bind moves_get fun _ => moves_ite (fun _ => keeps_setConnected) fun _ => moves_pure ()

theorem keeps_onEnvelope {PrivateKey PublicKey : Type} (E : StorageSettings PrivateKey PublicKey)
    (env : Json) : Moves (Keeps R) (onEnvelope E env) := by
  refine moves_bind moves_get fun s => ?_
  cases s.ws with
  | none => exact moves_pure ()
  | some w =>
    refine moves_ite (fun _ => ?_) fun _ => moves_pure ()
    exact moves_bind keeps_clearS2sAuthTimer fun _ => moves_attempt
      (moves_bind (moves_ofExcept _) fun _ => keeps_send w rfl rfl)
      fun _ => keeps_closeSocket w

theorem keeps_onError (message : String) : Moves (Keeps R) (onError message) := by
  refine moves_bind (moves_modify fun _ => keeps_silent rfl fun h => { h with }) fun _ =>
    moves_bind (keeps_sendStorageStatus _ _ _) fun _ => moves_bind moves_get fun s => ?_
  cases s.ws with
  | none => exact moves_pure ()
  | some w => exact keeps_closeSocket w

/-! ### What settles -/

theorem keeps_settleRow {req : PendingRequest} {x : RequestOutcome}
    (hrow : s.Booked → s.pendingRequests.own? rid = some req)
    (hR : R (.settle req.promise x)) : Keeps R s (s.settleRow rid req x) := by
  refine ⟨⟨[.settle req.promise x], rfl, fun y hmem _ => ?_, rfl⟩, rfl,
    fun h => h.settleRow (hrow h) x⟩
  rw [List.mem_singleton.mp hmem]
  exact hR

theorem field_of_readProp {k : String} {v : Json} {x : Val} (h : readProp k (some v) = .ok x) :
    v.field k = x := by
  cases v with
  | null => exact absurd h (by simp [readProp])
  | bool | num | str | arr | obj => exact Except.ok.inj h

/-- The message that ends the handshake. -/
theorem onStorageMessage_success {msg : Json} (h : msg.field "type" = some (.str "auth_success")) :
    onStorageMessage msg = clearS2sAuthTimer >>= fun _ => setConnected := by
  cases msg with
  | null | bool | num | str | arr => exact absurd h (by simp [Json.field])
  | obj fields =>
    have htype : readProp "type" (some (.obj fields)) = .ok (some (.str "auth_success")) :=
      congrArg Except.ok h
    rw [onStorageMessage, htype]
    rfl

theorem pendingFor_some {v : Val} {k : String} {req : PendingRequest}
    (h : s.pendingFor v = .ok (some (k, req))) :
    propKey v = .ok k ∧ s.pendingRequests.own? k = some req := by
  rw [pendingFor] at h
  split at h
  · exact absurd h (by simp)
  · obtain ⟨own, -, h⟩ := bind_eq_ok.mp h
    obtain ⟨k', hk', h⟩ := bind_eq_ok.mp h
    have hrow := Except.ok.inj h
    split at hrow
    · obtain ⟨req', hreq, hpair⟩ := Option.map_eq_some_iff.mp hrow
      obtain ⟨rfl, rfl⟩ := Prod.mk.inj hpair
      exact ⟨hk', hreq⟩
    · exact absurd hrow (by simp)

/-- Any other message settles a request, is handed on as news, or is ignored. -/
theorem final_onStorageMessage {msg : Json} (h : msg.field "type" ≠ some (.str "auth_success"))
    (s : DbProxyClient) :
    (∃ k req, msg.field "type" ≠ some (.str "error") ∧
      s.pendingFor (msg.field "rid") = .ok (some (k, req)) ∧
      (onStorageMessage msg).final s = s.settleRow k req (.resolved msg)) ∨
    (onStorageMessage msg).final s = s.emit (.newsPush (msg.field "ms")) ∨
    (onStorageMessage msg).final s = s := by
  rw [onStorageMessage]
  cases htype : readProp "type" (some msg) with
  | error e => exact Or.inr (Or.inr rfl)
  | ok type =>
    obtain rfl := field_of_readProp htype
    rw [final_ok_bind, if_neg h]
    split
    · refine Or.inr (Or.inr ?_)
      cases propKey (msg.field "error") with
      | error e => rfl
      | ok text => rfl
    · next herror =>
      rw [final_get_bind]
      cases hfound : s.pendingFor (msg.field "rid") with
      | error e => exact Or.inr (Or.inr rfl)
      | ok found =>
        rw [final_ok_bind]
        cases found with
        | some row => exact Or.inl ⟨row.1, row.2, herror, rfl, rfl⟩
        | none =>
          dsimp only
          split
          · exact Or.inr (Or.inl rfl)
          · exact Or.inr (Or.inr rfl)

/-- An answer settles the request whose id is its `rid`, read as a key. -/
theorem keeps_onStorageMessage {msg : Json}
    (hR : ∀ p rid, propKey (msg.field "rid") = .ok rid → (s.Booked → s.rids p = some rid) →
      R (.settle p (.resolved msg))) : Keeps R s ((onStorageMessage msg).final s) := by
  by_cases hsuccess : msg.field "type" = some (.str "auth_success")
  · rw [onStorageMessage_success hsuccess]
    exact moves_bind (R := Keeps R) keeps_clearS2sAuthTimer (fun _ => keeps_setConnected) s
  · rcases final_onStorageMessage hsuccess s with ⟨k, req, -, hfound, h⟩ | h | h
    · obtain ⟨hkey, hrow⟩ := pendingFor_some hfound
      rw [h]
      exact keeps_settleRow (fun _ => hrow) (hR req.promise k hkey fun hb => (hb.row k req hrow).1)
    · rw [h]
      exact keeps_emit rfl rfl s
    · rw [h]
      exact refl_of (Keeps R) s

theorem keeps_requestTimeout {p : PromiseId} (ht : s.timers t = some (.request p rid))
    (hR : R (.settle p .timedOut)) :
    Keeps R s ((requestTimeout p rid).final (s.disarm t)) :=
  have hrow : s.Booked → s.pendingRequests.own? rid = some ⟨p, t⟩ := fun h => h.timer t p rid ht
  keeps_settleRow hrow hR

/-- A timer of the module itself fires. -/
theorem keeps_disarm (ht : ∀ p rid, s.timers t ≠ some (.request p rid)) :
    Keeps R s (s.disarm t) := keeps_silent rfl fun h => h.disarm ht

theorem keeps_fire (validUrl : Endpoint → Bool) (t : TimerId)
    (hR : ∀ p rid, s.timers t = some (.request p rid) → R (.settle p .timedOut)) :
    Keeps R s ((fire validUrl t).final s) := by
  rw [fire, final_get_bind]
  cases htimer : s.timers t with
  | none => exact refl_of (Keeps R) s
  | some x =>
    cases x with
    | heartbeat =>
      exact moves_bind (R := Keeps R) moves_get (fun _ => keeps_sendStorageStatus _ _ _) s
    | reconnect =>
      rw [final_modify_bind]
      exact trans_of (Keeps R) (keeps_disarm (by simp [htimer])) (keeps_connectInternal validUrl _)
    | s2sAuth =>
      rw [final_modify_bind]
      exact trans_of (Keeps R) (keeps_disarm (by simp [htimer])) (keeps_s2sAuthTimeout _)
    | request p rid =>
      rw [final_modify_bind]
      exact keeps_requestTimeout htimer (hR p rid htimer)

/-! ### A new request -/

/-- A request that is refused at once. -/
def refused (s : DbProxyClient) : DbProxyClient :=
  emit (.settle s.nextPromise .notConnected) { s with nextPromise := s.nextPromise + 1 }

/-- A request that waits. -/
def entered (rid : String) (s : DbProxyClient) : DbProxyClient :=
  { s.armed (.request s.nextPromise rid) with
    rids := Function.update s.rids s.nextPromise (some rid)
    nextPromise := s.nextPromise + 1
    pendingRequests := s.pendingRequests.insert rid ⟨s.nextPromise, s.nextTimer⟩ }

theorem Booked.refused (h : s.Booked) : s.refused.Booked := by
  obtain ⟨hnone, hrids⟩ := h.fresh s.nextPromise (Nat.le_refl _)
  have hsettles : ∀ q, s.refused.settles q = s.settles q + if s.nextPromise = q then 1 else 0 := by
    intro q
    rw [DbProxyClient.refused, settles_emit]
    by_cases hq : s.nextPromise = q
    · rw [if_pos hq]
      simp [isSettle, hq, settles]
    · rw [if_neg hq]
      simp [isSettle, hq, settles]
  have hold : ∀ q, s.rids q ≠ none → s.nextPromise ≠ q := by
    rintro q hq rfl
    exact hq hrids
  exact { h with
    row := fun rid req hrow => by
      obtain ⟨hrid, htimer, hzero⟩ := h.row rid req hrow
      refine ⟨hrid, htimer, ?_⟩
      rw [hsettles, if_neg (hold _ (by rw [hrid]; simp)), hzero]
    waits := fun q hq hzero => by
      rw [hsettles] at hzero
      have hne : s.nextPromise ≠ q := by
        rintro rfl
        rw [if_pos rfl] at hzero
        omega
      rw [if_neg hne] at hzero
      have hq' : q < s.nextPromise + 1 := hq
      exact h.waits q (Nat.lt_of_le_of_ne (Nat.lt_succ_iff.mp hq') (Ne.symm hne)) hzero
    once := fun q => by
      rw [hsettles]
      split
      · next heq => rw [← heq]; omega
      · exact h.once q
    fresh := fun q hq => by
      have hlt : s.nextPromise < q := hq
      obtain ⟨hzero, hfresh⟩ := h.fresh q (Nat.le_of_lt hlt)
      refine ⟨?_, hfresh⟩
      rw [hsettles, if_neg (Nat.ne_of_lt hlt), hzero] }

theorem Booked.entered (h : s.Booked) (hrid : ∀ q < s.nextPromise, s.rids q ≠ some rid) :
    (s.entered rid).Booked := by
  obtain ⟨hnone, hrids⟩ := h.fresh s.nextPromise (Nat.le_refl _)
  have hunused : ∀ q, s.rids q ≠ some rid := by
    intro q hq
    by_cases hlt : q < s.nextPromise
    · exact hrid q hlt hq
    · rw [(h.fresh q (Nat.not_lt.mp hlt)).2] at hq
      exact absurd hq (by simp)
  have hrow_ne : ∀ rid' req', s.pendingRequests.own? rid' = some req' →
      rid' ≠ rid ∧ req'.promise ≠ s.nextPromise ∧ req'.timeout ≠ s.nextTimer := by
    intro rid' req' hrow
    obtain ⟨hold, htimer, -⟩ := h.row rid' req' hrow
    refine ⟨?_, ?_, ?_⟩
    · rintro rfl
      exact hunused _ hold
    · intro heq
      rw [heq, hrids] at hold
      exact absurd hold (by simp)
    · intro heq
      rw [heq, h.freshTimer s.nextTimer (Nat.le_refl _)] at htimer
      exact absurd htimer (by simp)
  constructor
  · intro rid' req' hrow
    simp only [DbProxyClient.entered, DbProxyClient.armed, Table.own?_insert] at hrow ⊢
    split at hrow
    · next heq =>
      obtain rfl := Option.some.inj hrow
      rw [heq]
      exact ⟨by simp, by simp, hnone⟩
    · obtain ⟨hold, htimer, hzero⟩ := h.row rid' req' hrow
      obtain ⟨-, hp, hu⟩ := hrow_ne rid' req' hrow
      exact ⟨by simpa [hp] using hold, by simpa [hu] using htimer, hzero⟩
  · intro u q rid' hu
    simp only [DbProxyClient.entered, DbProxyClient.armed, Function.update_apply] at hu ⊢
    rw [Table.own?_insert]
    split at hu
    · next heq =>
      obtain ⟨rfl, rfl⟩ := Timeout.request.inj (Option.some.inj hu)
      rw [if_pos rfl, heq]
    · have hold := h.timer u q rid' hu
      rw [if_neg (hrow_ne rid' _ hold).1]
      exact hold
  · intro q hq hzero
    have hq' : q < s.nextPromise + 1 := hq
    by_cases hnew : q = s.nextPromise
    · exact ⟨rid, s.nextTimer, by simp [DbProxyClient.entered, hnew]⟩
    · obtain ⟨rid', u, hold⟩ :=
        h.waits q (Nat.lt_of_le_of_ne (Nat.lt_succ_iff.mp hq') hnew) hzero
      refine ⟨rid', u, ?_⟩
      simp only [DbProxyClient.entered]
      rw [Table.own?_insert, if_neg (hrow_ne rid' _ hold).1]
      exact hold
  · exact h.once
  · intro q hq
    have hlt : s.nextPromise < q := hq
    obtain ⟨hzero, hfresh⟩ := h.fresh q (Nat.le_of_lt hlt)
    refine ⟨hzero, ?_⟩
    simp only [DbProxyClient.entered, Function.update_apply]
    rw [if_neg (Nat.ne_of_gt hlt)]
    exact hfresh
  · intro u hu
    have hlt : s.nextTimer < u := hu
    simp only [DbProxyClient.entered, DbProxyClient.armed, Function.update_apply]
    rw [if_neg (Nat.ne_of_gt hlt)]
    exact h.freshTimer u (Nat.le_of_lt hlt)
  · intro u hu
    obtain ⟨hlt, hnot⟩ := h.handles u hu
    refine ⟨Nat.lt_succ_of_lt hlt, fun q rid' => ?_⟩
    simp only [DbProxyClient.entered, DbProxyClient.armed, Function.update_apply]
    rw [if_neg (Nat.ne_of_lt hlt)]
    exact hnot q rid'

/-- A `uuidv4` that was not drawn before: its text is longer than any name objects inherit. -/
def FreshRid (s : DbProxyClient) (rid : String) : Prop :=
  rid.length = 36 ∧ ∀ q < s.nextPromise, s.rids q ≠ some rid

theorem FreshRid.assign (h : s.FreshRid rid) (req : PendingRequest) :
    s.pendingRequests.assign objectPrototype rid req = s.pendingRequests.insert rid req := by
  refine Table.assign_of_assignable (fun hproto => ?_) _ _
  have hlength := h.1
  rw [hproto.1] at hlength
  exact absurd hlength (by decide)

theorem keeps_refused (h : R (.settle s.nextPromise .notConnected)) : Keeps R s s.refused := by
  refine ⟨⟨[.settle s.nextPromise .notConnected], rfl, fun x hmem _ => ?_, rfl⟩, rfl,
    Booked.refused⟩
  rw [List.mem_singleton.mp hmem]
  exact h

theorem isConnected_socket (h : s.isConnected = true) :
    ∃ w, s.ws = some w ∧ s.sockets w = .isOpen ∧ s.authenticated = true := by
  rw [isConnected, socketOpen, Bool.and_eq_true] at h
  cases hw : s.ws with
  | none =>
    rw [hw] at h
    exact absurd h.1 (by simp)
  | some w =>
    rw [hw] at h
    exact ⟨w, rfl, of_decide_eq_true h.1, h.2⟩

/-- A new request is refused, sent, or settled at once because `send` fails. -/
theorem final_sendRequest (mt ms : Json) (fails : Bool) (hrid : s.FreshRid rid) :
    (s.isConnected = false ∧ (sendRequest mt ms rid fails).final s = s.refused) ∨
    (∃ w, s.ws = some w ∧ s.isConnected = true ∧ fails = false ∧
      (sendRequest mt ms rid fails).final s =
        (s.entered rid).emit (.request w s.nextPromise (requestFrame mt ms rid))) ∨
    (s.isConnected = true ∧ fails = true ∧ (sendRequest mt ms rid fails).final s =
      (s.entered rid).settleRow rid ⟨s.nextPromise, s.nextTimer⟩ .sendFailed) := by
  rw [sendRequest, final_get_bind, final_modify_bind]
  cases hc : s.isConnected with
  | false => exact Or.inl ⟨rfl, rfl⟩
  | true =>
    obtain ⟨w, hw, hopen, -⟩ := isConnected_socket hc
    rw [hw]
    simp only [armed, hrid.assign, final_modify_bind, final_bind_of_ok (run_setTimer _ _)]
    cases fails with
    | true =>
      refine Or.inr (Or.inr ⟨trivial, rfl, ?_⟩)
      simp only [settleRow, entered, armed, emit, disarm, hw]
      rfl
    | false =>
      refine Or.inr (Or.inl ⟨w, rfl, trivial, rfl, ?_⟩)
      rw [if_neg (by simp), final, run_attempt, send, run_bind_get]
      simp only [hopen, run_modify, entered, armed, emit, hw]

/-- A new request is sent, or settled in the same turn because it is refused or `send` fails. -/
theorem keeps_sendRequest {mt ms : Json} {fails : Bool} (hrid : s.FreshRid rid)
    (hrefused : s.isConnected = false → R (.settle s.nextPromise .notConnected))
    (hfailed : fails = true → R (.settle s.nextPromise .sendFailed))
    (hsent : ∀ w, s.ws = some w → s.isConnected = true → fails = false →
      R (.request w s.nextPromise (requestFrame mt ms rid))) :
    Keeps R s ((sendRequest mt ms rid fails).final s) := by
  have hentered : Keeps R s (s.entered rid) := keeps_silent rfl fun h => h.entered hrid.2
  rcases final_sendRequest mt ms fails hrid with
    ⟨hc, h⟩ | ⟨w, hws, hc, hfails, h⟩ | ⟨-, hfails, h⟩
  · rw [h]
    exact keeps_refused (hrefused hc)
  · rw [h]
    refine trans_of (Keeps R) hentered (keeps_say (fun _ => rfl) rfl (fun _ => ?_) _)
    exact hsent w hws hc hfails
  · rw [h]
    refine trans_of (Keeps R) hentered (keeps_settleRow (fun _ => ?_) (hfailed hfails))
    exact Table.own?_insert_self s.pendingRequests rid _

/-! ### A close -/

/-- What `fn_clearPending` does for one entry. -/
def dismiss (req : PendingRequest) : Action DbProxyClient Unit := do
  Action.modify (disarm req.timeout)
  Action.modify (emit (.settle req.promise .disconnected))

theorem not_escapes_dismiss (req : PendingRequest) (s : DbProxyClient) :
    ¬ Escapes (dismiss req) s := by
  rintro ⟨e, he⟩
  exact absurd he (by simp [dismiss])

/-- The loop does not read the table. -/
theorem final_dismiss_congr (rows : Table PendingRequest) :
    ∀ (reqs : List PendingRequest) (s : DbProxyClient),
      (forEach reqs dismiss).final { s with pendingRequests := rows } =
        { (forEach reqs dismiss).final s with pendingRequests := rows }
  | [], _ => rfl
  | req :: reqs, s =>
    final_dismiss_congr rows reqs (emit (.settle req.promise .disconnected) (s.disarm req.timeout))

theorem run_clearPending (s : DbProxyClient) : clearPending s = (.ok (),
    { (forEach s.pendingRequests.values dismiss).final s with pendingRequests := .empty }) := by
  rw [clearPending, run_bind_get]
  exact run_bind_of_ok (run_of_not_escapes (not_escapes_forEach _ not_escapes_dismiss))

theorem keeps_dismissAll (hR : ∀ p, R (.settle p .disconnected)) :
    ∀ (rows : List (String × PendingRequest)) (s : DbProxyClient), s.pendingRequests.rows = rows →
      Keeps R s { (forEach (rows.map Prod.snd) dismiss).final s with pendingRequests := .empty }
  | [], s, hrows => by
    have hsame : { s with pendingRequests := .empty } = s := by rw [← Table.eq_empty hrows]
    exact hsame.symm ▸ refl_of (Keeps R) s
  | (rid, req) :: rows, s, hrows => by
    have hrow : s.pendingRequests.own? rid = some req :=
      Table.own?_of_mem_rows (by rw [hrows]; exact List.mem_cons_self)
    have hrest := keeps_dismissAll hR rows (s.settleRow rid req .disconnected)
      (Table.delete_oldest hrows)
    have hcongr := final_dismiss_congr (s.pendingRequests.delete rid) (rows.map Prod.snd)
      (emit (.settle req.promise .disconnected) (s.disarm req.timeout))
    refine trans_of (Keeps R) (keeps_settleRow (fun _ => hrow) (hR req.promise)) ?_
    -- the loop leaves the entry in the table, which is replaced in the end
    rw [show s.settleRow rid req .disconnected = { emit (.settle req.promise .disconnected)
      (s.disarm req.timeout) with pendingRequests := s.pendingRequests.delete rid } from rfl,
      hcongr] at hrest
    exact hrest

theorem keeps_clearPending (hR : ∀ p, R (.settle p .disconnected)) : Moves (Keeps R) clearPending := by
  intro s
  rw [final, run_clearPending]
  exact keeps_dismissAll hR _ s rfl

theorem keeps_onClose (hR : ∀ p, R (.settle p .disconnected)) : Moves (Keeps R) onClose := by
  refine moves_bind (moves_modify fun _ => keeps_silent rfl fun h => { h with }) fun _ =>
    moves_bind keeps_stopHeartbeat fun _ => moves_bind (keeps_sendStorageStatus _ _ _) fun _ =>
      moves_bind (keeps_clearPending hR) fun _ => moves_bind keeps_clearS2sAuthTimer fun _ =>
        moves_bind moves_get fun s => moves_ite (fun _ => ?_) fun _ => moves_pure ()
  refine moves_bind (moves_modify fun _ => keeps_silent rfl fun h => { h with }) fun _ s => ?_
  rw [final_bind_of_ok (run_setTimer _ s), final_modify]
  refine keeps_silent rfl fun h => { h.armed (x := .reconnect) (by simp) with handles := ?_ }
  intro u hu
  refine h.handle (by simp) ?_
  rcases hu with hu | hu | hu
  · exact Or.inr (Or.inl hu)
  · exact Or.inr (Or.inr (Or.inl hu))
  · exact Or.inl (Option.some.inj hu).symm

theorem not_escapes_sendStorageStatus (status : StorageState) (error : Option String)
    (force : Bool) (s : DbProxyClient) : ¬ Escapes (sendStorageStatus status error force) s := by
  rw [sendStorageStatus, escapes_get_bind]
  split
  · exact not_escapes_modify _ _
  · exact not_escapes_pure _ _

@[simp] theorem pendingRequests_disarm? (u : Option TimerId) (s : DbProxyClient) :
    (s.disarm? u).pendingRequests = s.pendingRequests := by
  cases u with
  | none => rfl
  | some t => rfl

/-- Nothing waits after a close. -/
theorem pendingRequests_onClose (s : DbProxyClient) :
    (onClose.final s).pendingRequests = .empty := by
  rw [onClose, final_modify_bind, stopHeartbeat, final_modify_bind,
    final_bind_of_ok (run_of_not_escapes (not_escapes_sendStorageStatus _ _ _ _)),
    final_bind_of_ok (run_clearPending _), clearS2sAuthTimer, final_modify_bind, final_get_bind]
  split
  · rw [final_modify_bind, final_bind_of_ok (run_setTimer _ _), final_modify]
    exact pendingRequests_disarm? _ _
  · exact pendingRequests_disarm? _ _

/-! ### Every run -/

section

variable {PrivateKey PublicKey : Type} (E : StorageSettings PrivateKey PublicKey)

/-- Why the step settles the promise so. -/
def Settled (s : DbProxyClient) (o : Op) (p : PromiseId) : RequestOutcome → Prop
  | .resolved msg => ∃ w data isText rid, o = .message w data isText ∧
      E.J.parse data = some msg ∧ propKey (msg.field "rid") = .ok rid ∧ s.rids p = some rid
  | .notConnected => s.isConnected = false ∧ p = s.nextPromise ∧
      ∃ mt ms rid fails, o = .sendRequest mt ms rid fails
  | .sendFailed => p = s.nextPromise ∧ ∃ mt ms rid, o = .sendRequest mt ms rid true
  | .timedOut => ∃ t rid, o = .timer t ∧ s.timers t = some (.request p rid)
  | .disconnected => ∃ w, o = .closed w

/-- Why the step has the effect: a request is sent by its own call, on the current socket of a
    connected client. -/
def Justified (s : DbProxyClient) (o : Op) : DbEffect → Prop
  | .settle p x => Settled E s o p x
  | .request w p frame => s.ws = some w ∧ s.isConnected = true ∧ p = s.nextPromise ∧
      ∃ mt ms rid, o = .sendRequest mt ms rid false ∧ frame = requestFrame mt ms rid
  | .response .. | .toAuth _ | .newsPush _ => True

/-- A call of `fn_sendRequest` draws a fresh id. -/
def FreshRids (s : DbProxyClient) : Op → Prop
  | .sendRequest _ _ rid _ => s.FreshRid rid
  | _ => True

variable {E}

theorem keeps_step {o : Op} (hb : s.Booked) (hfresh : s.FreshRids o) (h : Step E s o s') :
    Keeps (Justified E s o) s s' := by
  obtain ⟨henabled, rfl⟩ := h
  cases o with
  | connect endpoint => exact keeps_connect E.validUrl endpoint s
  | sendRequest mt ms rid fails =>
    refine keeps_sendRequest hfresh (fun hc => ⟨hc, rfl, mt, ms, rid, fails, rfl⟩) ?_ ?_
    · rintro rfl
      exact ⟨rfl, mt, ms, rid, rfl⟩
    · rintro w hws hc rfl
      exact ⟨hws, hc, rfl, mt, ms, rid, rfl, rfl⟩
  | opened w =>
    exact trans_of (Keeps _) (keeps_setSocket w .isOpen s) (keeps_onOpen _)
  | message w data isText =>
    rw [perform, onMessage]
    cases S2sAuth.parseEnvelope E.J data isText with
    | some env => exact keeps_onEnvelope E env s
    | none =>
      cases hparse : E.J.parse data with
      | none => exact refl_of _ s
      | some msg =>
        exact keeps_onStorageMessage fun p rid hkey hrid =>
          ⟨w, data, isText, rid, rfl, hparse, hkey, hrid hb⟩
  | errored w message => exact keeps_onError message s
  | closing w => exact keeps_setSocket w .closing s
  | closed w =>
    exact trans_of (Keeps _) (keeps_setSocket w .closed s) (keeps_onClose (fun _ => ⟨w, rfl⟩) _)
  | timer t => exact keeps_fire E.validUrl t fun p rid ht => ⟨t, rid, rfl, ht⟩

theorem booked_init : Booked {} where
  row := fun _ _ h => absurd h (by simp)
  timer := fun _ _ _ h => absurd h (by simp)
  waits := fun _ h => absurd h (Nat.not_lt_zero _)
  once := fun _ => Nat.zero_le _
  fresh := fun _ _ => ⟨rfl, rfl⟩
  freshTimer := fun _ _ => rfl
  handles := fun _ h => absurd h (by simp)

theorem booked_path (h : Lts.Path (Step E) FreshRids {} s) : s.Booked :=
  h.invariant (P := Booked) (fun hb hc hstep => (keeps_step hb hc hstep).booked hb) booked_init

/-- In every run each promise is settled at most once and for its reason, the table holds exactly the
    unsettled requests with their armed timers, and a close leaves none. -/
theorem requests_settle_once {o : Op} (h : Lts.Path (Step E) FreshRids {} s)
    (hfresh : s.FreshRids o) (hstep : Step E s o s') :
    (∀ p, s'.settles p ≤ 1) ∧
    (∀ p, (∃ rid t, s'.pendingRequests.own? rid = some ⟨p, t⟩) ↔
      p < s'.nextPromise ∧ s'.settles p = 0) ∧
    (∀ rid p t, s'.pendingRequests.own? rid = some ⟨p, t⟩ →
      s'.rids p = some rid ∧ s'.timers t = some (.request p rid)) ∧
    (∃ new, s'.log = s.log ++ new ∧ ∀ p x, .settle p x ∈ new → Settled E s o p x) ∧
    (∀ w, o = .closed w → ∀ p < s'.nextPromise, s'.settles p = 1) := by
  have hkeeps := keeps_step (booked_path h) hfresh hstep
  have hb := hkeeps.booked (booked_path h)
  have hrow : ∀ p, (∃ rid t, s'.pendingRequests.own? rid = some ⟨p, t⟩) ↔
      p < s'.nextPromise ∧ s'.settles p = 0 := by
    intro p
    constructor
    · rintro ⟨rid, t, hown⟩
      obtain ⟨hrid, -, hzero⟩ := hb.row rid _ hown
      refine ⟨Nat.lt_of_not_le fun hle => ?_, hzero⟩
      rw [(hb.fresh p hle).2] at hrid
      exact absurd hrid (by simp)
    · rintro ⟨hp, hzero⟩
      exact hb.waits p hp hzero
  obtain ⟨new, hnew, hR, -⟩ := hkeeps.log
  refine ⟨hb.once, hrow, fun rid p t hown => ?_, ⟨new, hnew, fun p x hmem => hR _ hmem rfl⟩, ?_⟩
  · obtain ⟨hrid, htimer, -⟩ := hb.row rid _ hown
    exact ⟨hrid, htimer⟩
  · rintro w rfl p hp
    obtain ⟨-, rfl⟩ := hstep
    have hzero : ((perform E (.closed w)).final s).settles p ≠ 0 := by
      intro hzero
      obtain ⟨rid, t, hown⟩ := (hrow p).mpr ⟨hp, hzero⟩
      have hempty : ((perform E (.closed w)).final s).pendingRequests = .empty :=
        pendingRequests_onClose (s.setSocket w .closed)
      rw [hempty] at hown
      exact absurd hown (by simp)
    exact Nat.le_antisymm (hb.once p) (Nat.pos_of_ne_zero hzero)

end

/-! ### A request and its answer -/

instance (s : DbProxyClient) : ∀ o : Op, Decidable (s.FreshRids o)
  | .sendRequest .. => inferInstanceAs (Decidable (_ ∧ _))
  | .connect _ | .opened _ | .message .. | .errored .. | .closing _ | .closed _ | .timer _ =>
    inferInstanceAs (Decidable True)

/-- The id of a request. -/
def firstRid : String := "1b9d6bcd-bbfd-4b2d-9b5d-ab8dfbbd4bed"

/-- The connection stands without a challenge, and a request is sent. -/
def asks : List Op :=
  [.connect storageEndpoint, .opened 0, .timer 0,
    .sendRequest (.num "9001") (.obj []) firstRid false]

/-- The storage server answers to a request with this `rid`. -/
def answer (rid : Json) : Op :=
  .message 0 (Js.Text.stringify (.obj [("mt", .num "9001"), ("rid", rid)])) true

/-- The answer settles the request, and its entry is gone. -/
theorem requests_settle_once_asks : ∃ s s', Lts.Path (Step plainSettings) FreshRids {} s ∧
    s.settles 0 = 0 ∧ Step plainSettings s (answer (.str firstRid)) s' ∧ s'.settles 0 = 1 ∧
    ∀ rid t, s'.pendingRequests.own? rid ≠ some ⟨0, t⟩ := by
  have h : (run plainSettings FreshRids {} asks).map (fun s => (s.settles 0,
      decide (s.Enabled (answer (.str firstRid))),
      ((perform plainSettings (answer (.str firstRid))).final s).settles 0)) =
        some (0, true, 1) := by
    decide +kernel
  obtain ⟨s, hs, hf⟩ := Option.map_eq_some_iff.mp h
  simp only [Prod.mk.injEq, decide_eq_true_eq] at hf
  obtain ⟨hzero, henabled, hone⟩ := hf
  have hpath := path_of_run hs
  have hstep : Step plainSettings s (answer (.str firstRid)) _ := ⟨henabled, rfl⟩
  refine ⟨s, _, hpath, hzero, hstep, hone, fun rid t hown => ?_⟩
  have hfresh : s.FreshRids (answer (.str firstRid)) := trivial
  have hwaits := ((requests_settle_once hpath hfresh hstep).2.1 0).mp ⟨rid, t, hown⟩
  rw [hone] at hwaits
  exact absurd hwaits.2 (by simp)

/-- An answer whose `rid` is not the id but an array with the id in it resolves the request. -/
theorem array_rid_resolves : ∃ s s' msg, Lts.Path (Step plainSettings) FreshRids {} s ∧
    s.rids 0 = some firstRid ∧ s.settles 0 = 0 ∧
    Step plainSettings s (answer (.arr [.str firstRid])) s' ∧
    msg.field "rid" = some (.arr [.str firstRid]) ∧
    s'.log.getLast? = some (.settle 0 (.resolved msg)) := by
  have h : (run plainSettings FreshRids {} asks).map (fun s => (s.rids 0, s.settles 0,
      decide (s.Enabled (answer (.arr [.str firstRid]))),
      ((perform plainSettings (answer (.arr [.str firstRid]))).final s).log.getLast?)) =
        some (some firstRid, 0, true, some (.settle 0 (.resolved
          (.obj [("mt", .num "9001"), ("rid", .arr [.str firstRid])])))) := by
    decide +kernel
  obtain ⟨s, hs, hf⟩ := Option.map_eq_some_iff.mp h
  simp only [Prod.mk.injEq, decide_eq_true_eq] at hf
  obtain ⟨hrid, hzero, henabled, hlast⟩ := hf
  exact ⟨s, _, _, path_of_run hs, hrid, hzero, ⟨henabled, rfl⟩, rfl, hlast⟩

end DbProxyClient

end DroneEngage
