import DroneEngage.UdpWiring
import DroneEngage.UdpRequests

/-! The life of a proxy: it is built for an entry of the table, stays the current proxy of that entry
    while it is open, and is closed once when it leaves the table.

    A closed proxy has no sockets any more, so a handler that asked it for its configuration would
    throw. None does: what a handler throws comes from the name or the ports of a request. -/

namespace DroneEngage
open Js

namespace UdpProxies

open Action

variable {s s' : UdpProxies} {p : ProxyId} {k l : UdpSocketId} {e : EntryId} {b : Bind}

/-- The proxy is the current one of the entry that is stored under the name. -/
def Holds (s : UdpProxies) (name : String) (p : ProxyId) : Prop :=
  ∃ e, s.activeUdpProxy.own? name = some e ∧ (s.entries e).m_udpproxy = p

/-- Requests use the table as a map over its own keys: the one name under which an assignment stores
    nothing is not used. -/
def OwnKeys (_ : UdpProxies) : Op → Prop
  | .getUDPSocket name .. => propKey name ≠ .ok "__proto__"
  | _ => True

/-- A proxy has been closed once if its sockets are gone, and not at all otherwise. -/
def Counted (s : UdpProxies) : Prop :=
  ∀ p < s.nextProxy, (s.proxies p).closings = (s.proxies p).socket1.isNone.toNat

/-- The entry of an open proxy is in the table. -/
def Stored (s : UdpProxies) : Prop :=
  ∀ p k l, s.Live p k l → ∃ name, s.activeUdpProxy.own? name = some (s.proxies p).callback.entry

/-! ### Every move keeps the books -/

theorem Counted.shut (h : s.Counted) (hp : s.Live p k l) : (s.shut p k l).Counted := by
  intro q hq
  have hold := h q hq
  simp only [UdpProxies.shut, Function.update_apply]
  split
  · next heq =>
    subst heq
    rw [hp.1] at hold
    simp only [hold]
    rfl
  · exact hold

theorem Counted.install (h : s.Counted) (port1 port2 : Val) (c : Callback) (blocked : Bool) :
    (s.install e port1 port2 c blocked).Counted := by
  intro q hq
  simp only [UdpProxies.install, Function.update_apply] at hq ⊢
  split
  · rfl
  · next hne => exact h q (Nat.lt_of_le_of_ne (Nat.lt_succ_iff.mp hq) hne)

theorem SameWires.counted (h : SameWires s s') (hs : s.Counted) : s'.Counted := by
  intro q hq
  rw [h.nextProxy] at hq
  rw [h.closings, (h.proxies q).2.2.1]
  exact hs q hq

theorem Counted.settle (h : s.Counted) : (s.settle k b p).Counted := by
  intro q hq
  have hold := h q hq
  simp only [UdpProxies.settle, Function.update_apply]
  split
  · next heq => rw [← heq]; exact hold
  · exact hold

theorem Counted.moved {m : Move} (h : s.Counted) (hm : Moved s m s') : s'.Counted := by
  cases hm with
  | quiet halike => exact halike.counted h
  | block blocked hrow => exact (sameWires_block _ blocked s).counted h
  | drop hrow hlive => exact h.shut hlive
  | recreate onComplete hrow hlive => exact (h.shut hlive).install _ _ _ _
  | create port1 port2 r now hrow =>
    exact Counted.install (s := newEntry _ port1 port2 now s) h _ _ _ _
  | ask => exact h
  | reply r report en => exact h
  | @ends _ k b p report en hk hp hb hb' halike =>
    refine halike.counted ?_
    cases s.due b p with
    | none => exact h.settle
    | some r => exact h.settle (k := k) (b := b) (p := p)

theorem SameWires.stored (h : SameWires s s') (hs : s.Stored) : s'.Stored := by
  intro q i j hq
  rw [h.activeUdpProxy, (h.proxies q).1]
  exact hs q i j (h.live.mp hq)

theorem Stored.settle (h : s.Stored) : (s.settle k b p).Stored := by
  intro q i j hq
  simp only [UdpProxies.settle, Live, Function.update_apply] at hq ⊢
  split
  · next heq =>
    subst heq
    rw [if_pos rfl] at hq
    exact h q i j hq
  · next hne =>
    rw [if_neg hne] at hq
    exact h q i j hq

/-- A new entry under the name takes no row away, and the other open proxies stay as they are. -/
theorem Stored.create {name : String} (h : s.Stored) (hrow : s.activeUdpProxy.own? name = none)
    (hname : name ≠ "__proto__") (port1 port2 : Val) (r : RequestId) (now : ℕ) :
    (install s.nextEntry port1 port2 (.opened s.nextEntry r) false
      (newEntry name port1 port2 now s)).Stored := by
  have htable : (newEntry name port1 port2 now s).activeUdpProxy =
      s.activeUdpProxy.insert name s.nextEntry :=
    Table.assign_of_assignable (fun hproto => hname hproto.1) _ _
  intro q i j hq
  change ∃ name', (newEntry name port1 port2 now s).activeUdpProxy.own? name' = _
  rw [htable]
  by_cases hnew : q = s.nextProxy
  · refine ⟨name, ?_⟩
    rw [Table.own?_insert, if_pos rfl, hnew]
    simp [install, newEntry, Callback.entry]
  · have hold : s.Live q i j := (install_live (s := newEntry name port1 port2 now s) hnew).mp hq
    obtain ⟨name', hrow'⟩ := h q i j hold
    have hne : name' ≠ name := by
      rintro rfl
      rw [hrow] at hrow'
      exact absurd hrow' (by simp)
    refine ⟨name', ?_⟩
    rw [Table.own?_insert, if_neg hne]
    simpa [install, newEntry, hnew] using hrow'

theorem Stored.drop {name : String} (h : s.Stored) (hw : s.Wired)
    (hrow : s.activeUdpProxy.own? name = some e) :
    Stored { s.shut (s.entries e).m_udpproxy k l with
      activeUdpProxy := s.activeUdpProxy.delete name } := by
  intro q i j hq
  change (s.shut (s.entries e).m_udpproxy k l).Live q i j at hq
  obtain ⟨hold, hentry⟩ := hw.shut_entry hq
  obtain ⟨name', hrow'⟩ := h q i j hold
  have hne : name' ≠ name := by
    rintro rfl
    exact hentry (Option.some.inj (hrow'.symm.trans hrow))
  refine ⟨name', ?_⟩
  change (s.activeUdpProxy.delete name).own? name' = _
  rw [Table.own?_delete, if_neg hne, hrow']
  simp [UdpProxies.shut, shut_live_ne hq]

theorem Stored.replace {name : String} (h : s.Stored) (hw : s.Wired)
    (hrow : s.activeUdpProxy.own? name = some e) (onComplete : Option OnComplete) :
    (s.replace e k l onComplete).Stored := by
  intro q i j hq
  change ∃ name', s.activeUdpProxy.own? name' = _
  by_cases hnew : q = s.nextProxy
  · refine ⟨name, ?_⟩
    rw [hrow, hnew]
    simp [UdpProxies.replace, install, UdpProxies.shut, Callback.entry]
  · have hshut := (install_live (s := s.shut (s.entries e).m_udpproxy k l) hnew).mp hq
    obtain ⟨name', hrow'⟩ := h q i j (hw.shut_entry hshut).1
    refine ⟨name', ?_⟩
    rw [hrow']
    simp [UdpProxies.replace, install, UdpProxies.shut, shut_live_ne hshut, hnew]

/-- Every move keeps the entries of open proxies in the table. -/
theorem Stored.moved {m : Move} (h : s.Stored) (hw : s.Wired) (hm : Moved s m s')
    (hname : ∀ name r, m = .create name r → name ≠ "__proto__") : s'.Stored := by
  cases hm with
  | quiet halike => exact halike.stored h
  | block blocked hrow => exact (sameWires_block _ blocked s).stored h
  | drop hrow hlive => exact h.drop hw hrow
  | recreate onComplete hrow hlive => exact h.replace hw hrow onComplete
  | @create name port1 port2 r now hrow =>
    exact h.create hrow (hname name r rfl) port1 port2 r now
  | ask => exact h
  | reply r report en => exact h
  | @ends _ k b p report en hk hp hb hb' halike =>
    refine halike.stored ?_
    cases s.due b p with
    | none => exact h.settle
    | some r => exact h.settle (k := k) (b := b) (p := p)

/-- What is kept about every proxy. -/
structure Accounted (s : UdpProxies) : Prop extends Sound s where
  counted : s.Counted
  stored : s.Stored

theorem Accounted.moved {m : Move} (h : s.Accounted) (hm : Moved s m s')
    (hname : ∀ name r, m = .create name r → name ≠ "__proto__") : s'.Accounted :=
  ⟨h.toSound.moved hm, h.counted.moved hm, h.stored.moved h.toWired hm hname⟩

theorem Accounted.start (public_host : Val) : (start public_host).Accounted :=
  ⟨Sound.start public_host, fun _ hp => absurd hp (Nat.not_lt_zero _),
    fun _ _ _ hp => absurd hp.1 (by simp [UdpProxies.start])⟩

theorem Opened.accounted {r : RequestId} {name socket1 socket2 : Val} (h : s.Accounted)
    (hname : propKey name ≠ .ok "__proto__") (ho : Opened s r name socket1 socket2 s') :
    s'.Accounted := by
  have hkey : ∀ {entry : Option EntryId} {key : String} {port1 port2 : Val},
      s.lookupRequest name socket1 socket2 = .ok (entry, key, port1, port2) → key ≠ "__proto__" := by
    rintro entry key port1 port2 hlook rfl
    exact hname (lookupRequest_eq_ok hlook).2.1
  cases ho with
  | thrown _ => exact h
  | fresh hlook hm =>
    refine h.moved hm ?_
    rintro _ _ ⟨⟩
    exact hkey hlook
  | same _ _ _ _ hm hm' | refreshed _ _ _ _ hm hm' =>
    exact (h.moved hm (by simp)).moved hm' (by simp)
  | reopened hlook _ _ hm hm' =>
    refine (h.moved hm (by simp)).moved hm' ?_
    rintro _ _ ⟨⟩
    exact hkey hlook

/-- What the reaper does keeps the books, as every run of moves that creates nothing. -/
theorem Tended.accounted (ht : Tended s s') (h : s.Accounted) : s'.Accounted := by
  obtain ⟨hpath, -⟩ := ht h.toSound
  refine hpath.invariant (P := Accounted) (fun {t m u} ha (hm : m.Tends) hmoved => ?_) h
  refine ha.moved hmoved ?_
  rintro name r rfl
  exact hm.elim

/-- Every operation keeps the books. -/
theorem Accounted.step {o : Op} (h : s.Accounted) (ho : s.OwnKeys o) (hstep : Step s o s') :
    s'.Accounted := by
  obtain ⟨hen, rfl⟩ := hstep
  cases o with
  | getUDPSocket name socket1 socket2 now =>
    exact (getUDPSocket_opened (h.toSound.moved .ask) s.nextRequest name socket1 socket2
      now).accounted (h.moved .ask (by simp)) ho
  | closeUDPSocket name =>
    rw [final_closeUDPSocket]
    rcases closeUDPSocket_cases h.toSound name with ⟨-, hsame⟩ | ⟨key, e, -, -, hm⟩
    · rw [hsame]; exact h
    · exact h.moved hm (by simp)
  | setProxyBlocked name blocked =>
    rw [final_setProxyBlocked]
    rcases setProxyBlocked_cases name blocked s with ⟨-, hsame⟩ | hm
    · rw [hsame]; exact h
    · exact h.moved hm (by simp)
  | reaperTick now online => exact Tended.accounted (tended_reaperTick now online s) h
  | listening k host port now =>
    exact h.moved (listeningEvent_moved h.toSound hen host port now) (by simp)
  | bindError k code now => exact h.moved (bindErrorEvent_moved h.toSound hen code now) (by simp)
  | message k message remote now =>
    exact h.moved (.quiet (messageEvent_alike k message remote now s)) (by simp)
  | error k => exact h

/-! ### No handler uses a closed proxy -/

/-- The name or the ports of a request have no text, or an entry of the table hides the method
    `hasOwnProperty`: then the call throws before it looks at a proxy. -/
def LookupThrows (s : UdpProxies) : Op → Prop
  | .getUDPSocket name socket1 socket2 _ => ∃ x, s.lookupRequest name socket1 socket2 = .error x
  | .closeUDPSocket name => ∃ x, s.activeUdpProxy.hasOwnProperty objectPrototype name = .error x
  | _ => False

theorem not_escapes_runOnComplete (h : s.Live (s.entries e).m_udpproxy k l) (enabled : Bool)
    (onComplete : Option OnComplete) : ¬ (runOnComplete e enabled onComplete).Escapes s := by
  rcases onComplete with _ | r | name
  · exact not_escapes_pure () s
  · rw [runOnComplete, escapes_get_bind, escapes_bind_of_ok (run_getConfig h)]
    exact not_escapes_modify _ s
  · cases enabled with
    | true => exact not_escapes_pure () s
    | false => exact not_escapes_modify _ s

theorem not_escapes_runCallback {c : Callback} (h : s.Live (s.entries c.entry).m_udpproxy k l)
    (enabled : Bool) (now : ℕ) : ¬ (runCallback enabled now c).Escapes s := by
  cases c with
  | opened e r =>
    change s.Live (s.entries e).m_udpproxy k l at h
    rw [runCallback, escapes_bind_of_ok (run_refreshPorts h), escapes_modify_bind]
    exact not_escapes_modify _ _
  | recreated e onComplete =>
    change s.Live (s.entries e).m_udpproxy k l at h
    cases enabled with
    | false => exact not_escapes_runOnComplete h false onComplete
    | true =>
      change ¬ (refreshPorts e >>= fun _ => runOnComplete e true onComplete).Escapes s
      rw [escapes_bind_of_ok (run_refreshPorts h)]
      exact not_escapes_runOnComplete (live_writeBack.mpr h) true onComplete

/-- The callback runs on the current proxy of its entry, which is open. -/
theorem not_escapes_onReady (hlive : s.Live (s.entries (s.proxies p).callback.entry).m_udpproxy k l)
    (status : Bool) (now : ℕ) : ¬ (onReady status now (some p)).Escapes s := by
  rw [onReady, deref_some, escapes_ok_bind, escapes_modify_bind, escapes_get_bind]
  split
  · refine not_escapes_runCallback (k := k) (l := l) ?_ _ _
    simp only [Live, setProxy, Function.update_self, Function.update_apply] at hlive ⊢
    split
    · next hp => rw [← hp]; exact hlive
    · exact hlive
  · exact not_escapes_pure () _

theorem not_escapes_recreateProxy (h : s.Live (s.entries e).m_udpproxy k l)
    (onComplete : Option OnComplete) (now : ℕ) : ¬ (recreateProxy e onComplete now).Escapes s := by
  rintro ⟨x, hx⟩
  rw [run_recreateProxy onComplete now h] at hx
  exact absurd hx (by simp)

theorem Sound.not_escapes_reap (h : s.Sound) (now : ℕ) (online : String → Bool) (name : String) :
    ¬ (reap now online name).Escapes s := by
  rw [reap, escapes_get_bind]
  cases hrow : s.activeUdpProxy.own? name with
  | none => exact not_escapes_pure () s
  | some e =>
    obtain ⟨k, l, hlive, -⟩ := h.rows name e hrow
    change ¬ (isReady _ >>= _).Escapes s
    rw [escapes_bind_of_ok (run_isReady hlive)]
    split
    · exact not_escapes_recreateProxy hlive _ now
    · split
      · rw [escapes_bind_of_ok (run_closeProxy hlive)]
        exact not_escapes_modify _ _
      · exact not_escapes_pure () s

theorem Sound.not_escapes_recoverAll (h : s.Sound) (now : ℕ) :
    ¬ (recoverAllProxiesAfterResume now).Escapes s := by
  rw [recoverAllProxiesAfterResume, escapes_get_bind]
  refine not_escapes_forEach_keeps (I := Sound) (fun name t ht => ?_) (fun name t ht => ?_) _ h
  · rw [final_get_bind]
    cases hrow : t.activeUdpProxy.own? name with
    | none => exact ht
    | some e => exact (tended_recreateProxy now hrow rfl ht).2
  · rw [escapes_get_bind]
    cases hrow : t.activeUdpProxy.own? name with
    | none => exact not_escapes_pure () t
    | some e =>
      obtain ⟨k, l, hlive, -⟩ := ht.rows name e hrow
      exact not_escapes_recreateProxy hlive none now

theorem Sound.not_escapes_reaperTick (h : s.Sound) (now : ℕ) (online : String → Bool) :
    ¬ (reaperTick now online).Escapes s := by
  rw [reaperTick, escapes_get_bind]
  refine not_escapes_bind (not_escapes_when fun _ => h.not_escapes_recoverAll now) fun _ _ => ?_
  have ht : ((Action.when (s.resumed now) (recoverAllProxiesAfterResume now)).final s).Sound :=
    (moves_when (R := Tended) (fun _ => tended_recoverAll now) s h).2
  rw [escapes_modify_bind, escapes_get_bind]
  refine not_escapes_bind (not_escapes_forEach_keeps (I := Sound)
    (fun name t ht => (tended_reap now online name t ht).2)
    (fun name t ht => ht.not_escapes_reap now online name) _ { ht with }) fun _ _ => ?_
  rw [escapes_get_bind]
  split
  · exact not_escapes_modify _ _
  · exact not_escapes_pure () _

theorem Sound.not_escapes_listeningEvent (h : s.Sound) (hk : (s.sockets k).bind = .pending)
    (host port : String) (now : ℕ) : ¬ (listeningEvent k host port now).Escapes s := by
  obtain ⟨p, i, j, hp, -, hlive⟩ := h.pending hk
  rw [listeningEvent, escapes_modify_bind, escapes_get_bind]
  rw [show ((s.setSocket k fun w => { w with
      bind := .listening, port := some (.num port), host, isReady := true }).sockets k).parent =
      some p by simp [setSocket, hp]]
  refine not_escapes_onReady (k := i) (l := j) ?_ true now
  exact hlive

theorem Sound.not_escapes_bindErrorEvent (h : s.Sound) (hk : (s.sockets k).bind = .pending)
    (code : String) (now : ℕ) : ¬ (bindErrorEvent k code now).Escapes s := by
  obtain ⟨p, i, j, hp, -, hlive⟩ := h.pending hk
  rw [bindErrorEvent, escapes_modify_bind]
  split
  · rw [escapes_modify_bind, escapes_get_bind]
    rw [show ((setSocket k (fun w => { w with isReady := false })
        (setSocket k (fun w => { w with bind := .failed code }) s)).sockets k).parent = some p by
      simp [setSocket, hp]]
    refine not_escapes_onReady (k := i) (l := j) ?_ false now
    exact hlive
  · exact not_escapes_pure () _

theorem not_escapes_sendMessage (message : Bytes) (k : UdpSocketId) (s : UdpProxies) :
    ¬ (sendMessage message k).Escapes s := by
  rw [sendMessage, escapes_get_bind]
  cases (s.sockets k).caller with
  | none => exact not_escapes_pure () s
  | some caller => exact not_escapes_modify _ s

theorem Sound.not_escapes_messageEvent (h : s.Sound) (hk : (s.sockets k).bind = .listening)
    (message : Bytes) (remote : Remote) (now : ℕ) :
    ¬ (messageEvent k message remote now).Escapes s := by
  obtain ⟨p, i, j, hp, hlive, -⟩ := h.parent (k := k) (by rw [hk]; decide)
  have hpass : ∀ (other : UdpProxy → Option UdpSocketId) (t : UdpProxies) (x : UdpSocketId),
      other (t.proxies p) = some x → ¬ (onSocketReceive other message (some p)).Escapes t := by
    intro other t x hx
    rw [onSocketReceive, deref_some, escapes_ok_bind, escapes_get_bind]
    split
    · exact not_escapes_pure () t
    · rw [hx, deref_some, escapes_ok_bind]
      exact not_escapes_sendMessage message x t
  rw [messageEvent, escapes_modify_bind, escapes_get_bind]
  rw [show ((s.setSocket k fun w => { w with
      lastAccessTime := now, caller := some remote }).sockets k).parent = some p by
    simp [setSocket, hp]]
  split
  · exact hpass _ _ j hlive.2
  · exact hpass _ _ i hlive.1

theorem Sound.escapes_closeUDPSocket (h : s.Sound) {name : Val}
    (hx : (closeUDPSocket name).Escapes s) :
    ∃ x, s.activeUdpProxy.hasOwnProperty objectPrototype name = .error x := by
  rcases s.activeUdpProxy.hasOwnProperty_cases objectPrototype name with hthrow | ⟨key, hk, hown⟩
  · exact hthrow
  · rw [closeUDPSocket, escapes_get_bind, hown, escapes_ok_bind, hk, escapes_ok_bind] at hx
    cases hrow : s.activeUdpProxy.own? key with
    | none =>
      rw [hrow] at hx
      exact absurd hx (not_escapes_pure _ s)
    | some e =>
      obtain ⟨k, l, hlive, -⟩ := h.rows key e hrow
      rw [hrow] at hx
      change (getConfig _ >>= _).Escapes s at hx
      rw [escapes_bind_of_ok (run_getConfig hlive), escapes_bind_of_ok (run_closeProxy hlive),
        escapes_modify_bind] at hx
      exact absurd hx (not_escapes_pure _ _)

theorem not_escapes_openUDPSocket (name : String) (port1 port2 : Val) (r : RequestId) (now : ℕ)
    (s : UdpProxies) : ¬ (openUDPSocket name port1 port2 r now).Escapes s := by
  rintro ⟨x, hx⟩
  rw [run_openUDPSocket] at hx
  exact absurd hx (by simp)

theorem Sound.escapes_getUDPSocket (h : s.Sound) {name socket1 socket2 : Val} {r : RequestId}
    {now : ℕ} (hx : (getUDPSocket name socket1 socket2 r now).Escapes s) :
    ∃ x, s.lookupRequest name socket1 socket2 = .error x := by
  rw [getUDPSocket, escapes_get_bind] at hx
  cases hlook : s.lookupRequest name socket1 socket2 with
  | error x => exact ⟨x, rfl⟩
  | ok found =>
    obtain ⟨entry, key, port1, port2⟩ := found
    rw [hlook, escapes_ok_bind] at hx
    obtain ⟨hrow, -, hown⟩ := lookupRequest_eq_ok hlook
    cases entry with
    | none => exact absurd hx (not_escapes_openUDPSocket key port1 port2 r now s)
    | some e =>
      obtain ⟨k, l, hlive, -⟩ := h.rows key e hrow
      change (getConfig _ >>= _).Escapes s at hx
      rw [escapes_bind_of_ok (run_getConfig hlive)] at hx
      split at hx
      · rw [escapes_bind_of_ok (run_isReady hlive)] at hx
        split at hx
        · exact absurd hx (not_escapes_recreateProxy hlive _ now)
        · rw [escapes_modify_bind] at hx
          exact absurd hx (not_escapes_modify _ _)
      · refine absurd hx (not_escapes_bind (fun hclose => ?_) fun _ _ =>
          not_escapes_openUDPSocket key port1 port2 r now _)
        obtain ⟨x, hx'⟩ := h.escapes_closeUDPSocket hclose
        exact absurd (hown.symm.trans hx') (by simp)

/-- An operation that throws does so before it looks at a proxy. -/
theorem Sound.escapes_perform {o : Op} (h : s.Sound) (hen : s.Enabled o)
    (hx : (perform o).Escapes s) : s.LookupThrows o := by
  cases o with
  | getUDPSocket name socket1 socket2 now =>
    exact (h.moved .ask).escapes_getUDPSocket hx
  | closeUDPSocket name =>
    refine h.escapes_closeUDPSocket (by_contra fun hnot => ?_)
    exact not_escapes_bind hnot (fun _ _ => not_escapes_pure () _) hx
  | setProxyBlocked name blocked =>
    refine absurd hx (not_escapes_bind ?_ fun _ _ => not_escapes_pure () _)
    rw [setProxyBlocked, escapes_get_bind]
    cases s.activeUdpProxy.get objectPrototype name with
    | absent => exact not_escapes_pure _ s
    | inherited => exact not_escapes_pure _ s
    | own e => exact not_escapes_pure _ _
  | reaperTick now online => exact absurd hx (h.not_escapes_reaperTick now online)
  | listening k host port now => exact absurd hx (h.not_escapes_listeningEvent hen host port now)
  | bindError k code now => exact absurd hx (h.not_escapes_bindErrorEvent hen code now)
  | message k message remote now =>
    exact absurd hx (h.not_escapes_messageEvent hen message remote now)
  | error k => exact absurd hx (not_escapes_pure () s)

/-- The list of proxies is built for all names of the table, and changes nothing. -/
theorem Sound.run_getActiveProxiesList (h : s.Sound) :
    ∃ reports, getActiveProxiesList s = (.ok reports, s) := by
  have hall : ∀ names : List String, (∀ name ∈ names, ∃ e, s.activeUdpProxy.own? name = some e) →
      ∃ reports, proxyReports names s = (.ok reports, s) := by
    intro names hnames
    induction names with
    | nil => exact ⟨[], rfl⟩
    | cons name rest ih =>
      obtain ⟨e, hrow⟩ := hnames name (by simp)
      obtain ⟨k, l, hlive, -⟩ := h.rows name e hrow
      obtain ⟨reports, hrest⟩ := ih fun n hn => hnames n (List.mem_cons_of_mem _ hn)
      have hone : ∃ report, proxyReport name s = (.ok report, s) := by
        rw [proxyReport, run_bind_get, hrow]
        change ∃ report, (getConfig _ >>= _) s = (.ok report, s)
        rw [run_bind_of_ok (run_getConfig hlive), run_bind_of_ok (run_isReady hlive)]
        exact ⟨_, rfl⟩
      obtain ⟨report, hone⟩ := hone
      rw [proxyReports, run_bind_of_ok hone, run_bind_of_ok hrest]
      exact ⟨_, rfl⟩
  exact hall _ fun name hname => Table.mem_keys_iff.mp hname

/-! ### Runs of the module -/

/-- The operation throws, if at all, before it looks at a proxy. -/
def UsesOpen (s : UdpProxies) (o : Op) : Prop :=
  s.Enabled o → (perform o).Escapes s → s.LookupThrows o

/-- What the books say about one proxy. -/
theorem Accounted.held_or_closed (h : s.Accounted) (hp : p < s.nextProxy) :
    (∃! name, s.Holds name p) ∧ (s.proxies p).closings = 0 ∨
      (∀ name, ¬ s.Holds name p) ∧ (s.proxies p).closings = 1 := by
  have hcount := h.counted p hp
  cases hk : (s.proxies p).socket1 with
  | some k =>
    obtain ⟨l, hlive⟩ := h.toWired.live hk
    obtain ⟨name, hrow⟩ := h.stored p k l hlive
    refine Or.inl ⟨⟨name, ⟨_, hrow, (h.current p k l hlive).2⟩, ?_⟩, by rw [hcount, hk]; rfl⟩
    rintro other ⟨e, hrow', rfl⟩
    obtain ⟨i, j, hlive', hentry⟩ := h.rows other e hrow'
    rw [hentry] at hrow
    exact h.inj other name e hrow' hrow
  | none =>
    refine Or.inr ⟨?_, by rw [hcount, hk]; rfl⟩
    rintro name ⟨e, hrow, rfl⟩
    obtain ⟨k, l, hlive, -⟩ := h.rows name e hrow
    rw [hlive.1] at hk
    exact absurd hk (by simp)

theorem accounted_of_path {public_host : Val} (h : Lts.Path Step OwnKeys (start public_host) s) :
    s.Accounted :=
  h.invariant (fun ha ho hstep => ha.step ho hstep) (Accounted.start public_host)

/-- In a run none of whose requests bypasses the keys of the table no closed proxy is used. -/
theorem usesOpen_of_path {public_host : Val} (h : Lts.Path Step OwnKeys (start public_host) s) :
    Lts.Path Step UsesOpen (start public_host) s :=
  (h.within (P := Accounted) (fun ha ho hstep => ha.step ho hstep)
    (Accounted.start public_host)).mono fun hc hen hx => hc.2.toSound.escapes_perform hen hx

end UdpProxies

/-! ### Runs of the service -/

namespace UdpService

open Action

variable {s s' : UdpService}

/-- Requests use the table of proxies as a map over its own keys. -/
def OwnKeys (s : UdpService) : Op → Prop
  | .udpProxy ws .. => propKey (s.sockets ws).name ≠ .ok "__proto__"
  | _ => True

/-- The module goes through a run of its own. -/
def Served (s s' : UdpService) : Prop := Lts.Path UdpProxies.Step UdpProxies.OwnKeys s.udp s'.udp

instance : IsPreorder UdpService Served where
  refl := fun _ => .refl
  trans := fun _ _ _ => .trans

theorem served_send (ws : SocketId) (message : Json) : Moves Served (send ws message) :=
  moves_bind moves_get fun _ => moves_ite (fun _ => moves_modify fun _ => .refl)
    fun _ => moves_pure ()

theorem served_closeAndReply (command : ProxyCommand) (ws : SocketId) :
    Moves Served (closeAndReply command ws) := by
  refine moves_bind moves_get fun s => moves_bind (fun t => ?_) fun _ => served_send _ _
  exact .single (o := .closeUDPSocket (s.sockets ws).name) trivial
    ⟨trivial, (UdpProxies.final_closeUDPSocket (s.sockets ws).name t.udp).symm⟩

theorem served_onEffect (x : UdpEffect) : Moves Served (onEffect x) := by
  cases x with
  | reply r report en =>
    refine moves_bind moves_get fun s => ?_
    cases s.requests r with
    | none => exact moves_pure ()
    | some request =>
      exact moves_ite (fun _ => served_send _ _) fun _ =>
        moves_bind (moves_ofExcept _) fun _ => served_closeAndReply _ _
  | notify name =>
    refine moves_bind moves_get fun s => ?_
    cases s.activeSenderIDsList.own? name with
    | none => exact moves_pure ()
    | some ws => exact served_send _ _
  | sent k message caller => exact moves_pure ()

/-- An operation of the module is a step of it, and its effects lead to further ones. -/
theorem served_invoke {o : UdpProxies.Op} (ho : s.udp.OwnKeys o) (hen : s.udp.Enabled o) :
    Served s ((invoke (UdpProxies.perform o)).final s) := by
  rw [invoke, final_get_bind]
  refine moves_bind_at (R := Served) (.single ho ⟨hen, rfl⟩) fun _ _ => ?_
  rw [final_get_bind]
  exact moves_forEach _ (fun x _ => served_onEffect x) _

theorem served_udpProxyCommand {command : ProxyCommand} {ws : SocketId} (now : ℕ)
    (hname : propKey (s.sockets ws).name ≠ .ok "__proto__") :
    Served s ((udpProxyCommand command ws now).final s) := by
  rw [udpProxyCommand, final_get_bind]
  cases (s.sockets ws).loginRequest with
  | none => exact .refl
  | some login =>
    dsimp only
    split
    · exact .refl
    · refine moves_bind_at (R := Served) .refl fun en _ => ?_
      rw [final_ofExcept]
      split
      · refine moves_bind_at (R := Served) .refl fun ms _ => ?_
        rw [final_ofExcept, final_modify_bind]
        exact served_invoke (s := { record (.asked ws) s with
          requests := Function.update s.requests s.udp.nextRequest
            (some ⟨ws, command.setPayload ms⟩) }) (o := .getUDPSocket ..) hname trivial
      · split
        · exact served_closeAndReply command ws s
        · exact .refl

/-- A step of the service takes the module along steps of its own. -/
theorem served_step {o : Op} (ho : s.OwnKeys o) (hstep : Step s o s') : Served s s' := by
  obtain ⟨hen, rfl⟩ := hstep
  cases o with
  | udpProxy ws command now => exact served_udpProxyCommand now ho
  | reaperTick now => exact served_invoke (o := .reaperTick now s.online) trivial hen
  | module o =>
    refine served_invoke ?_ hen.2
    cases o with
    | getUDPSocket => exact absurd hen.1 (by simp [isOther])
    | closeUDPSocket | setProxyBlocked | reaperTick | listening | bindError | message | error =>
      trivial
  | server sockets activeSenderIDsList => exact .refl

/-- A run of the service is one of the module. -/
theorem served_of_path {config : Config} (h : Lts.Path Step OwnKeys (start config) s) :
    Lts.Path UdpProxies.Step UdpProxies.OwnKeys (UdpProxies.start config.public_host) s.udp :=
  h.invariant (P := Served (start config))
    (fun hserved ho hstep => trans_of Served hserved (served_step ho hstep)) .refl

/-- Every proxy ever built is the current one of exactly one entry of the table, and open, or in no
    entry, and was closed once; no operation of the module, the listing included, uses a closed
    one. -/
theorem proxy_held_or_closed_once {config : Config}
    (h : Lts.Path Step OwnKeys (start config) s) :
    (∀ p < s.udp.nextProxy,
      (∃! name, s.udp.Holds name p) ∧ (s.udp.proxies p).closings = 0 ∨
        (∀ name, ¬ s.udp.Holds name p) ∧ (s.udp.proxies p).closings = 1) ∧
    Lts.Path UdpProxies.Step UdpProxies.UsesOpen (UdpProxies.start config.public_host) s.udp ∧
    ∃ reports, UdpProxies.getActiveProxiesList s.udp = (.ok reports, s.udp) := by
  have hudp := served_of_path h
  have haccounted := UdpProxies.accounted_of_path hudp
  exact ⟨fun p hp => haccounted.held_or_closed hp, UdpProxies.usesOpen_of_path hudp,
    haccounted.toSound.run_getActiveProxiesList⟩

instance (s : UdpService) : ∀ o : Op, Decidable (s.OwnKeys o)
  | .udpProxy .. => inferInstanceAs (Decidable (_ ≠ _))
  | .reaperTick _ | .module _ | .server .. => inferInstanceAs (Decidable True)

/-- A vehicle asks for a proxy, and no port can be bound. -/
def opensInVain : List Op :=
  [vehicleConnected, vehicleCommand true, .module (.bindError 0 "EADDRINUSE" 1001),
    .module (.bindError 1 "EADDRINUSE" 1002)]

/-- Its proxy is closed by the callback of the request. -/
theorem proxy_held_or_closed_once_opensInVain : ∃ s, Lts.Path Step OwnKeys (start {}) s ∧
    0 < s.udp.nextProxy ∧ (∀ name, ¬ s.udp.Holds name 0) ∧ (s.udp.proxies 0).closings = 1 := by
  have h : (run OwnKeys (start {}) opensInVain).map (fun s =>
      (s.udp.nextProxy, (s.udp.proxies 0).closings)) = some (1, 1) := by
    decide +kernel
  obtain ⟨s, hs, hf⟩ := Option.map_eq_some_iff.mp h
  obtain ⟨hnext, hclosings⟩ := Prod.mk.inj hf
  have hpath := path_of_run hs
  refine ⟨s, hpath, by rw [hnext]; decide, ?_⟩
  rcases (proxy_held_or_closed_once hpath).1 0 (by rw [hnext]; decide) with ⟨-, hnone⟩ | hclosed
  · rw [hclosings] at hnone
    exact absurd hnone (by decide)
  · exact hclosed

end UdpService

end DroneEngage
