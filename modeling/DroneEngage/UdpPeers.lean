import DroneEngage.UdpLifetimes

/-! Who speaks to the sockets of the UDP proxies.

    A socket answers to whoever spoke to it last. Only a datagram that comes in changes that, and only
    then does one go out: whatever else the module does with its sockets leaves the peers alone, and
    the sockets it makes have none. -/

namespace DroneEngage
open Js

namespace UdpProxies

open Action

variable {s s' : UdpProxies} {p : ProxyId} {k l : UdpSocketId} {e : EntryId} {name : String}

/-- Is it a datagram? -/
def isSent : UdpEffect → Bool
  | .sent .. => true
  | .reply .. | .notify _ => false

/-- The sockets of a proxy know which one they are, and a socket that is yet to come has no peer. -/
structure Faced (s : UdpProxies) : Prop where
  known : ∀ p k, (s.proxies p).socket1 = some k ∨ (s.proxies p).socket2 = some k → k < s.nextSocket
  one : ∀ p k, (s.proxies p).socket1 = some k → (s.sockets k).side = .one
  two : ∀ p k, (s.proxies p).socket2 = some k → (s.sockets k).side = .two
  fresh : ∀ k, s.nextSocket ≤ k → (s.sockets k).caller = none

/-- No datagram is sent and no socket gets another peer; new sockets have none. -/
structure Hushed (s s' : UdpProxies) : Prop where
  nextSocket : s.nextSocket ≤ s'.nextSocket
  caller : ∀ k, k < s.nextSocket → (s'.sockets k).caller = (s.sockets k).caller
  faced : s.Faced → s'.Faced ∧ ∀ k, s.nextSocket ≤ k → (s'.sockets k).caller = none
  log : ∃ new, s'.log = s.log ++ new ∧ ∀ x ∈ new, isSent x = false

instance : IsPreorder UdpProxies Hushed where
  refl := fun s => ⟨Nat.le_refl _, fun _ _ => rfl, fun h => ⟨h, h.fresh⟩, [], by simp, by simp⟩
  trans := fun s t u h h' => by
    obtain ⟨new, hnew, hnone⟩ := h.log
    obtain ⟨new', hnew', hnone'⟩ := h'.log
    refine ⟨Nat.le_trans h.nextSocket h'.nextSocket, fun k hk => ?_, fun hs => ?_, new ++ new',
      ?_, ?_⟩
    · rw [h'.caller k (Nat.lt_of_lt_of_le hk h.nextSocket), h.caller k hk]
    · obtain ⟨ht, hcaller⟩ := h.faced hs
      obtain ⟨hu, hcaller'⟩ := h'.faced ht
      refine ⟨hu, fun k hk => ?_⟩
      rcases Nat.lt_or_ge k t.nextSocket with hlt | hge
      · rw [h'.caller k hlt, hcaller k hk]
      · exact hcaller' k hge
    · rw [hnew', hnew, List.append_assoc]
    · intro x hx
      rcases List.mem_append.mp hx with hx | hx
      · exact hnone x hx
      · exact hnone' x hx

/-- Nothing that concerns peers is written. -/
theorem hushed_of_same (hnext : s'.nextSocket = s.nextSocket)
    (hsockets : ∀ k, (s'.sockets k).caller = (s.sockets k).caller ∧
      (s'.sockets k).side = (s.sockets k).side)
    (hproxies : ∀ p k, ((s'.proxies p).socket1 = some k → (s.proxies p).socket1 = some k) ∧
      ((s'.proxies p).socket2 = some k → (s.proxies p).socket2 = some k))
    (hlog : s'.log = s.log) : Hushed s s' where
  nextSocket := hnext.ge
  caller k _ := (hsockets k).1
  faced h := by
    have hfresh : ∀ k, s.nextSocket ≤ k → (s'.sockets k).caller = none := fun k hk =>
      (hsockets k).1.trans (h.fresh k hk)
    refine ⟨⟨fun p k hk => ?_, fun p k hk => ?_, fun p k hk => ?_,
      fun k hk => hfresh k (hnext ▸ hk)⟩, hfresh⟩
    · rw [hnext]
      exact h.known p k (hk.imp (hproxies p k).1 (hproxies p k).2)
    · rw [(hsockets k).2]
      exact h.one p k ((hproxies p k).1 hk)
    · rw [(hsockets k).2]
      exact h.two p k ((hproxies p k).2 hk)
  log := ⟨[], by rw [hlog, List.append_nil], by simp⟩

theorem hushed_setSocket {f : UdpSocket → UdpSocket} (k : UdpSocketId)
    (hcaller : ∀ w, (f w).caller = w.caller) (hside : ∀ w, (f w).side = w.side) (s : UdpProxies) :
    Hushed s (s.setSocket k f) := by
  refine hushed_of_same rfl (fun j => ?_) (fun _ _ => ⟨id, id⟩) rfl
  simp only [setSocket, Function.update_apply]
  split
  · next hj => subst hj; exact ⟨hcaller _, hside _⟩
  · exact ⟨rfl, rfl⟩

theorem hushed_setProxy {f : UdpProxy → UdpProxy} (p : ProxyId)
    (hone : ∀ x k, (f x).socket1 = some k → x.socket1 = some k)
    (htwo : ∀ x k, (f x).socket2 = some k → x.socket2 = some k) (s : UdpProxies) :
    Hushed s (s.setProxy p f) := by
  refine hushed_of_same rfl (fun _ => ⟨rfl, rfl⟩) (fun q k => ?_) rfl
  simp only [setProxy, Function.update_apply]
  split
  · next hq => subst hq; exact ⟨hone _ k, htwo _ k⟩
  · exact ⟨id, id⟩

/-- Entries, the table and the timer have nothing to do with peers. -/
theorem hushed_of_objects (hnext : s'.nextSocket = s.nextSocket) (hsockets : s'.sockets = s.sockets)
    (hproxies : s'.proxies = s.proxies) (hlog : s'.log = s.log) : Hushed s s' :=
  hushed_of_same hnext (fun k => by rw [hsockets]; exact ⟨rfl, rfl⟩)
    (fun p k => by rw [hproxies]; exact ⟨id, id⟩) hlog

theorem hushed_emit {x : UdpEffect} (hx : isSent x = false) (s : UdpProxies) :
    Hushed s (s.emit x) :=
  ⟨Nat.le_refl _, fun _ _ => rfl, fun h => ⟨⟨h.known, h.one, h.two, h.fresh⟩, h.fresh⟩, [x], rfl,
    fun y hy => by rw [List.mem_singleton.mp hy, hx]⟩

theorem hushed_newProxy (port1 port2 : Val) (callback : Callback) :
    Moves Hushed (newProxy port1 port2 callback) := by
  intro s
  rw [Action.final, run_newProxy]
  refine ⟨by simp [install], fun k hk => ?_, fun h => ?_, [], by simp [install], by simp⟩
  · simp only [install]
    rw [if_neg (Nat.ne_of_lt hk), if_neg (Nat.ne_of_lt (Nat.lt_succ_of_lt hk))]
  · have hcaller : ∀ k, s.nextSocket ≤ k →
        ((install 0 port1 port2 callback false s).sockets k).caller = none := by
      intro k hk
      simp only [install]
      split
      · rfl
      · split
        · rfl
        · exact h.fresh k hk
    have hold : ∀ k, k < s.nextSocket →
        ((install 0 port1 port2 callback false s).sockets k).side = (s.sockets k).side := by
      intro k hk
      simp only [install]
      rw [if_neg (Nat.ne_of_lt hk), if_neg (Nat.ne_of_lt (Nat.lt_succ_of_lt hk))]
    have hproxy : ∀ p, (install 0 port1 port2 callback false s).proxies p = if p = s.nextProxy
        then { callback, socket1 := some s.nextSocket, socket2 := some (s.nextSocket + 1) }
        else s.proxies p := fun p => Function.update_apply ..
    refine ⟨⟨fun p k hk => ?_, fun p k hk => ?_, fun p k hk => ?_, fun k hk => hcaller k ?_⟩,
      hcaller⟩
    · change k < s.nextSocket + 2
      change ((install 0 port1 port2 callback false s).proxies p).socket1 = _ ∨
        ((install 0 port1 port2 callback false s).proxies p).socket2 = _ at hk
      rw [hproxy] at hk
      split at hk
      · rcases hk with hk | hk
        · obtain rfl := Option.some.inj hk
          exact Nat.lt_add_of_pos_right (by decide)
        · obtain rfl := Option.some.inj hk
          exact Nat.lt_succ_self _
      · exact Nat.lt_of_lt_of_le (h.known p k hk) (Nat.le_add_right _ 2)
    · change ((install 0 port1 port2 callback false s).proxies p).socket1 = _ at hk
      change ((install 0 port1 port2 callback false s).sockets k).side = _
      rw [hproxy] at hk
      split at hk
      · obtain rfl := Option.some.inj hk
        simp [install]
      · rw [hold k (h.known p k (Or.inl hk))]
        exact h.one p k hk
    · change ((install 0 port1 port2 callback false s).proxies p).socket2 = _ at hk
      change ((install 0 port1 port2 callback false s).sockets k).side = _
      rw [hproxy] at hk
      split at hk
      · obtain rfl := Option.some.inj hk
        simp [install]
      · rw [hold k (h.known p k (Or.inr hk))]
        exact h.two p k hk
    · exact Nat.le_trans (Nat.le_add_right _ 2) hk

theorem hushed_getConfig (p : ProxyId) : Moves Hushed (getConfig p) :=
  moves_bind moves_get fun _ => moves_bind (moves_ofExcept _) fun _ =>
    moves_bind (moves_ofExcept _) fun _ => moves_pure _

theorem hushed_isReady (p : ProxyId) : Moves Hushed (isReady p) := by
  intro s
  rw [final_isReady]
  exact refl_of Hushed s

theorem hushed_setEntry (e : EntryId) (f : ProxyEntry → ProxyEntry) (s : UdpProxies) :
    Hushed s (s.setEntry e f) := hushed_of_objects rfl rfl rfl rfl

theorem hushed_closeProxy (p : ProxyId) : Moves Hushed (closeProxy p) := by
  have hclose : ∀ r : Option UdpSocketId, Moves Hushed
      (attempt (deref r >>= closeSocket) fun _ => pure ()) := fun _ =>
    moves_attempt (moves_bind (moves_ofExcept _) fun k =>
      moves_modify (hushed_setSocket k (fun _ => rfl) fun _ => rfl)) fun _ => moves_pure ()
  refine moves_bind (moves_modify (hushed_setProxy p (fun _ _ => id) fun _ _ => id)) fun _ =>
    moves_bind moves_get fun _ => moves_bind (hclose _) fun _ => moves_bind (hclose _) fun _ => ?_
  refine moves_bind (moves_ofExcept _) fun k =>
    moves_bind (moves_modify (hushed_setSocket k (fun _ => rfl) fun _ => rfl)) fun _ =>
      moves_bind (moves_ofExcept _) fun l =>
        moves_bind (moves_modify (hushed_setSocket l (fun _ => rfl) fun _ => rfl)) fun _ => ?_
  exact moves_modify (hushed_setProxy p (fun _ _ h => absurd h (by simp))
    fun _ _ h => absurd h (by simp))

theorem hushed_recreateProxy (e : EntryId) (onComplete : Option OnComplete) (now : ℕ) :
    Moves Hushed (recreateProxy e onComplete now) := by
  refine moves_bind moves_get fun _ => moves_bind (hushed_getConfig _) fun _ =>
    moves_bind (moves_attempt (hushed_closeProxy _) fun _ => moves_pure ()) fun _ => ?_
  exact moves_bind (hushed_newProxy _ _ _) fun p =>
    moves_bind (moves_modify (hushed_setEntry _ _)) fun _ =>
      moves_bind (moves_modify (hushed_setProxy p (fun _ _ => id) fun _ _ => id)) fun _ =>
        moves_modify (hushed_setEntry _ _)

theorem hushed_openUDPSocket (name : String) (port1 port2 : Val) (r : RequestId) (now : ℕ) :
    Moves Hushed (openUDPSocket name port1 port2 r now) :=
  moves_bind moves_get fun _ => moves_bind (moves_modify fun _ => hushed_of_objects rfl rfl rfl rfl)
    fun _ => moves_bind (hushed_newProxy _ _ _) fun _ => moves_modify (hushed_setEntry _ _)

theorem hushed_closeUDPSocket (name : Val) : Moves Hushed (closeUDPSocket name) := by
  refine moves_bind moves_get fun s => moves_bind (moves_ofExcept _) fun own =>
    moves_bind (moves_ofExcept _) fun k => ?_
  split
  · exact moves_bind (hushed_getConfig _) fun _ => moves_bind (hushed_closeProxy _) fun _ =>
      moves_bind (moves_modify fun _ => hushed_of_objects rfl rfl rfl rfl) fun _ => moves_pure _
  · exact moves_pure _

theorem hushed_getUDPSocket (name socket1 socket2 : Val) (r : RequestId) (now : ℕ) :
    Moves Hushed (getUDPSocket name socket1 socket2 r now) := by
  refine moves_bind moves_get fun s => moves_bind (moves_ofExcept _) ?_
  rintro ⟨entry, k, port1, port2⟩
  cases entry with
  | none => exact hushed_openUDPSocket k port1 port2 r now
  | some e =>
    refine moves_bind (hushed_getConfig _) fun ms => moves_ite (fun _ => ?_) fun _ => ?_
    · refine moves_bind (hushed_isReady _) fun _ =>
        moves_ite (fun _ => hushed_recreateProxy _ _ _) fun _ => ?_
      exact moves_bind (moves_modify (hushed_setEntry _ _)) fun _ =>
        moves_modify (hushed_emit rfl)
    · exact moves_bind (hushed_closeUDPSocket _) fun _ => hushed_openUDPSocket _ _ _ _ _

theorem hushed_setProxyBlocked (name : String) (blocked : Bool) :
    Moves Hushed (setProxyBlocked name blocked) := by
  refine moves_bind moves_get fun s => ?_
  cases s.activeUdpProxy.get objectPrototype name with
  | absent => exact moves_pure _
  | inherited => exact moves_pure _
  | own e =>
    exact moves_bind (moves_modify (hushed_setEntry _ _)) fun _ =>
      moves_bind (moves_modify (hushed_setProxy _ (fun _ _ => id) fun _ _ => id)) fun _ =>
        moves_pure _

theorem hushed_reapIdle (e : EntryId) (name : String) : Moves Hushed (reapIdle e name) :=
  moves_bind moves_get fun _ => moves_bind (hushed_closeProxy _) fun _ =>
    moves_bind (moves_modify fun _ => hushed_of_objects rfl rfl rfl rfl) fun _ =>
      moves_modify (hushed_emit rfl)

theorem hushed_reaperTick (now : ℕ) (online : String → Bool) :
    Moves Hushed (reaperTick now online) :=
  moves_reaperTick (fun _ _ _ => hushed_recreateProxy _ _ now _) (fun _ => hushed_reapIdle _ _ _)
    (fun _ => hushed_of_objects rfl rfl rfl rfl) fun _ => hushed_of_objects rfl rfl rfl rfl

theorem hushed_onReady (status : Bool) (now : ℕ) (me : Option ProxyId) :
    Moves Hushed (onReady status now me) := by
  have hrefresh : ∀ e, Moves Hushed (refreshPorts e) := fun e =>
    moves_bind moves_get fun _ => moves_bind (hushed_getConfig _) fun _ =>
      moves_bind (moves_modify (hushed_setEntry _ _)) fun _ => moves_pure _
  have hcomplete : ∀ e enabled c, Moves Hushed (runOnComplete e enabled c) := by
    intro e enabled c
    rcases c with _ | ⟨r⟩ | ⟨name⟩
    · exact moves_pure ()
    · exact moves_bind moves_get fun _ => moves_bind (hushed_getConfig _) fun _ =>
        moves_modify (hushed_emit rfl)
    · exact moves_ite (fun _ => moves_pure ()) fun _ => moves_modify (hushed_emit rfl)
  have hcallback : ∀ enabled c, Moves Hushed (runCallback enabled now c) := by
    intro enabled c
    cases c with
    | opened e r =>
      refine moves_bind (hrefresh e) fun ms => moves_bind (moves_modify fun s => ?_) fun _ =>
        moves_modify (hushed_emit rfl)
      rw [startReaper]
      split
      · exact refl_of Hushed s
      · exact hushed_of_objects rfl rfl rfl rfl
    | recreated e onComplete =>
      cases enabled with
      | true => exact moves_bind (hrefresh e) fun _ => hcomplete _ _ _
      | false => exact hcomplete _ _ _
  refine moves_bind (moves_ofExcept _) fun p =>
    moves_bind (moves_modify (hushed_setProxy p (fun _ _ => id) fun _ _ => id)) fun _ =>
      moves_bind moves_get fun _ => moves_ite (fun _ => hcallback _ _) fun _ => moves_pure _

theorem hushed_listeningEvent (k : UdpSocketId) (host port : String) (now : ℕ) :
    Moves Hushed (listeningEvent k host port now) :=
  moves_bind (moves_modify (hushed_setSocket k (fun _ => rfl) fun _ => rfl)) fun _ =>
    moves_bind moves_get fun _ => hushed_onReady _ _ _

theorem hushed_bindErrorEvent (k : UdpSocketId) (code : String) (now : ℕ) :
    Moves Hushed (bindErrorEvent k code now) :=
  moves_bind (moves_modify (hushed_setSocket k (fun _ => rfl) fun _ => rfl)) fun _ =>
    moves_ite (fun _ => moves_bind
      (moves_modify (hushed_setSocket k (fun _ => rfl) fun _ => rfl)) fun _ =>
        moves_bind moves_get fun _ => hushed_onReady _ _ _) fun _ => moves_pure _

end UdpProxies

end DroneEngage
