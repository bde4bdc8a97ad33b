import DroneEngage.UdpProxies

/-! Which sockets belong to which proxy, which proxy to which entry, and what an operation of the
    proxy module does to these objects.

    An open proxy owns two open sockets and is the current proxy of the entry its callback holds; a
    row of the table leads to an entry with an open proxy. Every operation is made of a few moves:
    proxies are closed, built and replaced, a bind ends, a callback runs. -/

namespace DroneEngage
open Js

/-- The entry a callback holds. -/
def Callback.entry : Callback → EntryId
  | .opened e _ => e
  | .recreated e _ => e

/-- The request a callback answers. -/
def Callback.request? : Callback → Option RequestId
  | .opened _ r => some r
  | .recreated _ (some (.refresh r)) => some r
  | .recreated _ _ => none

/-- Does the end of this bind count for the proxy? -/
def Bind.counts : Bind → Bool
  | .listening => true
  | .failed code => code = "EADDRINUSE"
  | _ => false

namespace UdpProxies

/-- An open proxy and its sockets. -/
def Live (s : UdpProxies) (p : ProxyId) (k l : UdpSocketId) : Prop :=
  (s.proxies p).socket1 = some k ∧ (s.proxies p).socket2 = some l

/-! ### State changes -/

/-- The proxy is closed, with its sockets. -/
def shut (p : ProxyId) (k l : UdpSocketId) (s : UdpProxies) : UdpProxies :=
  { s with
    sockets := fun j => if j = k ∨ j = l
      then { s.sockets j with isReady := false, bind := .closed, parent := none } else s.sockets j
    proxies := Function.update s.proxies p { s.proxies p with
      socket1 := none, socket2 := none, closings := (s.proxies p).closings + 1 } }

/-- A new proxy becomes the current one of an entry. -/
def install (e : EntryId) (port1 port2 : Val) (callback : Callback) (blocked : Bool)
    (s : UdpProxies) : UdpProxies :=
  { s with
    sockets := fun j => if j = s.nextSocket
      then { parent := some s.nextProxy, port := Server.portOrZero port1, side := .one,
             bind := .pending }
      else if j = s.nextSocket + 1
      then { parent := some s.nextProxy, port := Server.portOrZero port2, side := .two,
             bind := .pending }
      else s.sockets j
    nextSocket := s.nextSocket + 2
    proxies := Function.update s.proxies s.nextProxy
      { callback, blocked, socket1 := some s.nextSocket, socket2 := some (s.nextSocket + 1) }
    nextProxy := s.nextProxy + 1
    entries := Function.update s.entries e { s.entries e with m_udpproxy := s.nextProxy } }

/-- A new entry, stored under the name. -/
def newEntry (name : String) (port1 port2 : Val) (now : ℕ) (s : UdpProxies) : UdpProxies :=
  { s with
    entries := Function.update s.entries s.nextEntry
      { last_access := now, socket1_port := Server.portOrZero port1,
        socket2_port := Server.portOrZero port2 }
    nextEntry := s.nextEntry + 1
    activeUdpProxy := s.activeUdpProxy.assign objectPrototype name s.nextEntry }

/-- The proxy of an entry, whose sockets are given, is replaced. -/
def replace (e : EntryId) (k l : UdpSocketId) (onComplete : Option OnComplete) (s : UdpProxies) :
    UdpProxies :=
  install e (stickyPort (s.entries e).socket1_port (s.socketConfig k).port)
    (stickyPort (s.entries e).socket2_port (s.socketConfig l).port) (.recreated e onComplete)
    (s.entries e).blocked (s.shut (s.entries e).m_udpproxy k l)

/-- The bind of a socket of the proxy ends. -/
def settle (k : UdpSocketId) (b : Bind) (p : ProxyId) (s : UdpProxies) : UdpProxies :=
  { s with
    sockets := Function.update s.sockets k
      { s.sockets k with bind := b, isReady := decide (b = .listening) }
    proxies := Function.update s.proxies p { s.proxies p with
      readyCounter := (s.proxies p).readyCounter + b.counts.toNat } }

/-- The entry takes over the ports of two sockets. -/
def writeBack (e : EntryId) (k l : UdpSocketId) : UdpProxies → UdpProxies := fun s =>
  s.setEntry e fun x =>
    { x with socket1_port := (s.sockets k).port, socket2_port := (s.sockets l).port }

/-! ### Running -/

variable {s s' : UdpProxies} {p : ProxyId} {k l : UdpSocketId} {e : EntryId}

@[simp] theorem deref_some {α : Type} (a : α) : deref (some a) = Action.ofExcept (.ok a) := rfl

theorem run_getConfig (h : s.Live p k l) :
    getConfig p s = (.ok ⟨s.socketConfig k, s.socketConfig l⟩, s) := by
  rw [getConfig, Action.run_bind_get, h.1, h.2]
  rfl

theorem run_isReady (h : s.Live p k l) :
    isReady p s = (.ok ((s.sockets k).isReady && (s.sockets l).isReady), s) := by
  rw [isReady, Action.run_bind_get, h.1, h.2, deref_some, Action.run_bind_ok]
  cases hk : (s.sockets k).isReady with
  | true => rfl
  | false => rfl

theorem run_closeProxy (h : s.Live p k l) : closeProxy p s = (.ok (), s.shut p k l) := by
  have hclose : ∀ j t, Action.attempt (do closeSocket (← deref (some j))) (fun _ => pure ()) t =
      (.ok (), t.setSocket j fun w => { w with isReady := false, bind := .closed }) :=
    fun _ _ => rfl
  have hone : ((s.setProxy p fun x => { x with closings := x.closings + 1 }).proxies p).socket1 =
      some k := by simpa [setProxy] using h.1
  have htwo : ((s.setProxy p fun x => { x with closings := x.closings + 1 }).proxies p).socket2 =
      some l := by simpa [setProxy] using h.2
  rw [closeProxy, Action.run_bind_modify, Action.run_bind_get, hone, htwo,
    Action.run_bind_of_ok (hclose k _), Action.run_bind_of_ok (hclose l _), deref_some,
    Action.run_bind_ok, Action.run_bind_modify, deref_some, Action.run_bind_ok,
    Action.run_bind_modify, Action.run_modify]
  simp only [setProxy, setSocket, shut, Function.update_self, Function.update_idem]
  congr 2
  funext j
  simp only [Function.update_apply]
  by_cases hk : j = k
  · by_cases hl : j = l <;> grind
  · by_cases hl : j = l <;> grind

theorem run_newProxy (port1 port2 : Val) (callback : Callback) (s : UdpProxies) :
    newProxy port1 port2 callback s = (.ok s.nextProxy,
      { install 0 port1 port2 callback false s with entries := s.entries }) := by
  have hnew : ∀ port side q t, newSocket port side q t = (.ok t.nextSocket, { t with
      sockets := Function.update t.sockets t.nextSocket
        { parent := some q, port, side, bind := .pending }
      nextSocket := t.nextSocket + 1 }) := fun _ _ _ _ => rfl
  rw [newProxy, Action.run_bind_get, Action.run_bind_modify, Action.run_bind_of_ok (hnew _ _ _ _),
    Action.run_bind_modify, Action.run_bind_of_ok (hnew _ _ _ _), Action.run_bind_modify,
    Action.run_pure]
  simp only [setProxy, install, Function.update_self, Function.update_idem]
  congr 2
  funext j
  simp only [Function.update_apply]
  grind

theorem run_recreateProxy (onComplete : Option OnComplete) (now : ℕ)
    (h : s.Live (s.entries e).m_udpproxy k l) : recreateProxy e onComplete now s =
      (.ok (), setEntry e (fun x => { x with last_access := now }) (s.replace e k l onComplete)) := by
  have hclose : Action.attempt (closeProxy (s.entries e).m_udpproxy) (fun _ => pure ()) s =
      (.ok (), s.shut (s.entries e).m_udpproxy k l) := by
    rw [Action.run_attempt, run_closeProxy h]
  rw [recreateProxy, Action.run_bind_get, Action.run_bind_of_ok (run_getConfig h),
    Action.run_bind_of_ok hclose, Action.run_bind_of_ok (run_newProxy ..), Action.run_bind_modify,
    setBlocked, Action.run_bind_modify, Action.run_modify]
  simp [replace, setEntry, setProxy, install, shut]

theorem run_openUDPSocket (name : String) (port1 port2 : Val) (r : RequestId) (now : ℕ)
    (s : UdpProxies) : openUDPSocket name port1 port2 r now s = (.ok (),
      install s.nextEntry port1 port2 (.opened s.nextEntry r) false
        (newEntry name port1 port2 now s)) := by
  rw [openUDPSocket, Action.run_bind_get, Action.run_bind_modify,
    Action.run_bind_of_ok (run_newProxy ..), Action.run_modify]
  rfl

/-! ### The wiring -/

/-- Every socket has its proxy and every open proxy its sockets and its entry. -/
structure Wired (s : UdpProxies) : Prop where
  owns : ∀ p k, (s.proxies p).socket1 = some k ∨ (s.proxies p).socket2 = some k →
    (s.sockets k).parent = some p ∧ (s.sockets k).bind ≠ .closed
  both : ∀ p, (s.proxies p).socket1 = none ↔ (s.proxies p).socket2 = none
  apart : ∀ p k, (s.proxies p).socket1 = some k → (s.proxies p).socket2 ≠ some k
  belongs : ∀ k, (s.sockets k).bind ≠ .closed →
    ∃ p, (s.proxies p).socket1 = some k ∨ (s.proxies p).socket2 = some k
  freshSocket : ∀ k, s.nextSocket ≤ k → (s.sockets k).bind = .closed
  freshProxy : ∀ p, s.nextProxy ≤ p → (s.proxies p).socket1 = none
  ready : ∀ k, (s.sockets k).isReady = decide ((s.sockets k).bind = .listening)
  counter : ∀ p k l, s.Live p k l → (s.proxies p).readyCounter =
    (s.sockets k).bind.counts.toNat + (s.sockets l).bind.counts.toNat
  current : ∀ p k l, s.Live p k l → (s.proxies p).callback.entry < s.nextEntry ∧
    (s.entries (s.proxies p).callback.entry).m_udpproxy = p

/-- Every row of the table leads to an entry of its own, with an open proxy. -/
structure Sound (s : UdpProxies) : Prop extends Wired s where
  rows : ∀ name e, s.activeUdpProxy.own? name = some e →
    ∃ k l, s.Live (s.entries e).m_udpproxy k l ∧
      (s.proxies (s.entries e).m_udpproxy).callback.entry = e
  inj : ∀ name name' e, s.activeUdpProxy.own? name = some e →
    s.activeUdpProxy.own? name' = some e → name = name'

theorem Wired.live (h : s.Wired) (hk : (s.proxies p).socket1 = some k) : ∃ l, s.Live p k l := by
  cases hl : (s.proxies p).socket2 with
  | none => rw [(h.both p).mpr hl] at hk; exact absurd hk (by simp)
  | some l => exact ⟨l, hk, hl⟩

theorem Wired.shut (h : s.Wired) (hp : s.Live p k l) : (s.shut p k l).Wired := by
  obtain ⟨hk, hl⟩ := hp
  have hok := h.owns p k (Or.inl hk)
  have hol := h.owns p l (Or.inr hl)
  constructor
  · intro q j hj
    have := h.owns q j
    simp only [UdpProxies.shut, Function.update_apply] at hj ⊢
    grind
  · intro q
    have := h.both q
    simp only [UdpProxies.shut, Function.update_apply]
    grind
  · intro q j
    have := h.apart q j
    simp only [UdpProxies.shut, Function.update_apply]
    grind
  · intro j hj
    simp only [UdpProxies.shut, Function.update_apply] at hj ⊢
    by_cases hkl : j = k ∨ j = l
    · simp [hkl] at hj
    · rw [if_neg hkl] at hj
      obtain ⟨q, hq⟩ := h.belongs j hj
      exact ⟨q, by grind⟩
  · intro j hj
    have := h.freshSocket j hj
    simp only [UdpProxies.shut]
    grind
  · intro q hq
    have := h.freshProxy q hq
    simp only [UdpProxies.shut, Function.update_apply]
    grind
  · intro j
    have := h.ready j
    simp only [UdpProxies.shut]
    grind
  · rintro q i j ⟨hi, hj⟩
    have hc := h.counter q i j
    have hoi := h.owns q i
    have hoj := h.owns q j
    simp only [UdpProxies.shut, Live, Function.update_apply] at hi hj hc ⊢
    grind
  · rintro q i j ⟨hi, hj⟩
    have hc := h.current q i j
    simp only [UdpProxies.shut, Live, Function.update_apply] at hi hj hc ⊢
    grind

/-- A new proxy is built for an entry that has no open one. -/
theorem Wired.install (h : s.Wired) (he : e < s.nextEntry) {c : Callback} (hc : c.entry = e)
    (hvacant : ∀ q i j, s.Live q i j → (s.proxies q).callback.entry ≠ e) (port1 port2 : Val)
    (b : Bool) : (s.install e port1 port2 c b).Wired := by
  have hn := h.freshSocket s.nextSocket (Nat.le_refl _)
  have hn' := h.freshSocket (s.nextSocket + 1) (Nat.le_succ _)
  have hdead := h.freshProxy s.nextProxy (Nat.le_refl _)
  have hdead' := (h.both s.nextProxy).mp hdead
  have hout : ∀ q i, (s.proxies q).socket1 = some i ∨ (s.proxies q).socket2 = some i →
      i ≠ s.nextSocket ∧ i ≠ s.nextSocket + 1 := by
    intro q i hi
    have := h.owns q i hi
    grind
  constructor
  · intro q i hi
    have := h.owns q i
    have := hout q i
    simp only [UdpProxies.install, Function.update_apply] at hi ⊢
    grind
  · intro q
    have := h.both q
    simp only [UdpProxies.install, Function.update_apply]
    grind
  · intro q i
    have := h.apart q i
    simp only [UdpProxies.install, Function.update_apply]
    grind
  · intro i hi
    simp only [UdpProxies.install, Function.update_apply] at hi ⊢
    by_cases hnew : i = s.nextSocket ∨ i = s.nextSocket + 1
    · exact ⟨s.nextProxy, by grind⟩
    · obtain ⟨q, hq⟩ := h.belongs i (by grind)
      exact ⟨q, by grind⟩
  · intro i hi
    have := h.freshSocket i
    simp only [UdpProxies.install] at hi ⊢
    grind
  · intro q hq
    have := h.freshProxy q
    simp only [UdpProxies.install, Function.update_apply] at hq ⊢
    grind
  · intro i
    have := h.ready i
    simp only [UdpProxies.install]
    grind
  · rintro q i j ⟨hi, hj⟩
    have hcount := h.counter q i j
    have hoi := hout q i
    have hoj := hout q j
    simp only [UdpProxies.install, Live, Function.update_apply] at hi hj hcount ⊢
    by_cases hq : q = s.nextProxy
    · simp only [hq, if_true, Option.some.injEq] at hi hj ⊢
      subst hi hj
      simp [Bind.counts]
    · grind
  · rintro q i j ⟨hi, hj⟩
    have hcur := h.current q i j
    have hv := hvacant q i j
    simp only [UdpProxies.install, Live, Function.update_apply] at hi hj hcur hv ⊢
    by_cases hq : q = s.nextProxy
    · simp only [hq, if_true]
      exact ⟨hc ▸ he, by rw [hc, if_pos rfl]⟩
    · grind

theorem Wired.newEntry (h : s.Wired) (name : String) (port1 port2 : Val) (now : ℕ) :
    (s.newEntry name port1 port2 now).Wired :=
  { h with
    current := fun q i j hq => by
      obtain ⟨hlt, hcur⟩ := h.current q i j hq
      refine ⟨Nat.lt_succ_of_lt hlt, ?_⟩
      simp only [UdpProxies.newEntry, Function.update_apply]
      rw [if_neg (Nat.ne_of_lt hlt)]
      exact hcur }

theorem Wired.settle (h : s.Wired) (hk : (s.sockets k).bind = .pending)
    (hp : (s.sockets k).parent = some p) {b : Bind} (hb : b ≠ .closed) :
    (s.settle k b p).Wired := by
  constructor
  · intro q i hi
    have := h.owns q i
    simp only [UdpProxies.settle, Function.update_apply] at hi ⊢
    grind
  · intro q
    have := h.both q
    simp only [UdpProxies.settle, Function.update_apply]
    grind
  · intro q i
    have := h.apart q i
    simp only [UdpProxies.settle, Function.update_apply]
    grind
  · intro i hi
    simp only [UdpProxies.settle, Function.update_apply] at hi ⊢
    obtain ⟨q, hq⟩ := h.belongs i (by grind)
    exact ⟨q, by grind⟩
  · intro i hi
    have := h.freshSocket i hi
    simp only [UdpProxies.settle, Function.update_apply]
    grind
  · intro q hq
    have := h.freshProxy q hq
    simp only [UdpProxies.settle, Function.update_apply]
    grind
  · intro i
    have := h.ready i
    simp only [UdpProxies.settle, Function.update_apply]
    grind
  · rintro q i j ⟨hi, hj⟩
    have hcount := h.counter q i j
    have hoi := h.owns q i
    have hoj := h.owns q j
    have hne := h.apart q i
    obtain ⟨q', hq'⟩ := h.belongs k (by rw [hk]; decide)
    obtain ⟨hown, -⟩ := h.owns q' k hq'
    obtain rfl : p = q' := Option.some.inj (hp.symm.trans hown)
    have hzero : (s.sockets k).bind.counts.toNat = 0 := by rw [hk]; rfl
    simp only [UdpProxies.settle, Live, Function.update_apply] at hi hj hcount ⊢
    by_cases hq : q = p
    · subst hq
      simp only [if_true] at hi hj ⊢
      -- the socket is one of the two, and the bind of the other one is as before
      rcases hq' with hk1 | hk2
      · obtain rfl : i = k := by grind
        have hji : j ≠ i := by grind
        rw [if_pos rfl, if_neg hji, hcount ⟨hi, hj⟩, hzero]
        dsimp only
        omega
      · obtain rfl : j = k := by grind
        have hij : i ≠ j := by grind
        rw [if_pos rfl, if_neg hij, hcount ⟨hi, hj⟩, hzero]
        dsimp only
        omega
    · grind
  · rintro q i j ⟨hi, hj⟩
    have hcur := h.current q i j
    simp only [UdpProxies.settle, Live, Function.update_apply] at hi hj hcur ⊢
    grind

/-! ### Moves -/

/-- Is this the answer to the request? -/
def isReply (r : RequestId) : UdpEffect → Bool
  | .reply q _ _ => q = r
  | _ => false

/-- How often the callback of a request has run. -/
def answers (s : UdpProxies) (r : RequestId) : ℕ := s.log.countP (isReply r)

/-- Two states with the same objects and the same answers. -/
structure SameWires (s s' : UdpProxies) : Prop where
  sockets : ∀ k, (s'.sockets k).parent = (s.sockets k).parent ∧
    (s'.sockets k).isReady = (s.sockets k).isReady ∧ (s'.sockets k).bind = (s.sockets k).bind
  proxies : ∀ p, (s'.proxies p).callback = (s.proxies p).callback ∧
    (s'.proxies p).readyCounter = (s.proxies p).readyCounter ∧
    (s'.proxies p).socket1 = (s.proxies p).socket1 ∧ (s'.proxies p).socket2 = (s.proxies p).socket2
  closings : ∀ p, (s'.proxies p).closings = (s.proxies p).closings
  m_udpproxy : ∀ e, (s'.entries e).m_udpproxy = (s.entries e).m_udpproxy
  nextSocket : s'.nextSocket = s.nextSocket
  nextProxy : s'.nextProxy = s.nextProxy
  nextEntry : s'.nextEntry = s.nextEntry
  nextRequest : s'.nextRequest = s.nextRequest
  activeUdpProxy : s'.activeUdpProxy = s.activeUdpProxy
  answers : ∀ r, s'.answers r = s.answers r

/-- Two states that differ in clock readings, ports, peers and notifications only. -/
structure Alike (s s' : UdpProxies) : Prop extends SameWires s s' where
  proxyBlocked : ∀ p, (s'.proxies p).blocked = (s.proxies p).blocked
  entryBlocked : ∀ e, (s'.entries e).blocked = (s.entries e).blocked

/-- The callback of a request runs, if there is one. -/
def replied (report : ProxyConfig) (en : Bool) (s : UdpProxies) : Option RequestId → UdpProxies
  | some r => emit (.reply r report en) s
  | none => s

/-- What operations are made of. -/
inductive Move where
  | quiet
  | block (name : String) (blocked : Bool)
  | drop (name : String)
  | recreate (name : String) (request : Option RequestId)
  | create (name : String) (request : RequestId)
  | ask
  | reply (request : RequestId)
  | ends (k : UdpSocketId) (b : Bind)

/-- The request that is answered when the bind of a socket of the proxy ends. -/
def due (s : UdpProxies) (b : Bind) (p : ProxyId) : Option RequestId :=
  if b.counts ∧ (s.proxies p).readyCounter = 1 then (s.proxies p).callback.request? else none

/-- One move. -/
inductive Moved : UdpProxies → Move → UdpProxies → Prop
  | quiet {s s' : UdpProxies} : Alike s s' → Moved s .quiet s'
  | block {s : UdpProxies} {name : String} {e : EntryId} (blocked : Bool) :
    s.activeUdpProxy.own? name = some e → Moved s (.block name blocked)
      (setProxy (s.entries e).m_udpproxy (fun x => { x with blocked })
        (setEntry e (fun x => { x with blocked }) s))
  | drop {s : UdpProxies} {name : String} {e : EntryId} {k l : UdpSocketId} :
    s.activeUdpProxy.own? name = some e → s.Live (s.entries e).m_udpproxy k l →
    Moved s (.drop name) { s.shut (s.entries e).m_udpproxy k l with
      activeUdpProxy := s.activeUdpProxy.delete name }
  | recreate {s : UdpProxies} {name : String} {e : EntryId} {k l : UdpSocketId}
    (onComplete : Option OnComplete) :
    s.activeUdpProxy.own? name = some e → s.Live (s.entries e).m_udpproxy k l →
    Moved s (.recreate name (Callback.recreated e onComplete).request?) (s.replace e k l onComplete)
  | create {s : UdpProxies} {name : String} (port1 port2 : Val) (r : RequestId) (now : ℕ) :
    s.activeUdpProxy.own? name = none → Moved s (.create name r)
      (install s.nextEntry port1 port2 (.opened s.nextEntry r) false
        (newEntry name port1 port2 now s))
  | ask {s : UdpProxies} : Moved s .ask { s with nextRequest := s.nextRequest + 1 }
  | reply {s : UdpProxies} (r : RequestId) (report : ProxyConfig) (en : Bool) :
    Moved s (.reply r) (emit (.reply r report en) s)
  | ends {s s' : UdpProxies} {k : UdpSocketId} {b : Bind} {p : ProxyId} (report : ProxyConfig)
    (en : Bool) :
    (s.sockets k).bind = .pending → (s.sockets k).parent = some p → b ≠ .closed → b ≠ .pending →
    Alike (replied report en (s.settle k b p) (s.due b p)) s' → Moved s (.ends k b) s'

theorem SameWires.refl (s : UdpProxies) : SameWires s s where
  sockets := fun _ => ⟨rfl, rfl, rfl⟩
  proxies := fun _ => ⟨rfl, rfl, rfl, rfl⟩
  closings := fun _ => rfl
  m_udpproxy := fun _ => rfl
  nextSocket := rfl
  nextProxy := rfl
  nextEntry := rfl
  nextRequest := rfl
  activeUdpProxy := rfl
  answers := fun _ => rfl

theorem SameWires.trans {t u : UdpProxies} (h : SameWires s t) (h' : SameWires t u) :
    SameWires s u where
  sockets := fun k => by
    rw [(h'.sockets k).1, (h'.sockets k).2.1, (h'.sockets k).2.2]
    exact h.sockets k
  proxies := fun p => by
    rw [(h'.proxies p).1, (h'.proxies p).2.1, (h'.proxies p).2.2.1, (h'.proxies p).2.2.2]
    exact h.proxies p
  closings := fun p => (h'.closings p).trans (h.closings p)
  m_udpproxy := fun e => (h'.m_udpproxy e).trans (h.m_udpproxy e)
  nextSocket := h'.nextSocket.trans h.nextSocket
  nextProxy := h'.nextProxy.trans h.nextProxy
  nextEntry := h'.nextEntry.trans h.nextEntry
  nextRequest := h'.nextRequest.trans h.nextRequest
  activeUdpProxy := h'.activeUdpProxy.trans h.activeUdpProxy
  answers := fun r => (h'.answers r).trans (h.answers r)

theorem Alike.refl (s : UdpProxies) : Alike s s :=
  { SameWires.refl s with proxyBlocked := fun _ => rfl, entryBlocked := fun _ => rfl }

theorem Alike.trans {t u : UdpProxies} (h : Alike s t) (h' : Alike t u) : Alike s u :=
  { h.toSameWires.trans h'.toSameWires with
    proxyBlocked := fun p => (h'.proxyBlocked p).trans (h.proxyBlocked p)
    entryBlocked := fun e => (h'.entryBlocked e).trans (h.entryBlocked e) }

theorem SameWires.live (h : SameWires s s') : s'.Live p k l ↔ s.Live p k l := by
  rw [Live, Live, (h.proxies p).2.2.1, (h.proxies p).2.2.2]

theorem SameWires.wired (h : SameWires s s') (hs : s.Wired) : s'.Wired := by
  constructor
  · intro q i
    rw [(h.proxies q).2.2.1, (h.proxies q).2.2.2, (h.sockets i).1, (h.sockets i).2.2]
    exact hs.owns q i
  · intro q
    rw [(h.proxies q).2.2.1, (h.proxies q).2.2.2]
    exact hs.both q
  · intro q i
    rw [(h.proxies q).2.2.1, (h.proxies q).2.2.2]
    exact hs.apart q i
  · intro i
    rw [(h.sockets i).2.2]
    intro hi
    obtain ⟨q, hq⟩ := hs.belongs i hi
    refine ⟨q, ?_⟩
    rw [(h.proxies q).2.2.1, (h.proxies q).2.2.2]
    exact hq
  · intro i
    rw [h.nextSocket, (h.sockets i).2.2]
    exact hs.freshSocket i
  · intro q
    rw [h.nextProxy, (h.proxies q).2.2.1]
    exact hs.freshProxy q
  · intro i
    rw [(h.sockets i).2.1, (h.sockets i).2.2]
    exact hs.ready i
  · intro q i j
    rw [h.live, (h.proxies q).2.1, (h.sockets i).2.2, (h.sockets j).2.2]
    exact hs.counter q i j
  · intro q i j
    rw [h.live, (h.proxies q).1, h.nextEntry, h.m_udpproxy]
    exact hs.current q i j

theorem SameWires.sound (h : SameWires s s') (hs : s.Sound) : s'.Sound where
  toWired := h.wired hs.toWired
  rows := fun name e => by
    rw [h.activeUdpProxy]
    intro hrow
    obtain ⟨i, j, hlive, hown⟩ := hs.rows name e hrow
    rw [h.m_udpproxy, (h.proxies _).1]
    exact ⟨i, j, h.live.mpr hlive, hown⟩
  inj := fun name name' e => by rw [h.activeUdpProxy]; exact hs.inj name name' e

/-- Two rows under different names have different proxies. -/
theorem Sound.row_ne (h : s.Sound) {name name' : String} {e' : EntryId} (hne : name ≠ name')
    (hrow : s.activeUdpProxy.own? name = some e) (hrow' : s.activeUdpProxy.own? name' = some e') :
    (s.entries e).m_udpproxy ≠ (s.entries e').m_udpproxy := by
  intro hp
  obtain ⟨i, j, -, hown⟩ := h.rows name e hrow
  obtain ⟨i', j', -, hown'⟩ := h.rows name' e' hrow'
  rw [hp, hown'] at hown
  subst hown
  exact hne (h.inj name name' _ hrow hrow')

/-- The entry of a row was created before. -/
theorem Sound.row_lt (h : s.Sound) {name : String} (hrow : s.activeUdpProxy.own? name = some e) :
    e < s.nextEntry := by
  obtain ⟨i, j, hlive, hown⟩ := h.rows name e hrow
  have := (h.current _ i j hlive).1
  rw [hown] at this
  exact this

theorem Wired.lt (h : s.Wired) (hp : s.Live p k l) : p < s.nextProxy := by
  by_contra hlt
  have := h.freshProxy p (Nat.not_lt.mp hlt)
  rw [hp.1] at this
  exact absurd this (by simp)

theorem shut_live {q : ProxyId} {i j : UdpSocketId} (hq : q ≠ p) :
    (s.shut p k l).Live q i j ↔ s.Live q i j := by
  simp [Live, shut, hq]

theorem install_live {port1 port2 : Val} {c : Callback} {blocked : Bool} {q : ProxyId}
    {i j : UdpSocketId} (hq : q ≠ s.nextProxy) :
    (s.install e port1 port2 c blocked).Live q i j ↔ s.Live q i j := by
  simp [install, Live, hq]

theorem shut_live_ne {q : ProxyId} {i j : UdpSocketId} (h : (s.shut p k l).Live q i j) : q ≠ p := by
  rintro rfl
  have hone := h.1
  simp [UdpProxies.shut] at hone

/-- The proxies that stay open when the current one of an entry is closed belong to other entries. -/
theorem Wired.shut_entry (h : s.Wired) {q : ProxyId} {i j : UdpSocketId}
    (hq : (s.shut (s.entries e).m_udpproxy k l).Live q i j) :
    s.Live q i j ∧ (s.proxies q).callback.entry ≠ e := by
  have hne := shut_live_ne hq
  have hold := (shut_live hne).mp hq
  refine ⟨hold, ?_⟩
  rintro rfl
  exact hne (h.current q i j hold).2.symm

/-- Only the proxy that is closed was the current one of its entry. -/
theorem Wired.vacant_shut (h : s.Wired) {q : ProxyId} {i j : UdpSocketId}
    (hq : (s.shut (s.entries e).m_udpproxy k l).Live q i j) :
    ((s.shut (s.entries e).m_udpproxy k l).proxies q).callback.entry ≠ e := by
  simp only [UdpProxies.shut, Function.update_apply, if_neg (shut_live_ne hq)]
  exact (h.shut_entry hq).2

theorem Sound.drop (h : s.Sound) {name : String} (hrow : s.activeUdpProxy.own? name = some e)
    (hlive : s.Live (s.entries e).m_udpproxy k l) :
    Sound { s.shut (s.entries e).m_udpproxy k l with
      activeUdpProxy := s.activeUdpProxy.delete name } where
  toWired := { h.toWired.shut hlive with }
  rows := fun name' e' hrow' => by
    rw [Table.own?_delete] at hrow'
    by_cases hname : name' = name
    · rw [if_pos hname] at hrow'; exact absurd hrow' (by simp)
    · rw [if_neg hname] at hrow'
      have hne := h.row_ne hname hrow' hrow
      obtain ⟨i, j, hlive', hown⟩ := h.rows name' e' hrow'
      refine ⟨i, j, (shut_live (k := k) (l := l) hne).mpr hlive', ?_⟩
      simp only [shut, Function.update_apply, if_neg hne]
      exact hown
  inj := fun name' name'' e' hrow' hrow'' =>
    h.inj name' name'' e' (Table.own?_delete_imp hrow') (Table.own?_delete_imp hrow'')

theorem Sound.replace (h : s.Sound) {name : String} (hrow : s.activeUdpProxy.own? name = some e)
    (hlive : s.Live (s.entries e).m_udpproxy k l) (onComplete : Option OnComplete) :
    (s.replace e k l onComplete).Sound where
  toWired := (h.toWired.shut hlive).install (h.row_lt hrow) rfl
    (fun _ _ _ hq => h.toWired.vacant_shut hq) _ _ _
  rows := fun name' e' hrow' => by
    by_cases hname : name' = name
    · subst hname
      obtain rfl : e = e' := Option.some.inj (hrow.symm.trans hrow')
      refine ⟨s.nextSocket, s.nextSocket + 1, ?_, ?_⟩
      · simp [UdpProxies.replace, install, shut, Live]
      · simp [UdpProxies.replace, install, shut, Callback.entry]
    · have hne := h.row_ne hname hrow' hrow
      have hne' : e' ≠ e := fun heq => hne (by rw [heq])
      obtain ⟨i, j, hlive', hown⟩ := h.rows name' e' hrow'
      have hlt := h.toWired.lt hlive'
      have hentry : ((s.replace e k l onComplete).entries e').m_udpproxy =
          (s.entries e').m_udpproxy := by
        simp [UdpProxies.replace, install, shut, hne']
      rw [hentry]
      refine ⟨i, j, ?_, ?_⟩
      · simpa [UdpProxies.replace, install, shut, Live, hne, Nat.ne_of_lt hlt] using hlive'
      · simp [UdpProxies.replace, install, shut, hne, Nat.ne_of_lt hlt, hown]
  inj := h.inj

theorem Sound.create (h : s.Sound) (name : String) (port1 port2 : Val) (r : RequestId) (now : ℕ)
    (hrow : s.activeUdpProxy.own? name = none) :
    (install s.nextEntry port1 port2 (.opened s.nextEntry r) false
      (newEntry name port1 port2 now s)).Sound := by
  have hwired := h.toWired.newEntry name port1 port2 now
  have hstored : ∀ name' e', (s.activeUdpProxy.assign objectPrototype name s.nextEntry).own? name'
      = some e' → (name' = name ∧ e' = s.nextEntry) ∨
        (s.activeUdpProxy.own? name' = some e' ∧ e' < s.nextEntry) := by
    intro name' e' hrow'
    rcases Table.own?_assign_imp hrow' with hnew | hold
    · exact Or.inl hnew
    · exact Or.inr ⟨hold, h.row_lt hold⟩
  refine ⟨hwired.install (Nat.lt_succ_self _) rfl (fun q i j hq heq => ?_) _ _ _, ?_, ?_⟩
  · have := (h.current q i j hq).1
    exact absurd heq (Nat.ne_of_lt this)
  · intro name' e' hrow'
    rcases hstored name' e' hrow' with ⟨-, rfl⟩ | ⟨hold, hlt⟩
    · refine ⟨s.nextSocket, s.nextSocket + 1, ?_, ?_⟩
      · simp [install, newEntry, Live]
      · simp [install, newEntry, Callback.entry]
    · obtain ⟨i, j, hlive, hown⟩ := h.rows name' e' hold
      have hp := Nat.ne_of_lt (h.toWired.lt hlive)
      have hentry : ((install s.nextEntry port1 port2 (.opened s.nextEntry r) false
          (newEntry name port1 port2 now s)).entries e').m_udpproxy = (s.entries e').m_udpproxy := by
        simp [install, newEntry, Nat.ne_of_lt hlt]
      rw [hentry]
      refine ⟨i, j, ?_, ?_⟩
      · simpa [install, newEntry, Live, hp] using hlive
      · simp [install, newEntry, hp, hown]
  · intro name' name'' e' hrow' hrow''
    rcases hstored name' e' hrow' with ⟨rfl, rfl⟩ | ⟨hold, hlt⟩
    · rcases hstored name'' _ hrow'' with ⟨rfl, -⟩ | ⟨-, hlt⟩
      · rfl
      · exact absurd hlt (Nat.lt_irrefl _)
    · rcases hstored name'' e' hrow'' with ⟨rfl, rfl⟩ | ⟨hold', -⟩
      · exact absurd hlt (Nat.lt_irrefl _)
      · exact h.inj name' name'' e' hold hold'

theorem Sound.settle (h : s.Sound) (hk : (s.sockets k).bind = .pending)
    (hp : (s.sockets k).parent = some p) {b : Bind} (hb : b ≠ .closed) :
    (s.settle k b p).Sound := by
  have hlive : ∀ q i j, (s.settle k b p).Live q i j ↔ s.Live q i j := by
    intro q i j
    simp only [UdpProxies.settle, Live, Function.update_apply]
    grind
  refine ⟨h.toWired.settle hk hp hb, fun name e hrow => ?_, h.inj⟩
  obtain ⟨i, j, hq, hown⟩ := h.rows name e hrow
  refine ⟨i, j, (hlive _ i j).mpr hq, ?_⟩
  simp only [UdpProxies.settle, Function.update_apply]
  grind

theorem sameWires_block (e : EntryId) (blocked : Bool) (s : UdpProxies) :
    SameWires s (setProxy (s.entries e).m_udpproxy (fun x => { x with blocked })
      (setEntry e (fun x => { x with blocked }) s)) :=
  { SameWires.refl s with
    proxies := fun p => by
      simp only [setProxy, setEntry, Function.update_apply]
      split
      · next hp => rw [hp]; exact ⟨rfl, rfl, rfl, rfl⟩
      · exact ⟨rfl, rfl, rfl, rfl⟩
    closings := fun p => by
      simp only [setProxy, setEntry, Function.update_apply]
      split
      · next hp => rw [hp]
      · rfl
    m_udpproxy := fun e' => by
      simp only [setProxy, setEntry, Function.update_apply]
      split
      · next he => rw [he]
      · rfl }

/-- Every move keeps the wiring. -/
theorem Sound.moved {m : Move} (h : s.Sound) (hm : Moved s m s') : s'.Sound := by
  cases hm with
  | quiet halike => exact halike.sound h
  | block blocked hrow => exact (sameWires_block _ blocked s).sound h
  | drop hrow hlive => exact h.drop hrow hlive
  | recreate onComplete hrow hlive => exact h.replace hrow hlive onComplete
  | create port1 port2 r now hrow => exact h.create _ port1 port2 r now hrow
  | ask => exact { h with }
  | reply r report en => exact { h with }
  | @ends _ k b p report en hk hp hb hb' halike =>
    refine halike.sound ?_
    cases s.due b p with
    | none => exact h.settle hk hp hb
    | some r => exact { h.settle hk hp hb with }

theorem Sound.start (public_host : Val) : (start public_host).Sound where
  owns := fun _ _ h => by rcases h with h | h <;> exact absurd h (by simp [UdpProxies.start])
  both := fun _ => Iff.rfl
  apart := fun _ _ h => absurd h (by simp [UdpProxies.start])
  belongs := fun _ h => absurd rfl h
  freshSocket := fun _ _ => rfl
  freshProxy := fun _ _ => rfl
  ready := fun _ => rfl
  counter := fun _ _ _ h => absurd h.1 (by simp [UdpProxies.start])
  current := fun _ _ _ h => absurd h.1 (by simp [UdpProxies.start])
  rows := fun _ _ h => absurd h (by simp [UdpProxies.start])
  inj := fun _ _ _ h => absurd h (by simp [UdpProxies.start])

/-! ### What an operation does -/

theorem alike_setEntry {f : ProxyEntry → ProxyEntry} (s : UdpProxies)
    (hp : ∀ x, (f x).m_udpproxy = x.m_udpproxy) (hb : ∀ x, (f x).blocked = x.blocked) :
    Alike s (s.setEntry e f) :=
  { SameWires.refl s with
    m_udpproxy := fun e' => by
      simp only [setEntry, Function.update_apply]
      split
      · next he => rw [he, hp]
      · rfl
    proxyBlocked := fun _ => rfl
    entryBlocked := fun e' => by
      simp only [setEntry, Function.update_apply]
      split
      · next he => rw [he, hb]
      · rfl }

theorem alike_setSocket {f : UdpSocket → UdpSocket} (s : UdpProxies)
    (hp : ∀ x, (f x).parent = x.parent) (hr : ∀ x, (f x).isReady = x.isReady)
    (hb : ∀ x, (f x).bind = x.bind) : Alike s (s.setSocket k f) :=
  { SameWires.refl s with
    sockets := fun j => by
      simp only [setSocket, Function.update_apply]
      split
      · next hj => rw [hj, hp, hr, hb]; exact ⟨rfl, rfl, rfl⟩
      · exact ⟨rfl, rfl, rfl⟩
    proxyBlocked := fun _ => rfl
    entryBlocked := fun _ => rfl }

theorem answers_emit (x : UdpEffect) (s : UdpProxies) (r : RequestId) :
    (s.emit x).answers r = s.answers r + (isReply r x).toNat := by
  rw [answers, emit, List.countP_append, List.countP_singleton, answers]
  cases isReply r x with
  | true => rfl
  | false => rfl

theorem alike_emit {x : UdpEffect} (s : UdpProxies) (hx : ∀ r, isReply r x = false) :
    Alike s (s.emit x) :=
  { SameWires.refl s with
    answers := fun r => by rw [answers_emit, hx]; rfl
    proxyBlocked := fun _ => rfl
    entryBlocked := fun _ => rfl }

theorem Alike.emit (h : Alike s s') (x : UdpEffect) : Alike (s.emit x) (s'.emit x) :=
  { h with answers := fun r => by rw [answers_emit, answers_emit, h.answers] }

theorem Alike.replied (h : Alike s s') (report : ProxyConfig) (en : Bool)
    (request : Option RequestId) :
    Alike (s.replied report en request) (s'.replied report en request) := by
  cases request with
  | none => exact h
  | some r => exact h.emit _

theorem alike_startReaper (now : ℕ) (s : UdpProxies) : Alike s (s.startReaper now) := by
  rw [startReaper]
  split
  · exact Alike.refl s
  · exact { Alike.refl s with }

/-- The table entry a name leads to. -/
def found (s : UdpProxies) (name : Val) : Option (String × EntryId) :=
  match s.activeUdpProxy.hasOwnProperty objectPrototype name, propKey name with
  | .ok _, .ok key => (s.activeUdpProxy.own? key).map fun e => (key, e)
  | _, _ => none

theorem lookupRequest_eq_ok {name socket1 socket2 port1 port2 : Val} {entry : Option EntryId}
    {key : String} (h : s.lookupRequest name socket1 socket2 = .ok (entry, key, port1, port2)) :
    s.activeUdpProxy.own? key = entry ∧ propKey name = .ok key ∧
      s.activeUdpProxy.hasOwnProperty objectPrototype name =
        .ok (s.activeUdpProxy.own? key).isSome := by
  obtain ⟨key', hk, h⟩ := bind_eq_ok.mp h
  obtain ⟨_, -, h⟩ := bind_eq_ok.mp h
  obtain ⟨_, -, h⟩ := bind_eq_ok.mp h
  obtain ⟨_, -, h⟩ := bind_eq_ok.mp h
  obtain ⟨_, -, h⟩ := bind_eq_ok.mp h
  obtain ⟨own, hown, h⟩ := bind_eq_ok.mp h
  have hpair := Except.ok.inj h
  simp only [Prod.mk.injEq] at hpair
  obtain ⟨hentry, rfl, -, -⟩ := hpair
  rcases s.activeUdpProxy.hasOwnProperty_cases objectPrototype name with ⟨x, hx⟩ | ⟨l, hl, hx⟩
  · rw [hx] at hown; exact absurd hown (by simp)
  · obtain rfl : l = key' := Except.ok.inj (hl.symm.trans hk)
    refine ⟨?_, hk, hx⟩
    obtain rfl := Except.ok.inj (hx.symm.trans hown)
    rw [← hentry]
    cases s.activeUdpProxy.own? l with
    | none => rfl
    | some e => rfl

theorem run_closeUDPSocket {name : Val} {key : String} (hk : propKey name = .ok key)
    (hown : s.activeUdpProxy.hasOwnProperty objectPrototype name =
      .ok (s.activeUdpProxy.own? key).isSome)
    (hrow : s.activeUdpProxy.own? key = some e) (hlive : s.Live (s.entries e).m_udpproxy k l) :
    closeUDPSocket name s = (.ok ⟨s.socketConfig k, s.socketConfig l⟩,
      { s.shut (s.entries e).m_udpproxy k l with
        activeUdpProxy := s.activeUdpProxy.delete key }) := by
  rw [closeUDPSocket, Action.run_bind_get, hown, Action.run_bind_ok, hk, Action.run_bind_ok, hrow]
  change (getConfig _ >>= _) s = _
  rw [Action.run_bind_of_ok (run_getConfig hlive), Action.run_bind_of_ok (run_closeProxy hlive),
    Action.run_bind_modify]
  rfl

theorem closeUDPSocket_cases (h : s.Sound) (name : Val) :
    (s.found name = none ∧ (closeUDPSocket name).final s = s) ∨
    ∃ key e, s.found name = some (key, e) ∧ s.activeUdpProxy.own? key = some e ∧
      Moved s (.drop key) ((closeUDPSocket name).final s) := by
  rw [closeUDPSocket, Action.final_get_bind]
  rcases s.activeUdpProxy.hasOwnProperty_cases objectPrototype name with ⟨x, hx⟩ | ⟨key, hk, hx⟩
  · rw [hx]
    exact Or.inl ⟨by rw [found, hx], rfl⟩
  · rw [hx, Action.final_ok_bind, hk, Action.final_ok_bind]
    cases hrow : s.activeUdpProxy.own? key with
    | none => exact Or.inl ⟨by rw [found, hx, hk]; simp [hrow], rfl⟩
    | some e =>
      obtain ⟨k, l, hlive, -⟩ := h.rows key e hrow
      refine Or.inr ⟨key, e, by rw [found, hx, hk]; simp [hrow], hrow, ?_⟩
      change Moved s _ (Action.final (getConfig _ >>= _) s)
      rw [Action.final_bind_of_ok (run_getConfig hlive), Action.final_bind_of_ok (run_closeProxy hlive)]
      exact .drop hrow hlive

theorem setProxyBlocked_cases (name : String) (blocked : Bool) (s : UdpProxies) :
    (s.activeUdpProxy.own? name = none ∧ (setProxyBlocked name blocked).final s = s) ∨
      Moved s (.block name blocked) ((setProxyBlocked name blocked).final s) := by
  rw [setProxyBlocked, Action.final_get_bind]
  cases hslot : s.activeUdpProxy.get objectPrototype name with
  | absent => exact Or.inl ⟨(Table.get_eq_absent_iff.mp hslot).1, rfl⟩
  | inherited => exact Or.inl ⟨(Table.get_eq_inherited_iff.mp hslot).1, rfl⟩
  | own e => exact Or.inr (.block blocked (Table.get_eq_own_iff.mp hslot))

theorem recreateProxy_moves {name : String} (hrow : s.activeUdpProxy.own? name = some e)
    (hlive : s.Live (s.entries e).m_udpproxy k l) (onComplete : Option OnComplete) (now : ℕ) :
    ∃ t, Moved s (.recreate name (Callback.recreated e onComplete).request?) t ∧
      Moved t .quiet ((recreateProxy e onComplete now).final s) := by
  refine ⟨_, .recreate onComplete hrow hlive, .quiet ?_⟩
  rw [Action.final, run_recreateProxy onComplete now hlive]
  exact alike_setEntry (f := fun x => { x with last_access := now }) _ (fun _ => rfl) fun _ => rfl

/-- Does a request ask for the ports its proxy has? -/
def fits (s : UdpProxies) (port1 port2 : Val) (k l : UdpSocketId) : Bool :=
  Server.portFits port1 (s.sockets k).port && Server.portFits port2 (s.sockets l).port

/-- What a request does, from the state in which it has its number. -/
inductive Opened (s : UdpProxies) (r : RequestId) (name socket1 socket2 : Val) :
    UdpProxies → Prop
  | thrown {x : JsError} : s.lookupRequest name socket1 socket2 = .error x →
    Opened s r name socket1 socket2 s
  | fresh {key : String} {port1 port2 : Val} {s' : UdpProxies} :
    s.lookupRequest name socket1 socket2 = .ok (none, key, port1, port2) →
    Moved s (.create key r) s' → Opened s r name socket1 socket2 s'
  | same {key : String} {e : EntryId} {port1 port2 : Val} {k l : UdpSocketId} {t s' : UdpProxies} :
    s.lookupRequest name socket1 socket2 = .ok (some e, key, port1, port2) →
    s.Live (s.entries e).m_udpproxy k l → s.fits port1 port2 k l = true →
    ((s.sockets k).isReady && (s.sockets l).isReady) = true →
    Moved s .quiet t → Moved t (.reply r) s' → Opened s r name socket1 socket2 s'
  | refreshed {key : String} {e : EntryId} {port1 port2 : Val} {k l : UdpSocketId}
    {t s' : UdpProxies} :
    s.lookupRequest name socket1 socket2 = .ok (some e, key, port1, port2) →
    s.Live (s.entries e).m_udpproxy k l → s.fits port1 port2 k l = true →
    ((s.sockets k).isReady && (s.sockets l).isReady) = false →
    Moved s (.recreate key (some r)) t → Moved t .quiet s' → Opened s r name socket1 socket2 s'
  | reopened {key : String} {e : EntryId} {port1 port2 : Val} {k l : UdpSocketId}
    {t s' : UdpProxies} :
    s.lookupRequest name socket1 socket2 = .ok (some e, key, port1, port2) →
    s.Live (s.entries e).m_udpproxy k l → s.fits port1 port2 k l = false →
    Moved s (.drop key) t → Moved t (.create key r) s' → Opened s r name socket1 socket2 s'

theorem getUDPSocket_opened (h : s.Sound) (r : RequestId) (name socket1 socket2 : Val) (now : ℕ) :
    Opened s r name socket1 socket2 ((getUDPSocket name socket1 socket2 r now).final s) := by
  rw [getUDPSocket, Action.final_get_bind]
  cases hlook : s.lookupRequest name socket1 socket2 with
  | error x => exact .thrown hlook
  | ok found =>
    obtain ⟨entry, key, port1, port2⟩ := found
    obtain ⟨hrow, hk, hown⟩ := lookupRequest_eq_ok hlook
    rw [Action.final_ok_bind]
    cases entry with
    | none =>
      refine .fresh hlook ?_
      change Moved s _ ((openUDPSocket key port1 port2 r now).final s)
      rw [Action.final, run_openUDPSocket]
      exact .create port1 port2 r now hrow
    | some e =>
      obtain ⟨k, l, hlive, -⟩ := h.rows key e hrow
      change Opened s r name socket1 socket2 (Action.final (getConfig _ >>= _) s)
      rw [Action.final_bind_of_ok (run_getConfig hlive)]
      cases hfits : s.fits port1 port2 k l with
      | false =>
        have hclose := run_closeUDPSocket hk hown hrow hlive
        have hnot : (Server.portFits port1 (s.socketConfig k).port &&
            Server.portFits port2 (s.socketConfig l).port) = false := hfits
        refine .reopened hlook hlive hfits (.drop hrow hlive) ?_
        rw [hnot, if_neg Bool.false_ne_true, Action.final_bind_of_ok hclose, Action.final,
          run_openUDPSocket]
        exact .create port1 port2 r now (Table.own?_delete_self _ _)
      | true =>
        have hyes : (Server.portFits port1 (s.socketConfig k).port &&
            Server.portFits port2 (s.socketConfig l).port) = true := hfits
        rw [hyes, if_pos rfl, Action.final_bind_of_ok (run_isReady hlive)]
        cases hready : (s.sockets k).isReady && (s.sockets l).isReady with
        | true =>
          refine .same hlook hlive hfits hready (.quiet (alike_setEntry s ?_ ?_)) (.reply r _ true)
          · exact fun _ => rfl
          · exact fun _ => rfl
        | false =>
          obtain ⟨t, ht, hquiet⟩ := recreateProxy_moves hrow hlive (some (.refresh r)) now
          exact .refreshed hlook hlive hfits hready ht hquiet

/-! ### The end of a bind -/

theorem run_refreshPorts (h : s.Live (s.entries e).m_udpproxy k l) : refreshPorts e s =
    (.ok ⟨s.socketConfig k, s.socketConfig l⟩, s.writeBack e k l) := by
  rw [refreshPorts, Action.run_bind_get, Action.run_bind_of_ok (run_getConfig h)]
  rfl

theorem alike_writeBack (e : EntryId) (k l : UdpSocketId) (s : UdpProxies) :
    Alike s (s.writeBack e k l) := alike_setEntry s (fun _ => rfl) fun _ => rfl

/-- The entry keeps its proxy. -/
theorem live_writeBack {e' : EntryId} : (s.writeBack e k l).Live
    ((s.writeBack e k l).entries e').m_udpproxy k l ↔ s.Live (s.entries e').m_udpproxy k l := by
  rw [(alike_writeBack e k l s).m_udpproxy]
  exact (alike_writeBack e k l s).live

theorem runOnComplete_answers (h : s.Live (s.entries e).m_udpproxy k l)
    (onComplete : Option OnComplete) (enabled : Bool) : ∃ report,
    Alike (replied report enabled s (Callback.recreated e onComplete).request?)
      ((runOnComplete e enabled onComplete).final s) := by
  rcases onComplete with _ | r | name
  · exact ⟨⟨s.socketConfig k, s.socketConfig l⟩, Alike.refl s⟩
  · refine ⟨⟨s.socketConfig k, s.socketConfig l⟩, ?_⟩
    rw [runOnComplete, Action.final_get_bind, Action.final_bind_of_ok (run_getConfig h),
      Action.final_modify]
    exact Alike.refl _
  · refine ⟨⟨s.socketConfig k, s.socketConfig l⟩, ?_⟩
    cases enabled with
    | true => exact Alike.refl s
    | false => exact alike_emit (x := .notify name) s fun _ => rfl

/-- The callback answers its request, if it has one. -/
theorem runCallback_answers {c : Callback} (h : s.Live (s.entries c.entry).m_udpproxy k l)
    (enabled : Bool) (now : ℕ) : ∃ report, Alike (replied report enabled s c.request?)
      ((runCallback enabled now c).final s) := by
  cases c with
  | opened e r =>
    change s.Live (s.entries e).m_udpproxy k l at h
    refine ⟨⟨s.socketConfig k, s.socketConfig l⟩, ?_⟩
    rw [runCallback, Action.final_bind_of_ok (run_refreshPorts h), Action.final_modify_bind,
      Action.final_modify]
    exact ((alike_writeBack e k l s).trans (alike_startReaper now _)).emit _
  | recreated e onComplete =>
    change s.Live (s.entries e).m_udpproxy k l at h
    have halike := alike_writeBack e k l s
    cases enabled with
    | false => exact runOnComplete_answers h onComplete false
    | true =>
      obtain ⟨report, hans⟩ := runOnComplete_answers (live_writeBack.mpr h) onComplete true
      refine ⟨report, ?_⟩
      have hrun : (runCallback true now (.recreated e onComplete)).final s =
          (runOnComplete e true onComplete).final (s.writeBack e k l) := by
        change Action.final (refreshPorts e >>= fun _ => runOnComplete e true onComplete) s = _
        rw [Action.final_bind_of_ok (run_refreshPorts h)]
      rw [hrun]
      exact (halike.replied report true _).trans hans

theorem Sound.parent (h : s.Sound) (hk : (s.sockets k).bind ≠ .closed) :
    ∃ p i j, (s.sockets k).parent = some p ∧ s.Live p i j ∧ (i = k ∨ j = k) := by
  obtain ⟨p, hp⟩ := h.belongs k hk
  obtain ⟨hparent, -⟩ := h.owns p k hp
  rcases hp with hp | hp
  · obtain ⟨j, hlive⟩ := h.toWired.live hp
    exact ⟨p, k, j, hparent, hlive, Or.inl rfl⟩
  · cases hi : (s.proxies p).socket1 with
    | none => rw [(h.both p).mp hi] at hp; exact absurd hp (by simp)
    | some i => exact ⟨p, i, k, hparent, ⟨hi, hp⟩, Or.inr rfl⟩

/-- The proxy of a socket whose bind has not ended is the current one of the entry its callback
    holds. -/
theorem Sound.pending (h : s.Sound) (hk : (s.sockets k).bind = .pending) : ∃ p i j,
    (s.sockets k).parent = some p ∧ s.Live p i j ∧
      s.Live (s.entries (s.proxies p).callback.entry).m_udpproxy i j := by
  obtain ⟨p, i, j, hp, hlive, -⟩ := h.parent (k := k) (by rw [hk]; decide)
  refine ⟨p, i, j, hp, hlive, ?_⟩
  rw [(h.current p i j hlive).2]
  exact hlive

/-- `_onReady` of a proxy, one of whose sockets has just reported the end of its bind. -/
theorem onReady_ends (h : s.Sound) (hk : (s.sockets k).bind = .pending)
    (hp : (s.sockets k).parent = some p) {b : Bind} (hb : b.counts = true) {u : UdpProxies}
    {status : Bool} (now : ℕ)
    (hu : Alike (s.settle k b p) (u.setProxy p fun x =>
      { x with readyProxy := x.readyProxy && status, readyCounter := x.readyCounter + 1 })) :
    Moved s (.ends k b) ((onReady status now (some p)).final u) := by
  have hclosed : b ≠ .closed := by rintro rfl; exact absurd hb (by decide)
  have hpending : b ≠ .pending := by rintro rfl; exact absurd hb (by decide)
  obtain ⟨q, i, j, hparent, hlive, -⟩ := h.parent (k := k) (by rw [hk]; decide)
  obtain rfl : p = q := Option.some.inj (hp.symm.trans hparent)
  rw [onReady, deref_some, Action.final_ok_bind, Action.final_modify_bind, Action.final_get_bind]
  generalize u.setProxy p _ = v at hu
  have hcounter : (v.proxies p).readyCounter = (s.proxies p).readyCounter + 1 := by
    rw [(hu.proxies p).2.1]
    simp [settle, hb]
  have hcallback : (v.proxies p).callback = (s.proxies p).callback := by
    rw [(hu.proxies p).1]
    simp [settle]
  by_cases hdue : (s.proxies p).readyCounter = 1
  · rw [if_pos (by omega), hcallback]
    have hv : v.Live (v.entries (s.proxies p).callback.entry).m_udpproxy i j := by
      rw [hu.m_udpproxy, hu.live]
      change (s.settle k b p).Live (s.entries _).m_udpproxy i j
      rw [(h.current p i j hlive).2]
      simpa [Live, settle] using hlive
    obtain ⟨report, hans⟩ := runCallback_answers hv (v.proxies p).readyProxy now
    refine .ends report (v.proxies p).readyProxy hk hp hclosed hpending ?_
    rw [due, if_pos ⟨hb, hdue⟩]
    exact (hu.replied report _ _).trans hans
  · rw [if_neg (by omega), Action.final_pure]
    refine .ends noProxy false hk hp hclosed hpending ?_
    rw [due, if_neg (fun hc => hdue hc.2), replied]
    exact hu

theorem alike_settle {b : Bind} (hb : b.counts = true) {f : UdpSocket → UdpSocket} (status : Bool)
    (hf : ∀ x, (f x).parent = x.parent ∧ (f x).isReady = decide (b = .listening) ∧ (f x).bind = b) :
    Alike (s.settle k b p) ((s.setSocket k f).setProxy p fun x =>
      { x with readyProxy := x.readyProxy && status, readyCounter := x.readyCounter + 1 }) :=
  { SameWires.refl (s.settle k b p) with
    sockets := fun j => by
      simp only [setProxy, setSocket, settle, Function.update_apply]
      split
      · exact hf _
      · exact ⟨rfl, rfl, rfl⟩
    proxies := fun q => by
      simp only [setProxy, setSocket, settle, Function.update_apply, hb]
      split
      · exact ⟨rfl, rfl, rfl, rfl⟩
      · exact ⟨rfl, rfl, rfl, rfl⟩
    closings := fun q => by
      simp only [setProxy, setSocket, settle, Function.update_apply]
      split
      · rfl
      · rfl
    proxyBlocked := fun q => by
      simp only [setProxy, setSocket, settle, Function.update_apply]
      split
      · rfl
      · rfl
    entryBlocked := fun _ => rfl }

theorem final_listeningEvent (hp : (s.sockets k).parent = some p) (host port : String) (now : ℕ) :
    (listeningEvent k host port now).final s = (onReady true now (some p)).final
      (s.setSocket k fun w =>
        { w with bind := .listening, port := some (.num port), host, isReady := true }) := by
  have hparent : ((s.setSocket k fun w => { w with
      bind := .listening, port := some (.num port), host, isReady := true }).sockets k).parent =
      some p := by
    simp [setSocket, hp]
  rw [listeningEvent, Action.final_modify_bind, Action.final_get_bind, hparent]

/-- The two writes of the handler are one. -/
theorem final_bindErrorEvent_refused (hp : (s.sockets k).parent = some p) (now : ℕ) :
    (bindErrorEvent k "EADDRINUSE" now).final s = (onReady false now (some p)).final
      (s.setSocket k fun w => { w with bind := .failed "EADDRINUSE", isReady := false }) := by
  have htwice : setSocket k (fun w => { w with isReady := false })
      (setSocket k (fun w => { w with bind := .failed "EADDRINUSE" }) s) =
      setSocket k (fun w => { w with bind := .failed "EADDRINUSE", isReady := false }) s := by
    simp [setSocket]
  have hparent : ((s.setSocket k fun w => { w with
      bind := .failed "EADDRINUSE", isReady := false }).sockets k).parent = some p := by
    simp [setSocket, hp]
  rw [bindErrorEvent, Action.final_modify_bind, if_pos rfl, Action.final_modify_bind,
    Action.final_get_bind, htwice, hparent]

theorem final_bindErrorEvent_other {code : String} (hcode : code ≠ "EADDRINUSE") (now : ℕ) :
    (bindErrorEvent k code now).final s =
      s.setSocket k fun w => { w with bind := .failed code } := by
  rw [bindErrorEvent, Action.final_modify_bind, if_neg hcode, Action.final_pure]

theorem listeningEvent_moved (h : s.Sound) (hk : (s.sockets k).bind = .pending)
    (host port : String) (now : ℕ) :
    Moved s (.ends k .listening) ((listeningEvent k host port now).final s) := by
  obtain ⟨p, -, -, hp, -, -⟩ := h.parent (k := k) (by rw [hk]; decide)
  rw [final_listeningEvent hp]
  exact onReady_ends h hk hp rfl now (alike_settle rfl true fun _ => ⟨rfl, rfl, rfl⟩)

/-- A bind that fails with another code leaves everything waiting. -/
theorem bindErrorEvent_moved (h : s.Sound) (hk : (s.sockets k).bind = .pending) (code : String)
    (now : ℕ) :
    Moved s (.ends k (.failed code)) ((bindErrorEvent k code now).final s) := by
  obtain ⟨p, -, -, hp, -, -⟩ := h.parent (k := k) (by rw [hk]; decide)
  by_cases hcode : code = "EADDRINUSE"
  · subst hcode
    rw [final_bindErrorEvent_refused hp]
    exact onReady_ends h hk hp rfl now (alike_settle rfl false fun _ => ⟨rfl, rfl, rfl⟩)
  · have hcounts : (Bind.failed code).counts = false := by simp [Bind.counts, hcode]
    rw [final_bindErrorEvent_other hcode]
    refine .ends noProxy false hk hp (by simp) (by simp) ?_
    rw [due, hcounts, if_neg (fun hc => absurd hc.1 Bool.false_ne_true), replied]
    have hready : (s.sockets k).isReady = false := by rw [h.ready, hk]; rfl
    exact { SameWires.refl (s.settle k (.failed code) p) with
      sockets := fun j => by
        simp only [setSocket, settle, Function.update_apply]
        split
        · exact ⟨rfl, hready, rfl⟩
        · exact ⟨rfl, rfl, rfl⟩
      proxies := fun q => by
        simp only [setSocket, settle, Function.update_apply, hcounts]
        split
        · next hq => rw [hq]; exact ⟨rfl, rfl, rfl, rfl⟩
        · exact ⟨rfl, rfl, rfl, rfl⟩
      closings := fun q => by
        simp only [setSocket, settle, Function.update_apply]
        split
        · next hq => rw [hq]
        · rfl
      proxyBlocked := fun q => by
        simp only [setSocket, settle, Function.update_apply]
        split
        · next hq => rw [hq]
        · rfl
      entryBlocked := fun _ => rfl }

/-! ### Datagrams -/

/-- What the notes about the sender of a datagram keep, and the passing on of it, its whole event
    keeps. -/
theorem moves_messageEvent {R : UdpProxies → UdpProxies → Prop} [IsPreorder UdpProxies R]
    {message : Bytes} {remote : Remote} {now : ℕ} (k : UdpSocketId)
    (hnote : ∀ s, R s (s.setSocket k fun w =>
      { w with lastAccessTime := now, caller := some remote }))
    (hsent : ∀ j caller s, R s (s.emit (.sent j message caller))) :
    Action.Moves R (messageEvent k message remote now) := by
  have hsend : ∀ j, Action.Moves R (sendMessage message j) := fun j =>
    Action.moves_get_bind fun s => by
      cases (s.sockets j).caller with
      | none => exact refl_of R s
      | some caller => exact hsent j caller s
  have hpass : ∀ other me, Action.Moves R (onSocketReceive other message me) := fun other me =>
    Action.moves_bind (Action.moves_ofExcept _) fun _ =>
      Action.moves_bind Action.moves_get fun _ => Action.moves_ite (fun _ => Action.moves_pure _)
        fun _ => Action.moves_bind (Action.moves_ofExcept _) fun _ => hsend _
  refine Action.moves_bind (Action.moves_modify hnote) fun _ =>
    Action.moves_bind Action.moves_get fun s => ?_
  split
  · exact hpass _ _
  · exact hpass _ _

instance : IsPreorder UdpProxies Alike where
  refl := Alike.refl
  trans := fun _ _ _ h h' => h.trans h'

/-- A datagram passes a proxy that is not blocked; it changes clock readings and peers only. -/
theorem messageEvent_alike (k : UdpSocketId) (message : Bytes) (remote : Remote) (now : ℕ)
    (s : UdpProxies) : Alike s ((messageEvent k message remote now).final s) :=
  moves_messageEvent k
    (fun s => alike_setSocket s (fun _ => rfl) (fun _ => rfl) fun _ => rfl)
    (fun _ _ s => alike_emit s fun _ => rfl) s

/-! ### The reaper -/

section Rounds

variable {R : UdpProxies → UdpProxies → Prop} [IsPreorder UdpProxies R] {now : ℕ}
  {online : String → Bool}

/-- The reaper takes an idle proxy away. -/
def reapIdle (e : EntryId) (name : String) : Action UdpProxies Unit := do
  closeProxy ((← Action.get).entries e).m_udpproxy
  Action.modify fun s => { s with activeUdpProxy := s.activeUdpProxy.delete name }
  Action.modify (emit (.notify name))

theorem final_isReady (p : ProxyId) (s : UdpProxies) : (isReady p).final s = s := by
  have hstay : ∀ r : Except JsError Bool, (Action.ofExcept r).final s = s := fun _ => rfl
  rw [isReady, Action.final_get_bind]
  cases (s.proxies p).socket1 with
  | none => exact hstay _
  | some k =>
    rw [deref_some, Action.final_ok_bind]
    split
    · cases (s.proxies p).socket2 with
      | none => exact hstay _
      | some l => exact hstay (.ok _)
    · rfl

/-- What the two things the reaper can do with a row keep, its look at a name keeps. -/
theorem moves_reap
    (hrecreate : ∀ {s name e} onComplete, s.activeUdpProxy.own? name = some e →
      (Callback.recreated e onComplete).request? = none →
      R s ((recreateProxy e onComplete now).final s))
    (hidle : ∀ {s name e}, s.activeUdpProxy.own? name = some e → R s ((reapIdle e name).final s))
    (name : String) : Action.Moves R (reap now online name) := by
  intro s
  rw [reap, Action.final_get_bind]
  cases hrow : s.activeUdpProxy.own? name with
  | none => exact refl_of R s
  | some e =>
    have hready := final_isReady (s.entries e).m_udpproxy s
    refine Action.moves_bind_at (by rw [hready]; exact refl_of R s) fun ready _ => ?_
    rw [hready]
    split
    · exact hrecreate _ hrow rfl
    · split
      · exact hidle hrow
      · exact refl_of R s

theorem moves_recoverAll
    (hrecreate : ∀ {s name e} onComplete, s.activeUdpProxy.own? name = some e →
      (Callback.recreated e onComplete).request? = none →
      R s ((recreateProxy e onComplete now).final s)) :
    Action.Moves R (recoverAllProxiesAfterResume now) := by
  refine Action.moves_get_bind fun s => Action.moves_forEach _ (fun name _ => ?_) s
  refine Action.moves_get_bind fun s => ?_
  cases hrow : s.activeUdpProxy.own? name with
  | none => exact refl_of R s
  | some e => exact hrecreate _ hrow rfl

/-- A round of the reaper, in addition, reads the clock and may stop the interval. -/
theorem moves_reaperTick
    (hrecreate : ∀ {s name e} onComplete, s.activeUdpProxy.own? name = some e →
      (Callback.recreated e onComplete).request? = none →
      R s ((recreateProxy e onComplete now).final s))
    (hidle : ∀ {s name e}, s.activeUdpProxy.own? name = some e → R s ((reapIdle e name).final s))
    (hclock : ∀ s, R s { s with lastReaperTick := now }) (hstop : ∀ s, R s s.stopReaper) :
    Action.Moves R (reaperTick now online) := by
  refine Action.moves_get_bind fun s => ?_
  refine Action.moves_bind (R := R)
    (Action.moves_when fun _ => moves_recoverAll hrecreate) (fun _ => ?_) s
  refine Action.moves_bind (Action.moves_modify hclock) fun _ => Action.moves_get_bind fun t => ?_
  refine Action.moves_bind (R := R)
    (Action.moves_forEach _ fun name _ => moves_reap hrecreate hidle name) (fun _ => ?_) t
  refine Action.moves_get_bind fun u => ?_
  split
  · exact hstop u
  · exact refl_of R u

end Rounds

/-- The moves of the reaper: it answers no request. -/
def Move.Tends : Move → Prop
  | .quiet => True
  | .drop _ => True
  | .recreate _ none => True
  | _ => False

/-- The reaper's part of a run. -/
def Tended (s s' : UdpProxies) : Prop :=
  s.Sound → Lts.Path Moved (fun _ m => m.Tends) s s' ∧ s'.Sound

instance : IsPreorder UdpProxies Tended where
  refl := fun _ h => ⟨.refl, h⟩
  trans := fun _ _ _ h h' hs => by
    obtain ⟨hpath, ht⟩ := h hs
    obtain ⟨hpath', hu⟩ := h' ht
    exact ⟨hpath.trans hpath', hu⟩

theorem tended_of_moved {m : Move} (hm : Moved s m s') (ht : m.Tends) : Tended s s' :=
  fun hs => ⟨.single ht hm, hs.moved hm⟩

theorem tended_recreateProxy {name : String} {onComplete : Option OnComplete} (now : ℕ)
    (hrow : s.activeUdpProxy.own? name = some e)
    (hnone : (Callback.recreated e onComplete).request? = none) :
    Tended s ((recreateProxy e onComplete now).final s) := by
  intro hs
  obtain ⟨k, l, hlive, -⟩ := hs.rows name e hrow
  obtain ⟨t, ht, hquiet⟩ := recreateProxy_moves hrow hlive onComplete now
  rw [hnone] at ht
  exact trans_of Tended (tended_of_moved ht trivial) (tended_of_moved hquiet trivial) hs

theorem final_reapIdle (name : String) (h : s.Live (s.entries e).m_udpproxy k l) :
    (reapIdle e name).final s = emit (.notify name) { s.shut (s.entries e).m_udpproxy k l with
      activeUdpProxy := s.activeUdpProxy.delete name } := by
  rw [reapIdle, Action.final_get_bind, Action.final_bind_of_ok (run_closeProxy h),
    Action.final_modify_bind, Action.final_modify]
  rfl

theorem tended_reapIdle {name : String} (hrow : s.activeUdpProxy.own? name = some e) :
    Tended s ((reapIdle e name).final s) := by
  intro hs
  obtain ⟨k, l, hlive, -⟩ := hs.rows name e hrow
  rw [final_reapIdle name hlive]
  exact trans_of Tended (tended_of_moved (.drop hrow hlive) trivial)
    (tended_of_moved (.quiet (alike_emit (x := .notify name) _ fun _ => rfl)) trivial) hs

theorem tended_reap (now : ℕ) (online : String → Bool) (name : String) :
    Action.Moves Tended (reap now online name) :=
  moves_reap (fun _ hrow hnone => tended_recreateProxy now hrow hnone) tended_reapIdle name

theorem tended_recoverAll (now : ℕ) :
    Action.Moves Tended (recoverAllProxiesAfterResume now) :=
  moves_recoverAll fun _ hrow hnone => tended_recreateProxy now hrow hnone

theorem tended_alike (h : Alike s s') : Tended s s' := tended_of_moved (.quiet h) trivial

theorem tended_reaperTick (now : ℕ) (online : String → Bool) :
    Action.Moves Tended (reaperTick now online) :=
  moves_reaperTick (fun _ hrow hnone => tended_recreateProxy now hrow hnone) tended_reapIdle
    (fun s => tended_alike { Alike.refl s with }) fun s => tended_alike { Alike.refl s with }

/-! ### Runs -/

theorem Opened.sound {r : RequestId} {name socket1 socket2 : Val} (h : s.Sound)
    (ho : Opened s r name socket1 socket2 s') : s'.Sound := by
  cases ho with
  | thrown _ => exact h
  | fresh _ hm => exact h.moved hm
  | same _ _ _ _ hm hm' => exact (h.moved hm).moved hm'
  | refreshed _ _ _ _ hm hm' => exact (h.moved hm).moved hm'
  | reopened _ _ _ hm hm' => exact (h.moved hm).moved hm'

theorem final_closeUDPSocket (name : Val) (s : UdpProxies) :
    (perform (.closeUDPSocket name)).final s = (closeUDPSocket name).final s :=
  Action.final_bind_pure _ _ s

theorem final_setProxyBlocked (name : String) (blocked : Bool) (s : UdpProxies) :
    (perform (.setProxyBlocked name blocked)).final s = (setProxyBlocked name blocked).final s :=
  Action.final_bind_pure _ _ s

/-- Every operation keeps the wiring. -/
theorem Sound.step {o : Op} (h : s.Sound) (hstep : Step s o s') : s'.Sound := by
  obtain ⟨hen, rfl⟩ := hstep
  cases o with
  | getUDPSocket name socket1 socket2 now =>
    exact (getUDPSocket_opened (h.moved .ask) s.nextRequest name socket1 socket2 now).sound
      (h.moved .ask)
  | closeUDPSocket name =>
    rw [final_closeUDPSocket]
    rcases closeUDPSocket_cases h name with ⟨-, hsame⟩ | ⟨key, e, -, -, hm⟩
    · rw [hsame]; exact h
    · exact h.moved hm
  | setProxyBlocked name blocked =>
    rw [final_setProxyBlocked]
    rcases setProxyBlocked_cases name blocked s with ⟨-, hsame⟩ | hm
    · rw [hsame]; exact h
    · exact h.moved hm
  | reaperTick now online => exact (tended_reaperTick now online s h).2
  | listening k host port now => exact h.moved (listeningEvent_moved h hen host port now)
  | bindError k code now => exact h.moved (bindErrorEvent_moved h hen code now)
  | message k message remote now => exact (messageEvent_alike k message remote now s).sound h
  | error k => exact h

end UdpProxies

end DroneEngage
