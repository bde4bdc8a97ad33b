import DroneEngage.UdpWiring

/-! The ports of a proxy stay the same as long as its unit keeps its entry.

    They stand in the entry, in the sockets and in what the unit was told. A callback writes them to
    the entry when both binds of a proxy have ended, so once both sockets listen the three agree; and
    every later proxy of the entry asks the system for the ports the entry has. -/

namespace DroneEngage
open Js

/-- The text of a port that a bound socket can have: a number from 1 to 65535. -/
def isPort (text : String) : Bool :=
  let digits := text.toList
  digits.all Char.isDigit && digits ≠ [] && digits.head? ≠ some '0' &&
    digits.foldl (fun n d => 10 * n + (d.toNat - '0'.toNat)) 0 < 65536

/-- Has the bind failed because the port is in use? -/
def Bind.refused : Bind → Bool
  | .failed code => code = "EADDRINUSE"
  | _ => false

namespace UdpProxies

variable {s s' : UdpProxies} {p q : ProxyId} {k l : UdpSocketId} {e : EntryId} {q₁ q₂ : String}
  {askedBy : RequestId → Option String}

/-! ### What the operating system grants -/

/-- A bound socket has a port, and the one it asks for if that is a port. -/
def granted (asked : Val) (port : String) : Bool :=
  isPort port && match asked with
    | some (.num q) => !isPort q || port = q
    | _ => true

/-- The promise of the system about a step. -/
def Grants (s : UdpProxies) : Op → Prop
  | .listening k _ port _ => granted (s.sockets k).port port = true
  | _ => True

theorem isPort_of_granted {asked : Val} {port : String} (h : granted asked port = true) :
    isPort port = true := by
  unfold granted at h
  exact (Bool.and_eq_true_iff.mp h).1

theorem granted_num {port : String} (hq : isPort q₁ = true)
    (h : granted (some (.num q₁)) port = true) : port = q₁ := by
  unfold granted at h
  have hsame := (Bool.and_eq_true_iff.mp h).2
  simpa [hq] using hsame

/-- A new proxy of an entry with a port asks for that port. -/
theorem portOrZero_sticky (hq : isPort q₁ = true) (b : Val) :
    Server.portOrZero (stickyPort (some (.num q₁)) b) = some (.num q₁) := by
  have hne : q₁ ≠ "0" := by
    rintro rfl
    exact absurd hq (by decide)
  have htrue : isTruthy (some (.num q₁)) = true := by simp [isTruthy, hne]
  rw [stickyPort, if_pos htrue, Server.portOrZero, if_pos htrue]

/-! ### What is kept -/

/-- Once both sockets of the proxy listen, its entry has their ports. -/
def Noted (s : UdpProxies) (p : ProxyId) : Prop :=
  ∀ k l, s.Live p k l → (s.sockets k).bind = .listening → (s.sockets l).bind = .listening →
    (s.entries (s.proxies p).callback.entry).socket1_port = (s.sockets k).port ∧
    (s.entries (s.proxies p).callback.entry).socket2_port = (s.sockets l).port

/-- A socket that listens has a port, and a proxy knows whether one of its binds was refused. -/
structure Bound (s : UdpProxies) : Prop where
  real : ∀ k, (s.sockets k).bind = .listening →
    ∃ q, (s.sockets k).port = some (.num q) ∧ isPort q = true
  verdict : ∀ p k l, s.Live p k l → (s.proxies p).readyProxy =
    !((s.sockets k).bind.refused || (s.sockets l).bind.refused)

/-- A request that a proxy waits to answer was made under the name of the proxy's entry. -/
structure Owned (askedBy : RequestId → Option String) (s : UdpProxies) : Prop where
  known : ∀ p k l r, s.Live p k l → (s.proxies p).callback.request? = some r → r < s.nextRequest
  owner : ∀ p k l r name, s.Live p k l → (s.proxies p).callback.request? = some r →
    askedBy r = some name → name ≠ "__proto__" →
    s.activeUdpProxy.own? name = some (s.proxies p).callback.entry
  plain : s.activeUdpProxy.own? "__proto__" = none

/-- The ports and the requests of the module are in order. -/
structure Booked (askedBy : RequestId → Option String) (s : UdpProxies) : Prop
    extends Sound s, Bound s, Owned askedBy s where
  noted : ∀ p, s.Noted p

/-- The ports are those of the entry and of the sockets of its proxy. -/
structure Sticks (s : UdpProxies) (e : EntryId) (q₁ q₂ : String) : Prop where
  old : e < s.nextEntry
  entry : (s.entries e).socket1_port = some (.num q₁) ∧ (s.entries e).socket2_port = some (.num q₂)
  sockets : ∀ p k l, s.Live p k l → (s.proxies p).callback.entry = e →
    (s.sockets k).port = some (.num q₁) ∧ (s.sockets l).port = some (.num q₂)

/-- Two states with the same ports. -/
structure SamePorts (s s' : UdpProxies) : Prop where
  sockets : ∀ k, (s'.sockets k).port = (s.sockets k).port
  readyProxy : ∀ p, (s'.proxies p).readyProxy = (s.proxies p).readyProxy
  entries : ∀ e, (s'.entries e).socket1_port = (s.entries e).socket1_port ∧
    (s'.entries e).socket2_port = (s.entries e).socket2_port

theorem SameWires.noted (h : SameWires s s') (hp : SamePorts s s') (hs : s.Noted p) :
    s'.Noted p := by
  intro k l
  rw [h.live, (h.sockets k).2.2, (h.sockets l).2.2, (h.proxies p).1, hp.sockets, hp.sockets,
    (hp.entries _).1, (hp.entries _).2]
  exact hs k l

theorem SameWires.bound (h : SameWires s s') (hp : SamePorts s s') (hs : s.Bound) : s'.Bound where
  real := fun k => by
    rw [(h.sockets k).2.2, hp.sockets]
    exact hs.real k
  verdict := fun p k l => by
    rw [h.live, hp.readyProxy, (h.sockets k).2.2, (h.sockets l).2.2]
    exact hs.verdict p k l

theorem SameWires.owned (h : SameWires s s') (hs : Owned askedBy s) : Owned askedBy s' where
  known := fun p k l r => by
    rw [h.live, (h.proxies p).1, h.nextRequest]
    exact hs.known p k l r
  owner := fun p k l r name => by
    rw [h.live, (h.proxies p).1, h.activeUdpProxy]
    exact hs.owner p k l r name
  plain := by rw [h.activeUdpProxy]; exact hs.plain

theorem SameWires.booked (h : SameWires s s') (hp : SamePorts s s') (hs : s.Booked askedBy) :
    s'.Booked askedBy where
  toSound := h.sound hs.toSound
  toBound := h.bound hp hs.toBound
  toOwned := h.owned hs.toOwned
  noted := fun p => h.noted hp (hs.noted p)

theorem SameWires.sticks (h : SameWires s s') (hp : SamePorts s s') (hs : s.Sticks e q₁ q₂) :
    s'.Sticks e q₁ q₂ where
  old := by rw [h.nextEntry]; exact hs.old
  entry := by rw [(hp.entries e).1, (hp.entries e).2]; exact hs.entry
  sockets := fun p k l => by
    rw [h.live, (h.proxies p).1, hp.sockets, hp.sockets]
    exact hs.sockets p k l

/-! ### Proxies are closed, built and replaced -/

/-- Two open proxies have different sockets. -/
theorem Wired.sockets_ne (h : s.Wired) (hp : s.Live p k l) {i j : UdpSocketId} (hq : s.Live q i j)
    (hne : q ≠ p) : (i ≠ k ∧ i ≠ l) ∧ (j ≠ k ∧ j ≠ l) := by
  have hk := (h.owns p k (Or.inl hp.1)).1
  have hl := (h.owns p l (Or.inr hp.2)).1
  have hi := (h.owns q i (Or.inl hq.1)).1
  have hj := (h.owns q j (Or.inr hq.2)).1
  grind

/-- The sockets of an open proxy were made before. -/
theorem Wired.sockets_lt (h : s.Wired) (hp : s.Live p k l) :
    k < s.nextSocket ∧ l < s.nextSocket := by
  have hold : ∀ i, (s.sockets i).bind ≠ .closed → i < s.nextSocket := fun i hi =>
    Nat.lt_of_not_le fun hle => hi (h.freshSocket i hle)
  exact ⟨hold k (h.owns p k (Or.inl hp.1)).2, hold l (h.owns p l (Or.inr hp.2)).2⟩

theorem shut_socket {j : UdpSocketId} (hk : j ≠ k) (hl : j ≠ l) :
    (s.shut p k l).sockets j = s.sockets j := by
  simp [shut, hk, hl]

theorem shut_proxy (hq : q ≠ p) : (s.shut p k l).proxies q = s.proxies q := by
  simp [shut, hq]

theorem Bound.shut (h : s.Bound) (hw : s.Wired) (hp : s.Live p k l) : (s.shut p k l).Bound where
  real := fun j hj => by
    by_cases hkl : j = k ∨ j = l
    · simp [UdpProxies.shut, hkl] at hj
    · rw [not_or] at hkl
      rw [shut_socket hkl.1 hkl.2] at hj ⊢
      exact h.real j hj
  verdict := fun q i j hq => by
    have hne := shut_live_ne hq
    have hold := (shut_live hne).mp hq
    obtain ⟨hi, hj⟩ := hw.sockets_ne hp hold hne
    rw [shut_proxy hne, shut_socket hi.1 hi.2, shut_socket hj.1 hj.2]
    exact h.verdict q i j hold

theorem Noted.shut (h : s.Noted q) (hw : s.Wired) (hp : s.Live p k l) : (s.shut p k l).Noted q := by
  intro i j hq
  have hne := shut_live_ne hq
  have hold := (shut_live hne).mp hq
  obtain ⟨hi, hj⟩ := hw.sockets_ne hp hold hne
  rw [shut_proxy hne, shut_socket hi.1 hi.2, shut_socket hj.1 hj.2]
  exact h i j hold

theorem Sticks.shut (h : s.Sticks e q₁ q₂) (hw : s.Wired) (hp : s.Live p k l) :
    (s.shut p k l).Sticks e q₁ q₂ where
  old := h.old
  entry := h.entry
  sockets := fun q i j hq => by
    have hne := shut_live_ne hq
    have hold := (shut_live hne).mp hq
    obtain ⟨hi, hj⟩ := hw.sockets_ne hp hold hne
    rw [shut_proxy hne, shut_socket hi.1 hi.2, shut_socket hj.1 hj.2]
    exact h.sockets q i j hold

section Install

variable {port1 port2 : Val} {c : Callback} {blocked : Bool}

theorem install_socket {j : UdpSocketId} (hj : j < s.nextSocket) :
    (s.install e port1 port2 c blocked).sockets j = s.sockets j := by
  have hne : j ≠ s.nextSocket := Nat.ne_of_lt hj
  have hne' : j ≠ s.nextSocket + 1 := Nat.ne_of_lt (Nat.lt_succ_of_lt hj)
  simp [install, hne, hne']

theorem install_proxy (hq : q ≠ s.nextProxy) :
    (s.install e port1 port2 c blocked).proxies q = s.proxies q := by
  simp [install, hq]

theorem install_ports (e' : EntryId) :
    ((s.install e port1 port2 c blocked).entries e').socket1_port = (s.entries e').socket1_port ∧
    ((s.install e port1 port2 c blocked).entries e').socket2_port = (s.entries e').socket2_port := by
  simp only [install, Function.update_apply]
  split
  · next he => rw [he]; exact ⟨rfl, rfl⟩
  · exact ⟨rfl, rfl⟩

/-- An open proxy after a new one was built: the new one, or one that was open before. -/
theorem install_live_cases {i j : UdpSocketId}
    (h : (s.install e port1 port2 c blocked).Live q i j) :
    (q = s.nextProxy ∧ i = s.nextSocket ∧ j = s.nextSocket + 1) ∨
      (q ≠ s.nextProxy ∧ s.Live q i j) := by
  by_cases hq : q = s.nextProxy
  · subst hq
    simp only [Live, install, Function.update_self, Option.some.injEq] at h
    exact Or.inl ⟨rfl, h.1.symm, h.2.symm⟩
  · exact Or.inr ⟨hq, (install_live hq).mp h⟩

theorem Bound.install (h : s.Bound) (hw : s.Wired) :
    (s.install e port1 port2 c blocked).Bound where
  real := fun j hj => by
    by_cases hlt : j < s.nextSocket
    · rw [install_socket hlt] at hj ⊢
      exact h.real j hj
    · have hclosed := hw.freshSocket j (Nat.not_lt.mp hlt)
      simp only [UdpProxies.install] at hj
      grind
  verdict := fun q i j hq => by
    rcases install_live_cases hq with ⟨rfl, rfl, rfl⟩ | ⟨hne, hold⟩
    · simp [UdpProxies.install, Bind.refused]
    · obtain ⟨hi, hj⟩ := hw.sockets_lt hold
      rw [install_proxy hne, install_socket hi, install_socket hj]
      exact h.verdict q i j hold

theorem Noted.install (h : s.Noted q) (hw : s.Wired) :
    (s.install e port1 port2 c blocked).Noted q := by
  intro i j hq hi' hj'
  rcases install_live_cases hq with ⟨rfl, rfl, rfl⟩ | ⟨hne, hold⟩
  · simp [UdpProxies.install] at hi'
  · obtain ⟨hi, hj⟩ := hw.sockets_lt hold
    rw [install_socket hi] at hi'
    rw [install_socket hj] at hj'
    rw [install_proxy hne, install_socket hi, install_socket hj, (install_ports _).1,
      (install_ports _).2]
    exact h i j hold hi' hj'

theorem Sticks.install (h : s.Sticks e q₁ q₂) (hw : s.Wired) {e' : EntryId}
    (hports : c.entry = e → Server.portOrZero port1 = some (.num q₁) ∧
      Server.portOrZero port2 = some (.num q₂)) :
    (s.install e' port1 port2 c blocked).Sticks e q₁ q₂ where
  old := h.old
  entry := by rw [(install_ports e).1, (install_ports e).2]; exact h.entry
  sockets := fun q i j hq hentry => by
    rcases install_live_cases hq with ⟨rfl, rfl, rfl⟩ | ⟨hne, hold⟩
    · have hc : c.entry = e := by simpa [UdpProxies.install] using hentry
      simpa [UdpProxies.install] using hports hc
    · obtain ⟨hi, hj⟩ := hw.sockets_lt hold
      rw [install_proxy hne] at hentry
      rw [install_socket hi, install_socket hj]
      exact h.sockets q i j hold hentry

/-- The request a new proxy waits to answer was made under the name of its entry. -/
theorem Owned.install (h : Owned askedBy s)
    (hnew : ∀ r, c.request? = some r → r < s.nextRequest ∧ ∀ name, askedBy r = some name →
      name ≠ "__proto__" → s.activeUdpProxy.own? name = some c.entry) :
    Owned askedBy (s.install e port1 port2 c blocked) where
  known := fun q i j r hq hr => by
    rcases install_live_cases hq with ⟨rfl, -, -⟩ | ⟨hne, hold⟩
    · exact (hnew r (by simpa [UdpProxies.install] using hr)).1
    · rw [install_proxy hne] at hr
      exact h.known q i j r hold hr
  owner := fun q i j r name hq hr hname hproto => by
    rcases install_live_cases hq with ⟨rfl, -, -⟩ | ⟨hne, hold⟩
    · have hrow := (hnew r (by simpa [UdpProxies.install] using hr)).2 name hname hproto
      simpa [UdpProxies.install] using hrow
    · rw [install_proxy hne] at hr ⊢
      exact h.owner q i j r name hold hr hname hproto
  plain := h.plain

end Install

theorem Owned.shut (h : Owned askedBy s) : Owned askedBy (s.shut p k l) where
  known := fun q i j r hq hr => by
    have hne := shut_live_ne hq
    rw [shut_proxy hne] at hr
    exact h.known q i j r ((shut_live hne).mp hq) hr
  owner := fun q i j r name hq hr hname hproto => by
    have hne := shut_live_ne hq
    rw [shut_proxy hne] at hr ⊢
    exact h.owner q i j r name ((shut_live hne).mp hq) hr hname hproto
  plain := h.plain

/-- With the row of a name goes the proxy that has requests of that name to answer. -/
theorem Owned.drop {name : String} (h : Owned askedBy s) (hw : s.Wired)
    (hrow : s.activeUdpProxy.own? name = some e) :
    Owned askedBy { s.shut (s.entries e).m_udpproxy k l with
      activeUdpProxy := s.activeUdpProxy.delete name } where
  known := (h.shut (p := (s.entries e).m_udpproxy) (k := k) (l := l)).known
  owner := fun q i j r name' hq hr hname hproto => by
    change (s.shut (s.entries e).m_udpproxy k l).Live q i j at hq
    have hkept := (h.shut (p := (s.entries e).m_udpproxy) (k := k) (l := l)).owner q i j r name'
      hq hr hname hproto
    have hne : name' ≠ name := by
      rintro rfl
      exact hw.vacant_shut hq (Option.some.inj (hkept.symm.trans hrow))
    change (s.activeUdpProxy.delete name).own? name' = _
    rw [Table.own?_delete, if_neg hne]
    exact hkept
  plain := by
    change (s.activeUdpProxy.delete name).own? _ = none
    rw [Table.own?_delete, h.plain, ite_self]

theorem own?_assign_of_own? {name name' : String} {e' : EntryId}
    (hrow : s.activeUdpProxy.own? name = none) (h : s.activeUdpProxy.own? name' = some e') :
    (s.activeUdpProxy.assign objectPrototype name e).own? name' = some e' := by
  have hne : name' ≠ name := by
    rintro rfl
    exact absurd (hrow.symm.trans h) (by simp)
  rw [Table.assign]
  split
  · exact h
  · rw [Table.own?_insert, if_neg hne, h]

theorem own?_assign_proto {name : String} (h : s.activeUdpProxy.own? "__proto__" = none) :
    (s.activeUdpProxy.assign objectPrototype name e).own? "__proto__" = none := by
  rw [Table.assign]
  split
  · exact h
  · next hname =>
    have hne : "__proto__" ≠ name := by
      rintro rfl
      exact hname ⟨rfl, by decide⟩
    rw [Table.own?_insert, if_neg hne, h]

/-- Nobody is told of a proxy, the ports stay in order, and what sticks keeps sticking. -/
structure Firm (askedBy : RequestId → Option String) (s s' : UdpProxies) : Prop where
  booked : s.Booked askedBy → s'.Booked askedBy
  sticks : s.Booked askedBy → ∀ e q₁ q₂, isPort q₁ = true → isPort q₂ = true →
    s.Sticks e q₁ q₂ → s'.Sticks e q₁ q₂
  log : s.Booked askedBy → ∃ new, s'.log = s.log ++ new ∧ ∀ r report, .reply r report true ∉ new

instance : IsPreorder UdpProxies (Firm askedBy) where
  refl := fun _ => ⟨id, fun _ _ _ _ _ _ h => h, fun _ => ⟨[], by simp, by simp⟩⟩
  trans := fun _ _ _ h h' => by
    refine ⟨fun hs => h'.booked (h.booked hs), ?_, fun hs => ?_⟩
    · intro hs e q₁ q₂ hq₁ hq₂ hsticks
      exact h'.sticks (h.booked hs) e q₁ q₂ hq₁ hq₂ (h.sticks hs e q₁ q₂ hq₁ hq₂ hsticks)
    obtain ⟨new, hnew, hnone⟩ := h.log hs
    obtain ⟨new', hnew', hnone'⟩ := h'.log (h.booked hs)
    refine ⟨new ++ new', ?_, ?_⟩
    · rw [hnew', hnew, List.append_assoc]
    · intro r report hmem
      rcases List.mem_append.mp hmem with hmem | hmem
      · exact hnone r report hmem
      · exact hnone' r report hmem

theorem firm_same (h : SameWires s s') (hp : SamePorts s s')
    (hlog : ∃ new, s'.log = s.log ++ new ∧ ∀ r report, .reply r report true ∉ new) :
    Firm askedBy s s' :=
  ⟨fun hs => h.booked hp hs, fun _ _ _ _ _ _ hsticks => h.sticks hp hsticks, fun _ => hlog⟩

theorem firm_of_booked (h : s.Booked askedBy → Firm askedBy s s') : Firm askedBy s s' :=
  ⟨fun hs => (h hs).booked hs, fun hs => (h hs).sticks hs, fun hs => (h hs).log hs⟩

theorem Booked.drop {name : String} (h : s.Booked askedBy)
    (hrow : s.activeUdpProxy.own? name = some e) (hlive : s.Live (s.entries e).m_udpproxy k l) :
    Booked askedBy { s.shut (s.entries e).m_udpproxy k l with
      activeUdpProxy := s.activeUdpProxy.delete name } where
  toSound := h.toSound.drop hrow hlive
  toBound := { h.toBound.shut h.toWired hlive with }
  toOwned := h.toOwned.drop h.toWired hrow
  noted := fun p => (h.noted p).shut h.toWired hlive

theorem firm_drop {name : String} (hrow : s.activeUdpProxy.own? name = some e)
    (hlive : s.Live (s.entries e).m_udpproxy k l) :
    Firm askedBy s { s.shut (s.entries e).m_udpproxy k l with
      activeUdpProxy := s.activeUdpProxy.delete name } where
  booked := fun hs => hs.drop hrow hlive
  sticks := fun hs _ _ _ _ _ h => { h.shut hs.toWired hlive with }
  log := fun _ => ⟨[], by simp [shut], by simp⟩

/-- The new proxy asks for the ports of the entry. -/
theorem firm_replace {name : String} (hrow : s.activeUdpProxy.own? name = some e)
    (hlive : s.Live (s.entries e).m_udpproxy k l) {onComplete : Option OnComplete}
    (hnew : ∀ r, (Callback.recreated e onComplete).request? = some r → r < s.nextRequest ∧
      ∀ name', askedBy r = some name' → name' ≠ "__proto__" →
        s.activeUdpProxy.own? name' = some e) :
    Firm askedBy s (s.replace e k l onComplete) where
  booked := fun hs =>
    have hw := hs.toWired.shut hlive
    { toSound := hs.toSound.replace hrow hlive onComplete
      toBound := (hs.toBound.shut hs.toWired hlive).install hw
      toOwned := (Owned.shut hs.toOwned).install hnew
      noted := fun p => ((hs.noted p).shut hs.toWired hlive).install hw }
  sticks := fun hs e' q₁ q₂ hq₁ hq₂ h => by
    refine (h.shut hs.toWired hlive).install (hs.toWired.shut hlive) fun he => ?_
    obtain rfl : e = e' := he
    rw [h.entry.1, h.entry.2]
    exact ⟨portOrZero_sticky hq₁ _, portOrZero_sticky hq₂ _⟩
  log := fun _ => ⟨[], by simp [replace, install, shut], by simp⟩

/-- A new entry leaves the other entries and their proxies alone. -/
theorem firm_create {name : String} (hrow : s.activeUdpProxy.own? name = none)
    {r : RequestId} (hr : r < s.nextRequest) (hname : askedBy r = some name) (port1 port2 : Val)
    (now : ℕ) : Firm askedBy s (install s.nextEntry port1 port2 (.opened s.nextEntry r) false
      (newEntry name port1 port2 now s)) where
  booked := fun hs => by
    have hw := hs.toWired.newEntry name port1 port2 now
    have howned : Owned askedBy (newEntry name port1 port2 now s) :=
      { known := hs.known
        owner := fun q i j r' name' hq hr' hn hproto =>
          own?_assign_of_own? hrow (hs.owner q i j r' name' hq hr' hn hproto)
        plain := own?_assign_proto hs.plain }
    have hnoted : ∀ p, (newEntry name port1 port2 now s).Noted p := by
      intro p i j hlive
      have hlt := Nat.ne_of_lt (hs.current p i j hlive).1
      simpa [newEntry, hlt] using hs.noted p i j hlive
    exact {
      toSound := hs.toSound.create name port1 port2 r now hrow
      toBound := Bound.install (s := newEntry name port1 port2 now s) { hs.toBound with } hw
      toOwned := howned.install fun r' hr' => by
        obtain rfl : r = r' := Option.some.inj hr'
        refine ⟨hr, fun name' hn hproto => ?_⟩
        obtain rfl : name = name' := Option.some.inj (hname.symm.trans hn)
        have hassign : s.activeUdpProxy.assign objectPrototype name s.nextEntry =
            s.activeUdpProxy.insert name s.nextEntry :=
          Table.assign_of_assignable (fun h => hproto h.1) _ _
        change (s.activeUdpProxy.assign objectPrototype name s.nextEntry).own? name = _
        rw [hassign, Table.own?_insert, if_pos rfl]
        rfl
      noted := fun p => (hnoted p).install hw }
  sticks := fun hs e q₁ q₂ hq₁ hq₂ h => by
    have hne := Nat.ne_of_lt h.old
    have hkept : (newEntry name port1 port2 now s).Sticks e q₁ q₂ :=
      { old := Nat.lt_succ_of_lt h.old
        entry := by simpa [newEntry, hne] using h.entry
        sockets := h.sockets }
    exact hkept.install (hs.toWired.newEntry name port1 port2 now) fun he =>
      absurd he (Ne.symm hne)
  log := fun _ => ⟨[], by simp [install, newEntry], by simp⟩

/-! ### Requests, blocks and the reaper -/

theorem samePorts_setEntry {f : ProxyEntry → ProxyEntry}
    (h : ∀ x, (f x).socket1_port = x.socket1_port ∧ (f x).socket2_port = x.socket2_port) :
    SamePorts s (s.setEntry e f) where
  sockets := fun _ => rfl
  readyProxy := fun _ => rfl
  entries := fun e' => by
    simp only [setEntry, Function.update_apply]
    split
    · next he => rw [he]; exact h _
    · exact ⟨rfl, rfl⟩

theorem SamePorts.refl (s : UdpProxies) : SamePorts s s :=
  ⟨fun _ => rfl, fun _ => rfl, fun _ => ⟨rfl, rfl⟩⟩

theorem firm_access (now : ℕ) (s : UdpProxies) :
    Firm askedBy s (s.setEntry e fun x => { x with last_access := now }) :=
  let f (x : ProxyEntry) : ProxyEntry := { x with last_access := now }
  firm_same (alike_setEntry (f := f) s (fun _ => rfl) fun _ => rfl).toSameWires
    (samePorts_setEntry (f := f) fun _ => ⟨rfl, rfl⟩) ⟨[], by simp [setEntry], by simp⟩

theorem firm_emit {x : UdpEffect} (hx : ∀ r report en, x ≠ .reply r report en) (s : UdpProxies) :
    Firm askedBy s (s.emit x) := by
  have hsame : ∀ r, isReply r x = false := by
    intro r
    cases x with
    | reply r' report en => exact absurd rfl (hx r' report en)
    | notify name => rfl
    | sent k message caller => rfl
  refine firm_same (alike_emit s hsame).toSameWires { SamePorts.refl s with } ⟨[x], rfl, ?_⟩
  intro r report hmem
  exact hx r report true (List.mem_singleton.mp hmem).symm

theorem firm_recreateProxy {name : String} {onComplete : Option OnComplete} (now : ℕ)
    (hrow : s.activeUdpProxy.own? name = some e)
    (hnew : ∀ r, (Callback.recreated e onComplete).request? = some r → r < s.nextRequest ∧
      ∀ name', askedBy r = some name' → name' ≠ "__proto__" →
        s.activeUdpProxy.own? name' = some e) :
    Firm askedBy s ((recreateProxy e onComplete now).final s) := by
  refine firm_of_booked fun hs => ?_
  obtain ⟨k, l, hlive, -⟩ := hs.rows name e hrow
  rw [Action.final, run_recreateProxy onComplete now hlive]
  exact trans_of (Firm askedBy) (firm_replace hrow hlive hnew) (firm_access now _)

theorem firm_reaperTick (now : ℕ) (online : String → Bool) :
    Action.Moves (Firm askedBy) (reaperTick now online) := by
  refine moves_reaperTick (fun onComplete hrow hnone => ?_) (fun {s name e} hrow => ?_)
    (fun s => ?_) fun s => ?_
  · exact firm_recreateProxy now hrow fun r hr => absurd (hnone.symm.trans hr) (by simp)
  · refine firm_of_booked fun hs => ?_
    obtain ⟨k, l, hlive, -⟩ := hs.rows name e hrow
    rw [final_reapIdle name hlive]
    exact trans_of (Firm askedBy) (firm_drop hrow hlive) (firm_emit (by simp) _)
  · exact firm_same { SameWires.refl s with } { SamePorts.refl s with } ⟨[], by simp, by simp⟩
  · exact firm_same { SameWires.refl s with } { SamePorts.refl s with }
      ⟨[], by simp [stopReaper], by simp⟩

theorem firm_messageEvent (k : UdpSocketId) (message : Bytes) (remote : Remote) (now : ℕ) :
    Action.Moves (Firm askedBy) (messageEvent k message remote now) := by
  refine moves_messageEvent k (fun s => ?_) fun _ _ s => firm_emit (by simp) s
  have hnote : Alike s (s.setSocket k fun w =>
      { w with lastAccessTime := now, caller := some remote }) :=
    alike_setSocket s (fun _ => rfl) (fun _ => rfl) fun _ => rfl
  refine firm_same hnote.toSameWires { SamePorts.refl s with sockets := fun j => ?_ }
    ⟨[], by simp [setSocket], by simp⟩
  simp only [setSocket, Function.update_apply]
  split
  · next hj => rw [hj]
  · rfl

theorem firm_closeUDPSocket (name : Val) (s : UdpProxies) :
    Firm askedBy s ((closeUDPSocket name).final s) := by
  refine firm_of_booked fun hs => ?_
  rcases closeUDPSocket_cases hs.toSound name with ⟨-, hsame⟩ | ⟨key, e, -, -, hm⟩
  · rw [hsame]; exact refl_of _ s
  · generalize (closeUDPSocket name).final s = t at hm
    cases hm with
    | drop hrow hlive => exact firm_drop hrow hlive

theorem firm_setProxyBlocked (name : String) (blocked : Bool) (s : UdpProxies) :
    Firm askedBy s ((setProxyBlocked name blocked).final s) := by
  rcases setProxyBlocked_cases name blocked s with ⟨-, hsame⟩ | hm
  · rw [hsame]; exact refl_of _ s
  · generalize (setProxyBlocked name blocked).final s = t at hm
    cases hm with
    | @block _ e _ hrow =>
      have hentries := samePorts_setEntry (s := s) (e := e)
        (f := fun x => { x with blocked }) fun _ => ⟨rfl, rfl⟩
      refine firm_same (sameWires_block e blocked s) { hentries with readyProxy := fun p => ?_ }
        ⟨[], by simp [setProxy, setEntry], by simp⟩
      simp only [setProxy, setEntry, Function.update_apply]
      split
      · next hp => rw [hp]
      · rfl

/-! ### Answers -/

/-- Who is told of a proxy in this step is told the ports on which both sockets of the proxy of its
    entry listen, and the rows are as before. -/
def Reports (askedBy : RequestId → Option String) (s s' : UdpProxies) : Prop :=
  ∃ new, s'.log = s.log ++ new ∧ ∀ r report, .reply r report true ∈ new →
    s'.activeUdpProxy = s.activeUdpProxy ∧ ∃ p k l, s'.Live p k l ∧
      (s'.sockets k).bind = .listening ∧ (s'.sockets l).bind = .listening ∧
      report.socket1.port = (s'.sockets k).port ∧ report.socket2.port = (s'.sockets l).port ∧
      ∀ name, askedBy r = some name → name ≠ "__proto__" →
        s'.activeUdpProxy.own? name = some (s'.proxies p).callback.entry

/-- What a step does to the ports, and what it tells. -/
structure Truthful (askedBy : RequestId → Option String) (s s' : UdpProxies) : Prop where
  booked : s'.Booked askedBy
  sticks : ∀ e q₁ q₂, isPort q₁ = true → isPort q₂ = true → s.Sticks e q₁ q₂ → s'.Sticks e q₁ q₂
  reports : Reports askedBy s s'

theorem Firm.truthful (h : Firm askedBy s s') (hs : s.Booked askedBy) : Truthful askedBy s s' where
  booked := h.booked hs
  sticks := h.sticks hs
  reports := by
    obtain ⟨new, hnew, hnone⟩ := h.log hs
    exact ⟨new, hnew, fun r report hmem => absurd hmem (hnone r report)⟩

/-- The bookkeeping of the module next to its objects does not matter. -/
theorem Booked.books (h : s.Booked askedBy) (i : Bool) (n : ℕ) (new : List UdpEffect) :
    Booked askedBy { s with reaperInterval := i, lastReaperTick := n, log := new } :=
  { h with }

/-- A request is answered at once, waits for a new proxy, or fails. -/
theorem getUDPSocket_truthful (hs : s.Booked askedBy) {r : RequestId} (name : Val)
    (hr : r < s.nextRequest) (hasked : askedBy r = (propKey name).toOption)
    (socket1 socket2 : Val) (now : ℕ) :
    Truthful askedBy s ((getUDPSocket name socket1 socket2 r now).final s) := by
  rw [getUDPSocket, Action.final_get_bind]
  cases hlook : s.lookupRequest name socket1 socket2 with
  | error x => exact Firm.truthful (refl_of (Firm askedBy) s) hs
  | ok found =>
    obtain ⟨entry, key, port1, port2⟩ := found
    obtain ⟨hrow, hk, hown⟩ := lookupRequest_eq_ok hlook
    have hkey : askedBy r = some key := by rw [hasked, hk]; rfl
    have hnew : ∀ {t : UdpProxies}, t.activeUdpProxy.own? key = none → t.nextRequest = s.nextRequest →
        Firm askedBy t ((openUDPSocket key port1 port2 r now).final t) := by
      intro t ht hnext
      rw [Action.final, run_openUDPSocket]
      exact firm_create ht (hnext ▸ hr) hkey port1 port2 now
    rw [Action.final_ok_bind]
    cases entry with
    | none => exact (hnew hrow rfl).truthful hs
    | some e =>
      obtain ⟨k, l, hlive, hcurrent⟩ := hs.rows key e hrow
      change Truthful askedBy s (Action.final (getConfig _ >>= _) s)
      rw [Action.final_bind_of_ok (run_getConfig hlive)]
      split
      · rw [Action.final_bind_of_ok (run_isReady hlive)]
        cases hready : (s.sockets k).isReady && (s.sockets l).isReady with
        | false =>
          refine Firm.truthful (firm_recreateProxy now hrow fun r' hr' => ?_) hs
          obtain rfl : r = r' := Option.some.inj hr'
          refine ⟨hr, fun name' hn _ => ?_⟩
          obtain rfl : key = name' := Option.some.inj (hkey.symm.trans hn)
          exact hrow
        | true =>
          have haccess : Firm askedBy s (s.setEntry e fun x => { x with last_access := now }) :=
            firm_access now s
          have hlisten : ∀ j, (s.sockets j).isReady = true → (s.sockets j).bind = .listening := by
            intro j hj
            rw [hs.ready] at hj
            exact of_decide_eq_true hj
          rw [Bool.and_eq_true] at hready
          refine ⟨(haccess.booked hs).books _ _ _, fun e' q₁ q₂ hq₁ hq₂ h =>
            { haccess.sticks hs e' q₁ q₂ hq₁ hq₂ h with }, [_], rfl, fun r' report hmem => ?_⟩
          obtain ⟨rfl, rfl, -⟩ : r' = r ∧ report = ⟨s.socketConfig k, s.socketConfig l⟩ ∧ True := by
            simpa using hmem
          refine ⟨rfl, (s.entries e).m_udpproxy, k, l, hlive, hlisten k hready.1,
            hlisten l hready.2, rfl, rfl, fun name' hn _ => ?_⟩
          obtain rfl : key = name' := Option.some.inj (hkey.symm.trans hn)
          change s.activeUdpProxy.own? key = some (s.proxies (s.entries e).m_udpproxy).callback.entry
          rw [hrow, hcurrent]
      · have hclose := run_closeUDPSocket hk hown hrow hlive
        rw [Action.final_bind_of_ok hclose]
        exact (trans_of (Firm askedBy) (firm_drop hrow hlive)
          (hnew (Table.own?_delete_self _ _) rfl)).truthful hs

/-! ### The end of a bind -/

/-- The bind of a socket has ended, and its proxy knows; no callback has run. -/
structure Ended (s : UdpProxies) (k : UdpSocketId) (b : Bind) (u : UdpProxies) : Prop where
  sockets : ∀ j, j ≠ k → u.sockets j = s.sockets j
  bind : (u.sockets k).bind = b
  real : b = .listening → ∃ q, (u.sockets k).port = some (.num q) ∧ isPort q = true
  keeps : ∀ q, isPort q = true → (s.sockets k).port = some (.num q) →
    (u.sockets k).port = some (.num q)
  live : ∀ p i j, u.Live p i j ↔ s.Live p i j
  callback : ∀ p, (u.proxies p).callback = (s.proxies p).callback
  verdict : ∀ p i j, s.Live p i j → (u.proxies p).readyProxy =
    ((s.proxies p).readyProxy && !((i = k || j = k) && b.refused))
  entries : u.entries = s.entries
  activeUdpProxy : u.activeUdpProxy = s.activeUdpProxy
  nextEntry : u.nextEntry = s.nextEntry
  nextRequest : u.nextRequest = s.nextRequest
  log : u.log = s.log

section Ended

variable {b : Bind} {u : UdpProxies}

theorem Ended.bound (h : s.Ended k b u) (hk : (s.sockets k).bind = .pending) (hs : s.Sound)
    (hb : s.Bound) : u.Bound where
  real := fun j hj => by
    by_cases hjk : j = k
    · subst hjk
      exact h.real (h.bind.symm.trans hj)
    · rw [h.sockets j hjk] at hj ⊢
      exact hb.real j hj
  verdict := fun p i j hp => by
    have hold := (h.live p i j).mp hp
    have hne : i ≠ j := fun heq => hs.apart p i hold.1 (heq ▸ hold.2)
    rw [h.verdict p i j hold, hb.verdict p i j hold]
    have hpending : (s.sockets k).bind.refused = false := by rw [hk]; rfl
    by_cases hi : i = k
    · subst hi
      rw [h.bind, h.sockets j hne.symm, hpending]
      simp [Bool.and_comm]
    · by_cases hj : j = k
      · subst hj
        rw [h.bind, h.sockets i hne, hpending]
        simp
      · rw [h.sockets i hi, h.sockets j hj]
        simp [hi, hj]

theorem Ended.owned (h : s.Ended k b u) (hs : Owned askedBy s) : Owned askedBy u where
  known := fun p i j r => by
    rw [h.live, h.callback, h.nextRequest]
    exact hs.known p i j r
  owner := fun p i j r name => by
    rw [h.live, h.callback, h.activeUdpProxy]
    exact hs.owner p i j r name
  plain := by rw [h.activeUdpProxy]; exact hs.plain

theorem Ended.sticks (h : s.Ended k b u) (hq₁ : isPort q₁ = true) (hq₂ : isPort q₂ = true)
    (hs : s.Sticks e q₁ q₂) : u.Sticks e q₁ q₂ where
  old := by rw [h.nextEntry]; exact hs.old
  entry := by rw [h.entries]; exact hs.entry
  sockets := fun p i j hp he => by
    rw [h.callback] at he
    obtain ⟨hi, hj⟩ := hs.sockets p i j ((h.live p i j).mp hp) he
    have hkeep : ∀ {m q}, isPort q = true → (s.sockets m).port = some (.num q) →
        (u.sockets m).port = some (.num q) := by
      intro m q hq hm
      by_cases hmk : m = k
      · subst hmk; exact h.keeps q hq hm
      · rw [h.sockets m hmk]; exact hm
    exact ⟨hkeep hq₁ hi, hkeep hq₂ hj⟩

/-- A proxy that does not have the socket is as before. -/
theorem Ended.noted (h : s.Ended k b u) (hs : s.Sound) (hp : (s.sockets k).parent = some p)
    (hq : q ≠ p) (hn : s.Noted q) : u.Noted q := by
  intro i j hlive hi hj
  have hold := (h.live q i j).mp hlive
  have hik : i ≠ k := by
    rintro rfl
    exact hq (Option.some.inj ((hs.owns q i (Or.inl hold.1)).1.symm.trans hp))
  have hjk : j ≠ k := by
    rintro rfl
    exact hq (Option.some.inj ((hs.owns q j (Or.inr hold.2)).1.symm.trans hp))
  rw [h.sockets i hik] at hi ⊢
  rw [h.sockets j hjk] at hj ⊢
  rw [h.callback, h.entries]
  exact hn i j hold hi hj

/-- What is true of the state before the callback is true of the state before the event. -/
theorem Ended.truthful (h : s.Ended k b u) (ht : Truthful askedBy u s') :
    Truthful askedBy s s' where
  booked := ht.booked
  sticks := fun e q₁ q₂ hq₁ hq₂ hs => ht.sticks e q₁ q₂ hq₁ hq₂ (h.sticks hq₁ hq₂ hs)
  reports := by
    obtain ⟨new, hnew, hall⟩ := ht.reports
    rw [h.log] at hnew
    rw [h.activeUdpProxy] at hall
    exact ⟨new, hnew, hall⟩

end Ended

/-! ### Callbacks -/

theorem Sticks.writeBack {e' : EntryId} (h : s.Sticks e q₁ q₂) (hp : s.Live p k l)
    (hc : (s.proxies p).callback.entry = e') : (s.writeBack e' k l).Sticks e q₁ q₂ where
  old := h.old
  entry := by
    simp only [UdpProxies.writeBack, setEntry, Function.update_apply]
    split
    · next he => exact h.sockets p k l hp (hc.trans he.symm)
    · exact h.entry
  sockets := h.sockets

/-- The second callback answers with the ports of the sockets, if it answers a request. -/
theorem runOnComplete_books (h : s.Live (s.entries e).m_udpproxy k l) (enabled : Bool)
    (onComplete : Option OnComplete) : ∃ new,
      (runOnComplete e enabled onComplete).final s = { s with log := s.log ++ new } ∧
      ∀ r report, .reply r report true ∈ new →
        enabled = true ∧ (Callback.recreated e onComplete).request? = some r ∧
          report.socket1.port = (s.sockets k).port ∧ report.socket2.port = (s.sockets l).port := by
  have hnothing : s = { s with log := s.log ++ [] } := by rw [List.append_nil]
  rcases onComplete with _ | r | name
  · exact ⟨[], hnothing, by simp⟩
  · refine ⟨[.reply r ⟨s.socketConfig k, s.socketConfig l⟩ enabled], ?_, fun r' report hmem => ?_⟩
    · rw [runOnComplete, Action.final_get_bind, Action.final_bind_of_ok (run_getConfig h),
        Action.final_modify, emit]
    · simp only [List.mem_singleton, UdpEffect.reply.injEq] at hmem
      obtain ⟨rfl, rfl, rfl⟩ := hmem
      exact ⟨rfl, rfl, rfl, rfl⟩
  · cases enabled with
    | true => exact ⟨[], hnothing, by simp⟩
    | false => exact ⟨[.notify name], rfl, by simp⟩

/-- The callback of a proxy writes the ports of its sockets to its entry, at least when none of the
    binds was refused, and answers the request with these ports. -/
theorem runCallback_books {c : Callback} (h : s.Live (s.entries c.entry).m_udpproxy k l)
    (enabled : Bool) (now : ℕ) : ∃ t i n new, (runCallback enabled now c).final s =
      { t with reaperInterval := i, lastReaperTick := n, log := s.log ++ new } ∧
      (t = s ∧ enabled = false ∨ t = s.writeBack c.entry k l) ∧
      ∀ r report, .reply r report true ∈ new → enabled = true ∧ c.request? = some r ∧
        report.socket1.port = (s.sockets k).port ∧ report.socket2.port = (s.sockets l).port := by
  cases c with
  | opened e r =>
    change s.Live (s.entries e).m_udpproxy k l at h
    refine ⟨s.writeBack e k l, ((s.writeBack e k l).startReaper now).reaperInterval,
      ((s.writeBack e k l).startReaper now).lastReaperTick,
      [.reply r ⟨s.socketConfig k, s.socketConfig l⟩ enabled], ?_, Or.inr rfl,
      fun r' report hmem => ?_⟩
    · rw [runCallback, Action.final_bind_of_ok (run_refreshPorts h), Action.final_modify_bind,
        Action.final_modify, startReaper]
      split
      · rfl
      · rfl
    · simp only [List.mem_singleton, UdpEffect.reply.injEq] at hmem
      obtain ⟨rfl, rfl, rfl⟩ := hmem
      exact ⟨rfl, rfl, rfl, rfl⟩
  | recreated e onComplete =>
    change s.Live (s.entries e).m_udpproxy k l at h
    cases enabled with
    | false =>
      obtain ⟨new, hrun, hnew⟩ := runOnComplete_books h false onComplete
      exact ⟨s, s.reaperInterval, s.lastReaperTick, new, hrun, Or.inl ⟨rfl, rfl⟩, hnew⟩
    | true =>
      obtain ⟨new, hrun, hnew⟩ := runOnComplete_books (live_writeBack.mpr h) true onComplete
      refine ⟨s.writeBack e k l, s.reaperInterval, s.lastReaperTick, new, ?_, Or.inr rfl, hnew⟩
      change Action.final (refreshPorts e >>= fun _ => runOnComplete e true onComplete) s = _
      rw [Action.final_bind_of_ok (run_refreshPorts h), hrun]
      rfl

theorem Bind.listening_of_counts {b : Bind} (hb : b.counts.toNat = 1) (hr : b.refused = false) :
    b = .listening := by
  cases b with
  | listening => rfl
  | pending => exact absurd hb (by simp [Bind.counts])
  | closed => exact absurd hb (by simp [Bind.counts])
  | failed code =>
    simp only [Bind.counts, Bind.refused] at hb hr
    simp [hr] at hb

theorem Sound.live_unique (h : s.Live p k l) {i j : UdpSocketId} (h' : s.Live p i j) :
    i = k ∧ j = l :=
  ⟨Option.some.inj (h'.1.symm.trans h.1), Option.some.inj (h'.2.symm.trans h.2)⟩

/-- Two binds that ended and were not refused have succeeded. -/
theorem Bound.listening_of_ready (hbound : s.Bound) (hsound : s.Sound) (hlive : s.Live p k l)
    (hdue : (s.proxies p).readyCounter = 2) (hready : (s.proxies p).readyProxy = true) :
    (s.sockets k).bind = .listening ∧ (s.sockets l).bind = .listening := by
  have hcounter := hsound.counter p k l hlive
  have hverdict := hbound.verdict p k l hlive
  have hcounts : ∀ b : Bind, b.counts.toNat ≤ 1 := fun b => by cases b.counts <;> simp
  have hk := hcounts (s.sockets k).bind
  have hl := hcounts (s.sockets l).bind
  rw [hready, eq_comm, Bool.not_eq_true', Bool.or_eq_false_iff] at hverdict
  exact ⟨Bind.listening_of_counts (by omega) hverdict.1,
    Bind.listening_of_counts (by omega) hverdict.2⟩

/-- A proxy that does not listen on both sockets has no ports to write back. -/
theorem booked_of_unbound (hsound : s.Sound) (hbound : s.Bound) (howned : Owned askedBy s)
    (hnoted : ∀ q, q ≠ p → s.Noted q) (hlive : s.Live p k l)
    (hnot : ¬ ((s.sockets k).bind = .listening ∧ (s.sockets l).bind = .listening)) :
    s.Booked askedBy := by
  refine { hsound, hbound, howned with noted := fun q => ?_ }
  by_cases hq : q = p
  · subst hq
    intro i j hl hi hj
    obtain ⟨rfl, rfl⟩ := Sound.live_unique hlive hl
    exact absurd ⟨hi, hj⟩ hnot
  · exact hnoted q hq

/-- The ports of the proxy are in its entry, and those of the other entries are as they were. -/
theorem booked_writeBack (hsound : s.Sound) (hbound : s.Bound) (howned : Owned askedBy s)
    (hnoted : ∀ q, q ≠ p → s.Noted q) (hlive : s.Live p k l) :
    (s.writeBack (s.proxies p).callback.entry k l).Booked askedBy := by
  refine { (alike_writeBack _ k l s).sound hsound, hbound, howned with noted := fun q => ?_ }
  intro i j hl hi hj
  by_cases hq : q = p
  · subst hq
    obtain ⟨rfl, rfl⟩ := Sound.live_unique hlive hl
    simp [UdpProxies.writeBack, setEntry]
  · have hne : (s.proxies q).callback.entry ≠ (s.proxies p).callback.entry := by
      intro heq
      have hcurrent := (hsound.current q i j hl).2
      rw [heq, (hsound.current p k l hlive).2] at hcurrent
      exact hq hcurrent.symm
    have hold := hnoted q hq i j hl hi hj
    simpa [UdpProxies.writeBack, setEntry, hne] using hold

/-- `_onReady` runs the callback when both binds have ended, and nobody has to write ports back
    before. -/
theorem callback_truthful (hsound : s.Sound) (hbound : s.Bound) (howned : Owned askedBy s)
    (hnoted : ∀ q, q ≠ p → s.Noted q) (hlive : s.Live p k l) (now : ℕ) :
    Truthful askedBy s ((if (s.proxies p).readyCounter = 2 then
      runCallback (s.proxies p).readyProxy now (s.proxies p).callback else pure ()).final s) := by
  have hcurrent := (hsound.current p k l hlive).2
  by_cases hdue : (s.proxies p).readyCounter = 2
  · rw [if_pos hdue]
    obtain ⟨t, i, n, new, hrun, ht, hnew⟩ := runCallback_books
      (c := (s.proxies p).callback) (by rw [hcurrent]; exact hlive) (s.proxies p).readyProxy now
    rw [hrun]
    refine ⟨Booked.books ?_ _ _ _, ?_, new, rfl, fun r report hmem => ?_⟩
    · rcases ht with ⟨rfl, hready⟩ | rfl
      · refine booked_of_unbound hsound hbound howned hnoted hlive ?_
        rintro ⟨hk, hl⟩
        have hverdict := hbound.verdict p k l hlive
        rw [hready, hk, hl] at hverdict
        exact absurd hverdict (by decide)
      · exact booked_writeBack hsound hbound howned hnoted hlive
    · intro e q₁ q₂ hq₁ hq₂ h
      rcases ht with ⟨rfl, -⟩ | rfl
      · exact { h with }
      · exact { h.writeBack hlive rfl with }
    · obtain ⟨hready, hreq, hport₁, hport₂⟩ := hnew r report hmem
      obtain ⟨hk, hl⟩ := hbound.listening_of_ready hsound hlive hdue hready
      -- the ports are written to the entry, which is not what the report is about
      obtain ⟨hsockets, htable, hproxies⟩ : t.sockets = s.sockets ∧
          t.activeUdpProxy = s.activeUdpProxy ∧ t.proxies = s.proxies := by
        rcases ht with ⟨rfl, -⟩ | rfl
        · exact ⟨rfl, rfl, rfl⟩
        · exact ⟨rfl, rfl, rfl⟩
      refine ⟨htable, p, k, l, ?_, ?_, ?_, ?_, ?_, fun name hn hproto => ?_⟩
      · simpa [Live, hproxies] using hlive
      · simpa [hsockets] using hk
      · simpa [hsockets] using hl
      · simpa [hsockets] using hport₁
      · simpa [hsockets] using hport₂
      · simpa [htable, hproxies] using howned.owner p k l r name hlive hreq hn hproto
  · rw [if_neg hdue, Action.final_pure]
    refine ⟨booked_of_unbound hsound hbound howned hnoted hlive ?_, fun _ _ _ _ _ h => h, [],
      by simp, by simp⟩
    rintro ⟨hk, hl⟩
    have hcounter := hsound.counter p k l hlive
    rw [hk, hl] at hcounter
    exact hdue hcounter

/-- The parent notes the end of a bind that counts. -/
theorem ended_settle (hs : s.Sound) (hlive : s.Live p i j) (hij : i = k ∨ j = k) {b : Bind}
    {f : UdpSocket → UdpSocket} (hbind : (f (s.sockets k)).bind = b)
    (hreal : b = .listening → ∃ q, (f (s.sockets k)).port = some (.num q) ∧ isPort q = true)
    (hkeeps : ∀ q, isPort q = true → (s.sockets k).port = some (.num q) →
      (f (s.sockets k)).port = some (.num q)) :
    s.Ended k b ((s.setSocket k f).setProxy p fun x =>
      { x with readyProxy := x.readyProxy && !b.refused, readyCounter := x.readyCounter + 1 }) where
  sockets := fun m hm => by simp [setProxy, setSocket, hm]
  bind := by simpa [setProxy, setSocket] using hbind
  real := by simpa [setProxy, setSocket] using hreal
  keeps := by simpa [setProxy, setSocket] using hkeeps
  live := fun q m n => by
    simp only [Live, setProxy, setSocket, Function.update_apply]
    split
    · next hq => subst hq; rfl
    · rfl
  callback := fun q => by
    simp only [setProxy, setSocket, Function.update_apply]
    split
    · next hq => subst hq; rfl
    · rfl
  verdict := fun q m n hq => by
    by_cases hqp : q = p
    · subst hqp
      have hmk : m = k ∨ n = k := by
        rcases hij with rfl | rfl
        · exact Or.inl (Option.some.inj (hq.1.symm.trans hlive.1))
        · exact Or.inr (Option.some.inj (hq.2.symm.trans hlive.2))
      have hmk' : (decide (m = k) || decide (n = k)) = true := by simpa using hmk
      simp [setProxy, setSocket, hmk']
    · have hne := hs.sockets_ne hlive hq hqp
      have hmk : m ≠ k ∧ n ≠ k := by
        rcases hij with rfl | rfl
        · exact ⟨hne.1.1, hne.2.1⟩
        · exact ⟨hne.1.2, hne.2.2⟩
      simp [setProxy, setSocket, hqp, hmk.1, hmk.2]
  entries := rfl
  activeUdpProxy := rfl
  nextEntry := rfl
  nextRequest := rfl
  log := rfl

/-- The end of a bind that counts. -/
theorem onReady_truthful (hs : s.Booked askedBy) (hk : (s.sockets k).bind = .pending)
    (hp : (s.sockets k).parent = some p) {b : Bind} (hb : b.counts = true)
    {f : UdpSocket → UdpSocket} (now : ℕ)
    (hf : ∀ x, (f x).parent = x.parent ∧ (f x).isReady = decide (b = .listening) ∧ (f x).bind = b)
    (hreal : b = .listening → ∃ q, (f (s.sockets k)).port = some (.num q) ∧ isPort q = true)
    (hkeeps : ∀ q, isPort q = true → (s.sockets k).port = some (.num q) →
      (f (s.sockets k)).port = some (.num q)) :
    Truthful askedBy s ((onReady (!b.refused) now (some p)).final (s.setSocket k f)) := by
  have hclosed : b ≠ .closed := by rintro rfl; exact absurd hb (by decide)
  obtain ⟨p', i, j, hparent, hlive, hij⟩ := hs.parent (k := k) (by rw [hk]; decide)
  obtain rfl : p = p' := Option.some.inj (hp.symm.trans hparent)
  rw [onReady, deref_some, Action.final_ok_bind, Action.final_modify_bind, Action.final_get_bind]
  have halike := alike_settle (s := s) (k := k) (p := p) hb (!b.refused) hf
  have hended := ended_settle hs.toSound hlive hij (hf _).2.2 hreal hkeeps
  refine hended.truthful (callback_truthful (halike.sound (hs.settle hk hp hclosed))
    (hended.bound hk hs.toSound hs.toBound) (hended.owned hs.toOwned) (fun q hq => ?_)
    ((hended.live p i j).mpr hlive) now)
  exact hended.noted hs.toSound hp hq (hs.noted q)

theorem listeningEvent_truthful (hs : s.Booked askedBy) (hk : (s.sockets k).bind = .pending)
    {host port : String} (hgrant : granted (s.sockets k).port port = true) (now : ℕ) :
    Truthful askedBy s ((listeningEvent k host port now).final s) := by
  obtain ⟨p, -, -, hp, -, -⟩ := hs.parent (k := k) (by rw [hk]; decide)
  rw [final_listeningEvent hp]
  refine onReady_truthful (b := .listening) hs hk hp rfl now (fun _ => ⟨rfl, rfl, rfl⟩)
    (fun _ => ⟨port, rfl, isPort_of_granted hgrant⟩) fun q hq hasked => ?_
  rw [hasked] at hgrant
  rw [granted_num hq hgrant]

theorem bindErrorEvent_truthful (hs : s.Booked askedBy) (hk : (s.sockets k).bind = .pending)
    (code : String) (now : ℕ) :
    Truthful askedBy s ((bindErrorEvent k code now).final s) := by
  obtain ⟨p, -, -, hp, -, -⟩ := hs.parent (k := k) (by rw [hk]; decide)
  by_cases hcode : code = "EADDRINUSE"
  · subst hcode
    rw [final_bindErrorEvent_refused hp]
    exact onReady_truthful (b := .failed "EADDRINUSE") hs hk hp rfl now
      (fun _ => ⟨rfl, rfl, rfl⟩) (fun h => absurd h (by simp)) fun _ _ h => h
  · have hrefused : (Bind.failed code).refused = false := by simp [Bind.refused, hcode]
    have hsound := hs.toSound.moved (bindErrorEvent_moved hs.toSound hk code now)
    rw [final_bindErrorEvent_other hcode] at hsound ⊢
    have hended : s.Ended k (.failed code)
        (s.setSocket k fun w => { w with bind := .failed code }) := {
      sockets := fun m hm => by simp [setSocket, hm]
      bind := by simp [setSocket]
      real := fun h => absurd h (by simp)
      keeps := fun q _ h => by simpa [setSocket] using h
      live := fun _ _ _ => Iff.rfl
      callback := fun _ => rfl
      verdict := fun _ _ _ _ => by rw [hrefused]; simp [setSocket]
      entries := rfl
      activeUdpProxy := rfl
      nextEntry := rfl
      nextRequest := rfl
      log := rfl }
    have hnoted : ∀ q, (s.setSocket k fun w => { w with bind := .failed code }).Noted q := by
      intro q m n hlive hm hn
      by_cases hmk : m = k
      · subst hmk
        exact absurd (hended.bind.symm.trans hm) (by simp)
      · by_cases hnk : n = k
        · subst hnk
          exact absurd (hended.bind.symm.trans hn) (by simp)
        · rw [hended.sockets m hmk] at hm ⊢
          rw [hended.sockets n hnk] at hn ⊢
          exact hs.noted q m n hlive hm hn
    exact hended.truthful ⟨{ hsound, hended.bound hk hs.toSound hs.toBound,
      hended.owned hs.toOwned with noted := hnoted }, fun _ _ _ _ _ h => h, [], by simp, by simp⟩

/-! ### Runs -/

theorem Booked.start (public_host : Val) (askedBy : RequestId → Option String) :
    Booked askedBy (start public_host) where
  toSound := Sound.start public_host
  real := fun _ h => absurd h (by simp [UdpProxies.start])
  verdict := fun _ _ _ h => absurd h.1 (by simp [UdpProxies.start])
  known := fun _ _ _ _ h => absurd h.1 (by simp [UdpProxies.start])
  owner := fun _ _ _ _ _ h => absurd h.1 (by simp [UdpProxies.start])
  plain := rfl
  noted := fun _ _ _ h => absurd h.1 (by simp [UdpProxies.start])

/-- A new request has a number of its own. -/
theorem Booked.ask (h : s.Booked askedBy) (name : Option String) :
    Booked (Function.update askedBy s.nextRequest name)
      { s with nextRequest := s.nextRequest + 1 } :=
  { h with
    known := fun p k l r hlive hr => Nat.lt_succ_of_lt (h.known p k l r hlive hr)
    owner := fun p k l r name hlive hr hn hproto => by
      have hne := Nat.ne_of_lt (h.known p k l r hlive hr)
      rw [Function.update_of_ne hne] at hn
      exact h.owner p k l r name hlive hr hn hproto }

/-- Both sockets of an entry whose ports stick listen on these ports. -/
theorem Sticks.listen (h : s.Sticks e q₁ q₂) (hs : s.Sound) {name : String}
    (hrow : s.activeUdpProxy.own? name = some e) (hlive : s.Live (s.entries e).m_udpproxy k l) :
    (s.sockets k).port = some (.num q₁) ∧ (s.sockets l).port = some (.num q₂) := by
  obtain ⟨i, j, hlive', hentry⟩ := hs.rows name e hrow
  exact h.sockets _ k l hlive hentry

/-- Once both sockets of a proxy listen, their ports stick to its entry. -/
theorem Booked.sticks (hs : s.Booked askedBy) (hlive : s.Live p k l)
    (hk : (s.sockets k).bind = .listening) (hl : (s.sockets l).bind = .listening)
    (he : (s.proxies p).callback.entry = e) : ∃ q₁ q₂, isPort q₁ = true ∧ isPort q₂ = true ∧
      (s.sockets k).port = some (.num q₁) ∧ (s.sockets l).port = some (.num q₂) ∧
      s.Sticks e q₁ q₂ := by
  obtain ⟨q₁, hport₁, hq₁⟩ := hs.real k hk
  obtain ⟨q₂, hport₂, hq₂⟩ := hs.real l hl
  obtain ⟨hnoted₁, hnoted₂⟩ := hs.noted p k l hlive hk hl
  obtain ⟨hold, hcurrent⟩ := hs.current p k l hlive
  rw [he] at hnoted₁ hnoted₂ hold hcurrent
  refine ⟨q₁, q₂, hq₁, hq₂, hport₁, hport₂, hold, ⟨hnoted₁.trans hport₁, hnoted₂.trans hport₂⟩, ?_⟩
  intro p' i j hlive' he'
  have hcurrent' := (hs.current p' i j hlive').2
  rw [he', hcurrent] at hcurrent'
  subst hcurrent'
  obtain rfl := Option.some.inj (hlive.1.symm.trans hlive'.1)
  obtain rfl := Option.some.inj (hlive.2.symm.trans hlive'.2)
  exact ⟨hport₁, hport₂⟩

end UdpProxies

/-- The proxy module with the names under which requests were made; no code reads them. -/
structure UdpCallers where
  udp : UdpProxies
  askedBy : RequestId → Option String := fun _ => none

namespace UdpCallers

open UdpProxies (Truthful)

variable {a b c d : UdpCallers} {o o' : UdpProxies.Op} {name : String} {e : EntryId}

/-- The module when the process starts. -/
def start (public_host : Val) : UdpCallers := { udp := .start public_host }

/-- Who asked, after an operation. -/
def askers (a : UdpCallers) : UdpProxies.Op → RequestId → Option String
  | .getUDPSocket name .. =>
    Function.update a.askedBy a.udp.nextRequest (propKey name).toOption
  | _ => a.askedBy

/-- One step. -/
def Step (a : UdpCallers) (o : UdpProxies.Op) (b : UdpCallers) : Prop :=
  UdpProxies.Step a.udp o b.udp ∧ b.askedBy = a.askers o

/-- In a step from one state to the other a unit is answered that it has a proxy with these ports. -/
def Tells (a b : UdpCallers) (name : String) (port1 port2 : Val) : Prop :=
  ∃ r report, .reply r report true ∈ b.udp.log.drop a.udp.log.length ∧ b.askedBy r = some name ∧
    report.socket1.port = port1 ∧ report.socket2.port = port2

/-- The system keeps its promise, and the unit its entry. -/
def Keeps (name : String) (e : EntryId) (a : UdpCallers) (o : UdpProxies.Op) : Prop :=
  a.udp.Grants o ∧ a.udp.activeUdpProxy.own? name = some e

theorem Step.truthful (h : a.Step o b) (hs : a.udp.Booked a.askedBy) (hgrant : a.udp.Grants o) :
    Truthful b.askedBy a.udp b.udp := by
  obtain ⟨⟨hen, hudp⟩, hasked⟩ := h
  rw [hudp, hasked]
  cases o with
  | getUDPSocket name socket1 socket2 now =>
    have htrue := UdpProxies.getUDPSocket_truthful (hs.ask (propKey name).toOption) name
      (Nat.lt_succ_self _) (Function.update_self ..) socket1 socket2 now
    exact ⟨htrue.booked, fun e q₁ q₂ hq₁ hq₂ h => htrue.sticks e q₁ q₂ hq₁ hq₂ { h with },
      htrue.reports⟩
  | closeUDPSocket name =>
    rw [UdpProxies.final_closeUDPSocket]
    exact (UdpProxies.firm_closeUDPSocket name a.udp).truthful hs
  | setProxyBlocked name blocked =>
    rw [UdpProxies.final_setProxyBlocked]
    exact (UdpProxies.firm_setProxyBlocked name blocked a.udp).truthful hs
  | reaperTick now online => exact (UdpProxies.firm_reaperTick now online a.udp).truthful hs
  | listening k host port now => exact UdpProxies.listeningEvent_truthful hs hen hgrant now
  | bindError k code now => exact UdpProxies.bindErrorEvent_truthful hs hen code now
  | message k message remote now =>
    exact (UdpProxies.firm_messageEvent k message remote now a.udp).truthful hs
  | error k => exact (refl_of (UdpProxies.Firm a.askedBy) a.udp).truthful hs

/-- The ports a unit is told are those of its entry, and they stick. -/
theorem Tells.sticks {port1 port2 : Val} (h : a.Tells b name port1 port2)
    (ht : Truthful b.askedBy a.udp b.udp) (hrow : a.udp.activeUdpProxy.own? name = some e ∨
      b.udp.activeUdpProxy.own? name = some e) : ∃ q₁ q₂, isPort q₁ = true ∧ isPort q₂ = true ∧
    port1 = some (.num q₁) ∧ port2 = some (.num q₂) ∧ b.udp.Sticks e q₁ q₂ := by
  obtain ⟨r, report, hmem, hasked, rfl, rfl⟩ := h
  obtain ⟨new, hnew, hall⟩ := ht.reports
  rw [hnew, List.drop_left] at hmem
  obtain ⟨htable, p, k, l, hlive, hk, hl, hport₁, hport₂, howner⟩ := hall r report hmem
  have hrow' : b.udp.activeUdpProxy.own? name = some e := by
    rcases hrow with hrow | hrow
    · rw [htable]; exact hrow
    · exact hrow
  have hproto : name ≠ "__proto__" := by
    rintro rfl
    exact absurd (ht.booked.plain.symm.trans hrow') (by simp)
  have hentry := Option.some.inj ((howner name hasked hproto).symm.trans hrow')
  obtain ⟨q₁, q₂, hq₁, hq₂, hsock₁, hsock₂, hsticks⟩ := ht.booked.sticks hlive hk hl hentry
  exact ⟨q₁, q₂, hq₁, hq₂, hport₁.trans hsock₁, hport₂.trans hsock₂, hsticks⟩

/-- In every run after a unit was told that it has a proxy with certain ports, as long as its entry
    is in the table: both sockets of its proxy, when they listen, listen on these ports, and whenever
    it is told again that it has a proxy it is told these ports. -/
theorem ports_stick {public_host port1 port2 : Val}
    (hstart : Lts.Path Step (fun u o => u.udp.Grants o) (start public_host) a)
    (hgrant : a.udp.Grants o) (hstep : a.Step o b) (htold : a.Tells b name port1 port2)
    (hrow : b.udp.activeUdpProxy.own? name = some e) (hrun : Lts.Path Step (Keeps name e) b c)
    (hkept : c.udp.activeUdpProxy.own? name = some e) :
    (∀ k l, c.udp.Live (c.udp.entries e).m_udpproxy k l → (c.udp.sockets k).bind = .listening →
      (c.udp.sockets l).bind = .listening →
      (c.udp.sockets k).port = port1 ∧ (c.udp.sockets l).port = port2) ∧
    ∀ o' d port1' port2', c.udp.Grants o' → c.Step o' d → c.Tells d name port1' port2' →
      port1' = port1 ∧ port2' = port2 := by
  have hstarted : (start public_host).udp.Booked (start public_host).askedBy :=
    UdpProxies.Booked.start public_host _
  have ha := hstart.invariant (P := fun u : UdpCallers => u.udp.Booked u.askedBy)
    (fun {u o v} hs (hg : u.udp.Grants o) (hstep : u.Step o v) => (hstep.truthful hs hg).booked)
    hstarted
  have hab := hstep.truthful ha hgrant
  obtain ⟨q₁, q₂, hq₁, hq₂, rfl, rfl, hsticks⟩ := htold.sticks hab (Or.inr hrow)
  have hc := hrun.invariant
    (P := fun u : UdpCallers => u.udp.Booked u.askedBy ∧ u.udp.Sticks e q₁ q₂)
    (fun {u o v} hP (hg : Keeps name e u o) (hstep : u.Step o v) =>
      have ht := hstep.truthful hP.1 hg.1
      ⟨ht.booked, ht.sticks e q₁ q₂ hq₁ hq₂ hP.2⟩) ⟨hab.booked, hsticks⟩
  refine ⟨fun k l hlive _ _ => hc.2.listen hc.1.toSound hkept hlive, ?_⟩
  intro o' d port1' port2' hgrant' hstep' htold'
  have hcd := hstep'.truthful hc.1 hgrant'
  obtain ⟨q₁', q₂', -, -, rfl, rfl, hsticks'⟩ := htold'.sticks hcd (Or.inl hkept)
  have hentry := (hcd.sticks e q₁ q₂ hq₁ hq₂ hc.2).entry
  exact ⟨hsticks'.entry.1.symm.trans hentry.1, hsticks'.entry.2.symm.trans hentry.2⟩

instance (s : UdpProxies) : ∀ o : UdpProxies.Op, Decidable (s.Grants o)
  | .listening .. => inferInstanceAs (Decidable (_ = true))
  | .getUDPSocket .. | .closeUDPSocket _ | .setProxyBlocked .. | .reaperTick .. | .bindError ..
  | .message .. | .error _ => isTrue trivial

instance (a : UdpCallers) (o : UdpProxies.Op) : Decidable (Keeps name e a o) :=
  inferInstanceAs (Decidable (_ ∧ _))

/-- The state after an operation. -/
def after (a : UdpCallers) (o : UdpProxies.Op) : UdpCallers :=
  ⟨(UdpProxies.perform o).final a.udp, a.askers o⟩

/-- A run of given operations that meet a condition. -/
def run (C : UdpCallers → UdpProxies.Op → Prop) [∀ a o, Decidable (C a o)] (a : UdpCallers)
    (os : List UdpProxies.Op) : Option UdpCallers :=
  os.foldlM (fun a o => if a.udp.Enabled o ∧ C a o then some (a.after o) else none) a

theorem path_of_run {C : UdpCallers → UdpProxies.Op → Prop} [∀ a o, Decidable (C a o)]
    {os : List UdpProxies.Op} (h : run C a os = some b) : Lts.Path Step C a b :=
  Lts.Path.of_guarded (fun hc => ⟨hc.2, ⟨hc.1, rfl⟩, rfl⟩) h

/-- The first socket of a vehicle's new proxy is bound. -/
def halfOpen : List UdpProxies.Op :=
  [.getUDPSocket (some (.str "drone")) UdpProxies.anyPort UdpProxies.anyPort 1000,
    .listening 0 "0.0.0.0" "5000" 1001]

/-- The system wakes up, one port is in use when the proxy is re-created, and the vehicle asks
    again. -/
def recovering : List UdpProxies.Op :=
  [.reaperTick 900000 fun _ => true, .listening 4 "0.0.0.0" "5000" 900001,
    .bindError 5 "EADDRINUSE" 900002,
    .getUDPSocket (some (.str "drone")) UdpProxies.anyPort UdpProxies.anyPort 900003,
    .listening 6 "0.0.0.0" "5000" 900004]

/-- The vehicle keeps its ports. -/
theorem ports_stick_recovering : ∃ a b c d, Lts.Path Step (fun u o => u.udp.Grants o) (start none) a ∧
    a.Step (.listening 1 "0.0.0.0" "5001" 1002) b ∧
    a.Tells b "drone" (some (.num "5000")) (some (.num "5001")) ∧
    Lts.Path Step (Keeps "drone" 0) b c ∧ c.Step (.listening 7 "0.0.0.0" "5001" 900005) d ∧
    (∃ port1 port2, c.Tells d "drone" port1 port2) ∧
    ∀ port1 port2, c.Tells d "drone" port1 port2 →
      port1 = some (.num "5000") ∧ port2 = some (.num "5001") := by
  let report : ProxyConfig := ⟨⟨none, some (.num "5000")⟩, ⟨none, some (.num "5001")⟩⟩
  let o : UdpProxies.Op := .listening 1 "0.0.0.0" "5001" 1002
  let o' : UdpProxies.Op := .listening 7 "0.0.0.0" "5001" 900005
  have h : ((run (fun u o => u.udp.Grants o) (start none) halfOpen).bind fun a =>
      (run (Keeps "drone" 0) (a.after o) recovering).map fun c => decide (
        a.udp.Enabled o ∧ a.udp.Grants o ∧
        (a.after o).udp.log.drop a.udp.log.length = [.reply 0 report true] ∧
        (a.after o).askedBy 0 = some "drone" ∧
        (a.after o).udp.activeUdpProxy.own? "drone" = some 0 ∧
        c.udp.Enabled o' ∧ c.udp.Grants o' ∧ c.udp.activeUdpProxy.own? "drone" = some 0 ∧
        (c.after o').udp.log.drop c.udp.log.length = [.reply 1 report true] ∧
        (c.after o').askedBy 1 = some "drone")) = some true := by decide +kernel
  obtain ⟨a, ha, h⟩ := Option.bind_eq_some_iff.mp h
  obtain ⟨c, hc, h⟩ := Option.map_eq_some_iff.mp h
  obtain ⟨hen, hgrant, hreply, hasked, hrow, hen', hgrant', hkept, hreply', hasked'⟩ :=
    of_decide_eq_true h
  have hstep : a.Step o (a.after o) := ⟨⟨hen, rfl⟩, rfl⟩
  have hstep' : c.Step o' (c.after o') := ⟨⟨hen', rfl⟩, rfl⟩
  have htold : a.Tells (a.after o) "drone" (some (.num "5000")) (some (.num "5001")) :=
    ⟨0, report, by rw [hreply]; exact List.mem_singleton.mpr rfl, hasked, rfl, rfl⟩
  have htold' : c.Tells (c.after o') "drone" (some (.num "5000")) (some (.num "5001")) :=
    ⟨1, report, by rw [hreply']; exact List.mem_singleton.mpr rfl, hasked', rfl, rfl⟩
  refine ⟨a, _, c, _, path_of_run ha, hstep, htold, path_of_run hc, hstep', ⟨_, _, htold'⟩, ?_⟩
  intro port1 port2 h
  exact (ports_stick (path_of_run ha) hgrant hstep htold hrow (path_of_run hc) hkept).2 o' _
    port1 port2 hgrant' hstep' h

end UdpCallers

end DroneEngage
