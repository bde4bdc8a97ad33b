import DroneEngage.UdpEffects

/-! When the reaper runs.

    The interval is set by the callback of a new entry and cleared by the tick that finds an empty
    table. A request that finds its proxy not ready yet replaces it, and the callback of the new one
    sets no interval: then an open proxy can be left that no tick looks at. -/

namespace DroneEngage
open Js

namespace UdpProxies

open Action

variable {s s' : UdpProxies} {p : ProxyId} {k l : UdpSocketId} {e : EntryId} {b : Bind}

/-- The two sockets of the proxy are listening. -/
def Ready (s : UdpProxies) (p : ProxyId) : Prop :=
  ∃ k l, s.Live p k l ∧ (s.sockets k).bind = .listening ∧ (s.sockets l).bind = .listening

/-- The reaper runs if an entry of the table has a ready proxy. -/
def Watched (s : UdpProxies) : Prop :=
  ∀ name e, s.activeUdpProxy.own? name = some e → s.Ready (s.entries e).m_udpproxy →
    s.reaperInterval = true

/-- A proxy that was built by a re-create gets its second listening socket, as the proxy of an entry
    of the table, only while the reaper runs. -/
def WatchesRecreated (s : UdpProxies) : Op → Prop
  | .listening k .. => ∀ name e l e' onComplete, s.activeUdpProxy.own? name = some e →
      (s.sockets k).parent = some (s.entries e).m_udpproxy →
      (s.sockets l).parent = some (s.entries e).m_udpproxy → (s.sockets l).bind = .listening →
      (s.proxies (s.entries e).m_udpproxy).callback = .recreated e' onComplete →
      s.reaperInterval = true
  | _ => True

/-! ### No other operation makes a proxy ready -/

/-- Every ready proxy of the table was one before. -/
def NoneReady (s s' : UdpProxies) : Prop :=
  ∀ name e, s'.activeUdpProxy.own? name = some e → s'.Ready (s'.entries e).m_udpproxy →
    s.activeUdpProxy.own? name = some e ∧ s.Ready (s.entries e).m_udpproxy

instance : IsPreorder UdpProxies NoneReady where
  refl := fun _ _ _ hrow hready => ⟨hrow, hready⟩
  trans := fun _ _ _ h h' name e hrow hready => by
    obtain ⟨hrow, hready⟩ := h' name e hrow hready
    exact h name e hrow hready

theorem SameWires.noneReady (h : SameWires s s') : NoneReady s s' := by
  rintro name e hrow ⟨i, j, hlive, hi, hj⟩
  rw [h.activeUdpProxy] at hrow
  rw [h.m_udpproxy] at hlive
  rw [(h.sockets i).2.2] at hi
  rw [(h.sockets j).2.2] at hj
  exact ⟨hrow, i, j, h.live.mp hlive, hi, hj⟩

/-- A proxy with the same sockets, none of which was bound in between. -/
theorem Ready.back {q : ProxyId} (h : s'.Ready q) (hlive : ∀ i j, s'.Live q i j → s.Live q i j)
    (hbind : ∀ i, (s'.sockets i).bind = .listening → (s.sockets i).bind = .listening) :
    s.Ready q := by
  obtain ⟨i, j, hq, hi, hj⟩ := h
  exact ⟨i, j, hlive i j hq, hbind i hi, hbind j hj⟩

theorem shut_listening {i : UdpSocketId} (h : ((s.shut p k l).sockets i).bind = .listening) :
    (s.sockets i).bind = .listening := by
  simp only [shut] at h
  split at h
  · exact absurd h (by simp)
  · exact h

theorem install_listening {port1 port2 : Val} {c : Callback} {blocked : Bool} {i : UdpSocketId}
    (h : ((s.install e port1 port2 c blocked).sockets i).bind = .listening) :
    (s.sockets i).bind = .listening := by
  simp only [install] at h
  split at h
  · exact absurd h (by simp)
  · split at h
    · exact absurd h (by simp)
    · exact h

theorem install_not_ready {port1 port2 : Val} {c : Callback} {blocked : Bool} :
    ¬ (s.install e port1 port2 c blocked).Ready s.nextProxy := by
  rintro ⟨i, j, ⟨hi, -⟩, hbind, -⟩
  simp only [install, Function.update_self, Option.some.injEq] at hi
  subst hi
  simp [install] at hbind

theorem Sound.noneReady {m : Move} (h : s.Sound) (hm : Moved s m s')
    (hends : ∀ k b, m ≠ .ends k b) : NoneReady s s' := by
  cases hm with
  | quiet halike => exact halike.noneReady
  | block blocked hrow => exact (sameWires_block _ blocked s).noneReady
  | @drop name e k l hrow hlive =>
    intro name' e' hrow' hready
    have hold := Table.own?_delete_imp hrow'
    have hne : name' ≠ name := by
      rintro rfl
      exact absurd hrow' (by simp)
    refine ⟨hold, hready.back (fun i j hq => ?_) fun i hi =>
      shut_listening (p := (s.entries e).m_udpproxy) hi⟩
    exact (shut_live (k := k) (l := l) (h.row_ne hne hold hrow)).mp hq
  | @recreate name e k l onComplete hrow hlive =>
    intro name' e' hrow' hready
    change s.activeUdpProxy.own? name' = some e' at hrow'
    by_cases hname : name' = name
    · subst hname
      obtain rfl : e = e' := Option.some.inj (hrow.symm.trans hrow')
      refine absurd hready ?_
      rw [show ((s.replace e k l onComplete).entries e).m_udpproxy = s.nextProxy by
        simp [UdpProxies.replace, install, shut]]
      exact install_not_ready
    · have hp := h.row_ne hname hrow' hrow
      have hne : e' ≠ e := fun heq => hp (by rw [heq])
      obtain ⟨i, j, hlive', -⟩ := h.rows name' e' hrow'
      have hlt := Nat.ne_of_lt (h.toWired.lt hlive')
      rw [show ((s.replace e k l onComplete).entries e').m_udpproxy = (s.entries e').m_udpproxy by
        simp [UdpProxies.replace, install, shut, hne]] at hready
      refine ⟨hrow', hready.back (fun i j hq => ?_) fun i hi =>
        shut_listening (install_listening hi)⟩
      exact (shut_live hp).mp ((install_live (s := s.shut (s.entries e).m_udpproxy k l) hlt).mp hq)
  | @create name port1 port2 r now hrow =>
    intro name' e' hrow' hready
    rcases Table.own?_assign_imp hrow' with ⟨-, rfl⟩ | hold
    · refine absurd hready ?_
      rw [show ((install s.nextEntry port1 port2 (.opened s.nextEntry r) false
        (newEntry name port1 port2 now s)).entries s.nextEntry).m_udpproxy = s.nextProxy by
          simp [install, newEntry]]
      exact install_not_ready
    · obtain ⟨i, j, hlive, -⟩ := h.rows name' e' hold
      have hlt := Nat.ne_of_lt (h.toWired.lt hlive)
      have hne := Nat.ne_of_lt (h.row_lt hold)
      rw [show ((install s.nextEntry port1 port2 (.opened s.nextEntry r) false
        (newEntry name port1 port2 now s)).entries e').m_udpproxy = (s.entries e').m_udpproxy by
          simp [install, newEntry, hne]] at hready
      refine ⟨hold, hready.back (fun i j hq => ?_) fun i hi =>
        install_listening (s := newEntry name port1 port2 now s) hi⟩
      exact (install_live (s := newEntry name port1 port2 now s) hlt).mp hq
  | ask => exact fun _ _ hrow hready => ⟨hrow, hready⟩
  | reply r report en => exact fun _ _ hrow hready => ⟨hrow, hready⟩
  | @ends _ k b => exact absurd rfl (hends k b)

theorem Opened.noneReady {r : RequestId} {name socket1 socket2 : Val} (h : s.Sound)
    (ho : Opened s r name socket1 socket2 s') : NoneReady s s' := by
  cases ho with
  | thrown _ => exact refl_of NoneReady s
  | fresh _ hm => exact h.noneReady hm (by simp)
  | same _ _ _ _ hm hm' | refreshed _ _ _ _ hm hm' | reopened _ _ _ hm hm' =>
    exact trans_of NoneReady (h.noneReady hm (by simp)) ((h.moved hm).noneReady hm' (by simp))

/-! ### What sets and clears the interval -/

/-- The interval is set in the one state as in the other. -/
def SameReaper (s s' : UdpProxies) : Prop := s'.reaperInterval = s.reaperInterval

instance : IsPreorder UdpProxies SameReaper where
  refl := fun _ => rfl
  trans := fun _ _ _ h h' => Eq.trans h' h

/-- A tick clears the interval only if it leaves the table empty. -/
theorem reaperTick_watched (now : ℕ) (online : String → Bool) (h : s.reaperInterval = true) :
    ((reaperTick now online).final s).Watched := by
  have hkeep : ∀ {m : Action UdpProxies Unit} {t : UdpProxies}, Moves Tidy m →
      t.reaperInterval = true → (m.final t).reaperInterval = true :=
    fun hm ht => (hm _).reaperInterval.trans ht
  have hset : ∀ t : UdpProxies, t.reaperInterval = true → t.Watched := fun _ ht _ _ _ _ => ht
  rw [reaperTick, final_get_bind]
  refine final_bind_leads (P := fun t : UdpProxies => t.reaperInterval = true)
    (hkeep (moves_when fun _ => tidy_recoverAll now) h) hset fun _ t ht => ?_
  rw [final_modify_bind, final_get_bind]
  refine final_bind_leads (P := fun t : UdpProxies => t.reaperInterval = true)
    (hkeep (moves_forEach _ fun name _ => tidy_reap now online name) ht) hset fun _ u hu => ?_
  rw [final_get_bind]
  split
  · next hempty =>
    intro name e hrow
    exact absurd (Table.keys_eq_nil_iff.mp hempty name) (by
      change u.activeUdpProxy.own? name = some e at hrow
      simp [hrow])
  · exact hset u hu

/-! ### The end of a bind -/

/-- The end of a bind changes the state of the one socket, as far as wires and rows go. -/
theorem Moved.ends_wires (h : Moved s (.ends k b) s') :
    s'.activeUdpProxy = s.activeUdpProxy ∧
    (∀ e, (s'.entries e).m_udpproxy = (s.entries e).m_udpproxy) ∧
    (∀ p i j, s'.Live p i j ↔ s.Live p i j) ∧
    ∀ i, (s'.sockets i).bind = if i = k then b else (s.sockets i).bind := by
  cases h with
  | @ends _ _ _ p report en hk hp hb hb' halike =>
    have hreplied : ∀ request,
        (replied report en (s.settle k b p) request).activeUdpProxy = s.activeUdpProxy ∧
        (∀ e, ((replied report en (s.settle k b p) request).entries e).m_udpproxy =
          (s.entries e).m_udpproxy) ∧
        (∀ q i j, (replied report en (s.settle k b p) request).Live q i j ↔ s.Live q i j) ∧
        ∀ i, ((replied report en (s.settle k b p) request).sockets i).bind =
          if i = k then b else (s.sockets i).bind := by
      have hlive : ∀ q i j, (s.settle k b p).Live q i j ↔ s.Live q i j := by
        intro q i j
        simp only [settle, Live, Function.update_apply]
        split
        · next hq => rw [hq]
        · exact Iff.rfl
      have hbind : ∀ i, ((s.settle k b p).sockets i).bind =
          if i = k then b else (s.sockets i).bind := by
        intro i
        simp only [settle, Function.update_apply]
        split
        · rfl
        · rfl
      intro request
      cases request with
      | none => exact ⟨rfl, fun _ => rfl, hlive, hbind⟩
      | some r => exact ⟨rfl, fun _ => rfl, hlive, hbind⟩
    obtain ⟨htable, hentries, hlive, hbind⟩ := hreplied (s.due b p)
    refine ⟨halike.activeUdpProxy.trans htable, fun e => (halike.m_udpproxy e).trans (hentries e),
      fun q i j => halike.live.trans (hlive q i j), fun i => (halike.sockets i).2.2.trans (hbind i)⟩

/-- The callback of a new entry sets the interval, that of a re-create leaves it alone. -/
theorem runCallback_reaper {c : Callback} (h : s.Live (s.entries c.entry).m_udpproxy k l)
    (enabled : Bool) (now : ℕ) :
    ((∃ e r, c = .opened e r) ∧ ((runCallback enabled now c).final s).reaperInterval = true) ∨
      (∃ e onComplete, c = .recreated e onComplete) ∧
        ((runCallback enabled now c).final s).reaperInterval = s.reaperInterval := by
  cases c with
  | opened e r =>
    refine Or.inl ⟨⟨e, r, rfl⟩, ?_⟩
    rw [runCallback, final_bind_of_ok (run_refreshPorts (e := e) h), final_modify_bind, final_modify]
    change ((s.writeBack e k l).startReaper now).reaperInterval = true
    rw [startReaper]
    split
    · next hset => exact hset
    · rfl
  | recreated e onComplete =>
    refine Or.inr ⟨⟨e, onComplete, rfl⟩, ?_⟩
    have hsame : ∀ {s s' : UdpProxies}, Still s s' → SameReaper s s' := fun h => h.reaperInterval
    have hrefresh : Moves SameReaper (refreshPorts e) := (still_refreshPorts e).mono hsame
    have hcomplete : Moves SameReaper (runOnComplete e enabled onComplete) := by
      rcases onComplete with _ | r | name
      · exact moves_pure _
      · exact moves_bind moves_get fun _ => moves_bind ((still_getConfig _).mono hsame) fun _ =>
          moves_modify fun _ => rfl
      · exact moves_ite (fun _ => moves_pure _) fun _ => moves_modify fun _ => rfl
    cases enabled with
    | true => exact moves_bind hrefresh (fun _ => hcomplete) s
    | false => exact hcomplete s

/-- `_onReady` counts, and runs the callback on the second call. -/
theorem onReady_final {c : Callback} (status : Bool) (now : ℕ)
    (hlive : s.Live (s.entries c.entry).m_udpproxy k l) (hc : (s.proxies p).callback = c) :
    ∃ enabled t, t.reaperInterval = s.reaperInterval ∧ t.Live (t.entries c.entry).m_udpproxy k l ∧
      (onReady status now (some p)).final s =
        if (s.proxies p).readyCounter = 1 then (runCallback enabled now c).final t else t := by
  refine ⟨(s.proxies p).readyProxy && status, s.setProxy p fun x => { x with
    readyProxy := x.readyProxy && status, readyCounter := x.readyCounter + 1 }, rfl, ?_, ?_⟩
  · simp only [Live, setProxy, Function.update_apply]
    split
    · next hp => rw [← hp]; exact hlive
    · exact hlive
  · rw [onReady, deref_some, final_ok_bind, final_modify_bind, final_get_bind]
    simp only [setProxy, Function.update_self, hc]
    by_cases hdue : (s.proxies p).readyCounter = 1
    · rw [if_pos hdue, if_pos (by omega)]
    · rw [if_neg hdue, if_neg (by omega)]
      rfl

/-- The second socket of a proxy listens: the callback of a new entry sets the interval. -/
theorem listeningEvent_reaper (h : s.Sound) (hk : (s.sockets k).bind = .pending)
    (hp : (s.sockets k).parent = some p) (host port : String) (now : ℕ) :
    ((listeningEvent k host port now).final s).reaperInterval = s.reaperInterval ∧
        ((s.proxies p).readyCounter = 1 → ∃ e onComplete,
          (s.proxies p).callback = .recreated e onComplete) ∨
      (∃ e r, (s.proxies p).callback = .opened e r) ∧
        ((listeningEvent k host port now).final s).reaperInterval = true := by
  obtain ⟨q, i, j, hq, -, hlive⟩ := h.pending hk
  obtain rfl : p = q := Option.some.inj (hp.symm.trans hq)
  rw [listeningEvent, final_modify_bind, final_get_bind]
  rw [show ((s.setSocket k fun w => { w with
      bind := .listening, port := some (.num port), host, isReady := true }).sockets k).parent =
      some p by simp [setSocket, hp]]
  obtain ⟨enabled, t, ht, htlive, hfin⟩ := onReady_final (p := p) (c := (s.proxies p).callback)
    (s := s.setSocket k fun w => { w with
      bind := .listening, port := some (.num port), host, isReady := true }) true now hlive rfl
  rw [hfin]
  split
  · rcases runCallback_reaper htlive enabled now with hon | ⟨hre, hsame⟩
    · exact Or.inr hon
    · exact Or.inl ⟨hsame.trans ht, fun _ => hre⟩
  · next hnot => exact Or.inl ⟨ht, fun hdue => absurd hdue hnot⟩

theorem bindErrorEvent_reaper (h : s.Sound) (hk : (s.sockets k).bind = .pending) (code : String)
    (now : ℕ) (hset : s.reaperInterval = true) :
    ((bindErrorEvent k code now).final s).reaperInterval = true := by
  obtain ⟨p, i, j, hp, -, hlive⟩ := h.pending hk
  rw [bindErrorEvent, final_modify_bind]
  split
  · rw [final_modify_bind, final_get_bind]
    rw [show ((setSocket k (fun w => { w with isReady := false })
        (setSocket k (fun w => { w with bind := .failed code }) s)).sockets k).parent = some p by
      simp [setSocket, hp]]
    obtain ⟨enabled, t, ht, htlive, hfin⟩ := onReady_final (p := p) (c := (s.proxies p).callback)
      (s := setSocket k (fun w => { w with isReady := false })
        (setSocket k (fun w => { w with bind := .failed code }) s)) false now hlive rfl
    rw [hfin]
    split
    · rcases runCallback_reaper htlive enabled now with ⟨-, hon⟩ | ⟨-, hsame⟩
      · exact hon
      · exact hsame.trans (ht.trans hset)
    · exact ht.trans hset
  · exact hset

/-! ### Runs -/

theorem Watched.of_noneReady (h : s.Watched) (hn : NoneReady s s')
    (hr : s.reaperInterval = true → s'.reaperInterval = true) : s'.Watched := by
  intro name e hrow hready
  obtain ⟨hrow, hready⟩ := hn name e hrow hready
  exact hr (h name e hrow hready)

theorem Wired.side (h : s.Wired) {q : ProxyId} {i j x : UdpSocketId} (hq : s.Live q i j)
    (hx : (s.sockets x).bind ≠ .closed) (hp : (s.sockets x).parent = some q) : i = x ∨ j = x := by
  obtain ⟨p, hown⟩ := h.belongs x hx
  obtain rfl : p = q := Option.some.inj ((h.owns p x hown).1.symm.trans hp)
  rcases hown with h1 | h2
  · exact Or.inl (Option.some.inj (hq.1.symm.trans h1))
  · exact Or.inr (Option.some.inj (hq.2.symm.trans h2))

/-- A socket of a ready proxy other than `k`, and `k` itself, which was bound last. -/
theorem Sound.otherSocket (h : s.Sound) {q : ProxyId} {i j : UdpSocketId} (hq : s.Live q i j)
    (hk : (s.sockets k).bind = .pending)
    (hi : i = k ∨ (s.sockets i).bind = .listening) (hj : j = k ∨ (s.sockets j).bind = .listening)
    (hnot : ¬ s.Ready q) : (s.sockets k).parent = some q ∧ (s.proxies q).readyCounter = 1 ∧
      ∃ l, (s.sockets l).parent = some q ∧ (s.sockets l).bind = .listening := by
  have hne : i ≠ j := fun heq => h.apart q i hq.1 (heq ▸ hq.2)
  have hparent := (h.owns q i (Or.inl hq.1)).1
  have hparent' := (h.owns q j (Or.inr hq.2)).1
  have hcount := h.counter q i j hq
  rcases hi with rfl | hi
  · rcases hj with rfl | hj
    · exact absurd rfl hne
    · refine ⟨hparent, ?_, j, hparent', hj⟩
      rw [hcount, hk, hj]; rfl
  · rcases hj with rfl | hj
    · refine ⟨hparent', ?_, i, hparent, hi⟩
      rw [hcount, hk, hi]; rfl
    · exact absurd ⟨i, j, hq, hi, hj⟩ hnot

/-- A socket of the table's proxies listens. -/
theorem Watched.listening_iff (h : s.Sound) (hw : s.Watched) (hen : (s.sockets k).bind = .pending)
    (hm : Moved s (.ends k .listening) s') (host port : String) (now : ℕ)
    (hreaper : ∀ p, (s.sockets k).parent = some p →
      s'.reaperInterval = s.reaperInterval ∧ ((s.proxies p).readyCounter = 1 → ∃ e onComplete,
          (s.proxies p).callback = .recreated e onComplete) ∨
        (∃ e r, (s.proxies p).callback = .opened e r) ∧ s'.reaperInterval = true) :
    s'.Watched ↔ s.WatchesRecreated (.listening k host port now) := by
  obtain ⟨htable, hentries, hlive, hbind⟩ := hm.ends_wires
  constructor
  · intro hw' name e l e' onComplete hrow hpk hpl hl hc
    obtain ⟨i, j, hq, -⟩ := h.rows name e hrow
    have hready : s'.Ready (s.entries e).m_udpproxy := by
      have hside : ∀ x, (s.sockets x).bind ≠ .closed →
          (s.sockets x).parent = some (s.entries e).m_udpproxy → i = x ∨ j = x :=
        fun x => h.toWired.side hq
      have hkij := hside k (by rw [hen]; decide) hpk
      have hlij := hside l (by rw [hl]; decide) hpl
      have hlk : l ≠ k := by
        rintro rfl
        exact absurd (hen.symm.trans hl) (by simp)
      refine ⟨i, j, (hlive _ i j).mpr hq, ?_, ?_⟩
      · rw [hbind]; grind
      · rw [hbind]; grind
    have hset : s'.reaperInterval = true := by
      refine hw' name e (htable.symm ▸ hrow) ?_
      rw [hentries]
      exact hready
    rcases hreaper _ hpk with ⟨hsame, -⟩ | ⟨⟨_, _, hopened⟩, -⟩
    · exact hsame.symm.trans hset
    · exact absurd (hc.symm.trans hopened) (by simp)
  · intro hc name e hrow hready
    have hrow' : s.activeUdpProxy.own? name = some e := htable ▸ hrow
    obtain ⟨p, i, j, hp, -, -⟩ := h.pending hen
    have hevent := hreaper p hp
    by_cases hold : s.Ready (s.entries e).m_udpproxy
    · rcases hevent with ⟨hsame, -⟩ | ⟨-, hon⟩
      · exact hsame.trans (hw name e hrow' hold)
      · exact hon
    · obtain ⟨i, j, hq, hi, hj⟩ := hready
      rw [hentries, hlive] at hq
      rw [hbind] at hi hj
      obtain ⟨hpk, hdue, l, hpl, hl⟩ := h.otherSocket hq hen (by grind) (by grind) hold
      obtain rfl : p = (s.entries e).m_udpproxy := Option.some.inj (hp.symm.trans hpk)
      rcases hevent with ⟨hsame, hre⟩ | ⟨-, hon⟩
      · obtain ⟨e', onComplete, hcall⟩ := hre hdue
        exact hsame.trans (hc name e l e' onComplete hrow' hpk hpl hl hcall)
      · exact hon

/-- A step keeps the reaper on watch exactly if a re-created proxy gets ready under its eyes. -/
theorem Watched.step_iff {o : Op} (h : s.Sound) (hw : s.Watched) (hstep : Step s o s') :
    s'.Watched ↔ s.WatchesRecreated o := by
  obtain ⟨hen, hs'⟩ := hstep
  subst hs'
  cases o with
  | getUDPSocket name socket1 socket2 now =>
    have hopened := Opened.noneReady (h.moved .ask)
      (getUDPSocket_opened (h.moved .ask) s.nextRequest name socket1 socket2 now)
    refine iff_of_true (hw.of_noneReady
      (trans_of NoneReady (h.noneReady .ask (by simp)) hopened) fun hs => ?_) trivial
    exact (silent_getUDPSocket name socket1 socket2 s.nextRequest now _).reaperInterval.trans hs
  | closeUDPSocket name =>
    refine iff_of_true ?_ trivial
    rw [final_closeUDPSocket]
    rcases closeUDPSocket_cases h name with ⟨-, hnone⟩ | ⟨key, e, -, -, hm⟩
    · rw [hnone]; exact hw
    · exact hw.of_noneReady (h.noneReady hm (by simp))
        fun hs => (silent_closeUDPSocket name s).reaperInterval.trans hs
  | setProxyBlocked name blocked =>
    refine iff_of_true ?_ trivial
    rw [final_setProxyBlocked]
    rcases setProxyBlocked_cases name blocked s with ⟨-, hnone⟩ | hm
    · rw [hnone]; exact hw
    · exact hw.of_noneReady (h.noneReady hm (by simp))
        fun hs => (still_setProxyBlocked name blocked s).reaperInterval.trans hs
  | reaperTick now online => exact iff_of_true (reaperTick_watched now online hen) trivial
  | bindError k code now =>
    refine iff_of_true ?_ trivial
    have hm := bindErrorEvent_moved h hen code now
    obtain ⟨htable, hentries, hlive, hbind⟩ := hm.ends_wires
    refine hw.of_noneReady (fun name e hrow hready => ?_) (bindErrorEvent_reaper h hen code now)
    rw [perform, htable] at hrow
    rw [perform, hentries] at hready
    refine ⟨hrow, hready.back (fun i j hq => (hlive _ i j).mp hq) fun i hi => ?_⟩
    rw [hbind] at hi
    split at hi
    · exact absurd hi (by simp)
    · exact hi
  | message k message remote now =>
    refine iff_of_true (hw.of_noneReady
      (messageEvent_alike k message remote now s).noneReady fun hs => ?_) trivial
    exact (tidy_messageEvent k message remote now s).reaperInterval.trans hs
  | error k => exact iff_of_true hw trivial
  | listening k host port now =>
    exact Watched.listening_iff h hw hen (listeningEvent_moved h hen host port now) host port now
      fun _ hp => listeningEvent_reaper h hen hp host port now

theorem Watched.start (public_host : Val) : (UdpProxies.start public_host).Watched :=
  fun _ _ hrow => absurd hrow (by simp [UdpProxies.start])

/-- A run has the reaper on watch all the time exactly if every re-created proxy got ready under its
    eyes. -/
theorem reaper_watches_iff {public_host : Val} :
    Lts.Path Step (fun t _ => t.Watched) (start public_host) s ∧ s.Watched ↔
      Lts.Path Step WatchesRecreated (start public_host) s :=
  Lts.Path.holds_iff (fun h _ hstep => h.step hstep) (fun h hw hstep => hw.step_iff h hstep)
    (Sound.start public_host) (Watched.start public_host)

/-- The proxy that answers the second request is ready, and no reaper runs. -/
theorem reaper_off_askTwice : ∃ s, Lts.Path Step (fun _ _ => True) (start none) s ∧
    s.activeUdpProxy.own? "drone" = some 0 ∧ s.Ready (s.entries 0).m_udpproxy ∧
    s.reaperInterval = false := by
  have h : (run (fun _ _ => True) (start none) askTwice).map (fun s =>
      (s.activeUdpProxy.own? "drone", (s.entries 0).m_udpproxy, (s.proxies 1).socket1,
        (s.proxies 1).socket2, s.reaperInterval)) = some (some 0, 1, some 2, some 3, false) := by
    decide +kernel
  have hbinds : (run (fun _ _ => True) (start none) askTwice).map (fun s =>
      ((s.sockets 2).bind, (s.sockets 3).bind)) = some (.listening, .listening) := by
    decide +kernel
  obtain ⟨s, hs, hf⟩ := Option.map_eq_some_iff.mp h
  rw [hs, Option.map_some, Option.some.injEq] at hbinds
  simp only [Prod.mk.injEq] at hf hbinds
  obtain ⟨hrow, hproxy, hone, htwo, hoff⟩ := hf
  refine ⟨s, path_of_run hs, hrow, ⟨2, 3, ⟨?_, ?_⟩, hbinds.1, hbinds.2⟩, hoff⟩
  · rw [hproxy, hone]
  · rw [hproxy, htwo]

end UdpProxies

end DroneEngage
