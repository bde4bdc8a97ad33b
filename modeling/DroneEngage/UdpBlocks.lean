import DroneEngage.UdpWiring

/-! A proxy that AUTH has blocked forwards nothing until the block is lifted, as long as no request
    makes a new entry under its name: a new entry is not blocked. -/

namespace DroneEngage
open Js

namespace UdpProxies

variable {s s' t u v : UdpProxies} {p : ProxyId} {k l : UdpSocketId} {e : EntryId} {name : String}

/-- The entry under a name is blocked, and so is its proxy. -/
def Muted (s : UdpProxies) (name : String) : Prop :=
  ∀ e, s.activeUdpProxy.own? name = some e →
    (s.entries e).blocked = true ∧ (s.proxies (s.entries e).m_udpproxy).blocked = true

/-- The moves that can end a block: it is lifted, or a new entry takes the name. -/
def Move.Unmutes (name : String) : Move → Prop
  | .block name' blocked => name' = name ∧ blocked = false
  | .create name' _ => name' = name
  | _ => False

theorem Muted.moved {m : Move} (hs : s.Sound) (h : s.Muted name) (hm : Moved s m s')
    (hno : ¬ m.Unmutes name) : s'.Muted name := by
  intro e hrow
  cases hm with
  | quiet halike =>
    rw [halike.activeUdpProxy] at hrow
    rw [halike.entryBlocked, halike.m_udpproxy, halike.proxyBlocked]
    exact h e hrow
  | @block name' e' b hrow' =>
    by_cases hname : name' = name
    · subst hname
      obtain rfl : e = e' := Option.some.inj (hrow.symm.trans hrow')
      have hb : b = true := by
        cases b with
        | true => rfl
        | false => exact absurd ⟨rfl, rfl⟩ hno
      simp [setProxy, setEntry, hb]
    · have hp := hs.row_ne (Ne.symm hname) hrow hrow'
      have hne : e ≠ e' := fun heq => hp (by rw [heq])
      simpa [setProxy, setEntry, hne, hp] using h e hrow
  | @drop name' e' k l hrow' hlive =>
    rw [Table.own?_delete] at hrow
    split at hrow
    · exact absurd hrow (by simp)
    · next hname =>
      have hp := hs.row_ne hname hrow hrow'
      simpa [shut, hp] using h e hrow
  | @recreate name' e' k l onComplete hrow' hlive =>
    by_cases hname : name = name'
    · subst hname
      obtain rfl : e = e' := Option.some.inj (hrow.symm.trans hrow')
      obtain ⟨hblocked, -⟩ := h e hrow
      simp [replace, install, shut, hblocked]
    · have hp := hs.row_ne hname hrow hrow'
      have hne : e ≠ e' := fun heq => hp (by rw [heq])
      obtain ⟨i, j, hlive', -⟩ := hs.rows name e hrow
      have hlt := Nat.ne_of_lt (hs.toWired.lt hlive')
      simpa [replace, install, shut, hne, hp, hlt] using h e hrow
  | @create name' port1 port2 r now hrow' =>
    rcases Table.own?_assign_imp hrow with ⟨hname, -⟩ | hold
    · exact absurd hname.symm hno
    · obtain ⟨i, j, hlive', -⟩ := hs.rows name e hold
      have hlt := Nat.ne_of_lt (hs.toWired.lt hlive')
      have hne := Nat.ne_of_lt (hs.row_lt hold)
      simpa [install, newEntry, hne, hlt] using h e hold
  | ask => exact h e hrow
  | reply r report en => exact h e hrow
  | @ends _ k b p report en hk hp hb hb' halike =>
    have hsettled : ∀ request,
        (replied report en (s.settle k b p) request).activeUdpProxy = s.activeUdpProxy ∧
        (replied report en (s.settle k b p) request).entries = s.entries ∧
        ∀ q, ((replied report en (s.settle k b p) request).proxies q).blocked =
          (s.proxies q).blocked := by
      have hq : ∀ q, ((s.settle k b p).proxies q).blocked = (s.proxies q).blocked := by
        intro q
        simp only [settle, Function.update_apply]
        split
        · next heq => rw [heq]
        · rfl
      intro request
      cases request with
      | none => exact ⟨rfl, rfl, hq⟩
      | some r => exact ⟨rfl, rfl, hq⟩
    obtain ⟨htable, hentries, hproxies⟩ := hsettled (s.due b p)
    rw [halike.activeUdpProxy, htable] at hrow
    rw [halike.entryBlocked, halike.m_udpproxy, halike.proxyBlocked, hentries, hproxies]
    exact h e hrow

/-! ### Operations -/

/-- The entry's proxy has the ports that are asked for. -/
def servesPorts (s : UdpProxies) (e : EntryId) (port1 port2 : Val) : Bool :=
  match (s.proxies (s.entries e).m_udpproxy).socket1, (s.proxies (s.entries e).m_udpproxy).socket2 with
  | some k, some l => s.fits port1 port2 k l
  | _, _ => false

/-- A request under the name finds its entry, with the ports it asks for. -/
def ReusesRequest (s : UdpProxies) (name : String) (name' socket1 socket2 : Val) : Prop :=
  match s.lookupRequest name' socket1 socket2 with
  | .ok (some e, key, port1, port2) => key = name → s.servesPorts e port1 port2 = true
  | .ok (none, key, _) => key ≠ name
  | .error _ => True

/-- No operation makes a new entry under the name. -/
def ReusesEntry (name : String) (s : UdpProxies) : Op → Prop
  | .getUDPSocket name' socket1 socket2 _ => s.ReusesRequest name name' socket1 socket2
  | _ => True

/-- AUTH lifts the block. -/
def Op.Lifts (name : String) : Op → Prop
  | .setProxyBlocked name' blocked => name' = name ∧ blocked = false
  | _ => False

theorem Muted.opened {r : RequestId} {name' socket1 socket2 : Val} (hs : s.Sound)
    (h : s.Muted name) (hreuse : s.ReusesRequest name name' socket1 socket2)
    (ho : Opened s r name' socket1 socket2 s') : s'.Muted name := by
  rw [ReusesRequest] at hreuse
  cases ho with
  | thrown _ => exact h
  | fresh hlook hm => rw [hlook] at hreuse; exact h.moved hs hm hreuse
  | same _ _ _ _ hm hm' => exact (h.moved hs hm id).moved (hs.moved hm) hm' id
  | refreshed _ _ _ _ hm hm' => exact (h.moved hs hm id).moved (hs.moved hm) hm' id
  | reopened hlook hlive hfits hm hm' =>
    rw [hlook] at hreuse
    refine (h.moved hs hm id).moved (hs.moved hm) hm' fun hkey => ?_
    have hserves := hreuse hkey
    rw [servesPorts, hlive.1, hlive.2] at hserves
    exact absurd (hfits.symm.trans hserves) Bool.false_ne_true

/-- A block survives every operation that neither lifts it nor makes a new entry. -/
theorem Muted.step {o : Op} (hs : s.Sound) (h : s.Muted name) (hreuse : s.ReusesEntry name o)
    (hlift : ¬ o.Lifts name) (hstep : Step s o s') : s'.Muted name := by
  obtain ⟨hen, rfl⟩ := hstep
  cases o with
  | getUDPSocket name' socket1 socket2 now =>
    exact Muted.opened (hs.moved .ask) h hreuse
      (getUDPSocket_opened (hs.moved .ask) s.nextRequest name' socket1 socket2 now)
  | closeUDPSocket name' =>
    rw [final_closeUDPSocket]
    rcases closeUDPSocket_cases hs name' with ⟨-, hsame⟩ | ⟨key, e, -, -, hm⟩
    · rw [hsame]; exact h
    · exact h.moved hs hm id
  | setProxyBlocked name' blocked =>
    rw [final_setProxyBlocked]
    rcases setProxyBlocked_cases name' blocked s with ⟨-, hsame⟩ | hm
    · rw [hsame]; exact h
    · exact h.moved hs hm hlift
  | reaperTick now online =>
    have hpath := (tended_reaperTick now online s hs).1
    refine (hpath.invariant (P := fun t : UdpProxies => t.Sound ∧ t.Muted name)
      (fun {t m u} hP (ht : m.Tends) (hm : Moved t m u) =>
        ⟨hP.1.moved hm, hP.2.moved hP.1 hm fun hno => ?_⟩) ⟨hs, h⟩).2
    cases m <;> first
      | exact hno
      | exact ht
  | listening k host port now => exact h.moved hs (listeningEvent_moved hs hen host port now) id
  | bindError k code now => exact h.moved hs (bindErrorEvent_moved hs hen code now) id
  | message k message remote now =>
    exact h.moved hs (.quiet (messageEvent_alike k message remote now s)) id
  | error k => exact h

/-- A datagram for a blocked proxy goes nowhere. -/
theorem messageEvent_muted (hs : s.Sound) (h : s.Muted name)
    (hrow : s.activeUdpProxy.own? name = some e)
    (hk : (s.proxies (s.entries e).m_udpproxy).socket1 = some k ∨
      (s.proxies (s.entries e).m_udpproxy).socket2 = some k)
    (message : Bytes) (remote : Remote) (now : ℕ) :
    ((messageEvent k message remote now).final s).log = s.log := by
  have hparent := (hs.owns _ k hk).1
  have hblocked := (h e hrow).2
  have hdropped : ∀ other t, (t.proxies (s.entries e).m_udpproxy).blocked = true →
      ((onSocketReceive other message (some (s.entries e).m_udpproxy)).final t).log = t.log := by
    intro other t ht
    rw [onSocketReceive, deref_some, Action.final_ok_bind, Action.final_get_bind, if_pos ht]
    rfl
  have hkept : ((s.setSocket k fun w =>
      { w with lastAccessTime := now, caller := some remote }).sockets k).parent =
      some (s.entries e).m_udpproxy := by
    simp [setSocket, hparent]
  rw [messageEvent, Action.final_modify_bind, Action.final_get_bind, hkept]
  split
  · exact hdropped _ _ hblocked
  · exact hdropped _ _ hblocked

theorem muted_of_block (hm : Moved s (.block name true) s') : s'.Muted name := by
  cases hm with
  | block _ hrow =>
    intro e' hrow'
    obtain rfl := Option.some.inj (hrow.symm.trans hrow')
    simp [setProxy, setEntry]

theorem setProxyBlocked_muted (hs : s.Sound) : ((setProxyBlocked name true).final s).Sound ∧
    ((setProxyBlocked name true).final s).Muted name := by
  rcases setProxyBlocked_cases name true s with ⟨hnone, hsame⟩ | hm
  · rw [hsame]
    exact ⟨hs, fun e hrow => absurd (hnone.symm.trans hrow) (by simp)⟩
  · exact ⟨hs.moved hm, muted_of_block hm⟩

/-- In every run after AUTH has blocked the proxy under a name, in which AUTH does not lift the block
    and no request makes a new entry under the name, no datagram for it is passed on. -/
theorem block_holds {public_host : Val}
    (hs : Lts.Path Step (fun _ _ => True) (start public_host) s)
    (hset : setProxyBlocked name true s = (.ok true, t))
    (hrun : Lts.Path Step (fun u o => ¬ o.Lifts name ∧ u.ReusesEntry name o) t u)
    (hrow : u.activeUdpProxy.own? name = some e)
    (hk : (u.proxies (u.entries e).m_udpproxy).socket1 = some k ∨
      (u.proxies (u.entries e).m_udpproxy).socket2 = some k)
    {message : Bytes} {remote : Remote} {now : ℕ} (hmsg : Step u (.message k message remote now) v) :
    v.log = u.log := by
  have hsound : s.Sound := hs.invariant (fun hP _ hstep => hP.step hstep) (Sound.start public_host)
  have ht : t.Sound ∧ t.Muted name := by
    have hfinal : t = (setProxyBlocked name true).final s := by rw [Action.final, hset]
    rw [hfinal]
    exact setProxyBlocked_muted hsound
  have hu := hrun.invariant (P := fun u : UdpProxies => u.Sound ∧ u.Muted name)
    (fun {_ o _} hP (hc : ¬ o.Lifts name ∧ _) hstep =>
      ⟨hP.1.step hstep, hP.2.step hP.1 hc.2 hc.1 hstep⟩) ht
  rw [hmsg.2]
  exact messageEvent_muted hu.1 hu.2 hrow hk message remote now

instance (s : UdpProxies) (name : String) (name' socket1 socket2 : Val) :
    Decidable (s.ReusesRequest name name' socket1 socket2) :=
  match h : s.lookupRequest name' socket1 socket2 with
  | .ok (some e, key, port1, port2) => decidable_of_iff (key = name → s.servesPorts e port1 port2 = true)
      (by rw [ReusesRequest, h])
  | .ok (none, key, _) => decidable_of_iff (key ≠ name) (by rw [ReusesRequest, h])
  | .error _ => isTrue (by rw [ReusesRequest, h]; trivial)

instance (name : String) (s : UdpProxies) : ∀ o : Op, Decidable (s.ReusesEntry name o)
  | .getUDPSocket name' socket1 socket2 _ =>
    inferInstanceAs (Decidable (s.ReusesRequest name name' socket1 socket2))
  | .closeUDPSocket _ | .setProxyBlocked .. | .reaperTick .. | .listening .. | .bindError ..
  | .message .. | .error _ => isTrue trivial

instance (name : String) : ∀ o : Op, Decidable (o.Lifts name)
  | .setProxyBlocked name' blocked => inferInstanceAs (Decidable (name' = name ∧ blocked = false))
  | .getUDPSocket .. | .closeUDPSocket _ | .reaperTick .. | .listening .. | .bindError ..
  | .message .. | .error _ => isFalse id

/-- A vehicle has an open proxy. -/
def opened : List Op :=
  [.getUDPSocket (some (.str "drone")) anyPort anyPort 1000, .listening 0 "0.0.0.0" "5000" 1001,
    .listening 1 "0.0.0.0" "5001" 1002]

/-- The vehicle asks for its proxy again, and a datagram reaches the first socket. -/
def askedAgain : List Op :=
  [.getUDPSocket (some (.str "drone")) anyPort anyPort 2000, .message 0 [] ⟨"10.0.0.1", "6000"⟩ 2001]

/-- The vehicle closes its proxy and opens it again, and a datagram reaches the first socket. -/
def reopenedAgain : List Op :=
  [.closeUDPSocket (some (.str "drone")), .getUDPSocket (some (.str "drone")) anyPort anyPort 2000,
    .listening 2 "0.0.0.0" "5000" 2001, .listening 3 "0.0.0.0" "5001" 2002,
    .message 2 [] ⟨"10.0.0.1", "6000"⟩ 2003]

theorem setProxyBlocked_returns (h : (setProxyBlocked name true s).1.toOption = some true) :
    setProxyBlocked name true s = (.ok true, (setProxyBlocked name true).final s) := by
  rw [Action.final]
  rcases hres : setProxyBlocked name true s with ⟨x | b, t⟩
  · rw [hres] at h; exact absurd h (by simp [Except.toOption])
  · rw [hres] at h
    obtain rfl : b = true := by simpa [Except.toOption] using h
    rfl

/-- A datagram for the second socket of the blocked proxy is dropped. -/
theorem block_holds_askedAgain : ∃ s t u v,
    Lts.Path Step (fun _ _ => True) (start none) s ∧
    setProxyBlocked "drone" true s = (.ok true, t) ∧
    Lts.Path Step (fun u o => ¬ o.Lifts "drone" ∧ u.ReusesEntry "drone" o) t u ∧
    Step u (.message 1 [] ⟨"10.0.0.2", "6001"⟩ 2002) v ∧ v.log = u.log := by
  have h : ((run (fun _ _ => True) (start none) opened).bind fun s =>
      (run (fun u o => ¬ o.Lifts "drone" ∧ u.ReusesEntry "drone" o)
        ((setProxyBlocked "drone" true).final s) askedAgain).map fun u =>
          ((setProxyBlocked "drone" true s).1.toOption, u.activeUdpProxy.own? "drone",
            (u.proxies (u.entries 0).m_udpproxy).socket2, (u.sockets 1).bind)) =
      some (some true, some 0, some 1, .listening) := by decide +kernel
  obtain ⟨s, hs, h⟩ := Option.bind_eq_some_iff.mp h
  obtain ⟨u, hu, hf⟩ := Option.map_eq_some_iff.mp h
  simp only [Prod.mk.injEq] at hf
  obtain ⟨hset, hrow, hsocket, hbind⟩ := hf
  have hset' := setProxyBlocked_returns hset
  refine ⟨s, _, u, _, path_of_run hs, hset', path_of_run hu, ⟨hbind, rfl⟩, ?_⟩
  exact block_holds (path_of_run hs) hset' (path_of_run hu) hrow (Or.inr hsocket) ⟨hbind, rfl⟩

/-- A datagram for the second socket of the new proxy is passed on, though the block was not lifted. -/
theorem block_holds_reopenedAgain : ∃ s t u v,
    Lts.Path Step (fun _ _ => True) (start none) s ∧
    setProxyBlocked "drone" true s = (.ok true, t) ∧
    Lts.Path Step (fun _ o => ¬ o.Lifts "drone") t u ∧
    u.activeUdpProxy.own? "drone" = some 1 ∧
    (u.proxies (u.entries 1).m_udpproxy).socket2 = some 3 ∧
    Step u (.message 3 [] ⟨"10.0.0.2", "6001"⟩ 2004) v ∧
    v.log = u.log ++ [.sent 2 [] ⟨"10.0.0.1", "6000"⟩] := by
  have h : ((run (fun _ _ => True) (start none) opened).bind fun s =>
      (run (fun _ o => ¬ o.Lifts "drone") ((setProxyBlocked "drone" true).final s)
        reopenedAgain).map fun u =>
          ((setProxyBlocked "drone" true s).1.toOption, u.activeUdpProxy.own? "drone",
            (u.proxies (u.entries 1).m_udpproxy).socket2, (u.sockets 3).bind,
            decide (((perform (.message 3 [] ⟨"10.0.0.2", "6001"⟩ 2004)).final u).log =
              u.log ++ [.sent 2 [] ⟨"10.0.0.1", "6000"⟩]))) =
      some (some true, some 1, some 3, .listening, true) := by decide +kernel
  obtain ⟨s, hs, h⟩ := Option.bind_eq_some_iff.mp h
  obtain ⟨u, hu, hf⟩ := Option.map_eq_some_iff.mp h
  simp only [Prod.mk.injEq, decide_eq_true_eq] at hf
  obtain ⟨hset, hrow, hsocket, hbind, hlog⟩ := hf
  exact ⟨s, _, u, _, path_of_run hs, setProxyBlocked_returns hset, path_of_run hu, hrow, hsocket,
    ⟨hbind, rfl⟩, hlog⟩

end UdpProxies

end DroneEngage
