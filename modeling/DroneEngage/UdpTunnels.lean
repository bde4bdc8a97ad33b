import DroneEngage.Tunnels
import DroneEngage.UdpPeers

/-! What the UDP proxies are for: under each name a tunnel between two peers.

    The module keeps sockets, proxies and entries and hands callbacks around; its table leads from a
    name to the proxy it has at the moment. Seen from outside, only the tunnels are there: which peers
    the two sockets of that proxy know, and whether it is blocked. Every operation does to them what
    its label says. -/

namespace DroneEngage
open Js

namespace UdpProxies

variable {s s' : UdpProxies} {p : ProxyId} {k l : UdpSocketId} {e : EntryId} {name : String}

/-! ### What is under a name -/

/-- The sockets of the proxy under a name, and the flags that block it. -/
structure Sides where
  one : Option UdpSocketId
  two : Option UdpSocketId
  blocked : Bool
  entryBlocked : Bool

/-- What an entry of the table leads to. -/
def sidesOf (s : UdpProxies) (e : EntryId) : Sides where
  one := (s.proxies (s.entries e).m_udpproxy).socket1
  two := (s.proxies (s.entries e).m_udpproxy).socket2
  blocked := (s.proxies (s.entries e).m_udpproxy).blocked
  entryBlocked := (s.entries e).blocked

def sides (s : UdpProxies) (name : String) : Option Sides :=
  (s.activeUdpProxy.own? name).map s.sidesOf

/-- What a move does under the names, when `n` is the next socket. -/
def Move.sides (n : UdpSocketId) (old : String → Option Sides) : Move → String → Option Sides
  | .block name blocked => Function.update old name
      ((old name).map fun x => { x with blocked, entryBlocked := blocked })
  | .drop name => Function.update old name none
  | .recreate name _ => Function.update old name ((old name).map fun x =>
      ⟨some n, some (n + 1), x.entryBlocked, x.entryBlocked⟩)
  | .create name _ => Function.update old name (some ⟨some n, some (n + 1), false, false⟩)
  | .quiet | .ask | .reply _ | .ends .. => old

/-- The rows lead to the same objects. -/
theorem sides_eq (htable : s'.activeUdpProxy = s.activeUdpProxy)
    (hentries : ∀ e, (s'.entries e).m_udpproxy = (s.entries e).m_udpproxy ∧
      (s'.entries e).blocked = (s.entries e).blocked)
    (hproxies : ∀ p, (s'.proxies p).socket1 = (s.proxies p).socket1 ∧
      (s'.proxies p).socket2 = (s.proxies p).socket2 ∧
      (s'.proxies p).blocked = (s.proxies p).blocked) : s'.sides = s.sides := by
  funext name
  rw [sides, sides, htable]
  congr 1
  funext e
  obtain ⟨hp, hb⟩ := hentries e
  obtain ⟨hone, htwo, hblocked⟩ := hproxies (s.entries e).m_udpproxy
  rw [sidesOf, sidesOf, hp, hb, hone, htwo, hblocked]

theorem Alike.sides (h : Alike s s') : s'.sides = s.sides :=
  sides_eq h.activeUdpProxy (fun e => ⟨h.m_udpproxy e, h.entryBlocked e⟩)
    fun p => ⟨(h.proxies p).2.2.1, (h.proxies p).2.2.2, h.proxyBlocked p⟩

/-- A move that concerns one row leaves the others alone. -/
theorem sides_update (new : Option Sides) (hname : s'.sides name = new)
    (hother : ∀ name', name' ≠ name → s'.activeUdpProxy.own? name' = s.activeUdpProxy.own? name')
    (hsides : ∀ name' e, name' ≠ name → s.activeUdpProxy.own? name' = some e →
      s'.sidesOf e = s.sidesOf e) : s'.sides = Function.update s.sides name new := by
  funext name'
  rw [Function.update_apply]
  split
  · next heq => rw [heq, hname]
  · next hne =>
    rw [sides, sides, hother name' hne]
    cases hrow : s.activeUdpProxy.own? name' with
    | none => rfl
    | some e => rw [Option.map_some, Option.map_some, hsides name' e hne hrow]

theorem sides_of_row (hrow : s.activeUdpProxy.own? name = some e) :
    s.sides name = some (s.sidesOf e) := by
  rw [sides, hrow, Option.map_some]

/-- What every move does under the names. -/
theorem Sound.sides_moved {m : Move} (h : s.Sound) (hm : Moved s m s')
    (hassign : ∀ name r, m = .create name r → name ≠ "__proto__") :
    s'.sides = m.sides s.nextSocket s.sides := by
  cases hm with
  | quiet halike => exact halike.sides
  | ask => rfl
  | reply r report en => rfl
  | @block name e blocked hrow =>
    refine sides_update _ ?_ (fun _ _ => rfl) fun name' e' hne hrow' => ?_
    · change Option.map _ (s.activeUdpProxy.own? name) = _
      rw [hrow, sides_of_row hrow, Option.map_some, Option.map_some]
      simp [sidesOf, setProxy, setEntry]
    · have hp := h.row_ne hne hrow' hrow
      have hne' : e' ≠ e := fun heq => hp (by rw [heq])
      simp [sidesOf, setProxy, setEntry, hp, hne']
  | @drop name e k l hrow hlive =>
    refine sides_update _ ?_ (fun name' hne => ?_) fun name' e' hne hrow' => ?_
    · rw [sides, Table.own?_delete_self, Option.map_none]
    · rw [Table.own?_delete, if_neg hne]
    · have hp := h.row_ne hne hrow' hrow
      simp [sidesOf, shut, hp]
  | @recreate name e k l onComplete hrow hlive =>
    refine sides_update _ ?_ (fun _ _ => rfl) fun name' e' hne hrow' => ?_
    · change Option.map _ (s.activeUdpProxy.own? name) = _
      rw [hrow, sides_of_row hrow, Option.map_some, Option.map_some]
      simp [sidesOf, UdpProxies.replace, install, shut]
    · have hp := h.row_ne hne hrow' hrow
      have hne' : e' ≠ e := fun heq => hp (by rw [heq])
      obtain ⟨i, j, hlive', -⟩ := h.rows name' e' hrow'
      have hlt := Nat.ne_of_lt (h.toWired.lt hlive')
      simp [sidesOf, UdpProxies.replace, install, shut, hp, hne', hlt]
  | @create name port1 port2 r now hrow =>
    have htable : (newEntry name port1 port2 now s).activeUdpProxy =
        s.activeUdpProxy.insert name s.nextEntry :=
      Table.assign_of_assignable (fun hproto => hassign name r rfl hproto.1) _ _
    refine sides_update _ ?_ (fun name' hne => ?_) fun name' e' hne hrow' => ?_
    · have hrow' : (newEntry name port1 port2 now s).activeUdpProxy.own? name =
          some s.nextEntry := by rw [htable, Table.own?_insert, if_pos rfl]
      change Option.map _ ((newEntry name port1 port2 now s).activeUdpProxy.own? name) = _
      rw [hrow', Option.map_some]
      simp [sidesOf, install, newEntry]
    · change (newEntry name port1 port2 now s).activeUdpProxy.own? name' = _
      rw [htable, Table.own?_insert, if_neg hne]
    · obtain ⟨i, j, hlive', -⟩ := h.rows name' e' hrow'
      have hlt := Nat.ne_of_lt (h.toWired.lt hlive')
      have hne' := Nat.ne_of_lt (h.row_lt hrow')
      simp [sidesOf, install, newEntry, hne', hlt]
  | @ends _ k b p report en hk hp hb hb' halike =>
    have hsettled : (s.settle k b p).sides = s.sides := by
      refine sides_eq rfl (fun _ => ⟨rfl, rfl⟩) fun q => ?_
      simp only [UdpProxies.settle, Function.update_apply]
      split
      · next hq => subst hq; exact ⟨rfl, rfl, rfl⟩
      · exact ⟨rfl, rfl, rfl⟩
    rw [halike.sides, Move.sides, ← hsettled]
    cases s.due b p with
    | none => rfl
    | some r => rfl

/-! ### The tunnels -/

open Tunnels

/-- The socket at an end. -/
def Sides.socket (x : Sides) : End → Option UdpSocketId
  | .near => x.one
  | .far => x.two

/-- The tunnel between the peers of two sockets. -/
def tunnelOf (s : UdpProxies) (x : Sides) : Tunnel Remote where
  peer y := (x.socket y).bind fun k => (s.sockets k).caller
  blocked := x.blocked

theorem tunnelOf_peer (s : UdpProxies) (x : Sides) (y : End) :
    (s.tunnelOf x).peer y = (x.socket y).bind fun k => (s.sockets k).caller := rfl

/-- The tunnel under a name. -/
def tunnel (s : UdpProxies) (name : String) : Option (Tunnel Remote) :=
  (s.sides name).map s.tunnelOf

/-- An entry and its proxy are blocked together. -/
def Flagged (s : UdpProxies) : Prop := ∀ name x, s.sides name = some x → x.entryBlocked = x.blocked

/-- What the tunnels rest on. -/
structure Lined (s : UdpProxies) : Prop extends Accounted s where
  faced : s.Faced
  flagged : s.Flagged

theorem Lined.start (public_host : Val) : (start public_host).Lined where
  toAccounted := Accounted.start public_host
  faced := ⟨by simp [UdpProxies.start], by simp [UdpProxies.start], by simp [UdpProxies.start],
    fun _ _ => rfl⟩
  flagged := fun name x hx => absurd hx (by simp [sides, UdpProxies.start, Table.own?, Table.empty])

/-- The sockets under a name. -/
theorem Sound.sides_some (h : s.Sound) {x : Sides} (hx : s.sides name = some x) :
    ∃ e k l, s.activeUdpProxy.own? name = some e ∧ s.Live (s.entries e).m_udpproxy k l ∧
      x.one = some k ∧ x.two = some l ∧ x.blocked = (s.proxies (s.entries e).m_udpproxy).blocked := by
  obtain ⟨e, hrow, rfl⟩ := Option.map_eq_some_iff.mp hx
  obtain ⟨k, l, hlive, -⟩ := h.rows name e hrow
  exact ⟨e, k, l, hrow, hlive, hlive.1, hlive.2, rfl⟩

/-- Sockets that were there keep their peers. -/
theorem Hushed.tunnelOf_old (h : Hushed s s') (hs : s.Sound) (hf : s.Faced) {x : Sides}
    (hx : s.sides name = some x) : s'.tunnelOf x = s.tunnelOf x := by
  obtain ⟨e, k, l, -, hlive, hone, htwo, -⟩ := hs.sides_some hx
  have hk := h.caller k (hf.known _ k (Or.inl hlive.1))
  have hl := h.caller l (hf.known _ l (Or.inr hlive.2))
  rw [tunnelOf, tunnelOf]
  congr 1
  funext y
  cases y with
  | near => rw [Sides.socket, hone]; exact hk
  | far => rw [Sides.socket, htwo]; exact hl

/-- New sockets have no peers. -/
theorem Hushed.tunnelOf_new (h : Hushed s s') (hf : s.Faced) (hk : s.nextSocket ≤ k)
    (hl : s.nextSocket ≤ l) (blocked entryBlocked : Bool) :
    s'.tunnelOf ⟨some k, some l, blocked, entryBlocked⟩ = { blocked } := by
  have hnone := (h.faced hf).2
  rw [tunnelOf]
  congr 1
  funext y
  cases y with
  | near => exact hnone k hk
  | far => exact hnone l hl

/-- An operation that leaves the rows as they are leaves the tunnels as they are. -/
theorem Hushed.tunnel_same (h : Hushed s s') (hs : s.Sound) (hf : s.Faced)
    (hsides : s'.sides = s.sides) : s'.tunnel = s.tunnel := by
  funext name
  rw [tunnel, tunnel, hsides]
  cases hx : s.sides name with
  | none => rfl
  | some x => rw [Option.map_some, Option.map_some, h.tunnelOf_old hs hf hx]

/-- An operation that concerns one row concerns one tunnel. -/
theorem Hushed.tunnel_update (h : Hushed s s') (hs : s.Sound) (hf : s.Faced) {new : Option Sides}
    (hsides : s'.sides = Function.update s.sides name new) :
    s'.tunnel = Function.update s.tunnel name (new.map s'.tunnelOf) := by
  funext name'
  rw [tunnel, hsides, Function.update_apply, Function.update_apply]
  split
  · rfl
  · rw [tunnel]
    cases hx : s.sides name' with
    | none => rfl
    | some x => rw [Option.map_some, Option.map_some, h.tunnelOf_old hs hf hx]

/-- Every operation is made of moves, and none makes an entry under the one name that stores nothing. -/
def Assigns : Move → Prop
  | .create name _ => name ≠ "__proto__"
  | _ => True

theorem Assigns.ne_proto {m : Move} (h : Assigns m) (name : String) (r : RequestId)
    (hm : m = .create name r) : name ≠ "__proto__" := by
  subst hm
  exact h

theorem path_of_moved {m : Move} (hm : Moved s m s') (ha : Assigns m) :
    Lts.Path Moved (fun _ m => Assigns m) s s' := .single ha hm

theorem Opened.path {r : RequestId} {key socket1 socket2 : Val} (hkey : propKey key ≠ .ok "__proto__")
    (ho : Opened s r key socket1 socket2 s') : Lts.Path Moved (fun _ m => Assigns m) s s' := by
  have hname : ∀ {entry : Option EntryId} {name : String} {port1 port2 : Val},
      s.lookupRequest key socket1 socket2 = .ok (entry, name, port1, port2) → name ≠ "__proto__" := by
    rintro entry name port1 port2 hlook rfl
    exact hkey (lookupRequest_eq_ok hlook).2.1
  cases ho with
  | thrown _ => exact .refl
  | fresh hlook hm => exact path_of_moved hm (hname hlook)
  | same _ _ _ _ hm hm' | refreshed _ _ _ _ hm hm' =>
    exact (path_of_moved hm True.intro).trans (path_of_moved hm' True.intro)
  | reopened hlook _ _ hm hm' =>
    exact (path_of_moved hm True.intro).trans (path_of_moved hm' (hname hlook))

theorem Sound.path {o : Op} (h : s.Sound) (ho : s.OwnKeys o) (hstep : Step s o s') :
    Lts.Path Moved (fun _ m => Assigns m) s s' := by
  obtain ⟨hen, rfl⟩ := hstep
  cases o with
  | getUDPSocket key socket1 socket2 now =>
    exact (path_of_moved .ask True.intro).trans
      ((getUDPSocket_opened (h.moved .ask) s.nextRequest key socket1 socket2 now).path ho)
  | closeUDPSocket key =>
    rw [final_closeUDPSocket]
    rcases closeUDPSocket_cases h key with ⟨-, hsame⟩ | ⟨name, e, -, -, hm⟩
    · rw [hsame]; exact .refl
    · exact path_of_moved hm True.intro
  | setProxyBlocked name blocked =>
    rw [final_setProxyBlocked]
    rcases setProxyBlocked_cases name blocked s with ⟨-, hsame⟩ | hm
    · rw [hsame]; exact .refl
    · exact path_of_moved hm True.intro
  | reaperTick now online =>
    refine (tended_reaperTick now online s h).1.mono fun {_ m} hm => ?_
    cases m <;> first
      | exact trivial
      | exact hm.elim
  | listening k host port now =>
    exact path_of_moved (listeningEvent_moved h hen host port now) True.intro
  | bindError k code now =>
    exact path_of_moved (bindErrorEvent_moved h hen code now) True.intro
  | message k message remote now =>
    exact path_of_moved (.quiet (messageEvent_alike k message remote now s)) True.intro
  | error k => exact .refl

theorem Flagged.moved {m : Move} (h : s.Flagged) (hs : s.Sound) (hm : Moved s m s')
    (hassign : Assigns m) : s'.Flagged := by
  have hupdate : ∀ name' new, (∀ x, new = some x → x.entryBlocked = x.blocked) →
      s'.sides = Function.update s.sides name' new → s'.Flagged := by
    intro name' new hnew hsides name x hx
    rw [hsides, Function.update_apply] at hx
    split at hx
    · exact hnew x hx
    · exact h name x hx
  have hsides := hs.sides_moved hm hassign.ne_proto
  cases m with
  | quiet | ask | reply | ends => exact fun name x hx => h name x (by rw [← hx, hsides]; rfl)
  | block name blocked =>
    refine hupdate name _ (fun x hx => ?_) hsides
    obtain ⟨y, -, rfl⟩ := Option.map_eq_some_iff.mp hx
    rfl
  | drop name => exact hupdate name none (by simp) hsides
  | recreate name r =>
    refine hupdate name _ (fun x hx => ?_) hsides
    obtain ⟨y, -, rfl⟩ := Option.map_eq_some_iff.mp hx
    rfl
  | create name r =>
    refine hupdate name _ (fun x hx => ?_) hsides
    obtain rfl := Option.some.inj hx
    rfl

/-- What is kept for the tunnels, every operation keeps. -/
theorem Lined.step {o : Op} (h : s.Lined) (ho : s.OwnKeys o) (hfaced : s'.Faced)
    (hstep : Step s o s') : s'.Lined where
  toAccounted := h.toAccounted.step ho hstep
  faced := hfaced
  flagged := ((h.toSound.path ho hstep).invariant (P := fun t : UdpProxies => t.Sound ∧ t.Flagged)
    (fun {t m u} hP (hm : Assigns m) (hmoved : Moved t m u) =>
      ⟨hP.1.moved hmoved, hP.2.moved hP.1 hmoved hm⟩) ⟨h.toSound, h.flagged⟩).2

/-! ### The reaper and the tunnels -/

/-- A proxy has taken the place of another one, with sockets from `n` on. -/
def Rebuilt (n : UdpSocketId) (old new : Option Sides) : Prop :=
  ∃ x k l, old = some x ∧ new = some ⟨some k, some l, x.blocked, x.blocked⟩ ∧ n ≤ k ∧ n ≤ l

/-- What the reaper leaves under a name. -/
def Upkept (n : UdpSocketId) (old new : Option Sides) : Prop :=
  new = old ∨ new = none ∨ Rebuilt n old new

theorem moved_nextSocket {m : Move} (hm : Moved s m s') : s.nextSocket ≤ s'.nextSocket := by
  cases hm with
  | quiet halike => exact halike.nextSocket.ge
  | @ends _ k b p report en hk hp hb hb' halike =>
    refine Nat.le_of_eq (Eq.trans ?_ halike.nextSocket.symm)
    cases s.due b p with
    | none => rfl
    | some r => rfl
  | block | drop | ask | reply => exact Nat.le_refl _
  | recreate | create => exact Nat.le_add_right _ 2

/-- One move of the reaper. -/
theorem Upkept.moved {t u : UdpProxies} {m : Move} {n : UdpSocketId} (ht : t.Sound)
    (hf : t.Flagged) (hn : n ≤ t.nextSocket) (h : ∀ name, Upkept n (s.sides name) (t.sides name))
    (hm : Moved t m u) (htends : m.Tends) (name : String) :
    Upkept n (s.sides name) (u.sides name) := by
  have hsides : u.sides = m.sides t.nextSocket t.sides := ht.sides_moved hm (by
    rintro name r rfl
    exact htends.elim)
  rw [hsides]
  cases m with
  | quiet => exact h name
  | drop name' =>
    simp only [Move.sides, Function.update_apply]
    split
    · exact Or.inr (Or.inl rfl)
    · exact h name
  | recreate name' r =>
    simp only [Move.sides, Function.update_apply]
    split
    · next heq =>
      subst heq
      cases hx : t.sides name with
      | none => exact Or.inr (Or.inl rfl)
      | some x =>
        -- the proxy that is replaced was there before the round, or is itself a new one
        obtain ⟨y, hy, hblocked⟩ : ∃ y, s.sides name = some y ∧ x.blocked = y.blocked := by
          rcases h name with heq | heq | ⟨y, k, l, hy, heq, -, -⟩
          · exact ⟨x, heq.symm.trans hx, rfl⟩
          · exact absurd (hx.symm.trans heq) (by simp)
          · obtain rfl := Option.some.inj (hx.symm.trans heq)
            exact ⟨y, hy, rfl⟩
        refine Or.inr (Or.inr ⟨y, _, _, hy, ?_, hn, Nat.le_succ_of_le hn⟩)
        rw [Option.map_some, hf name x hx, hblocked]
    · exact h name
  | block | create | ask | reply | ends => exact htends.elim

/-- A round of the reaper. -/
theorem Lined.upkept (h : s.Lined) (now : ℕ) (online : String → Bool) (name : String) :
    Upkept s.nextSocket (s.sides name) (((reaperTick now online).final s).sides name) := by
  have hpath := (tended_reaperTick now online s h.toSound).1
  refine (hpath.invariant (P := fun t : UdpProxies => (t.Sound ∧ t.Flagged) ∧
    s.nextSocket ≤ t.nextSocket ∧ ∀ name, Upkept s.nextSocket (s.sides name) (t.sides name))
    ?_ ⟨⟨h.toSound, h.flagged⟩, Nat.le_refl _, fun _ => Or.inl rfl⟩).2.2 name
  rintro t m u ⟨⟨ht, hf⟩, hn, hkept⟩ htends hm
  refine ⟨⟨ht.moved hm, hf.moved ht hm ?_⟩, Nat.le_trans hn (moved_nextSocket hm),
    Upkept.moved ht hf hn hkept hm htends⟩
  cases m <;> first
    | exact True.intro
    | exact htends.elim

/-! ### Datagrams -/

/-- A socket takes note of who spoke. -/
def noted (k : UdpSocketId) (remote : Remote) (now : ℕ) (s : UdpProxies) : UdpProxies :=
  s.setSocket k fun w => { w with lastAccessTime := now, caller := some remote }

/-- The datagram goes to the peer of a socket, unless the proxy is blocked. -/
def passedOn (p : ProxyId) (l : UdpSocketId) (message : Bytes) (s : UdpProxies) : UdpProxies :=
  if (s.proxies p).blocked then s
  else match (s.sockets l).caller with
    | none => s
    | some caller => s.emit (.sent l message caller)

theorem log_passedOn (p : ProxyId) (l : UdpSocketId) (message : Bytes) (s : UdpProxies) :
    (s.passedOn p l message).log = s.log ++ if (s.proxies p).blocked then []
      else (s.sockets l).caller.toList.map (UdpEffect.sent l message) := by
  rw [passedOn]
  split
  · exact (List.append_nil _).symm
  · cases (s.sockets l).caller with
    | none => exact (List.append_nil _).symm
    | some caller => rfl

theorem sockets_passedOn (p : ProxyId) (l : UdpSocketId) (message : Bytes) (s : UdpProxies) :
    (s.passedOn p l message).sockets = s.sockets := by
  rw [passedOn]
  split
  · rfl
  · cases (s.sockets l).caller with
    | none => rfl
    | some caller => rfl

theorem final_onSocketReceive {other : UdpProxy → Option UdpSocketId}
    (hother : other (s.proxies p) = some l) (message : Bytes) :
    (onSocketReceive other message (some p)).final s = s.passedOn p l message := by
  rw [onSocketReceive, deref_some, Action.final_ok_bind, Action.final_get_bind, passedOn]
  split
  · rfl
  · rw [hother, deref_some, Action.final_ok_bind, sendMessage, Action.final_get_bind]
    cases (s.sockets l).caller with
    | none => rfl
    | some caller => rfl

/-- A datagram on one socket of a proxy. -/
theorem final_messageEvent (hparent : (s.sockets k).parent = some p)
    (hside : (s.sockets k).side = .one ∧ (s.proxies p).socket2 = some l ∨
      (s.sockets k).side = .two ∧ (s.proxies p).socket1 = some l)
    (message : Bytes) (remote : Remote) (now : ℕ) :
    (messageEvent k message remote now).final s = (s.noted k remote now).passedOn p l message := by
  have hkept : ((s.noted k remote now).sockets k).parent = some p ∧
      ((s.noted k remote now).sockets k).side = (s.sockets k).side := by
    simp [noted, setSocket, hparent]
  rw [messageEvent, Action.final_modify_bind, Action.final_get_bind]
  simp only [noted] at hkept ⊢
  rw [hkept.1, hkept.2]
  rcases hside with ⟨hone, hl⟩ | ⟨htwo, hl⟩
  · rw [hone]
    exact final_onSocketReceive (s := s.noted k remote now) hl message
  · rw [htwo]
    exact final_onSocketReceive (s := s.noted k remote now) hl message

/-! ### Names of sockets -/

/-- The end that the socket is for the proxy of a row. -/
def endIn (s : UdpProxies) (k : UdpSocketId) (row : String × EntryId) : Option (String × End) :=
  if (s.sidesOf row.2).one = some k then some (row.1, .near)
  else if (s.sidesOf row.2).two = some k then some (row.1, .far) else none

/-- The name and the end a socket stands for. -/
def place (s : UdpProxies) (k : UdpSocketId) : Option (String × End) :=
  s.activeUdpProxy.rows.findSome? (s.endIn k)

/-- A socket of the proxy under a name is an end of no other row. -/
theorem Sound.endIn_row (h : s.Sound) (hrow : s.activeUdpProxy.own? name = some e)
    (hk : (s.sidesOf e).one = some k ∨ (s.sidesOf e).two = some k) {row : String × EntryId}
    (hmem : row ∈ s.activeUdpProxy.rows) (hend : s.endIn k row ≠ none) : row = (name, e) := by
  obtain ⟨name', e'⟩ := row
  have hown := Table.own?_of_mem_rows hmem
  have hk' : (s.sidesOf e').one = some k ∨ (s.sidesOf e').two = some k := by
    by_contra hno
    obtain ⟨hone, htwo⟩ := not_or.mp hno
    exact hend (by rw [endIn, if_neg hone, if_neg htwo])
  have hp : (s.entries e').m_udpproxy = (s.entries e).m_udpproxy :=
    Option.some.inj ((h.owns _ k hk').1.symm.trans (h.owns _ k hk).1)
  by_cases hname : name' = name
  · subst hname
    rw [Option.some.inj (hown.symm.trans hrow)]
  · exact absurd hp (h.row_ne hname hown hrow)

theorem Sound.place_row (h : s.Sound) (hrow : s.activeUdpProxy.own? name = some e)
    (hk : (s.sidesOf e).one = some k ∨ (s.sidesOf e).two = some k) {x : String × End}
    (hend : s.endIn k (name, e) = some x) : s.place k = some x := by
  rw [place]
  cases hf : s.activeUdpProxy.rows.findSome? (s.endIn k) with
  | none =>
    have hnone := List.findSome?_eq_none_iff.mp hf _ (Table.mem_rows_of_own? hrow)
    exact absurd (hnone.symm.trans hend) (by simp)
  | some y =>
    obtain ⟨row, hmem, hy⟩ := List.exists_of_findSome?_eq_some hf
    rw [h.endIn_row hrow hk hmem (by rw [hy]; simp)] at hy
    exact hy.symm.trans hend

/-- The two sockets under a name stand for its ends. -/
theorem Sound.place_eq (h : s.Sound) (hrow : s.activeUdpProxy.own? name = some e)
    (hlive : s.Live (s.entries e).m_udpproxy k l) :
    s.place k = some (name, .near) ∧ s.place l = some (name, .far) := by
  have hapart : k ≠ l := fun hkl => h.apart _ k hlive.1 (hkl ▸ hlive.2)
  have hone : (s.sidesOf e).one = some k := hlive.1
  have htwo : (s.sidesOf e).two = some l := hlive.2
  refine ⟨h.place_row hrow (Or.inl hone) ?_, h.place_row hrow (Or.inr htwo) ?_⟩
  · rw [endIn, if_pos hone]
  · rw [endIn, if_neg fun heq => hapart (Option.some.inj (hone.symm.trans heq)), if_pos htwo]

theorem Sound.place_socket (h : s.Sound) (hrow : s.activeUdpProxy.own? name = some e) {y : End}
    (hk : (s.sidesOf e).socket y = some k) : s.place k = some (name, y) := by
  obtain ⟨i, j, hlive, -⟩ := h.rows name e hrow
  obtain ⟨hi, hj⟩ := h.place_eq hrow hlive
  cases y with
  | near =>
    obtain rfl := Option.some.inj (hlive.1.symm.trans hk)
    exact hi
  | far =>
    obtain rfl := Option.some.inj (hlive.2.symm.trans hk)
    exact hj

theorem Sound.parent_socket (h : s.Sound) {y : End} (hk : (s.sidesOf e).socket y = some k) :
    (s.sockets k).parent = some (s.entries e).m_udpproxy := by
  cases y with
  | near => exact (h.owns _ k (Or.inl hk)).1
  | far => exact (h.owns _ k (Or.inr hk)).1

/-- A listening socket belongs to the proxy under some name. -/
theorem Accounted.listening (h : s.Accounted) (hk : (s.sockets k).bind = .listening) :
    ∃ name e i j, s.activeUdpProxy.own? name = some e ∧ s.Live (s.entries e).m_udpproxy i j ∧
      (i = k ∨ j = k) := by
  obtain ⟨p, hp⟩ := h.belongs k (by rw [hk]; simp)
  obtain ⟨i, j, hlive⟩ : ∃ i j, s.Live p i j := by
    rcases hp with hone | htwo
    · obtain ⟨j, hj⟩ := h.live hone
      exact ⟨k, j, hj⟩
    · cases hone : (s.proxies p).socket1 with
      | none => exact absurd ((h.both p).mp hone) (by rw [htwo]; simp)
      | some i => exact ⟨i, k, hone, htwo⟩
  obtain ⟨name, hrow⟩ := h.stored p i j hlive
  refine ⟨name, _, i, j, hrow, ?_, ?_⟩
  · rw [(h.current p i j hlive).2]
    exact hlive
  · rcases hp with hone | htwo
    · exact Or.inl (Option.some.inj (hlive.1.symm.trans hone))
    · exact Or.inr (Option.some.inj (hlive.2.symm.trans htwo))

/-! ### Requests -/

/-- What a request leaves under its name. -/
def Requested (n : UdpSocketId) (old new : Option Sides) : Prop :=
  new = old ∨ Rebuilt n old new ∨
    ∃ k l, new = some ⟨some k, some l, false, false⟩ ∧ n ≤ k ∧ n ≤ l

/-- A request does nothing, or something under its name. -/
theorem Opened.sides {r : RequestId} {key socket1 socket2 : Val} (hs : s.Sound) (hf : s.Flagged)
    (hkey : propKey key ≠ .ok "__proto__") (ho : Opened s r key socket1 socket2 s') :
    s'.sides = s.sides ∨ ∃ name new, propKey key = .ok name ∧
      s'.sides = Function.update s.sides name new ∧
        Requested s.nextSocket (s.sides name) new := by
  cases ho with
  | thrown _ => exact Or.inl rfl
  | same _ _ _ _ hm hm' =>
    have hquiet := hs.sides_moved hm (by simp)
    have hreply := (hs.moved hm).sides_moved hm' (by simp)
    exact Or.inl (hreply.trans hquiet)
  | @fresh name _ _ _ hlook hm =>
    have hname := (lookupRequest_eq_ok hlook).2.1
    refine Or.inr ⟨name, _, hname, hs.sides_moved hm ?_, Or.inr (Or.inr ⟨_, _, rfl, Nat.le_refl _,
      Nat.le_succ _⟩)⟩
    rintro _ _ ⟨⟩ rfl
    exact hkey hname
  | @refreshed name e _ _ k l t _ hlook hlive _ _ hm hm' =>
    obtain ⟨hrow, hname, -⟩ := lookupRequest_eq_ok hlook
    have hrecreated := hs.sides_moved hm (by simp)
    have hquiet := (hs.moved hm).sides_moved hm' (by simp)
    refine Or.inr ⟨name, _, hname, hquiet.trans hrecreated, Or.inr (Or.inl ?_)⟩
    have hx := sides_of_row hrow
    refine ⟨s.sidesOf e, _, _, hx, ?_, Nat.le_refl _, Nat.le_succ _⟩
    rw [hx, Option.map_some, hf name _ hx]
  | @reopened name _ _ _ _ _ t _ hlook _ _ hm hm' =>
    have hname := (lookupRequest_eq_ok hlook).2.1
    have hdropped := hs.sides_moved hm (by simp)
    have hcreated := (hs.moved hm).sides_moved hm' (by
      rintro _ _ ⟨⟩ rfl
      exact hkey hname)
    have hn := moved_nextSocket hm
    refine Or.inr ⟨name, _, hname, ?_, Or.inr (Or.inr ⟨_, _, rfl, hn, Nat.le_succ_of_le hn⟩)⟩
    rw [hcreated, Move.sides, hdropped, Move.sides, Function.update_idem]

/-! ### The code does what tunnels do -/

/-- What an operation does to the tunnels; `none` if a datagram comes in at no end. -/
def label (s : UdpProxies) : Op → Option (Label String Bytes Remote)
  | .getUDPSocket key .. => some (match propKey key with
    | .ok name => .request name
    | .error _ => .idle)
  | .closeUDPSocket key => some (match propKey key with
    | .ok name => .close name
    | .error _ => .idle)
  | .setProxyBlocked name blocked => some (.block name blocked)
  | .reaperTick .. => some .tend
  | .message k message remote _ =>
    (s.place k).map fun (name, side) => .hear ⟨name, side, message, remote⟩
  | .listening .. | .bindError .. | .error _ => some .idle

/-- A datagram that goes out; `none` if it leaves at no end. -/
def passage (s : UdpProxies) : UdpEffect → Option (Option (Entry String Bytes Remote))
  | .sent k message peer =>
    some ((s.place k).map fun (name, side) => .carried ⟨name, side, message, peer⟩)
  | .reply .. | .notify _ => none

/-- What a step adds to the journal. -/
def logged (s : UdpProxies) (o : Op) (s' : UdpProxies) : List (Option (Entry String Bytes Remote)) :=
  (s.label o).map .did :: (s'.log.drop s.log.length).filterMap s'.passage

/-- The module, with a journal of what it did and what it sent. -/
structure Tapped where
  udp : UdpProxies
  journal : List (Option (Entry String Bytes Remote)) := []

def Tapped.Step (t : Tapped) (o : Op) (t' : Tapped) : Prop :=
  UdpProxies.Step t.udp o t'.udp ∧ t'.journal = t.journal ++ t.udp.logged o t'.udp

/-- Only datagrams that come in make others go out. -/
theorem Hushed.logged (h : Hushed s s') {o : Op} {x : Label String Bytes Remote}
    (hx : s.label o = some x) : s.logged o s' = [some (.did x)] := by
  obtain ⟨new, hnew, hnone⟩ := h.log
  rw [UdpProxies.logged, hx, hnew, List.drop_left, Option.map_some, List.cons_inj_right,
    List.filterMap_eq_nil_iff]
  intro y hy
  cases y with
  | reply | notify => rfl
  | sent => exact absurd (hnone _ hy) (by simp [isSent])

/-- The tunnels do what the code has done. -/
def Follows (T : Tunnels.State String Bytes Remote) (s : UdpProxies) (o : Op) (s' : UdpProxies) : Prop :=
  ∃ x T', Tunnels.Step T x T' ∧ T'.tunnels = s'.tunnel ∧
    T'.journal.map some = T.journal.map some ++ s.logged o s'

theorem Hushed.follows (h : Hushed s s') {o : Op} {x : Label String Bytes Remote}
    {T : Tunnels.State String Bytes Remote} (hx : s.label o = some x)
    (hstep : Tunnels.Step T x ⟨s'.tunnel, T.journal ++ [.did x]⟩) : Follows T s o s' :=
  ⟨x, _, hstep, rfl, by rw [h.logged hx, List.map_append]; rfl⟩

/-- A datagram comes in at an end of the tunnel under some name. -/
theorem Lined.final_message (hs : s.Lined) (hk : (s.sockets k).bind = .listening) (message : Bytes)
    (remote : Remote) (now : ℕ) : ∃ name e x l, s.activeUdpProxy.own? name = some e ∧
      (s.sidesOf e).socket x = some k ∧ (s.sidesOf e).socket x.other = some l ∧
      (messageEvent k message remote now).final s =
        (s.noted k remote now).passedOn (s.entries e).m_udpproxy l message := by
  obtain ⟨name, e, i, j, hrow, hlive, hij⟩ := hs.toAccounted.listening hk
  rcases hij with rfl | rfl
  · exact ⟨name, e, .near, j, hrow, hlive.1, hlive.2, final_messageEvent
      (hs.toSound.parent_socket (y := .near) hlive.1) (Or.inl ⟨hs.faced.one _ _ hlive.1, hlive.2⟩) ..⟩
  · exact ⟨name, e, .far, i, hrow, hlive.2, hlive.1, final_messageEvent
      (hs.toSound.parent_socket (y := .far) hlive.2) (Or.inr ⟨hs.faced.two _ _ hlive.2, hlive.1⟩) ..⟩

section

variable {T : Tunnels.State String Bytes Remote}

/-- An operation that leaves the rows as they are. -/
theorem Hushed.follows_idle (h : Hushed s s') (hs : s.Lined) (hsides : s'.sides = s.sides) {o : Op}
    (hx : s.label o = some .idle) (hT : T.tunnels = s.tunnel) : Follows T s o s' := by
  refine h.follows hx ?_
  rw [h.tunnel_same hs.toSound hs.faced hsides, ← hT]
  exact .idle T

/-- A proxy that has replaced another one makes a tunnel without peers. -/
theorem Hushed.tunnel_rebuilt (h : Hushed s s') (hf : s.Faced) {old new : Option Sides}
    (hnew : Rebuilt s.nextSocket old new) :
    new.map s'.tunnelOf = (old.map s.tunnelOf).map Tunnel.renew := by
  obtain ⟨x, k, l, rfl, rfl, hk, hl⟩ := hnew
  rw [Option.map_some, Option.map_some, Option.map_some, h.tunnelOf_new hf hk hl]
  rfl

theorem follows_request (hs : s.Lined) {key socket1 socket2 : Val} {now : ℕ}
    (hkey : propKey key ≠ .ok "__proto__") (hT : T.tunnels = s.tunnel) :
    Follows T s (.getUDPSocket key socket1 socket2 now)
      ((perform (.getUDPSocket key socket1 socket2 now)).final s) := by
  have hask : Hushed s { s with nextRequest := s.nextRequest + 1 } :=
    hushed_of_objects rfl rfl rfl rfl
  have hh : Hushed s ((perform (.getUDPSocket key socket1 socket2 now)).final s) :=
    trans_of Hushed hask (hushed_getUDPSocket key socket1 socket2 s.nextRequest now _)
  have hsound := hs.toSound.moved .ask
  have hopened := getUDPSocket_opened hsound s.nextRequest key socket1 socket2 now
  have hx : s.label (.getUDPSocket key socket1 socket2 now) = some (match propKey key with
    | .ok name => .request name
    | .error _ => .idle) := rfl
  rcases hopened.sides hsound hs.flagged hkey with hsame | ⟨name, new, hname, hsides, hnew⟩
  · have hsame' := hh.tunnel_same hs.toSound hs.faced hsame
    refine hh.follows hx ?_
    rw [hsame', ← hT]
    cases propKey key with
    | error x => exact .idle T
    | ok name =>
      have hstep := Tunnels.Step.request (T := T) name (Or.inl rfl)
      rw [Function.update_eq_self] at hstep
      exact hstep
  · rw [hname] at hx
    refine hh.follows hx ?_
    rw [hh.tunnel_update hs.toSound hs.faced hsides, ← hT]
    refine .request name ?_
    rw [hT]
    rcases hnew with rfl | hnew | ⟨k, l, rfl, hk, hl⟩
    · refine Or.inl ?_
      change _ = (s.sides name).map s.tunnelOf
      cases hold : s.sides name with
      | none => exact congrArg _ hold
      | some x =>
        have hold' : ({ s with nextRequest := s.nextRequest + 1 } : UdpProxies).sides name = some x :=
          hold
        rw [hold', Option.map_some, Option.map_some, hh.tunnelOf_old hs.toSound hs.faced hold]
    · exact Or.inr (Or.inl (hh.tunnel_rebuilt hs.faced hnew))
    · refine Or.inr (Or.inr ?_)
      rw [Option.map_some, hh.tunnelOf_new hs.faced hk hl]

theorem follows_close (hs : s.Lined) {key : Val} (hT : T.tunnels = s.tunnel) :
    Follows T s (.closeUDPSocket key) ((closeUDPSocket key).final s) := by
  have hh := hushed_closeUDPSocket key s
  have hx : s.label (.closeUDPSocket key) = some (match propKey key with
    | .ok name => .close name
    | .error _ => .idle) := rfl
  rcases closeUDPSocket_cases hs.toSound key with ⟨-, hsame⟩ | ⟨name, e, hfound, -, hm⟩
  · rw [hsame] at hh ⊢
    refine hh.follows hx ?_
    rw [← hT]
    cases propKey key with
    | error x => exact .idle T
    | ok name =>
      have hstep := Tunnels.Step.close (T := T) name (Or.inl rfl)
      rw [Function.update_eq_self] at hstep
      exact hstep
  · have hname : propKey key = .ok name := by
      rw [found] at hfound
      split at hfound
      · next hk =>
        obtain ⟨_, -, heq⟩ := Option.map_eq_some_iff.mp hfound
        rw [hk, (Prod.mk.inj heq).1]
      · exact absurd hfound (by simp)
    rw [hname] at hx
    refine hh.follows hx ?_
    rw [hh.tunnel_update hs.toSound hs.faced (hs.toSound.sides_moved hm (by simp)), ← hT]
    exact .close name (Or.inr rfl)

theorem follows_block (hs : s.Lined) {name : String} {blocked : Bool} (hT : T.tunnels = s.tunnel) :
    Follows T s (.setProxyBlocked name blocked) ((setProxyBlocked name blocked).final s) := by
  have hh := hushed_setProxyBlocked name blocked s
  have hstep := Tunnels.Step.block T name blocked
  refine hh.follows (x := .block name blocked) rfl ?_
  rcases setProxyBlocked_cases name blocked s with ⟨hnone, hsame⟩ | hm
  · have hempty : T.tunnels name = none := by
      rw [hT, tunnel, sides, hnone]
      rfl
    rw [hempty, Option.map_none, ← hempty, Function.update_eq_self] at hstep
    rw [hsame, ← hT]
    exact hstep
  · rw [hh.tunnel_update hs.toSound hs.faced (hs.toSound.sides_moved hm (by simp)), ← hT]
    suffices heq : Option.map (tunnelOf ((setProxyBlocked name blocked).final s))
        ((s.sides name).map fun x => { x with blocked, entryBlocked := blocked }) =
          (T.tunnels name).map fun t => { t with blocked } by
      rw [heq]
      exact hstep
    rw [hT, tunnel]
    cases hx : s.sides name with
    | none => rfl
    | some x =>
      have hold := hh.tunnelOf_old hs.toSound hs.faced hx
      simp only [Option.map_some, Option.some.injEq]
      rw [← hold]
      rfl

theorem follows_tick (hs : s.Lined) {now : ℕ} {online : String → Bool} (hT : T.tunnels = s.tunnel) :
    Follows T s (.reaperTick now online) ((reaperTick now online).final s) := by
  have hh := hushed_reaperTick now online s
  refine hh.follows (x := .tend) rfl (.tend _ fun name => ?_)
  rw [hT, tunnel, tunnel]
  rcases hs.upkept now online name with hsame | hnone | hnew
  · rw [hsame]
    cases hx : s.sides name with
    | none => exact Or.inl rfl
    | some x => exact Or.inl (by rw [Option.map_some, hh.tunnelOf_old hs.toSound hs.faced hx]; rfl)
  · exact Or.inr (Or.inr (by rw [hnone]; rfl))
  · exact Or.inr (Or.inl (hh.tunnel_rebuilt hs.faced hnew))

/-- It is noted who spoke at an end of a tunnel. -/
theorem tunnel_hear (hs : s.Sound) {x : End} {remote : Remote}
    (hrow : s.activeUdpProxy.own? name = some e) (hk : (s.sidesOf e).socket x = some k)
    (hsides : s'.sides = s.sides)
    (hcaller : ∀ q, (s'.sockets q).caller =
      if q = k then some remote else (s.sockets q).caller) :
    s'.tunnel =
      Function.update s.tunnel name (some ((s.tunnelOf (s.sidesOf e)).hear x remote)) := by
  funext name'
  rw [tunnel, hsides, Function.update_apply]
  split
  · next hname =>
    subst hname
    rw [sides_of_row hrow, Option.map_some, tunnelOf, Tunnel.hear]
    congr 2
    funext y
    rw [Function.update_apply]
    split
    · next hy =>
      subst hy
      rw [hk]
      exact (hcaller k).trans (if_pos rfl)
    · next hy =>
      rw [tunnelOf_peer]
      cases hq : (s.sidesOf e).socket y with
      | none => rfl
      | some q =>
        refine (hcaller q).trans (if_neg ?_)
        rintro rfl
        have hxy := (hs.place_socket hrow hq).symm.trans (hs.place_socket hrow hk)
        exact hy (Prod.mk.inj (Option.some.inj hxy)).2
  · next hname =>
    rw [tunnel]
    cases hold : s.sides name' with
    | none => rfl
    | some z =>
      rw [Option.map_some, Option.map_some, tunnelOf, tunnelOf]
      congr 2
      funext y
      cases hq : z.socket y with
      | none => rfl
      | some q =>
        refine (hcaller q).trans (if_neg ?_)
        rintro rfl
        -- the socket belongs to one name only
        obtain ⟨e', hrow', rfl⟩ := Option.map_eq_some_iff.mp hold
        have hp := (hs.parent_socket hq).symm.trans (hs.parent_socket hk)
        exact hs.row_ne hname hrow' hrow (Option.some.inj hp)

/-- A datagram at an end of a tunnel: it is noted who spoke, and it goes out at the other end. -/
theorem follows_hear (hs : s.Sound) {x : End} {message : Bytes} {remote : Remote} {now : ℕ}
    (hT : T.tunnels = s.tunnel) (hrow : s.activeUdpProxy.own? name = some e)
    (hk : (s.sidesOf e).socket x = some k) (hl : (s.sidesOf e).socket x.other = some l)
    (hs' : s' = (s.noted k remote now).passedOn (s.entries e).m_udpproxy l message)
    (halike : Alike s s') : Follows T s (.message k message remote now) s' := by
  have hrow' : s'.activeUdpProxy.own? name = some e := halike.activeUdpProxy ▸ hrow
  have hsides' : s'.sidesOf e = s.sidesOf e :=
    Option.some.inj ((sides_of_row hrow').symm.trans
      ((congrFun halike.sides name).trans (sides_of_row hrow)))
  have hplace' : s'.place l = some (name, x.other) :=
    (hs.moved (.quiet halike)).place_socket hrow' (hsides' ▸ hl)
  have hlk : l ≠ k := by
    rintro rfl
    have hxy := (hs.place_socket hrow hk).symm.trans (hs.place_socket hrow hl)
    exact x.other_ne (Prod.mk.inj (Option.some.inj hxy)).2
  have hcaller : ∀ q, (s'.sockets q).caller =
      if q = k then some remote else (s.sockets q).caller := by
    intro q
    rw [hs', sockets_passedOn]
    simp only [noted, setSocket, Function.update_apply]
    split
    · rfl
    · rfl
  refine ⟨.hear ⟨name, x, message, remote⟩, _, .hear _ ?_,
    (hT ▸ tunnel_hear hs hrow hk halike.sides hcaller).symm, ?_⟩
  · rw [hT, tunnel, sides_of_row hrow, Option.map_some]
  · have hnoted : ((s.noted k remote now).sockets l).caller = (s.sockets l).caller := by
      simp [noted, setSocket, hlk]
    have hlog : s'.log.drop s.log.length = if (s.proxies (s.entries e).m_udpproxy).blocked then []
        else (s.sockets l).caller.toList.map (UdpEffect.sent l message) := by
      rw [hs', log_passedOn, hnoted]
      exact List.drop_left
    rw [logged, hlog, label, hs.place_socket hrow hk, Option.map_some, List.map_append,
      List.map_cons, Tunnel.carry, tunnelOf_peer, hl, Option.bind_some]
    have hblocked : (s.tunnelOf (s.sidesOf e)).blocked =
        (s.proxies (s.entries e).m_udpproxy).blocked := rfl
    rw [hblocked]
    split
    · rfl
    · cases (s.sockets l).caller with
      | none => rfl
      | some peer => simp [passage, hplace']

/-- Every operation is followed. -/
theorem Lined.follows (hs : s.Lined) {o : Op} (ho : s.OwnKeys o) (hstep : Step s o s')
    (hT : T.tunnels = s.tunnel) : Follows T s o s' := by
  obtain ⟨hen, rfl⟩ := hstep
  cases o with
  | getUDPSocket key socket1 socket2 now => exact follows_request hs ho hT
  | closeUDPSocket key =>
    rw [final_closeUDPSocket]
    exact follows_close hs hT
  | setProxyBlocked name blocked =>
    rw [final_setProxyBlocked]
    exact follows_block hs hT
  | reaperTick now online => exact follows_tick hs hT
  | listening k host port now =>
    exact (hushed_listeningEvent k host port now s).follows_idle hs
      (hs.toSound.sides_moved (listeningEvent_moved hs.toSound hen host port now) (by simp)) rfl hT
  | bindError k code now =>
    exact (hushed_bindErrorEvent k code now s).follows_idle hs
      (hs.toSound.sides_moved (bindErrorEvent_moved hs.toSound hen code now) (by simp)) rfl hT
  | error k => exact (refl_of Hushed s).follows_idle hs rfl rfl hT
  | message k message remote now =>
    obtain ⟨name, e, x, l, hrow, hk, hl, hfinal⟩ := hs.final_message hen message remote now
    exact follows_hear hs.toSound hT hrow hk hl hfinal (messageEvent_alike k message remote now s)

end

/-! ### Runs -/

theorem Faced.passedOn (h : s.Faced) (p : ProxyId) (l : UdpSocketId) (message : Bytes) :
    (s.passedOn p l message).Faced := by
  rw [UdpProxies.passedOn]
  split
  · exact h
  · cases (s.sockets l).caller with
    | none => exact h
    | some caller => exact ⟨h.known, h.one, h.two, h.fresh⟩

theorem Faced.noted (h : s.Faced) (hk : k < s.nextSocket) (remote : Remote) (now : ℕ) :
    (s.noted k remote now).Faced := by
  have hside : ∀ j, ((s.noted k remote now).sockets j).side = (s.sockets j).side := by
    intro j
    simp only [UdpProxies.noted, setSocket, Function.update_apply]
    split
    · next heq => rw [heq]
    · rfl
  refine ⟨h.known, fun p j hj => (hside j).trans (h.one p j hj),
    fun p j hj => (hside j).trans (h.two p j hj), fun j hj => ?_⟩
  have hne : j ≠ k := Nat.ne_of_gt (Nat.lt_of_lt_of_le hk hj)
  simp only [UdpProxies.noted, setSocket, Function.update_of_ne hne]
  exact h.fresh j hj

/-- Whatever is no datagram that comes in leaves the peers alone. -/
theorem hushed_step {o : Op} (ho : ∀ k message remote now, o ≠ .message k message remote now)
    (hstep : Step s o s') : Hushed s s' := by
  obtain ⟨hen, rfl⟩ := hstep
  cases o with
  | getUDPSocket key socket1 socket2 now =>
    have hask : Hushed s { s with nextRequest := s.nextRequest + 1 } :=
      hushed_of_objects rfl rfl rfl rfl
    exact trans_of Hushed hask (hushed_getUDPSocket key socket1 socket2 s.nextRequest now _)
  | closeUDPSocket key =>
    rw [final_closeUDPSocket]
    exact hushed_closeUDPSocket key s
  | setProxyBlocked name blocked =>
    rw [final_setProxyBlocked]
    exact hushed_setProxyBlocked name blocked s
  | reaperTick now online => exact hushed_reaperTick now online s
  | listening k host port now => exact hushed_listeningEvent k host port now s
  | bindError k code now => exact hushed_bindErrorEvent k code now s
  | message k message remote now => exact absurd rfl (ho k message remote now)
  | error k => exact refl_of Hushed s

theorem Lined.faced_step {o : Op} (h : s.Lined) (hstep : Step s o s') : s'.Faced := by
  by_cases ho : ∀ k message remote now, o ≠ .message k message remote now
  · exact ((hushed_step ho hstep).faced h.faced).1
  · obtain ⟨k, message, remote, now, rfl⟩ : ∃ k message remote now,
        o = .message k message remote now := by simpa using ho
    obtain ⟨hen, rfl⟩ := hstep
    have hlt : k < s.nextSocket := by
      refine Nat.lt_of_not_le fun hle => ?_
      exact absurd (hen.symm.trans (h.freshSocket k hle)) (by simp)
    obtain ⟨name, e, x, l, -, -, -, hfinal⟩ := h.final_message hen message remote now
    change ((messageEvent k message remote now).final s).Faced
    rw [hfinal]
    exact (h.faced.noted hlt remote now).passedOn _ l message

/-- A flag for `__proto__` would be written to the prototype of all objects, the entries included; and
    who speaks from port 0 cannot be answered, as `send` throws. -/
def Op.Ordinary : Op → Prop
  | .setProxyBlocked name _ => name ≠ "__proto__"
  | .message _ _ remote _ => remote.port ≠ "0"
  | _ => True

/-- No peer has a port for which `send` throws, and none was sent anything. -/
structure Answerable (s : UdpProxies) : Prop where
  caller : ∀ k peer, (s.sockets k).caller = some peer → peer.port ≠ "0"
  sent : ∀ k message peer, .sent k message peer ∈ s.log → peer.port ≠ "0"

theorem Answerable.start (public_host : Val) : (start public_host).Answerable :=
  ⟨fun _ _ h => absurd h (by simp [UdpProxies.start]),
    fun _ _ _ h => absurd h (by simp [UdpProxies.start])⟩

theorem Hushed.answerable (h : Hushed s s') (hf : s.Faced) (ha : s.Answerable) :
    s'.Answerable := by
  refine ⟨fun k peer hk => ?_, fun k message peer hsent => ?_⟩
  · rcases Nat.lt_or_ge k s.nextSocket with hlt | hge
    · exact ha.caller k peer ((h.caller k hlt).symm.trans hk)
    · rw [(h.faced hf).2 k hge] at hk
      exact absurd hk (by simp)
  · obtain ⟨new, hnew, hnone⟩ := h.log
    rw [hnew] at hsent
    rcases List.mem_append.mp hsent with hold | hsent
    · exact ha.sent k message peer hold
    · exact absurd (hnone _ hsent) (by simp [isSent])

theorem Answerable.noted (h : s.Answerable) {remote : Remote} (hport : remote.port ≠ "0")
    (k : UdpSocketId) (now : ℕ) : (s.noted k remote now).Answerable := by
  refine ⟨fun j peer hj => ?_, h.sent⟩
  simp only [UdpProxies.noted, setSocket, Function.update_apply] at hj
  split at hj
  · exact Option.some.inj hj ▸ hport
  · exact h.caller j peer hj

theorem Answerable.passedOn (h : s.Answerable) (p : ProxyId) (l : UdpSocketId) (message : Bytes) :
    (s.passedOn p l message).Answerable := by
  refine ⟨fun k peer hk => h.caller k peer (sockets_passedOn p l message s ▸ hk),
    fun k message' peer hsent => ?_⟩
  rw [log_passedOn] at hsent
  rcases List.mem_append.mp hsent with hold | hsent
  · exact h.sent k message' peer hold
  · split at hsent
    · exact absurd hsent List.not_mem_nil
    · obtain ⟨caller, hcaller, heq⟩ := List.mem_map.mp hsent
      obtain ⟨-, -, rfl⟩ := UdpEffect.sent.inj heq
      exact h.caller l caller (Option.mem_toList.mp hcaller)

/-- In a run of such operations `send` is called for ports that it takes. -/
theorem Lined.answerable_step {o : Op} (h : s.Lined) (ha : s.Answerable) (ho : o.Ordinary)
    (hstep : Step s o s') : s'.Answerable := by
  by_cases hmessage : ∀ k message remote now, o ≠ .message k message remote now
  · exact (hushed_step hmessage hstep).answerable h.faced ha
  · obtain ⟨k, message, remote, now, rfl⟩ : ∃ k message remote now,
        o = .message k message remote now := by simpa using hmessage
    obtain ⟨hen, rfl⟩ := hstep
    obtain ⟨name, e, x, l, -, -, -, hfinal⟩ := h.final_message hen message remote now
    change ((messageEvent k message remote now).final s).Answerable
    rw [hfinal]
    exact (ha.noted ho k now).passedOn _ l message

/-- In every run of such operations the module does what tunnels do, one for each name: there is a run of
    tunnels with the same journal that ends in the same tunnels. So whatever goes out has just come in
    at the other end under the same name, and goes to whoever spoke last at this end; `send` takes all
    of it. -/
theorem tunnelled {public_host : Val} {t : Tapped}
    (hrun : Lts.Path Tapped.Step (fun t o => t.udp.OwnKeys o ∧ o.Ordinary)
      ⟨start public_host, []⟩ t) :
    (∃ T : Tunnels.State String Bytes Remote, Lts.Path Tunnels.Step (fun _ _ => True) {} T ∧
      T.tunnels = t.udp.tunnel ∧ t.journal = T.journal.map some ∧ Faithful T.journal) ∧
    ∀ k message peer, UdpEffect.sent k message peer ∈ t.udp.log → peer.port ≠ "0" := by
  suffices hfollowed : (t.udp.Lined ∧ t.udp.Answerable) ∧ ∃ T : Tunnels.State String Bytes Remote,
      Lts.Path Tunnels.Step (fun _ _ => True) {} T ∧ T.tunnels = t.udp.tunnel ∧
        t.journal = T.journal.map some by
    obtain ⟨⟨-, hanswerable⟩, T, hpath, htunnels, hjournal⟩ := hfollowed
    exact ⟨⟨T, hpath, htunnels, hjournal, faithful_of_path hpath⟩, hanswerable.sent⟩
  refine hrun.invariant (P := fun t : Tapped => (t.udp.Lined ∧ t.udp.Answerable) ∧
    ∃ T : Tunnels.State String Bytes Remote, Lts.Path Tunnels.Step (fun _ _ => True) {} T ∧
      T.tunnels = t.udp.tunnel ∧ t.journal = T.journal.map some) ?_ ?_
  · rintro t o t' ⟨⟨hlined, hanswerable⟩, T, hpath, htunnels, hjournal⟩ ⟨ho, hordinary⟩ ⟨hstep, hlog⟩
    obtain ⟨x, T', hT', htunnels', hjournal'⟩ := hlined.follows ho hstep htunnels
    refine ⟨⟨hlined.step ho (hlined.faced_step hstep) hstep,
      hlined.answerable_step hanswerable hordinary hstep⟩, T', .tail hpath True.intro hT',
      htunnels', ?_⟩
    rw [hlog, hjournal, hjournal']
  · refine ⟨⟨Lined.start public_host, .start public_host⟩, {}, .refl, ?_, rfl⟩
    funext name
    rfl

instance (s : UdpProxies) : ∀ o : Op, Decidable (s.OwnKeys o)
  | .getUDPSocket .. => inferInstanceAs (Decidable (_ ≠ _))
  | .closeUDPSocket _ | .setProxyBlocked .. | .reaperTick .. | .listening .. | .bindError ..
  | .message .. | .error _ => inferInstanceAs (Decidable True)

instance : ∀ o : Op, Decidable o.Ordinary
  | .setProxyBlocked .. | .message .. => inferInstanceAs (Decidable (_ ≠ _))
  | .getUDPSocket .. | .closeUDPSocket _ | .reaperTick .. | .listening .. | .bindError ..
  | .error _ => inferInstanceAs (Decidable True)

namespace Tapped

def after (t : Tapped) (o : Op) : Tapped :=
  ⟨(perform o).final t.udp, t.journal ++ t.udp.logged o ((perform o).final t.udp)⟩

def run (t : Tapped) (os : List Op) : Option Tapped :=
  os.foldlM (fun t o =>
    if t.udp.Enabled o ∧ t.udp.OwnKeys o ∧ o.Ordinary then some (t.after o) else none) t

theorem path_of_run {t t' : Tapped} {os : List Op} (h : t.run os = some t') :
    Lts.Path Tapped.Step (fun t o => t.udp.OwnKeys o ∧ o.Ordinary) t t' :=
  Lts.Path.of_guarded (fun hc => ⟨hc.2, ⟨hc.1, rfl⟩, rfl⟩) h

end Tapped

/-- A vehicle has a proxy and speaks, then a ground station does, and after a round of the reaper that
    re-creates the proxy the ground station speaks again. -/
def stationSpeaks : List Op :=
  [.getUDPSocket (some (.str "drone")) anyPort anyPort 1000, .listening 0 "0.0.0.0" "5000" 1001,
    .listening 1 "0.0.0.0" "5001" 1002, .message 0 [1] ⟨"10.0.0.1", "6000"⟩ 1003,
    .message 1 [2] ⟨"10.0.0.2", "7000"⟩ 1004, .reaperTick 900000 (fun _ => true),
    .listening 4 "0.0.0.0" "5000" 900001, .listening 5 "0.0.0.0" "5001" 900002,
    .message 5 [3] ⟨"10.0.0.2", "7000"⟩ 900003]

/-- Only the first message of the ground station gets through. -/
theorem tunnelled_stationSpeaks : ∃ t : Tapped,
    Lts.Path Tapped.Step (fun t o => t.udp.OwnKeys o ∧ o.Ordinary) ⟨start none, []⟩ t ∧
    t.journal.drop 3 = [some (.did (.hear ⟨"drone", .near, [1], ⟨"10.0.0.1", "6000"⟩⟩)),
      some (.did (.hear ⟨"drone", .far, [2], ⟨"10.0.0.2", "7000"⟩⟩)),
      some (.carried ⟨"drone", .near, [2], ⟨"10.0.0.1", "6000"⟩⟩), some (.did .tend),
      some (.did .idle), some (.did .idle),
      some (.did (.hear ⟨"drone", .far, [3], ⟨"10.0.0.2", "7000"⟩⟩))] ∧
    ∃ T : Tunnels.State String Bytes Remote, Lts.Path Tunnels.Step (fun _ _ => True) {} T ∧
      T.tunnels = t.udp.tunnel ∧ t.journal = T.journal.map some ∧ Faithful T.journal := by
  have h : (Tapped.run ⟨start none, []⟩ stationSpeaks).map (fun t => t.journal.drop 3) =
      some [some (.did (.hear ⟨"drone", .near, [1], ⟨"10.0.0.1", "6000"⟩⟩)),
        some (.did (.hear ⟨"drone", .far, [2], ⟨"10.0.0.2", "7000"⟩⟩)),
        some (.carried ⟨"drone", .near, [2], ⟨"10.0.0.1", "6000"⟩⟩), some (.did .tend),
        some (.did .idle), some (.did .idle),
        some (.did (.hear ⟨"drone", .far, [3], ⟨"10.0.0.2", "7000"⟩⟩))] := by
    decide +kernel
  obtain ⟨t, ht, hjournal⟩ := Option.map_eq_some_iff.mp h
  have hrun := Tapped.path_of_run ht
  exact ⟨t, hrun, hjournal, (tunnelled hrun).1⟩

end UdpProxies

end DroneEngage
