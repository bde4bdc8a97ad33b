import DroneEngage.Ledger
import DroneEngage.UdpWiring

/-! Every request for a UDP proxy is answered at most once, and once all binds have ended it is
    answered exactly once, as long as no operation closes a proxy that a request waits for and no
    bind of such a proxy fails with an error that is not counted. -/

namespace DroneEngage
open Js

/-- What the bind of a socket contributes to the reply of its proxy. -/
def Bind.outcome (b : Bind) : Outcome :=
  if b = .pending then .pending else if b.counts then .counted else .lost

theorem Bind.outcome_counted {b : Bind} : b.outcome = .counted ↔ b.counts = true := by
  cases b with
  | pending => simp [Bind.outcome, Bind.counts]
  | listening => simp [Bind.outcome, Bind.counts]
  | failed code => by_cases h : code = "EADDRINUSE" <;> simp [Bind.outcome, Bind.counts, h]
  | closed => simp [Bind.outcome, Bind.counts]

theorem Bind.outcome_pending {b : Bind} : b.outcome = .pending ↔ b = .pending := by
  by_cases h : b = .pending
  · simp [Bind.outcome, h]
  · cases hc : b.counts with
    | true => simp [Bind.outcome, h, hc]
    | false => simp [Bind.outcome, h, hc]

namespace UdpProxies

/-- The ledger of the module: its open proxies are the waits. -/
def ledger (s : UdpProxies) : Ledger ProxyId where
  waits := fun p => match (s.proxies p).socket1, (s.proxies p).socket2 with
    | some k, some l => some ⟨(s.sockets k).bind.outcome, (s.sockets l).bind.outcome,
        (s.proxies p).callback.request?⟩
    | _, _ => none
  answers := s.answers
  asked := s.nextRequest

variable {s s' : UdpProxies} {p : ProxyId} {k l : UdpSocketId} {e : EntryId}

theorem ledger_waits (h : s.Live p k l) : s.ledger.waits p = some ⟨(s.sockets k).bind.outcome,
    (s.sockets l).bind.outcome, (s.proxies p).callback.request?⟩ := by
  simp only [ledger, h.1, h.2]

theorem of_ledger_waits {w : Wait} (h : s.ledger.waits p = some w) : ∃ k l, s.Live p k l ∧
    w = ⟨(s.sockets k).bind.outcome, (s.sockets l).bind.outcome,
      (s.proxies p).callback.request?⟩ := by
  cases hk : (s.proxies p).socket1 with
  | none => simp [ledger, hk] at h
  | some k =>
    cases hl : (s.proxies p).socket2 with
    | none => simp [ledger, hk, hl] at h
    | some l =>
      refine ⟨k, l, ⟨hk, hl⟩, ?_⟩
      simpa [ledger, hk, hl] using h.symm

/-! ### Moves in the ledger -/

theorem SameWires.ledger (h : SameWires s s') : s'.ledger = s.ledger := by
  refine Ledger.ext ?_ (funext h.answers) h.nextRequest
  funext p
  simp only [UdpProxies.ledger, (h.proxies p).1, (h.proxies p).2.2.1, (h.proxies p).2.2.2,
    fun k => (h.sockets k).2.2]

theorem ledger_emit (r : RequestId) (report : ProxyConfig) (en : Bool) (s : UdpProxies) :
    (s.emit (.reply r report en)).ledger = s.ledger.answer r := by
  refine Ledger.ext rfl ?_ rfl
  funext q
  rw [Ledger.answers_answer]
  change (s.emit _).answers q = if q = r then s.answers r + 1 else s.answers q
  rw [answers_emit]
  by_cases hq : q = r
  · subst hq; simp [isReply]
  · simp [isReply, hq, Ne.symm hq]

theorem ledger_shut (h : s.Wired) (hp : s.Live p k l) : (s.shut p k l).ledger = s.ledger.close p := by
  refine Ledger.ext ?_ rfl rfl
  funext q
  rw [Ledger.waits_close]
  by_cases hq : q = p
  · subst hq; simp [ledger, shut]
  · rw [if_neg hq]
    have hout : ∀ i, (s.proxies q).socket1 = some i ∨ (s.proxies q).socket2 = some i →
        ¬ (i = k ∨ i = l) := by
      intro i hi
      have := (h.owns q i hi).1
      have hk := (h.owns p k (Or.inl hp.1)).1
      have hl := (h.owns p l (Or.inr hp.2)).1
      grind
    cases hi : (s.proxies q).socket1 with
    | none => simp [ledger, shut, hq, hi]
    | some i =>
      cases hj : (s.proxies q).socket2 with
      | none => simp [ledger, shut, hq, hi, hj]
      | some j =>
        simp only [ledger, shut, Function.update_apply, if_neg hq, hi, hj,
          if_neg (hout i (Or.inl hi)), if_neg (hout j (Or.inr hj))]

theorem ledger_install (h : s.Wired) (port1 port2 : Val) (c : Callback) (b : Bool) :
    (s.install e port1 port2 c b).ledger = s.ledger.build s.nextProxy c.request? := by
  refine Ledger.ext ?_ rfl rfl
  funext q
  rw [Ledger.waits_build]
  by_cases hq : q = s.nextProxy
  · subst hq; simp [ledger, install, Bind.outcome]
  · rw [if_neg hq]
    have hout : ∀ i, (s.proxies q).socket1 = some i ∨ (s.proxies q).socket2 = some i →
        i ≠ s.nextSocket ∧ i ≠ s.nextSocket + 1 := by
      intro i hi
      have := (h.owns q i hi).2
      have hn := h.freshSocket s.nextSocket (Nat.le_refl _)
      have hn' := h.freshSocket (s.nextSocket + 1) (Nat.le_succ _)
      grind
    cases hi : (s.proxies q).socket1 with
    | none => simp [ledger, install, hq, hi]
    | some i =>
      cases hj : (s.proxies q).socket2 with
      | none => simp [ledger, install, hq, hi, hj]
      | some j =>
        obtain ⟨hi1, hi2⟩ := hout i (Or.inl hi)
        obtain ⟨hj1, hj2⟩ := hout j (Or.inr hj)
        simp only [ledger, install, Function.update_apply, if_neg hq, hi, hj, if_neg hi1, if_neg hi2,
          if_neg hj1, if_neg hj2]

/-- The wait of a proxy after the bind of one of its sockets. -/
def settled (s : UdpProxies) (p : ProxyId) (i j k : UdpSocketId) (b : Bind) : Wait :=
  ⟨if i = k then b.outcome else (s.sockets i).bind.outcome,
    if j = k then b.outcome else (s.sockets j).bind.outcome, (s.proxies p).callback.request?⟩

theorem settled_done (h : s.Wired) {i j : UdpSocketId} (hp : s.Live p i j) (hk : i = k ∨ j = k)
    (hbind : (s.sockets k).bind = .pending) (b : Bind) :
    (s.settled p i j k b).Done ↔ b.counts = true ∧ (s.proxies p).readyCounter = 1 := by
  have hne : i ≠ j := fun heq => h.apart p i hp.1 (heq ▸ hp.2)
  have hzero : (s.sockets k).bind.counts.toNat = 0 := by rw [hbind]; rfl
  have hone : ∀ b' : Bind, b'.counts.toNat = 1 ↔ b'.counts = true := by
    intro b'
    cases b'.counts <;> simp
  rw [h.counter p i j hp]
  rcases hk with rfl | rfl
  · rw [hzero, Nat.zero_add, hone]
    simp [settled, Wait.Done, Ne.symm hne, Bind.outcome_counted]
  · rw [hzero, Nat.add_zero, hone]
    simp [settled, Wait.Done, hne, Bind.outcome_counted, and_comm]

theorem ledger_settle_waits (h : s.Wired) {i j : UdpSocketId} (hp : s.Live p i j)
    (hk : i = k ∨ j = k) (b : Bind) (q : ProxyId) : (s.settle k b p).ledger.waits q =
      if q = p then some (s.settled p i j k b) else s.ledger.waits q := by
  by_cases hq : q = p
  · subst hq
    have hlive : (s.settle k b q).Live q i j := by
      simpa [Live, settle] using hp
    rw [if_pos rfl, ledger_waits hlive]
    simp only [settle, settled, Function.update_apply, Option.some.injEq, Wait.mk.injEq]
    refine ⟨?_, ?_, by simp⟩ <;> split <;> rfl
  · rw [if_neg hq]
    have hparent : (s.sockets k).parent = some p := by
      rcases hk with rfl | rfl
      · exact (h.owns p i (Or.inl hp.1)).1
      · exact (h.owns p j (Or.inr hp.2)).1
    have hout : ∀ m, (s.proxies q).socket1 = some m ∨ (s.proxies q).socket2 = some m → m ≠ k := by
      rintro m hm rfl
      exact hq (Option.some.inj ((h.owns q m hm).1.symm.trans hparent))
    cases hi : (s.proxies q).socket1 with
    | none => simp [ledger, settle, hq, hi]
    | some m =>
      cases hj : (s.proxies q).socket2 with
      | none => simp [ledger, settle, hq, hi, hj]
      | some m' =>
        simp only [ledger, settle, Function.update_apply, if_neg hq, hi, hj,
          if_neg (hout m (Or.inl hi)), if_neg (hout m' (Or.inr hj))]

theorem ledger_ends (h : s.Wired) {i j : UdpSocketId} (hp : s.Live p i j) (hk : i = k ∨ j = k)
    (hbind : (s.sockets k).bind = .pending) (b : Bind) (report : ProxyConfig) (en : Bool) :
    (replied report en (s.settle k b p) (s.due b p)).ledger =
      s.ledger.settle p (s.settled p i j k b) := by
  have hdone := settled_done h hp hk hbind b
  have hwaits : (s.settle k b p).ledger.waits =
      (s.ledger.settle p (s.settled p i j k b)).waits := by
    funext q
    rw [Ledger.waits_settle, ledger_settle_waits h hp hk b q]
  cases hdue : s.due b p with
  | none =>
    refine Ledger.ext hwaits (funext fun q => ?_) (by rw [Ledger.asked_settle]; rfl)
    rw [Ledger.answers_settle, if_neg]
    · rfl
    · rintro ⟨hr, hd⟩
      rw [due, if_pos (hdone.mp hd)] at hdue
      exact absurd (hdue.symm.trans hr) (by simp)
  | some r =>
    have hcond : b.counts = true ∧ (s.proxies p).readyCounter = 1 := by
      by_contra hnot
      rw [due, if_neg hnot] at hdue
      exact absurd hdue (by simp)
    rw [due, if_pos hcond] at hdue
    rw [replied, ledger_emit]
    refine Ledger.ext hwaits (funext fun q => ?_) (by rw [Ledger.asked_settle]; rfl)
    rw [Ledger.answers_answer, Ledger.answers_settle]
    by_cases hq : q = r
    · subst hq
      rw [if_pos rfl, if_pos ⟨hdue, hdone.mpr hcond⟩]
      rfl
    · rw [if_neg hq, if_neg]
      · rfl
      · rintro ⟨hr, -⟩
        exact hq (Option.some.inj (hr.symm.trans hdue))

theorem ledger_drop {name : String} (h : s.Sound)
    (hlive : s.Live (s.entries e).m_udpproxy k l) :
    UdpProxies.ledger { s.shut (s.entries e).m_udpproxy k l with
      activeUdpProxy := s.activeUdpProxy.delete name } =
      s.ledger.close (s.entries e).m_udpproxy := ledger_shut h.toWired hlive

theorem ledger_replace (h : s.Sound) (hlive : s.Live (s.entries e).m_udpproxy k l)
    (onComplete : Option OnComplete) : (s.replace e k l onComplete).ledger =
      (s.ledger.close (s.entries e).m_udpproxy).build s.nextProxy
        (Callback.recreated e onComplete).request? := by
  rw [replace, ledger_install (h.toWired.shut hlive), ledger_shut h.toWired hlive]
  rfl

theorem ledger_create (h : s.Sound) (name : String) (port1 port2 : Val) (r : RequestId) (now : ℕ) :
    UdpProxies.ledger (install s.nextEntry port1 port2 (.opened s.nextEntry r) false
      (newEntry name port1 port2 now s)) = s.ledger.build s.nextProxy (some r) := by
  rw [ledger_install (h.toWired.newEntry name port1 port2 now)]
  rfl

/-! ### Fairness -/

/-- The request a move answers or starts to carry. -/
def Move.uses : Move → Option RequestId
  | .recreate _ r => r
  | .create _ r => some r
  | .reply r => some r
  | _ => none

theorem Fair.moved {m : Move} (hs : s.Sound) (h : s.ledger.Fair) (hm : Moved s m s')
    (hr : ∀ r, m.uses = some r → s.ledger.Unused r) : s'.ledger.Fair := by
  cases hm with
  | quiet halike => rw [halike.ledger]; exact h
  | block blocked hrow => rw [(sameWires_block _ blocked s).ledger]; exact h
  | drop hrow hlive => rw [ledger_drop hs hlive]; exact h.close _
  | recreate onComplete hrow hlive =>
    rw [ledger_replace hs hlive]
    exact (h.close _).build _ fun r hq => (hr r hq).close _
  | create port1 port2 r now hrow =>
    rw [ledger_create hs]
    exact h.build _ fun q hq => hr q hq
  | ask => exact h.ask
  | reply r report en => rw [ledger_emit]; exact h.answer (hr r rfl)
  | @ends _ k b p report en hk hp hb hb' halike =>
    obtain ⟨q, i, j, hparent, hlive, hij⟩ := hs.parent (k := k) (by rw [hk]; decide)
    obtain rfl : p = q := Option.some.inj (hp.symm.trans hparent)
    rw [halike.ledger, ledger_ends hs.toWired hlive hij hk]
    refine h.settle (ledger_waits hlive) ?_ rfl
    rintro ⟨hone, htwo⟩
    have hout : (s.sockets k).bind.outcome = .pending := Bind.outcome_pending.mpr hk
    rcases hij with rfl | rfl
    · rw [hout] at hone; exact absurd hone (by simp)
    · rw [hout] at htwo; exact absurd htwo (by simp)

theorem Opened.fair {r : RequestId} {name socket1 socket2 : Val} (hs : s.Sound)
    (h : s.ledger.Fair) (hr : s.ledger.Unused r) (ho : Opened s r name socket1 socket2 s') :
    s'.ledger.Fair := by
  have hone : ∀ q, some r = some q → s.ledger.Unused q := fun q hq => Option.some.inj hq ▸ hr
  cases ho with
  | thrown _ => exact h
  | fresh _ hm => exact Fair.moved hs h hm hone
  | same _ _ _ _ hm hm' =>
    have ht := Fair.moved hs h hm (fun q hq => absurd hq (by simp [Move.uses]))
    refine Fair.moved (hs.moved hm) ht hm' fun q hq => ?_
    cases hm with
    | quiet halike => rw [halike.ledger]; exact hone q hq
  | refreshed _ _ _ _ hm hm' =>
    exact Fair.moved (hs.moved hm) (Fair.moved hs h hm hone) hm'
      fun q hq => absurd hq (by simp [Move.uses])
  | reopened _ _ _ hm hm' =>
    have ht := Fair.moved hs h hm (fun q hq => absurd hq (by simp [Move.uses]))
    refine Fair.moved (hs.moved hm) ht hm' fun q hq => ?_
    cases hm with
    | drop hrow hlive => rw [ledger_drop hs hlive]; exact (hone q hq).close _

theorem Move.Tends.uses {m : Move} (h : m.Tends) : m.uses = none := by
  cases m with
  | quiet | drop _ => rfl
  | recreate name r =>
    cases r with
    | none => rfl
    | some r => exact absurd h (by simp [Move.Tends])
  | block _ _ | create _ _ | ask | reply _ | ends _ _ => exact absurd h (by simp [Move.Tends])

theorem Fair.tends (hs : s.Sound) (h : s.ledger.Fair)
    (hpath : Lts.Path Moved (fun _ m => m.Tends) s s') : s'.ledger.Fair :=
  (hpath.invariant (P := fun t => t.Sound ∧ t.ledger.Fair)
    (fun {t m u} hP hm hstep => ⟨hP.1.moved hstep, Fair.moved hP.1 hP.2 hstep fun q hq => by
      rw [hm.uses] at hq
      exact absurd hq (by simp)⟩) ⟨hs, h⟩).2

/-- Every operation keeps the ledger fair. -/
theorem Fair.step {o : Op} (hs : s.Sound) (h : s.ledger.Fair) (hstep : Step s o s') :
    s'.ledger.Fair := by
  have hnone : ∀ {m : Move}, m.uses = none → ∀ r, m.uses = some r → s.ledger.Unused r :=
    fun hm r hr => absurd (hm.symm.trans hr) (by simp)
  obtain ⟨hen, rfl⟩ := hstep
  cases o with
  | getUDPSocket name socket1 socket2 now =>
    exact (getUDPSocket_opened (hs.moved .ask) s.nextRequest name socket1 socket2 now).fair
      (hs.moved .ask) h.ask h.unused_ask
  | closeUDPSocket name =>
    rw [final_closeUDPSocket]
    rcases closeUDPSocket_cases hs name with ⟨-, hsame⟩ | ⟨key, e, -, -, hm⟩
    · rw [hsame]; exact h
    · exact Fair.moved hs h hm (hnone rfl)
  | setProxyBlocked name blocked =>
    rw [final_setProxyBlocked]
    rcases setProxyBlocked_cases name blocked s with ⟨-, hsame⟩ | hm
    · rw [hsame]; exact h
    · exact Fair.moved hs h hm (hnone rfl)
  | reaperTick now online => exact Fair.tends hs h (tended_reaperTick now online s hs).1
  | listening k host port now =>
    exact Fair.moved hs h (listeningEvent_moved hs hen host port now) (hnone rfl)
  | bindError k code now =>
    exact Fair.moved hs h (bindErrorEvent_moved hs hen code now) (hnone rfl)
  | message k message remote now =>
    exact Fair.moved hs h (.quiet (messageEvent_alike k message remote now s)) (hnone rfl)
  | error k => exact h

/-! ### Service -/

/-- A proxy whose request has not been answered. -/
def Awaited (s : UdpProxies) (p : ProxyId) : Prop :=
  (s.proxies p).callback.request?.isSome ∧ (s.proxies p).readyCounter < 2

instance (s : UdpProxies) (p : ProxyId) : Decidable (s.Awaited p) :=
  inferInstanceAs (Decidable (_ ∧ _))

/-- A request whose first line does not throw, and whose name has no awaited proxy. -/
def SparesRequest (s : UdpProxies) (name socket1 socket2 : Val) : Prop :=
  match s.lookupRequest name socket1 socket2 with
  | .ok (some e, _) => ¬ s.Awaited (s.entries e).m_udpproxy
  | .ok (none, _) => True
  | .error _ => False

/-- What keeps every request on its way to an answer: no operation closes an awaited proxy, and no
    bind of one fails with an error that is not counted. -/
def Spares (s : UdpProxies) : Op → Prop
  | .getUDPSocket name socket1 socket2 _ => s.SparesRequest name socket1 socket2
  | .closeUDPSocket name => match s.found name with
    | some (_, e) => ¬ s.Awaited (s.entries e).m_udpproxy
    | none => True
  | .reaperTick .. => ∀ e ∈ s.activeUdpProxy.values, ¬ s.Awaited (s.entries e).m_udpproxy
  | .bindError k code _ => code = "EADDRINUSE" ∨ match (s.sockets k).parent with
    | some p => ¬ s.Awaited p
    | none => True
  | _ => True

instance (s : UdpProxies) (name socket1 socket2 : Val) :
    Decidable (s.SparesRequest name socket1 socket2) :=
  match h : s.lookupRequest name socket1 socket2 with
  | .ok (some e, _) => decidable_of_iff (¬ s.Awaited (s.entries e).m_udpproxy)
      (by rw [SparesRequest, h])
  | .ok (none, _) => isTrue (by rw [SparesRequest, h]; trivial)
  | .error _ => isFalse (by rw [SparesRequest, h]; exact id)

instance (s : UdpProxies) : ∀ o : Op, Decidable (s.Spares o)
  | .getUDPSocket name socket1 socket2 _ =>
    inferInstanceAs (Decidable (s.SparesRequest name socket1 socket2))
  | .closeUDPSocket name => match h : s.found name with
    | some (_, e) => decidable_of_iff (¬ s.Awaited (s.entries e).m_udpproxy) (by rw [Spares, h])
    | none => isTrue (by rw [Spares, h]; trivial)
  | .reaperTick .. => inferInstanceAs
      (Decidable (∀ e ∈ s.activeUdpProxy.values, ¬ s.Awaited (s.entries e).m_udpproxy))
  | .bindError k code _ => match h : (s.sockets k).parent with
    | some p => decidable_of_iff (code = "EADDRINUSE" ∨ ¬ s.Awaited p) (by rw [Spares, h])
    | none => isTrue (by rw [Spares, h]; exact Or.inr trivial)
  | .setProxyBlocked .. | .listening .. | .message .. | .error _ => isTrue trivial

theorem awaited_ledger (h : s.Wired) (hp : s.Live p k l) : s.ledger.Awaited p ↔ s.Awaited p := by
  have hdone : (⟨(s.sockets k).bind.outcome, (s.sockets l).bind.outcome,
      (s.proxies p).callback.request?⟩ : Wait).Done ↔ ¬ (s.proxies p).readyCounter < 2 := by
    rw [h.counter p k l hp, Wait.Done, Bind.outcome_counted, Bind.outcome_counted]
    cases (s.sockets k).bind.counts <;> cases (s.sockets l).bind.counts <;> simp
  constructor
  · rintro ⟨w, r, hw, hr, hd⟩
    rw [ledger_waits hp] at hw
    obtain rfl := Option.some.inj hw
    rw [hdone, not_not] at hd
    exact ⟨by rw [show (s.proxies p).callback.request? = some r from hr]; rfl, hd⟩
  · rintro ⟨hr, hlt⟩
    obtain ⟨r, hr⟩ := Option.isSome_iff_exists.mp hr
    exact ⟨_, r, ledger_waits hp, hr, fun hd => hdone.mp hd hlt⟩

/-- No request waits for a proxy of the table. -/
def RowsServed (s : UdpProxies) : Prop :=
  ∀ name e, s.activeUdpProxy.own? name = some e → ¬ s.Awaited (s.entries e).m_udpproxy

theorem RowsServed.tends {m : Move} (hs : s.Sound) (h : s.RowsServed) (ht : m.Tends)
    (hm : Moved s m s') : s'.RowsServed := by
  cases hm with
  | quiet halike =>
    intro name e hrow
    rw [halike.activeUdpProxy] at hrow
    rw [Awaited, halike.m_udpproxy, (halike.proxies _).1, (halike.proxies _).2.1]
    exact h name e hrow
  | @drop name e k l hrow hlive =>
    intro name' e' hrow'
    rw [Table.own?_delete] at hrow'
    split at hrow'
    · exact absurd hrow' (by simp)
    · next hne =>
      have hp := hs.row_ne hne hrow' hrow
      have := h name' e' hrow'
      simpa [Awaited, shut, Function.update_apply, hp] using this
  | @recreate name e k l onComplete hrow hlive =>
    intro name' e' hrow'
    by_cases hname : name' = name
    · subst hname
      obtain rfl : e = e' := Option.some.inj (hrow.symm.trans hrow')
      have hnone : (Callback.recreated e onComplete).request? = none := ht.uses
      simp [Awaited, replace, install, shut, hnone]
    · have hp := hs.row_ne hname hrow' hrow
      have hne : e' ≠ e := fun heq => hp (by rw [heq])
      obtain ⟨i, j, hlive', -⟩ := hs.rows name' e' hrow'
      have hlt := Nat.ne_of_lt (hs.toWired.lt hlive')
      have := h name' e' hrow'
      simpa [Awaited, replace, install, shut, hne, hp, hlt] using this
  | block _ _ => exact absurd ht (by simp [Move.Tends])
  | create _ _ _ _ _ => exact absurd ht (by simp [Move.Tends])
  | ask => exact absurd ht (by simp [Move.Tends])
  | reply _ _ _ => exact absurd ht (by simp [Move.Tends])
  | ends _ _ _ _ _ _ _ => exact absurd ht (by simp [Move.Tends])

/-- A row's proxy that nobody awaits can be closed. -/
theorem served_close {n : ℕ} {name : String} (hs : s.Sound) (h : s.ledger.Fair)
    (hn : s.ledger.Served n) (hrow : s.activeUdpProxy.own? name = some e)
    (hp : ¬ s.Awaited (s.entries e).m_udpproxy) :
    (s.ledger.close (s.entries e).m_udpproxy).Served n := by
  obtain ⟨k, l, hlive, -⟩ := hs.rows name e hrow
  exact h.served_close (fun hw => hp ((awaited_ledger hs.toWired hlive).mp hw)) hn

theorem waits_nextProxy (h : s.Wired) : s.ledger.waits s.nextProxy = none := by
  simp [ledger, h.freshProxy s.nextProxy (Nat.le_refl _)]

theorem waits_close_nextProxy (h : s.Wired) (p : ProxyId) :
    (s.ledger.close p).waits s.nextProxy = none := by
  rw [Ledger.waits_close]
  split
  · rfl
  · exact waits_nextProxy h

theorem Served.tends {n : ℕ} {m : Move} (hs : s.Sound) (h : s.ledger.Fair) (hrows : s.RowsServed)
    (ht : m.Tends) (hm : Moved s m s') (hn : s.ledger.Served n) : s'.ledger.Served n := by
  cases hm with
  | quiet halike => rw [halike.ledger]; exact hn
  | @drop name e k l hrow hlive =>
    rw [ledger_drop hs hlive]
    exact served_close hs h hn hrow (hrows name e hrow)
  | @recreate name e k l onComplete hrow hlive =>
    rw [ledger_replace hs hlive]
    exact Ledger.served_build (waits_close_nextProxy hs.toWired _) _
      (served_close hs h hn hrow (hrows name e hrow))
  | block _ _ => exact absurd ht (by simp [Move.Tends])
  | create _ _ _ _ _ => exact absurd ht (by simp [Move.Tends])
  | ask => exact absurd ht (by simp [Move.Tends])
  | reply _ _ _ => exact absurd ht (by simp [Move.Tends])
  | ends _ _ _ _ _ _ _ => exact absurd ht (by simp [Move.Tends])

/-- The bind of a socket ends. -/
theorem Served.ends {n : ℕ} {b : Bind} (hs : s.Sound) (h : s.ledger.Fair)
    (hm : Moved s (.ends k b) s')
    (hb : b.counts = true ∨ ∀ p, (s.sockets k).parent = some p → ¬ s.Awaited p)
    (hn : s.ledger.Served n) : s'.ledger.Served n := by
  cases hm with
  | @ends _ _ _ p report en hk hp hclosed hpending halike =>
    obtain ⟨q, i, j, hparent, hlive, hij⟩ := hs.parent (k := k) (by rw [hk]; decide)
    obtain rfl : p = q := Option.some.inj (hp.symm.trans hparent)
    have hold : (s.sockets k).bind.outcome = .pending := Bind.outcome_pending.mpr hk
    rw [halike.ledger, ledger_ends hs.toWired hlive hij hk]
    have hopen : ¬ (⟨(s.sockets i).bind.outcome, (s.sockets j).bind.outcome,
        (s.proxies p).callback.request?⟩ : Wait).Done := by
      rintro ⟨hone, htwo⟩
      rcases hij with rfl | rfl
      · rw [hold] at hone; exact absurd hone (by simp)
      · rw [hold] at htwo; exact absurd htwo (by simp)
    refine h.served_settle (ledger_waits hlive) hopen rfl (fun hwait hope => ?_) hn
    have hc : b.outcome = .counted := Bind.outcome_counted.mpr
      (hb.resolve_right fun hno => hno p hp ((awaited_ledger hs.toWired hlive).mp hwait))
    refine ⟨?_, ?_⟩
    · dsimp only [settled]
      split
      · rw [hc]; simp
      · exact hope.1
    · dsimp only [settled]
      split
      · rw [hc]; simp
      · exact hope.2

/-- A proxy of the table is replaced by one that carries the request. -/
theorem ledger_recreate {name : String} {request : Option RequestId} (hs : s.Sound)
    (hm : Moved s (.recreate name request) s') : ∃ e, s.activeUdpProxy.own? name = some e ∧
      s'.ledger = (s.ledger.close (s.entries e).m_udpproxy).build s.nextProxy request := by
  generalize hlabel : Move.recreate name request = m at hm
  cases hm with
  | recreate onComplete hrow hlive =>
    obtain ⟨rfl, rfl⟩ := Move.recreate.inj hlabel
    exact ⟨_, hrow, ledger_replace hs hlive onComplete⟩
  | _ => exact absurd hlabel (by simp)

/-- A request that spares the others is served, and so are they. -/
theorem Opened.served {r : RequestId} {name socket1 socket2 : Val} (hs : s.Sound)
    (h : s.ledger.Fair) (hr : s.ledger.Unused r) (hsp : s.SparesRequest name socket1 socket2)
    (hn : s.ledger.Served r) (ho : Opened s r name socket1 socket2 s') :
    s'.ledger.Served (r + 1) := by
  rw [SparesRequest] at hsp
  cases ho with
  | thrown hlook => rw [hlook] at hsp; exact absurd hsp id
  | fresh hlook hm =>
    cases hm with
    | create port1 port2 _ now hrow =>
      rw [ledger_create hs]
      exact Ledger.served_build_new hn (waits_nextProxy hs.toWired)
  | same hlook _ _ _ hm hm' =>
    cases hm with
    | quiet halike =>
      cases hm' with
      | reply _ report en =>
        rw [ledger_emit, halike.ledger]
        exact Ledger.served_answer_new hn hr.unanswered
  | refreshed hlook _ _ _ hm hm' =>
    rw [hlook] at hsp
    obtain ⟨hrow, -, -⟩ := lookupRequest_eq_ok hlook
    obtain ⟨e, hrow', hledger⟩ := ledger_recreate hs hm
    obtain rfl := Option.some.inj (hrow.symm.trans hrow')
    cases hm' with
    | quiet halike =>
      rw [halike.ledger, hledger]
      exact Ledger.served_build_new (served_close hs h hn hrow hsp)
        (waits_close_nextProxy hs.toWired _)
  | reopened hlook _ _ hm hm' =>
    rw [hlook] at hsp
    obtain ⟨hrow, -, -⟩ := lookupRequest_eq_ok hlook
    have ht := hs.moved hm
    cases hm with
    | drop hrow' hlive =>
      obtain rfl := Option.some.inj (hrow.symm.trans hrow')
      cases hm' with
      | create port1 port2 _ now hnone =>
        rw [ledger_create ht, ledger_drop hs hlive]
        exact Ledger.served_build_new (served_close hs h hn hrow hsp)
          (waits_close_nextProxy hs.toWired _)

theorem Moved.nextRequest {m : Move} (hm : Moved s m s') (ha : m ≠ .ask) :
    s'.nextRequest = s.nextRequest := by
  cases hm with
  | quiet halike => exact halike.nextRequest
  | @ends _ k b p report en hk hp hb hb' halike =>
    rw [halike.nextRequest]
    cases s.due b p with
    | none => rfl
    | some r => rfl
  | ask => exact absurd rfl ha
  | _ => rfl

theorem Opened.nextRequest {r : RequestId} {name socket1 socket2 : Val}
    (ho : Opened s r name socket1 socket2 s') : s'.nextRequest = s.nextRequest := by
  cases ho with
  | thrown _ => rfl
  | fresh _ hm => exact hm.nextRequest (by simp)
  | same _ _ _ _ hm hm' => exact (hm'.nextRequest (by simp)).trans (hm.nextRequest (by simp))
  | refreshed _ _ _ _ hm hm' => exact (hm'.nextRequest (by simp)).trans (hm.nextRequest (by simp))
  | reopened _ _ _ hm hm' => exact (hm'.nextRequest (by simp)).trans (hm.nextRequest (by simp))

/-- The reaper finds no awaited proxy, so it closes none. -/
theorem Served.tick {n : ℕ} (hs : s.Sound) (h : s.ledger.Fair) (hrows : s.RowsServed)
    (hn : s.ledger.Served n) (hpath : Lts.Path Moved (fun _ m => m.Tends) s s') :
    s'.ledger.Served n ∧ s'.nextRequest = s.nextRequest := by
  have hkeeps := hpath.invariant
    (P := fun t : UdpProxies => t.Sound ∧ t.ledger.Fair ∧ t.RowsServed ∧ t.ledger.Served n ∧
      t.nextRequest = s.nextRequest)
    (fun {t m u} hP (ht : m.Tends) (hm : Moved t m u) => ⟨hP.1.moved hm, Fair.tends hP.1 hP.2.1 (.single ht hm),
      hP.2.2.1.tends hP.1 ht hm, Served.tends hP.1 hP.2.1 hP.2.2.1 ht hm hP.2.2.2.1,
      (hm.nextRequest (by rintro rfl; exact ht)).trans hP.2.2.2.2⟩) ⟨hs, h, hrows, hn, rfl⟩
  exact hkeeps.2.2.2

/-- Every operation that spares the awaited proxies keeps the requests served. -/
theorem Served.step {o : Op} (hs : s.Sound) (h : s.ledger.Fair) (hsp : s.Spares o)
    (hn : s.ledger.Served s.nextRequest) (hstep : Step s o s') :
    s'.ledger.Served s'.nextRequest := by
  obtain ⟨hen, rfl⟩ := hstep
  cases o with
  | getUDPSocket name socket1 socket2 now =>
    have ho := getUDPSocket_opened (hs.moved .ask) s.nextRequest name socket1 socket2 now
    have hserved := ho.served (hs.moved .ask) h.ask h.unused_ask hsp hn
    have hasked : ((perform (.getUDPSocket name socket1 socket2 now)).final s).nextRequest =
        s.nextRequest + 1 := ho.nextRequest
    rw [hasked]
    exact hserved
  | closeUDPSocket name =>
    rw [final_closeUDPSocket]
    rw [Spares] at hsp
    rcases closeUDPSocket_cases hs name with ⟨-, hsame⟩ | ⟨key, e, hfound, hrow, hm⟩
    · rw [hsame]; exact hn
    · rw [hfound] at hsp
      rw [hm.nextRequest (by simp)]
      generalize (closeUDPSocket name).final s = t at hm
      cases hm with
      | drop hrow' hlive =>
        obtain rfl := Option.some.inj (hrow.symm.trans hrow')
        rw [ledger_drop hs hlive]
        exact served_close hs h hn hrow hsp
  | setProxyBlocked name blocked =>
    rw [final_setProxyBlocked]
    rcases setProxyBlocked_cases name blocked s with ⟨-, hsame⟩ | hm
    · rw [hsame]; exact hn
    · rw [hm.nextRequest (by simp)]
      generalize (setProxyBlocked name blocked).final s = t at hm
      cases hm with
      | block _ hrow => rw [(sameWires_block _ blocked s).ledger]; exact hn
  | reaperTick now online =>
    have hrows : s.RowsServed := fun name e hrow => hsp e (Table.mem_values_iff.mpr ⟨name, hrow⟩)
    obtain ⟨hserved, hnext⟩ :=
      Served.tick hs h hrows hn (tended_reaperTick now online s hs).1
    rw [← hnext] at hserved
    exact hserved
  | listening k host port now =>
    have hm := listeningEvent_moved hs hen host port now
    have hserved := Served.ends hs h hm (Or.inl rfl) hn
    rw [← hm.nextRequest (by simp)] at hserved
    exact hserved
  | bindError k code now =>
    have hm := bindErrorEvent_moved hs hen code now
    have hcond : (Bind.failed code).counts = true ∨
        ∀ p, (s.sockets k).parent = some p → ¬ s.Awaited p := by
      rcases hsp with hcode | hparent
      · exact Or.inl (by simp [Bind.counts, hcode])
      · refine Or.inr fun p hp => ?_
        rw [hp] at hparent
        exact hparent
    have hserved := Served.ends hs h hm hcond hn
    rw [← hm.nextRequest (by simp)] at hserved
    exact hserved
  | message k message remote now =>
    have halike := messageEvent_alike k message remote now s
    change Ledger.Served (ledger ((messageEvent k message remote now).final s)) _
    rw [halike.ledger]
    exact halike.nextRequest.symm ▸ hn
  | error k => exact hn

/-! ### Runs -/

/-- No bind is pending. -/
def Quiet (s : UdpProxies) : Prop := ∀ k, (s.sockets k).bind ≠ .pending

theorem Fair.start (public_host : Val) : (start public_host).ledger.Fair where
  carried := fun h => absurd h (by simp [ledger, UdpProxies.start])
  once := fun h => absurd h (by simp [ledger, UdpProxies.start])
  atMost := fun _ => Nat.zero_le _
  fresh := fun _ _ => rfl

/-- Every request is answered at most once; and when no bind is pending it has been answered exactly
    once, in every run whose operations spare the proxies that requests wait for. -/
theorem answered_once {public_host : Val}
    (h : Lts.Path Step (fun _ _ => True) (start public_host) s) :
    (∀ r, s.answers r ≤ 1) ∧ (Lts.Path Step Spares (start public_host) s → s.Quiet →
      ∀ r < s.nextRequest, s.answers r = 1) := by
  have hfair := h.invariant (P := fun t : UdpProxies => t.Sound ∧ t.ledger.Fair)
    (fun hP _ hstep => ⟨hP.1.step hstep, Fair.step hP.1 hP.2 hstep⟩)
    ⟨Sound.start public_host, Fair.start public_host⟩
  refine ⟨hfair.2.atMost, fun hspares hq => ?_⟩
  have hserved := hspares.invariant
    (P := fun t : UdpProxies => t.Sound ∧ t.ledger.Fair ∧ t.ledger.Served t.nextRequest)
    (fun {t o u} hP (hc : t.Spares o) (hstep : Step t o u) => ⟨hP.1.step hstep,
      Fair.step hP.1 hP.2.1 hstep, Served.step hP.1 hP.2.1 hc hP.2.2 hstep⟩)
    ⟨Sound.start public_host, Fair.start public_host, fun r hr => absurd hr (Nat.not_lt_zero r)⟩
  refine hfair.2.answered ?_ hserved.2.2
  intro p w hw
  obtain ⟨k, l, -, rfl⟩ := of_ledger_waits hw
  exact ⟨fun hk => hq k (Bind.outcome_pending.mp hk), fun hl => hq l (Bind.outcome_pending.mp hl)⟩

/-- A vehicle opens its proxy, asks again when it is ready, and closes it. -/
def openAndClose : List Op :=
  [.getUDPSocket (some (.str "drone")) anyPort anyPort 1000, .listening 0 "0.0.0.0" "5000" 1001,
    .listening 1 "0.0.0.0" "5001" 1002, .getUDPSocket (some (.str "drone")) anyPort anyPort 1003,
    .closeUDPSocket (some (.str "drone"))]

/-- In a computed run nothing is pending when no socket made so far is. -/
theorem quiet_of_path {C : UdpProxies → Op → Prop} {public_host : Val}
    (h : Lts.Path Step C (start public_host) s)
    (hbind : ∀ k < s.nextSocket, (s.sockets k).bind ≠ .pending) : s.Quiet := by
  intro k
  by_cases hk : k < s.nextSocket
  · exact hbind k hk
  · have hs : s.Sound := h.invariant (fun hP _ hstep => hP.step hstep) (Sound.start public_host)
    rw [hs.freshSocket k (Nat.not_lt.mp hk)]
    simp

/-- Both requests of the vehicle are answered. -/
theorem answered_once_openAndClose : ∃ s, Lts.Path Step Spares (start none) s ∧ s.Quiet ∧
    s.nextRequest = 2 ∧ s.answers 0 = 1 ∧ s.answers 1 = 1 := by
  have h : (run Spares (start none) openAndClose).map (fun s => (s.nextSocket, s.nextRequest,
      (s.sockets 0).bind, (s.sockets 1).bind)) = some (2, 2, .closed, .closed) := by
    decide +kernel
  obtain ⟨s, hs, hf⟩ := Option.map_eq_some_iff.mp h
  simp only [Prod.mk.injEq] at hf
  obtain ⟨hsockets, hnext, hbind0, hbind1⟩ := hf
  have hpath := path_of_run hs
  have hquiet : s.Quiet := quiet_of_path hpath fun k hk => by
    have hcases : k = 0 ∨ k = 1 := by grind
    rcases hcases with rfl | rfl
    · rw [hbind0]; simp
    · rw [hbind1]; simp
  have hans := (answered_once (hpath.mono fun _ => trivial)).2 hpath hquiet
  exact ⟨s, hpath, hquiet, hnext, hans 0 (by rw [hnext]; decide), hans 1 (by rw [hnext]; decide)⟩

/-- The first of the two requests is never answered: its proxy was replaced. -/
theorem answered_once_askTwice : ∃ s, Lts.Path Step (fun _ _ => True) (start none) s ∧ s.Quiet ∧
    0 < s.nextRequest ∧ s.answers 0 = 0 := by
  have h : (run (fun _ _ => True) (start none) askTwice).map (fun s => (s.nextSocket,
      s.nextRequest, s.answers 0, (s.sockets 0).bind, (s.sockets 1).bind)) =
      some (4, 2, 0, .closed, .closed) := by decide +kernel
  have hbinds : (run (fun _ _ => True) (start none) askTwice).map (fun s =>
      ((s.sockets 2).bind, (s.sockets 3).bind)) = some (.listening, .listening) := by
    decide +kernel
  obtain ⟨s, hs, hf⟩ := Option.map_eq_some_iff.mp h
  rw [hs, Option.map_some, Option.some.injEq] at hbinds
  simp only [Prod.mk.injEq] at hf hbinds
  obtain ⟨hsockets, hnext, hans, hbind0, hbind1⟩ := hf
  obtain ⟨hbind2, hbind3⟩ := hbinds
  have hpath := path_of_run hs
  refine ⟨s, hpath, quiet_of_path hpath fun k hk => ?_, by rw [hnext]; decide, hans⟩
  have hcases : k = 0 ∨ k = 1 ∨ k = 2 ∨ k = 3 := by grind
  rcases hcases with rfl | rfl | rfl | rfl
  · rw [hbind0]; simp
  · rw [hbind1]; simp
  · rw [hbind2]; simp
  · rw [hbind3]; simp

end UdpProxies

end DroneEngage
