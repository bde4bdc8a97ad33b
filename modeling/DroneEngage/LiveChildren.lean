import DroneEngage.ParentCommServer
import DroneEngage.Js.Text
import DroneEngage.Lts

/-! Which child connections `clientData` lists.

    The list is keyed by the address of a connection, and the close handler deletes by that key. A
    connection from an address whose last connection is still listed takes over its row; the close
    event of the old one then deletes the row of the new one. As long as no row of an open connection
    goes that way, every open connection is listed. -/

namespace DroneEngage
open Js

/-- Is this a message to the connection? -/
def ParentEffect.sendsTo (c : LinkId) : ParentEffect → Bool
  | .send d _ _ => d = c
  | _ => false

namespace ParentCommServer

open Action

variable {PrivateKey PublicKey : Type} {J : JsonCodec} {crypto : Crypto PrivateKey PublicKey}
  {config : S2sConfig PrivateKey PublicKey} {s s' : ParentCommServer PublicKey} {c : LinkId}

/-- One event that can happen. -/
def Step (J : JsonCodec) (crypto : Crypto PrivateKey PublicKey)
    (config : S2sConfig PrivateKey PublicKey) (s : ParentCommServer PublicKey) (e : ParentEvent)
    (s' : ParentCommServer PublicKey) : Prop :=
  s.enabled e = true ∧ s' = step J crypto config s e

/-- No open connection but the one that closes loses its row: neither to a new connection from its
    address, nor to the close event of an older one. -/
def Spares (s : ParentCommServer PublicKey) : ParentEvent → Prop
  | .connection clientKey _ => ∀ d, s.clientData.own? clientKey = some d →
      (s.children d).readyState ≠ .isOpen
  | .close c => ∀ d, s.clientData.own? (s.children c).clientKey = some d →
      d = c ∨ (s.children d).readyState ≠ .isOpen
  | _ => True

/-! ### The list -/

/-- Rows lead to connections under their own address that have not closed. -/
structure Listing (s : ParentCommServer PublicKey) : Prop where
  row : ∀ k c, s.clientData.own? k = some c →
    c < s.nextChild ∧ (s.children c).clientKey = k ∧ (s.children c).readyState ≠ .closed
  fresh : ∀ c, s.nextChild ≤ c → (s.children c).m_s2s_authed = false

/-- Every open connection has its row. -/
def ListsOpen (s : ParentCommServer PublicKey) : Prop :=
  ∀ c, c < s.nextChild → (s.children c).readyState = .isOpen →
    s.clientData.own? (s.children c).clientKey = some c

/-- Two states with the same connections and the same list, in which no connection has opened again,
    and none but `c` has been let through. -/
structure Steady (c : LinkId) (s s' : ParentCommServer PublicKey) : Prop where
  nextChild : s'.nextChild = s.nextChild
  clientData : s'.clientData = s.clientData
  clientKey : ∀ d, (s'.children d).clientKey = (s.children d).clientKey
  isOpen : ∀ d, (s'.children d).readyState = .isOpen → (s.children d).readyState = .isOpen
  closed : ∀ d, (s'.children d).readyState = .closed → (s.children d).readyState = .closed
  authed : ∀ d, d ≠ c → (s'.children d).m_s2s_authed = (s.children d).m_s2s_authed

instance (c : LinkId) : IsPreorder (ParentCommServer PublicKey) (Steady c) where
  refl := fun _ => ⟨rfl, rfl, fun _ => rfl, fun _ => id, fun _ => id, fun _ _ => rfl⟩
  trans := fun _ _ _ h h' => ⟨h'.nextChild.trans h.nextChild, h'.clientData.trans h.clientData,
    fun d => (h'.clientKey d).trans (h.clientKey d), fun d hd => h.isOpen d (h'.isOpen d hd),
    fun d hd => h.closed d (h'.closed d hd), fun d hd => (h'.authed d hd).trans (h.authed d hd)⟩

theorem Steady.listing (h : Steady c s s') (hc : c < s.nextChild) (hs : s.Listing) : s'.Listing where
  row := fun k d hrow => by
    rw [h.clientData] at hrow
    obtain ⟨hlt, hkey, hopen⟩ := hs.row k d hrow
    rw [h.nextChild, h.clientKey]
    exact ⟨hlt, hkey, fun hd => hopen (h.closed d hd)⟩
  fresh := fun d hd => by
    rw [h.nextChild] at hd
    rw [h.authed d (Nat.ne_of_gt (Nat.lt_of_lt_of_le hc hd))]
    exact hs.fresh d hd

theorem Steady.listsOpen (h : Steady c s s') (hs : s.ListsOpen) : s'.ListsOpen := by
  intro d hd hopen
  rw [h.nextChild] at hd
  rw [h.clientData, h.clientKey]
  exact hs d hd (h.isOpen d hopen)

/-! ### Handlers that leave the list alone -/

theorem steady_emit (e : ParentEffect) (s : ParentCommServer PublicKey) : Steady c s (s.emit e) :=
  ⟨rfl, rfl, fun _ => rfl, fun _ => id, fun _ => id, fun _ _ => rfl⟩

theorem steady_setChild {f : ChildSocket → ChildSocket} (hkey : ∀ w, (f w).clientKey = w.clientKey)
    (hopen : ∀ w, (f w).readyState = .isOpen → w.readyState = .isOpen)
    (hclosed : ∀ w, (f w).readyState = .closed → w.readyState = .closed)
    (s : ParentCommServer PublicKey) : Steady c s (setChild c f s) := by
  have hself : ∀ d, d = c → (setChild c f s).children d = f (s.children d) := by
    rintro d rfl
    simp [setChild]
  have hother : ∀ d, d ≠ c → (setChild c f s).children d = s.children d := by
    intro d hd
    simp [setChild, hd]
  refine ⟨rfl, rfl, fun d => ?_, fun d => ?_, fun d => ?_, fun d hd => by rw [hother d hd]⟩
  · by_cases hd : d = c
    · rw [hself d hd]; exact hkey _
    · rw [hother d hd]
  · by_cases hd : d = c
    · rw [hself d hd]; exact hopen _
    · rw [hother d hd]; exact id
  · by_cases hd : d = c
    · rw [hself d hd]; exact hclosed _
    · rw [hother d hd]; exact id

/-- The connection leaves the open state. -/
theorem steady_closing (s : ParentCommServer PublicKey) : Steady c s (setChild c (fun w =>
    if w.readyState = .isOpen then { w with readyState := .closing } else w) s) := by
  refine steady_setChild (fun w => ?_) (fun w => ?_) (fun w => ?_) s
  · split <;> rfl
  · split
    · intro h; exact absurd h (by simp)
    · exact id
  · split
    · intro h; exact absurd h (by simp)
    · exact id

theorem steady_terminate :
    Moves (Steady c) (terminate c : Action (ParentCommServer PublicKey) Unit) :=
  moves_modify fun s => trans_of (Steady c) (steady_closing s) (steady_emit _ _)

theorem steady_onHandshakeTimeout :
    Moves (Steady c) (onHandshakeTimeout c : Action (ParentCommServer PublicKey) Unit) :=
  moves_bind moves_get fun _ => moves_ite
    (fun _ => moves_bind (moves_modify (steady_setChild (fun _ => rfl) (fun _ => id) fun _ => id))
      fun _ => moves_ite (fun _ => steady_terminate) fun _ => moves_pure ())
    fun _ => moves_pure ()

theorem steady_isAcceptedResponse (env : Json) :
    Moves (Steady c) (isAcceptedResponse crypto config c env) :=
  moves_ite (fun _ => moves_bind moves_get fun _ => fun _ =>
    ⟨rfl, rfl, fun _ => rfl, fun _ => id, fun _ => id, fun _ _ => rfl⟩) fun _ => moves_pure false

theorem steady_onMessage (message : Bytes) (isText : Bool) :
    Moves (Steady c) (onMessage J crypto config c message isText) := by
  refine moves_attempt (moves_bind moves_get fun s => moves_ite (fun _ => ?_) fun _ =>
    moves_modify (steady_emit _)) fun _ => moves_pure ()
  rw [handshake]
  split
  · exact steady_terminate
  · refine moves_bind (steady_isAcceptedResponse _) fun accepted => moves_ite (fun _ => ?_) fun _ =>
      steady_terminate
    exact moves_modify (steady_setChild (fun _ => rfl) (fun _ => id) fun _ => id)

theorem steady_forwardMessage (message : Bytes) (isBinary : Bool) (exclude : Option LinkId) :
    Moves (Steady c)
      (forwardMessage message isBinary exclude : Action (ParentCommServer PublicKey) Unit) := by
  intro s
  rw [forwardMessage_final]
  exact ⟨rfl, rfl, fun _ => rfl, fun _ => id, fun _ => id, fun _ _ => rfl⟩

/-! ### Connections and close events -/

theorem onConnection_children (clientKey nonce : String) (d : LinkId) :
    ((onConnection J clientKey nonce).final s).children d = if d = s.nextChild
      then { clientKey := clientKey, m_s2s_nonce := nonce, authTimer := true }
      else s.children d := Function.update_apply ..

theorem Listing.connection (h : s.Listing) (clientKey nonce : String) :
    ((onConnection J clientKey nonce).final s).Listing := by
  constructor
  · intro k d hrow
    change (s.clientData.insert clientKey s.nextChild).own? k = some d at hrow
    rw [onConnection_children]
    rw [Table.own?_insert] at hrow
    split at hrow
    · next hk =>
      obtain rfl := Option.some.inj hrow
      rw [if_pos rfl]
      exact ⟨Nat.lt_succ_self _, hk.symm, by simp⟩
    · obtain ⟨hlt, hkey, hopen⟩ := h.row k d hrow
      rw [if_neg (Nat.ne_of_lt hlt)]
      exact ⟨Nat.lt_succ_of_lt hlt, hkey, hopen⟩
  · intro d hd
    change s.nextChild + 1 ≤ d at hd
    rw [onConnection_children, if_neg (Nat.ne_of_gt hd)]
    exact h.fresh d (Nat.le_of_succ_le hd)

theorem ListsOpen.connection {clientKey nonce : String} (h : s.ListsOpen)
    (hspares : s.Spares (.connection clientKey nonce)) :
    ((onConnection J clientKey nonce).final s).ListsOpen := by
  intro d hd hopen
  change d < s.nextChild + 1 at hd
  change (s.clientData.insert clientKey s.nextChild).own? _ = some d
  rw [onConnection_children] at hopen ⊢
  by_cases hnew : d = s.nextChild
  · rw [if_pos hnew, hnew, Table.own?_insert_self]
  · rw [if_neg hnew] at hopen ⊢
    have hrow := h d (Nat.lt_of_le_of_ne (Nat.le_of_lt_succ hd) hnew) hopen
    have hne : (s.children d).clientKey ≠ clientKey := by
      intro hk
      rw [hk] at hrow
      exact hspares d hrow hopen
    rw [Table.own?_insert_ne _ _ hne]
    exact hrow

theorem onClose_children (d : LinkId) : ((onClose c).final s).children d =
    if d = c then { s.children c with authTimer := false, readyState := .closed }
    else s.children d := Function.update_apply ..

theorem onClose_clientData (k : String) : ((onClose c).final s).clientData.own? k =
    if k = (s.children c).clientKey then none else s.clientData.own? k := Table.own?_delete ..

theorem Listing.close (h : s.Listing) (hc : c < s.nextChild) : ((onClose c).final s).Listing := by
  constructor
  · intro k d hrow
    rw [onClose_clientData] at hrow
    split at hrow
    · exact absurd hrow (by simp)
    · next hk =>
      obtain ⟨hlt, hkey, hopen⟩ := h.row k d hrow
      have hd : d ≠ c := by
        rintro rfl
        exact hk hkey.symm
      rw [onClose_children, if_neg hd]
      exact ⟨hlt, hkey, hopen⟩
  · intro d hd
    change s.nextChild ≤ d at hd
    rw [onClose_children, if_neg (Nat.ne_of_gt (Nat.lt_of_lt_of_le hc hd))]
    exact h.fresh d hd

theorem ListsOpen.close (h : s.ListsOpen) (hspares : s.Spares (.close c)) :
    ((onClose c).final s).ListsOpen := by
  intro d hd hopen
  rw [onClose_children] at hopen
  rw [onClose_clientData, onClose_children]
  split at hopen
  · exact absurd hopen (by simp)
  · next hne =>
    have hrow := h d hd hopen
    have hkey : (s.children d).clientKey ≠ (s.children c).clientKey := by
      intro hk
      rw [hk] at hrow
      rcases hspares d hrow with heq | hnot
      · exact hne heq
      · exact hnot hopen
    rw [if_neg hne, if_neg hkey]
    exact hrow

/-! ### Runs -/

theorem Listing.step {e : ParentEvent} (h : s.Listing) (hstep : Step J crypto config s e s') :
    s'.Listing := by
  obtain ⟨hen, rfl⟩ := hstep
  rw [ParentCommServer.step, if_pos hen]
  cases e with
  | connection clientKey nonce => exact h.connection clientKey nonce
  | message c message isText =>
    exact (steady_onMessage message isText s).listing (of_decide_eq_true hen) h
  | handshakeTimeout c => exact (steady_onHandshakeTimeout s).listing (of_decide_eq_true hen) h
  | closing c => exact (steady_closing s).listing (of_decide_eq_true hen) h
  | close c => exact h.close (of_decide_eq_true hen)
  | forwardMessage message isBinary exclude =>
    rw [handle, forwardMessage_final]
    exact { h with }

theorem ListsOpen.step {e : ParentEvent} (h : s.ListsOpen) (hspares : s.Spares e)
    (hstep : Step J crypto config s e s') : s'.ListsOpen := by
  obtain ⟨hen, rfl⟩ := hstep
  rw [ParentCommServer.step, if_pos hen]
  cases e with
  | connection clientKey nonce => exact h.connection hspares
  | message c message isText => exact (steady_onMessage message isText s).listsOpen h
  | handshakeTimeout c => exact (steady_onHandshakeTimeout s).listsOpen h
  | closing c => exact (steady_closing s).listsOpen h
  | close c => exact h.close hspares
  | forwardMessage message isBinary exclude =>
    exact (steady_forwardMessage (c := 0) message isBinary exclude s).listsOpen h

theorem listing_start : (({} : ParentCommServer PublicKey)).Listing :=
  ⟨fun _ _ h => absurd h (by simp), fun _ _ => rfl⟩

theorem listsOpen_start : (({} : ParentCommServer PublicKey)).ListsOpen :=
  fun c hc => absurd hc (Nat.not_lt_zero c)

/-- A listed connection that is open and authenticated is sent a message once. -/
theorem forwardMessage_once (h : s.Listing) (hrow : s.clientData.own? (s.children c).clientKey = some c)
    (hopen : (s.children c).readyState = .isOpen) (hauthed : (s.children c).m_s2s_authed = true)
    (message : Bytes) (isBinary : Bool) : ∃ l,
      ((forwardMessage message isBinary none).final s).log = s.log ++ l ∧
        l.countP (ParentEffect.sendsTo c) = 1 := by
  rw [forwardMessage_final]
  refine ⟨_, rfl, ?_⟩
  have hforwards : s.forwardsOver none c = true := decide_eq_true ⟨hopen, hauthed, by simp⟩
  have honce : s.clientData.values.count c = 1 :=
    Table.count_values hrow fun k hk => (h.row k c hk).2.1.symm
  rw [List.countP_map, List.countP_filter, ← honce, List.count_eq_countP]
  refine List.countP_congr fun d _ => ?_
  by_cases hd : d = c
  · subst hd
    simp [ParentEffect.sendsTo, hforwards]
  · simp [ParentEffect.sendsTo, hd]

/-- In every run in which no open connection loses its row to a new connection or to the close event
    of another one, every open and authenticated connection is listed and is sent a forwarded message
    exactly once, and no connection whose close event was handled is listed. -/
theorem authed_children_listed (h : Lts.Path (Step J crypto config) Spares {} s) :
    (∀ c, (s.children c).readyState = .isOpen → (s.children c).m_s2s_authed = true →
      c ∈ s.clientData.values ∧ ∀ message isBinary, ∃ l,
        ((forwardMessage message isBinary none).final s).log = s.log ++ l ∧
          l.countP (ParentEffect.sendsTo c) = 1) ∧
    ∀ c, (s.children c).readyState = .closed → c ∉ s.clientData.values := by
  obtain ⟨hlisting, hopen⟩ : s.Listing ∧ s.ListsOpen :=
    h.invariant (P := fun t : ParentCommServer PublicKey => t.Listing ∧ t.ListsOpen)
      (fun {_ e _} hP (hspares : Spares _ e) (hstep : Step J crypto config _ e _) =>
        ⟨hP.1.step hstep, hP.2.step hspares hstep⟩)
      ⟨listing_start, listsOpen_start⟩
  refine ⟨fun c hc hauthed => ?_, fun c hc hmem => ?_⟩
  · have hlt : c < s.nextChild := by
      by_contra hnot
      have := hlisting.fresh c (Nat.not_lt.mp hnot)
      exact absurd (hauthed.symm.trans this) (by simp)
    have hrow := hopen c hlt hc
    exact ⟨Table.mem_values_iff.mpr ⟨_, hrow⟩, forwardMessage_once hlisting hrow hc hauthed⟩
  · obtain ⟨k, hk⟩ := Table.mem_values_iff.mp hmem
    exact (hlisting.row k c hk).2.2 hc

instance (s : ParentCommServer PublicKey) : ∀ e : ParentEvent, Decidable (s.Spares e)
  | .connection clientKey _ =>
    match h : s.clientData.own? clientKey with
    | none => isTrue (by intro d hd; rw [h] at hd; exact absurd hd (by simp))
    | some d => decidable_of_iff ((s.children d).readyState ≠ .isOpen)
        (by simp [Spares, h])
  | .close c =>
    match h : s.clientData.own? (s.children c).clientKey with
    | none => isTrue (by intro d hd; rw [h] at hd; exact absurd hd (by simp))
    | some d => decidable_of_iff (d = c ∨ (s.children d).readyState ≠ .isOpen)
        (by simp [Spares, h])
  | .message .. | .handshakeTimeout _ | .closing _ | .forwardMessage .. => isTrue trivial

/-- A run of given events that meet a condition. -/
def runWithin (J : JsonCodec) (crypto : Crypto PrivateKey PublicKey)
    (config : S2sConfig PrivateKey PublicKey) (C : ParentCommServer PublicKey → ParentEvent → Prop)
    [∀ s e, Decidable (C s e)] (s : ParentCommServer PublicKey) (es : List ParentEvent) :
    Option (ParentCommServer PublicKey) :=
  es.foldlM (fun s e => if s.enabled e = true ∧ C s e then some (step J crypto config s e) else none) s

theorem path_of_runWithin {C : ParentCommServer PublicKey → ParentEvent → Prop}
    [∀ s e, Decidable (C s e)] {es : List ParentEvent}
    (h : runWithin J crypto config C s es = some s') : Lts.Path (Step J crypto config) C s s' :=
  Lts.Path.of_guarded (fun hc => ⟨hc.2, hc.1, rfl⟩) h

/-- A parent that trusts one child. -/
def trustingConfig : S2sConfig Char Char where
  s2s_trusted_server_keys := some (Table.empty.insert "child" (some 'k'))

/-- The answer of the child to a challenge. -/
def childAnswer (nonce : String) : Bytes :=
  ((S2sAuth.buildResponse Text.codec Crypto.sealing
    { server_id := some "child", s2s_my_private_key := some 'k' } (some (.str nonce))).toOption).getD []

/-- A child connects and is let through, its connection ends, and it does the same again. -/
def childReconnects : List ParentEvent :=
  [.connection "10.0.0.2:4000" "n0", .message 0 (childAnswer "n0") false, .closing 0, .close 0,
    .connection "10.0.0.2:4000" "n1", .message 1 (childAnswer "n1") false]

/-- The close event of its first connection comes last. -/
def closesLate : List ParentEvent :=
  [.connection "10.0.0.2:4000" "n0", .message 0 (childAnswer "n0") false, .closing 0,
    .connection "10.0.0.2:4000" "n1", .message 1 (childAnswer "n1") false, .close 0]

theorem authed_children_listed_reconnects : ∃ s,
    Lts.Path (Step Text.codec Crypto.sealing trustingConfig) Spares {} s ∧
      (s.children 1).m_s2s_authed = true ∧ 1 ∈ s.clientData.values := by
  have h : (runWithin Text.codec Crypto.sealing trustingConfig Spares {} childReconnects).map
      (fun s => ((s.children 1).m_s2s_authed, (s.children 1).readyState)) = some (true, .isOpen) := by
    decide +kernel
  obtain ⟨s, hs, hf⟩ := Option.map_eq_some_iff.mp h
  obtain ⟨hauthed, hopen⟩ := Prod.mk.inj hf
  have hrun := path_of_runWithin hs
  exact ⟨s, hrun, hauthed, ((authed_children_listed hrun).1 1 hopen hauthed).1⟩

/-- The second connection is open and authenticated, and nothing is sent to it. -/
theorem late_close_delists : ∃ s,
    Lts.Path (Step Text.codec Crypto.sealing trustingConfig) (fun _ _ => True) {} s ∧
      (s.children 1).readyState = .isOpen ∧ (s.children 1).m_s2s_authed = true ∧
      1 ∉ s.clientData.values ∧
      ∀ message isBinary, ((forwardMessage message isBinary none).final s).log = s.log := by
  have h : (runWithin Text.codec Crypto.sealing trustingConfig (fun _ _ => True) {} closesLate).map
      (fun s => ((s.children 1).readyState, (s.children 1).m_s2s_authed, s.clientData.values)) =
        some (.isOpen, true, []) := by
    decide +kernel
  obtain ⟨s, hs, hf⟩ := Option.map_eq_some_iff.mp h
  simp only [Prod.mk.injEq] at hf
  obtain ⟨hopen, hauthed, hnone⟩ := hf
  refine ⟨s, path_of_runWithin hs, hopen, hauthed, by simp [hnone], fun message isBinary => ?_⟩
  rw [forwardMessage_final, hnone]
  exact List.append_nil _

end ParentCommServer

end DroneEngage
