import DroneEngage.ParentCommServer
import Mathlib.Data.List.Induction

/-! The handshake gate of the parent side.

    A connection routes nothing and is sent nothing before it has answered its nonce with a signature
    that verifies under the key of a configured id. What a connection has answered is read off the
    events alone: the nonce is the one of its `connection` event, the answer one of its later
    messages. -/

namespace DroneEngage
open Js

/-- The nonce of a new connection. -/
def ParentEvent.nonce? : ParentEvent → Option String
  | .connection _ nonce => some nonce
  | _ => none

/-- The connection a relayed message comes from or goes to. -/
def ParentEffect.relayLink? : ParentEffect → Option LinkId
  | .parseExternalMessage c _ _ => some c
  | .send c _ _ => some c
  | _ => none

/-- The nonce of the connection that was accepted as the `c`-th. -/
def nonceOf (es : List ParentEvent) (c : LinkId) : Option String :=
  (es.filterMap ParentEvent.nonce?)[c]?

theorem nonceOf_append {es : List ParentEvent} {c : LinkId} {nonce : String}
    (h : nonceOf es c = some nonce) (fs : List ParentEvent) : nonceOf (es ++ fs) c = some nonce := by
  rw [nonceOf, List.filterMap_append, List.getElem?_append_left]
  · exact h
  · exact (List.getElem?_eq_some_iff.mp h).1

namespace ParentCommServer

section

variable {PrivateKey PublicKey : Type} (J : JsonCodec) (crypto : Crypto PrivateKey PublicKey)
  (config : S2sConfig PrivateKey PublicKey)

/-- The message is a response envelope with a signature of this nonce, under a configured id. -/
def Signs (nonce : String) (message : Bytes) (isText : Bool) : Prop :=
  ∃ env sig name key, S2sAuth.parseEnvelope J message isText = some env ∧
    env.field "s2s_auth" = some (.str S2sAuth.response) ∧ env.field "sig" = some sig ∧
    propKey (env.field "id") = .ok name ∧
    S2sAuth.Trusted config.s2s_trusted_server_keys name key ∧
    crypto.verify (.publicKey key) (utf8 nonce) sig = .ok true

/-- After these events the message answers the challenge of its connection. -/
def Answers (es : List ParentEvent) (c : LinkId) (message : Bytes) (isText : Bool) : Prop :=
  ∃ nonce, nonceOf es c = some nonce ∧ Signs J crypto config nonce message isText

/-- One of these events is the answer of the connection to its challenge. -/
def Answered (es : List ParentEvent) (c : LinkId) : Prop :=
  ∃ pre message isText post, es = pre ++ .message c message isText :: post ∧
    Answers J crypto config pre c message isText

variable {J crypto config}

theorem Answered.append {es : List ParentEvent} {c : LinkId} (h : Answered J crypto config es c)
    (fs : List ParentEvent) : Answered J crypto config (es ++ fs) c := by
  obtain ⟨pre, message, isText, post, rfl, ha⟩ := h
  exact ⟨pre, message, isText, post ++ fs, by simp, ha⟩

/-! ### What a handler changes -/

/-- Nobody is let through the gate, and only who is through it has part in the relay. -/
structure Gated (config : S2sConfig PrivateKey PublicKey) (s s' : ParentCommServer PublicKey) :
    Prop where
  nextChild : s'.nextChild = s.nextChild
  nonce : ∀ c, (s'.children c).m_s2s_nonce = (s.children c).m_s2s_nonce
  authed : ∀ c, (s'.children c).m_s2s_authed = (s.children c).m_s2s_authed
  keys : S2sAuth.KeepsLoaded config.s2s_trusted_server_keys s.m_publicKeys s'.m_publicKeys
  log : ∃ l, s'.log = s.log ++ l ∧
    ∀ f ∈ l, ∀ c, f.relayLink? = some c → (s.children c).m_s2s_authed = true

instance : IsPreorder (ParentCommServer PublicKey) (Gated config) where
  refl := fun s => ⟨rfl, fun _ => rfl, fun _ => rfl, id, [], by rw [List.append_nil], by simp⟩
  trans := fun s t u h h' => by
    refine ⟨h'.nextChild.trans h.nextChild, fun c => (h'.nonce c).trans (h.nonce c),
      fun c => (h'.authed c).trans (h.authed c), fun hk => h'.keys (h.keys hk), ?_⟩
    obtain ⟨l, hl, hQ⟩ := h.log
    obtain ⟨l', hl', hQ'⟩ := h'.log
    refine ⟨l ++ l', by rw [hl', hl, List.append_assoc], fun f hf c hc => ?_⟩
    rcases List.mem_append.mp hf with hf | hf
    · exact hQ f hf c hc
    · rw [← h.authed c]; exact hQ' f hf c hc

open Action

theorem gated_emit {f : ParentEffect} {s : ParentCommServer PublicKey}
    (hf : ∀ c, f.relayLink? = some c → (s.children c).m_s2s_authed = true) :
    Gated config s (s.emit f) := by
  refine ⟨rfl, fun _ => rfl, fun _ => rfl, id, [f], rfl, fun f' hf' => ?_⟩
  rw [List.mem_singleton.mp hf']
  exact hf

theorem setChild_children (c d : LinkId) (f : ChildSocket → ChildSocket)
    (s : ParentCommServer PublicKey) : (setChild c f s).children d =
      if d = c then f (s.children c) else s.children d := Function.update_apply ..

theorem gated_setChild {c : LinkId} {f : ChildSocket → ChildSocket}
    (hnonce : ∀ w, (f w).m_s2s_nonce = w.m_s2s_nonce)
    (hauthed : ∀ w, (f w).m_s2s_authed = w.m_s2s_authed) (s : ParentCommServer PublicKey) :
    Gated config s (setChild c f s) := by
  refine ⟨rfl, fun d => ?_, fun d => ?_, id, [], by rw [List.append_nil]; rfl, by simp⟩
  · rw [setChild_children]
    split
    · next h => subst h; exact hnonce _
    · rfl
  · rw [setChild_children]
    split
    · next h => subst h; exact hauthed _
    · rfl

theorem gated_keys {s : ParentCommServer PublicKey} {cache : S2sAuth.KeyCache PublicKey}
    (h : S2sAuth.KeepsLoaded config.s2s_trusted_server_keys s.m_publicKeys cache) :
    Gated config s { s with m_publicKeys := cache } :=
  ⟨rfl, fun _ => rfl, fun _ => rfl, h, [], by rw [List.append_nil], by simp⟩

/-- A connection leaves the open state. -/
theorem gated_closing (c : LinkId) (s : ParentCommServer PublicKey) :
    Gated config s (setChild c (fun w =>
      if w.readyState = .isOpen then { w with readyState := .closing } else w) s) := by
  refine gated_setChild (fun w => ?_) (fun w => ?_) s
  · split <;> rfl
  · split <;> rfl

theorem gated_terminate (c : LinkId) :
    Moves (Gated config) (terminate c : Action (ParentCommServer PublicKey) Unit) :=
  moves_modify fun s => trans_of (Gated config) (gated_closing c s)
    (gated_emit fun _ h => absurd h (by simp [ParentEffect.relayLink?]))

theorem gated_onHandshakeTimeout (c : LinkId) :
    Moves (Gated config) (onHandshakeTimeout c : Action (ParentCommServer PublicKey) Unit) :=
  moves_bind moves_get fun _ => moves_ite
    (fun _ => moves_bind (moves_modify (gated_setChild (fun _ => rfl) fun _ => rfl)) fun _ =>
      moves_ite (fun _ => gated_terminate c) fun _ => moves_pure ())
    fun _ => moves_pure ()

theorem gated_onClose (c : LinkId) :
    Moves (Gated config) (onClose c : Action (ParentCommServer PublicKey) Unit) := by
  have hdelete : ∀ s : ParentCommServer PublicKey, Gated config s
      { s with clientData := s.clientData.delete (s.children c).clientKey } := fun s =>
    ⟨rfl, fun _ => rfl, fun _ => rfl, id, [], by rw [List.append_nil], by simp⟩
  exact moves_bind (moves_modify hdelete) fun _ =>
    moves_modify (gated_setChild (fun _ => rfl) fun _ => rfl)

theorem gated_forwardMessage (message : Bytes) (isBinary : Bool) (exclude : Option LinkId) :
    Moves (Gated config)
      (forwardMessage message isBinary exclude : Action (ParentCommServer PublicKey) Unit) := by
  refine moves_bind moves_get fun _ => moves_forEach _ fun c _ => moves_get_bind fun s => ?_
  split
  · next h =>
    refine gated_emit fun d hd => ?_
    obtain rfl := Option.some.inj hd
    exact h.2.1
  · exact refl_of (Gated config) s

/-! ### The handshake -/

variable (crypto) in
/-- The condition of the gate is decided without an exception, and it holds only of a signature of
    the connection's nonce under a configured id. -/
theorem isAcceptedResponse_run {s : ParentCommServer PublicKey}
    (hk : S2sAuth.Loaded config.s2s_trusted_server_keys s.m_publicKeys) (c : LinkId) (env : Json) :
    ∃ b cache, isAcceptedResponse crypto config c env s = (.ok b, { s with m_publicKeys := cache }) ∧
      S2sAuth.KeepsLoaded config.s2s_trusted_server_keys s.m_publicKeys cache ∧
      (b = true → env.field "s2s_auth" = some (.str S2sAuth.response) ∧
        ∃ sig name key, env.field "sig" = some sig ∧ propKey (env.field "id") = .ok name ∧
          S2sAuth.Trusted config.s2s_trusted_server_keys name key ∧
          crypto.verify (.publicKey key) (utf8 (s.children c).m_s2s_nonce) sig = .ok true) := by
  rw [isAcceptedResponse]
  split
  · next henv =>
    have hrun : ¬ (S2sAuth.verify crypto config.s2s_trusted_server_keys (s.children c).m_s2s_nonce
        (env.field "sig") (env.field "id")).Escapes s.m_publicKeys :=
      not_escapes_attempt fun _ _ => not_escapes_pure _ _
    have hkeep := S2sAuth.loaded_verify crypto config.s2s_trusted_server_keys
      (s.children c).m_s2s_nonce (env.field "sig") (env.field "id") s.m_publicKeys
    rcases hr : S2sAuth.verify crypto config.s2s_trusted_server_keys (s.children c).m_s2s_nonce
      (env.field "sig") (env.field "id") s.m_publicKeys with ⟨e | b, cache⟩
    · exact absurd ⟨e, by rw [hr]⟩ hrun
    · rw [final, hr] at hkeep
      refine ⟨b, cache, ?_, hkeep, ?_⟩
      · rw [run_bind_get, withKeys, hr]
      · rintro rfl
        exact ⟨henv.1, S2sAuth.verify_true hk (by rw [hr])⟩
  · exact ⟨false, s.m_publicKeys, rfl, id, by simp⟩

variable (J crypto) in
/-- What a message does: it is routed for a connection that has been let through; otherwise it lets
    the connection through, or the connection is terminated. -/
theorem onMessage_cases {s : ParentCommServer PublicKey}
    (hk : S2sAuth.Loaded config.s2s_trusted_server_keys s.m_publicKeys) (c : LinkId)
    (message : Bytes) (isText : Bool) :
    (s.children c).m_s2s_authed = true ∧ (onMessage J crypto config c message isText).final s =
        s.emit (.parseExternalMessage c message (!isText)) ∨
    (s.children c).m_s2s_authed = false ∧
      ∃ cache, S2sAuth.KeepsLoaded config.s2s_trusted_server_keys s.m_publicKeys cache ∧
        ((onMessage J crypto config c message isText).final s =
            (terminate c).final { s with m_publicKeys := cache } ∨
          Signs J crypto config (s.children c).m_s2s_nonce message isText ∧
            ∃ id, (onMessage J crypto config c message isText).final s =
              setChild c (fun w =>
                { w with m_s2s_authed := true, m_s2s_server_id := id, authTimer := false })
                { s with m_publicKeys := cache }) := by
  rw [onMessage, final_attempt_pure, final_get_bind]
  cases ha : (s.children c).m_s2s_authed with
  | true => exact Or.inl ⟨rfl, rfl⟩
  | false =>
    rw [if_pos rfl, handshake]
    refine Or.inr ⟨rfl, ?_⟩
    cases henv : S2sAuth.parseEnvelope J message isText with
    | none => exact ⟨s.m_publicKeys, id, Or.inl rfl⟩
    | some env =>
      obtain ⟨b, cache, hrun, hkeep, htrue⟩ := isAcceptedResponse_run crypto hk c env
      refine ⟨cache, hkeep, ?_⟩
      simp only [final_bind_of_ok hrun]
      cases b with
      | false => exact Or.inl rfl
      | true =>
        obtain ⟨hresponse, sig, name, key, hsig, hname, htrusted, hverify⟩ := htrue rfl
        exact Or.inr ⟨⟨env, sig, name, key, henv, hresponse, hsig, hname, htrusted, hverify⟩,
          env.field "id", rfl⟩

/-! ### Runs -/

variable (J crypto config)

/-- What a run knows of its connections. -/
structure Gate (es : List ParentEvent) (s : ParentCommServer PublicKey) : Prop where
  nextChild : s.nextChild = (es.filterMap ParentEvent.nonce?).length
  nonce : ∀ c, c < s.nextChild → nonceOf es c = some (s.children c).m_s2s_nonce
  authed : ∀ c, (s.children c).m_s2s_authed = true → Answered J crypto config es c
  keys : S2sAuth.Loaded config.s2s_trusted_server_keys s.m_publicKeys

variable {J crypto config}

/-- An event that opens no connection and lets nobody through. -/
theorem Gate.gated {es : List ParentEvent} {e : ParentEvent} {s s' : ParentCommServer PublicKey}
    (h : Gate J crypto config es s) (hg : Gated config s s') (he : e.nonce? = none) :
    Gate J crypto config (es ++ [e]) s' := by
  have hsame : (es ++ [e]).filterMap ParentEvent.nonce? = es.filterMap ParentEvent.nonce? := by
    rw [List.filterMap_append, List.filterMap_cons_none he, List.filterMap_nil, List.append_nil]
  refine ⟨?_, fun c hc => ?_, fun c hc => ?_, hg.keys h.keys⟩
  · rw [hg.nextChild, hsame]; exact h.nextChild
  · rw [nonceOf, hsame, hg.nonce]; exact h.nonce c (hg.nextChild ▸ hc)
  · rw [hg.authed] at hc; exact (h.authed c hc).append [e]

/-- A message that answers the challenge of its connection lets it through. -/
theorem Gate.accept {es : List ParentEvent} {s s' : ParentCommServer PublicKey}
    (h : Gate J crypto config es s) {c : LinkId} {message : Bytes} {isText : Bool}
    (hc : c < s.nextChild) (hs : Signs J crypto config (s.children c).m_s2s_nonce message isText)
    {id : Val} (hg : Gated config s s') :
    Gate J crypto config (es ++ [.message c message isText]) (setChild c (fun w =>
      { w with m_s2s_authed := true, m_s2s_server_id := id, authTimer := false }) s') := by
  have hgate := h.gated (e := .message c message isText) hg rfl
  refine ⟨hgate.nextChild, fun d hd => ?_, fun d hd => ?_, hgate.keys⟩
  · rw [hgate.nonce d hd, setChild_children]
    split
    · next hdc => rw [hdc]
    · rfl
  · rw [setChild_children] at hd
    split at hd
    · next hdc =>
      rw [hdc]
      exact ⟨es, message, isText, [], rfl, _, h.nonce c hc, hs⟩
    · exact hgate.authed d hd

/-- A new connection. -/
theorem Gate.connection {es : List ParentEvent} {s : ParentCommServer PublicKey}
    (h : Gate J crypto config es s) (clientKey nonce : String) :
    Gate J crypto config (es ++ [.connection clientKey nonce])
      ((onConnection J clientKey nonce).final s) := by
  have hnew : ∀ d, (((onConnection J clientKey nonce).final s).children d) =
      if d = s.nextChild then { clientKey := clientKey, m_s2s_nonce := nonce, authTimer := true }
      else s.children d := fun d => Function.update_apply ..
  have hadd : (es ++ [ParentEvent.connection clientKey nonce]).filterMap ParentEvent.nonce? =
      es.filterMap ParentEvent.nonce? ++ [nonce] := List.filterMap_append
  refine ⟨?_, fun d hd => ?_, fun d hd => ?_, h.keys⟩
  · rw [hadd, List.length_append, ← h.nextChild]; rfl
  · rw [hnew]
    split
    · next hdc =>
      rw [nonceOf, hadd, hdc, h.nextChild, List.getElem?_concat_length]
    · next hdc =>
      have hlt : d < s.nextChild := Nat.lt_of_le_of_ne (Nat.le_of_lt_succ hd) hdc
      exact nonceOf_append (h.nonce d hlt) _
  · rw [hnew] at hd
    split at hd
    · exact absurd hd (by simp)
    · exact (h.authed d hd).append _

/-- What a message adds to the log, and what is known after it. -/
theorem Gate.message {es : List ParentEvent} {s : ParentCommServer PublicKey}
    (h : Gate J crypto config es s) {c : LinkId} (hc : c < s.nextChild) (message : Bytes)
    (isText : Bool) :
    Gate J crypto config (es ++ [.message c message isText])
        ((onMessage J crypto config c message isText).final s) ∧
      ∃ l, ((onMessage J crypto config c message isText).final s).log = s.log ++ l ∧
        (∀ f ∈ l, ∀ d, f.relayLink? = some d → (s.children d).m_s2s_authed = true) ∧
        ((s.children c).m_s2s_authed = false → (∀ f ∈ l, f.relayLink? = none) ∧
          (Answers J crypto config es c message isText ∨ .terminate c ∈ l)) := by
  rcases onMessage_cases J crypto h.keys c message isText with
    ⟨hauthed, hfin⟩ | ⟨hauthed, cache, hkeep, hfin | ⟨hsigns, id, hfin⟩⟩
  · -- traffic
    have hg : Gated config s (s.emit (.parseExternalMessage c message (!isText))) := by
      refine gated_emit fun d hd => ?_
      obtain rfl := Option.some.inj hd
      exact hauthed
    rw [hfin]
    obtain ⟨l, hl, hQ⟩ := hg.log
    exact ⟨h.gated hg rfl, l, hl, hQ, fun hf => absurd (hauthed.symm.trans hf) (by simp)⟩
  · -- refused
    rw [hfin]
    refine ⟨h.gated (trans_of (Gated config) (gated_keys hkeep) (gated_terminate c _)) rfl,
      [.terminate c], rfl, ?_, fun _ => ⟨?_, Or.inr (List.mem_singleton.mpr rfl)⟩⟩
    · intro f hf d hd
      rw [List.mem_singleton.mp hf] at hd
      exact absurd hd (by simp [ParentEffect.relayLink?])
    · intro f hf
      rw [List.mem_singleton.mp hf]; rfl
  · -- let through
    rw [hfin]
    exact ⟨h.accept hc hsigns (gated_keys hkeep), [], (List.append_nil _).symm, by simp,
      fun _ => ⟨by simp, Or.inl ⟨_, h.nonce c hc, hsigns⟩⟩⟩

/-- What any event adds to the log, and what is known after it. -/
theorem Gate.step {es : List ParentEvent} {s : ParentCommServer PublicKey}
    (h : Gate J crypto config es s) (e : ParentEvent) :
    Gate J crypto config (es ++ [e]) (step J crypto config s e) ∧
      ∃ l, (ParentCommServer.step J crypto config s e).log = s.log ++ l ∧
        ∀ f ∈ l, ∀ d, f.relayLink? = some d → (s.children d).m_s2s_authed = true := by
  have hquiet : ∀ s', e.nonce? = none → Gated config s s' →
      Gate J crypto config (es ++ [e]) s' ∧ ∃ l, s'.log = s.log ++ l ∧
        ∀ f ∈ l, ∀ d, f.relayLink? = some d → (s.children d).m_s2s_authed = true :=
    fun s' he hg => ⟨h.gated hg he, hg.log⟩
  rw [ParentCommServer.step]
  cases e with
  | connection clientKey nonce =>
    refine ⟨h.connection clientKey nonce, [.challenge s.nextChild (S2sAuth.buildChallenge J nonce)],
      rfl, fun f hf d hd => ?_⟩
    rw [List.mem_singleton.mp hf] at hd
    exact absurd hd (by simp [ParentEffect.relayLink?])
  | message c message isText =>
    split
    · next hc =>
      obtain ⟨hgate, l, hl, hQ, -⟩ := h.message (of_decide_eq_true hc) message isText
      exact ⟨hgate, l, hl, hQ⟩
    · exact hquiet _ rfl (refl_of (Gated config) s)
  | handshakeTimeout c =>
    split
    · exact hquiet _ rfl (gated_onHandshakeTimeout c s)
    · exact hquiet _ rfl (refl_of (Gated config) s)
  | closing c =>
    split
    · exact hquiet _ rfl (gated_closing c s)
    · exact hquiet _ rfl (refl_of (Gated config) s)
  | close c =>
    split
    · exact hquiet _ rfl (gated_onClose c s)
    · exact hquiet _ rfl (refl_of (Gated config) s)
  | forwardMessage message isBinary exclude =>
    exact hquiet _ rfl (gated_forwardMessage message isBinary exclude s)

theorem gate_run (es : List ParentEvent) : Gate J crypto config es (run J crypto config es) := by
  induction es using List.reverseRecOn with
  | nil =>
    refine ⟨rfl, fun c hc => absurd hc (Nat.not_lt_zero c), fun c hc => ?_, fun keys hk => ?_⟩
    · exact absurd hc (by simp [run])
    · exact absurd hk (by simp [run])
  | append_singleton es e ih =>
    rw [run, List.foldl_concat]
    exact (ih.step e).1

/-- A message is routed for a connection, and a message is forwarded to it, only after it has
    answered its challenge; a connection that has not answered yet answers with its next message,
    which is not routed, or it is terminated. -/
theorem relay_gate (es : List ParentEvent) (e : ParentEvent) :
    ∃ l, (step J crypto config (run J crypto config es) e).log = (run J crypto config es).log ++ l ∧
      (∀ f ∈ l, ∀ c, f.relayLink? = some c → Answered J crypto config es c) ∧
      ∀ c message isText, e = .message c message isText → (nonceOf es c).isSome →
        ¬ Answered J crypto config es c → (∀ f ∈ l, f.relayLink? = none) ∧
          (Answers J crypto config es c message isText ∨ .terminate c ∈ l) := by
  have hgate : Gate J crypto config es (run J crypto config es) := gate_run es
  obtain ⟨l, hl, hQ⟩ := (hgate.step e).2
  refine ⟨l, hl, fun f hf c hc => hgate.authed c (hQ f hf c hc), ?_⟩
  rintro c message isText rfl hopen hnot
  have hc : c < (run J crypto config es).nextChild := by
    obtain ⟨nonce, hn⟩ := Option.isSome_iff_exists.mp hopen
    rw [hgate.nextChild]
    exact (List.getElem?_eq_some_iff.mp hn).1
  obtain ⟨-, l', hl', -, hrefused⟩ := hgate.message hc message isText
  have hunauthed : ((run J crypto config es).children c).m_s2s_authed = false := by
    rw [← Bool.not_eq_true]
    exact fun ha => hnot (hgate.authed c ha)
  rw [step, if_pos (show enabled _ (.message c message isText) = true from decide_eq_true hc)] at hl
  have hl := hl.symm.trans hl'
  rw [List.append_cancel_left hl]
  exact hrefused hunauthed

end

end ParentCommServer

end DroneEngage
