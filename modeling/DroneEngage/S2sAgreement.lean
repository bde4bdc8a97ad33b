import DroneEngage.ChallengeResponse
import DroneEngage.DbHandshake
import DroneEngage.Envelopes
import DroneEngage.PeerFrames
import DroneEngage.RelayGate

/-! Authentication between servers, with an attacker on every connection.

    Any number of servers run, each with all its links. Every frame that any of them receives is the
    attacker's: it may be anything, and may repeat or redirect what another server has sent. The
    attacker cannot sign for a server and cannot guess a nonce.

    What is guaranteed is agreement on the nonce: a connection counts as the one of a server only
    after that server has signed the nonce of this very connection. The server signs for whoever its
    own links lead to, so the connection need not lead to it: an attacker that it connects to can hand
    it the nonce of another server (`relayed_response`). -/

namespace DroneEngage
open Js ChallengeResponse

/-! ### The names of the connections -/

namespace ParentCommServer

open Action

variable {PrivateKey PublicKey : Type} {J : JsonCodec} {crypto : Crypto PrivateKey PublicKey}
  {config : S2sConfig PrivateKey PublicKey}

/-- The connections have the names they had. -/
def SameNames (s s' : ParentCommServer PublicKey) : Prop :=
  ∀ c, (s'.children c).m_s2s_server_id = (s.children c).m_s2s_server_id

instance : IsPreorder (ParentCommServer PublicKey) SameNames where
  refl := fun _ _ => rfl
  trans := fun _ _ _ h h' c => (h' c).trans (h c)

theorem sameNames_setChild {c : LinkId} {f : ChildSocket → ChildSocket}
    (hf : ∀ w, (f w).m_s2s_server_id = w.m_s2s_server_id) (s : ParentCommServer PublicKey) :
    SameNames s (setChild c f s) := by
  intro d
  rw [setChild_children]
  split
  · next h => subst h; exact hf _
  · rfl

theorem sameNames_closing (c : LinkId) (s : ParentCommServer PublicKey) :
    SameNames s (setChild c (fun w =>
      if w.readyState = .isOpen then { w with readyState := .closing } else w) s) := by
  refine sameNames_setChild (fun w => ?_) s
  split <;> rfl

theorem sameNames_terminate (c : LinkId) :
    Moves SameNames (terminate c : Action (ParentCommServer PublicKey) Unit) :=
  moves_modify fun s => sameNames_closing c s

theorem sameNames_onHandshakeTimeout (c : LinkId) :
    Moves SameNames (onHandshakeTimeout c : Action (ParentCommServer PublicKey) Unit) :=
  moves_bind moves_get fun _ => moves_ite
    (fun _ => moves_bind (moves_modify (sameNames_setChild fun _ => rfl)) fun _ =>
      moves_ite (fun _ => sameNames_terminate c) fun _ => moves_pure ())
    fun _ => moves_pure ()

theorem sameNames_onClose (c : LinkId) :
    Moves SameNames (onClose c : Action (ParentCommServer PublicKey) Unit) :=
  moves_bind (moves_modify fun _ _ => rfl) fun _ => moves_modify (sameNames_setChild fun _ => rfl)

theorem sameNames_forwardMessage (message : Bytes) (isBinary : Bool) (exclude : Option LinkId) :
    Moves SameNames
      (forwardMessage message isBinary exclude : Action (ParentCommServer PublicKey) Unit) :=
  moves_bind moves_get fun _ => moves_forEach _ fun _ _ => moves_bind moves_get fun _ =>
    moves_ite (fun _ => moves_modify fun _ _ => rfl) fun _ => moves_pure ()

/-- Nothing but a new connection or a message lets anybody in. -/
theorem handle_gated {e : ParentEvent} (hnew : e.nonce? = none)
    (hmessage : ∀ c data isText, e ≠ .message c data isText) (s : ParentCommServer PublicKey) :
    Gated config s ((handle J crypto config e).final s) ∧
      SameNames s ((handle J crypto config e).final s) := by
  cases e with
  | connection => exact absurd hnew (by simp [ParentEvent.nonce?])
  | message c data isText => exact absurd rfl (hmessage c data isText)
  | handshakeTimeout c => exact ⟨gated_onHandshakeTimeout c s, sameNames_onHandshakeTimeout c s⟩
  | closing c => exact ⟨gated_closing c s, sameNames_closing c s⟩
  | close c => exact ⟨gated_onClose c s, sameNames_onClose c s⟩
  | forwardMessage m b exclude =>
    exact ⟨gated_forwardMessage m b exclude s, sameNames_forwardMessage m b exclude s⟩

/-- A key is filed under the id, and there is a signature of the text under this key. -/
def Proven (crypto : Crypto PrivateKey PublicKey) (config : S2sConfig PrivateKey PublicKey)
    (id : Val) (text : Bytes) : Prop :=
  ∃ name key sig, propKey id = .ok name ∧ S2sAuth.Trusted config.s2s_trusted_server_keys name key ∧
    crypto.verify (.publicKey key) text sig = .ok true

/-- The message is a response envelope with this id and a signature of the nonce under its key. -/
def Proves (J : JsonCodec) (crypto : Crypto PrivateKey PublicKey)
    (config : S2sConfig PrivateKey PublicKey) (nonce : String) (message : Bytes) (isText : Bool)
    (id : Val) : Prop :=
  ∃ env sig name key, S2sAuth.parseEnvelope J message isText = some env ∧
    env.field "sig" = some sig ∧ env.field "id" = id ∧ propKey id = .ok name ∧
    S2sAuth.Trusted config.s2s_trusted_server_keys name key ∧
    crypto.verify (.publicKey key) (utf8 nonce) sig = .ok true

theorem Proves.proven {nonce : String} {message : Bytes} {isText : Bool} {id : Val}
    (h : Proves J crypto config nonce message isText id) : Proven crypto config id (utf8 nonce) := by
  obtain ⟨_, sig, name, key, -, -, -, hname, htrusted, hverify⟩ := h
  exact ⟨name, key, sig, hname, htrusted, hverify⟩

variable (J crypto) in
/-- A message lets its connection in under the id that it proves, or nobody. -/
theorem onMessage_gated {s : ParentCommServer PublicKey}
    (hk : S2sAuth.Loaded config.s2s_trusted_server_keys s.m_publicKeys) (c : LinkId)
    (message : Bytes) (isText : Bool) :
    (Gated config s ((onMessage J crypto config c message isText).final s) ∧
        SameNames s ((onMessage J crypto config c message isText).final s)) ∨
      ∃ id cache, (s.children c).m_s2s_authed = false ∧
        Proves J crypto config (s.children c).m_s2s_nonce message isText id ∧
        S2sAuth.KeepsLoaded config.s2s_trusted_server_keys s.m_publicKeys cache ∧
        (onMessage J crypto config c message isText).final s = setChild c (fun w =>
          { w with m_s2s_authed := true, m_s2s_server_id := id, authTimer := false })
          { s with m_publicKeys := cache } := by
  rw [onMessage, final_attempt_pure, final_get_bind]
  cases ha : (s.children c).m_s2s_authed with
  | true =>
    refine Or.inl ⟨gated_emit fun d hd => ?_, fun _ => rfl⟩
    obtain rfl := Option.some.inj hd
    exact ha
  | false =>
    rw [if_pos rfl, handshake]
    cases henv : S2sAuth.parseEnvelope J message isText with
    | none => exact Or.inl ⟨gated_terminate c s, sameNames_terminate c s⟩
    | some env =>
      obtain ⟨b, cache, hrun, hkeep, htrue⟩ := isAcceptedResponse_run crypto hk c env
      simp only [final_bind_of_ok hrun]
      cases b with
      | false =>
        exact Or.inl ⟨trans_of (Gated config) (gated_keys hkeep) (gated_terminate c _),
          sameNames_terminate c _⟩
      | true =>
        obtain ⟨-, sig, name, key, hsig, hname, htrusted, hverify⟩ := htrue rfl
        exact Or.inr ⟨env.field "id", cache, trivial,
          ⟨env, sig, name, key, henv, hsig, rfl, hname, htrusted, hverify⟩, hkeep, rfl⟩

end ParentCommServer

/-! ### What a process signs -/

namespace Process

open Action

variable {PrivateKey PublicKey : Type} (E : StorageSettings PrivateKey PublicKey)

/-- Would the handler of the peer's frames answer a challenge? -/
def AnswersTo (p : Process PublicKey) : Peer → Bool
  | .auth => true
  | .storage _ => p.storage.ws.isSome
  | .parent => p.parent.parentWs.isSome
  | .child _ => false

/-- The nonce that the process is asked to sign. -/
def asked (p : Process PublicKey) : Op → Option Val
  | .frame peer data isText _ => do
    let env ← S2sAuth.parseEnvelope E.J data isText
    guard (env.field "s2s_auth" = some (.str S2sAuth.challenge) ∧ p.AnswersTo peer)
    return env.field "nonce"
  | .chat _ | .auth _ | .storage _ | .children _ | .parentLink _ => none

/-- What `fn_sign` signs of a nonce: nothing without a private key, or if no buffer can be made of
    it. -/
def signable (nonce : Val) : Option Bytes :=
  match E.crypto.bufferFrom nonce, E.config.s2s_my_private_key with
  | .ok data, some _ => some data
  | _, _ => none

/-- The bytes that the process signs. -/
def signed (p : Process PublicKey) (o : Op) : Option Bytes := (asked E p o).bind (signable E)

variable {E} {p p' : Process PublicKey} {data : Bytes} {isText : Bool} {key : String}

/-- In the step the process signs these bytes, and this is the response with the signature. -/
def SignedAs (E : StorageSettings PrivateKey PublicKey) (p : Process PublicKey) (o : Op)
    (response : Bytes) : Prop :=
  ∃ b k, signed E p o = some b ∧ E.config.s2s_my_private_key = some k ∧
    response = E.J.stringify ((Json.obj [("s2s_auth", .str S2sAuth.response),
      ("sig", .str (E.crypto.sign k b))]).setField "id" (E.config.server_id.map Json.str))

theorem signedAs_of_asked {o : Op} {nonce : Val} {response : Bytes}
    (hasked : asked E p o = some nonce)
    (h : S2sAuth.buildResponse E.J E.crypto E.config nonce = .ok response) :
    SignedAs E p o response := by
  rw [S2sAuth.buildResponse] at h
  cases hb : E.crypto.bufferFrom nonce with
  | error e =>
    rw [S2sAuth.sign, hb] at h
    exact absurd h (by simp [bind, Except.bind])
  | ok b =>
    cases hk : E.config.s2s_my_private_key with
    | none =>
      rw [S2sAuth.sign, hb, hk] at h
      exact absurd h (by simp [bind, Except.bind])
    | some k =>
      rw [S2sAuth.sign, hb, hk] at h
      refine ⟨b, k, ?_, hk, (Except.ok.inj h).symm⟩
      rw [signed, hasked, Option.bind_some, signable, hb, hk]

theorem asked_frame {peer : Peer} {env : Json} (henv : S2sAuth.parseEnvelope E.J data isText = some env)
    (hchallenge : env.field "s2s_auth" = some (.str S2sAuth.challenge))
    (hpeer : p.AnswersTo peer = true) :
    asked E p (.frame peer data isText key) = some (env.field "nonce") := by
  simp [asked, henv, hchallenge, hpeer]

/-- What is answered to the parent has been signed. -/
theorem signed_of_respond {nonce : Val} {response : Bytes}
    (h : .respond nonce response ∈
      ((onParentFrame E data isText).final p).parent.log.drop p.parent.log.length) :
    SignedAs E p (.frame .parent data isText key) response := by
  rw [parent_onParentFrame] at h
  have hnone : ∀ {x : ChildEffect}, x ∉ p.parent.log.drop p.parent.log.length := by simp
  cases henv : S2sAuth.parseEnvelope E.J data isText with
  | none =>
    rw [ChildCommServer.onReceive_traffic henv] at h
    change _ ∈ (p.parent.log ++ [ChildEffect.parseExternalMessage data (!isText)]).drop _ at h
    rw [List.drop_left] at h
    exact absurd (List.mem_singleton.mp h) (by simp)
  | some env =>
    rw [ChildCommServer.onReceive, final_attempt_pure, henv] at h
    simp only [ChildCommServer.answerEnvelope, final_get_bind] at h
    split at h
    · next hchallenge =>
      cases hr : S2sAuth.buildResponse E.J E.crypto E.config (env.field "nonce") with
      | error e =>
        rw [hr] at h
        exact absurd h hnone
      | ok r =>
        rw [hr] at h
        change _ ∈ (p.parent.log ++ [ChildEffect.respond (env.field "nonce") r]).drop _ at h
        rw [List.drop_left] at h
        obtain ⟨rfl, rfl⟩ := ChildEffect.respond.inj (List.mem_singleton.mp h)
        exact signedAs_of_asked (asked_frame henv hchallenge.1 hchallenge.2) hr
    · exact absurd h hnone

end Process

/-! ### The storage server and AUTH -/

namespace DbProxyClient

open Action

/-- No challenge has been answered. -/
def Unanswering (s s' : DbProxyClient) : Prop :=
  ∃ l, s'.log = s.log ++ l ∧ ∀ w response, .response w response ∉ l

theorem unanswering_iff {s s' : DbProxyClient} :
    Unanswering s s' ↔ Adds (fun x => ∀ w response, x ≠ .response w response) s s' := by
  constructor
  · rintro ⟨l, hl, hQ⟩
    refine ⟨l, hl, ?_⟩
    rintro x hmem w response rfl
    exact hQ w response hmem
  · rintro ⟨l, hl, hQ⟩
    exact ⟨l, hl, fun w response hmem => hQ _ hmem w response rfl⟩

instance : IsPreorder DbProxyClient Unanswering where
  refl := fun s => unanswering_iff.mpr (refl_of (Adds _) s)
  trans := fun _ _ _ h h' =>
    unanswering_iff.mpr (trans_of (Adds _) (unanswering_iff.mp h) (unanswering_iff.mp h'))

theorem unanswering_of_log {s s' : DbProxyClient} (h : s'.log = s.log) : Unanswering s s' :=
  unanswering_iff.mpr (adds_write h)

theorem unanswering_emit {x : DbEffect} (hx : ∀ w response, x ≠ .response w response)
    (s : DbProxyClient) : Unanswering s (s.emit x) := unanswering_iff.mpr (adds_emit hx s)

theorem unanswering_clearS2sAuthTimer : Moves Unanswering clearS2sAuthTimer := fun s =>
  unanswering_iff.mpr (adds_clearS2sAuthTimer s)

theorem unanswering_setConnected : Moves Unanswering setConnected := fun s =>
  unanswering_iff.mpr (adds_setConnected (by simp) s)

theorem unanswering_onStorageMessage (msg : Json) : Moves Unanswering (onStorageMessage msg) := by
  intro s
  by_cases h : msg.field "type" = some (.str "auth_success")
  · rw [onStorageMessage_success h]
    exact moves_bind unanswering_clearS2sAuthTimer (fun _ => unanswering_setConnected) s
  · rcases final_onStorageMessage h s with ⟨k, req, -, -, hfin⟩ | hfin | hfin
    · rw [hfin]
      exact ⟨[.settle req.promise (.resolved msg)], rfl, by simp⟩
    · rw [hfin]
      exact unanswering_emit (by simp) s
    · rw [hfin]
      exact refl_of Unanswering s

theorem log_closeSocket (w : WsId) (s : DbProxyClient) : ((closeSocket w).final s).log = s.log := by
  rw [closeSocket, Action.final_modify]
  cases s.sockets w with
  | connecting => rfl
  | isOpen => rfl
  | closing => rfl
  | closed => rfl

/-- A challenge is answered with a signature, or not at all. -/
theorem respond_cases {PrivateKey PublicKey : Type} (E : StorageSettings PrivateKey PublicKey)
    (w : WsId) (nonce : Val) (s : DbProxyClient) :
    ((respond E w nonce).final s).log = s.log ∨
      ∃ r, S2sAuth.buildResponse E.J E.crypto E.config nonce = .ok r ∧
        (respond E w nonce).final s = s.emit (.response w r) := by
  rw [respond, final, run_attempt]
  cases hr : S2sAuth.buildResponse E.J E.crypto E.config nonce with
  | error e => exact Or.inl (log_closeSocket w s)
  | ok r =>
    rw [run_bind_ok, send, run_bind_get]
    cases hw : s.sockets w with
    | connecting => exact Or.inl (log_closeSocket w s)
    | isOpen => exact Or.inr ⟨r, rfl, rfl⟩
    | closing => exact Or.inl rfl
    | closed => exact Or.inl rfl

end DbProxyClient

namespace AuthLink

theorem received_flush : ∀ (ms : List AuthMessage) (l : AuthLink), ∀ m ∈ (flush ms l).received,
    m ∈ l.received ∨ m ∈ ms
  | [], l, m, h => Or.inl h
  | x :: rest, l, m, h => by
    rw [flush] at h
    split at h
    · rcases received_flush rest _ m h with h | h
      · rcases List.mem_append.mp h with h | h
        · exact Or.inl h
        · rw [List.mem_singleton.mp h]
          exact Or.inr (List.mem_cons_self ..)
      · exact Or.inr (List.mem_cons_of_mem _ h)
    · exact Or.inl h

theorem received_sendMessage (x : AuthMessage) (l : AuthLink) :
    (∀ m ∈ (sendMessage x l).received, m ∈ l.received ∨ m = x) ∧
      ∀ m ∈ (sendMessage x l).messageQueue, m ∈ l.messageQueue ∨ m = x := by
  rw [sendMessage]
  split
  · exact ⟨fun m hm => by simpa using hm, fun m hm => Or.inl hm⟩
  · split
    · exact ⟨fun m hm => Or.inl hm, fun m hm => by simpa using hm⟩
    · exact ⟨fun m hm => Or.inl hm, fun m hm => Or.inl hm⟩

/-- What AUTH is sent after an answer: what it was sent, the answer, the INFO card and the queue. -/
theorem received_answer (x : AuthMessage) (l : AuthLink) :
    ∀ m ∈ (flushQueue (sendMessage .info (send x l))).received,
      m ∈ l.received ∨ m ∈ l.messageQueue ∨ m = x ∨ m = .info := by
  intro m hm
  have hsend : (∀ m ∈ (send x l).received, m ∈ l.received ∨ m = x) ∧
      (send x l).messageQueue = l.messageQueue := by
    rw [send]
    split
    · exact ⟨fun m hm => by simpa using hm, rfl⟩
    · exact ⟨fun m hm => Or.inl hm, rfl⟩
  obtain ⟨hreceived, hqueue⟩ := received_sendMessage .info (send x l)
  rcases received_flush _ _ m hm with h | h
  · rcases hreceived m h with h | h
    · exact (hsend.1 m h).imp_right fun h => Or.inr (Or.inl h)
    · exact Or.inr (Or.inr (Or.inr h))
  · rcases hqueue m h with h | h
    · exact Or.inr (Or.inl (hsend.2 ▸ h))
    · exact Or.inr (Or.inr (Or.inr h))

end AuthLink

namespace Process

open Action

variable {PrivateKey PublicKey : Type} {E : StorageSettings PrivateKey PublicKey}
  {p p' : Process PublicKey} {data : Bytes} {isText : Bool} {key : String}

/-- What is answered to the storage server has been signed. -/
theorem signed_of_response {w w' : WsId} {response : Bytes}
    (h : .response w' response ∈
      ((onStorageFrame E data isText).final p).storage.log.drop p.storage.log.length) :
    SignedAs E p (.frame (.storage w) data isText key) response := by
  rw [storage_onStorageFrame, DbProxyClient.onMessage] at h
  have hunanswered : ∀ {s'}, p.storage.Unanswering s' →
      .response w' response ∉ s'.log.drop p.storage.log.length := by
    rintro s' ⟨l, hl, hQ⟩
    rw [hl, List.drop_left]
    exact hQ w' response
  cases henv : S2sAuth.parseEnvelope E.J data isText with
  | none =>
    rw [henv] at h
    cases hmsg : E.J.parse data with
    | none =>
      rw [hmsg] at h
      exact absurd h (hunanswered (refl_of DbProxyClient.Unanswering _))
    | some msg =>
      rw [hmsg] at h
      exact absurd h (hunanswered (DbProxyClient.unanswering_onStorageMessage msg _))
  | some env =>
    rw [henv] at h
    simp only at h
    by_cases hchallenge : env.field "s2s_auth" = some (.str S2sAuth.challenge)
    · cases hws : p.storage.ws with
      | none =>
        rw [DbProxyClient.final_onEnvelope_ignored E (Or.inl hws)] at h
        exact absurd h (hunanswered (refl_of DbProxyClient.Unanswering _))
      | some v =>
        rw [DbProxyClient.final_onEnvelope_challenge E hws hchallenge] at h
        have hclear := DbProxyClient.unanswering_clearS2sAuthTimer p.storage
        generalize DbProxyClient.clearS2sAuthTimer.final p.storage = t at h hclear
        rcases DbProxyClient.respond_cases E v (env.field "nonce") t with hlog | ⟨r, hr, hfin⟩
        · exact absurd h (hunanswered (trans_of DbProxyClient.Unanswering hclear
            (DbProxyClient.unanswering_of_log hlog)))
        · obtain ⟨l, hl, hQ⟩ := hclear
          rw [hfin] at h
          change _ ∈ (t.log ++ [DbEffect.response v r]).drop _ at h
          rw [hl, List.append_assoc, List.drop_left] at h
          rcases List.mem_append.mp h with h | h
          · exact absurd h (hQ w' response)
          · obtain ⟨-, rfl⟩ := DbEffect.response.inj (List.mem_singleton.mp h)
            exact signedAs_of_asked (asked_frame henv hchallenge (by rw [AnswersTo, hws]; rfl)) hr
    · rw [DbProxyClient.final_onEnvelope_ignored E (Or.inr hchallenge)] at h
      exact absurd h (hunanswered (refl_of DbProxyClient.Unanswering _))

/-- What AUTH is answered has been signed. -/
theorem signed_of_received (hopen : p.Receives .auth) {response : Bytes}
    (h : .response response ∈ ((onAuthFrame E data isText key).final p).auth.received)
    (hnew : .response response ∉ p.auth.received)
    (hqueue : .response response ∉ p.auth.messageQueue) :
    SignedAs E p (.frame .auth data isText key) response := by
  obtain ⟨p', hrun, hauth⟩ : ∃ p', onAuthFrame E data isText key p = (.ok (), p') ∧
    p'.auth = AuthLink.onMessage E data isText p.auth := run_onAuthFrame hopen
  rw [final, hrun, hauth, AuthLink.onMessage] at h
  cases henv : S2sAuth.parseEnvelope E.J data isText with
  | none =>
    rw [henv] at h
    exact absurd h hnew
  | some env =>
    rw [henv] at h
    simp only at h
    split at h
    · next hchallenge =>
      split at h
      · next r hr =>
        rcases AuthLink.received_answer _ _ _ h with h | h | h | h
        · exact absurd h hnew
        · exact absurd h hqueue
        · obtain rfl := AuthMessage.response.inj h
          exact signedAs_of_asked (asked_frame henv hchallenge rfl) hr
        · exact absurd h (by simp)
      · split at h
        · exact absurd h hnew
        · exact absurd h hnew
    · exact absurd h hnew

/-! ### The connections of a process -/

/-- The parent side is left alone. -/
def SameChildren (p p' : Process PublicKey) : Prop := p'.children = p.children

instance : IsPreorder (Process PublicKey) SameChildren where
  refl := fun _ => rfl
  trans := fun _ _ _ h h' => h'.trans h

/-- Only its own events and the frames of its children concern the parent side. -/
theorem children_perform {isAlphanumeric : String → Bool} {o : Op}
    (hown : ∀ e, o ≠ .children e) (hframe : ∀ c data isText key, o ≠ .frame (.child c) data isText key)
    (p : Process PublicKey) : ((perform E isAlphanumeric o).final p).children = p.children := by
  have honServer : ∀ {α : Type} (m : Action Server α),
      Moves SameChildren (onServer m : Action (Process PublicKey) α) := fun _ _ => rfl
  have honAuth : ∀ {α : Type} (m : Action AuthLink α),
      Moves SameChildren (onAuth m : Action (Process PublicKey) α) := fun _ _ => rfl
  have honStorage : ∀ {α : Type} (m : Action DbProxyClient α),
      Moves SameChildren (onStorage m : Action (Process PublicKey) α) := fun _ _ => rfl
  have honParent : ∀ {α : Type} (m : Action ChildCommServer α),
      Moves SameChildren (onParent m : Action (Process PublicKey) α) := fun _ _ => rfl
  have hsame : Moves SameChildren (perform E isAlphanumeric o : Action (Process PublicKey) Unit) := by
    cases o with
    | chat e => exact honServer _
    | auth o => exact honAuth _
    | storage o => exact honStorage _
    | children e => exact absurd rfl (hown e)
    | parentLink ws => exact honParent _
    | frame peer data isText key =>
      cases peer with
      | auth =>
        rw [perform, onFrame, onAuthFrame]
        cases S2sAuth.parseEnvelope E.J data isText with
        | some env => exact moves_when fun _ => honAuth _
        | none => exact honServer _
      | storage w =>
        exact moves_bind moves_get fun _ => moves_bind (honStorage _) fun _ =>
          moves_bind moves_get fun _ => moves_forEach _ fun _ _ =>
            moves_attempt (honServer _) fun _ => moves_pure ()
      | parent =>
        refine moves_attempt ?_ fun _ => moves_pure ()
        cases S2sAuth.parseEnvelope E.J data isText with
        | some env => exact honParent _
        | none => exact moves_bind (honParent _) fun _ => honServer _
      | child c => exact absurd rfl (hframe c data isText key)
  exact hsame p

end Process

/-! ### Many servers -/

/-- The servers, with what has happened between them. -/
structure Servers (ι PublicKey : Type) where
  procs : ι → Process PublicKey
  /-- the connections opened, the texts signed and the connections accepted, in their order -/
  history : List (Happening (ι × LinkId) Bytes Val ι) := []

namespace Servers

variable {ι PrivateKey PublicKey : Type}

/-- What has happened in a step of server `i`. -/
def happenings (E : StorageSettings PrivateKey PublicKey) (i : ι) (p p' : Process PublicKey) :
    Process.Op → List (Happening (ι × LinkId) Bytes Val ι)
  | .children (.connection _ nonce) => [.opened (i, p.children.nextChild) (utf8 nonce)]
  | .frame (.child c) _ _ _ =>
    if (p.children.children c).m_s2s_authed = false ∧ (p'.children.children c).m_s2s_authed = true
    then [.accepted (i, c) (p'.children.children c).m_s2s_server_id] else []
  | o => (Process.signed E p o).toList.map (.signed i)

section

variable [DecidableEq ι] (E : ι → StorageSettings PrivateKey PublicKey)
  (isAlphanumeric : String → Bool) (publicOf : ι → PublicKey)

/-- A step of one server. -/
def Step (N : Servers ι PublicKey) (x : ι × Process.Op) (N' : Servers ι PublicKey) : Prop :=
  ∃ p', Process.Step (E x.1) isAlphanumeric (N.procs x.1) x.2 p' ∧
    N' = ⟨Function.update N.procs x.1 p',
      N.history ++ happenings (E x.1) x.1 (N.procs x.1) p' x.2⟩

/-- For server `i` the id is the one of server `j`: the key in the file of this id is the key of
    `j`. -/
def Denotes (c : ι × LinkId) (id : Val) (j : ι) : Prop :=
  ∃ name, propKey id = .ok name ∧
    S2sAuth.Trusted (E c.1).config.s2s_trusted_server_keys name (publicOf j)

/-- What the attacker cannot do: a new connection gets a nonce that has not been a nonce and has not
    been signed, and a signature that verifies under the key of a server was made by that server. -/
structure Fair (N : Servers ι PublicKey) (x : ι × Process.Op) : Prop where
  nonce : ∀ clientKey nonce, x.2 = .children (.connection clientKey nonce) →
    (∀ c, .opened c (utf8 nonce) ∉ N.history) ∧ ∀ j, .signed j (utf8 nonce) ∉ N.history
  unforgeable : ∀ c data isText key, x.2 = .frame (.child c) data isText key →
    ∀ env sig, S2sAuth.parseEnvelope (E x.1).J data isText = some env →
      env.field "sig" = some sig → ∀ j b,
        (E x.1).crypto.verify (.publicKey (publicOf j)) b sig = .ok true →
          .signed j b ∈ N.history

end

/-- What a server's connections and the history say of one another. -/
structure Knows (crypto : Crypto PrivateKey PublicKey) (config : S2sConfig PrivateKey PublicKey)
    (h : List (Happening (ι × LinkId) Bytes Val ι)) (i : ι) (s : ParentCommServer PublicKey) :
    Prop where
  keys : S2sAuth.Loaded config.s2s_trusted_server_keys s.m_publicKeys
  opened : ∀ c, c < s.nextChild → .opened (i, c) (utf8 (s.children c).m_s2s_nonce) ∈ h
  known : ∀ c d, .opened (i, c) d ∈ h → c < s.nextChild
  accepted : ∀ c, (s.children c).m_s2s_authed = true →
    c < s.nextChild ∧ .accepted (i, c) (s.children c).m_s2s_server_id ∈ h
  authed : ∀ c id, .accepted (i, c) id ∈ h → (s.children c).m_s2s_authed = true
  proven : ∀ c, (s.children c).m_s2s_authed = true → ParentCommServer.Proven crypto config
    (s.children c).m_s2s_server_id (utf8 (s.children c).m_s2s_nonce)

/-- It has nothing to do with the connections of the server. -/
def Elsewhere (i : ι) : Happening (ι × LinkId) Bytes Val ι → Prop
  | .opened c _ | .accepted c _ => c.1 ≠ i
  | .signed _ _ => True

section

variable {crypto : Crypto PrivateKey PublicKey} {config : S2sConfig PrivateKey PublicKey}
  {h : List (Happening (ι × LinkId) Bytes Val ι)} {i : ι} {s s' : ParentCommServer PublicKey}

/-- A step that lets nobody in, beside happenings elsewhere. -/
theorem Knows.gated (hk : Knows crypto config h i s) (hg : ParentCommServer.Gated config s s')
    (hnames : ParentCommServer.SameNames s s') {l : List (Happening (ι × LinkId) Bytes Val ι)}
    (hl : ∀ e ∈ l, Elsewhere i e) : Knows crypto config (h ++ l) i s' := by
  refine ⟨hg.keys hk.keys, fun c hc => ?_, fun c d hd => ?_, fun c hc => ?_, fun c id hid => ?_,
    fun c hc => ?_⟩
  · rw [hg.nonce]
    exact List.mem_append_left _ (hk.opened c (hg.nextChild ▸ hc))
  · rw [hg.nextChild]
    rcases List.mem_append.mp hd with hd | hd
    · exact hk.known c d hd
    · exact absurd rfl (hl _ hd)
  · rw [hg.authed] at hc
    rw [hg.nextChild, hnames c]
    exact ⟨(hk.accepted c hc).1, List.mem_append_left _ (hk.accepted c hc).2⟩
  · rw [hg.authed]
    rcases List.mem_append.mp hid with hid | hid
    · exact hk.authed c id hid
    · exact absurd rfl (hl _ hid)
  · rw [hg.authed] at hc
    rw [hnames c, hg.nonce]
    exact hk.proven c hc

theorem Knows.other (hk : Knows crypto config h i s) {l : List (Happening (ι × LinkId) Bytes Val ι)}
    (hl : ∀ e ∈ l, Elsewhere i e) : Knows crypto config (h ++ l) i s :=
  hk.gated (refl_of (ParentCommServer.Gated config) s) (refl_of ParentCommServer.SameNames s) hl

/-- A new connection. -/
theorem Knows.connection (hk : Knows crypto config h i s) (J : JsonCodec) (clientKey nonce : String) :
    Knows crypto config (h ++ [.opened (i, s.nextChild) (utf8 nonce)]) i
      ((ParentCommServer.onConnection J clientKey nonce).final s) := by
  have hnew : ∀ d, (((ParentCommServer.onConnection J clientKey nonce).final s).children d) =
      if d = s.nextChild then { clientKey := clientKey, m_s2s_nonce := nonce, authTimer := true }
      else s.children d := fun d => Function.update_apply ..
  have hnext : ((ParentCommServer.onConnection J clientKey nonce).final s).nextChild =
      s.nextChild + 1 := rfl
  refine ⟨hk.keys, fun c hc => ?_, fun c d hd => ?_, fun c hc => ?_, fun c id hid => ?_,
    fun c hc => ?_⟩
  · rw [hnew]
    split
    · next heq =>
      subst heq
      exact List.mem_append_right _ (List.mem_singleton.mpr rfl)
    · next hne =>
      rw [hnext] at hc
      exact List.mem_append_left _ (hk.opened c (Nat.lt_of_le_of_ne (Nat.le_of_lt_succ hc) hne))
  · rw [hnext]
    rcases mem_concat.mp hd with hd | heq
    · exact Nat.lt_succ_of_lt (hk.known c d hd)
    · obtain rfl : c = s.nextChild := congrArg Prod.snd (Happening.opened.inj heq).1
      exact Nat.lt_succ_self _
  · rw [hnew] at hc ⊢
    rw [hnext]
    split at hc
    · exact absurd hc (by simp)
    · next hne =>
      rw [if_neg hne]
      obtain ⟨hlt, hmem⟩ := hk.accepted c hc
      exact ⟨Nat.lt_succ_of_lt hlt, List.mem_append_left _ hmem⟩
  · rw [hnew]
    rcases mem_concat.mp hid with hid | heq
    · have hauthed := hk.authed c id hid
      have hlt := (hk.accepted c hauthed).1
      rw [if_neg (Nat.ne_of_lt hlt)]
      exact hauthed
    · exact absurd heq (by simp)
  · rw [hnew] at hc ⊢
    split at hc
    · exact absurd hc (by simp)
    · next hne =>
      rw [if_neg hne]
      exact hk.proven c hc

/-- A connection is let in. -/
theorem Knows.accept (hk : Knows crypto config h i s) {c : LinkId} (hc : c < s.nextChild) {id : Val}
    (hproven : ParentCommServer.Proven crypto config id (utf8 (s.children c).m_s2s_nonce))
    {cache : S2sAuth.KeyCache PublicKey}
    (hkeep : S2sAuth.KeepsLoaded config.s2s_trusted_server_keys s.m_publicKeys cache) :
    Knows crypto config (h ++ [.accepted (i, c) id]) i (ParentCommServer.setChild c (fun w =>
      { w with m_s2s_authed := true, m_s2s_server_id := id, authTimer := false })
      { s with m_publicKeys := cache }) := by
  refine ⟨hkeep hk.keys, fun d hd => ?_, fun d t ht => ?_, fun d hd => ?_, fun d id' hid => ?_,
    fun d hd => ?_⟩
  · rw [ParentCommServer.setChild_children]
    have hopened := List.mem_append_left [.accepted (i, c) id] (hk.opened d hd)
    split
    · next heq => subst heq; exact hopened
    · exact hopened
  · rcases mem_concat.mp ht with ht | heq
    · exact hk.known d t ht
    · exact absurd heq (by simp)
  · rw [ParentCommServer.setChild_children] at hd ⊢
    split at hd
    · next heq =>
      subst heq
      rw [if_pos rfl]
      exact ⟨hc, List.mem_append_right _ (List.mem_singleton.mpr rfl)⟩
    · next hne =>
      rw [if_neg hne]
      exact ⟨(hk.accepted d hd).1, List.mem_append_left _ (hk.accepted d hd).2⟩
  · rw [ParentCommServer.setChild_children]
    split
    · rfl
    · next hne =>
      rcases mem_concat.mp hid with hid | heq
      · exact hk.authed d id' hid
      · exact absurd (congrArg Prod.snd (Happening.accepted.inj heq).1) hne
  · rw [ParentCommServer.setChild_children] at hd ⊢
    split at hd
    · next heq =>
      subst heq
      rw [if_pos rfl]
      exact hproven
    · next hne =>
      rw [if_neg hne]
      exact hk.proven d hd

end

/-! ### Every run -/

section

variable [DecidableEq ι] {E : ι → StorageSettings PrivateKey PublicKey}
  {isAlphanumeric : String → Bool} {publicOf : ι → PublicKey} {N N' : Servers ι PublicKey}

/-- What holds in every state. -/
structure Inv (E : ι → StorageSettings PrivateKey PublicKey) (publicOf : ι → PublicKey)
    (N : Servers ι PublicKey) : Prop where
  valid : Valid (Denotes E publicOf) N.history
  knows : ∀ i, Knows (E i).crypto (E i).config N.history i (N.procs i).children

/-- A step of server `i`, by what happens in it. -/
theorem Inv.record (h : N.Inv E publicOf) {i : ι} {p' : Process PublicKey}
    {l : List (Happening (ι × LinkId) Bytes Val ι)}
    (hvalid : Valid (Denotes E publicOf) (N.history ++ l))
    (hi : Knows (E i).crypto (E i).config (N.history ++ l) i p'.children)
    (hl : ∀ j, j ≠ i → ∀ e ∈ l, Elsewhere j e) :
    Inv E publicOf ⟨Function.update N.procs i p', N.history ++ l⟩ := by
  refine ⟨hvalid, fun j => ?_⟩
  change Knows (E j).crypto (E j).config (N.history ++ l) j (Function.update N.procs i p' j).children
  by_cases hj : j = i
  · subst hj
    rw [Function.update_self]
    exact hi
  · rw [Function.update_of_ne hj]
    exact (h.knows j).other (hl j hj)

/-- A step that lets nobody in; what happens is that something is signed, or nothing. -/
theorem Inv.gated (h : N.Inv E publicOf) {i : ι} {p' : Process PublicKey}
    (hg : ParentCommServer.Gated (E i).config (N.procs i).children p'.children)
    (hnames : ParentCommServer.SameNames (N.procs i).children p'.children) (b : Option Bytes) :
    Inv E publicOf ⟨Function.update N.procs i p', N.history ++ b.toList.map (.signed i)⟩ := by
  have helsewhere : ∀ j, ∀ e : Happening (ι × LinkId) Bytes Val ι,
      e ∈ b.toList.map (.signed i) → Elsewhere j e := by
    intro j e he
    obtain ⟨_, -, rfl⟩ := List.mem_map.mp he
    exact trivial
  refine h.record ?_ ((h.knows i).gated hg hnames (helsewhere i)) fun j _ => helsewhere j
  cases b with
  | none => rw [Option.toList_none, List.map_nil, List.append_nil]; exact h.valid
  | some b => exact .snoc h.valid trivial

/-- A frame of a child. -/
theorem Inv.childFrame (h : N.Inv E publicOf) {i : ι} {c : LinkId} {data : Bytes} {isText : Bool}
    {key : String} (hfair : Fair E publicOf N (i, .frame (.child c) data isText key))
    (hc : c < (N.procs i).children.nextChild) {p' : Process PublicKey}
    (hp' : p'.children = (ParentCommServer.onMessage (E i).J (E i).crypto (E i).config c data
      isText).final (N.procs i).children) :
    Inv E publicOf ⟨Function.update N.procs i p',
      N.history ++ happenings (E i) i (N.procs i) p' (.frame (.child c) data isText key)⟩ := by
  have hknows := h.knows i
  rw [happenings]
  rcases ParentCommServer.onMessage_gated (E i).J (E i).crypto hknows.keys c data isText with
    ⟨hg, hnames⟩ | ⟨id, cache, hnot, hproves, hkeep, hfin⟩
  · -- nobody is let in
    rw [← hp'] at hg hnames
    rw [if_neg fun hin => absurd (hin.1.symm.trans ((hg.authed c).symm.trans hin.2)) (by simp)]
    exact h.gated hg hnames none
  · have hproven := hproves.proven
    obtain ⟨env, sig, name, k, henv, hsig, rfl, hname, htrusted, hverify⟩ := hproves
    rw [hfin] at hp'
    have hself : (p'.children.children c).m_s2s_authed = true ∧
        (p'.children.children c).m_s2s_server_id = env.field "id" := by
      rw [hp', ParentCommServer.setChild_children, if_pos rfl]
      exact ⟨rfl, rfl⟩
    rw [if_pos ⟨hnot, hself.1⟩, hself.2]
    refine h.record (.snoc h.valid ⟨fun id' hid => ?_, _, hknows.opened c hc, ?_⟩) ?_ ?_
    · exact absurd ((hknows.authed c id' hid).symm.trans hnot) (by simp)
    · -- the key of the id is the one that the signature verifies under
      rintro j ⟨name', hname', files, hfiles, hkey⟩
      obtain rfl := Except.ok.inj (hname.symm.trans hname')
      obtain ⟨files', hfiles', hkey'⟩ := htrusted
      obtain rfl := Option.some.inj (hfiles.symm.trans hfiles')
      obtain rfl := Option.some.inj (Option.some.inj (hkey.symm.trans hkey'))
      exact hfair.unforgeable c data isText key rfl env sig henv hsig j _ hverify
    · rw [hp']
      exact hknows.accept hc hproven hkeep
    · intro j hj e he
      rw [List.mem_singleton.mp he]
      exact fun hi => hj hi.symm

/-- An event of the parent side that is no frame. -/
theorem Inv.childEvent (h : N.Inv E publicOf) {i : ι} {e : ParentEvent}
    (hfair : Fair E publicOf N (i, .children e))
    (hmessage : ∀ c data isText, e ≠ .message c data isText) {p' : Process PublicKey}
    (hp' : p'.children = (ParentCommServer.handle (E i).J (E i).crypto (E i).config e).final
      (N.procs i).children) :
    Inv E publicOf ⟨Function.update N.procs i p',
      N.history ++ happenings (E i) i (N.procs i) p' (.children e)⟩ := by
  have hquiet : e.nonce? = none → Inv E publicOf ⟨Function.update N.procs i p', N.history ++ []⟩ := by
    intro hnew
    have hboth : ParentCommServer.Gated (E i).config (N.procs i).children p'.children ∧
        ParentCommServer.SameNames (N.procs i).children p'.children := by
      rw [hp']
      exact ParentCommServer.handle_gated hnew hmessage _
    exact h.gated hboth.1 hboth.2 none
  cases e with
  | connection clientKey nonce =>
    have hknows := h.knows i
    obtain ⟨hfresh, hunsigned⟩ := hfair.nonce clientKey nonce rfl
    refine h.record (.snoc h.valid ⟨fun d' hd => ?_, hfresh, hunsigned⟩) ?_ ?_
    · exact absurd (hknows.known _ d' hd) (Nat.lt_irrefl _)
    · rw [hp']
      exact hknows.connection (E i).J clientKey nonce
    · intro j hj e he
      rw [List.mem_singleton.mp he]
      exact fun hi => hj hi.symm
  | message c data isText => exact absurd rfl (hmessage c data isText)
  | handshakeTimeout | closing | close | forwardMessage => exact hquiet rfl

/-- Every step keeps the invariant. -/
theorem Inv.step (h : N.Inv E publicOf) {x : ι × Process.Op} (hfair : Fair E publicOf N x)
    (hstep : Step E isAlphanumeric N x N') : N'.Inv E publicOf := by
  obtain ⟨i, o⟩ := x
  obtain ⟨p', ⟨henabled, hrun⟩, rfl⟩ := hstep
  dsimp only at henabled hrun ⊢
  obtain rfl : (Process.perform (E i) isAlphanumeric o).final (N.procs i) = p' :=
    congrArg Prod.snd hrun
  by_cases hown : ∀ e, o ≠ .children e
  · by_cases hframe : ∀ c data isText key, o ≠ .frame (.child c) data isText key
    · -- nothing that concerns the connections
      have hsame : ((Process.perform (E i) isAlphanumeric o).final (N.procs i)).children =
          (N.procs i).children := Process.children_perform hown hframe (N.procs i)
      have hhap : happenings (E i) i (N.procs i)
          ((Process.perform (E i) isAlphanumeric o).final (N.procs i)) o =
            (Process.signed (E i) (N.procs i) o).toList.map (.signed i) := by
        cases o with
        | children e => exact absurd rfl (hown e)
        | frame peer data isText key =>
          cases peer with
          | child c => exact absurd rfl (hframe c data isText key)
          | auth | storage | parent => rfl
        | chat | auth | storage | parentLink => rfl
      rw [hhap]
      refine h.gated ?_ ?_ _
      · rw [hsame]; exact refl_of (ParentCommServer.Gated (E i).config) _
      · rw [hsame]; exact refl_of ParentCommServer.SameNames _
    · simp only [not_forall, not_not] at hframe
      obtain ⟨c, data, isText, key, rfl⟩ := hframe
      exact h.childFrame hfair henabled (Process.children_onChildFrame c)
  · simp only [not_forall, not_not] at hown
    obtain ⟨e, rfl⟩ := hown
    exact h.childEvent hfair henabled.2 rfl

/-- The servers when they start. -/
def start (config : ι → Config) : Servers ι PublicKey where
  procs i := Process.start (config i)

omit [DecidableEq ι] in
theorem inv_start (config : ι → Config) :
    Inv E publicOf (start config : Servers ι PublicKey) := by
  refine ⟨.nil, fun i => ⟨fun keys hk => ?_, fun c hc => ?_, ?_, fun c hc => ?_, ?_, fun c hc => ?_⟩⟩
  · exact absurd hk (by simp [start, Process.start])
  · exact absurd hc (Nat.not_lt_zero c)
  · exact fun c d hd => absurd hd List.not_mem_nil
  · exact absurd hc (by simp [start, Process.start])
  · exact fun c id hid => absurd hid List.not_mem_nil
  · exact absurd hc (by simp [start, Process.start])

omit [DecidableEq ι] in
/-- The history tells how a connection came to count as the one of an id. -/
theorem Inv.agreement (h : N.Inv E publicOf) {i : ι} {c : LinkId}
    (hauthed : ((N.procs i).children.children c).m_s2s_authed = true) :
    ∃ d, [.opened (i, c) d,
        .accepted (i, c) ((N.procs i).children.children c).m_s2s_server_id].Sublist N.history ∧
      (∀ c', .opened c' d ∈ N.history → c' = (i, c)) ∧
      ParentCommServer.Proven (E i).crypto (E i).config
        ((N.procs i).children.children c).m_s2s_server_id d ∧
      ∀ j, Denotes E publicOf (i, c) ((N.procs i).children.children c).m_s2s_server_id j →
        [.opened (i, c) d, .signed j d,
          .accepted (i, c) ((N.procs i).children.children c).m_s2s_server_id].Sublist N.history := by
  have hknows := h.knows i
  obtain ⟨hc, haccepted⟩ := hknows.accepted c hauthed
  obtain ⟨d, hopened, hone, hsub⟩ := h.valid.agreement haccepted
  -- the challenge of the history is the nonce that the connection keeps
  obtain rfl : d = utf8 ((N.procs i).children.children c).m_s2s_nonce :=
    (h.valid.opened_unique (hknows.opened c hc)).2 d (hopened.subset (List.mem_cons_self ..))
  exact ⟨_, hopened, hone, hknows.proven c hauthed, hsub⟩

/-- In every run of the servers under attack: a connection counts as the one of an id only if it was
    opened with a nonce that no other connection has, a key is filed under the id and the nonce has a
    signature under this key, and the connection was then accepted. If the key is the one of a server,
    this server signed the nonce in between. -/
theorem accepted_after_signed {config : ι → Config}
    (hrun : Lts.Path (Step E isAlphanumeric) (Fair E publicOf) (start config) N) {i : ι} {c : LinkId}
    (hauthed : ((N.procs i).children.children c).m_s2s_authed = true) :
    ∃ d, [.opened (i, c) d,
        .accepted (i, c) ((N.procs i).children.children c).m_s2s_server_id].Sublist N.history ∧
      (∀ c', .opened c' d ∈ N.history → c' = (i, c)) ∧
      ParentCommServer.Proven (E i).crypto (E i).config
        ((N.procs i).children.children c).m_s2s_server_id d ∧
      ∀ j, Denotes E publicOf (i, c) ((N.procs i).children.children c).m_s2s_server_id j →
        [.opened (i, c) d, .signed j d,
          .accepted (i, c) ((N.procs i).children.children c).m_s2s_server_id].Sublist N.history := by
  have hinv : N.Inv E publicOf :=
    hrun.invariant (P := Inv E publicOf) (fun h hfair hstep => h.step hfair hstep) (inv_start config)
  exact hinv.agreement hauthed

end

/-! ### An attacker between two servers -/

section

variable [DecidableEq ι] (E : ι → StorageSettings PrivateKey PublicKey)
  (isAlphanumeric : String → Bool)

def act (N : Servers ι PublicKey) (x : ι × Process.Op) : Servers ι PublicKey :=
  let p' := (Process.perform (E x.1) isAlphanumeric x.2).final (N.procs x.1)
  ⟨Function.update N.procs x.1 p', N.history ++ happenings (E x.1) x.1 (N.procs x.1) p' x.2⟩

variable {E isAlphanumeric} in
theorem step_act {N : Servers ι PublicKey} {x : ι × Process.Op}
    (henabled : (N.procs x.1).Enabled x.2)
    (hreturns : (Process.perform (E x.1) isAlphanumeric x.2 (N.procs x.1)).1 = .ok ()) :
    Step E isAlphanumeric N x (act E isAlphanumeric N x) :=
  ⟨_, ⟨henabled, Prod.ext hreturns rfl⟩, rfl⟩

end

/-- A parent, which knows the key of the server "C", and this server. -/
def pair (i : Fin 2) : StorageSettings Char Char where
  J := Text.codec
  crypto := .sealing
  config := if i = 0 then { s2s_trusted_server_keys := some (Table.empty.insert "C" (some 'c')) }
    else { server_id := some "C", s2s_my_private_key := some 'c' }
  validUrl _ := true

def keyOf (i : Fin 2) : Char := if i = 0 then 'p' else 'c'

/-- The attacker connects to the parent. The server "C" connects to the attacker, and gets the nonce
    of the parent as a challenge. Its answer goes to the parent. -/
def relay : List (Fin 2 × Process.Op) :=
  [(0, .children (.connection "attacker" "n")), (1, .parentLink (some .isOpen)),
    (1, .frame .parent (S2sAuth.buildChallenge Text.codec "n") true ""),
    (0, .frame (.child 0) ((S2sAuth.buildResponse Text.codec Crypto.sealing (pair 1).config
      (some (.str "n"))).toOption.getD []) true "")]

def relayed (k : ℕ) : Servers (Fin 2) Char :=
  (relay.take k).foldl (act pair Server.isAsciiAlphanumeric) (start fun _ => {})

theorem sealText_injective {k k' : Char} {b b' : Bytes} (h : sealText k b = sealText k' b') :
    k = k' ∧ b = b' := by
  obtain ⟨hk, hb⟩ := List.cons.inj (String.ofList_inj.mp h)
  refine ⟨hk, (List.map_inj_right ?_).mp hb⟩
  intro x y hxy
  have hval : ∀ z : UInt8, (Char.ofNat z.toNat).toNat = z.toNat := fun z => by
    rw [Char.toNat_ofNat, if_pos (Or.inl (Nat.lt_trans z.toNat_lt (by decide)))]
  exact UInt8.toNat_inj.mp (by rw [← hval x, ← hval y, hxy])

/-- What the attacker hands to the parent verifies as nothing but the nonce, signed by "C". -/
theorem signed_of_verify {j : Fin 2} {b : Bytes} {sig : Json}
    (hsig : sig = .str (sealText 'c' (utf8 "n")))
    (h : Crypto.sealing.verify (.publicKey (keyOf j)) b sig = .ok true) : j = 1 ∧ b = utf8 "n" := by
  subst hsig
  obtain ⟨hkey, rfl⟩ := sealText_injective (Json.str.inj (of_decide_eq_true (Except.ok.inj h)))
  refine ⟨?_, rfl⟩
  fin_cases j
  · exact absurd hkey (by decide)
  · rfl

theorem history_relayed : (relayed 3).history = [.opened (0, 0) (utf8 "n"), .signed 1 (utf8 "n")] := by
  decide +kernel

/-- Each step of the attack is one that the attacker can bring about. -/
theorem relayed_step (k : Fin 4) :
    Fair pair keyOf (relayed k) (relay.get k) ∧
      Step pair Server.isAsciiAlphanumeric (relayed k) (relay.get k) (relayed (k + 1)) := by
  fin_cases k
  · exact ⟨⟨fun _ _ _ => ⟨fun _ => List.not_mem_nil, fun _ => List.not_mem_nil⟩, by simp [relay]⟩,
      step_act ⟨rfl, by simp⟩ rfl⟩
  · exact ⟨⟨by simp [relay], by simp [relay]⟩, step_act trivial rfl⟩
  · exact ⟨⟨by simp [relay], by simp [relay]⟩, step_act rfl (by decide +kernel)⟩
  · have hopen : (0 : ℕ) < ((relayed 3).procs 0).children.nextChild := by decide +kernel
    refine ⟨⟨by simp [relay], ?_⟩, step_act hopen (by decide +kernel)⟩
    rintro c data isText key hframe env sig henv hsig j b hverify
    obtain ⟨-, rfl, rfl, -⟩ := Process.Op.frame.inj hframe
    have hparsed : (S2sAuth.parseEnvelope Text.codec ((S2sAuth.buildResponse Text.codec
        Crypto.sealing (pair 1).config (some (.str "n"))).toOption.getD []) true).bind
          (·.field "sig") = some (.str (sealText 'c' (utf8 "n"))) := by decide +kernel
    have henv' := henv
    change S2sAuth.parseEnvelope Text.codec _ _ = _ at henv'
    rw [henv', Option.bind_some, hsig] at hparsed
    obtain ⟨rfl, rfl⟩ := signed_of_verify (Option.some.inj hparsed) hverify
    change _ ∈ (relayed 3).history
    rw [history_relayed]
    exact List.mem_cons_of_mem _ (List.mem_singleton.mpr rfl)

theorem relayed_end : (((relayed 4).procs 0).children.children 0).m_s2s_authed = true ∧
    (((relayed 4).procs 0).children.children 0).m_s2s_server_id = some (.str "C") := by
  decide +kernel

/-- The id "C" is the one of the server. -/
theorem denotes_relayed : Denotes pair keyOf (0, 0)
    (((relayed 4).procs 0).children.children 0).m_s2s_server_id 1 := by
  rw [relayed_end.2]
  exact ⟨"C", rfl, _, rfl, by decide⟩

/-- The parent lets the attacker in as the server "C". -/
theorem relayed_response : ∃ N,
    Lts.Path (Step pair Server.isAsciiAlphanumeric) (Fair pair keyOf) (start fun _ => {}) N ∧
      ((N.procs 0).children.children 0).m_s2s_server_id = some (.str "C") ∧
      ∃ d, (∀ c, .opened c d ∈ N.history → c = (0, 0)) ∧
        [.opened (0, 0) d, .signed 1 d, .accepted (0, 0) (some (.str "C"))].Sublist N.history := by
  have hrun : Lts.Path (Step pair Server.isAsciiAlphanumeric) (Fair pair keyOf)
      (start fun _ => {}) (relayed 4) := by
    obtain ⟨hfair0, h0⟩ := relayed_step 0
    obtain ⟨hfair1, h1⟩ := relayed_step 1
    obtain ⟨hfair2, h2⟩ := relayed_step 2
    obtain ⟨hfair3, h3⟩ := relayed_step 3
    exact .tail (.tail (.tail (.single hfair0 h0) hfair1 h1) hfair2 h2) hfair3 h3
  obtain ⟨hauthed, hid⟩ := relayed_end
  obtain ⟨d, -, hone, -, hagreed⟩ := accepted_after_signed hrun hauthed
  refine ⟨relayed 4, hrun, hid, d, hone, ?_⟩
  rw [← hid]
  exact hagreed 1 denotes_relayed

end Servers

end DroneEngage
