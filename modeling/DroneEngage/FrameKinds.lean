import DroneEngage.ParentCommServer
import DroneEngage.Envelopes

/-! Text frames and binary frames on the relay.

    A server that passes a message on tells the `ws` package which kind of frame to send. The
    package hands every message it receives over as a buffer, and says the kind beside it; both ends
    of a link look at the buffer only. So a frame is binary for every server but the first. -/

namespace DroneEngage
open Js

namespace Server

open Action

/-! ### What a relayed frame puts out -/

/-- A relayed frame is sent to units as it is, delivered or passed on. -/
theorem logs_parseExternalMessage {Q : Effect → Prop} {message : Bytes} {isBinary : Bool}
    (hterm : ∀ ws, Q (.terminate ws)) (hsend : ∀ ws, Q (.send ws message isBinary))
    (hdeliver : Q (.deliverBroadcast message)) (hparent : ∀ m, Q (.toParent m isBinary))
    (hchildren : ∀ m source, Q (.toChildren m isBinary source)) (J : JsonCodec)
    (source : Option LinkId) : Moves (Logs Q) (parseExternalMessage J message isBinary source) := by
  have hemit : ∀ {e}, Q e → Moves (Logs Q) (modify (emit e)) := fun he => moves_modify (logs_emit he)
  refine moves_parseExternalMessage (fun ws => ?_) (logs_handleOrphanSocket hterm) (hemit hdeliver)
    (fun m => hemit (hparent m)) (fun m source => hemit (hchildren m source)) J source
  exact moves_bind (hemit (hsend ws)) fun _ => moves_bind moves_get fun _ =>
    moves_ite (fun _ => moves_throw _) fun _ => moves_pure ()

/-! ### Frames over links -/

end Server

namespace ParentCommServer

open Action

variable {PrivateKey PublicKey : Type} (J : JsonCodec) (crypto : Crypto PrivateKey PublicKey)
  (config : S2sConfig PrivateKey PublicKey)

/-- What is handed to the chat server is handed over as a frame of this kind. -/
def HandsOver (kind : Bool) (s s' : ParentCommServer PublicKey) : Prop :=
  ∃ l, s'.log = s.log ++ l ∧ ∀ c m k, .parseExternalMessage c m k ∈ l → k = kind

instance (kind : Bool) : IsPreorder (ParentCommServer PublicKey) (HandsOver kind) where
  refl := fun s => ⟨[], by rw [List.append_nil], by simp⟩
  trans := fun s t u h h' => by
    obtain ⟨l, hl, hk⟩ := h
    obtain ⟨l', hl', hk'⟩ := h'
    refine ⟨l ++ l', by rw [hl', hl, List.append_assoc], fun c m k hmem => ?_⟩
    rcases List.mem_append.mp hmem with hmem | hmem
    · exact hk c m k hmem
    · exact hk' c m k hmem

theorem handsOver_of_eq {kind : Bool} {s s' : ParentCommServer PublicKey} (h : s'.log = s.log) :
    HandsOver kind s s' := ⟨[], by rw [h, List.append_nil], by simp⟩

theorem handsOver_terminate (kind : Bool) (c : LinkId) :
    Moves (HandsOver kind) (terminate c : Action (ParentCommServer PublicKey) Unit) :=
  moves_modify fun _ => ⟨[.terminate c], rfl, by simp⟩

/-- The kind is that of the value the `ws` package hands over. -/
theorem handsOver_onMessage (c : LinkId) (message : Bytes) (isText : Bool) :
    Moves (HandsOver (!isText)) (onMessage J crypto config c message isText) := by
  have hgate : Moves (HandsOver (!isText)) (handshake J crypto config c message isText) := by
    rw [handshake]
    cases S2sAuth.parseEnvelope J message isText with
    | none => exact handsOver_terminate _ c
    | some env =>
      refine moves_bind (moves_ite (fun _ => moves_bind moves_get fun s => ?_) fun _ =>
        moves_pure false) fun b => moves_ite (fun _ => moves_modify fun _ => handsOver_of_eq rfl)
          fun _ => handsOver_terminate _ c
      exact fun _ => handsOver_of_eq rfl
  refine moves_attempt (moves_bind moves_get fun s => moves_ite (fun _ => hgate) fun _ =>
    moves_modify fun _ => ⟨_, rfl, fun c' m k hmem => ?_⟩) fun _ => moves_pure ()
  rw [List.mem_singleton] at hmem
  exact (ParentEffect.parseExternalMessage.inj hmem).2.2

end ParentCommServer

namespace ChildCommServer

variable {PrivateKey PublicKey : Type} {J : JsonCodec} {crypto : Crypto PrivateKey PublicKey}
  {config : S2sConfig PrivateKey PublicKey}

theorem kind_of_onReceive {c : ChildCommServer} {message m : Bytes} {isText kind : Bool}
    (h : .parseExternalMessage m kind ∈
      ((onReceive J crypto config message isText).final c).log.drop c.log.length) :
    kind = !isText := by
  have hadd : ∀ e, (c.emit e).log.drop c.log.length = [e] := fun e => List.drop_left
  cases henv : S2sAuth.parseEnvelope J message isText with
  | none =>
    rw [onReceive_traffic henv, hadd, List.mem_singleton] at h
    exact (ChildEffect.parseExternalMessage.inj h).2
  | some env =>
    have hcases : (onReceive J crypto config message isText).final c = c ∨ ∃ response,
        (onReceive J crypto config message isText).final c =
          c.emit (.respond (env.field "nonce") response) := onReceive_envelope henv c
    rcases hcases with hfin | ⟨response, hfin⟩
    · rw [hfin, List.drop_length] at h
      exact absurd h (by simp)
    · rw [hfin, hadd, List.mem_singleton] at h
      exact absurd h (by simp)

end ChildCommServer

namespace Server

section

variable {PrivateKey PublicKey : Type} (J : JsonCodec) (crypto : Crypto PrivateKey PublicKey)

/-- A message that came over a link is handed to the chat server, as a frame of this kind. The `ws`
    package has handed it over as a buffer. -/
inductive Handed (m : Bytes) (kind : Bool) : Prop
  /-- by the child side of a link -/
  | child (config : S2sConfig PrivateKey PublicKey) (c : ChildCommServer) :
    .parseExternalMessage m kind ∈
      ((ChildCommServer.onReceive J crypto config m false).final c).log.drop c.log.length →
    Handed m kind
  /-- by the parent side -/
  | parent (config : S2sConfig PrivateKey PublicKey) (p : ParentCommServer PublicKey)
    (link : LinkId) : .parseExternalMessage link m kind ∈
      ((ParentCommServer.onMessage J crypto config link m false).final p).log.drop p.log.length →
    Handed m kind

/-- A message on its way between two servers, with the kind of frame it is sent as: a client's
    message that the first server forwards, or one that a further server passes on. -/
inductive OnLink (s : Server) (ws : SocketId) (message : Bytes) (isBinary : Bool) :
    Bytes → Bool → Prop
  | first {m : Bytes} {b : Bool} :
    (m, b) ∈ s.relayedBy ((parseMessage J ws message isBinary).final s) →
    OnLink s ws message isBinary m b
  | next {m m' : Bytes} {b b' kind : Bool} (t : Server) (source : Option LinkId) :
    OnLink s ws message isBinary m b → Handed J crypto m kind →
    (m', b') ∈ t.relayedBy ((parseExternalMessage J m kind source).final t) →
    OnLink s ws message isBinary m' b'

/-- A unit of a remote server is sent a client's message, as a frame of kind `k`. -/
def Reaches (s : Server) (ws : SocketId) (message : Bytes) (isBinary : Bool) (u : SocketId)
    (m : Bytes) (k : Bool) : Prop :=
  ∃ b kind t source, OnLink J crypto s ws message isBinary m b ∧ Handed J crypto m kind ∧
    .send u m k ∈ (((parseExternalMessage J m kind source).final t).log.drop t.log.length)

variable {J crypto}

/-- A message that came over a link is a binary frame for the server it came to. -/
theorem Handed.kind {m : Bytes} {kind : Bool} (h : Handed J crypto m kind) : kind = true := by
  cases h with
  | child config c h => exact ChildCommServer.kind_of_onReceive h
  | parent config p link h =>
    obtain ⟨l, hl, hk⟩ := ParentCommServer.handsOver_onMessage J crypto config link m false p
    rw [hl, List.drop_left] at h
    exact hk link m kind h

/-- A unit of a remote server gets a message as the kind of frame it was sent as exactly when it
    was sent as a binary frame. -/
theorem kind_preserved_iff {s : Server} {ws : SocketId} {message m : Bytes} {isBinary k : Bool}
    {u : SocketId} (h : Reaches J crypto s ws message isBinary u m k) :
    k = isBinary ↔ isBinary = true := by
  obtain ⟨b, kind, t, source, -, hhanded, hsend⟩ := h
  obtain rfl := hhanded.kind
  have hkinds : Logs (fun e => ∀ u' m' k', e = .send u' m' k' → k' = true) t
      ((parseExternalMessage J m true source).final t) := by
    refine logs_parseExternalMessage ?_ ?_ ?_ ?_ ?_ J source t
    · rintro v u' m' k' ⟨⟩
    · rintro v u' m' k' ⟨⟩; rfl
    · rintro u' m' k' ⟨⟩
    · rintro m₁ u' m' k' ⟨⟩
    · rintro m₁ c u' m' k' ⟨⟩
  obtain ⟨l, hl, hQ⟩ := hkinds
  rw [hl, List.drop_left] at hsend
  rw [hQ _ hsend u m k rfl]
  exact eq_comm

end

/-- A frame of this kind of a unit of account `acc`, and the copy that is relayed. -/
theorem reaches_joinedRun (message copy : Bytes) (isBinary : Bool)
    (hcopy : (run Text.codec isAsciiAlphanumeric (start { enable_super_server := true }) joinedRun).map
      (fun s => s.relayedBy ((parseMessage Text.codec 0 message isBinary).final s)) =
        some [(copy, isBinary)])
    (hsent : (run Text.codec isAsciiAlphanumeric (start { server_id := some "S1" }) joinedRun).map
      (fun t => (((parseExternalMessage Text.codec copy true none).final t).log.drop
        t.log.length).contains (.send 0 copy true)) = some true)
    (htraffic : S2sAuth.parseEnvelope Text.codec copy false = none) : ∃ s : Server,
    run Text.codec isAsciiAlphanumeric (start { enable_super_server := true }) joinedRun = some s ∧
    Reaches Text.codec Crypto.sealing s 0 message isBinary 0 copy true := by
  obtain ⟨s, hs, hrel⟩ := Option.map_eq_some_iff.mp hcopy
  obtain ⟨t, -, hsend⟩ := Option.map_eq_some_iff.mp hsent
  have hmem : (copy, isBinary) ∈
      s.relayedBy ((parseMessage Text.codec 0 message isBinary).final s) := by
    rw [hrel]
    exact List.mem_singleton.mpr rfl
  refine ⟨s, hs, isBinary, true, t, none, .first hmem, .child {} {} ?_, by simpa using hsend⟩
  rw [ChildCommServer.onReceive_traffic htraffic]
  exact List.mem_singleton.mpr rfl

/-- The binary frame and its copy. -/
theorem kind_preserved_iff_binary : ∃ s : Server,
    run Text.codec isAsciiAlphanumeric (start { enable_super_server := true }) joinedRun = some s ∧
    Reaches Text.codec Crypto.sealing s 0 (broadcastFrame [] ++ [0, 7]) true 0
      (broadcastCopy [] ++ [0, 7]) true ∧ (true = true ↔ true = true) := by
  obtain ⟨s, hs, h⟩ := reaches_joinedRun (broadcastFrame [] ++ [0, 7]) (broadcastCopy [] ++ [0, 7])
    true (by decide +kernel) (by decide +kernel) (by decide +kernel)
  exact ⟨s, hs, h, kind_preserved_iff h⟩

/-- A text frame reaches a unit of another server as a binary frame. -/
theorem text_becomes_binary : ∃ s : Server,
    run Text.codec isAsciiAlphanumeric (start { enable_super_server := true }) joinedRun = some s ∧
    Reaches Text.codec Crypto.sealing s 0 (broadcastFrame []) false 0 (broadcastCopy []) true :=
  reaches_joinedRun (broadcastFrame []) (broadcastCopy []) false (by decide +kernel)
    (by decide +kernel) (by decide +kernel)

end Server

end DroneEngage
