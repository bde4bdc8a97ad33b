import DroneEngage.S2sAgreement

/-! Over which connection a server answers.

    Each link of a server leads to a connection of another server, or to somebody else: the TLS of the
    links says nothing of who is there. A server answers every challenge that it gets on a link, and
    the answer is not bound to the connection that the link leads to. So an attacker that a server
    connects to can have its answer to the challenge of a third one. Where no server is handed the nonce
    of a connection but over this connection, whoever is let in has answered on it.

    Every frame is the attacker's, on the lines between two servers as well. -/

namespace DroneEngage
open Js ChallengeResponse

deriving instance DecidableEq for Peer

/-- The servers on their lines. -/
structure Lines (ι PublicKey : Type) where
  servers : Servers ι PublicKey
  /-- the connection of another server that a link of a server leads to -/
  leadsTo : ι → Peer → Option (ι × LinkId) := fun _ _ => none
  /-- who has signed an answer, over the line to which connection, and the nonce -/
  answered : List (ι × Option (ι × LinkId) × Bytes) := []

inductive LineEvent (ι : Type) where
  | step (i : ι) (o : Process.Op)
  /-- a link of a server is set up anew -/
  | dial (i : ι) (peer : Peer) (far : Option (ι × LinkId))

namespace Lines

variable {ι PrivateKey PublicKey : Type}

/-- The connection that a frame comes from. -/
def lineOf (L : Lines ι PublicKey) (i : ι) : Process.Op → Option (ι × LinkId)
  | .frame peer .. => L.leadsTo i peer
  | _ => none

/-- What server `i` answers in a step. -/
def answers (E : StorageSettings PrivateKey PublicKey) (L : Lines ι PublicKey) (i : ι)
    (o : Process.Op) : List (ι × Option (ι × LinkId) × Bytes) :=
  (Process.signed E (L.servers.procs i) o).toList.map fun b => (i, L.lineOf i o, b)

/-- The connection is there, and no link leads to it. -/
def Free (L : Lines ι PublicKey) (c : ι × LinkId) : Prop :=
  c.2 < (L.servers.procs c.1).children.nextChild ∧ ∀ i peer, L.leadsTo i peer ≠ some c

section

variable [DecidableEq ι] (E : ι → StorageSettings PrivateKey PublicKey)
  (isAlphanumeric : String → Bool) (publicOf : ι → PublicKey)

/-- The link leads there now. -/
def dial (L : Lines ι PublicKey) (i : ι) (peer : Peer) (far : Option (ι × LinkId)) :
    Lines ι PublicKey :=
  { L with leadsTo := Function.update L.leadsTo i (Function.update (L.leadsTo i) peer far) }

def Step (L : Lines ι PublicKey) : LineEvent ι → Lines ι PublicKey → Prop
  | .step i o, L' => ∃ N, Servers.Step E isAlphanumeric L.servers (i, o) N ∧
      L' = { L with servers := N, answered := L.answered ++ L.answers (E i) i o }
  | .dial i peer far, L' => (∀ c, far = some c → L.Free c) ∧ L' = L.dial i peer far

/-- What the attacker cannot do. -/
def Fair (L : Lines ι PublicKey) : LineEvent ι → Prop
  | .step i o => Servers.Fair E publicOf L.servers (i, o)
  | .dial .. => True

/-- No server is handed, as a challenge, the nonce of a connection but over this connection. -/
def Direct (L : Lines ι PublicKey) : LineEvent ι → Prop
  | .step i o => ∀ b, Process.signed (E i) (L.servers.procs i) o = some b →
      ∀ c, .opened c b ∈ L.servers.history → L.lineOf i o = some c
  | .dial .. => True

end

/-! ### Every run -/

section

variable {E : ι → StorageSettings PrivateKey PublicKey}
  {isAlphanumeric : String → Bool} {publicOf : ι → PublicKey} {L L' : Lines ι PublicKey}

/-- Who has signed the nonce of a connection has answered on it. -/
def AnswersThere (L : Lines ι PublicKey) : Prop :=
  ∀ j c d, [.opened c d, .signed j d].Sublist L.servers.history → (j, some c, d) ∈ L.answered

/-- What holds in every state. -/
structure Inv (E : ι → StorageSettings PrivateKey PublicKey) (publicOf : ι → PublicKey)
    (L : Lines ι PublicKey) : Prop where
  servers : L.servers.Inv E publicOf
  there : L.AnswersThere

/-- At most one thing happens in a step; it is a signature if the server signs something. -/
theorem happenings_cases (E : StorageSettings PrivateKey PublicKey) (i : ι) (p p' : Process PublicKey)
    (o : Process.Op) : ∃ e, Servers.happenings E i p p' o = e.toList ∧
      ∀ j b, e = some (.signed j b) → j = i ∧ Process.signed E p o = some b := by
  have hsigned : ∃ e : Option (Happening (ι × LinkId) Bytes Val ι),
      (Process.signed E p o).toList.map (.signed i) = e.toList ∧
        ∀ j b, e = some (.signed j b) → j = i ∧ Process.signed E p o = some b := by
    refine ⟨(Process.signed E p o).map (.signed i), ?_, fun j b h => ?_⟩
    · cases Process.signed E p o <;> rfl
    · obtain ⟨b', hb', heq⟩ := Option.map_eq_some_iff.mp h
      obtain ⟨rfl, rfl⟩ := Happening.signed.inj heq
      exact ⟨rfl, hb'⟩
  cases o with
  | children e =>
    cases e with
    | connection => exact ⟨some _, rfl, by simp⟩
    | message | handshakeTimeout | closing | close | forwardMessage => exact hsigned
  | frame peer data isText key =>
    cases peer with
    | child c =>
      rw [Servers.happenings]
      split
      · exact ⟨some _, rfl, by simp⟩
      · exact ⟨none, rfl, by simp⟩
    | auth | storage | parent => exact hsigned
  | chat | auth | storage | parentLink => exact hsigned

/-- A new pair of happenings ends with the one that is new. -/
theorem sublist_append_toList {α : Type} {l : List α} {e : Option α} {x y : α}
    (h : [x, y].Sublist (l ++ e.toList)) : [x, y].Sublist l ∨ x ∈ l ∧ e = some y := by
  cases e with
  | none => exact Or.inl (by simpa using h)
  | some z =>
    obtain ⟨l₁, l₂, heq, h₁, h₂⟩ := List.sublist_append_iff.mp h
    rcases List.sublist_singleton.mp h₂ with rfl | rfl
    · rw [List.append_nil] at heq
      exact Or.inl (heq ▸ h₁)
    · obtain ⟨rfl, hz⟩ := List.append_inj' (show [x] ++ [y] = l₁ ++ [z] from heq) rfl
      obtain rfl := List.singleton_inj.mp hz
      exact Or.inr ⟨List.singleton_sublist.mp h₁, rfl⟩

variable [DecidableEq ι]

/-- Every step keeps the invariant. -/
theorem Inv.step (h : L.Inv E publicOf) {e : LineEvent ι}
    (hfair : Fair E publicOf L e ∧ Direct E L e) (hstep : Step E isAlphanumeric L e L') :
    L'.Inv E publicOf := by
  cases e with
  | dial i peer far =>
    obtain ⟨-, rfl⟩ := hstep
    exact ⟨h.servers, h.there⟩
  | step i o =>
    obtain ⟨hfair, hdirect⟩ := hfair
    obtain ⟨N, hN, rfl⟩ := hstep
    refine ⟨h.servers.step hfair hN, fun j c d hsub => ?_⟩
    obtain ⟨p', -, rfl⟩ := hN
    obtain ⟨e, he, hsigned⟩ := happenings_cases (E i) i (L.servers.procs i) p' o
    dsimp only at hsub ⊢
    rw [he] at hsub
    rcases sublist_append_toList hsub with hold | ⟨hopened, hnew⟩
    · exact List.mem_append_left _ (h.there j c d hold)
    · -- the nonce is the one of the connection that the link leads to
      obtain ⟨rfl, hb⟩ := hsigned j d hnew
      rw [answers, hb, hdirect d hb c hopened]
      exact List.mem_append_right _ (List.mem_singleton.mpr rfl)

/-- The servers when they start, without a link. -/
def start (config : ι → Config) : Lines ι PublicKey where
  servers := .start config

/-- In every run in which no server is handed the nonce of a connection but over this connection: a
    connection counts as the one of a server only if this server has answered, over this connection,
    the challenge that it was opened with, and before the connection was accepted. -/
theorem answered_over_connection {config : ι → Config}
    (hrun : Lts.Path (Step E isAlphanumeric) (fun L e => Fair E publicOf L e ∧ Direct E L e)
      (start config) L) {i : ι} {c : LinkId}
    (hauthed : ((L.servers.procs i).children.children c).m_s2s_authed = true) :
    ∃ d, (∀ c', .opened c' d ∈ L.servers.history ↔ c' = (i, c)) ∧
      ∀ j, Servers.Denotes E publicOf (i, c)
          ((L.servers.procs i).children.children c).m_s2s_server_id j →
        (j, some (i, c), d) ∈ L.answered ∧ [.opened (i, c) d, .signed j d,
          .accepted (i, c) ((L.servers.procs i).children.children c).m_s2s_server_id].Sublist
            L.servers.history := by
  have hstart : (start config : Lines ι PublicKey).Inv E publicOf :=
    ⟨Servers.inv_start config, fun j c d h => absurd h.subset (by simp [start, Servers.start])⟩
  have hinv : L.Inv E publicOf :=
    hrun.invariant (P := Inv E publicOf) (fun h hfair hstep => h.step hfair hstep) hstart
  obtain ⟨d, hsub, hone, -, hagreed⟩ := hinv.servers.agreement hauthed
  have hopened := hsub.subset (List.mem_cons_self ..)
  refine ⟨d, fun c' => ⟨hone c', ?_⟩, fun j hj => ⟨?_, hagreed j hj⟩⟩
  · rintro rfl
    exact hopened
  · exact hinv.there j (i, c) d (.trans (.cons_cons _ (.cons_cons _ (.cons _ .slnil))) (hagreed j hj))

end

/-! ### Two runs -/

section

variable [DecidableEq ι] (E : ι → StorageSettings PrivateKey PublicKey)
  (isAlphanumeric : String → Bool)

def act (L : Lines ι PublicKey) : LineEvent ι → Lines ι PublicKey
  | .step i o => { L with
      servers := Servers.act E isAlphanumeric L.servers (i, o)
      answered := L.answered ++ L.answers (E i) i o }
  | .dial i peer far => L.dial i peer far

end

/-- The parent link of the server "C" leads to this connection, or to the attacker. -/
def handshake (far : Option (Fin 2 × LinkId)) : List (LineEvent (Fin 2)) :=
  let answer := (Servers.relay.drop 2).map fun x => .step x.1 x.2
  (Servers.relay.take 2).map (fun x => .step x.1 x.2) ++ .dial (Fin.last 1) .parent far :: answer

def shaken (far : Option (Fin 2 × LinkId)) (k : ℕ) : Lines (Fin 2) Char :=
  ((handshake far).take k).foldl (act Servers.pair Server.isAsciiAlphanumeric) (start fun _ => {})

/-- Both are runs that the attacker can bring about. -/
theorem shaken_step {far : Option (Fin 2 × LinkId)} (hfar : ∀ c, far = some c → c = (0, 0))
    (k : Fin 5) : Fair Servers.pair Servers.keyOf (shaken far k) ((handshake far).get k) ∧
      Step Servers.pair Server.isAsciiAlphanumeric (shaken far k) ((handshake far).get k)
        (shaken far (k + 1)) := by
  fin_cases k
  · exact ⟨(Servers.relayed_step 0).1, _, (Servers.relayed_step 0).2, rfl⟩
  · exact ⟨(Servers.relayed_step 1).1, _, (Servers.relayed_step 1).2, rfl⟩
  · refine ⟨trivial, fun c hc => ?_, rfl⟩
    obtain rfl := hfar c hc
    have hopen : (0 : ℕ) < ((Servers.relayed 2).procs 0).children.nextChild := by decide +kernel
    exact ⟨hopen, fun _ _ => (Option.some_ne_none _).symm⟩
  · exact ⟨(Servers.relayed_step 2).1, _, (Servers.relayed_step 2).2, rfl⟩
  · exact ⟨(Servers.relayed_step 3).1, _, (Servers.relayed_step 3).2, rfl⟩

theorem shaken_path {far : Option (Fin 2 × LinkId)} (hfar : ∀ c, far = some c → c = (0, 0))
    {C : Lines (Fin 2) Char → LineEvent (Fin 2) → Prop}
    (hC : ∀ k : Fin 5, Fair Servers.pair Servers.keyOf (shaken far k) ((handshake far).get k) →
      C (shaken far k) ((handshake far).get k)) :
    Lts.Path (Step Servers.pair Server.isAsciiAlphanumeric) C (start fun _ => {})
      (shaken far 5) := by
  have hstep := fun k : Fin 5 => (shaken_step hfar k).2
  have hcond := fun k : Fin 5 => hC k (shaken_step hfar k).1
  exact .tail (.tail (.tail (.tail (.single (hcond 0) (hstep 0)) (hcond 1) (hstep 1)) (hcond 2)
    (hstep 2)) (hcond 3) (hstep 3)) (hcond 4) (hstep 4)

theorem shaken_end (far : Option (Fin 2 × LinkId)) :
    (((shaken far 5).servers.procs 0).children.children 0).m_s2s_authed = true ∧
      (((shaken far 5).servers.procs 0).children.children 0).m_s2s_server_id = some (.str "C") ∧
      Servers.Denotes Servers.pair Servers.keyOf (0, 0)
        (((shaken far 5).servers.procs 0).children.children 0).m_s2s_server_id 1 := by
  have hservers : (shaken far 5).servers = Servers.relayed 4 := rfl
  rw [hservers]
  exact ⟨Servers.relayed_end.1, Servers.relayed_end.2, Servers.denotes_relayed⟩

/-- The link of the server "C" leads to the parent. -/
theorem answered_over_connection_parent : ∃ L,
    Lts.Path (Step Servers.pair Server.isAsciiAlphanumeric)
        (fun L e => Fair Servers.pair Servers.keyOf L e ∧ Direct Servers.pair L e)
        (start fun _ => {}) L ∧
      ((L.servers.procs 0).children.children 0).m_s2s_server_id = some (.str "C") ∧
      ∃ d, (∀ c', .opened c' d ∈ L.servers.history ↔ c' = (0, 0)) ∧
        (1, some (0, 0), d) ∈ L.answered ∧
        [.opened (0, 0) d, .signed 1 d, .accepted (0, 0) (some (.str "C"))].Sublist
          L.servers.history := by
  have hrun : Lts.Path (Step Servers.pair Server.isAsciiAlphanumeric)
      (fun L e => Fair Servers.pair Servers.keyOf L e ∧ Direct Servers.pair L e)
      (start fun _ => {}) (shaken (some (0, 0)) 5) := by
    refine shaken_path (fun c hc => (Option.some.inj hc).symm) fun k hfair => ⟨hfair, ?_⟩
    fin_cases k
    · exact fun b hb => absurd hb (by simp [Process.signed, Process.asked])
    · exact fun b hb => absurd hb (by simp [Process.signed, Process.asked])
    · trivial
    · -- the challenge comes from the parent
      intro b _ c hc
      have hhistory : (Servers.relayed 2).history = [.opened (0, 0) (utf8 "n")] := by decide +kernel
      change .opened c b ∈ (Servers.relayed 2).history at hc
      rw [hhistory] at hc
      rw [(Happening.opened.inj (List.mem_singleton.mp hc)).1]
      rfl
    · intro b hb
      change Process.signed _ _ (.frame (.child 0) _ _ _) = _ at hb
      exact absurd hb (by simp [Process.signed, Process.asked, Process.AnswersTo])
  obtain ⟨hauthed, hid, hdenotes⟩ := shaken_end (some (0, 0))
  obtain ⟨d, hopened, hthere⟩ := answered_over_connection hrun hauthed
  have hagreed := hthere 1 hdenotes
  rw [hid] at hagreed
  exact ⟨_, hrun, hid, d, hopened, hagreed.1, hagreed.2⟩

/-- The attacker has the answer of the server "C", which has never had a link to the parent. -/
theorem answered_elsewhere : ∃ L,
    Lts.Path (Step Servers.pair Server.isAsciiAlphanumeric) (Fair Servers.pair Servers.keyOf)
        (start fun _ => {}) L ∧
      ((L.servers.procs 0).children.children 0).m_s2s_authed = true ∧
      Servers.Denotes Servers.pair Servers.keyOf (0, 0)
        ((L.servers.procs 0).children.children 0).m_s2s_server_id 1 ∧
      ∀ d, (1, some (0, 0), d) ∉ L.answered := by
  obtain ⟨hauthed, -, hdenotes⟩ := shaken_end none
  refine ⟨shaken none 5, shaken_path (by simp) (fun _ hfair => hfair), hauthed, hdenotes,
    fun d hd => ?_⟩
  have hanswered : (shaken none 5).answered = [(1, none, utf8 "n")] := by decide +kernel
  rw [hanswered] at hd
  exact absurd (List.mem_singleton.mp hd) (by simp)

end Lines

end DroneEngage
