import DroneEngage.Handlers
import DroneEngage.Js.Text

/-! Temp login keys over whole runs.

    A key is issued by AUTH's login request, and it is used up by the first connection that presents
    it, or expires. The table `m_waitingAccounts` holds exactly keys of that kind (`waiting_live`).
    A socket that logs in or is listed anywhere presented a key in that very event (`entry`), and the
    table answered for it: with a row of its own, or, when the key is the name of a property every
    object inherits, with that property. -/

namespace DroneEngage
open Js

namespace Server

/-! ### Entering -/

/-- In the step from `s` to `s'` the socket gets a login record, a row of the active senders or a
    place in a room. -/
def Enters (w : SocketId) (s s' : Server) : Prop :=
  (∃ login, (s'.sockets w).loginRequest = some login ∧ (s.sockets w).loginRequest ≠ some login) ∨
  (∃ k, s'.activeSenderIDsList.own? k = some w ∧ s.activeSenderIDsList.own? k ≠ some w) ∨
  (∃ g k, (s'.groupHeap g).units.own? k = some w ∧ (s.groupHeap g).units.own? k ≠ some w)

/-- The socket gets nothing of the kind. -/
structure NoEntry (w : SocketId) (s s' : Server) : Prop where
  login : ∀ l, (s'.sockets w).loginRequest = some l → (s.sockets w).loginRequest = some l
  active : ∀ k, s'.activeSenderIDsList.own? k = some w → s.activeSenderIDsList.own? k = some w
  room : ∀ g k, (s'.groupHeap g).units.own? k = some w → (s.groupHeap g).units.own? k = some w

theorem NoEntry.not_enters {w : SocketId} {s s' : Server} (h : NoEntry w s s') :
    ¬ Enters w s s' := by
  rintro (⟨l, hl, hn⟩ | ⟨k, hk, hn⟩ | ⟨g, k, hk, hn⟩)
  · exact hn (h.login l hl)
  · exact hn (h.active k hk)
  · exact hn (h.room g k hk)

theorem NoEntry.refl (w : SocketId) (s : Server) : NoEntry w s s :=
  ⟨fun _ => id, fun _ => id, fun _ _ => id⟩

theorem NoEntry.trans {w : SocketId} {s t u : Server} (h : NoEntry w s t) (h' : NoEntry w t u) :
    NoEntry w s u :=
  ⟨fun l => h.login l ∘ h'.login l, fun k => h.active k ∘ h'.active k,
    fun g k => h.room g k ∘ h'.room g k⟩

theorem Shrinks.noEntry {s s' : Server} (h : s.Shrinks s') (w : SocketId) : NoEntry w s s' :=
  ⟨fun _ hl => (h.sockets w).loginRequest ▸ hl, fun k => h.active k w, fun g k => h.units g k w⟩

section

variable {v w : SocketId} {login : LoginRequest} {s s' : Server}

/-- A write of the acceptance of `w` is no entry of anybody else. -/
theorem AdmitWrite.noEntry (h : AdmitWrite w login s s') (hv : v ≠ w) : NoEntry v s s' := by
  cases h with
  | shrinks h => exact h.noEntry v
  | login =>
    exact { NoEntry.refl v s with login := fun l hl => by rwa [setSocket_ne _ _ _ _ hv] at hl }
  | active =>
    refine { NoEntry.refl v s with active := fun k hk => ?_ }
    rcases Table.own?_assign_imp hk with ⟨-, h⟩ | h
    · exact absurd h hv
    · exact h
  | account => exact ⟨fun _ => id, fun _ => id, fun _ _ => id⟩
  | group =>
    refine { NoEntry.refl v s with room := fun h k hk => ?_ }
    by_cases hh : h = s.nextGroup
    · subst hh; simp [openGroup] at hk
    · simpa [openGroup, hh] using hk
  | member =>
    refine { NoEntry.refl v s with
      login := fun l hl => by unfold join at hl; rwa [setSocket_ne _ _ _ _ hv] at hl
      room := fun h k hk => ?_ }
    unfold join at hk
    rw [setSocket_groupHeap, setGroup_groupHeap] at hk
    split at hk
    · next hh =>
      subst hh
      rcases Table.own?_assign_imp hk with ⟨-, h⟩ | h
      · exact absurd h hv
      · exact h
    · exact hk

/-- The acceptance leaves the configuration and the waiting keys alone. -/
theorem AdmitWrite.frame (h : AdmitWrite w login s s') :
    s'.config = s.config ∧ s'.proto = s.proto ∧ s'.waitingAccounts = s.waitingAccounts := by
  cases h with
  | shrinks h => exact ⟨h.config, h.proto, h.waitingAccounts⟩
  | login | active | account | group | member => exact ⟨rfl, rfl, rfl⟩

theorem admitWrites_noEntry (h : Relation.ReflTransGen (AdmitWrite w login) s s') (hv : v ≠ w) :
    NoEntry v s s' := by
  induction h with
  | refl => exact NoEntry.refl v s
  | tail _ hw ih => exact ih.trans (hw.noEntry hv)

theorem admitWrites_frame (h : Relation.ReflTransGen (AdmitWrite w login) s s') :
    s'.config = s.config ∧ s'.proto = s.proto ∧ s'.waitingAccounts = s.waitingAccounts := by
  induction h with
  | refl => exact ⟨rfl, rfl, rfl⟩
  | tail _ hw ih =>
    obtain ⟨h₁, h₂, h₃⟩ := hw.frame
    exact ⟨h₁.trans ih.1, h₂.trans ih.2.1, h₃.trans ih.2.2⟩

end

/-! ### One event -/

section

variable (J : JsonCodec) (isAlphanumeric : String → Bool) {s : Server} {e : Event}

theorem greet_noEntry (creds : Except JsError Bool) (v w : SocketId) (s : Server) :
    NoEntry w s (greet creds v s) := by
  have hset : ∀ f : Socket → Socket, (∀ u, (f u).loginRequest = u.loginRequest) →
      NoEntry w s (setSocket v f s) := fun f hf =>
    ⟨fun l hl => by
      rw [setSocket_sockets] at hl
      split at hl
      · next h => subst h; rw [← hf]; exact hl
      · exact hl, fun _ => id, fun _ _ => id⟩
  unfold greet
  split
  · exact NoEntry.refl w s
  · split
    · exact hset _ fun _ => rfl
    · exact NoEntry.refl w s
  · exact hset _ fun _ => rfl

theorem withWaiting_noEntry (t : Table Json) (w : SocketId) (s : Server) :
    NoEntry w s { s with waitingAccounts := t } := ⟨fun _ => id, fun _ => id, fun _ _ => id⟩

theorem openSocket_noEntry (remote : String) (w : SocketId) (s : Server) :
    NoEntry w s ((openSocket remote).final s) := by
  refine ⟨fun l hl => ?_, fun _ => id, fun _ _ => id⟩
  rw [openSocket_sockets] at hl
  split at hl
  · exact absurd hl (by simp)
  · exact hl

theorem arrive_noEntry (e : Event) (w : SocketId) (s : Server) :
    NoEntry w s (arrive J s e) := by
  cases e with
  | authMessage message key =>
    obtain ⟨t, ht⟩ := issue_eq key (issuedLogin J message key) s
    rw [arrive_authMessage, ht]; exact withWaiting_noEntry t w s
  | keyTimeout key =>
    obtain ⟨t, ht⟩ := deleteLogin_eq key s
    rw [arrive_keyTimeout, ht]; exact withWaiting_noEntry t w s
  | connect url remote =>
    exact (openSocket_noEntry remote w s).trans (greet_noEntry _ _ w _)
  | message | authTimeout | close | external | faults | udpProgress | storage =>
    exact NoEntry.refl w s

/-- Who enters presents credentials that are good for a login. -/
theorem entry (hs : s.Consistent) (he : s.enabled e = true) {w : SocketId}
    (h : Enters w s ((handle J isAlphanumeric e).final s)) :
    ∃ params login, credentials J s e = some (w, params) ∧
      (arrive J s e).loginFor params = some login := by
  by_contra hno
  have hout := handle_final J isAlphanumeric hs he
  refine NoEntry.not_enters ((arrive_noEntry J e w s).trans ?_) h
  unfold Outcome Checked at hout
  split at hout
  · exact hout.noEntry w
  · next v params hcreds =>
    split at hout
    · exact hout.noEntry w
    · next login hlogin =>
      have hne : w ≠ v := by rintro rfl; exact hno ⟨params, login, hcreds, hlogin⟩
      exact (withWaiting_noEntry _ w _).trans (admitWrites_noEntry hout.writes hne)

theorem greet_frame (creds : Except JsError Bool) (v : SocketId) (s : Server) :
    (greet creds v s).config = s.config ∧ (greet creds v s).proto = s.proto ∧
      (greet creds v s).waitingAccounts = s.waitingAccounts := by
  unfold greet
  split
  · exact ⟨rfl, rfl, rfl⟩
  · split <;> exact ⟨rfl, rfl, rfl⟩
  · exact ⟨rfl, rfl, rfl⟩

theorem arrive_frame (e : Event) (s : Server) :
    (arrive J s e).config = s.config ∧ (arrive J s e).proto = s.proto := by
  cases e with
  | authMessage message key =>
    obtain ⟨t, ht⟩ := issue_eq key (issuedLogin J message key) s
    rw [arrive_authMessage, ht]; exact ⟨rfl, rfl⟩
  | keyTimeout key =>
    obtain ⟨t, ht⟩ := deleteLogin_eq key s
    rw [arrive_keyTimeout, ht]; exact ⟨rfl, rfl⟩
  | connect url remote =>
    obtain ⟨h₁, h₂, -⟩ := greet_frame (hasQueryCreds s.proto url) s.nextSocket
      ((openSocket remote).final s)
    exact ⟨h₁, h₂⟩
  | message | authTimeout | close | external | faults | udpProgress | storage => exact ⟨rfl, rfl⟩

theorem outcome_frame {s s' : Server} {creds : Option (SocketId × Table Json)}
    (h : Outcome J creds s s') : s'.config = s.config ∧ s'.proto = s.proto := by
  unfold Outcome Checked at h
  split at h
  · exact ⟨h.config, h.proto⟩
  · split at h
    · exact ⟨h.config, h.proto⟩
    · obtain ⟨h₁, h₂, -⟩ := admitWrites_frame h.writes
      exact ⟨h₁, h₂⟩

/-- The configuration and the prototype never change. -/
theorem run_frame {config : Config} {es : List Event} {s : Server}
    (h : run J isAlphanumeric (start config) es = some s) :
    s.config = config ∧ s.proto = objectPrototype := by
  refine (run_invariant (P := fun s => s.Consistent ∧ s.config = config ∧
    s.proto = objectPrototype) (fun s e hs he => ?_) ⟨consistent_start config, rfl, rfl⟩ h).2
  obtain ⟨h₁, h₂⟩ := outcome_frame J (handle_final J isAlphanumeric hs.1 he)
  obtain ⟨h₃, h₄⟩ := arrive_frame J e s
  exact ⟨hs.1.handle J isAlphanumeric he, h₁.trans (h₃.trans hs.2.1), h₂.trans (h₄.trans hs.2.2)⟩

/-- A key that waits after the first part of an event was issued by it, or waited before and has not
    expired. -/
theorem arrive_waiting {e : Event} {s : Server} {key : String}
    (h : ((arrive J s e).waitingAccounts.own? key).isSome) :
    (∃ message d, e = .authMessage message key ∧ issuedLogin J message key = some d) ∨
      ((s.waitingAccounts.own? key).isSome ∧ e ≠ .keyTimeout key) := by
  cases e with
  | authMessage message key' =>
    rw [arrive_authMessage] at h
    cases hd : issuedLogin J message key' with
    | none => rw [hd] at h; exact Or.inr ⟨h, by simp⟩
    | some d =>
      rw [hd] at h
      obtain ⟨a, ha⟩ := Option.isSome_iff_exists.mp h
      rcases Table.own?_assign_imp ha with ⟨rfl, -⟩ | ha
      · exact Or.inl ⟨message, d, rfl, hd⟩
      · exact Or.inr ⟨by rw [ha]; rfl, by simp⟩
  | keyTimeout key' =>
    right
    rw [arrive_keyTimeout] at h
    unfold deleteLogin at h
    rw [Action.final_get_bind] at h
    split at h
    · next hnull =>
      rw [Action.final_pure] at h
      refine ⟨h, ?_⟩
      rintro ⟨⟩
      obtain ⟨a, ha⟩ := Option.isSome_iff_exists.mp h
      rw [Table.get_eq_own_iff.mpr ha] at hnull
      exact absurd hnull (by simp [Slot.isNullish])
    · obtain ⟨a, ha⟩ := Option.isSome_iff_exists.mp h
      rw [Action.final_modify] at ha
      refine ⟨by rw [Table.own?_delete_imp ha]; rfl, ?_⟩
      rintro ⟨⟩
      rw [Table.own?_delete_self] at ha
      exact absurd ha (by simp)
  | connect url remote =>
    obtain ⟨-, -, hw⟩ := greet_frame (hasQueryCreds s.proto url) s.nextSocket
      ((openSocket remote).final s)
    rw [arrive_connect, hw] at h
    exact Or.inr ⟨h, by simp⟩
  | message | authTimeout | close | external | faults | udpProgress | storage =>
    exact Or.inr ⟨h, by simp⟩

/-- Credentials and the issue of a key do not come in one event. -/
theorem arrive_waiting_of_credentials {e : Event} {s : Server} {c : SocketId × Table Json}
    (h : credentials J s e = some c) :
    (arrive J s e).waitingAccounts = s.waitingAccounts := by
  cases e with
  | connect url remote => rw [arrive_connect, (greet_frame _ _ _).2.2]; rfl
  | message => rfl
  | authMessage | keyTimeout | authTimeout | close | external | faults | udpProgress | storage =>
    exact absurd h (by simp [credentials])

/-- With AUTH, parameters are good for a login when their key names something. -/
theorem presentedKey_of_loginFor {s : Server} {params : Table Json} {login : LoginRequest}
    (hauth : s.config.local_server_enabled = false) (h : s.loginFor params = some login) :
    ∃ key, presentedKey s.proto params = some key ∧ (s.getLogin key).isNullish = false := by
  unfold loginFor at h
  rw [hauth] at h
  simp only [Bool.false_eq_true, if_false] at h
  split at h
  · next key hkey =>
    refine ⟨key, hkey, ?_⟩
    split at h
    · exact absurd h (by simp)
    · next hn => simpa using hn
  · exact absurd h (by simp)

/-- A presented key does not wait any longer. -/
theorem outcome_waiting {s s' : Server} {creds : Option (SocketId × Table Json)}
    (h : Outcome J creds s s') (hauth : s.config.local_server_enabled = false) {key : String}
    (hkey : (s'.waitingAccounts.own? key).isSome) :
    (s.waitingAccounts.own? key).isSome ∧
      ∀ w params, creds = some (w, params) → presentedKey s.proto params ≠ some key := by
  unfold Outcome Checked at h
  split at h
  · rw [h.waitingAccounts] at hkey
    exact ⟨hkey, by simp⟩
  · next v params =>
    split at h
    · next hnone =>
      rw [h.waitingAccounts] at hkey
      refine ⟨hkey, ?_⟩
      rintro w params' ⟨⟩ hp
      unfold loginFor at hnone
      rw [hauth, hp] at hnone
      obtain ⟨a, ha⟩ := Option.isSome_iff_exists.mp hkey
      have hget : s.getLogin key = .own a := Table.get_eq_own_iff.mpr ha
      simp [hget, Slot.isNullish] at hnone
    · obtain ⟨-, -, hw⟩ := admitWrites_frame h.writes
      rw [hw] at hkey
      unfold consumeKey keysAfter at hkey
      rw [hauth] at hkey
      simp only [Bool.false_eq_true, if_false] at hkey
      split at hkey
      · next key' hp =>
        obtain ⟨a, ha⟩ := Option.isSome_iff_exists.mp hkey
        refine ⟨by rw [Table.own?_delete_imp ha]; rfl, ?_⟩
        rintro w params' ⟨⟩ hp'
        rw [hp] at hp'
        obtain rfl := Option.some.inj hp'
        rw [Table.own?_delete_self] at ha
        exact absurd ha (by simp)
      · next hp =>
        refine ⟨hkey, ?_⟩
        rintro w params' ⟨⟩ hp'
        rw [hp] at hp'
        exact absurd hp' (by simp)

end

/-! ### A run as a ledger of keys -/

section

variable (J : JsonCodec) (isAlphanumeric : String → Bool) (config : Config) (es : List Event)

/-- The state before the event at a position. -/
def StateAt (i : ℕ) (s : Server) : Prop :=
  run J isAlphanumeric (start config) (es.take i) = some s

/-- The event at the position issues the key. -/
def IssuedAt (i : ℕ) (key : String) : Prop :=
  ∃ s message d, StateAt J isAlphanumeric config es i s ∧ es[i]? = some (.authMessage message key) ∧
    s.enabled (.authMessage message key) = true ∧ issuedLogin J message key = some d

/-- The timer of the key fires at the position. -/
def ExpiredAt (i : ℕ) (key : String) : Prop := es[i]? = some (.keyTimeout key)

/-- At the position a connection on the socket presents the key. -/
def PresentedAt (i : ℕ) (w : SocketId) (key : String) : Prop :=
  ∃ s e params, StateAt J isAlphanumeric config es i s ∧ es[i]? = some e ∧ s.enabled e = true ∧
    credentials J s e = some (w, params) ∧ presentedKey s.proto params = some key

/-- The key was issued before the position, and since then it has neither expired nor been
    presented. -/
def LiveAt (i : ℕ) (key : String) : Prop :=
  ∃ j < i, IssuedAt J isAlphanumeric config es j key ∧ ∀ k, j < k → k < i →
    ¬ ExpiredAt es k key ∧ ∀ w, ¬ PresentedAt J isAlphanumeric config es k w key

end

section

variable {J : JsonCodec} {isAlphanumeric : String → Bool} {config : Config} {es : List Event}

theorem stateAt_succ {i : ℕ} {e : Event} {s' : Server} (he : es[i]? = some e) :
    StateAt J isAlphanumeric config es (i + 1) s' ↔
      ∃ s, StateAt J isAlphanumeric config es i s ∧ step J isAlphanumeric s e = some s' := by
  unfold StateAt
  rw [List.take_add_one, he, Option.toList_some, run_append, Option.bind_eq_some_iff]
  simp [run_cons]

theorem stateAt_unique {i : ℕ} {s t : Server} (hs : StateAt J isAlphanumeric config es i s)
    (ht : StateAt J isAlphanumeric config es i t) : s = t := Option.some.inj (hs.symm.trans ht)

/-- Behind the last event nothing happens. -/
theorem stateAt_of_end {i : ℕ} {s : Server} (he : es[i]? = none)
    (hs : StateAt J isAlphanumeric config es (i + 1) s) :
    StateAt J isAlphanumeric config es i s := by
  unfold StateAt at hs ⊢
  rwa [List.take_add_one, he, Option.toList_none, List.append_nil] at hs

/-- One position on, the state is the same or the handler of an enabled event has run. -/
theorem stateAt_pred {i : ℕ} {s' : Server}
    (hs' : StateAt J isAlphanumeric config es (i + 1) s') :
    ∃ s, StateAt J isAlphanumeric config es i s ∧ (s' = s ∨ ∃ e, es[i]? = some e ∧
      s.enabled e = true ∧ s' = (handle J isAlphanumeric e).final s) := by
  cases he : es[i]? with
  | none => exact ⟨s', stateAt_of_end he hs', Or.inl rfl⟩
  | some e =>
    obtain ⟨s, hs, hstep⟩ := (stateAt_succ he).mp hs'
    refine ⟨s, hs, ?_⟩
    rcases step_eq_some hstep with ⟨hen, h⟩ | ⟨-, h⟩
    · exact Or.inr ⟨e, rfl, hen, h⟩
    · exact Or.inl h

theorem live_of_issued {i : ℕ} {key : String} (h : IssuedAt J isAlphanumeric config es i key) :
    LiveAt J isAlphanumeric config es (i + 1) key :=
  ⟨i, Nat.lt_succ_self i, h, fun k h₁ h₂ => absurd h₁ (by omega)⟩

theorem live_succ {i : ℕ} {key : String} (h : LiveAt J isAlphanumeric config es i key)
    (hexp : ¬ ExpiredAt es i key)
    (hpres : ∀ w, ¬ PresentedAt J isAlphanumeric config es i w key) :
    LiveAt J isAlphanumeric config es (i + 1) key := by
  obtain ⟨j, hj, hiss, hbetween⟩ := h
  refine ⟨j, Nat.lt_succ_of_lt hj, hiss, fun k h₁ h₂ => ?_⟩
  rcases Nat.lt_succ_iff_lt_or_eq.mp h₂ with h₂ | rfl
  · exact hbetween k h₁ h₂
  · exact ⟨hexp, hpres⟩

/-- Every key the table holds is live. -/
theorem waiting_live (hauth : config.local_server_enabled = false) : ∀ {i : ℕ} {s : Server},
    StateAt J isAlphanumeric config es i s → ∀ key, (s.waitingAccounts.own? key).isSome →
      LiveAt J isAlphanumeric config es i key
  | 0, s, hs, key, hkey => by
    unfold StateAt at hs
    rw [List.take_zero, run_nil] at hs
    obtain rfl := Option.some.inj hs
    simp [start] at hkey
  | i + 1, s', hs', key, hkey => by
    cases he : es[i]? with
    | none =>
      refine live_succ (waiting_live hauth (stateAt_of_end he hs') key hkey) ?_ ?_
      · unfold ExpiredAt; rw [he]; simp
      · rintro w ⟨s, e, params, -, he', -⟩; rw [he] at he'; exact absurd he' (by simp)
    | some e =>
      obtain ⟨s, hs, hstep⟩ := (stateAt_succ he).mp hs'
      have hcons := consistent_run J isAlphanumeric hs
      obtain ⟨hconfig, hproto⟩ := run_frame J isAlphanumeric hs
      rcases step_eq_some hstep with ⟨hen, rfl⟩ | ⟨hen, rfl⟩
      · obtain ⟨hkey', hpres⟩ := outcome_waiting J (handle_final J isAlphanumeric hcons hen)
          (by rw [(arrive_frame J e s).1, hconfig]; exact hauth) hkey
        rcases arrive_waiting J hkey' with ⟨message, d, rfl, hd⟩ | ⟨hold, hne⟩
        · exact live_of_issued ⟨s, message, d, hs, he, hen, hd⟩
        · refine live_succ (waiting_live hauth hs key hold) ?_ ?_
          · unfold ExpiredAt; rw [he]; simpa using hne
          · rintro w ⟨t, e', params, ht, he', -, hcreds, hp⟩
            rw [he] at he'
            obtain rfl := Option.some.inj he'
            obtain rfl := stateAt_unique ht hs
            exact hpres w params hcreds (by rw [(arrive_frame J e t).2]; exact hp)
      · refine live_succ (waiting_live hauth hs key hkey) ?_ ?_
        · unfold ExpiredAt; rw [he]; rintro ⟨⟩; exact absurd hen (by simp [enabled])
        · rintro w ⟨t, e', params, ht, he', hen', -⟩
          rw [he] at he'
          obtain rfl := Option.some.inj he'
          obtain rfl := stateAt_unique ht hs
          rw [hen] at hen'
          exact absurd hen' (by simp)

/-- A live key is presented at one position only, on one socket. -/
theorem live_presented_once
    (hdistinct : ∀ i j key, IssuedAt J isAlphanumeric config es i key →
      IssuedAt J isAlphanumeric config es j key → i = j)
    {i j : ℕ} {v w : SocketId} {key : String}
    (hi : PresentedAt J isAlphanumeric config es i v key)
    (hil : LiveAt J isAlphanumeric config es i key)
    (hj : PresentedAt J isAlphanumeric config es j w key)
    (hjl : LiveAt J isAlphanumeric config es j key) : i = j ∧ v = w := by
  obtain ⟨a, ha, hia, hbi⟩ := hil
  obtain ⟨b, hb, hib, hbj⟩ := hjl
  obtain rfl := hdistinct a b key hia hib
  have hij : i = j := by
    rcases Nat.lt_trichotomy i j with h | h | h
    · exact absurd hi ((hbj i ha h).2 v)
    · exact h
    · exact absurd hj ((hbi j hb h).2 w)
  subst hij
  obtain ⟨s, e, params, hs, he, -, hc, -⟩ := hi
  obtain ⟨t, e', params', ht, he', -, hc', -⟩ := hj
  obtain rfl := stateAt_unique hs ht
  obtain rfl := Option.some.inj (he.symm.trans he')
  rw [hc] at hc'
  exact ⟨rfl, congrArg Prod.fst (Option.some.inj hc')⟩

/-- In a run of a server that takes its logins from AUTH, whoever enters presents a key in that very
    event. The key is live exactly when it is not the name of a property every object inherits, and
    a live key lets one socket in, once. -/
theorem admission (hauth : config.local_server_enabled = false)
    (hdistinct : ∀ i j key, IssuedAt J isAlphanumeric config es i key →
      IssuedAt J isAlphanumeric config es j key → i = j)
    (hnames : ∀ i key, IssuedAt J isAlphanumeric config es i key → key ∉ objectPrototype) :
    (∀ i s s' w, StateAt J isAlphanumeric config es i s →
      StateAt J isAlphanumeric config es (i + 1) s' → Enters w s s' →
      ∃ key, PresentedAt J isAlphanumeric config es i w key ∧
        (LiveAt J isAlphanumeric config es i key ↔ key ∉ objectPrototype)) ∧
    (∀ i j v w key, PresentedAt J isAlphanumeric config es i v key →
      LiveAt J isAlphanumeric config es i key → PresentedAt J isAlphanumeric config es j w key →
      LiveAt J isAlphanumeric config es j key → i = j ∧ v = w) := by
  refine ⟨fun i s s' w hs hs' henter => ?_,
    fun i j v w key hi hil hj hjl => live_presented_once hdistinct hi hil hj hjl⟩
  obtain ⟨hconfig, hproto⟩ := run_frame J isAlphanumeric hs
  have hcons := consistent_run J isAlphanumeric hs
  obtain ⟨t, ht, rfl | ⟨e, he, hen, rfl⟩⟩ := stateAt_pred hs'
  · obtain rfl := stateAt_unique ht hs
    exact absurd henter (NoEntry.refl w _).not_enters
  · obtain rfl := stateAt_unique ht hs
    obtain ⟨params, login, hcreds, hlogin⟩ := entry J isAlphanumeric hcons hen henter
    obtain ⟨harr, hprr⟩ := arrive_frame J e t
    obtain ⟨key, hkey, hget⟩ := presentedKey_of_loginFor (by rw [harr, hconfig, hauth]) hlogin
    rw [hprr] at hkey
    refine ⟨key, ⟨t, e, params, ht, he, hen, hcreds, hkey⟩, ?_, fun hnot => ?_⟩
    · rintro ⟨j, -, hissued, -⟩
      exact hnames j key hissued
    · refine waiting_live hauth ht key ?_
      unfold getLogin at hget
      rw [hprr, hproto, arrive_waiting_of_credentials J hcreds] at hget
      unfold Table.get at hget
      cases hown : t.waitingAccounts.own? key with
      | some d => rfl
      | none => rw [hown] at hget; simp [hnot, Slot.isNullish] at hget

/-- AUTH announces a vehicle, and a connection presents the key of the answer. -/
def keyRun : List Event :=
  [.authMessage (Text.stringify (.obj [("c", .str "b"),
      ("d", .obj [("a", .str "acc"), ("b", .str "1"), ("r", .str "q"), ("at", .str "d")])])) "k1",
    .connect "/?f=k1&s=drone" "peer"]

def isAsciiAlphanumeric (s : String) : Bool := s.toList.all Char.isAlphanum

theorem admission_keyRun : ∃ s s' : Server,
    StateAt Text.codec isAsciiAlphanumeric {} keyRun 1 s ∧
    StateAt Text.codec isAsciiAlphanumeric {} keyRun 2 s' ∧ Enters 0 s s' ∧
    ∃ key, PresentedAt Text.codec isAsciiAlphanumeric {} keyRun 1 0 key ∧
      (LiveAt Text.codec isAsciiAlphanumeric {} keyRun 1 key ↔ key ∉ objectPrototype) := by
  have h₁ : (run Text.codec isAsciiAlphanumeric (start {}) (keyRun.take 1)).map
      (fun s => (s.sockets 0).loginRequest.isSome) = some false := by decide +kernel
  have h₂ : (run Text.codec isAsciiAlphanumeric (start {}) (keyRun.take 2)).map
      (fun s => (s.sockets 0).loginRequest.isSome) = some true := by decide +kernel
  obtain ⟨s, hs, hl⟩ := Option.map_eq_some_iff.mp h₁
  obtain ⟨s', hs', hl'⟩ := Option.map_eq_some_iff.mp h₂
  obtain ⟨login, hlogin⟩ := Option.isSome_iff_exists.mp hl'
  have henter : Enters 0 s s' :=
    Or.inl ⟨login, hlogin, fun h => by rw [h] at hl; exact absurd hl (by simp)⟩
  have hissued : ∀ i key, IssuedAt Text.codec isAsciiAlphanumeric {} keyRun i key →
      i = 0 ∧ key = "k1" := by
    rintro i key ⟨t, message, d, -, he, -⟩
    match i, he with
    | 0, he => cases he; exact ⟨rfl, rfl⟩
    | 1, he => exact absurd he (by simp [keyRun])
    | i + 2, he => exact absurd he (by simp [keyRun])
  refine ⟨s, s', hs, hs', henter, (admission rfl (fun i j key hi hj => ?_) fun i key hi => ?_).1
    1 s s' 0 hs hs' henter⟩
  · rw [(hissued i key hi).1, (hissued j key hj).1]
  · rw [(hissued i key hi).2]; decide

/-- A connection that presents `constructor` before AUTH has announced anybody. -/
def constructorRun : List Event := [.connect "/?f=constructor&s=x" "peer"]

/-- It logs in, joins a room and is listed as an active sender, although no key was ever issued. -/
theorem admission_constructor : ∃ s s' : Server,
    StateAt Text.codec isAsciiAlphanumeric {} constructorRun 0 s ∧
    StateAt Text.codec isAsciiAlphanumeric {} constructorRun 1 s' ∧ Enters 0 s s' ∧
    (s'.sockets 0).loginRequest.isSome ∧ (s'.sockets 0).group.isSome ∧
    s'.activeSenderIDsList.own? "x" = some 0 ∧
    PresentedAt Text.codec isAsciiAlphanumeric {} constructorRun 0 0 "constructor" ∧
    ∀ key, ¬ LiveAt Text.codec isAsciiAlphanumeric {} constructorRun 0 key := by
  have h : (run Text.codec isAsciiAlphanumeric (start {}) (constructorRun.take 1)).map
      (fun s => ((s.sockets 0).loginRequest.isSome, (s.sockets 0).group.isSome,
        s.activeSenderIDsList.own? "x")) = some (true, true, some 0) := by decide +kernel
  have hkey : presentedKey objectPrototype (getHeaderParams objectPrototype "/?f=constructor&s=x")
      = some "constructor" := by decide +kernel
  have hquery : (hasQueryCreds objectPrototype "/?f=constructor&s=x").toOption = some true := by
    decide +kernel
  obtain ⟨s', hs', hfacts⟩ := Option.map_eq_some_iff.mp h
  simp only [Prod.mk.injEq] at hfacts
  obtain ⟨hl, hg, ha⟩ := hfacts
  obtain ⟨login, hlogin⟩ := Option.isSome_iff_exists.mp hl
  refine ⟨start {}, s', rfl, hs', Or.inl ⟨login, hlogin, by simp [start]⟩, hl, hg, ha, ?_, ?_⟩
  · exact ⟨start {}, _, _, rfl, rfl, rfl, credentials_of_query Text.codec "peer" hquery rfl, hkey⟩
  · rintro key ⟨j, hj, -⟩
    exact absurd hj (Nat.not_lt_zero j)

end

end Server

end DroneEngage
