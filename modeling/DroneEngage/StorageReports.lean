import DroneEngage.AuthLink
import DroneEngage.DbRequests

/-! What AUTH knows of the storage server.

    Every status is handed to the link to AUTH, and a heartbeat hands over the current one unless it
    is the one handed over last. The link forgets with each close, and the client of the storage
    server does not hear of it: after a close AUTH waits for the next change. -/

namespace DroneEngage
open Js

/-- The client of the storage server beside the link to AUTH. -/
structure StorageReports where
  storage : DbProxyClient := {}
  auth : AuthLink := .start
  /-- the link was closed since the last status was handed over -/
  forgotten : Bool := false
  /-- a heartbeat on an open link has left AUTH without the current status -/
  behind : Bool := false

namespace StorageReports

open Action DbProxyClient

/-- A step of one of the two. -/
inductive Op where
  | storage (o : DbProxyClient.Op)
  | auth (o : AuthLink.Op)

def Enabled (s : StorageReports) : Op → Prop
  | .storage o => s.storage.Enabled o ∧ s.storage.FreshRids o
  | .auth o => s.auth.Enabled o

/-- Does the heartbeat tick? -/
def ticks (s : StorageReports) : Op → Bool
  | .storage (.timer t) => s.storage.timers t = some .heartbeat
  | _ => false

/-- The calls of `m_sendToAuthCallback` in one turn. -/
def handOver (statuses : List StorageStatus) (l : AuthLink) : AuthLink :=
  statuses.foldl (fun l status => AuthLink.sendMessage (.storageStatus status) l) l

section

variable {PrivateKey PublicKey : Type} (E : StorageSettings PrivateKey PublicKey)

def next (s : StorageReports) : Op → StorageReports
  | .storage o =>
    let storage := (perform E o).final s.storage
    let statuses := reports (storage.log.drop s.storage.log.length)
    let auth := handOver statuses s.auth
    { storage
      auth
      forgotten := s.forgotten && statuses.isEmpty
      behind := s.behind || (s.ticks (.storage o) && auth.ws = some .isOpen &&
        AuthLink.lastStatus auth.received ≠ some storage.currentStatus) }
  | .auth o => { s with
    auth := s.auth.step E o
    forgotten := s.forgotten || o.closes }

def Step (s : StorageReports) (o : Op) (s' : StorageReports) : Prop :=
  s.Enabled o ∧ s' = s.next E o

end

/-- A heartbeat that ticks while the link is open has a status to hand over, or AUTH still knows the
    last one. -/
def CatchesUp (s : StorageReports) (o : Op) : Prop :=
  s.ticks o = true → s.auth.ws = some .isOpen → s.forgotten = true →
    s.storage.lastSentStorageStatus ≠ some s.storage.currentStatus

/-! ### Handing over -/

theorem handOver_spec : ∀ (statuses : List StorageStatus) {l : AuthLink}, l.Flushed →
    (handOver statuses l).Flushed ∧ (handOver statuses l).ws = l.ws ∧
      (handOver statuses l).told = (statuses.getLast?.map StorageStatus.status).or l.told
  | [], _, h => ⟨h, rfl, rfl⟩
  | status :: rest, l, h => by
    obtain ⟨hflushed, hws, htold⟩ := handOver_spec rest (h.sendMessage (.storageStatus status))
    have hstatus : (AuthLink.sendMessage (.storageStatus status) l).told = some status.status := by
      refine (AuthLink.told_sendMessage h.started ?_).trans (Option.some_or ..)
      by_cases hopen : l.ws = some .isOpen
      · exact Or.inl (h.empty hopen)
      · exact Or.inr (Or.inl hopen)
    refine ⟨hflushed, hws.trans (AuthLink.ws_sendMessage _ l), htold.trans ?_⟩
    rw [hstatus, List.getLast?_cons, Option.map_some, Option.some_or]
    cases rest.getLast? with
    | none => rfl
    | some last => rfl

/-- What one heartbeat does. -/
theorem final_heartbeat {s : DbProxyClient} (hcallback : s.sendToAuthCallback = true) :
    heartbeat.final s = if s.lastSentStorageStatus = some s.currentStatus then s else
      emit (.toAuth ⟨s.currentStatus, s.currentEndpoint, none⟩)
        { s with lastSentStorageStatus := some s.currentStatus } := by
  rw [heartbeat, final_get_bind, sendStorageStatus, final_get_bind]
  by_cases hsame : s.lastSentStorageStatus = some s.currentStatus
  · rw [if_pos hsame, if_neg (by simp [hsame])]
    rfl
  · rw [if_neg hsame, if_pos (by simp [hsame, hcallback])]
    rfl

/-! ### Along a run -/

variable {PrivateKey PublicKey : Type} {E : StorageSettings PrivateKey PublicKey}
  {s s' : StorageReports} {o : Op}

/-- What the client believes AUTH was told last is what AUTH was or will be told, until a close. -/
structure Known (s : StorageReports) : Prop where
  booked : s.storage.Booked
  callback : s.storage.sendToAuthCallback = true
  flushed : s.auth.Flushed
  told : s.auth.told = if s.forgotten then none else s.storage.lastSentStorageStatus

theorem Known.step (h : s.Known) (hstep : Step E s o s') : s'.Known := by
  obtain ⟨henabled, rfl⟩ := hstep
  cases o with
  | storage o =>
    have hkeeps : Keeps (Justified E s.storage o) s.storage ((perform E o).final s.storage) :=
      keeps_step h.booked henabled.2 ⟨henabled.1, rfl⟩
    obtain ⟨new, hnew, -, hlast⟩ := hkeeps.log
    obtain ⟨hflushed, -, htold⟩ := handOver_spec (reports new) h.flushed
    refine ⟨hkeeps.booked h.booked, hkeeps.callback.trans h.callback, ?_, ?_⟩
    · simp only [next, hnew, List.drop_left]
      exact hflushed
    · simp only [next, hnew, List.drop_left, hlast]
      rw [htold, h.told]
      cases hstatuses : (reports new).getLast? with
      | none =>
        rw [List.getLast?_eq_none_iff.mp hstatuses]
        simp
      | some last =>
        have hne : (reports new).isEmpty = false := by
          rw [List.isEmpty_eq_false_iff]
          rintro hnil
          rw [hnil] at hstatuses
          exact absurd hstatuses (by simp)
        simp [hne]
  | auth o =>
    obtain ⟨hflushed, htold⟩ := h.flushed.step E henabled
    refine ⟨h.booked, h.callback, hflushed, ?_⟩
    simp only [next]
    rw [htold, h.told]
    by_cases hcloses : o.closes = true
    · simp [hcloses]
    · simp [hcloses]

/-- A heartbeat hands over the current status unless it was the last. -/
theorem tick_cases {t : TimerId} (h : s.Known) (ht : s.storage.timers t = some .heartbeat) :
    ((perform E (.timer t)).final s.storage).currentStatus = s.storage.currentStatus ∧
      ((perform E (.timer t)).final s.storage).lastSentStorageStatus =
        some s.storage.currentStatus ∧
      ((reports (((perform E (.timer t)).final s.storage).log.drop s.storage.log.length)).isEmpty =
        true ↔ s.storage.lastSentStorageStatus = some s.storage.currentStatus) := by
  have hfinal : (perform E (.timer t)).final s.storage = heartbeat.final s.storage := by
    rw [perform, fire, final_get_bind, ht]
  rw [hfinal, final_heartbeat h.callback]
  by_cases hsame : s.storage.lastSentStorageStatus = some s.storage.currentStatus
  · rw [if_pos hsame, List.drop_length]
    exact ⟨rfl, hsame, fun _ => hsame, fun _ => rfl⟩
  · rw [if_neg hsame]
    refine ⟨rfl, rfl, fun hempty => ?_, fun h => absurd h hsame⟩
    simp [emit, reports] at hempty

theorem behind_tick_iff {t : TimerId} (hs : s.behind = false) (h : s.Known)
    (ht : s.storage.timers t = some .heartbeat) (h' : (s.next E (.storage (.timer t))).Known) :
    (s.next E (.storage (.timer t))).behind = false ↔ (s.auth.ws = some .isOpen →
      s.forgotten = true → s.storage.lastSentStorageStatus ≠ some s.storage.currentStatus) := by
  obtain ⟨hsame, hlast, hempty⟩ := tick_cases (E := E) h ht
  have hticks : s.ticks (.storage (.timer t)) = true := decide_eq_true ht
  have hws : (s.next E (.storage (.timer t))).auth.ws = s.auth.ws := (handOver_spec _ h.flushed).2.1
  have hbehind : (s.next E (.storage (.timer t))).behind = false ↔
      (s.auth.ws = some .isOpen → AuthLink.lastStatus (s.next E (.storage (.timer t))).auth.received =
        some s.storage.currentStatus) := by
    rw [← hsame, ← hws]
    change (s.behind || (s.ticks (.storage (.timer t)) && _ && _)) = false ↔ _
    rw [hs, hticks]
    simp only [Bool.false_or, Bool.true_and, Bool.and_eq_false_iff, decide_eq_false_iff_not, not_not,
      imp_iff_not_or]
    rfl
  rw [hbehind]
  refine imp_congr_right fun hopen => ?_
  rw [h'.flushed.received (hws.trans hopen), h'.told]
  have hlast' : (s.next E (.storage (.timer t))).storage.lastSentStorageStatus =
      some s.storage.currentStatus := hlast
  rw [hlast']
  change (if (s.forgotten && _) = true then none else _) = _ ↔ _
  split
  · next hlost =>
    rw [Bool.and_eq_true, hempty] at hlost
    exact ⟨fun h => absurd h (by simp), fun h => absurd hlost.2 (h hlost.1)⟩
  · next hkept =>
    rw [Bool.and_eq_true, hempty] at hkept
    exact ⟨fun _ hforgotten hlast => hkept ⟨hforgotten, hlast⟩, fun _ => rfl⟩

theorem behind_step_iff (hs : s.behind = false) (h : s.Known) (hstep : Step E s o s') :
    s'.behind = false ↔ s.CatchesUp o := by
  have h' := h.step hstep
  obtain ⟨henabled, rfl⟩ := hstep
  by_cases hticks : s.ticks o = true
  · rcases o with ⟨_ | _ | _ | _ | _ | _ | _ | t⟩ | o
    case storage.timer =>
      rw [behind_tick_iff hs h (of_decide_eq_true hticks) h', CatchesUp]
      exact ⟨fun hup _ => hup, fun hup => hup hticks⟩
    all_goals exact absurd hticks (by simp [ticks])
  · have hidle : (s.next E o).behind = false := by
      cases o with
      | auth o => exact hs
      | storage o => simp [next, hs, hticks]
    exact iff_of_true hidle fun ht => absurd ht hticks

theorem known_init : Known {} where
  booked := booked_init
  callback := rfl
  flushed := ⟨rfl, fun _ => rfl⟩
  told := rfl

/-- Every heartbeat on an open link leaves AUTH with the current status exactly when none of them is
    suppressed after the link was closed. -/
theorem auth_catches_up_iff :
    Lts.Path (Step E) (fun t _ => t.behind = false) {} s ∧ s.behind = false ↔
      Lts.Path (Step E) CatchesUp {} s :=
  Lts.Path.holds_iff (fun h _ hstep => h.step hstep)
    (fun h hs hstep => behind_step_iff hs h hstep) known_init rfl

/-! ### A new link -/

section

variable (E) in
/-- A run of given steps. -/
def run (s : StorageReports) (os : List Op) : Option StorageReports :=
  os.foldlM (fun s o => match o with
    | .storage o => if s.storage.Enabled o ∧ s.storage.FreshRids o then
        some (s.next E (.storage o)) else none
    | .auth o => if s.auth.Enabled o then some (s.next E (.auth o)) else none) s

theorem path_of_run {os : List Op} (h : run E s os = some s') :
    Lts.Path (Step E) (fun _ _ => True) s s' := by
  refine Lts.Path.of_foldlM (fun {t o t'} ht => ?_) h
  cases o with
  | storage o =>
    dsimp only at ht
    split at ht
    · next hc => exact ⟨trivial, hc, (Option.some.inj ht).symm⟩
    · exact absurd ht (by simp)
  | auth o =>
    dsimp only at ht
    split at ht
    · next hc => exact ⟨trivial, hc, (Option.some.inj ht).symm⟩
    · exact absurd ht (by simp)

end

/-- The storage server stays connected while the link to AUTH is replaced; then the heartbeat ticks.
    -/
def linkReplaced : List Op :=
  [.auth .opened, .storage (.connect storageEndpoint), .storage (.opened 0), .storage (.timer 0),
    .auth .closing, .auth .closed, .auth .retry, .auth .opened, .storage (.timer 1)]

/-- AUTH was not told on the new link that the storage server is connected. -/
theorem auth_behind_linkReplaced : ∃ s, Lts.Path (Step plainSettings) (fun _ _ => True) {} s ∧
    s.behind = true ∧ s.auth.ws = some .isOpen ∧ s.storage.isConnected = true ∧
    s.storage.currentStatus = .connected ∧ AuthLink.lastStatus s.auth.received = none := by
  have h : (run plainSettings {} linkReplaced).map (fun s => (s.behind, s.auth.ws,
      s.storage.isConnected, s.storage.currentStatus, AuthLink.lastStatus s.auth.received)) =
        some (true, some .isOpen, true, .connected, none) := by
    decide +kernel
  obtain ⟨s, hs, hf⟩ := Option.map_eq_some_iff.mp h
  simp only [Prod.mk.injEq] at hf
  exact ⟨s, path_of_run hs, hf⟩

end StorageReports

end DroneEngage
