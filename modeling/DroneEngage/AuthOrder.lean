import DroneEngage.AuthLink
import DroneEngage.Lts

/-! The order of the messages to AUTH.

    The journal beside the link holds what was passed to `fn_sendMessage` since the link last closed.
    A link announces itself as soon as it opens, before it sends what was queued; from then on
    everything goes out as it is passed. What is passed to a link that is closing is queued and goes
    down with it. -/

namespace DroneEngage
open Js

namespace AuthLink

/-- What becomes of a message that is passed to `fn_sendMessage`. -/
inductive Fate where
  /-- the INFO card of `fn_onOpen_Handler` -/
  | announced
  | taken
  /-- passed to a link that is closing, or not kept before the start -/
  | lost
  deriving DecidableEq

/-- What becomes of the next message, unless it is the card of an opening. -/
def fate (l : AuthLink) : Fate :=
  if l.ws = some .closing ∨ l.ws = none ∧ 1000 ≤ l.messageQueue.length then .lost else .taken

/-- The link has opened and its `close` event has not come yet. -/
def Opened (l : AuthLink) : Prop := l.ws = some .isOpen ∨ l.ws = some .closing

instance (l : AuthLink) : Decidable l.Opened := inferInstanceAs (Decidable (_ ∨ _))

def isResponse : AuthMessage → Bool
  | .response _ => true
  | .info | .storageStatus _ | .reply _ => false

/-- The INFO card. -/
def isCard : AuthMessage → Bool
  | .info => true
  | .response _ | .storageStatus _ | .reply _ => false

/-- What can happen to the link, and a call of `fn_sendMessage` by another module. -/
inductive LinkEvent where
  /-- `fn_startServer` -/
  | start
  | pass (m : AuthMessage)
  | link (o : Op)

/-- The link, and the calls of `fn_sendMessage` since it last closed, in order. -/
structure Journal where
  link : AuthLink := {}
  calls : List (Fate × AuthMessage) := []

namespace Journal

/-- The messages that were passed since the last close. -/
def passed (t : Journal) : List AuthMessage := t.calls.map Prod.snd

def passedAs (f : Fate) (t : Journal) : List AuthMessage := (t.calls.filter (·.1 = f)).map Prod.snd

/-- The messages on the connection; its answers to challenges do not go through `fn_sendMessage`. -/
def put (t : Journal) : List AuthMessage := t.link.received.filter fun m => !isResponse m

/-- A call of `fn_sendMessage`. -/
def call (m : AuthMessage) (t : Journal) : Journal where
  link := sendMessage m t.link
  calls := t.calls ++ [(t.link.fate, m)]

variable {PrivateKey PublicKey : Type} (E : StorageSettings PrivateKey PublicKey)

/-- `fn_onMessage_Handler` finds a challenge, and can answer it. -/
def answers (data : Bytes) (isText : Bool) : Bool :=
  match S2sAuth.parseEnvelope E.J data isText with
  | some env => env.field "s2s_auth" = some (.str S2sAuth.challenge) &&
      (S2sAuth.buildResponse E.J E.crypto E.config (env.field "nonce")).toOption.isSome
  | none => false

/-- The calls that an event makes. -/
def callsOf (l : AuthLink) : LinkEvent → List (Fate × AuthMessage)
  | .pass m => [(l.fate, m)]
  | .link .update => [(l.fate, .info)]
  | .link (.reply message) => [(l.fate, .reply message)]
  | .link .opened => [(.announced, .info)]
  | .link (.message data isText) => if answers E data isText then [(l.fate, .info)] else []
  | .start | .link .closing | .link .closed | .link .retry => []

def Enabled (t : Journal) : LinkEvent → Prop
  | .start => t.link.ws = none
  | .pass m => isResponse m = false
  | .link o => t.link.Enabled o

/-- An event; the journal starts again when the link has closed. -/
def advance (t : Journal) : LinkEvent → Journal
  | .start => { t with link := startWebSocketListener t.link }
  | .pass m => { link := sendMessage m t.link, calls := t.calls ++ callsOf E t.link (.pass m) }
  | .link o => {
      link := t.link.step E o
      calls := if o.closes then [] else t.calls ++ callsOf E t.link (.link o) }

def Step (t : Journal) (e : LinkEvent) (t' : Journal) : Prop := t.Enabled e ∧ t' = t.advance E e

/-- What was passed is on the connection, after the card of its opening; before it opens, it waits. -/
structure InOrder (t : Journal) : Prop where
  opened : t.link.Opened →
    t.passedAs .announced = [.info] ∧ t.put = .info :: t.passedAs .taken
  unopened : ¬ t.link.Opened → t.passedAs .announced = [] ∧ t.link.received = [] ∧
    t.link.messageQueue = t.passedAs .taken
  flushed : t.link.ws = some .isOpen → t.link.messageQueue = []
  retry : t.link.retryTimer = true → t.link.ws = some .closed
  plain : ∀ c ∈ t.calls, isResponse c.2 = false

end Journal

open Journal

variable {l : AuthLink} {t : Journal}

/-! ### One call -/

/-- A message is sent, queued on a link that will or will not open, or not kept. -/
theorem sendMessage_cases (m : AuthMessage) (l : AuthLink) :
    (l.ws = some .isOpen ∧ l.fate = .taken ∧
      sendMessage m l = { l with received := l.received ++ [m] }) ∨
    (l.ws = some .closing ∧ l.fate = .lost ∧
      sendMessage m l = { l with messageQueue := l.messageQueue ++ [m] }) ∨
    (¬ l.Opened ∧ l.fate = .taken ∧
      sendMessage m l = { l with messageQueue := l.messageQueue ++ [m] }) ∨
    (¬ l.Opened ∧ l.fate = .lost ∧ sendMessage m l = l) := by
  rw [fate, Opened, sendMessage]
  cases hws : l.ws with
  | none =>
    by_cases hfull : 1000 ≤ l.messageQueue.length
    · have hnot : ¬ l.messageQueue.length < 1000 := by omega
      exact Or.inr (Or.inr (Or.inr ⟨by simp, by simp [hfull], by simp [hnot]⟩))
    · have hfree : l.messageQueue.length < 1000 := by omega
      exact Or.inr (Or.inr (Or.inl ⟨by simp, by simp [hfull], by simp [hfree]⟩))
  | some w =>
    cases w with
    | isOpen => exact Or.inl ⟨rfl, by simp, by simp⟩
    | closing => exact Or.inr (Or.inl ⟨rfl, by simp, by simp⟩)
    | connecting => exact Or.inr (Or.inr (Or.inl ⟨by simp, by simp, by simp⟩))
    | closed => exact Or.inr (Or.inr (Or.inl ⟨by simp, by simp, by simp⟩))

theorem passedAs_append (f : Fate) (l : AuthLink) (cs ds : List (Fate × AuthMessage)) :
    passedAs f { link := l, calls := cs ++ ds } =
      passedAs f { link := l, calls := cs } ++ passedAs f { link := l, calls := ds } := by
  rw [passedAs, passedAs, passedAs, List.filter_append, List.map_append]

theorem passedAs_call (f : Fate) (m : AuthMessage) (t : Journal) :
    (t.call m).passedAs f = if t.link.fate = f then t.passedAs f ++ [m] else t.passedAs f := by
  rw [call, passedAs_append]
  split
  · next h => simp [passedAs, h]
  · next h => simp [passedAs, h]

/-- No call is the card of an opening. -/
theorem announced_call (m : AuthMessage) (t : Journal) :
    (t.call m).passedAs .announced = t.passedAs .announced := by
  rw [passedAs_call, if_neg]
  rw [fate]
  split
  · decide
  · decide

theorem put_append (l : AuthLink) (cs : List (Fate × AuthMessage)) {m : AuthMessage}
    (hm : isResponse m = false) :
    put { link := { l with received := l.received ++ [m] }, calls := cs } =
      put { link := l, calls := cs } ++ [m] := by
  rw [put, put, List.filter_append, List.filter_cons_of_pos (by simp [hm]), List.filter_nil]

/-- A call does not touch the timer. -/
theorem retryTimer_sendMessage (m : AuthMessage) (l : AuthLink) :
    (sendMessage m l).retryTimer = l.retryTimer := by
  rcases sendMessage_cases m l with ⟨-, -, hsend⟩ | ⟨-, -, hsend⟩ | ⟨-, -, hsend⟩ | ⟨-, -, hsend⟩
  all_goals rw [hsend]

theorem Journal.InOrder.call (h : t.InOrder) {m : AuthMessage} (hm : isResponse m = false) :
    (t.call m).InOrder := by
  have hws : (t.call m).link.ws = t.link.ws := ws_sendMessage m t.link
  have hannounced := announced_call m t
  have htaken := passedAs_call .taken m t
  have hplain : ∀ c ∈ (t.call m).calls, isResponse c.2 = false := fun c hc => by
    rcases List.mem_append.mp hc with hc | hc
    · exact h.plain c hc
    · rw [List.mem_singleton.mp hc]; exact hm
  have hretry : (t.call m).link.retryTimer = true → (t.call m).link.ws = some .closed := by
    rw [hws, Journal.call, retryTimer_sendMessage]
    exact h.retry
  rcases sendMessage_cases m t.link with ⟨hopen, hfate, hsend⟩ | ⟨hclosing, hfate, hsend⟩ |
    ⟨hnot, hfate, hsend⟩ | ⟨hnot, hfate, hsend⟩
  · -- at once
    have hopened : t.link.Opened := Or.inl hopen
    rw [if_pos hfate] at htaken
    refine ⟨fun _ => ?_, fun ho => ?_, fun _ => ?_, hretry, hplain⟩
    · rw [hannounced, htaken, Journal.call, hsend, put_append t.link _ hm]
      exact ⟨(h.opened hopened).1, congrArg (· ++ [m]) (h.opened hopened).2⟩
    · exact absurd (Or.inl (hws.trans hopen)) ho
    · rw [Journal.call, hsend]; exact h.flushed hopen
  · -- too late
    have hopened : t.link.Opened := Or.inr hclosing
    rw [if_neg (by rw [hfate]; decide)] at htaken
    refine ⟨fun _ => ?_, fun ho => ?_, fun ho => ?_, hretry, hplain⟩
    · rw [hannounced, htaken, Journal.call, hsend]
      exact h.opened hopened
    · exact absurd (Or.inr (hws.trans hclosing)) ho
    · exact absurd (ho.symm.trans (hws.trans hclosing)) (by decide)
  · -- queued
    obtain ⟨ha, hr, hq⟩ := h.unopened hnot
    rw [if_pos hfate] at htaken
    refine ⟨fun ho => ?_, fun _ => ?_, fun ho => ?_, hretry, hplain⟩
    · rw [Opened, hws] at ho; exact absurd ho hnot
    · rw [hannounced, htaken, Journal.call, hsend]
      exact ⟨ha, hr, congrArg (· ++ [m]) hq⟩
    · rw [hws] at ho; exact absurd (Or.inl ho) hnot
  · -- not kept
    obtain ⟨ha, hr, hq⟩ := h.unopened hnot
    rw [if_neg (by rw [hfate]; decide)] at htaken
    refine ⟨fun ho => ?_, fun _ => ?_, fun ho => ?_, hretry, hplain⟩
    · rw [Opened, hws] at ho; exact absurd ho hnot
    · rw [hannounced, htaken, Journal.call, hsend]
      exact ⟨ha, hr, hq⟩
    · rw [hws] at ho; exact absurd (Or.inl ho) hnot

/-! ### The loop of `fn_flushQueue` -/

theorem flush_open : ∀ (ms : List AuthMessage) (l : AuthLink), l.ws = some .isOpen →
    l.messageQueue = ms →
      flush ms l = { l with received := l.received ++ ms, messageQueue := [] }
  | [], l, _, hq => by
    rw [flush, List.append_nil, ← hq]
  | m :: rest, l, hopen, _ => by
    have ih := flush_open rest { l with received := l.received ++ [m], messageQueue := rest } hopen
      rfl
    rw [flush, if_pos hopen, ih, List.append_assoc, List.singleton_append]

/-- There is nothing to send, or nowhere to send it. -/
theorem flushQueue_idle (h : l.ws = some .isOpen → l.messageQueue = []) : flushQueue l = l := by
  rw [flushQueue]
  cases hq : l.messageQueue with
  | nil => rfl
  | cons m rest =>
    rw [flush, if_neg fun hopen => absurd (hq.symm.trans (h hopen)) (List.cons_ne_nil m rest)]

/-! ### Every event -/

/-- A link that has not opened, and to which nothing was passed. -/
theorem inOrder_nil (hnot : ¬ l.Opened) (hr : l.received = []) (hq : l.messageQueue = [])
    (hretry : l.retryTimer = true → l.ws = some .closed) : InOrder { link := l, calls := [] } where
  opened := fun h => absurd h hnot
  unopened := fun _ => ⟨rfl, hr, hq⟩
  flushed := fun _ => hq
  retry := hretry
  plain := fun _ hc => absurd hc List.not_mem_nil

theorem Journal.InOrder.taken_plain (h : t.InOrder) {m : AuthMessage} {f : Fate}
    (hm : m ∈ t.passedAs f) : isResponse m = false := by
  obtain ⟨c, hc, rfl⟩ := List.mem_map.mp hm
  exact h.plain c (List.mem_of_mem_filter hc)

/-- What waited goes out behind the card. -/
theorem Journal.InOrder.onOpen (h : t.InOrder) (hconnecting : t.link.ws = some .connecting) :
    InOrder { link := AuthLink.onOpen { t.link with ws := some .isOpen },
              calls := t.calls ++ [(.announced, .info)] } := by
  have hnot : ¬ t.link.Opened := by
    rw [Opened, hconnecting]
    decide
  obtain ⟨ha, hr, hq⟩ := h.unopened hnot
  have hlink : AuthLink.onOpen { t.link with ws := some .isOpen } =
      { t.link with
        ws := some .isOpen
        received := .info :: t.passedAs .taken
        messageQueue := [] } := by
    rw [AuthLink.onOpen, sendMessage, if_pos rfl, flushQueue, flush_open _ _ rfl rfl]
    dsimp only
    rw [hr, hq]
    rfl
  have hpassed : ∀ f l, passedAs f { link := l, calls := t.calls ++ [(.announced, .info)] } =
      if f = .announced then t.passedAs f ++ [.info] else t.passedAs f := by
    intro f l
    rw [passedAs_append]
    cases f <;> simp [passedAs]
  rw [hlink]
  refine ⟨fun _ => ⟨?_, ?_⟩, fun ho => absurd (Or.inl rfl) ho, fun _ => rfl, fun hretry => ?_,
    fun c hc => ?_⟩
  · rw [hpassed, ha]
    rfl
  · rw [hpassed, put, List.filter_cons_of_pos (by rfl), if_neg (by decide),
      List.filter_eq_self.mpr fun m hm => by simp [h.taken_plain hm]]
  · exact absurd (hconnecting.symm.trans (h.retry hretry)) (by decide)
  · rcases List.mem_append.mp hc with hc | hc
    · exact h.plain c hc
    · rw [List.mem_singleton.mp hc]
      rfl

/-- The answer to a challenge is no message of the journal. -/
theorem Journal.InOrder.respond (h : t.InOrder) (response : Bytes) :
    InOrder { t with link := send (.response response) t.link } := by
  rw [send]
  split
  · next hopen =>
    have hput : put { t with link := { t.link with
        received := t.link.received ++ [.response response] } } = t.put := by
      rw [put, put, List.filter_append, List.filter_cons_of_neg (by simp [isResponse]),
        List.filter_nil, List.append_nil]
    refine ⟨fun _ => ?_, fun ho => absurd (Or.inl hopen) ho, h.flushed, h.retry, h.plain⟩
    rw [hput]
    exact h.opened (Or.inl hopen)
  · exact h

section

variable {PrivateKey PublicKey : Type} (E : StorageSettings PrivateKey PublicKey)

/-- A challenge that can be answered is answered, and the card is passed again. -/
theorem onMessage_answered {data : Bytes} {isText : Bool} (h : answers E data isText = true)
    (l : AuthLink) : ∃ response,
      onMessage E data isText l = flushQueue (sendMessage .info (send (.response response) l)) := by
  rw [answers] at h
  rw [onMessage]
  cases henv : S2sAuth.parseEnvelope E.J data isText with
  | none => rw [henv] at h; exact absurd h Bool.false_ne_true
  | some env =>
    rw [henv, Bool.and_eq_true, decide_eq_true_eq] at h
    dsimp only
    rw [if_pos h.1]
    cases hresponse : S2sAuth.buildResponse E.J E.crypto E.config (env.field "nonce") with
    | error e => rw [hresponse] at h; exact absurd h.2 Bool.false_ne_true
    | ok response => exact ⟨response, rfl⟩

/-- Another message at most ends the link. -/
theorem onMessage_unanswered {data : Bytes} {isText : Bool} (h : answers E data isText = false)
    (l : AuthLink) : onMessage E data isText l = l ∨
      l.ws = some .isOpen ∧ onMessage E data isText l = { l with ws := some .closing } := by
  rw [answers] at h
  rw [onMessage]
  cases henv : S2sAuth.parseEnvelope E.J data isText with
  | none => exact Or.inl rfl
  | some env =>
    rw [henv] at h
    dsimp only at h ⊢
    split
    · next hchallenge =>
      cases hresponse : S2sAuth.buildResponse E.J E.crypto E.config (env.field "nonce") with
      | error e =>
        dsimp only
        split
        · next hopen => exact Or.inr ⟨hopen, rfl⟩
        · exact Or.inl rfl
      | ok response =>
        rw [hresponse, decide_eq_true hchallenge] at h
        exact absurd h (by simp [Except.toOption])
    · exact Or.inl rfl

/-- A link that begins to close keeps what it was sent. -/
theorem Journal.InOrder.closing (h : t.InOrder) (hopen : t.link.ws = some .isOpen) :
    InOrder { t with link := { t.link with ws := some .closing } } where
  opened := fun _ => h.opened (Or.inl hopen)
  unopened := fun ho => absurd (Or.inr rfl) ho
  flushed := fun ho => absurd (Option.some.inj ho) (by decide)
  retry := fun hr => absurd (hopen.symm.trans (h.retry hr)) (by decide)
  plain := h.plain

/-- A link that has not opened is replaced, or started. -/
theorem Journal.InOrder.startWebSocketListener (h : t.InOrder) (hnot : ¬ t.link.Opened) :
    InOrder { t with link := AuthLink.startWebSocketListener { t.link with retryTimer := false } }
    where
  opened := fun ho => by
    rcases ho with ho | ho
    · exact absurd (Option.some.inj ho) (by decide)
    · exact absurd (Option.some.inj ho) (by decide)
  unopened := fun _ => h.unopened hnot
  flushed := fun ho => absurd (Option.some.inj ho) (by decide)
  retry := fun hr => Bool.noConfusion hr
  plain := h.plain

theorem fate_send (m : AuthMessage) (l : AuthLink) : (send m l).fate = l.fate := by
  rw [send]
  split
  · rfl
  · rfl

theorem Journal.InOrder.message (h : t.InOrder) (data : Bytes) (isText : Bool) :
    (t.advance E (.link (.message data isText))).InOrder := by
  rw [advance, callsOf, AuthLink.step]
  cases ha : answers E data isText with
  | true =>
    obtain ⟨response, hmessage⟩ := onMessage_answered E ha t.link
    have hcall : InOrder (Journal.call .info { t with link := send (.response response) t.link }) :=
      (h.respond response).call rfl
    have hidle : flushQueue (sendMessage .info (send (.response response) t.link)) =
        sendMessage .info (send (.response response) t.link) := flushQueue_idle hcall.flushed
    rw [hmessage, hidle, ← fate_send (.response response)]
    exact hcall
  | false =>
    rw [if_neg Bool.false_ne_true, List.append_nil]
    rcases onMessage_unanswered E ha t.link with hsame | ⟨hopen, hclosing⟩
    · rw [hsame]
      exact h
    · rw [hclosing]
      exact h.closing hopen

theorem Journal.InOrder.step {e : LinkEvent} {t' : Journal} (h : t.InOrder) (hstep : Step E t e t') :
    t'.InOrder := by
  obtain ⟨henabled, rfl⟩ := hstep
  cases e with
  | start =>
    have hnone : t.link.ws = none := henabled
    have hnot : ¬ t.link.Opened := by rw [Opened, hnone]; decide
    have hretry : t.link.retryTimer = false := by
      cases hr : t.link.retryTimer with
      | false => rfl
      | true => exact absurd (hnone.symm.trans (h.retry hr)) (by decide)
    have hstart := h.startWebSocketListener hnot
    rwa [← hretry] at hstart
  | pass m => exact h.call henabled
  | link o =>
    cases o with
    | opened => exact h.onOpen henabled
    | message data isText => exact h.message E data isText
    | closing =>
      have hclosing := h.closing henabled
      rwa [advance, callsOf, List.append_nil]
    | closed =>
      refine inOrder_nil (fun ho => ?_) rfl rfl fun _ => rfl
      rcases ho with ho | ho
      · exact absurd (Option.some.inj ho) (by decide)
      · exact absurd (Option.some.inj ho) (by decide)
    | retry =>
      have hclosed : t.link.ws = some .closed := h.retry henabled
      have hretry := h.startWebSocketListener (by rw [Opened, hclosed]; decide)
      rwa [advance, callsOf, List.append_nil]
    | update => exact h.call rfl
    | reply message => exact h.call rfl

theorem inOrder_of_path (h : Lts.Path (Step E) (fun _ _ => True) {} t) : t.InOrder :=
  h.invariant (fun hi _ hstep => hi.step E hstep)
    (inOrder_nil (by decide) rfl rfl fun hr => Bool.noConfusion hr)

/-- In every run: on a link that has opened, the messages are the INFO card of its opening and then,
    in the order of the calls, the messages passed since the last close, but for those passed to the
    link while it was closing and those not kept before the start. -/
theorem messages_in_order {t : Journal} (h : Lts.Path (Step E) (fun _ _ => True) {} t) :
    (t.link.Opened → t.passedAs .announced = [.info] ∧ t.put = .info :: t.passedAs .taken) ∧
      (¬ t.link.Opened → t.put = []) := by
  have hinv := inOrder_of_path E h
  refine ⟨hinv.opened, fun hnot => ?_⟩
  rw [put, (hinv.unopened hnot).2.1]
  rfl

instance (t : Journal) : ∀ e : LinkEvent, Decidable (t.Enabled e)
  | .start => inferInstanceAs (Decidable (_ = _))
  | .pass _ => inferInstanceAs (Decidable (_ = _))
  | .link o => inferInstanceAs (Decidable (t.link.Enabled o))

/-- A computed run. -/
def run (t : Journal) (es : List LinkEvent) : Option Journal :=
  es.foldlM (fun t e => if t.Enabled e then some (t.advance E e) else none) t

theorem path_of_run {t' : Journal} {es : List LinkEvent} (h : run E t es = some t') :
    Lts.Path (Step E) (fun _ _ => True) t t' :=
  Lts.Path.of_guarded (fun he => ⟨trivial, he, rfl⟩) h

end

/-- AUTH gets the INFO card, and then what was passed while the link was connecting. -/
theorem messages_in_order_waiting : ∃ t : Journal, t.link.Opened ∧ t.passed.length = 2 ∧
    t.put = .info :: t.passedAs .taken ∧ (t.passedAs .taken).length = 1 := by
  have h : (run DbProxyClient.plainSettings {} [.start, .pass (.reply .null), .link .opened]).map (fun t =>
      (t.link.ws, t.passed.length, (t.passedAs .taken).length)) = some (some .isOpen, 2, 1) := by
    decide +kernel
  obtain ⟨t, ht, hf⟩ := Option.map_eq_some_iff.mp h
  simp only [Prod.mk.injEq] at hf
  have hopened : t.link.Opened := Or.inl hf.1
  exact ⟨t, hopened, hf.2.1,
    ((messages_in_order DbProxyClient.plainSettings (path_of_run _ ht)).1 hopened).2, hf.2.2⟩

/-- Messages that are passed before the start: the queue keeps the first thousand. -/
theorem path_passes {PrivateKey PublicKey : Type} (E : StorageSettings PrivateKey PublicKey)
    {m : AuthMessage} (hm : isResponse m = false) : ∀ n : ℕ, ∃ t,
      Lts.Path (Step E) (fun _ _ => True) {} t ∧ t.link.ws = none ∧ t.passed.length = n ∧
        t.link.messageQueue.length = min n 1000
  | 0 => ⟨{}, .refl, rfl, rfl, rfl⟩
  | n + 1 => by
    obtain ⟨t, hpath, hnone, hpassed, hqueue⟩ := path_passes E hm n
    refine ⟨t.call m, .tail hpath trivial (o := .pass m) ⟨hm, rfl⟩, ?_, ?_, ?_⟩
    · exact (ws_sendMessage m t.link).trans hnone
    · rw [passed, Journal.call, List.map_append, List.length_append]
      exact congrArg (· + 1) hpassed
    · change (sendMessage m t.link).messageQueue.length = min (n + 1) 1000
      rw [sendMessage, hnone, if_neg (by simp)]
      split
      · next h =>
        have hlt : t.link.messageQueue.length < 1000 := h.resolve_left (by simp)
        rw [List.length_append, List.length_singleton]
        omega
      · next h =>
        have hfull : ¬ t.link.messageQueue.length < 1000 := fun hlt => h (Or.inr hlt)
        omega

/-- Of 1001 messages passed before the start, one is never put on the link. -/
theorem path_overfull {PrivateKey PublicKey : Type} (E : StorageSettings PrivateKey PublicKey) :
    ∃ t, Lts.Path (Step E) (fun _ _ => True) {} t ∧ t.link.ws = some .isOpen ∧
      t.passed.length = 1002 ∧ t.put.length = 1001 := by
  obtain ⟨t, ht, hnone, hpassed, hqueue⟩ :=
    path_passes E (show isResponse (.reply .null) = false from rfl) 1001
  have hnot : ¬ t.link.Opened := by
    rw [Opened, hnone]
    decide
  have htaken : (t.passedAs .taken).length = 1000 := by
    rw [← ((inOrder_of_path E ht).unopened hnot).2.2, hqueue]
    rfl
  obtain ⟨u, hu⟩ : ∃ u, u = (t.advance E .start).advance E (.link .opened) := ⟨_, rfl⟩
  have hpath : Lts.Path (Step E) (fun _ _ => True) {} u :=
    .tail (.tail ht trivial (o := .start) ⟨hnone, rfl⟩) trivial (o := .link .opened) ⟨rfl, hu⟩
  have hcalls : u.calls = t.calls ++ [(.announced, .info)] := by
    rw [hu]
    rfl
  have hopen : u.link.ws = some .isOpen := by
    rw [hu]
    exact (flushQueue_update rfl).2.1
  refine ⟨u, hpath, hopen, ?_, ?_⟩
  · rw [passed, hcalls, List.map_append, List.length_append]
    exact congrArg (· + 1) hpassed
  · rw [((inOrder_of_path E hpath).opened (Or.inl hopen)).2, List.length_cons, passedAs, hcalls,
      List.filter_append, List.map_append, List.length_append]
    exact congrArg (· + 1) htaken

/-- The card overtakes a message that waits; a message that is passed to a closing link is not sent;
    of 1001 messages passed before the start one is not kept. -/
theorem messages_out_of_order :
    (∃ t, Lts.Path (Step DbProxyClient.plainSettings) (fun _ _ => True) {} t ∧
      t.link.ws = some .isOpen ∧ t.passed.map isCard = [false, true] ∧
      t.put.map isCard = [true, false]) ∧
    (∃ t, Lts.Path (Step DbProxyClient.plainSettings) (fun _ _ => True) {} t ∧
      t.link.ws = some .closing ∧ t.passed.length = 2 ∧ t.put.length = 1) ∧
    ∃ t, Lts.Path (Step DbProxyClient.plainSettings) (fun _ _ => True) {} t ∧
      t.link.ws = some .isOpen ∧ t.passed.length = 1002 ∧ t.put.length = 1001 := by
  have hwaiting : (run DbProxyClient.plainSettings {}
      [.start, .pass (.reply .null), .link .opened]).map (fun t =>
        (t.link.ws, t.passed.map isCard, t.put.map isCard)) =
      some (some .isOpen, [false, true], [true, false]) := by
    decide +kernel
  have hclosing : (run DbProxyClient.plainSettings {}
      [.start, .link .opened, .link .closing, .pass (.reply .null)]).map (fun t =>
        (t.link.ws, t.passed.length, t.put.length)) = some (some .closing, 2, 1) := by
    decide +kernel
  obtain ⟨t, ht, hf⟩ := Option.map_eq_some_iff.mp hwaiting
  obtain ⟨u, hu, hg⟩ := Option.map_eq_some_iff.mp hclosing
  simp only [Prod.mk.injEq] at hf hg
  exact ⟨⟨t, path_of_run _ ht, hf⟩, ⟨u, path_of_run _ hu, hg⟩, path_overfull _⟩

end AuthLink

end DroneEngage
