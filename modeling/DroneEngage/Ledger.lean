import Mathlib.Logic.Function.Basic
import Mathlib.Tactic.Common

/-! Requests that are answered when two outcomes are in.

    Requests are numbered in the order in which they are asked. A wait collects two outcomes and
    answers the request it carries, if any, when both have counted. Waits are built, closed and
    settled under names of their own; a request may also be answered at once, without a wait. The
    ledger keeps the open waits and counts the answers.

    In a fair ledger every request is answered at most once (`Fair`). It is served when it has its
    answer or is carried by a wait that can still give it (`Served`). -/

/-- One of the two outcomes of a wait. -/
inductive Outcome where
  | pending
  | counted
  | lost
  deriving DecidableEq

/-- A wait for two outcomes, with the request it carries. -/
structure Wait where
  one : Outcome
  two : Outcome
  request : Option ℕ

namespace Wait

/-- Both outcomes have counted. -/
def Done (w : Wait) : Prop := w.one = .counted ∧ w.two = .counted

/-- Both outcomes have counted or may still count. -/
def Hopeful (w : Wait) : Prop := w.one ≠ .lost ∧ w.two ≠ .lost

instance (w : Wait) : Decidable w.Done := inferInstanceAs (Decidable (_ ∧ _))

end Wait

/-- The open waits, the number of answers to each request and the number of requests. -/
@[ext]
structure Ledger (ι : Type) where
  waits : ι → Option Wait
  answers : ℕ → ℕ
  asked : ℕ

namespace Ledger

variable {ι : Type} [DecidableEq ι] {L : Ledger ι} {i : ι} {n r : ℕ}

/-! ### Operations -/

/-- A new request. -/
def ask (L : Ledger ι) : Ledger ι := { L with asked := L.asked + 1 }

/-- A request is answered. -/
def answer (r : ℕ) (L : Ledger ι) : Ledger ι :=
  { L with answers := Function.update L.answers r (L.answers r + 1) }

/-- A wait is closed. -/
def close (i : ι) (L : Ledger ι) : Ledger ι := { L with waits := Function.update L.waits i none }

/-- A new wait. -/
def build (i : ι) (request : Option ℕ) (L : Ledger ι) : Ledger ι :=
  { L with waits := Function.update L.waits i (some ⟨.pending, .pending, request⟩) }

/-- A wait is settled as given; it answers its request when it is done. -/
def settle (i : ι) (w : Wait) (L : Ledger ι) : Ledger ι :=
  match w.request with
  | some r => if w.Done then answer r { L with waits := Function.update L.waits i (some w) }
    else { L with waits := Function.update L.waits i (some w) }
  | none => { L with waits := Function.update L.waits i (some w) }

omit [DecidableEq ι] in
theorem answers_answer (L : Ledger ι) (r q : ℕ) :
    (L.answer r).answers q = if q = r then L.answers r + 1 else L.answers q :=
  Function.update_apply ..

theorem waits_close (L : Ledger ι) (i j : ι) :
    (L.close i).waits j = if j = i then none else L.waits j := Function.update_apply ..

theorem waits_build (L : Ledger ι) (i j : ι) (request : Option ℕ) : (L.build i request).waits j =
    if j = i then some ⟨.pending, .pending, request⟩ else L.waits j := Function.update_apply ..

theorem waits_settle (L : Ledger ι) (i j : ι) (w : Wait) :
    (L.settle i w).waits j = if j = i then some w else L.waits j := by
  rw [← Function.update_apply, settle]
  cases w.request with
  | none => rfl
  | some r => dsimp only; split <;> rfl

theorem asked_settle (L : Ledger ι) (i : ι) (w : Wait) : (L.settle i w).asked = L.asked := by
  rw [settle]
  cases w.request with
  | none => rfl
  | some r => dsimp only; split <;> rfl

theorem answers_settle (L : Ledger ι) (i : ι) (w : Wait) (q : ℕ) : (L.settle i w).answers q =
    if w.request = some q ∧ w.Done then L.answers q + 1 else L.answers q := by
  rw [settle]
  cases hr : w.request with
  | none => simp
  | some r =>
    dsimp only
    by_cases hd : w.Done
    · rw [if_pos hd, answers_answer]
      by_cases hq : q = r
      · subst hq; simp [hd]
      · simp [hq, Ne.symm hq]
    · simp [hd]

/-! ### Fairness -/

/-- No request has more than one answer, and those carried by a wait have theirs exactly when the
    wait is done. -/
structure Fair (L : Ledger ι) : Prop where
  carried : ∀ {i w r}, L.waits i = some w → w.request = some r →
    r < L.asked ∧ L.answers r = if w.Done then 1 else 0
  once : ∀ {i j v w r}, L.waits i = some v → L.waits j = some w → v.request = some r →
    w.request = some r → i = j
  atMost : ∀ r, L.answers r ≤ 1
  fresh : ∀ r, L.asked ≤ r → L.answers r = 0

/-- A request that is neither answered nor carried. -/
structure Unused (L : Ledger ι) (r : ℕ) : Prop where
  lt : r < L.asked
  unanswered : L.answers r = 0
  uncarried : ∀ i w, L.waits i = some w → w.request ≠ some r

omit [DecidableEq ι] in
theorem Fair.ask (h : L.Fair) : L.ask.Fair where
  carried := fun hi hr => ⟨Nat.lt_succ_of_lt (h.carried hi hr).1, (h.carried hi hr).2⟩
  once := h.once
  atMost := h.atMost
  fresh := fun r hr => h.fresh r (Nat.le_of_succ_le hr)

omit [DecidableEq ι] in
theorem Fair.unused_ask (h : L.Fair) : L.ask.Unused L.asked where
  lt := Nat.lt_succ_self _
  unanswered := h.fresh _ (Nat.le_refl _)
  uncarried := fun _ _ hi hr => Nat.lt_irrefl _ (h.carried hi hr).1

omit [DecidableEq ι] in
theorem Fair.answer (h : L.Fair) (hr : L.Unused r) : (L.answer r).Fair where
  carried := fun {i w q} hi hq => by
    obtain ⟨hlt, hans⟩ := h.carried hi hq
    have hne : q ≠ r := fun heq => hr.uncarried i w hi (heq ▸ hq)
    exact ⟨hlt, by rw [answers_answer, if_neg hne, hans]⟩
  once := h.once
  atMost := fun q => by
    rw [answers_answer]
    split
    · have hun := hr.unanswered
      omega
    · exact h.atMost q
  fresh := fun q hq => by
    have hne : q ≠ r := by
      rintro rfl
      exact absurd hr.lt (Nat.not_lt.mpr hq)
    rw [answers_answer, if_neg hne]
    exact h.fresh q hq

/-- A wait that is open after another one was closed was open before. -/
theorem of_waits_close {j : ι} {w : Wait} (h : (L.close i).waits j = some w) :
    L.waits j = some w := by
  rw [waits_close] at h
  split at h
  · exact absurd h (by simp)
  · exact h

theorem Fair.close (h : L.Fair) (i : ι) : (L.close i).Fair where
  carried := fun hj hr => h.carried (of_waits_close hj) hr
  once := fun hj hk hr hr' => h.once (of_waits_close hj) (of_waits_close hk) hr hr'
  atMost := h.atMost
  fresh := h.fresh

theorem Unused.close (h : L.Unused r) (i : ι) : (L.close i).Unused r where
  lt := h.lt
  unanswered := h.unanswered
  uncarried := fun j w hj => h.uncarried j w (of_waits_close hj)

/-- A wait that is open after one was built is the new one or was open before. -/
theorem of_waits_build {j : ι} {w : Wait} {request : Option ℕ}
    (h : (L.build i request).waits j = some w) :
    (j = i ∧ w = ⟨.pending, .pending, request⟩) ∨ L.waits j = some w := by
  rw [waits_build] at h
  split at h
  · next heq => exact Or.inl ⟨heq, (Option.some.inj h).symm⟩
  · exact Or.inr h

theorem Fair.build (h : L.Fair) (i : ι) {request : Option ℕ}
    (hr : ∀ r, request = some r → L.Unused r) : (L.build i request).Fair where
  carried := fun {j w r} hj hq => by
    rcases of_waits_build hj with ⟨-, rfl⟩ | hj
    · exact ⟨(hr r hq).lt, (hr r hq).unanswered⟩
    · exact h.carried hj hq
  once := fun {j k v w r} hj hk hv hw => by
    rcases of_waits_build hj with ⟨rfl, rfl⟩ | hj'
    · rcases of_waits_build hk with ⟨rfl, -⟩ | hk
      · rfl
      · exact absurd hw ((hr r hv).uncarried k w hk)
    · rcases of_waits_build hk with ⟨rfl, rfl⟩ | hk
      · exact absurd hv ((hr r hw).uncarried j v hj')
      · exact h.once hj' hk hv hw
  atMost := h.atMost
  fresh := h.fresh

theorem Fair.settle (h : L.Fair) {v w : Wait} (hi : L.waits i = some v) (hv : ¬ v.Done)
    (hr : w.request = v.request) : (L.settle i w).Fair where
  carried := fun {j u r} hj hq => by
    rw [waits_settle] at hj
    rw [asked_settle, answers_settle]
    split at hj
    · obtain rfl := Option.some.inj hj
      obtain ⟨hlt, hans⟩ := h.carried hi (hr ▸ hq)
      rw [if_neg hv] at hans
      refine ⟨hlt, ?_⟩
      by_cases hd : w.Done
      · rw [if_pos ⟨hq, hd⟩, if_pos hd, hans]
      · rw [if_neg (fun hc => hd hc.2), if_neg hd, hans]
    · next hne =>
      obtain ⟨hlt, hans⟩ := h.carried hj hq
      have hother : w.request ≠ some r := fun hw => hne (h.once hj hi hq (hr ▸ hw))
      exact ⟨hlt, by rw [if_neg (fun hc => hother hc.1), hans]⟩
  once := fun {j k u x r} hj hk hu hx => by
    have hback : ∀ {m y}, (L.settle i w).waits m = some y → ∃ z, L.waits m = some z ∧
        z.request = y.request := by
      intro m y hm
      rw [waits_settle] at hm
      split at hm
      · next heq => exact ⟨v, heq ▸ hi, by rw [← hr, Option.some.inj hm]⟩
      · exact ⟨y, hm, rfl⟩
    obtain ⟨a, ha, har⟩ := hback hj
    obtain ⟨b, hb, hbr⟩ := hback hk
    exact h.once ha hb (har.trans hu) (hbr.trans hx)
  atMost := fun q => by
    rw [answers_settle]
    split
    · next hq =>
      have hun := (h.carried hi (hr ▸ hq.1)).2
      rw [if_neg hv] at hun
      omega
    · exact h.atMost q
  fresh := fun q hq => by
    rw [asked_settle] at hq
    rw [answers_settle, if_neg, h.fresh q hq]
    rintro ⟨hw, -⟩
    exact absurd (h.carried hi (hr ▸ hw)).1 (Nat.not_lt.mpr hq)

/-! ### Service -/

/-- Every request below `n` has its answer, or can still get it from the wait that carries it. -/
def Served (L : Ledger ι) (n : ℕ) : Prop :=
  ∀ r < n, L.answers r = 1 ∨ ∃ i w, L.waits i = some w ∧ w.request = some r ∧ w.Hopeful

/-- A wait whose request still has to be answered. -/
def Awaited (L : Ledger ι) (i : ι) : Prop :=
  ∃ w r, L.waits i = some w ∧ w.request = some r ∧ ¬ w.Done

/-- Nothing is pending. -/
def Quiet (L : Ledger ι) : Prop := ∀ i w, L.waits i = some w → w.one ≠ .pending ∧ w.two ≠ .pending

omit [DecidableEq ι] in
/-- When nothing is pending, the requests that are served have their answers. -/
theorem Fair.answered (h : L.Fair) (hq : L.Quiet) (hs : L.Served n) : ∀ r < n, L.answers r = 1 := by
  intro r hr
  rcases hs r hr with hans | ⟨i, w, hi, hw, hone, htwo⟩
  · exact hans
  · obtain ⟨hone', htwo'⟩ := hq i w hi
    have hd : w.Done := ⟨by cases ho : w.one <;> simp_all, by cases ht : w.two <;> simp_all⟩
    rw [(h.carried hi hw).2, if_pos hd]

/-- Closing a wait that nobody awaits loses nothing. -/
theorem Fair.served_close (h : L.Fair) (hi : ¬ L.Awaited i) (hs : L.Served n) :
    (L.close i).Served n := by
  intro r hr
  rcases hs r hr with hans | ⟨j, w, hj, hw, hope⟩
  · exact Or.inl hans
  · by_cases hji : j = i
    · subst hji
      left
      by_cases hd : w.Done
      · exact (h.carried hj hw).2.trans (if_pos hd)
      · exact absurd ⟨w, r, hj, hw, hd⟩ hi
    · exact Or.inr ⟨j, w, by rw [waits_close, if_neg hji]; exact hj, hw, hope⟩

theorem served_build (hi : L.waits i = none) (request : Option ℕ) (hs : L.Served n) :
    (L.build i request).Served n := by
  intro r hr
  rcases hs r hr with hans | ⟨j, w, hj, hw, hope⟩
  · exact Or.inl hans
  · have hji : j ≠ i := by
      rintro rfl
      rw [hi] at hj
      exact absurd hj (by simp)
    exact Or.inr ⟨j, w, by rw [waits_build, if_neg hji]; exact hj, hw, hope⟩

/-- The request of a new wait is served. -/
theorem served_build_new (hs : L.Served n) (hi : L.waits i = none) :
    (L.build i (some n)).Served (n + 1) := by
  intro r hr
  rcases Nat.lt_succ_iff_lt_or_eq.mp hr with hr | rfl
  · exact served_build hi (some n) hs r hr
  · exact Or.inr ⟨i, ⟨.pending, .pending, some r⟩, by rw [waits_build, if_pos rfl], rfl,
      by simp [Wait.Hopeful]⟩

omit [DecidableEq ι] in
/-- A request that is answered at once is served. -/
theorem served_answer_new (hs : L.Served n) (hn : L.answers n = 0) :
    (L.answer n).Served (n + 1) := by
  intro r hr
  rcases Nat.lt_succ_iff_lt_or_eq.mp hr with hr | rfl
  · rw [answers_answer, if_neg (Nat.ne_of_lt hr)]
    exact hs r hr
  · exact Or.inl (by rw [answers_answer, if_pos rfl, hn])

/-- Settling a wait serves its request when an awaited wait stays hopeful. -/
theorem Fair.served_settle (h : L.Fair) {v w : Wait} (hi : L.waits i = some v) (hv : ¬ v.Done)
    (hr : w.request = v.request) (hope : L.Awaited i → v.Hopeful → w.Hopeful) (hs : L.Served n) :
    (L.settle i w).Served n := by
  intro r hrn
  rw [answers_settle]
  rcases hs r hrn with hans | ⟨j, u, hj, hu, hope'⟩
  · left
    rw [if_neg, hans]
    rintro ⟨hw, -⟩
    rw [(h.carried hi (hr ▸ hw)).2, if_neg hv] at hans
    exact absurd hans (by decide)
  · right
    by_cases hji : j = i
    · subst hji
      obtain rfl := Option.some.inj (hi.symm.trans hj)
      exact ⟨j, w, by rw [waits_settle, if_pos rfl], hr.trans hu, hope ⟨v, r, hi, hu, hv⟩ hope'⟩
    · exact ⟨j, u, by rw [waits_settle, if_neg hji]; exact hj, hu, hope'⟩

end Ledger
