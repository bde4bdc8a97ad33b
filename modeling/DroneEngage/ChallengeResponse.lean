import Mathlib.Data.List.Basic

/-! Challenge and response.

    A verifier opens a connection with a fresh challenge, parties sign what they are asked to sign,
    and the verifier accepts a connection under a name once the owner of that name has signed its
    challenge. A history lists what has happened, the latest last. Nothing is said of who asks for a
    signature: a party may sign the challenge of a connection it knows nothing of. -/

namespace ChallengeResponse

variable {κ δ ν π : Type}

/-- `κ` are the connections, `δ` the challenges, `ν` the names and `π` the parties that sign. -/
inductive Happening (κ δ ν π : Type) where
  | opened (c : κ) (d : δ)
  | signed (p : π) (d : δ)
  | accepted (c : κ) (n : ν)
  deriving DecidableEq

/-- It may happen after this history. `owns c n p`: on connection `c` the name `n` is the one of `p`. -/
def Fair (owns : κ → ν → π → Prop) (h : List (Happening κ δ ν π)) : Happening κ δ ν π → Prop
  | .opened c d => (∀ d', .opened c d' ∉ h) ∧ (∀ c', .opened c' d ∉ h) ∧ ∀ p, .signed p d ∉ h
  | .signed _ _ => True
  | .accepted c n => (∀ n', .accepted c n' ∉ h) ∧ ∃ d, .opened c d ∈ h ∧
      ∀ p, owns c n p → .signed p d ∈ h

/-- The histories of such happenings. -/
inductive Valid (owns : κ → ν → π → Prop) : List (Happening κ δ ν π) → Prop
  | nil : Valid owns []
  | snoc {h : List (Happening κ δ ν π)} {e : Happening κ δ ν π} :
    Valid owns h → Fair owns h e → Valid owns (h ++ [e])

section

variable {owns : κ → ν → π → Prop} {h : List (Happening κ δ ν π)} {c c' : κ} {d d' : δ} {n n' : ν}
  {p : π}

theorem mem_concat {α : Type} {l : List α} {x y : α} : x ∈ l ++ [y] ↔ x ∈ l ∨ x = y := by
  rw [List.mem_append, List.mem_singleton]

/-- A challenge belongs to one connection, and a connection has one challenge. -/
theorem Valid.opened_unique (hv : Valid owns h) (hc : .opened c d ∈ h) :
    (∀ c', .opened c' d ∈ h → c' = c) ∧ ∀ d', .opened c d' ∈ h → d' = d := by
  induction hv with
  | nil => exact absurd hc List.not_mem_nil
  | @snoc h e hv hfair ih =>
    rcases mem_concat.mp hc with hold | rfl
    · obtain ⟨hone, hsame⟩ := ih hold
      refine ⟨fun c' hc' => ?_, fun d' hd' => ?_⟩
      · rcases mem_concat.mp hc' with hc' | rfl
        · exact hone c' hc'
        · exact absurd hold (hfair.2.1 c)
      · rcases mem_concat.mp hd' with hd' | rfl
        · exact hsame d' hd'
        · exact absurd hold (hfair.1 d)
    · refine ⟨fun c' hc' => ?_, fun d' hd' => ?_⟩
      · rcases mem_concat.mp hc' with hc' | heq
        · exact absurd hc' (hfair.2.1 c')
        · exact (Happening.opened.inj heq).1
      · rcases mem_concat.mp hd' with hd' | heq
        · exact absurd hd' (hfair.1 d')
        · exact (Happening.opened.inj heq).2

/-- A challenge is signed after its connection has been opened. -/
theorem Valid.opened_signed (hv : Valid owns h) (hc : .opened c d ∈ h) (hs : .signed p d ∈ h) :
    [.opened c d, .signed p d].Sublist h := by
  induction hv with
  | nil => exact absurd hc List.not_mem_nil
  | @snoc h e hv hfair ih =>
    rcases mem_concat.mp hs with hold | rfl
    · rcases mem_concat.mp hc with hc | rfl
      · exact (ih hc hold).trans (List.sublist_append_left h [e])
      · exact absurd hold (hfair.2.2 p)
    · rcases mem_concat.mp hc with hc | heq
      · exact (List.singleton_sublist.mpr hc).append (List.Sublist.refl _)
      · exact absurd heq (by simp)

/-- Agreement: an accepted connection was opened, then its challenge was signed by whoever owns the
    name, and then it was accepted; and the challenge belongs to no other connection. -/
theorem Valid.agreement (hv : Valid owns h) (hc : .accepted c n ∈ h) :
    ∃ d, [.opened c d, .accepted c n].Sublist h ∧ (∀ c', .opened c' d ∈ h → c' = c) ∧
      ∀ p, owns c n p → [.opened c d, .signed p d, .accepted c n].Sublist h := by
  have hacc : ∃ d, [.opened c d, .accepted c n].Sublist h ∧
      ∀ p, owns c n p → [.opened c d, .signed p d, .accepted c n].Sublist h := by
    induction hv with
    | nil => exact absurd hc List.not_mem_nil
    | @snoc h e hv hfair ih =>
      rcases mem_concat.mp hc with hc | rfl
      · obtain ⟨d, hopened, hsub⟩ := ih hc
        exact ⟨d, hopened.trans (List.sublist_append_left h [e]), fun p hp =>
          (hsub p hp).trans (List.sublist_append_left h [e])⟩
      · obtain ⟨-, d, hopened, hsigned⟩ := hfair
        exact ⟨d, (List.singleton_sublist.mpr hopened).append (List.Sublist.refl _), fun p hp =>
          (hv.opened_signed hopened (hsigned p hp)).append (List.Sublist.refl _)⟩
  obtain ⟨d, hopened, hsub⟩ := hacc
  have hmem : .opened c d ∈ h := hopened.subset (List.mem_cons_self ..)
  exact ⟨d, hopened, (hv.opened_unique hmem).1, hsub⟩

end

end ChallengeResponse
