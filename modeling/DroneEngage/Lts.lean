import Mathlib.Order.Defs.Unbundled

/-! Labelled transition systems.

    A system is a relation `step s o s'`: operation `o` leads from `s` to `s'`. `Path step C` are the
    runs in which every operation meets the condition `C` in the state where it is taken; with
    different conditions the same system gives all runs, or those of one party, or those that keep a
    promise. -/

namespace Lts

variable {σ ω : Type} {step : σ → ω → σ → Prop} {C C' : σ → ω → Prop}

/-- Runs from `s` whose operations meet the condition. -/
inductive Path (step : σ → ω → σ → Prop) (C : σ → ω → Prop) (s : σ) : σ → Prop
  | refl : Path step C s s
  | tail {t u : σ} {o : ω} : Path step C s t → C t o → step t o u → Path step C s u

namespace Path

theorem single {s s' : σ} {o : ω} (hc : C s o) (h : step s o s') : Path step C s s' :=
  .tail .refl hc h

theorem trans {s t u : σ} (h : Path step C s t) (h' : Path step C t u) : Path step C s u := by
  induction h' with
  | refl => exact h
  | tail _ hc hstep ih => exact .tail ih hc hstep

instance : IsPreorder σ (Path step C) where
  refl := fun _ => .refl
  trans := fun _ _ _ => .trans

/-- A computed run is a run. -/
theorem of_foldlM {f : σ → ω → Option σ}
    (hf : ∀ {s o s'}, f s o = some s' → C s o ∧ step s o s') :
    ∀ {os : List ω} {s s' : σ}, os.foldlM f s = some s' → Path step C s s'
  | [], s, s', h => by
    obtain rfl := Option.some.inj h
    exact .refl
  | o :: os, s, s', h => by
    rw [List.foldlM_cons] at h
    obtain ⟨t, ht, h⟩ := Option.bind_eq_some_iff.mp h
    obtain ⟨hc, hstep⟩ := hf ht
    exact (single hc hstep).trans (of_foldlM hf h)

/-- A computed run that checks a guard before it takes a step. -/
theorem of_guarded {f : σ → ω → σ} {G : σ → ω → Prop} [∀ s o, Decidable (G s o)]
    (hf : ∀ {s o}, G s o → C s o ∧ step s o (f s o)) {os : List ω} {s s' : σ}
    (h : os.foldlM (fun s o => if G s o then some (f s o) else none) s = some s') :
    Path step C s s' := by
  refine of_foldlM (fun {t o t'} ht => ?_) h
  split at ht
  · next hg =>
    obtain rfl := Option.some.inj ht
    exact hf hg
  · exact absurd ht (by simp)

/-- What every step keeps holds at the end. -/
theorem invariant {P : σ → Prop} (hstep : ∀ {s o s'}, P s → C s o → step s o s' → P s')
    {s s' : σ} (h : Path step C s s') (hs : P s) : P s' := by
  induction h with
  | refl => exact hs
  | tail _ hc h ih => exact hstep ih hc h

/-- A run stays within what every step keeps. -/
theorem within {P : σ → Prop} (hstep : ∀ {s o s'}, P s → C s o → step s o s' → P s')
    {s s' : σ} (h : Path step C s s') (hs : P s) : Path step (fun s o => C s o ∧ P s) s s' := by
  induction h with
  | refl => exact .refl
  | tail hpath hc h ih =>
    have ht : P _ := hpath.invariant (P := P) hstep hs
    exact .tail ih ⟨hc, ht⟩ h

/-- A property of the last state that each step had to have before it, and that says something about
    the operation, says it about all operations of the run. -/
theorem of_last {P : σ → Prop}
    (hback : ∀ {s o s'}, C s o → step s o s' → P s' → P s ∧ C' s o) {s s' : σ}
    (h : Path step C s s') (hs' : P s') : Path step C' s s' ∧ P s := by
  induction h with
  | refl => exact ⟨.refl, hs'⟩
  | tail _ hc hstep ih =>
    obtain ⟨ht, hc'⟩ := hback hc hstep hs'
    obtain ⟨hpath, hs⟩ := ih ht
    exact ⟨.tail hpath hc' hstep, hs⟩

/-- Where a condition on the operations is exactly what keeps a property from one state to the next,
    a run keeps the property in all its states if and only if all its operations meet the condition.
    -/
theorem holds_iff {I P : σ → Prop} (hI : ∀ {s o s'}, I s → P s → step s o s' → I s')
    (hC : ∀ {s o s'}, I s → P s → step s o s' → (P s' ↔ C s o)) {s s' : σ} (hs : I s) (hP : P s) :
    Path step (fun t _ => P t) s s' ∧ P s' ↔ Path step C s s' := by
  have hinv : ∀ {t}, Path step (fun t _ => P t) s t → I t :=
    fun h => h.invariant (fun hi hp hstep => hI hi hp hstep) hs
  constructor
  · rintro ⟨h, hP'⟩
    induction h with
    | refl => exact .refl
    | tail hpath ht hstep ih => exact .tail (ih ht) ((hC (hinv hpath) ht hstep).mp hP') hstep
  · intro h
    induction h with
    | refl => exact ⟨.refl, hP⟩
    | tail hpath hc hstep ih =>
      obtain ⟨hpath', ht⟩ := ih
      exact ⟨.tail hpath' ht hstep, (hC (hinv hpath') ht hstep).mpr hc⟩

theorem mono (hC : ∀ {s o}, C s o → C' s o) {s s' : σ} (h : Path step C s s') :
    Path step C' s s' := by
  induction h with
  | refl => exact .refl
  | tail _ hc hstep ih => exact .tail ih (hC hc) hstep

end Path

end Lts
