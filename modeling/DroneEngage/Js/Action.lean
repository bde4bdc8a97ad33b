import DroneEngage.Js.Value
import Mathlib.Order.Defs.Unbundled

/-! JavaScript statements as state transformers that can throw.

    An exception does not undo the writes made before it, so an action returns the state in both
    cases: `Action σ α` is a map from a state to an outcome and the state left behind. `attempt` is
    `try`/`catch`.

    The rules at the end lift a fact about single writes to whole programs: if every write of an
    action moves the state along a preorder `R`, then so does the action, whatever it throws and
    wherever it is interrupted (`Moves`). Taking `R s s' := I s → I s'` gives the usual rule for an
    invariant. -/

namespace Js

/-- A computation on states `σ` with a result of type `α` or an exception. -/
def Action (σ α : Type) : Type := σ → Except JsError α × σ

namespace Action

variable {σ α β : Type}

/-- The computation that only returns a value. -/
protected def pure (a : α) : Action σ α := fun s => (.ok a, s)

/-- Sequencing; an exception skips the rest. -/
protected def bind (m : Action σ α) (f : α → Action σ β) : Action σ β := fun s =>
  match m s with
  | (.ok a, s') => f a s'
  | (.error e, s') => (.error e, s')

instance : Monad (Action σ) where
  pure := Action.pure
  bind := Action.bind

/-- Read the whole state. -/
def get : Action σ σ := fun s => (.ok s, s)

/-- Write the state. -/
def modify (f : σ → σ) : Action σ Unit := fun s => (.ok (), f s)

/-- Raise an exception. -/
def throw (e : JsError) : Action σ α := fun s => (.error e, s)

/-- A pure computation that can throw. -/
def ofExcept (x : Except JsError α) : Action σ α := fun s => (x, s)

/-- `try { m } catch (e) { h(e) }` -/
def attempt (m : Action σ α) (h : JsError → Action σ α) : Action σ α := fun s =>
  match m s with
  | (.ok a, s') => (.ok a, s')
  | (.error e, s') => h e s'

/-- `if (c) { m }` -/
def when (c : Bool) (m : Action σ Unit) : Action σ Unit := if c then m else Action.pure ()

/-- `for (const x of xs) { f(x) }` -/
def forEach (xs : List α) (f : α → Action σ Unit) : Action σ Unit :=
  match xs with
  | [] => Action.pure ()
  | x :: rest => Action.bind (f x) fun _ => forEach rest f

/-- A computation on a part of the state. -/
def zoom {τ : Type} (part : σ → τ) (put : τ → σ → σ) (m : Action τ α) : Action σ α := fun s =>
  ((m (part s)).1, put (m (part s)).2 s)

/-- The state an action leaves behind, whatever its outcome. -/
def final (m : Action σ α) (s : σ) : σ := (m s).2

/-- The action lets an exception escape. -/
def Escapes (m : Action σ α) (s : σ) : Prop := ∃ e, (m s).1 = .error e

/-! ### Running -/

@[simp] theorem run_pure (a : α) (s : σ) : (pure a : Action σ α) s = (.ok a, s) := rfl

@[simp] theorem run_get (s : σ) : (get : Action σ σ) s = (.ok s, s) := rfl

@[simp] theorem run_modify (f : σ → σ) (s : σ) : modify f s = (.ok (), f s) := rfl

@[simp] theorem run_throw (e : JsError) (s : σ) : (throw e : Action σ α) s = (.error e, s) := rfl

@[simp] theorem run_ofExcept (x : Except JsError α) (s : σ) : ofExcept x s = (x, s) := rfl

theorem run_bind (m : Action σ α) (f : α → Action σ β) (s : σ) :
    (m >>= f) s = match m s with
      | (.ok a, s') => f a s'
      | (.error e, s') => (.error e, s') := rfl

@[simp] theorem run_bind_pure (a : α) (f : α → Action σ β) (s : σ) :
    ((pure a : Action σ α) >>= f) s = f a s := rfl

@[simp] theorem run_bind_get (f : σ → Action σ β) (s : σ) : (get >>= f) s = f s s := rfl

@[simp] theorem run_bind_modify (g : σ → σ) (f : Unit → Action σ β) (s : σ) :
    (modify g >>= f) s = f () (g s) := rfl

@[simp] theorem run_bind_throw (e : JsError) (f : α → Action σ β) (s : σ) :
    ((throw e : Action σ α) >>= f) s = (.error e, s) := rfl

@[simp] theorem run_bind_ok (a : α) (f : α → Action σ β) (s : σ) :
    (ofExcept (.ok a) >>= f) s = f a s := rfl

@[simp] theorem run_bind_error (e : JsError) (f : α → Action σ β) (s : σ) :
    (ofExcept (.error e) >>= f) s = (.error e, s) := rfl

theorem run_bind_of_ok {m : Action σ α} {f : α → Action σ β} {s s' : σ} {a : α}
    (h : m s = (.ok a, s')) : (m >>= f) s = f a s' := by rw [run_bind, h]

theorem run_bind_of_error {m : Action σ α} {f : α → Action σ β} {s s' : σ} {e : JsError}
    (h : m s = (.error e, s')) : (m >>= f) s = (.error e, s') := by rw [run_bind, h]

/-- A sequence that ends well does so in both parts. -/
theorem run_bind_eq_ok {m : Action σ α} {f : α → Action σ β} {s t : σ} {b : β} :
    (m >>= f) s = (.ok b, t) ↔ ∃ a s', m s = (.ok a, s') ∧ f a s' = (.ok b, t) := by
  rw [run_bind]
  rcases m s with ⟨e | a, s'⟩
  · simp
  · simp

theorem run_ofExcept_bind_eq_ok {x : Except JsError α} {f : α → Action σ β} {s t : σ} {b : β} :
    (ofExcept x >>= f) s = (.ok b, t) ↔ ∃ a, x = .ok a ∧ f a s = (.ok b, t) := by
  cases x with
  | error e => simp
  | ok a => simp

theorem run_attempt (m : Action σ α) (h : JsError → Action σ α) (s : σ) :
    attempt m h s = match m s with
      | (.ok a, s') => (.ok a, s')
      | (.error e, s') => h e s' := rfl

@[simp] theorem run_when_true (m : Action σ Unit) (s : σ) : when true m s = m s := rfl

@[simp] theorem run_when_false (m : Action σ Unit) (s : σ) : when false m s = (.ok (), s) := rfl

@[simp] theorem run_forEach_nil (f : α → Action σ Unit) (s : σ) :
    forEach [] f s = (.ok (), s) := rfl

theorem run_forEach_cons (x : α) (rest : List α) (f : α → Action σ Unit) (s : σ) :
    forEach (x :: rest) f s = (f x >>= fun _ => forEach rest f) s := rfl

/-! ### The state left behind -/

@[simp] theorem final_pure (a : α) (s : σ) : (pure a : Action σ α).final s = s := rfl

@[simp] theorem final_throw (e : JsError) (s : σ) : (throw e : Action σ α).final s = s := rfl

@[simp] theorem final_ofExcept (x : Except JsError α) (s : σ) : (ofExcept x).final s = s := rfl

@[simp] theorem final_modify (f : σ → σ) (s : σ) : (modify f).final s = f s := rfl

@[simp] theorem final_get_bind (f : σ → Action σ β) (s : σ) : (get >>= f).final s = (f s).final s :=
  rfl

@[simp] theorem final_modify_bind (g : σ → σ) (f : Unit → Action σ β) (s : σ) :
    (modify g >>= f).final s = (f ()).final (g s) := rfl

@[simp] theorem final_ok_bind (a : α) (f : α → Action σ β) (s : σ) :
    (ofExcept (.ok a) >>= f).final s = (f a).final s := rfl

@[simp] theorem final_error_bind (e : JsError) (f : α → Action σ β) (s : σ) :
    (ofExcept (.error e) >>= f).final s = s := rfl

@[simp] theorem final_throw_bind (e : JsError) (f : α → Action σ β) (s : σ) :
    ((throw e : Action σ α) >>= f).final s = s := rfl

@[simp] theorem final_pure_bind (a : α) (f : α → Action σ β) (s : σ) :
    ((pure a : Action σ α) >>= f).final s = (f a).final s := rfl

theorem final_bind_of_ok {m : Action σ α} {f : α → Action σ β} {s s' : σ} {a : α}
    (h : m s = (.ok a, s')) : (m >>= f).final s = (f a).final s' := by
  unfold final; rw [run_bind_of_ok h]

/-- Dropping a result leaves the state alone. -/
theorem final_bind_pure (m : Action σ α) (b : β) (s : σ) :
    (m >>= fun _ => pure b).final s = m.final s := by
  rw [final, final, run_bind]
  rcases m s with ⟨e | a, s'⟩
  · rfl
  · rfl

/-- What holds after the first part, and leads to a second property through the second part, also
    when that is skipped. -/
theorem final_bind_leads {P Q : σ → Prop} {m : Action σ α} {f : α → Action σ β} {s : σ}
    (hm : P (m.final s)) (hskip : ∀ s', P s' → Q s') (hf : ∀ a s', P s' → Q ((f a).final s')) :
    Q ((m >>= f).final s) := by
  rcases h : m s with ⟨e | a, s'⟩
  · rw [final, h] at hm
    rw [final, run_bind_of_error h]
    exact hskip s' hm
  · rw [final, h] at hm
    rw [final_bind_of_ok h]
    exact hf a s' hm

/-- What the first part leaves true, and the second keeps, is true in the end. -/
theorem final_bind_keeps {P : σ → Prop} {m : Action σ α} {f : α → Action σ β} {s : σ}
    (hm : P (m.final s)) (hf : ∀ a s', P s' → P ((f a).final s')) : P ((m >>= f).final s) :=
  final_bind_leads hm (fun _ => id) hf

/-- What follows a `try` block whose body ended well. -/
theorem final_attempt_bind_of_ok {m : Action σ α} {h : JsError → Action σ α}
    {f : α → Action σ β} {s s' : σ} {a : α} (hm : m s = (.ok a, s')) :
    (attempt m h >>= f).final s = (f a).final s' := by
  unfold final; rw [run_bind, run_attempt, hm]

/-- What follows a `try` block whose body threw. -/
theorem final_attempt_bind_of_error {m : Action σ α} {h : JsError → Action σ α}
    {f : α → Action σ β} {s s' : σ} {e : JsError} (hm : m s = (.error e, s')) :
    (attempt m h >>= f).final s = (h e >>= f).final s' := by
  unfold final; rw [run_bind, run_bind, run_attempt, hm]

/-- A `catch` block that does nothing leaves the state as the `try` block left it. -/
theorem final_attempt_pure (m : Action σ α) (f : JsError → α) (s : σ) :
    (attempt m fun e => pure (f e)).final s = m.final s := by
  unfold final
  rw [run_attempt]
  rcases m s with ⟨e | a, s'⟩ <;> rfl

/-- A `catch` block that only throws leaves the state as the `try` block left it. -/
theorem final_attempt_throw (m : Action σ α) (f : JsError → JsError) (s : σ) :
    (attempt m fun e => throw (f e)).final s = m.final s := by
  unfold final
  rw [run_attempt]
  rcases m s with ⟨e | a, s'⟩
  · rfl
  · rfl

/-! ### Exceptions -/

/-- An action whose exceptions are all caught by a handler that throws nothing. -/
theorem not_escapes_attempt {m : Action σ α} {h : JsError → Action σ α} {s : σ}
    (hh : ∀ e s', ¬ Escapes (h e) s') : ¬ Escapes (attempt m h) s := by
  rintro ⟨e, he⟩
  rw [run_attempt] at he
  rcases hm : m s with ⟨a | a, s'⟩
  · rw [hm] at he; exact hh a s' ⟨e, he⟩
  · rw [hm] at he; simp at he

theorem not_escapes_pure (a : α) (s : σ) : ¬ Escapes (pure a : Action σ α) s := by
  rintro ⟨e, he⟩; simp at he

theorem escapes_bind_iff {m : Action σ α} {f : α → Action σ β} {s : σ} :
    Escapes (m >>= f) s ↔
      Escapes m s ∨ ∃ a, (m s).1 = .ok a ∧ Escapes (f a) (m s).2 := by
  unfold Escapes
  rw [run_bind]
  rcases m s with ⟨e | a, s'⟩
  · simp
  · simp

theorem final_zoom {τ : Type} (part : σ → τ) (put : τ → σ → σ) (m : Action τ α) (s : σ) :
    (zoom part put m).final s = put (m.final (part s)) s := rfl

theorem escapes_zoom {τ : Type} {part : σ → τ} {put : τ → σ → σ} {m : Action τ α} {s : σ} :
    Escapes (zoom part put m) s ↔ Escapes m (part s) := Iff.rfl

/-- An action that swallows its exceptions and returns nothing of interest always goes on. -/
theorem run_of_not_escapes {m : Action σ Unit} {s : σ} (h : ¬ Escapes m s) :
    m s = (.ok (), m.final s) := by
  rcases hm : m s with ⟨e | u, s'⟩
  · exact absurd ⟨e, by rw [hm]⟩ h
  · rw [final, hm]

@[simp] theorem escapes_get_bind {f : σ → Action σ β} {s : σ} :
    Escapes (get >>= f) s ↔ Escapes (f s) s := Iff.rfl

@[simp] theorem escapes_modify_bind {g : σ → σ} {f : Unit → Action σ β} {s : σ} :
    Escapes (modify g >>= f) s ↔ Escapes (f ()) (g s) := Iff.rfl

theorem escapes_throw (e : JsError) (s : σ) : Escapes (throw e : Action σ α) s := ⟨e, rfl⟩

theorem not_escapes_modify (f : σ → σ) (s : σ) : ¬ Escapes (modify f) s := by
  rintro ⟨e, he⟩; simp at he

theorem escapes_ok_bind {a : α} {f : α → Action σ β} {s : σ} :
    Escapes (ofExcept (.ok a) >>= f) s ↔ Escapes (f a) s := Iff.rfl

theorem escapes_bind_of_ok {m : Action σ α} {f : α → Action σ β} {s s' : σ} {a : α}
    (h : m s = (.ok a, s')) : Escapes (m >>= f) s ↔ Escapes (f a) s' := by
  unfold Escapes; rw [run_bind_of_ok h]

theorem escapes_error_bind (e : JsError) (f : α → Action σ β) (s : σ) :
    Escapes (ofExcept (.error e) >>= f) s := ⟨e, rfl⟩

/-- A sequence fails in its first part, or in its second part from where the first ended. -/
theorem escapes_seq_iff {m : Action σ Unit} {n : Action σ α} {s : σ} :
    Escapes (m >>= fun _ => n) s ↔ Escapes m s ∨ (¬ Escapes m s ∧ Escapes n (m.final s)) := by
  rw [escapes_bind_iff]
  constructor
  · rintro (h | ⟨a, ha, h⟩)
    · exact Or.inl h
    · refine Or.inr ⟨?_, h⟩
      rintro ⟨e, he⟩
      rw [he] at ha
      exact absurd ha (by simp)
  · rintro (h | ⟨hm, h⟩)
    · exact Or.inl h
    · exact Or.inr ⟨(), by rw [run_of_not_escapes hm], h⟩

theorem not_escapes_when {c : Bool} {m : Action σ Unit} {s : σ} (h : c = true → ¬ Escapes m s) :
    ¬ Escapes (when c m) s := by
  cases c with
  | true => exact h rfl
  | false => exact not_escapes_pure () s

theorem not_escapes_bind {m : Action σ α} {f : α → Action σ β} {s : σ} (hm : ¬ Escapes m s)
    (hf : ∀ a, (m s).1 = .ok a → ¬ Escapes (f a) (m.final s)) : ¬ Escapes (m >>= f) s := by
  rw [escapes_bind_iff]
  rintro (h | ⟨a, ha, h⟩)
  · exact hm h
  · exact hf a ha h

theorem not_escapes_forEach {f : α → Action σ Unit} : ∀ (xs : List α) {s : σ},
    (∀ x s', ¬ Escapes (f x) s') → ¬ Escapes (forEach xs f) s
  | [], s, _ => not_escapes_pure () s
  | x :: rest, s, h => not_escapes_bind (h x s) fun _ _ => not_escapes_forEach rest h

/-- A loop whose body throws nothing where an invariant holds, and keeps the invariant. -/
theorem not_escapes_forEach_keeps {f : α → Action σ Unit} {I : σ → Prop}
    (hI : ∀ x s', I s' → I ((f x).final s')) (hf : ∀ x s', I s' → ¬ Escapes (f x) s') :
    ∀ (xs : List α) {s : σ}, I s → ¬ Escapes (forEach xs f) s
  | [], s, _ => not_escapes_pure () s
  | x :: rest, s, hs => not_escapes_bind (hf x s hs) fun _ _ =>
      not_escapes_forEach_keeps hI hf rest (hI x s hs)

/-! ### Moving the state along a preorder -/

/-- Every run of the action, also one cut short by an exception, moves the state along `R`. -/
def Moves (R : σ → σ → Prop) (m : Action σ α) : Prop := ∀ s, R s (m.final s)

/-- A coarser relation. -/
theorem Moves.mono {R R' : σ → σ → Prop} {m : Action σ α} (h : ∀ {s s'}, R s s' → R' s s')
    (hm : Moves R m) : Moves R' m := fun s => h (hm s)

section Moves

variable {R : σ → σ → Prop} [IsPreorder σ R]

omit [IsPreorder σ R] in
theorem moves_modify {f : σ → σ} (h : ∀ s, R s (f s)) : Moves R (modify f) := h

theorem moves_pure (a : α) : Moves R (pure a : Action σ α) := fun s => refl_of R s

theorem moves_get : Moves R (get : Action σ σ) := fun s => refl_of R s

theorem moves_throw (e : JsError) : Moves R (throw e : Action σ α) := fun s => refl_of R s

theorem moves_ofExcept (x : Except JsError α) : Moves R (ofExcept x : Action σ α) :=
  fun s => refl_of R s

/-- The pointwise form of sequencing: the second part only has to move from where it starts. -/
theorem moves_bind_at {m : Action σ α} {f : α → Action σ β} {s : σ} (hm : R s (m.final s))
    (hf : ∀ a, (m s).1 = .ok a → R (m.final s) ((f a).final (m.final s))) :
    R s ((m >>= f).final s) := by
  unfold final at hm hf ⊢
  rw [run_bind]
  rcases h : m s with ⟨e | a, s'⟩
  · rw [h] at hm; exact hm
  · rw [h] at hm hf; exact trans_of R hm (hf a rfl)

theorem moves_bind {m : Action σ α} {f : α → Action σ β} (hm : Moves R m)
    (hf : ∀ a, Moves R (f a)) : Moves R (m >>= f) :=
  fun s => moves_bind_at (hm s) fun a _ => hf a _

omit [IsPreorder σ R] in
/-- After a read of the state the rest only has to move from the state that was read. -/
theorem moves_get_bind {f : σ → Action σ β} (h : ∀ s, R s ((f s).final s)) :
    Moves R (get >>= f) := h

theorem moves_attempt_at {m : Action σ α} {h : JsError → Action σ α} {s : σ}
    (hm : R s (m.final s)) (hh : ∀ e, Moves R (h e)) : R s ((attempt m h).final s) := by
  unfold final at hm ⊢
  rw [run_attempt]
  rcases hr : m s with ⟨e | a, s'⟩
  · rw [hr] at hm; exact trans_of R hm (hh e s')
  · rw [hr] at hm; exact hm

theorem moves_attempt {m : Action σ α} {h : JsError → Action σ α} (hm : Moves R m)
    (hh : ∀ e, Moves R (h e)) : Moves R (attempt m h) := fun s => moves_attempt_at (hm s) hh

theorem moves_forEach {f : α → Action σ Unit} :
    ∀ xs : List α, (∀ x ∈ xs, Moves R (f x)) → Moves R (forEach xs f)
  | [], _ => moves_pure ()
  | x :: rest, h => moves_bind (h x (by simp)) fun _ =>
      moves_forEach rest fun y hy => h y (List.mem_cons_of_mem _ hy)

omit [IsPreorder σ R] in
theorem moves_ite {c : Prop} [Decidable c] {m n : Action σ α} (hm : c → Moves R m)
    (hn : ¬ c → Moves R n) : Moves R (if c then m else n) := by
  split
  · next h => exact hm h
  · next h => exact hn h

theorem moves_when {c : Bool} {m : Action σ Unit} (hm : c = true → Moves R m) :
    Moves R (when c m) := moves_ite hm fun _ => moves_pure ()

end Moves

/-! ### Two runs side by side -/

/-- Two runs end the same way, in related states. -/
def Twin (R : σ → σ → Prop) (m n : Action σ α) (s t : σ) : Prop :=
  (m s).1 = (n t).1 ∧ R (m.final s) (n.final t)

section Twin

variable {R : σ → σ → Prop} {s t : σ}

theorem twin_pure (a : α) (h : R s t) : Twin R (pure a) (pure a) s t := ⟨rfl, h⟩

theorem twin_throw (e : JsError) (h : R s t) :
    Twin R (throw e : Action σ α) (throw e) s t := ⟨rfl, h⟩

theorem twin_modify {f g : σ → σ} (h : R (f s) (g t)) : Twin R (modify f) (modify g) s t :=
  ⟨rfl, h⟩

theorem twin_get_bind {f g : σ → Action σ α} (h : Twin R (f s) (g t) s t) :
    Twin R (get >>= f) (get >>= g) s t := h

theorem twin_bind {m n : Action σ α} {f g : α → Action σ β} (hm : Twin R m n s t)
    (hf : ∀ a s' t', R s' t' → Twin R (f a) (g a) s' t') : Twin R (m >>= f) (n >>= g) s t := by
  obtain ⟨hout, hstate⟩ := hm
  rw [final, final] at hstate
  rw [Twin, final, final, run_bind, run_bind]
  rcases hms : m s with ⟨e | a, s'⟩
  · rcases hnt : n t with ⟨e' | b, t'⟩
    · rw [hms, hnt] at hout hstate
      obtain rfl := Except.error.inj hout
      exact ⟨rfl, hstate⟩
    · rw [hms, hnt] at hout
      exact absurd hout (by simp)
  · rcases hnt : n t with ⟨e' | b, t'⟩
    · rw [hms, hnt] at hout
      exact absurd hout (by simp)
    · rw [hms, hnt] at hout hstate
      obtain rfl := Except.ok.inj hout
      exact hf a s' t' hstate

theorem twin_ofExcept_bind (x : Except JsError α) {f g : α → Action σ β}
    (hR : R s t) (hf : ∀ a, x = .ok a → Twin R (f a) (g a) s t) :
    Twin R (ofExcept x >>= f) (ofExcept x >>= g) s t := by
  cases x with
  | error e => exact ⟨rfl, hR⟩
  | ok a => exact hf a rfl

theorem twin_ite {c : Prop} [Decidable c] {m m' n n' : Action σ α} (hm : c → Twin R m m' s t)
    (hn : ¬ c → Twin R n n' s t) : Twin R (if c then m else n) (if c then m' else n') s t := by
  split
  · next h => exact hm h
  · next h => exact hn h

end Twin

end Action

end Js
