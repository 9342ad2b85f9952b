/-!
# Actions in sequence

What a sequence of two actions does at a state follows from what the first does there. Three
relations are closed under sequences:

* `Ends stop x s post`: the action `x` ends at `s` with what `post` says, unless it stops where
  `stop` holds;
* `Keeps I E x`: the action `x` keeps `I` of the state, and stops only with what `E` says;
* `Mirrors f x y`: the action `x` does what `y` does, seen through `f`.
-/

namespace CommandSpec

variable {ε σ τ α β : Type}

section

variable {x : EStateM ε σ α} {f : α → EStateM ε σ β} {s s' : σ}

theorem bind_of_ok {a : α} (h : x s = .ok a s') : (x >>= f) s = f a s' := by
  show EStateM.bind x f s = f a s'
  rw [EStateM.bind, h]

theorem bind_of_error {e : ε} (h : x s = .error e s') : (x >>= f) s = .error e s' := by
  show EStateM.bind x f s = .error e s'
  rw [EStateM.bind, h]

end

/-! ## What an action ends with -/

/-- The action ends at `s` with what `post` says, unless it stops where `stop` holds. -/
def Ends (stop : σ → Prop) (x : EStateM ε σ α) (s : σ) (post : α → σ → Prop) : Prop :=
  match x s with
  | .ok a s' => post a s'
  | .error _ s' => stop s'

namespace Ends

variable {stop : σ → Prop} {x : EStateM ε σ α} {f : α → EStateM ε σ β} {s s' : σ}
  {post post' : α → σ → Prop} {post₂ : β → σ → Prop}

theorem of_ok {a : α} (h : x s = .ok a s') (hpost : post a s') : Ends stop x s post := by
  rw [Ends, h]
  exact hpost

theorem of_error {e : ε} (h : x s = .error e s') (hstop : stop s') : Ends stop x s post := by
  rw [Ends, h]
  exact hstop

theorem mono (h : Ends stop x s post) (hpost : ∀ a s', post a s' → post' a s') :
    Ends stop x s post' := by
  unfold Ends at h ⊢
  cases hx : x s with
  | ok a s' => rw [hx] at h; exact hpost a s' h
  | error e s' => rw [hx] at h; exact h

theorem bind (h : Ends stop x s post) (hf : ∀ a s', post a s' → Ends stop (f a) s' post₂) :
    Ends stop (x >>= f) s post₂ := by
  unfold Ends at h
  cases hx : x s with
  | ok a s' =>
    rw [hx] at h
    rw [Ends, bind_of_ok hx]
    exact hf a s' h
  | error e s' =>
    rw [hx] at h
    rw [Ends, bind_of_error hx]
    exact h

end Ends

/-- Results of runs can be compared. -/
instance decidableEqResult [DecidableEq ε] [DecidableEq σ] [DecidableEq α] :
    DecidableEq (EStateM.Result ε σ α)
  | .ok a s, .ok a' s' => decidable_of_iff (a = a' ∧ s = s') (by simp)
  | .error e s, .error e' s' => decidable_of_iff (e = e' ∧ s = s') (by simp)
  | .ok .., .error .. => isFalse (by simp)
  | .error .., .ok .. => isFalse (by simp)

/-- The state that an action ends in. -/
def finalState : EStateM.Result ε σ α → σ
  | .ok _ s => s
  | .error _ s => s

/-- The answer of an action that does not stop. -/
def answer? : EStateM.Result ε σ α → Option α
  | .ok a _ => some a
  | .error _ _ => none

/-- Only the answer is changed. -/
theorem finalState_bind_pure (x : EStateM ε σ α) (f : α → β) (s : σ) :
    finalState ((do return f (← x)) s) = finalState (x s) := by
  cases h : x s with
  | ok a s' =>
    rw [bind_of_ok h]
    rfl
  | error e s' =>
    rw [bind_of_error h]
    rfl

/-! ## What an action keeps -/

/-- Wherever `I` holds the action keeps it, and if it stops, then with an error and in a state of
which `E` holds. -/
def Keeps (I : σ → Prop) (E : ε → σ → Prop) (x : EStateM ε σ α) : Prop :=
  ∀ s, I s → I (finalState (x s)) ∧ ∀ e s', x s = .error e s' → E e s'

namespace Keeps

variable {I : σ → Prop} {E : ε → σ → Prop} {x : EStateM ε σ α} {f : α → EStateM ε σ β}

theorem pure (I : σ → Prop) (E : ε → σ → Prop) (a : α) :
    Keeps I E (Pure.pure a : EStateM ε σ α) :=
  fun _ hs => ⟨hs, fun _ _ h => by cases h⟩

theorem bind (hx : Keeps I E x) (hf : ∀ a, Keeps I E (f a)) : Keeps I E (x >>= f) := by
  intro s hs
  have hxs := hx s hs
  cases h : x s with
  | ok a s' =>
    rw [h] at hxs
    rw [bind_of_ok h]
    exact hf a s' hxs.1
  | error e s' =>
    rw [h] at hxs
    rw [bind_of_error h]
    exact ⟨hxs.1, fun _ _ he => by
      cases he
      exact hxs.2 e s' rfl⟩

theorem ends (hx : Keeps I E x) {s : σ} (hs : I s) :
    Ends (fun _ => True) x s fun _ s' => I s' := by
  have hxs := (hx s hs).1
  cases h : x s with
  | ok a s' =>
    rw [h] at hxs
    exact .of_ok h hxs
  | error e s' => exact .of_error h trivial

end Keeps

/-! ## Actions that do the same -/

/-- A result seen through `f`. -/
def seen (f : σ → τ) : EStateM.Result ε σ α → EStateM.Result ε τ α
  | .ok a s => .ok a (f s)
  | .error e s => .error e (f s)

theorem finalState_seen (f : σ → τ) (result : EStateM.Result ε σ α) :
    finalState (seen f result) = f (finalState result) := by
  cases result <;> rfl

theorem seen_seen {ρ : Type} (g : τ → ρ) (f : σ → τ) (result : EStateM.Result ε σ α) :
    seen g (seen f result) = seen (fun s => g (f s)) result := by
  cases result <;> rfl

/-- The action `x` does what `y` does, seen through `f`. -/
def Mirrors (f : σ → τ) (x : EStateM ε σ α) (y : EStateM ε τ α) : Prop :=
  ∀ s, seen f (x s) = y (f s)

namespace Mirrors

variable {f : σ → τ} {x : EStateM ε σ α} {y : EStateM ε τ α}

theorem pure (f : σ → τ) (a : α) :
    Mirrors f (Pure.pure a : EStateM ε σ α) (Pure.pure a) := fun _ => rfl

theorem bind {g : α → EStateM ε σ β} {h : α → EStateM ε τ β} (hx : Mirrors f x y)
    (hg : ∀ a, Mirrors f (g a) (h a)) : Mirrors f (x >>= g) (y >>= h) := by
  intro s
  have hs := hx s
  cases hxs : x s with
  | ok a s' =>
    rw [hxs] at hs
    rw [bind_of_ok hxs, bind_of_ok hs.symm]
    exact hg a s'
  | error e s' =>
    rw [hxs] at hs
    rw [bind_of_error hxs, bind_of_error hs.symm]
    rfl

end Mirrors

end CommandSpec
