import Mathlib

/-!
# Computations that return

`Returns c s Q`: run in the state `s`, the computation `c` does not raise, and what it
returns and the state it leaves meet `Q`. The rules take a computation apart along its
binds, so that a goal about a whole handler becomes one about the states it passes through.
-/

namespace HexeVoice.Library

universe u

variable {ε σ α β : Type u}

@[simp] theorem except_ok_bind (a : α) (f : α → Except ε β) : Except.ok a >>= f = f a := rfl

theorem except_bind_eq_ok {x : Except ε α} {f : α → Except ε β} {b : β} :
    x >>= f = .ok b ↔ ∃ a, x = .ok a ∧ f a = .ok b := by
  cases x with
  | error e => exact ⟨(fun h => nomatch h), (fun ⟨_, h, _⟩ => nomatch h)⟩
  | ok a => exact ⟨fun h => ⟨a, rfl, h⟩, fun ⟨_, h, hf⟩ => Except.ok.inj h ▸ hf⟩

/-- In the state `s`, the computation returns, with a value and a state that meet `Q`. -/
def Returns (c : EStateM ε σ α) (s : σ) (Q : α → σ → Prop) : Prop :=
  ∃ a s', c.run s = .ok a s' ∧ Q a s'

/-- Whether a computation returns with `Q` is decided by running it. -/
instance (c : EStateM ε σ α) (s : σ) (Q : α → σ → Prop) [∀ a s', Decidable (Q a s')] :
    Decidable (Returns c s Q) :=
  match h : c.run s with
  | .ok a s' =>
    decidable_of_iff (Q a s') ⟨fun hQ => ⟨a, s', h, hQ⟩, fun ⟨_, _, hrun, hQ⟩ => by
      rw [h] at hrun
      cases hrun
      exact hQ⟩
  | .error _ _ => .isFalse fun ⟨_, _, hrun, _⟩ => by
      rw [h] at hrun
      cases hrun

namespace Returns

variable {s : σ} {Q R : α → σ → Prop} {S : β → σ → Prop}

/-- The rule of consequence. -/
theorem mono {c : EStateM ε σ α} (h : Returns c s Q) (hQ : ∀ a s', Q a s' → R a s') :
    Returns c s R := by
  obtain ⟨a, s', hrun, ha⟩ := h
  exact ⟨a, s', hrun, hQ a s' ha⟩

/-- The rule of sequence, with what is known of the first part. -/
theorem bind {c : EStateM ε σ α} {f : α → EStateM ε σ β} (h : Returns c s Q)
    (hf : ∀ a s', Q a s' → Returns (f a) s' S) : Returns (c >>= f) s S := by
  obtain ⟨a, s', hrun, ha⟩ := h
  obtain ⟨b, s'', hrun', hb⟩ := hf a s' ha
  exact ⟨b, s'', by simpa [EStateM.run_bind, hrun] using hrun', hb⟩

end Returns

section rules

variable (s : σ) (Q : α → σ → Prop)

@[simp] theorem returns_pure (a : α) : Returns (pure a : EStateM ε σ α) s Q ↔ Q a s := by
  simp [Returns]

@[simp] theorem returns_bind (c : EStateM ε σ β) (f : β → EStateM ε σ α) :
    Returns (c >>= f) s Q ↔ Returns c s fun b s' => Returns (f b) s' Q := by
  constructor
  · rintro ⟨a, s', hrun, ha⟩
    rw [EStateM.run_bind] at hrun
    cases hc : c.run s with
    | ok b s'' => exact ⟨b, s'', hc, a, s', by simpa [hc] using hrun, ha⟩
    | error e s'' => simp [hc] at hrun
  · exact fun h => h.bind fun _ _ h' => h'

@[simp] theorem returns_map (c : EStateM ε σ β) (f : β → α) :
    Returns (f <$> c) s Q ↔ Returns c s fun b s' => Q (f b) s' := by
  rw [← bind_pure_comp, returns_bind]
  simp

@[simp] theorem returns_get (Q : σ → σ → Prop) :
    Returns (get : EStateM ε σ σ) s Q ↔ Q s s := by
  simp [Returns]

@[simp] theorem returns_modify (f : σ → σ) (Q : PUnit → σ → Prop) :
    Returns (modify f : EStateM ε σ PUnit) s Q ↔ Q ⟨⟩ (f s) :=
  ⟨fun ⟨_, _, hrun, h⟩ => by cases hrun; exact h, fun h => ⟨⟨⟩, f s, rfl, h⟩⟩

@[simp] theorem returns_modifyGet (f : σ → α × σ) :
    Returns (modifyGet f : EStateM ε σ α) s Q ↔ Q (f s).1 (f s).2 := by
  simp [Returns]

@[simp] theorem returns_ite (p : Prop) [Decidable p] (c d : EStateM ε σ α) :
    Returns (if p then c else d) s Q ↔ if p then Returns c s Q else Returns d s Q := by
  split <;> rfl

end rules

end HexeVoice.Library
