import HexeVoice.Library.Returns
import Mathlib

/-!
# What comes of a computation that may raise

`Ends s c Q E`: run in the state `s`, the computation `c` returns with `Q` or raises with
`E`, both of the state that it leaves. A triple of this form is a rule that `mvcgen` applies
at a call.
-/

namespace HexeVoice.Library

open Std.Do

variable {ε σ α : Type}

/-- In the state `s`, the computation returns with `Q` or raises with `E`. -/
abbrev Ends (s : σ) (c : EStateM ε σ α) (Q : α → σ → Prop) (E : ε → σ → Prop) : Prop :=
  ⦃fun s' => ⌜s' = s⌝⦄ c ⦃post⟨fun a s' => ⌜Q a s'⌝, fun e s' => ⌜E e s'⌝⟩⦄

/-- The state that a computation leaves, whether it returns or raises. -/
def stateAfter (c : EStateM ε σ α) (s : σ) : σ :=
  match c s with
  | .ok _ s' => s'
  | .error _ s' => s'

/-- The weakest precondition of a computation is its postcondition at what comes of it. -/
theorem wp_apply (c : EStateM ε σ α) (Q : PostCond α (.except ε (.arg σ .pure))) (s : σ) :
    wp⟦c⟧ Q s = match c.run s with
      | .ok a s' => Q.1 a s'
      | .error e s' => Q.2.1 e s' := rfl

namespace Ends

variable {β : Type} {s : σ} {c : EStateM ε σ α} {Q Q' : α → σ → Prop} {E E' : ε → σ → Prop}

theorem ok (h : Ends s c Q E) {a : α} {s' : σ} (hrun : c s = .ok a s') : Q a s' := by
  have hwp := h s rfl
  rwa [wp_apply, show c.run s = _ from hrun] at hwp

theorem error (h : Ends s c Q E) {e : ε} {s' : σ} (hrun : c s = .error e s') : E e s' := by
  have hwp := h s rfl
  rwa [wp_apply, show c.run s = _ from hrun] at hwp

/-- A computation that is known to return. -/
theorem of_run {a : α} {s' : σ} (hrun : c s = .ok a s') (hQ : Q a s') : Ends s c Q E := by
  rintro _ rfl
  rw [wp_apply, show c.run _ = _ from hrun]
  exact hQ

/-- What is known of a computation that returns. -/
theorem of_returns {ε σ α : Type} {s : σ} {c : EStateM ε σ α} {Q : α → σ → Prop} {E : ε → σ → Prop}
    (h : Returns c s Q) : Ends s c Q E :=
  let ⟨_, _, hrun, hQ⟩ := h
  of_run hrun hQ

/-- The rule of consequence. -/
theorem mono (h : Ends s c Q' E') (hQ : ∀ a s', Q' a s' → Q a s') (hE : ∀ e s', E' e s' → E e s') :
    Ends s c Q E := by
  intro s' hs'
  rw [show s' = s from hs', wp_apply]
  cases hrun : c.run s with
  | ok a s'' => exact hQ a s'' (h.ok hrun)
  | error e s'' => exact hE e s'' (h.error hrun)

/-- Two things are known of what comes of the computation. -/
theorem and (h : Ends s c Q E) (h' : Ends s c Q' E') :
    Ends s c (fun a s' => Q a s' ∧ Q' a s') fun e s' => E e s' ∧ E' e s' := by
  intro s' hs'
  rw [show s' = s from hs', wp_apply]
  cases hrun : c.run s with
  | ok a s'' => exact ⟨h.ok hrun, h'.ok hrun⟩
  | error e s'' => exact ⟨h.error hrun, h'.error hrun⟩

/-- Every computation returns or raises. -/
theorem trivial (s : σ) (c : EStateM ε σ α) : Ends s c (fun _ _ => True) fun _ _ => True := by
  intro s' _
  rw [wp_apply]
  cases c.run s' <;> exact True.intro

theorem pure {a : α} (h : Q a s) : Ends s (Pure.pure a : EStateM ε σ α) Q E := of_run rfl h

/-- The rule of sequence, with what is known of the first part. -/
theorem bind {f : α → EStateM ε σ β} {R : β → σ → Prop} (h : Ends s c Q E)
    (hf : ∀ a s', Q a s' → Ends s' (f a) R E) : Ends s (c >>= f) R E := by
  intro s' hs'
  rw [show s' = s from hs', wp_apply, EStateM.run_bind]
  cases hrun : c.run s with
  | ok a s'' => exact hf a s'' (h.ok hrun) s'' rfl
  | error e s'' => exact h.error hrun

/-- A read of the state, and what follows. -/
theorem get_bind {f : σ → EStateM ε σ α} (h : Ends s (f s) Q E) : Ends s (get >>= f) Q E :=
  .bind (Q := fun r s' => r = s ∧ s' = s) (.of_run rfl ⟨rfl, rfl⟩)
    fun _ _ ⟨hr, hs⟩ => hr ▸ hs ▸ h

/-- What is known whether the computation returns or raises is known of the state it leaves. -/
theorem stateAfter {P : σ → Prop} (h : Ends s c (fun _ s' => P s') fun _ s' => P s') :
    P (stateAfter c s) := by
  unfold Library.stateAfter
  cases hrun : c s with
  | ok a s' => exact h.ok hrun
  | error e s' => exact h.error hrun

/-- A computation that cannot raise returns. -/
theorem exists_ok (h : Ends s c Q fun _ _ => False) : ∃ a s', c s = .ok a s' ∧ Q a s' := by
  cases hrun : c s with
  | ok a s' => exact ⟨a, s', rfl, h.ok hrun⟩
  | error e s' => exact (h.error hrun).elim

end Ends

end HexeVoice.Library
