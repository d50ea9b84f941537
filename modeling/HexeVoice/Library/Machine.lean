import Mathlib

/-!
# Runs of a deterministic machine

A machine is a step function `σ → ι → σ`. A run is a list of inputs. The steps of a
run may be asked to meet a condition on the state before the step and the input
(`AllSteps`), and an invariant that every such step preserves holds after the run
and after every part of it. Where a step keeps a relation exactly if it meets the
condition, a run keeps it throughout exactly if all of its steps do.
-/

namespace HexeVoice.Library

variable {σ ι : Type*}

/-- The state after the inputs `is`, taken in order. -/
def run (step : σ → ι → σ) (s : σ) (is : List ι) : σ := is.foldl step s

/-- Every step of the run meets `ok` in the state it is taken in. -/
def AllSteps (step : σ → ι → σ) (ok : σ → ι → Prop) : σ → List ι → Prop
  | _, [] => True
  | s, i :: is => ok s i ∧ AllSteps step ok (step s i) is

variable {step : σ → ι → σ} {ok : σ → ι → Prop}

instance [∀ s i, Decidable (ok s i)] : ∀ (s : σ) (is : List ι), Decidable (AllSteps step ok s is)
  | _, [] => inferInstanceAs (Decidable True)
  | s, i :: is =>
    have : Decidable (AllSteps step ok (step s i) is) := instDecidableAllSteps (step s i) is
    inferInstanceAs (Decidable (ok s i ∧ AllSteps step ok (step s i) is))

@[simp] theorem run_nil (s : σ) : run step s [] = s := rfl

@[simp] theorem run_cons (s : σ) (i : ι) (is : List ι) :
    run step s (i :: is) = run step (step s i) is := rfl

theorem run_append (s : σ) (is js : List ι) :
    run step s (is ++ js) = run step (run step s is) js := by
  simp [run, List.foldl_append]

@[simp] theorem allSteps_nil (s : σ) : AllSteps step ok s [] := trivial

@[simp] theorem allSteps_cons (s : σ) (i : ι) (is : List ι) :
    AllSteps step ok s (i :: is) ↔ ok s i ∧ AllSteps step ok (step s i) is := Iff.rfl

/-- The condition splits where the run does. -/
theorem allSteps_append (s : σ) (is js : List ι) :
    AllSteps step ok s (is ++ js) ↔
      AllSteps step ok s is ∧ AllSteps step ok (run step s is) js := by
  induction is generalizing s with
  | nil => simp
  | cons i is ih => simp [ih, and_assoc]

/-- A run every step of which is unconditionally fine. -/
theorem allSteps_of_forall (h : ∀ s i, ok s i) (s : σ) (is : List ι) : AllSteps step ok s is := by
  induction is generalizing s with
  | nil => trivial
  | cons i is ih => exact ⟨h s i, ih _⟩

theorem AllSteps.mono {ok' : σ → ι → Prop} (h : ∀ s i, ok s i → ok' s i) {s : σ} {is : List ι}
    (hs : AllSteps step ok s is) : AllSteps step ok' s is := by
  induction is generalizing s with
  | nil => trivial
  | cons i is ih => exact ⟨h _ _ hs.1, ih hs.2⟩

/-- **The run lemma**: what every step that meets the condition preserves, a run of such
steps preserves. -/
theorem run_invariant {Inv : σ → Prop} (hstep : ∀ s i, Inv s → ok s i → Inv (step s i))
    {s : σ} {is : List ι} (hs : Inv s) (hok : AllSteps step ok s is) : Inv (run step s is) := by
  induction is generalizing s with
  | nil => exact hs
  | cons i is ih => exact ih (hstep s i hs hok.1) hok.2

/-- A relation that is reflexive, transitive and holds across every step that meets the
condition, from a state of the invariant, holds across the run. -/
theorem run_rel {Inv : σ → Prop} {R : σ → σ → Prop} (hrefl : ∀ s, R s s)
    (htrans : ∀ a b c, R a b → R b c → R a c)
    (hstep : ∀ s i, Inv s → ok s i → Inv (step s i) ∧ R s (step s i))
    {s : σ} {is : List ι} (hs : Inv s) (hok : AllSteps step ok s is) : R s (run step s is) := by
  induction is generalizing s with
  | nil => exact hrefl s
  | cons i is ih =>
    obtain ⟨hinv, hrel⟩ := hstep s i hs hok.1
    exact htrans _ _ _ hrel (ih hinv hok.2)

/-- **The exact run lemma**: where an admitted step of two machines keeps a relation between their
states exactly if it meets the condition, the relation holds after every part of a run of admitted
steps exactly if all steps of the run meet the condition. -/
theorem related_throughout_iff {τ : Type*} {f : τ → ι → τ} {R : σ → τ → Prop}
    {A : σ → ι → Prop}
    (hstep : ∀ s t i, R s t → A s i → (R (step s i) (f t i) ↔ ok s i))
    {s : σ} {t : τ} {is : List ι} (hs : R s t) (hadmitted : AllSteps step A s is) :
    (∀ taken, taken <+: is → R (run step s taken) (run f t taken)) ↔
      AllSteps step ok s is := by
  induction is generalizing s t with
  | nil => simp [hs]
  | cons i is ih =>
    obtain ⟨hi, hrest⟩ := hadmitted
    rw [allSteps_cons, ← hstep s t i hs hi]
    constructor
    · intro hall
      have hfirst : R (step s i) (f t i) := hall [i] (by simp)
      refine ⟨hfirst, (ih hfirst hrest).mp fun taken htaken => ?_⟩
      exact hall (i :: taken) (List.cons_prefix_cons.mpr ⟨rfl, htaken⟩)
    · rintro ⟨hfirst, hmore⟩ taken htaken
      cases taken with
      | nil => exact hs
      | cons first taken =>
        obtain ⟨rfl, hprefix⟩ := List.cons_prefix_cons.mp htaken
        exact (ih hfirst hrest).mpr hmore taken hprefix

/-- The exact run lemma, for a property of the states of one machine. -/
theorem throughout_iff {P : σ → Prop} (hstep : ∀ s i, P s → (P (step s i) ↔ ok s i))
    {s : σ} (hs : P s) (is : List ι) :
    (∀ taken, taken <+: is → P (run step s taken)) ↔ AllSteps step ok s is :=
  related_throughout_iff (f := fun (_ : Unit) _ => ()) (R := fun s _ => P s)
    (A := fun _ _ => True) (t := ()) (fun s _ i h _ => hstep s i h) hs
    (allSteps_of_forall (fun _ _ => trivial) s is)

/-- The exact run lemma, for a property that a step keeps exactly if it meets the condition once an
invariant holds, which lasts while the property does. -/
theorem throughout_iff_of_inv {P Inv : σ → Prop} (hinv : ∀ s i, Inv s → P s → Inv (step s i))
    (hstep : ∀ s i, Inv s → P s → (P (step s i) ↔ ok s i)) {s : σ} (hs : Inv s) (hp : P s)
    (is : List ι) :
    (∀ taken, taken <+: is → P (run step s taken)) ↔ AllSteps step ok s is := by
  have hboth : (∀ taken, taken <+: is → Inv (run step s taken) ∧ P (run step s taken)) ↔
      AllSteps step ok s is :=
    throughout_iff (P := fun s => Inv s ∧ P s)
      (fun s i h => (and_iff_right (hinv s i h.1 h.2)).trans (hstep s i h.1 h.2)) ⟨hs, hp⟩ is
  rw [← hboth]
  constructor
  · intro hall taken htaken
    refine ⟨?_, hall taken htaken⟩
    clear hboth
    induction taken using List.reverseRecOn with
    | nil => exact hs
    | append_singleton taken i ih =>
      have hprefix : taken <+: is := (List.prefix_append taken [i]).trans htaken
      rw [run_append]
      exact hinv _ i (ih hprefix) (hall taken hprefix)
  · exact fun hall taken htaken => (hall taken htaken).2

end HexeVoice.Library
