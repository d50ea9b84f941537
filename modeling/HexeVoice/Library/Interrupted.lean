import Mathlib

/-!
# Programs over storage that may be interrupted

A program makes one operation on storage after the other. Each of them works, fails, or is where power is
lost; the program learns which of the first two, and goes on by it. What holds of storage however a program
is interrupted is proved with one rule for each way of building programs, and so is that a program can get
somewhere.
-/

namespace HexeVoice.Library

universe u v

variable {σ : Type u} {α β : Type v}

/-- What an operation meets. -/
inductive Fate where
  | works
  | fails
  | powerLost
  deriving DecidableEq

/-- How a program ends; the fates that it leaves are met by what comes after it. -/
inductive Ending (σ : Type u) (α : Type v) where
  | lost (storage : σ)
  | returned (value : α) (storage : σ) (fates : ℕ → Fate)

/-- The storage in the end. -/
def Ending.storage : Ending σ α → σ
  | .lost storage => storage
  | .returned _ storage _ => storage

/-- What is returned, if the program gets so far. -/
def Ending.value? : Ending σ α → Option α
  | .lost _ => none
  | .returned value _ _ => some value

/-- A program. -/
def Interrupted (σ : Type u) (α : Type v) := σ → (ℕ → Fate) → Ending σ α

namespace Interrupted

/-- Return a value. -/
protected def pure (value : α) : Interrupted σ α := fun storage fates => .returned value storage fates

/-- One program after the other. -/
protected def bind (first : Interrupted σ α) (second : α → Interrupted σ β) : Interrupted σ β :=
  fun storage fates =>
    match first storage fates with
    | .lost storage => .lost storage
    | .returned value storage fates => second value storage fates

instance : Monad (Interrupted σ) where
  pure := Interrupted.pure
  bind := Interrupted.bind

/-- An operation, by whether it works: what it gives, and what it makes of storage. -/
def attempt (operation : Bool → σ → α × σ) : Interrupted σ α := fun storage fates =>
  match fates 0 with
  | .powerLost => .lost storage
  | .works => .returned (operation true storage).1 (operation true storage).2 fun k => fates (k + 1)
  | .fails =>
    .returned (operation false storage).1 (operation false storage).2 fun k => fates (k + 1)

/-! ### What holds however a program is interrupted -/

/-- From storage with `pre`, the program is interrupted at storage with `lost`, or returns with `post`. -/
def Meets (program : Interrupted σ α) (pre lost : σ → Prop) (post : α → σ → Prop) : Prop :=
  ∀ storage fates, pre storage →
    match program storage fates with
    | .lost storage => lost storage
    | .returned value storage _ => post value storage

variable {pre lost : σ → Prop} {post : α → σ → Prop}

theorem Meets.pure {value : α} (h : ∀ storage, pre storage → post value storage) :
    Meets (pure value) pre lost post :=
  fun storage _ hpre => h storage hpre

theorem Meets.bind {first : Interrupted σ α} {second : α → Interrupted σ β} {post' : β → σ → Prop}
    (hfirst : Meets first pre lost post)
    (hsecond : ∀ value, Meets (second value) (post value) lost post') :
    Meets (first >>= second) pre lost post' := by
  intro storage fates hpre
  have hmeets := hfirst storage fates hpre
  show match (Interrupted.bind first second) storage fates with
    | .lost storage => lost storage
    | .returned value storage _ => post' value storage
  unfold Interrupted.bind
  cases hend : first storage fates with
  | lost storage =>
    rw [hend] at hmeets
    exact hmeets
  | returned value storage fates =>
    rw [hend] at hmeets
    exact hsecond value storage fates hmeets

theorem Meets.attempt {operation : Bool → σ → α × σ} (hlost : ∀ storage, pre storage → lost storage)
    (hpost : ∀ works storage, pre storage →
      post (operation works storage).1 (operation works storage).2) :
    Meets (attempt operation) pre lost post := by
  intro storage fates hpre
  unfold Interrupted.attempt
  cases fates 0 with
  | powerLost => exact hlost storage hpre
  | works => exact hpost true storage hpre
  | fails => exact hpost false storage hpre

theorem Meets.mono {program : Interrupted σ α} {pre' lost' : σ → Prop} {post' : α → σ → Prop}
    (h : Meets program pre lost post) (hpre : ∀ storage, pre' storage → pre storage)
    (hlost : ∀ storage, lost storage → lost' storage)
    (hpost : ∀ value storage, post value storage → post' value storage) :
    Meets program pre' lost' post' := by
  intro storage fates hstorage
  have hmeets := h storage fates (hpre storage hstorage)
  cases hend : program storage fates with
  | lost storage =>
    rw [hend] at hmeets
    exact hlost storage hmeets
  | returned value storage fates =>
    rw [hend] at hmeets
    exact hpost value storage hmeets

/-- The storage that a program may be interrupted at is none that it does not. -/
theorem Meets.storage {program : Interrupted σ α} {good : σ → Prop}
    (h : Meets program pre good fun _ => good) {storage : σ} (hpre : pre storage) (fates : ℕ → Fate) :
    good (program storage fates).storage := by
  have hmeets := h storage fates hpre
  cases hend : program storage fates with
  | lost storage =>
    rw [hend] at hmeets
    exact hmeets
  | returned value storage fates =>
    rw [hend] at hmeets
    exact hmeets

/-! ### Where a program can get -/

/-- The program can return a value and leave the storage as `after`, whatever comes after it meets. -/
def CanReturn (program : Interrupted σ α) (storage : σ) (value : α) (after : σ) : Prop :=
  ∀ rest : ℕ → Fate, ∃ fates, program storage fates = .returned value after rest

/-- The program can be interrupted at the storage `after`. -/
def CanLose (program : Interrupted σ α) (storage after : σ) : Prop :=
  ∃ fates, program storage fates = .lost after

variable {storage between last : σ} {value : α}

theorem CanReturn.pure : CanReturn (pure value) storage value storage := fun rest => ⟨rest, rfl⟩

theorem CanReturn.bind {first : Interrupted σ α} {second : α → Interrupted σ β} {value' : β}
    (hfirst : CanReturn first storage value between)
    (hsecond : CanReturn (second value) between value' last) :
    CanReturn (first >>= second) storage value' last := by
  intro rest
  obtain ⟨middle, hmiddle⟩ := hsecond rest
  obtain ⟨fates, hfates⟩ := hfirst middle
  refine ⟨fates, ?_⟩
  show Interrupted.bind first second storage fates = _
  rw [Interrupted.bind, hfates]
  exact hmiddle

/-- A stream of fates with a first one. -/
def withFirst (fate : Fate) (rest : ℕ → Fate) : ℕ → Fate
  | 0 => fate
  | k + 1 => rest k

theorem CanReturn.attempt_works (operation : Bool → σ → α × σ) (storage : σ) :
    CanReturn (attempt operation) storage (operation true storage).1 (operation true storage).2 :=
  fun rest => ⟨withFirst .works rest, rfl⟩

theorem CanReturn.attempt_fails (operation : Bool → σ → α × σ) (storage : σ) :
    CanReturn (attempt operation) storage (operation false storage).1 (operation false storage).2 :=
  fun rest => ⟨withFirst .fails rest, rfl⟩

theorem CanLose.attempt (operation : Bool → σ → α × σ) (storage : σ) :
    CanLose (attempt operation) storage storage :=
  ⟨fun _ => .powerLost, rfl⟩

theorem CanLose.bind_left {first : Interrupted σ α} {second : α → Interrupted σ β}
    (h : CanLose first storage between) : CanLose (first >>= second) storage between := by
  obtain ⟨fates, hfates⟩ := h
  refine ⟨fates, ?_⟩
  show Interrupted.bind first second storage fates = _
  rw [Interrupted.bind, hfates]

theorem CanLose.bind_right {first : Interrupted σ α} {second : α → Interrupted σ β}
    (hfirst : CanReturn first storage value between) (hsecond : CanLose (second value) between last) :
    CanLose (first >>= second) storage last := by
  obtain ⟨middle, hmiddle⟩ := hsecond
  obtain ⟨fates, hfates⟩ := hfirst middle
  refine ⟨fates, ?_⟩
  show Interrupted.bind first second storage fates = _
  rw [Interrupted.bind, hfates]
  exact hmiddle

/-- The program can get to where only `tail` is left, from the storage `between`. -/
def CanBecome (program : Interrupted σ α) (storage : σ) (tail : Interrupted σ α) (between : σ) : Prop :=
  ∀ rest : ℕ → Fate, ∃ fates, program storage fates = tail between rest

theorem CanBecome.refl (program : Interrupted σ α) (storage : σ) :
    CanBecome program storage program storage := fun rest => ⟨rest, rfl⟩

theorem CanBecome.bind {first : Interrupted σ α} {second : α → Interrupted σ β}
    {tail : Interrupted σ β} (hfirst : CanReturn first storage value between)
    (hsecond : CanBecome (second value) between tail last) :
    CanBecome (first >>= second) storage tail last := by
  intro rest
  obtain ⟨middle, hmiddle⟩ := hsecond rest
  obtain ⟨fates, hfates⟩ := hfirst middle
  refine ⟨fates, ?_⟩
  show Interrupted.bind first second storage fates = _
  rw [Interrupted.bind, hfates]
  exact hmiddle

theorem CanBecome.canReturn {program tail : Interrupted σ α} (h : CanBecome program storage tail between)
    (htail : CanReturn tail between value last) : CanReturn program storage value last := by
  intro rest
  obtain ⟨middle, hmiddle⟩ := htail rest
  obtain ⟨fates, hfates⟩ := h middle
  exact ⟨fates, hfates.trans hmiddle⟩

theorem CanBecome.canLose {program tail : Interrupted σ α} (h : CanBecome program storage tail between)
    (htail : CanLose tail between last) : CanLose program storage last := by
  obtain ⟨middle, hmiddle⟩ := htail
  obtain ⟨fates, hfates⟩ := h middle
  exact ⟨fates, hfates.trans hmiddle⟩

/-! ### Steps that must all work -/

/-- Steps one after the other, up to the first that gives false. -/
def all : List (Interrupted σ Bool) → Interrupted σ Bool
  | [] => pure true
  | step :: steps => do
    if ← step then all steps else pure false

/-- A change of storage that is made if the operation works, which it tells. -/
def change (f : σ → σ) : Interrupted σ Bool :=
  attempt fun works storage => (works, if works then f storage else storage)

theorem CanReturn.change_works (f : σ → σ) (storage : σ) :
    CanReturn (change f) storage true (f storage) := .attempt_works _ storage

/-- The first `j` of some changes. -/
def after (j : ℕ) (changes : List (σ → σ)) (storage : σ) : σ :=
  (changes.take j).foldl (fun storage f => f storage) storage

variable {changes : List (σ → σ)} {f : σ → σ}

theorem Meets.change {post : Bool → σ → Prop} (hlost : ∀ storage, pre storage → lost storage)
    (hworks : ∀ storage, pre storage → post true (f storage))
    (hfails : ∀ storage, pre storage → post false storage) : Meets (change f) pre lost post := by
  apply Meets.attempt hlost
  rintro (_ | _) storage hpre
  · exact hfails storage hpre
  · exact hworks storage hpre

/-- However changes that must all work are interrupted, some first ones of them are made, and all if the
program returns true. -/
theorem meets_changes (changes : List (σ → σ)) (start : σ) :
    Meets (all (changes.map change)) (· = start)
      (fun storage => ∃ j ≤ changes.length, storage = after j changes start)
      fun ok storage => ∃ j ≤ changes.length, storage = after j changes start ∧
        (ok = true → j = changes.length) := by
  induction changes generalizing start with
  | nil => exact .pure fun storage h => ⟨0, le_rfl, h, fun _ => rfl⟩
  | cons f changes ih =>
    have hstep : Meets (change f) (· = start)
        (fun storage => ∃ j ≤ (f :: changes).length, storage = after j (f :: changes) start)
        fun ok storage => storage = if ok then f start else start := by
      apply Meets.attempt
      · rintro storage rfl
        exact ⟨0, Nat.zero_le _, rfl⟩
      · rintro works storage rfl
        rfl
    apply Meets.bind hstep
    rintro (_ | _)
    · exact .pure fun storage h => ⟨0, Nat.zero_le _, h, fun hok => absurd hok (by decide)⟩
    · refine (ih (f start)).mono (fun _ h => h) ?_ ?_
      · rintro storage ⟨j, hle, rfl⟩
        exact ⟨j + 1, Nat.succ_le_succ hle, rfl⟩
      · rintro ok storage ⟨j, hle, rfl, hall⟩
        exact ⟨j + 1, Nat.succ_le_succ hle, rfl, fun hok => congrArg (· + 1) (hall hok)⟩

/-- Changes that all work are all made. -/
theorem changes_work (changes : List (σ → σ)) (start : σ) :
    all (changes.map change) start (fun _ => .works) =
      .returned true (after changes.length changes start) fun _ => .works := by
  induction changes generalizing start with
  | nil => rfl
  | cons f changes ih => exact ih (f start)

/-- Each of them can fail, and then those before it are made. -/
theorem canReturn_changes_false {j : ℕ} (hj : j < changes.length) (start : σ) :
    CanReturn (all (changes.map change)) start false (after j changes start) := by
  induction changes generalizing start j with
  | nil => exact absurd hj (Nat.not_lt_zero j)
  | cons f changes ih =>
    cases j with
    | zero => exact CanReturn.bind (.attempt_fails _ start) .pure
    | succ j => exact CanReturn.bind (.attempt_works _ start) (ih (Nat.lt_of_succ_lt_succ hj) (f start))

end Interrupted

end HexeVoice.Library
