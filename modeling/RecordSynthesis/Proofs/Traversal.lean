import Mathlib.Data.List.Forall2

/-!
# Steps that may fail, one after the other

A sequence of steps succeeds when every step does, and its failure is the failure of the first
step that fails (`bind_eq_ok`, `bind_eq_error`). The same holds of a step for every element of a
list, with results that are collected (`mapM_eq_ok`, `mapM_eq_error`) or with a state that is passed
on (`foldlM_ok_induction`, `foldlM_eq_error`).
-/

set_option autoImplicit false

namespace RecordSynthesis

variable {ε α β σ : Type}

/-! ## Two steps -/

theorem bind_eq_ok {x : Except ε α} {f : α → Except ε β} {b : β} :
    x >>= f = .ok b ↔ ∃ a, x = .ok a ∧ f a = .ok b := by
  cases x with
  | error e =>
      refine ⟨nofun, ?_⟩
      rintro ⟨a, h, _⟩
      cases h
  | ok a =>
      refine ⟨fun h => ⟨a, rfl, h⟩, ?_⟩
      rintro ⟨_, h, result⟩
      cases h
      exact result

theorem bind_eq_error {x : Except ε α} {f : α → Except ε β} {e : ε} :
    x >>= f = .error e ↔ x = .error e ∨ ∃ a, x = .ok a ∧ f a = .error e := by
  cases x with
  | error d =>
      constructor
      · intro h
        cases h
        exact .inl rfl
      · rintro (h | ⟨a, h, _⟩)
        · cases h
          rfl
        · cases h
  | ok a =>
      refine ⟨fun h => .inr ⟨a, rfl, h⟩, ?_⟩
      rintro (h | ⟨_, h, failed⟩)
      · cases h
      · cases h
        exact failed

/-- The second step matters for the results of the first one only. -/
theorem bind_congr_ok {x : Except ε α} {f g : α → Except ε β} (same : ∀ a, x = .ok a → f a = g a) :
    x >>= f = x >>= g := by
  cases x with
  | error e => rfl
  | ok a => exact same a rfl

/-! ## A step for every element, with collected results -/

/-- Of two lists that are related element by element, every element of the second one has a
partner. -/
theorem exists_left_of_mem {R : α → β → Prop} {xs : List α} {ys : List β}
    (related : List.Forall₂ R xs ys) {y : β} (member : y ∈ ys) : ∃ x ∈ xs, R x y := by
  induction related with
  | nil => cases member
  | cons first _ ih =>
      rcases List.mem_cons.1 member with rfl | member
      · exact ⟨_, List.mem_cons_self, first⟩
      · obtain ⟨x, listed, partner⟩ := ih member
        exact ⟨x, List.mem_cons_of_mem _ listed, partner⟩

section Collect

variable {f : α → Except ε β}

theorem mapM_congr {g : α → Except ε β} {xs : List α} (same : ∀ x ∈ xs, f x = g x) :
    xs.mapM f = xs.mapM g := by
  induction xs with
  | nil => rfl
  | cons x xs ih =>
      obtain ⟨first, others⟩ := List.forall_mem_cons.1 same
      rw [List.mapM_cons, List.mapM_cons, first, ih others]

theorem mapM_eq_ok {xs : List α} {ys : List β} :
    xs.mapM f = .ok ys ↔ List.Forall₂ (fun x y => f x = .ok y) xs ys := by
  induction xs generalizing ys with
  | nil =>
      rw [List.mapM_nil, List.forall₂_nil_left_iff]
      constructor
      · intro h
        cases h
        rfl
      · rintro rfl
        rfl
  | cons x xs ih =>
      rw [List.mapM_cons, bind_eq_ok, List.forall₂_cons_left_iff]
      constructor
      · rintro ⟨y, hy, rest⟩
        obtain ⟨zs, hzs, last⟩ := bind_eq_ok.1 rest
        cases last
        exact ⟨y, zs, hy, ih.1 hzs, rfl⟩
      · rintro ⟨y, zs, hy, hzs, rfl⟩
        exact ⟨y, hy, bind_eq_ok.2 ⟨zs, ih.2 hzs, rfl⟩⟩

/-- Every result that is collected is that of an element. -/
theorem exists_of_mem_mapM {xs : List α} {ys : List β} (done : xs.mapM f = .ok ys) :
    ∀ y ∈ ys, ∃ x ∈ xs, f x = .ok y :=
  fun _ member => exists_left_of_mem (mapM_eq_ok.1 done) member

/-- The failure is that of the first element that fails. -/
theorem mapM_eq_error {xs : List α} {e : ε} :
    xs.mapM f = .error e ↔ ∃ before x after, xs = before ++ x :: after ∧
      (∀ y ∈ before, ∃ z, f y = .ok z) ∧ f x = .error e := by
  induction xs with
  | nil =>
      refine ⟨nofun, ?_⟩
      rintro ⟨before, x, after, h, _⟩
      simp at h
  | cons a xs ih =>
      rw [List.mapM_cons, bind_eq_error]
      constructor
      · rintro (h | ⟨b, hb, rest⟩)
        · exact ⟨[], a, xs, rfl, nofun, h⟩
        · rcases bind_eq_error.1 rest with rest | ⟨_, _, last⟩
          · obtain ⟨before, x, after, rfl, passed, failed⟩ := ih.1 rest
            exact ⟨a :: before, x, after, rfl, List.forall_mem_cons.2 ⟨⟨b, hb⟩, passed⟩, failed⟩
          · cases last
      · rintro ⟨before, x, after, split, passed, failed⟩
        cases before with
        | nil =>
            obtain ⟨rfl, rfl⟩ := List.cons.inj split
            exact .inl failed
        | cons c before =>
            obtain ⟨rfl, rfl⟩ := List.cons.inj split
            obtain ⟨⟨b, hb⟩, passed⟩ := List.forall_mem_cons.1 passed
            have rest := ih.2 ⟨before, x, after, rfl, passed, failed⟩
            exact .inr ⟨b, hb, bind_eq_error.2 (.inl rest)⟩

end Collect

/-! ## A step for every element, with a state -/

section State

variable {f : σ → α → Except ε σ}

/-- What holds of the start and passes every step that succeeds holds of the end. -/
theorem foldlM_ok_induction (motive : List α → σ → Prop) {xs : List α} {s t : σ}
    (result : xs.foldlM f s = .ok t) (start : motive [] s)
    (step : ∀ done, ∀ x ∈ xs, ∀ u v, motive done u → f u x = .ok v → motive (done ++ [x]) v) :
    motive xs t := by
  induction xs generalizing s motive with
  | nil =>
      cases result
      exact start
  | cons x xs ih =>
      rw [List.foldlM_cons] at result
      obtain ⟨u, first, rest⟩ := bind_eq_ok.1 result
      refine ih (fun done => motive (x :: done)) rest (step [] x (by simp) s u start first) ?_
      intro done y hy v w before next
      exact step (x :: done) y (by simp [hy]) v w before next

/-- A failure is that of the first element whose step fails, at the state that the steps in front of
it leave behind. -/
theorem foldlM_eq_error {xs : List α} {s : σ} {e : ε} (result : xs.foldlM f s = .error e) :
    ∃ before x after u, xs = before ++ x :: after ∧ before.foldlM f s = .ok u ∧
      f u x = .error e := by
  induction xs generalizing s with
  | nil => cases result
  | cons x xs ih =>
      rw [List.foldlM_cons] at result
      rcases bind_eq_error.1 result with first | ⟨t, passed, rest⟩
      · exact ⟨[], x, xs, s, rfl, rfl, first⟩
      · obtain ⟨before, y, after, u, rfl, others, failed⟩ := ih rest
        refine ⟨x :: before, y, after, u, rfl, ?_, failed⟩
        rw [List.foldlM_cons]
        exact bind_eq_ok.2 ⟨t, passed, others⟩

end State

end RecordSynthesis
