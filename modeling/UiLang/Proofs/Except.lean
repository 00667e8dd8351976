import UiLang.Jsx.Values
import Mathlib.Data.List.Forall2

/-!
# Reading back a computation that may fail

Generation is written in the `Except` monad: each stage runs only when the one
before it succeeded, and a list is processed element by element until the
first failure. The lemmas here take such a computation apart again. A bind
succeeds when both halves do and fails at the first half that fails
(`Except.bind_eq_ok`, `Except.bind_eq_error`); a `mapM` succeeds with one
result per element (`Except.mapM_eq_ok`) and fails with the error of some
element (`Except.mapM_eq_error`), the first one that fails
(`Except.mapM_eq_error_iff`).
-/

namespace UiLang

variable {ε α β : Type}

namespace Except

@[simp] theorem pure_eq_ok (a : α) : (pure a : Except ε α) = .ok a := rfl

@[simp] theorem throw_eq_error (e : ε) : (throw e : Except ε α) = .error e := rfl

@[simp] theorem ok_bind (a : α) (f : α → Except ε β) : (Except.ok a >>= f) = f a := rfl

@[simp] theorem error_bind (e : ε) (f : α → Except ε β) : (Except.error e >>= f) = .error e := rfl

/-- **A bind succeeds exactly when both of its halves do.** -/
theorem bind_eq_ok {x : Except ε α} {f : α → Except ε β} {b : β} :
    x >>= f = .ok b ↔ ∃ a, x = .ok a ∧ f a = .ok b := by
  cases x <;> simp

/-- **A bind fails with the first failure:** of its first half, or of the
second half run on the first half's result. -/
theorem bind_eq_error {x : Except ε α} {f : α → Except ε β} {e : ε} :
    x >>= f = .error e ↔ x = .error e ∨ ∃ a, x = .ok a ∧ f a = .error e := by
  cases x <;> simp

/-- **A bind whose second half only returns fails as its first half does.** -/
theorem bind_pure_eq_error {x : Except ε α} {f : α → β} {e : ε} :
    (x >>= fun a => pure (f a)) = .error e ↔ x = .error e := by
  cases x <;> simp

theorem map_eq_ok {x : Except ε α} {f : α → β} {b : β} :
    f <$> x = .ok b ↔ ∃ a, x = .ok a ∧ f a = b := by
  cases x <;> simp [Functor.map, Except.map]

theorem map_eq_error {x : Except ε α} {f : α → β} {e : ε} :
    f <$> x = .error e ↔ x = .error e := by
  cases x <;> simp [Functor.map, Except.map]

/-- **`mapM` succeeds with one result per element, in order.** -/
theorem mapM_eq_ok {f : α → Except ε β} :
    ∀ {l : List α} {bs : List β}, l.mapM f = .ok bs ↔ List.Forall₂ (fun a b => f a = .ok b) l bs
  | [], bs => by cases bs <;> simp
  | a :: l, bs => by
    rw [List.mapM_cons, bind_eq_ok]
    constructor
    · rintro ⟨b, hb, h⟩
      obtain ⟨bs', hbs', h⟩ := bind_eq_ok.1 h
      cases h
      exact .cons hb (mapM_eq_ok.1 hbs')
    · intro h
      cases h with
      | cons hb hbs => exact ⟨_, hb, bind_eq_ok.2 ⟨_, mapM_eq_ok.2 hbs, rfl⟩⟩

/-- Every element of a successful `mapM` has its result among the results. -/
theorem mapM_eq_ok_exists {f : α → Except ε β} {l : List α} {bs : List β} (h : l.mapM f = .ok bs) :
    ∀ a ∈ l, ∃ b ∈ bs, f a = .ok b := by
  have hf := mapM_eq_ok.1 h
  clear h
  induction hf with
  | nil => exact fun a ha => absurd ha List.not_mem_nil
  | cons hb _ ih =>
    intro a ha
    rcases List.mem_cons.1 ha with rfl | ha
    · exact ⟨_, List.mem_cons_self, hb⟩
    · obtain ⟨b, hb', hfa⟩ := ih a ha
      exact ⟨b, List.mem_cons_of_mem _ hb', hfa⟩

theorem mapM_eq_ok_mem {f : α → Except ε β} {l : List α} {bs : List β} (h : l.mapM f = .ok bs) :
    ∀ a ∈ l, ∃ b, f a = .ok b := by
  intro a ha
  obtain ⟨b, -, hb⟩ := mapM_eq_ok_exists h a ha
  exact ⟨b, hb⟩

/-- Every result of a successful `mapM` is the result of some element. -/
theorem mapM_eq_ok_mem_right {f : α → Except ε β} {l : List α} {bs : List β} (h : l.mapM f = .ok bs) :
    ∀ b ∈ bs, ∃ a ∈ l, f a = .ok b := by
  have hf := mapM_eq_ok.1 h
  clear h
  induction hf with
  | nil => exact fun b hb => absurd hb List.not_mem_nil
  | cons hb _ ih =>
    intro b hb'
    rcases List.mem_cons.1 hb' with rfl | hb'
    · exact ⟨_, List.mem_cons_self, hb⟩
    · obtain ⟨a, ha, hfa⟩ := ih b hb'
      exact ⟨a, List.mem_cons_of_mem _ ha, hfa⟩

/-- **`mapM` fails exactly at the first element that fails.** -/
theorem mapM_eq_error_iff {f : α → Except ε β} :
    ∀ {l : List α} {e : ε},
      l.mapM f = .error e ↔ ∃ a, l.find? (fun a => !(f a).isOk) = some a ∧ f a = .error e
  | [], e => by simp
  | a :: l, e => by
    rw [List.mapM_cons, bind_eq_error]
    cases hfa : f a with
    | error e' => simp [hfa, Except.isOk, Except.toBool]
    | ok b => simp [hfa, Except.isOk, Except.toBool, bind_eq_error, mapM_eq_error_iff]

/-- **A failed `mapM` failed at some element,** with that element's error. -/
theorem mapM_eq_error {f : α → Except ε β} {l : List α} {e : ε} (h : l.mapM f = .error e) :
    ∃ a ∈ l, f a = .error e := by
  obtain ⟨a, ha, hfa⟩ := mapM_eq_error_iff.1 h
  exact ⟨a, List.mem_of_find?_eq_some ha, hfa⟩

end Except

end UiLang
