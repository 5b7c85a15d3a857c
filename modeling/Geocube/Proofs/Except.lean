import Geocube.Catalog.Error
import Mathlib

/-!
# Reading successful computations

Most operations of the library run in `Except`: a step fails, or hands its value
to the next. A statement about an operation that succeeded starts by taking the
successful run apart step by step; these rewrites do that, so that proofs never
unfold `bind` by hand.
-/

namespace Geocube
namespace Except

variable {ε α β : Type}

/-- A sequence succeeds exactly when its first step succeeds and the rest
succeeds on that step's value. -/
@[simp] theorem bind_eq_ok {x : Except ε α} {f : α → Except ε β} {b : β} :
    x >>= f = .ok b ↔ ∃ a, x = .ok a ∧ f a = .ok b := by
  cases x <;> simp [bind, Except.bind]

/-- A sequence fails when its first step fails, or succeeds and the rest fails
on its value. -/
@[simp] theorem bind_eq_error {x : Except ε α} {f : α → Except ε β} {e : ε} :
    x >>= f = .error e ↔ x = .error e ∨ ∃ a, x = .ok a ∧ f a = .error e := by
  cases x <;> simp [bind, Except.bind]

@[simp] theorem throw_eq_error {e e' : ε} : (throw e : Except ε α) = .error e' ↔ e = e' := by
  simp [throw, throwThe, MonadExceptOf.throw]

@[simp] theorem pure_ne_error {a : α} {e : ε} : (pure a : Except ε α) ≠ .error e := by
  simp [pure, Except.pure]

@[simp] theorem pure_eq_ok {a b : α} : (pure a : Except ε α) = .ok b ↔ a = b := by
  simp [pure, Except.pure]

@[simp] theorem throw_ne_ok {e : ε} {a : α} : (throw e : Except ε α) ≠ .ok a := by
  simp [throw, throwThe, MonadExceptOf.throw]

@[simp] theorem map_ok (f : α → β) (a : α) : f <$> (.ok a : Except ε α) = .ok (f a) := rfl

@[simp] theorem map_eq_ok {f : α → β} {x : Except ε α} {b : β} :
    f <$> x = .ok b ↔ ∃ a, x = .ok a ∧ f a = b := by
  cases x <;> simp [Functor.map, Except.map]

@[simp] theorem map_ok_iff {f : α → β} {x : Except ε α} {b : β} :
    x.map f = .ok b ↔ ∃ a, x = .ok a ∧ f a = b := by
  cases x <;> simp [Except.map]

@[simp] theorem mapError_eq_ok {ε' : Type} {f : ε → ε'} {x : Except ε α} {a : α} :
    x.mapError f = .ok a ↔ x = .ok a := by
  cases x <;> simp [Except.mapError]

/-- Running a step on every item succeeds exactly when each item gives its value. -/
theorem mapM_eq_ok_iff {f : α → Except ε β} :
    ∀ {xs : List α} {bs : List β}, xs.mapM f = .ok bs ↔ List.Forall₂ (fun x b => f x = .ok b) xs bs
  | [], bs => by cases bs <;> simp [pure, Except.pure]
  | x :: xs, bs => by
    rw [List.mapM_cons]
    simp only [bind_eq_ok, pure_eq_ok, mapM_eq_ok_iff]
    cases bs with
    | nil => simp
    | cons b bs => simp [List.forall₂_cons]

/-- Running a step on every item succeeds when it succeeds on each. -/
theorem mapM_isOk {f : α → Except ε β} :
    ∀ {xs : List α}, (∀ x ∈ xs, ∃ b, f x = .ok b) → ∃ bs, xs.mapM f = .ok bs
  | [], _ => ⟨[], rfl⟩
  | x :: xs, h => by
    obtain ⟨b, hb⟩ := h x List.mem_cons_self
    obtain ⟨bs, hbs⟩ := mapM_isOk fun y hy => h y (List.mem_cons_of_mem x hy)
    exact ⟨b :: bs, by rw [List.mapM_cons, hb, hbs]; rfl⟩

/-- Running a step on a permutation of the items succeeds too, with a permutation
of the values. -/
theorem mapM_perm {f : α → Except ε β} {xs xs' : List α} {bs : List β} (hperm : xs'.Perm xs)
    (h : xs.mapM f = .ok bs) : ∃ bs', xs'.mapM f = .ok bs' ∧ bs'.Perm bs := by
  obtain ⟨bs', hF, hp⟩ := List.perm_comp_forall₂ hperm (mapM_eq_ok_iff.1 h)
  exact ⟨bs', mapM_eq_ok_iff.2 hF, hp⟩

/-- Pairing every item with the value of a step succeeds exactly when each item
gives its value; the pairs keep the items in order. -/
theorem mapM_pair_eq_ok_iff {f : α → Except ε β} :
    ∀ {xs : List α} {ps : List (β × α)},
      xs.mapM (fun x => return ((← f x), x)) = .ok ps ↔ ps.map (·.2) = xs ∧ ∀ p ∈ ps, f p.2 = .ok p.1
  | [], ps => by cases ps <;> simp [pure, Except.pure]
  | x :: xs, ps => by
    rw [List.mapM_cons]
    cases ps with
    | nil => simp
    | cons p ps =>
      simp only [bind_eq_ok, pure_eq_ok, mapM_pair_eq_ok_iff, List.map_cons, List.cons.injEq,
        List.forall_mem_cons]
      constructor
      · rintro ⟨q, ⟨b, hb, rfl⟩, qs, ⟨hqs, hall⟩, hp, rfl⟩
        subst hp
        exact ⟨⟨rfl, hqs⟩, hb, hall⟩
      · rintro ⟨⟨hx, hps⟩, hp, hall⟩
        obtain ⟨b, y⟩ := p
        subst hx
        exact ⟨(b, y), ⟨b, hp, rfl⟩, ps, ⟨hps, hall⟩, rfl, rfl⟩

/-- A filtering step succeeds on a list exactly when it succeeds on every item;
the values are then those its items give. -/
theorem filterMapM_eq_ok_iff {f : α → Except ε (Option β)} :
    ∀ {xs : List α} {ys : List β}, xs.filterMapM f = .ok ys ↔
      (∀ x ∈ xs, ∃ o, f x = .ok o) ∧ ys = xs.filterMap fun x => (f x).toOption.join
  | [], ys => by simp [pure, Except.pure, eq_comm]
  | x :: xs, ys => by
    rw [List.filterMapM_cons]
    cases hx : f x with
    | error e => simp [hx, bind, Except.bind]
    | ok o => cases o <;> simp [hx, filterMapM_eq_ok_iff, Except.toOption, @eq_comm _ ys]

/-- A loop whose every round yields what a step returns runs the step's fold. -/
theorem forIn_eq_foldlM_of {body : α → β → Except ε (ForInStep β)}
    (step : β → α → Except ε β) (h : ∀ a b, body a b = ForInStep.yield <$> step b a)
    (l : List α) (init : β) : forIn l init body = l.foldlM step init := by
  have hbody : body = fun a b => ForInStep.yield <$> step b a := funext fun a => funext (h a)
  subst hbody
  rw [List.forIn_yield_eq_foldlM (fun a b => step b a) (fun _ _ c => c) init]
  simp

theorem toOption_join_eq_some {x : Except ε (Option α)} {a : α} :
    x.toOption.join = some a ↔ x = .ok (some a) := by
  cases x <;> simp [Except.toOption]

end Except
end Geocube
