/-!
Computations that may fail, taken apart at their first step.
-/
namespace RecordStore

variable {ε α β : Type}

theorem ok_bind (a : α) (f : α → Except ε β) : (Except.ok a >>= f) = f a := rfl

theorem error_bind (e : ε) (f : α → Except ε β) : (Except.error e >>= f) = .error e := rfl

theorem bind_eq_ok {x : Except ε α} {f : α → Except ε β} {b : β}
    (h : (x >>= f) = .ok b) : ∃ a, x = .ok a ∧ f a = .ok b := by
  cases x with
  | error e => cases h
  | ok a => exact ⟨a, rfl, h⟩

theorem bind_ok_eq_error {x : Except ε α} {f : α → β} {e : ε}
    (h : (x >>= fun a => .ok (f a)) = .error e) : x = .error e := by
  cases x with
  | error e' => exact congrArg Except.error (Except.error.inj h)
  | ok a => cases h

def errorOf? (x : Except ε α) : Option ε :=
  match x with
  | .ok _ => none
  | .error e => some e

theorem errorOf?_eq_some {x : Except ε α} {e : ε} : errorOf? x = some e ↔ x = .error e := by
  cases x <;> simp [errorOf?]

/-- Of two computations the first that fails is reported. -/
theorem errorOf?_both {γ : Type} (x : Except ε α) (y : Except ε β) (f : α → β → γ) :
    errorOf? (do let a ← x; let b ← y; return f a b) = (errorOf? x).or (errorOf? y) := by
  cases x with
  | error e => rfl
  | ok a => cases y <;> rfl

/-- Whatever makes the computation fail has the property. -/
structure FailsOnly (Q : ε → Prop) (x : Except ε α) : Prop where
  of_error : ∀ e, x = .error e → Q e

variable {Q : ε → Prop}

theorem FailsOnly.ok (a : α) : FailsOnly Q (.ok a) := ⟨nofun⟩

theorem FailsOnly.error {e : ε} (h : Q e) : FailsOnly Q (.error e : Except ε α) := by
  constructor
  rintro _ ⟨⟩
  exact h

theorem FailsOnly.mono {Q' : ε → Prop} {x : Except ε α} (fails : FailsOnly Q x)
    (weaker : ∀ e, Q e → Q' e) : FailsOnly Q' x :=
  ⟨fun e h => weaker e (fails.of_error e h)⟩

theorem FailsOnly.bind_of_ok {x : Except ε α} {f : α → Except ε β} (first : FailsOnly Q x)
    (next : ∀ a, x = .ok a → FailsOnly Q (f a)) : FailsOnly Q (x >>= f) := by
  cases x with
  | error e => exact .error (first.of_error e rfl)
  | ok a => exact next a rfl

theorem FailsOnly.bind {x : Except ε α} {f : α → Except ε β} (first : FailsOnly Q x)
    (next : ∀ a, FailsOnly Q (f a)) : FailsOnly Q (x >>= f) :=
  first.bind_of_ok fun a _ => next a

theorem FailsOnly.mapError {ε' : Type} {Q : ε' → Prop} {f : ε → ε'} (each : ∀ e, Q (f e))
    (x : Except ε α) : FailsOnly Q (x.mapError f) := by
  cases x with
  | error e => exact .error (each e)
  | ok a => exact .ok a

theorem mapError_ok {ε' : Type} (f : ε → ε') (a : α) :
    (Except.ok a : Except ε α).mapError f = .ok a := rfl

theorem mapError_error {ε' : Type} (f : ε → ε') (e : ε) :
    (Except.error e : Except ε α).mapError f = .error (f e) := rfl

theorem mapError_eq_ok {ε' : Type} {x : Except ε α} {f : ε → ε'} {a : α} :
    x.mapError f = .ok a ↔ x = .ok a := by
  cases x <;> simp [mapError_ok, mapError_error]

/-- Two computations end alike if both succeed or both fail, with related results. -/
inductive EndsAlike {ε' : Type} (R : α → β → Prop) (Q : ε → ε' → Prop) :
    Except ε α → Except ε' β → Prop
  | ok {a : α} {b : β} : R a b → EndsAlike R Q (.ok a) (.ok b)
  | error {e : ε} {e' : ε'} : Q e e' → EndsAlike R Q (.error e) (.error e')

theorem EndsAlike.of_error {ε' : Type} {R : α → β → Prop} {Q : ε → ε' → Prop} {e : ε}
    {y : Except ε' β} (ends : EndsAlike R Q (.error e) y) : ∃ e', y = .error e' ∧ Q e e' := by
  cases ends with
  | error related => exact ⟨_, rfl, related⟩

theorem EndsAlike.to_error {ε' : Type} {R : α → β → Prop} {Q : ε → ε' → Prop} {e' : ε'}
    {x : Except ε α} (ends : EndsAlike R Q x (.error e')) : ∃ e, x = .error e ∧ Q e e' := by
  cases ends with
  | error related => exact ⟨_, rfl, related⟩

theorem EndsAlike.mono_of_fails {ε' : Type} {R : α → β → Prop} {S T : ε → ε' → Prop}
    {P : ε → Prop} {P' : ε' → Prop} {x : Except ε α} {y : Except ε' β} (ends : EndsAlike R S x y)
    (fails : FailsOnly P x) (fails' : FailsOnly P' y) (weaker : ∀ e e', P e → P' e' → T e e') :
    EndsAlike R T x y := by
  cases ends with
  | ok related => exact .ok related
  | error _ => exact .error (weaker _ _ (fails.of_error _ rfl) (fails'.of_error _ rfl))

theorem EndsAlike.mapError {ε' : Type} {R : α → β → Prop} {x : Except ε α} {y : Except ε β}
    (ends : EndsAlike R Eq x y) (f : ε → ε') : EndsAlike R Eq (x.mapError f) (y.mapError f) := by
  cases ends with
  | ok related => exact .ok related
  | error same => exact .error (congrArg f same)

theorem EndsAlike.of_map {ε' α' β' : Type} {R : α' → β' → Prop} {Q : ε → ε' → Prop}
    {f : α → α'} {g : β → β'} {x : Except ε α} {y : Except ε' β}
    (ends : EndsAlike R Q (x.map f) (y.map g)) : EndsAlike (fun a b => R (f a) (g b)) Q x y := by
  cases x with
  | error e =>
    cases y with
    | error e' =>
      obtain - | related := ends
      exact .error related
    | ok b => cases ends
  | ok a =>
    cases y with
    | error e' => cases ends
    | ok b =>
      obtain related | - := ends
      exact .ok related

theorem eq_none_or_some_of_rel {R : α → β → Prop} {x : Option α} {y : Option β}
    (rel : Option.Rel R x y) :
    (x = none ∧ y = none) ∨ ∃ a b, x = some a ∧ y = some b ∧ R a b := by
  cases rel with
  | none => exact .inl ⟨rfl, rfl⟩
  | some related => exact .inr ⟨_, _, rfl, rfl, related⟩

/-- On fixed inputs an answer can be compared even where errors cannot. -/
theorem eq_ok_of_toOption {ε α : Type} {x : Except ε α} {a : α} (h : x.toOption = some a) :
    x = .ok a := by
  cases x with
  | error e => cases h
  | ok b => exact congrArg Except.ok (Option.some.inj h)

theorem mapM_eq_ok_iff {f : α → Except ε β} {xs : List α} {ys : List β} :
    xs.mapM f = .ok ys ↔ xs.map f = ys.map .ok := by
  induction xs generalizing ys with
  | nil => cases ys <;> simp [pure, Except.pure]
  | cons x xs ih =>
    rw [List.mapM_cons]
    cases first : f x with
    | error e => cases ys <;> simp [error_bind, first]
    | ok y =>
      cases rest : xs.mapM f with
      | error e =>
        rw [ok_bind, error_bind]
        cases ys with
        | nil => simp
        | cons z zs => simp [first, ← ih, rest]
      | ok zs =>
        cases ys with
        | nil => simp [ok_bind, pure, Except.pure]
        | cons w ws => simp [ok_bind, pure, Except.pure, first, ← ih, rest]

theorem mapM_eq_error {f : α → Except ε β} {xs : List α} {e : ε} (h : xs.mapM f = .error e) :
    ∃ x ∈ xs, f x = .error e := by
  induction xs with
  | nil => cases h
  | cons x xs ih =>
    rw [List.mapM_cons] at h
    cases first : f x with
    | error e' =>
      rw [first] at h
      cases h
      exact ⟨x, List.mem_cons_self .., first⟩
    | ok y =>
      rw [first, ok_bind] at h
      cases rest : xs.mapM f with
      | error e' =>
        rw [rest] at h
        cases h
        obtain ⟨x', mem, failed⟩ := ih rest
        exact ⟨x', List.mem_cons_of_mem _ mem, failed⟩
      | ok ys =>
        rw [rest] at h
        cases h

theorem FailsOnly.mapM {f : α → Except ε β} (each : ∀ a, FailsOnly Q (f a)) (xs : List α) :
    FailsOnly Q (xs.mapM f) := by
  constructor
  intro e failed
  obtain ⟨x, _, failed⟩ := mapM_eq_error failed
  exact (each x).of_error e failed

theorem mapM_perm {f : α → Except ε β} {xs ys : List α} {as bs : List β} (perm : xs.Perm ys)
    (first : xs.mapM f = .ok as) (second : ys.mapM f = .ok bs) : as.Perm bs := by
  have mapped := perm.map f
  rw [mapM_eq_ok_iff.mp first, mapM_eq_ok_iff.mp second] at mapped
  have values := mapped.filterMap Except.toOption
  simpa [List.filterMap_map, Function.comp_def, Except.toOption] using values

theorem not_ok_of_perm_error {f : α → Except ε β} {xs ys : List α} {as : List β} {e : ε}
    (perm : xs.Perm ys) (first : xs.mapM f = .ok as) : ys.mapM f ≠ .error e := by
  intro second
  obtain ⟨y, mem, failed⟩ := mapM_eq_error second
  have mapped : f y ∈ as.map Except.ok := by
    rw [← mapM_eq_ok_iff.mp first]
    exact List.mem_map_of_mem (perm.mem_iff.mpr mem)
  obtain ⟨a, _, same⟩ := List.mem_map.mp mapped
  rw [failed] at same
  cases same

theorem mapM_ok_of_perm {f : α → Except ε β} {xs ys : List α} {as : List β} (perm : xs.Perm ys)
    (first : xs.mapM f = .ok as) : ∃ bs, ys.mapM f = .ok bs ∧ as.Perm bs := by
  cases second : ys.mapM f with
  | ok bs => exact ⟨bs, rfl, mapM_perm perm first second⟩
  | error e => exact absurd second (not_ok_of_perm_error perm first)

end RecordStore
