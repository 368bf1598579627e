/-! Steps against a changing store. A step may fail, and what it did to the store
before it failed stays done: undoing is the business of whoever takes the step. -/

namespace DepositLedger

/-- A step against a store of type `σ`, which fails with `ε` or answers with `α`. -/
def Action (σ ε α : Type) : Type := σ → Except ε α × σ

namespace Action

variable {σ ε φ α β : Type}

def succeed (answer : α) : Action σ ε α := fun state => (.ok answer, state)

def fail (fault : ε) : Action σ ε α := fun state => (.error fault, state)

/-- Takes the second step, on the answer of the first, unless the first fails. -/
def andThen (first : Action σ ε α) (second : α → Action σ ε β) : Action σ ε β :=
  fun state =>
    match first state with
    | (.ok answer, state) => second answer state
    | (.error fault, state) => (.error fault, state)

instance : Monad (Action σ ε) where
  pure := succeed
  bind := andThen

/-- A step that leaves the store alone. -/
def ofExcept (result : Except ε α) : Action σ ε α := fun state => (result, state)

/-- A step that reads the store and leaves it alone. -/
def inspect (read : σ → Except ε α) : Action σ ε α := fun state => (read state, state)

/-- A step that changes the store unless it fails. -/
def alter (change : σ → Except ε σ) : Action σ ε Unit :=
  fun state =>
    match change state with
    | .ok changed => (.ok (), changed)
    | .error fault => (.error fault, state)

/-- The same step with its faults reported in other terms. -/
def mapError (report : ε → φ) (step : Action σ ε α) : Action σ φ α :=
  fun state =>
    match step state with
    | (.ok answer, state) => (.ok answer, state)
    | (.error fault, state) => (.error (report fault), state)

/-- Takes the step and answers with its outcome, so that a fault does not stop
what follows. -/
def attempt (step : Action σ ε α) : Action σ φ (Except ε α) :=
  fun state =>
    match step state with
    | (outcome, state) => (.ok outcome, state)

/-- Takes a step against the store and a part `υ` that belongs to the taker, and
answers with its outcome and what became of the part. -/
def attemptWith {υ : Type} (part : υ) (step : Action (σ × υ) ε α) :
    Action σ φ (Except ε α × υ) :=
  fun state =>
    match step (state, part) with
    | (outcome, (state, part)) => (.ok (outcome, part), state)

/-- A step against the store as a step against the store and a part beside it. -/
def lift {υ : Type} (step : Action σ ε α) : Action (σ × υ) ε α :=
  fun (state, part) =>
    match step state with
    | (outcome, state) => (outcome, (state, part))

@[simp] theorem pure_apply (answer : α) (state : σ) :
    (pure answer : Action σ ε α) state = (.ok answer, state) := rfl

@[simp] theorem fail_apply (fault : ε) (state : σ) :
    (fail fault : Action σ ε α) state = (.error fault, state) := rfl

@[simp] theorem bind_apply (first : Action σ ε α) (second : α → Action σ ε β) (state : σ) :
    (first >>= second) state =
      match first state with
      | (.ok answer, state) => second answer state
      | (.error fault, state) => (.error fault, state) := rfl

instance : LawfulMonad (Action σ ε) :=
  LawfulMonad.mk' _
    (fun step => by
      funext state
      change andThen step (fun answer => succeed answer) state = step state
      unfold andThen succeed
      rcases step state with ⟨_ | _, _⟩ <;> rfl)
    (fun _ _ => rfl)
    (fun first second third => by
      funext state
      change andThen (andThen first second) third state =
        andThen first (fun answer => andThen (second answer) third) state
      unfold andThen
      rcases first state with ⟨_ | _, _⟩ <;> rfl)

end Action

end DepositLedger
