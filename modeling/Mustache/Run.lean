import Mustache.Text.Bytes

namespace Mustache

/-! Runs that may not come to an end. A reader counts down, cuts out a part of a text or looks
something up by its number, and each time it relies on a condition that the types do not tell.
A run that comes to a broken condition ends there, unless it is told to pass over it. -/

/-- What a step relies on. -/
inductive Condition where
  /-- A round of a loop moves on from one place to a later one. -/
  | forward (before after : Nat)
  /-- A number is no smaller than what is taken off it. -/
  | covers (whole part : Nat)
  /-- Between two byte positions stands a part of the text. -/
  | encloses (text : List Char) (first last : Nat)
  /-- A list of some length has an item with the number. -/
  | numbers (number length : Nat)
deriving DecidableEq, Repr

def Condition.Holds : Condition → Prop
  | forward before after => before < after
  | covers whole part => part ≤ whole
  | encloses text first last => (Text.slice? text first last).isSome = true
  | numbers number length => number < length

instance : (condition : Condition) → Decidable condition.Holds
  | .forward before after => inferInstanceAs (Decidable (before < after))
  | .covers whole part => inferInstanceAs (Decidable (part ≤ whole))
  | .encloses text first last =>
    inferInstanceAs (Decidable ((Text.slice? text first last).isSome = true))
  | .numbers number length => inferInstanceAs (Decidable (number < length))

/-- Why a run ends without a result. -/
inductive Halt (Failure : Type) where
  | broken (condition : Condition)
  | failed (failure : Failure)
deriving DecidableEq, Repr

/-- Tell a failure in another way. -/
def Halt.retell {Failure Other : Type} (tell : Failure → Other) : Halt Failure → Halt Other
  | broken condition => broken condition
  | failed failure => failed (tell failure)

/-- A run is told which broken conditions it passes over. One that does not end has no
outcome. -/
abbrev Run (Failure Result : Type) :=
  ReaderT (Condition → Bool) (ExceptT (Halt Failure) Option) Result

/-- What a round of a loop comes to. -/
inductive Round (State Result : Type) where
  | goesOn (state : State)
  | ends (result : Result)
deriving DecidableEq, Repr

namespace Run

variable {Failure Other Result Next : Type}

def rely (condition : Condition) : Run Failure Unit := fun passesOver =>
  if condition.Holds ∨ passesOver condition = true then pure () else throw (.broken condition)

def fail (failure : Failure) : Run Failure Result :=
  throw (.failed failure)

def ofExcept : Except Failure Result → Run Failure Result
  | .ok result => pure result
  | .error failure => fail failure

def retell (tell : Failure → Other) (run : Run Failure Result) : Run Other Result :=
  fun passesOver => (run passesOver).adapt (Halt.retell tell)

/-! ## Equations of runs -/

theorem rely_of_holds {condition : Condition} (holds : condition.Holds) :
    (rely condition : Run Failure Unit) = pure () := by
  funext passesOver
  rw [rely, if_pos (.inl holds)]
  rfl

@[simp] theorem fail_bind (failure : Failure) (next : Result → Run Failure Next) :
    (fail failure >>= next) = fail failure := rfl

@[simp] theorem map_fail (change : Result → Next) (failure : Failure) :
    (change <$> fail failure : Run Failure Next) = fail failure := rfl

@[simp] theorem ofExcept_ok (result : Result) :
    (ofExcept (.ok result) : Run Failure Result) = pure result := rfl

@[simp] theorem ofExcept_error (failure : Failure) :
    (ofExcept (.error failure) : Run Failure Result) = fail failure := rfl

@[simp] theorem retell_pure (tell : Failure → Other) (result : Result) :
    retell tell (pure result) = pure result := rfl

@[simp] theorem retell_fail (tell : Failure → Other) (failure : Failure) :
    (retell tell (fail failure) : Run Other Result) = fail (tell failure) := rfl

end Run

/-- A loop goes round while it has not ended, and each round moves its place on. -/
structure Loop (Failure State Result : Type) where
  place : State → Nat
  round : State → Run Failure (Round State Result)

namespace Loop

variable {Failure State Result : Type}

def run (loop : Loop Failure State Result) (state : State) : Run Failure Result := do
  match ← loop.round state with
  | .ends result => return result
  | .goesOn next =>
    Run.rely (.forward (loop.place state) (loop.place next))
    loop |>.run next
partial_fixpoint

variable {loop : Loop Failure State Result} {state next : State}

theorem run_of_ends {result : Result} (ends : loop.round state = pure (.ends result)) :
    loop.run state = pure result := by
  rw [run, ends, pure_bind]

theorem run_of_goesOn (goesOn : loop.round state = pure (.goesOn next))
    (forward : loop.place state < loop.place next) : loop.run state = loop.run next := by
  have relied : (Run.rely (.forward (loop.place state) (loop.place next)) : Run Failure Unit) =
      pure () := Run.rely_of_holds forward
  rw [run, goesOn, pure_bind]
  simp only [relied, pure_bind]

theorem run_of_fails {failure : Failure} (fails : loop.round state = Run.fail failure) :
    loop.run state = Run.fail failure := by
  rw [run, fails, Run.fail_bind]

end Loop

end Mustache
