import Mustache.Error
import Mustache.Output
import Mustache.Scopes

namespace Mustache

/-! The program around a rendering. It may bind further names, read the pragmas
of every template before it renders, and end a rendering. What it remembers from
one question to the next is its state. -/

structure Host (State Lambda : Type) where
  /-- Further names for the root scope, asked for once before a rendering. -/
  values : Scopes Lambda → Output → State → Except Error (Bindings Lambda) × State
  /-- Asked about the root template and about each included one before it renders. -/
  inspect : Template → State → Except Error Unit × State
  /-- Asked before each section and each inclusion. -/
  proceed : State → Bool × State

namespace Host

variable {Lambda : Type}

/-- A host that binds no names and lets everything pass. -/
def permissive : Host Unit Lambda where
  values _ _ state := (.ok [], state)
  inspect _ state := (.ok (), state)
  proceed state := (true, state)

end Host

end Mustache
