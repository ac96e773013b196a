namespace Mustache.Number

/-! Powers of the two bases in which numbers are written. -/

def twoTo (power : Nat) : Nat :=
  Nat.pow 2 power

def tenTo (power : Nat) : Nat :=
  Nat.pow 10 power

example : twoTo 10 = 1024 := by decide

example : tenTo 3 = 1000 := by decide

end Mustache.Number
