import Mathlib.Tactic.TypeStar

namespace NodeRdkafka

structure RefCounter where
  currentValue : Int := 0
  isRunning : Bool := false
  deriving DecidableEq

namespace RefCounter

/-- The counter after an increment, and whether onActive is called. -/
def increment (r : RefCounter) : RefCounter × Bool :=
  let currentValue := r.currentValue + 1
  if 0 < currentValue ∧ r.isRunning = false then ({ currentValue, isRunning := true }, true)
  else ({ r with currentValue }, false)

/-- The counter after a decrement, and whether onPassive is called. -/
def decrement (r : RefCounter) : RefCounter × Bool :=
  let currentValue := r.currentValue - 1
  if currentValue ≤ 0 ∧ r.isRunning = true then ({ currentValue, isRunning := false }, true)
  else ({ r with currentValue }, false)

end RefCounter
end NodeRdkafka
