/-!
# Outcomes of fallible calls

A call that can fail in two ways: it returns an error to its caller, or it panics and
never returns.
-/
namespace Execution

inductive Outcome (Error Value : Type) where
  | ok (value : Value)
  | err (error : Error)
  | panicked
  deriving DecidableEq, Repr

namespace Outcome

variable {Error Error' Value Value' : Type}

/-- Convert the error a callee returned into the caller's own error type. -/
def mapErr (f : Error → Error') : Outcome Error Value → Outcome Error' Value
  | .ok value => .ok value
  | .err error => .err (f error)
  | .panicked => .panicked

def ofExcept : Except Error Value → Outcome Error Value
  | .ok value => .ok value
  | .error error => .err error

/-- Replace the value of a call that succeeded. -/
def map (f : Value → Value') : Outcome Error Value → Outcome Error Value'
  | .ok value => .ok (f value)
  | .err error => .err error
  | .panicked => .panicked

theorem mapErr_eq_ok_iff (f : Error → Error') (outcome : Outcome Error Value) (value : Value) :
    outcome.mapErr f = .ok value ↔ outcome = .ok value := by
  cases outcome <;> simp [mapErr]

theorem map_eq_ok_iff (f : Value → Value') (outcome : Outcome Error Value) (value : Value') :
    outcome.map f = .ok value ↔ ∃ before, outcome = .ok before ∧ f before = value := by
  cases outcome <;> simp [map]

/-- The error and the value of a call are replaced independently. -/
theorem map_mapErr (f : Error → Error') (g : Value → Value') (outcome : Outcome Error Value) :
    (outcome.mapErr f).map g = (outcome.map g).mapErr f := by
  cases outcome <;> rfl

theorem ofExcept_eq_ok_iff (result : Except Error Value) (value : Value) :
    ofExcept result = .ok value ↔ result = .ok value := by
  cases result <;> simp [ofExcept]

theorem ofExcept_eq_err_iff (result : Except Error Value) (error : Error) :
    ofExcept result = .err error ↔ result = .error error := by
  cases result <;> simp [ofExcept]

end Outcome

end Execution
