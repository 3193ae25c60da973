import CaseAutomation.Base.Values

/-! # Exceptions

    The connector error taxonomy (`connectors/errors.py`) and the exceptions
    the orchestrator raises or receives.
-/

namespace CaseAutomation

/-- The five terminal classes of `ConnectorError`. -/
inductive ConnectorErrorClass where
  | AuthError
  | RateLimitError
  | NotFoundError
  | TransientError
  | FatalError
  deriving DecidableEq, Repr

namespace ConnectorErrorClass

/-- The class attribute `retryable`. -/
def retryable : ConnectorErrorClass → Bool
  | .AuthError => false
  | .RateLimitError => true
  | .NotFoundError => false
  | .TransientError => true
  | .FatalError => false

/-- `type(exc).__name__`. -/
def name : ConnectorErrorClass → String
  | .AuthError => "AuthError"
  | .RateLimitError => "RateLimitError"
  | .NotFoundError => "NotFoundError"
  | .TransientError => "TransientError"
  | .FatalError => "FatalError"

end ConnectorErrorClass

/-- Exceptions (subclasses of `Exception`). -/
inductive Exn where
  /-- A `ConnectorError` of one of the terminal classes. -/
  | connector (cls : ConnectorErrorClass) (source detail : String)
  /-- `gates.GateResolutionError`. -/
  | gate_resolution (reason : String) (status_code : Nat)
  /-- `store.IllegalTransitionError`. -/
  | illegal_transition (message : String)
  | key_error (message : String)
  | value_error (message : String)
  | type_error (message : String)
  | assertion_error
  | recursion_error
  /-- Any other exception of a handler, a compensation or a storage driver. -/
  | other (cls message : String)
  deriving DecidableEq, Repr

namespace Exn

/-- `type(exc).__name__`. -/
def class_name : Exn → String
  | .connector cls _ _ => cls.name
  | .gate_resolution _ _ => "GateResolutionError"
  | .illegal_transition _ => "IllegalTransitionError"
  | .key_error _ => "KeyError"
  | .value_error _ => "ValueError"
  | .type_error _ => "TypeError"
  | .assertion_error => "AssertionError"
  | .recursion_error => "RecursionError"
  | .other cls _ => cls

/-- `str(exc)`; a `KeyError` shows the `repr` of its argument. -/
def to_str : Exn → String
  | .connector _ source detail => "[" ++ source ++ "] " ++ detail
  | .gate_resolution reason _ => reason
  | .illegal_transition message => message
  | .key_error message => repr_str message
  | .value_error message => message
  | .type_error message => message
  | .assertion_error => ""
  | .recursion_error => "maximum recursion depth exceeded"
  | .other _ message => message

end Exn

/-! ## Computations that return -/

/-- If a computation returns, its first part has returned. -/
theorem ok_of_bind {ε α β : Type} {x : Except ε α} {f : α → Except ε β} {b : β}
    (h : x >>= f = .ok b) : ∃ a, x = .ok a ∧ f a = .ok b := by
  cases x with
  | ok a => exact ⟨a, rfl, h⟩
  | error e => cases h

/-- What is known of the result of a computation that returns. -/
theorem ok_of_toOption_map {α β : Type} {x : Except Exn α} {f : α → β} {b : β}
    (h : x.toOption.map f = some b) : ∃ a, x = .ok a ∧ f a = b := by
  cases x with
  | ok a => exact ⟨a, rfl, by simpa [Except.toOption] using h⟩
  | error e => cases h

end CaseAutomation
