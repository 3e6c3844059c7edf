import PageFlow.Engine.Op
import PageFlow.Retry

/-! Repeating what failed: attempts are numbered from 0, the wait that the policy sets stands
between two of them, and the last error is the error of the whole. -/
namespace PageFlow
namespace Engine

/-- `left` more attempts may follow attempt number `attempt`. -/
def attemptsFrom (policy : RetryPolicy) (op : Nat → Attempt τ) : Nat → Nat → Attempt τ
  | 0, attempt => op attempt
  | left + 1, attempt => do
    match ← outcome (op attempt) with
    | .ok v => pure v
    | .error _ => do
      sleep (policy.delayAfter attempt)
      attemptsFrom policy op left (attempt + 1)

def withRetry (policy : RetryPolicy) (op : Nat → Attempt τ) : Attempt τ :=
  attemptsFrom policy op policy.retries 0

/-- The error of an operation of which every attempt failed. -/
def exhausted (operation : String) (policy : RetryPolicy) (source : FlowError) : FlowError :=
  .retryExhausted operation policy.maxAttempts source

/-- Repeats an operation and names it in the error when every attempt failed. -/
def withRetryNamed (operation : String) (policy : RetryPolicy) (op : Nat → Attempt τ) :
    Attempt τ := do
  match ← outcome (withRetry policy op) with
  | .ok v => pure v
  | .error e => throw (exhausted operation policy e)

end Engine
end PageFlow
