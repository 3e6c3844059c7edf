import PageFlow.Duration
import PageFlow.Json.Decode

/-! How often a failed attempt is repeated and how long to wait before that. -/
namespace PageFlow

/-- How the wait grows: by one delay an attempt, or twofold. -/
inductive Backoff where
  | linear
  | exponential
deriving DecidableEq, Repr

def Backoff.name : Backoff → String
  | .linear => "linear"
  | .exponential => "exponential"

def wordMax : Nat := 2 ^ 32 - 1

structure RetryPolicy where
  retries : Nat
  delay : Duration
  backoff : Backoff
deriving DecidableEq, Repr

namespace RetryPolicy

def linear (retries : Nat) (delay : Duration) : RetryPolicy := ⟨retries, delay, .linear⟩
def exponential (retries : Nat) (delay : Duration) : RetryPolicy := ⟨retries, delay, .exponential⟩

def withRetries (p : RetryPolicy) (retries : Nat) : RetryPolicy := { p with retries := retries }

def maxAttempts (p : RetryPolicy) : Nat := min (p.retries + 1) wordMax

/-- The wait after attempt number `attempt`, counted from 0, has failed. -/
def delayAfter (p : RetryPolicy) (attempt : Nat) : Duration :=
  match p.backoff with
  | .linear => p.delay.saturatingMul (min (attempt + 1) wordMax)
  | .exponential => p.delay.saturatingMul (2 ^ min attempt 16)

def readMillis (d : Json.Doc) : Json.Read Duration := (Json.word64 d).map Duration.ofMillis

def readBackoff : Json.Doc → Json.Read Backoff :=
  Json.variant [("linear", .linear), ("exponential", .exponential)]

def fields : Json.Fields RetryPolicy :=
  RetryPolicy.mk <$> Json.field "retries" Json.word32 <*> Json.field "delayMs" readMillis
    <*> Json.field "backoff" readBackoff

def read : Json.Doc → Json.Read RetryPolicy := Json.record "RetryPolicy" fields

end RetryPolicy
end PageFlow
