/-! Fetching a document from a source that may fail, with retries. Waiting times double up to a
limit, and a wait that the source asks for takes their place. -/

namespace DesignCompiler.Fetch

/-- A span of time in nanoseconds. -/
abbrev Span := Nat

/-- The longest span: all seconds that 64 bits count, and all but one nanosecond more. -/
def longestSpan : Span := (UInt64.size - 1) * 1000000000 + 999999999

def milliseconds (n : Nat) : Span := n * 1000000

def Span.toMilliseconds (s : Span) : Nat := s / 1000000

def Span.toSeconds (s : Span) : Nat := s / 1000000000

/-- Why a document could not be fetched. -/
inductive FetchError where
  /-- The request failed, with the status the source gave if it answered. -/
  | requestFailed (status : Option Nat) (message : String)
  /-- The source asks to wait. -/
  | rateLimited (retryAfter : Option Span)
  | auth (message : String)
  | retriesExhausted (attempts : Nat) (last : FetchError)
  deriving DecidableEq, Repr

namespace FetchError

/-- The error in words. -/
def message : FetchError → String
  | requestFailed status message =>
    "Upstream request failed" ++
      (match status with
        | some s => " with status " ++ toString s
        | none => "") ++ ": " ++ message
  | rateLimited retryAfter =>
    "Rate limited" ++
      match retryAfter with
      | some d => ", retry after " ++ toString d.toSeconds ++ "s"
      | none => ""
  | auth message => "Authentication failed: " ++ message
  | retriesExhausted attempts last =>
    "Gave up after " ++ toString attempts ++ " attempts: " ++ last.message

/-- Whether another attempt may succeed: after a request to wait, and after a failure on the side
of the source or on the way to it. -/
def isRetryable : FetchError → Bool
  | rateLimited _ => true
  | requestFailed none _ => true
  | requestFailed (some status) _ => 500 ≤ status
  | auth _ => false
  | retriesExhausted _ _ => false

/-- The wait that the source asks for. -/
def retryAfter : FetchError → Option Span
  | rateLimited d => d
  | _ => none

end FetchError

/-- How often to try again, and how long to wait. -/
structure RetryPolicy where
  maxRetries : Nat
  baseDelay : Span
  maxDelay : Span
  deriving DecidableEq, Repr

namespace RetryPolicy

def standard : RetryPolicy := ⟨3, milliseconds 1000, milliseconds 30000⟩

/-- Powers of two, as far as 32 bits hold them. -/
def factor (attempt : Nat) : Nat := if attempt < 32 then Nat.pow 2 attempt else UInt32.size - 1

/-- The wait before a retry, numbered from zero. -/
def delay (p : RetryPolicy) (attempt : Nat) (hint : Option Span) : Span :=
  match hint with
  | some d => d
  | none => min (min (p.baseDelay * factor attempt) longestSpan) p.maxDelay

end RetryPolicy

/-- A source answers the request number `n` for a key. -/
abbrev Source (α : Type) := Nat → String → Except FetchError α

/-- A run: the waits, the keys of the requests, and how it ended. -/
structure Run (α : Type) where
  sleeps : List Span
  requests : List String
  result : Except FetchError α

/-- One request more that ends the run. -/
def Run.last {α : Type} (key : String) (result : Except FetchError α) : Run α :=
  ⟨[], [key], result⟩

/-- Go on after `attempt` failed requests, with so many retries left. -/
def retryFrom {α : Type} (source : Source α) (key : String) (policy : RetryPolicy)
    (attempt : Nat) : Nat → Run α
  | 0 => .last key <|
    match source attempt key with
    | .ok a => .ok a
    | .error e => .error (if e.isRetryable then .retriesExhausted (attempt + 1) e else e)
  | left + 1 =>
    match source attempt key with
    | .ok a => .last key (.ok a)
    | .error e =>
      if e.isRetryable then
        let rest := retryFrom source key policy (attempt + 1) left
        { sleeps := policy.delay attempt e.retryAfter :: rest.sleeps
          requests := key :: rest.requests
          result := rest.result }
      else .last key (.error e)

/-- Fetch a document, trying again as the policy says. -/
def fetch {α : Type} (source : Source α) (key : String) (policy : RetryPolicy) : Run α :=
  retryFrom source key policy 0 policy.maxRetries

end DesignCompiler.Fetch
