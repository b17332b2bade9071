import DesignCompiler.Fetch
import Mathlib.Algebra.Group.Nat.Defs
import Mathlib.Data.Nat.Find
import Mathlib.Order.MinMax

/-! How often a source is asked, how long is waited in between, and what the last answer becomes.
All of it follows from the run lemma: as long as another attempt may succeed and retries are left, a
run waits and goes on as the run that starts one request later. -/
namespace DesignCompiler.Fetch

/-- Whether a response ends a run by itself: a document does, and so does an error that no other
attempt can mend. -/
def isFinal {α : Type} : Except FetchError α → Bool
  | .ok _ => true
  | .error e => !e.isRetryable

/-- The wait that a response asks for. -/
def hint? {α : Type} : Except FetchError α → Option Span
  | .ok _ => none
  | .error e => e.retryAfter

/-- The wait before a retry for which the source gives no hint: the base delay doubled each time, in
32-bit powers and 64-bit seconds that stay at their largest value, and never above the limit. -/
def RetryPolicy.backoff (p : RetryPolicy) (i : ℕ) : Span :=
  min (min (p.baseDelay * min (2^i) (2^32-1)) longestSpan) p.maxDelay

namespace RetryPolicy

lemma factor_eq (i : ℕ) : factor i = min (2^i) (2^32-1) := by
  change (if i < 32 then 2^i else 2^32-1) = _
  split_ifs with hi
  · have hle : 2^i ≤ 2^31 := Nat.pow_le_pow_right (by decide) (by omega)
    exact (min_eq_left (by omega)).symm
  · have hle : 2^32 ≤ 2^i := Nat.pow_le_pow_right (by decide) (by omega)
    exact (min_eq_right (by omega)).symm

lemma delay_eq (p : RetryPolicy) (i : ℕ) (hint : Option Span) :
    p.delay i hint = hint.getD (p.backoff i) := by
  cases hint with
  | none => rw [delay, factor_eq, Option.getD_none, backoff]
  | some d => rfl

theorem backoff_le (p : RetryPolicy) (i : ℕ) : p.backoff i ≤ p.maxDelay := min_le_right _ _

theorem monotone_backoff (p : RetryPolicy) : Monotone p.backoff := by
  intro i j hij
  have hpow : 2^i ≤ 2^j := Nat.pow_le_pow_right (by decide) hij
  have hfactor : min (2^i) (2^32-1) ≤ min (2^j) (2^32-1) := min_le_min_right _ hpow
  exact min_le_min_right _ (min_le_min_right _ (Nat.mul_le_mul_left _ hfactor))

end RetryPolicy

section
variable {α : Type} (source : Source α) (key : String) (policy : RetryPolicy)

/-- The first response that ends the run by itself is the one to the request with a number. -/
def FirstFinal (k : ℕ) : Prop :=
  isFinal (source k key) = true ∧ ∀ i < k, isFinal (source i key) = false

/-- The wait after a response that does not end the run. -/
def waitAfter (i : ℕ) : Span := (hint? (source i key)).getD (policy.backoff i)

/-- What retrying promises about a run. -/
structure Disciplined (run : Run α) : Prop where
  /-- The first response that ends the run is returned, when it comes before the retries are used
  up. -/
  decided : ∀ k ≤ policy.maxRetries, FirstFinal source key k →
    run.requests.length = k+1 ∧ run.sleeps.length = k ∧ run.result = source k key
  /-- Otherwise the run gives up, with the last error. -/
  exhausted : (¬ ∃ k ≤ policy.maxRetries, FirstFinal source key k) →
    run.requests.length = policy.maxRetries+1 ∧ run.sleeps.length = policy.maxRetries ∧
      ∃ e, source policy.maxRetries key = .error e ∧
        run.result = .error (.retriesExhausted (policy.maxRetries+1) e)
  keyed : ∀ k ∈ run.requests, k = key
  slept : ∀ i d, run.sleeps[i]? = some d → d = (hint? (source i key)).getD (policy.backoff i)
  bounded : ∀ i, policy.backoff i ≤ policy.maxDelay
  increasing : Monotone policy.backoff

variable {source key policy}

lemma exists_of_isFinal_eq_false {r : Except FetchError α} (h : isFinal r = false) :
    ∃ e, r = .error e ∧ e.isRetryable = true := by
  cases r with
  | ok a => contradiction
  | error e => exact ⟨e,rfl,by simpa [isFinal] using h⟩

/-- A response that ends the run is what the run returns. -/
lemma retryFrom_of_isFinal {a : ℕ} (h : isFinal (source a key) = true) (left : ℕ) :
    retryFrom source key policy a left = .last key (source a key) := by
  cases hr : source a key with
  | ok d => cases left <;> simp only [retryFrom, hr]
  | error e =>
    have he : e.isRetryable = false := by simpa [hr, isFinal] using h
    cases left <;> simp [retryFrom, hr, he]

/-- Without retries left the run gives up. -/
lemma retryFrom_zero {a : ℕ} {e : FetchError} (hr : source a key = .error e)
    (he : e.isRetryable = true) :
    retryFrom source key policy a 0 = .last key (.error (.retriesExhausted (a+1) e)) := by
  simp only [retryFrom, hr, he, if_true]

/-- With a retry left the run waits and goes on. -/
lemma retryFrom_succ {a : ℕ} (h : isFinal (source a key) = false) (left : ℕ) :
    retryFrom source key policy a (left+1) =
      { sleeps := waitAfter source key policy a ::
          (retryFrom source key policy (a+1) left).sleeps
        requests := key :: (retryFrom source key policy (a+1) left).requests
        result := (retryFrom source key policy (a+1) left).result } := by
  obtain ⟨e,hr,he⟩ := exists_of_isFinal_eq_false h
  rw [waitAfter, hr, hint?, ← RetryPolicy.delay_eq]
  simp only [retryFrom, hr, he, if_true]

/-- After `n` responses that do not end it, a run has waited `n` times and goes on from there. -/
theorem retryFrom_add (policy : RetryPolicy) {a n : ℕ}
    (h : ∀ i < n, isFinal (source (a+i) key) = false) (left : ℕ) :
    retryFrom source key policy a (n+left) =
      { sleeps := (List.range n).map (fun i => waitAfter source key policy (a+i)) ++
          (retryFrom source key policy (a+n) left).sleeps
        requests := List.replicate n key ++ (retryFrom source key policy (a+n) left).requests
        result := (retryFrom source key policy (a+n) left).result } := by
  induction n generalizing a with
  | zero => rw [Nat.zero_add]; rfl
  | succ n ih =>
    have hnext : ∀ i < n, isFinal (source (a+1+i) key) = false := by
      intro i hi
      have hs := h (i+1) (by omega)
      rwa [show a+(i+1) = a+1+i by omega] at hs
    have hwaits : (List.range (n+1)).map (fun i => waitAfter source key policy (a+i)) =
        waitAfter source key policy a ::
          (List.range n).map (fun i => waitAfter source key policy (a+1+i)) := by
      rw [List.range_succ_eq_map, List.map_cons, List.map_map]
      refine congrArg _ (List.map_congr_left fun i _ => ?_)
      exact congrArg (waitAfter source key policy) (Nat.succ_add_eq_add_succ a i).symm
    have hfirst : isFinal (source a key) = false := h 0 (Nat.succ_pos n)
    rw [Nat.add_right_comm, retryFrom_succ hfirst, ih hnext, hwaits,
      show a+(n+1) = a+1+n by omega]
    rfl

/-- A run whose request number `k` is the first one with a final response, retries being left for
it. -/
lemma fetch_of_firstFinal {k : ℕ} (hk : k ≤ policy.maxRetries) (h : FirstFinal source key k) :
    fetch source key policy =
      ⟨(List.range k).map (waitAfter source key policy),List.replicate (k+1) key,source k key⟩ := by
  have hrun := retryFrom_add policy (a := 0)
    (fun i hi => by rw [Nat.zero_add]; exact h.2 i hi) (policy.maxRetries-k)
  rw [Nat.add_sub_cancel' hk] at hrun
  rw [fetch, hrun, Nat.zero_add, retryFrom_of_isFinal h.1, List.replicate_succ']
  simp [Run.last]

/-- A run in which no response up to the last retry is final. -/
lemma fetch_of_not_final (h : ∀ i ≤ policy.maxRetries, isFinal (source i key) = false) :
    ∃ e, source policy.maxRetries key = .error e ∧ fetch source key policy =
      ⟨(List.range policy.maxRetries).map (waitAfter source key policy),
        List.replicate (policy.maxRetries+1) key,
        .error (.retriesExhausted (policy.maxRetries+1) e)⟩ := by
  obtain ⟨e,hr,he⟩ := exists_of_isFinal_eq_false (h policy.maxRetries le_rfl)
  have hrun := retryFrom_add policy (a := 0) (n := policy.maxRetries)
    (fun i hi => by rw [Nat.zero_add]; exact h i hi.le) 0
  refine ⟨e,hr,?_⟩
  rw [Nat.add_zero] at hrun
  rw [fetch, hrun, Nat.zero_add, retryFrom_zero hr he, List.replicate_succ']
  simp [Run.last]

/-- Either some response ends the run in time, and then there is a first one, or none does. -/
lemma firstFinal_or_not_final (source : Source α) (key : String) (n : ℕ) :
    (∃ k ≤ n, FirstFinal source key k) ∨ ∀ i ≤ n, isFinal (source i key) = false := by
  by_cases h : ∃ i, i ≤ n ∧ isFinal (source i key) = true
  · have hle : Nat.find h ≤ n := (Nat.find_spec h).1
    refine .inl ⟨Nat.find h,hle,(Nat.find_spec h).2,?_⟩
    intro i hi
    exact eq_false_of_ne_true fun hf => Nat.find_min h hi ⟨hi.le.trans hle,hf⟩
  · refine .inr fun i hi => eq_false_of_ne_true fun hf => h ⟨i,hi,hf⟩

lemma FirstFinal.unique {k l : ℕ} (hk : FirstFinal source key k) (hl : FirstFinal source key l) :
    k = l := by
  rcases Nat.lt_trichotomy k l with h | h | h
  · exact absurd hk.1 (by simp [hl.2 k h])
  · exact h
  · exact absurd hl.1 (by simp [hk.2 l h])

end

/-- Every run keeps to the discipline, whatever the source answers. -/
theorem fetch_disciplined {α : Type} (source : Source α) (key : String) (policy : RetryPolicy) :
    Disciplined source key policy (fetch source key policy) := by
  have hslept : ∀ n i d, ((List.range n).map (waitAfter source key policy))[i]? = some d →
      d = (hint? (source i key)).getD (policy.backoff i) := by
    intro n i d hd
    rw [List.getElem?_map, Option.map_eq_some_iff] at hd
    obtain ⟨j,hj,rfl⟩ := hd
    obtain ⟨-,rfl⟩ := List.getElem?_eq_some_iff.mp hj
    rw [List.getElem_range]
    rfl
  rcases firstFinal_or_not_final source key policy.maxRetries with ⟨k,hk,hf⟩ | hn
  · rw [fetch_of_firstFinal hk hf]
    refine ⟨?_,fun h => absurd ⟨k,hk,hf⟩ h,fun _ => List.eq_of_mem_replicate,hslept k,
      policy.backoff_le,policy.monotone_backoff⟩
    intro l _ hl
    rw [hl.unique hf]
    simp
  · obtain ⟨e,hr,hrun⟩ := fetch_of_not_final hn
    rw [hrun]
    refine ⟨?_,fun _ => ⟨by simp,by simp,e,hr,rfl⟩,fun _ => List.eq_of_mem_replicate,hslept _,
      policy.backoff_le,policy.monotone_backoff⟩
    intro k hk hf
    exact absurd hf.1 (by simp [hn k hk])

/-- A source that asks to wait for five seconds, then is busy, and then answers. -/
def slowSource : Source String
  | 0, _ => .error (.rateLimited (some (milliseconds 5000)))
  | 1, _ => .error (.requestFailed (some 503) "busy")
  | _, _ => .ok "Kit"

/-- The answer of a slow source is fetched with the third request; with one retry only the run gives
up after the second. -/
theorem fetch_disciplined_slowSource :
    FirstFinal slowSource "file" 2 ∧
    ((fetch slowSource "file" .standard).requests.length = 3 ∧
      (fetch slowSource "file" .standard).sleeps.length = 2 ∧
      (fetch slowSource "file" .standard).result = .ok "Kit") ∧
    (∃ e, slowSource 1 "file" = .error e ∧
      (fetch slowSource "file" ⟨1,milliseconds 1000,milliseconds 30000⟩).result =
        .error (.retriesExhausted 2 e)) ∧
    (fetch slowSource "file" .standard).sleeps = [milliseconds 5000,milliseconds 2000] := by
  have hfirst : FirstFinal slowSource "file" 2 := ⟨rfl,by decide⟩
  have hnone : ¬ ∃ k ≤ 1, FirstFinal slowSource "file" k := by
    rintro ⟨k,hk,hf⟩
    rw [hf.unique hfirst] at hk
    omega
  obtain ⟨-,-,hlast⟩ := (fetch_disciplined slowSource "file"
    ⟨1,milliseconds 1000,milliseconds 30000⟩).exhausted hnone
  exact ⟨hfirst,(fetch_disciplined slowSource "file" .standard).decided 2 (by decide) hfirst,
    hlast,by decide⟩

end DesignCompiler.Fetch
