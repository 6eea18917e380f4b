import Mathlib.Algebra.Order.Ring.Rat
import Mathlib.Algebra.Order.Ring.Int
import PrinterHmi.Transport.Session

/-!
# Sending with retries

`send_with_retries` sends a snapshot until a send succeeds, a number of times at most, and
sleeps after each failure but the last. The delays are computed before the first send, all of
them: powers of two, cut to thirty seconds. The power is not cut before it is multiplied, and a
float times an integer from `2 ** 1024` on is an `OverflowError`. So the call keeps to its
policy exactly if that power is never reached (`retries_bounded_iff`), whatever the outcomes of
the sends.

A call is modelled with its trace, the sends and the sleeps in their order. The outcomes of
successive sends are a sequence.
-/

namespace PrinterHmi

/-! ### Delays -/

/-- `x * n`, of a float and an integer, where the product is exact. -/
def floatTimesInt (x : ℚ) (n : ℤ) : Except Exn ℚ := do
  require (n < 2 ^ 1024) ⟨.overflowError, "int too large to convert to float"⟩
  pure (x * n)

/-- `retry_delays`. -/
def retryDelays (attempts : ℤ) (base maximum : ℚ) : Except Exn (List ℚ) := do
  require (0 ≤ attempts ∧ 0 < base ∧ 0 < maximum) ⟨.valueError, "invalid retry policy"⟩
  (List.range attempts.toNat).mapM fun attempt => do
    let delay ← floatTimesInt base (2 ^ attempt)
    pure (min maximum delay)

/-- The delay after a failed attempt, if it is not the last. -/
def retryDelay (attempt : ℕ) : ℚ := min 30 (2 ^ attempt)

theorem pow_lt_limit {attempt : ℕ} : (2 : ℤ) ^ attempt < 2 ^ 1024 ↔ attempt < 1024 :=
  pow_lt_pow_iff_right₀ one_lt_two

/-- One delay of the default policy. -/
theorem retryDelay_eq (attempt : ℕ) : (do
    let delay ← floatTimesInt 1 (2 ^ attempt)
    pure (min 30 delay) : Except Exn ℚ) =
      if attempt < 1024 then .ok (retryDelay attempt)
      else .error ⟨.overflowError, "int too large to convert to float"⟩ := by
  rw [floatTimesInt]
  by_cases h : attempt < 1024
  · rw [require_pos (pow_lt_limit.mpr h), if_pos h, retryDelay]
    simp only [one_mul]
    push_cast
    rfl
  · rw [require_neg (fun hc => h (pow_lt_limit.mp hc)), if_neg h]
    rfl

/-- **The delays of the default policy**: as many as asked for, unless a power overflows. -/
theorem retryDelays_eq (attempts : ℕ) : retryDelays attempts 1 30 =
    if attempts ≤ 1024 then .ok ((List.range attempts).map retryDelay)
    else .error ⟨.overflowError, "int too large to convert to float"⟩ := by
  have hpolicy : 0 ≤ (attempts : ℤ) ∧ (0 : ℚ) < 1 ∧ (0 : ℚ) < 30 :=
    ⟨Int.natCast_nonneg attempts, by decide, by decide⟩
  have hpowers : (∀ attempt ∈ List.range attempts, attempt < 1024) ↔ attempts ≤ 1024 := by
    constructor
    · intro h
      by_contra hc
      exact lt_irrefl 1024 (h 1024 (List.mem_range.mpr (by omega)))
    · intro h attempt hattempt
      exact (List.mem_range.mp hattempt).trans_le h
  rw [retryDelays, require_pos hpolicy, Int.toNat_natCast]
  refine (Except.mapM_of_checks retryDelay_eq (List.range attempts)).trans ?_
  simp only [hpowers]

/-! ### Sending -/

/-- What a call does while it runs. -/
inductive RetryStep : Type where
  | send
  | sleep (delay : ℚ)
  deriving DecidableEq

section Sending

variable {α : Type}

/-- The loop of `send_with_retries`, with so many attempts left of the range. -/
def retrying (send : ℕ → Except Exn α) (delays : List ℚ) :
    ℕ → ℕ → List RetryStep × Except Exn α
  | 0, _ => ([], .error ⟨.relayTransportError, "relay retry budget exhausted"⟩)
  | remaining + 1, attempt =>
    match send attempt with
    | .ok answer => ([.send], .ok answer)
    | .error e =>
      if e.cls = .relayTransportError then
        let rest := retrying send delays remaining (attempt + 1)
        match delays[attempt]? with
        | some delay => (.send :: .sleep delay :: rest.1, rest.2)
        | none => (.send :: rest.1, rest.2)
      else ([.send], .error e)

/-- `send_with_retries`: the steps it takes and what it returns or raises. The outcome of the
`i`-th send is `send i`. -/
def sendWithRetries (attempts : ℤ) (send : ℕ → Except Exn α) :
    List RetryStep × Except Exn α :=
  if attempts < 1 then ([], .error ⟨.valueError, "attempts must be positive"⟩)
  else
    match retryDelays (max 0 (attempts - 1)) 1 30 with
    | .error e => ([], .error e)
    | .ok delays => retrying send delays attempts.toNat 0

/-! ### The policy -/

/-- **Backoff**: one second first, doubled each time, never above thirty seconds. -/
structure Backoff (delay : ℕ → ℚ) : Prop where
  first : delay 0 = 1
  doubles : ∀ i, delay (i + 1) = min 30 (2 * delay i)
  monotone : Monotone delay
  le_most : ∀ i, delay i ≤ 30

/-- The steps from an attempt on, so many sends in all: each send but the last is followed by one
sleep. -/
def pacedSends (delay : ℕ → ℚ) : ℕ → ℕ → List RetryStep
  | _, 0 => []
  | _, 1 => [.send]
  | attempt, sends + 2 =>
    .send :: .sleep (delay attempt) :: pacedSends delay (attempt + 1) (sends + 1)

theorem pacedSends_ne_nil (delay : ℕ → ℚ) (attempt sends : ℕ) :
    pacedSends delay attempt (sends + 1) ≠ [] := by
  cases sends <;> exact List.cons_ne_nil _ _

/-- **The retry policy**, for a call and its run: it sends until a send succeeds, whose answer it
returns, or until the attempts are used up, when it raises the error of the transport; and the
sends are paced by the delays of a backoff. -/
def RetriesBoundedly (attempts : ℤ) (send : ℕ → Except Exn α)
    (run : List RetryStep × Except Exn α) : Prop :=
  ∃ delay, Backoff delay ∧
    ((∃ k : ℕ, (k : ℤ) < attempts ∧ (∀ i < k, ∃ e, send i = .error e) ∧
        ∃ answer, send k = .ok answer ∧ run = (pacedSends delay 0 (k + 1), .ok answer)) ∨
      ((∀ i : ℕ, (i : ℤ) < attempts → ∃ e, send i = .error e) ∧
        ∃ e, e.cls = .relayTransportError ∧
          run = (pacedSends delay 0 attempts.toNat, .error e)))

/-- The delays of the default policy are a backoff. -/
theorem backoff_retryDelay : Backoff retryDelay where
  first := min_eq_right (by decide)
  doubles i := by
    have htwice : (2 : ℚ) * min 30 (2 ^ i) = min 60 (2 ^ (i + 1)) := by
      rw [mul_min_of_nonneg _ _ (by decide), pow_succ, mul_comm (2 ^ i)]
      norm_num
    rw [retryDelay, retryDelay, htwice, ← min_assoc, min_eq_left (by decide : (30 : ℚ) ≤ 60)]
  monotone i j h := min_le_min_left 30 (pow_le_pow_right₀ (by decide) h)
  le_most i := min_le_left _ _

/-- The outcome of a send after which there is another one. -/
def Retried (r : Except Exn α) : Prop := ∃ e, r = .error e ∧ e.cls = .relayTransportError

variable {send : ℕ → Except Exn α}

/-- **The loop, from each of its attempts**, if there is a delay for each attempt but the last: it
ends with the first send that is not retried, or when no attempt is left. The induction is on
the attempts that are left. -/
theorem retrying_spec {delays : List ℚ} (delay : ℕ → ℚ) {attempts : ℕ}
    (hdelays : ∀ i, delays[i]? = if i + 1 < attempts then some (delay i) else none)
    (remaining attempt : ℕ) (hattempts : attempt + remaining = attempts) :
    (∃ k < remaining, (∀ i < k, Retried (send (attempt + i))) ∧ ¬Retried (send (attempt + k)) ∧
        retrying send delays remaining attempt =
          (pacedSends delay attempt (k + 1), send (attempt + k))) ∨
      ((∀ i < remaining, Retried (send (attempt + i))) ∧
        retrying send delays remaining attempt = (pacedSends delay attempt remaining,
          .error ⟨.relayTransportError, "relay retry budget exhausted"⟩)) := by
  induction remaining generalizing attempt with
  | zero => exact .inr ⟨fun i hi => (Nat.not_lt_zero i hi).elim, rfl⟩
  | succ remaining ih =>
    rw [retrying]
    by_cases hnow : Retried (send attempt)
    swap
    · -- this send is the last
      refine .inl ⟨0, Nat.succ_pos remaining, fun i hi => (Nat.not_lt_zero i hi).elim, hnow, ?_⟩
      rw [Nat.add_zero]
      cases hsend : send attempt with
      | ok answer => rfl
      | error e => exact if_neg fun hc => hnow ⟨e, hsend, hc⟩
    -- the failures from here on are this one and those of the rest
    have hfailures : ∀ k, (∀ i < k, Retried (send (attempt + 1 + i))) →
        ∀ i < k + 1, Retried (send (attempt + i)) := by
      intro k hlater i hi
      cases i with
      | zero => exact hnow
      | succ i =>
        rw [← Nat.add_assoc, Nat.add_right_comm]
        exact hlater i (by omega)
    obtain ⟨e, hsend, hclass⟩ := hnow
    simp only [hsend, hclass, if_true, hdelays]
    rcases ih (attempt + 1) (by omega) with ⟨k, hk, hlater, hlast, hrun⟩ | ⟨hlater, hrun⟩
    · rw [Nat.add_right_comm] at hlast hrun
      refine .inl ⟨k + 1, by omega, hfailures k hlater, hlast, ?_⟩
      rw [if_pos (by omega), hrun]
      rfl
    · refine .inr ⟨hfailures remaining hlater, ?_⟩
      cases remaining with
      | zero =>
        -- no sleep after the last attempt
        rw [if_neg (by omega), hrun]
        rfl
      | succ remaining =>
        rw [if_pos (by omega), hrun]
        rfl

/-- **What `send_with_retries` does**, where no delay overflows: it sends until a send is not
retried, or until the attempts are used up, paced by the delays. -/
theorem sendWithRetries_spec {n : ℕ} (hn : n ≤ 1024) (send : ℕ → Except Exn α) :
    (∃ k < n + 1, (∀ i < k, Retried (send i)) ∧ ¬Retried (send k) ∧
        sendWithRetries (n + 1) send = (pacedSends retryDelay 0 (k + 1), send k)) ∨
      ((∀ i < n + 1, Retried (send i)) ∧
        sendWithRetries (n + 1) send = (pacedSends retryDelay 0 (n + 1),
          .error ⟨.relayTransportError, "relay retry budget exhausted"⟩)) := by
  -- there is a delay after each attempt but the last
  have hdelay : ∀ i, ((List.range n).map retryDelay)[i]? =
      if i + 1 < n + 1 then some (retryDelay i) else none := by
    intro i
    by_cases hi : i < n
    · rw [if_pos (by omega), List.getElem?_map, List.getElem?_range hi]
      rfl
    · rw [if_neg (by omega), List.getElem?_eq_none]
      rw [List.length_map, List.length_range]
      omega
  have hdelays : retryDelays (max 0 ((n : ℤ) + 1 - 1)) 1 30 =
      .ok ((List.range n).map retryDelay) := by
    rw [show max 0 ((n : ℤ) + 1 - 1) = n by omega, retryDelays_eq, if_pos hn]
  have hcall : sendWithRetries (n + 1) send =
      retrying send ((List.range n).map retryDelay) (n + 1) 0 := by
    rw [sendWithRetries, if_neg (by omega), hdelays]
    rfl
  rw [hcall]
  simpa only [Nat.zero_add] using retrying_spec retryDelay hdelay (n + 1) 0 (Nat.zero_add _)

/-- **`send_with_retries` keeps to its policy exactly up to 1025 attempts**, whatever the
outcomes of the sends: from 1026 on a delay overflows, and the call raises before its first
send. -/
theorem retries_bounded_iff {attempts : ℤ} (hattempts : 1 ≤ attempts)
    (hsend : ∀ i e, send i = .error e → e.cls = .relayTransportError) :
    RetriesBoundedly attempts send (sendWithRetries attempts send) ↔ attempts ≤ 1025 := by
  obtain ⟨n, rfl⟩ : ∃ n : ℕ, attempts = n + 1 := ⟨(attempts - 1).toNat, by omega⟩
  by_cases hn : n ≤ 1024
  · refine iff_of_true ⟨retryDelay, backoff_retryDelay, ?_⟩ (by omega)
    rcases sendWithRetries_spec hn send with ⟨k, hk, hfails, hlast, hrun⟩ | ⟨hfails, hrun⟩
    · refine .inl ⟨k, by omega, fun i hi => ?_, ?_⟩
      · obtain ⟨e, he, -⟩ := hfails i hi
        exact ⟨e, he⟩
      · -- what is not retried is a success
        cases hanswer : send k with
        | ok answer => exact ⟨answer, rfl, hrun.trans (congrArg _ hanswer)⟩
        | error e => exact (hlast ⟨e, hanswer, hsend k e hanswer⟩).elim
    · refine .inr ⟨fun i hi => ?_, _, rfl, hrun⟩
      obtain ⟨e, he, -⟩ := hfails i (by omega)
      exact ⟨e, he⟩
  · have hoverflow : retryDelays (max 0 ((n : ℤ) + 1 - 1)) 1 30 =
        .error ⟨.overflowError, "int too large to convert to float"⟩ := by
      rw [show max 0 ((n : ℤ) + 1 - 1) = n by omega, retryDelays_eq, if_neg hn]
    rw [sendWithRetries, if_neg (by omega), hoverflow]
    refine iff_of_false ?_ (by omega)
    -- no send is made, and the policy makes at least one
    rintro ⟨delay, -, ⟨k, -, -, answer, -, hrun⟩ | ⟨-, e, -, hrun⟩⟩
    · exact pacedSends_ne_nil delay 0 k (congrArg Prod.fst hrun).symm
    · exact pacedSends_ne_nil delay 0 n (congrArg Prod.fst hrun).symm

/-- Three attempts, of which two fail: three sends and the first two sleeps. -/
theorem retries_bounded_iff_sample :
    let send : ℕ → Except Exn ℕ := fun i =>
      if i < 2 then .error ⟨.relayTransportError, "relay connection failed"⟩ else .ok i
    sendWithRetries 3 send = ([.send, .sleep 1, .send, .sleep 2, .send], .ok 2) ∧
      RetriesBoundedly 3 send (sendWithRetries 3 send) := by
  intro send
  have hdelays : retryDelays (max 0 (3 - 1)) 1 30 = .ok [1, 2] :=
    (retryDelays_eq 2).trans (by decide)
  refine ⟨?_, (retries_bounded_iff (by decide) ?_).mpr (by decide)⟩
  · rw [sendWithRetries, if_neg (by decide), hdelays]
    rfl
  · intro i e hi
    by_cases h : i < 2
    · rw [show send i = _ from if_pos h] at hi
      exact congrArg Exn.cls (Except.error.inj hi).symm
    · rw [show send i = _ from if_neg h] at hi
      cases hi

/-- With 1026 attempts the call fails at once, though its first send would succeed. -/
theorem retries_unbounded :
    ¬ ∀ attempts : ℤ, 1 ≤ attempts → ∀ send : ℕ → Except Exn ℕ,
      (∀ i e, send i = .error e → e.cls = .relayTransportError) →
        RetriesBoundedly attempts send (sendWithRetries attempts send) := by
  intro h
  obtain ⟨delay, -, ⟨k, -, -, answer, -, hrun⟩ | ⟨hfails, -⟩⟩ :=
    h 1026 (by decide) (fun _ => .ok 0) (fun i e he => by cases he)
  · have hoverflow : sendWithRetries 1026 (fun _ => (.ok 0 : Except Exn ℕ)) =
        ([], .error ⟨.overflowError, "int too large to convert to float"⟩) := by
      rw [sendWithRetries, if_neg (by decide)]
      rw [show retryDelays (max 0 (1026 - 1)) 1 30 = _ from retryDelays_eq 1025]
      rfl
    rw [hoverflow] at hrun
    exact pacedSends_ne_nil delay 0 k (congrArg Prod.fst hrun).symm
  · obtain ⟨e, he⟩ := hfails 0 (by decide)
    cases he

end Sending

end PrinterHmi
