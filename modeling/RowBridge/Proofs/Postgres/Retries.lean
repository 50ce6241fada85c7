/-
# `RowBridge.Proofs.Postgres.Retries` — attempts, pauses, and what they come to

The creation of a pool is a loop over attempts, numbered from one.  What follows
an attempt depends on how it ended, on the retries that are left, and on the
pause that would come next:

    the attempt     retries    the pause         what follows
    connected                                    a pool
    aborted                                      that abort
    complained      none                         its failure
    complained      left       out of range      an abort
    complained      left       in range          the next attempt

The last row is `Followed`, the others are `Ends`, and no attempt is in both.  So
a run is told by the number of its last attempt: every attempt before it is
followed, it is not, and pauses and reports are those of the attempts before it
(`Course`).  One attempt puts itself in front of the course of the later ones
(`Course.after`), and by induction on the retries every run has one
(`course_create`).

A pause is twice the one before.  Its factor has 32 bits and its seconds have 64,
so the thirty-third attempt cannot be followed, whatever the delay, and with a
long delay an earlier one cannot.  No counter comes near its own limit: there
are no more attempts to count.
-/
import RowBridge.Postgres.Pool

namespace RowBridge.Postgres.Pool

variable {settings : DatabaseSettings} {outcome : Nat → Attempt}

/-! ## Pauses -/

/-- The seconds of the pause after the failed attempt of a number, of any size. -/
def backoffSecs (settings : DatabaseSettings) (number : Nat) : Nat :=
  settings.retryDelaySecs * Nat.pow 2 (number - 1)

def backoff (settings : DatabaseSettings) (number : Nat) : TimeSpan :=
  .ofSecs (backoffSecs settings number)

/-- The first number of seconds that a time span cannot have. -/
def secondsLimit : Nat := 18446744073709551616

theorem backoffSecs_mono (settings : DatabaseSettings) {n m : Nat} (h : n ≤ m) :
    backoffSecs settings n ≤ backoffSecs settings m :=
  Nat.mul_le_mul_left _ (Nat.pow_le_pow_right (by decide) (Nat.sub_le_sub_right h 1))

theorem factor_of_le {number : Nat} (h : number ≤ 32) :
    factor number = .ok (Nat.pow 2 (number - 1)) := by
  have hpow : Nat.pow 2 (number - 1) ≤ Nat.pow 2 31 :=
    Nat.pow_le_pow_right (by decide) (by omega)
  exact if_pos (Nat.lt_of_le_of_lt hpow (by decide))

theorem factor_of_gt {number : Nat} (h : 32 < number) : factor number = .error .factorOverflow := by
  have hpow : Nat.pow 2 32 ≤ Nat.pow 2 (number - 1) :=
    Nat.pow_le_pow_right (by decide) (by omega)
  exact if_neg (Nat.not_lt_of_le hpow)

theorem pause_of_gt {number : Nat} (h : 32 < number) :
    pause settings number = .error .factorOverflow := by
  rw [pause, factor_of_gt h]
  rfl

theorem pause_of_le {number : Nat} (h : number ≤ 32) :
    pause settings number =
      if backoffSecs settings number < secondsLimit then .ok (backoff settings number)
      else .error .pauseOverflow := by
  rw [pause, factor_of_le h]
  rfl

theorem pause_eq_ok_iff {number : Nat} :
    pause settings number = .ok (backoff settings number) ↔
      number ≤ 32 ∧ backoffSecs settings number < secondsLimit := by
  by_cases hfactor : number ≤ 32
  · rw [pause_of_le hfactor]
    by_cases hsecs : backoffSecs settings number < secondsLimit
    · simp [hfactor, hsecs]
    · simp [hsecs]
  · rw [pause_of_gt (Nat.lt_of_not_le hfactor)]
    simp [hfactor]

theorem pause_eq_error_iff {number : Nat} {abort : Abort} :
    pause settings number = .error abort ↔
      abort = .factorOverflow ∧ 32 < number ∨
        abort = .pauseOverflow ∧ number ≤ 32 ∧ secondsLimit ≤ backoffSecs settings number := by
  by_cases hfactor : number ≤ 32
  · rw [pause_of_le hfactor]
    have hngt : ¬ 32 < number := Nat.not_lt_of_le hfactor
    by_cases hsecs : backoffSecs settings number < secondsLimit
    · simp [hsecs, hngt]
    · simp [hfactor, hsecs, hngt, Nat.le_of_not_lt, eq_comm]
  · have hgt : 32 < number := Nat.lt_of_not_le hfactor
    rw [pause_of_gt hgt]
    simp [hfactor, hgt, eq_comm]

theorem eq_backoff_of_pause {number : Nat} {span : TimeSpan}
    (h : pause settings number = .ok span) : span = backoff settings number := by
  by_cases hfactor : number ≤ 32
  · rw [pause_of_le hfactor] at h
    split at h
    · exact (Except.ok.inj h).symm
    · cases h
  · rw [pause_of_gt (Nat.lt_of_not_le hfactor)] at h
    cases h

/-! ## What follows an attempt -/

/-- The attempt of this number failed, and after a pause another one is made. -/
structure Followed (settings : DatabaseSettings) (outcome : Nat → Attempt) (number : Nat) :
    Prop where
  complained : ∃ complaint, outcome number = .complained complaint
  retried : number ≤ settings.maxRetries
  paused : pause settings number = .ok (backoff settings number)

/-- The attempt of this number is the last one, and this comes of it. -/
inductive Ends (settings : DatabaseSettings) (outcome : Nat → Attempt) (number : Nat) :
    PoolResult → Prop
  | connected : outcome number = .connected → Ends settings outcome number .connected
  | aborted {abort : Abort} : outcome number = .aborted abort →
      Ends settings outcome number (.aborted abort)
  | givenUp {complaint : DriverError} : outcome number = .complained complaint →
      settings.maxRetries < number →
      Ends settings outcome number (.failed (attemptFailure settings complaint))
  | overflown {complaint : DriverError} {abort : Abort} :
      outcome number = .complained complaint → number ≤ settings.maxRetries →
      pause settings number = .error abort → Ends settings outcome number (.aborted abort)

/-- The report that an attempt of this number failed and another one follows. -/
def retryReport? (settings : DatabaseSettings) (outcome : Nat → Attempt) (number : Nat) :
    Option LogEvent :=
  match outcome number with
  | .complained complaint =>
      some (reportRetry number (attemptFailure settings complaint) (backoff settings number))
  | _ => none

/-- What is reported after the last attempt. -/
def closingReport (settings : DatabaseSettings) (number : Nat) : PoolResult → List LogEvent
  | .connected => [reportConnected settings (number - 1)]
  | .failed failure => [reportGivenUp settings failure]
  | .aborted _ => []

/-- The attempts of a run that are followed by a pause and another attempt, when
`earlier` were made before. -/
def followedNumbers (earlier : Nat) (run : PoolRun) : List Nat :=
  List.range' (earlier + 1) (run.attempts - (earlier + 1))

/-- How a run goes that starts after `earlier` failed attempts. -/
structure Course (settings : DatabaseSettings) (outcome : Nat → Attempt) (earlier : Nat)
    (run : PoolRun) : Prop where
  earlier_lt : earlier < run.attempts
  followed : ∀ number, earlier < number → number < run.attempts →
    Followed settings outcome number
  ends : Ends settings outcome run.attempts run.result
  pauses : run.pauses = (followedNumbers earlier run).map (backoff settings)
  events : run.events = (followedNumbers earlier run).filterMap (retryReport? settings outcome) ++
    closingReport settings run.attempts run.result

theorem course_last {earlier : Nat} {result : PoolResult}
    (hends : Ends settings outcome (earlier + 1) result) :
    Course settings outcome earlier
      (last result (earlier + 1) (closingReport settings (earlier + 1) result)) where
  earlier_lt := Nat.lt_succ_self earlier
  followed number hlater hbefore := absurd hbefore (Nat.not_lt_of_le hlater)
  ends := hends
  pauses := by simp [followedNumbers, last]
  events := by simp [followedNumbers, last]

theorem Course.after {earlier : Nat} {run : PoolRun} {complaint : DriverError}
    (hcourse : Course settings outcome (earlier + 1) run)
    (hcomplained : outcome (earlier + 1) = .complained complaint)
    (hfollowed : Followed settings outcome (earlier + 1)) :
    Course settings outcome earlier
      (after (backoff settings (earlier + 1))
        (reportRetry (earlier + 1) (attemptFailure settings complaint)
          (backoff settings (earlier + 1))) run) := by
  have hlt := hcourse.earlier_lt
  have hnumbers : List.range' (earlier + 1) (run.attempts - (earlier + 1)) =
      (earlier + 1) :: followedNumbers (earlier + 1) run := by
    have hlength : run.attempts - (earlier + 1) = run.attempts - (earlier + 1 + 1) + 1 := by omega
    rw [hlength, List.range'_succ]
    rfl
  refine ⟨Nat.lt_of_succ_lt hlt, ?_, hcourse.ends, ?_, ?_⟩
  · intro number hlater hbefore
    rcases Nat.lt_or_eq_of_le (Nat.succ_le_of_lt hlater) with hgt | rfl
    · exact hcourse.followed number hgt hbefore
    · exact hfollowed
  · simp only [Pool.after, followedNumbers, hnumbers, List.map_cons, hcourse.pauses]
  · have hreport : retryReport? settings outcome (earlier + 1) =
        some (reportRetry (earlier + 1) (attemptFailure settings complaint)
          (backoff settings (earlier + 1))) := by
      rw [retryReport?, hcomplained]
    simp only [Pool.after, followedNumbers, hnumbers, List.filterMap_cons_some hreport,
      hcourse.events, List.cons_append]

/-- Induction on the retries that are left; of the settings, only that these are
the ones not yet used matters. -/
theorem course_attempt (settings : DatabaseSettings) (outcome : Nat → Attempt) :
    ∀ retries earlier : Nat, earlier + retries = settings.maxRetries →
      Course settings outcome earlier (attempt settings outcome retries earlier) := by
  intro retries
  induction retries with
  | zero =>
      intro earlier hleft
      rw [attempt]
      cases hended : outcome (earlier + 1) with
      | connected => exact course_last (.connected hended)
      | aborted abort => exact course_last (.aborted hended)
      | complained complaint => exact course_last (.givenUp hended (by omega))
  | succ retries ih =>
      intro earlier hleft
      have hretried : earlier + 1 ≤ settings.maxRetries := by omega
      rw [attempt]
      cases hended : outcome (earlier + 1) with
      | connected => exact course_last (.connected hended)
      | aborted abort => exact course_last (.aborted hended)
      | complained complaint =>
          cases hpause : pause settings (earlier + 1) with
          | error abort =>
              simp only
              exact course_last (.overflown hended hretried hpause)
          | ok span =>
              obtain rfl := eq_backoff_of_pause hpause
              have hcourse := ih (earlier + 1) (by omega)
              simp only
              exact hcourse.after hended ⟨⟨complaint, hended⟩, hretried, hpause⟩

theorem course_create (settings : DatabaseSettings) (outcome : Nat → Attempt) :
    Course settings outcome 0 (create settings outcome) :=
  course_attempt settings outcome settings.maxRetries 0 (Nat.zero_add _)

namespace Course

variable {run : PoolRun}

theorem attempts_le (h : Course settings outcome 0 run) :
    run.attempts ≤ settings.maxRetries + 1 := by
  have hpos := h.earlier_lt
  by_cases hone : run.attempts = 1
  · omega
  · have hretried := (h.followed (run.attempts - 1) (by omega) (by omega)).retried
    omega

/-- The factor of the pause after the thirty-third attempt is out of range. -/
theorem attempts_le_33 (h : Course settings outcome 0 run) : run.attempts ≤ 33 := by
  refine Nat.le_of_not_lt fun hlt => ?_
  have hfactor := (pause_eq_ok_iff.mp (h.followed 33 (by decide) hlt).paused).1
  omega

theorem attempts_of_failed (h : Course settings outcome 0 run) {failure : ScanError}
    (hfailed : run.result = .failed failure) : run.attempts = settings.maxRetries + 1 := by
  have hends := h.ends
  rw [hfailed] at hends
  cases hends with
  | givenUp hcomplained hexhausted =>
      have hle := h.attempts_le
      omega

theorem outcome_ne_connected (h : Course settings outcome 0 run) {number : Nat}
    (hpos : 0 < number) (hlt : number < run.attempts) : outcome number ≠ .connected := by
  obtain ⟨complaint, hcomplained⟩ := (h.followed number hpos hlt).complained
  rw [hcomplained]
  exact Attempt.noConfusion

end Course

/-! ## Arithmetic -/

/-- Every attempt up to this number fails. -/
def FailsThrough (outcome : Nat → Attempt) (number : Nat) : Prop :=
  ∀ n, 0 < n → n ≤ number → ∃ complaint, outcome n = .complained complaint

/-- Overflows of a run's own arithmetic, with a driver that has none of these two. -/
structure Sober (outcome : Nat → Attempt) : Prop where
  factor : ∀ n, outcome n ≠ .aborted .factorOverflow
  pause : ∀ n, outcome n ≠ .aborted .pauseOverflow

/-- Where attempts fail that could be retried, the last of them is not followed
because of its pause. -/
theorem Course.ends_by_pause {run : PoolRun} (h : Course settings outcome 0 run) {number : Nat}
    (hfails : FailsThrough outcome number) (hretried : number ≤ settings.maxRetries)
    (hle : run.attempts ≤ number) :
    ∃ abort, run.result = .aborted abort ∧ pause settings run.attempts = .error abort := by
  obtain ⟨complaint, hcomplained⟩ := hfails run.attempts h.earlier_lt hle
  have hends := h.ends
  generalize run.result = result at hends
  cases hends with
  | connected hended => rw [hcomplained] at hended; cases hended
  | aborted hended => rw [hcomplained] at hended; cases hended
  | givenUp _ hexhausted => omega
  | overflown _ _ hpause => exact ⟨_, rfl, hpause⟩

theorem Course.factorOverflow_iff {run : PoolRun} (h : Course settings outcome 0 run)
    (hsober : Sober outcome) :
    run.result = .aborted .factorOverflow ↔
      33 ≤ settings.maxRetries ∧ backoffSecs settings 32 < secondsLimit ∧
        FailsThrough outcome 33 := by
  constructor
  · intro hresult
    have hends := h.ends
    rw [hresult] at hends
    cases hends with
    | aborted hended => exact absurd hended (hsober.factor _)
    | overflown hcomplained hretried hpause =>
        have hbeyond : 32 < run.attempts := by
          rcases pause_eq_error_iff.mp hpause with ⟨_, hlt⟩ | ⟨hne, _⟩
          · exact hlt
          · cases hne
        have hlast : run.attempts = 33 := Nat.le_antisymm h.attempts_le_33 hbeyond
        rw [hlast] at hcomplained hretried
        refine ⟨hretried, (pause_eq_ok_iff.mp (h.followed 32 (by decide) hbeyond).paused).2, ?_⟩
        intro n hpos hle
        rcases Nat.lt_or_eq_of_le hle with hlt | rfl
        · exact (h.followed n hpos (hlast ▸ hlt)).complained
        · exact ⟨_, hcomplained⟩
  · rintro ⟨hretried, hsecs, hfails⟩
    obtain ⟨abort, hresult, hpause⟩ := h.ends_by_pause hfails hretried h.attempts_le_33
    rcases pause_eq_error_iff.mp hpause with ⟨rfl, _⟩ | ⟨_, hle, hlong⟩
    · exact hresult
    · have hmono := backoffSecs_mono settings hle
      omega

theorem Course.pauseOverflow_iff {run : PoolRun} (h : Course settings outcome 0 run)
    (hsober : Sober outcome) :
    run.result = .aborted .pauseOverflow ↔
      ∃ n, 0 < n ∧ n ≤ 32 ∧ n ≤ settings.maxRetries ∧ secondsLimit ≤ backoffSecs settings n ∧
        FailsThrough outcome n := by
  constructor
  · intro hresult
    have hends := h.ends
    rw [hresult] at hends
    cases hends with
    | aborted hended => exact absurd hended (hsober.pause _)
    | overflown hcomplained hretried hpause =>
        rcases pause_eq_error_iff.mp hpause with ⟨hne, _⟩ | ⟨_, hle, hlong⟩
        · cases hne
        refine ⟨run.attempts, h.earlier_lt, hle, hretried, hlong, ?_⟩
        intro n hpos hle
        rcases Nat.lt_or_eq_of_le hle with hlt | rfl
        · exact (h.followed n hpos hlt).complained
        · exact ⟨_, hcomplained⟩
  · rintro ⟨n, hpos, hfactor, hretried, hlong, hfails⟩
    -- No attempt is followed whose pause is too long.
    have hle : run.attempts ≤ n := by
      refine Nat.le_of_not_lt fun hlt => ?_
      have hshort := (pause_eq_ok_iff.mp (h.followed n hpos hlt).paused).2
      omega
    obtain ⟨abort, hresult, hpause⟩ := h.ends_by_pause hfails hretried hle
    rcases pause_eq_error_iff.mp hpause with ⟨_, hlt⟩ | ⟨rfl, _⟩
    · omega
    · exact hresult

/-- A report says this number of attempts. -/
def Counts (event : LogEvent) (count : Nat) : Prop :=
  ("attempt", .number count) ∈ event.fields ∨ ("attempts", .number count) ∈ event.fields

theorem eq_of_counts_retry {number count : Nat} {failure : ScanError} {span : TimeSpan}
    (h : Counts (reportRetry number failure span) count) : count = number := by
  simpa [Counts, reportRetry] using h

theorem eq_of_counts_connected {earlier count : Nat}
    (h : Counts (reportConnected settings earlier) count) : count = earlier + 1 := by
  unfold reportConnected at h
  split at h
  · simpa [Counts] using h
  · simp [Counts] at h

theorem eq_of_counts_givenUp {count : Nat} {failure : ScanError}
    (h : Counts (reportGivenUp settings failure) count) : count = settings.maxRetries + 1 := by
  simpa [Counts, reportGivenUp] using h

/-- No report counts more attempts than there were. -/
theorem Course.count_le {run : PoolRun} (h : Course settings outcome 0 run) {event : LogEvent}
    (hevent : event ∈ run.events) {count : Nat} (hcount : Counts event count) :
    count ≤ run.attempts := by
  have hpos := h.earlier_lt
  rw [h.events, List.mem_append, List.mem_filterMap] at hevent
  rcases hevent with ⟨number, hnumber, hreport⟩ | hclosing
  · have hlt : number < run.attempts := by
      have hmem := List.mem_range'_1.mp hnumber
      omega
    unfold retryReport? at hreport
    split at hreport
    · cases hreport
      rw [eq_of_counts_retry hcount]
      exact Nat.le_of_lt hlt
    · cases hreport
  · cases hresult : run.result with
    | connected =>
        rw [hresult, closingReport, List.mem_singleton] at hclosing
        rw [hclosing] at hcount
        have hcounted := eq_of_counts_connected hcount
        omega
    | failed failure =>
        rw [hresult, closingReport, List.mem_singleton] at hclosing
        rw [hclosing] at hcount
        exact Nat.le_of_eq ((eq_of_counts_givenUp hcount).trans (h.attempts_of_failed hresult).symm)
    | aborted abort =>
        rw [hresult, closingReport] at hclosing
        cases hclosing

/-- The arithmetic of a pool's creation.  The factor of the pauses overflows exactly
if thirty-three attempts fail, could all be retried, and the pauses before have not
overflown; a pause overflows exactly if it comes after a failed attempt that could be
retried, its factor is in range and its seconds are not.  Neither happens with at most
thirty-two retries whose last pause is in range.  The attempts are never more than
thirty-three, and nothing that counts them counts more. -/
theorem overflow_iff (settings : DatabaseSettings) {outcome : Nat → Attempt}
    (hsober : Sober outcome) :
    ((create settings outcome).result = .aborted .factorOverflow ↔
        33 ≤ settings.maxRetries ∧ backoffSecs settings 32 < secondsLimit ∧
          FailsThrough outcome 33) ∧
      ((create settings outcome).result = .aborted .pauseOverflow ↔
        ∃ n, 0 < n ∧ n ≤ 32 ∧ n ≤ settings.maxRetries ∧ secondsLimit ≤ backoffSecs settings n ∧
          FailsThrough outcome n) ∧
      (settings.maxRetries ≤ 32 → backoffSecs settings settings.maxRetries < secondsLimit →
        (create settings outcome).result ≠ .aborted .factorOverflow ∧
          (create settings outcome).result ≠ .aborted .pauseOverflow) ∧
      (create settings outcome).attempts ≤ 33 ∧
      ∀ event ∈ (create settings outcome).events, ∀ count, Counts event count → count ≤ 33 := by
  have hcourse := course_create settings outcome
  have hfactor := hcourse.factorOverflow_iff hsober
  have hpause := hcourse.pauseOverflow_iff hsober
  refine ⟨hfactor, hpause, ?_, hcourse.attempts_le_33, ?_⟩
  · intro hretries hsecs
    refine ⟨fun hresult => ?_, fun hresult => ?_⟩
    · have hmany := (hfactor.mp hresult).1
      omega
    · obtain ⟨n, _, _, hretried, hlong, _⟩ := hpause.mp hresult
      have hmono := backoffSecs_mono settings hretried
      omega
  · intro event hevent count hcount
    exact Nat.le_trans (hcourse.count_le hevent hcount) hcourse.attempts_le_33

/-- An address that cannot be read, and how often and how patiently it is tried. -/
def unreadable (maxRetries retryDelaySecs : Nat) : DatabaseSettings where
  url := "not a url"
  maxConnections := 1
  minConnections := 0
  connectionTimeoutSecs := 1
  maxRetries := maxRetries
  retryDelaySecs := retryDelaySecs

def refused (_ : Nat) : Attempt := .complained (.configuration "relative URL without a base")

theorem overflow_iff_of_unreadable :
    Sober refused ∧ secondsLimit ≤ backoffSecs (unreadable 40 8589934592) 32 ∧
      (create (unreadable 40 8589934592) refused).result = .aborted .pauseOverflow ∧
      (create (unreadable 40 8589934591) refused).result = .aborted .factorOverflow := by
  have hsober : Sober refused := ⟨fun _ => Attempt.noConfusion, fun _ => Attempt.noConfusion⟩
  have hfails : ∀ n, FailsThrough refused n := fun _ _ _ _ => ⟨_, rfl⟩
  have hlong : secondsLimit ≤ backoffSecs (unreadable 40 8589934592) 32 := by decide
  refine ⟨hsober, hlong, ?_, ?_⟩
  · exact (overflow_iff (unreadable 40 8589934592) hsober).2.1.mpr
      ⟨32, by decide, by decide, by decide, hlong, hfails 32⟩
  · exact (overflow_iff (unreadable 40 8589934591) hsober).1.mpr
      ⟨by decide, by decide, hfails 33⟩

/-- With no delay at all the thirty-third pause has a factor out of range; with the
longest delay the second pause is out of range. -/
theorem retries_overflow :
    (create (unreadable 33 0) refused).result = .aborted .factorOverflow ∧
      (create (unreadable 2 18446744073709551615) refused).result = .aborted .pauseOverflow := by
  decide

/-! ## The contract of retries -/

/-- What was waited for in the pauses of a run, one by one. -/
def sleeps (run : PoolRun) : List Nat := run.pauses.map sleptSecs

theorem Course.pauses_eq {run : PoolRun} (h : Course settings outcome 0 run) :
    run.pauses = (List.range' 1 (run.attempts - 1)).map (backoff settings) := h.pauses

theorem Course.returns_cases {run : PoolRun} (h : Course settings outcome 0 run)
    (hreturns : ∀ abort, run.result ≠ .aborted abort) :
    run.result = .connected ∧ outcome run.attempts = .connected ∨
      run.attempts = settings.maxRetries + 1 ∧
        ∃ complaint, outcome (settings.maxRetries + 1) = .complained complaint ∧
          run.result = .failed (attemptFailure settings complaint) := by
  have hends := h.ends
  cases hresult : run.result with
  | connected =>
      rw [hresult] at hends
      cases hends with
      | connected hended => exact .inl ⟨rfl, hended⟩
  | failed failure =>
      have hlast := h.attempts_of_failed hresult
      rw [hresult, hlast] at hends
      cases hends with
      | givenUp hcomplained _ => exact .inr ⟨hlast, _, hcomplained, rfl⟩
  | aborted abort => exact absurd hresult (hreturns abort)

theorem Course.connected_iff {run : PoolRun} (h : Course settings outcome 0 run)
    (hreturns : ∀ abort, run.result ≠ .aborted abort) :
    run.result = .connected ↔
      ∃ n, 0 < n ∧ n ≤ settings.maxRetries + 1 ∧ outcome n = .connected := by
  rcases h.returns_cases hreturns with ⟨hresult, hended⟩ | ⟨hlast, complaint, hended, hresult⟩
  · exact ⟨fun _ => ⟨run.attempts, h.earlier_lt, h.attempts_le, hended⟩, fun _ => hresult⟩
  · constructor
    · intro hconnected
      rw [hresult] at hconnected
      cases hconnected
    · rintro ⟨n, hpos, hle, hconnected⟩
      rcases Nat.lt_or_eq_of_le hle with hlt | rfl
      · exact absurd hconnected (h.outcome_ne_connected hpos (hlast ▸ hlt))
      · rw [hended] at hconnected
        cases hconnected

theorem sleptSecs_ofSecs (secs : Nat) : sleptSecs (.ofSecs secs) = min secs longestSleepSecs := by
  rw [sleptSecs, TimeSpan.secs, TimeSpan.ofSecs, Nat.mul_div_cancel secs (by decide)]

theorem Course.sleeps_eq {run : PoolRun} (h : Course settings outcome 0 run) :
    sleeps run = (List.range' 1 (run.attempts - 1)).map fun number =>
      min (backoffSecs settings number) longestSleepSecs := by
  simp only [sleeps, h.pauses_eq, List.map_map, Function.comp_def, backoff, sleptSecs_ofSecs]

/-- What a creation of a pool that returns has done.  It connected exactly if one of
the first attempts connects, as many as there are retries and one more, and then it
stopped at the first such; otherwise it made all of them, and the failure has the kind
that the complaint of the last one amounts to.  Between any two attempts it asked for
one pause, twice as long each time, and slept as long as asked, but never longer than
any sleep lasts. -/
theorem retry_contract (settings : DatabaseSettings) (outcome : Nat → Attempt)
    (hreturns : ∀ abort, (create settings outcome).result ≠ .aborted abort) :
    (create settings outcome).attempts ≤ settings.maxRetries + 1 ∧
      ((create settings outcome).result = .connected ↔
        ∃ n, 0 < n ∧ n ≤ settings.maxRetries + 1 ∧ outcome n = .connected) ∧
      ((create settings outcome).result = .connected →
        outcome (create settings outcome).attempts = .connected) ∧
      (∀ n, 0 < n → n < (create settings outcome).attempts →
        ∃ complaint, outcome n = .complained complaint) ∧
      ((create settings outcome).result ≠ .connected →
        (create settings outcome).attempts = settings.maxRetries + 1 ∧
          ∃ complaint failure, outcome (settings.maxRetries + 1) = .complained complaint ∧
            (create settings outcome).result = .failed failure ∧
            failure.kind = complaint.toScanError.kind ∧
            failure.message = "Failed to connect to database at '" ++
              sanitizeUrl settings.url ++ "'" ∧
            failure.statement = none) ∧
      (create settings outcome).pauses =
        (List.range' 1 ((create settings outcome).attempts - 1)).map (fun number =>
          .ofSecs (settings.retryDelaySecs * Nat.pow 2 (number - 1))) ∧
      sleeps (create settings outcome) =
        (List.range' 1 ((create settings outcome).attempts - 1)).map fun number =>
          min (settings.retryDelaySecs * Nat.pow 2 (number - 1)) longestSleepSecs := by
  have hcourse := course_create settings outcome
  refine ⟨hcourse.attempts_le, hcourse.connected_iff hreturns, ?_, ?_, ?_, hcourse.pauses_eq,
    hcourse.sleeps_eq⟩
  · intro hconnected
    rcases hcourse.returns_cases hreturns with ⟨_, hended⟩ | ⟨_, _, _, hfailed⟩
    · exact hended
    · rw [hconnected] at hfailed
      cases hfailed
  · intro n hpos hlt
    exact (hcourse.followed n hpos hlt).complained
  · intro hfailed
    rcases hcourse.returns_cases hreturns with ⟨hconnected, _⟩ | ⟨hlast, complaint, hended, hresult⟩
    · exact absurd hconnected hfailed
    · exact ⟨hlast, complaint, _, hended, hresult, rfl, rfl, rfl⟩

/-- Connects at the third attempt. -/
def connectsThird (number : Nat) : Attempt :=
  if number < 3 then .complained .poolTimedOut else .connected

theorem retry_contract_at_third_attempt :
    (∀ abort, (create (unreadable 5 2) connectsThird).result ≠ .aborted abort) ∧
      (create (unreadable 5 2) connectsThird).result = .connected ∧
      (create (unreadable 5 2) connectsThird).attempts = 3 ∧
      sleeps (create (unreadable 5 2) connectsThird) = [2, 4] := by
  have hconnected : (create (unreadable 5 2) connectsThird).result = .connected := by decide
  have hreturns : ∀ abort, (create (unreadable 5 2) connectsThird).result ≠ .aborted abort := by
    rw [hconnected]
    exact fun _ => PoolResult.noConfusion
  have hattempts : (create (unreadable 5 2) connectsThird).attempts = 3 := by decide
  refine ⟨hreturns, hconnected, hattempts, ?_⟩
  obtain ⟨-, -, -, -, -, -, hsleeps⟩ := retry_contract (unreadable 5 2) connectsThird hreturns
  rw [hsleeps, hattempts]
  decide

/-- A pause of more than thirty years is asked for, but not slept. -/
theorem long_pause_cut_short :
    (∃ failure, (create (unreadable 1 946080001) refused).result = .failed failure) ∧
      (create (unreadable 1 946080001) refused).attempts = 2 ∧
      (create (unreadable 1 946080001) refused).pauses = [.ofSecs 946080001] ∧
      sleeps (create (unreadable 1 946080001) refused) = [946080000] ∧
      waitedSecs (create (unreadable 1 946080001) refused) = 946080000 :=
  ⟨⟨_, rfl⟩, rfl, rfl, rfl, rfl⟩

end RowBridge.Postgres.Pool
