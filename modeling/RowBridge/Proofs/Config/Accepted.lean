/-
# `RowBridge.Proofs.Config.Accepted` — settings that are accepted, and what comes of them

Values are validated where they are read and where a template or a call gives
them; they are used later and elsewhere.

    value             refused if   used by    which
    queue size        zero         a queue    holds no more permits than can be counted
    running scans     zero         a worker   holds no more permits than can be counted
    buffer timeout    zero         a scan     takes any
    time to stop                   a worker   takes any

So zero is stopped in time, and nothing else is: a number that is accepted, but
beyond `Abort.maxPermits`, aborts the call that opens the stream or builds the
worker (`accepted_queue_too_long`).

**Proved here** (`accepted_settings_open`): settings that were loaded are
accepted; accepted ones make a template; and they build a worker, and open a
stream, exactly when their number can be counted.
-/
import RowBridge.Config.Layers

namespace RowBridge

/-! ## What is accepted -/

namespace StreamSettings

theorem fault?_eq_none_iff (s : StreamSettings) :
    s.fault? = none ↔ s.queueSize ≠ 0 ∧ s.bufferTimeoutMs ≠ 0 ∧ s.maxConcurrentScans ≠ some 0 := by
  by_cases hqueue : s.queueSize = 0
  · simp [fault?, hqueue]
  rw [fault?, if_neg hqueue]
  by_cases htimeout : s.bufferTimeoutMs = 0
  · simp [htimeout]
  rw [if_neg htimeout]
  by_cases hscans : s.maxConcurrentScans = some 0
  · simp [hscans]
  · simp [hqueue, htimeout, hscans]

theorem validate_eq_ok_iff (s : StreamSettings) :
    s.validate = .ok () ↔
      s.queueSize ≠ 0 ∧ s.bufferTimeoutMs ≠ 0 ∧ s.maxConcurrentScans ≠ some 0 := by
  rw [← s.fault?_eq_none_iff]
  unfold validate
  cases s.fault? with
  | none => simp
  | some text => simp

end StreamSettings

namespace StreamTemplate

theorem validate_eq_ok_iff (t t' : StreamTemplate) :
    t.validate = .ok t' ↔ t.queueSize ≠ 0 ∧ t.bufferTimeout.isZero = false ∧ t = t' := by
  unfold validate
  by_cases hqueue : t.queueSize = 0
  · simp [hqueue]
  · cases htimeout : t.bufferTimeout.isZero with
    | true => simp [hqueue]
    | false => simp [hqueue]

end StreamTemplate

namespace Config

/-- Settings are not handed out before they are validated. -/
theorem validate_of_settle {t : Tree} {s : Settings} (h : settle t = .ok s) :
    s.stream.validate = .ok () := by
  unfold settle at h
  split at h
  · cases h
  next fitting _ =>
    split at h
    · cases h
    next hvalid =>
      cases h
      exact hvalid

theorem validate_of_load {files : List File} {vars : List (String × String)} {s : Settings}
    (h : load files vars = .ok s) : s.stream.validate = .ok () := by
  unfold load at h
  cases henvironment : (Environment.tree vars).mapError LoadError.aborted with
  | error e => rw [henvironment] at h; cases h
  | ok environment =>
      rw [henvironment] at h
      change (files.mapM File.tree).bind _ = _ at h
      cases hlayers : files.mapM File.tree with
      | error e => rw [hlayers] at h; cases h
      | ok layers =>
          rw [hlayers] at h
          exact validate_of_settle h

end Config

/-! ## What comes of it -/

/-- A queue with room for something is opened exactly when its room can be
counted. -/
theorem Session.open?_eq {R : Type} {capacity : Nat} (h : capacity ≠ 0) :
    (open? capacity : Except Abort (Session R)) =
      if capacity ≤ Abort.maxPermits then .ok (fresh capacity) else .error .tooManyPermits := by
  rw [open?, if_neg h]
  by_cases hle : capacity ≤ Abort.maxPermits
  · rw [if_pos hle, if_neg (Nat.not_lt_of_le hle)]
  · rw [if_neg hle, if_pos (Nat.lt_of_not_le hle)]

namespace StreamTemplate

variable {Row R : Type} {t : StreamTemplate}

theorem stream_eq (h : t.queueSize ≠ 0) (query : Query Row R) :
    t.stream query = if t.queueSize ≤ Abort.maxPermits
      then .ok (.fresh (t.plan query) (.fresh t.queueSize)) else .error .tooManyPermits := by
  rw [stream, RowStream.open?, Session.open?_eq h]
  split <;> rfl

/-- A call that is accepted opens the stream of the template that it makes. -/
theorem streamWith_eq {o : StreamOptions} (h : (t.override o).validate = .ok (t.override o))
    (query : Query Row R) : t.streamWith query o = ((t.override o).stream query).map .ok := by
  rw [streamWith, h]

end StreamTemplate

namespace StreamSettings

/-- Accepted settings make a template, which is accepted as well. -/
theorem template_eq {s : StreamSettings} (h : s.validate = .ok ()) :
    s.template = .ok ⟨s.queueSize, s.bufferTimeout⟩ ∧
      StreamTemplate.validate ⟨s.queueSize, s.bufferTimeout⟩ =
        .ok ⟨s.queueSize, s.bufferTimeout⟩ := by
  obtain ⟨hqueue, htimeout, -⟩ := s.validate_eq_ok_iff.mp h
  have hpositive : s.bufferTimeout.isZero = false := by
    simp only [bufferTimeout, TimeSpan.ofMillis, TimeSpan.isZero, beq_eq_false_iff_ne]
    omega
  have haccepted : StreamTemplate.validate ⟨s.queueSize, s.bufferTimeout⟩ =
      .ok ⟨s.queueSize, s.bufferTimeout⟩ :=
    (StreamTemplate.validate_eq_ok_iff _ _).mpr ⟨hqueue, hpositive, rfl⟩
  refine ⟨?_, haccepted⟩
  rw [template, h]
  exact haccepted

/-- A worker is built exactly when the scans that may run at once can be counted. -/
theorem worker_eq {s : StreamSettings} (h : s.validate = .ok ()) :
    s.worker = if ∀ limit ∈ s.maxConcurrentScans, limit ≤ Abort.maxPermits
      then .ok ⟨s.maxConcurrentScans, s.shutdownTimeout, false⟩ else .error .tooManyPermits := by
  obtain ⟨-, -, hlimit⟩ := s.validate_eq_ok_iff.mp h
  unfold worker
  cases hscans : s.maxConcurrentScans with
  | none => simp [Schedule.WorkerSettings.default]
  | some limit =>
      have hpositive : max limit 1 = limit := by
        rw [hscans] at hlimit
        have hne : limit ≠ 0 := fun hzero => hlimit (congrArg some hzero)
        omega
      simp only [Schedule.WorkerSetup.change, Schedule.WorkerSetup.limitOf, hpositive]
      by_cases hle : limit ≤ Abort.maxPermits
      · rw [if_neg (Nat.not_lt_of_le hle), if_pos (by simpa using hle)]
        rfl
      · rw [if_pos (Nat.lt_of_not_le hle), if_neg (by simpa using hle)]
        rfl

end StreamSettings

/-! ## Accepted settings -/

section
open StreamTemplate Config

/-- Settings that were loaded, from wherever, are accepted.  From settings that are
accepted a template is made; a worker is built from them, and a stream is opened by
an accepted template or call, if the numbers they give can be counted, and if not
the call aborts. -/
theorem accepted_settings_open {Row R : Type} :
    (∀ (w : Surroundings) (name : String) (settings : Settings),
      w.loadForService name = .ok settings ∨ w.loadFrom name = .ok settings →
      settings.stream.validate = .ok ()) ∧
    (∀ s : StreamSettings, s.validate = .ok () →
      (∃ t, s.template = .ok t ∧ t.validate = .ok t ∧ t.queueSize = s.queueSize ∧
        t.bufferTimeout = s.bufferTimeout) ∧
      ((∀ limit ∈ s.maxConcurrentScans, limit ≤ Abort.maxPermits) →
        s.worker = .ok ⟨s.maxConcurrentScans, s.shutdownTimeout, false⟩) ∧
      ((∃ limit ∈ s.maxConcurrentScans, Abort.maxPermits < limit) →
        s.worker = .error .tooManyPermits)) ∧
    ∀ (t : StreamTemplate) (query : Query Row R), t.validate = .ok t →
      (t.queueSize ≤ Abort.maxPermits →
        t.stream query = .ok (.fresh (t.plan query) (.fresh t.queueSize))) ∧
      (Abort.maxPermits < t.queueSize → t.stream query = .error .tooManyPermits) ∧
      ∀ o : StreamOptions, (t.override o).validate = .ok (t.override o) →
        ((t.override o).queueSize ≤ Abort.maxPermits → t.streamWith query o =
          .ok (.ok (.fresh ((t.override o).plan query) (.fresh (t.override o).queueSize)))) ∧
        (Abort.maxPermits < (t.override o).queueSize →
          t.streamWith query o = .error .tooManyPermits) := by
  refine ⟨?_, ?_, ?_⟩
  · rintro w name settings (hload | hload)
    · exact validate_of_load hload
    · exact validate_of_load hload
  · intro s hs
    obtain ⟨htemplate, haccepted⟩ := s.template_eq hs
    refine ⟨⟨_, htemplate, haccepted, rfl, rfl⟩, ?_, ?_⟩
    · intro hcounted
      rw [s.worker_eq hs, if_pos hcounted]
    · rintro ⟨limit, hlimit, hlt⟩
      have hnot : ¬ ∀ limit ∈ s.maxConcurrentScans, limit ≤ Abort.maxPermits :=
        fun hall => Nat.not_lt_of_le (hall limit hlimit) hlt
      rw [s.worker_eq hs, if_neg hnot]
  · intro t query ht
    have hqueue := ((t.validate_eq_ok_iff t).mp ht).1
    refine ⟨?_, ?_, ?_⟩
    · intro hle
      rw [stream_eq hqueue, if_pos hle]
    · intro hlt
      rw [stream_eq hqueue, if_neg (Nat.not_le_of_lt hlt)]
    · intro o ho
      have hqueue := (((t.override o).validate_eq_ok_iff _).mp ho).1
      rw [streamWith_eq ho, stream_eq hqueue]
      refine ⟨?_, ?_⟩
      · intro hle
        rw [if_pos hle]
        rfl
      · intro hlt
        rw [if_neg (Nat.not_le_of_lt hlt)]
        rfl

/-- A query that maps numbers to themselves. -/
def countingQuery : Query Nat Nat := ⟨"SELECT n", .empty, fun row _ => .ok row⟩

/-- The longest queue of all, and as many scans at once. -/
def largest : StreamSettings := ⟨Abort.maxPermits, 1, some Abort.maxPermits, 5⟩

theorem largest_settings_open :
    largest.validate = .ok () ∧
      ∃ (t : StreamTemplate) (w : Schedule.WorkerSettings) (st : RowStream Nat Nat),
        largest.template = .ok t ∧ largest.worker = .ok w ∧ t.stream countingQuery = .ok st ∧
        st.session.capacity = Abort.maxPermits := by
  have hvalid : largest.validate = .ok () := rfl
  obtain ⟨-, hsettings, htemplates⟩ := @accepted_settings_open Nat Nat
  obtain ⟨⟨t, htemplate, haccepted, hqueue, -⟩, hworker, -⟩ := hsettings largest hvalid
  have hcounted : ∀ limit ∈ largest.maxConcurrentScans, limit ≤ Abort.maxPermits := by
    rintro limit ⟨⟩
    exact Nat.le_refl _
  have hstream := (htemplates t countingQuery haccepted).1 (Nat.le_of_eq hqueue)
  exact ⟨hvalid, t, _, _, htemplate, hworker hcounted, hstream, hqueue⟩

/-- One more than can be counted, of either, is accepted, and is no template's
fault; but no stream can be opened with it, and no worker built. -/
theorem accepted_queue_too_long :
    ∃ (s : StreamSettings) (t : StreamTemplate), s.validate = .ok () ∧ s.template = .ok t ∧
      t.validate = .ok t ∧ t.stream countingQuery = .error .tooManyPermits ∧
      t.streamWith countingQuery .none = .error .tooManyPermits ∧
      s.worker = .error .tooManyPermits :=
  ⟨⟨Abort.maxPermits + 1, 1, some (Abort.maxPermits + 1), 5⟩, _, rfl, rfl, rfl, rfl, rfl, rfl⟩

end
end RowBridge
