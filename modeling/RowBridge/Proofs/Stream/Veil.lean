/-
# `RowBridge.Proofs.Stream.Veil` — what the consumer of a stream cannot see

A stream tells its consumer that its scan has failed, and whether the failure was
transient, by the reason for which the session is closed.  It does not tell more.
The veil takes away what is not told:

    of a failure                   all but whether it is transient
    of a scan that was not run     whether a scheduler dropped it or it ended at once
    of a scan                      what it reported to the log

Two invocations that are alike behind the veil make the same moves and are alike
afterwards (`step?_veiled_congr`).  What polls give, the session, and how often
mapper and source were called is in front of the veil.
-/
import RowBridge.Proofs.Stream.Invocation

namespace RowBridge

variable {Row R : Type}

/-! ## The veil -/

/-- A failure of which nothing is told but whether it is transient. -/
def ScanError.veiled (e : ScanError) : ScanError :=
  .plain (if e.isTransient then .uncategorized else .other) ""

def Ending.veiled : Ending → Ending
  | .failed failure => .failed failure.veiled
  | ending => ending

/-- A scan that was dropped is taken for one that ended well. -/
def ScanPhase.veiled : ScanPhase Row R → ScanPhase Row R
  | .failing failure => .failing failure.veiled
  | .ended result => .ended result.veiled
  | .discarded => .ended .ok
  | phase => phase

def Scan.veiled (s : Scan Row R) : Scan Row R := { s with phase := s.phase.veiled, events := [] }

def ScanMove.veiled : ScanMove Row → ScanMove Row
  | .conclude ending => .conclude ending.veiled
  | move => move

def Ledger.veiled (l : Ledger Row R) : Ledger Row R :=
  { l with returned := l.returned.map Ending.veiled }

def RowStream.veiled (st : RowStream Row R) : RowStream Row R := { st with scan := st.scan.veiled }

def Move.veiled : Move Row → Move Row
  | .scan move => .scan move.veiled
  | move => move

def Invocation.veiled (v : Invocation Row R) : Invocation Row R :=
  { v with stream := v.stream.veiled, ledger := v.ledger.veiled }

/-! ## Failures -/

@[simp] theorem ScanError.isTransient_veiled (e : ScanError) :
    e.veiled.isTransient = e.isTransient := by
  unfold veiled
  cases e.isTransient <;> rfl

/-- Two failures are the same behind the veil if both are transient, or neither. -/
theorem ScanError.veiled_eq {e e' : ScanError} (h : e.isTransient = e'.isTransient) :
    e.veiled = e'.veiled := by
  rw [veiled, veiled, h]

@[simp] theorem ScanError.veiled_veiled (e : ScanError) : e.veiled.veiled = e.veiled := by
  rw [veiled, isTransient_veiled]
  rfl

@[simp] theorem ScanError.veiled_withStatement (e : ScanError) (statement : String) :
    (e.withStatement statement).veiled = e.veiled := rfl

@[simp] theorem Ending.veiled_veiled (ending : Ending) : ending.veiled.veiled = ending.veiled := by
  cases ending with
  | failed failure => exact congrArg Ending.failed failure.veiled_veiled
  | _ => rfl

/-! ## Scans -/

@[simp] theorem ScanPhase.veiled_veiled (phase : ScanPhase Row R) :
    phase.veiled.veiled = phase.veiled := by
  cases phase with
  | failing failure => exact congrArg failing failure.veiled_veiled
  | ended result => exact congrArg ended result.veiled_veiled
  | _ => rfl

@[simp] theorem ScanPhase.isBusy_veiled (phase : ScanPhase Row R) :
    phase.veiled.isBusy = phase.isBusy := by
  cases phase <;> rfl

namespace Scan

variable (s : Scan Row R)

/-- Where the veil hides no phase, it hides the log. -/
theorem veiled_eq (h : s.phase.veiled = s.phase) : s.veiled = { s with events := [] } := by
  rw [veiled, h]

@[simp] theorem veiled_veiled : s.veiled.veiled = s.veiled := by
  simp [veiled]

@[simp] theorem isQueued_veiled : s.veiled.isQueued = s.isQueued := by
  simp only [isQueued, veiled]
  cases s.phase <;> rfl

/-- How a scan ended, if it was not dropped. -/
theorem ending?_veiled (h : s.phase ≠ .discarded) :
    s.veiled.ending? = s.ending?.map Ending.veiled := by
  simp only [ending?, veiled]
  cases hp : s.phase with
  | discarded => exact absurd hp h
  | _ => rfl

@[simp] theorem isIdle_veiled : s.veiled.isIdle = s.isIdle := by
  simp only [isIdle, veiled]
  cases s.phase <;> rfl

/-- A scan that is not run looks the same, whether it was begun or dropped. -/
theorem begin_veiled_of_isClosed (hp : s.phase = .queued) (hc : s.session.isClosed = true) :
    s.begin.veiled = s.discard.veiled := by
  simp only [begin, hp, hc]
  rfl

/-! What a scan reported so far makes no difference to what it does. -/

section
variable (events : List LogEvent)

theorem begin_veiled (hp : s.phase = .queued) :
    (begin { s with events := events }).veiled = s.begin.veiled := by
  cases hc : s.session.isClosed with
  | true => simp only [begin, hp, hc]; rfl
  | false => simp only [begin, hp, hc]; rfl

theorem offer_veiled (row : Row) (index : Nat) :
    (offer { s with events := events } row index).veiled = (s.offer row index).veiled := by
  cases hc : s.session.isClosed with
  | true => simp only [offer, hc]; rfl
  | false => simp only [offer, hc]; rfl

theorem conclude_veiled (ending : Ending) :
    (conclude { s with events := events } ending.veiled).veiled = (s.conclude ending).veiled := by
  cases ending with
  | raised text => rfl
  | ok =>
      cases hc : s.session.isClosed with
      | true => simp only [Ending.veiled, conclude, hc]; rfl
      | false => simp only [Ending.veiled, conclude, hc]; rfl
  | failed failure =>
      cases hc : s.session.isClosed with
      | true => simp only [Ending.veiled, conclude, hc]; rfl
      | false => simp [Ending.veiled, conclude, hc, veiled, ScanPhase.veiled]

theorem settleFailure_veiled (failure : ScanError) (phase : ScanPhase Row R) :
    (settleFailure { s with phase := phase, events := events } failure.veiled).veiled =
      (s.settleFailure failure).veiled := by
  unfold settleFailure
  rw [ScanError.isTransient_veiled]
  split
  · rfl
  · simp [veiled, ScanPhase.veiled, finish, reportFailure, report, Ending.veiled]

theorem map_veiled (row : Row) (index : Nat) :
    (map { s with events := events } row index).veiled = (s.map row index).veiled := by
  simp only [map]
  split <;> rfl

theorem advance_veiled (expired : Bool) : (s.veiled.advance expired).veiled =
    (s.advance expired).veiled := by
  cases hp : s.phase with
  | failing failure =>
      have hafter : s.advance expired = s.settleFailure failure := by simp [advance, hp]
      have hbefore : s.veiled.advance expired = s.veiled.settleFailure failure.veiled := by
        simp [advance, veiled, hp, ScanPhase.veiled]
      rw [hafter, hbefore]
      exact s.settleFailure_veiled [] failure _
  | mapping row index =>
      rw [s.veiled_eq (by rw [hp]; rfl)]
      have hafter : s.advance expired = s.map row index := by simp [advance, hp]
      have hbefore : advance expired { s with events := [] } =
          map { s with events := [] } row index := by simp [advance, hp]
      rw [hafter, hbefore]
      exact s.map_veiled [] row index
  | sending item stage =>
      rw [s.veiled_eq (by rw [hp]; rfl)]
      simp only [advance, hp]
      cases stage with
      | done outcome => cases outcome <;> rfl
      | _ => rfl
  | ending stage =>
      rw [s.veiled_eq (by rw [hp]; rfl)]
      simp only [advance, hp]
      cases stage with
      | done outcome => cases outcome <;> rfl
      | _ => rfl
  | _ =>
      have hafter : s.advance expired = s := by simp [advance, hp]
      have hbefore : s.veiled.advance expired = s.veiled := by
        simp [advance, veiled, hp, ScanPhase.veiled]
      rw [hafter, hbefore]
      exact s.veiled_veiled

end

/-- A scan and the scan behind the veil make the same moves. -/
theorem step?_veiled (move : ScanMove Row) :
    (s.veiled.step? move.veiled).map veiled = (s.step? move).map veiled := by
  cases move with
  | begin =>
      simp only [ScanMove.veiled, step?, isQueued_veiled]
      cases hq : s.isQueued with
      | false => rfl
      | true =>
          have hp := phase_of_isQueued hq
          rw [s.veiled_eq (by rw [hp]; rfl)]
          exact congrArg some (s.begin_veiled [] hp)
  | lose =>
      simp only [ScanMove.veiled, step?, isQueued_veiled]
      cases s.isQueued <;> rfl
  | offer row index =>
      simp only [ScanMove.veiled, step?, isIdle_veiled]
      cases hi : s.isIdle with
      | false => rfl
      | true =>
          rw [s.veiled_eq (by rw [phase_of_isIdle hi]; rfl)]
          exact congrArg some (s.offer_veiled [] row index)
  | conclude ending =>
      simp only [ScanMove.veiled, step?, isIdle_veiled]
      cases hi : s.isIdle with
      | false => rfl
      | true =>
          rw [s.veiled_eq (by rw [phase_of_isIdle hi]; rfl)]
          exact congrArg some (s.conclude_veiled [] ending)
  | advance expired =>
      simp only [ScanMove.veiled, step?]
      rw [show s.veiled.phase = s.phase.veiled from rfl, ScanPhase.isBusy_veiled]
      cases s.phase.isBusy with
      | false => rfl
      | true => exact congrArg some (s.advance_veiled expired)
  | recheck =>
      simp only [ScanMove.veiled, step?, recheck?]
      cases hp : s.phase with
      | sending item stage => cases stage <;> simp [veiled, ScanPhase.veiled, hp]
      | ending stage => cases stage <;> simp [veiled, ScanPhase.veiled, hp]
      | _ => simp [veiled, ScanPhase.veiled, hp]

end Scan

/-! ## Streams -/

namespace RowStream

variable (st : RowStream Row R)

@[simp] theorem veiled_veiled : st.veiled.veiled = st.veiled := by
  simp [veiled]

@[simp] theorem withSession_veiled (session : Session R) :
    (st.veiled.withSession session).veiled = (st.withSession session).veiled := by
  simp [withSession, veiled, Scan.veiled]

@[simp] theorem finish_veiled (reason : ClosureReason) :
    (st.veiled.finish reason).1.veiled = (st.finish reason).1.veiled := by
  simp [finish, veiled]

theorem abandonStart_veiled : st.veiled.abandonStart.veiled = st.abandonStart.veiled := by
  simp only [abandonStart]
  cases hs : st.started with
  | true => simp [veiled, hs]
  | false => simp [veiled, hs]; rfl

theorem handOver_veiled (reception : Reception) :
    (st.veiled.handOver reception).veiled = (st.handOver reception).veiled := by
  cases reception <;> rfl

end RowStream

namespace PollStage

variable (runtime : Bool) (reception : Reception) (st : RowStream Row R)

theorem enter_veiled : st.veiled.enter.1.veiled = st.enter.1.veiled ∧
    st.veiled.enter.2 = st.enter.2 := by
  have habandon := (st.withSession st.session.hush).abandonStart_veiled
  -- a poll begins with the same look at the stream, at its closer, and at whether it was started
  have hlook : ∀ st' : RowStream Row R, st'.done = st.done → st'.reason = st.reason →
      st'.started = st.started → st'.enter =
        if st.done then (st'.withSession st'.session.hush, done .finished)
        else st.reason.elim
          (st'.withSession st'.session.hush, if st.started then taking else starting)
          (st'.withSession st'.session.hush).abandonStart.finish := by
    intro st' hd hr hs
    have hreason : (st'.withSession st'.session.hush).reason = st.reason := hr
    simp only [RowStream.enter, hreason]
    rw [← hd, ← hs]
    cases st.reason <;> rfl
  rw [hlook st.veiled rfl rfl rfl, hlook st rfl rfl rfl]
  split
  · exact ⟨st.withSession_veiled _, rfl⟩
  · cases st.reason with
    | none => exact ⟨st.withSession_veiled _, rfl⟩
    | some reason =>
        refine ⟨?_, rfl⟩
        exact congrArg (fun moved : RowStream Row R => { moved with done := true }) habandon

/-- The moments of a poll are the same behind the veil. -/
theorem advance_veiled (stage : PollStage R) :
    (stage.advance runtime reception st.veiled).1.veiled =
        (stage.advance runtime reception st).1.veiled ∧
      (stage.advance runtime reception st.veiled).2 = (stage.advance runtime reception st).2 := by
  cases stage with
  | entering => exact enter_veiled st
  | starting =>
      cases runtime with
      | true => exact ⟨st.handOver_veiled reception, rfl⟩
      | false =>
          refine ⟨?_, rfl⟩
          exact congrArg (fun moved : RowStream Row R => { moved with done := true })
            (st.close .sourceFailure).abandonStart_veiled
  | checking =>
      simp only [advance, RowStream.check]
      rw [show st.veiled.reason = st.reason from rfl]
      split
      · exact ⟨st.finish_veiled _, rfl⟩
      · exact ⟨st.veiled_veiled, rfl⟩
  | taking =>
      have hsession := st.withSession_veiled st.session.poll.1
      have hended := congrArg (fun moved : RowStream Row R => { moved with done := true }) hsession
      simp only [advance, RowStream.take]
      rw [show st.veiled.session = st.session from rfl]
      split
      · exact ⟨hsession, rfl⟩
      · exact ⟨hended, rfl⟩
      · exact ⟨hended, rfl⟩
      · exact ⟨hsession, rfl⟩
  | watching =>
      simp only [advance, RowStream.watch]
      rw [show st.veiled.reason = st.reason from rfl]
      split
      · exact ⟨st.finish_veiled _, rfl⟩
      · exact ⟨st.withSession_veiled _, rfl⟩
  | done next => exact ⟨st.veiled_veiled, rfl⟩

end PollStage

/-! ## Invocations -/

@[simp] theorem Ledger.veiled_veiled (l : Ledger Row R) : l.veiled.veiled = l.veiled := by
  cases hret : l.returned with
  | none => simp [veiled, hret]
  | some ending => simp [veiled, hret]

/-- What a scan's move enters into the ledger, behind the veil. -/
theorem Ledger.enter_veiled (l : Ledger Row R) (before after : Session R) (move : ScanMove Row) :
    (l.veiled.enter before after move.veiled).veiled = (l.enter before after move).veiled := by
  cases move with
  | conclude ending => simp [enter, ScanMove.veiled, veiled]
  | offer row index =>
      exact congrArg (fun l : Ledger Row R => { l with handed := l.handed ++ [(row, index)] })
        l.veiled_veiled
  | _ =>
      exact congrArg (fun l : Ledger Row R => l.grow before after) l.veiled_veiled

namespace Invocation

section
variable (v : Invocation Row R)

@[simp] theorem veiled_veiled : v.veiled.veiled = v.veiled := by
  simp [veiled]

theorem goOn_veiled (stage : PollStage R) : (v.goOn stage).veiled = v.veiled.goOn stage := by
  cases stage <;> rfl

theorem advance_veiled (runtime : Bool) (reception : Reception) (stage : PollStage R) :
    (v.veiled.advance runtime reception stage).veiled =
      (v.advance runtime reception stage).veiled := by
  obtain ⟨hstream, hstage⟩ := PollStage.advance_veiled runtime reception v.stream stage
  simp only [advance, goOn_veiled]
  rw [show v.veiled.stream = v.stream.veiled from rfl, hstage]
  refine congrArg (fun u : Invocation Row R => u.goOn _) ?_
  simp only [veiled, hstream, Ledger.veiled_veiled]

theorem onScan_veiled (move : ScanMove Row) {scan scan' : Scan Row R}
    (h : scan.veiled = scan'.veiled) :
    (v.veiled.onScan move.veiled scan).veiled = (v.onScan move scan').veiled := by
  have hsession : scan.session = scan'.session := by
    show scan.veiled.session = scan'.veiled.session
    rw [h]
  simp only [onScan, veiled, RowStream.veiled, h, hsession]
  exact congrArg (fun ledger => (⟨{ v.stream with scan := scan'.veiled }, v.poll, ledger, v.diary⟩ :
    Invocation Row R)) (v.ledger.enter_veiled v.session scan'.session move)

/-- An invocation and the invocation behind the veil make the same moves. -/
theorem step?_veiled (move : Move Row) :
    (v.veiled.step? move.veiled).map veiled = (v.step? move).map veiled := by
  -- what the consumer and others do to the stream, they do behind the veil
  have honStream : ∀ {st st' : RowStream Row R} (diary : List (Note R)), st.veiled = st'.veiled →
      (⟨st, v.poll, v.ledger.veiled, diary⟩ : Invocation Row R).veiled =
        (⟨st', v.poll, v.ledger, diary⟩ : Invocation Row R).veiled := by
    intro st st' diary hst
    simp only [veiled, hst, Ledger.veiled_veiled]
  cases move with
  | pass => exact congrArg some v.veiled_veiled
  | close reason =>
      exact congrArg some (honStream v.diary (v.stream.withSession_veiled (v.session.close reason)))
  | beginPoll =>
      simp only [step?, Move.veiled]
      rw [show v.veiled.isFree = v.isFree from rfl]
      split
      · exact congrArg (fun u : Invocation Row R => some { u with poll := some .entering })
          v.veiled_veiled
      · rfl
  | poll runtime reception =>
      simp only [step?, Move.veiled, Option.map_map]
      rw [show v.veiled.poll = v.poll from rfl]
      refine congrArg (fun f => v.poll.map f) (funext ?_)
      intro stage
      exact v.advance_veiled runtime reception stage
  | scan m =>
      have hscan := v.stream.scan.step?_veiled m
      simp only [step?, Move.veiled]
      cases hs : v.stream.scan.step? m with
      | none =>
          rw [hs] at hscan
          have hnone : v.veiled.stream.scan.step? m.veiled = none := Option.map_eq_none_iff.mp hscan
          rw [hnone]
          rfl
      | some scan' =>
          rw [hs] at hscan
          obtain ⟨scan, hscan, heq⟩ := Option.map_eq_some_iff.mp hscan
          have hsome : v.veiled.stream.scan.step? m.veiled = some scan := hscan
          rw [hsome]
          exact congrArg some (v.onScan_veiled m heq)
  | cancel =>
      simp only [step?, Move.veiled]
      rw [show v.veiled.isFree = v.isFree from rfl]
      split
      · have hcancel : v.veiled.stream.cancel.veiled = v.stream.cancel.veiled :=
          congrArg (fun moved : RowStream Row R => { moved with done := true })
            (v.stream.withSession v.session.cancel).abandonStart_veiled
        exact congrArg some (honStream (v.diary ++ [Note.cancelled]) hcancel)
      · rfl
  | drop =>
      simp only [step?, Move.veiled]
      rw [show v.veiled.isFree = v.isFree from rfl]
      split
      · have hdrop : v.veiled.stream.drop.veiled = v.stream.drop.veiled :=
          (v.stream.withSession v.session.dropConsumer).abandonStart_veiled
        exact congrArg some (honStream v.diary hdrop)
      · rfl

end

section
variable {v w : Invocation Row R} {move move' : Move Row}

/-- Invocations that are alike behind the veil make the same moves, and are alike
afterwards. -/
theorem step?_veiled_congr (hv : v.veiled = w.veiled) (hmove : move.veiled = move'.veiled) :
    Option.Rel (fun v' w' : Invocation Row R => v'.veiled = w'.veiled) (v.step? move)
      (w.step? move') := by
  refine rel_of_map_eq ?_
  rw [← v.step?_veiled, ← w.step?_veiled, hv, hmove]

/-! What is in front of the veil. -/

theorem scan_eq_of_veiled (h : v.veiled = w.veiled) :
    v.stream.scan.veiled = w.stream.scan.veiled := by
  show v.veiled.stream.scan = w.veiled.stream.scan
  rw [h]

theorem diary_eq_of_veiled (h : v.veiled = w.veiled) : v.diary = w.diary := by
  show v.veiled.diary = w.veiled.diary
  rw [h]

theorem session_eq_of_veiled (h : v.veiled = w.veiled) : v.session = w.session := by
  show v.veiled.session = w.veiled.session
  rw [h]

theorem scans_eq_of_veiled (h : v.veiled = w.veiled) :
    v.stream.scan.scans = w.stream.scan.scans := by
  show v.veiled.stream.scan.scans = w.veiled.stream.scan.scans
  rw [h]

theorem mapped_eq_of_veiled (h : v.veiled = w.veiled) :
    v.stream.scan.mapped = w.stream.scan.mapped := by
  show v.veiled.stream.scan.mapped = w.veiled.stream.scan.mapped
  rw [h]

end
end Invocation
end RowBridge
