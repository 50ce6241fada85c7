/-
# `RowBridge.Proofs.Scan.Moves` — what one move of a scan can do

The row source, the clock and the scheduler drive a scan: a `ScanMove` says what
is asked of it, and `Scan.step?` is the scan afterwards, or nothing where the
scan is not at that point.  `Scan.Does` lists what can come of a move, one rule
for each way; nothing else unfolds the operations of a scan.

    rule          phase          move       when      next phase
    skips         queued         begin      closed    ended
    begins        queued         begin      open      scanning
    vanishes      queued         lose                 discarded
    turnsAway     scanning       offer      closed    scanning
    takesOn       scanning       offer      open      mapping
    comesToEnd    scanning       conclude   open      ending
    fails         scanning       conclude   open      failing
    stops         scanning       conclude   closed    ended
    stopsFailing  scanning       conclude   closed    ended
    raises        scanning       conclude             ended
    maps          mapping        advance              sending
    givesUp       mapping        advance              ended
    sends         sending        advance              sending
    settles       sending, done  advance              scanning
    delivers      ending         advance              ending
    completes     ending, done   advance              ended
    closes        failing        advance              ended
    looksAgain    sending        recheck              sending
    endsAgain     ending         recheck              ending

To the session a move does one of four things (`Scan.Touches`): nothing, a
moment of an enqueue, the end of the producer half, or a closing for a failure
and then that end.
-/
import RowBridge.Scan
import RowBridge.Proofs.Session.Enqueue

namespace RowBridge

/-- What is asked of a scan. -/
inductive ScanMove (Row : Type)
  /-- The scheduler puts the scan on a thread. -/
  | begin
  /-- The scheduler drops the scan. -/
  | lose
  | offer (row : Row) (index : Nat)
  | conclude (ending : Ending)
  | advance (expired : Bool)
  /-- The waiting enqueue is woken. -/
  | recheck

namespace ScanPhase

variable {Row R : Type}

/-- The scan has an own move to make. -/
def isBusy : ScanPhase Row R → Bool
  | mapping _ _ | sending _ _ | ending _ | failing _ => true
  | _ => false

/-- The scan has come to its end, or will never be run. -/
def isOver : ScanPhase Row R → Bool
  | ended _ | discarded => true
  | _ => false

/-- The enqueue under way, if there is one, is at a stage it can be in. -/
def Sound (s : Session R) : ScanPhase Row R → Prop
  | sending _ stage => stage.Sound s
  | ending stage => stage.Sound s
  | _ => True

theorem Sound.of_isClosed {phase : ScanPhase Row R} {s s' : Session R} (h : phase.Sound s)
    (hc : s.isClosed = true → s'.isClosed = true) : phase.Sound s' := by
  cases phase with
  | sending item stage => exact SendStage.Sound.of_isClosed h hc
  | ending stage => exact SendStage.Sound.of_isClosed h hc
  | _ => trivial

end ScanPhase

namespace Scan

variable {Row R : Type}

/-- The enqueue under way is about to look for a closing again. -/
def recheck? (s : Scan Row R) : Option (Scan Row R) :=
  match s.phase with
  | .sending item .waiting => some { s with phase := .sending item .polling }
  | .ending .waiting => some { s with phase := .ending .polling }
  | _ => none

/-- Whether a scheduler has the scan and has not begun it. -/
def isQueued (s : Scan Row R) : Bool :=
  match s.phase with
  | .queued => true
  | _ => false

/-- One move of a scan; none where the scan is not at that point. -/
def step? (s : Scan Row R) : ScanMove Row → Option (Scan Row R)
  | .begin => if s.isQueued then some s.begin else none
  | .lose => if s.isQueued then some s.discard else none
  | .offer row index => if s.isIdle then some (s.offer row index) else none
  | .conclude ending => if s.isIdle then some (s.conclude ending) else none
  | .advance expired => if s.phase.isBusy then some (s.advance expired) else none
  | .recheck => s.recheck?

/-- What one move can do to a scan. -/
inductive Does (s : Scan Row R) : ScanMove Row → Scan Row R → Prop
  | skips : s.phase = .queued → s.session.isClosed = true →
      Does s .begin (s.reportSkipped.finish .ok)
  | begins : s.phase = .queued → s.session.isClosed = false →
      Does s .begin { s with phase := .scanning, scans := s.scans + 1 }
  | vanishes : s.phase = .queued → Does s .lose s.discard
  | turnsAway {row : Row} {index : Nat} : s.phase = .scanning → s.session.isClosed = true →
      Does s (.offer row index) { s with answer := some .stop }
  | takesOn {row : Row} {index : Nat} : s.phase = .scanning → s.session.isClosed = false →
      Does s (.offer row index) { s with phase := .mapping row index, answer := none }
  | comesToEnd : s.phase = .scanning → s.session.isClosed = false →
      Does s (.conclude .ok) { s with phase := .ending .entering }
  | fails {failure : ScanError} : s.phase = .scanning → s.session.isClosed = false →
      Does s (.conclude (.failed failure)) { s with phase := .failing failure }
  | stops : s.phase = .scanning → s.session.isClosed = true → Does s (.conclude .ok) (s.finish .ok)
  | stopsFailing {failure : ScanError} : s.phase = .scanning → s.session.isClosed = true →
      Does s (.conclude (.failed failure)) ((s.reportStopped failure).finish .ok)
  | raises {text : String} : s.phase = .scanning →
      Does s (.conclude (.raised text)) (s.finish (.raised text))
  | maps {expired : Bool} {row : Row} {index : Nat} {value : R} : s.phase = .mapping row index →
      s.plan.mapper row index = .ok value →
      Does s (.advance expired)
        { s with mapped := s.mapped + 1, phase := .sending (.value value) .entering }
  | givesUp {expired : Bool} {row : Row} {index : Nat} {text : String} :
      s.phase = .mapping row index → s.plan.mapper row index = .error text →
      Does s (.advance expired) ({ s with mapped := s.mapped + 1 }.finish (.raised text))
  | sends {expired : Bool} {item : Item R} {stage stage' : SendStage} {session : Session R}
      {events : List LogEvent} : s.phase = .sending item stage →
      stage.Moves s.plan.runtime expired s.session item session stage' →
      Does s (.advance expired)
        { s with session := session, phase := .sending item stage', events := events }
  | settles {expired : Bool} {item : Item R} {outcome : SendOutcome} :
      s.phase = .sending item (.done outcome) → Does s (.advance expired) (s.settleRow outcome)
  | delivers {expired : Bool} {stage stage' : SendStage} {session : Session R}
      {events : List LogEvent} : s.phase = .ending stage →
      stage.Moves s.plan.runtime expired s.session .finish session stage' →
      Does s (.advance expired)
        { s with session := session, phase := .ending stage', events := events }
  | completes {expired : Bool} {outcome : SendOutcome} : s.phase = .ending (.done outcome) →
      Does s (.advance expired) (s.settleFinish outcome)
  | closes {expired : Bool} {failure : ScanError} : s.phase = .failing failure →
      Does s (.advance expired) (s.settleFailure failure)
  | looksAgain {item : Item R} : s.phase = .sending item .waiting →
      Does s .recheck { s with phase := .sending item .polling }
  | endsAgain : s.phase = .ending .waiting → Does s .recheck { s with phase := .ending .polling }

/-! ## How enqueues and failures are settled -/

section
variable (s : Scan Row R)

@[simp] theorem settleRow_session (outcome : SendOutcome) :
    (s.settleRow outcome).session = s.session := by cases outcome <;> rfl

@[simp] theorem settleRow_phase (outcome : SendOutcome) :
    (s.settleRow outcome).phase = .scanning := by cases outcome <;> rfl

@[simp] theorem settleRow_plan (outcome : SendOutcome) :
    (s.settleRow outcome).plan = s.plan := by cases outcome <;> rfl

@[simp] theorem settleFinish_session (outcome : SendOutcome) :
    (s.settleFinish outcome).session = s.session.dropProducer := by cases outcome <;> rfl

@[simp] theorem settleFinish_phase (outcome : SendOutcome) :
    (s.settleFinish outcome).phase = .ended .ok := by cases outcome <;> rfl

@[simp] theorem settleFinish_plan (outcome : SendOutcome) :
    (s.settleFinish outcome).plan = s.plan := by cases outcome <;> rfl

/-- The reason with which a failure closes a session. -/
def closureOf (failure : ScanError) : ClosureReason :=
  if failure.isTransient then .transientSourceFailure else .sourceFailure

/-- The result of a scan that met a failure while the session was open. -/
def resultOf (statement : String) (failure : ScanError) : Ending :=
  if failure.isTransient then .ok else .failed (failure.withStatement statement)

@[simp] theorem settleFailure_session (failure : ScanError) :
    (s.settleFailure failure).session = (s.session.close (closureOf failure)).dropProducer := by
  unfold settleFailure closureOf
  split <;> rfl

@[simp] theorem settleFailure_phase (failure : ScanError) :
    (s.settleFailure failure).phase = .ended (resultOf s.plan.statement failure) := by
  unfold settleFailure resultOf
  split <;> rfl

@[simp] theorem settleFailure_plan (failure : ScanError) :
    (s.settleFailure failure).plan = s.plan := by
  unfold settleFailure
  split <;> rfl

@[simp] theorem settleRow_scans (outcome : SendOutcome) :
    (s.settleRow outcome).scans = s.scans := by cases outcome <;> rfl

@[simp] theorem settleFinish_scans (outcome : SendOutcome) :
    (s.settleFinish outcome).scans = s.scans := by cases outcome <;> rfl

@[simp] theorem settleFailure_scans (failure : ScanError) :
    (s.settleFailure failure).scans = s.scans := by
  unfold settleFailure
  split <;> rfl

@[simp] theorem settleRow_mapped (outcome : SendOutcome) :
    (s.settleRow outcome).mapped = s.mapped := by cases outcome <;> rfl

@[simp] theorem settleFinish_mapped (outcome : SendOutcome) :
    (s.settleFinish outcome).mapped = s.mapped := by cases outcome <;> rfl

@[simp] theorem settleFailure_mapped (failure : ScanError) :
    (s.settleFailure failure).mapped = s.mapped := by
  unfold settleFailure
  split <;> rfl

end

/-! ## Every move is one of the rules -/

section
variable {s s' : Scan Row R} {move : ScanMove Row}

theorem phase_of_isQueued (h : s.isQueued = true) : s.phase = .queued := by
  unfold isQueued at h
  split at h
  · assumption
  · cases h

theorem phase_of_isIdle (h : s.isIdle = true) : s.phase = .scanning := by
  unfold isIdle at h
  split at h
  · assumption
  · cases h

theorem does_begin (h : s.phase = .queued) : Does s .begin s.begin := by
  cases hc : s.session.isClosed with
  | true => simpa [begin, h, hc] using Does.skips h hc
  | false => simpa [begin, h, hc] using Does.begins h hc

theorem does_offer (h : s.phase = .scanning) (row : Row) (index : Nat) :
    Does s (.offer row index) (s.offer row index) := by
  cases hc : s.session.isClosed with
  | true => simpa [offer, hc] using Does.turnsAway h hc
  | false => simpa [offer, hc] using Does.takesOn h hc

theorem does_conclude (h : s.phase = .scanning) (ending : Ending) :
    Does s (.conclude ending) (s.conclude ending) := by
  cases ending with
  | raised text => exact .raises h
  | ok =>
      cases hc : s.session.isClosed with
      | true => simpa [conclude, hc] using Does.stops h hc
      | false => simpa [conclude, hc] using Does.comesToEnd h hc
  | failed failure =>
      cases hc : s.session.isClosed with
      | true =>
          have hd : Does s (.conclude (.failed failure)) _ := .stopsFailing h hc
          simpa [conclude, hc] using hd
      | false =>
          have hd : Does s (.conclude (.failed failure)) _ := .fails h hc
          simpa [conclude, hc] using hd

/-- A moment of an enqueue is seen by the scan as the rules for enqueues say. -/
theorem does_advance (hs : s.phase.Sound s.session) (hb : s.phase.isBusy = true)
    (expired : Bool) : Does s (.advance expired) (s.advance expired) := by
  cases hp : s.phase with
  | mapping row index =>
      cases hm : s.plan.mapper row index with
      | ok value => simpa [advance, hp, map, hm] using Does.maps hp hm
      | error text => simpa [advance, hp, map, hm] using Does.givesUp hp hm
  | sending item stage =>
      rw [hp] at hs
      cases hd : stage.isDone with
      | true =>
          cases stage with
          | done outcome => simpa [advance, hp] using Does.settles hp
          | _ => cases hd
      | false =>
          have hm := SendStage.advance_moves s.plan.runtime expired item hs hd
          have hsends : Does s (.advance expired) { s.absorb _ with phase := .sending item _ } :=
            .sends hp hm
          cases stage with
          | done outcome => cases hd
          | _ => simpa [advance, hp] using hsends
  | ending stage =>
      rw [hp] at hs
      cases hd : stage.isDone with
      | true =>
          cases stage with
          | done outcome => simpa [advance, hp] using Does.completes hp
          | _ => cases hd
      | false =>
          have hm := SendStage.advance_moves s.plan.runtime expired .finish hs hd
          have hdelivers : Does s (.advance expired) { s.absorb _ with phase := .ending _ } :=
            .delivers hp hm
          cases stage with
          | done outcome => cases hd
          | _ => simpa [advance, hp] using hdelivers
  | failing failure => simpa [advance, hp] using Does.closes hp
  | _ => rw [hp] at hb; cases hb

theorem does_recheck (h : s.recheck? = some s') : Does s .recheck s' := by
  unfold recheck? at h
  split at h
  · next item hp =>
    cases h
    exact .looksAgain hp
  · next hp =>
    cases h
    exact .endsAgain hp
  · cases h

theorem does_of_step? (hs : s.phase.Sound s.session) (h : s.step? move = some s') :
    Does s move s' := by
  cases move with
  | begin =>
      obtain ⟨hq, ⟨⟩⟩ := Option.ite_none_right_eq_some.mp h
      exact does_begin (phase_of_isQueued hq)
  | lose =>
      obtain ⟨hq, ⟨⟩⟩ := Option.ite_none_right_eq_some.mp h
      exact .vanishes (phase_of_isQueued hq)
  | offer row index =>
      obtain ⟨hi, ⟨⟩⟩ := Option.ite_none_right_eq_some.mp h
      exact does_offer (phase_of_isIdle hi) row index
  | conclude ending =>
      obtain ⟨hi, ⟨⟩⟩ := Option.ite_none_right_eq_some.mp h
      exact does_conclude (phase_of_isIdle hi) ending
  | advance expired =>
      obtain ⟨hb, ⟨⟩⟩ := Option.ite_none_right_eq_some.mp h
      exact does_advance hs hb expired
  | recheck => exact does_recheck h

end

/-! ## Consequences of the rules -/

section
variable {s s' : Scan Row R} {move : ScanMove Row}

theorem Does.plan_eq (h : Does s move s') : s'.plan = s.plan := by
  cases h with
  | settles => exact settleRow_plan _ _
  | completes => exact settleFinish_plan _ _
  | closes => exact settleFailure_plan _ _
  | _ => rfl

theorem Does.sound (h : Does s move s') : s'.phase.Sound s'.session := by
  cases h with
  | sends _ hm => exact hm.sound
  | delivers _ hm => exact hm.sound
  | settles => rw [settleRow_phase]; trivial
  | completes => rw [settleFinish_phase]; trivial
  | closes => rw [settleFailure_phase]; trivial
  | turnsAway hp => show s.phase.Sound s.session; rw [hp]; trivial
  | _ => trivial

/-- A scan moves from the time a scheduler has it until it is over. -/
theorem Does.isUnderWay (h : Does s move s') :
    s.phase ≠ .deferred ∧ s.phase.isOver = false := by
  have hphase : ∀ {phase : ScanPhase Row R}, s.phase = phase → phase ≠ .deferred →
      phase.isOver = false → s.phase ≠ .deferred ∧ s.phase.isOver = false := by
    rintro _ rfl hd ho
    exact ⟨hd, ho⟩
  cases h with
  | skips hp => exact hphase hp nofun rfl
  | begins hp => exact hphase hp nofun rfl
  | vanishes hp => exact hphase hp nofun rfl
  | turnsAway hp => exact hphase hp nofun rfl
  | takesOn hp => exact hphase hp nofun rfl
  | comesToEnd hp => exact hphase hp nofun rfl
  | fails hp => exact hphase hp nofun rfl
  | stops hp => exact hphase hp nofun rfl
  | stopsFailing hp => exact hphase hp nofun rfl
  | raises hp => exact hphase hp nofun rfl
  | maps hp => exact hphase hp nofun rfl
  | givesUp hp => exact hphase hp nofun rfl
  | sends hp => exact hphase hp nofun rfl
  | settles hp => exact hphase hp nofun rfl
  | delivers hp => exact hphase hp nofun rfl
  | completes hp => exact hphase hp nofun rfl
  | closes hp => exact hphase hp nofun rfl
  | looksAgain hp => exact hphase hp nofun rfl
  | endsAgain hp => exact hphase hp nofun rfl

/-- The source is run when the scan is begun in an open session, and at no other
time. -/
theorem Does.scans_cases (h : Does s move s') :
    s'.scans = s.scans ∨
      (s.phase = .queued ∧ s.session.isClosed = false ∧ s'.scans = s.scans + 1) := by
  cases h with
  | begins hp ho => exact Or.inr ⟨hp, ho, rfl⟩
  | settles => exact Or.inl (s.settleRow_scans _)
  | completes => exact Or.inl (s.settleFinish_scans _)
  | closes => exact Or.inl (s.settleFailure_scans _)
  | _ => exact Or.inl rfl

end

/-! ## What a move does to the session -/

/-- What a move of a scan can do to the session; the flag says whether the scan
is over then. -/
inductive Touches (runtime : Bool) (s : Session R) : Session R → Bool → Prop
  | leaves : Touches runtime s s false
  | givesUp : Touches runtime s s.dropProducer true
  | enqueues {expired : Bool} {item : Item R} {stage stage' : SendStage} {s' : Session R} :
      stage.Moves runtime expired s item s' stage' → Touches runtime s s' false
  | closes (reason : ClosureReason) : Touches runtime s (s.close reason).dropProducer true

theorem Does.touches {s s' : Scan Row R} {move : ScanMove Row} (h : Does s move s') :
    Touches s.plan.runtime s.session s'.session s'.phase.isOver := by
  cases h with
  | sends _ hm => exact .enqueues hm
  | delivers _ hm => exact .enqueues hm
  | settles => rw [settleRow_session, settleRow_phase]; exact .leaves
  | completes => rw [settleFinish_session, settleFinish_phase]; exact .givesUp
  | closes => rw [settleFailure_session, settleFailure_phase]; exact .closes _
  | turnsAway hp => rw [hp]; exact .leaves
  | begins => exact .leaves
  | takesOn => exact .leaves
  | comesToEnd => exact .leaves
  | fails => exact .leaves
  | maps => exact .leaves
  | looksAgain => exact .leaves
  | endsAgain => exact .leaves
  | _ => exact .givesUp

section
variable {runtime ended : Bool} {s s' : Session R}

/-- No move of a scan reopens the session. -/
theorem Touches.isClosed (h : Touches runtime s s' ended) (hc : s.isClosed = true) :
    s'.isClosed = true := by
  cases h with
  | leaves => exact hc
  | givesUp => exact (Session.dropProducer_isClosed s).trans hc
  | enqueues hm => exact hm.isClosed hc
  | closes reason => exact (Session.dropProducer_isClosed _).trans (Session.close_isClosed s reason)

/-- No move of a scan changes the reason of a closing. -/
theorem Touches.reason (h : Touches runtime s s' ended) {reason : ClosureReason}
    (hr : s.reason = some reason) : s'.reason = some reason := by
  cases h with
  | leaves => exact hr
  | givesUp => exact s.keeps_dropProducer.reason hr
  | enqueues hm => exact hm.reason hr
  | closes _ => exact ((s.keeps_close _).trans (Session.keeps_dropProducer _)).reason hr

/-- No move of a scan touches the consumer's half. -/
theorem Touches.frame (h : Touches runtime s s' ended) :
    s'.capacity = s.capacity ∧ s'.refusing = s.refusing ∧ s'.consumerGone = s.consumerGone := by
  cases h with
  | leaves => exact ⟨rfl, rfl, rfl⟩
  | givesUp => simp
  | enqueues hm => exact ⟨hm.frame.1, hm.frame.2.1, hm.frame.2.2.2⟩
  | closes reason => simp

/-- The scan gives up its half when it is over, and no sooner. -/
theorem Touches.producerGone (h : Touches runtime s s' ended) (hg : s.producerGone = false) :
    s'.producerGone = ended := by
  cases h with
  | leaves => exact hg
  | givesUp => exact Session.dropProducer_producerGone s
  | enqueues hm => exact hm.frame.2.2.1.trans hg
  | closes reason => exact Session.dropProducer_producerGone _

/-- A scan adds to the queue and takes nothing out. -/
theorem Touches.queue (h : Touches runtime s s' ended) : s.queue <+: s'.queue := by
  cases h with
  | leaves => exact List.prefix_refl _
  | givesUp => exact (Session.dropProducer_queue s).symm ▸ List.prefix_refl _
  | enqueues hm =>
      rcases hm.queue with ⟨-, -, -, -, rfl⟩ | ⟨-, hq⟩
      · exact List.prefix_append _ _
      · exact hq ▸ List.prefix_refl _
  | closes reason =>
      have hq : (s.close reason).dropProducer.queue = s.queue :=
        (Session.dropProducer_queue _).trans (Session.close_queue s reason)
      exact hq ▸ List.prefix_refl _

end
end Scan
end RowBridge
