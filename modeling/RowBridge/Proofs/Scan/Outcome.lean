/-
# `RowBridge.Proofs.Scan.Outcome` — the result of a scan agrees with its session

A scan that ends leaves two traces: its result, for whoever ran it, and the session, for
its consumer.

    the source          the session was  result       recorded
    returned            open             ok           nothing if the end marker is in,
                                                      and otherwise why it is not
    failed              open             the failure  sourceFailure
    failed, transient   open             ok           transientSourceFailure
    returned or failed  closed           ok           what was recorded

The failure that is the result is the one the source returned, with the statement of
the scan in place of its own.  From the moment in which the source returns it until the
scan is over, nothing but the failure decides what is recorded (`Meets`).
-/
import RowBridge.Proofs.Scan.Production
import RowBridge.Proofs.Stream.Delivery

namespace RowBridge.Production

variable {Row R : Type} {plan : ScanPlan Row R} {p p' : Production Row R}
  {move : ProductionMove Row}

/-- In the course of a schedule the source returns a failure, in the state `u`. -/
def FailsIn (s : Production Row R) (moves : List (ProductionMove Row)) (failure : ScanError)
    (u : Production Row R) : Prop :=
  ∃ early late, moves = early ++ .scan (.conclude (.failed failure)) :: late ∧
    play? step? s early = some u

/-- A failure that the source returned to an open session is in hand, or has been
settled. -/
inductive Meets (plan : ScanPlan Row R) (failure : ScanError) (p : Production Row R) : Prop
  | inHand : p.phase = .failing failure → p.session.reason = none → Meets plan failure p
  | settled : p.phase = .ended (Scan.resultOf plan.statement failure) →
      p.session.reason = some (Scan.closureOf failure) → Meets plan failure p

/-- A scan that is over stays as it is. -/
theorem Kept.phase_of_over (hk : Kept plan p) (hover : p.phase.isOver = true)
    (hstep : p.step? move = some p') : p'.phase = p.phase := by
  cases move with
  | scan m =>
      obtain ⟨scan, -, hd, -⟩ := hk.does hstep
      exact absurd (hover.symm.trans hd.isUnderWay.2) Bool.noConfusion
  | act act =>
      obtain ⟨session, -, rfl⟩ := hk.attends hstep
      rfl

theorem Meets.step {failure : ScanError} (h : Meets plan failure p) (hk : Kept plan p)
    (hmove : p.Timely move) (hstep : p.step? move = some p') : Meets plan failure p' := by
  cases h with
  | settled hp hr =>
      have hover : p.phase.isOver = true := by rw [hp]; rfl
      exact .settled ((hk.phase_of_over hover hstep).trans hp) (hk.reason hstep hr)
  | inHand hp hr =>
      cases move with
      | scan m =>
          obtain ⟨scan, -, hd, rfl⟩ := hk.does hstep
          cases hd.eq_of_failing hp
          refine .settled ?_ ?_
          · exact (Scan.settleFailure_phase _ _).trans (by rw [hk.plan])
          · show (p.scan.settleFailure failure).session.reason = _
            rw [Scan.settleFailure_session, Session.dropProducer_reason, Session.close_reason]
            exact congrArg (fun r => some (Option.getD r _)) hr
      | act act =>
          obtain ⟨session, ha, rfl⟩ := hk.attends hstep
          refine .inHand hp ((ha.quiet ?_).trans hr)
          cases hcloses : act.closes with
          | false => rfl
          | true =>
              have hadmits : p.phase.admitsClosing = true := hmove hcloses
              rw [hp] at hadmits
              cases hadmits

section
variable {capacity : Nat} {session : Session R} {moves : List (ProductionMove Row)}
  {t u : Production Row R} {failure : ScanError}

/-- What was recorded once is what is recorded. -/
theorem reason_of_play (hk : Kept plan u) {later : List (ProductionMove Row)}
    (hplay : play? step? u later = some t) {reason : ClosureReason}
    (hr : u.session.reason = some reason) : t.session.reason = some reason := by
  have hboth := play?_preserves
    (P := fun p : Production Row R => Kept plan p ∧ p.session.reason = some reason)
    (fun h hstep => ⟨h.1.step hstep, h.1.reason hstep h.2⟩) ⟨hk, hr⟩ hplay
  exact hboth.2

/-- The scan of an open session meets the failure that its source returns. -/
theorem meets_of_returned (hk : Kept plan u) (ho : u.session.isClosed = false)
    (hstep : u.step? (.scan (.conclude (.failed failure))) = some t) : Meets plan failure t := by
  obtain ⟨scan, -, hd, rfl⟩ := hk.does hstep
  cases hd with
  | fails => exact .inHand rfl (Session.reason_of_isOpen ho)
  | stopsFailing _ hc => exact absurd (ho.symm.trans hc) Bool.false_ne_true

/-- The scan of a closed session ends well, whatever failure its source returns. -/
theorem ended_of_returned (hk : Kept plan u) (hc : u.session.isClosed = true)
    (hstep : u.step? (.scan (.conclude (.failed failure))) = some t) : t.phase = .ended .ok := by
  obtain ⟨scan, -, hd, rfl⟩ := hk.does hstep
  cases hd with
  | fails _ ho => exact absurd (ho.symm.trans hc) Bool.false_ne_true
  | stopsFailing => rfl

theorem FailsIn.kept (hopen : Session.open? capacity = .ok session)
    (h : FailsIn (start plan session) moves failure u) : Kept plan u := by
  obtain ⟨early, -, -, hearly⟩ := h
  exact kept_of_play (kept_start hopen) hearly

/-- How a scan ends that met a failure of its source while its session was open. -/
theorem FailsIn.met (h : FailsIn (start plan session) moves failure u)
    (hopen : Session.open? capacity = .ok session)
    (hplay : play? step? (start plan session) moves = some t)
    (htimely : Along step? Timely (start plan session) moves)
    (ho : u.session.isClosed = false) {ending : Ending} (hended : t.phase = .ended ending) :
    ending = Scan.resultOf plan.statement failure ∧
      t.session.reason = some (Scan.closureOf failure) := by
  have hu := h.kept hopen
  obtain ⟨early, late, rfl, hearly⟩ := h
  obtain ⟨u', hu', hrest⟩ := exists_of_play?_append hplay
  cases hearly.symm.trans hu'
  obtain ⟨next, hnext, hlate⟩ := play?_cons hrest
  have halong := htimely.rest hearly
  obtain ⟨-, htail⟩ := halong
  rw [hnext] at htail
  have hmeets : Kept plan t ∧ Meets plan failure t :=
    htail.preserves (P := fun p => Kept plan p ∧ Meets plan failure p)
      (fun h hmove hstep => ⟨h.1.step hstep, h.2.step h.1 hmove hstep⟩)
      ⟨hu.step hnext, meets_of_returned hu ho hnext⟩ hlate
  cases hmeets.2 with
  | inHand hp => exact nomatch hended.symm.trans hp
  | settled hp hr =>
      cases hended.symm.trans hp
      exact ⟨rfl, hr⟩

/-- How a scan ends whose source returned a failure to a closed session. -/
theorem FailsIn.silenced (h : FailsIn (start plan session) moves failure u)
    (hopen : Session.open? capacity = .ok session)
    (hplay : play? step? (start plan session) moves = some t) {reason : ClosureReason}
    (hr : u.session.reason = some reason) {ending : Ending} (hended : t.phase = .ended ending) :
    ending = .ok ∧ t.session.reason = some reason := by
  have hu := h.kept hopen
  obtain ⟨early, late, rfl, hearly⟩ := h
  obtain ⟨u', hu', hrest⟩ := exists_of_play?_append hplay
  cases hearly.symm.trans hu'
  refine ⟨?_, reason_of_play hu hrest hr⟩
  obtain ⟨next, hnext, hlate⟩ := play?_cons hrest
  have hover := play?_preserves
    (P := fun p : Production Row R => Kept plan p ∧ p.phase = .ended .ok)
    (fun h hstep => ⟨h.1.step hstep, (h.1.phase_of_over (by rw [h.2]; rfl) hstep).trans h.2⟩)
    ⟨hu.step hnext, ended_of_returned hu (Session.isClosed_of_reason hr) hnext⟩ hlate
  cases hended.symm.trans hover.2
  rfl

/-- A scan whose result is a failure got it from its source. -/
theorem exists_failsIn (hopen : Session.open? capacity = .ok session)
    (hplay : play? step? (start plan session) moves = some t) {error : ScanError}
    (hended : t.phase = .ended (.failed error)) :
    ∃ failure u, FailsIn (start plan session) moves failure u ∧ u.session.isClosed = false ∧
      failure.isTransient = false ∧ failure.withStatement plan.statement = error := by
  have hfree : Along step? (fun _ _ => True) (start plan session) moves :=
    Along.of_forall (fun _ _ _ => trivial) _
  have hfails : t.phase.Fails plan.statement error := by rw [hended]; exact rfl
  obtain ⟨early, turn, late, u, u', rfl, hearly, hturn, -, hu, hnot, hfails'⟩ :=
    hfree.exists_turn (I := Kept plan) (P := fun p => p.phase.Fails plan.statement error)
      (fun hk _ hstep => hk.step hstep) (kept_start hopen) hplay id hfails
  cases turn with
  | act act =>
      obtain ⟨session', -, rfl⟩ := hu.attends hturn
      exact absurd hfails' hnot
  | scan m =>
      obtain ⟨scan, -, hd, rfl⟩ := hu.does hturn
      have hfails' : scan.phase.Fails scan.plan.statement error := by
        rw [hd.plan_eq, hu.plan]
        exact hfails'
      rcases hd.fails_cases hfails' with hbefore | ⟨failure, rfl, hreturns⟩
      · rw [hu.plan] at hbefore
        exact absurd hbefore hnot
      · exact ⟨failure, u, ⟨early, late, rfl, hearly⟩, hreturns.isOpen, hreturns.hard,
          hu.plan ▸ hreturns.named⟩

/-- The result of a scan and its session agree: the end marker is in exactly if the
session is open, the result is a failure exactly if the source returned a hard one to an
open session, and no reason is ever replaced. -/
theorem scan_outcome (hopen : Session.open? capacity = .ok session)
    (hplay : play? step? (start plan session) moves = some t)
    (htimely : Along step? Timely (start plan session) moves) {ending : Ending}
    (hended : t.phase = .ended ending) (hraised : ∀ text, ending ≠ .raised text) :
    ((.finish ∈ t.ledger.enqueued ∧ t.session.isClosed = false) ∨
        (.finish ∉ t.ledger.enqueued ∧ t.session.isClosed = true)) ∧
      (∀ error, ending = .failed error ↔
        ∃ failure u, FailsIn (start plan session) moves failure u ∧
          u.session.isClosed = false ∧ failure.isTransient = false ∧
          failure.withStatement plan.statement = error) ∧
      (∀ error, ending = .failed error → t.session.reason = some .sourceFailure) ∧
      (∀ failure u, FailsIn (start plan session) moves failure u →
        (u.session.isClosed = false → failure.isTransient = true →
          ending = .ok ∧ t.session.reason = some .transientSourceFailure) ∧
        ∀ reason, u.session.reason = some reason →
          ending = .ok ∧ t.session.reason = some reason) ∧
      ∀ early late u reason, moves = early ++ late →
        play? step? (start plan session) early = some u → u.session.reason = some reason →
        t.session.reason = some reason := by
  have hk : Kept plan t := kept_of_play (kept_start hopen) hplay
  have hfair := fair_of_play hopen hplay htimely
  have hmet : ∀ failure u, FailsIn (start plan session) moves failure u →
      u.session.isClosed = false → ending = Scan.resultOf plan.statement failure ∧
        t.session.reason = some (Scan.closureOf failure) :=
    fun failure u hin ho => hin.met hopen hplay htimely ho hended
  refine ⟨?_, ?_, ?_, ?_, ?_⟩
  · cases hc : t.session.isClosed with
    | true =>
        refine Or.inr ⟨fun hmarked => ?_, rfl⟩
        rw [Session.isClosed_eq_isSome, hfair.marked hmarked] at hc
        cases hc
    | false =>
        refine Or.inl ⟨?_, rfl⟩
        cases ending with
        | ok => exact hfair.complete hended (Session.reason_of_isOpen hc)
        | failed error => exact absurd (hc.symm.trans (hfair.shut error hended)) Bool.false_ne_true
        | raised text => exact absurd rfl (hraised text)
  · intro error
    constructor
    · rintro rfl
      exact exists_failsIn hopen hplay hended
    · rintro ⟨failure, u, hin, ho, hhard, hnamed⟩
      rw [(hmet failure u hin ho).1]
      exact Scan.resultOf_eq_failed.mpr ⟨hhard, hnamed⟩
  · rintro error rfl
    obtain ⟨failure, u, hin, ho, hhard, -⟩ := exists_failsIn hopen hplay hended
    rw [(hmet failure u hin ho).2, Scan.closureOf, hhard]
    rfl
  · intro failure u hin
    refine ⟨?_, fun reason hr => hin.silenced hopen hplay hr hended⟩
    intro ho htransient
    obtain ⟨rfl, hreason⟩ := hmet failure u hin ho
    rw [hreason, Scan.resultOf, Scan.closureOf, htransient]
    exact ⟨rfl, rfl⟩
  · rintro early late u reason rfl hearly hr
    obtain ⟨u', hu', hrest⟩ := exists_of_play?_append hplay
    cases hearly.symm.trans hu'
    exact reason_of_play (kept_of_play (kept_start hopen) hearly) hrest hr

end

/-- A query that cannot be run. -/
def divisionByZero : ScanError := .plain .queryFailed "division by zero"

/-- One row is taken, then the source fails. -/
def failingAfterRow : List (ProductionMove Nat) :=
  let advance : ProductionMove Nat := .scan (.advance false)
  [.scan .begin, .scan (.offer 7 0), advance, advance, advance, advance, advance,
    .act .receive, .scan (.conclude (.failed divisionByZero)), advance]

/-- The consumer cancels between two rows, and the source fails when told to stop. -/
def failingAfterCancel : List (ProductionMove Nat) :=
  [.scan .begin, .act .cancel, .scan (.offer 7 0), .scan (.conclude (.failed divisionByZero))]

theorem scan_outcome_of_broken_query :
    (∃ t : Production Nat Nat,
      play? step? (start Invocation.doubling (.fresh 1)) failingAfterRow = some t ∧
      t.phase = .ended (.failed (divisionByZero.withStatement "SELECT n")) ∧
      t.session.reason = some .sourceFailure) ∧
    ∃ t : Production Nat Nat,
      play? step? (start Invocation.doubling (.fresh 1)) failingAfterCancel = some t ∧
      t.phase = .ended .ok ∧ t.session.reason = some .cancelled := by
  constructor
  · obtain ⟨t, hplay, hended⟩ :
        ∃ t : Production Nat Nat,
          play? step? (start Invocation.doubling (.fresh 1)) failingAfterRow = some t ∧
          t.phase = .ended (.failed (divisionByZero.withStatement "SELECT n")) :=
      ⟨_, rfl, rfl⟩
    obtain ⟨-, -, hreason, -⟩ :=
      @scan_outcome _ _ Invocation.doubling 1 _ _ t rfl hplay (by decide) _ hended nofun
    exact ⟨t, hplay, hended, hreason _ rfl⟩
  · obtain ⟨t, u, hplay, hended, hearly, hcancelled⟩ :
        ∃ t u : Production Nat Nat,
          play? step? (start Invocation.doubling (.fresh 1)) failingAfterCancel = some t ∧
          t.phase = .ended .ok ∧
          play? step? (start Invocation.doubling (.fresh 1))
            [.scan .begin, .act .cancel, .scan (.offer 7 0)] = some u ∧
          u.session.reason = some .cancelled :=
      ⟨_, _, rfl, rfl, rfl, rfl⟩
    obtain ⟨-, -, -, hfailed, -⟩ :=
      @scan_outcome _ _ Invocation.doubling 1 _ _ t rfl hplay (by decide) _ hended nofun
    have hsilenced := (hfailed divisionByZero u ⟨_, [], rfl, hearly⟩).2 .cancelled hcancelled
    exact ⟨t, hplay, hended, hsilenced.2⟩

end RowBridge.Production
