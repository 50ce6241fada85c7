/-
# `RowBridge.Proofs.Scan.Output` — what a scan puts into the queue

A scan enqueues one item for each row, in the order in which its source hands the
rows over, and then an end marker.  It stops at the first row that it could not
enqueue, and what it has enqueued by then stands for an initial segment of the rows.

    the source                       the queue gets          the source is told
    hands over a row                 the mapped row          to go on
    hands over a row that is refused nothing, from now on    to stop, from now on
    returns well                     the end marker

**The end marker** is enqueued if nothing went wrong before and nothing goes wrong
now.  What can go wrong has two sides.  The scan knows whether it has a runtime, whether
its source was run, whether a row was refused and how the source returned.  The rest is up to
the others (`Undisturbed`): nobody closes the session, and the queue has room for the
marker when its enqueue looks for some, or the deadline has not passed.

That this suffices is an invariant: on an undisturbed schedule a closed session is the
scan's own doing, and can be told from what it knows (`Spoiled`).  That it is needed is
another one: an untimely look for room, or a closing, is never made good again
(`Doomed`), and a scan that is doomed does not end in an open session.
-/
import RowBridge.Proofs.Scan.Production
import RowBridge.Proofs.Stream.Delivery

namespace RowBridge

variable {Row R : Type}

/-! ## Who closes the session -/

/-- An enqueue closes the session without a runtime, or after it found no room. -/
theorem SendStage.Moves.closing_cases {runtime expired : Bool} {s s' : Session R} {item : Item R}
    {stage stage' : SendStage} (h : stage.Moves runtime expired s item s' stage')
    (ho : s.isClosed = false) (hc : s'.isClosed = true) :
    runtime = false ∨
      ∃ outcome, stage = .settling outcome ∧ stage' = .done outcome ∧ outcome ≠ .sent := by
  have hopen : ∀ {P : Prop}, s.isClosed = true → P :=
    fun hc => absurd (ho.symm.trans hc) Bool.false_ne_true
  cases h with
  | strands _ hr => exact Or.inl hr
  | @settles outcome reason hreason =>
      refine Or.inr ⟨outcome, rfl, rfl, ?_⟩
      rintro rfl
      cases hreason
  | lands => exact hopen hc
  | _ => exact hopen hc

/-- An enqueue gives up after a look for room: items are refused, or there is no room
and no time left. -/
theorem SendStage.Moves.settling_cases {runtime expired : Bool} {s s' : Session R} {item : Item R}
    {stage : SendStage} {outcome : SendOutcome}
    (h : stage.Moves runtime expired s item s' (.settling outcome)) :
    s.refusing = true ∨
      (stage.looksForRoom = true ∧ s.hasRoom = false ∧ expired = true) := by
  cases h with
  | refused hr => exact Or.inl hr
  | expires _ hroom he hl => exact Or.inr ⟨hl, hroom, he⟩

/-- A scan closes its session without a runtime, after an enqueue that found no room,
or for a failure of its source. -/
theorem Scan.Does.closing_cases {s s' : Scan Row R} {move : ScanMove Row} (hd : s.Does move s')
    (ho : s.session.isClosed = false) (hc : s'.session.isClosed = true) :
    s.plan.runtime = false ∨
      (∃ item outcome, s'.phase = .sending item (.done outcome) ∧ outcome ≠ .sent) ∨
      (∃ outcome, s.phase = .ending (.settling outcome)) ∨
      ∃ failure, s.phase = .failing failure := by
  have hsame : ∀ {P : Prop} {session : Session R}, session.isClosed = s.session.isClosed →
      session.isClosed = true → P := by
    intro P session heq hclosed
    exact absurd (ho.symm.trans (heq.symm.trans hclosed)) Bool.false_ne_true
  have hdrop := Session.dropProducer_isClosed s.session
  cases hd with
  | sends hp hm =>
      rcases hm.closing_cases ho hc with hr | ⟨outcome, -, rfl, hne⟩
      · exact Or.inl hr
      · exact Or.inr (Or.inl ⟨_, outcome, rfl, hne⟩)
  | delivers hp hm =>
      rcases hm.closing_cases ho hc with hr | ⟨outcome, rfl, -⟩
      · exact Or.inl hr
      · exact Or.inr (Or.inr (Or.inl ⟨outcome, hp⟩))
  | closes hp => exact Or.inr (Or.inr (Or.inr ⟨_, hp⟩))
  | settles => rw [settleRow_session] at hc; exact hsame rfl hc
  | completes => rw [settleFinish_session] at hc; exact hsame hdrop hc
  | begins => exact hsame rfl hc
  | turnsAway => exact hsame rfl hc
  | takesOn => exact hsame rfl hc
  | comesToEnd => exact hsame rfl hc
  | fails => exact hsame rfl hc
  | maps => exact hsame rfl hc
  | looksAgain => exact hsame rfl hc
  | endsAgain => exact hsame rfl hc
  | _ => exact hsame hdrop hc

/-- The end marker is in hand, and its enqueue looks for room. -/
def ScanPhase.placesMarker : ScanPhase Row R → Bool
  | .ending stage => stage.looksForRoom
  | _ => false

theorem ScanPhase.exists_of_placesMarker {phase : ScanPhase Row R}
    (h : phase.placesMarker = true) :
    ∃ stage, phase = .ending stage ∧ stage.looksForRoom = true := by
  cases phase with
  | ending stage => exact ⟨stage, rfl, h⟩
  | _ => cases h

/-- A look for room that finds none after the deadline is the last one. -/
theorem SendStage.Moves.outcome_of_noRoom {runtime : Bool} {s s' : Session R} {item : Item R}
    {stage stage' : SendStage} (h : stage.Moves runtime true s item s' stage')
    (hlooks : stage.looksForRoom = true) (hroom : s.hasRoom = false) :
    s'.isClosed = true ∨ ∃ outcome, stage' = .settling outcome := by
  cases h with
  | turnedAway hc => exact Or.inl hc
  | refused => exact Or.inr ⟨_, rfl⟩
  | expires => exact Or.inr ⟨_, rfl⟩
  | lands _ hroom' => exact absurd (hroom.symm.trans hroom') Bool.false_ne_true
  | waits _ _ he => cases he
  | _ => cases hlooks

/-- Without a runtime an enqueue does not come to look for room. -/
def SendStage.Manned (runtime : Bool) (stage : SendStage) : Prop :=
  runtime = true ∨ stage = .entering ∨ stage = .done .closed

theorem SendStage.Moves.manned {runtime expired : Bool} {s s' : Session R} {item : Item R}
    {stage stage' : SendStage} (h : stage.Moves runtime expired s item s' stage')
    (hmanned : stage.Manned runtime) : stage'.Manned runtime := by
  rcases hmanned with hr | rfl | rfl
  · exact Or.inl hr
  · cases h with
    | turnedAway => exact Or.inr (Or.inr rfl)
    | strands => exact Or.inr (Or.inr rfl)
    | goesIn _ hr => exact Or.inl hr
    | refused _ hl => cases hl
    | lands _ _ hl => cases hl
    | expires _ _ _ hl => cases hl
    | waits _ _ _ hl => cases hl
  · cases h.isDone_eq_false

namespace Production

variable {plan : ScanPlan Row R} {p p' : Production Row R} {move : ProductionMove Row}

/-! ## The end marker is enqueued -/

/-- Nobody else closes the session, and the end marker finds room or has time left. -/
def Undisturbed (p : Production Row R) : ProductionMove Row → Prop
  | .act act => act.closes = false
  | .scan (.advance expired) =>
      p.phase.placesMarker = true → p.session.hasRoom = true ∨ expired = false
  | .scan _ => True

instance (p : Production Row R) : DecidablePred p.Undisturbed
  | .act act => inferInstanceAs (Decidable (act.closes = false))
  | .scan (.advance expired) =>
      inferInstanceAs
        (Decidable (p.phase.placesMarker = true → p.session.hasRoom = true ∨ expired = false))
  | .scan .begin | .scan .lose | .scan (.offer _ _) | .scan (.conclude _) | .scan .recheck =>
      inferInstanceAs (Decidable True)

/-- What the scan knows of why its session is closed. -/
inductive Spoiled (p : Production Row R) : Prop
  | noRuntime : p.scan.plan.runtime = false → Spoiled p
  | stopped : .stop ∈ p.told → Spoiled p
  | refused {item : Item R} {outcome : SendOutcome} : p.phase = .sending item (.done outcome) →
      outcome ≠ .sent → Spoiled p
  | failed {failure : ScanError} : p.ledger.returned = some (.failed failure) → Spoiled p

/-- How the source returned is entered once. -/
theorem Kept.returned (h : Kept plan p) {m : ScanMove Row} {scan : Scan Row R}
    (hd : p.scan.Does m scan) {ending : Ending} (hr : p.ledger.returned = some ending) :
    (p.onScan m scan).ledger.returned = some ending := by
  have hst := h.accounts.stands
  have hidle : ∀ {P : Prop}, p.scan.phase = .scanning → P := by
    intro P hp
    rw [hp] at hst
    exact nomatch hst.1.symm.trans hr
  cases hd with
  | comesToEnd hp => exact hidle hp
  | fails hp => exact hidle hp
  | stops hp => exact hidle hp
  | stopsFailing hp => exact hidle hp
  | raises hp => exact hidle hp
  | _ => exact hr

theorem Spoiled.onScan (h : p.Spoiled) (hk : Kept plan p) {m : ScanMove Row} {scan : Scan Row R}
    (hd : p.scan.Does m scan) : (p.onScan m scan).Spoiled := by
  cases h with
  | noRuntime hr => exact .noRuntime ((congrArg ScanPlan.runtime hd.plan_eq).trans hr)
  | stopped htold => exact .stopped (List.mem_append_left _ htold)
  | failed hr => exact .failed (hk.returned hd hr)
  | @refused item outcome hp hne =>
      -- the refused row is answered next
      have htold : ∀ {o : SendOutcome}, o ≠ .sent → .stop ∈ (p.scan.settleRow o).told := by
        intro o hne
        cases o with
        | sent => exact absurd rfl hne
        | _ => exact List.mem_cons_self
      cases hd with
      | settles hp' =>
          cases hp.symm.trans hp'
          exact .stopped (List.mem_append_right _ (htold hne))
      | sends hp' hm =>
          cases hp.symm.trans hp'
          cases hm.isDone_eq_false
      | _ hp' => exact nomatch hp.symm.trans hp'

/-- What holds along an undisturbed schedule: a scan whose session is closed, or is
about to be, has spoilt it itself. -/
structure Smooth (p : Production Row R) : Prop where
  closed : p.session.isClosed = true → p.Spoiled
  settling : ∀ outcome, p.phase = .ending (.settling outcome) → p.Spoiled

theorem smooth_start {capacity : Nat} {session : Session R}
    (hopen : Session.open? capacity = .ok session) : (start plan session).Smooth := by
  cases Session.eq_fresh_of_open? hopen
  exact ⟨nofun, nofun⟩

theorem Smooth.step (h : p.Smooth) (hk : Kept plan p) (hmove : p.Undisturbed move)
    (hstep : p.step? move = some p') : p'.Smooth := by
  cases move with
  | act act =>
      obtain ⟨session, ha, rfl⟩ := hk.attends hstep
      have hspoiled : p.Spoiled →
          Spoiled { p with scan := { p.scan with session := session } } := by
        intro hs
        cases hs with
        | noRuntime hr => exact .noRuntime hr
        | stopped htold => exact .stopped htold
        | refused hp hne => exact .refused hp hne
        | failed hr => exact .failed hr
      refine ⟨fun hc => hspoiled (h.closed ?_), fun outcome hp => hspoiled (h.settling outcome hp)⟩
      exact (congrArg Option.isSome (ha.quiet hmove)).symm.trans hc
  | scan m =>
      obtain ⟨scan, hs, hd, rfl⟩ := hk.does hstep
      refine ⟨?_, ?_⟩
      · intro hc
        cases ho : p.session.isClosed with
        | true => exact (h.closed ho).onScan hk hd
        | false =>
            rcases hd.closing_cases ho hc with hr | ⟨item, outcome, hp, hne⟩ | ⟨outcome, hp⟩ |
              ⟨failure, hp⟩
            · exact .noRuntime ((congrArg ScanPlan.runtime hd.plan_eq).trans hr)
            · exact .refused hp hne
            · exact (h.settling outcome hp).onScan hk hd
            · have hst := hk.accounts.stands
              rw [hp] at hst
              exact Spoiled.onScan (.failed hst.1) hk hd
      · intro outcome hp
        rcases hd.ending_cases hp with ⟨⟨⟩⟩ | ⟨⟨⟩, -⟩ | ⟨expired, stage, rfl, hp', hm⟩
        rcases hm.settling_cases with hrefusing | ⟨hlooks, hroom, he⟩
        · exact (h.closed (hk.guarded.refusing hrefusing)).onScan hk hd
        · have hlooks : p.phase.placesMarker = true := by rw [phase, hp']; exact hlooks
          rcases hmove hlooks with hroom' | he'
          · exact absurd (hroom.symm.trans hroom') Bool.false_ne_true
          · exact absurd (he'.symm.trans he) Bool.false_ne_true

/-! ## The end marker is not enqueued -/

/-- The session is closed, or is about to be because the end marker found no room. -/
def Doomed (p : Production Row R) : Prop :=
  p.session.isClosed = true ∨ ∃ outcome, p.phase = .ending (.settling outcome)

theorem Doomed.step (h : p.Doomed) (hk : Kept plan p) (hstep : p.step? move = some p') :
    p'.Doomed := by
  rcases h with hc | ⟨outcome, hp⟩
  · exact Or.inl (hk.isClosed hstep hc)
  cases move with
  | act act =>
      obtain ⟨session, -, rfl⟩ := hk.attends hstep
      exact Or.inr ⟨outcome, hp⟩
  | scan m =>
      obtain ⟨scan, -, hd, rfl⟩ := hk.does hstep
      cases hd with
      | delivers hp' hm =>
          cases hp.symm.trans hp'
          cases hm with
          | turnedAway _ hl => cases hl
          | refused _ hl => cases hl
          | lands _ _ hl => cases hl
          | expires _ _ _ hl => cases hl
          | waits _ _ _ hl => cases hl
          | settles => exact Or.inl (Session.close_isClosed _ _)
      | completes hp' => exact nomatch hp.symm.trans hp'
      | _ hp' => exact nomatch hp.symm.trans hp'

/-- Whoever disturbs the scan dooms it. -/
theorem doomed_of_disturbed (hk : Kept plan p) (hstep : p.step? move = some p')
    (hmove : ¬ p.Undisturbed move) : p'.Doomed := by
  cases move with
  | act act =>
      obtain ⟨session, ha, rfl⟩ := hk.attends hstep
      exact Or.inl (ha.closed (by simpa [Undisturbed] using hmove))
  | scan m =>
      obtain ⟨scan, -, hd, rfl⟩ := hk.does hstep
      cases m with
      | advance expired =>
          simp only [Undisturbed, Classical.not_imp, not_or, Bool.not_eq_true, Bool.not_eq_false]
            at hmove
          obtain ⟨hplaces, hroom, rfl⟩ := hmove
          obtain ⟨stage, hp, hlooks⟩ := ScanPhase.exists_of_placesMarker hplaces
          cases hd with
          | delivers hp' hm =>
              cases hp.symm.trans hp'
              rcases hm.outcome_of_noRoom hlooks hroom with hc | ⟨outcome, rfl⟩
              · exact Or.inl hc
              · exact Or.inr ⟨outcome, rfl⟩
          | completes hp' =>
              cases hp.symm.trans hp'
              cases hlooks
          | _ hp' => exact nomatch hp.symm.trans hp'
      | _ => exact absurd trivial hmove

/-- Without a runtime the end marker is not enqueued, nor is its enqueue on the way. -/
structure Manned (p : Production Row R) : Prop where
  stage : ∀ stage, p.phase = .ending stage → stage.Manned p.scan.plan.runtime
  marked : .finish ∈ p.ledger.enqueued → p.scan.plan.runtime = true

theorem manned_start (plan : ScanPlan Row R) (session : Session R) :
    (start plan session).Manned :=
  ⟨nofun, nofun⟩

theorem Manned.onScan (h : p.Manned) (hk : Kept plan p) {m : ScanMove Row} {scan : Scan Row R}
    (hs : p.scan.step? m = some scan) : (p.onScan m scan).Manned := by
  have hd := Scan.does_of_step? hk.accounts.sound hs
  have hsame : scan.plan.runtime = p.scan.plan.runtime := congrArg ScanPlan.runtime hd.plan_eq
  have hstage : ∀ stage, scan.phase = .ending stage → stage.Manned scan.plan.runtime := by
    intro stage hp
    rw [hsame]
    rcases hd.ending_cases hp with rfl | ⟨-, hp'⟩ | ⟨expired, before, -, hp', hm⟩
    · exact Or.inr (Or.inl rfl)
    · exact Or.inl ((h.stage _ hp').resolve_right nofun)
    · exact hm.manned (h.stage _ hp')
  refine ⟨hstage, ?_⟩
  intro hmarked
  rcases hk.marked_cases hs hmarked with hp | hbefore
  · exact (hstage _ hp).resolve_right nofun
  · exact hsame.trans (h.marked hbefore)

theorem Manned.step (h : p.Manned) (hk : Kept plan p) (hstep : p.step? move = some p') :
    p'.Manned := by
  cases move with
  | scan m =>
      obtain ⟨scan, hs, -, rfl⟩ := hk.does hstep
      exact h.onScan hk hs
  | act act =>
      obtain ⟨session, -, rfl⟩ := hk.attends hstep
      exact ⟨h.stage, h.marked⟩

/-- A closed session keeps the source from being run. -/
theorem Kept.scans_of_shut (h : Kept plan p) (hstep : p.step? move = some p')
    (hc : p.session.isClosed = true) : p'.scan.scans = p.scan.scans := by
  cases move with
  | act act =>
      obtain ⟨session, -, rfl⟩ := h.attends hstep
      rfl
  | scan m =>
      obtain ⟨scan, -, hd, rfl⟩ := h.does hstep
      exact hd.scans_cases.resolve_right fun hbegun =>
        Bool.false_ne_true (hbegun.2.1.symm.trans hc)

/-! ## The queue of a scan -/

section
variable {capacity : Nat} {session : Session R} {moves : List (ProductionMove Row)}
  {t : Production Row R}

/-- A scan that was not disturbed, and has not spoilt its result itself, has enqueued
its end marker. -/
theorem marked_of_undisturbed (hopen : Session.open? capacity = .ok session)
    (hplay : play? step? (start plan session) moves = some t) (hfair : t.Fair) {ending : Ending}
    (hended : t.phase = .ended ending) (hruntime : plan.runtime = true)
    (htold : .stop ∉ t.told) (hreturned : t.ledger.returned = some .ok)
    (hundisturbed : Along step? Undisturbed (start plan session) moves) :
    .finish ∈ t.ledger.enqueued := by
  obtain ⟨hk, hsmooth⟩ :=
    hundisturbed.preserves (P := fun p => Kept plan p ∧ p.Smooth)
      (fun h hmove hstep => ⟨h.1.step hstep, h.2.step h.1 hmove hstep⟩)
      ⟨kept_start hopen, smooth_start hopen⟩ hplay
  cases hk.ended ending hended hreturned
  refine hfair.complete hended (Session.reason_of_isOpen ?_)
  cases hc : t.session.isClosed with
  | false => rfl
  | true =>
      cases hsmooth.closed hc with
      | noRuntime hr => exact absurd ((hk.plan ▸ hr).symm.trans hruntime) Bool.false_ne_true
      | stopped hstop => exact absurd hstop htold
      | refused hp => exact nomatch hended.symm.trans hp
      | failed hr => exact nomatch hreturned.symm.trans hr

/-- A scan that ended with its end marker enqueued was not disturbed. -/
theorem undisturbed_of_marked (hopen : Session.open? capacity = .ok session)
    (hplay : play? step? (start plan session) moves = some t)
    (htimely : Along step? Timely (start plan session) moves) {ending : Ending}
    (hended : t.phase = .ended ending) (hmarked : .finish ∈ t.ledger.enqueued) :
    Along step? Undisturbed (start plan session) moves := by
  have hreason := (fair_of_play hopen hplay htimely).marked hmarked
  refine htimely.of_escaped (I := Kept plan) (D := Doomed) (fun hk _ hstep => hk.step hstep) ?_
    (kept_start hopen) hplay ?_
  · rintro u u' move hk - hstep (hdoomed | hmove)
    · exact hdoomed.step hk hstep
    · exact doomed_of_disturbed hk hstep hmove
  · rintro (hc | ⟨outcome, hp⟩)
    · rw [Session.isClosed_eq_isSome, hreason] at hc
      cases hc
    · exact nomatch hended.symm.trans hp

/-- A scan whose session was closed before it began calls neither its source nor its
mapper. -/
theorem untouched_of_shut {u w : Production Row R} {later : List (ProductionMove Row)}
    (hu : Kept plan u) (hp : u.phase = .queued) (hc : u.session.isClosed = true)
    (hlater : play? step? u later = some w) : w.Untouched := by
  have hscans : u.scan.scans = 0 := by
    cases hu.begun with
    | once _ hne => exact absurd hp hne
    | notYet huntouched => exact huntouched.scans
    | never huntouched => exact huntouched.scans
  obtain ⟨hw, -, hzero⟩ := play?_preserves
    (P := fun p : Production Row R =>
      Kept plan p ∧ p.session.isClosed = true ∧ p.scan.scans = 0)
    (fun ⟨hk, hclosed, hzero⟩ hstep =>
      ⟨hk.step hstep, hk.isClosed hstep hclosed, hk.scans_of_shut hstep hclosed ▸ hzero⟩)
    ⟨hu, hc, hscans⟩ hlater
  cases hw.begun with
  | once hone => exact nomatch hone.symm.trans hzero
  | notYet huntouched => exact huntouched
  | never huntouched => exact huntouched

/-- What a scan enqueues, whatever its source does and whoever acts meanwhile: the
mapped rows of an initial segment of the rows, and then the end marker if nothing went
wrong. -/
theorem scan_output (hopen : Session.open? capacity = .ok session)
    (hplay : play? step? (start plan session) moves = some t) :
    (∃ early late, ∃ values : List R, t.ledger.handed = early ++ late ∧
        early.map plan.result = values.map .ok ∧
        (t.ledger.enqueued = values.map .value ∨
          (late = [] ∧ t.ledger.enqueued = values.map .value ++ [.finish]))) ∧
      (Along step? Timely (start plan session) moves → ∀ ending, t.phase = .ended ending →
        (.finish ∈ t.ledger.enqueued ↔
          plan.runtime = true ∧ t.scan.scans = 1 ∧ .stop ∉ t.told ∧
            t.ledger.returned = some .ok ∧
            Along step? Undisturbed (start plan session) moves)) ∧
      ∀ later w, play? step? t later = some w →
        (.stop ∈ t.told → t.InVain w) ∧
          (t.phase = .queued → t.session.isClosed = true → w.Untouched) := by
  have hk : Kept plan t := kept_of_play (kept_start hopen) hplay
  obtain ⟨early, late, body, hrows, ⟨values, rfl, hvalues⟩, henq⟩ := hk.accounts.stands.initial
  refine ⟨?_, ?_, ?_⟩
  · exact ⟨early, late, values, hrows, hk.plan ▸ hvalues,
      henq.imp_right fun hfinished => ⟨hfinished.1, hfinished.2.2⟩⟩
  · intro htimely ending hended
    have hfair := fair_of_play hopen hplay htimely
    constructor
    · intro hmarked
      have hreason := hfair.marked hmarked
      have hmanned : Kept plan t ∧ t.Manned := play?_preserves
        (P := fun p : Production Row R => Kept plan p ∧ p.Manned)
        (fun h hstep => ⟨h.1.step hstep, h.2.step h.1 hstep⟩)
        ⟨kept_start hopen, manned_start plan session⟩ hplay
      refine ⟨hk.plan ▸ hmanned.2.marked hmarked, ?_, ?_, ?_, ?_⟩
      · cases hk.begun with
        | once hone => exact hone
        | notYet huntouched => rw [huntouched.enqueued] at hmarked; cases hmarked
        | never huntouched => rw [huntouched.enqueued] at hmarked; cases hmarked
      · intro hstop
        have hc := (hk.halted hstop).1
        rw [Session.isClosed_eq_isSome, hreason] at hc
        cases hc
      · rcases henq with henq | ⟨-, hreturned, -⟩
        · rw [henq] at hmarked
          exact absurd hmarked (Carries.finish_notMem ⟨values, rfl, hvalues⟩)
        · exact hreturned
      · exact undisturbed_of_marked hopen hplay htimely hended hmarked
    · rintro ⟨hruntime, -, htold, hreturned, hundisturbed⟩
      exact marked_of_undisturbed hopen hplay hfair hended hruntime htold hreturned hundisturbed
  · intro later w hlater
    refine ⟨?_, fun hp hc => untouched_of_shut hk hp hc hlater⟩
    intro hstop
    have hvain := play?_preserves
      (P := fun p : Production Row R => Kept plan p ∧ p.Halted ∧ t.InVain p)
      (fun ⟨hu, hhalted, hvain⟩ hstep =>
        ⟨hu.step hstep, (hhalted.step hu hstep).1, hvain.trans (hhalted.step hu hstep).2⟩)
      ⟨hk, hk.halted hstop, .refl t⟩ hlater
    exact hvain.2.2

end

/-- Two rows and the end marker through a queue of one: the second row and the marker
wait until the consumer has made room. -/
def throughOneSlot : List (ProductionMove Nat) :=
  let advance : ProductionMove Nat := .scan (.advance false)
  [.scan .begin, .scan (.offer 7 0), advance, advance, advance, advance, advance,
    .scan (.offer 8 1), advance, advance, advance, advance, .act .receive, advance, advance,
    .scan (.conclude .ok), advance, advance, advance, .act .receive, .scan .recheck, advance,
    advance, advance]

/-- The row 7 is refused because the consumer has gone meanwhile, and the source hands
over the row 8 all the same. -/
def deafSource : List (ProductionMove Nat) :=
  [.scan .begin, .scan (.offer 7 0), .act .drop, .scan (.advance false), .scan (.advance false),
    .scan (.advance false)]

theorem scan_output_through_one_slot :
    (∃ t : Production Nat Nat,
      play? step? (start Invocation.doubling (.fresh 1)) throughOneSlot = some t ∧
      t.ledger.enqueued = [.value 14, .value 16, .finish] ∧ t.told = [.proceed, .proceed] ∧
      Along step? Undisturbed (start Invocation.doubling (.fresh 1)) throughOneSlot) ∧
    ∃ t w : Production Nat Nat,
      play? step? (start Invocation.doubling (.fresh 1)) deafSource = some t ∧
      play? step? t [.scan (.offer 8 1)] = some w ∧ t.told = [.stop] ∧
      w.scan.mapped = 1 ∧ t.InVain w := by
  constructor
  · obtain ⟨t, hplay, hended, henq, htold⟩ :
        ∃ t : Production Nat Nat,
          play? step? (start Invocation.doubling (.fresh 1)) throughOneSlot = some t ∧
          t.phase = .ended .ok ∧ t.ledger.enqueued = [.value 14, .value 16, .finish] ∧
          t.told = [.proceed, .proceed] :=
      ⟨_, rfl, rfl, rfl, rfl⟩
    have hmarked : .finish ∈ t.ledger.enqueued := by rw [henq]; decide
    have houtput := (@scan_output _ _ Invocation.doubling 1 _ _ _ rfl hplay).2.1 (by decide) .ok
      hended
    obtain ⟨-, -, -, -, hundisturbed⟩ := houtput.mp hmarked
    exact ⟨t, hplay, henq, htold, hundisturbed⟩
  · obtain ⟨t, w, hplay, hlater, htold, hmapped⟩ :
        ∃ t w : Production Nat Nat,
          play? step? (start Invocation.doubling (.fresh 1)) deafSource = some t ∧
          play? step? t [.scan (.offer 8 1)] = some w ∧ t.told = [.stop] ∧ w.scan.mapped = 1 :=
      ⟨_, _, rfl, rfl, rfl, rfl⟩
    have hvain := ((@scan_output _ _ Invocation.doubling 1 _ _ _ rfl hplay).2.2 _ w hlater).1
    exact ⟨t, w, hplay, hlater, htold, hmapped, hvain (by rw [htold]; decide)⟩

end Production
end RowBridge
