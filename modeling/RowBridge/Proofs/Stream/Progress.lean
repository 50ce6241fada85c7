/-
# `RowBridge.Proofs.Stream.Progress` — an undisturbed stream comes to its end

Safety alone would be satisfied by a stream that never gives anything.  Here the
scan and the polls move again and again (`Fair`), and the stream is shown to
end.

The argument is a rank (`rank`) that no move raises.  It counts what the scan
has still to do, the rows that have not been given yet, and the moments of the
poll under way, the last only where the poll will find something.  A move that
does not lower it is *stuck*: the scan looks for room in a full queue, or the
consumer looks for an item in an empty one.  Both cannot be stuck for ever,
because the queue has room for at least one item (`ends`).

    part      from … to …                        rank
    scan      deferred … ended                   eight for each row left, and the phase
    enqueue   entering … done                    one moment each with room, five without
    rows      given so far                       eight for each row not given
    poll      none … taking                      one moment each when ready, seven otherwise
-/
import RowBridge.Proofs.Stream.Quiet

namespace RowBridge

variable {Row R : Type}

/-- What an enqueue has still to do. -/
def SendStage.rank (room : Bool) : SendStage → Nat
  | done _ => 1
  | entering | waiting => if room then 4 else 5
  | polling => if room then 3 else 5
  | reserving | settling _ => if room then 2 else 5

/-- What a scan has still to do when its source has so many rows left. -/
def ScanPhase.rank (room : Bool) (left : Nat) : ScanPhase Row R → Nat
  | deferred => 8 * left + 10
  | queued => 8 * left + 9
  | scanning => 8 * left + 8
  | mapping _ _ => 8 * left + 14
  | sending _ stage => 8 * left + 8 + stage.rank room
  | ending stage => stage.rank room
  | failing _ => 1
  | ended _ | discarded => 0

/-- What a consumer that will find something has still to do. -/
def PollStage.rank : Option (PollStage R) → Nat
  | none => 5
  | some entering => 4
  | some starting => 3
  | some checking => 2
  | some taking => 1
  | some watching => 6
  | some (done _) => 0

namespace Invocation

/-- The next poll has something to do: start the scan, take an item, or find the
session closed. -/
def ready (v : Invocation Row R) : Bool :=
  v.session.isClosed || !v.stream.started || !v.session.queue.isEmpty

theorem ready_iff {v : Invocation Row R} : v.ready = true ↔
    v.session.isClosed = true ∨ v.stream.started = false ∨ v.session.queue ≠ [] := by
  simp [ready, or_assoc]

def pollRank (v : Invocation Row R) : Nat := if v.ready then PollStage.rank v.poll else 7

/-- The rows the source has not handed over. -/
def left (script : Script Row) (v : Invocation Row R) : Nat :=
  script.rows.length - v.ledger.handed.length

/-- What is still to be done until the stream has ended. -/
def rank (script : Script Row) (v : Invocation Row R) : Nat :=
  8 * v.phase.rank v.session.hasRoom (v.left script) + 8 * (script.rows.length - v.rows.length) +
    v.pollRank

/-- Nothing has moved that matters for the end. -/
structure Still (v v' : Invocation Row R) : Prop where
  queue : v'.session.queue = v.session.queue
  started : v'.stream.started = v.stream.started
  isOver : v'.phase.isOver = v.phase.isOver
  closed : v'.session.isClosed = v.session.isClosed

/-- The move was made in vain: in a full queue, or by a consumer that finds
nothing. -/
def Stuck (v : Invocation Row R) : Move Row → Prop
  | .scan _ => v.session.hasRoom = false
  | .beginPoll | .poll _ _ => v.ready = false
  | _ => True

/-- What becomes of the rank in a move. -/
def Advances (script : Script Row) (v v' : Invocation Row R) (move : Move Row) : Prop :=
  v'.stream.done = true ∨ v'.rank script < v.rank script ∨
    (v'.rank script = v.rank script ∧ Still v v' ∧ Stuck v move)

theorem Still.refl (v : Invocation Row R) : Still v v := ⟨rfl, rfl, rfl, rfl⟩

/-! ## The scan -/

/-- A moment of an enqueue in an open session lowers the rank unless the queue
is full. -/
theorem rank_moves {runtime expired : Bool} {s s' : Session R} {item : Item R}
    {stage stage' : SendStage} (h : stage.Moves runtime expired s item s' stage')
    (hc : stage.Calm) (ho : s.reason = none) (href : s.refusing = false) (hr : runtime = true)
    (ht : stage.looksForRoom = true → expired = true → s.hasRoom = true) :
    stage'.rank s'.hasRoom < stage.rank s.hasRoom ∨
      (s.hasRoom = false ∧ s' = s ∧ stage'.rank s.hasRoom = stage.rank s.hasRoom) := by
  have hopen := isClosed_of_reason_none ho
  cases h with
  | turnedAway hclosed => exact absurd (hopen.symm.trans hclosed) Bool.false_ne_true
  | strands _ hf => exact absurd (hf.symm.trans hr) Bool.false_ne_true
  | refused hre => exact absurd (href.symm.trans hre) Bool.false_ne_true
  | expires _ hroom he hl => exact absurd (hroom.symm.trans (ht hl he)) Bool.false_ne_true
  | settles => exact hc.elim
  | goesIn =>
      cases hroom : s.hasRoom with
      | true => exact Or.inl (by decide)
      | false => exact Or.inr ⟨rfl, rfl, rfl⟩
  | goesOn =>
      cases hroom : s.hasRoom with
      | true => exact Or.inl (by decide)
      | false => exact Or.inr ⟨rfl, rfl, rfl⟩
  | lands _ hroom hl =>
      rw [hroom]
      cases stage with
      | reserving => exact Or.inl (by simp [SendStage.rank])
      | waiting => exact Or.inl (by simp [SendStage.rank])
      | _ => cases hl
  | waits _ hroom _ hl =>
      rw [hroom]
      cases stage with
      | reserving => exact Or.inr ⟨rfl, rfl, rfl⟩
      | waiting => exact Or.inr ⟨rfl, rfl, rfl⟩
      | _ => cases hl

/-- An enqueue has at most five moments left, and at least one. -/
theorem rank_bounds (room : Bool) (stage : SendStage) :
    1 ≤ stage.rank room ∧ stage.rank room ≤ 5 := by
  cases stage <;> cases room <;> simp [SendStage.rank]

section
variable {plan : ScanPlan Row R} {script : Script Row} {v v' : Invocation Row R} {move : Move Row}

/-- What a move of the scan does to its part of the rank. -/
def ScanAdvances (script : Script Row) (v v' : Invocation Row R) : Prop :=
  v'.phase.rank v'.session.hasRoom (v'.left script) <
      v.phase.rank v.session.hasRoom (v.left script) ∨
    (v.session.hasRoom = false ∧ v'.session = v.session ∧ v'.phase.isOver = v.phase.isOver ∧
      v'.phase.rank v.session.hasRoom (v'.left script) =
        v.phase.rank v.session.hasRoom (v.left script))

/-- A move between two phases whose ranks can be compared. -/
theorem scanAdvances_of_lt {before after : ScanPhase Row R} (hp : v.phase = before)
    (hp' : v'.phase = after)
    (hlt : ∀ room room', after.rank room' (v'.left script) < before.rank room (v.left script)) :
    ScanAdvances script v v' := by
  refine Or.inl ?_
  rw [hp, hp']
  exact hlt _ _

/-- What a moment of an enqueue does to the rank of that enqueue. -/
def StageAdvances (v v' : Invocation Row R) (stage stage' : SendStage) : Prop :=
  stage'.rank v'.session.hasRoom < stage.rank v.session.hasRoom ∨
    (v.session.hasRoom = false ∧ v'.session = v.session ∧
      stage'.rank v.session.hasRoom = stage.rank v.session.hasRoom)

/-- A move between two stages of one enqueue, which the scan ranks over `base`. -/
theorem scanAdvances_of_stage {before after : ScanPhase Row R} {stage stage' : SendStage}
    (base : Nat) (hp : v.phase = before) (hp' : v'.phase = after)
    (hbefore : ∀ room, before.rank room (v.left script) = stage.rank room + base)
    (hafter : ∀ room, after.rank room (v'.left script) = stage'.rank room + base)
    (hover : after.isOver = before.isOver) (h : StageAdvances v v' stage stage') :
    ScanAdvances script v v' := by
  unfold ScanAdvances
  rw [hp, hp', hbefore, hafter, hafter]
  rcases h with hlt | ⟨hfull, hsame, heq⟩
  · exact Or.inl (Nat.add_lt_add_right hlt base)
  · exact Or.inr ⟨hfull, hsame, hover, congrArg (· + base) heq⟩

/-- An enqueue that looks again has room, or it has not. -/
theorem stageAdvances_recheck (hsession : v'.session = v.session) :
    StageAdvances v v' .waiting .polling := by
  unfold StageAdvances
  rw [hsession]
  cases v.session.hasRoom with
  | true => exact Or.inl (by decide)
  | false => exact Or.inr ⟨rfl, rfl, rfl⟩

/-- An undisturbed scan gets nearer to its end, unless it looks for room in a
full queue. -/
theorem Quiet.scanAdvances (h : Quiet plan script v) (hsuits : script.Suits plan)
    {move : ScanMove Row} {scan : Scan Row R} (hd : v.stream.scan.Does move scan)
    (hu : Undisturbed v (.scan move)) (hf : Follows script v (.scan move))
    (ht : Timely v (.scan move)) : ScanAdvances script v (v.onScan move scan) := by
  have hcalm : Calm plan script v.session.reason v.ledger v.stream.scan.phase := h.calm
  have hreason : v.session.reason = none := hcalm.open hd.isUnderWay.2
  have hopen : v.stream.scan.session.isClosed = false := isClosed_of_reason_none hreason
  have hclosed : v.stream.scan.session.isClosed = true → False := by
    intro hc
    exact absurd (hopen.symm.trans hc) Bool.false_ne_true
  cases hd with
  | skips _ hc => exact (hclosed hc).elim
  | vanishes => exact hu.elim
  | turnsAway _ hc => exact (hclosed hc).elim
  | stops _ hc => exact (hclosed hc).elim
  | stopsFailing _ hc => exact (hclosed hc).elim
  | raises => exact absurd (hf hopen).2.symm (hsuits.returns _)
  | begins hp =>
      refine scanAdvances_of_lt hp rfl ?_
      intro room room'
      show 8 * v.left script + 8 < 8 * v.left script + 9
      omega
  | @takesOn row index hp =>
      refine scanAdvances_of_lt hp rfl ?_
      intro room room'
      have hlen := (hf hopen).length_le
      rw [List.length_append, List.length_singleton] at hlen
      show 8 * (script.rows.length - (v.ledger.handed ++ [(row, index)]).length) + 14 <
        8 * (script.rows.length - v.ledger.handed.length) + 8
      rw [List.length_append, List.length_singleton]
      omega
  | comesToEnd hp =>
      refine scanAdvances_of_lt hp rfl ?_
      intro room room'
      have hbound := (rank_bounds room' .entering).2
      show SendStage.rank room' .entering < 8 * v.left script + 8
      omega
  | fails hp =>
      refine scanAdvances_of_lt hp rfl ?_
      intro room room'
      show 1 < 8 * v.left script + 8
      omega
  | maps hp =>
      refine scanAdvances_of_lt hp rfl ?_
      intro room room'
      have hbound := (rank_bounds room' .entering).2
      show 8 * v.left script + 8 + SendStage.rank room' .entering < 8 * v.left script + 14
      omega
  | givesUp hp =>
      refine scanAdvances_of_lt hp rfl ?_
      intro room room'
      show 0 < 8 * v.left script + 14
      omega
  | @sends expired item stage stage' session events hp hm =>
      rw [hp] at hcalm
      have hroom := ht.room (congrArg ScanPhase.looksForRoom hp)
      exact scanAdvances_of_stage (8 * v.left script + 8) hp rfl (fun _ => Nat.add_comm _ _)
        (fun _ => Nat.add_comm _ _) rfl
        (rank_moves hm hcalm.2 hreason h.refusing (h.plan_eq ▸ hsuits.runtime) hroom)
  | @settles expired item outcome hp =>
      refine scanAdvances_of_lt hp (Scan.settleRow_phase _ _) ?_
      intro room room'
      show 8 * v.left script + 8 < 8 * v.left script + 8 + 1
      omega
  | @delivers expired stage stage' session events hp hm =>
      rw [hp] at hcalm
      have hroom := ht.room (congrArg ScanPhase.looksForRoom hp)
      exact scanAdvances_of_stage 0 hp rfl (fun _ => rfl) (fun _ => rfl) rfl
        (rank_moves hm hcalm.2 hreason h.refusing (h.plan_eq ▸ hsuits.runtime) hroom)
  | completes hp =>
      exact scanAdvances_of_lt hp (Scan.settleFinish_phase _ _) fun _ _ => Nat.zero_lt_one
  | closes hp =>
      exact scanAdvances_of_lt hp (Scan.settleFailure_phase _ _) fun _ _ => Nat.zero_lt_one
  | looksAgain hp =>
      exact scanAdvances_of_stage (8 * v.left script + 8) hp rfl (fun _ => Nat.add_comm _ _)
        (fun _ => Nat.add_comm _ _) rfl (stageAdvances_recheck rfl)
  | endsAgain hp =>
      exact scanAdvances_of_stage 0 hp rfl (fun _ => rfl) (fun _ => rfl) rfl
        (stageAdvances_recheck rfl)

/-! ## The polls -/

theorem rank_le_six (poll : Option (PollStage R)) : PollStage.rank poll ≤ 6 := by
  cases poll with
  | none => simp [PollStage.rank]
  | some stage => cases stage <;> simp [PollStage.rank]

theorem pollRank_le_seven (v : Invocation Row R) : v.pollRank ≤ 7 := by
  unfold pollRank
  split
  · exact Nat.le_trans (rank_le_six _) (by decide)
  · exact Nat.le_refl 7

/-- A poll that becomes ready has less to do. -/
theorem pollRank_mono (hp : v'.poll = v.poll) (hr : v.ready = true → v'.ready = true) :
    v'.pollRank ≤ v.pollRank := by
  cases hready : v.ready with
  | true =>
      have hsame : v'.pollRank = v.pollRank := by
        rw [pollRank, pollRank, hr hready, hready, hp]
      exact Nat.le_of_eq hsame
  | false =>
      have hseven : v.pollRank = 7 := by rw [pollRank, hready]; rfl
      rw [hseven]
      exact pollRank_le_seven v'

/-- A move of the scan does not take readiness away. -/
theorem ready_onScan {move : ScanMove Row} {scan : Scan Row R}
    (hd : v.stream.scan.Does move scan) (hr : v.ready = true) :
    (v.onScan move scan).ready = true := by
  rw [ready_iff] at hr ⊢
  rcases hr with hc | hs | hq
  · exact Or.inl (hd.touches.isClosed hc)
  · exact Or.inr (Or.inl hs)
  · refine Or.inr (Or.inr ?_)
    intro hnil
    exact hq (List.prefix_nil.mp (hnil ▸ hd.touches.queue))

/-- A move of the scan, seen in the whole rank. -/
theorem ScanAdvances.advances {move : ScanMove Row} {scan : Scan Row R}
    (h : ScanAdvances script v (v.onScan move scan)) (hd : v.stream.scan.Does move scan) :
    Advances script v (v.onScan move scan) (.scan move) := by
  have hpoll : (v.onScan move scan).pollRank ≤ v.pollRank := pollRank_mono rfl (ready_onScan hd)
  have hrows : (v.onScan move scan).rows = v.rows := rfl
  refine Or.inr ?_
  unfold rank
  rw [hrows]
  rcases h with hlt | ⟨hfull, hsame, hover, heq⟩
  · exact Or.inl (by omega)
  · refine Or.inr ⟨?_, ⟨congrArg _ hsame, rfl, hover, congrArg _ hsame⟩, hfull⟩
    have hready : (v.onScan move scan).ready = v.ready := by
      simp only [ready, hsame]
      rfl
    have hsame' : (v.onScan move scan).pollRank = v.pollRank := by
      simp only [pollRank, hready]
      rfl
    rw [hsame, heq, hsame']

/-- A move of the consumer that leaves all but the stage of the poll as it was. -/
theorem advances_of_poll (hsession : Session.Keeps v.session v'.session)
    (hstarted : v'.stream.started = v.stream.started) (hphase : v'.phase = v.phase)
    (hledger : v'.ledger = v.ledger) (hrows : v'.rows = v.rows)
    (hclosed : v'.session.isClosed = v.session.isClosed)
    (hlt : v.ready = true → PollStage.rank v'.poll < PollStage.rank v.poll)
    (hmove : v.ready = false → Stuck v move) : Advances script v v' move := by
  have hroom : v'.session.hasRoom = v.session.hasRoom := by
    simp only [Session.hasRoom, hsession.queue, hsession.capacity]
  have hready : v'.ready = v.ready := by
    simp only [ready, hclosed, hstarted, hsession.queue]
  refine Or.inr ?_
  simp only [rank, left, hphase, hroom, hledger, hrows]
  cases hr : v.ready with
  | true =>
      have hlower : v'.pollRank < v.pollRank := by
        rw [pollRank, pollRank, hready, hr]
        exact hlt hr
      exact Or.inl (by omega)
  | false =>
      have hsame : v'.pollRank = v.pollRank := by
        rw [pollRank, pollRank, hready, hr]
        rfl
      have hstill : Still v v' :=
        ⟨hsession.queue, hstarted, congrArg ScanPhase.isOver hphase, hclosed⟩
      exact Or.inr ⟨congrArg _ hsame, hstill, hmove hr⟩

/-- The first poll hands the scan over. -/
theorem rank_handOver (hp : v.poll = some .starting) (hs : v.stream.started = false)
    (hphase : v.phase = .deferred) (hphase' : v'.phase = .queued) (hledger : v'.ledger = v.ledger)
    (hrows : v'.rows = v.rows) : v'.rank script < v.rank script := by
  have hready : v.ready = true := ready_iff.mpr (Or.inr (Or.inl hs))
  have hbefore : v.pollRank = 3 := by
    rw [pollRank, hready, hp]
    rfl
  have hafter := pollRank_le_seven v'
  have hleft : v'.left script = v.left script := by rw [left, left, hledger]
  simp only [rank, hphase, hphase', hleft, hrows, hbefore, ScanPhase.rank]
  omega

/-- A queue out of which an item was taken has no less room. -/
theorem rank_room_mono {room room' : Bool} (h : room = true → room' = true) (left : Nat)
    (phase : ScanPhase Row R) : phase.rank room' left ≤ phase.rank room left := by
  have hstage : ∀ stage : SendStage, stage.rank room' ≤ stage.rank room := by
    intro stage
    cases room with
    | true =>
        exact Nat.le_of_eq (congrArg stage.rank (h rfl))
    | false => cases room' <;> cases stage <;> simp [SendStage.rank]
  cases phase with
  | sending item stage => exact Nat.add_le_add_left (hstage stage) _
  | ending stage => exact hstage stage
  | _ => exact Nat.le_refl _

/-- A row was given. -/
theorem rank_row {row : R} {rest : List (Item R)} (hp : v.poll = some .taking)
    (hq : v.session.queue = .value row :: rest) (hsession : v'.session.queue = rest)
    (hcapacity : v'.session.capacity = v.session.capacity) (hphase : v'.phase = v.phase)
    (hledger : v'.ledger = v.ledger) (hrows : v'.rows = v.rows ++ [row])
    (hlen : v.rows.length < script.rows.length) : v'.rank script < v.rank script := by
  have hready : v.ready = true := by
    rw [ready_iff, hq]
    exact Or.inr (Or.inr (List.cons_ne_nil _ _))
  have hbefore : v.pollRank = 1 := by
    rw [pollRank, hready, hp]
    rfl
  have hroom : v.session.hasRoom = true → v'.session.hasRoom = true := by
    simp only [Session.hasRoom, hq, hsession, hcapacity, List.length_cons, decide_eq_true_eq]
    omega
  have hafter := pollRank_le_seven v'
  have hscan := rank_room_mono hroom (v.left script) v.phase
  have hgiven : v'.rows.length = v.rows.length + 1 := by
    rw [hrows, List.length_append, List.length_singleton]
  have hleft : v'.left script = v.left script := by rw [left, left, hledger]
  unfold rank
  rw [hphase, hleft, hgiven, hbefore]
  omega

/-- A moment of a poll gets nearer to the end of the stream, unless it found
nothing to do. -/
theorem Quiet.advances_gives (h : Quiet plan script v) {runtime : Bool} {reception : Reception}
    {stage stage' : PollStage R} {stream : RowStream Row R} (hp : v.poll = some stage)
    (hu : Undisturbed v (.poll runtime reception))
    (hg : stage.Gives runtime reception v.stream stream stage')
    (hinv : Invariant plan ({ v with stream := stream }.goOn stage')) :
    Advances script v ({ v with stream := stream }.goOn stage') (.poll runtime reception) := by
  have hmid := h.coherent.midway stage hp
  have hhush : v.session.Keeps v.session.hush := v.session.keeps_bell _
  cases hg with
  | overAgain hd => exact Or.inl hd
  | turnsBack => exact Or.inl rfl
  | strands hf => exact absurd (hf.symm.trans (hu hp).1) Bool.false_ne_true
  | stops => exact Or.inl rfl
  | takesFinish => exact Or.inl rfl
  | findsNobody => exact Or.inl rfl
  | goesToStart =>
      refine advances_of_poll hhush rfl rfl rfl rfl rfl ?_ id
      intro _
      rw [hp]
      exact (by decide : 3 < 4)
  | goesToQueue =>
      refine advances_of_poll hhush rfl rfl rfl rfl rfl ?_ id
      intro _
      rw [hp]
      exact (by decide : 1 < 4)
  | handsOver =>
      have hdeferred := h.coherent.kept.deferred hmid.2.2
      rw [(hu hp).2]
      exact Or.inr (Or.inl (rank_handOver hp hmid.2.2 hdeferred rfl rfl rfl))
  | goesOn =>
      refine advances_of_poll (.refl _) rfl rfl rfl rfl rfl ?_ id
      intro _
      rw [hp]
      exact (by decide : 1 < 2)
  | @takesRow row rest hq =>
      refine Or.inr (Or.inl (rank_row hp hq rfl rfl rfl rfl (rows_goOn_done _ _) ?_))
      have hgiven := hinv.rows_isPrefix.length_le
      have hhanded := h.handed.length_le
      rw [rows_goOn_done, List.length_map, List.length_map, List.length_append] at hgiven
      exact Nat.lt_of_lt_of_le (Nat.lt_of_succ_le hgiven) hhanded
  | findsNothing hq hgone =>
      have hover : v.phase.isOver = false := h.coherent.kept.accounts.gone.symm.trans hgone
      have hopen : v.session.isClosed = false := isClosed_of_reason_none (h.calm.open hover)
      have hempty : v.session.queue = [] := hq
      have hready : v.ready = false := by
        simp [ready, hopen, hmid.2.2, hempty]
      refine advances_of_poll (v.session.keeps_bell _) rfl rfl rfl rfl rfl ?_ id
      intro hr
      exact absurd (hready.symm.trans hr) Bool.false_ne_true
  | leavesBell =>
      refine advances_of_poll (v.session.keeps_bell _) rfl rfl rfl ?_ rfl ?_ id
      · exact (rows_goOn_done _ _).trans (List.append_nil _)
      · intro _
        rw [hp]
        exact (by decide : 5 < 6)

/-- Every move gets nearer to the end of the stream, unless it is made in vain. -/
theorem Quiet.advances (h : Quiet plan script v) (hsuits : script.Suits plan)
    (hu : Undisturbed v move) (hf : Follows script v move) (ht : Timely v move)
    (hstep : v.step? move = some v') : Advances script v v' move := by
  have hinv := h.toInvariant.step hstep
  cases move with
  | pass =>
      cases hstep
      exact Or.inr (Or.inr ⟨rfl, .refl v, trivial⟩)
  | beginPoll =>
      obtain ⟨hfree, ⟨⟩⟩ := Option.ite_none_right_eq_some.mp hstep
      refine advances_of_poll (.refl _) rfl rfl rfl rfl rfl ?_ id
      intro _
      rw [(isFree_iff.mp hfree).1]
      exact (by decide : 4 < 5)
  | poll runtime reception =>
      obtain ⟨stage, hp, rfl⟩ := Option.map_eq_some_iff.mp hstep
      obtain ⟨stream, stage', hg, heq⟩ := advance_eq h.coherent hp runtime reception
      rw [heq] at hinv ⊢
      exact h.advances_gives hp hu hg hinv
  | scan move =>
      obtain ⟨scan, hs, rfl⟩ := Option.map_eq_some_iff.mp hstep
      have hd := Scan.does_of_step? h.coherent.kept.accounts.sound hs
      exact (h.scanAdvances hsuits hd hu hf ht).advances hd
  | _ => exact hu.elim

end

/-! ## Courses -/

/-- The scan has been handed over and is not over. -/
def UnderWay (v : Invocation Row R) : Prop := v.stream.started = true ∧ v.phase.isOver = false

/-- Both sides move again and again: the scan while it is under way, the
consumer always. -/
structure Fair (c : History Row R) : Prop where
  scan : Course.Recurs fun n => (∃ move, c.move n = .scan move) ∨ ¬ UnderWay (c.state n)
  polls : Course.Recurs fun n =>
    c.move n = .beginPoll ∨ ∃ runtime reception, c.move n = .poll runtime reception

/-- A course of an invocation that nobody disturbs. -/
structure Peaceful (script : Script Row) (c : History Row R) : Prop where
  undisturbed : ∀ n, Undisturbed (c.state n) (c.move n)
  follows : ∀ n, Follows script (c.state n) (c.move n)

section
variable {plan : ScanPlan Row R} {script : Script Row} {c : History Row R}

theorem Still.trans {u v w : Invocation Row R} (h : Still u v) (h' : Still v w) : Still u w where
  queue := h'.queue.trans h.queue
  started := h'.started.trans h.started
  isOver := h'.isOver.trans h.isOver
  closed := h'.closed.trans h.closed

/-- A consumer that comes in vain finds an open, started stream and an empty
queue. -/
theorem eq_of_not_ready {v : Invocation Row R} (h : v.ready = false) :
    v.session.isClosed = false ∧ v.stream.started = true ∧ v.session.queue = [] := by
  simpa [ready, and_assoc] using h

/-- An invocation is quiet along a peaceful course with time enough. -/
theorem quiet_of_peaceful (hsuits : script.Suits plan) (hpeace : Peaceful script c)
    (hstart : Quiet plan script (c.state 0))
    (htimely : ∀ n, Quiet plan script (c.state n) → Timely (c.state n) (c.move n)) :
    ∀ n, Quiet plan script (c.state n) := by
  intro n
  induction n with
  | zero => exact hstart
  | succ n ih =>
      exact ih.step hsuits (hpeace.undisturbed n) (hpeace.follows n) (htimely n ih) (c.next n)

/-- From some moment on the stream does not end and the rank does not drop. -/
def Stalled (script : Script Row) (c : History Row R) (n : Nat) : Prop :=
  ∀ m, n ≤ m → (c.state m).stream.done = false ∧
    (c.state n).rank script ≤ (c.state m).rank script

/-- While the stream is stalled nothing moves that matters, and every move is
made in vain. -/
theorem Stalled.still {n : Nat} (h : Stalled script c n)
    (hadvances : ∀ n, Advances script (c.state n) (c.state (n + 1)) (c.move n)) :
    ∀ m, n ≤ m → Still (c.state n) (c.state m) ∧ Stuck (c.state m) (c.move m) := by
  have hstep : ∀ m, n ≤ m → (c.state m).rank script = (c.state n).rank script →
      (c.state (m + 1)).rank script = (c.state m).rank script ∧
        Still (c.state m) (c.state (m + 1)) ∧ Stuck (c.state m) (c.move m) := by
    intro m hm heq
    obtain ⟨hd, hle⟩ := h (m + 1) (Nat.le_succ_of_le hm)
    rcases hadvances m with hd' | hlt | hstuck
    · exact absurd (hd.symm.trans hd') Bool.false_ne_true
    · exact absurd (heq ▸ hlt) (Nat.not_lt_of_le hle)
    · exact hstuck
  have hstays : ∀ m, n ≤ m → (c.state m).rank script = (c.state n).rank script ∧
      Still (c.state n) (c.state m) := by
    intro m hm
    -- the two together, because a rank that stays makes the next move one in vain
    induction hm with
    | refl => exact ⟨rfl, .refl _⟩
    | step hm ih =>
        obtain ⟨heq, hs, -⟩ := hstep _ hm ih.1
        exact ⟨heq.trans ih.1, ih.2.trans hs⟩
  intro m hm
  obtain ⟨heq, hs⟩ := hstays m hm
  exact ⟨hs, (hstep m hm heq).2.2⟩

/-- No stream is stalled for ever: a consumer that comes in vain finds the queue
empty, and then the scan has room, or nothing left to do. -/
theorem not_stalled (hquiet : ∀ n, Quiet plan script (c.state n))
    (hadvances : ∀ n, Advances script (c.state n) (c.state (n + 1)) (c.move n))
    (hroom : ∀ n, 0 < (c.state n).session.capacity) (hfair : Fair c) (n : Nat) :
    ¬ Stalled script c n := by
  intro hstalled
  have hstill := hstalled.still hadvances
  -- the consumer comes in vain, so the queue is empty, and it stays so
  obtain ⟨q, hq, hpoll⟩ := hfair.polls n
  obtain ⟨hq', hvain⟩ := hstill q hq
  have hready : (c.state q).ready = false := by
    rcases hpoll with hmove | ⟨runtime, reception, hmove⟩
    · rw [hmove] at hvain
      exact hvain
    · rw [hmove] at hvain
      exact hvain
  obtain ⟨hopen, hstarted, hempty⟩ := eq_of_not_ready hready
  -- the scan comes in vain, which takes a full queue, or has nothing left to do
  obtain ⟨p, hp, hscan⟩ := hfair.scan n
  obtain ⟨hp', hvain⟩ := hstill p hp
  have hemptyₚ : (c.state p).session.queue = [] := hp'.queue.trans (hq'.queue.symm.trans hempty)
  rcases hscan with ⟨move, hmove⟩ | hidle
  · have hfull : (c.state p).session.hasRoom = false := by
      rw [hmove] at hvain
      exact hvain
    rw [Session.hasRoom, hemptyₚ] at hfull
    exact absurd (hroom p) (of_decide_eq_false hfull)
  · have hover : (c.state p).phase.isOver = true := by
      cases hover : (c.state p).phase.isOver with
      | true => rfl
      | false =>
          exact absurd ⟨hp'.started.trans (hq'.started.symm.trans hstarted), hover⟩ hidle
    have hopen' : (c.state p).session.isClosed = false :=
      hp'.closed.trans (hq'.closed.symm.trans hopen)
    have hdone := (hquiet p).done_of_over hover hopen' hemptyₚ
    exact absurd ((hstalled p hp).1.symm.trans hdone) Bool.false_ne_true

/-- An undisturbed stream whose two sides keep moving comes to its end. -/
theorem ends (hsuits : script.Suits plan) (hpeace : Peaceful script c)
    (hquiet : ∀ n, Quiet plan script (c.state n)) (htimely : ∀ n, Timely (c.state n) (c.move n))
    (hcapacity : 0 < (c.state 0).session.capacity) (hfair : Fair c) :
    Course.Eventually (fun n => (c.state n).stream.done = true) 0 := by
  have hadvances : ∀ n, Advances script (c.state n) (c.state (n + 1)) (c.move n) := by
    intro n
    exact (hquiet n).advances hsuits (hpeace.undisturbed n) (hpeace.follows n) (htimely n)
      (c.next n)
  have hroom : ∀ n, 0 < (c.state n).session.capacity := by
    intro n
    exact capacity_eq_of_course c (hquiet 0).coherent n ▸ hcapacity
  refine Course.eventually (fun n => (c.state n).rank script) ?_ 0
  intro n _
  refine Classical.byContradiction ?_
  intro hno
  refine not_stalled hquiet hadvances hroom hfair n ?_
  intro m hm
  have hopen : (c.state m).stream.done = false := by
    cases hd : (c.state m).stream.done with
    | false => rfl
    | true => exact absurd ⟨m, hm, Or.inl hd⟩ hno
  exact ⟨hopen, Nat.le_of_not_lt fun hlt => hno ⟨m, hm, Or.inr hlt⟩⟩

end

end Invocation
end RowBridge
