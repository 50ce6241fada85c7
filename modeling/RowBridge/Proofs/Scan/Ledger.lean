/-
# `RowBridge.Proofs.Scan.Ledger` — what a scan takes in and what it enqueues

A `Ledger` records what passes between a scan and its surroundings: the rows its
source handed over, the items that reached the queue, and how the source
returned.  `Stands` says, phase by phase, how the three belong together:

* the items are the mapped rows of an initial segment of the rows, in order, and
  after them at most one end marker;
* rows beyond that segment were handed over to a closed session;
* the end marker comes only after every row, and only when the source returned
  well.

`Accounts` is this, together with what the scan's own moves need, and no move of
the scan breaks it (`Accounts.step`), nor does anything that the consumer or a
closing does to the session (`Accounts.onSession`).
-/
import RowBridge.Proofs.Scan.Moves

namespace RowBridge

variable {Row R : Type}

/-- What has passed between a scan and its surroundings. -/
structure Ledger (Row R : Type) where
  /-- The rows the source handed over, with their indices. -/
  handed : List (Row × Nat)
  enqueued : List (Item R)
  /-- How the source returned. -/
  returned : Option Ending

namespace Ledger

def empty : Ledger Row R := ⟨[], [], none⟩

/-- Whatever the queue holds more than before has been enqueued. -/
def grow (l : Ledger Row R) (before after : Session R) : Ledger Row R :=
  { l with enqueued := l.enqueued ++ after.queue.drop before.queue.length }

/-- Enters a move of the scan. -/
def enter (l : Ledger Row R) (before after : Session R) : ScanMove Row → Ledger Row R
  | .offer row index => { l with handed := l.handed ++ [(row, index)] }
  | .conclude ending => { l with returned := some ending }
  | _ => l.grow before after

theorem grow_of_queue_eq (l : Ledger Row R) {before after : Session R}
    (h : after.queue = before.queue) : l.grow before after = l := by
  simp [grow, h]

end Ledger

/-- What the mapper makes of a row that was handed over. -/
def ScanPlan.result (plan : ScanPlan Row R) (handed : Row × Nat) : Except String R :=
  plan.mapper handed.1 handed.2

/-- The items are the mapped rows. -/
def Carries (plan : ScanPlan Row R) (rows : List (Row × Nat)) (items : List (Item R)) : Prop :=
  ∃ values : List R, items = values.map .value ∧ rows.map plan.result = values.map .ok

/-- What an enqueue has added to the queue so far. -/
def SendStage.landed (item : Item R) : SendStage → List (Item R)
  | .done .sent => [item]
  | _ => []

/-- How the records of a scan belong together, at each of its phases. -/
def Stands (plan : ScanPlan Row R) (closed : Bool) (l : Ledger Row R) : ScanPhase Row R → Prop
  | .deferred | .queued | .discarded => l = .empty
  | .scanning => l.returned = none ∧ ∃ early late, l.handed = early ++ late ∧
      Carries plan early l.enqueued ∧ (closed = false → late = [])
  | .mapping row index => l.returned = none ∧ ∃ early, l.handed = early ++ [(row, index)] ∧
      Carries plan early l.enqueued
  | .sending item stage => l.returned = none ∧ ∃ early row index value body,
      l.handed = early ++ [(row, index)] ∧ plan.mapper row index = .ok value ∧
      item = .value value ∧ Carries plan early body ∧ l.enqueued = body ++ stage.landed item
  | .ending stage => l.returned = some .ok ∧ ∃ body, Carries plan l.handed body ∧
      l.enqueued = body ++ stage.landed .finish
  | .failing failure => l.returned = some (.failed failure) ∧ Carries plan l.handed l.enqueued
  | .ended _ => ∃ early late body, l.handed = early ++ late ∧ Carries plan early body ∧
      (l.enqueued = body ∨
        (late = [] ∧ l.returned = some .ok ∧ l.enqueued = body ++ [.finish]))

/-! ## Rows and the items that carry them -/

section
variable {plan : ScanPlan Row R} {rows : List (Row × Nat)} {items : List (Item R)}

theorem carries_nil (plan : ScanPlan Row R) : Carries plan [] [] := ⟨[], rfl, rfl⟩

/-- One row more, and the item that carries it. -/
theorem Carries.concat (h : Carries plan rows items) {row : Row} {index : Nat} {value : R}
    (hm : plan.mapper row index = .ok value) :
    Carries plan (rows ++ [(row, index)]) (items ++ [.value value]) := by
  obtain ⟨values, hitems, hrows⟩ := h
  refine ⟨values ++ [value], ?_, ?_⟩
  · rw [hitems, List.map_append]; rfl
  · rw [List.map_append, List.map_append, hrows]
    exact congrArg _ (congrArg (· :: []) hm)

/-- Items that carry rows are not end markers. -/
theorem Carries.finish_notMem (h : Carries plan rows items) : Item.finish ∉ items := by
  obtain ⟨values, rfl, -⟩ := h
  simp

theorem Carries.length_eq (h : Carries plan rows items) : items.length = rows.length := by
  obtain ⟨values, hitems, hrows⟩ := h
  have hlen := congrArg List.length hrows
  simpa [hitems] using hlen.symm

/-- The values in a part of the items are the mapped rows of a part of the rows. -/
theorem Carries.values (h : Carries plan rows items) :
    (items.filterMap Item.toValue?).map .ok = rows.map plan.result := by
  obtain ⟨values, rfl, hrows⟩ := h
  rw [hrows, List.filterMap_map]
  congr 1
  exact List.filterMap_some

end

/-- What the scan owes to its own moves, and how its records stand. -/
structure Accounts (s : Scan Row R) (l : Ledger Row R) : Prop where
  sound : s.phase.Sound s.session
  /-- The producer half is there until the scan is over. -/
  gone : s.session.producerGone = s.phase.isOver
  stands : Stands s.plan s.session.isClosed l s.phase

/-! ## A moment of an enqueue -/

section
variable {runtime expired : Bool} {s s' : Session R} {item : Item R} {stage stage' : SendStage}

theorem SendStage.Moves.landed_nil (h : stage.Moves runtime expired s item s' stage') :
    stage.landed item = [] := by
  cases h with
  | strands => rfl
  | goesIn => rfl
  | goesOn => rfl
  | settles => rfl
  | turnedAway _ hl => cases stage <;> first | rfl | cases hl
  | refused _ hl => cases stage <;> first | rfl | cases hl
  | lands _ _ hl => cases stage <;> first | rfl | cases hl
  | expires _ _ _ hl => cases stage <;> first | rfl | cases hl
  | waits _ _ _ hl => cases stage <;> first | rfl | cases hl

theorem SendStage.landed_of_ne (item : Item R) (h : stage ≠ .done .sent) :
    stage.landed item = [] := by
  unfold landed
  split
  · exact absurd rfl h
  · rfl

/-- What the queue has gained is what has landed. -/
theorem SendStage.Moves.gained (h : stage.Moves runtime expired s item s' stage') :
    s'.queue.drop s.queue.length = stage'.landed item := by
  rcases h.queue with ⟨rfl, -, -, -, rfl⟩ | ⟨hne, hq⟩
  · exact List.drop_left
  · rw [hq, List.drop_length, landed_of_ne item hne]

/-- The ledger after a moment of an enqueue. -/
theorem SendStage.Moves.grow (h : stage.Moves runtime expired s item s' stage') {l : Ledger Row R}
    {body : List (Item R)} (hl : l.enqueued = body ++ stage.landed item) :
    (l.grow s s').enqueued = body ++ stage'.landed item := by
  show l.enqueued ++ s'.queue.drop s.queue.length = body ++ stage'.landed item
  rw [h.gained, hl, h.landed_nil, List.append_nil]

end

/-! ## The ledger of every scan -/

section
variable {s s' : Scan Row R} {l : Ledger Row R} {move : ScanMove Row}

theorem accounts_fresh (plan : ScanPlan Row R) (capacity : Nat) :
    Accounts (.fresh plan (.fresh capacity)) .empty :=
  ⟨trivial, rfl, rfl⟩

/-- A scan that stands as it did, whatever has happened to the queue and to the
closer. -/
theorem Accounts.onSession (h : Accounts s l) {session : Session R}
    (hc : s.session.isClosed = true → session.isClosed = true)
    (hg : session.producerGone = s.session.producerGone) :
    Accounts { s with session := session } l where
  sound := h.sound.of_isClosed hc
  gone := hg.trans h.gone
  stands := by
    have hst := h.stands
    show Stands s.plan session.isClosed l s.phase
    cases hp : s.phase with
    | scanning =>
        rw [hp] at hst
        obtain ⟨hret, early, late, hrows, hcar, hlate⟩ := hst
        refine ⟨hret, early, late, hrows, hcar, fun ho => hlate ?_⟩
        cases hcl : s.session.isClosed with
        | false => rfl
        | true => exact absurd (ho.symm.trans (hc hcl)) Bool.false_ne_true
    | _ => rw [hp] at hst; exact hst

/-- A row has been dealt with. -/
theorem stands_settleRow {outcome : SendOutcome} {item : Item R} {closed : Bool}
    {plan : ScanPlan Row R} (hs : outcome = .sent ∨ closed = true)
    (h : Stands plan closed l (.sending item (.done outcome))) :
    Stands plan closed l .scanning := by
  obtain ⟨hret, early, row, index, value, body, hrows, hm, rfl, hcar, henq⟩ := h
  cases outcome with
  | sent =>
      refine ⟨hret, l.handed, [], (List.append_nil _).symm, ?_, fun _ => rfl⟩
      rw [hrows, henq]
      exact hcar.concat hm
  | _ =>
      refine ⟨hret, early, [(row, index)], hrows, ?_, ?_⟩
      · rw [henq]
        exact (List.append_nil body).symm ▸ hcar
      · intro ho
        cases hs with
        | inl hs => cases hs
        | inr hs => exact absurd (ho.symm.trans hs) Bool.false_ne_true

/-- The end marker has been dealt with. -/
theorem stands_settleFinish {outcome : SendOutcome} {closed : Bool} {plan : ScanPlan Row R}
    (h : Stands plan closed l (.ending (.done outcome))) (ending : Ending) :
    Stands plan closed l (.ended ending) := by
  obtain ⟨hret, body, hcar, henq⟩ := h
  refine ⟨l.handed, [], body, (List.append_nil _).symm, hcar, ?_⟩
  cases outcome with
  | sent => exact Or.inr ⟨rfl, hret, henq⟩
  | _ => exact Or.inl (henq.trans (List.append_nil body))

/-- Between two rows of an open session every row has been enqueued. -/
theorem stands_open {plan : ScanPlan Row R} {closed : Bool}
    (h : Stands plan closed l .scanning) (ho : closed = false) :
    l.returned = none ∧ Carries plan l.handed l.enqueued := by
  obtain ⟨hret, early, late, hrows, hcar, hlate⟩ := h
  cases hlate ho
  rw [hrows, List.append_nil]
  exact ⟨hret, hcar⟩

/-- A scan that ends without an end marker. -/
theorem stands_ended {plan : ScanPlan Row R} {closed : Bool} {early late : List (Row × Nat)}
    (hrows : l.handed = early ++ late) (hcar : Carries plan early l.enqueued) (ending : Ending) :
    Stands plan closed l (.ended ending) :=
  ⟨early, late, l.enqueued, hrows, hcar, Or.inl rfl⟩

/-- A move that adds nothing to the queue leaves the ledger as it was. -/
theorem stands_grow {plan : ScanPlan Row R} {closed : Bool} {before after : Session R}
    (phase : ScanPhase Row R) (hq : after.queue = before.queue) (h : Stands plan closed l phase) :
    Stands plan closed (l.grow before after) phase := by
  rw [Ledger.grow_of_queue_eq l hq]
  exact h

/-- Every move of a scan keeps its accounts. -/
theorem Accounts.does (h : Accounts s l) (hd : s.Does move s') :
    Stands s'.plan s'.session.isClosed (l.enter s.session s'.session move) s'.phase := by
  have hst := h.stands
  have hdropped := Session.dropProducer_queue s.session
  -- only `sends` and `delivers` add to the queue; elsewhere the ledger grows by nothing
  cases hd with
  | skips hp =>
      rw [hp] at hst
      cases hst
      exact stands_grow (.ended .ok) hdropped ⟨[], [], [], rfl, carries_nil _, Or.inl rfl⟩
  | begins hp =>
      rw [hp] at hst
      cases hst
      exact stands_grow .scanning rfl ⟨rfl, [], [], rfl, carries_nil _, fun _ => rfl⟩
  | vanishes hp =>
      rw [hp] at hst
      exact stands_grow .discarded hdropped hst
  | @turnsAway row index hp hc =>
      rw [hp] at hst
      obtain ⟨hret, early, late, hrows, hcar, -⟩ := hst
      show Stands s.plan s.session.isClosed (l.enter s.session s.session (.offer row index)) s.phase
      rw [hp]
      refine ⟨hret, early, late ++ [(row, index)], ?_, hcar, ?_⟩
      · show l.handed ++ [(row, index)] = early ++ (late ++ [(row, index)])
        rw [hrows, List.append_assoc]
      · intro ho
        exact absurd (ho.symm.trans hc) Bool.false_ne_true
  | takesOn hp ho =>
      rw [hp] at hst
      obtain ⟨hret, early, late, hrows, hcar, hlate⟩ := hst
      cases hlate ho
      exact ⟨hret, early, by rw [Ledger.enter, hrows, List.append_nil], hcar⟩
  | comesToEnd hp ho =>
      rw [hp] at hst
      obtain ⟨-, hcar⟩ := stands_open hst ho
      exact ⟨rfl, l.enqueued, hcar, (List.append_nil _).symm⟩
  | fails hp ho =>
      rw [hp] at hst
      exact ⟨rfl, (stands_open hst ho).2⟩
  | stops hp =>
      rw [hp] at hst
      obtain ⟨-, early, late, hrows, hcar, -⟩ := hst
      exact ⟨early, late, l.enqueued, hrows, hcar, Or.inl rfl⟩
  | stopsFailing hp =>
      rw [hp] at hst
      obtain ⟨-, early, late, hrows, hcar, -⟩ := hst
      exact ⟨early, late, l.enqueued, hrows, hcar, Or.inl rfl⟩
  | raises hp =>
      rw [hp] at hst
      obtain ⟨-, early, late, hrows, hcar, -⟩ := hst
      exact ⟨early, late, l.enqueued, hrows, hcar, Or.inl rfl⟩
  | @maps expired row index value hp hm =>
      rw [hp] at hst
      obtain ⟨hret, early, hrows, hcar⟩ := hst
      refine stands_grow (.sending (.value value) .entering) rfl ?_
      exact ⟨hret, early, row, index, value, l.enqueued, hrows, hm, rfl, hcar,
        (List.append_nil _).symm⟩
  | givesUp hp =>
      rw [hp] at hst
      obtain ⟨-, early, hrows, hcar⟩ := hst
      exact stands_grow (.ended _) hdropped (stands_ended hrows hcar _)
  | sends hp hm =>
      rw [hp] at hst
      obtain ⟨hret, early, row, index, value, body, hrows, hmap, hitem, hcar, henq⟩ := hst
      exact ⟨hret, early, row, index, value, body, hrows, hmap, hitem, hcar, hm.grow henq⟩
  | @settles expired item outcome hp =>
      rw [hp] at hst
      have hs : outcome = .sent ∨ s.session.isClosed = true := by
        have hs := h.sound
        rw [hp] at hs
        exact hs
      rw [Scan.settleRow_plan, Scan.settleRow_session, Scan.settleRow_phase]
      exact stands_grow .scanning rfl (stands_settleRow hs hst)
  | delivers hp hm =>
      rw [hp] at hst
      obtain ⟨hret, body, hcar, henq⟩ := hst
      exact ⟨hret, body, hcar, hm.grow henq⟩
  | @completes expired outcome hp =>
      rw [hp] at hst
      rw [Scan.settleFinish_plan, Scan.settleFinish_session, Scan.settleFinish_phase]
      exact stands_grow (.ended .ok) hdropped (stands_settleFinish hst .ok)
  | @closes expired failure hp =>
      rw [hp] at hst
      have hq : (s.session.close (Scan.closureOf failure)).dropProducer.queue = s.session.queue :=
        (Session.dropProducer_queue _).trans (Session.close_queue _ _)
      rw [Scan.settleFailure_plan, Scan.settleFailure_session, Scan.settleFailure_phase]
      exact stands_grow (.ended _) hq (stands_ended (List.append_nil _).symm hst.2 _)
  | @looksAgain item hp =>
      rw [hp] at hst
      exact stands_grow (.sending item .polling) rfl hst
  | endsAgain hp =>
      rw [hp] at hst
      exact stands_grow (.ending .polling) rfl hst

theorem Accounts.step (h : Accounts s l) (hstep : s.step? move = some s') :
    Accounts s' (l.enter s.session s'.session move) := by
  have hd := Scan.does_of_step? h.sound hstep
  exact ⟨hd.sound, hd.touches.producerGone (h.gone.trans hd.isUnderWay.2), h.does hd⟩

/-- The ledger misses nothing that a scan adds to the queue. -/
theorem enqueued_enter (hd : s.Does move s') (l : Ledger Row R) :
    (l.enter s.session s'.session move).enqueued =
      l.enqueued ++ s'.session.queue.drop s.session.queue.length := by
  have hsame : ∀ {session : Session R}, session.queue = s.session.queue →
      l.enqueued = l.enqueued ++ session.queue.drop s.session.queue.length := by
    intro session hq
    rw [hq, List.drop_length, List.append_nil]
  cases hd with
  | turnsAway => exact hsame rfl
  | takesOn => exact hsame rfl
  | comesToEnd => exact hsame rfl
  | fails => exact hsame rfl
  | stops => exact hsame (Session.dropProducer_queue _)
  | stopsFailing => exact hsame (Session.dropProducer_queue _)
  | raises => exact hsame (Session.dropProducer_queue _)
  | _ => rfl

/-- In every phase, the items enqueued are the mapped rows of an initial segment
of the rows handed over, and then at most an end marker, which comes after all
of them. -/
theorem Stands.initial {plan : ScanPlan Row R} {closed : Bool} {phase : ScanPhase Row R}
    (h : Stands plan closed l phase) :
    ∃ early late body, l.handed = early ++ late ∧ Carries plan early body ∧
      (l.enqueued = body ∨
        (late = [] ∧ l.returned = some .ok ∧ l.enqueued = body ++ [.finish])) := by
  cases phase with
  | scanning =>
      obtain ⟨-, early, late, hrows, hcar, -⟩ := h
      exact ⟨early, late, l.enqueued, hrows, hcar, Or.inl rfl⟩
  | mapping row index =>
      obtain ⟨-, early, hrows, hcar⟩ := h
      exact ⟨early, [(row, index)], l.enqueued, hrows, hcar, Or.inl rfl⟩
  | sending item stage =>
      obtain ⟨-, early, row, index, value, body, hrows, hm, rfl, hcar, henq⟩ := h
      by_cases hsent : stage = .done .sent
      · subst hsent
        exact ⟨l.handed, [], l.enqueued, (List.append_nil _).symm,
          hrows ▸ henq ▸ hcar.concat hm, Or.inl rfl⟩
      · rw [SendStage.landed_of_ne _ hsent, List.append_nil] at henq
        exact ⟨early, [(row, index)], body, hrows, hcar, Or.inl henq⟩
  | ending stage =>
      obtain ⟨hret, body, hcar, henq⟩ := h
      refine ⟨l.handed, [], body, (List.append_nil _).symm, hcar, ?_⟩
      by_cases hsent : stage = .done .sent
      · subst hsent
        exact Or.inr ⟨rfl, hret, henq⟩
      · rw [SendStage.landed_of_ne _ hsent, List.append_nil] at henq
        exact Or.inl henq
  | failing failure =>
      exact ⟨l.handed, [], l.enqueued, (List.append_nil _).symm, h.2, Or.inl rfl⟩
  | ended ending => exact h
  | _ =>
      cases h
      exact ⟨[], [], [], rfl, carries_nil plan, Or.inl rfl⟩

end
end RowBridge
