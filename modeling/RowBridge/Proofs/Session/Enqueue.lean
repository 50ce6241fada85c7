/-
# `RowBridge.Proofs.Session.Enqueue` — what one moment of an enqueue can do

`SendStage.advance` is a function of the stage, of the session and of two flags.
`SendStage.Moves` lists what can come of it, one rule for each way; every
invariant about enqueues is a case analysis on these rules, and nothing else
unfolds `advance`.

    rule        when                                      session            stage
    turnedAway  closed                                    —                  done closed
    strands     open, no runtime to wait in               close sourceFailure  done closed
    goesIn      open                                      —                  polling
    goesOn      open                                      —                  reserving
    refused     items are refused                         —                  settling disconnected
    lands       there is room                             enqueue            done sent
    expires     no room, the deadline has passed          —                  settling timedOut
    waits       no room                                   —                  waiting
    settles     no room was found                         close              done

**The two looks of a waiting enqueue.**  A waiting enqueue that is woken looks
for a closing and then for room.  `SendStage.advance` takes both looks in one
moment; `SendStage.recheck` sets the enqueue back to the first of them, so that
another party may act between the two.
-/
import RowBridge.Session.Send

namespace RowBridge.SendStage

variable {R : Type}

/-- An enqueue that waits is about to look for a closing again, and then for
room. -/
def recheck : SendStage → SendStage
  | waiting => polling
  | stage => stage

theorem isDone_recheck (stage : SendStage) : stage.recheck.isDone = stage.isDone := by
  cases stage <;> rfl

/-- The stages in which a closing is looked for. -/
def looksForClosing : SendStage → Bool
  | entering | polling | waiting => true
  | _ => false

/-- The stages in which room is looked for. -/
def looksForRoom : SendStage → Bool
  | reserving | waiting => true
  | _ => false

/-- What one moment of an unfinished enqueue can do to the session and to the
enqueue. -/
inductive Moves (runtime expired : Bool) (s : Session R) (item : Item R) :
    SendStage → Session R → SendStage → Prop
  | turnedAway {stage : SendStage} : s.isClosed = true → stage.looksForClosing = true →
      Moves runtime expired s item stage s (done .closed)
  | strands : s.isClosed = false → runtime = false →
      Moves runtime expired s item entering (s.close .sourceFailure) (done .closed)
  | goesIn : s.isClosed = false → runtime = true → Moves runtime expired s item entering s polling
  | goesOn : s.isClosed = false → Moves runtime expired s item polling s reserving
  | refused {stage : SendStage} : s.refusing = true → stage.looksForRoom = true →
      Moves runtime expired s item stage s (settling .disconnected)
  | lands {stage : SendStage} : s.refusing = false → s.hasRoom = true →
      stage.looksForRoom = true → Moves runtime expired s item stage (s.enqueue item) (done .sent)
  | expires {stage : SendStage} : s.refusing = false → s.hasRoom = false → expired = true →
      stage.looksForRoom = true → Moves runtime expired s item stage s (settling .timedOut)
  | waits {stage : SendStage} : s.refusing = false → s.hasRoom = false → expired = false →
      stage.looksForRoom = true → Moves runtime expired s item stage s waiting
  | settles {outcome : SendOutcome} {reason : ClosureReason} : closing outcome = some reason →
      Moves runtime expired s item (settling outcome) (s.close reason) (done outcome)

/-- A stage an enqueue can be in: only an enqueue without room closes the
session afterwards, and one that ended without success left the session
closed. -/
def Sound (s : Session R) : SendStage → Prop
  | settling outcome => (closing outcome).isSome = true
  | done outcome => outcome = .sent ∨ s.isClosed = true
  | _ => True

theorem moves_reserve {runtime expired : Bool} {s : Session R} {item : Item R} {stage : SendStage}
    (h : stage.looksForRoom = true) :
    Moves runtime expired s item stage (reserve s item expired).1 (reserve s item expired).2 := by
  unfold reserve
  split
  · next hr => exact .refused hr h
  · next hr =>
    have hr : s.refusing = false := by simpa using hr
    split
    · next hroom => exact .lands hr hroom h
    · next hroom =>
      have hroom : s.hasRoom = false := by simpa using hroom
      split
      · next he => exact .expires hr hroom he h
      · next he => exact .waits hr hroom (by simpa using he) h

/-- One moment of an unfinished enqueue is one of the rules. -/
theorem advance_moves (runtime expired : Bool) (item : Item R) {s : Session R} {stage : SendStage}
    (hs : stage.Sound s) (hd : stage.isDone = false) :
    Moves runtime expired s item stage (advance runtime expired s item stage).session
      (advance runtime expired s item stage).stage := by
  cases stage with
  | entering =>
      cases hc : s.isClosed with
      | true => simpa [advance, hc] using Moves.turnedAway hc rfl
      | false =>
          cases runtime with
          | true => simpa [advance, hc] using Moves.goesIn hc rfl
          | false => simpa [advance, hc] using Moves.strands hc rfl
  | polling =>
      cases hc : s.isClosed with
      | true => simpa [advance, hc] using Moves.turnedAway hc rfl
      | false => simpa [advance, hc] using Moves.goesOn hc
  | reserving => exact moves_reserve rfl
  | waiting =>
      cases hc : s.isClosed with
      | true => simpa [advance, hc] using Moves.turnedAway hc rfl
      | false => simpa [advance, hc] using moves_reserve rfl
  | settling outcome =>
      obtain ⟨reason, hreason⟩ := Option.isSome_iff_exists.mp hs
      simpa [advance, hreason] using Moves.settles hreason
  | done outcome => cases hd

/-! ## Consequences of the rules -/

section
variable {runtime expired : Bool} {s s' : Session R} {item : Item R} {stage stage' : SendStage}

theorem Sound.of_isClosed (h : stage.Sound s) (hc : s.isClosed = true → s'.isClosed = true) :
    stage.Sound s' := by
  cases stage with
  | done outcome => exact h.imp_right hc
  | settling outcome => exact h
  | _ => trivial

theorem Sound.recheck (h : stage.Sound s) : stage.recheck.Sound s := by
  cases stage with
  | waiting => trivial
  | _ => exact h

theorem Moves.sound (h : Moves runtime expired s item stage s' stage') : stage'.Sound s' := by
  cases h with
  | turnedAway hc => exact Or.inr hc
  | strands => exact Or.inr (Session.close_isClosed _ _)
  | lands => exact Or.inl rfl
  | settles => exact Or.inr (Session.close_isClosed _ _)
  | refused => exact rfl
  | expires => exact rfl
  | _ => trivial

/-- An enqueue leaves the session closed that it found closed. -/
theorem Moves.isClosed (h : Moves runtime expired s item stage s' stage')
    (hc : s.isClosed = true) : s'.isClosed = true := by
  cases h with
  | strands => exact Session.close_isClosed _ _
  | settles => exact Session.close_isClosed _ _
  | lands => exact hc
  | _ => exact hc

/-- An enqueue leaves the reason of a closing as it found it. -/
theorem Moves.reason (h : Moves runtime expired s item stage s' stage') {reason : ClosureReason}
    (hr : s.reason = some reason) : s'.reason = some reason := by
  cases h with
  | strands => exact (s.keeps_close _).reason hr
  | settles => exact (s.keeps_close _).reason hr
  | lands => exact hr
  | _ => exact hr

/-- The queue gets the item exactly in the moment in which the enqueue succeeds. -/
theorem Moves.queue (h : Moves runtime expired s item stage s' stage') :
    (stage' = done .sent ∧ stage.looksForRoom = true ∧ s.refusing = false ∧ s.hasRoom = true ∧
        s' = s.enqueue item) ∨
      (stage' ≠ done .sent ∧ s'.queue = s.queue) := by
  cases h with
  | lands hr hroom hl => exact Or.inl ⟨rfl, hl, hr, hroom, rfl⟩
  | settles hreason =>
      refine Or.inr ⟨?_, Session.close_queue _ _⟩
      intro h
      cases h
      cases hreason
  | strands => exact Or.inr ⟨by simp, Session.close_queue _ _⟩
  | _ => exact Or.inr ⟨by simp, rfl⟩

/-- An enqueue changes nothing but the queue, the closer and the bell. -/
theorem Moves.frame (h : Moves runtime expired s item stage s' stage') :
    s'.capacity = s.capacity ∧ s'.refusing = s.refusing ∧ s'.producerGone = s.producerGone ∧
      s'.consumerGone = s.consumerGone := by
  cases h with
  | strands => simp
  | settles => simp
  | _ => exact ⟨rfl, rfl, rfl, rfl⟩

end
end RowBridge.SendStage
