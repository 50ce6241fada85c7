/-
# `RowBridge.Proofs.Schedule.Simulation` — when one scheduler can do what another does

A run of a deployment is seen from outside as a script, the actions in their
order, and an outcome: what the polls gave, the reason of the closing, how often
source and mapper were called, and which failures were reported.  The steps of
the scheduler are not seen, nor how many of them there are.

A scheduler simulates another if it can follow it action by action, with as many
steps of its own in between as it likes, so that outcomes agree throughout
(`Simulates`).  It can then yield every outcome that the other can, at the same
pace (`Simulates.yields`):

    pace      when the scheduler has no step left to make
    anyhow    whenever
    settled   in the end
    prompt    in the end and before every action

At the prompt pace a script has one outcome at most (`Yields.unique`).
-/
import RowBridge.Proofs.Schedule.Deployment

namespace RowBridge.Schedule

variable {Row R σ σ' : Type}

/-- What can be seen of a stream and its scheduler. -/
structure Outcome (R : Type) where
  diary : List (Note R)
  reason : Option ClosureReason
  /-- Calls of the source and of the mapper. -/
  scans : Nat
  mapped : Nat
  /-- The failures reported, each with the statement it was reported for. -/
  failures : List (String × ScanError)

namespace Deployment

variable (H : Host (Invocation Row R) σ)

def outcome? (d : Deployment Row R σ) : Option (Outcome R) :=
  (d.job? H).map fun v =>
    { diary := v.diary
      reason := v.session.reason
      scans := v.stream.scan.scans
      mapped := v.stream.scan.mapped
      failures := (d.failures H).map fun failure => (failure.statement, failure.error) }

/-- Actions are made only when the scheduler rests. -/
def Prompt (d : Deployment Row R σ) : Turn Row → Prop
  | .act _ => d.AtRest H
  | .host => True

/-- The scheduler comes from one state to the other by itself. -/
def Waits (d d' : Deployment Row R σ) : Prop :=
  ∃ steps, play? (step? H) d (List.replicate steps .host) = some d'

variable {H} {d d' d'' : Deployment Row R σ}

theorem Waits.refl (d : Deployment Row R σ) : Waits H d d := ⟨0, rfl⟩

theorem Waits.step (hstep : d.step? H .host = some d') (h : Waits H d' d'') : Waits H d d'' := by
  obtain ⟨steps, hplay⟩ := h
  refine ⟨steps + 1, ?_⟩
  show (d.step? H .host).bind _ = _
  rw [hstep]
  exact hplay

theorem Waits.trans (h : Waits H d d') (h' : Waits H d' d'') : Waits H d d'' := by
  obtain ⟨steps, hplay⟩ := h
  obtain ⟨steps', hplay'⟩ := h'
  refine ⟨steps + steps', ?_⟩
  rw [← List.replicate_append_replicate, play?_append, hplay]
  exact hplay'

/-- Whatever can be done after waiting can be done with the waiting before it. -/
theorem Waits.before (h : Waits H d d') (turns : List (Turn Row)) :
    ∃ turns', play? (step? H) d turns' = play? (step? H) d' turns ∧
      turns'.filterMap Turn.action? = turns.filterMap Turn.action? ∧
      (Along (step? H) (Prompt H) d' turns → Along (step? H) (Prompt H) d turns') := by
  obtain ⟨steps, hplay⟩ := h
  refine ⟨List.replicate steps .host ++ turns, ?_, ?_, ?_⟩
  · rw [play?_append, hplay]
    rfl
  · rw [List.filterMap_append, List.filterMap_replicate_of_none rfl]
    rfl
  · intro hprompt
    refine Along.append (Along.of_forall ?_ d) hplay hprompt
    intro turn hturn
    cases List.eq_of_mem_replicate hturn
    exact fun _ => trivial

theorem Waits.along (h : Waits H d d') : ∃ turns, play? (step? H) d turns = some d' ∧
    turns.filterMap Turn.action? = [] ∧ Along (step? H) (Prompt H) d turns := by
  obtain ⟨turns, hplay, hscript, hprompt⟩ := h.before []
  exact ⟨turns, hplay, hscript, hprompt trivial⟩

/-- Two prompt runs of one script that come to rest come to the same. -/
theorem prompt_unique {turns : List (Turn Row)} : ∀ {turns' : List (Turn Row)}
    {d e e' : Deployment Row R σ},
    turns.filterMap Turn.action? = turns'.filterMap Turn.action? →
    play? (step? H) d turns = some e → Along (step? H) (Prompt H) d turns → e.AtRest H →
    play? (step? H) d turns' = some e' → Along (step? H) (Prompt H) d turns' → e'.AtRest H →
    e = e' := by
  -- a scheduler that can make a step makes it before anything else is done
  have hbusy : ∀ {d next : Deployment Row R σ} {p : Prop}, d.step? H .host = some next →
      d.AtRest H → p := fun hnext hrest => nomatch hnext.symm.trans hrest
  induction turns with
  | nil =>
      intro turns' d e e' hscript hplay _ hrest hplay' hprompt' hrest'
      cases hplay
      cases turns' with
      | nil => cases hplay'; rfl
      | cons turn' rest' =>
          cases turn' with
          | act action' => cases hscript
          | host =>
              obtain ⟨next, hnext, -⟩ := play?_cons hplay'
              exact hbusy hnext hrest
  | cons turn rest ih =>
      intro turns' d e e' hscript hplay hprompt hrest hplay' hprompt' hrest'
      obtain ⟨next, hnext, hlater⟩ := play?_cons hplay
      obtain ⟨hmove, hgoesOn⟩ := hprompt
      rw [hnext] at hgoesOn
      cases turns' with
      | nil =>
          cases hplay'
          cases turn with
          | act action => cases hscript
          | host => exact hbusy hnext hrest'
      | cons turn' rest' =>
          obtain ⟨next', hnext', hlater'⟩ := play?_cons hplay'
          obtain ⟨hmove', hgoesOn'⟩ := hprompt'
          rw [hnext'] at hgoesOn'
          cases turn with
          | host =>
              cases turn' with
              | act action' => exact hbusy hnext hmove'
              | host =>
                  cases hnext.symm.trans hnext'
                  have hsame : rest.filterMap Turn.action? = rest'.filterMap Turn.action? := hscript
                  exact ih hsame hlater hgoesOn hrest hlater' hgoesOn' hrest'
          | act action =>
              cases turn' with
              | host => exact hbusy hnext' hmove
              | act action' =>
                  have hsame := List.cons.inj hscript
                  cases hsame.1
                  cases hnext.symm.trans hnext'
                  exact ih hsame.2 hlater hgoesOn hrest hlater' hgoesOn' hrest'

end Deployment

/-! ## Paces -/

/-- When the scheduler has no step left to make. -/
inductive Pace
  | anyhow
  | settled
  | prompt

/-- What a pace asks of the turns from one state to another. -/
def Pace.Admits (H : Host (Invocation Row R) σ) (start : Deployment Row R σ)
    (turns : List (Turn Row)) (last : Deployment Row R σ) : Pace → Prop
  | anyhow => True
  | settled => last.AtRest H
  | prompt => last.AtRest H ∧ Along (Deployment.step? H) (Deployment.Prompt H) start turns

/-- A run with this script, made at this pace, can have this outcome. -/
def Yields (H : Host (Invocation Row R) σ) (pace : Pace) (stream : RowStream Row R)
    (script : List (Action Row)) (outcome : Outcome R) : Prop :=
  ∃ turns d, play? (Deployment.step? H) (.standing (.start stream)) turns = some d ∧
    turns.filterMap Turn.action? = script ∧
    pace.Admits H (.standing (.start stream)) turns d ∧ d.outcome? H = some outcome

section
variable {H : Host (Invocation Row R) σ} {stream : RowStream Row R} {script : List (Action Row)}
  {outcome outcome' : Outcome R}

/-- A script has one outcome at most if the scheduler is prompt. -/
theorem Yields.unique (h : Yields H .prompt stream script outcome)
    (h' : Yields H .prompt stream script outcome') : outcome = outcome' := by
  obtain ⟨turns, d, hplay, hscript, ⟨hrest, hprompt⟩, hd⟩ := h
  obtain ⟨turns', d', hplay', hscript', ⟨hrest', hprompt'⟩, hd'⟩ := h'
  have hsame := Deployment.prompt_unique (hscript.trans hscript'.symm) hplay hprompt hrest
    hplay' hprompt' hrest'
  rw [← hsame, hd] at hd'
  exact Option.some.inj hd'

/-- A run can go on until the scheduler rests, if the scheduler comes to rest. -/
theorem Yields.settle (h : Yields H .anyhow stream script outcome)
    (hrests : ∀ d, ∃ d' outcome', Deployment.Waits H d d' ∧ d'.AtRest H ∧
      d'.outcome? H = some outcome') :
    ∃ outcome', Yields H .settled stream script outcome' := by
  obtain ⟨turns, d, hplay, hscript, -, -⟩ := h
  obtain ⟨d', outcome', hwaits, hrest, houtcome⟩ := hrests d
  obtain ⟨later, hlater, hnone, -⟩ := hwaits.along
  refine ⟨outcome', turns ++ later, d', ?_, ?_, hrest, houtcome⟩
  · rw [play?_append, hplay]
    exact hlater
  · rw [List.filterMap_append, hscript, hnone, List.append_nil]

end

/-! ## Simulations -/

/-- One scheduler can follow another, action by action, and has come as far as it. -/
structure Simulates (H : Host (Invocation Row R) σ) (H' : Host (Invocation Row R) σ')
    (Rel : Deployment Row R σ → Deployment Row R σ' → Prop) : Prop where
  outcome : ∀ {d e}, Rel d e → d.outcome? H = e.outcome? H'
  act : ∀ {d d' e} {action : Action Row}, Rel d e → d.step? H (.act action) = some d' →
    ∃ e', e.step? H' (.act action) = some e' ∧ Rel d' e'
  host : ∀ {d d' e}, Rel d e → d.step? H .host = some d' →
    ∃ e', Deployment.Waits H' e e' ∧ Rel d' e'
  rest : ∀ {d e}, Rel d e → d.AtRest H →
    ∃ e', Deployment.Waits H' e e' ∧ Rel d e' ∧ e'.AtRest H'

section
variable {H : Host (Invocation Row R) σ} {H' : Host (Invocation Row R) σ'}
  {Rel : Deployment Row R σ → Deployment Row R σ' → Prop}

/-- The scheduler that follows can come to rest whenever the other has. -/
theorem Simulates.calm (hs : Simulates H H' Rel) {d : Deployment Row R σ}
    {e : Deployment Row R σ'} (h : Rel d e) :
    ∃ e', Deployment.Waits H' e e' ∧ Rel d e' ∧ (d.AtRest H → e'.AtRest H') := by
  by_cases hrest : d.AtRest H
  · obtain ⟨e', hwaits, hrel, hrest'⟩ := hs.rest h hrest
    exact ⟨e', hwaits, hrel, fun _ => hrest'⟩
  · exact ⟨e, .refl e, h, fun hcalm => absurd hcalm hrest⟩

/-- Every run can be followed, with the same actions and at the same pace. -/
theorem Simulates.run (hs : Simulates H H' Rel) {turns : List (Turn Row)} :
    ∀ {d d' : Deployment Row R σ} {e : Deployment Row R σ'}, Rel d e →
      play? (Deployment.step? H) d turns = some d' →
      ∃ turns' e', play? (Deployment.step? H') e turns' = some e' ∧
        turns'.filterMap Turn.action? = turns.filterMap Turn.action? ∧ Rel d' e' ∧
        ∀ pace : Pace, pace.Admits H d turns d' → pace.Admits H' e turns' e' := by
  -- before an action and in the end the follower comes to rest if the other has
  induction turns with
  | nil =>
      intro d d' e h hplay
      cases hplay
      obtain ⟨e', hwaits, hrel, hcalm⟩ := hs.calm h
      obtain ⟨turns', hplay', hscript, hprompt⟩ := hwaits.along
      refine ⟨turns', e', hplay', hscript, hrel, ?_⟩
      intro pace hpace
      cases pace with
      | anyhow => trivial
      | settled => exact hcalm hpace
      | prompt => exact ⟨hcalm hpace.1, hprompt⟩
  | cons turn rest ih =>
      intro d d' e h hplay
      obtain ⟨next, hnext, hlater⟩ := play?_cons hplay
      cases turn with
      | host =>
          obtain ⟨e₁, hwaits, hrel⟩ := hs.host h hnext
          obtain ⟨later, e', hplay', hscript, hrel', hpaces⟩ := ih hrel hlater
          obtain ⟨turns', hsame, hscript', hprompt⟩ := hwaits.before later
          refine ⟨turns', e', hsame.trans hplay', hscript'.trans hscript, hrel', ?_⟩
          intro pace hpace
          cases pace with
          | anyhow => trivial
          | settled => exact hpaces .settled hpace
          | prompt =>
              obtain ⟨hrest, -, halong⟩ := hpace
              rw [hnext] at halong
              obtain ⟨hrest', halong'⟩ := hpaces .prompt ⟨hrest, halong⟩
              exact ⟨hrest', hprompt halong'⟩
      | act action =>
          obtain ⟨e₁, hwaits, hrel, hcalm⟩ := hs.calm h
          obtain ⟨e₂, hact, hrel₂⟩ := hs.act hrel hnext
          obtain ⟨later, e', hplay', hscript, hrel', hpaces⟩ := ih hrel₂ hlater
          obtain ⟨turns', hsame, hscript', hprompt⟩ := hwaits.before (.act action :: later)
          have hafter : play? (Deployment.step? H') e₁ (.act action :: later) = some e' := by
            show (e₁.step? H' (.act action)).bind _ = _
            rw [hact]
            exact hplay'
          refine ⟨turns', e', hsame.trans hafter, ?_, hrel', ?_⟩
          · exact hscript'.trans (congrArg (action :: ·) hscript)
          · intro pace hpace
            cases pace with
            | anyhow => trivial
            | settled => exact hpaces .settled hpace
            | prompt =>
                obtain ⟨hrest, hcalmed, halong⟩ := hpace
                rw [hnext] at halong
                obtain ⟨hrest', halong'⟩ := hpaces .prompt ⟨hrest, halong⟩
                refine ⟨hrest', hprompt ⟨hcalm hcalmed, ?_⟩⟩
                rw [hact]
                exact halong'

/-- Whatever a run can have for an outcome, a run of a scheduler that follows can. -/
theorem Simulates.yields (hs : Simulates H H' Rel) {stream : RowStream Row R}
    (hstart : Rel (.standing (.start stream)) (.standing (.start stream))) {pace : Pace}
    {script : List (Action Row)} {outcome : Outcome R} (h : Yields H pace stream script outcome) :
    Yields H' pace stream script outcome := by
  obtain ⟨turns, d, hplay, hscript, hpace, hd⟩ := h
  obtain ⟨turns', e, hplay', hscript', hrel, hpaces⟩ := hs.run hstart hplay
  exact ⟨turns', e, hplay', hscript'.trans hscript, hpaces pace hpace,
    (hs.outcome hrel).symm.trans hd⟩

end

/-! ## Mirror images follow each other -/

section
variable {H : Host (Invocation Row R) σ} {H' : Host (Invocation Row R) σ'} {Same : σ → σ' → Prop}

theorem Mirrors.symm (hm : Mirrors H H' Same) : Mirrors H' H fun h' h => Same h h' where
  take := hm.take
  job? h := (hm.job? h).symm
  onJob f h := hm.onJob f h
  move? := by
    intro h' h hsame
    have hmove := hm.move? hsame
    generalize H.move? h = next, H'.move? h' = next' at hmove
    cases hmove with
    | none => exact .none
    | some hnext => exact .some hnext
  failures h := (hm.failures h).symm

theorem Mirrors.simulates (hm : Mirrors H H' Same) :
    Simulates H H' (Deployment.Mirrored Same) := by
  have hfollow : ∀ {d d' : Deployment Row R σ} {e : Deployment Row R σ'} {turn : Turn Row},
      d.Mirrored Same e → d.step? H turn = some d' →
      ∃ e', e.step? H' turn = some e' ∧ d'.Mirrored Same e' := by
    intro d d' e turn h hstep
    exact exists_of_rel_left (hm.step? h turn) hstep
  refine ⟨?_, hfollow, ?_, ?_⟩
  · intro d e h
    rw [Deployment.outcome?, Deployment.outcome?, hm.job?_eq h, hm.failures_eq h]
  · intro d d' e h hstep
    obtain ⟨e', hstep', hnext⟩ := hfollow h hstep
    exact ⟨e', .step hstep' (.refl e'), hnext⟩
  · intro d e h hrest
    exact ⟨e, .refl e, h, (hm.atRest_iff h).mp hrest⟩

/-- Mirror images have the same outcomes. -/
theorem Mirrors.yields_iff (hm : Mirrors H H' Same) {pace : Pace} {stream : RowStream Row R}
    {script : List (Action Row)} {outcome : Outcome R} :
    Yields H pace stream script outcome ↔ Yields H' pace stream script outcome :=
  ⟨hm.simulates.yields (.standing _), hm.symm.simulates.yields (.standing _)⟩

end

end RowBridge.Schedule
