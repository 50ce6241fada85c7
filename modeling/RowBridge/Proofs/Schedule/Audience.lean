/-
# `RowBridge.Proofs.Schedule.Audience` — what the listeners of a worker hear

A listener asks for one message at a time.  With at most 64 messages outstanding it
hears the oldest of them; with more it is told how many it has missed, all but the
latest 64, and hears the oldest of these next.  Reading all that is outstanding in one
go is reading it bit by bit (`Broadcast.hears_drain`).

    move      party        what it is
    serve     any          a move of one of the parties to the worker
    listen    a listener   it begins to listen, under a name of its own
    hear      a listener   it reads what comes next

What a listener has heard gives an account of what was sent since it began to listen
(`Heard.Tells`): every message stands for itself, and every notice of a lag for as many
messages as it says.

**Proved here** (`statuses_and_failures`), for any number of tasks, callers and
listeners, and every schedule: what a status may become; that the failures that were
sent are those of the failed tasks, one each; and what each listener has heard of them.
The jobs are of any kind that keeps its statement (`Steady`), for the failure names the
statement at the end; streams do (`Invocation.steady`), and so does `PlainJob`.
-/
import RowBridge.Proofs.Schedule.Lifecycle

namespace RowBridge.Schedule

variable {J μ α : Type}

/-! ## Reading bit by bit -/

namespace Heard

/-- What was heard gives an account of these messages, in the order in which they were
sent. -/
inductive Tells : List (Heard α) → List α → Prop
  | nothing : Tells [] []
  | message {first : α} {heard : List (Heard α)} {rest : List α} :
      Tells heard rest → Tells (.message first :: heard) (first :: rest)
  | lagged {missed : List α} {heard : List (Heard α)} {rest : List α} : missed ≠ [] →
      Tells heard rest → Tells (.lagged missed.length :: heard) (missed ++ rest)

/-- The message that was heard, if it is one. -/
def message? : Heard α → Option α
  | .message said => some said
  | .lagged _ => none

/-- How many messages it stands for. -/
def count : Heard α → Nat
  | .message _ => 1
  | .lagged missed => missed

/-- What comes next when these messages are outstanding. -/
def next? (outstanding : List α) : Option (Heard α) :=
  let missed := outstanding.length - Broadcast.capacity
  if missed = 0 then outstanding.head?.map .message else some (.lagged missed)

/-- What comes next when these messages are outstanding, and those that are left. -/
inductive Reads : Heard α → List α → List α → Prop
  | message {first : α} {rest : List α} : (first :: rest).length ≤ Broadcast.capacity →
      Reads (.message first) (first :: rest) rest
  | lagged {missed rest : List α} : missed ≠ [] → rest.length = Broadcast.capacity →
      Reads (.lagged missed.length) (missed ++ rest) rest

section
variable {read : Heard α} {heard heard' : List (Heard α)} {past past' before after : List α}

theorem Tells.append (h : Tells heard past) (h' : Tells heard' past') :
    Tells (heard ++ heard') (past ++ past') := by
  induction h with
  | nothing => exact h'
  | message _ ih => exact .message ih
  | lagged hmissed _ ih =>
      rw [List.append_assoc]
      exact .lagged hmissed ih

/-- Messages are heard in order and once. -/
theorem Tells.sublist (h : Tells heard past) : (heard.filterMap message?).Sublist past := by
  induction h with
  | nothing => exact List.Sublist.refl _
  | @message first heard rest _ ih =>
      show (first :: heard.filterMap message?).Sublist (first :: rest)
      exact ih.cons_cons first
  | @lagged missed heard rest _ _ ih =>
      show (heard.filterMap message?).Sublist (missed ++ rest)
      exact ih.trans (List.sublist_append_right missed rest)

theorem Reads.exists_tells (h : Reads read before after) :
    ∃ now, before = now ++ after ∧ Tells [read] now ∧ now.length = read.count := by
  cases h with
  | @message first => exact ⟨[first], rfl, .message .nothing, rfl⟩
  | @lagged missed _ hmissed =>
      refine ⟨missed, rfl, ?_, rfl⟩
      have h : Tells [.lagged missed.length] (missed ++ []) := .lagged hmissed .nothing
      rwa [List.append_nil] at h

theorem next?_message {first : α} {rest : List α}
    (hfew : (first :: rest).length ≤ Broadcast.capacity) :
    next? (first :: rest) = some (.message first) :=
  if_pos (Nat.sub_eq_zero_of_le hfew)

theorem next?_lagged (hmany : before.length - Broadcast.capacity ≠ 0) :
    next? before = some (.lagged (before.length - Broadcast.capacity)) :=
  if_neg hmany

theorem next?_eq_none : next? before = none ↔ before = [] := by
  refine ⟨?_, fun h => h ▸ rfl⟩
  intro h
  cases before with
  | nil => rfl
  | cons first rest =>
      unfold next? at h
      dsimp only at h
      split at h
      · cases h
      · cases h

/-- The oldest message comes next unless more than 64 are outstanding, and then all but
64 are passed over. -/
theorem reads_of_next? (h : next? before = some read) :
    Reads read before (before.drop read.count) := by
  by_cases hfew : before.length - Broadcast.capacity = 0
  · cases before with
    | nil => cases h
    | cons first rest =>
        have hlen := Nat.le_of_sub_eq_zero hfew
        cases (next?_message hlen).symm.trans h
        exact .message hlen
  · cases (next?_lagged hfew).symm.trans h
    generalize hmissed : before.length - Broadcast.capacity = missed at hfew
    have htake : (before.take missed).length = missed := by
      rw [List.length_take]
      omega
    have hdrop : (before.drop missed).length = Broadcast.capacity := by
      rw [List.length_drop]
      omega
    have hsome : before.take missed ≠ [] := by
      intro hnil
      rw [hnil] at htake
      exact hfew htake.symm
    have hreads := Reads.lagged hsome hdrop
    rwa [htake, List.take_append_drop] at hreads

example : next? (List.range 66) = some (.lagged 2) := rfl

end
end Heard

namespace Broadcast

/-! ### Positions -/

section
variable {name other : String} {position position' : Nat} {listeners : List (String × Nat)}

theorem lookup_place_self : (place name position listeners).lookup name = some position := by
  induction listeners with
  | nil => exact List.lookup_cons_self
  | cons listener rest ih =>
      rw [place]
      split
      next heq =>
        rw [heq]
        exact List.lookup_cons_self
      next hne =>
        rw [List.lookup_cons, beq_eq_false_iff_ne.mpr (Ne.symm hne)]
        exact ih

theorem lookup_place_of_ne (hne : other ≠ name) :
    (place name position listeners).lookup other = listeners.lookup other := by
  have hfalse : (other == name) = false := beq_eq_false_iff_ne.mpr hne
  induction listeners with
  | nil =>
      rw [place, List.lookup_cons, hfalse]
  | cons listener rest ih =>
      rw [place, List.lookup_cons]
      split
      next heq => rw [List.lookup_cons, heq, hfalse]
      next => rw [List.lookup_cons, ih]

theorem place_place :
    place name position' (place name position listeners) = place name position' listeners := by
  induction listeners with
  | nil => exact if_pos rfl
  | cons listener rest ih =>
      rw [place, place]
      split
      next heq => exact if_pos heq
      next hne => exact (if_neg hne).trans (congrArg _ ih)

theorem place_of_lookup (h : listeners.lookup name = some position) :
    place name position listeners = listeners := by
  induction listeners with
  | nil => cases h
  | cons listener rest ih =>
      rw [List.lookup_cons] at h
      rw [place]
      split
      next heq =>
        rw [heq, beq_self_eq_true] at h
        cases h
        rfl
      next hne =>
        rw [beq_eq_false_iff_ne.mpr (Ne.symm hne)] at h
        rw [ih h]

end

/-- The messages a listener has not read. -/
def outstanding (b : Broadcast α) (name : String) : List α :=
  match b.listeners.lookup name with
  | none => []
  | some position => b.sent.drop position

/-- A channel one of whose listeners has come this far. -/
def placed (b : Broadcast α) (name : String) (position : Nat) : Broadcast α :=
  { b with listeners := place name position b.listeners }

/-- A listener reads what comes next. -/
def hear? (b : Broadcast α) (name : String) : Option (Heard α × Broadcast α) :=
  (b.listeners.lookup name).bind fun position =>
    (Heard.next? (b.sent.drop position)).map fun read =>
      (read, b.placed name (position + read.count))

/-- A listener reads bit by bit. -/
inductive Hears (name : String) : Broadcast α → List (Heard α) → Broadcast α → Prop
  | silent {b : Broadcast α} : Hears name b [] b
  | hears {b b' b'' : Broadcast α} {read : Heard α} {heard : List (Heard α)} :
      b.hear? name = some (read, b') → Hears name b' heard b'' → Hears name b (read :: heard) b''

section
variable {b b' : Broadcast α} {name : String} {position position' : Nat} {read : Heard α}

theorem outstanding_of_lookup (h : b.listeners.lookup name = some position) :
    b.outstanding name = b.sent.drop position := by
  rw [outstanding, h]

/-- What a listener has behind it, and what it has not read. -/
theorem sent_eq {messages : List α} (h : b.listeners.lookup name = some messages.length)
    (hwithin : messages <+: b.sent) : b.sent = messages ++ b.outstanding name := by
  rw [outstanding_of_lookup h]
  exact (List.prefix_iff_eq_append.mp hwithin).symm

theorem placed_placed :
    (b.placed name position).placed name position' = b.placed name position' := by
  rw [placed, placed, place_place]
  rfl

theorem placed_of_lookup (h : b.listeners.lookup name = some position) :
    b.placed name position = b := by
  rw [placed, place_of_lookup h]

theorem hear?_of_next? (hposition : b.listeners.lookup name = some position)
    (h : Heard.next? (b.sent.drop position) = some read) :
    b.hear? name = some (read, b.placed name (position + read.count)) := by
  rw [hear?, hposition, Option.bind_some, h, Option.map_some]

/-- One reading takes a listener on by what it was told of. -/
theorem reads_of_hear? (h : b.hear? name = some (read, b')) :
    ∃ position, b.listeners.lookup name = some position ∧
      b' = b.placed name (position + read.count) ∧
      Heard.Reads read (b.outstanding name) (b'.outstanding name) := by
  obtain ⟨position, hposition, hmap⟩ := Option.bind_eq_some_iff.mp h
  obtain ⟨_, hnext, ⟨⟩⟩ := Option.map_eq_some_iff.mp hmap
  refine ⟨position, hposition, rfl, ?_⟩
  have hafter : (b.placed name (position + read.count)).outstanding name =
      (b.sent.drop position).drop read.count := by
    rw [outstanding_of_lookup lookup_place_self, List.drop_drop]
    rfl
  rw [outstanding_of_lookup hposition, hafter]
  exact Heard.reads_of_next? hnext

/-- A listener can read unless nothing is outstanding. -/
theorem hear?_eq_none : b.hear? name = none ↔ b.outstanding name = [] := by
  rw [hear?, outstanding]
  cases b.listeners.lookup name with
  | none => exact iff_of_true rfl rfl
  | some position =>
      rw [Option.bind_some, Option.map_eq_none_iff]
      exact Heard.next?_eq_none

/-! ### All at once -/

/-- With no more than 64 messages outstanding a listener hears them all. -/
theorem hears_kept {kept : List α} (hfew : kept.length ≤ capacity) : ∀ {b : Broadcast α}
    {position : Nat}, b.listeners.lookup name = some position → b.sent.drop position = kept →
      Hears name b (kept.map .message) (b.placed name (position + kept.length)) := by
  induction kept with
  | nil =>
      intro b position hposition _
      rw [List.length_nil, Nat.add_zero, placed_of_lookup hposition]
      exact .silent
  | cons first rest ih =>
      intro b position hposition hkept
      have hread : b.hear? name = some (.message first, b.placed name (position + 1)) :=
        hear?_of_next? hposition (hkept ▸ Heard.next?_message hfew)
      have hrest : (b.placed name (position + 1)).sent.drop (position + 1) = rest := by
        show b.sent.drop (position + 1) = rest
        rw [← List.drop_drop, hkept]
        rfl
      have hlater := ih (Nat.le_of_succ_le hfew) lookup_place_self hrest
      rw [placed_placed, Nat.add_assoc, Nat.add_comm 1] at hlater
      exact .hears hread hlater

theorem heard_of_few {messages : List α} (hfew : messages.length ≤ capacity) :
    heard messages = messages.map .message := by
  unfold heard
  rw [Nat.sub_eq_zero_of_le hfew]
  rfl

theorem heard_of_many {messages : List α} (hmany : messages.length - capacity ≠ 0) :
    heard messages = .lagged (messages.length - capacity) ::
      (messages.drop (messages.length - capacity)).map .message :=
  if_neg hmany

/-- Reading all that is outstanding is reading bit by bit until nothing is. -/
theorem hears_drain (hposition : b.listeners.lookup name = some position)
    (hle : position ≤ b.sent.length) :
    ∃ b' heard, b.drain name = some (b', heard) ∧ Hears name b heard b' ∧
      b'.hear? name = none := by
  refine ⟨b.placed name b.sent.length, heard (b.sent.drop position), ?_, ?_, ?_⟩
  · rw [drain, hposition]
    rfl
  · have hlen : (b.sent.drop position).length = b.sent.length - position := List.length_drop
    by_cases hfew : (b.sent.drop position).length - capacity = 0
    · have hall := hears_kept (Nat.le_of_sub_eq_zero hfew) hposition rfl
      rw [hlen, Nat.add_sub_cancel' hle] at hall
      rw [heard_of_few (Nat.le_of_sub_eq_zero hfew)]
      exact hall
    · have hread := hear?_of_next? hposition (Heard.next?_lagged hfew)
      rw [heard_of_many hfew]
      -- the notice comes first, and leaves as many messages as are heard without one
      refine .hears hread ?_
      generalize hmissed : (b.sent.drop position).length - capacity = missed at hfew ⊢
      have hkept : ((b.sent.drop position).drop missed).length ≤ capacity := by
        rw [List.length_drop]
        omega
      have hall := hears_kept (b := b.placed name (position + missed)) hkept lookup_place_self
        List.drop_drop.symm
      have hend : position + missed + ((b.sent.drop position).drop missed).length =
          b.sent.length := by
        rw [List.length_drop]
        omega
      rwa [placed_placed, hend] at hall
  · rw [hear?_eq_none, outstanding_of_lookup lookup_place_self]
    exact List.drop_length

end
end Broadcast

/-! ## A worker and its listeners -/

/-- A worker in use, and what its listeners have heard so far. -/
structure Audience (J : Type) where
  service : Service J
  /-- Who heard what, in the order in which it was heard. -/
  heard : List (String × Heard TaskFailure)

/-- A move of a party to a worker, or of a listener. -/
inductive AudienceMove (J μ : Type)
  | serve (move : WorkerMove J μ)
  | listen (name : String)
  | hear (name : String)

namespace Audience

def start (settings : WorkerSettings) : Audience J := ⟨.start settings, []⟩

def worker (a : Audience J) : Worker J := a.service.worker

def failures (a : Audience J) : Broadcast TaskFailure := a.worker.failures

/-- What this listener has heard. -/
def heardBy (a : Audience J) (name : String) : List (Heard TaskFailure) :=
  (a.heard.filter fun entry => entry.1 == name).map (·.2)

/-- A worker whose channel is this one now. -/
def tuned (a : Audience J) (failures : Broadcast TaskFailure) : Audience J :=
  { a with service := { a.service with worker := { a.worker with failures := failures } } }

/-- A worker of whose listeners one has heard something more. -/
def noted (a : Audience J) (name : String) (read : Heard TaskFailure) : Audience J :=
  { a with heard := a.heard ++ [(name, read)] }

/-- One move; a name is the name of one listener only. -/
def step? [ScanJob J] (act? : J → μ → Option J) (a : Audience J) :
    AudienceMove J μ → Option (Audience J)
  | .serve move => (a.service.step? act? move).map fun service => { a with service := service }
  | .listen name =>
      match a.failures.listeners.lookup name with
      | some _ => none
      | none => some (a.tuned (a.failures.listen name))
  | .hear name =>
      (a.failures.hear? name).map fun (read, failures) => (a.tuned failures).noted name read

/-- What one move can do. -/
inductive Does [ScanJob J] (act? : J → μ → Option J) (a : Audience J) :
    AudienceMove J μ → Audience J → Prop
  | serves {move : WorkerMove J μ} {service : Service J} :
      a.service.step? act? move = some service →
      Does act? a (.serve move) { a with service := service }
  | listens {name : String} : a.failures.listeners.lookup name = none →
      Does act? a (.listen name) (a.tuned (a.failures.placed name a.failures.sent.length))
  | hears {name : String} {position : Nat} {read : Heard TaskFailure} :
      a.failures.listeners.lookup name = some position →
      Heard.Reads read (a.failures.outstanding name)
        ((a.failures.placed name (position + read.count)).outstanding name) →
      Does act? a (.hear name)
        ((a.tuned (a.failures.placed name (position + read.count))).noted name read)

/-- The listener began to listen when these messages had been sent, and what it has
heard gives an account of those that it has read since. -/
def Attends (a : Audience J) (name : String) (before : List TaskFailure) : Prop :=
  ∃ past, a.failures.listeners.lookup name = some (before ++ past).length ∧
    before ++ past <+: a.failures.sent ∧ Heard.Tells (a.heardBy name) past

/-- What the worker says is so, and nobody has heard anything without listening. -/
structure Sound [ScanJob J] (a : Audience J) : Prop where
  told : a.worker.Told
  silent : ∀ name, a.failures.listeners.lookup name = none → a.heardBy name = []

section
variable {a : Audience J} {name other : String} {read : Heard TaskFailure}
  {before : List TaskFailure}

theorem heardBy_noted_self : (a.noted name read).heardBy name = a.heardBy name ++ [read] := by
  have htrue : (name == name) = true := beq_self_eq_true name
  simp only [heardBy, noted, List.filter_append, List.map_append, List.filter_cons, htrue]
  rfl

theorem heardBy_noted_of_ne (hne : name ≠ other) :
    (a.noted other read).heardBy name = a.heardBy name := by
  have hfalse : (other == name) = false := beq_eq_false_iff_ne.mpr (Ne.symm hne)
  simp only [heardBy, noted, List.filter_append, List.filter_cons, hfalse, Bool.false_eq_true,
    if_false, List.filter_nil, List.append_nil]

theorem Attends.sent_eq (ha : a.Attends name before) :
    ∃ past, a.failures.sent = before ++ past ++ a.failures.outstanding name ∧
      Heard.Tells (a.heardBy name) past := by
  obtain ⟨past, hposition, hwithin, htells⟩ := ha
  refine ⟨past, ?_, htells⟩
  exact Broadcast.sent_eq hposition hwithin

end

section
variable [ScanJob J] {act? : J → μ → Option J} {a a' : Audience J} {move : AudienceMove J μ}
  {name : String} {before : List TaskFailure} {i : Nat}

theorem does_of_step? (hstep : a.step? act? move = some a') : Does act? a move a' := by
  cases move with
  | serve move =>
      obtain ⟨service, hservice, rfl⟩ := Option.map_eq_some_iff.mp hstep
      exact .serves hservice
  | listen name =>
      dsimp only [step?] at hstep
      split at hstep
      next => cases hstep
      next hnew =>
        cases hstep
        exact .listens hnew
  | hear name =>
      obtain ⟨⟨read, failures⟩, hhear, rfl⟩ := Option.map_eq_some_iff.mp hstep
      obtain ⟨position, hposition, rfl, hreads⟩ := Broadcast.reads_of_hear? hhear
      exact .hears hposition hreads

/-- A move of a party, or of a listener, which leaves everything else of the worker. -/
theorem Does.worker_cases (hd : Does act? a move a') :
    (∃ m, a.service.step? act? m = some a'.service) ∨
      ∃ failures, a'.worker = { a.worker with failures := failures } ∧
        failures.sent = a.failures.sent := by
  cases hd with
  | serves hservice => exact Or.inl ⟨_, hservice⟩
  | listens => exact Or.inr ⟨_, rfl, rfl⟩
  | hears => exact Or.inr ⟨_, rfl, rfl⟩

/-- A party sends failures, and moves no listener. -/
theorem Sound.grows (h : a.Sound) {m : WorkerMove J μ} {service : Service J}
    (hservice : a.service.step? act? m = some service) :
    service.worker.failures.listeners = a.failures.listeners ∧
      a.failures.sent <+: service.worker.failures.sent := by
  rcases Service.failsAt_of_step h.told.follows hservice with ⟨hsame, -⟩ | ⟨j, failure, hsent, -⟩
  · rw [hsame]
    exact ⟨rfl, List.prefix_refl _⟩
  · rw [hsent]
    exact ⟨rfl, List.prefix_append _ _⟩

theorem Sound.step (hsteady : Steady act?) (h : a.Sound)
    (hstep : a.step? act? move = some a') : a'.Sound := by
  have hd := does_of_step? hstep
  refine ⟨?_, ?_⟩
  · rcases hd.worker_cases with ⟨m, hservice⟩ | ⟨failures, hworker, hsent⟩
    · exact Service.told_of_step hsteady h.told hservice
    · obtain ⟨told, hinforms⟩ := h.told.informs
      rw [hworker]
      exact ⟨h.told.follows, told, hinforms.mono hsent (fun _ _ => Iff.rfl) fun _ _ => id⟩
  · intro name hnone
    cases hd with
    | serves hservice =>
        refine h.silent name ?_
        rw [← (h.grows hservice).1]
        exact hnone
    | @listens other hnew =>
        refine h.silent name ?_
        by_cases hne : name = other
        · exact hne ▸ hnew
        · exact (Broadcast.lookup_place_of_ne hne).symm.trans hnone
    | @hears other position read hposition =>
        have hne : name ≠ other := by
          rintro rfl
          exact nomatch hnone.symm.trans Broadcast.lookup_place_self
        rw [heardBy_noted_of_ne hne]
        exact h.silent name ((Broadcast.lookup_place_of_ne hne).symm.trans hnone)

/-- A listener that reads goes on giving an account, and so do the others. -/
theorem Sound.attends_of_step (h : a.Sound) (hstep : a.step? act? move = some a')
    (ha : a.Attends name before) : a'.Attends name before := by
  obtain ⟨past, hposition, hwithin, htells⟩ := ha
  cases does_of_step? hstep with
  | serves hservice =>
      obtain ⟨hlisteners, hgrows⟩ := h.grows hservice
      exact ⟨past, (congrArg _ hlisteners).trans hposition, hwithin.trans hgrows, htells⟩
  | @listens other hnew =>
      have hne : name ≠ other := by
        rintro rfl
        exact nomatch hnew.symm.trans hposition
      exact ⟨past, (Broadcast.lookup_place_of_ne hne).trans hposition, hwithin, htells⟩
  | @hears other position read hother hreads =>
      by_cases hne : name = other
      · subst hne
        cases hposition.symm.trans hother
        -- what was read now was outstanding, and lies behind the listener from now on
        obtain ⟨now, hnow, htold, hcount⟩ := hreads.exists_tells
        have hsent := Broadcast.sent_eq hposition hwithin
        refine ⟨past ++ now, ?_, ?_, ?_⟩
        · have hlen : (before ++ (past ++ now)).length = (before ++ past).length + read.count := by
            rw [← List.append_assoc, ← hcount]
            exact List.length_append
          exact Broadcast.lookup_place_self.trans (congrArg some hlen.symm)
        · show before ++ (past ++ now) <+: a.failures.sent
          rw [hsent, hnow, ← List.append_assoc, ← List.append_assoc]
          exact List.prefix_append _ _
        · rw [heardBy_noted_self]
          exact htells.append htold
      · refine ⟨past, (Broadcast.lookup_place_of_ne hne).trans hposition, hwithin, ?_⟩
        rw [heardBy_noted_of_ne hne]
        exact htells

theorem Sound.attends_of_listen (h : a.Sound) (hstep : a.step? act? (.listen name) = some a') :
    a'.Attends name a.failures.sent := by
  cases does_of_step? hstep with
  | listens hnew =>
      refine ⟨[], ?_, ?_, ?_⟩
      · rw [List.append_nil]
        exact Broadcast.lookup_place_self
      · rw [List.append_nil]
        exact List.prefix_refl _
      · show Heard.Tells (a.heardBy name) []
        rw [h.silent name hnew]
        exact .nothing

theorem sound_start (settings : WorkerSettings) : (start settings : Audience J).Sound :=
  ⟨Service.told_start settings, fun _ _ => rfl⟩

/-! ### What becomes of a task -/

theorem Sound.goes_of_step (h : a.Sound) (hstep : a.step? act? move = some a')
    {view : Supervision} (hview : a.worker.supervision? i = some view) :
    ∃ view', a'.worker.supervision? i = some view' ∧ view.status.Goes view'.status := by
  rcases (does_of_step? hstep).worker_cases with ⟨m, hservice⟩ | ⟨failures, hworker, -⟩
  · obtain ⟨view', hview', -, hgoes⟩ := Service.goes_of_step h.told.follows hservice hview
    exact ⟨view', hview', hgoes⟩
  · rw [hworker]
    exact ⟨view, hview, .stays⟩

theorem pending_of_step (hstep : a.step? act? move = some a')
    (hnew : a.worker.supervision? i = none) {view' : Supervision}
    (hview' : a'.worker.supervision? i = some view') : view'.status = .pending := by
  rcases (does_of_step? hstep).worker_cases with ⟨m, hservice⟩ | ⟨failures, hworker, -⟩
  · rw [Service.fresh_of_step hservice hnew hview']
    rfl
  · rw [hworker] at hview'
    exact nomatch hnew.symm.trans hview'

theorem Sound.failsAt_of_step (h : a.Sound) (hstep : a.step? act? move = some a') {text : String}
    (hf : a.worker.FailsAt i text) : a'.worker.FailsAt i text := by
  rcases (does_of_step? hstep).worker_cases with ⟨m, hservice⟩ | ⟨failures, hworker, -⟩
  · rcases Service.failsAt_of_step h.told.follows hservice with
      ⟨-, hfails⟩ | ⟨j, failure, -, -, -, hfails⟩
    · exact (hfails i text).mpr hf
    · exact (hfails i text).mpr (Or.inl hf)
  · rw [hworker]
    exact hf

section
variable {b : Audience J} {later : List (AudienceMove J μ)}

/-- A final status is final. -/
theorem Sound.status_of_play (hsteady : Steady act?) (h : a.Sound)
    (hplay : play? (step? act?) a later = some b) {view : Supervision}
    (hview : a.worker.supervision? i = some view) (hf : view.status.isFinished = true) :
    ∃ view', b.worker.supervision? i = some view' ∧ view'.status = view.status := by
  refine (play?_preserves (P := fun b : Audience J => b.Sound ∧
    ∃ view', b.worker.supervision? i = some view' ∧ view'.status = view.status) ?_
    ⟨h, view, hview, rfl⟩ hplay).2
  rintro u u' move ⟨hu, view', hview', hstatus⟩ hstep
  obtain ⟨next, hnext, hgoes⟩ := hu.goes_of_step hstep hview'
  exact ⟨hu.step hsteady hstep, next, hnext,
    (hgoes.eq_of_isFinished (hstatus ▸ hf)).trans hstatus⟩

/-- A task that is bound to fail ends so. -/
theorem Sound.failed_of_play (hsteady : Steady act?) (h : a.Sound)
    (hplay : play? (step? act?) a later = some b) {text : String} (hf : a.worker.FailsAt i text)
    {view : Supervision} (hview : b.worker.supervision? i = some view)
    (hfinished : view.status.isFinished = true) : view.status = .failed text := by
  -- on the schedule: a failure is not taken back, whether or not its status is written
  have hlast : b.Sound ∧ b.worker.FailsAt i text :=
    play?_preserves (P := fun b : Audience J => b.Sound ∧ b.worker.FailsAt i text)
      (fun hu hstep => ⟨hu.1.step hsteady hstep, hu.1.failsAt_of_step hstep hu.2⟩) ⟨h, hf⟩ hplay
  have hfails := (Worker.failsAt_iff hview text).mp hlast.2
  rcases (hlast.1.told.follows i view hview).fails_cases hfails with hfailed | ⟨hrunning, -⟩
  · exact hfailed
  · rw [hrunning] at hfinished
    cases hfinished

theorem Sound.attends_of_play (hsteady : Steady act?) (h : a.Sound)
    (hplay : play? (step? act?) a later = some b) (ha : a.Attends name before) :
    b.Attends name before :=
  (play?_preserves (P := fun b : Audience J => b.Sound ∧ b.Attends name before)
    (fun hu hstep => ⟨hu.1.step hsteady hstep, hu.1.attends_of_step hstep hu.2⟩) ⟨h, ha⟩ hplay).2

theorem Sound.of_play (hsteady : Steady act?) (h : a.Sound)
    (hplay : play? (step? act?) a later = some b) : b.Sound :=
  play?_preserves (fun hu hstep => hu.step hsteady hstep) h hplay

end

/-! ### What is sent, and what is heard -/

/-- A task that has failed is among those of which a failure was sent. -/
theorem exists_failure_of_failed {told : List (Nat × TaskFailure)} (h : a.Sound)
    (hinforms : a.worker.Informs told) {view : Supervision} {text : String}
    (hview : a.worker.supervision? i = some view) (hfailed : view.status = .failed text) :
    ∃ failure, (i, failure) ∈ told ∧ failure.error.text = text := by
  have hfrom := hinforms.all i text ⟨view, hview, Or.inl hfailed⟩
  obtain ⟨⟨_, failure⟩, hin, rfl⟩ := List.mem_map.mp hfrom
  have hfails := (Worker.failsAt_iff hview _).mp (hinforms.so _ failure hin).1
  rcases (h.told.follows _ view hview).fails_cases hfails with hsame | ⟨hrunning, -⟩
  · exact ⟨failure, hin, TaskStatus.failed.inj (hsame.symm.trans hfailed)⟩
  · cases hfailed.symm.trans hrunning

/-- A failure that was sent is one of a task that has failed with its text or is about
to, and says whose it is. -/
theorem exists_task_of_failure {told : List (Nat × TaskFailure)} (h : a.Sound)
    (hinforms : a.worker.Informs told) {failure : TaskFailure} (hin : (i, failure) ∈ told) :
    ∃ task view, a.worker.task? i = some task ∧ task.supervision = some view ∧
      failure.task = task.id ∧ failure.statement = ScanJob.statement task.job ∧
      (view.status = .failed failure.error.text ∨
        (view.status = .running ∧ view.stage = .concluding (.failed failure.error.text))) := by
  obtain ⟨⟨view, hview, hfails⟩, hlabel⟩ := hinforms.so i failure hin
  obtain ⟨task, htask, hsupervision⟩ := Worker.supervision?_eq_some.mp hview
  rw [Worker.label?, htask] at hlabel
  obtain ⟨hid, hstatement⟩ := Prod.mk.inj (Option.some.inj hlabel)
  exact ⟨task, view, htask, hsupervision, hid.symm, hstatement.symm,
    (h.told.follows i view hview).fails_cases hfails⟩

/-- A listener with messages outstanding can hear, and hears the next of them. -/
theorem exists_step?_hear (act? : J → μ → Option J) (hsome : a.failures.outstanding name ≠ []) :
    ∃ a', a.step? act? (.hear name) = some a' := by
  obtain ⟨read, hread⟩ := Option.ne_none_iff_exists'.mp (mt Broadcast.hear?_eq_none.mp hsome)
  exact ⟨_, congrArg (Option.map _) hread⟩

theorem reads_of_hear (hstep : a.step? act? (.hear name) = some a') :
    ∃ read, a'.heardBy name = a.heardBy name ++ [read] ∧
      Heard.Reads read (a.failures.outstanding name) (a'.failures.outstanding name) := by
  cases does_of_step? hstep with
  | hears hposition hreads => exact ⟨_, heardBy_noted_self, hreads⟩

/-- **Statuses and failures.**  After any schedule:

* a status goes from pending to running and from there to a final one, or from pending
  to cancelled; a new task is pending, and a final status is final;
* the failures that were sent are those of the tasks that have failed or are about to,
  one each, with the name and the statement of the task, and with the text of its status;
* what a listener has heard gives an account of what was sent since it began to listen,
  in this order and without repetitions, but for what is outstanding;
* a listener with messages outstanding can hear the next of them: the oldest, or, if
  they are more than 64, that it has missed all but the latest 64. -/
theorem statuses_and_failures (hsteady : Steady act?) {settings : WorkerSettings}
    {moves : List (AudienceMove J μ)}
    (hplay : play? (step? act?) (start settings) moves = some a) :
    (∀ i view, a.worker.supervision? i = some view →
      (∀ move a', a.step? act? move = some a' →
        ∃ view', a'.worker.supervision? i = some view' ∧ view.status.Goes view'.status) ∧
      (view.status.isFinished = true → ∀ later b, play? (step? act?) a later = some b →
        ∃ view', b.worker.supervision? i = some view' ∧ view'.status = view.status)) ∧
    (∀ i, a.worker.supervision? i = none → ∀ move a' view', a.step? act? move = some a' →
      a'.worker.supervision? i = some view' → view'.status = .pending) ∧
    (∃ told : List (Nat × TaskFailure),
      told.map (·.2) = a.failures.sent ∧ (told.map (·.1)).Nodup ∧
      (∀ i view text, a.worker.supervision? i = some view → view.status = .failed text →
        ∃ failure, (i, failure) ∈ told ∧ failure.error.text = text) ∧
      ∀ i failure, (i, failure) ∈ told →
        (∃ task view, a.worker.task? i = some task ∧ task.supervision = some view ∧
          failure.task = task.id ∧ failure.statement = ScanJob.statement task.job ∧
          (view.status = .failed failure.error.text ∨
            (view.status = .running ∧
              view.stage = .concluding (.failed failure.error.text)))) ∧
        ∀ later b view, play? (step? act?) a later = some b →
          b.worker.supervision? i = some view → view.status.isFinished = true →
            view.status = .failed failure.error.text) ∧
    (∀ early name late u, moves = early ++ .listen name :: late →
      play? (step? act?) (start settings) early = some u →
        ∃ past, a.failures.sent = u.failures.sent ++ past ++ a.failures.outstanding name ∧
          Heard.Tells (a.heardBy name) past ∧
          ((a.heardBy name).filterMap Heard.message?).Sublist past) ∧
    ∀ name, (a.failures.outstanding name ≠ [] → ∃ a', a.step? act? (.hear name) = some a') ∧
      ∀ a', a.step? act? (.hear name) = some a' →
        ∃ read, a'.heardBy name = a.heardBy name ++ [read] ∧
          Heard.Reads read (a.failures.outstanding name) (a'.failures.outstanding name) := by
  have h : a.Sound := (sound_start settings).of_play hsteady hplay
  refine ⟨?_, ?_, ?_, ?_, ?_⟩
  · intro i view hview
    refine ⟨fun move a' hstep => h.goes_of_step hstep hview, ?_⟩
    intro hfinished later b hlater
    exact h.status_of_play hsteady hlater hview hfinished
  · intro i hnew move a' view' hstep hview'
    exact pending_of_step hstep hnew hview'
  · obtain ⟨told, hinforms⟩ := h.told.informs
    refine ⟨told, hinforms.sent, hinforms.once, ?_, ?_⟩
    · intro i view text hview hfailed
      exact exists_failure_of_failed h hinforms hview hfailed
    · intro i failure hin
      refine ⟨exists_task_of_failure h hinforms hin, ?_⟩
      intro later b view hlater hview hfinished
      exact h.failed_of_play hsteady hlater (hinforms.so i failure hin).1 hview hfinished
  · rintro early name late u rfl hearly
    obtain ⟨other, hother, hrest⟩ := exists_of_play?_append hplay
    cases hearly.symm.trans hother
    obtain ⟨next, hlisten, hlate⟩ := play?_cons hrest
    have hu : u.Sound := (sound_start settings).of_play hsteady hearly
    have ha := (hu.step hsteady hlisten).attends_of_play hsteady hlate
      (hu.attends_of_listen hlisten)
    obtain ⟨past, hsent, htells⟩ := ha.sent_eq
    exact ⟨past, hsent, htells, htells.sublist⟩
  · intro name
    exact ⟨exists_step?_hear act?, fun a' hstep => reads_of_hear hstep⟩

end

/-- A listener is there from the start.  A job fails, the listener hears of it, and the
status is written. -/
def heardBeforeWritten : List (AudienceMove PlainJob Unit) :=
  [.listen "early", .serve (.submit "scan" (.fresh "SELECT 1" .nothing none
      (.failed (.plain .queryFailed "no such table")))),
    .serve (.supervise 0), .serve (.supervise 0), .serve (.supervise 0), .serve (.act 0 ()),
    .serve (.supervise 0), .hear "early", .serve (.supervise 0)]

/-- The task has failed, once and for all, and the listener has heard all of it. -/
theorem statuses_and_failures_of_one : ∃ a : Audience PlainJob,
    play? (step? PlainJob.act?) (start Service.patient) heardBeforeWritten = some a ∧
    (∀ later b, play? (step? PlainJob.act?) a later = some b →
      ∃ view, b.worker.supervision? 0 = some view ∧
        view.status = .failed "Scan query_failed error: no such table") ∧
    (∃ failure : TaskFailure, a.failures.sent = [failure] ∧
      failure.error.text = "Scan query_failed error: no such table" ∧
      a.heardBy "early" = [.message failure]) ∧
    ∃ past, a.failures.sent = past ++ a.failures.outstanding "early" ∧
      Heard.Tells (a.heardBy "early") past := by
  obtain ⟨hstatus, -, -, hheard, -⟩ := @statuses_and_failures _ _ _ PlainJob.act? _
    PlainJob.steady Service.patient heardBeforeWritten rfl
  refine ⟨_, rfl, ?_, ⟨_, rfl, rfl, rfl⟩, ?_⟩
  · exact (hstatus 0 _ rfl).2 rfl
  · obtain ⟨past, hsent, htells, -⟩ := hheard [] "early" _ _ rfl rfl
    exact ⟨past, hsent, htells⟩

end Audience
end RowBridge.Schedule
