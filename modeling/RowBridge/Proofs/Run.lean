/-
# `RowBridge.Proofs.Run` — schedules and what holds along them

Several parties act on one state, in an order nobody controls.  Each machine of
this theory is a function `step? : σ → μ → Option σ`: a state and a move give
the next state, or nothing where the move is not possible.  A schedule is a list
of moves (`play?`), or an unending sequence of them (`Course`), and "every
interleaving" is "every schedule".

* What every step preserves, every schedule preserves (`play?_preserves`,
  `Along.preserves`, `Course.preserves`), and so it is with what every step adds to
  the schedule so far (`play?_history`).
* A rule whose breach is never made good again is kept by every schedule that ends
  well (`Along.of_escaped`).
* A rank that drops again and again until a goal is reached reaches it
  (`Course.eventually`).
* A schedule followed by a course is a course (`Course.exists_of_play?`).
-/

namespace RowBridge

variable {σ μ : Type} {step? : σ → μ → Option σ}

/-! ## Finite schedules -/

/-- The state after some moves, if each of them was possible when its turn came. -/
def play? (step? : σ → μ → Option σ) : σ → List μ → Option σ
  | s, [] => some s
  | s, move :: rest => (step? s move).bind fun next => play? step? next rest

theorem play?_cons {s t : σ} {move : μ} {rest : List μ}
    (h : play? step? s (move :: rest) = some t) :
    ∃ next, step? s move = some next ∧ play? step? next rest = some t :=
  Option.bind_eq_some_iff.mp h

/-- What one step preserves holds after any schedule. -/
theorem play?_preserves {P : σ → Prop}
    (hstep : ∀ {s t : σ} {move : μ}, P s → step? s move = some t → P t) {moves : List μ} :
    ∀ {s t : σ}, P s → play? step? s moves = some t → P t := by
  induction moves with
  | nil =>
      intro s t hs h
      cases h
      exact hs
  | cons move rest ih =>
      intro s t hs h
      obtain ⟨next, hnext, hrest⟩ := play?_cons h
      exact ih (hstep hs hnext) hrest

theorem play?_append {moves rest : List μ} : ∀ {s : σ},
    play? step? s (moves ++ rest) = (play? step? s moves).bind fun t => play? step? t rest := by
  induction moves with
  | nil => intro s; rfl
  | cons move moves ih =>
      intro s
      show (step? s move).bind _ = ((step? s move).bind _).bind _
      cases step? s move with
      | none => rfl
      | some next => exact ih

/-- A schedule may be cut anywhere. -/
theorem exists_of_play?_append {moves rest : List μ} {s t : σ}
    (h : play? step? s (moves ++ rest) = some t) :
    ∃ u, play? step? s moves = some u ∧ play? step? u rest = some t := by
  rw [play?_append] at h
  exact Option.bind_eq_some_iff.mp h

/-- What holds of a state and of the schedule that led to it, and is kept when a
move is made, holds after every schedule. -/
theorem play?_history {P : List μ → σ → Prop} {s : σ} (hstart : P [] s)
    (hstep : ∀ {made : List μ} {u u' : σ} {move : μ}, play? step? s made = some u → P made u →
      step? u move = some u' → P (made ++ [move]) u') {moves : List μ} {t : σ}
    (hplay : play? step? s moves = some t) : P moves t := by
  -- on what is still to come, for every schedule up to now
  have hrest : ∀ (rest made : List μ) (u : σ), play? step? s made = some u → P made u →
      play? step? u rest = some t → P (made ++ rest) t := by
    intro rest
    induction rest with
    | nil =>
        intro made u _ hu h
        cases h
        rw [List.append_nil]
        exact hu
    | cons move rest ih =>
        intro made u hmade hu h
        obtain ⟨next, hnext, hlater⟩ := play?_cons h
        have hmade' : play? step? s (made ++ [move]) = some next := by
          rw [play?_append, hmade]
          exact congrArg (Option.bind · some) hnext
        rw [List.append_cons]
        exact ih (made ++ [move]) next hmade' (hstep hmade hu hnext) hlater
  exact hrest moves [] s rfl hstart hplay

/-- Moves that are always possible can be made one after the other. -/
theorem play?_map_of_step {α : Type} {f : α → μ} {g : σ → α → σ}
    (hstep : ∀ s a, step? s (f a) = some (g s a)) (as : List α) :
    ∀ s : σ, play? step? s (as.map f) = some (as.foldl g s) := by
  induction as with
  | nil => intro s; rfl
  | cons a as ih =>
      intro s
      show (step? s (f a)).bind _ = _
      rw [hstep]
      exact ih (g s a)

/-- Every move of a schedule is made in a state in which it is allowed. -/
def Along (step? : σ → μ → Option σ) (allowed : σ → μ → Prop) : σ → List μ → Prop
  | _, [] => True
  | s, move :: rest =>
      allowed s move ∧
        match step? s move with
        | some next => Along step? allowed next rest
        | none => True

/-- Moves that are allowed in every state are allowed when their turn comes. -/
theorem Along.of_forall {allowed : σ → μ → Prop} {moves : List μ}
    (h : ∀ move ∈ moves, ∀ s, allowed s move) : ∀ s : σ, Along step? allowed s moves := by
  induction moves with
  | nil => intro s; trivial
  | cons move rest ih =>
      intro s
      refine ⟨h move List.mem_cons_self s, ?_⟩
      split
      next next hnext => exact ih (fun later hlater => h later (List.mem_cons_of_mem move hlater)) next
      · trivial

/-- What every allowed step preserves holds after every schedule of them. -/
theorem Along.preserves {allowed : σ → μ → Prop} {P : σ → Prop}
    (hstep : ∀ {s t : σ} {move : μ}, P s → allowed s move → step? s move = some t → P t)
    {moves : List μ} :
    ∀ {s t : σ}, Along step? allowed s moves → P s → play? step? s moves = some t → P t := by
  induction moves with
  | nil =>
      intro s t _ hs h
      cases h
      exact hs
  | cons move rest ih =>
      intro s t halong hs h
      obtain ⟨next, hnext, hrest⟩ := play?_cons h
      obtain ⟨hmove, hlater⟩ := halong
      rw [hnext] at hlater
      exact ih hlater (hstep hs hmove hnext) hrest

/-- A schedule of allowed moves may be followed by another. -/
theorem Along.append {allowed : σ → μ → Prop} {moves rest : List μ} {t : σ} :
    ∀ {s : σ}, Along step? allowed s moves → play? step? s moves = some t →
      Along step? allowed t rest → Along step? allowed s (moves ++ rest) := by
  induction moves with
  | nil =>
      intro s _ h hrest
      cases h
      exact hrest
  | cons move moves ih =>
      rintro s ⟨hmove, hlater⟩ h hrest
      obtain ⟨next, hnext, hplay⟩ := play?_cons h
      rw [hnext] at hlater
      refine ⟨hmove, ?_⟩
      rw [hnext]
      exact ih hlater hplay hrest

/-- The rest of a schedule of allowed moves is one. -/
theorem Along.rest {allowed : σ → μ → Prop} {moves rest : List μ} {t : σ} :
    ∀ {s : σ}, Along step? allowed s (moves ++ rest) → play? step? s moves = some t →
      Along step? allowed t rest := by
  induction moves with
  | nil =>
      intro s halong h
      cases h
      exact halong
  | cons move moves ih =>
      rintro s ⟨-, hlater⟩ h
      obtain ⟨next, hnext, hplay⟩ := play?_cons h
      rw [hnext] at hlater
      exact ih hlater hplay

/-- A schedule that keeps two rules keeps both at every move. -/
theorem Along.and {allowed allowed' : σ → μ → Prop} {moves : List μ} :
    ∀ {s : σ}, Along step? allowed s moves → Along step? allowed' s moves →
      Along step? (fun s move => allowed s move ∧ allowed' s move) s moves := by
  induction moves with
  | nil => intro s _ _; exact trivial
  | cons move rest ih =>
      rintro s ⟨hmove, hrest⟩ ⟨hmove', hrest'⟩
      refine ⟨⟨hmove, hmove'⟩, ?_⟩
      split
      next next hnext =>
        rw [hnext] at hrest hrest'
        exact ih hrest hrest'
      · exact trivial

/-- What holds after a schedule and did not hold before it came to hold in one of
its moves, made in a state in which the invariants held. -/
theorem Along.exists_turn {allowed : σ → μ → Prop} {I P : σ → Prop}
    (hstep : ∀ {s t : σ} {move : μ}, I s → allowed s move → step? s move = some t → I t)
    {moves : List μ} :
    ∀ {s t : σ}, Along step? allowed s moves → I s → play? step? s moves = some t → ¬ P s → P t →
      ∃ early move late u u', moves = early ++ move :: late ∧ play? step? s early = some u ∧
        step? u move = some u' ∧ allowed u move ∧ I u ∧ ¬ P u ∧ P u' := by
  induction moves with
  | nil =>
      intro s t _ _ h hs ht
      cases h
      exact absurd ht hs
  | cons move rest ih =>
      intro s t halong hI h hs ht
      obtain ⟨next, hnext, hrest⟩ := play?_cons h
      obtain ⟨hmove, hlater⟩ := halong
      rw [hnext] at hlater
      by_cases hP : P next
      · exact ⟨[], move, rest, s, next, rfl, rfl, hnext, hmove, hI, hs, hP⟩
      · obtain ⟨early, turn, late, u, u', rfl, hearly, hturn⟩ :=
          ih hlater (hstep hI hmove hnext) hrest hP ht
        refine ⟨move :: early, turn, late, u, u', rfl, ?_, hturn⟩
        show (step? s move).bind _ = _
        rw [hnext]
        exact hearly

/-- A schedule keeps a rule if whoever breaks it gets into states that are never left
again, and it does not end in one of these. -/
theorem Along.of_escaped {allowed allowed' : σ → μ → Prop} {I D : σ → Prop}
    (hI : ∀ {s t : σ} {move : μ}, I s → allowed s move → step? s move = some t → I t)
    (hD : ∀ {s t : σ} {move : μ}, I s → allowed s move → step? s move = some t →
      D s ∨ ¬ allowed' s move → D t) {moves : List μ} :
    ∀ {s t : σ}, Along step? allowed s moves → I s → play? step? s moves = some t → ¬ D t →
      Along step? allowed' s moves := by
  induction moves with
  | nil => intro s t _ _ _ _; exact trivial
  | cons move rest ih =>
      intro s t halong hs h ht
      obtain ⟨next, hnext, hrest⟩ := play?_cons h
      obtain ⟨hmove, hlater⟩ := halong
      rw [hnext] at hlater
      have hs' := hI hs hmove hnext
      refine ⟨?_, ?_⟩
      · refine Classical.byContradiction fun hbroken => ?_
        have hdoomed : I t ∧ D t :=
          Along.preserves (P := fun u => I u ∧ D u)
            (fun hu hallowed hstep =>
              ⟨hI hu.1 hallowed hstep, hD hu.1 hallowed hstep (Or.inl hu.2)⟩)
            hlater ⟨hs', hD hs hmove hnext (Or.inr hbroken)⟩ hrest
        exact ht hdoomed.2
      · rw [hnext]
        exact ih hlater hs' hrest ht

/-- Two answers that look the same are related by looking the same. -/
theorem rel_of_map_eq {α β γ : Type} {f : α → γ} {g : β → γ} {a : Option α} {b : Option β}
    (h : a.map f = b.map g) : Option.Rel (fun x y => f x = g y) a b := by
  cases a with
  | none =>
      cases b with
      | none => exact .none
      | some y => cases h
  | some x =>
      cases b with
      | none => cases h
      | some y => exact .some (Option.some.inj h)

section
variable {α β γ δ : Type} {Q : α → β → Prop} {a : Option α} {b : Option β}

/-- One of two related answers tells what the other is like. -/
theorem exists_of_rel_left (h : Option.Rel Q a b) {x : α} (ha : a = some x) :
    ∃ y, b = some y ∧ Q x y := by
  cases h with
  | none => cases ha
  | some hQ => cases ha; exact ⟨_, rfl, hQ⟩

theorem exists_of_rel_right (h : Option.Rel Q a b) {y : β} (hb : b = some y) :
    ∃ x, a = some x ∧ Q x y := by
  cases h with
  | none => cases hb
  | some hQ => cases hb; exact ⟨_, rfl, hQ⟩

theorem none_iff_of_rel (h : Option.Rel Q a b) : a = none ↔ b = none := by
  cases h with
  | none => exact ⟨fun _ => rfl, fun _ => rfl⟩
  | some => exact ⟨nofun, nofun⟩

/-- What is made of related answers is related. -/
theorem rel_map {Q' : γ → δ → Prop} {f : α → γ} {g : β → δ} (h : Option.Rel Q a b)
    (hfg : ∀ {x : α} {y : β}, Q x y → Q' (f x) (g y)) : Option.Rel Q' (a.map f) (b.map g) := by
  cases h with
  | none => exact .none
  | some hQ => exact .some (hfg hQ)

end

/-- Two machines that go step by step from related states to related states come to
related states by schedules that say the same. -/
theorem play?_rel {σ' μ' ν : Type} {step'? : σ' → μ' → Option σ'} {Rel : σ → σ' → Prop}
    {f : μ → ν} {g : μ' → ν}
    (hstep : ∀ {s : σ} {s' : σ'} {move : μ} {move' : μ'}, Rel s s' → f move = g move' →
      Option.Rel Rel (step? s move) (step'? s' move')) {moves : List μ} :
    ∀ {moves' : List μ'} {s : σ} {s' : σ'}, Rel s s' → moves.map f = moves'.map g →
      Option.Rel Rel (play? step? s moves) (play? step'? s' moves') := by
  induction moves with
  | nil =>
      intro moves' s s' hs hsame
      cases List.map_eq_nil_iff.mp hsame.symm
      exact .some hs
  | cons move rest ih =>
      intro moves' s s' hs hsame
      obtain ⟨move', rest', rfl, hmove, hrest⟩ := List.map_eq_cons_iff.mp hsame.symm
      show Option.Rel Rel ((step? s move).bind _) ((step'? s' move').bind _)
      have hnext := hstep hs hmove.symm
      generalize step? s move = next, step'? s' move' = next' at hnext
      cases hnext with
      | none => exact .none
      | some hnext => exact ih hnext hrest.symm

instance decidableAlong (allowed : σ → μ → Prop) [∀ s move, Decidable (allowed s move)] :
    ∀ (s : σ) (moves : List μ), Decidable (Along step? allowed s moves)
  | _, [] => isTrue trivial
  | s, move :: rest =>
      match h : step? s move with
      | some next =>
          have := decidableAlong allowed next rest
          decidable_of_iff (allowed s move ∧ Along step? allowed next rest) (by simp [Along, h])
      | none => decidable_of_iff (allowed s move) (by simp [Along, h])

/-! ## Unending schedules -/

/-- A schedule that never ends, with the states it passes through. -/
structure Course (step? : σ → μ → Option σ) where
  state : Nat → σ
  move : Nat → μ
  next : ∀ n, step? (state n) (move n) = some (state (n + 1))

namespace Course

/-- Something holds at some moment from now on. -/
def Eventually (goal : Nat → Prop) (start : Nat) : Prop :=
  ∃ n, start ≤ n ∧ goal n

/-- Something happens again and again. -/
def Recurs (event : Nat → Prop) : Prop :=
  ∀ start, Eventually event start

variable (c : Course step?)

theorem preserves {P : σ → Prop}
    (hstep : ∀ {s t : σ} {move : μ}, P s → step? s move = some t → P t) (h₀ : P (c.state 0)) :
    ∀ n, P (c.state n) := by
  intro n
  induction n with
  | zero => exact h₀
  | succ n ih => exact hstep ih (c.next n)

/-- A relation that every step of the course respects holds between any two of
its states. -/
theorem relates {Q : σ → σ → Prop} (hrefl : ∀ s, Q s s)
    (htrans : ∀ {s t u : σ}, Q s t → Q t u → Q s u)
    (hstep : ∀ n, Q (c.state n) (c.state (n + 1))) {m n : Nat} (hmn : m ≤ n) :
    Q (c.state m) (c.state n) := by
  induction hmn with
  | refl => exact hrefl _
  | step _ ih => exact htrans ih (hstep _)

/-- A rank that drops again and again, as long as the goal has not been reached,
gets there. -/
theorem eventually {goal : Nat → Prop} (rank : Nat → Nat)
    (hdrop : ∀ n, ¬ goal n → ∃ m, n ≤ m ∧ (goal m ∨ rank m < rank n)) (start : Nat) :
    Eventually goal start := by
  -- on the rank, for every moment at once: it need not drop in the very next move
  generalize hr : rank start = r
  induction r using Nat.strongRecOn generalizing start with
  | ind r ih =>
      by_cases hgoal : goal start
      · exact ⟨start, Nat.le_refl _, hgoal⟩
      obtain ⟨m, hm, hm' | hlt⟩ := hdrop start hgoal
      · exact ⟨m, hm, hm'⟩
      · obtain ⟨n, hn, hn'⟩ := ih (rank m) (hr ▸ hlt) m rfl
        exact ⟨n, Nat.le_trans hm hn, hn'⟩

/-! ### Schedules that go on for ever -/

/-- The course with one move before it. -/
def cons (s : σ) (move : μ) (h : step? s move = some (c.state 0)) : Course step? where
  state
    | 0 => s
    | n + 1 => c.state n
  move
    | 0 => move
    | n + 1 => c.move n
  next
    | 0 => h
    | n + 1 => c.next n

/-- What always happens from some moment on happens again and again. -/
theorem Recurs.of_later {event : Nat → Prop} (k : Nat) (h : ∀ n, event (k + n)) : Recurs event :=
  fun start => ⟨k + start, Nat.le_add_left start k, h start⟩

/-- A schedule that leads to the first state of a course goes on as this course. -/
theorem exists_of_play? {allowed : σ → μ → Prop} {t : σ} (hc : c.state 0 = t)
    (hallowed : ∀ n, allowed (c.state n) (c.move n)) {moves : List μ} :
    ∀ {s : σ}, play? step? s moves = some t → Along step? allowed s moves →
      ∃ c' : Course step?, c'.state 0 = s ∧ (∀ n, allowed (c'.state n) (c'.move n)) ∧
        ∀ n, c'.state (moves.length + n) = c.state n ∧
          c'.move (moves.length + n) = c.move n := by
  induction moves with
  | nil =>
      intro s hplay _
      cases hplay
      refine ⟨c, hc, hallowed, ?_⟩
      intro n
      rw [List.length_nil, Nat.zero_add]
      exact ⟨rfl, rfl⟩
  | cons move rest ih =>
      intro s hplay halong
      obtain ⟨next, hnext, hrest⟩ := play?_cons hplay
      obtain ⟨hmove, hlater⟩ := halong
      rw [hnext] at hlater
      obtain ⟨c', hc', hallowed', htail⟩ := ih hrest hlater
      refine ⟨c'.cons s move (hc' ▸ hnext), rfl, ?_, ?_⟩
      · intro n
        cases n with
        | zero => exact hmove
        | succ n => exact hallowed' n
      · intro n
        rw [List.length_cons, Nat.add_right_comm]
        exact htail n

end Course
end RowBridge
