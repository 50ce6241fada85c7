/-
# `RowBridge.Scenario.Settle` — letting everything come to rest

A scripted run moves one party at a time: after each entry of the script
everything that was set in motion comes to rest before the next.  `settle` makes
moves while there are any, up to a bound that each kind of run chooses so large
that it is never reached.
-/

namespace RowBridge.Scenario

/-- Makes moves until none is possible, or the bound is reached. -/
def settle {σ : Type} (move? : σ → Option σ) : Nat → σ → σ
  | 0, s => s
  | bound + 1, s =>
      match move? s with
      | none => s
      | some next => settle move? bound next

def firstMove? {σ : Type} (moves : List (σ → Option σ)) (s : σ) : Option σ :=
  moves.findSome? fun move? => move? s

/-- Runs a script: each entry changes the state and gives one answer. -/
def runScript {Step Answer σ : Type} (step : σ → Step → σ × Answer) : σ → List Step →
    σ × List Answer
  | s, [] => (s, [])
  | s, entry :: rest =>
      let moved := step s entry
      let others := runScript step moved.1 rest
      (others.1, moved.2 :: others.2)

end RowBridge.Scenario
