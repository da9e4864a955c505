import NfcStack.Call.Basic
/-!
# Runs

A run is a list of moves: calls of users, and events that the controller reports without being asked.
Before the next move all that is in flight is delivered.
-/

namespace NfcStack

variable {σ : Type}

/-- An event that no request asked for joins the queue, unless nobody receives events. -/
def System.arrive (event : Event) (s : System σ) : System σ :=
  if s.receiver = .nobody then s else { s with queue := s.queue ++ [.event event] }

inductive Move where
  | call (call : Call)
  | event (event : Event)
  deriving DecidableEq, Repr

namespace Move

def run : Move → Op σ Answer
  | .call request => request.run
  | .event report => fun _ s => (.done, s.arrive report)

/-- Makes a move and delivers what is in flight after it. -/
def perform (move : Move) : Op σ Answer := do
  let answer ← move.run
  Op.attend
  return answer

def performAll : List Move → Op σ (List Answer)
  | [] => return []
  | move :: rest => do
    let answer ← move.perform
    let answers ← performAll rest
    return answer :: answers

end Move

end NfcStack
