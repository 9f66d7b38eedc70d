import ODataService.Failure
import ODataService.Log

/-!
# Actions

Handling a request reads and changes a state and may fail. An `Action` is a function of the state
that gives the next state, whether it succeeds or fails; what was done before a failure stays done.

The state of a running service is a `World`: the state of its record store, the number of
identifiers handed out and the log.
-/

namespace ODataService

/-- An action on a state that may fail. -/
abbrev Action (ω α : Type) := ExceptT Failure (StateM ω) α

namespace Action

variable {ω α : Type}

def fail (f : Failure) : Action ω α := throw f

/-- Refuses the request. -/
def reject (r : Rejection) : Action ω α := throw (.rejected r)

/-- An action that a protocol layer may refuse. -/
def ofRejection : Except Rejection α → Action ω α
  | .ok a => pure a
  | .error r => reject r

/-- An action whose result is known. -/
def ofResult : Except Failure α → Action ω α
  | .ok a => pure a
  | .error f => fail f

/-- Runs an action: its result and the next state. -/
def exec (a : Action ω α) (w : ω) : Except Failure α × ω := StateT.run (ExceptT.run a) w

end Action

/-- The state of a running service. -/
structure World (σ : Type) where
  store : σ
  /-- How many identifiers were handed out. -/
  issued : Nat := 0
  log : List LogEntry := []

namespace World

variable {σ : Type}

/-- The width of a generated identifier. -/
def idWidth : Nat := 32

/-- The `n`th generated identifier: a number in hexadecimal digits. -/
def idText (n : Nat) : String := String.ofList (Text.hexDigits idWidth n)

/-- The world after one more identifier was handed out, and that identifier. -/
def issue (w : World σ) : String × World σ :=
  (idText (w.issued + 1), { w with issued := w.issued + 1 })

/-- The world with one more entry in its log. -/
def report (w : World σ) (level : Level) (channel : Channel) (message : String) : World σ :=
  { w with log := w.log ++ [⟨level, channel, message⟩] }

end World

namespace Action

variable {σ : Type}

/-- Hands out an identifier. -/
def newId : Action (World σ) String := modifyGet World.issue

/-- Writes an entry to the log. -/
def report (level : Level) (channel : Channel) (message : String) : Action (World σ) Unit :=
  modify fun w => w.report level channel message

end Action

end ODataService
