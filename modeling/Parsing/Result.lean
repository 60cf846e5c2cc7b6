import Parsing.State

namespace Parsing

-- The message is for whoever rejects the success afterwards.
structure Success (α : Type) where
  consumed : Bool
  value : Parsed α
  state : State
  message : Message

structure Failure where
  consumed : Bool
  message : Message

inductive Result (α : Type) where
  | ok (success : Success α)
  | error (failure : Failure)

namespace Result

def consumed : Result α → Bool
  | .ok r => r.consumed
  | .error e => e.consumed

def message : Result α → Message
  | .ok r => r.message
  | .error e => e.message

def withConsumed (consumed : Bool) : Result α → Result α
  | .ok r => .ok { r with consumed }
  | .error e => .error { e with consumed }

def consume (r : Result α) : Result α := r.withConsumed true

def markNonConsuming (r : Result α) : Result α := r.withConsumed false

def map (f : α → β) : Result α → Result β
  | .ok r => .ok ⟨r.consumed, r.value.map f, r.state, r.message⟩
  | .error e => .error e

def tryMap (f : α → Fallible β) : Result α → Fallible (Result β)
  | .ok r => do
    let value ← f r.value.value
    return .ok ⟨r.consumed, r.value.map fun _ => value, r.state, r.message⟩
  | .error e => return .error e

def mapMessage (f : Message → Message) : Result α → Result α
  | .ok r => .ok { r with message := f r.message }
  | .error e => .error { e with message := f e.message }

-- A consuming result is the branch that was taken and no longer one of several candidates: its
-- own message is the more precise one.
def label (r : Result α) (label : Value) : Result α :=
  if r.consumed then r else r.mapMessage fun m => m.expecting label

def withStart (r : Result α) (start : Position) : Result α :=
  match r with
  | .ok r => .ok { r with value := r.value.withStart start }
  | .error e => .error e

-- The value of a success or the message of a failure.
def toExcept : Result α → Except Message α
  | .ok r => .ok r.value.value
  | .error e => .error e.message

-- The value of a success; there is none to get from a failure.
def get : Result α → Fallible α
  | .ok r => return r.value.value
  | .error e => do throw (.rejected (← e.message.text))

end Result

-- A result of which nothing is known yet: it has neither value nor message to give, and no span
-- that a new start could change.
structure Undecided where
deriving DecidableEq

namespace Undecided

def map (_ : Undecided) (_ : Value → Fallible Value) : Fallible Undecided := throw .unimplemented

def toExcept (_ : Undecided) : Fallible (Except Message Value) := throw .unimplemented

def get (_ : Undecided) : Fallible Value := throw .unimplemented

def withStart (r : Undecided) (_ : Position) : Undecided := r

end Undecided

end Parsing
