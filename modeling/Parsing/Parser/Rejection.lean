import Parsing.Parser.Basic

namespace Parsing.Parser

variable {α β : Type}

-- The labels are those of the success, the rest describes the rejected value.
def rejection [ToValue α] (r : Success α) (s : State) : Fallible Message := do
  let text ← (toValue r.value.value).text
  return { r.message with offset := s.offset, pos := r.value.start, found := .text text }

-- A rejected value fails without consuming, so that the next alternative still gets its turn.
def filter [ToValue α] (p : Parser α) (test : α → Fallible Bool) : Parser α where
  apply s := do
    match ← p.apply s with
    | .error e => return .error e
    | .ok r =>
      if ← test r.value.value then return .ok r
      return .error ⟨false, ← rejection r s⟩

def filterNot [ToValue α] (p : Parser α) (test : α → Fallible Bool) : Parser α :=
  p.filter fun a => return !(← test a)

-- Filters and maps at once: values without an image are rejected.
def collect [ToValue α] (p : Parser α) (f : α → Fallible (Option β)) : Parser β where
  apply s := do
    match ← p.apply s with
    | .error e => return .error e
    | .ok r =>
      match ← f r.value.value with
      | some b => return .ok ⟨r.consumed, ⟨b, r.value.start, r.value.stop⟩, r.state, r.message⟩
      | none => return .error ⟨false, ← rejection r s⟩

-- Succeeds exactly where `p` fails, and never consumes.
def notFollowedBy [ToValue α] (p : Parser α) : Parser Unit where
  apply s := do
    match ← p.apply s with
    | .error _ => return stay () s
    | .ok r =>
      let matched ← (toValue r.value.value).text
      return .error ⟨false, ⟨s.offset, r.value.start, .text matched, [.str ("not " ++ matched)]⟩⟩

end Parsing.Parser
