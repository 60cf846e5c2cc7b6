import Parsing.Proofs.Combinators
import Parsing.Proofs.Lawful

namespace Parsing.Parser

open Eval

variable {α : Type} {ctx : Context} {s : State}

-- Each parser binds the ones behind it, down to one that gives nothing.
def nested (ps : List (Parser α)) : Parser (List α) :=
  ps.foldr (fun p rest => p.bind fun first => rest.map fun values => first :: values)
    (Parser.pure [])

theorem nested_cons (p : Parser α) (ps : List (Parser α)) :
    nested (p :: ps) = p.bind fun first => (nested ps).map fun values => first :: values := rfl

theorem nested_cons_apply (p : Parser α) (ps : List (Parser α)) (s : State) :
    (nested (p :: ps)).apply s = p.apply s >>= fun
      | .error e => pure (.error e)
      | .ok first => (nested ps).apply first.state >>= fun rest =>
        pure (first.before (rest.map (first.value.value :: ·))) := by
  rw [nested_cons, bind_apply]
  refine bind_congr fun r => ?_
  cases r with
  | error e => rfl
  | ok first => simp only [Parser.map, bind_assoc, pure_bind]

theorem nested_cons_returns_iff {p : Parser α} {ps : List (Parser α)} {r : Result (List α)} :
    ((nested (p :: ps)).apply s).Returns ctx r ↔
      (∃ e, (p.apply s).Returns ctx (.error e) ∧ r = .error e) ∨
      (∃ first rest, (p.apply s).Returns ctx (.ok first) ∧
        ((nested ps).apply first.state).Returns ctx rest ∧
        r = first.before (rest.map (first.value.value :: ·))) := by
  rw [nested_cons_apply]
  refine returns_bind_result_iff.trans (or_congr ?_ (exists_congr fun first => ?_))
  · simp only [returns_pure_iff]
  · simp only [returns_bind_iff, returns_pure_iff, exists_and_left]

-- The result of a sequence whose first parsers gave `values`, latest first, from the result of the
-- nest of all others.
def behind (start : Position) (consumed : Bool) (values : List α) :
    Result (List α) → Result (List α)
  | .ok r => .ok ⟨consumed || r.consumed,
      ⟨values.reverse ++ r.value.value, start, r.value.stop⟩, r.state, r.message⟩
  | .error e => .error { e with consumed := consumed || e.consumed }

theorem behind_cons (start : Position) (consumed : Bool) (values : List α) (first : Success α)
    (rest : Result (List α)) :
    behind start (consumed || first.consumed) (first.value.value :: values) rest =
      behind start consumed values
        (first.before (rest.map (first.value.value :: ·))) := by
  cases rest with
  | ok r => simp [behind, Success.before, Result.map, Parsed.map, Parsed.withStart, Bool.or_assoc]
  | error e => simp [behind, Success.before, Result.map, Bool.or_assoc]

theorem behind_first (first : Success α) (rest : Result (List α)) :
    behind first.value.start first.consumed [first.value.value] rest =
      first.before (rest.map (first.value.value :: ·)) := by
  have h := behind_cons first.value.start false [] first rest
  rw [Bool.false_or] at h
  rw [h]
  cases rest <;> rfl

-- Whatever the parsers before them gave, the others go on as their nest does.
theorem sequenceRest_eq (start : Position) (ps : List (Parser α)) (consumed : Bool)
    (values : List α) (s : State) :
    sequenceRest start ps consumed values s =
      (nested ps).apply s >>= fun rest => pure (behind start consumed values rest) := by
  induction ps generalizing consumed values s with
  | nil =>
    have hnested : (nested ([] : List (Parser α))).apply s = pure (stay [] s) := rfl
    rw [hnested, pure_bind, sequenceRest]
    simp only [behind, stay, Bool.or_false, List.append_nil]
  | cons p ps ih =>
    rw [nested_cons_apply, bind_assoc, sequenceRest]
    refine bind_congr fun r => ?_
    cases r with
    | error e =>
      rw [pure_bind]
      rfl
    | ok first => simp only [ih, behind_cons, bind_assoc, pure_bind]

theorem sequence_apply (ps : List (Parser α)) (s : State) :
    (sequence ps).apply s = (nested ps).apply s := by
  cases ps with
  | nil => rfl
  | cons p ps =>
    rw [nested_cons_apply]
    refine bind_congr fun r => ?_
    cases r with
    | error e => rfl
    | ok first => simp only [sequenceRest_eq, behind_first]

theorem sequence_returns_iff {ps : List (Parser α)} {r : Result (List α)} :
    ((sequence ps).apply s).Returns ctx r ↔ ((nested ps).apply s).Returns ctx r := by
  rw [sequence_apply]

-- A sequence is the nest: it gives the same result in every field, ends in the same fault and
-- writes the same records, at every state.
theorem sequence_eq_fold (ps : List (Parser α)) :
    sequence ps = ps.foldr
      (fun p rest => p.bind fun first => rest.map fun values => first :: values)
      (Parser.pure []) := by
  have hshown : (sequence ps).shown = (nested ps).shown := by
    cases ps with
    | nil => rfl
    | cons p ps => rfl
  change sequence ps = nested ps
  calc sequence ps = ⟨(sequence ps).apply, (sequence ps).shown⟩ := rfl
    _ = ⟨(nested ps).apply, (nested ps).shown⟩ := by rw [funext (sequence_apply ps), hshown]
    _ = nested ps := rfl

end Parsing.Parser
