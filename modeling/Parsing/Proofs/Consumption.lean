import Parsing.Proofs.Invariant.Grammar

namespace Parsing

open Eval

variable {ctx : Context} {α β : Type} {s : State}

-- The flag says whether the success got past `s`.
structure Success.Exact (s : State) (r : Success α) : Prop where
  consumed_iff : r.consumed = true ↔ s.offset < r.state.offset
  state_eq : r.consumed = false → r.state = s

-- The flag says whether the failure lies past `s`.
structure Failure.Exact (s : State) (e : Failure) : Prop where
  consumed_iff : e.consumed = true ↔ s.offset < e.message.offset
  offset_eq : e.consumed = false → e.message.offset = s.offset

def Result.Exact (s : State) : Result α → Prop
  | .ok r => r.Exact s
  | .error e => e.Exact s

namespace Success.Exact

theorem stay (a : α) (s : State) : Exact s ⟨false, ⟨a, s.pos, s.pos⟩, s, .empty⟩ where
  consumed_iff := by simp
  state_eq _ := rfl

theorem andThen {first : Success α} {second : Success β} (h : first.Exact s)
    (h' : second.Exact first.state) (start : Position) :
    Exact s { second with
      consumed := first.consumed || second.consumed
      value := second.value.withStart start } := by
  cases hfirst : first.consumed with
  | false =>
    have hstate := h.state_eq hfirst
    exact ⟨hstate ▸ h'.consumed_iff, fun hsecond => (h'.state_eq hsecond).trans hstate⟩
  | true =>
    have hlt := h.consumed_iff.mp hfirst
    refine ⟨iff_of_true rfl ?_, nofun⟩
    cases hsecond : second.consumed with
    | false => exact h'.state_eq hsecond ▸ hlt
    | true => exact Nat.lt_trans hlt (h'.consumed_iff.mp hsecond)

end Success.Exact

namespace Failure.Exact

theorem here {m : Message} (h : m.offset = s.offset) : Exact s ⟨false, m⟩ where
  consumed_iff := by simp [h]
  offset_eq _ := h

theorem of_unexpected {expected : List Value} {m : Message}
    (h : (s.unexpected expected).Returns ctx m) : Exact s ⟨false, m⟩ := by
  obtain ⟨_, rfl⟩ | ⟨_, _, _, _, _, _, _, rfl⟩ := State.unexpected_returns_iff.mp h
  · exact here rfl
  · exact here rfl

theorem andThen {first : Success α} {e : Failure} (h : first.Exact s)
    (h' : e.Exact first.state) : Exact s { e with consumed := first.consumed || e.consumed } := by
  cases hfirst : first.consumed with
  | false =>
    have hstate := h.state_eq hfirst
    exact ⟨hstate ▸ h'.consumed_iff, fun he => hstate ▸ h'.offset_eq he⟩
  | true =>
    have hlt := h.consumed_iff.mp hfirst
    refine ⟨iff_of_true rfl ?_, nofun⟩
    cases he : e.consumed with
    | false =>
      have heq := h'.offset_eq he
      simp only
      omega
    | true =>
      have hpast := h'.consumed_iff.mp he
      simp only
      omega

end Failure.Exact

namespace Invariant

-- Rejected values are no exception: their failures lie where the parser started.
def consumption (rejection : Bool) (ctx : Context) : Invariant ⟨false, rejection⟩ ctx where
  admits _ := True
  holds := Result.Exact
  admits_next _ _ := trivial
  stay _ := .stay () _
  refuse _ hm := .of_unexpected hm
  run _ hne _ _ hnext _ _ := by
    obtain ⟨pos, _, rfl⟩ := State.consumeAll_returns_iff.mp hnext
    exact ⟨iff_of_true rfl (Nat.lt_add_of_pos_right (List.length_pos_iff.mpr hne)), nofun⟩
  relabel {s r} labels _ h := by
    cases r with
    | ok r => exact ⟨h.consumed_iff, h.state_eq⟩
    | error e => exact ⟨h.consumed_iff, h.offset_eq⟩
  bind {s first next} _ h hnext := by
    cases next with
    | ok next => exact h.andThen hnext _
    | error e => exact .andThen h hnext
  backtrack := nofun
  reject _ _ _ := .here rfl

end Invariant

-- Without backtracking, a grammar has consumed something exactly if it says so.
theorem Grammar.consumed_iff_advanced {rejection : Bool} {p : Parser α} {r : Result α}
    (hp : Grammar ⟨false, rejection⟩ p) (h : (p.apply s).Returns ctx r) : r.Exact s := by
  have hheld := (Invariant.consumption rejection ctx).sound hp trivial h
  cases r with
  | ok r => exact ⟨hheld.consumed_iff, hheld.state_eq⟩
  | error e => exact ⟨hheld.consumed_iff, hheld.offset_eq⟩

theorem Grammar.consumed_iff_advanced_at_end :
    let s : State := .start (.ofList [.int 1]) .chars
    let p := TokenParser.any.toParser.followedBy TokenParser.any.toParser
    let r : Result Value := .error ⟨true, ⟨1, ⟨0, 1⟩, .eof, []⟩⟩
    Grammar ⟨false, false⟩ p ∧ (p.apply s).Returns .builtin r ∧ r.Exact s := by
  intro s p r
  have hp : Grammar ⟨false, false⟩ p := .followedBy (.token _) (.token _)
  have hr : (p.apply s).Returns .builtin r := rfl
  exact ⟨hp, hr, hp.consumed_iff_advanced hr⟩

end Parsing
