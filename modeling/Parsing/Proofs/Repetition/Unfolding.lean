import Parsing.Characters
import Parsing.Proofs.BindLaws
import Parsing.Proofs.Repetition.Ending

namespace Parsing.Parser

open Eval

variable {d : Dialect} {ctx : Context} {α β : Type} {p : Parser α} {s : State}

theorem rep_unfolds {r : Result (List α)} (h : (p.rep.apply s).Returns ctx r) :
    ((p.bind fun first => p.rep0.map fun rest => first :: rest).apply s).Returns ctx r := by
  obtain ⟨found, e, hfound, rfl⟩ := rep_returns_iff.mp h
  let self (_ : Unit) : Parser (List α) := p.rep
  have hrule : ((repRule p self ()).apply s).Returns ctx (repeated e found) := by
    cases hfound with
    | stop he => exact repRule_returns_of_error he
    | more hfirst _ hrest =>
      exact repRule_returns_of_ok hfirst (rep_returns_iff.mpr ⟨_, e, hrest, rfl⟩)
  exact hrule

theorem rep0_unfolds {r : Result (List α)} (h : (p.rep0.apply s).Returns ctx r) :
    (((p.bind fun first => p.rep0.map fun rest => first :: rest) <|> Parser.pure []).apply
      s).Returns ctx r := by
  obtain ⟨first, hrep, hr⟩ := orElse_pure_returns_iff.mp h
  exact orElse_pure_returns_iff.mpr ⟨first, rep_unfolds hrep, hr⟩

-- A first occurrence that is stuck leads back to where it started, so that a repetition that ends
-- behind it ends in front of it.
theorem exists_repeats_of_bind {k : α → Parser β} {r : Result β} (hp : Grammar d p)
    (hs : s.offset ≤ s.input.size) (h : ((p.bind k).apply s).Returns ctx r)
    (hk : ∀ (first : Success α) (next : Result β), first.state.offset ≤ first.state.input.size →
      ((k first.value.value).apply first.state).Returns ctx next →
      ∃ found e, Repeats p ctx first.state found e) :
    ∃ found e, Repeats p ctx s found e := by
  obtain ⟨e, he, _⟩ | ⟨first, next, hfirst, hnext, _⟩ := bind_returns_iff.mp h
  · exact ⟨[], e, .stop he⟩
  · obtain ⟨hreaches, _⟩ := hp.reaches_of_ok hs hfirst
    obtain ⟨found, e, hfound⟩ := hk first next hreaches.bounded hnext
    by_cases hoffset : first.state.offset = s.offset
    · rw [hreaches.eq_of_offset_eq hoffset] at hfound
      exact ⟨found, e, hfound⟩
    · exact ⟨first :: found, e, .more hfirst (.inr hoffset) hfound⟩

theorem exists_repeats_of_unfolded {r : Result (List α)} (hp : Grammar d p)
    (hs : s.offset ≤ s.input.size)
    (h : ((p.bind fun first => p.rep0.map fun rest => first :: rest).apply s).Returns ctx r) :
    ∃ found e, Repeats p ctx s found e := by
  refine exists_repeats_of_bind hp hs h fun first next _ hnext => ?_
  obtain ⟨_, hrep0, _⟩ := map_returns_iff.mp hnext
  obtain ⟨found, e, hfound, _⟩ := rep0_returns_iff.mp hrep0
  exact ⟨found, e, hfound⟩

theorem rep0_of_unfolded {r : Result (List α)} (hp : Grammar d p) (hs : s.offset ≤ s.input.size)
    (h : (((p.bind fun first => p.rep0.map fun rest => first :: rest) <|> Parser.pure []).apply
      s).Returns ctx r) :
    (p.rep0.apply s).Returns ctx r := by
  obtain ⟨first, hfirst, hr⟩ := orElse_pure_returns_iff.mp h
  obtain ⟨found, e, hfound⟩ := exists_repeats_of_unfolded hp hs hfirst
  have hrep := rep_returns_iff.mpr ⟨found, e, hfound, rfl⟩
  rw [hfirst.unique (rep_unfolds hrep)] at hr
  exact orElse_pure_returns_iff.mpr ⟨_, hrep, hr⟩

section Separated

-- One element and then pairs of a separator and an element.
theorem repSep_eq (p : Parser α) (separator : Parser β) :
    p.repSep separator =
      p.bind fun first => (separator.followedBy p).rep0.map fun rest => first :: rest := by
  rw [repSep, andThen, map_of_bind]
  simp only [map_of_map]

-- A separator and elements behind it are a pair of both and more such pairs.
theorem followedBy_repSep (p : Parser α) (separator : Parser β) :
    separator.followedBy (p.repSep separator) = (separator.followedBy p).bind fun first =>
      (separator.followedBy p).rep0.map fun rest => first :: rest := by
  calc separator.followedBy (p.repSep separator)
    _ = separator.bind fun _ => p.bind fun first =>
          (separator.followedBy p).rep0.map fun rest => first :: rest := by
        rw [followedBy, ← repSep_eq]
    _ = (separator.followedBy p).bind fun first =>
          (separator.followedBy p).rep0.map fun rest => first :: rest := (bind_bind _ _ _).symm

-- A separated repetition is an element, and behind it, if a separator follows, a separated
-- repetition again: in every field, and whether or not it succeeds. In a grammar, where the one
-- returns the other does too.
theorem repSep_unfolds (p : Parser α) (separator : Parser β) (ctx : Context) (s : State) :
    let unfolded := p.bind fun first =>
      (separator.followedBy (p.repSep separator) <|> Parser.pure []).map fun rest => first :: rest
    (∀ r, ((p.repSep separator).apply s).Returns ctx r → (unfolded.apply s).Returns ctx r) ∧
    ∀ d, Grammar d p → Grammar d separator → s.offset ≤ s.input.size →
      ∀ r, (unfolded.apply s).Returns ctx r → ((p.repSep separator).apply s).Returns ctx r := by
  intro unfolded
  constructor
  · intro r h
    rw [repSep_eq] at h
    obtain ⟨e, he, hr⟩ | ⟨first, next, hfirst, hnext, hr⟩ := bind_returns_iff.mp h
    · exact bind_returns_iff.mpr (.inl ⟨e, he, hr⟩)
    · obtain ⟨rest, hrest, hnext⟩ := map_returns_iff.mp hnext
      have hunfolded := rep0_unfolds hrest
      rw [← followedBy_repSep] at hunfolded
      exact bind_returns_iff.mpr
        (.inr ⟨first, next, hfirst, map_returns_iff.mpr ⟨rest, hunfolded, hnext⟩, hr⟩)
  · intro d hp hsep hs r h
    rw [repSep_eq]
    obtain ⟨e, he, hr⟩ | ⟨first, next, hfirst, hnext, hr⟩ := bind_returns_iff.mp h
    · exact bind_returns_iff.mpr (.inl ⟨e, he, hr⟩)
    · obtain ⟨rest, hrest, hnext⟩ := map_returns_iff.mp hnext
      have hbounded := (hp.reaches_of_ok hs hfirst).1.bounded
      rw [followedBy_repSep] at hrest
      have hrep0 := rep0_of_unfolded (hsep.followedBy hp) hbounded hrest
      exact bind_returns_iff.mpr
        (.inr ⟨first, next, hfirst, map_returns_iff.mpr ⟨rest, hrep0, hnext⟩, hr⟩)

-- A separator that nothing follows makes a failure of both, which has consumed.
theorem repSep_unfolds_at_dangling_separator :
    let s : State := .start (.ofText "a,a,") .chars
    let p := (TokenParser.char "a").toParser
    let separator := (TokenParser.char ",").toParser
    let unfolded := p.bind fun first =>
      (separator.followedBy (p.repSep separator) <|> Parser.pure []).map fun rest => first :: rest
    let r : Result (List Value) := .error ⟨true, ⟨4, ⟨0, 4⟩, .eof, ["a"]⟩⟩
    Grammar .full p ∧ Grammar .full separator ∧ s.offset ≤ s.input.size ∧
      (unfolded.apply s).Returns .builtin r ∧ ((p.repSep separator).apply s).Returns .builtin r := by
  intro s p separator unfolded r
  have hp : Grammar .full p := .token _
  have hsep : Grammar .full separator := .token _
  have hs : s.offset ≤ s.input.size := Nat.zero_le _
  have hpairs : ((separator.followedBy p).rep0.apply
      { s with offset := 1, pos := ⟨0, 1⟩ }).Returns .builtin r :=
    rep0_returns_iff.mpr ⟨[_], _, .more rfl (.inl rfl) (.stop rfl), rfl⟩
  have hrepSep : ((p.repSep separator).apply s).Returns .builtin r := by
    rw [repSep_eq]
    exact bind_returns_iff.mpr
      (.inr ⟨_, _, rfl, map_returns_iff.mpr ⟨r, hpairs, rfl⟩, rfl⟩)
  obtain ⟨hunfolds, hfolds⟩ := repSep_unfolds p separator .builtin s
  have hunfolded := hunfolds r hrepSep
  exact ⟨hp, hsep, hs, hunfolded, hfolds .full hp hsep hs r hunfolded⟩

end Separated

end Parsing.Parser
