import Mathlib.Data.List.Induction
import Parsing.Proofs.Choice
import Parsing.Proofs.Keyword

namespace Parsing

open Eval

namespace Parser

variable {α : Type} {ctx : Context} {s : State} {p q : Parser α}

-- Only by its labels can a backtracked part be told from one that is not there.
theorem backtrack_orElse_iff {first : Result α} (h : (p.apply s).Returns ctx first) :
    (∀ r, ((p.backtrack.orElse q).apply s).Returns ctx r ↔
      ∃ second, (q.apply s).Returns ctx second ∧
        r = if second.consumed then second
          else second.mapMessage fun m => m.mergeExpected first.message) ∧
    ∀ fault, ((p.backtrack.orElse q).apply s).Faults ctx fault ↔ (q.apply s).Faults ctx fault := by
  have hpending := backtrack_returns_iff.mpr ⟨first, h, rfl⟩
  have hconsumed : first.markNonConsuming.consumed = false := by
    cases first <;> rfl
  have hmessage : first.markNonConsuming.message = first.message := by
    cases first <;> rfl
  refine ⟨fun r => ?_, fun fault => orElse_faults_iff_of_pending hpending hconsumed⟩
  rw [← hmessage]
  exact orElse_returns_iff_of_pending hpending hconsumed

-- A choice over backtracked parsers ends like the last of them, whatever the others have read.
theorem choice_backtracked {ps : List (Parser α)} {last : Result α}
    (hps : ∀ p ∈ ps, ∃ r, (p.apply s).Returns ctx r) (hq : (q.apply s).Returns ctx last) :
    ∃ m, ((choice ((ps ++ [q]).map backtrack)).apply s).Returns ctx
      (last.markNonConsuming.mapMessage fun _ => m) := by
  induction ps using List.reverseRecOn generalizing q last with
  | nil =>
    refine ⟨last.message, backtrack_returns_iff.mpr ⟨last, hq, ?_⟩⟩
    cases last <;> rfl
  | append_singleton ps p ih =>
    obtain ⟨r, hr⟩ := hps p (by simp)
    obtain ⟨m, hm⟩ := ih (fun p hmem => hps p (List.mem_append_left _ hmem)) hr
    rw [List.map_append, List.map_singleton, choice_append (by simp) (List.cons_ne_nil _ [])]
    have hfirst : (r.markNonConsuming.mapMessage fun _ => m).consumed = false := by
      cases r <;> rfl
    refine ⟨last.message.mergeExpected m, (orElse_returns_iff_of_pending hm hfirst).mpr
      ⟨_, backtrack_returns_iff.mpr ⟨last, hq, rfl⟩, ?_⟩⟩
    cases r <;> cases last <;> rfl

-- Where the last keyword comes next, it is the one that is read; earlier ones are tried in vain.
theorem choice_of_keywords (ks : List String) (k text : String) (i : Nat) (pos : Position) :
    ∃ result,
      ((choice ((ks ++ [k]).map fun k => (string k).backtrack)).apply
        ⟨.ofText text, i, pos, .chars⟩).Returns ctx result ∧
      ((∃ r, result = .ok r) ↔ k.toList <+: text.toList.drop i) := by
  have hreturns : ∀ p ∈ ks.map string,
      ∃ r, (p.apply ⟨.ofText text, i, pos, .chars⟩).Returns ctx r := by
    intro p hmem
    obtain ⟨k, _, rfl⟩ := List.mem_map.mp hmem
    obtain ⟨_, r, hr, _⟩ | ⟨_, e, he⟩ := string_of_text ctx k text i pos
    · exact ⟨_, hr⟩
    · exact ⟨_, he⟩
  have hbacktrack : (ks ++ [k]).map (fun k => (string k).backtrack) =
      (ks.map string ++ [string k]).map backtrack := by
    rw [List.map_append, List.map_append, List.map_map]
    rfl
  rw [hbacktrack]
  obtain ⟨hcomes, r, hr, _⟩ | ⟨hcomes, e, he⟩ := string_of_text ctx k text i pos
  · obtain ⟨m, hm⟩ := choice_backtracked hreturns hr
    exact ⟨_, hm, fun _ => hcomes, fun _ => ⟨_, rfl⟩⟩
  · obtain ⟨m, hm⟩ := choice_backtracked hreturns he
    refine ⟨.error ⟨false, m⟩, hm, ?_, fun h => (hcomes h).elim⟩
    rintro ⟨_, hr⟩
    cases hr

-- A success that consumed is kept, whatever comes after it. A backtracked success is not: the next
-- alternative is tried in its place, with what is left, and its outcome is the outcome. So a choice
-- over backtracked keywords goes by the last keyword alone.
theorem success_kept_if_consumed :
    (∀ {p : Parser α} {s : State} {r : Success α}, (p.apply s).Returns ctx (.ok r) →
      (r.consumed = true →
        (∀ q, ((p <|> q).apply s).Returns ctx (.ok r)) ∧
        (∀ a, ((option a p).apply s).Returns ctx (.ok r)) ∧
        (p.optional.apply s).Returns ctx ((Result.ok r).map some)) ∧
      (∀ q,
        (∀ result, ((p.backtrack <|> q).apply s).Returns ctx result ↔
          ∃ second, (q.apply s).Returns ctx second ∧
            result = if second.consumed then second
              else second.mapMessage fun m => m.mergeExpected r.message) ∧
        ∀ fault, ((p.backtrack <|> q).apply s).Faults ctx fault ↔ (q.apply s).Faults ctx fault) ∧
      (p.backtrack.optional.apply s).Returns ctx
        ((stay none s).mapMessage fun m => m.mergeExpected r.message)) ∧
    ∀ (ks : List String) (k text : String) (i : Nat) (pos : Position),
      ∃ result,
        ((choice ((ks ++ [k]).map fun k => (string k).backtrack)).apply
          ⟨.ofText text, i, pos, .chars⟩).Returns ctx result ∧
        ((∃ r, result = .ok r) ↔ k.toList <+: text.toList.drop i) := by
  constructor
  · intro p s r h
    refine ⟨fun hconsumed => ?_, fun q => backtrack_orElse_iff h, ?_⟩
    · have hkept (q : Parser α) : ((p <|> q).apply s).Returns ctx (.ok r) :=
        orElse_returns_iff.mpr (.inl ⟨h, hconsumed⟩)
      have hsome : ((p.map some).apply s).Returns ctx ((Result.ok r).map some) :=
        map_returns_iff.mpr ⟨_, h, rfl⟩
      exact ⟨hkept, fun a => hkept (.pure a), orElse_returns_iff.mpr (.inl ⟨hsome, hconsumed⟩)⟩
    · have hsome : ((p.backtrack.map some).apply s).Returns ctx
          ((Result.ok r).markNonConsuming.map some) :=
        map_returns_iff.mpr ⟨_, backtrack_returns_iff.mpr ⟨_, h, rfl⟩, rfl⟩
      exact (orElse_returns_iff_of_pending hsome rfl).mpr ⟨_, pure_returns_iff.mpr rfl, rfl⟩
  · exact choice_of_keywords

-- A character is read; a keyword that goes on behind it does not fit.
theorem success_kept_if_consumed_of_character :
    let p := (TokenParser.char "a").toParser
    let q := (TokenParser.char "b").toParser
    let s : State := .start (.ofText "a") .chars
    let r : Success Value := ⟨true, ⟨.str "a", ⟨0, 0⟩, ⟨0, 1⟩⟩,
      { s with offset := 1, pos := ⟨0, 1⟩ }, .empty⟩
    (p.apply s).Returns .builtin (.ok r) ∧ r.consumed = true ∧
      ((p <|> q).apply s).Returns .builtin (.ok r) ∧
      (p.backtrack.optional.apply s).Returns .builtin
        ((stay none s).mapMessage fun m => m.mergeExpected r.message) ∧
      ∃ result,
        ((choice ((["a"] ++ ["ab"]).map fun k => (string k).backtrack)).apply s).Returns .builtin
          result ∧
        ((∃ r, result = .ok r) ↔ "ab".toList <+: "a".toList.drop 0) := by
  intro p q s r
  have h : (p.apply s).Returns .builtin (.ok r) := rfl
  obtain ⟨halternatives, hkeywords⟩ := @success_kept_if_consumed Value .builtin
  obtain ⟨hkept, _, hoptional⟩ := halternatives h
  exact ⟨h, rfl, (hkept rfl).1 q, hoptional, hkeywords ["a"] "ab" "a" 0 .initial⟩

-- Backtracked successes that are lost: to an alternative that fails, and to nothing at all.
theorem backtracked_success_lost :
    let p := (TokenParser.char "a").toParser
    let q := (TokenParser.char "b").toParser
    let s : State := .start (.ofText "a") .chars
    (p.apply s).Returns .builtin (.ok ⟨true, ⟨.str "a", ⟨0, 0⟩, ⟨0, 1⟩⟩,
        { s with offset := 1, pos := ⟨0, 1⟩ }, .empty⟩) ∧
      ((p.backtrack <|> q).apply s).Returns .builtin
        (.error ⟨false, ⟨0, ⟨0, 0⟩, .text "a", ["b"]⟩⟩) ∧
      (p.backtrack.optional.apply s).Returns .builtin
        (.ok ⟨false, ⟨none, ⟨0, 0⟩, ⟨0, 0⟩⟩, s, .empty⟩) :=
  ⟨rfl, rfl, rfl⟩

end Parser

end Parsing
