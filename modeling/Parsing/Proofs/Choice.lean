import Mathlib.Data.List.Forall2
import Parsing.Characters
import Parsing.Proofs.Combinators
import Parsing.Proofs.Faults
import Parsing.Proofs.Lawful

namespace Parsing

open Eval

namespace Result

variable {α : Type}

@[simp] theorem consumed_mapMessage (f : Message → Message) (r : Result α) :
    (r.mapMessage f).consumed = r.consumed := by
  cases r <;> rfl

@[simp] theorem message_mapMessage (f : Message → Message) (r : Result α) :
    (r.mapMessage f).message = f r.message := by
  cases r <;> rfl

theorem mapMessage_mapMessage (f g : Message → Message) (r : Result α) :
    (r.mapMessage f).mapMessage g = r.mapMessage fun m => g (f m) := by
  cases r <;> rfl

end Result

namespace Parser

-- The alternatives `ps`, put together two at a time in any way that keeps their order.
inductive Brackets {α : Type} : Parser α → List (Parser α) → Prop
  | single (p : Parser α) : Brackets p [p]
  | either : Brackets p ps → Brackets q qs → Brackets (p <|> q) (ps ++ qs)

variable {α : Type} {ctx : Context} {s : State} {p q : Parser α}

section Pending

-- An alternative that consumed nothing, so that the next one is tried.
variable {first : Result α} (hp : (p.apply s).Returns ctx first) (hfirst : first.consumed = false)
include hp hfirst

theorem orElse_returns_iff_of_pending {r : Result α} :
    ((p.orElse q).apply s).Returns ctx r ↔
      ∃ second, (q.apply s).Returns ctx second ∧
        r = if second.consumed then second
          else second.mapMessage fun m => m.mergeExpected first.message := by
  refine orElse_returns_iff.trans ⟨?_, fun ⟨second, hq, hr⟩ =>
    .inr ⟨first, second, hp, hfirst, hq, hr⟩⟩
  rintro (⟨hp', hr⟩ | ⟨first', second, hp', _, hq, hr⟩)
  · rw [hp'.unique hp, hfirst] at hr
    cases hr
  · rw [hp'.unique hp] at hr
    exact ⟨second, hq, hr⟩

theorem orElse_faults_iff_of_pending {fault : Fault} :
    ((p.orElse q).apply s).Faults ctx fault ↔ (q.apply s).Faults ctx fault := by
  have hrest : ((p.orElse q).apply s).Faults ctx fault ↔ (p.apply s).Faults ctx fault ∨
      ∃ first', (p.apply s).Returns ctx first' ∧
        if first'.consumed then False else (q.apply s).Faults ctx fault := by
    simp only [Parser.orElse, faults_bind_iff, faults_ite_iff, faults_pure_iff, ite_self, and_false,
      exists_false, or_false]
  refine hrest.trans ⟨?_, fun h => .inr ⟨first, hp, by rwa [hfirst, if_neg Bool.false_ne_true]⟩⟩
  rintro (h | ⟨first', hp', h⟩)
  · exact (h.not_returns hp).elim
  · rwa [hp'.unique hp, hfirst, if_neg Bool.false_ne_true] at h

end Pending

theorem orElse_faults {fault : Fault} (h : (p.apply s).Faults ctx fault) :
    ((p.orElse q).apply s).Faults ctx fault := faults_bind_iff.mpr (.inl h)

-- Three alternatives, whichever two of them are put together first.
theorem orElse_assoc (p q r : Parser α) : (p.orElse q).orElse r = p.orElse (q.orElse r) := by
  have happly (s : State) :
      ((p.orElse q).orElse r).apply s = (p.orElse (q.orElse r)).apply s := by
    simp only [Parser.orElse, bind_assoc]
    refine bind_congr fun first => ?_
    cases hfirst : first.consumed with
    | true => simp [hfirst]
    | false =>
      simp only [Bool.false_eq_true, if_false, bind_assoc]
      refine bind_congr fun second => ?_
      cases hsecond : second.consumed with
      | true => simp [hsecond]
      | false =>
        simp only [Bool.false_eq_true, if_false, pure_bind, bind_assoc, hsecond,
          Result.consumed_mapMessage, Result.message_mapMessage]
        refine bind_congr fun third => ?_
        cases hthird : third.consumed with
        | true => simp [hthird]
        | false => simp [hthird, Result.mapMessage_mapMessage, Message.mergeExpected]
  exact congrArg (Parser.mk · "<Parser>") (funext happly)

theorem oneOf_cons (tried p : Parser α) (ps : List (Parser α)) :
    oneOf tried (p :: ps) = tried.orElse (oneOf p ps) := by
  induction ps generalizing tried p with
  | nil => rfl
  | cons q ps ih =>
    calc oneOf tried (p :: q :: ps) = oneOf (tried.orElse p) (q :: ps) := rfl
      _ = (tried.orElse p).orElse (oneOf q ps) := ih _ _
      _ = tried.orElse (p.orElse (oneOf q ps)) := orElse_assoc _ _ _
      _ = tried.orElse (oneOf p (q :: ps)) := by rw [ih p q]

section Lists

variable {ps qs : List (Parser α)}

theorem choice_append (hps : ps ≠ []) (hqs : qs ≠ []) :
    choice (ps ++ qs) = (choice ps).orElse (choice qs) := by
  obtain ⟨p, ps, rfl⟩ := List.exists_cons_of_ne_nil hps
  obtain ⟨q, qs, rfl⟩ := List.exists_cons_of_ne_nil hqs
  calc choice (p :: ps ++ q :: qs) = oneOf (oneOf p ps) (q :: qs) := List.foldl_append
    _ = (choice (p :: ps)).orElse (choice (q :: qs)) := oneOf_cons _ q qs

theorem choice_cons (p : Parser α) (hps : ps ≠ []) : choice (p :: ps) = p.orElse (choice ps) :=
  choice_append (List.cons_ne_nil p []) hps

theorem Brackets.ne_nil (h : Brackets p ps) : ps ≠ [] := by
  induction h with
  | single p => exact List.cons_ne_nil p []
  | either _ _ ihp _ => exact fun h => ihp (List.append_eq_nil_iff.mp h).1

theorem Brackets.eq_choice (h : Brackets p ps) : p = choice ps := by
  induction h with
  | single p => rfl
  | either hp hq ihp ihq =>
    rw [choice_append hp.ne_nil hq.ne_nil, ← ihp, ← ihq]
    rfl

section Results

variable {results : List (Result α)}

-- The alternatives behind the first one that consumed are not looked at.
theorem choice_returns_of_consumed {r : Result α}
    (hps : List.Forall₂ (fun p r => (p.apply s).Returns ctx r) ps results)
    (hpending : ∀ r' ∈ results, r'.consumed = false) (hp : (p.apply s).Returns ctx r)
    (hr : r.consumed = true) : ((choice (ps ++ p :: qs)).apply s).Returns ctx r := by
  induction hps with
  | nil =>
    cases qs with
    | nil => exact hp
    | cons q qs =>
      rw [List.nil_append, choice_cons p (List.cons_ne_nil q qs)]
      exact orElse_returns_iff.mpr (.inl ⟨hp, hr⟩)
  | @cons p' r' ps results hp' _ ih =>
    have hrest := ih fun r' hmem => hpending r' (List.mem_cons_of_mem _ hmem)
    rw [List.cons_append, choice_cons p' (by simp)]
    refine (orElse_returns_iff_of_pending hp' (hpending r' List.mem_cons_self)).mpr ⟨r, hrest, ?_⟩
    rw [if_pos hr]

-- The last alternative decides, and the labels of all others come before its own.
theorem choice_returns_of_pending {last : Result α}
    (hps : List.Forall₂ (fun p r => (p.apply s).Returns ctx r) ps results)
    (hpending : ∀ r ∈ results, r.consumed = false) (hlast : results.getLast? = some last) :
    ((choice ps).apply s).Returns ctx (last.mapMessage fun m =>
      { m with expected := results.flatMap fun r => r.message.expected }) := by
  induction hps with
  | nil => cases hlast
  | @cons p r ps results hp hps ih =>
    cases hps with
    | nil =>
      have hlast : r = last := Option.some.inj hlast
      subst hlast
      have hsame : (r.mapMessage fun m =>
          { m with expected := [r].flatMap fun r => r.message.expected }) = r := by
        rw [List.flatMap_singleton]
        cases r <;> rfl
      rw [hsame]
      exact hp
    | @cons q r' ps results hq hps =>
      rw [List.getLast?_cons_cons] at hlast
      have hrest := ih (fun r hmem => hpending r (List.mem_cons_of_mem _ hmem)) hlast
      have hconsumed : last.consumed = false :=
        hpending last (List.mem_cons_of_mem _ (List.mem_of_getLast? hlast))
      rw [choice_cons p (List.cons_ne_nil q ps)]
      refine (orElse_returns_iff_of_pending hp (hpending r List.mem_cons_self)).mpr
        ⟨_, hrest, ?_⟩
      rw [Result.consumed_mapMessage, hconsumed, if_neg Bool.false_ne_true,
        Result.mapMessage_mapMessage]
      rfl

-- The first result that consumed is the result, whatever the alternatives behind it are. If there
-- is none, the result is the last one, with the labels of all results in their order. It makes no
-- difference how the alternatives are put together.
theorem choice_closed_form {q : Parser α}
    (hq : q = choice ps ∨ (∃ p rest, ps = p :: rest ∧ q = oneOf p rest) ∨ Brackets q ps)
    (ctx : Context) (s : State) :
    (∀ before p after results r, ps = before ++ p :: after →
      List.Forall₂ (fun p r => (p.apply s).Returns ctx r) before results →
      (∀ r' ∈ results, r'.consumed = false) → (p.apply s).Returns ctx r → r.consumed = true →
      (q.apply s).Returns ctx r) ∧
    ∀ results last, List.Forall₂ (fun p r => (p.apply s).Returns ctx r) ps results →
      (∀ r ∈ results, r.consumed = false) → results.getLast? = some last →
      (q.apply s).Returns ctx (last.mapMessage fun m =>
        { m with expected := results.flatMap fun r => r.message.expected }) := by
  have hchoice : q = choice ps := by
    obtain hq | ⟨p, rest, hps, hq⟩ | hq := hq
    · exact hq
    · rw [hps, hq]
      rfl
    · exact hq.eq_choice
  rw [hchoice]
  constructor
  · intro before p after results r hps hbefore hpending hp hr
    rw [hps]
    exact choice_returns_of_consumed hbefore hpending hp hr
  · intro results last hps hpending hlast
    exact choice_returns_of_pending hps hpending hlast

-- A success that consumed nothing is passed over, and leaves its label. Behind an alternative that
-- consumed, nothing is run, not even what would fault.
theorem choice_closed_form_over_success :
    let a := (TokenParser.char "a").toParser
    let nothing := (Parser.pure (Value.str "")).label "nothing"
    let never : Parser Value := faulty .badValue
    let c := (TokenParser.char "c").toParser
    let start (text : String) : State := .start (.ofText text) .chars
    let refused (label : Value) : Result Value := .error ⟨false, ⟨0, ⟨0, 0⟩, .text "b", [label]⟩⟩
    let passed : Result Value := (stay (.str "") (start "b")).label "nothing"
    let read : Result Value := .ok ⟨true, ⟨"a", ⟨0, 0⟩, ⟨0, 1⟩⟩,
      { start "a" with offset := 1, pos := ⟨0, 1⟩ }, .empty⟩
    (Brackets (a <|> (nothing <|> never)) [a, nothing, never] ∧
      (a.apply (start "a")).Returns .builtin read ∧
      ((a <|> (nothing <|> never)).apply (start "a")).Returns .builtin read) ∧
    List.Forall₂ (fun p r => (p.apply (start "b")).Returns .builtin r) [a, nothing, c]
      [refused "a", passed, refused "c"] ∧
    ((choice [a, nothing, c]).apply (start "b")).Returns .builtin
      (.error ⟨false, ⟨0, ⟨0, 0⟩, .text "b", ["a", "nothing", "c"]⟩⟩) := by
  intro a nothing never c start refused passed read
  have hbrackets : Brackets (a <|> (nothing <|> never)) [a, nothing, never] :=
    .either (.single a) (.either (.single nothing) (.single never))
  have hread : (a.apply (start "a")).Returns .builtin read := rfl
  have hchosen := (choice_closed_form (.inr (.inr hbrackets)) .builtin (start "a")).1
    [] a [nothing, never] [] read rfl .nil (fun _ h => (List.not_mem_nil h).elim) hread rfl
  have ha : (a.apply (start "b")).Returns .builtin (refused "a") := rfl
  have hnothing : (nothing.apply (start "b")).Returns .builtin passed := rfl
  have hc : (c.apply (start "b")).Returns .builtin (refused "c") := rfl
  have hresults : List.Forall₂ (fun p r => (p.apply (start "b")).Returns .builtin r)
      [a, nothing, c] [refused "a", passed, refused "c"] :=
    .cons ha (.cons hnothing (.cons hc .nil))
  have hpending : ∀ r ∈ [refused "a", passed, refused "c"], r.consumed = false := by
    simp [refused, passed, Result.consumed, Result.label, stay, Result.mapMessage]
  have hmerged := (choice_closed_form (.inl rfl) .builtin (start "b")).2
    [refused "a", passed, refused "c"] (refused "c") hresults hpending rfl
  exact ⟨⟨hbrackets, hread, hchosen⟩, hresults, hmerged⟩

end Results

end Lists

end Parser

end Parsing
