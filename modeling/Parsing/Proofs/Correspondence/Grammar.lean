import Mathlib.Data.List.Forall2
import Parsing.Proofs.Correspondence.Combinators
import Parsing.Proofs.Grammar

namespace Parsing

open Eval Parsing.Parser

namespace Pairing

variable {P : Pairing} {s s' : State} {α : Type}

section Tokens

variable {t : TokenParser}

theorem Respected.token : P.Respected t.toParser := by
  intro s s' h
  refine .bind (.liftM (.of_eq h.isAtEnd_eq)) fun atEnd _ hatEnd => ?_
  subst hatEnd
  cases atEnd with
  | true => exact .bind (h.unexpected_agree _) fun m m' hm => .pure (.refuse hm)
  | false =>
    refine .bind (.liftM h.token_agree) fun token _ ⟨heq, hmem⟩ => ?_
    subst heq
    refine .bind (.liftM (.of_eq rfl)) fun fits _ hfits => ?_
    subst hfits
    cases fits with
    | false => exact .bind (h.unexpected_agree _) fun m m' hm => .pure (.refuse hm)
    | true =>
      refine .bind (h.consume_agree hmem) fun next next' hnext => ?_
      refine .bind (h.startOf_agree hmem) fun start _ hstart => .pure ?_
      subst hstart
      exact .ok (.upTo hnext _ _ _ _)

theorem runStop_agree (left i : Nat) :
    Fallible.Agree (fun stop stop' => stop = P.front + stop') (t.runStop P.input left (P.front + i))
      (t.runStop P.input' left i) := by
  induction left generalizing i with
  | zero => exact .ok rfl
  | succ left ih =>
    rw [TokenParser.runStop, TokenParser.runStop]
    refine .bind (P.get_agree i) fun token _ ⟨htoken, _⟩ => ?_
    subst htoken
    refine .bind (.of_eq rfl) fun fits _ hfits => ?_
    subst hfits
    cases fits with
    | true => exact ih (i + 1)
    | false => exact .ok rfl

-- The same tokens are read at once, from wherever their places are counted.
theorem run?_agree (h : P.States s s') :
    P.Agree (Option.Rel P.Successes) (t.run? s) (t.run? s') := by
  have htoken := h.token_agree
  have hconsume (tokens : List Value) (htokens : ∀ token ∈ tokens, token ∈ P.input'.items) :
      P.Agree P.States (s.consumeAll tokens) (s'.consumeAll tokens) := h.consumeAll_agree htokens
  have hstart (token : Value) (hmem : token ∈ P.input'.items) :
      P.Agree Eq (s.startOf token) (s'.startOf token) := h.startOf_agree hmem
  obtain ⟨offset, pos⟩ := h
  refine .bind (.liftM P.shifted.length_agree) fun size size' hsize => ?_
  subst hsize
  rw [Nat.add_sub_add_left]
  refine .bind (.liftM (runStop_agree _ _)) fun stop stop' hstop => ?_
  subst hstop
  simp only [Nat.add_left_cancel_iff]
  split
  · exact .pure .none
  refine .bind (.liftM (P.slice_agree _ _)) fun part part' ⟨hpart, hmem⟩ => ?_
  rw [hpart]
  refine .bind (hconsume _ hmem) fun next next' hnext => ?_
  refine .bind (.liftM htoken) fun token _ ⟨htoken, hmem⟩ => ?_
  subst htoken
  refine .bind (hstart token hmem) fun start _ hstart => .pure ?_
  subst hstart
  exact .some (.upTo hnext _ _ _ _)

theorem Respected.tokenRep : P.Respected t.rep := by
  intro s s' h
  refine .bind (run?_agree h) fun r r' hr => ?_
  cases hr with
  | some hr => exact .pure (.ok hr)
  | none => exact .bind (h.unexpected_agree _) fun m m' hm => .pure (.refuse hm)

theorem Respected.tokenRep0 : P.Respected t.rep0 := by
  intro s s' h
  refine .bind (run?_agree h) fun r r' hr => ?_
  cases hr with
  | some hr => exact .pure (.ok hr)
  | none => exact .pure (.ok (.still h [] _))

end Tokens

section Repetition

variable (P) in
-- Equally many successes that are the same but for their places, and what comes with them.
def Gathered (R : β → γ → Prop) (a : List (Success α) × β) (b : List (Success α) × γ) : Prop :=
  List.Forall₂ P.Successes a.1 b.1 ∧ R a.2 b.2

variable (P) in
inductive Endings : Ending α → Ending α → Prop
  | mk {consumed kept kept' s s' m} : List.Forall₂ P.Successes kept kept' → P.States s s' →
      Endings ⟨consumed, kept, s, m⟩ ⟨consumed, kept', s', m⟩

variable {p : Parser α} {found found' : List (Success α)}

theorem repeatOnce_agree (hp : P.Respected p) (hfound : List.Forall₂ P.Successes found found')
    (h : P.States s s') :
    P.Agree (Sum.LiftRel (P.Gathered P.States) (P.Gathered P.Failures))
      (p.repeatOnce (found, s)) (p.repeatOnce (found', s')) := by
  refine .bind (hp h) fun r r' hr => ?_
  cases hr with
  | error he => exact .pure (.inr ⟨hfound, he⟩)
  | ok hr =>
    have hmore := List.Forall₂.cons hr hfound
    obtain ⟨hstate⟩ := hr
    dsimp only
    rw [hstate.offset_beq h]
    split
    · exact .throw _
    · exact .pure (.inl ⟨hmore, hstate⟩)

theorem successes_agree (hp : P.Respected p) (h : P.States s s') :
    P.Agree (P.Gathered P.Failures) (p.successes s) (p.successes s') :=
  .iterate (fun _ _ hrel => repeatOnce_agree hp hrel.1 hrel.2) ⟨.nil, h⟩

theorem unwind_endings {ending ending' : Ending α}
    (hfound : List.Forall₂ P.Successes found found') (h : P.Endings ending ending') :
    P.Endings (unwind found ending) (unwind found' ending') := by
  induction hfound generalizing ending ending' with
  | nil => exact h
  | cons hr hrest ih =>
    obtain ⟨hkept, hstate⟩ := h
    obtain ⟨_⟩ := hr
    cases hrest with
    | nil => exact ⟨hkept, hstate⟩
    | cons hbefore hrest =>
      simp only [unwind]
      split
      · exact ih ⟨hkept, hstate⟩
      · obtain ⟨hbehind⟩ := hbefore
        exact ih ⟨.cons ⟨hbehind⟩ hrest, hbehind⟩

theorem getLastD_successes {last last' : Success α} (hlast : P.Successes last last')
    (hfound : List.Forall₂ P.Successes found found') :
    P.Successes (found.getLastD last) (found'.getLastD last') := by
  induction hfound generalizing last last' with
  | nil => exact hlast
  | cons hr _ ih =>
    rw [List.getLastD_cons, List.getLastD_cons]
    exact ih hr

theorem values_eq (h : List.Forall₂ P.Successes found found') :
    (found.map fun r => r.value.value) = found'.map fun r => r.value.value := by
  induction h with
  | nil => rfl
  | cons hr _ ih => rw [List.map_cons, List.map_cons, ih, hr.value_eq]

theorem Endings.kept_values {ending ending' : Ending α} (start : Position)
    (h : P.Endings ending ending') :
    P.Successes
      ⟨ending.consumed,
        ⟨ending.kept.reverse.map fun r => r.value.value, start, ending.state.pos⟩,
        ending.state, ending.message⟩
      ⟨ending'.consumed,
        ⟨ending'.kept.reverse.map fun r => r.value.value, start, ending'.state.pos⟩,
        ending'.state, ending'.message⟩ := by
  obtain ⟨hkept, hstate⟩ := h
  rw [values_eq (List.forall₂_reverse_iff.mpr hkept)]
  exact .upTo hstate _ _ _ _

theorem gathered_successes {last last' : Success α} {e e' : Failure}
    (hlast : P.Successes last last') (hfound : List.Forall₂ P.Successes found found')
    (he : P.Failures e e') :
    P.Successes (gathered last found e) (gathered last' found' e') := by
  have hall := List.Forall₂.cons hlast hfound
  obtain ⟨⟩ := he
  unfold gathered
  dsimp only
  rw [(getLastD_successes hlast hfound).value_eq]
  exact (unwind_endings hall ⟨hall, hlast.state⟩).kept_values _

theorem Respected.rep (hp : P.Respected p) : P.Respected p.rep := by
  intro s s' h
  refine .bind (successes_agree hp h) ?_
  rintro ⟨found, e⟩ ⟨found', e'⟩ ⟨hfound, he⟩
  cases hfound with
  | nil => exact .pure (.error he)
  | cons hlast hearlier =>
    have hgathered := gathered_successes hlast hearlier he
    obtain ⟨⟩ := he
    dsimp only
    split
    · exact .pure (.error ⟨⟩)
    · exact .pure (.ok hgathered)

end Repetition

end Pairing

variable {d : Dialect} {α : Type} {p : Parser α}

theorem Grammar.respected (hp : Grammar d p) (P : Pairing) : P.Respected p := by
  induction hp with
  | pure a => exact .pure a
  | fail expected => exact .fail expected
  | failAs v => exact .failAs v
  | faulty fault => exact .faulty fault
  | atEnd => exact .atEnd
  | token t => exact .token
  | tokenRep t => exact .tokenRep
  | tokenRep0 t => exact .tokenRep0
  | unnamed _ ih => exact ih.unnamed
  | label v _ ih => exact ih.label v
  | map f _ ih => exact ih.map f
  | tryMap f _ ih => exact ih.tryMap f
  | withPosition _ ih => exact ih.withPosition
  | backtrack _ _ ih => exact ih.backtrack
  | orElse _ _ ihp ihq => exact ihp.orElse ihq
  | bind _ _ ihp ihf => exact ihp.bind ihf
  | sequence _ ih => exact .sequence ih
  | rep _ ih => exact ih.rep
  | filter test _ _ ih => exact ih.filter test
  | filterToken t test => exact Pairing.Respected.token.filter test
  | collect f _ _ ih => exact ih.collect f
  | collectToken t f => exact Pairing.Respected.token.collect f
  | notFollowedBy _ _ ih => exact ih.notFollowedBy
  | notFollowedByToken t => exact Pairing.Respected.token.notFollowedBy
  | named name _ ih => exact ih.named name
  | trace text => exact .trace text
  | deferred _ ih => exact .deferred ih
  | recursive _ ih => exact .recursive ih

end Parsing
