import Parsing.Characters
import Parsing.Proofs.Sequence
import Parsing.Proofs.TextPosition
import Parsing.Proofs.TokenParser

namespace Parsing

open Eval Parsing.Parser

variable {ctx : Context}

namespace Value

theorem joinTexts_str (texts : List String) :
    joinTexts (texts.map .str) = .ok (String.join texts) := by
  have hall : (texts.map Value.str).mapM asText = .ok texts := by
    induction texts with
    | nil => rfl
    | cons text texts ih =>
      rw [List.map_cons, List.mapM_cons, ih]
      rfl
  rw [joinTexts, hall]
  rfl

-- The characters of a text, put together again.
theorem joinTexts_char (s : String) : joinTexts (s.toList.map char) = .ok s := by
  have hchars : s.toList.map char = (s.toList.map String.singleton).map .str := by
    rw [List.map_map]
    rfl
  have hjoin : String.join (s.toList.map String.singleton) = s := by
    apply String.toList_inj.mp
    rw [String.toList_join, List.flatMap_map]
    simp only [String.toList_singleton, List.flatMap_singleton']
  rw [hchars, joinTexts_str, hjoin]

end Value

section Text

variable {text : String} {i : Nat} {pos : Position} {c : Char} {rest : List Char}

theorem State.isAtEnd_of_text_end (h : text.toList.drop i = []) :
    (⟨.ofText text, i, pos, .chars⟩ : State).isAtEnd = .ok true := by
  have hle : text.length ≤ i := String.length_toList ▸ List.drop_eq_nil_iff.mp h
  exact isAtEnd_eq_ok_iff.mpr ⟨nofun, by rw [Tokens.size_ofText, decide_eq_true hle]⟩

section Next

variable (h : text.toList.drop i = c :: rest)
include h

theorem State.isAtEnd_of_text_char :
    (⟨.ofText text, i, pos, .chars⟩ : State).isAtEnd = .ok false := by
  have hlt : i < text.length := by
    rw [← String.length_toList, ← List.drop_eq_nil_iff.not.trans Nat.not_le, h]
    exact List.cons_ne_nil c rest
  exact isAtEnd_eq_ok_iff.mpr
    ⟨nofun, by rw [Tokens.size_ofText, decide_eq_false (Nat.not_le.mpr hlt)]⟩

theorem State.token_of_text_char :
    (⟨.ofText text, i, pos, .chars⟩ : State).token = .ok (.char c) := by
  have hchar : text.toList[i]? = some c := by
    rw [← Nat.add_zero i, ← List.getElem?_drop, h]
    rfl
  rw [token, (Tokens.sliceable_ofText text).get_eq_getElem?]
  simp [Tokens.ofText, hchar]

theorem State.unexpected_of_text_char (expected : List Value) :
    ((⟨.ofText text, i, pos, .chars⟩ : State).unexpected expected).Returns ctx
      ⟨i, pos, .text (String.singleton c), expected⟩ :=
  unexpected_returns_iff.mpr (.inr ⟨isAtEnd_of_text_char h, _, pos, _, token_of_text_char h, rfl,
    rfl, rfl⟩)

end Next

namespace TokenParser

variable {t : TokenParser}

theorem exists_error_of_text_end (h : text.toList.drop i = []) :
    ∃ e, (t.apply ⟨.ofText text, i, pos, .chars⟩).Returns ctx (.error e) :=
  ⟨_, apply_returns_at_end (State.isAtEnd_of_text_end h)⟩

theorem exists_error_of_text_char (h : text.toList.drop i = c :: rest)
    (hfits : t.test (.char c) = .ok false) :
    ∃ e, (t.apply ⟨.ofText text, i, pos, .chars⟩).Returns ctx (.error e) :=
  ⟨_, apply_returns_iff.mpr (.inl ⟨.inr ⟨State.isAtEnd_of_text_char h, _,
    State.token_of_text_char h, hfits⟩, _, State.unexpected_of_text_char h _, rfl⟩)⟩

theorem exists_ok_of_text_char (h : text.toList.drop i = c :: rest)
    (hfits : t.test (.char c) = .ok true) :
    ∃ stop, (t.apply ⟨.ofText text, i, pos, .chars⟩).Returns ctx
      (.ok ⟨true, ⟨.char c, pos, stop⟩, ⟨.ofText text, i + 1, stop, .chars⟩, .empty⟩) :=
  ⟨_, apply_returns_iff.mpr (.inr ⟨State.isAtEnd_of_text_char h, _, pos, _,
    State.token_of_text_char h, hfits, rfl, SourceMap.stopOf_char c pos, rfl⟩)⟩

end TokenParser

namespace Parser

-- Characters one after the other are read exactly where they come next.
theorem nested_of_text {t : Char → TokenParser} (ht : ∀ c, (t c).test = Test.equals (.char c))
    (cs : List Char) (text : String) (i : Nat) (pos : Position) :
    let ps := cs.map fun c => (t c).toParser
    let s : State := ⟨.ofText text, i, pos, .chars⟩
    (cs <+: text.toList.drop i ∧
        ∃ r, ((nested ps).apply s).Returns ctx (.ok r) ∧ r.value.value = cs.map .char) ∨
      (¬cs <+: text.toList.drop i ∧ ∃ e, ((nested ps).apply s).Returns ctx (.error e)) := by
  induction cs generalizing i pos with
  | nil => exact .inl ⟨List.nil_prefix, _, pure_returns_iff.mpr rfl, rfl⟩
  | cons c cs ih =>
    intro ps s
    have herror (he : ∃ e, ((t c).apply s).Returns ctx (.error e)) :
        ∃ e, ((nested ps).apply s).Returns ctx (.error e) :=
      he.imp fun e he => nested_cons_returns_iff.mpr (.inl ⟨e, he, rfl⟩)
    cases hrest : text.toList.drop i with
    | nil =>
      refine .inr ⟨?_, herror (TokenParser.exists_error_of_text_end hrest)⟩
      rw [List.prefix_nil]
      exact List.cons_ne_nil c cs
    | cons d rest =>
      have hbehind : text.toList.drop (i + 1) = rest := by
        rw [← List.tail_drop, hrest, List.tail_cons]
      have hfits : (t c).test (.char d) = .ok (d == c) := by
        rw [ht, ← Value.char_beq_char]
        rfl
      rw [List.cons_prefix_cons]
      by_cases heq : c = d
      · subst heq
        rw [beq_self_eq_true] at hfits
        obtain ⟨stop, hok⟩ : ∃ stop, ((t c).apply s).Returns ctx _ :=
          TokenParser.exists_ok_of_text_char hrest hfits
        have hnext := ih (i + 1) stop
        rw [hbehind] at hnext
        obtain ⟨hcomes, r, hr, hvalue⟩ | ⟨hcomes, e, he⟩ := hnext
        · refine .inl ⟨⟨rfl, hcomes⟩, _,
            nested_cons_returns_iff.mpr (.inr ⟨_, _, hok, hr, rfl⟩), ?_⟩
          rw [List.map_cons, ← hvalue]
          rfl
        · exact .inr ⟨fun h => hcomes h.2, _,
            nested_cons_returns_iff.mpr (.inr ⟨_, _, hok, he, rfl⟩)⟩
      · rw [beq_eq_false_iff_ne.mpr (Ne.symm heq)] at hfits
        exact .inr ⟨fun h => heq h.1, herror (TokenParser.exists_error_of_text_char hrest hfits)⟩

-- The characters of a text in sequence, each under the label of the whole.
theorem string_eq (k : String) :
    string k = Parser.label ((sequence (k.toList.map fun c =>
      ((TokenParser.ofValue (.char c)).label (.str k)).toParser)).tryMap Value.joinTexts)
        (.str k) := by
  rw [string, tokens, List.map_map]
  rfl

-- A keyword is read exactly where its characters come next.
theorem string_of_text (ctx : Context) (k text : String) (i : Nat) (pos : Position) :
    let s : State := ⟨.ofText text, i, pos, .chars⟩
    (k.toList <+: text.toList.drop i ∧
        ∃ r, ((string k).apply s).Returns ctx (.ok r) ∧ r.value.value = k) ∨
      (¬k.toList <+: text.toList.drop i ∧ ∃ e, ((string k).apply s).Returns ctx (.error e)) := by
  intro s
  rw [string_eq]
  obtain ⟨hcomes, r, hr, hvalue⟩ | ⟨hcomes, e, he⟩ :=
    nested_of_text (t := fun c => (TokenParser.ofValue (.char c)).label (.str k)) (fun _ => rfl)
      k.toList text i pos
  · have hjoin : (Result.ok r).tryMap Value.joinTexts =
        .ok (.ok ⟨r.consumed, r.value.map fun _ => k, r.state, r.message⟩) := by
      rw [Result.tryMap, hvalue, Value.joinTexts_char]
      rfl
    obtain ⟨m, hm⟩ := label_returns_ok
      (tryMap_returns_iff.mpr ⟨_, sequence_returns_iff.mpr hr, hjoin⟩)
    exact .inl ⟨hcomes, _, hm, rfl⟩
  · obtain ⟨m, hm⟩ := label_returns_error
      (tryMap_returns_iff.mpr ⟨_, sequence_returns_iff.mpr he, rfl⟩)
    exact .inr ⟨hcomes, _, hm⟩

end Parser

end Text

end Parsing
