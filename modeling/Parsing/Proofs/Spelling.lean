import Mathlib.Order.Bounds.Basic
import Parsing.Proofs.Contract
import Parsing.Proofs.Correspondence.Agreement
import Parsing.Proofs.Keyword

namespace Parsing

open Eval Parsing.Parser

section Spelled

variable {cs : List Char} {w : List Value} {k : Nat}

-- How many of these characters the tokens begin with.
def spelled : List Char → List Value → Nat
  | c :: cs, v :: w => if v == .char c then spelled cs w + 1 else 0
  | _, _ => 0

theorem Value.beq_char_iff {v : Value} {c : Char} : (v == .char c) = true ↔ v = .char c :=
  beq_str_iff v _

theorem spelled_cons_char (c : Char) (cs : List Char) (w : List Value) :
    spelled (c :: cs) (.char c :: w) = spelled cs w + 1 := by
  rw [spelled, if_pos (Value.beq_char_iff.mpr rfl)]

theorem spelled_cons_of_ne {c : Char} (h : w.head? ≠ some (.char c)) :
    spelled (c :: cs) w = 0 := by
  cases w with
  | nil => rfl
  | cons v w =>
    have hv : ¬ (v == .char c) = true := by simpa [Value.beq_char_iff] using h
    rw [spelled, if_neg hv]

theorem spelled_le (cs : List Char) (w : List Value) : spelled cs w ≤ cs.length := by
  fun_induction spelled cs w with
  | case1 c cs v w hv ih => simpa using ih
  | case2 => exact Nat.zero_le _
  | case3 => exact Nat.zero_le _

theorem take_prefix_iff_le_spelled (hk : k ≤ cs.length) :
    (cs.map Value.char).take k <+: w ↔ k ≤ spelled cs w := by
  fun_induction spelled cs w generalizing k with
  | case1 c cs v w hv ih =>
    rw [Value.beq_char_iff] at hv
    cases k with
    | zero => simp
    | succ k => simp [hv, ih (Nat.le_of_succ_le_succ hk)]
  | case2 c cs v w hv =>
    rw [Value.beq_char_iff] at hv
    cases k with
    | zero => simp
    | succ k => simp [Ne.symm hv]
  | case3 cs w hshort =>
    cases k with
    | zero => simp
    | succ k =>
      match cs, w, hshort, hk with
      | c :: cs, [], _, _ => simp
      | c :: cs, v :: w, hshort, _ => exact (hshort c cs v w rfl rfl).elim

theorem isGreatest_spelled (cs : List Char) (w : List Value) :
    IsGreatest {k | k ≤ cs.length ∧ (cs.map Value.char).take k <+: w} (spelled cs w) := by
  have hle := spelled_le cs w
  constructor
  · exact ⟨hle, (take_prefix_iff_le_spelled hle).mpr (Nat.le_refl _)⟩
  · intro k hk
    exact (take_prefix_iff_le_spelled hk.1).mp hk.2

theorem prefix_iff_spelled_eq : cs.map Value.char <+: w ↔ spelled cs w = cs.length := by
  have hle := spelled_le cs w
  have htake : (cs.map Value.char).take cs.length = cs.map Value.char :=
    List.take_of_length_le (by simp)
  rw [← htake, take_prefix_iff_le_spelled (Nat.le_refl _)]
  omega

end Spelled

variable {ctx : Context} {s : State} {w : List Value}

-- Where it has no use for what comes next, a token parser does nothing but fail.
theorem TokenParser.apply_agree_of_refused {t : TokenParser} (h : t.Refuses s) :
    Agree ctx Eq (t.apply s) ((fail t.expected : Parser Value).apply s) := by
  obtain hatEnd | ⟨hatEnd, token, htoken, hrefused⟩ := h
  · exact .bind_of_returns (returns_liftM_iff.mpr hatEnd) (.refl _)
  · refine .bind_of_returns (returns_liftM_iff.mpr hatEnd) ?_
    refine .bind_of_returns (returns_liftM_iff.mpr htoken) ?_
    exact .bind_of_returns (returns_liftM_iff.mpr hrefused) (.refl _)

namespace Parser

variable {t : Char → TokenParser} {labels : List Value}

section Nested

variable {α : Type} {p : Parser α} {ps : List (Parser α)}

theorem nested_cons_agree_of_ok {first : Success α} (h : (p.apply s).Returns ctx (.ok first)) :
    Agree ctx Eq ((nested (p :: ps)).apply s)
      ((nested ps).apply first.state >>= fun rest =>
        pure (first.before (rest.map (first.value.value :: ·)))) := by
  rw [nested_cons_apply]
  exact .bind_of_returns h (.refl _)

theorem nested_cons_agree_of_fail {labels : List Value}
    (h : Agree ctx Eq (p.apply s) ((fail labels).apply s)) :
    Agree ctx Eq ((nested (p :: ps)).apply s) ((fail labels).apply s) := by
  rw [nested_cons_apply]
  refine h.bind_left.trans ?_
  simp only [fail, bind_assoc, pure_bind, Agree.refl]

end Nested

-- As many characters as come next are read one after the other. If there are no more to be read,
-- all is well, and else there is a failure at the first one that does not come.
theorem nested_spells (ht : ∀ c, (t c).test = Test.equals (.char c))
    (hlabels : ∀ c, (t c).expected = labels) (cs : List Char) (hs : s.Offers ctx w) :
    let k := spelled cs w
    let p := nested (cs.map fun c => (t c).toParser)
    ∃ next, (s.consumeAll (w.take k)).Returns ctx next ∧
      (k = cs.length → ∃ start, (s.startOfAll (w.take k)).Returns ctx start ∧
        (p.apply s).Returns ctx
          (.ok ⟨!cs.isEmpty, ⟨cs.map .char, start, next.pos⟩, next, .empty⟩)) ∧
      (k < cs.length → Agree ctx Eq (p.apply s)
        (next.unexpected labels >>= fun m => pure (.error ⟨decide (0 < k), m⟩))) := by
  induction cs generalizing s w with
  | nil =>
    intro k p
    refine ⟨s, State.consumeAll_nil_returns_iff.mpr rfl, fun _ => ⟨s.pos, ?_, ?_⟩, fun hk => ?_⟩
    · exact returns_pure_iff.mpr rfl
    · exact pure_returns_iff.mpr rfl
    · exact absurd hk (Nat.not_lt_zero _)
  | cons c cs ih =>
    intro k p
    by_cases hc : w.head? = some (.char c)
    · obtain ⟨rest, rfl⟩ := List.head?_eq_some_iff.mp hc
      have hk : k = spelled cs rest + 1 := spelled_cons_char c cs rest
      have hfits : (t c).test (.char c) = .ok true := by
        rw [ht]
        exact congrArg Except.ok (Value.beq_char_iff.mpr rfl)
      obtain ⟨start, stop, hstart, hstop, hfirst⟩ := hs.takes hfits
      obtain ⟨next, hnext, hall, hsome⟩ := ih (hs.next stop)
      rw [hk, List.take_succ_cons, List.length_cons]
      refine ⟨next, State.consumeAll_cons_returns_iff.mpr ⟨stop, hstop, hnext⟩, fun hlength => ?_,
        fun hlength => ?_⟩
      · obtain ⟨_, _, hrest⟩ := hall (by omega)
        exact ⟨start, hstart, nested_cons_returns_iff.mpr (.inr ⟨_, _, hfirst, hrest, rfl⟩)⟩
      · have hrest := hsome (by omega)
        refine (nested_cons_agree_of_ok hfirst).trans (hrest.bind_left.trans ?_)
        simp only [bind_assoc, pure_bind]
        exact .refl _
    · have hk : k = 0 := spelled_cons_of_ne hc
      have hrefused : Agree ctx Eq ((t c).apply s) ((fail labels : Parser Value).apply s) := by
        rw [← hlabels c]
        refine TokenParser.apply_agree_of_refused (hs.refused fun v hv => ?_)
        have hne : (v == .char c) = false := by
          simpa [hv, Value.beq_char_iff, ← Bool.not_eq_true] using hc
        rw [ht]
        exact congrArg Except.ok hne
      rw [hk, List.take_zero]
      refine ⟨s, State.consumeAll_nil_returns_iff.mpr rfl, fun hlength => ?_, fun _ => ?_⟩
      · cases hlength
      · exact nested_cons_agree_of_fail hrefused

-- A label that the message has already makes no difference.
theorem label_error_of_expected {α : Type} {m : Message} {l : Value} (h : m.expected = [l])
    (consumed : Bool) :
    (Result.error ⟨consumed, m⟩ : Result α).label l = .error ⟨consumed, m⟩ := by
  have hm : m.expecting l = m := by rw [Message.expecting, ← h]
  cases consumed with
  | true => rfl
  | false => simp [Result.label, Result.mapMessage, Result.consumed, hm]

theorem string_spells (t : String) (hs : s.Offers ctx w) :
    let k := spelled t.toList w
    ∃ next, (s.consumeAll (w.take k)).Returns ctx next ∧
      (k = t.length → ∃ start, (s.startOfAll (w.take k)).Returns ctx start ∧
        ((string t).apply s).Returns ctx (.ok ⟨decide (t ≠ ""), ⟨t, start, next.pos⟩, next,
          { Message.empty with expected := if t = "" then [.str t] else [] }⟩)) ∧
      (k < t.length → Agree ctx Eq ((string t).apply s)
        (next.unexpected [.str t] >>= fun m => pure (.error ⟨decide (0 < k), m⟩))) := by
  intro k
  obtain ⟨next, hnext, hall, hsome⟩ := nested_spells
    (t := fun c => (TokenParser.ofValue (.char c)).label (.str t)) (fun _ => rfl) (fun _ => rfl)
    t.toList hs
  rw [String.length_toList] at hall hsome
  rw [string_eq]
  refine ⟨next, hnext, fun hk => ?_, fun hk => ?_⟩
  · obtain ⟨start, hstart, hr⟩ := hall hk
    let read {β : Type} (value : β) : Success β :=
      ⟨!t.toList.isEmpty, ⟨value, start, next.pos⟩, next, .empty⟩
    have hjoin : (Result.ok (read (t.toList.map Value.char))).tryMap Value.joinTexts =
        .ok (.ok (read t)) := by
      rw [Result.tryMap.eq_def]
      simp only [read, Value.joinTexts_char, Fallible.ok_bind]
      rfl
    have hlabel : (Result.ok (read t)).label (.str t) =
        .ok ⟨decide (t ≠ ""), ⟨t, start, next.pos⟩, next,
          { Message.empty with expected := if t = "" then [.str t] else [] }⟩ := by
      by_cases ht : t = ""
      · subst ht
        rfl
      · have hne : t.toList.isEmpty = false := by simpa using ht
        simp [read, Result.label, Result.consumed, Message.empty, hne, ht]
    have hr := tryMap_returns_iff.mpr ⟨_, sequence_returns_iff.mpr hr, hjoin⟩
    exact ⟨start, hstart, label_returns_iff.mpr ⟨_, hr, hlabel.symm⟩⟩
  · have hagree := hsome hk
    rw [← sequence_apply] at hagree
    refine hagree.bind_left.bind_left.trans ?_
    simp only [bind_assoc, pure_bind]
    refine .bind_right fun m hm => ?_
    have hlabel : (Result.error ⟨decide (0 < k), m⟩ : Result String).label (.str t) = _ :=
      label_error_of_expected (TokenParser.expected_of_unexpected hm) _
    rw [← hlabel]
    exact .refl _

-- A text is read as far as its characters come next. If all of them do, the text is given with the
-- span of their tokens, and only the empty text leaves its label. Else the first token that does not
-- come is the failure, which has consumed if a character came before.
theorem string_spelled_exactly (t : String) (hs : s.Offers ctx w) :
    ∃ k next, IsGreatest {k | k ≤ t.length ∧ (t.toList.map Value.char).take k <+: w} k ∧
      (s.consumeAll (w.take k)).Returns ctx next ∧
      (k = t.length → ∃ start, (s.startOfAll (w.take k)).Returns ctx start ∧
        ((string t).apply s).Returns ctx (.ok ⟨decide (t ≠ ""), ⟨t, start, next.pos⟩, next,
          { Message.empty with expected := if t = "" then [.str t] else [] }⟩)) ∧
      (k < t.length →
        Agree ctx Eq ((string t).apply s)
          (next.unexpected [.str t] >>= fun m => pure (.error ⟨decide (0 < k), m⟩)) ∧
        (Told w[k]? →
          ∃ m, (next.unexpected [.str t]).Returns ctx m ∧
            ((string t).apply s).Returns ctx (.error ⟨decide (0 < k), m⟩))) := by
  obtain ⟨next, hnext, hall, hsome⟩ := string_spells t hs
  have hk := isGreatest_spelled t.toList w
  rw [String.length_toList] at hk
  refine ⟨_, next, hk, hnext, hall, fun hlt => ⟨hsome hlt, fun htold => ?_⟩⟩
  have hrest := hs.behind hnext
  rw [← List.head?_drop] at htold
  obtain ⟨m, hm⟩ := hrest.exists_unexpected htold [.str t]
  exact ⟨m, hm, (hsome hlt).returns_iff.mpr (returns_bind_iff.mpr ⟨m, hm, rfl⟩)⟩

-- A number is no character, but it can be reported.
theorem string_spelled_exactly_up_to_number :
    let s : State := .start (.ofList ["f", "o", .int 1]) .chars
    let w : List Value := ["f", "o", .int 1]
    s.Offers .builtin w ∧ Told w[2]? ∧
      ((string "foo").apply s).Returns .builtin
        (.error ⟨true, ⟨2, ⟨0, 2⟩, .text "1", ["foo"]⟩⟩) := by
  intro s w
  have hs : s.Offers .builtin w := ⟨by decide, rfl, fun v _ pos => ⟨_, _, rfl, rfl⟩⟩
  have htold : Told w[2]? := by
    rintro v ⟨⟩
    exact ⟨"1", rfl⟩
  obtain ⟨k, next, hk, hnext, _, hfails⟩ := string_spelled_exactly "foo" hs
  obtain rfl : k = 2 := hk.unique (isGreatest_spelled "foo".toList w)
  obtain rfl : next = { s with offset := 2, pos := ⟨0, 2⟩ } := hnext.unique rfl
  obtain ⟨m, hm, hr⟩ := (hfails (by decide)).2 htold
  obtain rfl : m = ⟨2, ⟨0, 2⟩, .text "1", ["foo"]⟩ := hm.unique rfl
  exact ⟨hs, htold, hr⟩

end Parser

end Parsing
