import Parsing.Parser.Rejection
import Parsing.Proofs.Lawful
import Parsing.Proofs.SingleToken

namespace Parsing

open Eval Parsing.Parser

variable {ctx : Context} {s : State} {w : List Value} {P Q : Test} {l v : Value}

namespace Test

theorem all_pair_eq_true_iff :
    Test.all [P, Q] v = .ok true ↔ P v = .ok true ∧ Q v = .ok true := by
  simp [Test.all]

theorem all_pair_eq_false_iff :
    Test.all [P, Q] v = .ok false ↔ P v = .ok false ∨ P v = .ok true ∧ Q v = .ok false := by
  simp [Test.all]

theorem exists_all_pair (hP : ∃ fits, P v = .ok fits) (hQ : ∃ fits, Q v = .ok fits) :
    ∃ fits, Test.all [P, Q] v = .ok fits := by
  obtain ⟨fitsP, hP⟩ := hP
  obtain ⟨fitsQ, hQ⟩ := hQ
  cases fitsP with
  | false => exact ⟨false, all_pair_eq_false_iff.mpr (.inl hP)⟩
  | true =>
    cases fitsQ with
    | false => exact ⟨false, all_pair_eq_false_iff.mpr (.inr ⟨hP, hQ⟩)⟩
    | true => exact ⟨true, all_pair_eq_true_iff.mpr ⟨hP, hQ⟩⟩

end Test

namespace Parser

section Laws

variable {α β : Type} [ToValue α]

theorem filter_filter (p : Parser α) (P Q : α → Fallible Bool) :
    (p.filter P).filter Q = p.filter fun a => do if ← P a then Q a else return false := by
  have happly (s : State) : ((p.filter P).filter Q).apply s =
      (p.filter fun a => do if ← P a then Q a else return false).apply s := by
    simp only [filter, bind_assoc]
    refine bind_congr fun r => ?_
    cases r with
    | error e => simp only [pure_bind]
    | ok r =>
      simp only [bind_assoc, liftM_bind]
      refine bind_congr fun fits => ?_
      cases fits with
      | true => simp only [if_true, pure_bind]
      | false => simp only [Bool.false_eq_true, if_false, bind_assoc, pure_bind, liftM_pure]
  exact congrArg (Parser.mk · "<Parser>") (funext happly)

theorem collect_eq_filter (p : Parser α) (f : α → Fallible (Option β)) :
    (p.collect f).map some = (p.filter fun a => return (← f a).isSome).tryMap f := by
  have happly (s : State) : ((p.collect f).map some).apply s =
      ((p.filter fun a => return (← f a).isSome).tryMap f).apply s := by
    simp only [collect, filter, Parser.map, tryMap, bind_assoc]
    refine bind_congr fun r => ?_
    cases r with
    | error e => rfl
    | ok r =>
      cases hf : f r.value.value with
      | error fault =>
        simp only [hf]
        rfl
      | ok image =>
        have himage : (liftM (f r.value.value) : Eval (Option β)) = pure image := by
          rw [hf]
          rfl
        have htest : (liftM (do return (← f r.value.value).isSome) : Eval Bool) =
            pure image.isSome := by
          rw [hf]
          rfl
        simp only [himage, htest, pure_bind]
        cases image with
        | some b =>
          simp only [Option.isSome_some, if_true, pure_bind, Result.tryMap, hf]
          rfl
        | none =>
          simp only [Option.isSome_none, Bool.false_eq_true, if_false, bind_assoc, pure_bind]
          rfl
  exact congrArg (Parser.mk · "<Parser>") (funext happly)

end Laws

section Refusal

-- The failure that is made of a success that is given up tells what a failure at that token tells.
theorem rejection_eq_unexpected {r : Success Value} {m : Message}
    (hatEnd : s.isAtEnd = .ok false) (hv : s.token = .ok r.value.value)
    (hstart : s.map.startOf ctx.maps r.value.value s.pos = .ok r.value.start)
    (hm : rejection r s = .ok m) (labels : List Value) :
    (s.unexpected labels).Returns ctx { m with expected := labels } := by
  obtain ⟨text, htext, hm⟩ := Fallible.bind_eq_ok_iff.mp hm
  cases hm
  exact State.unexpected_returns_iff.mpr
    (.inr ⟨hatEnd, r.value.value, r.value.start, text, hv, hstart, htext, rfl⟩)

theorem filter_readsAs (P Q : Test) (l : Value) :
    (((TokenParser.satisfy P).toParser.filter Q).label l).ReadsAs ctx
      ((TokenParser.satisfy (Test.all [P, Q])).label l) := by
  intro s r hr
  obtain ⟨r₀, hr₀, rfl⟩ := label_returns_iff.mp hr
  obtain ⟨e, he, rfl⟩ | ⟨first, hfirst, hQ⟩ := filter_returns_iff.mp hr₀
  · obtain ⟨hrefused, m, hm, he⟩ | ⟨_, _, _, _, _, _, _, _, he⟩ :=
      TokenParser.apply_returns_iff.mp he
    · cases he
      have hboth : ((TokenParser.satisfy (Test.all [P, Q])).label l).Refuses s :=
        hrefused.imp_right fun ⟨hatEnd, v, hv, hP⟩ =>
          ⟨hatEnd, v, hv, Test.all_pair_eq_false_iff.mpr (.inl hP)⟩
      exact TokenParser.apply_returns_iff.mpr
        (.inl ⟨hboth, _, State.unexpected_relabel hm [l], rfl⟩)
    · cases he
  · obtain ⟨_, _, _, heq⟩ | ⟨hatEnd, v, start, stop, hv, hP, hstart, hstop, heq⟩ :=
      TokenParser.apply_returns_iff.mp hfirst
    · cases heq
    · cases heq
      obtain ⟨hQ, rfl⟩ | ⟨hQ, m, hm, rfl⟩ := hQ
      · exact TokenParser.apply_returns_iff.mpr (.inr ⟨hatEnd, v, start, stop, hv,
          Test.all_pair_eq_true_iff.mpr ⟨hP, hQ⟩, hstart, hstop, rfl⟩)
      · exact TokenParser.apply_returns_iff.mpr (.inl ⟨.inr ⟨hatEnd, v, hv,
          Test.all_pair_eq_false_iff.mpr (.inr ⟨hP, hQ⟩)⟩, _,
          rejection_eq_unexpected hatEnd hv hstart hm [l], rfl⟩)

theorem label_error {m : Message} (hm : m.expected = [l]) :
    (Result.error ⟨false, { m with expected := [] }⟩ : Result α).label l = .error ⟨false, m⟩ := by
  cases m
  cases hm
  rfl

-- The first test says no, so that nothing was read.
theorem filter_returns_of_refused {m : Message} (hm : (s.unexpected [l]).Returns ctx m)
    (hrefused : (TokenParser.satisfy P).Refuses s) :
    ((((TokenParser.satisfy P).toParser.filter Q).label l).apply s).Returns ctx
      (.error ⟨false, m⟩) := by
  have hfirst : ((TokenParser.satisfy P).toParser.apply s).Returns ctx
      (.error ⟨false, { m with expected := [] }⟩) :=
    TokenParser.apply_returns_iff.mpr
      (.inl ⟨hrefused, _, State.unexpected_relabel hm [], rfl⟩)
  exact label_returns_iff.mpr ⟨_, filter_returns_iff.mpr (.inl ⟨_, hfirst, rfl⟩),
    (label_error (TokenParser.expected_of_unexpected hm)).symm⟩

-- The second test says no to what was read.
theorem filter_returns_of_rejected {m : Message} {rest : List Value} (hs : s.Offers ctx (v :: rest))
    (hm : (s.unexpected [l]).Returns ctx m) (hP : P v = .ok true) (hQ : Q v = .ok false) :
    ((((TokenParser.satisfy P).toParser.filter Q).label l).apply s).Returns ctx
      (.error ⟨false, m⟩) := by
  obtain ⟨hatEnd, _⟩ | ⟨_, v', start, text, hv, hstart, htext, rfl⟩ :=
    State.unexpected_returns_iff.mp hm
  · cases hatEnd.symm.trans hs.not_isAtEnd
  · cases hv.symm.trans hs.token
    obtain ⟨_, stop, _, hstop⟩ := hs.measured v List.mem_cons_self s.pos
    let first : Success Value :=
      ⟨true, ⟨v, start, stop⟩, { s with offset := s.offset + 1, pos := stop }, .empty⟩
    have hfirst : ((TokenParser.satisfy P).toParser.apply s).Returns ctx (.ok first) :=
      TokenParser.apply_returns_iff.mpr
        (.inr ⟨hs.not_isAtEnd, v, start, stop, hv, hP, hstart, hstop, rfl⟩)
    have hrejection : rejection first s = .ok ⟨s.offset, start, .text text, []⟩ :=
      Fallible.bind_eq_ok_iff.mpr ⟨text, htext, rfl⟩
    exact label_returns_iff.mpr
      ⟨_, filter_returns_iff.mpr (.inr ⟨first, hfirst, .inr ⟨hQ, _, hrejection, rfl⟩⟩), rfl⟩

-- Whatever is refused or taken at once is rejected or kept behind the first test.
theorem filter_returns (hs : s.Offers ctx w) {r : Result Value}
    (hr : (((TokenParser.satisfy (Test.all [P, Q])).label l).apply s).Returns ctx r) :
    ((((TokenParser.satisfy P).toParser.filter Q).label l).apply s).Returns ctx r := by
  obtain ⟨hrefused, m, hm, rfl⟩ | ⟨hatEnd, v, start, stop, hv, hfits, hstart, hstop, rfl⟩ :=
    TokenParser.apply_returns_iff.mp hr
  · cases w with
    | nil => exact filter_returns_of_refused hm (.inl hs.isAtEnd)
    | cons v rest =>
      obtain hatEnd | ⟨hatEnd, v', hv, hfits⟩ := hrefused
      · exact filter_returns_of_refused hm (.inl hatEnd)
      · cases hv.symm.trans hs.token
        obtain hP | ⟨hP, hQ⟩ := Test.all_pair_eq_false_iff.mp hfits
        · exact filter_returns_of_refused hm (.inr ⟨hatEnd, v, hv, hP⟩)
        · exact filter_returns_of_rejected hs hm hP hQ
  · obtain ⟨hP, hQ⟩ := Test.all_pair_eq_true_iff.mp hfits
    have hfirst : ((TokenParser.satisfy P).toParser.apply s).Returns ctx
        (.ok ⟨true, ⟨v, start, stop⟩, { s with offset := s.offset + 1, pos := stop }, .empty⟩) :=
      TokenParser.apply_returns_iff.mpr (.inr ⟨hatEnd, v, start, stop, hv, hP, hstart, hstop, rfl⟩)
    exact label_returns_iff.mpr
      ⟨_, filter_returns_iff.mpr (.inr ⟨_, hfirst, .inl ⟨hQ, rfl⟩⟩), rfl⟩

theorem exists_filter_result (hP : ∀ v ∈ w, ∃ fits, P v = .ok fits)
    (hQ : ∀ v ∈ w, ∃ fits, Q v = .ok fits) (hs : s.Offers ctx w)
    (hw : ((TokenParser.satisfy (Test.all [P, Q])).label l).Tells (w.take 1)) :
    ∃ r, ((((TokenParser.satisfy P).toParser.filter Q).label l).apply s).Returns ctx r := by
  obtain ⟨r, hr⟩ :=
    hs.exists_token_result (fun v hv => Test.exists_all_pair (hP v hv) (hQ v hv)) hw
  exact ⟨r, filter_returns hs hr⟩

end Refusal

-- What a filter rejects might as well not have been matched, for one token anywhere, and for a run
-- of them where it can be sliced. Filters behind each other are one, and so are a filter and the
-- function that it asks for a value.
theorem rejected_as_unmatched (P Q : Test) (l : Value) (hs : s.Offers ctx w) :
    (let p := ((TokenParser.satisfy P).toParser.filter Q).label l
      let t := (TokenParser.satisfy (Test.all [P, Q])).label l
      (∀ r, (p.apply s).Returns ctx r ↔ (t.apply s).Returns ctx r) ∧
      ((∀ v ∈ w, ∃ fits, P v = .ok fits) → (∀ v ∈ w, ∃ fits, Q v = .ok fits) →
        (Told w.head? → ∃ r, (p.apply s).Returns ctx r) ∧
        (s.input.Sliceable →
          let ending := w[(w.takeWhile t.takes).length]?
          (p.rep.Ensures ctx s (Told ending) fun r => (t.rep.apply s).Returns ctx r) ∧
          p.rep0.Ensures ctx s (Told ending) fun r => (t.rep0.apply s).Returns ctx r))) ∧
    (∀ (α β : Type) [ToValue α] (q : Parser α) (f : α → Fallible (Option β)),
      (q.collect f).map some = (q.filter fun a => return (← f a).isSome).tryMap f) ∧
    ∀ (α : Type) [ToValue α] (q : Parser α) (P Q : α → Fallible Bool),
      (q.filter P).filter Q = q.filter fun a => do if ← P a then Q a else return false := by
  have hreads := @filter_readsAs ctx P Q l
  refine ⟨⟨fun r => ⟨fun hr => hreads hr, filter_returns hs⟩, fun hP hQ => ⟨?_, ?_⟩⟩, ?_, ?_⟩
  · exact fun hw => exists_filter_result hP hQ hs (hw.tells _)
  · intro hinput ending
    have hsteps (hw : Told ending) ⦃s' : State⦄ ⦃k : Nat⦄ (hk : k ≤ (w.takeWhile _).length)
        (hs' : s'.Offers ctx (w.drop k)) :=
      exists_filter_result (fun v hv => hP v (List.mem_of_mem_drop hv))
        (fun v hv => hQ v (List.mem_of_mem_drop hv)) hs' (hw.tells_run.drop hk)
    exact ⟨hreads.rep_ensures hs hinput hsteps, hreads.rep0_ensures hs hinput hsteps⟩
  · exact fun _ _ _ q f => collect_eq_filter q f
  · exact fun _ _ q P Q => filter_filter q P Q

-- The token that is read and given up ends the run like one that is not matched.
theorem rejected_as_unmatched_behind_match :
    let s : State := .start (.ofList [.int 1, .int 7]) .chars
    let w : List Value := [.int 1, .int 7]
    let P := Test.above 0
    let Q := Test.below 5
    let p := ((TokenParser.satisfy P).toParser.filter Q).label "small"
    let t := (TokenParser.satisfy (Test.all [P, Q])).label "small"
    let r : Result (List Value) := .ok ⟨true, ⟨[.int 1], ⟨0, 0⟩, ⟨0, 1⟩⟩,
      { s with offset := 1, pos := ⟨0, 1⟩ }, { Message.empty with expected := ["small"] }⟩
    s.Offers .builtin w ∧ (∀ v ∈ w, ∃ fits, P v = .ok fits) ∧ (∀ v ∈ w, ∃ fits, Q v = .ok fits) ∧
      Told w[1]? ∧ s.input.Sliceable ∧ (p.rep.apply s).Returns .builtin r ∧
      (t.rep.apply s).Returns .builtin r := by
  intro s w P Q p t r
  have hs : s.Offers .builtin w := ⟨by decide, rfl, fun v _ pos => ⟨_, _, rfl, rfl⟩⟩
  have hP : ∀ v ∈ w, ∃ fits, P v = .ok fits :=
    List.forall_mem_cons.mpr ⟨⟨_, rfl⟩, List.forall_mem_singleton.mpr ⟨_, rfl⟩⟩
  have hQ : ∀ v ∈ w, ∃ fits, Q v = .ok fits :=
    List.forall_mem_cons.mpr ⟨⟨_, rfl⟩, List.forall_mem_singleton.mpr ⟨_, rfl⟩⟩
  have hw : Told w[1]? := by
    rintro v ⟨⟩
    exact ⟨"7", rfl⟩
  have hinput : s.input.Sliceable := trivial
  have hscan : (t.rep.apply s).Returns .builtin r := rfl
  have hrep := (((rejected_as_unmatched P Q "small" hs).1.2 hP hQ).2 hinput).1
  obtain ⟨r', hsteps⟩ := hrep.returns hw
  obtain rfl : r' = r := (hrep.result r' hsteps).unique hscan
  exact ⟨hs, hP, hQ, hw, hinput, hsteps, hscan⟩

-- A deque has tokens that can be read one by one, but no runs that can be taken out of it.
theorem rejected_unlike_unmatched_on_deque :
    let s : State := .start ⟨.deque, #[.int 1]⟩ .chars
    let P := Test.above 0
    let Q := Test.below 5
    let p := ((TokenParser.satisfy P).toParser.filter Q).label "small"
    let t := (TokenParser.satisfy (Test.all [P, Q])).label "small"
    s.Offers .builtin [.int 1] ∧ P (.int 1) = .ok true ∧ Q (.int 1) = .ok true ∧
      (p.rep.apply s).Returns .builtin (.ok ⟨true, ⟨[.int 1], ⟨0, 0⟩, ⟨0, 1⟩⟩,
        { s with offset := 1, pos := ⟨0, 1⟩ }, { Message.empty with expected := ["small"] }⟩) ∧
      (t.rep.apply s).Faults .builtin .wrongType := by
  intro s P Q p t
  have hs : s.Offers .builtin [.int 1] := ⟨by decide, rfl, fun v _ pos => ⟨_, _, rfl, rfl⟩⟩
  exact ⟨hs, rfl, rfl,
    rep_returns_iff.mpr ⟨[_], _, .more rfl (.inl rfl) (.stop rfl), rfl⟩, rfl⟩

end Parser

end Parsing
