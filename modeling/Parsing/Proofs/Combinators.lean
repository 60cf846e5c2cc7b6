import Parsing.Parser.Choice
import Parsing.Parser.Recursion
import Parsing.Parser.Rejection
import Parsing.Parser.Sequence
import Parsing.Parser.Trace
import Parsing.Proofs.Returns

namespace Parsing

namespace Success

-- The result of `first` with `next` behind it: they have consumed together, from where `first`
-- starts.
def before (first : Success α) : Result β → Result β
  | .ok next => .ok { next with
      consumed := first.consumed || next.consumed
      value := next.value.withStart first.value.start }
  | .error e => .error { e with consumed := first.consumed || e.consumed }

theorem before_eq (first : Success α) (next : Result β) :
    (if first.consumed then next.consume else next).withStart first.value.start =
      first.before next := by
  cases hfirst : first.consumed <;> cases next <;>
    simp [before, hfirst, Result.withStart, Result.consume, Result.withConsumed]

end Success

namespace Parser

open Eval

variable {α β γ : Type} {ctx : Context} {s : State}

section Primitives

theorem pure_returns_iff {a : α} {r : Result α} :
    ((Parser.pure a).apply s).Returns ctx r ↔ r = stay a s := returns_pure_iff

theorem fail_returns_iff {expected : List Value} {r : Result α} :
    ((fail expected : Parser α).apply s).Returns ctx r ↔
      ∃ m, (s.unexpected expected).Returns ctx m ∧ r = .error ⟨false, m⟩ := by
  simp only [fail, returns_bind_iff, returns_pure_iff]

theorem failAs_returns_iff {v : Value} {r : Result α} :
    ((failAs v : Parser α).apply s).Returns ctx r ↔
      ∃ label, v.text = .ok label ∧
        ((fail [.str label] : Parser α).apply s).Returns ctx r := by
  simp only [failAs, returns_bind_iff, returns_liftM_iff]

theorem faulty_returns_iff {fault : Fault} {r : Result α} :
    ((faulty fault : Parser α).apply s).Returns ctx r ↔ False := returns_throw_iff

theorem atEnd_returns_iff {r : Result Unit} :
    (atEnd.apply s).Returns ctx r ↔
      (s.isAtEnd = .ok true ∧ r = stay () s) ∨
      (s.isAtEnd = .ok false ∧
        ∃ m, (s.unexpected ["EOF"]).Returns ctx m ∧ r = .error ⟨false, m⟩) := by
  simp only [atEnd, returns_bind_iff, returns_liftM_iff, returns_ite_iff, returns_pure_iff]
  constructor
  · intro h
    rcases h with ⟨b, hb, h⟩
    cases b with
    | true => exact .inl ⟨hb, h⟩
    | false => exact .inr ⟨hb, h⟩
  · intro h
    rcases h with ⟨hb, rfl⟩ | ⟨hb, m, hm, rfl⟩
    · exact ⟨true, hb, rfl⟩
    · exact ⟨false, hb, m, hm, rfl⟩

theorem trace_returns {text : String} {r : Result Unit}
    (h : ((trace text).apply s).Returns ctx r) : r = stay () s := by
  obtain ⟨_, _, _, _, _, _, hr⟩ :
      ∃ preview, _ ∧ ∃ length, _ ∧ ∃ u : Unit, _ ∧ r = stay () s := by
    simpa only [trace, returns_bind_iff, returns_pure_iff] using h
  exact hr

end Primitives

section Changes

variable {p : Parser α}

theorem label_returns_iff {label : Value} {r : Result α} :
    ((p.label label).apply s).Returns ctx r ↔
      ∃ r₀, (p.apply s).Returns ctx r₀ ∧ r = r₀.label label := by
  simp only [Parser.label, returns_bind_iff, returns_pure_iff]

-- A label changes neither what is read nor whether it succeeds.
theorem label_returns_ok {l : Value} {r : Success α} (h : (p.apply s).Returns ctx (.ok r)) :
    ∃ m, ((p.label l).apply s).Returns ctx (.ok { r with message := m }) := by
  have hlabel : ((p.label l).apply s).Returns ctx ((Result.ok r).label l) :=
    label_returns_iff.mpr ⟨_, h, rfl⟩
  rw [Result.label] at hlabel
  split at hlabel
  · exact ⟨_, hlabel⟩
  · exact ⟨_, hlabel⟩

theorem label_returns_error {l : Value} {e : Failure} (h : (p.apply s).Returns ctx (.error e)) :
    ∃ m, ((p.label l).apply s).Returns ctx (.error { e with message := m }) := by
  have hlabel : ((p.label l).apply s).Returns ctx ((Result.error e).label l) :=
    label_returns_iff.mpr ⟨_, h, rfl⟩
  rw [Result.label] at hlabel
  split at hlabel
  · exact ⟨_, hlabel⟩
  · exact ⟨_, hlabel⟩

theorem backtrack_returns_iff {r : Result α} :
    (p.backtrack.apply s).Returns ctx r ↔
      ∃ r₀, (p.apply s).Returns ctx r₀ ∧ r = r₀.markNonConsuming := by
  simp only [backtrack, returns_bind_iff, returns_pure_iff]

theorem map_returns_iff {f : α → β} {r : Result β} :
    ((p.map f).apply s).Returns ctx r ↔
      ∃ r₀, (p.apply s).Returns ctx r₀ ∧ r = r₀.map f := by
  simp only [Parser.map, returns_bind_iff, returns_pure_iff]

theorem tryMap_returns_iff {f : α → Fallible β} {r : Result β} :
    ((p.tryMap f).apply s).Returns ctx r ↔
      ∃ r₀, (p.apply s).Returns ctx r₀ ∧ r₀.tryMap f = .ok r := by
  simp only [tryMap, returns_bind_iff, returns_liftM_iff]

theorem withPosition_returns_iff {r : Result (Parsed α)} :
    (p.withPosition.apply s).Returns ctx r ↔
      (∃ e, (p.apply s).Returns ctx (.error e) ∧ r = .error e) ∨
      (∃ r₀, (p.apply s).Returns ctx (.ok r₀) ∧ r = .ok (spanned r₀)) := by
  refine returns_bind_result_iff.trans ?_
  simp only [returns_pure_iff]

theorem named_returns {name : String} {r : Result α}
    (h : ((p.named name).apply s).Returns ctx r) : (p.apply s).Returns ctx r := by
  obtain ⟨r₀, hp, hr⟩ := returns_bind_iff.mp (Returns.of_record h)
  cases r₀ with
  | ok r₁ =>
    have hr : r = .ok r₁ := returns_pure_iff.mp (Returns.of_record hr)
    exact hr ▸ hp
  | error e =>
    have hr : r = .error e := returns_pure_iff.mp (Returns.of_record hr)
    exact hr ▸ hp

end Changes

section Compositions

variable {p : Parser α}

theorem bind_apply (p : Parser α) (f : α → Parser β) (s : State) :
    (p.bind f).apply s = p.apply s >>= fun
      | .error e => pure (.error e)
      | .ok first => (f first.value.value).apply first.state >>= fun next =>
        pure (first.before next) := by
  simp only [Parser.bind]
  refine bind_congr fun r => ?_
  cases r with
  | error e => rfl
  | ok first => simp only [Success.before_eq]

theorem bind_returns_iff {f : α → Parser β} {r : Result β} :
    ((p.bind f).apply s).Returns ctx r ↔
      (∃ e, (p.apply s).Returns ctx (.error e) ∧ r = .error e) ∨
      (∃ first next, (p.apply s).Returns ctx (.ok first) ∧
        ((f first.value.value).apply first.state).Returns ctx next ∧
        r = first.before next) := by
  refine returns_bind_result_iff.trans ?_
  simp only [returns_bind_iff, returns_pure_iff, Success.before_eq]
  constructor
  · intro h
    rcases h with h | ⟨first, hp, next, hf, hr⟩
    · exact .inl h
    · exact .inr ⟨first, next, hp, hf, hr⟩
  · intro h
    rcases h with h | ⟨first, next, hp, hf, hr⟩
    · exact .inl h
    · exact .inr ⟨first, hp, next, hf, hr⟩

theorem bind_returns_ok {f : α → Parser β} {r : Success β}
    (h : ((p.bind f).apply s).Returns ctx (.ok r)) :
    ∃ first next, (p.apply s).Returns ctx (.ok first) ∧
      ((f first.value.value).apply first.state).Returns ctx (.ok next) ∧
      r.value.value = next.value.value ∧ r.state = next.state := by
  obtain ⟨e, _, hr⟩ | ⟨first, next | e, hfirst, hnext, hr⟩ := bind_returns_iff.mp h
  · cases hr
  · cases hr
    exact ⟨first, next, hfirst, hnext, rfl, rfl⟩
  · cases hr

theorem endedBy_returns_iff {q : Parser β} {r : Result α} :
    ((p.endedBy q).apply s).Returns ctx r ↔
      (∃ e, (p.apply s).Returns ctx (.error e) ∧ r = .error e) ∨
      (∃ first next, (p.apply s).Returns ctx (.ok first) ∧
        (q.apply first.state).Returns ctx next ∧
        r = first.before (next.map fun _ => first.value.value)) := by
  refine bind_returns_iff.trans (or_congr_right ?_)
  simp only [map_returns_iff]
  constructor
  · rintro ⟨first, _, hfirst, ⟨next, hnext, rfl⟩, rfl⟩
    exact ⟨first, next, hfirst, hnext, rfl⟩
  · rintro ⟨first, next, hfirst, hnext, rfl⟩
    exact ⟨first, _, hfirst, ⟨next, hnext, rfl⟩, rfl⟩

-- What stands between two parsers is read behind the first of them, and its value is kept.
theorem between_returns_ok {left : Parser β} {right : Parser γ} {r : Success α}
    (h : ((p.between left right).apply s).Returns ctx (.ok r)) :
    ∃ opened inner closed, (left.apply s).Returns ctx (.ok opened) ∧
      (p.apply opened.state).Returns ctx (.ok inner) ∧
      (right.apply inner.state).Returns ctx (.ok closed) ∧
      r.value.value = inner.value.value ∧ r.state = closed.state := by
  have h : (((left.bind fun _ => p).bind fun a => right.map fun _ => a).apply s).Returns ctx
    (.ok r) := h
  obtain ⟨outer, next, houter, hnext, hvalue, hstate⟩ := bind_returns_ok h
  obtain ⟨opened, inner, hopened, hinner, hinnerValue, hinnerState⟩ := bind_returns_ok houter
  obtain ⟨closed | e, hclosed, hr⟩ := map_returns_iff.mp hnext
  · cases hr
    rw [hinnerState] at hclosed
    exact ⟨opened, inner, closed, hopened, hinner, hclosed, hvalue.trans hinnerValue, hstate⟩
  · cases hr

theorem orElse_returns_iff {q : Parser α} {r : Result α} :
    ((p.orElse q).apply s).Returns ctx r ↔
      ((p.apply s).Returns ctx r ∧ r.consumed = true) ∨
      (∃ first second, (p.apply s).Returns ctx first ∧ first.consumed = false ∧
        (q.apply s).Returns ctx second ∧
        r = if second.consumed then second
          else second.mapMessage fun m => m.mergeExpected first.message) := by
  simp only [Parser.orElse, returns_bind_iff, returns_ite_iff, returns_pure_iff]
  constructor
  · intro h
    rcases h with ⟨first, hp, h⟩
    cases hfirst : first.consumed with
    | true =>
      rw [hfirst, if_pos rfl] at h
      subst h
      exact .inl ⟨hp, hfirst⟩
    | false =>
      rw [hfirst, if_neg Bool.false_ne_true] at h
      obtain ⟨second, hq, h⟩ := h
      refine .inr ⟨first, second, hp, hfirst, hq, ?_⟩
      split <;> simp_all
  · intro h
    rcases h with ⟨hp, hr⟩ | ⟨first, second, hp, hfirst, hq, rfl⟩
    · exact ⟨r, hp, by simp [hr]⟩
    · refine ⟨first, hp, ?_⟩
      rw [hfirst, if_neg Bool.false_ne_true]
      refine ⟨second, hq, ?_⟩
      split <;> rfl

end Compositions

section Rejections

variable [ToValue α] {p : Parser α}

theorem filter_returns_iff {test : α → Fallible Bool} {r : Result α} :
    ((p.filter test).apply s).Returns ctx r ↔
      (∃ e, (p.apply s).Returns ctx (.error e) ∧ r = .error e) ∨
      (∃ r₀, (p.apply s).Returns ctx (.ok r₀) ∧
        ((test r₀.value.value = .ok true ∧ r = .ok r₀) ∨
          (test r₀.value.value = .ok false ∧
            ∃ m, rejection r₀ s = .ok m ∧ r = .error ⟨false, m⟩))) := by
  refine returns_bind_result_iff.trans ?_
  simp only [returns_bind_iff, returns_liftM_iff, returns_ite_iff, returns_pure_iff]
  refine or_congr_right (exists_congr fun r₀ => and_congr_right fun _ => ?_)
  constructor
  · intro h
    rcases h with ⟨b, hb, h⟩
    cases b with
    | true => exact .inl ⟨hb, h⟩
    | false => exact .inr ⟨hb, h⟩
  · intro h
    rcases h with ⟨hb, rfl⟩ | ⟨hb, m, hm, rfl⟩
    · exact ⟨true, hb, rfl⟩
    · exact ⟨false, hb, m, hm, rfl⟩

theorem collect_returns_iff {f : α → Fallible (Option β)} {r : Result β} :
    ((p.collect f).apply s).Returns ctx r ↔
      (∃ e, (p.apply s).Returns ctx (.error e) ∧ r = .error e) ∨
      (∃ r₀, (p.apply s).Returns ctx (.ok r₀) ∧
        ((∃ b, f r₀.value.value = .ok (some b) ∧
            r = .ok ⟨r₀.consumed, ⟨b, r₀.value.start, r₀.value.stop⟩, r₀.state, r₀.message⟩) ∨
          (f r₀.value.value = .ok none ∧
            ∃ m, rejection r₀ s = .ok m ∧ r = .error ⟨false, m⟩))) := by
  refine returns_bind_result_iff.trans ?_
  simp only [returns_bind_iff, returns_liftM_iff, returns_pure_iff]
  refine or_congr_right (exists_congr fun r₀ => and_congr_right fun _ => ?_)
  constructor
  · intro h
    rcases h with ⟨image, himage, h⟩
    cases image with
    | some b => exact .inl ⟨b, himage, by simpa only [returns_pure_iff] using h⟩
    | none =>
      exact .inr ⟨himage,
        by simpa only [returns_bind_iff, returns_liftM_iff, returns_pure_iff] using h⟩
  · intro h
    rcases h with ⟨b, himage, rfl⟩ | ⟨himage, m, hm, rfl⟩
    · exact ⟨some b, himage, by simp only [returns_pure_iff]⟩
    · refine ⟨none, himage, ?_⟩
      simp only [returns_bind_iff, returns_liftM_iff, returns_pure_iff]
      exact ⟨m, hm, rfl⟩

theorem notFollowedBy_returns_iff {r : Result Unit} :
    ((notFollowedBy p).apply s).Returns ctx r ↔
      (∃ e, (p.apply s).Returns ctx (.error e) ∧ r = stay () s) ∨
      (∃ r₀ text, (p.apply s).Returns ctx (.ok r₀) ∧
        (toValue r₀.value.value).text = .ok text ∧
        r = .error ⟨false,
          ⟨s.offset, r₀.value.start, .text text, [.str ("not " ++ text)]⟩⟩) := by
  refine returns_bind_result_iff.trans ?_
  simp only [returns_bind_iff, returns_liftM_iff, returns_pure_iff]
  refine or_congr_right (exists_congr fun r₀ => ?_)
  simp only [exists_and_left]

end Rejections

end Parser

end Parsing
