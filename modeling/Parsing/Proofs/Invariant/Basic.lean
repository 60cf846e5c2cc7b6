import Parsing.Proofs.Grammar
import Parsing.Proofs.Repetition.Recursion
import Parsing.Proofs.Sequence
import Parsing.Proofs.Stretch

namespace Parsing

open Eval Parsing.Parser

namespace Result

-- What is left of a result without its value.
def outline (r : Result α) : Result Unit := r.map fun _ => ()

-- The same result with other labels.
def relabel (r : Result α) (labels : List Value) : Result α :=
  r.mapMessage fun m => { m with expected := labels }

end Result

structure Invariant (d : Dialect) (ctx : Context) where
  -- where a run may start
  admits : State → Prop
  holds : State → Result Unit → Prop
  admits_next {s r} : admits s → holds s (.ok r) → admits r.state
  stay {s} : admits s → holds s (stay () s)
  refuse {s expected m} :
    admits s → (s.unexpected expected).Returns ctx m → holds s (.error ⟨false, m⟩)
  -- tokens read one after the other
  run {s values token start next} : admits s → values ≠ [] →
    s.offset + values.length ≤ s.input.size →
    s.input.stretch s.offset (s.offset + values.length) = .ok values →
    (s.consumeAll values).Returns ctx next → s.token = .ok token →
    s.map.startOf ctx.maps token s.pos = .ok start →
    holds s (.ok ⟨true, ⟨(), start, next.pos⟩, next, .empty⟩)
  relabel {s r} (labels) : admits s → holds s r → holds s (r.relabel labels)
  bind {s first next} : admits s → holds s (.ok first) → holds first.state next →
    holds s (first.before next)
  backtrack {s r} : d.backtracking = true → admits s → holds s r → holds s r.markNonConsuming
  reject {s r text} : d.rejection = true → admits s → holds s (.ok r) →
    holds s (.error ⟨false, ⟨s.offset, r.value.start, .text text, r.message.expected⟩⟩)

namespace Invariant

variable {d : Dialect} {ctx : Context} (I : Invariant d ctx) {α β : Type}

def Sound (p : Parser α) : Prop :=
  ∀ ⦃s r⦄, I.admits s → (p.apply s).Returns ctx r → I.holds s r.outline

variable {I} {p : Parser α}

theorem holds_label {s : State} {r : Result α} {label : Value} (hs : I.admits s)
    (h : I.holds s r.outline) : I.holds s (r.label label).outline := by
  unfold Result.label
  split
  · exact h
  · cases r <;> exact I.relabel [label] hs h

theorem holds_mergeExpected {s : State} {r : Result α} {earlier : Message} (hs : I.admits s)
    (h : I.holds s r.outline) :
    I.holds s (r.mapMessage fun m => m.mergeExpected earlier).outline := by
  cases r <;> exact I.relabel _ hs h

namespace Sound

theorem pure (a : α) : I.Sound (Parser.pure a) := by
  intro s r hs h
  rw [pure_returns_iff.mp h]
  exact I.stay hs

theorem fail (expected : List Value) : I.Sound (Parser.fail expected : Parser α) := by
  intro s r hs h
  obtain ⟨m, hm, rfl⟩ := fail_returns_iff.mp h
  exact I.refuse hs hm

theorem failAs (v : Value) : I.Sound (Parser.failAs v : Parser α) := by
  intro s r hs h
  obtain ⟨label, _, hfail⟩ := failAs_returns_iff.mp h
  exact fail _ hs hfail

theorem faulty (fault : Fault) : I.Sound (Parser.faulty fault : Parser α) :=
  fun _ _ _ h => (faulty_returns_iff.mp h).elim

theorem atEnd : I.Sound atEnd := by
  intro s r hs h
  obtain ⟨_, rfl⟩ | ⟨_, m, hm, rfl⟩ := atEnd_returns_iff.mp h
  · exact I.stay hs
  · exact I.refuse hs hm

theorem trace (text : String) : I.Sound (trace text) := by
  intro s r hs h
  rw [trace_returns h]
  exact I.stay hs

theorem label (label : Value) (hp : I.Sound p) : I.Sound (p.label label) := by
  intro s r hs h
  obtain ⟨r₀, hr₀, rfl⟩ := label_returns_iff.mp h
  exact holds_label hs (hp hs hr₀)

theorem map (f : α → β) (hp : I.Sound p) : I.Sound (p.map f) := by
  intro s r hs h
  obtain ⟨r₀, hr₀, rfl⟩ := map_returns_iff.mp h
  have := hp hs hr₀
  cases r₀ <;> exact this

theorem tryMap (f : α → Fallible β) (hp : I.Sound p) : I.Sound (p.tryMap f) := by
  intro s r hs h
  obtain ⟨r₀, hr₀, hr⟩ := tryMap_returns_iff.mp h
  have := hp hs hr₀
  cases r₀ with
  | ok r₀ =>
    obtain ⟨b, _, hr⟩ := Fallible.bind_eq_ok_iff.mp hr
    cases hr
    exact this
  | error e =>
    cases hr
    exact this

theorem withPosition (hp : I.Sound p) : I.Sound p.withPosition := by
  intro s r hs h
  obtain ⟨e, he, rfl⟩ | ⟨r₀, hr₀, rfl⟩ := withPosition_returns_iff.mp h
  · exact hp hs he
  · exact hp hs hr₀

theorem backtrack (hd : d.backtracking = true) (hp : I.Sound p) : I.Sound p.backtrack := by
  intro s r hs h
  obtain ⟨r₀, hr₀, rfl⟩ := backtrack_returns_iff.mp h
  have := I.backtrack hd hs (hp hs hr₀)
  cases r₀ <;> exact this

theorem named (name : String) (hp : I.Sound p) : I.Sound (p.named name) :=
  fun _ _ hs h => hp hs (named_returns h)

theorem orElse {q : Parser α} (hp : I.Sound p) (hq : I.Sound q) : I.Sound (p.orElse q) := by
  intro s r hs h
  obtain ⟨hr, _⟩ | ⟨first, second, _, _, hsecond, rfl⟩ := orElse_returns_iff.mp h
  · exact hp hs hr
  · split
    · exact hq hs hsecond
    · exact holds_mergeExpected hs (hq hs hsecond)

theorem bind {f : α → Parser β} (hp : I.Sound p) (hf : ∀ a, I.Sound (f a)) :
    I.Sound (p.bind f) := by
  intro s r hs h
  obtain ⟨e, he, rfl⟩ | ⟨first, next, hfirst, hnext, rfl⟩ := bind_returns_iff.mp h
  · exact hp hs he
  · have hheld := hp hs hfirst
    have hthen := hf _ (I.admits_next hs hheld) hnext
    have := I.bind hs hheld hthen
    cases next <;> exact this

theorem nested {ps : List (Parser α)} (hps : ∀ p ∈ ps, I.Sound p) : I.Sound (nested ps) := by
  induction ps with
  | nil => exact pure []
  | cons p ps ih =>
    have hrest := ih fun p' hmem => hps p' (List.mem_cons_of_mem p hmem)
    rw [nested_cons]
    exact bind (hps p List.mem_cons_self) fun _ => map _ hrest

theorem sequence {ps : List (Parser α)} (hps : ∀ p ∈ ps, I.Sound p) : I.Sound (sequence ps) :=
  fun _ _ hs h => nested hps hs (sequence_returns_iff.mp h)

theorem deferred {build : Unit → Parser α} (h : I.Sound (build ())) : I.Sound (deferred build) :=
  fun _ _ hs hr => h hs hr

theorem unnamed (hp : I.Sound p) : I.Sound p.unnamed := hp

theorem recursive {ι : Type} {rules : (ι → Parser α) → ι → Parser α} {count : Nat} {i : ι}
    (h : ∀ depth, I.Sound (unroll rules depth i)) : I.Sound (recursive count rules i) :=
  fun _ _ hs hr => h _ hs hr

-- The loop gives nothing that the recursion does not give.
theorem rep (hp : I.Sound p) : I.Sound p.rep := by
  have hrule : ∀ depth, I.Sound (unroll (repRule p) depth ()) := by
    intro depth
    induction depth with
    | zero => exact faulty _
    | succ depth ih => exact deferred (bind hp fun _ => map _ (orElse ih (pure [])))
  intro s r hs h
  obtain ⟨depth, hdepth⟩ := exists_unroll_returns_of_rep h
  exact hrule depth hs (hdepth depth (Nat.le_refl depth))

end Sound

end Invariant

end Parsing
