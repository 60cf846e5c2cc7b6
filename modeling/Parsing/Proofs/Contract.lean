import Parsing.Proofs.Failure
import Parsing.Proofs.Repetition.Ending
import Parsing.Proofs.TokenParser

namespace Parsing

open Eval Parsing.Parser

section Fits

variable {α : Type}

-- There is a token at this place, and it fits.
def Fits (A : α → Bool) (w : List α) (i : Nat) : Prop := ∃ v, w[i]? = some v ∧ A v = true

@[simp] theorem fits_nil (A : α → Bool) (i : Nat) : ¬ Fits A [] i := by simp [Fits]

@[simp] theorem fits_cons_zero (A : α → Bool) (v : α) (w : List α) :
    Fits A (v :: w) 0 ↔ A v = true := by simp [Fits]

@[simp] theorem fits_cons_succ (A : α → Bool) (v : α) (w : List α) (i : Nat) :
    Fits A (v :: w) (i + 1) ↔ Fits A w i := by simp [Fits]

@[simp] theorem fits_drop (A : α → Bool) (w : List α) (k i : Nat) :
    Fits A (w.drop k) i ↔ Fits A w (k + i) := by simp [Fits]

end Fits

-- A failure can be told about this token, if there is one.
def Told (token : Option Value) : Prop := ∀ v, token = some v → ∃ text, v.text = .ok text

-- `w` is left to be read at `s`, and every token of it has a start and a stop.
structure State.Offers (ctx : Context) (s : State) (w : List Value) : Prop where
  sized : s.input.form ≠ .unsized
  left : s.input.stretch s.offset s.input.size = .ok w
  measured : ∀ v ∈ w, ∀ pos, ∃ start stop,
    s.map.startOf ctx.maps v pos = .ok start ∧ s.map.stopOf ctx.maps v pos = .ok stop

-- Where these tokens start if they come next: with the first of them, or right here if there are
-- none.
def State.startOfAll (s : State) : List Value → Eval Position
  | [] => pure s.pos
  | v :: _ => s.startOf v

namespace State.Offers

variable {ctx : Context} {s : State} {v : Value} {w : List Value}

theorem isAtEnd (h : s.Offers ctx []) : s.isAtEnd = .ok true := by
  have hlength := Tokens.length_stretch h.left
  rw [List.length_nil] at hlength
  have hend : s.input.size ≤ s.offset := by omega
  exact isAtEnd_eq_ok_iff.mpr ⟨h.sized, (decide_eq_true hend).symm⟩

theorem offset_lt (h : s.Offers ctx (v :: w)) : s.offset < s.input.size := by
  have hlength := Tokens.length_stretch h.left
  rw [List.length_cons] at hlength
  omega

theorem not_isAtEnd (h : s.Offers ctx (v :: w)) : s.isAtEnd = .ok false :=
  isAtEnd_eq_ok_iff.mpr ⟨h.sized, (decide_eq_false (Nat.not_le.mpr h.offset_lt)).symm⟩

theorem token (h : s.Offers ctx (v :: w)) : s.token = .ok v := by
  obtain ⟨_, _, hv, _, heq⟩ := (Tokens.stretch_eq_cons_iff h.offset_lt).mp h.left
  obtain ⟨rfl, rfl⟩ := List.cons.inj heq
  exact hv

theorem next (h : s.Offers ctx (v :: w)) (pos : Position) :
    Offers ctx { s with offset := s.offset + 1, pos } w := by
  obtain ⟨_, _, _, hrest, heq⟩ := (Tokens.stretch_eq_cons_iff h.offset_lt).mp h.left
  obtain ⟨rfl, rfl⟩ := List.cons.inj heq
  exact ⟨h.sized, hrest, fun v hv => h.measured v (List.mem_cons_of_mem _ hv)⟩

-- What is left behind the tokens that have been read.
theorem behind {next : State} {k : Nat} (h : s.Offers ctx w)
    (hnext : (s.consumeAll (w.take k)).Returns ctx next) : next.Offers ctx (w.drop k) := by
  induction k generalizing s w with
  | zero =>
    cases consumeAll_nil_returns_iff.mp hnext
    exact h
  | succ k ih =>
    cases w with
    | nil =>
      cases consumeAll_nil_returns_iff.mp hnext
      exact h
    | cons v w =>
      obtain ⟨pos, _, hnext⟩ := consumeAll_cons_returns_iff.mp hnext
      exact ih (h.next pos) hnext

-- It takes no more to report a token than that the token has a text.
theorem exists_unexpected (h : s.Offers ctx w) (hw : Told w.head?) (expected : List Value) :
    ∃ m, (s.unexpected expected).Returns ctx m := by
  cases w with
  | nil => exact ⟨_, unexpected_returns_iff.mpr (.inl ⟨h.isAtEnd, rfl⟩)⟩
  | cons v w =>
    obtain ⟨start, _, hstart, _⟩ := h.measured v List.mem_cons_self s.pos
    obtain ⟨text, htext⟩ := hw v rfl
    exact ⟨_, unexpected_returns_iff.mpr
      (.inr ⟨h.not_isAtEnd, v, start, text, h.token, hstart, htext, rfl⟩)⟩

end State.Offers

namespace Result

variable {α β : Type} {consumed : Bool} {offset : Nat} {labels : List Value} {value : α}
  {r : Result α}

-- A failure at this place that expects this.
def FailsAt (consumed : Bool) (offset : Nat) (labels : List Value) (r : Result α) : Prop :=
  ∃ m, r = .error ⟨consumed, m⟩ ∧ m.offset = offset ∧ m.expected = labels

-- A success with this value that stops at this place.
def Gives (consumed : Bool) (offset : Nat) (value : α) (r : Result α) : Prop :=
  ∃ found, r = .ok found ∧ found.consumed = consumed ∧ found.state.offset = offset ∧
    found.value.value = value

theorem FailsAt.consumed_eq (h : r.FailsAt consumed offset labels) : r.consumed = consumed := by
  obtain ⟨m, rfl, _⟩ := h
  rfl

theorem FailsAt.map (h : r.FailsAt consumed offset labels) (f : α → β) :
    (r.map f).FailsAt consumed offset labels := by
  obtain ⟨m, rfl, hm⟩ := h
  exact ⟨m, rfl, hm⟩

theorem FailsAt.before {first : Success β} (hfirst : first.consumed = true)
    (h : r.FailsAt consumed offset labels) : (first.before r).FailsAt true offset labels := by
  obtain ⟨m, rfl, hm⟩ := h
  exact ⟨m, by simp [Success.before, hfirst], hm⟩

theorem Gives.consumed_eq (h : r.Gives consumed offset value) : r.consumed = consumed := by
  obtain ⟨found, rfl, hconsumed, _⟩ := h
  exact hconsumed

theorem Gives.map (h : r.Gives consumed offset value) (f : α → β) :
    (r.map f).Gives consumed offset (f value) := by
  obtain ⟨found, rfl, hconsumed, hoffset, rfl⟩ := h
  exact ⟨_, rfl, hconsumed, hoffset, rfl⟩

theorem Gives.before {first : Success β} (hfirst : first.consumed = true)
    (h : r.Gives consumed offset value) : (first.before r).Gives true offset value := by
  obtain ⟨found, rfl, _, hoffset, rfl⟩ := h
  exact ⟨_, rfl, by simp [hfirst], hoffset, rfl⟩

end Result

namespace Parser

open Result (FailsAt Gives)

variable {ctx : Context} {s : State} {told : Prop} {α β : Type} {p : Parser α}

-- Whatever `p` returns at `s` is like this, and it does return a result if what it has to show can
-- be told.
structure Ensures (p : Parser α) (ctx : Context) (s : State) (told : Prop)
    (spec : Result α → Prop) : Prop where
  result : ∀ r, (p.apply s).Returns ctx r → spec r
  returns : told → ∃ r, (p.apply s).Returns ctx r

namespace Ensures

variable {spec : Result α → Prop} {spec' : Result β → Prop} {consumed : Bool} {offset : Nat}
  {labels : List Value}

theorem imp {spec' : Result α → Prop} (h : p.Ensures ctx s told spec)
    (himp : ∀ r, spec r → spec' r) : p.Ensures ctx s told spec' :=
  ⟨fun r hr => himp r (h.result r hr), h.returns⟩

-- A parser that returns what another one does returns a result where that one does.
theorem self_of_returns {q : Parser α}
    (h : p.Ensures ctx s told fun r => (q.apply s).Returns ctx r) :
    q.Ensures ctx s told fun r => (q.apply s).Returns ctx r := by
  refine ⟨fun _ hr => hr, fun htold => ?_⟩
  obtain ⟨r, hr⟩ := h.returns htold
  exact ⟨r, h.result r hr⟩

theorem map {f : α → β} (h : p.Ensures ctx s told spec) (hspec : ∀ r, spec r → spec' (r.map f)) :
    (p.map f).Ensures ctx s told spec' := by
  constructor
  · intro r hr
    obtain ⟨r₀, hr₀, rfl⟩ := map_returns_iff.mp hr
    exact hspec r₀ (h.result r₀ hr₀)
  · intro htold
    obtain ⟨r, hr⟩ := h.returns htold
    exact ⟨_, map_returns_iff.mpr ⟨r, hr, rfl⟩⟩

theorem orElse_pure {a : α} (h : p.Ensures ctx s told spec) {spec' : Result α → Prop}
    (hspec : ∀ r, spec r → spec' (orGive a s r)) :
    (p <|> Parser.pure a).Ensures ctx s told spec' := by
  constructor
  · intro r hr
    obtain ⟨first, hfirst, rfl⟩ := orElse_pure_returns_iff.mp hr
    exact hspec first (h.result first hfirst)
  · intro htold
    obtain ⟨r, hr⟩ := h.returns htold
    exact ⟨_, orElse_pure_returns_iff.mpr ⟨r, hr, rfl⟩⟩

theorem orElse_pure_of_consumed {a : α} (h : p.Ensures ctx s told spec)
    (hspec : ∀ r, spec r → r.consumed = true) : (p <|> Parser.pure a).Ensures ctx s told spec := by
  refine h.orElse_pure fun r hr => ?_
  rwa [orGive, if_pos (hspec r hr)]

theorem bind_of_failsAt {f : α → Parser β}
    (h : p.Ensures ctx s told (FailsAt consumed offset labels)) :
    (p.bind f).Ensures ctx s told (FailsAt consumed offset labels) := by
  constructor
  · intro r hr
    obtain ⟨e, he, rfl⟩ | ⟨first, _, hfirst, _⟩ := bind_returns_iff.mp hr
    · obtain ⟨m, heq, hm⟩ := h.result _ he
      cases heq
      exact ⟨m, rfl, hm⟩
    · obtain ⟨_, heq, _⟩ := h.result _ hfirst
      cases heq
  · intro htold
    obtain ⟨r, hr⟩ := h.returns htold
    obtain ⟨m, rfl, _⟩ := h.result r hr
    exact ⟨_, bind_returns_iff.mpr (.inl ⟨_, hr, rfl⟩)⟩

theorem bind_of_ok {f : α → Parser β} {first : Success α} {spec : Result β → Prop}
    (hfirst : (p.apply s).Returns ctx (.ok first))
    (h : (f first.value.value).Ensures ctx first.state told spec)
    (hspec : ∀ r, spec r → spec' (first.before r)) : (p.bind f).Ensures ctx s told spec' := by
  constructor
  · intro r hr
    obtain ⟨e, he, _⟩ | ⟨first', next, hfirst', hnext, rfl⟩ := bind_returns_iff.mp hr
    · cases he.unique hfirst
    · cases hfirst'.unique hfirst
      exact hspec next (h.result next hnext)
  · intro htold
    obtain ⟨next, hnext⟩ := h.returns htold
    exact ⟨_, bind_returns_iff.mpr (.inr ⟨first, next, hfirst, hnext, rfl⟩)⟩

end Ensures

section Loop

variable {found all : List (Success α)} {last : State} {e : Failure} {consumed : Bool}
  {offset : Nat} {labels : List Value}

-- The successes of a repetition begin with any that follow each other.
theorem Advances.exists_of_repeats (h : Advances p ctx s found last)
    (hall : Repeats p ctx s all e) : ∃ rest, all = found ++ rest ∧ Repeats p ctx last rest e := by
  induction h generalizing all with
  | refl => exact ⟨all, rfl, hall⟩
  | more hr _ _ ih =>
    cases hall with
    | stop he => cases he.unique hr
    | more hr' _ hrest =>
      cases hr'.unique hr
      obtain ⟨rest, rfl, hlast⟩ := ih hrest
      exact ⟨rest, rfl, hlast⟩

theorem Advances.trailing_eq (h : Advances p ctx s found last)
    (hfound : ∀ r ∈ found, r.consumed = true) (e : Failure) :
    Gives (!found.isEmpty) last.offset (found.map fun r => r.value.value)
      (.ok (trailing s e found)) := by
  rw [trailing_eq_listed hfound]
  exact ⟨_, rfl, listed_consumed hfound s, congrArg State.offset h.listed_state,
    listed_value s found⟩

theorem Advances.rep0_ensures {spec : Result (List α) → Prop} (h : Advances p ctx s found last)
    (hlast : p.Ensures ctx last told (FailsAt consumed offset labels))
    (hspec : ∀ m : Message, m.offset = offset → m.expected = labels →
      spec (ended s ⟨consumed, m⟩ found)) :
    p.rep0.Ensures ctx s told spec := by
  constructor
  · intro r hr
    obtain ⟨all, e, hall, rfl⟩ := rep0_returns_iff.mp hr
    obtain ⟨rest, rfl, hrest⟩ := h.exists_of_repeats hall
    cases hrest with
    | stop he =>
      obtain ⟨m, heq, hoffset, hlabels⟩ := hlast.result _ he
      cases heq
      rw [List.append_nil]
      exact hspec m hoffset hlabels
    | more hnext _ _ =>
      obtain ⟨_, heq, _⟩ := hlast.result _ hnext
      cases heq
  · intro htold
    obtain ⟨r, hr⟩ := hlast.returns htold
    obtain ⟨m, rfl, _⟩ := hlast.result r hr
    exact ⟨_, rep0_returns_iff.mpr ⟨found, _, h.repeats hr, rfl⟩⟩

end Loop

end Parser

namespace State.Offers

open Result

variable {ctx : Context} {s : State} {t u : TokenParser} {A B : Value → Bool} {v : Value}
  {w rest : List Value}

-- A token that fits is taken with its span.
theorem takes (h : s.Offers ctx (v :: rest)) (hv : t.test v = .ok true) :
    ∃ start stop, s.map.startOf ctx.maps v s.pos = .ok start ∧
      s.map.stopOf ctx.maps v s.pos = .ok stop ∧
      (t.apply s).Returns ctx (.ok ⟨true, ⟨v, start, stop⟩,
        { s with offset := s.offset + 1, pos := stop }, .empty⟩) := by
  obtain ⟨start, stop, hstart, hstop⟩ := h.measured v List.mem_cons_self s.pos
  exact ⟨start, stop, hstart, hstop, TokenParser.apply_returns_iff.mpr
    (.inr ⟨h.not_isAtEnd, v, start, stop, h.token, hv, hstart, hstop, rfl⟩)⟩

theorem reads (h : s.Offers ctx (v :: rest)) (hv : t.test v = .ok true) :
    ∃ r, (t.apply s).Returns ctx (.ok r) ∧ r.consumed = true ∧ r.value.value = v ∧
      r.state.offset = s.offset + 1 ∧ r.state.Offers ctx rest := by
  obtain ⟨start, stop, _, _, hr⟩ := h.takes hv
  exact ⟨_, hr, rfl, rfl, rfl, h.next stop⟩

theorem refused (h : s.Offers ctx w) (hw : ∀ v, w.head? = some v → t.test v = .ok false) :
    t.Refuses s := by
  cases w with
  | nil => exact .inl h.isAtEnd
  | cons v rest => exact .inr ⟨h.not_isAtEnd, v, h.token, hw v rfl⟩

-- At the end and at a token that does not fit, a token parser fails without consuming.
theorem refuses (h : s.Offers ctx w) (ht : ∀ v ∈ w, t.test v = .ok (A v)) (hfits : ¬ Fits A w 0) :
    t.toParser.Ensures ctx s (Told w[0]?) (FailsAt false s.offset t.expected) := by
  have hstops : t.Refuses s := by
    refine h.refused fun v hv => ?_
    have hmisfit : A v = false := by simpa [Fits, ← List.head?_eq_getElem?, hv] using hfits
    rw [ht v (List.mem_of_head? hv), hmisfit]
  constructor
  · intro r hr
    obtain ⟨_, m, hm, rfl⟩ | ⟨hatEnd, token, _, _, htoken, hfits, _⟩ :=
      TokenParser.apply_returns_iff.mp hr
    · exact ⟨m, rfl, State.offset_of_unexpected hm, TokenParser.expected_of_unexpected hm⟩
    · obtain hend | ⟨_, token', htoken', hmisfits⟩ := hstops
      · cases hatEnd.symm.trans hend
      · cases htoken.symm.trans htoken'
        cases hfits.symm.trans hmisfits
  · intro htold
    rw [← List.head?_eq_getElem?] at htold
    obtain ⟨m, hm⟩ := h.exists_unexpected htold t.expected
    exact ⟨_, TokenParser.apply_returns_iff.mpr (.inl ⟨hstops, m, hm, rfl⟩)⟩

end State.Offers

end Parsing
