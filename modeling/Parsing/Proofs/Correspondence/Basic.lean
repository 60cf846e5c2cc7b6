import Parsing.Parser.Basic
import Parsing.Proofs.Correspondence.Agreement
import Parsing.Proofs.Correspondence.Shift

namespace Parsing

open Eval

-- Two settings of which the second has the tokens that the first one has behind `front` others.
structure Pairing where
  front : Nat
  ctx : Context
  ctx' : Context
  input : Tokens
  input' : Tokens
  map : SourceMap
  map' : SourceMap
  debug_eq : ctx.debug = ctx'.debug
  shifted : input.Shifted front input'
  startOf_eq : ∀ token ∈ input'.items, ∀ pos,
    map.startOf ctx.maps token pos = map'.startOf ctx'.maps token pos
  stopOf_eq : ∀ token ∈ input'.items, ∀ pos,
    map.stopOf ctx.maps token pos = map'.stopOf ctx'.maps token pos

namespace Pairing

-- Under one context, it is enough that the same maps are meant.
def within (ctx : Context) (map map' : SourceMap) {front : Nat} {input input' : Tokens}
    (shifted : input.Shifted front input')
    (hmap : ∀ token ∈ input'.items, map.resolve ctx.maps token = map'.resolve ctx.maps token) :
    Pairing where
  front := front
  ctx := ctx
  ctx' := ctx
  input := input
  input' := input'
  map := map
  map' := map'
  debug_eq := rfl
  shifted := shifted
  startOf_eq token hmem pos := by rw [SourceMap.startOf, SourceMap.startOf, hmap token hmem]
  stopOf_eq token hmem pos := by rw [SourceMap.stopOf, SourceMap.stopOf, hmap token hmem]

variable (P : Pairing) {α β : Type}

-- The same place among the tokens that both settings have.
inductive States : State → State → Prop
  | mk (offset : Nat) (pos : Position) :
      States ⟨P.input, P.front + offset, pos, P.map⟩ ⟨P.input', offset, pos, P.map'⟩

inductive Successes : Success α → Success α → Prop
  | mk {consumed value s s' m} : P.States s s' →
      Successes ⟨consumed, value, s, m⟩ ⟨consumed, value, s', m⟩

inductive Failures : Failure → Failure → Prop
  | mk {consumed m} : Failures ⟨consumed, m.shift P.front⟩ ⟨consumed, m⟩

inductive Results : Result α → Result α → Prop
  | ok : P.Successes r r' → Results (.ok r) (.ok r')
  | error : P.Failures e e' → Results (.error e) (.error e')

-- Computations that end alike in the two settings.
def Agree (R : α → β → Prop) (x : Eval α) (y : Eval β) : Prop := AgreeAcross P.ctx P.ctx' R x y

-- A parser that cannot tell the settings apart.
def Respected (p : Parser α) : Prop :=
  ∀ ⦃s s'⦄, P.States s s' → P.Agree P.Results (p.apply s) (p.apply s')

-- A token that can be taken out is one of those that both settings measure alike.
theorem get_agree (i : Nat) :
    Fallible.Agree (fun token token' => token = token' ∧ token ∈ P.input'.items)
      (P.input.get (P.front + i)) (P.input'.get i) := by
  rw [P.shifted.get_eq, P.shifted.sliceable_rest.get_eq_getElem?]
  cases hitem : P.input'.items[i]? with
  | none => exact .error
  | some token => exact .ok ⟨rfl, Array.mem_of_getElem? hitem⟩

-- The same stretch of the tokens, taken out of either sequence.
theorem slice_agree (a b : Nat) :
    Fallible.Agree
      (fun part part' => part.items = part'.items ∧
        ∀ token ∈ part'.items.toList, token ∈ P.input'.items)
      (P.input.slice (P.front + a) (P.front + b)) (P.input'.slice a b) := by
  obtain ⟨form, hrest⟩ := P.shifted.sliceable_rest.slice_eq_min a b
  have hagree := P.shifted.slice_agree a b
  rw [hrest] at hagree ⊢
  obtain ⟨part, hpart, hitems⟩ := hagree.flip.exists_ok
  rw [hpart]
  refine .ok ⟨hitems, fun token hmem => ?_⟩
  rw [Array.toList_extract, List.extract_eq_take_drop] at hmem
  exact Array.mem_toList_iff.mp (List.mem_of_mem_drop (List.mem_of_mem_take hmem))

variable {P}

namespace Successes

variable {r r' : Success α} {s s' : State}

-- Successes whose spans end where their states are.
theorem upTo (h : P.States s s') (consumed : Bool) (value : α) (start : Position) (m : Message) :
    P.Successes ⟨consumed, ⟨value, start, s.pos⟩, s, m⟩
      ⟨consumed, ⟨value, start, s'.pos⟩, s', m⟩ := by
  obtain ⟨offset, pos⟩ := h
  exact .mk (.mk offset pos)

-- Successes that have read nothing.
theorem still (h : P.States s s') (value : α) (m : Message) :
    P.Successes ⟨false, ⟨value, s.pos, s.pos⟩, s, m⟩
      ⟨false, ⟨value, s'.pos, s'.pos⟩, s', m⟩ := by
  obtain ⟨offset, pos⟩ := h
  exact .mk (.mk offset pos)

theorem value_eq (h : P.Successes r r') : r.value = r'.value := by
  obtain ⟨_⟩ := h
  rfl

theorem state (h : P.Successes r r') : P.States r.state r'.state := by
  obtain ⟨h⟩ := h
  exact h

end Successes

namespace States

variable {s s' next next' : State} {token : Value}

theorem pos_eq (h : P.States s s') : s.pos = s'.pos := by
  obtain ⟨offset, pos⟩ := h
  rfl

theorem isAtEnd_eq (h : P.States s s') : s.isAtEnd = s'.isAtEnd := by
  obtain ⟨offset, pos⟩ := h
  rw [State.isAtEnd_eq_ok_iff.mpr ⟨P.shifted.sliceable.form_ne_unsized, rfl⟩,
    State.isAtEnd_eq_ok_iff.mpr ⟨P.shifted.sliceable_rest.form_ne_unsized, rfl⟩, P.shifted.size_eq]
  simp only [Nat.add_le_add_iff_left]

theorem token_agree (h : P.States s s') :
    Fallible.Agree (fun token token' => token = token' ∧ token ∈ P.input'.items)
      s.token s'.token := by
  obtain ⟨offset, pos⟩ := h
  exact P.get_agree offset

theorem remaining_eq (h : P.States s s') : s.remaining = s'.remaining := by
  obtain ⟨offset, pos⟩ := h
  rw [State.remaining, State.remaining, P.shifted.size_eq, Nat.add_sub_add_left]

theorem offset_beq (hnext : P.States next next') (h : P.States s s') :
    (next.offset == s.offset) = (next'.offset == s'.offset) := by
  obtain ⟨offset, pos⟩ := h
  obtain ⟨offset', pos'⟩ := hnext
  rw [Bool.eq_iff_iff, beq_iff_eq, beq_iff_eq]
  exact Nat.add_left_cancel_iff

theorem startOf_agree (h : P.States s s') (htoken : token ∈ P.input'.items) :
    P.Agree Eq (s.startOf token) (s'.startOf token) := by
  obtain ⟨offset, pos⟩ := h
  exact .of_eq (P.startOf_eq token htoken pos)

theorem stopOf_agree (h : P.States s s') (htoken : token ∈ P.input'.items) (pos : Position) :
    P.Agree Eq (s.stopOf token pos) (s'.stopOf token pos) := by
  obtain ⟨offset, _⟩ := h
  exact .of_eq (P.stopOf_eq token htoken pos)

theorem consume_agree (h : P.States s s') (htoken : token ∈ P.input'.items) :
    P.Agree P.States (s.consume token) (s'.consume token) := by
  have hstop := h.stopOf_agree htoken
  obtain ⟨offset, pos⟩ := h
  refine .bind (hstop pos) fun stop _ heq => .pure ?_
  subst heq
  exact .mk (offset + 1) stop

theorem consumeAll_agree (h : P.States s s') {tokens : List Value}
    (htokens : ∀ token ∈ tokens, token ∈ P.input'.items) :
    P.Agree P.States (s.consumeAll tokens) (s'.consumeAll tokens) := by
  have hwalk (pos : Position) : P.Agree Eq
      (tokens.foldlM (fun pos token => s.stopOf token pos) pos)
      (tokens.foldlM (fun pos token => s'.stopOf token pos) pos) := by
    induction tokens generalizing pos with
    | nil => exact .pure rfl
    | cons token tokens ih =>
      rw [List.foldlM_cons, List.foldlM_cons]
      refine .bind (h.stopOf_agree (htokens token List.mem_cons_self) pos) fun stop _ heq => ?_
      subst heq
      exact ih (fun token htoken => htokens token (List.mem_cons_of_mem _ htoken)) stop
  obtain ⟨offset, pos⟩ := h
  refine .bind (hwalk pos) fun stop _ heq => .pure ?_
  subst heq
  rw [Nat.add_assoc]
  exact .mk (offset + tokens.length) stop

theorem unexpected_agree (h : P.States s s') (expected : List Value) :
    P.Agree (fun m m' => m = m'.shift P.front) (s.unexpected expected)
      (s'.unexpected expected) := by
  have hoffset : (s.offset : Int) = P.front + s'.offset := by
    obtain ⟨offset, pos⟩ := h
    exact Int.natCast_add _ _
  refine .bind (.liftM (.of_eq h.isAtEnd_eq)) fun atEnd _ heq => ?_
  subst heq
  cases atEnd with
  | true => exact .pure (by rw [Message.shift, hoffset, h.pos_eq])
  | false =>
    refine .bind (.liftM h.token_agree) fun token _ ⟨heq, hmem⟩ => ?_
    subst heq
    refine .bind (h.startOf_agree hmem) fun start _ heq => ?_
    subst heq
    refine .bind (.liftM (.of_eq rfl)) fun text _ heq => .pure ?_
    rw [Message.shift, hoffset, heq]

end States

end Pairing

end Parsing
