import Parsing.Tokens
import Parsing.Proofs.Returns

namespace Parsing.Tokens

-- Texts, lists, tuples, bytes and ranges.
def Sliceable (ts : Tokens) : Prop :=
  match ts.form with
  | .deque | .keyed | .unordered | .unsized => False
  | _ => True

-- The tokens at the places from `start` on that lie before `stop`.
def stretch (ts : Tokens) (start stop : Nat) : Fallible (List Value) :=
  (List.range' start (stop - start)).mapM ts.get

variable {ts : Tokens} {a b c : Nat} {vs ws : List Value}

@[simp] theorem stretch_self (ts : Tokens) (a : Nat) : ts.stretch a a = .ok [] := by
  simp [stretch, pure, Except.pure]

theorem stretch_eq_cons_iff (h : a < b) :
    ts.stretch a b = .ok vs ↔
      ∃ v rest, ts.get a = .ok v ∧ ts.stretch (a + 1) b = .ok rest ∧ vs = v :: rest := by
  have hcount : b - a = b - (a + 1) + 1 := by omega
  simp only [stretch, hcount, List.range'_succ, List.mapM_cons, Fallible.bind_eq_ok_iff,
    Fallible.pure_eq_ok_iff]
  constructor
  · intro h
    rcases h with ⟨v, hv, rest, hrest, rfl⟩
    exact ⟨v, rest, hv, hrest, rfl⟩
  · intro h
    rcases h with ⟨v, rest, hv, hrest, rfl⟩
    exact ⟨v, hv, rest, hrest, rfl⟩

theorem stretch_append (hvs : ts.stretch a b = .ok vs) (hws : ts.stretch b c = .ok ws)
    (hab : a ≤ b) (hbc : b ≤ c) : ts.stretch a c = .ok (vs ++ ws) := by
  have hplaces : List.range' a (c - a) = List.range' a (b - a) ++ List.range' b (c - b) := by
    rw [show c - a = (b - a) + (c - b) by omega, ← List.range'_append_1,
      show a + (b - a) = b by omega]
  rw [stretch, hplaces, List.mapM_append]
  exact Fallible.bind_eq_ok_iff.mpr ⟨vs, hvs, Fallible.bind_eq_ok_iff.mpr ⟨ws, hws, rfl⟩⟩

theorem length_stretch (h : ts.stretch a b = .ok vs) : vs.length = b - a := by
  induction hn : b - a generalizing a vs with
  | zero =>
    have hnil : ts.stretch a b = .ok [] := by simp [stretch, hn, pure, Except.pure]
    rw [← Except.ok.inj (hnil.symm.trans h), List.length_nil]
  | succ n ih =>
    obtain ⟨v, rest, _, hrest, rfl⟩ := (stretch_eq_cons_iff (by omega)).mp h
    rw [List.length_cons, ih hrest (by omega)]

theorem exists_get_of_mem {v : Value} (h : ts.stretch a b = .ok vs) (hv : v ∈ vs) :
    ∃ i, a ≤ i ∧ i < b ∧ ts.get i = .ok v := by
  induction vs generalizing a with
  | nil => cases hv
  | cons w ws ih =>
    have hlength := length_stretch h
    rw [List.length_cons] at hlength
    obtain ⟨first, rest, hfirst, hrest, heq⟩ := (stretch_eq_cons_iff (by omega)).mp h
    obtain ⟨rfl, rfl⟩ := List.cons.inj heq
    obtain rfl | hv := List.mem_cons.mp hv
    · exact ⟨a, Nat.le_refl a, by omega, hfirst⟩
    · obtain ⟨i, hle, hlt, hi⟩ := ih hrest hv
      exact ⟨i, by omega, hlt, hi⟩

namespace Sliceable

theorem form_ne_unsized (h : ts.Sliceable) : ts.form ≠ .unsized := by
  intro hform
  simp [Sliceable, hform] at h

theorem get_eq_getElem? (h : ts.Sliceable) (i : Nat) :
    ts.get i = (ts.items[i]?).elim (.error .outOfRange) .ok := by
  cases hform : ts.form <;> simp_all [Sliceable, get] <;> rfl

theorem get_eq (h : ts.Sliceable) (ha : a < ts.size) : ts.get a = .ok ts.items[a] := by
  rw [h.get_eq_getElem?, Array.getElem?_eq_getElem ha]
  rfl

theorem slice_eq_min (h : ts.Sliceable) (a b : Nat) :
    ∃ form, ts.slice a b = .ok ⟨form, ts.items.extract (min a ts.size) (min b ts.size)⟩ := by
  cases hform : ts.form <;> simp_all [Sliceable, slice, pure, Except.pure]

theorem slice_eq (h : ts.Sliceable) (hb : b ≤ ts.size) (hab : a ≤ b) :
    ∃ form, ts.slice a b = .ok ⟨form, ts.items.extract a b⟩ := by
  obtain ⟨form, hslice⟩ := h.slice_eq_min a b
  rw [Nat.min_eq_left (Nat.le_trans hab hb), Nat.min_eq_left hb] at hslice
  exact ⟨form, hslice⟩

theorem of_slice {part : Tokens} (h : ts.slice a b = .ok part) : ts.Sliceable := by
  cases hform : ts.form <;> simp_all [Sliceable, slice, throw, throwThe, MonadExceptOf.throw]

theorem stretch_eq (h : ts.Sliceable) (hb : b ≤ ts.size) :
    ts.stretch a b = .ok (ts.items.extract a b).toList := by
  induction hn : b - a generalizing a with
  | zero =>
    rw [stretch, hn, Array.extract_eq_empty_of_le (by omega)]
    rfl
  | succ n ih =>
    have ha : a < ts.items.toList.length := by
      rw [Array.length_toList]
      exact Nat.lt_of_lt_of_le (by omega) hb
    refine (stretch_eq_cons_iff (by omega)).mpr ⟨_, _, h.get_eq ha, ih (by omega), ?_⟩
    rw [Array.toList_extract, Array.toList_extract, List.extract_eq_take_drop,
      List.extract_eq_take_drop, List.drop_eq_getElem_cons ha, hn,
      show b - (a + 1) = n by omega, List.take_succ_cons, Array.getElem_toList]

end Sliceable

theorem stretch_of_slice {part : Tokens} (h : ts.slice a b = .ok part) (hb : b ≤ ts.size)
    (hab : a ≤ b) : ts.stretch a b = .ok part.items.toList := by
  have hts := Sliceable.of_slice h
  obtain ⟨form, hslice⟩ := hts.slice_eq hb hab
  cases Except.ok.inj (hslice.symm.trans h)
  exact hts.stretch_eq hb

end Parsing.Tokens
