import Parsing.Message
import Parsing.Proofs.Correspondence.Agreement
import Parsing.Proofs.Stretch

namespace Parsing

open Eval

-- `ts'` is what is left of `ts` behind its first `n` tokens.
structure Tokens.Shifted (n : Nat) (ts ts' : Tokens) : Prop where
  sliceable : ts.Sliceable
  sliceable_rest : ts'.Sliceable
  le_size : n ≤ ts.size
  drop_eq : ts.items.toList.drop n = ts'.items.toList

def Message.shift (n : Nat) (m : Message) : Message := { m with offset := n + m.offset }

namespace Tokens.Shifted

variable {n : Nat} {ts ts' : Tokens}

theorem size_eq (h : ts.Shifted n ts') : ts.size = n + ts'.size := by
  have hlength := congrArg List.length h.drop_eq
  have hle := h.le_size
  simp only [List.length_drop, Array.length_toList] at hlength
  unfold size at hle ⊢
  omega

theorem getElem?_eq (h : ts.Shifted n ts') (i : Nat) : ts.items[n + i]? = ts'.items[i]? := by
  rw [← Array.getElem?_toList, ← Array.getElem?_toList, ← h.drop_eq, List.getElem?_drop]

theorem get_eq (h : ts.Shifted n ts') (i : Nat) : ts.get (n + i) = ts'.get i := by
  rw [h.sliceable.get_eq_getElem?, h.sliceable_rest.get_eq_getElem?, h.getElem?_eq]

theorem length_agree (h : ts.Shifted n ts') :
    Fallible.Agree (fun size size' => size = n + size') ts.length ts'.length := by
  rw [Tokens.length_eq_ok_iff.mpr ⟨h.sliceable.form_ne_unsized, rfl⟩,
    Tokens.length_eq_ok_iff.mpr ⟨h.sliceable_rest.form_ne_unsized, rfl⟩]
  exact .ok h.size_eq

theorem slice_agree (h : ts.Shifted n ts') (a b : Nat) :
    Fallible.Agree (fun part part' => part.items = part'.items)
      (ts.slice (n + a) (n + b)) (ts'.slice a b) := by
  obtain ⟨form, hslice⟩ := h.sliceable.slice_eq_min (n + a) (n + b)
  obtain ⟨form', hslice'⟩ := h.sliceable_rest.slice_eq_min a b
  rw [hslice, hslice', h.size_eq, Nat.add_min_add_left, Nat.add_min_add_left]
  refine .ok (Array.toList_inj.mp ?_)
  rw [Array.toList_extract, Array.toList_extract, List.extract_eq_take_drop,
    List.extract_eq_take_drop, Nat.add_sub_add_left, ← List.drop_drop, h.drop_eq]

end Tokens.Shifted

end Parsing
