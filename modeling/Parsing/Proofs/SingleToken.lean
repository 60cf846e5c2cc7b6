import Mathlib.Data.List.TakeWhile
import Parsing.Proofs.Contract
import Parsing.Proofs.TokenRun

namespace Parsing

open Eval Parsing.Parser

variable {ctx : Context} {s : State} {w : List Value}

namespace TokenParser

variable {t u : TokenParser} {v : Value}

-- The tokens that fit, if `t` can tell.
def takes (t : TokenParser) (v : Value) : Bool := (t.test v).toOption.getD false

theorem takes_of_fits (h : t.test v = .ok true) : t.takes v = true := by
  rw [takes, h]
  rfl

-- Failures can be told about all of these tokens that do not fit.
def Tells (t : TokenParser) (w : List Value) : Prop :=
  ∀ v ∈ w, t.test v = .ok false → ∃ text, v.text = .ok text

-- The tokens up to the one that ends a run are asked about one by one.
theorem Tells.drop {n k : Nat} (h : t.Tells (w.take (n + 1))) (hk : k ≤ n) :
    t.Tells ((w.drop k).take 1) := by
  intro v hv
  rw [List.take_drop] at hv
  exact h v (List.take_subset_take_left w (by omega) (List.mem_of_mem_drop hv))

theorem Refuses.told (h : t.Refuses s) (hs : s.Offers ctx w) (hw : t.Tells (w.take 1)) :
    Told w.head? := by
  cases w with
  | nil => exact fun _ hv => nomatch hv
  | cons v rest =>
    rintro v' ⟨⟩
    exact hw v (by simp) (h.test_eq hs.not_isAtEnd hs.token)

end TokenParser

namespace Told

theorem tells (hw : Told w.head?) (t : TokenParser) : t.Tells (w.take 1) := by
  intro v hv _
  cases w with
  | nil => cases hv
  | cons v' rest =>
    obtain rfl := List.mem_singleton.mp hv
    exact hw v rfl

-- The tokens of a run fit, so that nothing is told about any but the one that ends it.
theorem tells_run {t : TokenParser} (hw : Told w[(w.takeWhile t.takes).length]?) :
    t.Tells (w.take ((w.takeWhile t.takes).length + 1)) := by
  intro v hv hrefused
  have hrun : w.take (w.takeWhile t.takes).length = w.takeWhile t.takes :=
    (List.prefix_iff_eq_take.mp (List.takeWhile_prefix t.takes)).symm
  rw [List.take_add_one, hrun, List.mem_append, Option.mem_toList] at hv
  obtain hv | hv := hv
  · have htakes := List.mem_takeWhile_imp hv
    rw [TokenParser.takes, hrefused] at htakes
    cases htakes
  · exact hw v hv

end Told

namespace State.Offers

theorem exists_token_result {t : TokenParser} (hs : s.Offers ctx w)
    (ht : ∀ v ∈ w, ∃ fits, t.test v = .ok fits) (hw : t.Tells (w.take 1)) :
    ∃ r, (t.apply s).Returns ctx r := by
  have hfails (hrefused : t.Refuses s) : ∃ r, (t.apply s).Returns ctx r := by
    obtain ⟨m, hm⟩ := hs.exists_unexpected (hrefused.told hs hw) t.expected
    exact ⟨_, TokenParser.apply_returns_iff.mpr (.inl ⟨hrefused, m, hm, rfl⟩)⟩
  cases w with
  | nil => exact hfails (.inl hs.isAtEnd)
  | cons v rest =>
    obtain ⟨fits, hfits⟩ := ht v List.mem_cons_self
    cases fits with
    | true =>
      obtain ⟨_, _, _, _, hr⟩ := hs.takes hfits
      exact ⟨_, hr⟩
    | false => exact hfails (.inr ⟨hs.not_isAtEnd, v, hs.token, hfits⟩)

-- A token that does not fit has to be shown.
theorem token_faults {t : TokenParser} {v : Value} {rest : List Value} {fault : Fault}
    (hs : s.Offers ctx (v :: rest)) (hrefused : t.test v = .ok false)
    (htext : v.text = .error fault) : (t.apply s).Faults ctx fault := by
  obtain ⟨start, _, hstart, _⟩ := hs.measured v List.mem_cons_self s.pos
  have hmessage : (s.unexpected t.expected).Faults ctx fault :=
    faults_bind_iff.mpr (.inr ⟨false, hs.not_isAtEnd, faults_bind_iff.mpr (.inr ⟨v, hs.token,
      faults_bind_iff.mpr (.inr ⟨start, hstart, faults_bind_iff.mpr (.inl htext)⟩)⟩)⟩)
  exact faults_bind_iff.mpr (.inr ⟨false, hs.not_isAtEnd, faults_bind_iff.mpr (.inr ⟨v, hs.token,
    faults_bind_iff.mpr (.inr ⟨false, hrefused, faults_bind_iff.mpr (.inl hmessage)⟩)⟩)⟩)

section Scan

variable {t : TokenParser} {A : Value → Bool}

theorem refused_of_run_nil (hs : s.Offers ctx w) (ht : ∀ v ∈ w, t.test v = .ok (A v))
    (hrun : w.takeWhile A = []) : t.Refuses s := by
  refine hs.refused fun v hv => ?_
  obtain ⟨rest, rfl⟩ := List.head?_eq_some_iff.mp hv
  have hmisfit : A v = false := by
    by_cases hfits : A v = true
    · simp [hfits] at hrun
    · exact Bool.eq_false_iff.mpr hfits
  rw [ht v List.mem_cons_self, hmisfit]

-- The run is all that fits from here on.
theorem exists_run (hs : s.Offers ctx w) (hle : s.offset ≤ s.input.size)
    (ht : ∀ v ∈ w, t.test v = .ok (A v)) : ∃ next, t.Run ctx s (w.takeWhile A) next := by
  induction w generalizing s with
  | nil => exact ⟨s, .stop hle (hs.refused_of_run_nil ht rfl)⟩
  | cons v rest ih =>
    cases hv : A v with
    | false =>
      have hnil : (v :: rest).takeWhile A = [] := List.takeWhile_cons_of_neg (by simp [hv])
      rw [hnil]
      exact ⟨s, .stop hle (hs.refused_of_run_nil ht hnil)⟩
    | true =>
      have hfits : t.test v = .ok true := hv ▸ ht v List.mem_cons_self
      obtain ⟨_, pos, _, hpos⟩ := hs.measured v List.mem_cons_self s.pos
      obtain ⟨next, hrun⟩ := ih (hs.next pos) hs.offset_lt
        fun u hu => ht u (List.mem_cons_of_mem _ hu)
      rw [List.takeWhile_cons_of_pos hv]
      exact ⟨next, hrun.more hs.not_isAtEnd hs.token hfits hpos⟩

theorem rep_returns_of_run_nil (hs : s.Offers ctx w) (hinput : s.input.Sliceable)
    (ht : ∀ v ∈ w, t.test v = .ok (A v)) (hrun : w.takeWhile A = []) {m : Message}
    (hm : (s.unexpected t.expected).Returns ctx m) :
    (t.rep.apply s).Returns ctx (.error ⟨false, m⟩) :=
  TokenParser.rep_returns_iff.mpr (.inr
    ⟨TokenParser.run?_returns_none_of_refused hinput (hs.refused_of_run_nil ht hrun), m, hm, rfl⟩)

theorem rep_returns_run (hs : s.Offers ctx w) (hinput : s.input.Sliceable)
    (ht : ∀ v ∈ w, t.test v = .ok (A v)) (hrun : w.takeWhile A ≠ []) :
    ∃ start next, (s.startOfAll (w.takeWhile A)).Returns ctx start ∧
      (s.consumeAll (w.takeWhile A)).Returns ctx next ∧
      (t.rep.apply s).Returns ctx
        (.ok ⟨true, ⟨w.takeWhile A, start, next.pos⟩, next, t.runMessage⟩) := by
  cases w with
  | nil => exact absurd rfl hrun
  | cons v rest =>
    have hv : A v = true := by
      cases hv : A v with
      | false => exact absurd (List.takeWhile_cons_of_neg (by simp [hv])) hrun
      | true => rfl
    obtain ⟨start, _, hstart, _⟩ := hs.measured v List.mem_cons_self s.pos
    obtain ⟨next, hall⟩ := hs.exists_run (Nat.le_of_lt hs.offset_lt) ht
    have hfirst : (s.startOfAll ((v :: rest).takeWhile A)).Returns ctx start := by
      rw [List.takeWhile_cons_of_pos hv]
      exact hstart
    exact ⟨start, next, hfirst, hall.consumed, TokenParser.rep_returns_iff.mpr
      (.inl ⟨_, hall.run?_returns_some hinput hrun hs.token hstart, rfl⟩)⟩

end Scan

end State.Offers

namespace Parser

-- Whatever `p` returns, the parser `t` of single tokens returns too.
def ReadsAs (ctx : Context) (p : Parser Value) (t : TokenParser) : Prop :=
  ∀ ⦃s r⦄, (p.apply s).Returns ctx r → (t.apply s).Returns ctx r

namespace ReadsAs

variable {p : Parser Value} {t : TokenParser} {found : List (Success Value)} {e : Failure}

theorem repeats (h : p.ReadsAs ctx t) (hfound : Repeats p ctx s found e) :
    Repeats t.toParser ctx s found e := by
  induction hfound with
  | stop he => exact .stop (h he)
  | more hr hmoves _ ih => exact .more (h hr) hmoves ih

theorem rep_returns {r : Result (List Value)} (h : p.ReadsAs ctx t) (hinput : s.input.Sliceable)
    (hr : (p.rep.apply s).Returns ctx r) : (t.rep.apply s).Returns ctx r := by
  obtain ⟨found, e, hfound, rfl⟩ := rep_returns_iff.mp hr
  exact TokenParser.rep_returns_of_repeats (h.repeats hfound) hinput

theorem rep0_returns {r : Result (List Value)} (h : p.ReadsAs ctx t) (hinput : s.input.Sliceable)
    (hr : (p.rep0.apply s).Returns ctx r) : (t.rep0.apply s).Returns ctx r := by
  obtain ⟨found, e, hfound, rfl⟩ := rep0_returns_iff.mp hr
  exact TokenParser.rep0_returns_of_repeats (h.repeats hfound) hinput

-- Every success takes the next token of the run, and no step is asked for behind the token that
-- ends it.
theorem exists_repeats (h : p.ReadsAs ctx t) (hs : s.Offers ctx w)
    (hsteps : ∀ ⦃s' k⦄, k ≤ (w.takeWhile t.takes).length → s'.Offers ctx (w.drop k) →
      ∃ r, (p.apply s').Returns ctx r) : ∃ found e, Repeats p ctx s found e := by
  induction w generalizing s with
  | nil =>
    obtain ⟨r | e, hr⟩ := hsteps (Nat.zero_le _) hs
    · obtain ⟨_, _, _, heq⟩ | ⟨hatEnd, _⟩ := TokenParser.apply_returns_iff.mp (h hr)
      · cases heq
      · cases hatEnd.symm.trans hs.isAtEnd
    · exact ⟨[], e, .stop hr⟩
  | cons v rest ih =>
    obtain ⟨r | e, hr⟩ := hsteps (Nat.zero_le _) hs
    · obtain ⟨_, _, _, heq⟩ | ⟨_, v', _, stop, hv, hfits, _, _, heq⟩ :=
        TokenParser.apply_returns_iff.mp (h hr)
      · cases heq
      · cases heq
        cases hv.symm.trans hs.token
        have hrun : (v :: rest).takeWhile t.takes = v :: rest.takeWhile t.takes :=
          List.takeWhile_cons_of_pos (TokenParser.takes_of_fits hfits)
        rw [hrun] at hsteps
        obtain ⟨found, e, hfound⟩ := ih (hs.next stop) fun _ _ hk hs' =>
          hsteps (Nat.succ_le_succ hk) hs'
        exact ⟨_, e, .more hr (.inl rfl) hfound⟩
    · exact ⟨[], e, .stop hr⟩

variable {told : Prop}

theorem rep_ensures (h : p.ReadsAs ctx t) (hs : s.Offers ctx w) (hinput : s.input.Sliceable)
    (hsteps : told → ∀ ⦃s' k⦄, k ≤ (w.takeWhile t.takes).length → s'.Offers ctx (w.drop k) →
      ∃ r, (p.apply s').Returns ctx r) :
    p.rep.Ensures ctx s told fun r => (t.rep.apply s).Returns ctx r := by
  refine ⟨fun r hr => h.rep_returns hinput hr, fun htold => ?_⟩
  obtain ⟨found, e, hfound⟩ := h.exists_repeats hs (hsteps htold)
  exact ⟨_, rep_returns_iff.mpr ⟨found, e, hfound, rfl⟩⟩

theorem rep0_ensures (h : p.ReadsAs ctx t) (hs : s.Offers ctx w) (hinput : s.input.Sliceable)
    (hsteps : told → ∀ ⦃s' k⦄, k ≤ (w.takeWhile t.takes).length → s'.Offers ctx (w.drop k) →
      ∃ r, (p.apply s').Returns ctx r) :
    p.rep0.Ensures ctx s told fun r => (t.rep0.apply s).Returns ctx r := by
  refine ⟨fun r hr => h.rep0_returns hinput hr, fun htold => ?_⟩
  obtain ⟨found, e, hfound⟩ := h.exists_repeats hs (hsteps htold)
  exact ⟨_, rep0_returns_iff.mpr ⟨found, e, hfound, rfl⟩⟩

end ReadsAs

end Parser

end Parsing
