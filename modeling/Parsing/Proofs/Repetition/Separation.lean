import Mathlib.Order.Bounds.Basic
import Parsing.Characters
import Parsing.Proofs.Contract
import Parsing.Proofs.Repetition.Unfolding

namespace Parsing

open Eval Parsing.Parser

section Pairs

variable {α : Type} {A B : α → Bool} {w : List α} {n : Nat}

-- The tokens begin with `n` elements and as many terminators.
def Terminated (A B : α → Bool) (w : List α) (n : Nat) : Prop :=
  ∀ i < n, Fits A w (2 * i) ∧ Fits B w (2 * i + 1)

-- The tokens begin with `n` elements and separators between them.
def Separated (A B : α → Bool) (w : List α) (n : Nat) : Prop :=
  (∀ i < n, Fits A w (2 * i)) ∧ ∀ i < n - 1, Fits B w (2 * i + 1)

-- The pairs that the tokens begin with, one token of either kind.
def pairs (A B : α → Bool) : List α → List (α × α)
  | x :: y :: w => if A x && B y then (x, y) :: pairs A B w else []
  | _ => []

theorem terminated_cons_cons {x y : α} :
    Terminated A B (x :: y :: w) (n + 1) ↔ (A x = true ∧ B y = true) ∧ Terminated A B w n := by
  rw [Terminated, Nat.forall_lt_succ_left]
  simp [Terminated, Nat.mul_add]

theorem separated_cons {v : α} :
    Separated A B (v :: w) (n + 1) ↔ A v = true ∧ Terminated B A w n := by
  rw [Separated, Nat.forall_lt_succ_left]
  simp [Terminated, Nat.mul_add, forall_and, and_assoc, and_comm]

theorem terminated_iff_le : Terminated A B w n ↔ n ≤ (pairs A B w).length := by
  fun_induction pairs A B w generalizing n with
  | case1 x y w hfits ih =>
    rw [Bool.and_eq_true] at hfits
    cases n with
    | zero => simp [Terminated]
    | succ n => simp [terminated_cons_cons, hfits, ih]
  | case2 x y w hfits =>
    rw [Bool.and_eq_true] at hfits
    cases n with
    | zero => simp [Terminated]
    | succ n => simp [terminated_cons_cons, hfits]
  | case3 w hshort =>
    cases n with
    | zero => simp [Terminated]
    | succ n =>
      have hnot : ¬ Terminated A B w (n + 1) := by
        intro h
        obtain ⟨_, y, hy, _⟩ := h 0 (Nat.succ_pos n)
        match w, hshort with
        | [], _ => simp at hy
        | [x], _ => simp at hy
        | x :: y :: w, hshort => exact hshort x y w rfl
      simp [hnot]

theorem isGreatest_terminated (A B : α → Bool) (w : List α) :
    IsGreatest {n | Terminated A B w n} (pairs A B w).length :=
  ⟨terminated_iff_le.mpr (Nat.le_refl _), fun _ hn => terminated_iff_le.mp hn⟩

theorem isGreatest_separated {v : α} (hv : A v = true) (w : List α) :
    IsGreatest {n | Separated A B (v :: w) n} ((pairs B A w).length + 1) := by
  constructor
  · exact separated_cons.mpr ⟨hv, terminated_iff_le.mpr (Nat.le_refl _)⟩
  · intro n hn
    cases n with
    | zero => exact Nat.zero_le _
    | succ n => exact Nat.succ_le_succ (terminated_iff_le.mp (separated_cons.mp hn).2)

-- Behind the pairs that the tokens begin with there is none.
theorem pairs_drop (A B : α → Bool) (w : List α) :
    pairs A B (w.drop (2 * (pairs A B w).length)) = [] := by
  fun_induction pairs A B w with
  | case1 x y w hfits ih => simpa [Nat.mul_add] using ih
  | case2 x y w hfits => simp [pairs, hfits]
  | case3 w hshort => simpa using pairs.eq_2 A B w hshort

theorem getElem?_pairs {i : Nat} (hi : i < (pairs A B w).length) :
    ((pairs A B w)[i]?).map Prod.fst = w[2 * i]? ∧
      ((pairs A B w)[i]?).map Prod.snd = w[2 * i + 1]? := by
  fun_induction pairs A B w generalizing i with
  | case1 x y w hfits ih =>
    cases i with
    | zero => simp
    | succ i => simpa [Nat.mul_add] using ih (Nat.lt_of_succ_lt_succ hi)
  | case2 => simp at hi
  | case3 => simp at hi

-- The values are the first `n` of the tokens at the even places.
def EverySecond (w : List α) (n : Nat) (values : List α) : Prop :=
  values.length = n ∧ ∀ i < n, values[i]? = w[2 * i]?

theorem everySecond_fst (A B : α → Bool) (w : List α) :
    EverySecond w (pairs A B w).length ((pairs A B w).map Prod.fst) := by
  refine ⟨List.length_map _, fun i hi => ?_⟩
  rw [List.getElem?_map]
  exact (getElem?_pairs hi).1

theorem everySecond_snd (A B : α → Bool) (v : α) (w : List α) :
    EverySecond (v :: w) ((pairs B A w).length + 1) (v :: (pairs B A w).map Prod.snd) := by
  refine ⟨by simp, fun i hi => ?_⟩
  cases i with
  | zero => rfl
  | succ i =>
    have hsnd := (getElem?_pairs (Nat.lt_of_succ_lt_succ hi)).2
    simpa [Nat.mul_add] using hsnd

end Pairs

namespace State.Offers

open Result

variable {ctx : Context} {s : State} {t u : TokenParser} {A B : Value → Bool} {x y : Value}
  {w rest : List Value}

-- Two tokens that fit are read together.
theorem reads_pair (h : s.Offers ctx (x :: y :: rest)) (hx : t.test x = .ok true)
    (hy : u.test y = .ok true) (f : Value × Value → Value) :
    ∃ r, (((t.toParser.andThen u.toParser).map f).apply s).Returns ctx (.ok r) ∧
      r.consumed = true ∧ r.value.value = f (x, y) ∧ r.state.offset = s.offset + 2 ∧
      r.state.Offers ctx rest := by
  obtain ⟨first, hfirst, hconsumed, hx, hoffset, hnext⟩ := h.reads hx
  obtain ⟨second, hsecond, _, hy, hoffset', hlast⟩ := hnext.reads hy
  let both := (Result.ok second).map fun y => (first.value.value, y)
  have hboth : ((u.toParser.map fun y => (first.value.value, y)).apply first.state).Returns ctx
      both := map_returns_iff.mpr ⟨_, hsecond, rfl⟩
  refine ⟨_, map_returns_iff.mpr
    ⟨_, bind_returns_iff.mpr (.inr ⟨first, both, hfirst, hboth, rfl⟩), rfl⟩, ?_, ?_, ?_, hlast⟩
  · simp [hconsumed]
  · simp [Parsed.map, Parsed.withStart, hx, hy]
  · simp [hoffset, hoffset']

theorem stops_pair (h : s.Offers ctx w) (ht : ∀ v ∈ w, t.test v = .ok (A v))
    (hu : ∀ v ∈ w, u.test v = .ok (B v)) (hpairs : pairs A B w = [])
    (f : Value × Value → Value) :
    (Fits A w 0 → ((t.toParser.andThen u.toParser).map f).Ensures ctx s (Told w[1]?)
      (FailsAt true (s.offset + 1) u.expected)) ∧
    (¬ Fits A w 0 → ((t.toParser.andThen u.toParser).map f).Ensures ctx s (Told w[0]?)
      (FailsAt false s.offset t.expected)) := by
  constructor
  · intro hfits
    cases w with
    | nil => simp at hfits
    | cons x rest =>
      have hx : A x = true := by simpa using hfits
      have hy : ¬ Fits B rest 0 := by
        cases rest with
        | nil => simp
        | cons y rest => simpa [pairs, hx] using hpairs
      obtain ⟨first, hfirst, hconsumed, _, hoffset, hnext⟩ :=
        h.reads ((ht x List.mem_cons_self).trans (congrArg _ hx))
      have hu := hnext.refuses (fun v hv => hu v (List.mem_cons_of_mem _ hv)) hy
      rw [hoffset] at hu
      have hpair : (t.toParser.andThen u.toParser).Ensures ctx s (Told rest[0]?)
          (FailsAt true (s.offset + 1) u.expected) :=
        .bind_of_ok hfirst (hu.map fun r hr => hr.map _) fun r hr => hr.before hconsumed
      exact hpair.map fun r hr => hr.map f
  · intro hfits
    exact (h.refuses ht hfits).bind_of_failsAt.map fun r hr => hr.map f

theorem exists_advances_pairs (h : s.Offers ctx rest)
    (ht : ∀ v ∈ rest, t.test v = .ok (A v)) (hu : ∀ v ∈ rest, u.test v = .ok (B v))
    (f : Value × Value → Value) :
    ∃ found last, Advances ((t.toParser.andThen u.toParser).map f) ctx s found last ∧
      (∀ r ∈ found, r.consumed = true) ∧
      (found.map fun r => r.value.value) = (pairs A B rest).map f ∧
      last.offset = s.offset + 2 * (pairs A B rest).length ∧
      last.Offers ctx (rest.drop (2 * (pairs A B rest).length)) := by
  fun_induction pairs A B rest generalizing s with
  | case1 x y rest hfits ih =>
    rw [Bool.and_eq_true] at hfits
    obtain ⟨r, hr, hconsumed, hvalue, hoffset, hnext⟩ := h.reads_pair
      ((ht x (by simp)).trans (congrArg _ hfits.1)) ((hu y (by simp)).trans (congrArg _ hfits.2)) f
    obtain ⟨found, last, hfound, hall, hvalues, hlast, hoffers⟩ :=
      ih hnext (fun v hv => ht v (by simp [hv])) (fun v hv => hu v (by simp [hv]))
    refine ⟨r :: found, last, .more hr (by omega) hfound, by simpa [hconsumed] using hall, ?_,
      ?_, ?_⟩
    · simp [hvalue, hvalues]
    · rw [List.length_cons]
      omega
    · simpa [Nat.mul_add] using hoffers
  | case2 => exact ⟨[], s, .refl, by simp, rfl, rfl, h⟩
  | case3 => exact ⟨[], s, .refl, by simp, rfl, rfl, h⟩

-- The pairs are read as far as they go. A first token without a second one is a failure.
theorem rep0_pairs (h : s.Offers ctx w) (ht : ∀ v ∈ w, t.test v = .ok (A v))
    (hu : ∀ v ∈ w, u.test v = .ok (B v)) (f : Value × Value → Value) :
    let n := (pairs A B w).length
    let p := ((t.toParser.andThen u.toParser).map f).rep0
    (Fits A w (2 * n) → p.Ensures ctx s (Told w[2 * n + 1]?)
      (FailsAt true (s.offset + 2 * n + 1) u.expected)) ∧
    (¬ Fits A w (2 * n) → p.Ensures ctx s (Told w[2 * n]?)
      (Gives (decide (0 < n)) (s.offset + 2 * n) ((pairs A B w).map f))) := by
  intro n p
  obtain ⟨found, last, hfound, hconsumed, hvalues, hoffset, hlast⟩ :=
    h.exists_advances_pairs ht hu f
  have hsub : w.drop (2 * n) ⊆ w := List.drop_subset _ _
  obtain ⟨hdangles, hstops⟩ := hlast.stops_pair (fun v hv => ht v (hsub hv))
    (fun v hv => hu v (hsub hv)) (pairs_drop A B w) f
  rw [fits_drop, List.getElem?_drop, hoffset] at hdangles hstops
  constructor
  · intro hfits
    exact hfound.rep0_ensures (hdangles hfits) fun m hm hlabels => ⟨m, rfl, hm, hlabels⟩
  · intro hfits
    refine hfound.rep0_ensures (hstops hfits) fun m _ _ => ?_
    have hgives := hfound.trailing_eq hconsumed ⟨false, m⟩
    rw [hvalues, hoffset] at hgives
    have hlength : found.length = n := by simpa using congrArg List.length hvalues
    have hempty : (!found.isEmpty) = decide (0 < n) := by
      rw [← hlength]
      cases found <;> simp
    rw [hempty] at hgives
    exact hgives

end State.Offers

namespace TokenParser

open Result

variable {ctx : Context} {s : State} {t u : TokenParser} {P S : Value → Bool} {v : Value}
  {w : List Value}

-- The elements are `n` tokens that lie one token apart.
def Lists (w : List Value) (n : Nat) (consumed : Bool) (offset : Nat)
    (r : Result (List Value)) : Prop :=
  ∃ values, EverySecond w n values ∧ r.Gives consumed offset values

theorem repSep_refuses (hs : s.Offers ctx w) (ht : ∀ v ∈ w, t.test v = .ok (P v))
    (hfits : ¬ Fits P w 0) : (t.toParser.repSep u.toParser).Ensures ctx s (Told w[0]?)
      (FailsAt false s.offset t.expected) := by
  rw [repSep_eq]
  exact (hs.refuses ht hfits).bind_of_failsAt

-- Behind the first element, pairs of a separator and an element are read.
theorem repSep_reads (hs : s.Offers ctx (v :: w)) (ht : ∀ v' ∈ v :: w, t.test v' = .ok (P v'))
    (hu : ∀ v' ∈ v :: w, u.test v' = .ok (S v')) (hv : P v = true) :
    let n := (pairs S P w).length + 1
    let p := t.toParser.repSep u.toParser
    (Fits S (v :: w) (2 * n - 1) → p.Ensures ctx s (Told (v :: w)[2 * n]?)
      (FailsAt true (s.offset + 2 * n) t.expected)) ∧
    (¬ Fits S (v :: w) (2 * n - 1) → p.Ensures ctx s (Told (v :: w)[2 * n - 1]?)
      (Lists (v :: w) n true (s.offset + 2 * n - 1))) := by
  intro n p
  obtain ⟨first, hfirst, hconsumed, hvalue, hoffset, hnext⟩ :=
    hs.reads ((ht v List.mem_cons_self).trans (congrArg _ hv))
  obtain ⟨hdangles, hstops⟩ := hnext.rep0_pairs (fun v' hv' => hu v' (List.mem_cons_of_mem _ hv'))
    (fun v' hv' => ht v' (List.mem_cons_of_mem _ hv')) Prod.snd
  rw [← followedBy_eq_map, hoffset] at hdangles hstops
  have hnext : 2 * n = 2 * (pairs S P w).length + 1 + 1 := by omega
  have hplace : 2 * n - 1 = 2 * (pairs S P w).length + 1 := by omega
  have hdangling : s.offset + 2 * n = s.offset + 1 + 2 * (pairs S P w).length + 1 := by omega
  have hend : s.offset + 2 * n - 1 = s.offset + 1 + 2 * (pairs S P w).length := by omega
  have hp : p = t.toParser.bind fun first =>
      (u.toParser.followedBy t.toParser).rep0.map fun rest => first :: rest := repSep_eq _ _
  rw [hp, hplace, fits_cons_succ, List.getElem?_cons_succ]
  constructor
  · intro hfits
    rw [hdangling, hnext, List.getElem?_cons_succ]
    exact .bind_of_ok hfirst ((hdangles hfits).map fun r hr => hr.map _)
      fun r hr => hr.before hconsumed
  · intro hfits
    rw [hend]
    refine .bind_of_ok hfirst ((hstops hfits).map fun r hr => hr.map _) fun r hr => ?_
    rw [hvalue] at hr
    exact ⟨_, everySecond_snd P S v w, hr.before hconsumed⟩

theorem endBy_reads (hs : s.Offers ctx w) (ht : ∀ v ∈ w, t.test v = .ok (P v))
    (hu : ∀ v ∈ w, u.test v = .ok (S v)) :
    let n := (pairs P S w).length
    let p := t.toParser.endBy u.toParser
    (Fits P w (2 * n) → p.Ensures ctx s (Told w[2 * n + 1]?)
      (FailsAt true (s.offset + 2 * n + 1) u.expected)) ∧
    (¬ Fits P w (2 * n) → p.Ensures ctx s (Told w[2 * n]?)
      (Lists w n (decide (0 < n)) (s.offset + 2 * n))) := by
  intro n p
  obtain ⟨hdangles, hstops⟩ := hs.rep0_pairs ht hu Prod.fst
  rw [← endedBy_eq_map] at hdangles hstops
  exact ⟨hdangles, fun hfits =>
    (hstops hfits).imp fun r hr => ⟨_, everySecond_fst P S w, hr⟩⟩

-- A list of one or more elements with separators between them is the longest one that there is, and
-- a failure if one more separator follows it. Where there is no element there is no such list, but
-- there is an empty one. With terminators, an element that has none is a failure. The one token
-- that has to be told about is the one at which the list stops.
theorem lists_accepted_exactly (hs : s.Offers ctx w) (ht : ∀ v ∈ w, t.test v = .ok (P v))
    (hu : ∀ v ∈ w, u.test v = .ok (S v)) :
    let repSep := t.toParser.repSep u.toParser
    let repSep0 := t.toParser.repSep0 u.toParser
    let endBy := t.toParser.endBy u.toParser
    (¬ Fits P w 0 →
      repSep.Ensures ctx s (Told w[0]?) (FailsAt false s.offset t.expected) ∧
      repSep0.Ensures ctx s (Told w[0]?)
        fun r => ∃ m, r = .ok ⟨false, ⟨[], s.pos, s.pos⟩, s, m⟩) ∧
    (Fits P w 0 → ∃ n ≥ 1, IsGreatest {n | Separated P S w n} n ∧ ∀ p ∈ [repSep, repSep0],
      (Fits S w (2 * n - 1) →
        p.Ensures ctx s (Told w[2 * n]?) (FailsAt true (s.offset + 2 * n) t.expected)) ∧
      (¬ Fits S w (2 * n - 1) →
        p.Ensures ctx s (Told w[2 * n - 1]?) (Lists w n true (s.offset + 2 * n - 1)))) ∧
    ∃ n, IsGreatest {n | Terminated P S w n} n ∧
      (Fits P w (2 * n) → endBy.Ensures ctx s (Told w[2 * n + 1]?)
        (FailsAt true (s.offset + 2 * n + 1) u.expected)) ∧
      (¬ Fits P w (2 * n) → endBy.Ensures ctx s (Told w[2 * n]?)
        (Lists w n (decide (0 < n)) (s.offset + 2 * n))) := by
  intro repSep repSep0 endBy
  refine ⟨fun hfits => ?_, fun hfits => ?_, ?_⟩
  · have hrefuses := repSep_refuses (u := u) hs ht hfits
    refine ⟨hrefuses, hrefuses.orElse_pure fun r hr => ?_⟩
    rw [orGive, hr.consumed_eq]
    exact ⟨_, rfl⟩
  · cases w with
    | nil => simp at hfits
    | cons v w =>
      have hv : P v = true := by simpa using hfits
      obtain ⟨hdangles, hstops⟩ := repSep_reads hs ht hu hv
      refine ⟨_, Nat.le_add_left 1 _, isGreatest_separated hv w, fun p hp => ?_⟩
      simp only [List.mem_cons, List.not_mem_nil, or_false] at hp
      obtain rfl | rfl := hp
      · exact ⟨hdangles, hstops⟩
      · refine ⟨fun hfits => ?_, fun hfits => ?_⟩
        · exact (hdangles hfits).orElse_pure_of_consumed fun r hr => hr.consumed_eq
        · refine (hstops hfits).orElse_pure_of_consumed fun r hr => ?_
          obtain ⟨_, _, hgives⟩ := hr
          exact hgives.consumed_eq
  · exact ⟨_, isGreatest_terminated P S w, endBy_reads hs ht hu⟩

-- The last comma of `a,b,` is too much between items and is missed by none of them behind items.
theorem lists_accepted_exactly_of_commas :
    let s : State := .start (.ofText "a,b,") .chars
    let w : List Value := ["a", ",", "b", ","]
    let t := (satisfy (.differs ",")).label "item"
    let u := char ","
    s.Offers .builtin w ∧ Told w[4]? ∧ (∀ v, t.test v = .ok (v != ",")) ∧
      (∀ v, u.test v = .ok (v == ",")) ∧
      (∃ r, ((t.toParser.repSep u.toParser).apply s).Returns .builtin r ∧
        r.FailsAt true 4 ["item"]) ∧
      ∃ r, ((t.toParser.endBy u.toParser).apply s).Returns .builtin r ∧ Lists w 2 true 4 r := by
  intro s w t u
  have hs : s.Offers .builtin w := by
    refine ⟨by decide, rfl, fun v _ pos => ⟨_, _, rfl, rfl⟩⟩
  have hlast : Told w[4]? := nofun
  have ht (v : Value) : t.test v = .ok (v != ",") := rfl
  have hu (v : Value) : u.test v = .ok (v == ",") := rfl
  obtain ⟨_, hseparated, n, hn, _, hends⟩ :=
    lists_accepted_exactly hs (fun v _ => ht v) (fun v _ => hu v)
  obtain ⟨k, _, hk, hp⟩ := hseparated ⟨"a", rfl, rfl⟩
  obtain rfl : k = 2 := hk.unique (isGreatest_separated rfl _)
  obtain rfl : n = 2 := hn.unique (isGreatest_terminated _ _ w)
  have hrepSep := (hp _ List.mem_cons_self).1 ⟨",", rfl, rfl⟩
  have hendBy := hends (by simp [Fits, w])
  obtain ⟨r, hr⟩ := hrepSep.returns hlast
  obtain ⟨r', hr'⟩ := hendBy.returns hlast
  exact ⟨hs, hlast, ht, hu, ⟨r, hr, hrepSep.result r hr⟩, r', hr', hendBy.result r' hr'⟩

end TokenParser

end Parsing
