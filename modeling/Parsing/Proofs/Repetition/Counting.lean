import Parsing.Proofs.Consumption
import Parsing.Proofs.SingleToken
import Parsing.Proofs.TokenFault

namespace Parsing

open Eval Parsing.Parser

namespace Parser

variable {α : Type} {p : Parser α} {ctx : Context} {s last : State} {found : List (Success α)}
  {e : Failure} {n : Nat}

theorem count_succ_returns_iff {r : Result (List α)} :
    ((p.count (n + 1)).apply s).Returns ctx r ↔
      (∃ e, (p.apply s).Returns ctx (.error e) ∧ r = .error e) ∨
      (∃ first rest, (p.apply s).Returns ctx (.ok first) ∧
        ((p.count n).apply first.state).Returns ctx rest ∧
        r = first.before (rest.map (first.value.value :: ·))) := by
  simp only [count, sequence_returns_iff, List.replicate_succ, nested_cons_returns_iff]

namespace Advances

theorem take (h : Advances p ctx s found last) (k : Nat) :
    ∃ middle, Advances p ctx s (found.take k) middle := by
  induction h generalizing k with
  | refl =>
    rw [List.take_nil]
    exact ⟨_, .refl⟩
  | more hr hlt _ ih =>
    cases k with
    | zero => exact ⟨_, .refl⟩
    | succ k =>
      obtain ⟨middle, hmiddle⟩ := ih k
      exact ⟨middle, .more hr hlt hmiddle⟩

theorem count_returns (h : Advances p ctx s found last) :
    ((p.count found.length).apply s).Returns ctx (.ok (listed s found)) := by
  induction h with
  | refl => exact pure_returns_iff.mpr rfl
  | more hr _ _ ih => exact count_succ_returns_iff.mpr (.inr ⟨_, _, hr, ih, rfl⟩)

-- A count that asks for more runs than succeed fails where they end.
theorem count_returns_error (h : Advances p ctx s found last)
    (he : (p.apply last).Returns ctx (.error e)) (hn : found.length < n) :
    ((p.count n).apply s).Returns ctx
      (.error { e with consumed := found.any (fun r => r.consumed) || e.consumed }) := by
  induction h generalizing n with
  | refl =>
    obtain ⟨n, rfl⟩ := Nat.exists_eq_succ_of_ne_zero (Nat.ne_zero_of_lt hn)
    exact count_succ_returns_iff.mpr (.inl ⟨e, he, rfl⟩)
  | more hr _ _ ih =>
    obtain ⟨n, rfl⟩ := Nat.exists_eq_succ_of_ne_zero (Nat.ne_zero_of_lt hn)
    have hrest := ih he (Nat.lt_of_succ_lt_succ hn)
    refine count_succ_returns_iff.mpr (.inr ⟨_, _, hr, hrest, ?_⟩)
    simp [Success.before, Result.map, Bool.or_assoc]

end Advances

-- `r` holds as many values as can be counted at `s`. Behind them `p` fails without consuming, and
-- this is also how any greater count fails, which has consumed by then.
structure GreatestCount (p : Parser α) (ctx : Context) (s : State) (r : Success (List α)) :
    Prop where
  counts : ((p.count r.value.value.length).apply s).Returns ctx (.ok { r with message := .empty })
  fewer : ∀ k < r.value.value.length, ∃ r', ((p.count k).apply s).Returns ctx (.ok r') ∧
    r'.value.value = r.value.value.take k
  ends : ∃ m, (p.apply r.state).Returns ctx (.error ⟨false, m⟩) ∧
    m.expected = r.message.expected ∧
    ∀ n > r.value.value.length, ((p.count n).apply s).Returns ctx (.error ⟨true, m⟩)

theorem Advances.greatestCount {m : Message} (h : Advances p ctx s found last)
    (hne : found ≠ []) (hfound : ∀ r ∈ found, r.consumed = true)
    (hm : (p.apply last).Returns ctx (.error ⟨false, m⟩)) :
    p.GreatestCount ctx s
      { listed s found with message := Message.empty.mergeExpected m } where
  counts := by
    have hall : ({ listed s found with message := .empty } : Success (List α)) =
        listed s found := by rw [← listed_message s found]
    simp only [listed_value, List.length_map, hall]
    exact h.count_returns
  fewer k hk := by
    simp only [listed_value, List.length_map] at hk
    obtain ⟨middle, hmiddle⟩ := h.take k
    have hcount := hmiddle.count_returns
    rw [List.length_take, Nat.min_eq_left (Nat.le_of_lt hk)] at hcount
    exact ⟨_, hcount, by simp⟩
  ends := by
    have hconsumed : found.any (fun r => r.consumed) = true := by
      obtain ⟨first, rest, rfl⟩ := List.exists_cons_of_ne_nil hne
      exact List.any_eq_true.mpr ⟨first, List.mem_cons_self, hfound first List.mem_cons_self⟩
    refine ⟨m, ?_, ?_, fun n hn => ?_⟩
    · rw [h.listed_state]
      exact hm
    · simp [Message.mergeExpected, Message.empty]
    · rw [listed_value, List.length_map] at hn
      simpa [hconsumed] using h.count_returns_error hm hn

end Parser

section Grammar

variable {rejection : Bool} {α : Type} {p : Parser α} {ctx : Context} {s : State}

-- Without backtracking, only a success that has consumed gets any further.
theorem Grammar.advances_of_moves {r : Success α} (hp : Grammar ⟨false, rejection⟩ p)
    (hr : (p.apply s).Returns ctx (.ok r))
    (hmoves : r.consumed = true ∨ r.state.offset ≠ s.offset) :
    r.consumed = true ∧ s.offset < r.state.offset := by
  have hexact := (Invariant.consumption rejection ctx).sound hp trivial hr
  cases hconsumed : r.consumed with
  | true => exact ⟨rfl, hexact.consumed_iff.mp hconsumed⟩
  | false =>
    have hstate : r.state = s := hexact.state_eq hconsumed
    simp [hconsumed, hstate] at hmoves

theorem Grammar.advances_of_repeats {found : List (Success α)} {e : Failure}
    (hp : Grammar ⟨false, rejection⟩ p) (h : Repeats p ctx s found e) :
    (∀ r ∈ found, r.consumed = true) ∧
      ∃ last, Advances p ctx s found last ∧ (p.apply last).Returns ctx (.error e) := by
  induction h with
  | stop he => exact ⟨List.forall_mem_nil _, _, .refl, he⟩
  | more hr hmoves _ ih =>
    obtain ⟨hconsumed, hlt⟩ := hp.advances_of_moves hr hmoves
    obtain ⟨hrest, last, hadvances, he⟩ := ih
    exact ⟨List.forall_mem_cons.mpr ⟨hconsumed, hrest⟩, last, .more hr hlt hadvances, he⟩

theorem Grammar.greatestCount_of_rep {r : Success (List α)}
    (hp : Grammar ⟨false, rejection⟩ p) (h : (p.rep.apply s).Returns ctx (.ok r)) :
    p.GreatestCount ctx s r := by
  obtain ⟨found, e, hfound, hr⟩ := rep_returns_iff.mp h
  obtain ⟨hconsumed, last, hadvances, he⟩ := hp.advances_of_repeats hfound
  cases found with
  | nil => cases hr
  | cons first rest =>
    rw [repeated] at hr
    split at hr
    · cases hr
    · obtain ⟨consumed, m⟩ := e
      obtain rfl : consumed = false := Bool.eq_false_iff.mpr ‹_›
      have hall := trailing_eq_listed hconsumed s ⟨false, m⟩
      have hkept : (trailing s ⟨false, m⟩ (first :: rest)).consumed = true := by
        rw [hall]
        exact listed_consumed hconsumed s
      rw [← trailing_eq_joined hkept, hall] at hr
      cases hr
      exact hadvances.greatestCount (List.cons_ne_nil first rest) hconsumed he

end Grammar

section Tokens

variable {t : TokenParser} {ctx : Context} {s : State} {w : List Value}

-- Where the steps do not fault, they come to the end of the run.
theorem TokenParser.exists_repeats_of_count {n : Nat} {r : Result (List Value)}
    (hstop : t.runStop s.input (s.input.size - s.offset) s.offset = .ok (s.offset + n))
    (h : ((t.toParser.count (n + 1)).apply s).Returns ctx r) :
    ∃ found e, Repeats t.toParser ctx s found e := by
  induction n generalizing s r with
  | zero =>
    obtain ⟨e, he, _⟩ | ⟨first, _, hfirst, _⟩ := count_succ_returns_iff.mp h
    · exact ⟨[], e, .stop he⟩
    · obtain ⟨hoffset, hrun⟩ := runStop_of_ok hfirst
      have hle := (runStop_bounds (hrun.symm.trans hstop)).1
      omega
  | succ n ih =>
    obtain ⟨e, he, _⟩ | ⟨first, rest, hfirst, hrest, _⟩ := count_succ_returns_iff.mp h
    · exact ⟨[], e, .stop he⟩
    · obtain ⟨hoffset, hrun⟩ := runStop_of_ok hfirst
      rw [hrun, show s.offset + (n + 1) = first.state.offset + n by omega] at hstop
      obtain ⟨found, e, hfound⟩ := ih hstop hrest
      exact ⟨first :: found, e, .more hfirst (.inr (by omega)) hfound⟩

theorem TokenParser.greatestCount_of_run {r : Success (List Value)} {r' : Result (List Value)}
    (h : (t.rep.apply s).Returns ctx (.ok r))
    (hcount : ((t.toParser.count (r.value.value.length + 1)).apply s).Returns ctx r') :
    t.toParser.GreatestCount ctx s r := by
  obtain ⟨run, hrun, hr⟩ | ⟨_, _, _, hr⟩ := rep_returns_iff.mp h
  · cases hr
    obtain ⟨_, stop, hstop, ⟨_, hr⟩ | ⟨_, part, _, _, _, hpart, _, _, _, hr⟩⟩ :=
      run?_returns_iff.mp hrun
    · cases hr
    · cases hr
      obtain ⟨hle, hbound⟩ := runStop_bounds hstop
      have hlength := Tokens.length_stretch (Tokens.stretch_of_slice hpart (by omega) hle)
      have hend : stop = s.offset + part.items.toList.length := by omega
      rw [hend] at hstop
      obtain ⟨found, e, hfound⟩ := exists_repeats_of_count hstop hcount
      have hsteps := rep_returns_of_repeats hfound (Tokens.Sliceable.of_slice hpart)
      have hloop : (t.toParser.rep.apply s).Returns ctx (.ok _) :=
        Parser.rep_returns_iff.mpr ⟨found, e, hfound, h.unique hsteps⟩
      exact Grammar.greatestCount_of_rep (.token t : Grammar ⟨false, false⟩ _) hloop
  · cases hr

theorem State.Offers.exists_count_result (hs : s.Offers ctx w)
    (hw : Told w[(w.takeWhile t.takes).length]?) (ht : ∀ v ∈ w, ∃ fits, t.test v = .ok fits)
    (n : Nat) : ∃ r, ((t.toParser.count n).apply s).Returns ctx r := by
  induction n generalizing s w with
  | zero => exact ⟨_, pure_returns_iff.mpr rfl⟩
  | succ n ih =>
    obtain ⟨first | e, hfirst⟩ :=
      hs.exists_token_result ht (hw.tells_run.drop (Nat.zero_le _))
    · obtain ⟨_, _, _, hr⟩ | ⟨hatEnd, v', _, stop, hv, hfits, _, _, hr⟩ :=
        TokenParser.apply_returns_iff.mp hfirst
      · cases hr
      · cases hr
        cases w with
        | nil => cases hatEnd.symm.trans hs.isAtEnd
        | cons v rest =>
          cases hv.symm.trans hs.token
          rw [List.takeWhile_cons_of_pos (TokenParser.takes_of_fits hfits)] at hw
          obtain ⟨r, hr⟩ := ih (hs.next stop) hw fun v' hv => ht v' (List.mem_cons_of_mem _ hv)
          exact ⟨_, count_succ_returns_iff.mpr (.inr ⟨_, r, hfirst, hr, rfl⟩)⟩
    · exact ⟨_, count_succ_returns_iff.mpr (.inl ⟨e, hfirst, rfl⟩)⟩

end Tokens

-- Without backtracking, the result of one or more occurrences is that of the greatest count. For a
-- run that is read at once this takes that the tokens of the run and the one behind it can be asked
-- what the steps ask them, as they can if they are measured and the one behind can be told about.
theorem Grammar.rep_greatest_count {rejection : Bool} {α : Type} {p : Parser α}
    (hp : Grammar ⟨false, rejection⟩ p) (ctx : Context) (s : State) :
    (∀ r, (p.rep.apply s).Returns ctx (.ok r) → p.GreatestCount ctx s r) ∧
    (∀ (t : TokenParser) r, (t.rep.apply s).Returns ctx (.ok r) →
      (∀ fault, ¬ ((t.toParser.count (r.value.value.length + 1)).apply s).Faults ctx fault) →
      t.toParser.GreatestCount ctx s r) ∧
    ∀ (t : TokenParser) w, s.Offers ctx w → Told w[(w.takeWhile t.takes).length]? →
      (∀ v ∈ w, ∃ fits, t.test v = .ok fits) →
      ∀ n fault, ¬ ((t.toParser.count n).apply s).Faults ctx fault := by
  refine ⟨fun r h => hp.greatestCount_of_rep h, fun t r h hcalm => ?_,
    fun t w hs hw ht n fault hfault => ?_⟩
  · obtain ⟨r', hcount⟩ | ⟨fault, hfault⟩ :=
      returns_or_faults ((t.toParser.count (r.value.value.length + 1)).apply s) ctx
    · exact TokenParser.greatestCount_of_run h hcount
    · exact (hcalm fault hfault).elim
  · obtain ⟨r, hr⟩ := hs.exists_count_result hw ht n
    exact hfault.not_returns hr

-- Pairs of characters, which are read one after the other, and a single one, which is a run.
theorem Grammar.rep_greatest_count_of_pairs :
    let s : State := .start (.ofText "ababc") .chars
    let a := TokenParser.char "a"
    let p := a.toParser.followedBy (TokenParser.char "b").toParser
    let pairs : Success (List Value) := ⟨true, ⟨["b", "b"], ⟨0, 0⟩, ⟨0, 4⟩⟩,
      { s with offset := 4, pos := ⟨0, 4⟩ }, Message.empty.expecting "a"⟩
    let single : Success (List Value) := ⟨true, ⟨["a"], ⟨0, 0⟩, ⟨0, 1⟩⟩,
      { s with offset := 1, pos := ⟨0, 1⟩ }, Message.empty.expecting "a"⟩
    let w : List Value := ["a", "b", "a", "b", "c"]
    Grammar ⟨false, false⟩ p ∧ s.Offers .builtin w ∧ Told w[1]? ∧
      (∀ v ∈ w, ∃ fits, a.test v = .ok fits) ∧
      (p.rep.apply s).Returns .builtin (.ok pairs) ∧ p.GreatestCount .builtin s pairs ∧
      (a.rep.apply s).Returns .builtin (.ok single) ∧
      (∀ fault, ¬ ((a.toParser.count 2).apply s).Faults .builtin fault) ∧
      a.toParser.GreatestCount .builtin s single := by
  intro s a p pairs single w
  have hp : Grammar ⟨false, false⟩ p := .followedBy (.token _) (.token _)
  have hs : s.Offers .builtin w := ⟨by decide, rfl, fun v _ pos => ⟨_, _, rfl, rfl⟩⟩
  have hw : Told w[1]? := by
    rintro v ⟨⟩
    exact ⟨"b", rfl⟩
  have ha : ∀ v ∈ w, ∃ fits, a.test v = .ok fits := fun v _ => ⟨_, rfl⟩
  have hpairs : (p.rep.apply s).Returns .builtin (.ok pairs) :=
    rep_returns_iff.mpr ⟨[_, _], _, .more rfl (.inl rfl) (.more rfl (.inl rfl) (.stop rfl)), rfl⟩
  have hsingle : (a.rep.apply s).Returns .builtin (.ok single) := rfl
  obtain ⟨hloop, hrun, hcalm⟩ := hp.rep_greatest_count .builtin s
  have hfaultless := hcalm a w hs hw ha 2
  exact ⟨hp, hs, hw, ha, hpairs, hloop pairs hpairs, hsingle, hfaultless,
    hrun a single hsingle hfaultless⟩

end Parsing
