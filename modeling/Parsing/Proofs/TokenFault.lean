import Parsing.Proofs.Repetition.Ending
import Parsing.Proofs.TokenRun

namespace Parsing

open Eval Parsing.Parser

variable {ctx : Context} {s : State} {fault : Fault}

theorem SourceMap.exists_mem_of_stopAfter_error {maps : Registry SourceMap} {map : SourceMap}
    {vs : List Value} {pos : Position} (h : map.stopAfter maps vs pos = .error fault) :
    ∃ v ∈ vs, ∃ before, map.stopOf maps v before = .error fault := by
  induction vs generalizing pos with
  | nil => cases h
  | cons v vs ih =>
    obtain hv | ⟨stop, _, hvs⟩ := Fallible.bind_eq_error_iff.mp h
    · exact ⟨v, List.mem_cons_self, pos, hv⟩
    · obtain ⟨w, hw, before, hstop⟩ := ih hvs
      exact ⟨w, List.mem_cons_of_mem v hw, before, hstop⟩

namespace TokenParser

variable {t : TokenParser}

-- What can be wrong with a single token: that it cannot be told whether it fits, where it stops or
-- where it starts, or that there is no message to refuse it by.
inductive FaultsAt (t : TokenParser) (ctx : Context) (s : State) (token : Value)
    (fault : Fault) : Prop
  | test : t.test token = .error fault → FaultsAt t ctx s token fault
  | refused : t.test token = .ok false → (s.unexpected t.expected).Faults ctx fault →
      FaultsAt t ctx s token fault
  | stop : t.test token = .ok true → s.map.stopOf ctx.maps token s.pos = .error fault →
      FaultsAt t ctx s token fault
  | start : t.test token = .ok true → s.map.stopOf ctx.maps token s.pos = .ok stop →
      s.map.startOf ctx.maps token s.pos = .error fault → FaultsAt t ctx s token fault

theorem faultsAt_of_apply (hinput : s.input.Sliceable) (h : (t.apply s).Faults ctx fault) :
    s.offset < s.input.size ∧ ∃ token, s.token = .ok token ∧ t.FaultsAt ctx s token fault := by
  have hatEnd : s.isAtEnd = .ok (decide (s.input.size ≤ s.offset)) :=
    State.isAtEnd_eq_ok_iff.mpr ⟨hinput.form_ne_unsized, rfl⟩
  by_cases hend : s.input.size ≤ s.offset
  · rw [decide_eq_true hend] at hatEnd
    exact (h.not_returns (apply_returns_at_end hatEnd)).elim
  · rw [decide_eq_false hend] at hatEnd
    have hlt : s.offset < s.input.size := Nat.lt_of_not_le hend
    have htoken := hinput.get_eq hlt
    refine ⟨hlt, _, htoken, ?_⟩
    obtain h | ⟨_, hatEnd', h⟩ := faults_bind_iff.mp h
    · cases hatEnd.symm.trans h
    cases hatEnd.symm.trans hatEnd'
    obtain h | ⟨token, htoken', h⟩ := faults_bind_iff.mp h
    · cases htoken.symm.trans h
    cases htoken.symm.trans htoken'
    obtain h | ⟨fits, hfits, h⟩ := faults_bind_iff.mp h
    · exact .test h
    cases fits with
    | false =>
      obtain h | ⟨_, _, h⟩ := faults_bind_iff.mp h
      · exact .refused hfits h
      · cases h
    | true =>
      obtain h | ⟨next, hnext, h⟩ := faults_bind_iff.mp h
      · obtain h | ⟨_, _, h⟩ := faults_bind_iff.mp h
        · exact .stop hfits h
        · cases h
      · obtain ⟨stop, hstop, _⟩ := State.consume_returns_iff.mp hnext
        obtain h | ⟨_, _, h⟩ := faults_bind_iff.mp h
        · exact .start hfits hstop h
        · cases h

-- A token behind `s` is at fault by itself.
def FaultsBehind (t : TokenParser) (ctx : Context) (s : State) (fault : Fault) : Prop :=
  ∃ i token, s.offset < i ∧ s.input.get i = .ok token ∧ (t.test token = .error fault ∨
    ∃ pos, s.map.stopOf ctx.maps token pos = .error fault)

section RunStop

variable {input : Tokens} {left i : Nat} {token : Value}

theorem runStop_succ (htoken : input.get i = .ok token) :
    t.runStop input (left + 1) i =
      (t.test token >>= fun fits => if fits then t.runStop input left (i + 1) else pure i) := by
  rw [runStop, htoken]
  rfl

theorem runStop_of_test_error (htoken : input.get i = .ok token)
    (h : t.test token = .error fault) : t.runStop input (left + 1) i = .error fault := by
  rw [runStop_succ htoken, h]
  rfl

theorem runStop_of_fits (htoken : input.get i = .ok token) (h : t.test token = .ok true) :
    t.runStop input (left + 1) i = t.runStop input left (i + 1) := by
  rw [runStop_succ htoken, h]
  rfl

theorem exists_get_of_runStop_error (hinput : input.Sliceable) (hleft : i + left ≤ input.size)
    (h : t.runStop input left i = .error fault) :
    ∃ j token, i ≤ j ∧ input.get j = .ok token ∧ t.test token = .error fault := by
  induction left generalizing i with
  | zero => cases h
  | succ left ih =>
    obtain ⟨token, htoken⟩ : ∃ token, input.get i = .ok token := ⟨_, hinput.get_eq (by omega)⟩
    rw [runStop_succ htoken] at h
    obtain htest | ⟨fits, _, h⟩ := Fallible.bind_eq_error_iff.mp h
    · exact ⟨i, token, Nat.le_refl i, htoken, htest⟩
    · cases fits with
      | false => cases h
      | true =>
        obtain ⟨j, token, hle, hj, htest⟩ := ih (by omega) h
        exact ⟨j, token, by omega, hj, htest⟩

end RunStop

-- A token that is taken is taken in a run as well.
theorem runStop_of_ok {r : Success Value} (h : (t.apply s).Returns ctx (.ok r)) :
    r.state.offset = s.offset + 1 ∧
      t.runStop s.input (s.input.size - s.offset) s.offset =
        t.runStop r.state.input (r.state.input.size - r.state.offset) r.state.offset := by
  obtain ⟨_, _, _, hr⟩ | ⟨hatEnd, token, _, _, htoken, hfits, _, _, hr⟩ := apply_returns_iff.mp h
  · cases hr
  · cases hr
    have hsize := of_decide_eq_false (State.isAtEnd_eq_ok_iff.mp hatEnd).2.symm
    have hleft : s.input.size - s.offset = s.input.size - (s.offset + 1) + 1 := by omega
    exact ⟨rfl, by rw [hleft, runStop_of_fits htoken hfits]⟩

theorem runStop_of_advances {found : List (Success Value)} {last : State}
    (h : Advances t.toParser.unnamed ctx s found last) :
    t.runStop s.input (s.input.size - s.offset) s.offset =
      t.runStop last.input (last.input.size - last.offset) last.offset := by
  induction h with
  | refl => rfl
  | more hr _ _ ih => exact (runStop_of_ok hr).2.trans ih

-- Where the tokens of a run can be sliced out, reading it at once comes down to what is asked about
-- them: how far they fit, where each of them stops and where the first one starts.
theorem run?_result (hinput : s.input.Sliceable) :
    ((t.run? s).run ctx).result = (do
      let stop ← t.runStop s.input (s.input.size - s.offset) s.offset
      if stop = s.offset then return none
      let values ← s.input.stretch s.offset stop
      let pos ← s.map.stopAfter ctx.maps values s.pos
      let start ← s.map.startOf ctx.maps (← s.token) s.pos
      return some ⟨true, ⟨values, start, pos⟩,
        { s with offset := s.offset + values.length, pos }, t.runMessage⟩) := by
  have hlength : s.input.length = .ok s.input.size :=
    Tokens.length_eq_ok_iff.mpr ⟨hinput.form_ne_unsized, rfl⟩
  rw [run?, bind_result]
  change s.input.length >>= _ = _
  rw [hlength, Fallible.ok_bind, bind_result]
  change t.runStop s.input (s.input.size - s.offset) s.offset >>= _ = _
  cases hstop : t.runStop s.input (s.input.size - s.offset) s.offset with
  | error fault => rfl
  | ok stop =>
    rw [Fallible.ok_bind, Fallible.ok_bind]
    obtain ⟨hle, hbound⟩ := runStop_bounds hstop
    split
    · rfl
    · have hsize : stop ≤ s.input.size := by omega
      obtain ⟨form, hslice⟩ := hinput.slice_eq hsize hle
      rw [hinput.stretch_eq hsize, Fallible.ok_bind, bind_result]
      change s.input.slice s.offset stop >>= _ = _
      rw [hslice, Fallible.ok_bind, bind_result, State.consumeAll_result, bind_assoc]
      refine bind_congr fun pos => ?_
      rw [pure_bind, bind_result]
      refine bind_congr fun token => ?_
      rw [bind_result]
      rfl

theorem run?_result_of_stretch {stop : Nat} {values : List Value} (hinput : s.input.Sliceable)
    (hstop : t.runStop s.input (s.input.size - s.offset) s.offset = .ok stop)
    (hne : stop ≠ s.offset) (hvalues : s.input.stretch s.offset stop = .ok values) :
    ((t.run? s).run ctx).result = (do
      let pos ← s.map.stopAfter ctx.maps values s.pos
      let start ← s.map.startOf ctx.maps (← s.token) s.pos
      return some ⟨true, ⟨values, start, pos⟩,
        { s with offset := s.offset + values.length, pos }, t.runMessage⟩) := by
  rw [run?_result hinput, hstop, Fallible.ok_bind, if_neg hne, hvalues]
  rfl

section Outcome

variable {found : List (Success Value)} {last : State} {token : Value}

-- Behind a token that is read step by step, the first token of the run has been measured already.
theorem run?_returns_of_advances {stop : Nat} {values : List Value} {pos : Position}
    (hinput : s.input.Sliceable) (hfound : Advances t.toParser.unnamed ctx s found last)
    (hne : found ≠ []) (hstop : t.runStop s.input (s.input.size - s.offset) s.offset = .ok stop)
    (hle : last.offset ≤ stop) (hvalues : s.input.stretch s.offset stop = .ok values)
    (hpos : s.map.stopAfter ctx.maps values s.pos = .ok pos) :
    ∃ r, (t.run? s).Returns ctx (some r) := by
  cases hfound with
  | refl => exact (hne rfl).elim
  | more hr hlt hrest =>
    obtain ⟨_, _, _, hr⟩ | ⟨_, token, start, _, htoken, _, hstart, _, _⟩ :=
      apply_returns_iff.mp hr
    · cases hr
    · have hoffset := hrest.offset_le
      have hresult : ((t.run? s).run ctx).result = _ :=
        run?_result_of_stretch hinput hstop (by omega) hvalues
      rw [hpos, Fallible.ok_bind, htoken, Fallible.ok_bind, hstart] at hresult
      exact ⟨_, hresult⟩

-- Where the steps come to a token that a run takes, the run goes on behind that token, unless it
-- comes to a token that is at fault.
theorem run?_faults_or_goes_on (hinput : s.input.Sliceable) (hreaches : s.Reaches ctx last)
    (hfound : Advances t.toParser.unnamed ctx s found last) (hlt : last.offset < last.input.size)
    (htoken : last.token = .ok token) (hfits : t.test token = .ok true) :
    (∃ fault', t.FaultsBehind ctx last fault' ∧ (t.run? s).Faults ctx fault') ∨
    ∃ stop values more, t.runStop s.input (s.input.size - s.offset) s.offset = .ok stop ∧
      last.offset < stop ∧ s.input.stretch s.offset stop = .ok values ∧
      last.input.stretch (last.offset + 1) stop = .ok more ∧
      s.map.stopAfter ctx.maps values s.pos =
        (last.map.stopOf ctx.maps token last.pos >>= last.map.stopAfter ctx.maps more) := by
  have hlast : last.input.Sliceable := hreaches.input_eq ▸ hinput
  have hleft : last.input.size - last.offset = last.input.size - (last.offset + 1) + 1 := by omega
  have hrun := runStop_of_advances hfound
  rw [hleft, runStop_of_fits htoken hfits] at hrun
  cases hrest : t.runStop last.input (last.input.size - (last.offset + 1)) (last.offset + 1) with
  | error fault' =>
    obtain ⟨i, v, hi, hv, htest⟩ := exists_get_of_runStop_error hlast (by omega) hrest
    refine .inl ⟨fault', ⟨i, v, hi, hv, .inl htest⟩, ?_⟩
    rw [Faults, run?_result hinput, hrun, hrest]
    rfl
  | ok stop =>
    obtain ⟨hle, hbound⟩ := runStop_bounds hrest
    have hsize : stop ≤ last.input.size := by omega
    obtain ⟨read, hread, hpos⟩ := hreaches.pos_eq
    obtain ⟨more, hmore⟩ : ∃ more, last.input.stretch (last.offset + 1) stop = .ok more :=
      ⟨_, hlast.stretch_eq hsize⟩
    have hbehind := (Tokens.stretch_eq_cons_iff hle).mpr ⟨token, more, htoken, hmore, rfl⟩
    rw [hreaches.input_eq] at hbehind
    refine .inr ⟨stop, _, _, hrun.trans hrest, hle,
      Tokens.stretch_append hread hbehind hreaches.offset_le (Nat.le_of_lt hle), hmore, ?_⟩
    rw [SourceMap.stopAfter_append hpos, hreaches.map_eq]
    rfl

-- A fault of a single token is heard in a run if it comes from asking whether the token fits or
-- where it stops, or where it starts if it is the first one.
def Heard (t : TokenParser) (ctx : Context) (found : List (Success Value)) (last : State)
    (token : Value) (fault : Fault) : Prop :=
  t.test token = .error fault ∨ t.test token = .ok true ∧
    (found = [] ∨ last.map.stopOf ctx.maps token last.pos = .error fault)

-- What a run makes of a token that the steps come to and that is at fault: a token behind that one
-- is at fault before, or the fault is heard, or it goes unnoticed.
inductive RunOutcome (t : TokenParser) (ctx : Context) (s : State) (found : List (Success Value))
    (last : State) (token : Value) (fault : Fault) : Prop
  | behind : t.FaultsBehind ctx last fault' → (t.run? s).Faults ctx fault' →
      RunOutcome t ctx s found last token fault
  | heard : t.Heard ctx found last token fault → (t.run? s).Faults ctx fault →
      RunOutcome t ctx s found last token fault
  | empty : ¬ t.Heard ctx found last token fault → found = [] → (t.run? s).Returns ctx none →
      RunOutcome t ctx s found last token fault
  | unnoticed : ¬ t.Heard ctx found last token fault → found ≠ [] →
      (t.run? s).Returns ctx (some r) → RunOutcome t ctx s found last token fault

theorem runOutcome_of_faultsAt (hinput : s.input.Sliceable) (hreaches : s.Reaches ctx last)
    (hfound : Advances t.toParser.unnamed ctx s found last) (hlt : last.offset < last.input.size)
    (htoken : last.token = .ok token) (h : t.FaultsAt ctx last token fault) :
    t.RunOutcome ctx s found last token fault := by
  have hsteps := runStop_of_advances hfound
  cases h with
  | test htest =>
    refine .heard (.inl htest) ?_
    rw [show last.input.size - last.offset = last.input.size - (last.offset + 1) + 1 by omega,
      runStop_of_test_error htoken htest] at hsteps
    rw [Faults, run?_result hinput, hsteps]
    rfl
  | refused htest _ =>
    have hheard : ¬ t.Heard ctx found last token fault := by
      rintro (h | ⟨h, _⟩)
      · cases htest.symm.trans h
      · cases htest.symm.trans h
    rw [runStop_eq_of_refused (.inr ⟨token, htoken, htest⟩)] at hsteps
    by_cases hempty : found = []
    · refine .empty hheard hempty ?_
      subst hempty
      cases hfound
      rw [Returns, run?_result hinput, hsteps, Fallible.ok_bind, if_pos rfl]
      rfl
    · obtain ⟨read, hread, hpos⟩ := hreaches.pos_eq
      obtain ⟨r, hr⟩ :=
        run?_returns_of_advances hinput hfound hempty hsteps (Nat.le_refl _) hread hpos
      exact .unnoticed hheard hempty hr
  | stop htest hstop =>
    obtain ⟨fault', hbehind, hfaults⟩ | ⟨stop, values, more, hrun, hle, hvalues, _, hpos⟩ :=
      run?_faults_or_goes_on hinput hreaches hfound hlt htoken htest
    · exact .behind hbehind hfaults
    · have hoffset := hreaches.offset_le
      refine .heard (.inr ⟨htest, .inr hstop⟩) ?_
      rw [Faults, run?_result_of_stretch hinput hrun (by omega) hvalues, hpos, hstop]
      rfl
  | @start stopPos htest hstop hstart =>
    obtain ⟨fault', hbehind, hfaults⟩ | ⟨stop, values, more, hrun, hle, hvalues, hmore, hpos⟩ :=
      run?_faults_or_goes_on hinput hreaches hfound hlt htoken htest
    · exact .behind hbehind hfaults
    have hoffset := hreaches.offset_le
    rw [hstop, Fallible.ok_bind] at hpos
    cases hrest : last.map.stopAfter ctx.maps more stopPos with
    | error fault' =>
      obtain ⟨v, hv, before, hvstop⟩ := SourceMap.exists_mem_of_stopAfter_error hrest
      obtain ⟨i, hi, _, hget⟩ := Tokens.exists_get_of_mem hmore hv
      have hbehind : t.FaultsBehind ctx last fault' := ⟨i, v, hi, hget, .inr ⟨before, hvstop⟩⟩
      refine .behind hbehind ?_
      rw [Faults, run?_result_of_stretch hinput hrun (by omega) hvalues, hpos, hrest]
      rfl
    | ok pos =>
      rw [hrest] at hpos
      by_cases hempty : found = []
      · refine .heard (.inr ⟨htest, .inl hempty⟩) ?_
        subst hempty
        cases hfound
        rw [Faults, run?_result_of_stretch hinput hrun (by omega) hvalues, hpos, Fallible.ok_bind,
          htoken, Fallible.ok_bind, hstart]
        rfl
      · have hheard : ¬ t.Heard ctx found last token fault := by
          rintro (h | ⟨_, h | h⟩)
          · cases htest.symm.trans h
          · exact hempty h
          · cases hstop.symm.trans h
        obtain ⟨r, hr⟩ :=
          run?_returns_of_advances hinput hfound hempty hrun (Nat.le_of_lt hle) hvalues hpos
        exact .unnoticed hheard hempty hr

end Outcome

theorem rep_faults_of_run? (h : (t.run? s).Faults ctx fault) : (t.rep.apply s).Faults ctx fault :=
  faults_bind_iff.mpr (.inl h)

theorem rep0_faults_of_run? (h : (t.run? s).Faults ctx fault) : (t.rep0.apply s).Faults ctx fault :=
  faults_bind_iff.mpr (.inl h)

-- Zero or more occurrences are one or more, or none, and giving nothing is never at fault.
theorem steps_rep0_faults_iff :
    (t.toParser.unnamed.rep0.apply s).Faults ctx fault ↔
      (t.toParser.unnamed.rep.apply s).Faults ctx fault := by
  refine faults_bind_iff.trans (or_iff_left ?_)
  rintro ⟨first, _, h⟩
  split at h
  · exact (faults_pure_iff.mp h).elim
  · obtain h | ⟨second, _, h⟩ := faults_bind_iff.mp h
    · exact (faults_pure_iff.mp h).elim
    · split at h <;> exact (faults_pure_iff.mp h).elim

-- The steps are at fault only at a token that is there.
theorem exists_faultsAt_of_steps (hinput : s.input.Sliceable)
    (h : (t.toParser.unnamed.rep.apply s).Faults ctx fault) :
    ∃ found last token, Advances t.toParser.unnamed ctx s found last ∧ s.Reaches ctx last ∧
      last.offset < last.input.size ∧ last.token = .ok token ∧
      t.FaultsAt ctx last token fault := by
  have hs : s.offset ≤ s.input.size := by
    refine Nat.le_of_not_lt fun hlt => ?_
    have hatEnd : s.isAtEnd = .ok true := State.isAtEnd_eq_ok_iff.mpr
      ⟨hinput.form_ne_unsized, (decide_eq_true (Nat.le_of_lt hlt)).symm⟩
    exact h.not_returns (Advances.refl.rep_returns (apply_returns_at_end hatEnd))
  obtain ⟨found, last, hfound, hlast, _, hend⟩ :=
    (Grammar.unnamed (.token (d := .full) t)).exists_advances ctx hs
  obtain ⟨r | e, hr⟩ | ⟨fault', hfault⟩ := returns_or_faults (t.toParser.unnamed.apply last) ctx
  · obtain ⟨hconsumed, _⟩ := hend r hr
    obtain ⟨_, _, _, hr⟩ | ⟨_, _, _, _, _, _, _, _, hr⟩ := apply_returns_iff.mp hr
    · cases hr
    · cases hr
      cases hconsumed
  · exact (h.not_returns (hfound.rep_returns hr)).elim
  · obtain rfl := (hfound.rep_faults (repeatOnce_faults_iff.mpr (.inl hfault))).unique h
    obtain ⟨hlt, token, htoken, hat⟩ := faultsAt_of_apply (hlast.input_eq ▸ hinput) hfault
    exact ⟨found, last, token, hfound, hlast, hlt, htoken, hat⟩

-- At the first token, a fault that is not heard is one of showing the token, and a failure of one or
-- more occurrences shows it too.
theorem FaultsAt.unexpected_faults {token : Value} (h : t.FaultsAt ctx s token fault)
    (hheard : ¬ t.Heard ctx [] s token fault) : (s.unexpected t.expected).Faults ctx fault := by
  cases h with
  | test htest => exact (hheard (.inl htest)).elim
  | refused _ h => exact h
  | stop htest _ => exact (hheard (.inr ⟨htest, .inl rfl⟩)).elim
  | start htest _ _ => exact (hheard (.inr ⟨htest, .inl rfl⟩)).elim

-- The steps are at fault at a token that they come to. A run that is read at once is at fault too if
-- a token behind that one is at fault by itself. Else it is at the same fault if that is heard or at
-- the first token, except that zero or more occurrences do not show a first token that does not fit.
-- What is neither is not noticed: the run is a success.
theorem run_faults_of_steps (hinput : s.input.Sliceable) :
    (∀ fault, (t.toParser.unnamed.rep0.apply s).Faults ctx fault ↔
      (t.toParser.unnamed.rep.apply s).Faults ctx fault) ∧
    (∀ fault, (t.toParser.unnamed.rep.apply s).Faults ctx fault → ∃ found last token,
      Advances t.toParser.unnamed ctx s found last ∧ last.token = .ok token ∧
      t.FaultsAt ctx last token fault ∧
      ((∃ fault', t.FaultsBehind ctx last fault' ∧ (t.rep.apply s).Faults ctx fault' ∧
          (t.rep0.apply s).Faults ctx fault') ∨
        ((t.Heard ctx found last token fault →
            (t.rep.apply s).Faults ctx fault ∧ (t.rep0.apply s).Faults ctx fault) ∧
          (¬ t.Heard ctx found last token fault → found = [] →
            (t.rep.apply s).Faults ctx fault ∧ ∃ r, (t.rep0.apply s).Returns ctx (.ok r)) ∧
          (¬ t.Heard ctx found last token fault → found ≠ [] →
            ∃ r, (t.rep.apply s).Returns ctx (.ok r) ∧ (t.rep0.apply s).Returns ctx (.ok r))))) := by
  refine ⟨fun fault => steps_rep0_faults_iff, fun fault h => ?_⟩
  obtain ⟨found, last, token, hfound, hlast, hlt, htoken, hat⟩ := exists_faultsAt_of_steps hinput h
  refine ⟨found, last, token, hfound, htoken, hat, ?_⟩
  cases runOutcome_of_faultsAt hinput hlast hfound hlt htoken hat with
  | behind hbehind hrun =>
    exact .inl ⟨_, hbehind, rep_faults_of_run? hrun, rep0_faults_of_run? hrun⟩
  | heard hheard hrun =>
    exact .inr ⟨fun _ => ⟨rep_faults_of_run? hrun, rep0_faults_of_run? hrun⟩,
      fun hnot => (hnot hheard).elim, fun hnot => (hnot hheard).elim⟩
  | empty hnot hempty hrun =>
    subst hempty
    cases hfound
    refine .inr ⟨fun hheard => (hnot hheard).elim, fun _ _ => ⟨?_, ?_⟩, fun _ hne => (hne rfl).elim⟩
    · exact faults_bind_iff.mpr
        (.inr ⟨none, hrun, faults_bind_iff.mpr (.inl (hat.unexpected_faults hnot))⟩)
    · exact ⟨_, rep0_returns_iff.mpr (.inr ⟨hrun, rfl⟩)⟩
  | unnoticed hnot hne hrun =>
    exact .inr ⟨fun hheard => (hnot hheard).elim, fun _ hempty => (hne hempty).elim,
      fun _ _ => ⟨_, rep_returns_iff.mpr (.inl ⟨_, hrun, rfl⟩),
        rep0_returns_iff.mpr (.inl ⟨_, hrun, rfl⟩)⟩⟩

-- A token that fits but cannot be measured is noticed wherever it stands.
theorem run_faults_of_steps_unmeasured :
    let s : State := .start (.ofList [.str "a", .int 5]) .byClass
    let fault : Fault := .missingSourceMap "int"
    s.input.Sliceable ∧ (any.toParser.unnamed.rep.apply s).Faults .builtin fault ∧
      (any.toParser.unnamed.rep0.apply s).Faults .builtin fault ∧
      ∃ found last token, Advances any.toParser.unnamed .builtin s found last ∧
        last.token = .ok token ∧ any.FaultsAt .builtin last token fault := by
  intro s fault
  have hinput : s.input.Sliceable := trivial
  have hfirst : Advances any.toParser.unnamed .builtin s [_] _ := .more rfl Nat.one_pos .refl
  have hsteps : (any.toParser.unnamed.rep.apply s).Faults .builtin fault :=
    hfirst.rep_faults (repeatOnce_faults_iff.mpr (.inl rfl))
  obtain ⟨found, last, token, hfound, htoken, hat, _⟩ :=
    (run_faults_of_steps hinput).2 fault hsteps
  exact ⟨hinput, hsteps, ((run_faults_of_steps hinput).1 fault).mpr hsteps, found, last, token,
    hfound, htoken, hat⟩

-- A token that ends a run without being the first one is not shown, so that it goes unnoticed that
-- it cannot be measured.
theorem run_hides_fault_of_refused :
    let s : State := .start (.ofList [.str "a", .int 5]) .byClass
    let t : TokenParser := equalTo "a"
    let fault : Fault := .missingSourceMap "int"
    s.input.Sliceable ∧ (t.toParser.unnamed.rep.apply s).Faults .builtin fault ∧
      (t.toParser.unnamed.rep0.apply s).Faults .builtin fault ∧
      ∃ r, (t.rep.apply s).Returns .builtin (.ok r) ∧ (t.rep0.apply s).Returns .builtin (.ok r) := by
  intro s t fault
  have hfirst : Advances t.toParser.unnamed .builtin s [_] _ := .more rfl Nat.one_pos .refl
  have hsteps : (t.toParser.unnamed.rep.apply s).Faults .builtin fault :=
    hfirst.rep_faults (repeatOnce_faults_iff.mpr (.inl rfl))
  exact ⟨trivial, hsteps, steps_rep0_faults_iff.mpr hsteps, _, rfl, rfl⟩

end TokenParser

end Parsing
