import Parsing.Proofs.Repetition.Loop
import Parsing.TokenParser

namespace Parsing.Parser

open Eval

variable {α : Type} {p : Parser α} {ctx : Context} {s : State} {e : Failure}

-- The empty list at `s`, with the labels of what was tried there.
def nothing (s : State) (tried : Message) : Success (List α) :=
  ⟨false, ⟨[], s.pos, s.pos⟩, s, Message.empty.mergeExpected tried⟩

def joined (first : Success α) (rest : Success (List α)) : Success (List α) :=
  ⟨first.consumed || rest.consumed,
    ⟨first.value.value :: rest.value.value, first.value.start, rest.value.stop⟩,
    rest.state, rest.message⟩

-- What zero or more occurrences give at `s`, where these successes and then `e` follow.
def trailing (s : State) (e : Failure) : List (Success α) → Success (List α)
  | [] => nothing s e.message
  | first :: rest =>
    let all := joined first (trailing first.state e rest)
    if all.consumed then all else nothing s all.message

@[simp] theorem trailing_stop (s : State) (found : List (Success α)) :
    (trailing s e found).value.stop = (trailing s e found).state.pos := by
  induction found generalizing s with
  | nil => rfl
  | cons first rest ih =>
    simp only [trailing]
    split
    · exact ih first.state
    · rfl

theorem trailing_eq_joined {first : Success α} {rest : List (Success α)}
    (h : (trailing s e (first :: rest)).consumed = true) :
    trailing s e (first :: rest) = joined first (trailing first.state e rest) := by
  simp only [trailing] at h ⊢
  split at h
  · rw [if_pos ‹_›]
  · exact absurd h Bool.false_ne_true

-- Successes one behind the other, from `s` on, as one success with the list of their values.
def listed (s : State) : List (Success α) → Success (List α)
  | [] => ⟨false, ⟨[], s.pos, s.pos⟩, s, .empty⟩
  | first :: rest => joined first (listed first.state rest)

@[simp] theorem listed_value (s : State) (found : List (Success α)) :
    (listed s found).value.value = found.map fun r => r.value.value := by
  induction found generalizing s with
  | nil => rfl
  | cons first rest ih => simp [listed, joined, ih]

@[simp] theorem listed_message (s : State) (found : List (Success α)) :
    (listed s found).message = .empty := by
  induction found generalizing s with
  | nil => rfl
  | cons first rest ih => exact ih first.state

theorem listed_consumed {found : List (Success α)} (hfound : ∀ r ∈ found, r.consumed = true)
    (s : State) : (listed s found).consumed = !found.isEmpty := by
  cases found with
  | nil => rfl
  | cons first rest => simp [listed, joined, hfound first List.mem_cons_self]

-- Nothing is taken back of successes that have all consumed.
theorem trailing_eq_listed {found : List (Success α)} (hfound : ∀ r ∈ found, r.consumed = true)
    (s : State) (e : Failure) :
    trailing s e found =
      { listed s found with message := Message.empty.mergeExpected e.message } := by
  induction found generalizing s with
  | nil => rfl
  | cons first rest ih =>
    have hfirst := hfound first List.mem_cons_self
    have hrest := ih (fun r hr => hfound r (List.mem_cons_of_mem first hr)) first.state
    simp [trailing, listed, joined, hfirst, hrest]

-- Going back as far as `first` leaves what the occurrences behind `first` give.
theorem unwind_eq {last first : Success α} {before earlier rest : List (Success α)}
    (h : last :: before = rest.reverse ++ first :: earlier) :
    ∃ kept, unwind (last :: before)
        ⟨false, last :: before, last.state, Message.empty.mergeExpected e.message⟩ =
      unwind (first :: earlier) ⟨(trailing first.state e rest).consumed, kept,
        (trailing first.state e rest).state, (trailing first.state e rest).message⟩ ∧
      kept.reverse.map (fun r => r.value.value) =
        (first :: earlier).reverse.map (fun r => r.value.value) ++
          (trailing first.state e rest).value.value := by
  induction rest generalizing first earlier with
  | nil =>
    obtain ⟨rfl, rfl⟩ := List.cons.inj h
    exact ⟨last :: before, rfl, by simp [trailing, nothing]⟩
  | cons next rest ih =>
    have hnext : last :: before = rest.reverse ++ next :: first :: earlier := by
      simpa only [List.reverse_cons, List.append_assoc, List.singleton_append] using h
    obtain ⟨kept, hunwind, hkept⟩ := ih hnext
    rw [hunwind]
    cases hconsumed : next.consumed || (trailing next.state e rest).consumed with
    | true =>
      refine ⟨kept, ?_, ?_⟩
      · simp [unwind, trailing, joined, hconsumed]
      · simpa [trailing, joined, hconsumed] using hkept
    | false =>
      refine ⟨first :: earlier, ?_, ?_⟩
      · simp [unwind, trailing, joined, nothing, hconsumed]
      · simp [trailing, joined, nothing, hconsumed]

theorem gathered_eq_joined {last first : Success α} {earlier rest : List (Success α)}
    (h : last :: earlier = rest.reverse ++ [first]) :
    gathered last earlier e = joined first (trailing first.state e rest) := by
  obtain ⟨kept, hunwind, hkept⟩ := unwind_eq (e := e) h
  have hfirst : earlier.getLastD last = first := by
    rw [← List.getLastD_cons (a := last), h]
    exact List.getLastD_concat
  unfold gathered
  simp only [hunwind, hfirst]
  simp [unwind, joined, hkept]

-- The result of one or more occurrences, where these successes and then `e` follow.
def repeated (e : Failure) : List (Success α) → Result (List α)
  | [] => .error e
  | first :: rest =>
    if e.consumed then .error e else .ok (joined first (trailing first.state e rest))

theorem rep_returns_iff {r : Result (List α)} :
    (p.rep.apply s).Returns ctx r ↔ ∃ found e, Repeats p ctx s found e ∧ r = repeated e found := by
  constructor
  · intro h
    obtain ⟨⟨all, e⟩, hall, h⟩ := returns_bind_iff.mp h
    refine ⟨all.reverse, e, successes_returns_iff.mp hall, ?_⟩
    cases all with
    | nil => exact returns_pure_iff.mp h
    | cons last earlier =>
      obtain ⟨first, rest, hfound⟩ :=
        List.exists_cons_of_ne_nil (List.reverse_ne_nil_iff.mpr (List.cons_ne_nil last earlier))
      have hall : last :: earlier = rest.reverse ++ [first] := by
        rw [← List.reverse_cons, ← hfound, List.reverse_reverse]
      have h : (if e.consumed then pure (.error e) else pure (.ok (gathered last earlier e)) :
          Eval (Result (List α))).Returns ctx r := h
      rw [returns_ite_iff, returns_pure_iff, returns_pure_iff, gathered_eq_joined hall] at h
      rw [hfound, repeated]
      split at h
      · rw [h, if_pos ‹_›]
      · rw [h, if_neg ‹_›]
  · intro h
    rcases h with ⟨found, e, hfound, rfl⟩
    refine returns_bind_iff.mpr ⟨(found.reverse, e), ?_, ?_⟩
    · rw [successes_returns_iff, List.reverse_reverse]
      exact hfound
    · cases found with
      | nil => exact returns_pure_iff.mpr rfl
      | cons first rest =>
        obtain ⟨last, earlier, hall⟩ :=
          List.exists_cons_of_ne_nil (List.reverse_ne_nil_iff.mpr (List.cons_ne_nil first rest))
        simp only [hall, repeated, returns_ite_iff, returns_pure_iff]
        rw [gathered_eq_joined (hall.symm.trans List.reverse_cons)]
        split <;> simp_all

-- Zero or more occurrences give what trails `s`, unless the failure consumed.
theorem repeated_or_nothing (s : State) (e : Failure) (found : List (Success α)) :
    (if (repeated e found).consumed then repeated e found
      else .ok (nothing s (repeated e found).message)) =
      if e.consumed then .error e else .ok (trailing s e found) := by
  cases found with
  | nil => rfl
  | cons first rest =>
    cases he : e.consumed with
    | true => simp [repeated, he, Result.consumed]
    | false =>
      simp only [repeated, he, Bool.false_eq_true, if_false, Result.consumed, Result.message,
        trailing]
      split <;> rfl

-- What zero or more occurrences end in at `s`, where these successes and then `e` follow.
def ended (s : State) (e : Failure) (found : List (Success α)) : Result (List α) :=
  if e.consumed then .error e else .ok (trailing s e found)

theorem repeated_cons (e : Failure) (first : Success α) (rest : List (Success α)) :
    repeated e (first :: rest) =
      first.before ((ended first.state e rest).map (first.value.value :: ·)) := by
  cases he : e.consumed with
  | true =>
    have hconsume : (⟨true, e.message⟩ : Failure) = e := by rw [← he]
    simp [repeated, ended, he, Success.before, Result.map, hconsume]
  | false =>
    simp [repeated, ended, he, joined, Success.before, Result.map, Parsed.map, Parsed.withStart]

-- What is left of a result at `s` if `a` may be given without reading: the result itself if it
-- consumed, and else `a`.
def orGive (a : α) (s : State) (r : Result α) : Result α :=
  if r.consumed then r else (stay a s).mapMessage fun m => m.mergeExpected r.message

theorem orElse_pure_returns_iff {q : Parser α} {a : α} {r : Result α} :
    ((q <|> Parser.pure a).apply s).Returns ctx r ↔
      ∃ first, (q.apply s).Returns ctx first ∧ r = orGive a s first := by
  refine orElse_returns_iff.trans ?_
  simp only [pure_returns_iff]
  constructor
  · intro h
    rcases h with ⟨hq, hr⟩ | ⟨first, second, hq, hfirst, rfl, rfl⟩
    · exact ⟨r, hq, by simp [orGive, hr]⟩
    · exact ⟨first, hq, by rw [orGive, hfirst]; rfl⟩
  · intro h
    rcases h with ⟨first, hq, rfl⟩
    cases hfirst : first.consumed with
    | true => exact .inl ⟨by simpa [orGive, hfirst] using hq, by simp [orGive, hfirst]⟩
    | false => exact .inr ⟨first, _, hq, hfirst, rfl, by rw [orGive, hfirst]; rfl⟩

theorem orElse_pure_nil_returns_iff {q : Parser (List α)} {r : Result (List α)} :
    ((q <|> Parser.pure []).apply s).Returns ctx r ↔
      ∃ first, (q.apply s).Returns ctx first ∧
        r = if first.consumed then first else .ok (nothing s first.message) :=
  orElse_pure_returns_iff

theorem orGive_repeated (s : State) (e : Failure) (found : List (Success α)) :
    orGive [] s (repeated e found) = ended s e found :=
  repeated_or_nothing s e found

theorem rep0_returns_iff {r : Result (List α)} :
    (p.rep0.apply s).Returns ctx r ↔ ∃ found e, Repeats p ctx s found e ∧ r = ended s e found := by
  refine orElse_pure_returns_iff.trans ⟨?_, ?_⟩
  · rintro ⟨first, hrep, rfl⟩
    obtain ⟨found, e, hfound, rfl⟩ := rep_returns_iff.mp hrep
    exact ⟨found, e, hfound, orGive_repeated s e found⟩
  · rintro ⟨found, e, hfound, rfl⟩
    exact ⟨_, rep_returns_iff.mpr ⟨found, e, hfound, rfl⟩, (orGive_repeated s e found).symm⟩

-- What is taken back at the end of a repetition leaves values of runs that follow each other.
theorem Repeats.collects {found : List (Success α)} (h : Repeats p ctx s found e) :
    Collects p ctx s (trailing s e found).value.value (trailing s e found).state := by
  induction h with
  | stop _ => exact .nil
  | more hr _ _ ih =>
    simp only [trailing]
    split
    · exact .cons hr ih
    · exact .nil

theorem collects_of_rep {r : Success (List α)} (h : (p.rep.apply s).Returns ctx (.ok r)) :
    r.value.value ≠ [] ∧ Collects p ctx s r.value.value r.state := by
  obtain ⟨found, e, hfound, hr⟩ := rep_returns_iff.mp h
  cases hfound with
  | stop _ => cases hr
  | more hfirst _ hrest =>
    rw [repeated] at hr
    split at hr
    · cases hr
    · cases hr
      exact ⟨List.cons_ne_nil _ _, .cons hfirst hrest.collects⟩

section Recursion

-- One or more occurrences as a rule that refers to itself.
def repRule (p : Parser α) (self : Unit → Parser (List α)) (_ : Unit) : Parser (List α) :=
  p.bind fun first => (self () <|> Parser.pure []).map fun rest => first :: rest

variable {self : Unit → Parser (List α)} {r : Success α} {found : List (Success α)}

theorem repRule_returns_of_error (hp : (p.apply s).Returns ctx (.error e)) :
    ((repRule p self ()).apply s).Returns ctx (.error e) :=
  bind_returns_iff.mpr (.inl ⟨e, hp, rfl⟩)

theorem repRule_returns_of_ok (hp : (p.apply s).Returns ctx (.ok r))
    (hself : ((self ()).apply r.state).Returns ctx (repeated e found)) :
    ((repRule p self ()).apply s).Returns ctx (repeated e (r :: found)) := by
  have hrest : (((self () <|> Parser.pure []).map (r.value.value :: ·)).apply r.state).Returns ctx
      ((ended r.state e found).map (r.value.value :: ·)) :=
    map_returns_iff.mpr ⟨_, orElse_pure_returns_iff.mpr ⟨_, hself, (orGive_repeated _ e found).symm⟩,
      rfl⟩
  exact bind_returns_iff.mpr (.inr ⟨r, _, hp, hrest, repeated_cons e r found⟩)

-- Every reference to the rule reads one more success, so that as many references are enough.
theorem Repeats.unroll_returns (h : Repeats p ctx s found e) {n : Nat} (hn : found.length < n) :
    ((unroll (repRule p) n ()).apply s).Returns ctx (repeated e found) := by
  induction h generalizing n with
  | stop hp =>
    obtain ⟨n, rfl⟩ := Nat.exists_eq_succ_of_ne_zero (Nat.ne_zero_of_lt hn)
    exact repRule_returns_of_error hp
  | more hp _ _ ih =>
    obtain ⟨n, rfl⟩ := Nat.exists_eq_succ_of_ne_zero (Nat.ne_zero_of_lt hn)
    exact repRule_returns_of_ok hp (ih (Nat.lt_of_succ_lt_succ hn))

theorem exists_unroll_returns_of_rep {r : Result (List α)} (h : (p.rep.apply s).Returns ctx r) :
    ∃ depth, ∀ n ≥ depth, ((unroll (repRule p) n ()).apply s).Returns ctx r := by
  obtain ⟨found, e, hfound, rfl⟩ := rep_returns_iff.mp h
  exact ⟨found.length + 1, fun n hn => hfound.unroll_returns hn⟩

-- Whether it is reached by the loop or by the recursion, the result is the same, and so is that
-- of the repetition that may give nothing.
theorem rep_eq_recursion {r : Result (List α)} (h : (p.rep.apply s).Returns ctx r) :
    ∃ r₀ depth, (p.rep0.apply s).Returns ctx r₀ ∧ ∀ n ≥ depth,
      ((unroll (repRule p) n ()).apply s).Returns ctx r ∧
      ((unroll (repRule p) n () <|> Parser.pure []).apply s).Returns ctx r₀ := by
  obtain ⟨depth, hdepth⟩ := exists_unroll_returns_of_rep h
  exact ⟨_, depth, orElse_pure_nil_returns_iff.mpr ⟨r, h, rfl⟩, fun n hn =>
    ⟨hdepth n hn, orElse_pure_nil_returns_iff.mpr ⟨r, hdepth n hn, rfl⟩⟩⟩

-- What gives up consumption is kept once and no more.
theorem rep_eq_recursion_of_backtrack :
    let s : State := .start (.ofList [.int 1, .int 2]) .chars
    let p := TokenParser.any.toParser.backtrack
    let r : Result (List Value) := .ok ⟨false, ⟨[.int 1], ⟨0, 0⟩, ⟨0, 1⟩⟩,
      { s with offset := 1, pos := ⟨0, 1⟩ }, .empty⟩
    (p.rep.apply s).Returns .builtin r ∧
      ∃ r₀ depth, (p.rep0.apply s).Returns .builtin r₀ ∧ ∀ n ≥ depth,
        ((unroll (repRule p) n ()).apply s).Returns .builtin r ∧
        ((unroll (repRule p) n () <|> Parser.pure []).apply s).Returns .builtin r₀ := by
  intro s p r
  have hrep : (p.rep.apply s).Returns .builtin r :=
    rep_returns_iff.mpr ⟨[_, _], _,
      .more rfl (.inr (by decide)) (.more rfl (.inr (by decide)) (.stop rfl)), rfl⟩
  exact ⟨hrep, rep_eq_recursion hrep⟩

end Recursion

end Parsing.Parser
