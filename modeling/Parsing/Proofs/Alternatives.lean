import Parsing.Characters
import Parsing.AnyParser
import Parsing.Proofs.Choice
import Parsing.Proofs.Keyword
import Parsing.Proofs.SingleToken

namespace Parsing

open Eval Parsing.Parser

variable {ctx : Context} {s : State} {w : List Value}

namespace TokenParser

-- What `t` or, where it refuses, `u` takes. Where both refuse, both are expected.
def either (t u : TokenParser) : TokenParser where
  test v := do if ← t.test v then return true else u.test v
  expected := t.expected ++ u.expected

-- Any number of alternatives as one parser of single tokens.
def united (ts : List TokenParser) : TokenParser where
  test := Test.any (ts.map fun t => t.test)
  expected := ts.flatMap fun t => t.expected

variable {t u : TokenParser} {v : Value}

theorem either_test_of_fits (ht : t.test v = .ok true) : (t.either u).test v = .ok true :=
  Fallible.bind_eq_ok_iff.mpr ⟨true, ht, rfl⟩

theorem either_test_of_refused (ht : t.test v = .ok false) : (t.either u).test v = u.test v := by
  simp only [either, ht]
  rfl

theorem either_refuses {s : State} (ht : t.Refuses s) (hu : u.Refuses s) :
    (t.either u).Refuses s := by
  obtain hend | ⟨hatEnd, v, hv, hrefused⟩ := ht
  · exact .inl hend
  · have hboth : (t.either u).test v = .ok false := by
      rw [either_test_of_refused hrefused, hu.test_eq hatEnd hv]
    exact .inr ⟨hatEnd, v, hv, hboth⟩

theorem united_cons (t : TokenParser) (ts : List TokenParser) :
    united (t :: ts) = t.either (united ts) := rfl

theorem united_singleton (t : TokenParser) : united [t] = t := by
  have htest (v : Value) : (t.either (united [])).test v = t.test v := by
    cases ht : t.test v with
    | ok fits =>
      cases fits with
      | true => exact either_test_of_fits ht
      | false => exact either_test_of_refused ht
    | error fault =>
      simp only [either, ht]
      rfl
  have hexpected : (t.either (united [])).expected = t.expected := List.append_nil _
  rw [united_cons]
  exact congrArg₂ TokenParser.mk (funext htest) hexpected

end TokenParser

namespace Parser

variable {q : Parser Value} {t u : TokenParser}

theorem orElse_readsAs (hq : q.ReadsAs ctx u) :
    (t.toParser.orElse q).ReadsAs ctx (t.either u) := by
  intro s r hr
  obtain ⟨hfirst, hconsumed⟩ | ⟨first, second, hfirst, hpending, hsecond, rfl⟩ :=
    orElse_returns_iff.mp hr
  · obtain ⟨_, _, _, rfl⟩ | ⟨hatEnd, v, start, stop, hv, hfits, hstart, hstop, rfl⟩ :=
      TokenParser.apply_returns_iff.mp hfirst
    · cases hconsumed
    · exact TokenParser.apply_returns_iff.mpr (.inr ⟨hatEnd, v, start, stop, hv,
        TokenParser.either_test_of_fits hfits, hstart, hstop, rfl⟩)
  · obtain ⟨hrefused, m, hm, rfl⟩ | ⟨_, _, _, _, _, _, _, _, rfl⟩ :=
      TokenParser.apply_returns_iff.mp hfirst
    · obtain ⟨hrefused', m', hm', rfl⟩ | ⟨hatEnd, v, start, stop, hv, hfits, hstart, hstop, rfl⟩ :=
        TokenParser.apply_returns_iff.mp (hq hsecond)
      · refine TokenParser.apply_returns_iff.mpr (.inl ⟨TokenParser.either_refuses hrefused hrefused',
          _, State.unexpected_relabel hm' (t.either u).expected, ?_⟩)
        rw [TokenParser.either, ← TokenParser.expected_of_unexpected hm,
          ← TokenParser.expected_of_unexpected hm']
        rfl
      · have htest : (t.either u).test v = .ok true := by
          rw [TokenParser.either_test_of_refused (hrefused.test_eq hatEnd hv), hfits]
        exact TokenParser.apply_returns_iff.mpr
          (.inr ⟨hatEnd, v, start, stop, hv, htest, hstart, hstop, rfl⟩)
    · cases hpending

theorem choice_readsAs (t : TokenParser) (ts : List TokenParser) :
    (choice ((t :: ts).map TokenParser.toParser)).ReadsAs ctx (.united (t :: ts)) := by
  induction ts generalizing t with
  | nil =>
    rw [TokenParser.united_singleton]
    exact fun _ _ hr => hr
  | cons u ts ih =>
    rw [List.map_cons, choice_cons _ (by simp), TokenParser.united_cons]
    exact orElse_readsAs (ih u)

-- The second alternative is asked only where the first one consumed nothing.
theorem exists_orElse_result {p : Parser Value} (hp : ∃ r, (p.apply s).Returns ctx r)
    (hq : ∀ r, (p.apply s).Returns ctx r → r.consumed = false → ∃ r', (q.apply s).Returns ctx r') :
    ∃ r, ((p.orElse q).apply s).Returns ctx r := by
  obtain ⟨first, hfirst⟩ := hp
  cases hconsumed : first.consumed with
  | true => exact ⟨first, orElse_returns_iff.mpr (.inl ⟨hfirst, hconsumed⟩)⟩
  | false =>
    obtain ⟨second, hsecond⟩ := hq first hfirst hconsumed
    exact ⟨_, (orElse_returns_iff_of_pending hfirst hconsumed).mpr ⟨second, hsecond, rfl⟩⟩

section Fusion

variable {ts : List TokenParser}

-- Where the first alternative has told that a token does not fit, so can all others.
theorem exists_choice_result (hs : s.Offers ctx w)
    (hts : ∀ u ∈ t :: ts, ∀ v ∈ w, ∃ fits, u.test v = .ok fits) (hw : t.Tells (w.take 1)) :
    ∃ r, ((choice ((t :: ts).map TokenParser.toParser)).apply s).Returns ctx r := by
  have hfirst := hs.exists_token_result (hts t List.mem_cons_self) hw
  induction ts generalizing t with
  | nil => exact hfirst
  | cons u ts ih =>
    have htail := fun u' hu => hts u' (List.mem_cons_of_mem t hu)
    rw [List.map_cons, choice_cons _ (by simp)]
    refine exists_orElse_result hfirst fun r hr hpending => ?_
    obtain ⟨hrefused, _⟩ | ⟨_, _, _, _, _, _, _, _, rfl⟩ := TokenParser.apply_returns_iff.mp hr
    · have hu : u.Tells (w.take 1) := (hrefused.told hs hw).tells u
      exact ih htail hu (hs.exists_token_result (htail u List.mem_cons_self) hu)
    · cases hpending

theorem oneOf_tokens (t : TokenParser) (hts : ts ≠ []) :
    AnyParser.oneOf (.token t) (ts.map .token) =
      .general (choice ((t :: ts).map TokenParser.toParser)) := by
  obtain ⟨u, ts, rfl⟩ := List.exists_cons_of_ne_nil hts
  have hparsers : ((u :: ts).map AnyParser.token).map AnyParser.toParser =
      (u :: ts).map TokenParser.toParser := List.map_map
  calc AnyParser.oneOf (.token t) ((u :: ts).map .token)
      = .general (oneOf t.toParser (((u :: ts).map .token).map AnyParser.toParser)) := rfl
    _ = .general (choice ((t :: u :: ts).map TokenParser.toParser)) := by rw [hparsers]; rfl

-- A single alternative reads runs at once itself, two or more take one step after the other.
theorem oneOf_ensures (hs : s.Offers ctx w) (hinput : s.input.Sliceable)
    (hts : ∀ u ∈ t :: ts, ∀ v ∈ w, ∃ fits, u.test v = .ok fits) :
    let p := AnyParser.oneOf (.token t) (ts.map .token)
    let fused := TokenParser.united (t :: ts)
    let asked := w.take ((w.takeWhile fused.takes).length + 1)
    (p.toParser.Ensures ctx s (t.Tells (w.take 1)) fun r => (fused.apply s).Returns ctx r) ∧
    (p.rep.Ensures ctx s (t.Tells asked) fun r => (fused.rep.apply s).Returns ctx r) ∧
    p.rep0.Ensures ctx s (t.Tells asked) fun r => (fused.rep0.apply s).Returns ctx r := by
  intro p fused asked
  have hreads : (choice ((t :: ts).map TokenParser.toParser)).ReadsAs ctx fused :=
    choice_readsAs t ts
  have hsteps (htells : t.Tells asked) ⦃s' : State⦄ ⦃k : Nat⦄
      (hk : k ≤ (w.takeWhile fused.takes).length) (hs' : s'.Offers ctx (w.drop k)) :=
    exists_choice_result hs' (fun u hu v hv => hts u hu v (List.mem_of_mem_drop hv))
      (htells.drop hk)
  have hstep : (choice ((t :: ts).map TokenParser.toParser)).Ensures ctx s (t.Tells (w.take 1))
      fun r => (fused.apply s).Returns ctx r :=
    ⟨fun _ hr => hreads hr, exists_choice_result hs hts⟩
  have hrep := hreads.rep_ensures hs hinput hsteps
  have hrep0 := hreads.rep0_ensures hs hinput hsteps
  cases ts with
  | nil =>
    have hfused : fused = t := TokenParser.united_singleton t
    rw [hfused] at hstep hrep hrep0 ⊢
    exact ⟨hstep, hrep.self_of_returns, hrep0.self_of_returns⟩
  | cons u ts =>
    have hp : p = .general (choice ((t :: u :: ts).map TokenParser.toParser)) :=
      oneOf_tokens t (List.cons_ne_nil u ts)
    rw [hp]
    exact ⟨hstep, hrep, hrep0⟩

-- An alternative shows the token that it refuses before the next one is tried. If this is at fault,
-- it does not help that the next one takes the token.
theorem oneOf_faults_of_refused {v : Value} {rest : List Value} {fault : Fault}
    (hs : s.Offers ctx (v :: rest)) (hts : ts ≠ []) (hrefused : t.test v = .ok false)
    (htext : v.text = .error fault) :
    let p := AnyParser.oneOf (.token t) (ts.map .token)
    (p.toParser.apply s).Faults ctx fault ∧ (p.rep.apply s).Faults ctx fault ∧
      (p.rep0.apply s).Faults ctx fault := by
  intro p
  have hp : p = .general (choice ((t :: ts).map TokenParser.toParser)) := oneOf_tokens t hts
  have hchoice : ((choice ((t :: ts).map TokenParser.toParser)).apply s).Faults ctx fault := by
    rw [List.map_cons, choice_cons _ (by simpa using hts)]
    exact orElse_faults (hs.token_faults hrefused htext)
  have hrep : ((choice ((t :: ts).map TokenParser.toParser)).rep.apply s).Faults ctx fault :=
    Advances.refl.rep_faults (repeatOnce_faults_iff.mpr (.inl hchoice))
  rw [hp]
  exact ⟨hchoice, hrep, orElse_faults hrep⟩

end Fusion

-- What identifiers are made of: texts of nothing but letters or nothing but digits, as one character
-- may be, and the underscore.
def inName (text : String) : Bool :=
  text == "_" || !text.toList.isEmpty &&
    (text.toList.all Unicode.letters.contains || text.toList.all Unicode.digits.contains)

def nameLabels : List Value := ["letter", "digit", "_"]

theorem united_test_str (text : String) :
    (TokenParser.united [.letter, .digit, .char "_"]).test (.str text) = .ok (inName text) := by
  have hletter : TokenParser.letter.test (.str text) =
      .ok (!text.toList.isEmpty && text.toList.all Unicode.letters.contains) := rfl
  have hdigit : TokenParser.digit.test (.str text) =
      .ok (!text.toList.isEmpty && text.toList.all Unicode.digits.contains) := rfl
  have hunderscore : (TokenParser.char "_").test (.str text) = .ok (text == "_") := rfl
  simp only [TokenParser.united, List.map_cons, List.map_nil, Test.any, hletter, hdigit,
    hunderscore, inName]
  cases text == "_" <;> cases text.toList.isEmpty <;>
    cases text.toList.all Unicode.letters.contains <;>
    cases text.toList.all Unicode.digits.contains <;> rfl

theorem identifier_eq : identifier =
    (AnyParser.oneOf (.token .letter) ([.digit, .char "_"].map .token)).rep.tryMap
      Value.joinTexts := rfl

theorem exists_text_of_str (texts : List String) :
    ∀ v ∈ texts.map Value.str, ∃ text, v.text = .ok text :=
  List.forall_mem_map.mpr fun text _ => ⟨text, rfl⟩

theorem name_tests (texts : List String) : ∀ u ∈ [TokenParser.letter, .digit, .char "_"],
    ∀ v ∈ texts.map .str, ∃ fits, u.test v = .ok fits := by
  simp only [List.forall_mem_cons, List.forall_mem_map]
  exact ⟨fun _ _ => ⟨_, rfl⟩, fun _ _ => ⟨_, rfl⟩, fun _ _ => ⟨_, rfl⟩, List.forall_mem_nil _⟩

theorem identifier_reads {texts : List String} (hs : s.Offers ctx (texts.map .str))
    (hinput : s.input.Sliceable) :
    let run := texts.takeWhile inName
    (run = [] → ∃ m, (s.unexpected nameLabels).Returns ctx m ∧
      (identifier.apply s).Returns ctx (.error ⟨false, m⟩)) ∧
    (run ≠ [] → ∃ start next, (s.startOfAll (run.map .str)).Returns ctx start ∧
      (s.consumeAll (run.map .str)).Returns ctx next ∧
      (identifier.apply s).Returns ctx (.ok ⟨true, ⟨String.join run, start, next.pos⟩, next,
        { Message.empty with expected := nameLabels }⟩)) := by
  intro run
  have hrep := (oneOf_ensures hs hinput (name_tests texts)).2.1
  obtain ⟨r, hr⟩ := hrep.returns fun v hv _ => exists_text_of_str texts v (List.take_subset _ _ hv)
  have hscan := hrep.result r hr
  let A (v : Value) : Bool := v.asText.toOption.elim false inName
  have hA : ∀ v ∈ texts.map .str,
      (TokenParser.united [.letter, .digit, .char "_"]).test v = .ok (A v) :=
    List.forall_mem_map.mpr fun text _ => united_test_str text
  have hrun : (texts.map .str).takeWhile A = run.map .str := List.takeWhile_map
  rw [identifier_eq]
  constructor
  · intro hempty
    rw [hempty] at hrun
    obtain ⟨m, hm⟩ := hs.exists_unexpected
      (fun v hv => exists_text_of_str texts v (List.mem_of_head? hv)) nameLabels
    have hfails := hs.rep_returns_of_run_nil hinput hA hrun hm
    cases hscan.unique hfails
    exact ⟨m, hm, tryMap_returns_iff.mpr ⟨_, hr, rfl⟩⟩
  · intro hne
    obtain ⟨start, next, hstart, hnext, hreads⟩ :=
      hs.rep_returns_run hinput hA (by simpa [hrun] using hne)
    rw [hrun] at hstart hnext hreads
    cases hscan.unique hreads
    refine ⟨start, next, hstart, hnext, tryMap_returns_iff.mpr ⟨_, hr, ?_⟩⟩
    rw [Result.tryMap, Value.joinTexts_str, Fallible.ok_bind]
    rfl

-- Between tests that say yes or no of every token that is left, a choice is one test, for one token
-- as for a run of them, if the tokens that the first alternative refuses on the way can be told
-- about. An identifier is the longest run of letters, digits and underscores.
theorem alternatives_fuse (hs : s.Offers ctx w) (hinput : s.input.Sliceable) :
    (∀ t ts, (∀ u ∈ t :: ts, ∀ v ∈ w, ∃ fits, u.test v = .ok fits) →
      let p := AnyParser.oneOf (.token t) (ts.map .token)
      let fused := TokenParser.united (t :: ts)
      let asked := w.take ((w.takeWhile fused.takes).length + 1)
      (p.toParser.Ensures ctx s (t.Tells (w.take 1)) fun r => (fused.apply s).Returns ctx r) ∧
      (p.rep.Ensures ctx s (t.Tells asked) fun r => (fused.rep.apply s).Returns ctx r) ∧
      p.rep0.Ensures ctx s (t.Tells asked) fun r => (fused.rep0.apply s).Returns ctx r) ∧
    ∀ texts : List String, w = texts.map .str →
      let run := texts.takeWhile inName
      (run = [] → ∃ m, (s.unexpected nameLabels).Returns ctx m ∧
        (identifier.apply s).Returns ctx (.error ⟨false, m⟩)) ∧
      (run ≠ [] → ∃ start next, (s.startOfAll (run.map .str)).Returns ctx start ∧
        (s.consumeAll (run.map .str)).Returns ctx next ∧
        (identifier.apply s).Returns ctx (.ok ⟨true, ⟨String.join run, start, next.pos⟩, next,
          { Message.empty with expected := nameLabels }⟩)) := by
  refine ⟨fun t ts hts => oneOf_ensures hs hinput hts, ?_⟩
  rintro texts rfl
  exact identifier_reads hs hinput

-- A text without characters ends the run, which keeps the labels of both alternatives.
theorem alternatives_fuse_on_underscores :
    let s : State := .start (.ofList ["_", "_", ""]) .chars
    let w : List Value := ["_", "_", ""]
    let a := TokenParser.char "a"
    let b := TokenParser.char "_"
    let r : Result (List Value) := .ok ⟨true, ⟨["_", "_"], ⟨0, 0⟩, ⟨0, 2⟩⟩,
      { s with offset := 2, pos := ⟨0, 2⟩ }, { Message.empty with expected := ["a", "_"] }⟩
    s.Offers .builtin w ∧ s.input.Sliceable ∧
      (∀ u ∈ [a, b], ∀ v ∈ w, ∃ fits, u.test v = .ok fits) ∧ a.Tells w ∧
      w = ["_", "_", ""].map .str ∧ ["_", "_", ""].takeWhile inName = ["_", "_"] ∧
      ((AnyParser.oneOf (.token a) [.token b]).rep.apply s).Returns .builtin r ∧
      ((TokenParser.united [a, b]).rep.apply s).Returns .builtin r ∧
      (identifier.apply s).Returns .builtin (.ok ⟨true, ⟨"__", ⟨0, 0⟩, ⟨0, 2⟩⟩,
        { s with offset := 2, pos := ⟨0, 2⟩ },
        { Message.empty with expected := ["letter", "digit", "_"] }⟩) := by
  intro s w a b r
  have hs : s.Offers .builtin w := ⟨by decide, rfl, fun v _ pos => ⟨_, _, rfl, rfl⟩⟩
  have hinput : s.input.Sliceable := trivial
  have htests : ∀ u ∈ [a, b], ∀ v ∈ w, ∃ fits, u.test v = .ok fits :=
    List.forall_mem_cons.mpr ⟨fun _ _ => ⟨_, rfl⟩,
      List.forall_mem_singleton.mpr fun _ _ => ⟨_, rfl⟩⟩
  have hw : w = ["_", "_", ""].map .str := rfl
  have htells : a.Tells w := fun v hv _ => exists_text_of_str ["_", "_", ""] v hv
  have hrun : ["_", "_", ""].takeWhile inName = ["_", "_"] := rfl
  have hscan : ((TokenParser.united [a, b]).rep.apply s).Returns .builtin r := rfl
  obtain ⟨hfuses, hidentifier⟩ := alternatives_fuse hs hinput
  obtain ⟨_, hrep, _⟩ := hfuses a [b] htests
  obtain ⟨r', hsteps⟩ := hrep.returns htells
  obtain rfl : r' = r := (hrep.result r' hsteps).unique hscan
  obtain ⟨start, next, hstart, hnext, hname⟩ := (hidentifier _ hw).2 (by rw [hrun]; nofun)
  rw [hrun] at hstart hnext hname
  cases hstart
  cases hnext
  exact ⟨hs, hinput, htests, htells, hw, hrun, hsteps, hscan, hname⟩

-- A number of more than 4300 digits has no text. It is not the character that is tried first, and
-- the second alternative, which takes any token, never comes to it.
theorem alternatives_fault_on_long_number :
    let long : Value := .int (Nat.pow 10 Text.maxDigits)
    let s : State := .start (.ofList [long]) .chars
    let a := TokenParser.char "a"
    let p := AnyParser.oneOf (.token a) [.token .any]
    let fused := TokenParser.united [a, .any]
    let next : State := { s with offset := 1, pos := ⟨0, 1⟩ }
    let run : Result (List Value) := .ok ⟨true, ⟨[long], ⟨0, 0⟩, ⟨0, 1⟩⟩, next, fused.runMessage⟩
    s.Offers .builtin [long] ∧ s.input.Sliceable ∧
      (∀ u ∈ [a, .any], ∀ v ∈ [long], ∃ fits, u.test v = .ok fits) ∧
      ((fused.apply s).Returns .builtin (.ok ⟨true, ⟨long, ⟨0, 0⟩, ⟨0, 1⟩⟩, next, .empty⟩) ∧
        (fused.rep.apply s).Returns .builtin run ∧ (fused.rep0.apply s).Returns .builtin run) ∧
      (p.toParser.apply s).Faults .builtin .badValue ∧ (p.rep.apply s).Faults .builtin .badValue ∧
      (p.rep0.apply s).Faults .builtin .badValue := by
  have htext : (Value.int (Nat.pow 10 Text.maxDigits)).text = .error .badValue :=
    Value.text_int_eq_error_iff.mpr (Nat.le_of_eq (Int.natAbs_natCast _).symm)
  -- From here on the number must not be computed.
  revert htext
  generalize Nat.pow 10 Text.maxDigits = n
  intro htext long s a p fused next run
  have hs : s.Offers .builtin [long] := ⟨nofun, rfl, fun v _ pos => ⟨_, _, rfl, rfl⟩⟩
  have htests : ∀ u ∈ [a, .any], ∀ v ∈ [long], ∃ fits, u.test v = .ok fits :=
    List.forall_mem_cons.mpr ⟨List.forall_mem_singleton.mpr ⟨false, rfl⟩,
      List.forall_mem_singleton.mpr (List.forall_mem_singleton.mpr ⟨true, rfl⟩)⟩
  have hne : [TokenParser.any] ≠ [] := List.cons_ne_nil _ _
  have hrefused : a.test long = .ok false := rfl
  exact ⟨hs, trivial, htests, ⟨rfl, rfl, rfl⟩, oneOf_faults_of_refused hs hne hrefused htext⟩

end Parser

end Parsing
