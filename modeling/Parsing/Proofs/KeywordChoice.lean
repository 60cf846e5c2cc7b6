import Parsing.Proofs.Choice
import Parsing.Proofs.Spelling

namespace Parsing

open Eval Parsing.Parser

variable {ctx : Context} {s : State}

theorem State.unexpected_agree_relabel (labels labels' : List Value) :
    Agree ctx Eq (s.unexpected labels')
      (s.unexpected labels >>= fun m => pure { m with expected := labels' }) := by
  simp only [unexpected, bind_assoc]
  refine .bind_right fun atEnd _ => ?_
  cases atEnd with
  | true => exact .refl _
  | false => simp only [Bool.false_eq_true, if_false, bind_assoc, pure_bind, Agree.refl]

namespace Parser

section Alternatives

variable {α ι : Type} {p q : Parser α} {before after : List (Parser α)}

-- Behind an alternative that consumes, whatever it ends in, nothing is run.
theorem orElse_agree_of_consumed (hp : ∀ r, (p.apply s).Returns ctx r → r.consumed = true) :
    Agree ctx Eq ((p.orElse q).apply s) (p.apply s) := by
  have hpure : Agree ctx Eq (p.apply s >>= pure) (p.apply s) := by
    rw [bind_pure]
    exact .refl _
  refine .trans (.bind_right fun r hr => ?_) hpure
  rw [if_pos (hp r hr)]
  exact .refl _

-- An alternative that consumes takes the place of one that did not.
theorem orElse_agree_of_pending {first : Result α} (hp : (p.apply s).Returns ctx first)
    (hfirst : first.consumed = false)
    (hq : ∀ r, (q.apply s).Returns ctx r → r.consumed = true) :
    Agree ctx Eq ((p.orElse q).apply s) (q.apply s) := by
  have hpure : Agree ctx Eq (q.apply s >>= pure) (q.apply s) := by
    rw [bind_pure]
    exact .refl _
  refine .trans (.bind_of_returns hp ?_) hpure
  rw [hfirst, if_neg Bool.false_ne_true]
  refine .bind_right fun r hr => ?_
  rw [if_pos (hq r hr)]
  exact .refl _

theorem choice_commits
    (hbefore : ∀ q ∈ before, ∃ r, (q.apply s).Returns ctx r ∧ r.consumed = false)
    (hp : ∀ r, (p.apply s).Returns ctx r → r.consumed = true) :
    Agree ctx Eq ((choice (before ++ p :: after)).apply s) (p.apply s) := by
  induction before with
  | nil =>
    cases after with
    | nil => exact .refl _
    | cons q after =>
      rw [List.nil_append, choice_cons p (List.cons_ne_nil q after)]
      exact orElse_agree_of_consumed hp
  | cons q before ih =>
    have hrest := ih fun q hq => hbefore q (List.mem_cons_of_mem _ hq)
    obtain ⟨r, hr, hpending⟩ := hbefore q List.mem_cons_self
    rw [List.cons_append, choice_cons q (by simp)]
    refine (orElse_agree_of_pending hr hpending fun r hr => ?_).trans hrest
    exact hp r (hrest.returns_iff.mp hr)

-- Alternatives that do nothing but fail put their labels together.
theorem orElse_agree_of_fail {labels labels' : List Value}
    (hp : Agree ctx Eq (p.apply s) ((fail labels).apply s))
    (hq : Agree ctx Eq (q.apply s) ((fail labels').apply s)) :
    Agree ctx Eq ((p.orElse q).apply s) ((fail (labels ++ labels')).apply s) := by
  have hboth : Agree ctx Eq ((fail (labels ++ labels') : Parser α).apply s)
      (s.unexpected labels >>= fun m =>
        pure (.error ⟨false, { m with expected := labels ++ labels' }⟩)) := by
    refine (State.unexpected_agree_relabel labels _).bind_left.trans ?_
    simp only [bind_assoc, pure_bind, Agree.refl]
  refine hp.bind_left.trans (.trans ?_ hboth.symm)
  simp only [fail, bind_assoc, pure_bind]
  refine .bind_right fun m hm => ?_
  have hsecond : (q.apply s).Returns ctx (.error ⟨false, { m with expected := labels' }⟩) :=
    hq.returns_iff.mpr (fail_returns_iff.mpr ⟨_, State.unexpected_relabel hm labels', rfl⟩)
  refine .bind_of_returns hsecond ?_
  rw [← TokenParser.expected_of_unexpected hm]
  exact .refl _

theorem choice_agree_of_fail {is : List ι} {f : ι → Parser α} {labels : ι → List Value}
    (h : ∀ i ∈ is, Agree ctx Eq ((f i).apply s) ((fail (labels i)).apply s)) :
    Agree ctx Eq ((choice (is.map f)).apply s) ((fail (is.flatMap labels)).apply s) := by
  induction is with
  | nil => exact .refl _
  | cons i is ih =>
    have hfirst := h i List.mem_cons_self
    have hrest := ih fun i hi => h i (List.mem_cons_of_mem _ hi)
    cases is with
    | nil =>
      rw [List.flatMap_singleton]
      exact hfirst
    | cons j is =>
      rw [List.map_cons, choice_cons _ (by simp), List.flatMap_cons]
      exact orElse_agree_of_fail hfirst hrest

end Alternatives

-- The keyword begins with the token that comes next.
def Begins (k : String) (w : List Value) : Prop :=
  ∃ c, k.toList.head? = some c ∧ w.head? = some (.char c)

variable {k : String} {w : List Value}

theorem string_agree_of_not_begins (hs : s.Offers ctx w) (hk : k ≠ "") (h : ¬ Begins k w) :
    Agree ctx Eq ((string k).apply s) ((fail [.str k]).apply s) := by
  have hne : k.toList ≠ [] := by simpa using hk
  obtain ⟨c, cs, hcs⟩ := List.exists_cons_of_ne_nil hne
  have hspelled : spelled k.toList w = 0 := by
    rw [hcs]
    exact spelled_cons_of_ne fun hc => h ⟨c, by rw [hcs]; rfl, hc⟩
  obtain ⟨next, hnext, _, hfails⟩ := string_spells k hs
  rw [hspelled, List.take_zero, State.consumeAll_nil_returns_iff] at hnext
  rw [hspelled, hnext] at hfails
  refine hfails ?_
  rw [← String.length_toList]
  exact List.length_pos_iff.mpr hne

theorem consumed_of_begins {r : Result String} (hs : s.Offers ctx w) (h : Begins k w)
    (hr : ((string k).apply s).Returns ctx r) : r.consumed = true := by
  obtain ⟨c, hc, hw⟩ := h
  obtain ⟨cs, hcs⟩ := List.head?_eq_some_iff.mp hc
  obtain ⟨rest, rfl⟩ := List.head?_eq_some_iff.mp hw
  have hspelled : 0 < spelled k.toList (.char c :: rest) := by
    rw [hcs, spelled_cons_char]
    exact Nat.succ_pos _
  have hle := spelled_le k.toList (.char c :: rest)
  rw [String.length_toList] at hle
  obtain ⟨next, _, hall, hfails⟩ := string_spells k hs
  obtain hlength | hlt := Nat.eq_or_lt_of_le hle
  · obtain ⟨_, _, hread⟩ := hall hlength
    rw [hr.unique hread]
    have hne : k ≠ "" := by
      rintro rfl
      cases hcs
    exact decide_eq_true hne
  · obtain ⟨m, _, hm⟩ := returns_bind_iff.mp ((hfails hlt).returns_iff.mp hr)
    rw [returns_pure_iff.mp hm]
    exact decide_eq_true hspelled

-- The keyword is read if all of it comes next, and only then.
theorem string_returns_ok_iff (hs : s.Offers ctx w) :
    (∃ r, ((string k).apply s).Returns ctx (.ok r)) ↔ k.toList.map Value.char <+: w := by
  have hle := spelled_le k.toList w
  rw [String.length_toList] at hle
  obtain ⟨next, _, hall, hfails⟩ := string_spells k hs
  rw [prefix_iff_spelled_eq, String.length_toList]
  constructor
  · rintro ⟨r, hr⟩
    by_contra hne
    have hlt := Nat.lt_of_le_of_ne hle hne
    obtain ⟨m, _, hm⟩ := returns_bind_iff.mp ((hfails hlt).returns_iff.mp hr)
    cases returns_pure_iff.mp hm
  · intro hlength
    obtain ⟨_, _, hread⟩ := hall hlength
    exact ⟨_, hread⟩

theorem keywords_agree_of_none {ks : List String} (hs : s.Offers ctx w) (hks : ∀ k ∈ ks, k ≠ "")
    (hnone : ∀ k ∈ ks, ¬ Begins k w) :
    Agree ctx Eq ((choice (ks.map string)).apply s) ((fail (ks.map .str)).apply s) := by
  have hlabels : (ks.flatMap fun k => [Value.str k]) = ks.map .str := List.map_eq_flatMap.symm
  rw [← hlabels]
  exact choice_agree_of_fail fun k hk => string_agree_of_not_begins hs (hks k hk) (hnone k hk)

theorem keywords_agree_of_begins {before after : List String} (hs : s.Offers ctx w)
    (hne : ∀ k' ∈ before, k' ≠ "") (hbefore : ∀ k' ∈ before, ¬ Begins k' w) (hk : Begins k w) :
    Agree ctx Eq ((choice ((before ++ k :: after).map string)).apply s) ((string k).apply s) := by
  -- What comes next is a character, so that the keywords before `k` can tell their failures.
  have htold : Told w.head? := by
    obtain ⟨c, _, hw⟩ := hk
    intro v hv
    rw [← Option.some.inj (hw.symm.trans hv)]
    exact ⟨_, rfl⟩
  simp only [List.map_append, List.map_cons]
  refine choice_commits (fun q hq => ?_) fun r hr => consumed_of_begins hs hk hr
  obtain ⟨k', hk', rfl⟩ := List.mem_map.mp hq
  obtain ⟨m, hm⟩ := hs.exists_unexpected htold [.str k']
  have hfail := string_agree_of_not_begins hs (hne k' hk') (hbefore k' hk')
  exact ⟨_, hfail.returns_iff.mpr (fail_returns_iff.mpr ⟨m, hm, rfl⟩), rfl⟩

-- If no keyword begins with the next token, the choice does nothing but fail, expecting all of them.
-- Else the first one that does decides, so that the choice succeeds only if that one comes next,
-- whatever the keywords behind it are.
theorem keyword_choice_commits (hs : s.Offers ctx w) {ks : List String} (hks : ∀ k ∈ ks, k ≠ "") :
    let p := choice (ks.map string)
    ((∀ k ∈ ks, ¬ Begins k w) →
      Agree ctx Eq (p.apply s)
        (s.unexpected (ks.map .str) >>= fun m => pure (.error ⟨false, m⟩)) ∧
      (Told w.head? →
        ∃ m, (s.unexpected (ks.map .str)).Returns ctx m ∧
          (p.apply s).Returns ctx (.error ⟨false, m⟩))) ∧
    ∀ before k after, ks = before ++ k :: after → (∀ k' ∈ before, ¬ Begins k' w) → Begins k w →
      Agree ctx Eq (p.apply s) ((string k).apply s) ∧
      ((∃ r, (p.apply s).Returns ctx (.ok r)) ↔ k.toList.map Value.char <+: w) := by
  intro p
  constructor
  · intro hnone
    have hfail := keywords_agree_of_none hs hks hnone
    refine ⟨hfail, fun htold => ?_⟩
    obtain ⟨m, hm⟩ := hs.exists_unexpected htold (ks.map .str)
    exact ⟨m, hm, hfail.returns_iff.mpr (fail_returns_iff.mpr ⟨m, hm, rfl⟩)⟩
  · rintro before k after rfl hbefore hbegins
    have hcommits : Agree ctx Eq (p.apply s) ((string k).apply s) :=
      keywords_agree_of_begins hs (fun k' hk' => hks k' (List.mem_append_left _ hk')) hbefore
        hbegins
    refine ⟨hcommits, ?_⟩
    simp only [hcommits.returns_iff]
    exact string_returns_ok_iff hs

-- The last keyword is there to be read, yet the one before it, which only begins like it, decides.
theorem keyword_choice_commits_to_longer :
    let s : State := .start (.ofList ["f", "a"]) .chars
    let w : List Value := ["f", "a"]
    let p := choice (["or", "foo", "fa"].map string)
    s.Offers .builtin w ∧ (∀ k ∈ ["or", "foo", "fa"], k ≠ "") ∧ (∀ k ∈ ["or"], ¬ Begins k w) ∧
      Begins "foo" w ∧ "fa".toList.map Value.char <+: w ∧
      (p.apply s).Returns .builtin (.error ⟨true, ⟨1, ⟨0, 1⟩, .text "a", ["foo"]⟩⟩) := by
  intro s w p
  have hs : s.Offers .builtin w := ⟨by decide, rfl, fun v _ pos => ⟨_, _, rfl, rfl⟩⟩
  have hks : ∀ k ∈ ["or", "foo", "fa"], k ≠ "" := by decide
  have hbefore : ∀ k ∈ ["or"], ¬ Begins k w := by
    rintro k hk ⟨c, hc, hw⟩
    obtain rfl := List.mem_singleton.mp hk
    cases hc
    exact absurd (Value.str.inj (Option.some.inj hw)) (by decide)
  have hbegins : Begins "foo" w := ⟨'f', rfl, rfl⟩
  have hcommits := ((keyword_choice_commits hs hks).2 ["or"] "foo" ["fa"] rfl hbefore hbegins).1
  exact ⟨hs, hks, hbefore, hbegins, List.prefix_rfl, hcommits.returns_iff.mpr rfl⟩

end Parser

end Parsing
