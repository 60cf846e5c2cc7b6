import Parsing.Proofs.Invariant.Basic
import Parsing.Proofs.TokenParser

namespace Parsing.Invariant

open Eval Parsing.Parser

variable {d : Dialect} {ctx : Context} {α β : Type}

-- The successes of `p` may be turned into failures that show their values.
def Rejectable (I : Invariant d ctx) [ToValue α] (p : Parser α) : Prop :=
  ∀ ⦃s r text⦄, I.admits s → (p.apply s).Returns ctx (.ok r) →
    (toValue r.value.value).text = .ok text →
    I.holds s (.error ⟨false, ⟨s.offset, r.value.start, .text text, r.message.expected⟩⟩)

variable {I : Invariant d ctx} {p : Parser α}

section Rejection

variable [ToValue α]

theorem Sound.rejectable (hp : I.Sound p) (hd : d.rejection = true) : I.Rejectable p :=
  fun _ _ _ hs hr _ => I.reject hd hs (hp hs hr)

theorem Rejectable.holds (h : I.Rejectable p) {s : State} {r : Success α} {m : Message}
    (hs : I.admits s) (hr : (p.apply s).Returns ctx (.ok r)) (hm : rejection r s = .ok m) :
    I.holds s (.error ⟨false, m⟩) := by
  obtain ⟨text, htext, hm⟩ := Fallible.bind_eq_ok_iff.mp hm
  cases hm
  exact h hs hr htext

theorem Sound.filter (test : α → Fallible Bool) (hp : I.Sound p) (hreject : I.Rejectable p) :
    I.Sound (p.filter test) := by
  intro s r hs h
  obtain ⟨e, he, rfl⟩ | ⟨r₀, hr₀, ⟨_, rfl⟩ | ⟨_, m, hm, rfl⟩⟩ := filter_returns_iff.mp h
  · exact hp hs he
  · exact hp hs hr₀
  · exact hreject.holds hs hr₀ hm

theorem Sound.collect (f : α → Fallible (Option β)) (hp : I.Sound p)
    (hreject : I.Rejectable p) : I.Sound (p.collect f) := by
  intro s r hs h
  obtain ⟨e, he, rfl⟩ | ⟨r₀, hr₀, ⟨b, _, rfl⟩ | ⟨_, m, hm, rfl⟩⟩ := collect_returns_iff.mp h
  · exact hp hs he
  · exact hp hs hr₀
  · exact hreject.holds hs hr₀ hm

theorem Sound.notFollowedBy (hreject : I.Rejectable p) : I.Sound (notFollowedBy p) := by
  intro s r hs h
  obtain ⟨e, _, rfl⟩ | ⟨r₀, text, hr₀, htext, rfl⟩ := notFollowedBy_returns_iff.mp h
  · exact I.stay hs
  · exact I.relabel _ hs (hreject hs hr₀ htext)

end Rejection

section Tokens

variable {t : TokenParser}

theorem Sound.token : I.Sound t.toParser := by
  intro s r hs h
  obtain ⟨_, m, hm, rfl⟩ | ⟨hatEnd, token, start, stop, htoken, _, hstart, hstop, rfl⟩ :=
    TokenParser.apply_returns_iff.mp h
  · exact I.refuse hs hm
  · have hlt : s.offset + [token].length ≤ s.input.size :=
      Nat.lt_of_not_le (of_decide_eq_false (State.isAtEnd_eq_ok_iff.mp hatEnd).2.symm)
    have hstretch : s.input.stretch s.offset (s.offset + [token].length) = .ok [token] :=
      (Tokens.stretch_eq_cons_iff (Nat.lt_succ_self _)).mpr
        ⟨token, [], htoken, Tokens.stretch_self _ _, rfl⟩
    have hnext : (s.consumeAll [token]).Returns ctx { s with offset := s.offset + 1, pos := stop } :=
      State.consumeAll_returns_iff.mpr
        ⟨stop, Fallible.bind_eq_ok_iff.mpr ⟨stop, hstop, rfl⟩, rfl⟩
    exact I.run hs (List.cons_ne_nil token []) hlt hstretch hnext htoken hstart

theorem holds_run {s : State} {r : Success (List Value)} (hs : I.admits s)
    (h : (t.run? s).Returns ctx (some r)) : I.holds s (Result.ok r).outline := by
  obtain ⟨values, token, start, next, hne, hsize, hstretch, hnext, htoken, hstart, rfl⟩ :=
    TokenParser.tokens_of_run? h
  exact I.relabel t.expected hs (I.run hs hne hsize hstretch hnext htoken hstart)

theorem Sound.tokenRep : I.Sound t.rep := by
  intro s r hs h
  obtain ⟨run, hrun, rfl⟩ | ⟨_, m, hm, rfl⟩ := TokenParser.rep_returns_iff.mp h
  · exact holds_run hs hrun
  · exact I.refuse hs hm

theorem Sound.tokenRep0 : I.Sound t.rep0 := by
  intro s r hs h
  obtain ⟨run, hrun, rfl⟩ | ⟨_, rfl⟩ := TokenParser.rep0_returns_iff.mp h
  · exact holds_run hs hrun
  · exact I.relabel t.expected hs (I.stay hs)

-- A rejected token is refused where it stands.
theorem Rejectable.token : I.Rejectable t.toParser := by
  intro s r text hs h htext
  obtain ⟨_, _, _, hr⟩ | ⟨hatEnd, token, start, stop, htoken, _, hstart, _, hr⟩ :=
    TokenParser.apply_returns_iff.mp h
  · cases hr
  · cases hr
    exact I.refuse hs (State.unexpected_returns_iff.mpr
      (.inr ⟨hatEnd, token, start, text, htoken, hstart, htext, rfl⟩))

end Tokens

-- What an invariant says of the parts of a grammar it says of the grammar.
theorem sound (hp : Grammar d p) : I.Sound p := by
  induction hp with
  | pure a => exact .pure a
  | fail expected => exact .fail expected
  | failAs v => exact .failAs v
  | faulty fault => exact .faulty fault
  | atEnd => exact .atEnd
  | token t => exact .token
  | tokenRep t => exact .tokenRep
  | tokenRep0 t => exact .tokenRep0
  | unnamed _ ih => exact ih.unnamed
  | label v _ ih => exact ih.label v
  | map f _ ih => exact ih.map f
  | tryMap f _ ih => exact ih.tryMap f
  | withPosition _ ih => exact ih.withPosition
  | backtrack hd _ ih => exact ih.backtrack hd
  | orElse _ _ ihp ihq => exact ihp.orElse ihq
  | bind _ _ ihp ihf => exact ihp.bind ihf
  | sequence _ ih => exact .sequence ih
  | rep _ ih => exact ih.rep
  | filter test hd _ ih => exact ih.filter test (ih.rejectable hd)
  | filterToken t test => exact Sound.token.filter test .token
  | collect f hd _ ih => exact ih.collect f (ih.rejectable hd)
  | collectToken t f => exact Sound.token.collect f .token
  | notFollowedBy hd _ ih => exact .notFollowedBy (ih.rejectable hd)
  | notFollowedByToken t => exact .notFollowedBy .token
  | named name _ ih => exact ih.named name
  | trace text => exact .trace text
  | deferred _ ih => exact ih.deferred
  | recursive _ ih => exact .recursive ih

end Parsing.Invariant
