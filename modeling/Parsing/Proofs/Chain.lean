import Parsing.Parser.Chain
import Parsing.Proofs.Repetition.Unfolding

namespace Parsing

open Eval

namespace Result

variable {α β γ : Type}

-- A value that is made in two steps.
theorem tryMap_bind (r : Result α) (f : α → Fallible β) (g : β → Fallible γ) :
    r.tryMap (fun a => f a >>= g) = r.tryMap f >>= fun r => r.tryMap g := by
  cases r with
  | error e => rfl
  | ok r =>
    change (f r.value.value >>= g) >>= _ = (f r.value.value >>= _) >>= _
    cases f r.value.value <;> rfl

theorem tryMap_map (r : Result α) (f : α → β) (g : β → Fallible γ) :
    (r.map f).tryMap g = r.tryMap fun a => g (f a) := by
  cases r <;> rfl

theorem exists_tryMap {f : α → Fallible β} (hf : ∀ a, ∃ b, f a = .ok b) (r : Result α) :
    ∃ r', r.tryMap f = .ok r' := by
  cases r with
  | error e => exact ⟨_, rfl⟩
  | ok r =>
    obtain ⟨b, hb⟩ := hf r.value.value
    exact ⟨_, Fallible.bind_eq_ok_iff.mpr ⟨b, hb, rfl⟩⟩

-- All but the value stays as it is.
theorem same_of_tryMap {f : α → Fallible β} {r : Result α} {r' : Result β}
    (h : r.tryMap f = .ok r') : r'.consumed = r.consumed ∧ r'.message = r.message := by
  cases r with
  | error e =>
    cases h
    exact ⟨rfl, rfl⟩
  | ok r =>
    obtain ⟨b, _, h⟩ := Fallible.bind_eq_ok_iff.mp h
    cases h
    exact ⟨rfl, rfl⟩

end Result

namespace Parser

variable {α β γ : Type} {ctx : Context} {s : State} {e : Failure}

section Rules

-- Goes on with a value that has to be computed first.
def computed (a : Fallible α) (f : α → Parser β) : Parser β where
  apply s := do (f (← a)).apply s

-- An operand, and behind it, if an operator follows, the operator applied to it and to the rest of
-- the chain.
def chainRightRule (p : Parser α) (op : Parser (Operator α)) (self : Unit → Parser α)
    (_ : Unit) : Parser α :=
  p.bind fun x => (op.bind fun f => (self ()).tryMap fun y => f x y) <|> Parser.pure x

-- What follows the operand `x`: if an operator and one more operand do, then what follows the value
-- of all three.
def chainLeftRule (p : Parser α) (op : Parser (Operator α)) (self : α → Parser α) (x : α) :
    Parser α :=
  (op.bind fun f => p.bind fun y => computed (f x y) self) <|> Parser.pure x

end Rules

section Folding

variable {q : Parser γ} {k : γ → Parser β} {fold : List γ → Fallible β} {b : β}

theorem tryMap_orGive {a : α} {f : α → Fallible β} {r : Result α} {r' : Result β}
    (hab : f a = .ok b) (h : r.tryMap f = .ok r') :
    (orGive a s r).tryMap f = .ok (orGive b s r') := by
  obtain ⟨hconsumed, hmessage⟩ := Result.same_of_tryMap h
  simp only [orGive, hconsumed, hmessage]
  cases r.consumed with
  | true => exact h
  | false => exact Fallible.bind_eq_ok_iff.mpr ⟨b, hab, rfl⟩

-- The parser gives at `s` what folding the values of these occurrences gives.
def Folds (p : Parser β) (ctx : Context) (s : State) (e : Failure) (found : List (Success γ))
    (fold : List γ → Fallible β) : Prop :=
  ∃ r, (ended s e found).tryMap fold = .ok r ∧ (p.apply s).Returns ctx r

-- Without an occurrence nothing is folded.
theorem Folds.stop (hb : fold [] = .ok b) (he : (q.apply s).Returns ctx (.error e)) :
    Folds (q.bind k <|> Parser.pure b) ctx s e [] fold := by
  refine ⟨orGive b s (.error e), ?_, ?_⟩
  · rw [← orGive_repeated]
    exact tryMap_orGive hb rfl
  · exact orElse_pure_returns_iff.mpr ⟨_, bind_returns_iff.mpr (.inl ⟨e, he, rfl⟩), rfl⟩

-- Behind an occurrence, its value is folded into what follows.
theorem Folds.more {first : Success γ} {rest : List (Success γ)} (hb : fold [] = .ok b)
    (hfirst : (q.apply s).Returns ctx (.ok first))
    (hrest : Folds (k first.value.value) ctx first.state e rest
      fun values => fold (first.value.value :: values)) :
    Folds (q.bind k <|> Parser.pure b) ctx s e (first :: rest) fold := by
  obtain ⟨r, hfold, hk⟩ := hrest
  refine ⟨orGive b s (first.before r), ?_, ?_⟩
  · rw [← orGive_repeated, repeated_cons]
    refine tryMap_orGive hb ?_
    rw [Success.tryMap_before, Result.tryMap_map, hfold]
    rfl
  · exact orElse_pure_returns_iff.mpr
      ⟨_, bind_returns_iff.mpr (.inr ⟨first, r, hfirst, hk, rfl⟩), rfl⟩

end Folding

section Chain

variable {p : Parser α} {op : Parser (Operator α)} {found : List (Success (Operator α × α))}

-- Every operator that is read gives a value for any two operands.
def Total (op : Parser (Operator α)) (ctx : Context) : Prop :=
  ∀ ⦃s r⦄, (op.apply s).Returns ctx (.ok r) → ∀ x y, ∃ z, r.value.value x y = .ok z

theorem Total.of_andThen {r : Success (Operator α × α)} (hop : op.Total ctx)
    (h : ((op.andThen p).apply s).Returns ctx (.ok r)) (x y : α) :
    ∃ z, r.value.value.1 x y = .ok z := by
  obtain ⟨operator, next, hoperator, hnext, hvalue, _⟩ := bind_returns_ok h
  obtain ⟨operand | e, _, hmap⟩ := map_returns_iff.mp hnext
  · cases hmap
    rw [hvalue]
    exact hop hoperator x y
  · cases hmap

-- The rules give this result as soon as they may refer to themselves often enough.
def Unfolds (rule : Nat → Parser α) (ctx : Context) (s : State) (r : Result α) : Prop :=
  ∃ depth, ∀ n ≥ depth, ((rule n).apply s).Returns ctx r

theorem Unfolds.unique {rule : Nat → Parser α} {r r' : Result α} (h : Unfolds rule ctx s r)
    (h' : Unfolds rule ctx s r') : r = r' := by
  obtain ⟨depth, hdepth⟩ := h
  obtain ⟨depth', hdepth'⟩ := h'
  exact (hdepth _ (Nat.le_max_left depth depth')).unique (hdepth' _ (Nat.le_max_right depth depth'))

-- The first depth makes no difference.
theorem unfolds_succ_iff {rule : Nat → Parser α} {r : Result α} :
    Unfolds (fun n => rule (n + 1)) ctx s r ↔ Unfolds rule ctx s r := by
  constructor
  · rintro ⟨depth, hdepth⟩
    refine ⟨depth + 1, fun n hn => ?_⟩
    obtain ⟨n, rfl⟩ := Nat.exists_eq_add_of_le' (Nat.le_of_add_left_le hn)
    exact hdepth n (by omega)
  · rintro ⟨depth, hdepth⟩
    exact ⟨depth, fun n hn => hdepth (n + 1) (by omega)⟩

-- What follows an operand in the rule that applies operators from the right.
def chainRightTail (p : Parser α) (op : Parser (Operator α)) (n : Nat) (x : α) : Parser α :=
  (op.bind fun f => (unroll (chainRightRule p op) n ()).tryMap fun y => f x y) <|> Parser.pure x

theorem chainRightTail_succ (p : Parser α) (op : Parser (Operator α)) (n : Nat) (x : α) :
    chainRightTail p op (n + 1) x =
      (((op.andThen p).bind fun c => (chainRightTail p op n c.2).tryMap fun y => c.1 x y) <|>
        Parser.pure x) := by
  have hunroll : unroll (chainRightRule p op) (n + 1) () = p.bind (chainRightTail p op n) := rfl
  simp only [chainRightTail, hunroll, tryMap_of_bind, andThen_bind]

theorem unroll_chainLeftRule_succ (p : Parser α) (op : Parser (Operator α)) (n : Nat) (x : α) :
    unroll (chainLeftRule p op) (n + 1) x =
      (((op.andThen p).bind fun c => computed (c.1 x c.2) (unroll (chainLeftRule p op) n)) <|>
        Parser.pure x) := by
  rw [andThen_bind]
  rfl

-- The last operators are applied first: they stand innermost in the rule.
theorem Repeats.folds_right (hop : op.Total ctx) (h : Repeats (op.andThen p) ctx s found e)
    {n : Nat} (hn : found.length < n) (x : α) :
    Folds (chainRightTail p op n x) ctx s e found (applyRight x) := by
  induction h generalizing n x with
  | stop he =>
    obtain ⟨n, rfl⟩ := Nat.exists_eq_succ_of_ne_zero (Nat.ne_zero_of_lt hn)
    rw [chainRightTail_succ]
    exact .stop rfl he
  | @more s first rest e hfirst _ _ ih =>
    obtain ⟨n, rfl⟩ := Nat.exists_eq_succ_of_ne_zero (Nat.ne_zero_of_lt hn)
    obtain ⟨r, hfold, htail⟩ := ih (Nat.lt_of_succ_lt_succ hn) first.value.value.2
    obtain ⟨r', hr'⟩ := r.exists_tryMap (hop.of_andThen hfirst x)
    rw [chainRightTail_succ]
    refine .more rfl hfirst ⟨r', ?_, tryMap_returns_iff.mpr ⟨r, htail, hr'⟩⟩
    have happly : (fun rest => applyRight x (first.value.value :: rest)) = fun rest =>
        applyRight first.value.value.2 rest >>= fun y => first.value.value.1 x y := rfl
    rw [happly, Result.tryMap_bind, hfold]
    exact hr'

-- The first operators are applied first: their values are handed on.
theorem Repeats.folds_left (hop : op.Total ctx) (h : Repeats (op.andThen p) ctx s found e)
    {n : Nat} (hn : found.length < n) (x : α) :
    Folds (unroll (chainLeftRule p op) n x) ctx s e found (applyLeft x) := by
  induction h generalizing n x with
  | stop he =>
    obtain ⟨n, rfl⟩ := Nat.exists_eq_succ_of_ne_zero (Nat.ne_zero_of_lt hn)
    rw [unroll_chainLeftRule_succ]
    exact .stop rfl he
  | @more s first rest e hfirst _ _ ih =>
    obtain ⟨n, rfl⟩ := Nat.exists_eq_succ_of_ne_zero (Nat.ne_zero_of_lt hn)
    obtain ⟨z, hz⟩ := hop.of_andThen hfirst x first.value.value.2
    obtain ⟨r, hfold, htail⟩ := ih (Nat.lt_of_succ_lt_succ hn) z
    rw [unroll_chainLeftRule_succ]
    refine .more rfl hfirst ⟨r, ?_, ?_⟩
    · have happly (rest : List (Operator α × α)) :
          applyLeft x (first.value.value :: rest) = applyLeft z rest := by
        change (first.value.value.1 x first.value.value.2 >>= fun z => applyLeft z rest) = _
        rw [hz]
        rfl
      simp only [happly]
      exact hfold
    · exact returns_bind_iff.mpr ⟨z, hz, htail⟩

-- A chain is an operand and what folding the pairs behind it gives.
theorem chain_tryMap_returns_iff {fold : α → List (Operator α × α) → Fallible α} {r : Result α} :
    (((p.chain op).tryMap fun (first, rest) => fold first rest).apply s).Returns ctx r ↔
      (∃ e, (p.apply s).Returns ctx (.error e) ∧ r = .error e) ∨
      ∃ first found e r', (p.apply s).Returns ctx (.ok first) ∧
        Repeats (op.andThen p) ctx first.state found e ∧
        (ended first.state e found).tryMap (fold first.value.value) = .ok r' ∧
        r = first.before r' := by
  rw [chain, andThen_tryMap, bind_returns_iff]
  refine or_congr Iff.rfl ⟨?_, ?_⟩
  · rintro ⟨first, r', hfirst, hnext, rfl⟩
    obtain ⟨_, hrep0, hfold⟩ := tryMap_returns_iff.mp hnext
    obtain ⟨found, e, hfound, rfl⟩ := rep0_returns_iff.mp hrep0
    exact ⟨first, found, e, r', hfirst, hfound, hfold, rfl⟩
  · rintro ⟨first, found, e, r', hfirst, hfound, hfold, rfl⟩
    have hrep0 := rep0_returns_iff.mpr ⟨found, e, hfound, rfl⟩
    exact ⟨first, r', hfirst, tryMap_returns_iff.mpr ⟨_, hrep0, hfold⟩, rfl⟩

section Tails

variable {d : Dialect} {b : α} {r : Result α} {tail : Nat → α → Parser α}
  {fold : α → List (Operator α × α) → Fallible α}

-- Operands with tails that fold what the chain folds are the chain.
theorem unfolds_of_chain (hfolds : ∀ {s found e n}, Repeats (op.andThen p) ctx s found e →
      found.length < n → ∀ x, Folds (tail n x) ctx s e found (fold x))
    (h : (((p.chain op).tryMap fun (first, rest) => fold first rest).apply s).Returns ctx r) :
    Unfolds (fun n => p.bind (tail n)) ctx s r := by
  obtain ⟨e, he, rfl⟩ | ⟨first, found, e, r', hfirst, hfound, hfold, rfl⟩ :=
    chain_tryMap_returns_iff.mp h
  · exact ⟨0, fun n _ => bind_returns_iff.mpr (.inl ⟨e, he, rfl⟩)⟩
  · refine ⟨found.length + 1, fun n hn => ?_⟩
    obtain ⟨r, hr, htail⟩ := hfolds hfound hn first.value.value
    cases hr.symm.trans hfold
    exact bind_returns_iff.mpr (.inr ⟨first, _, hfirst, htail, rfl⟩)

-- If tails return only where the pairs come to an end, they return no more than the chain does.
theorem chain_of_unfolds (hp : Grammar d p) (hs : s.offset ≤ s.input.size)
    (hfolds : ∀ {s found e n}, Repeats (op.andThen p) ctx s found e →
      found.length < n → ∀ x, Folds (tail n x) ctx s e found (fold x))
    (hends : ∀ {n x s r}, s.offset ≤ s.input.size → ((tail n x).apply s).Returns ctx r →
      ∃ found e, Repeats (op.andThen p) ctx s found e)
    (h : Unfolds (fun n => p.bind (tail n)) ctx s r) :
    (((p.chain op).tryMap fun (first, rest) => fold first rest).apply s).Returns ctx r := by
  have hchain : ∃ r', (((p.chain op).tryMap fun (first, rest) => fold first rest).apply s).Returns
      ctx r' := by
    obtain ⟨depth, hdepth⟩ := h
    obtain ⟨e, he, _⟩ | ⟨first, next, hfirst, hnext, _⟩ :=
      bind_returns_iff.mp (hdepth depth (Nat.le_refl depth))
    · exact ⟨_, chain_tryMap_returns_iff.mpr (.inl ⟨e, he, rfl⟩)⟩
    · obtain ⟨found, e, hfound⟩ := hends (hp.reaches_of_ok hs hfirst).1.bounded hnext
      obtain ⟨r', hfold, _⟩ := hfolds hfound (Nat.lt_succ_self _) first.value.value
      exact ⟨_, chain_tryMap_returns_iff.mpr
        (.inr ⟨first, found, e, r', hfirst, hfound, hfold, rfl⟩)⟩
  obtain ⟨r', hchain⟩ := hchain
  rw [h.unique (unfolds_of_chain hfolds hchain)]
  exact hchain

theorem exists_repeats_of_tail {q : Parser β} {k : β → Parser α} (hq : Grammar d q)
    (hs : s.offset ≤ s.input.size) (h : ((q.bind k <|> Parser.pure b).apply s).Returns ctx r)
    (hk : ∀ (first : Success β) (next : Result α), first.state.offset ≤ first.state.input.size →
      ((k first.value.value).apply first.state).Returns ctx next →
      ∃ found e, Repeats q ctx first.state found e) :
    ∃ found e, Repeats q ctx s found e := by
  obtain ⟨_, hbind, _⟩ := orElse_pure_returns_iff.mp h
  exact exists_repeats_of_bind hq hs hbind hk

theorem exists_repeats_of_chainRightTail (hp : Grammar d p) (hop : Grammar d op) {n : Nat} {x : α}
    (hs : s.offset ≤ s.input.size) (h : ((chainRightTail p op n x).apply s).Returns ctx r) :
    ∃ found e, Repeats (op.andThen p) ctx s found e := by
  induction n generalizing s x r with
  | zero =>
    -- without a rule to refer to, only a chain that ends here returns
    obtain ⟨_, hbind, _⟩ := orElse_pure_returns_iff.mp h
    obtain ⟨e, he, _⟩ | ⟨_, _, _, hnext, _⟩ := bind_returns_iff.mp hbind
    · exact ⟨[], e, .stop (bind_returns_iff.mpr (.inl ⟨e, he, rfl⟩))⟩
    · obtain ⟨_, hself, _⟩ := tryMap_returns_iff.mp hnext
      cases hself
  | succ n ih =>
    rw [chainRightTail_succ] at h
    refine exists_repeats_of_tail (hop.andThen hp) hs h fun first next hfirst hnext => ?_
    obtain ⟨_, htail, _⟩ := tryMap_returns_iff.mp hnext
    exact ih hfirst htail

theorem exists_repeats_of_chainLeftRule (hp : Grammar d p) (hop : Grammar d op) {n : Nat} {x : α}
    (hs : s.offset ≤ s.input.size)
    (h : ((unroll (chainLeftRule p op) n x).apply s).Returns ctx r) :
    ∃ found e, Repeats (op.andThen p) ctx s found e := by
  induction n generalizing s x r with
  | zero => cases h
  | succ n ih =>
    rw [unroll_chainLeftRule_succ] at h
    refine exists_repeats_of_tail (hop.andThen hp) hs h fun first next hfirst hnext => ?_
    obtain ⟨_, _, htail⟩ := returns_bind_iff.mp hnext
    exact ih hfirst htail

end Tails

-- Where a chain returns a result, so do the rules that refer to themselves, in every field and
-- whether or not it is a success. In a grammar, where the rules return a result the chain does too.
theorem chain_eq_recursion (p : Parser α) (hop : op.Total ctx) :
    let right n := unroll (chainRightRule p op) n ()
    let left n := p.bind (unroll (chainLeftRule p op) n)
    (∀ s r, ((p.chainRight op).apply s).Returns ctx r → Unfolds right ctx s r) ∧
    (∀ s r, ((p.chainLeft op).apply s).Returns ctx r → Unfolds left ctx s r) ∧
    ∀ d, Grammar d p → Grammar d op → ∀ s, s.offset ≤ s.input.size → ∀ r,
      (Unfolds right ctx s r → ((p.chainRight op).apply s).Returns ctx r) ∧
      (Unfolds left ctx s r → ((p.chainLeft op).apply s).Returns ctx r) := by
  intro right left
  have hright (n : Nat) : right (n + 1) = p.bind (chainRightTail p op n) := rfl
  refine ⟨fun s r h => ?_, fun s r h => ?_, fun d hp hgrammar s hs r => ⟨fun h => ?_, fun h => ?_⟩⟩
  · rw [← unfolds_succ_iff]
    simp only [hright]
    exact unfolds_of_chain (fun hfound => hfound.folds_right hop) h
  · exact unfolds_of_chain (fun hfound => hfound.folds_left hop) h
  · rw [← unfolds_succ_iff] at h
    simp only [hright] at h
    exact chain_of_unfolds hp hs (fun hfound => hfound.folds_right hop)
      (exists_repeats_of_chainRightTail hp hgrammar) h
  · exact chain_of_unfolds hp hs (fun hfound => hfound.folds_left hop)
      (exists_repeats_of_chainLeftRule hp hgrammar) h

-- The same operands and operators are grouped from either side.
theorem chain_eq_recursion_of_two_operators :
    let s : State := .start (.ofText "1-2-3") .chars
    let p := TokenParser.any.toParser
    let op := (TokenParser.char "-").toParser.as fun x y => (.ok (.tuple [x, y]) : Fallible Value)
    let result v : Result Value := .ok ⟨true, ⟨v, ⟨0, 0⟩, ⟨0, 5⟩⟩,
      { s with offset := 5, pos := ⟨0, 5⟩ }, Message.empty.expecting "-"⟩
    let right : Result Value := result (.tuple ["1", .tuple ["2", "3"]])
    let left : Result Value := result (.tuple [.tuple ["1", "2"], "3"])
    op.Total .builtin ∧ Grammar .full p ∧ Grammar .full op ∧ s.offset ≤ s.input.size ∧
      Unfolds (fun n => unroll (chainRightRule p op) n ()) .builtin s right ∧
      Unfolds (fun n => p.bind (unroll (chainLeftRule p op) n)) .builtin s left ∧
      ((p.chainRight op).apply s).Returns .builtin right ∧
      ((p.chainLeft op).apply s).Returns .builtin left := by
  intro s p op result right left
  have hop : op.Total .builtin := by
    intro s r h x y
    obtain ⟨operator | e, _, hmap⟩ := map_returns_iff.mp h
    · cases hmap
      exact ⟨_, rfl⟩
    · cases hmap
  have hp : Grammar .full p := .token _
  have hgrammar : Grammar .full op := .as _ (.token _)
  have hs : s.offset ≤ s.input.size := Nat.zero_le _
  have hright : ((p.chainRight op).apply s).Returns .builtin right :=
    chain_tryMap_returns_iff.mpr (.inr ⟨_, [_, _], _, _, rfl,
      .more rfl (.inl rfl) (.more rfl (.inl rfl) (.stop rfl)), rfl, rfl⟩)
  have hleft : ((p.chainLeft op).apply s).Returns .builtin left :=
    chain_tryMap_returns_iff.mpr (.inr ⟨_, [_, _], _, _, rfl,
      .more rfl (.inl rfl) (.more rfl (.inl rfl) (.stop rfl)), rfl, rfl⟩)
  obtain ⟨hunfoldsRight, hunfoldsLeft, hfolds⟩ := chain_eq_recursion p hop
  have hunfoldsRight := hunfoldsRight s right hright
  have hunfoldsLeft := hunfoldsLeft s left hleft
  exact ⟨hop, hp, hgrammar, hs, hunfoldsRight, hunfoldsLeft,
    (hfolds .full hp hgrammar s hs right).1 hunfoldsRight,
    (hfolds .full hp hgrammar s hs left).2 hunfoldsLeft⟩

end Chain

end Parser

end Parsing
