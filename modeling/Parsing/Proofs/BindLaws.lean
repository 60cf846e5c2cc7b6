import Parsing.Characters
import Parsing.Proofs.Invariant.Grammar
import Parsing.Proofs.Lawful

namespace Parsing

open Eval Parsing.Parser

variable {ctx : Context} {α β γ : Type} {s : State}

namespace Success

theorem before_ok (first : Success α) (second : Success β) :
    first.before (.ok second) = .ok { second with
      consumed := first.consumed || second.consumed
      value := second.value.withStart first.value.start } := rfl

theorem before_error (first : Success α) (e : Failure) :
    (first.before (.error e) : Result β) =
      .error { e with consumed := first.consumed || e.consumed } := rfl

theorem before_before (first : Success α) (second : Success β) (third : Result γ) :
    before { second with
      consumed := first.consumed || second.consumed
      value := second.value.withStart first.value.start } third =
      first.before (second.before third) := by
  cases third <;> simp [before, Parsed.withStart, Bool.or_assoc]

theorem tryMap_before (first : Success α) (next : Result β) (f : β → Fallible γ) :
    (first.before next).tryMap f = next.tryMap f >>= fun r => pure (first.before r) := by
  cases next with
  | error e => rfl
  | ok second =>
    change (f second.value.value >>= _) = (f second.value.value >>= _) >>= _
    cases f second.value.value <;> rfl

-- The span starts at `s` or with the token there, and stops where the state is.
structure Edges (ctx : Context) (s : State) (r : Success α) : Prop where
  start_eq : r.value.start = s.pos ∨ ∃ token, s.token = .ok token ∧
    s.map.startOf ctx.maps token s.pos = .ok r.value.start
  stop_eq : r.value.stop = r.state.pos

theorem Edges.withStart_eq {r : Success α} (h : r.Edges ctx s)
    (hmap : ∀ token start, s.map.startOf ctx.maps token s.pos = .ok start → start = s.pos) :
    r.value.withStart s.pos = r.value := by
  have hstart : r.value.start = s.pos := by
    obtain hstart | ⟨token, _, hstart⟩ := h.start_eq
    · exact hstart
    · exact hmap token _ hstart
  rw [← hstart]
  rfl

end Success

-- Both ends are told from the run alone, wherever it starts.
def Invariant.edges (d : Dialect) (ctx : Context) : Invariant d ctx where
  admits _ := True
  holds
    | s, .ok r => r.Edges ctx s
    | _, .error _ => True
  admits_next _ _ := trivial
  stay _ := ⟨.inl rfl, rfl⟩
  refuse _ _ := trivial
  run {s values token start next} _ _ _ _ _ htoken hstart := ⟨.inr ⟨token, htoken, hstart⟩, rfl⟩
  relabel {s r} labels _ h := by
    cases r with
    | ok r => exact ⟨h.start_eq, h.stop_eq⟩
    | error e => trivial
  bind {s first next} _ h hnext := by
    cases next with
    | ok next => exact ⟨h.start_eq, hnext.stop_eq⟩
    | error e => trivial
  backtrack {s r} _ _ h := by
    cases r with
    | ok r => exact ⟨h.start_eq, h.stop_eq⟩
    | error e => trivial
  reject _ _ _ := trivial

theorem Grammar.edges {d : Dialect} {p : Parser α} {r : Success α} (hp : Grammar d p)
    (h : (p.apply s).Returns ctx (.ok r)) : r.Edges ctx s := by
  have hheld := (Invariant.edges d ctx).sound hp trivial h
  exact ⟨hheld.start_eq, hheld.stop_eq⟩

-- The same result with nothing to report, if it is a success.
def Result.silenced : Result α → Result α
  | .ok r => .ok { r with message := .empty }
  | .error e => .error e

namespace Parser

theorem bind_bind (p : Parser α) (f : α → Parser β) (g : β → Parser γ) :
    (p.bind f).bind g = p.bind fun a => (f a).bind g := by
  have happly (s : State) :
      ((p.bind f).bind g).apply s = (p.bind fun a => (f a).bind g).apply s := by
    rw [bind_apply, bind_apply, bind_apply, bind_assoc]
    refine bind_congr fun r => ?_
    cases r with
    | error e => rw [pure_bind]
    | ok first =>
      simp only [bind_apply, bind_assoc]
      refine bind_congr fun r => ?_
      cases r with
      | error e => simp only [pure_bind, Success.before_error]
      | ok second =>
        simp only [pure_bind, bind_assoc, Success.before_ok, ← Success.before_before]
        rfl
  exact congrArg (Parser.mk · "<Parser>") (funext happly)

section Maps

theorem map_eq_tryMap (p : Parser α) (f : α → β) : p.map f = p.tryMap fun a => pure (f a) := by
  have happly (s : State) : (p.map f).apply s = (p.tryMap fun a => pure (f a)).apply s := by
    refine bind_congr fun r => ?_
    cases r <;> rfl
  exact congrArg (Parser.mk · "<Parser>") (funext happly)

theorem tryMap_of_map (p : Parser α) (f : α → β) (g : β → Fallible γ) :
    (p.map f).tryMap g = p.tryMap fun a => g (f a) := by
  have happly (s : State) :
      ((p.map f).tryMap g).apply s = (p.tryMap fun a => g (f a)).apply s := by
    simp only [Parser.map, tryMap, bind_assoc, pure_bind]
    refine bind_congr fun r => ?_
    cases r <;> rfl
  exact congrArg (Parser.mk · "<Parser>") (funext happly)

theorem map_of_map (p : Parser α) (f : α → β) (g : β → γ) :
    (p.map f).map g = p.map fun a => g (f a) := by
  rw [map_eq_tryMap, tryMap_of_map, map_eq_tryMap]

-- The value is changed behind all that decides about the rest of the result.
theorem tryMap_of_bind (p : Parser α) (f : α → Parser β) (g : β → Fallible γ) :
    (p.bind f).tryMap g = p.bind fun a => (f a).tryMap g := by
  have happly (s : State) :
      ((p.bind f).tryMap g).apply s = (p.bind fun a => (f a).tryMap g).apply s := by
    simp only [tryMap, bind_apply, bind_assoc]
    refine bind_congr fun r => ?_
    cases r with
    | error e => rfl
    | ok first =>
      simp only [bind_assoc, pure_bind]
      refine bind_congr fun next => ?_
      rw [Success.tryMap_before]
      cases next.tryMap g <;> rfl
  exact congrArg (Parser.mk · "<Parser>") (funext happly)

theorem map_of_bind (p : Parser α) (f : α → Parser β) (g : β → γ) :
    (p.bind f).map g = p.bind fun a => (f a).map g := by
  simp only [map_eq_tryMap, tryMap_of_bind]

theorem bind_of_map (p : Parser α) (f : α → β) (g : β → Parser γ) :
    (p.map f).bind g = p.bind fun a => g (f a) := by
  have happly (s : State) : ((p.map f).bind g).apply s = (p.bind fun a => g (f a)).apply s := by
    simp only [Parser.map, bind_apply, bind_assoc, pure_bind]
    refine bind_congr fun r => ?_
    cases r <;> rfl
  exact congrArg (Parser.mk · "<Parser>") (funext happly)

theorem andThen_bind (p : Parser α) (q : Parser β) (f : α × β → Parser γ) :
    (p.andThen q).bind f = p.bind fun a => q.bind fun b => f (a, b) := by
  simp only [andThen, bind_bind, bind_of_map]

theorem andThen_tryMap (p : Parser α) (q : Parser β) (f : α × β → Fallible γ) :
    (p.andThen q).tryMap f = p.bind fun a => q.tryMap fun b => f (a, b) := by
  simp only [andThen, tryMap_of_bind, tryMap_of_map]

theorem endedBy_eq_map (p : Parser α) (q : Parser β) : p.endedBy q = (p.andThen q).map Prod.fst := by
  simp only [andThen, map_of_bind, map_of_map]
  rfl

theorem followedBy_eq_map (p : Parser α) (q : Parser β) :
    p.followedBy q = (p.andThen q).map Prod.snd := by
  have hq : (q.map fun b => b).apply = q.apply := by
    funext s
    have hid (r : Result β) : (r.map fun b => b) = r := by cases r <;> rfl
    simp only [Parser.map, hid, bind_pure]
  rw [andThen, map_of_bind]
  simp only [map_of_map, followedBy, Parser.bind, hq]

end Maps

-- Giving a value reads nothing, and what is bound to it starts no later than there.
theorem pure_bind_eq_withStart (a : α) (f : α → Parser β) (s : State) :
    ((Parser.pure a).bind f).apply s = (fun r => r.withStart s.pos) <$> (f a).apply s := by
  have hpure : (Parser.pure a).apply s = pure (stay a s) := rfl
  rw [bind_apply, hpure, pure_bind, ← bind_pure_comp]
  refine bind_congr fun r => ?_
  cases r <;> rfl

theorem pure_bind_eq_of_edges {a : α} {f : α → Parser β} {d : Dialect} (hf : Grammar d (f a))
    (hmap : ∀ token start, s.map.startOf ctx.maps token s.pos = .ok start → start = s.pos) :
    ((Parser.pure a).bind f).apply s ctx = (f a).apply s ctx := by
  rw [pure_bind_eq_withStart]
  refine map_apply_of_fixed fun r hr => ?_
  cases r with
  | error e => rfl
  | ok r => rw [Result.withStart, (hf.edges hr).withStart_eq hmap]

theorem bind_pure_eq_silenced {p : Parser α} {d : Dialect} (hp : Grammar d p) (s : State)
    (ctx : Context) :
    (p.bind Parser.pure).apply s ctx = (Result.silenced <$> p.apply s) ctx := by
  rw [bind_apply, ← bind_pure_comp]
  refine bind_apply_congr fun r hr => ?_
  cases r with
  | error e => rfl
  | ok first =>
    have hstop := (hp.edges hr).stop_eq
    have hgiven : (Parser.pure first.value.value).apply first.state =
        pure (stay first.value.value first.state) := rfl
    simp only [hgiven, pure_bind]
    simp [Success.before_ok, stay, Result.silenced, Parsed.withStart, ← hstop]

-- How the binds are nested makes no difference. Binding a given value moves the start of a span to
-- where the value was given, which changes nothing if tokens start where the one before them
-- stopped; and binding the value that is given back leaves all but the message of a success.
theorem bind_monad_laws (ctx : Context) :
    (∀ (p : Parser α) (f : α → Parser β) (g : β → Parser γ),
      (p.bind f).bind g = p.bind fun a => (f a).bind g) ∧
    (∀ (a : α) (f : α → Parser β) (s : State),
      ((Parser.pure a).bind f).apply s = (fun r => r.withStart s.pos) <$> (f a).apply s ∧
      ∀ d, Grammar d (f a) →
        (∀ token start, s.map.startOf ctx.maps token s.pos = .ok start → start = s.pos) →
        ((Parser.pure a).bind f).apply s ctx = (f a).apply s ctx) ∧
    ∀ (d : Dialect) (p : Parser α) (s : State), Grammar d p →
      (p.bind Parser.pure).apply s ctx = (Result.silenced <$> p.apply s) ctx :=
  ⟨bind_bind, fun a f s => ⟨pure_bind_eq_withStart a f s, fun _ => pure_bind_eq_of_edges⟩,
    fun _ _ s hp => bind_pure_eq_silenced hp s ctx⟩

-- A run of characters leaves the labels of what ended it, which binding its value drops; binding a
-- given value drops nothing of it, however deep the binds are nested.
theorem bind_monad_laws_of_characters :
    let s : State := .start (.ofText "aab") .chars
    let p := (TokenParser.char "a").rep
    let r : Success (List Value) := ⟨true, ⟨["a", "a"], ⟨0, 0⟩, ⟨0, 2⟩⟩,
      { s with offset := 2, pos := ⟨0, 2⟩ }, { Message.empty with expected := ["a"] }⟩
    Grammar .full p ∧
      (∀ token start, s.map.startOf Context.builtin.maps token s.pos = .ok start →
        start = s.pos) ∧
      (p.apply s).Returns .builtin (.ok r) ∧
      (((Parser.pure ()).bind fun _ => p).apply s).Returns .builtin (.ok r) ∧
      ((((Parser.pure ()).bind fun _ => p).bind Parser.pure).apply s).Returns .builtin
        (.ok { r with message := .empty }) := by
  intro s p r
  have hp : Grammar .full p := .tokenRep _
  have hmap (token start) (h : s.map.startOf Context.builtin.maps token s.pos = .ok start) :
      start = s.pos :=
    (Except.ok.inj h).symm
  have hr : (p.apply s).Returns .builtin (.ok r) := rfl
  obtain ⟨hassoc, hpure, _⟩ :=
    @bind_monad_laws Unit (List Value) (List Value) Context.builtin
  have hgiven := (hpure () (fun _ => p) s).2 .full hp hmap
  obtain ⟨_, hunit, hback⟩ := @bind_monad_laws (List Value) Unit Unit Context.builtin
  have hsilenced : ((p.bind Parser.pure).apply s).Returns .builtin
      (.ok { r with message := .empty }) := by
    rw [Eval.Returns, Eval.run, hback .full p s hp]
    exact returns_map_iff.mpr ⟨_, hr, rfl⟩
  refine ⟨hp, hmap, hr, ?_, ?_⟩
  · rw [Eval.Returns, Eval.run, hgiven]
    exact hr
  · rw [hassoc, pure_bind_eq_withStart]
    exact returns_map_iff.mpr ⟨_, hsilenced, rfl⟩

end Parser

end Parsing
