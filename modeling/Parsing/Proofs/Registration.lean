import Parsing.Proofs.Representation

namespace Parsing

open Eval

namespace Registry

variable {α : Type} {r r' : Registry α} {c : String} {a : α} {chain : List String}

-- The registrations in the order in which they were made.
def history (r : Registry α) : List (String × α) := r.entries.reverse

def registerAll (r : Registry α) (calls : List (String × α)) : Registry α :=
  calls.foldl (fun r call => r.register call.1 call.2) r

def Knows (r : Registry α) (c : String) : Prop := ∃ call ∈ r.history, call.1 = c

-- The last registration for the class.
def Latest (r : Registry α) (c : String) (a : α) : Prop :=
  ∃ before after, r.history = before ++ (c, a) :: after ∧ ∀ call ∈ after, call.1 ≠ c

-- The first class of the chain that has a registration, and the last one that it has.
def Nearest (r : Registry α) (chain : List String) (c : String) (a : α) : Prop :=
  ∃ nearer further, chain = nearer ++ c :: further ∧ (∀ c' ∈ nearer, ¬ r.Knows c') ∧ r.Latest c a

-- Whoever goes by the chain never comes to the class.
def Hides (r : Registry α) (chain : List String) (c : String) : Prop :=
  c ∉ chain ∨
    ∃ nearer further, chain = nearer ++ c :: further ∧ c ∉ nearer ∧ ∃ c' ∈ nearer, r.Knows c'

theorem entries_registerAll (r : Registry α) (calls : List (String × α)) :
    (r.registerAll calls).entries = calls.reverse ++ r.entries := by
  induction calls generalizing r with
  | nil => rfl
  | cons call calls ih =>
    rw [registerAll, List.foldl_cons]
    change ((r.register call.1 call.2).registerAll calls).entries = _
    rw [ih, List.reverse_cons, List.append_assoc]
    rfl

theorem history_registerAll (r : Registry α) (calls : List (String × α)) :
    (r.registerAll calls).history = r.history ++ calls := by
  rw [history, entries_registerAll, List.reverse_append, List.reverse_reverse, history]

theorem lookup_eq_some_iff : r.entries.lookup c = some a ↔ r.Latest c a := by
  rw [List.lookup_eq_some_iff]
  constructor
  · rintro ⟨after, before, hentries, hafter⟩
    refine ⟨before.reverse, after.reverse, by simp [history, hentries], fun call hmem => ?_⟩
    exact Ne.symm (bne_iff_ne.mp (hafter call (List.mem_reverse.mp hmem)))
  · rintro ⟨before, after, hhistory, hafter⟩
    refine ⟨after.reverse, before.reverse, ?_, fun call hmem => ?_⟩
    · have hentries := congrArg List.reverse hhistory
      simpa [history] using hentries
    · exact bne_iff_ne.mpr (Ne.symm (hafter call (List.mem_reverse.mp hmem)))

theorem lookup_eq_none_iff : r.entries.lookup c = none ↔ ¬ r.Knows c := by
  rw [List.lookup_eq_none_iff]
  constructor
  · rintro h ⟨call, hmem, rfl⟩
    exact bne_iff_ne.mp (h call (List.mem_reverse.mp hmem)) rfl
  · intro h call hmem
    exact bne_iff_ne.mpr fun hc => h ⟨call, List.mem_reverse.mpr hmem, hc.symm⟩

theorem find?_eq_some_iff : r.find? chain = some a ↔ ∃ c, r.Nearest chain c a := by
  simp only [find?, List.findSome?_eq_some_iff, lookup_eq_some_iff, lookup_eq_none_iff]
  constructor
  · rintro ⟨nearer, c, further, hchain, hc, hnearer⟩
    exact ⟨c, nearer, further, hchain, hnearer, hc⟩
  · rintro ⟨c, nearer, further, hchain, hnearer, hc⟩
    exact ⟨nearer, c, further, hchain, hc, hnearer⟩

theorem find?_eq_none_iff : r.find? chain = none ↔ ∀ c ∈ chain, ¬ r.Knows c := by
  simp only [find?, List.findSome?_eq_none_iff, lookup_eq_none_iff]

theorem exists_nearest_iff : (∃ c a, r.Nearest chain c a) ↔ ∃ c ∈ chain, r.Knows c := by
  constructor
  · rintro ⟨c, a, h⟩
    by_contra hnone
    have hfound := find?_eq_some_iff.mpr ⟨c, h⟩
    rw [find?_eq_none_iff.mpr fun c' hmem hknows => hnone ⟨c', hmem, hknows⟩] at hfound
    cases hfound
  · rintro ⟨c, hmem, hknows⟩
    cases hfound : r.find? chain with
    | none => exact (find?_eq_none_iff.mp hfound c hmem hknows).elim
    | some a =>
      obtain ⟨c', h⟩ := find?_eq_some_iff.mp hfound
      exact ⟨c', a, h⟩

theorem Nearest.mem_history (h : r.Nearest chain c a) : (c, a) ∈ r.history := by
  obtain ⟨_, _, _, _, before, after, hhistory, _⟩ := h
  rw [hhistory]
  exact List.mem_append_right before List.mem_cons_self

-- Only the classes of the chain are looked up.
theorem find?_congr (h : ∀ c ∈ chain, r.entries.lookup c = r'.entries.lookup c) :
    r.find? chain = r'.find? chain := by
  induction chain with
  | nil => rfl
  | cons c chain ih =>
    have hrest : r.find? chain = r'.find? chain :=
      ih fun c' hmem => h c' (List.mem_cons_of_mem c hmem)
    rw [find?, List.findSome?_cons, h c List.mem_cons_self]
    rw [find?, find?] at hrest
    rw [find?, List.findSome?_cons, hrest]

theorem lookup_register_of_ne {c' : String} (h : c' ≠ c) :
    (r.register c a).entries.lookup c' = r.entries.lookup c' := by
  rw [register, List.lookup_cons, beq_eq_false_iff_ne.mpr h]

-- Two registrations for different classes, made one after the other among any others.
theorem find?_registerAll_swap {c' : String} (h : c ≠ c') (a b : α) (r : Registry α)
    (before after : List (String × α)) (chain : List String) :
    (r.registerAll (before ++ (c, a) :: (c', b) :: after)).find? chain =
      (r.registerAll (before ++ (c', b) :: (c, a) :: after)).find? chain := by
  have hpair (k : String) : [(c', b), (c, a)].lookup k = [(c, a), (c', b)].lookup k := by
    by_cases hk : k = c
    · subst hk
      simp [List.lookup_cons, beq_eq_false_iff_ne.mpr h]
    · simp [List.lookup_cons, beq_eq_false_iff_ne.mpr hk]
  refine find?_congr fun k _ => ?_
  have hentries (first second : String × α) :
      (r.registerAll (before ++ first :: second :: after)).entries =
        after.reverse ++ ([second, first] ++ (before.reverse ++ r.entries)) := by
    simp [entries_registerAll]
  simp only [hentries, List.lookup_append, hpair]

theorem find?_register (h : r.Hides chain c) (a : α) :
    (r.register c a).find? chain = r.find? chain := by
  have hkept {classes : List String} (hc : c ∉ classes) :
      (r.register c a).find? classes = r.find? classes := by
    refine find?_congr fun c' hmem => lookup_register_of_ne ?_
    rintro rfl
    exact hc hmem
  obtain hc | ⟨nearer, further, rfl, hc, c', hmem, hknows⟩ := h
  · exact hkept hc
  · cases hfound : r.find? nearer with
    | none => exact (find?_eq_none_iff.mp hfound c' hmem hknows).elim
    | some b =>
      have hnearer := (hkept hc).trans hfound
      rw [find?] at hfound hnearer
      rw [find?, find?, List.findSome?_append, List.findSome?_append, hfound, hnearer]
      rfl

end Registry

namespace SourceMap

variable {maps : Registry SourceMap} {m : SourceMap} {token : Value} {c : String}

theorem resolve_of_ne_byClass (h : m ≠ .byClass) (maps : Registry SourceMap) (token : Value) :
    m.resolve maps token = .ok m := by
  cases m with
  | byClass => exact (h rfl).elim
  | chars | spans | unknown | custom => rfl

theorem resolve_of_nearest (h : maps.Nearest token.classes c m) :
    byClass.resolve maps token = .ok m := by
  rw [resolve, Registry.find?_eq_some_iff.mpr ⟨c, h⟩]
  rfl

theorem resolve_eq_error_iff {fault : Fault} :
    byClass.resolve maps token = .error fault ↔
      (¬ ∃ c ∈ token.classes, maps.Knows c) ∧ fault = .missingSourceMap token.className := by
  have hnone : (¬ ∃ c ∈ token.classes, maps.Knows c) ↔ maps.find? token.classes = none := by
    rw [Registry.find?_eq_none_iff]
    exact ⟨fun h c hmem hknows => h ⟨c, hmem, hknows⟩, fun h ⟨c, hmem, hknows⟩ => h c hmem hknows⟩
  rw [hnone, resolve]
  cases maps.find? token.classes with
  | none => simp [throw, throwThe, MonadExceptOf.throw, eq_comm]
  | some m => simp [pure, Except.pure]

theorem resolve_register (h : maps.Hides token.classes c) (m : SourceMap) :
    byClass.resolve (maps.register c m) token = byClass.resolve maps token := by
  rw [resolve, resolve, Registry.find?_register h]

-- The map that is found for a token measures it as if it had been given for all tokens.
theorem byClass_eq_of_nearest (h : maps.Nearest token.classes c m) (hm : m ≠ .byClass)
    (pos : Position) :
    byClass.startOf maps token pos = m.startOf maps token pos ∧
      byClass.stopOf maps token pos = m.stopOf maps token pos := by
  simp only [startOf, stopOf, resolve_of_nearest h, resolve_of_ne_byClass hm, and_self]

theorem byClass_eq_error (h : ¬ ∃ c ∈ token.classes, maps.Knows c) (pos : Position) :
    byClass.startOf maps token pos = .error (.missingSourceMap token.className) ∧
      byClass.stopOf maps token pos = .error (.missingSourceMap token.className) := by
  have hresolve := resolve_eq_error_iff.mpr ⟨h, rfl⟩
  simp only [startOf, stopOf, hresolve]
  exact ⟨rfl, rfl⟩

end SourceMap

section Runs

variable {d : Dialect} {α : Type} {p : Parser α}

theorem Context.debug_register (ctx : Context) (c : String) (m : SourceMap) :
    ctx.debug = { ctx with maps := ctx.maps.register c m }.debug := rfl

-- One more registration, which none of the tokens comes to.
def Pairing.registering (ctx : Context) (c : String) (m : SourceMap) {tokens : Tokens}
    (hsliceable : tokens.Sliceable)
    (hhides : ∀ token ∈ tokens.items, ctx.maps.Hides token.classes c) : Pairing where
  front := 0
  ctx := ctx
  ctx' := { ctx with maps := ctx.maps.register c m }
  input := tokens
  input' := tokens
  map := .byClass
  map' := .byClass
  debug_eq := ctx.debug_register c m
  shifted := ⟨hsliceable, hsliceable, Nat.zero_le _, rfl⟩
  startOf_eq token hmem pos := by
    rw [SourceMap.startOf, SourceMap.startOf, SourceMap.resolve_register (hhides token hmem)]
  stopOf_eq token hmem pos := by
    rw [SourceMap.stopOf, SourceMap.stopOf, SourceMap.resolve_register (hhides token hmem)]

theorem Pairing.Results.eq {P : Pairing} {r r' : Result α} (hfront : P.front = 0)
    (hinput : P.input = P.input') (hmap : P.map = P.map') (h : P.Results r r') : r = r' := by
  obtain ⟨⟨⟨offset, pos⟩⟩⟩ | ⟨@⟨consumed, m⟩⟩ := h
  · rw [hfront, hinput, hmap, Nat.zero_add]
  · rw [hfront, Message.shift, Int.natCast_zero, Int.zero_add]

theorem Grammar.runOn_registering (hp : Grammar d p) (ctx : Context) {c : String} (m : SourceMap)
    {tokens : Tokens} (hsliceable : tokens.Sliceable)
    (hhides : ∀ token ∈ tokens.items, ctx.maps.Hides token.classes c) :
    ((p.runOn tokens .byClass).run { ctx with maps := ctx.maps.register c m }).result =
      ((p.runOn tokens .byClass).run ctx).result := by
  let P : Pairing := .registering ctx c m hsliceable hhides
  have hagree : P.Agree Eq (p.runOn tokens .byClass) (p.runOn tokens .byClass) :=
    (Pairing.runOn_agree (hp.respected P) rfl).imp fun _ _ h => h.eq rfl rfl rfl
  exact (Fallible.Agree.eq hagree).symm

-- After any registrations on top of the built-in ones, a token is measured by the map registered
-- last for the nearest class that has a registration, and there is none if no class of the token
-- has one. The order of registrations for different classes makes no difference. A registration for
-- a class that no token comes to, because it is not among the token's classes or lies behind one
-- that has a registration, changes nothing about a run.
theorem SourceMap.registration_of_nearest_class (calls : List (String × SourceMap))
    (hcalls : ∀ call ∈ calls, call.2 ≠ .byClass) :
    let maps := builtin.registerAll calls
    maps.history = [("Parsed", .spans), ("str", .chars)] ++ calls ∧
    (∀ token c m, maps.Nearest token.classes c m → m ≠ .byClass ∧ ∀ pos,
      byClass.startOf maps token pos = m.startOf maps token pos ∧
      byClass.stopOf maps token pos = m.stopOf maps token pos) ∧
    (∀ token : Value, ((∃ c m, maps.Nearest token.classes c m) ↔
        ∃ c ∈ token.classes, maps.Knows c) ∧
      (byClass.resolve maps token = .error (.missingSourceMap token.className) ↔
        ¬ ∃ c ∈ token.classes, maps.Knows c) ∧
      ((¬ ∃ c ∈ token.classes, maps.Knows c) → ∀ pos,
        byClass.startOf maps token pos = .error (.missingSourceMap token.className) ∧
        byClass.stopOf maps token pos = .error (.missingSourceMap token.className))) ∧
    (∀ before c m c' m' after, c ≠ c' → ∀ (map : SourceMap) token,
      map.resolve (builtin.registerAll (before ++ (c, m) :: (c', m') :: after)) token =
        map.resolve (builtin.registerAll (before ++ (c', m') :: (c, m) :: after)) token) ∧
    ∀ {d : Dialect} {α : Type} {p : Parser α}, Grammar d p →
      ∀ (ctx : Context) (c : String) (m : SourceMap) (tokens : Tokens), tokens.Sliceable →
        (∀ token ∈ tokens.items, ctx.maps.Hides token.classes c) →
        ((p.runOn tokens .byClass).run { ctx with maps := ctx.maps.register c m }).result =
          ((p.runOn tokens .byClass).run ctx).result := by
  intro maps
  have hhistory : maps.history = [("Parsed", .spans), ("str", .chars)] ++ calls :=
    Registry.history_registerAll builtin calls
  refine ⟨hhistory, ?nearest, fun token => ⟨?known, ?missing, ?unmeasured⟩, ?order, ?unseen⟩
  case nearest =>
    intro token c m h
    have hm : m ≠ .byClass := by
      have hmem := h.mem_history
      rw [hhistory] at hmem
      obtain hmem | hmem := List.mem_append.mp hmem
      · rintro rfl
        simp at hmem
      · exact hcalls (c, m) hmem
    exact ⟨hm, byClass_eq_of_nearest h hm⟩
  case known => exact Registry.exists_nearest_iff
  case missing => exact resolve_eq_error_iff.trans (and_iff_left rfl)
  case unmeasured => exact byClass_eq_error
  case order =>
    intro before c m c' m' after hne map token
    cases map with
    | byClass => rw [resolve, resolve, Registry.find?_registerAll_swap hne]
    | chars | spans | unknown | custom => rfl
  case unseen =>
    intro d α p hp ctx c m tokens hsliceable hhides
    exact hp.runOn_registering ctx m hsliceable hhides

-- A keyword of the second kind comes to the map of all keywords; the map of all words, registered
-- anew, is not for it.
theorem SourceMap.registration_of_nearest_class_for_keyword :
    let cls : TokenClass := ⟨"Kw2", ["Kw", "Tok"]⟩
    let word : Value := .lexeme ⟨cls, "kw", "if", ⟨0, 2⟩, ⟨0, 4⟩⟩
    let calls : List (String × SourceMap) := [("Tok", .chars), ("Kw", .chars), ("Kw", .spans)]
    let maps := builtin.registerAll calls
    let ctx : Context := { Context.builtin with maps }
    let p := TokenParser.any.rep
    let tokens : Tokens := .ofList [word]
    (∀ call ∈ calls, call.2 ≠ .byClass) ∧ maps.Nearest word.classes "Kw" .spans ∧
      byClass.stopOf maps word ⟨7, 7⟩ = .ok ⟨0, 4⟩ ∧
      (¬ ∃ c ∈ (Value.int 5).classes, maps.Knows c) ∧
      byClass.stopOf maps (.int 5) ⟨7, 7⟩ = .error (.missingSourceMap "int") ∧
      Grammar .full p ∧ tokens.Sliceable ∧
      (∀ token ∈ tokens.items, maps.Hides token.classes "Tok") ∧
      ((p.runOn tokens .byClass).run { ctx with maps := maps.register "Tok" .unknown }).result =
        ((p.runOn tokens .byClass).run ctx).result := by
  intro cls word calls maps ctx p tokens
  have hcalls : ∀ call ∈ calls, call.2 ≠ .byClass := by
    simp [calls]
  obtain ⟨hhistory, hnearest, hmissing, _, hunseen⟩ :=
    registration_of_nearest_class calls hcalls
  have hkw2 : ¬ maps.Knows "Kw2" := by
    rintro ⟨call, hmem, hname⟩
    rw [hhistory] at hmem
    simp [calls] at hmem
    obtain rfl | rfl | rfl | rfl | rfl := hmem <;> simp at hname
  have hword : maps.Nearest word.classes "Kw" .spans := by
    refine ⟨["Kw2"], ["Tok", "object"], rfl, by simpa using hkw2, ?_⟩
    exact ⟨[("Parsed", .spans), ("str", .chars), ("Tok", .chars), ("Kw", .chars)], [], hhistory,
      by simp⟩
  have hint : ¬ ∃ c ∈ (Value.int 5).classes, maps.Knows c := by
    rintro ⟨c, hc, call, hmem, rfl⟩
    rw [hhistory] at hmem
    simp [calls] at hmem
    obtain rfl | rfl | rfl | rfl | rfl := hmem <;> simp [Value.classes] at hc
  have hp : Grammar .full p := .tokenRep _
  have hhides : ∀ token ∈ tokens.items, maps.Hides token.classes "Tok" := by
    intro token hmem
    obtain rfl : token = word := by simpa [tokens, Tokens.ofList] using hmem
    exact .inr ⟨["Kw2", "Kw"], ["object"], rfl, by simp, "Kw", by simp, ("Kw", .spans),
      hword.mem_history, rfl⟩
  exact ⟨hcalls, hword, ((hnearest word _ _ hword).2 ⟨7, 7⟩).2, hint,
    ((hmissing (.int 5)).2.2 hint ⟨7, 7⟩).2, hp, trivial, hhides,
    hunseen hp ctx "Tok" .unknown tokens trivial hhides⟩

end Runs

end Parsing
