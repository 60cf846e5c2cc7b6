import Parsing.Proofs.Failure
import Parsing.Proofs.Logging.Unnaming
import Parsing.Proofs.TokenRun

namespace Parsing

open Eval Parsing.Parser

variable {ctx : Context}

theorem Eval.Returns.bind_left {x y : Eval α} {f : α → Eval β} {b : β}
    (hxy : ∀ a, x.Returns ctx a → y.Returns ctx a) (h : (x >>= f).Returns ctx b) :
    (y >>= f).Returns ctx b := by
  obtain ⟨a, ha, hb⟩ := returns_bind_iff.mp h
  exact returns_bind_iff.mpr ⟨a, hxy a ha, hb⟩

namespace State

-- A place in tokens of which stretches can be taken out.
structure Readable (s : State) : Prop where
  sliceable : s.input.Sliceable
  offset_le : s.offset ≤ s.input.size

end State

theorem Grammar.readable {d : Dialect} {p : Parser α} {s : State} {r : Success α}
    (hp : Grammar d p) (hs : s.Readable) (h : (p.apply s).Returns ctx (.ok r)) :
    r.state.Readable := by
  have hreaches := ((Invariant.span d ctx).sound hp hs.offset_le h).reaches
  exact ⟨hreaches.input_eq ▸ hs.sliceable, hreaches.bounded⟩

namespace TokenParser

variable {t : TokenParser} {s : State}

end TokenParser

namespace Parser

-- What the first parser returns, the second one returns too.
def RefinedBy (ctx : Context) (p q : Parser α) : Prop :=
  ∀ ⦃s r⦄, s.Readable → (p.apply s).Returns ctx r → (q.apply s).Returns ctx r

namespace RefinedBy

variable {p p' q q' : Parser α}

theorem refl (p : Parser α) : p.RefinedBy ctx p := fun _ _ _ h => h

-- What is made of the result alone.
theorem of_bind {rest : State → Result α → Eval (Result β)} {shown shown' : String}
    (h : p.RefinedBy ctx q) :
    RefinedBy ctx ⟨fun s => p.apply s >>= rest s, shown⟩
      ⟨fun s => q.apply s >>= rest s, shown'⟩ :=
  fun _ _ hs hr => hr.bind_left fun _ => h hs

theorem orElse (hp : p.RefinedBy ctx p') (hq : q.RefinedBy ctx q') :
    (p.orElse q).RefinedBy ctx (p'.orElse q') := by
  intro s r hs h
  obtain ⟨hr, hconsumed⟩ | ⟨first, second, hfirst, hpending, hsecond, hr⟩ := orElse_returns_iff.mp h
  · exact orElse_returns_iff.mpr (.inl ⟨hp hs hr, hconsumed⟩)
  · exact orElse_returns_iff.mpr
      (.inr ⟨first, second, hp hs hfirst, hpending, hq hs hsecond, hr⟩)

theorem bind {f g : α → Parser β} {d : Dialect} (hgrammar : Grammar d p) (hp : p.RefinedBy ctx q)
    (hf : ∀ a, (f a).RefinedBy ctx (g a)) : (p.bind f).RefinedBy ctx (q.bind g) := by
  intro s r hs h
  obtain ⟨e, he, hr⟩ | ⟨first, next, hfirst, hnext, hr⟩ := bind_returns_iff.mp h
  · exact bind_returns_iff.mpr (.inl ⟨e, hp hs he, hr⟩)
  · have hstate := hgrammar.readable hs hfirst
    exact bind_returns_iff.mpr (.inr ⟨first, next, hp hs hfirst, hf _ hstate hnext, hr⟩)

theorem nested {pqs : List (Parser α × Parser α)} {d : Dialect}
    (hgrammar : ∀ pq ∈ pqs, Grammar d pq.1) (h : ∀ pq ∈ pqs, pq.1.RefinedBy ctx pq.2) :
    (nested (pqs.map Prod.fst)).RefinedBy ctx (nested (pqs.map Prod.snd)) := by
  induction pqs with
  | nil => exact refl _
  | cons pq pqs ih =>
    have hrest := ih (fun pq hmem => hgrammar pq (List.mem_cons_of_mem _ hmem))
      fun pq hmem => h pq (List.mem_cons_of_mem _ hmem)
    rw [List.map_cons, List.map_cons, nested_cons, nested_cons]
    exact bind (hgrammar pq List.mem_cons_self) (h pq List.mem_cons_self) fun _ => of_bind hrest

theorem repeats {s : State} {found : List (Success α)} {e : Failure} {d : Dialect}
    (hgrammar : Grammar d p) (h : p.RefinedBy ctx q) (hs : s.Readable)
    (hfound : Repeats p ctx s found e) : Repeats q ctx s found e := by
  induction hfound with
  | stop he => exact .stop (h hs he)
  | more hr hmoves _ ih => exact .more (h hs hr) hmoves (ih (hgrammar.readable hs hr))

end RefinedBy

end Parser

end Parsing
