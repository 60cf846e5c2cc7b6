import Parsing.Proofs.Grammar

namespace Parsing

open Parsing.Parser

def Texts (labels : List Value) : Prop := ∀ label ∈ labels, ∃ text, label = .str text

-- The second parser is the grammar that the first one is, but without some of its names: none, all
-- or any others. All labels are texts.
inductive Unnames : {α : Type} → Parser α → Parser α → Prop
  | pure (a : α) : Unnames (Parser.pure a) (Parser.pure a)
  | fail {expected : List Value} : Texts expected →
      Unnames (Parser.fail expected : Parser α) (Parser.fail expected)
  | failAs (v : Value) : Unnames (Parser.failAs v : Parser α) (Parser.failAs v)
  | faulty (fault : Fault) : Unnames (Parser.faulty fault : Parser α) (Parser.faulty fault)
  | atEnd : Unnames atEnd atEnd
  | token {t : TokenParser} : Texts t.expected → Unnames t.toParser t.toParser
  | tokenRep {t : TokenParser} : Texts t.expected → Unnames t.rep t.rep
  | tokenRep0 {t : TokenParser} : Texts t.expected → Unnames t.rep0 t.rep0
  | unnamed {p q : Parser α} : Unnames p q → Unnames p.unnamed q.unnamed
  | label {p q : Parser α} (text : String) : Unnames p q →
      Unnames (p.label (.str text)) (q.label (.str text))
  | map {p q : Parser α} (f : α → β) : Unnames p q → Unnames (p.map f) (q.map f)
  | tryMap {p q : Parser α} (f : α → Fallible β) : Unnames p q → Unnames (p.tryMap f) (q.tryMap f)
  | withPosition {p q : Parser α} : Unnames p q → Unnames p.withPosition q.withPosition
  | backtrack {p q : Parser α} : Unnames p q → Unnames p.backtrack q.backtrack
  | orElse {p p' q q' : Parser α} : Unnames p p' → Unnames q q' →
      Unnames (p.orElse q) (p'.orElse q')
  | bind {p q : Parser α} {f g : α → Parser β} : Unnames p q → (∀ a, Unnames (f a) (g a)) →
      Unnames (p.bind f) (q.bind g)
  | sequence {pqs : List (Parser α × Parser α)} : (∀ pq ∈ pqs, Unnames pq.1 pq.2) →
      Unnames (sequence (pqs.map Prod.fst)) (sequence (pqs.map Prod.snd))
  | rep {p q : Parser α} : Unnames p q → Unnames p.rep q.rep
  | filter [ToValue α] {p q : Parser α} (test : α → Fallible Bool) : Unnames p q →
      Unnames (p.filter test) (q.filter test)
  | collect [ToValue α] {p q : Parser α} (f : α → Fallible (Option β)) : Unnames p q →
      Unnames (p.collect f) (q.collect f)
  | notFollowedBy [ToValue α] {p q : Parser α} : Unnames p q →
      Unnames (notFollowedBy p) (notFollowedBy q)
  | named {p q : Parser α} (name : String) : Unnames p q → Unnames (p.named name) (q.named name)
  | trace (text : String) : Unnames (trace text) (trace text)
  | deferred {build build' : Unit → Parser α} : Unnames (build ()) (build' ()) →
      Unnames (deferred build) (deferred build')
  | recursive {ι : Type} {rules rules' : (ι → Parser α) → ι → Parser α} {count : Nat} {i : ι} :
      (∀ depth, Unnames (unroll rules depth i) (unroll rules' depth i)) →
      Unnames (recursive count rules i) (recursive count rules' i)
  | loseName {p q : Parser α} (name : String) : Unnames p q → Unnames (p.named name) q
  -- what is done with single tokens that have lost their names
  | labelToken {p : Parser Value} {t : TokenParser} (text : String) : Unnames p t.toParser →
      Unnames (p.label (.str text)) (t.label (.str text)).toParser
  | repToken {p : Parser Value} {t : TokenParser} : Unnames p t.toParser → Unnames p.rep t.rep
  | rep0Token {p : Parser Value} {t : TokenParser} : Unnames p t.toParser → Unnames p.rep0 t.rep0

namespace Unnames

variable {α β γ : Type} {p q : Parser α}

theorem followedBy {left left' : Parser β} (hleft : Unnames left left') (hp : Unnames p q) :
    Unnames (left.followedBy p) (left'.followedBy q) :=
  .bind hleft fun _ => hp

theorem endedBy {right right' : Parser β} (hp : Unnames p q) (hright : Unnames right right') :
    Unnames (p.endedBy right) (q.endedBy right') :=
  .bind hp fun _ => .map _ hright

theorem between {left left' : Parser β} {right right' : Parser γ} (hp : Unnames p q)
    (hleft : Unnames left left') (hright : Unnames right right') :
    Unnames (p.between left right) (q.between left' right') :=
  (hleft.followedBy hp).endedBy hright

end Unnames

end Parsing
