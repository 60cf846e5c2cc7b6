import Parsing.AnyParser
import Parsing.Characters
import Parsing.Parser.Chain
import Parsing.Parser.Recursion
import Parsing.Parser.Rejection
import Parsing.Parser.Trace

namespace Parsing

open Parsing.Parser

-- What a grammar may use.
structure Dialect where
  backtracking : Bool
  -- rejection of values of any parser, not just of single tokens
  rejection : Bool

namespace Dialect

def full : Dialect := ⟨true, true⟩

end Dialect

inductive Grammar (d : Dialect) : {α : Type} → Parser α → Prop
  | pure (a : α) : Grammar d (Parser.pure a)
  | fail (expected : List Value) : Grammar d (Parser.fail expected : Parser α)
  | failAs (v : Value) : Grammar d (Parser.failAs v : Parser α)
  | faulty (fault : Fault) : Grammar d (Parser.faulty fault : Parser α)
  | atEnd : Grammar d atEnd
  | token (t : TokenParser) : Grammar d t.toParser
  | tokenRep (t : TokenParser) : Grammar d t.rep
  | tokenRep0 (t : TokenParser) : Grammar d t.rep0
  | unnamed {p : Parser α} : Grammar d p → Grammar d p.unnamed
  | label {p : Parser α} (label : Value) : Grammar d p → Grammar d (p.label label)
  | map {p : Parser α} (f : α → β) : Grammar d p → Grammar d (p.map f)
  | tryMap {p : Parser α} (f : α → Fallible β) : Grammar d p → Grammar d (p.tryMap f)
  | withPosition {p : Parser α} : Grammar d p → Grammar d p.withPosition
  | backtrack {p : Parser α} : d.backtracking = true → Grammar d p → Grammar d p.backtrack
  | orElse {p q : Parser α} : Grammar d p → Grammar d q → Grammar d (p.orElse q)
  | bind {p : Parser α} {f : α → Parser β} :
      Grammar d p → (∀ a, Grammar d (f a)) → Grammar d (p.bind f)
  | sequence {ps : List (Parser α)} : (∀ p ∈ ps, Grammar d p) → Grammar d (sequence ps)
  | rep {p : Parser α} : Grammar d p → Grammar d p.rep
  | filter [ToValue α] {p : Parser α} (test : α → Fallible Bool) :
      d.rejection = true → Grammar d p → Grammar d (p.filter test)
  | filterToken (t : TokenParser) (test : Value → Fallible Bool) :
      Grammar d (t.toParser.filter test)
  | collect [ToValue α] {p : Parser α} (f : α → Fallible (Option β)) :
      d.rejection = true → Grammar d p → Grammar d (p.collect f)
  | collectToken (t : TokenParser) (f : Value → Fallible (Option β)) :
      Grammar d (t.toParser.collect f)
  | notFollowedBy [ToValue α] {p : Parser α} :
      d.rejection = true → Grammar d p → Grammar d (notFollowedBy p)
  | notFollowedByToken (t : TokenParser) : Grammar d (notFollowedBy t.toParser)
  | named {p : Parser α} (name : String) : Grammar d p → Grammar d (p.named name)
  | trace (text : String) : Grammar d (trace text)
  | deferred {build : Unit → Parser α} : Grammar d (build ()) → Grammar d (deferred build)
  | recursive {ι : Type} {rules : (ι → Parser α) → ι → Parser α} {count : Nat} {i : ι} :
      (∀ depth, Grammar d (unroll rules depth i)) → Grammar d (recursive count rules i)

namespace Grammar

variable {d : Dialect} {α β γ : Type}

section Derived

variable {p : Parser α} {q : Parser β} {ps : List (Parser α)}

theorem eof : Grammar d eof := .label _ .atEnd

theorem as (b : β) (hp : Grammar d p) : Grammar d (p.as b) := .map _ hp

theorem option (a : α) (hp : Grammar d p) : Grammar d (option a p) := .orElse hp (.pure a)

theorem optional (hp : Grammar d p) : Grammar d (optional p) := .orElse (.map _ hp) (.pure _)

theorem oneOf (hp : Grammar d p) (hps : ∀ p' ∈ ps, Grammar d p') : Grammar d (oneOf p ps) := by
  induction ps generalizing p with
  | nil => exact hp
  | cons p' ps ih =>
    exact ih (.orElse hp (hps p' List.mem_cons_self))
      fun p'' hmem => hps p'' (List.mem_cons_of_mem p' hmem)

theorem choice (hps : ∀ p ∈ ps, Grammar d p) : Grammar d (choice ps) := by
  cases ps with
  | nil => exact .fail []
  | cons p ps =>
    exact oneOf (hps p List.mem_cons_self) fun p' hmem => hps p' (List.mem_cons_of_mem p hmem)

theorem andThen (hp : Grammar d p) (hq : Grammar d q) : Grammar d (p.andThen q) :=
  .bind hp fun _ => .map _ hq

theorem followedBy (hp : Grammar d p) (hq : Grammar d q) : Grammar d (p.followedBy q) :=
  .bind hp fun _ => hq

theorem endedBy (hp : Grammar d p) (hq : Grammar d q) : Grammar d (p.endedBy q) :=
  .bind hp fun _ => .map _ hq

theorem between {right : Parser γ} (hp : Grammar d p) (hleft : Grammar d q)
    (hright : Grammar d right) : Grammar d (p.between q right) :=
  (hleft.followedBy hp).endedBy hright

theorem surroundedBy (hp : Grammar d p) (hq : Grammar d q) : Grammar d (p.surroundedBy q) :=
  hp.between hq hq

theorem applied {f : Parser (α → Fallible β)} (hf : Grammar d f) (hp : Grammar d p) :
    Grammar d (applied f p) :=
  .bind hp fun _ => .tryMap _ hf

theorem count (n : Nat) (hp : Grammar d p) : Grammar d (p.count n) :=
  .sequence fun _ hmem => List.eq_of_mem_replicate hmem ▸ hp

theorem countOf (v : Value) (hp : Grammar d p) : Grammar d (p.countOf v) := by
  unfold Parser.countOf
  split
  · exact hp.count _
  · exact .faulty _

theorem rep0 (hp : Grammar d p) : Grammar d p.rep0 := .orElse (.rep hp) (.pure [])

theorem skipMany (hp : Grammar d p) : Grammar d p.skipMany := hp.rep0.as ()

theorem repSep (hp : Grammar d p) (hq : Grammar d q) : Grammar d (p.repSep q) :=
  .map _ (hp.andThen (hq.followedBy hp).rep0)

theorem repSep0 (hp : Grammar d p) (hq : Grammar d q) : Grammar d (p.repSep0 q) :=
  .orElse (hp.repSep hq) (.pure [])

theorem endBy (hp : Grammar d p) (hq : Grammar d q) : Grammar d (p.endBy q) :=
  (hp.endedBy hq).rep0

theorem chain {op : Parser (Operator α)} (hp : Grammar d p) (hop : Grammar d op) :
    Grammar d (p.chain op) :=
  hp.andThen (hop.andThen hp).rep0

theorem chainLeft {op : Parser (Operator α)} (hp : Grammar d p) (hop : Grammar d op) :
    Grammar d (p.chainLeft op) :=
  .tryMap _ (hp.chain hop)

theorem chainRight {op : Parser (Operator α)} (hp : Grammar d p) (hop : Grammar d op) :
    Grammar d (p.chainRight op) :=
  .tryMap _ (hp.chain hop)

theorem filterNot [ToValue α] (test : α → Fallible Bool) (hd : d.rejection = true)
    (hp : Grammar d p) : Grammar d (p.filterNot test) :=
  .filter _ hd hp

end Derived

section Tokens

theorem filterNotToken (t : TokenParser) (test : Value → Fallible Bool) :
    Grammar d (t.toParser.filterNot test) :=
  .filterToken t _

theorem tokens (items : List Value) (label : Value) : Grammar d (Parser.tokens items label) := by
  refine .label _ (.tryMap _ (.sequence fun p hmem => ?_))
  obtain ⟨v, _, rfl⟩ := List.mem_map.mp hmem
  exact .token _

theorem string (s : String) : Grammar d (Parser.string s) := tokens _ _

theorem membersOf (v : Value) : Grammar d (Parser.membersOf v) := by
  unfold Parser.membersOf
  split
  · exact tokens _ _
  · exact .faulty _

theorem identifier : Grammar d identifier :=
  .tryMap _ (.rep (.orElse (.orElse (.token _) (.token _)) (.token _)))

end Tokens

section Recursion

-- Rules are grammars, however deep their references go, if they are whenever what they refer to
-- is.
theorem unroll {ι : Type} {rules : (ι → Parser α) → ι → Parser α}
    (h : ∀ self : ι → Parser α, (∀ i, Grammar d (self i)) → ∀ i, Grammar d (rules self i))
    (depth : Nat) (i : ι) : Grammar d (Parser.unroll rules depth i) := by
  induction depth generalizing i with
  | zero => exact .faulty _
  | succ depth ih => exact .deferred (h _ ih i)

end Recursion

section AnyParser

variable {a : AnyParser} {as : List AnyParser}

theorem anyLabel (label : Value) (ha : Grammar d a.toParser) :
    Grammar d (a.label label).toParser := by
  cases a with
  | token t => exact .token _
  | general p => exact .label _ ha

theorem anyOneOf (ha : Grammar d a.toParser) (has : ∀ b ∈ as, Grammar d b.toParser) :
    Grammar d (a.oneOf as).toParser := by
  cases as with
  | nil => exact ha
  | cons b as =>
    refine oneOf ha fun p hmem => ?_
    obtain ⟨b, hb, rfl⟩ := List.mem_map.mp hmem
    exact has b hb

theorem anyChoice (has : ∀ a ∈ as, Grammar d a.toParser) :
    Grammar d (AnyParser.choice as).toParser := by
  cases as with
  | nil => exact .fail []
  | cons a as =>
    exact anyOneOf (has a List.mem_cons_self) fun b hmem => has b (List.mem_cons_of_mem a hmem)

theorem anyRep (ha : Grammar d a.toParser) : Grammar d a.rep := by
  cases a with
  | token t => exact .tokenRep t
  | general p => exact .rep ha

theorem anyRep0 (ha : Grammar d a.toParser) : Grammar d a.rep0 := by
  cases a with
  | token t => exact .tokenRep0 t
  | general p => exact rep0 ha

theorem anySkipMany (ha : Grammar d a.toParser) : Grammar d a.skipMany := by
  cases a with
  | token t => exact as () (.tokenRep0 t)
  | general p => exact skipMany ha

end AnyParser

end Grammar

end Parsing
