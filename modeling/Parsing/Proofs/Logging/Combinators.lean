import Parsing.Proofs.Logging.Discreet
import Parsing.Proofs.Logging.Unnaming
import Parsing.Proofs.Sequence

namespace Parsing

open Eval Parsing.Parser

namespace Texts

variable {labels more : List Value}

theorem nil : Texts [] := nofun

theorem single (text : String) : Texts [.str text] := by
  intro label hmem
  exact ⟨text, List.mem_singleton.mp hmem⟩

theorem append (h : Texts labels) (hmore : Texts more) : Texts (labels ++ more) := by
  intro label hmem
  obtain hmem | hmem := List.mem_append.mp hmem
  · exact h label hmem
  · exact hmore label hmem

theorem exists_asText (h : Texts labels) : ∃ texts, labels.mapM Value.asText = .ok texts := by
  induction labels with
  | nil => exact ⟨[], rfl⟩
  | cons label labels ih =>
    obtain ⟨text, rfl⟩ := h label List.mem_cons_self
    obtain ⟨texts, htexts⟩ := ih fun label hmem => h label (List.mem_cons_of_mem _ hmem)
    refine ⟨text :: texts, ?_⟩
    rw [List.mapM_cons, htexts]
    rfl

end Texts

theorem Message.exists_expectedText {m : Message} (h : Texts m.expected) :
    ∃ text, m.expectedText = .ok text := by
  obtain ⟨texts, htexts⟩ := h.exists_asText
  exact ⟨Text.commaSeparated texts, by rw [expectedText, htexts]; rfl⟩

namespace State

variable {s : State}

theorem consume_discreet (token : Value) : (s.consume token).Discreet fun _ => True :=
  .bind (.ofContext (fun _ => rfl) fun _ _ _ => trivial) fun _ _ => .pure trivial

theorem startOf_discreet (token : Value) : (s.startOf token).Discreet fun _ => True :=
  .ofContext (fun _ => rfl) fun _ _ _ => trivial

theorem consumeAll_discreet (tokens : List Value) :
    (s.consumeAll tokens).Discreet fun _ => True := by
  refine .bind (Q := fun _ => True) ?_ fun _ _ => .pure trivial
  generalize s.pos = pos
  induction tokens generalizing pos with
  | nil => exact .pure trivial
  | cons token tokens ih =>
    rw [List.foldlM_cons]
    exact .bind (.ofContext (fun _ => rfl) fun _ _ _ => trivial) fun pos _ => ih pos

theorem unexpected_discreet (expected : List Value) :
    (s.unexpected expected).Discreet fun m => m.expected = expected := by
  refine .bind (.liftM fun _ _ => trivial) fun atEnd _ => ?_
  cases atEnd with
  | true => exact .pure rfl
  | false =>
    exact .bind (.liftM fun _ _ => trivial) fun _ _ => .bind (startOf_discreet _) fun _ _ =>
      .bind (.liftM fun _ _ => trivial) fun _ _ => .pure rfl

end State

namespace Parser

-- The record that closes the attempt of a named parser.
def closing (name : String) : Result α → Fallible Record
  | .ok r => return .matched name r.state.pos
  | .error e => return .unmatched name e.message.pos (← e.message.expectedText)

theorem named_apply (p : Parser α) (name : String) (s : State) :
    (p.named name).apply s = Eval.record (.ok (.trying name s.pos)) >>= fun _ =>
      p.apply s >>= fun r => Eval.record (closing name r) >>= fun _ => Pure.pure r := by
  refine bind_congr fun _ => bind_congr fun r => ?_
  cases r <;> rfl

def Discreet (p : Parser α) : Prop :=
  ∀ s, (p.apply s).Discreet fun r => Texts r.message.expected

namespace Discreet

variable {α β : Type} {p q : Parser α}

theorem refuse {s : State} {expected : List Value} (h : Texts expected) :
    (s.unexpected expected >>= fun m =>
      (Pure.pure (.error ⟨false, m⟩) : Eval (Result α))).Discreet
        fun r => Texts r.message.expected :=
  .bind (State.unexpected_discreet _) fun _ hm => .pure (hm ▸ h)

theorem pure (a : α) : (Parser.pure a).Discreet := fun _ => .pure .nil

theorem fail {expected : List Value} (h : Texts expected) :
    (Parser.fail expected : Parser α).Discreet := fun _ => refuse h

theorem failAs (v : Value) : (Parser.failAs v : Parser α).Discreet :=
  fun _ => .bind (.liftM fun _ _ => trivial) fun text _ => refuse (.single text)

theorem faulty (fault : Fault) : (Parser.faulty fault : Parser α).Discreet := fun _ => .throw fault

theorem atEnd : Parser.atEnd.Discreet := by
  intro s
  refine .bind (.liftM fun _ _ => trivial) fun atEnd _ => ?_
  cases atEnd with
  | true => exact .pure .nil
  | false => exact refuse (.single "EOF")

theorem unnamed (hp : p.Discreet) : p.unnamed.Discreet := hp

theorem label (text : String) (hp : p.Discreet) : (p.label (.str text)).Discreet := by
  intro s
  refine .bind (hp s) fun r hr => .pure ?_
  rw [Result.label]
  split
  · exact hr
  · cases r <;> exact .single text

theorem map (f : α → β) (hp : p.Discreet) : (p.map f).Discreet :=
  fun s => .bind (hp s) fun r hr => .pure (by cases r <;> exact hr)

theorem tryMap (f : α → Fallible β) (hp : p.Discreet) : (p.tryMap f).Discreet := by
  intro s
  refine .bind (hp s) fun r hr => .liftM fun r' hr' => ?_
  cases r with
  | ok r =>
    obtain ⟨b, _, hr'⟩ := Fallible.bind_eq_ok_iff.mp hr'
    cases hr'
    exact hr
  | error e =>
    cases hr'
    exact hr

theorem withPosition (hp : p.Discreet) : p.withPosition.Discreet :=
  fun s => .bind (hp s) fun r hr => by cases r <;> exact .pure hr

theorem backtrack (hp : p.Discreet) : p.backtrack.Discreet :=
  fun s => .bind (hp s) fun r hr => .pure (by cases r <;> exact hr)

theorem orElse (hp : p.Discreet) (hq : q.Discreet) : (p.orElse q).Discreet := by
  intro s
  refine .bind (hp s) fun first hfirst => ?_
  split
  · exact .pure hfirst
  · refine .bind (hq s) fun second hsecond => ?_
    split
    · exact .pure hsecond
    · exact .pure (by cases second <;> exact hfirst.append hsecond)

theorem bind {f : α → Parser β} (hp : p.Discreet) (hf : ∀ a, (f a).Discreet) :
    (p.bind f).Discreet := by
  intro s
  rw [bind_apply]
  refine .bind (hp s) fun r hr => ?_
  cases r with
  | error e => exact .pure hr
  | ok r => exact .bind (hf _ r.state) fun next hnext => .pure (by cases next <;> exact hnext)

theorem nested {ps : List (Parser α)} (hps : ∀ p ∈ ps, p.Discreet) : (nested ps).Discreet := by
  induction ps with
  | nil => exact pure []
  | cons p ps ih =>
    rw [nested_cons]
    have hrest := ih fun p' hmem => hps p' (List.mem_cons_of_mem p hmem)
    exact bind (hps p List.mem_cons_self) fun _ => map _ hrest

theorem sequence {ps : List (Parser α)} (hps : ∀ p ∈ ps, p.Discreet) : (sequence ps).Discreet := by
  intro s
  rw [sequence_apply]
  exact nested hps s

section Rejection

variable [ToValue α]

theorem rejection_labels {r : Success α} {s : State} {m : Message} (h : rejection r s = .ok m) :
    m.expected = r.message.expected := by
  obtain ⟨text, _, h⟩ := Fallible.bind_eq_ok_iff.mp h
  cases h
  rfl

theorem filter (test : α → Fallible Bool) (hp : p.Discreet) : (p.filter test).Discreet := by
  intro s
  refine .bind (hp s) fun r hr => ?_
  cases r with
  | error e => exact .pure hr
  | ok r =>
    refine .bind (.liftM fun _ _ => trivial) fun passed _ => ?_
    split
    · exact .pure hr
    · exact .bind (.liftM fun _ => rejection_labels) fun m hm => .pure (hm ▸ hr)

theorem collect (f : α → Fallible (Option β)) (hp : p.Discreet) : (p.collect f).Discreet := by
  intro s
  refine .bind (hp s) fun r hr => ?_
  cases r with
  | error e => exact .pure hr
  | ok r =>
    refine .bind (.liftM fun _ _ => trivial) fun image _ => ?_
    cases image with
    | some b => exact .pure hr
    | none => exact .bind (.liftM fun _ => rejection_labels) fun m hm => .pure (hm ▸ hr)

theorem notFollowedBy (hp : p.Discreet) : (notFollowedBy p).Discreet := by
  intro s
  refine .bind (hp s) fun r _ => ?_
  cases r with
  | error e => exact .pure .nil
  | ok r => exact .bind (.liftM fun _ _ => trivial) fun text _ => .pure (.single _)

end Rejection

section Tokens

variable {t : TokenParser}

theorem token (h : Texts t.expected) : t.toParser.Discreet := by
  intro s
  refine .bind (.liftM fun _ _ => trivial) fun atEnd _ => ?_
  cases atEnd with
  | true => exact refuse h
  | false =>
    refine .bind (.liftM fun _ _ => trivial) fun token _ => ?_
    refine .bind (.liftM fun _ _ => trivial) fun fits _ => ?_
    cases fits with
    | false => exact refuse h
    | true =>
      exact .bind (State.consume_discreet token) fun _ _ =>
        .bind (State.startOf_discreet token) fun _ _ => .pure .nil

theorem run? (h : Texts t.expected) (s : State) :
    (t.run? s).Discreet fun r? => ∀ r, r? = some r → Texts r.message.expected := by
  refine .bind (.liftM fun _ _ => trivial) fun size _ => ?_
  refine .bind (.liftM fun _ _ => trivial) fun stop _ => ?_
  split
  · refine .pure fun r hr => ?_
    cases hr
  refine .bind (.liftM fun _ _ => trivial) fun part _ => ?_
  refine .bind (State.consumeAll_discreet _) fun next _ => ?_
  refine .bind (.liftM fun _ _ => trivial) fun token _ => ?_
  refine .bind (State.startOf_discreet token) fun start _ => .pure fun r hr => ?_
  cases hr
  exact h

theorem tokenRep (h : Texts t.expected) : t.rep.Discreet := by
  intro s
  refine .bind (run? h s) fun r? hr => ?_
  cases r? with
  | none => exact refuse h
  | some r => exact .pure (hr r rfl)

theorem tokenRep0 (h : Texts t.expected) : t.rep0.Discreet := by
  intro s
  refine .bind (run? h s) fun r? hr => ?_
  cases r? with
  | none => exact .pure h
  | some r => exact .pure (hr r rfl)

end Tokens

section Repetition

theorem successes (hp : p.Discreet) (s : State) :
    (p.successes s).Discreet fun all => Texts all.2.message.expected := by
  refine .iterate (fun (found, s) => .bind (hp s) fun r hr => ?_) _
  cases r with
  | error e =>
    refine .pure fun all hall => ?_
    cases hall
    exact hr
  | ok r =>
    dsimp only
    split
    · exact .throw _
    · exact .pure nofun

-- The labels at the end of a repetition are those of the failure that ended it.
theorem unwind_labels (found : List (Success α)) {ending : Ending α}
    (h : Texts ending.message.expected) : Texts (unwind found ending).message.expected := by
  induction found generalizing ending with
  | nil => exact h
  | cons last earlier ih =>
    cases earlier with
    | nil => exact h
    | cons before earlier =>
      rw [unwind]
      split
      · exact ih h
      · exact ih (h.append .nil)

theorem rep (hp : p.Discreet) : p.rep.Discreet := by
  intro s
  refine .bind (successes hp s) ?_
  rintro ⟨found, e⟩ he
  cases found with
  | nil => exact .pure he
  | cons last earlier =>
    dsimp only
    split
    · exact .pure he
    · exact .pure (unwind_labels _ (he.append .nil))

end Repetition

section Trace

theorem named (name : String) (hp : p.Discreet) : (p.named name).Discreet := by
  intro s
  rw [named_apply]
  refine .attempt rfl (hp s) fun r hr => ?_
  cases r with
  | ok r => exact ⟨_, rfl, rfl⟩
  | error e =>
    obtain ⟨text, htext⟩ := Message.exists_expectedText (m := e.message) hr
    exact ⟨.unmatched name e.message.pos text, by rw [closing, htext]; rfl, rfl⟩

theorem trace (text : String) : (trace text).Discreet := by
  intro s
  refine .bind (.liftM fun _ _ => trivial) fun preview _ => ?_
  refine .bind (.liftM fun _ _ => trivial) fun size _ => ?_
  exact .bind (.record rfl) fun _ _ => .pure .nil

end Trace

section Recursion

theorem deferred {build : Unit → Parser α} (h : (build ()).Discreet) : (deferred build).Discreet := h

theorem recursive {ι : Type} {rules : (ι → Parser α) → ι → Parser α} {count : Nat} {i : ι}
    (h : ∀ depth, (unroll rules depth i).Discreet) : (recursive count rules i).Discreet :=
  fun s => h _ s

end Recursion

end Discreet

end Parser

variable {α : Type} {p q : Parser α}

end Parsing
