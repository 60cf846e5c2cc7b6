import Parsing.Parser.Choice
import Parsing.Parser.Recursion
import Parsing.Parser.Rejection
import Parsing.Parser.Sequence
import Parsing.Parser.Trace
import Parsing.Proofs.Correspondence.Basic

namespace Parsing

open Eval Parsing.Parser

namespace Pairing

variable {P : Pairing} {s s' : State} {α β : Type}

namespace Results

variable {r r' : Result α}

theorem stay (h : P.States s s') (a : α) : P.Results (stay a s) (stay a s') :=
  .ok (.still h a _)

theorem refuse {m m' : Message} (h : m = m'.shift P.front) :
    P.Results (.error ⟨false, m⟩ : Result α) (.error ⟨false, m'⟩) := by
  subst h
  exact .error ⟨⟩

theorem consumed_eq (h : P.Results r r') : r.consumed = r'.consumed := by
  obtain ⟨⟨_⟩⟩ | ⟨⟨⟩⟩ := h <;> rfl

theorem expected_eq (h : P.Results r r') : r.message.expected = r'.message.expected := by
  obtain ⟨⟨_⟩⟩ | ⟨⟨⟩⟩ := h <;> rfl

theorem withConsumed (b : Bool) (h : P.Results r r') :
    P.Results (r.withConsumed b) (r'.withConsumed b) := by
  obtain ⟨⟨hstate⟩⟩ | ⟨⟨⟩⟩ := h
  · exact .ok ⟨hstate⟩
  · exact .error ⟨⟩

theorem relabel (f : List Value → List Value) (h : P.Results r r') :
    P.Results (r.mapMessage fun m => { m with expected := f m.expected })
      (r'.mapMessage fun m => { m with expected := f m.expected }) := by
  obtain ⟨⟨hstate⟩⟩ | ⟨⟨⟩⟩ := h
  · exact .ok ⟨hstate⟩
  · rename_i m
    exact .error (.mk (m := { m with expected := f m.expected }))

theorem label (v : Value) (h : P.Results r r') : P.Results (r.label v) (r'.label v) := by
  rw [Result.label, Result.label, h.consumed_eq]
  split
  · exact h
  · exact h.relabel fun _ => [v]

theorem map (f : α → β) (h : P.Results r r') : P.Results (r.map f) (r'.map f) := by
  obtain ⟨⟨hstate⟩⟩ | ⟨⟨⟩⟩ := h
  · exact .ok ⟨hstate⟩
  · exact .error ⟨⟩

theorem withStart (start : Position) (h : P.Results r r') :
    P.Results (r.withStart start) (r'.withStart start) := by
  obtain ⟨⟨hstate⟩⟩ | ⟨⟨⟩⟩ := h
  · exact .ok ⟨hstate⟩
  · exact .error ⟨⟩

theorem tryMap (f : α → Fallible β) (h : P.Results r r') :
    Fallible.Agree P.Results (r.tryMap f) (r'.tryMap f) := by
  obtain ⟨⟨hstate⟩⟩ | ⟨⟨⟩⟩ := h
  · refine .bind (.of_eq rfl) fun b _ hb => ?_
    subst hb
    exact .ok (.ok ⟨hstate⟩)
  · exact .ok (.error ⟨⟩)

end Results

namespace Respected

variable {p q : Parser α}

theorem pure (a : α) : P.Respected (Parser.pure a) := fun _ _ h => .pure (.stay h a)

theorem fail (expected : List Value) : P.Respected (Parser.fail expected : Parser α) := by
  intro s s' h
  exact .bind (h.unexpected_agree expected) fun m m' hm => .pure (.refuse hm)

theorem failAs (v : Value) : P.Respected (Parser.failAs v : Parser α) := by
  intro s s' h
  refine .bind (.liftM (.of_eq rfl)) fun label _ hlabel => ?_
  subst hlabel
  exact fail _ h

theorem faulty (fault : Fault) : P.Respected (Parser.faulty fault : Parser α) :=
  fun _ _ _ => .throw fault

theorem atEnd : P.Respected Parser.atEnd := by
  intro s s' h
  refine .bind (.liftM (.of_eq h.isAtEnd_eq)) fun atEnd _ hatEnd => ?_
  subst hatEnd
  cases atEnd with
  | true => exact .pure (.stay h ())
  | false => exact .bind (h.unexpected_agree _) fun m m' hm => .pure (.refuse hm)

theorem unnamed (hp : P.Respected p) : P.Respected p.unnamed := hp

theorem label (v : Value) (hp : P.Respected p) : P.Respected (p.label v) :=
  fun _ _ h => .bind (hp h) fun _ _ hr => .pure (hr.label v)

theorem map (f : α → β) (hp : P.Respected p) : P.Respected (p.map f) :=
  fun _ _ h => .bind (hp h) fun _ _ hr => .pure (hr.map f)

theorem tryMap (f : α → Fallible β) (hp : P.Respected p) : P.Respected (p.tryMap f) :=
  fun _ _ h => .bind (hp h) fun _ _ hr => .liftM (hr.tryMap f)

theorem withPosition (hp : P.Respected p) : P.Respected p.withPosition := by
  intro s s' h
  refine .bind (hp h) fun r r' hr => ?_
  obtain ⟨⟨hstate⟩⟩ | ⟨⟨⟩⟩ := hr
  · exact .pure (.ok ⟨hstate⟩)
  · exact .pure (.error ⟨⟩)

theorem backtrack (hp : P.Respected p) : P.Respected p.backtrack :=
  fun _ _ h => .bind (hp h) fun _ _ hr => .pure (hr.withConsumed false)

theorem orElse (hp : P.Respected p) (hq : P.Respected q) : P.Respected (p.orElse q) := by
  intro s s' h
  refine .bind (hp h) fun first first' hfirst => ?_
  rw [hfirst.consumed_eq]
  split
  · exact .pure hfirst
  refine .bind (hq h) fun second second' hsecond => ?_
  rw [hsecond.consumed_eq]
  split
  · exact .pure hsecond
  · have hmerge : (fun m : Message => m.mergeExpected first.message) =
        fun m => m.mergeExpected first'.message := by
      funext m
      rw [Message.mergeExpected, Message.mergeExpected, hfirst.expected_eq]
    rw [hmerge]
    exact .pure (hsecond.relabel _)

theorem bind {f : α → Parser β} (hp : P.Respected p) (hf : ∀ a, P.Respected (f a)) :
    P.Respected (p.bind f) := by
  intro s s' h
  refine .bind (hp h) fun r r' hr => ?_
  obtain ⟨⟨hstate⟩⟩ | ⟨⟨⟩⟩ := hr
  · refine .bind (hf _ hstate) fun next next' hnext => .pure (.withStart _ ?_)
    split
    · exact hnext.withConsumed true
    · exact hnext
  · exact .pure (.error ⟨⟩)

theorem sequenceRest {start : Position} {ps : List (Parser α)} (hps : ∀ p ∈ ps, P.Respected p)
    (consumed : Bool) (values : List α) (h : P.States s s') :
    P.Agree P.Results (sequenceRest start ps consumed values s)
      (sequenceRest start ps consumed values s') := by
  induction ps generalizing consumed values s s' with
  | nil => exact .pure (.ok (.upTo h _ _ _ _))
  | cons p ps ih =>
    refine .bind (hps p List.mem_cons_self h) fun r r' hr => ?_
    obtain ⟨⟨hstate⟩⟩ | ⟨⟨⟩⟩ := hr
    · exact ih (fun p' hmem => hps p' (List.mem_cons_of_mem p hmem)) _ _ hstate
    · exact .pure (.error ⟨⟩)

theorem sequence {ps : List (Parser α)} (hps : ∀ p ∈ ps, P.Respected p) :
    P.Respected (sequence ps) := by
  cases ps with
  | nil => exact pure []
  | cons p ps =>
    intro s s' h
    refine .bind (hps p List.mem_cons_self h) fun r r' hr => ?_
    obtain ⟨⟨hstate⟩⟩ | ⟨⟨⟩⟩ := hr
    · exact sequenceRest (fun p' hmem => hps p' (List.mem_cons_of_mem p hmem)) _ _ hstate
    · exact .pure (.error ⟨⟩)

section Rejection

variable [ToValue α]

theorem rejection {r r' : Success α} (hr : P.Successes r r') (h : P.States s s') :
    Fallible.Agree (fun m m' => m = m'.shift P.front) (rejection r s) (rejection r' s') := by
  obtain ⟨_⟩ := hr
  obtain ⟨_⟩ := h
  refine .bind (.of_eq rfl) fun text _ htext => .ok ?_
  rw [Message.shift, htext, Int.natCast_add]

theorem filter (test : α → Fallible Bool) (hp : P.Respected p) : P.Respected (p.filter test) := by
  intro s s' h
  refine .bind (hp h) fun r r' hr => ?_
  obtain ⟨⟨hstate⟩⟩ | ⟨⟨⟩⟩ := hr
  · refine .bind (.liftM (.of_eq rfl)) fun passed _ hpassed => ?_
    subst hpassed
    split
    · exact .pure (.ok ⟨hstate⟩)
    · exact .bind (.liftM (rejection ⟨hstate⟩ h)) fun m m' hm => .pure (.refuse hm)
  · exact .pure (.error ⟨⟩)

theorem collect (f : α → Fallible (Option β)) (hp : P.Respected p) : P.Respected (p.collect f) := by
  intro s s' h
  refine .bind (hp h) fun r r' hr => ?_
  obtain ⟨⟨hstate⟩⟩ | ⟨⟨⟩⟩ := hr
  · refine .bind (.liftM (.of_eq rfl)) fun image _ himage => ?_
    subst himage
    cases image with
    | some b => exact .pure (.ok ⟨hstate⟩)
    | none => exact .bind (.liftM (rejection ⟨hstate⟩ h)) fun m m' hm => .pure (.refuse hm)
  · exact .pure (.error ⟨⟩)

theorem notFollowedBy (hp : P.Respected p) : P.Respected (notFollowedBy p) := by
  intro s s' h
  refine .bind (hp h) fun r r' hr => ?_
  obtain ⟨⟨_⟩⟩ | ⟨⟨⟩⟩ := hr
  · refine .bind (.liftM (.of_eq rfl)) fun text _ htext => .pure (.refuse ?_)
    obtain ⟨_⟩ := h
    rw [Message.shift, htext, Int.natCast_add]
  · exact .pure (.stay h ())

end Rejection

section Trace

theorem named (name : String) (hp : P.Respected p) : P.Respected (p.named name) := by
  intro s s' h
  refine .bind (.record P.debug_eq (.ok trivial)) fun _ _ _ => .bind (hp h) fun r r' hr => ?_
  obtain ⟨⟨hstate⟩⟩ | ⟨⟨⟩⟩ := hr
  · exact .bind (.record P.debug_eq (.ok trivial)) fun _ _ _ => .pure (.ok ⟨hstate⟩)
  · refine .bind (.record P.debug_eq ?_) fun _ _ _ => .pure (.error ⟨⟩)
    exact .bind (.of_eq rfl) fun _ _ _ => .ok trivial

theorem trace (text : String) : P.Respected (trace text) := by
  intro s s' h
  have hstay := Results.stay h ()
  obtain ⟨offset, pos⟩ := h
  have hpreview := P.shifted.slice_agree offset (offset + previewSize)
  rw [← Nat.add_assoc] at hpreview
  exact .bind (.liftM hpreview) fun _ _ _ => .bind (.liftM P.shifted.length_agree) fun _ _ _ =>
    .bind (.record P.debug_eq (.ok trivial)) fun _ _ _ => .pure hstay

end Trace

section Recursion

theorem deferred {build : Unit → Parser α} (h : P.Respected (build ())) :
    P.Respected (deferred build) := h

theorem recursive {ι : Type} {rules : (ι → Parser α) → ι → Parser α} {count : Nat} {i : ι}
    (hrules : ∀ depth, P.Respected (unroll rules depth i)) :
    P.Respected (recursive count rules i) := by
  intro s s' h
  change P.Agree _ ((unroll rules (count * (s.remaining + 1)) i).apply s) _
  rw [h.remaining_eq]
  exact hrules _ h

end Recursion

end Respected

end Pairing

end Parsing
