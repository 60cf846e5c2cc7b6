import Parsing.Log
import Parsing.Fault
import Parsing.SourceMap
import Parsing.Source.Tokenizer

namespace Parsing

-- What a run takes place under.
structure Context where
  maps : Registry SourceMap
  tokenizers : Registry Tokenizer
  debug : Bool

def Context.builtin : Context := ⟨SourceMap.builtin, Tokenizer.builtin, false⟩

-- Records written before a fault are kept.
structure Outcome (α : Type) where
  log : List Record
  result : Fallible α

def Eval (α : Type) : Type := Context → Outcome α

namespace Eval

def run (x : Eval α) (ctx : Context) : Outcome α := x ctx

-- A value that depends on the context alone, without records.
def ofContext (f : Context → Fallible α) : Eval α := fun ctx => ⟨[], f ctx⟩

protected def pure (a : α) : Eval α := ofContext fun _ => .ok a

protected def bind (x : Eval α) (f : α → Eval β) : Eval β := fun ctx =>
  match x ctx with
  | ⟨log, .ok a⟩ =>
    let next := f a ctx
    ⟨log ++ next.log, next.result⟩
  | ⟨log, .error fault⟩ => ⟨log, .error fault⟩

instance : Monad Eval where
  pure := Eval.pure
  bind := Eval.bind

instance : MonadLift Fallible Eval := ⟨fun x => ofContext fun _ => x⟩

instance : MonadExcept Fault Eval where
  throw fault := ofContext fun _ => .error fault
  tryCatch x handle := fun ctx =>
    match x ctx with
    | ⟨log, .ok a⟩ => ⟨log, .ok a⟩
    | ⟨log, .error fault⟩ =>
      let next := handle fault ctx
      ⟨log ++ next.log, next.result⟩

-- The record is made and written only where records are wanted.
def record (r : Fallible Record) : Eval Unit := fun ctx =>
  if ctx.debug then
    match r with
    | .ok r => ⟨[r], .ok ()⟩
    | .error fault => ⟨[], .error fault⟩
  else ⟨[], .ok ()⟩

end Eval

section Loop

variable (step : σ → Eval (σ ⊕ β))

-- Goes on where the last step has led, until a step gives a result instead of a place to go on
-- from. There is no outcome if that never happens.
def Outcome.resume? (last : Outcome (σ ⊕ β)) : ReaderT Context Option (Outcome β) := fun ctx =>
  match last with
  | ⟨log, .ok (.inl next)⟩ => do
    let rest ← (step next ctx).resume?.run ctx
    return ⟨log ++ rest.log, rest.result⟩
  | ⟨log, .ok (.inr b)⟩ => some ⟨log, .ok b⟩
  | ⟨log, .error fault⟩ => some ⟨log, .error fault⟩
partial_fixpoint

-- A loop from `a` on.
def Eval.iterate (a : σ) : Eval β := fun ctx =>
  ((step a ctx).resume? step ctx).getD ⟨[], .error .endless⟩

end Loop

end Parsing
