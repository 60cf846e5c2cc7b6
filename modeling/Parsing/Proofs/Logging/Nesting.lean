import Parsing.Log

namespace Parsing

inductive Attempt where
  | opened (name : String)
  | closed (name : String)
deriving DecidableEq

-- What a record says about the attempts of named parsers.
def Record.attempt? : Record → Option Attempt
  | .trying name _ => some (.opened name)
  | .matched name _ => some (.closed name)
  | .unmatched name _ _ => some (.closed name)
  | .running .. | .succeeded .. | .failed .. | .traced .. => none

def attempts (log : List Record) : List Attempt := log.filterMap Record.attempt?

@[simp] theorem attempts_append (log log' : List Record) :
    attempts (log ++ log') = attempts log ++ attempts log' :=
  List.filterMap_append

-- Each attempt that is opened is closed once, under the same name, and so is everything between.
inductive WellNested : List Attempt → Prop
  | nil : WellNested []
  | attempt {inner rest : List Attempt} (name : String) : WellNested inner → WellNested rest →
      WellNested (.opened name :: inner ++ .closed name :: rest)

-- What more attempts, or the rest of those that are still open, can complete.
def Unfinished (as : List Attempt) : Prop := ∃ rest, WellNested (as ++ rest)

variable {as bs : List Attempt}

namespace WellNested

theorem append (has : WellNested as) (hbs : WellNested bs) : WellNested (as ++ bs) := by
  induction has with
  | nil => exact hbs
  | attempt name hinner _ _ ih =>
    rw [List.append_assoc, List.cons_append]
    exact .attempt name hinner ih

theorem single (name : String) (has : WellNested as) :
    WellNested (.opened name :: as ++ [.closed name]) :=
  .attempt name has .nil

theorem unfinished (has : WellNested as) : Unfinished as :=
  ⟨[], by rwa [List.append_nil]⟩

theorem append_unfinished (has : WellNested as) (hbs : Unfinished bs) : Unfinished (as ++ bs) := by
  obtain ⟨rest, hrest⟩ := hbs
  refine ⟨rest, ?_⟩
  rw [List.append_assoc]
  exact has.append hrest

end WellNested

theorem Unfinished.opened (name : String) (has : Unfinished as) :
    Unfinished (.opened name :: as) := by
  obtain ⟨rest, hrest⟩ := has
  refine ⟨rest ++ [.closed name], ?_⟩
  have hclosed := hrest.single name
  rwa [List.cons_append, List.append_assoc] at hclosed

end Parsing
