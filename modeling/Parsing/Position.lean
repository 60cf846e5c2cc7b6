namespace Parsing

-- A line and a column. Texts are counted from zero; a source map may place tokens anywhere.
structure Position where
  line : Int
  column : Int
deriving DecidableEq

namespace Position

def initial : Position := ⟨0, 0⟩

def nextLine (p : Position) : Position := ⟨p.line + 1, 0⟩

def nextColumn (p : Position) : Position := ⟨p.line, p.column + 1⟩

def forward (p : Position) (columns : Int) : Position := ⟨p.line, p.column + columns⟩

def text (p : Position) : String := s!"line {p.line}, column {p.column}"

def written (p : Position) : String := s!"Position(line={p.line}, column={p.column})"

end Position

-- A value with its span: where its first token starts and where its last token ends.
structure Parsed (α : Type) where
  value : α
  start : Position
  stop : Position
deriving DecidableEq

namespace Parsed

def map (f : α → β) (p : Parsed α) : Parsed β := ⟨f p.value, p.start, p.stop⟩

-- Only the start moves: a composed value keeps the end of its last part.
def withStart (p : Parsed α) (start : Position) : Parsed α := { p with start }

end Parsed

end Parsing
