import Parsing.Unicode.CodePoints

namespace Parsing.Unicode

-- Category Lt of Unicode 14: digraphs of which only the first letter is a capital.
def titlecase : CodePoints := ⟨#[
    0x1c5, 0x1c6, 0x1c8, 0x1c9, 0x1cb, 0x1cc, 0x1f2, 0x1f3, 0x1f88, 0x1f90, 0x1f98, 0x1fa0,
    0x1fa8, 0x1fb0, 0x1fbc, 0x1fbd, 0x1fcc, 0x1fcd, 0x1ffc, 0x1ffd]⟩

end Parsing.Unicode
