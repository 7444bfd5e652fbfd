/-!
# Alphabets

The characters that templates and texts are made of, and those among them that a formatter is likely
to treat in a special way.
-/

namespace FormatConformance.Alphabet

/-- The printable ASCII characters and the white space characters of ASCII. -/
def printable : List Char :=
  ("0123456789abcdefghijklmnopqrstuvwxyzABCDEFGHIJKLMNOPQRSTUVWXYZ"
    ++ "!\"#$%&'()*+,-./:;<=>?@[\\]^_\x60\x7b|\x7d~ \t\n\r\x0b\x0c").toList

/-- The characters on the edges of grammars and of the alphabet. -/
def edge : List Char :=
  "\x7b\x7d:!~ \x0b\x0c0".toList

/-- The printable characters as a text. -/
def printableText : String :=
  String.ofList printable

theorem mem_printable_of_mem_edge {c : Char} (h : c ∈ edge) : c ∈ printable := by
  have all : edge.all printable.contains = true := by decide +kernel
  simpa using List.all_eq_true.1 all c h

end FormatConformance.Alphabet
