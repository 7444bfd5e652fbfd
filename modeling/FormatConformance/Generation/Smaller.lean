import FormatConformance.Exploration
import FormatConformance.Case

/-!
# Smaller cases

The cases that are tried in place of one that failed: shorter texts, the shortest specifier of the
same type, and arguments nearer to zero. They stay within the grammar and the alphabet of the case
that they come from.
-/

namespace FormatConformance.Generation

/-- The lengths that are tried in place of a length: none, half, and one less. -/
def smallerLengths (length : Nat) : List Nat :=
  ([0, length / 2, length - 1].filter (· < length)).eraseDups

/-- The first parts of a text that are tried in its place. -/
def smallerTexts (text : String) : List String :=
  (smallerLengths text.length).map fun length => String.ofList (text.toList.take length)

/-- The integers that are tried in place of one: zero and half of it. -/
def smallerInts (value : Int32) : List Int32 :=
  ([0, value / 2].filter (· ≠ value)).eraseDups

/-- The arguments that are tried in place of one. -/
def smallerArguments : Argument → List Argument
  | .nothing => []
  | .int value => (smallerInts value).map .int
  | .single bits => if bits = 0 then [] else [.single 0]
  | .double bits => if bits = 0 then [] else [.double 0]
  | .text value => (smallerTexts value).map .text

/-- The shortest specifier for an argument that has the type at the end of another. -/
def shortestSpecifier (argument : Argument) (specifier : String) : String :=
  let type := specifier.toList.getLast?.toList
  String.ofList (match argument with
    | .nothing => []
    | .int _ => type
    | .single _ => '1' :: '.' :: '1' :: type
    | .double _ => '1' :: '.' :: '1' :: type
    | .text _ => [])

/-- The specifier that is tried in place of the one of a case, when it is shorter. -/
def smallerSpecifiers (c : Case) : List String :=
  [shortestSpecifier c.argument c.specifier].filter fun s => s.length < c.specifier.length

/-- The cases that are tried in place of a case. -/
def smallerCases (c : Case) : List Case :=
  (smallerTexts c.before).map (fun before => { c with before })
    ++ (smallerTexts c.after).map (fun after => { c with after })
    ++ (smallerSpecifiers c).map (fun specifier => { c with specifier })
    ++ (smallerArguments c.argument).map (fun argument => { c with argument })

/-- The shrinker of cases, which tries at most four candidates for each case that is wanted. -/
def shrinker (cases : UInt32) : Exploration.Shrinker Case :=
  .greedy (4 * cases.toNat) smallerCases

end FormatConformance.Generation
