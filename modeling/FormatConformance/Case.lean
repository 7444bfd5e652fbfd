import FormatConformance.Argument

/-!
# Cases

One input of a formatter: an argument and a template around the place where it goes. A case can be
shown as one line that replays it, and recorded as three texts.
-/

namespace FormatConformance

/-- A case. Without an argument the template is the text before and after and has no placeholder. -/
structure Case where
  before : String
  specifier : String
  after : String
  argument : Argument
  deriving DecidableEq, Repr

namespace Case

/-- A case without argument, its template taken as it stands. -/
def ofTemplate (template : String) : Case :=
  ⟨template, "", "", .nothing⟩

/-- The entry point that the case goes through. -/
def entryPoint (c : Case) : EntryPoint :=
  c.argument.entryPoint

/-- The characters of the template. -/
def templateChars (c : Case) : List Char :=
  match c.argument with
  | .nothing => c.before.toList ++ c.after.toList
  | _ => c.before.toList ++ '\x7b' :: ':' :: (c.specifier.toList ++ '\x7d' :: c.after.toList)

/-- The template that both formatters are given. -/
def template (c : Case) : String :=
  String.ofList c.templateChars

/-- The line that replays the case. -/
def replay (c : Case) : String :=
  String.ofList
    (Text.Quoted.quote c.templateChars ++ ".format(".toList ++ c.argument.literal ++ [')'])

/-- A case as it stands in logs and reports. -/
structure Record where
  entryPoint : String
  template : String
  value : String
  deriving DecidableEq, Repr

/-- The record of a case. -/
def record (c : Case) : Record where
  entryPoint := c.entryPoint.name
  template := c.template
  value := String.ofList c.argument.literal

end Case

end FormatConformance
