import FormatConformance.Outcome

/-!
# Answers of the reference

The trusted formatter classifies its rejections; the classes are kept beside the outcome.
-/

namespace FormatConformance.Reference

/-- Why the reference rejected an input. -/
inductive FailureKind
  /-- The specifier or the template is malformed. -/
  | malformedSpecifier
  /-- A positional field has no argument. -/
  | fieldOutOfRange
  /-- A named field has no argument. -/
  | keyLookup
  /-- Something that is not known as a rejection. -/
  | unexpected
  deriving DecidableEq, Repr

namespace FailureKind

/-- Every kind. -/
def all : List FailureKind :=
  [malformedSpecifier, fieldOutOfRange, keyLookup, unexpected]

/-- The name of a kind in messages. -/
def name : FailureKind → String
  | malformedSpecifier => "malformed_specifier"
  | fieldOutOfRange => "field_out_of_range"
  | keyLookup => "key_lookup"
  | unexpected => "unexpected"

end FailureKind

/-- An outcome of the reference with the kind of failure, when there is one. -/
structure Answer where
  outcome : Outcome
  kind : Option FailureKind
  deriving DecidableEq, Repr

namespace Answer

/-- The reference rendered some bytes. -/
def success (payload : Bytes) : Answer :=
  ⟨.success payload, none⟩

/-- The reference rejected the input. -/
def failure (kind : FailureKind) (reason : String) : Answer :=
  ⟨.failure reason, some kind⟩

end Answer

end FormatConformance.Reference
