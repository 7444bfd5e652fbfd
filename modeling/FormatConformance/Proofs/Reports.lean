import FormatConformance.Proofs.Json.Page
import FormatConformance.Proofs.Json.Records
import FormatConformance.Report

/-!
# Reports read back

The page of a report is read as the report, whatever its texts and counts are, whether its optional
parts are there or not, and however many properties and fixed cases it has. There is one lemma for
each kind of record, made of those for its fields by `readsBack_record`, and the page of the
outermost one is read as any page is (`Json.read?_page`).
-/

namespace FormatConformance

open Json

/-! ## Mismatches -/

theorem Case.Record.readsBack : ReadsBack toJson ofDocument? := by
  refine readsBack_record (fun _ => rfl) (by decide) (fun _ => ?_) fun r => ?_
  · exact ⟨readsBack_text.integral_field _ _, readsBack_text.integral_field _ _,
      readsBack_text.integral_field _ _⟩
  · simp only [List.map_cons, List.map_nil, Option.bind_eq_bind, Option.bind_some,
      readsBack_text.required?_field]
    rfl

theorem Outcome.Record.readsBack : ReadsBack toJson ofDocument? := by
  refine readsBack_record (fun _ => rfl) (by decide) (fun _ => ?_) fun r => ?_
  · exact ⟨readsBack_text.integral_field _ _, readsBack_text.integral_optionalField _ _,
      readsBack_text.integral_optionalField _ _⟩
  · simp only [List.map_cons, List.map_nil, Option.bind_eq_bind, Option.bind_some,
      readsBack_text.required?_field, readsBack_text.absentOr?_optionalField]
    rfl

theorem Mismatch.Record.readsBack : ReadsBack toJson ofDocument? := by
  refine readsBack_record (fun _ => rfl) (by decide) (fun _ => ?_) fun r => ?_
  · exact ⟨readsBack_text.integral_field _ _, Case.Record.readsBack.integral_field _ _,
      readsBack_text.integral_field _ _, Outcome.Record.readsBack.integral_field _ _,
      Outcome.Record.readsBack.integral_field _ _, readsBack_text.integral_field _ _⟩
  · simp only [List.map_cons, List.map_nil, Option.bind_eq_bind, Option.bind_some,
      readsBack_text.required?_field, Case.Record.readsBack.required?_field,
      Outcome.Record.readsBack.required?_field]
    rfl

/-! ## Properties -/

theorem PropertyStatus.readsBack :
    ReadsBack (fun status => .string (name status)) (Schema.word? all name) :=
  readsBack_word (fun status => by cases status <;> decide)
    (fun a b => by cases a <;> cases b <;> decide)

theorem PropertyResult.readsBack : ReadsBack toJson ofDocument? := by
  refine readsBack_record (fun _ => rfl) (by decide) (fun _ => ?_) fun r => ?_
  · exact ⟨readsBack_text.integral_field _ _, readsBack_text.integral_field _ _,
      PropertyStatus.readsBack.integral_field _ _, readsBack_word64.integral_field _ _,
      readsBack_word64.integral_field _ _, Mismatch.Record.readsBack.integral_optionalField _ _,
      Mismatch.Record.readsBack.integral_optionalField _ _,
      readsBack_text.integral_optionalField _ _, readsBack_word64.integral_field _ _⟩
  · -- Every field is read back by its own law, whatever the other fields are.
    simp only [List.map_cons, List.map_nil, Option.bind_eq_bind, Option.bind_some,
      readsBack_text.required?_field, PropertyStatus.readsBack.required?_field,
      readsBack_word64.required?_field, Mismatch.Record.readsBack.absentOr?_optionalField,
      readsBack_text.absentOr?_optionalField]
    rfl

/-! ## Fixed cases -/

namespace Verification

theorem Result.readsBack : ReadsBack toJson ofDocument? := by
  refine readsBack_record (fun _ => rfl) (by decide) (fun _ => ?_) fun r => ?_
  · exact ⟨readsBack_text.integral_field _ _, readsBack_text.integral_field _ _,
      readsBack_bool.integral_field _ _, readsBack_text.integral_field _ _,
      readsBack_text.integral_field _ _, readsBack_text.integral_ofOption _ _⟩
  · simp only [List.map_cons, List.map_nil, Option.bind_eq_bind, Option.bind_some,
      readsBack_text.required?_field, readsBack_bool.required?_field,
      readsBack_text.absentOr?_ofOption]
    rfl

theorem Summary.readsBack : ReadsBack toJson ofDocument? := by
  refine readsBack_record (fun _ => rfl) (by decide) (fun _ => ?_) fun s => ?_
  · exact ⟨readsBack_word64.integral_field _ _, readsBack_word64.integral_field _ _,
      readsBack_word64.integral_field _ _, Result.readsBack.list.integral_field _ _⟩
  · simp only [List.map_cons, List.map_nil, Option.bind_eq_bind, Option.bind_some,
      readsBack_word64.required?_field, Result.readsBack.list.required?_field]
    rfl

end Verification

/-! ## Reports

A report is a record of records. The law of each field is that of its type, so a report is read back
as soon as its names are distinct. -/

theorem Artifact.readsBack : ReadsBack toJson ofDocument? := by
  refine readsBack_record (fun _ => rfl) (by decide) (fun _ => ?_) fun a => ?_
  · exact ⟨readsBack_text.integral_field _ _, readsBack_text.integral_field _ _⟩
  · simp only [List.map_cons, List.map_nil, Option.bind_eq_bind, Option.bind_some,
      readsBack_text.required?_field]
    rfl

namespace Report

theorem readsBack : ReadsBack toJson ofDocument? := by
  refine readsBack_record (fun _ => rfl) (by decide) (fun _ => ?_) fun r => ?_
  · exact ⟨readsBack_text.integral_field _ _, readsBack_text.integral_field _ _,
      readsBack_text.integral_field _ _, readsBack_text.integral_field _ _,
      Artifact.readsBack.integral_optionalField _ _, readsBack_word32.integral_field _ _,
      PropertyResult.readsBack.list.integral_field _ _,
      Verification.Summary.readsBack.integral_optionalField _ _⟩
  · simp only [List.map_cons, List.map_nil, Option.bind_eq_bind, Option.bind_some,
      readsBack_text.required?_field, Artifact.readsBack.absentOr?_optionalField,
      readsBack_word32.required?_field, PropertyResult.readsBack.list.required?_field,
      Verification.Summary.readsBack.absentOr?_optionalField]
    rfl

/-- The page of a report is read as the report: no part of it is lost or changed, so what is read
passes when the report does and has its markdown form. -/
theorem read?_page_same_verdict_same_markdown (r : Report) :
    read? r.page = some r ∧ (read? r.page).map allPassed = some r.allPassed ∧
      (read? r.page).map markdown = some r.markdown := by
  have whole : read? r.page = some r := by
    rw [read?, page, Json.read?_page (readsBack.integral r)]
    exact readsBack.back r
  rw [whole]
  exact ⟨rfl, rfl, rfl⟩

end Report

end FormatConformance
