import FormatConformance.Generation.Survey
import FormatConformance.Proofs.Generation
import FormatConformance.Proofs.Pattern.Matching

/-!
# Surveys of generated cases

A survey tells about many cases at once what can be observed of them. Of well formed cases it can
only tell what they owe to their settings and their entry point (`survey_of_wellFormed`): every
specifier is accepted by the matcher of the grammar, every character around a placeholder is in the
alphabet, no text is too long, and neither an infinity nor a brace in a specifier is among what is
notable. The cases of a stream are well formed, so this is what any number of them shows.
-/

namespace FormatConformance.Generation

variable {settings : Settings} {entry : EntryPoint} {c : Case} {cases : List Case}

/-! ## Notable names

What is notable is told by names, and a name is in the list just when it holds of some case. For the
two names that must not occur it is enough to look at one case. -/

theorem mem_named_iff {name noted : String} {holds : Bool} :
    noted ∈ named name holds ↔ noted = name ∧ holds = true := by
  cases holds <;> simp [named]

theorem mem_notable_iff {noted : String} :
    noted ∈ notable cases ↔
      ∃ c ∈ cases, noted ∈ notableArgument c.argument ∨ noted ∈ notableSpecifier c := by
  simp only [notable, sortedNames, List.mem_mergeSort, List.mem_eraseDups, List.mem_flatMap,
    List.mem_append]

/-- A pattern that denotes no infinity is none of the two that do. -/
theorem inf_not_mem_notableBits {l : Ieee.Layout} {bits : Nat} (bounded : l.Bounded bits)
    (positive : l.datum l.infinity = .infinite false)
    (negative : l.datum (l.signBit + l.infinity) = .infinite true) :
    "inf" ∉ notableBits l bits := by
  intro noted
  have infinite : bits = l.infinity ∨ bits = l.signBit + l.infinity := by
    simpa [notableBits, mem_named_iff] using noted
  rcases infinite with rfl | rfl
  · exact bounded false positive
  · exact bounded true negative

theorem inf_not_mem_notableArgument {a : Argument} (fits : ArgumentFits settings a) :
    "inf" ∉ notableArgument a := by
  cases a with
  | nothing => simp [notableArgument]
  | int value => simp [notableArgument, mem_named_iff]
  | single bits =>
    have finite := inf_not_mem_notableBits fits rfl rfl
    simpa [notableArgument, mem_named_iff] using finite
  | double bits =>
    have finite := inf_not_mem_notableBits fits rfl rfl
    simpa [notableArgument, mem_named_iff] using finite
  | text value => simp [notableArgument, mem_named_iff]

theorem inf_not_mem_notableSpecifier (c : Case) : "inf" ∉ notableSpecifier c := by
  simp [notableSpecifier, mem_named_iff]

theorem brace_not_mem_notableArgument (a : Argument) : "brace_in_spec" ∉ notableArgument a := by
  cases a <;> simp [notableArgument, notableBits, mem_named_iff]

theorem brace_not_mem_notableSpecifier (formed : WellFormed settings entry c) :
    "brace_in_spec" ∉ notableSpecifier c := by
  intro noted
  have brace : '\x7b' ∈ c.specifier.toList ∨ '\x7d' ∈ c.specifier.toList := by
    simpa [notableSpecifier, mem_named_iff] using noted
  have plain := Specifier.plain_of_matches formed.grammatical
  rcases brace with opening | closing
  · exact (plain _ opening).2.2.1 rfl
  · exact (plain _ closing).2.2.2 rfl

/-! ## Texts -/

theorem isOrdered_grammar (entry : EntryPoint) : (Specifier.grammar entry).isOrdered := by
  cases entry <;> decide +kernel

/-- The characters around the placeholder, which are the whole template where there is none. -/
theorem WellFormed.affix_printed (formed : WellFormed settings entry c) :
    ∀ x ∈ c.before.toList ++ c.after.toList, x ∈ Alphabet.printable := by
  have around := formed.around
  rw [List.forall_mem_append]
  by_cases none : entry = .nothing
  · rw [if_pos none, printed_template_iff (formed.shape.trans none)] at around
    exact around.2
  · rw [if_neg none] at around
    exact ⟨around.1.2, around.2.2⟩

/-- What a survey tells of well formed cases. -/
theorem survey_of_wellFormed (formed : ∀ c ∈ cases, WellFormed settings entry c) :
    inGrammar entry cases = true ∧ isPrintable cases = true ∧
      (∀ length ∈ textLengths cases, length ≤ settings.maxText) ∧
      "inf" ∉ notable cases ∧ "brace_in_spec" ∉ notable cases := by
  refine ⟨?_, ?_, fun length mem => ?_, fun noted => ?_, fun noted => ?_⟩
  · rw [inGrammar, List.all_eq_true]
    exact fun c mem =>
      (Pattern.accepts_iff (isOrdered_grammar entry)).2 (formed c mem).grammatical
  · rw [isPrintable, List.all_eq_true]
    intro x mem
    obtain ⟨c, among, inside⟩ := List.mem_flatMap.1 mem
    exact List.contains_iff_mem.2 ((formed c among).affix_printed x inside)
  · -- Only arguments that are texts have a length to tell.
    obtain ⟨c, among, found⟩ := List.mem_filterMap.1 mem
    have fits := (formed c among).argument_fits
    cases argument : c.argument with
    | text value =>
      rw [argument] at found fits
      obtain rfl := Option.some.inj found
      exact fits.1
    | _ => simp [argument] at found
  · obtain ⟨c, among, inside⟩ := mem_notable_iff.1 noted
    rcases inside with inside | inside
    · exact inf_not_mem_notableArgument (formed c among).argument_fits inside
    · exact inf_not_mem_notableSpecifier c inside
  · obtain ⟨c, among, inside⟩ := mem_notable_iff.1 noted
    rcases inside with inside | inside
    · exact brace_not_mem_notableArgument c.argument inside
    · exact brace_not_mem_notableSpecifier (formed c among) inside

/-- Whatever the seed, this is what a survey of any cases of a stream tells. -/
theorem survey_of_stream (settings : Settings) (source : Random.Source) (entry : EntryPoint)
    (numbers : List Nat) :
    inGrammar entry (numbers.map (stream settings source entry)) = true ∧
      isPrintable (numbers.map (stream settings source entry)) = true ∧
      (∀ length ∈ textLengths (numbers.map (stream settings source entry)),
        length ≤ settings.maxText) ∧
      "inf" ∉ notable (numbers.map (stream settings source entry)) ∧
      "brace_in_spec" ∉ notable (numbers.map (stream settings source entry)) :=
  survey_of_wellFormed (List.forall_mem_map.2 fun _ _ => yields_input settings entry _ 0)

end FormatConformance.Generation
