import FormatConformance.Proofs.Subject.Marshalling
import FormatConformance.Scripted.Files

/-!
# Files read back

Writing a file changes what stands at one place, and a file is made only where no directory is. So
every path leads after it where it led before (`walk_put`), although a name behind the new file now
fails for another reason. From this follows the law of files: what was written under a path is what
is read under it, and what is read at any other place stays as it was (`read_of_write`).
-/

namespace FormatConformance.Scripted.Files

variable {fs after : Files} {place : Place} {path text : String}

/-! ## What stands at a place -/

theorem holding_eq_directory_iff : fs.holding place = .directory ↔ fs.isDirectory place = true := by
  unfold holding
  split_ifs with directory full
  · exact iff_of_true rfl directory
  · exact iff_of_false nofun directory
  · exact iff_of_false (by split <;> nofun) directory

/-- The file that was put at a place stands there, unless there is a directory or no space. -/
theorem holding_put (text : String) (noDirectory : fs.isDirectory place = false)
    (hasSpace : fs.full.contains place = false) :
    (fs.put place text).holding place = .file text := by
  have still : (fs.put place text).isDirectory place = false := noDirectory
  have space : (fs.put place text).full.contains place = false := hasSpace
  rw [holding, still, space]
  simp [put]

/-- At any other place there stands what stood there. -/
theorem holding_put_of_ne {other : Place} (apart : other ≠ place) :
    (fs.put place text).holding other = fs.holding other := by
  have files : ((fs.put place text).files.find? fun f => f.1 = other) =
      fs.files.find? fun f => f.1 = other := by
    rw [put, List.find?_cons_of_neg (by simpa using apart.symm), List.find?_filter]
    refine congrArg (List.find? · fs.files) (funext fun f => ?_)
    -- The file that was there before is taken out, and it stood at the other place.
    by_cases same : f.1 = other
    · simp [same, apart]
    · simp [same]
  unfold holding
  rw [files]
  rfl

/-! ## Walking

A step into a name depends on whether there is a directory, and no file that is put makes one or
takes one away. -/

/-- Directories are all that a step depends on. -/
theorem step_eq_ok_iff {name : String} {reached : Place} :
    fs.step place name = .ok reached ↔ fs.isDirectory place = true ∧
      (if name = "" ∨ name = "." then .ok place
        else if name = ".." then .ok place.tail
        else if longestName < name.utf8ByteSize then .error SystemFault.nameTooLong
        else .ok (name :: place)) = Except.ok reached := by
  rw [← holding_eq_directory_iff, step]
  split
  · next directory => simp [directory]
  · next nothing => simp [nothing]
  · next holds other _ =>
    exact iff_of_false nofun fun ⟨directory, _⟩ => other directory

theorem step_put {name : String} {from_ reached : Place} :
    (fs.put place text).step from_ name = .ok reached ↔ fs.step from_ name = .ok reached := by
  rw [step_eq_ok_iff, step_eq_ok_iff]
  rfl

/-- A new file leaves every walk as it is that comes to its end. -/
theorem walk_put {names : List String} {from_ reached : Place} :
    (fs.put place text).walk from_ names = .ok reached ↔ fs.walk from_ names = .ok reached := by
  induction names generalizing from_ with
  | nil => rfl
  | cons name names ih =>
    rw [walk, walk, List.foldlM_cons, List.foldlM_cons, Subject.bind_eq_ok_iff,
      Subject.bind_eq_ok_iff]
    exact exists_congr fun middle => and_congr step_put ih

/-- A path leads where it led before the file was made. -/
theorem reach_put {reached : Place} :
    (fs.put place text).reach path = .ok reached ↔ fs.reach path = .ok reached := by
  rw [reach, reach, Subject.bind_eq_ok_iff, Subject.bind_eq_ok_iff]
  exact exists_congr fun names => and_congr_right fun _ => walk_put

/-! ## Reading, writing and starting -/

theorem withoutNul_eq_ok_iff {cause : SystemFault} {clean : String} :
    withoutNul cause path = .ok clean ↔ '\x00' ∉ path.toList ∧ clean = path := by
  rw [withoutNul]
  by_cases nul : '\x00' ∈ path.toList
  · simp [nul]
  · simp [nul, eq_comm]

/-- The place at which a file is made is the one to which the path leads. -/
theorem reach_of_target (found : fs.target path = .ok place) : fs.reach path = .ok place := by
  obtain ⟨names, split, found⟩ := Subject.bind_eq_ok_iff.1 found
  refine Subject.bind_eq_ok_iff.2 ⟨names, split, ?_⟩
  split_ifs at found with slash
  · -- Behind a slash at the end of the path no file is made.
    obtain ⟨_, -, refused⟩ := Subject.bind_eq_ok_iff.1 found
    cases refused
  · exact found

/-- Either the file is put in its place, or there is no space there and nothing to be written. -/
theorem writeAt_cases (written : fs.writeAt place text = .ok after) :
    (after = fs.put place text ∧ after.holding place = .file text) ∨
      (after = fs ∧ text = "" ∧ fs.holding place = .full) := by
  rw [writeAt] at written
  split at written
  · cases written
  · -- Without space there can only be an empty file, and that is there already.
    next full =>
    split_ifs at written with nothing
    cases written
    exact .inr ⟨rfl, nothing, full⟩
  · next noDirectory noFull =>
    cases written
    have open_ : fs.isDirectory place = false :=
      Bool.eq_false_iff.2 fun directory => noDirectory (holding_eq_directory_iff.2 directory)
    have space : fs.full.contains place = false := by
      rw [Bool.eq_false_iff]
      intro full
      apply noFull
      rw [holding, open_, full]
      rfl
    exact .inl ⟨rfl, holding_put text open_ space⟩

theorem exists_writeAt_of_write (written : fs.write path text = .ok after) :
    '\x00' ∉ path.toList ∧ ∃ place, fs.reach path = .ok place ∧
      fs.writeAt place text = .ok after := by
  obtain ⟨clean, checked, aimed⟩ := Subject.bind_eq_ok_iff.1 written
  obtain ⟨place, found, put⟩ := Subject.bind_eq_ok_iff.1 aimed
  obtain ⟨no_nul, rfl⟩ := withoutNul_eq_ok_iff.1 checked
  exact ⟨no_nul, place, reach_of_target found, put⟩

theorem read_eq_ok_iff {content : String} :
    fs.read path = .ok content ↔
      '\x00' ∉ path.toList ∧ ∃ place, fs.reach path = .ok place ∧
        fs.contentAt place = .ok content := by
  rw [read, Subject.bind_eq_ok_iff]
  simp only [withoutNul_eq_ok_iff, Subject.bind_eq_ok_iff]
  constructor
  · rintro ⟨_, ⟨no_nul, rfl⟩, place, found, content⟩
    exact ⟨no_nul, place, found, content⟩
  · rintro ⟨no_nul, place, found, content⟩
    exact ⟨path, ⟨no_nul, rfl⟩, place, found, content⟩

/-- What was written under a path is read under it. Under a path that leads elsewhere there is the
file that was there, or none as before. And what was written is no program. -/
theorem read_of_write (written : fs.write path text = .ok after) :
    after.read path = .ok text ∧
      (∀ other content, fs.reach other ≠ fs.reach path →
        (after.read other = .ok content ↔ fs.read other = .ok content)) ∧
      (path.contains '/' = true → after.startFault path = .permissionDenied) := by
  obtain ⟨no_nul, place, found, written⟩ := exists_writeAt_of_write written
  -- In both cases the path leads to its place after the writing, and there is the text.
  have there : after.reach path = .ok place ∧ after.contentAt place = .ok text ∧
      after.holding place ≠ .nothing := by
    rcases writeAt_cases written with ⟨rfl, holds⟩ | ⟨rfl, rfl, full⟩
    · exact ⟨reach_put.2 found, by rw [contentAt, holds], by simp [holds]⟩
    · exact ⟨found, by rw [contentAt, full], by simp [full]⟩
  obtain ⟨reached, content, something⟩ := there
  refine ⟨read_eq_ok_iff.2 ⟨no_nul, place, reached, content⟩, fun other content elsewhere => ?_,
    fun slash => ?_⟩
  · rw [read_eq_ok_iff, read_eq_ok_iff]
    rcases writeAt_cases written with ⟨rfl, -⟩ | ⟨rfl, -⟩
    · refine and_congr_right fun _ => exists_congr fun spot => ?_
      rw [reach_put]
      refine and_congr_right fun leads => ?_
      -- Paths that lead to the same place are the same to the files.
      have apart : spot ≠ place := by
        rintro rfl
        exact elsewhere (leads.trans found.symm)
      rw [contentAt, contentAt, holding_put_of_ne apart]
    · rfl
  · -- A path with a slash is followed as it is, and what it leads to is a text.
    obtain ⟨names, split, walked⟩ := Subject.bind_eq_ok_iff.1 reached
    have program : after.programPlace path = .ok place :=
      Subject.bind_eq_ok_iff.2 ⟨names, split, by rw [if_pos slash, walked]⟩
    have found : (do after.programPlace (← withoutNul .nulInProgram path)) = .ok place :=
      Subject.bind_eq_ok_iff.2 ⟨path, withoutNul_eq_ok_iff.2 ⟨no_nul, rfl⟩, program⟩
    rw [startFault, found]
    exact if_neg something

end FormatConformance.Scripted.Files
