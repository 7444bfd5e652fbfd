import FormatConformance.Proofs.Patching

/-!
# Where two payloads part

A diff places the first difference twice: by an offset in bytes and by the number of its first hunk.
Two payloads are a common start with two rests that begin differently (`exists_parting`), and the
offset is the length of that start. The hunks are those lines that are not the same on both sides
(`mem_hunksFrom_iff`), in order. A byte that both payloads begin with moves the hunks on by a line
when it is a line feed and else leaves their numbers alone, so the first number counts the line
feeds in the common start (`numbers_append`). What is left are the rests: their first lines differ,
unless one rest is empty and the other begins with a line feed (`head?_numbers_of_parted`).
-/

namespace FormatConformance.Diff

/-! ## The longest common start -/

/-- The longest byte string that both of two begin with. -/
structure LongestCommonPrefix (common a b : Bytes) : Prop where
  left : common <+: a
  right : common <+: b
  longest : ∀ other, other <+: a → other <+: b → other <+: common

/-- Byte strings that do not begin with the same byte, of which at most one is empty. -/
def Parted (x y : Bytes) : Prop :=
  x.head? ≠ y.head?

/-- Two byte strings are a common start and what stands behind it. -/
theorem exists_parting {a b : Bytes} (different : a ≠ b) :
    ∃ common x y, a = common ++ x ∧ b = common ++ y ∧ Parted x y ∧
      commonLength a b = common.length := by
  induction a generalizing b with
  | nil =>
    obtain ⟨b, rest, rfl⟩ := List.exists_cons_of_ne_nil (Ne.symm different)
    exact ⟨[], [], b :: rest, rfl, rfl, by simp [Parted], rfl⟩
  | cons head tail ih =>
    cases b with
    | nil => exact ⟨[], head :: tail, [], rfl, rfl, by simp [Parted], rfl⟩
    | cons other rest =>
      by_cases same : head = other
      · subst same
        obtain ⟨common, x, y, rfl, rfl, parted, length⟩ := ih (by simpa using different)
        exact ⟨head :: common, x, y, rfl, rfl, parted, by simp [commonLength, length]⟩
      · -- Nothing is common, and what is left begins with different bytes.
        exact ⟨[], head :: tail, other :: rest, rfl, rfl, by simpa [Parted] using same,
          by simp [commonLength, same]⟩

theorem longestCommonPrefix_of_parted {x y : Bytes} (parted : Parted x y) (common : Bytes) :
    LongestCommonPrefix common (common ++ x) (common ++ y) where
  left := List.prefix_append _ _
  right := List.prefix_append _ _
  longest other before_x before_y := by
    -- Behind the common start there is no byte left that both begin with.
    induction common generalizing other with
    | nil =>
      cases other with
      | nil => exact List.nil_prefix
      | cons b rest =>
        obtain ⟨_, rfl⟩ := before_x
        obtain ⟨_, rfl⟩ := before_y
        exact absurd rfl parted
    | cons head common ih =>
      cases other with
      | nil => exact List.nil_prefix
      | cons b rest =>
        rw [List.cons_append, List.cons_prefix_cons] at before_x before_y
        exact List.cons_prefix_cons.2 ⟨before_x.1, ih rest before_x.2 before_y.2⟩

/-! ## Hunks are the lines that differ -/

/-- The lines are what stands between line feeds. -/
theorem lines_eq_splitOn (bytes : Bytes) : lines bytes = bytes.splitOn 0x0a := by
  induction bytes with
  | nil => rfl
  | cons b rest ih =>
    rw [List.splitOn, List.splitOnP_cons_eq_if_modifyHead]
    by_cases feed : b = 0x0a
    · rw [feed, lines_cons_feed, ih]
      rfl
    · obtain ⟨line, more, later⟩ := List.exists_cons_of_ne_nil (lines_ne_nil rest)
      rw [lines_cons_of_ne feed later, if_neg (by simpa using feed), ← List.splitOn, ← ih, later,
        List.modifyHead_cons]

/-- The hunk of a line that is not the same in two lists of lines, one of them perhaps having none
at that place; their first lines have the given number. -/
def Differs (number : Nat) (reference subject : List Bytes) (h : Hunk) : Prop :=
  ∃ i, reference[i]? ≠ subject[i]? ∧ h = ⟨number + i, reference[i]?, subject[i]?⟩

theorem differs_iff {number : Nat} {reference subject : List Bytes} {h : Hunk} :
    Differs number reference subject h ↔
      reference.head? ≠ subject.head? ∧ h = ⟨number, reference.head?, subject.head?⟩ ∨
        Differs (number + 1) reference.tail subject.tail h := by
  rw [Differs, ← Nat.or_exists_add_one, Differs]
  simp only [List.head?_eq_getElem?, List.getElem?_tail, Nat.add_zero, Nat.add_right_comm number 1,
    ← Nat.add_assoc]

theorem not_differs_self {number : Nat} {lines : List Bytes} {h : Hunk} :
    ¬Differs number lines lines h := by
  rintro ⟨i, different, -⟩
  exact different rfl

theorem mem_subjectOnly_iff {number : Nat} {lines : List Bytes} {h : Hunk} :
    h ∈ subjectOnly number lines ↔ Differs number [] lines h := by
  induction lines generalizing number with
  | nil => simp [subjectOnly, not_differs_self]
  | cons line rest ih => simp [subjectOnly, @differs_iff number [] (line :: rest), ih]

/-- The hunks are the lines that differ. -/
theorem mem_hunksFrom_iff {number : Nat} {reference subject : List Bytes} {h : Hunk} :
    h ∈ hunksFrom number reference subject ↔ Differs number reference subject h := by
  fun_induction hunksFrom number reference subject with
  | case1 number subject => exact mem_subjectOnly_iff
  | case2 number r rs ih => simp [@differs_iff number (r :: rs) [], ih]
  | case3 number rs line ss ih => simp [@differs_iff number (line :: rs) (line :: ss), ih]
  | case4 number r rs s ss different ih =>
    simp [@differs_iff number (r :: rs) (s :: ss), different, ih]

/-! ## Hunks are in order -/

theorem pairwise_subjectOnly (number : Nat) (lines : List Bytes) :
    (subjectOnly number lines).Pairwise (·.number < ·.number) := by
  induction lines generalizing number with
  | nil => exact .nil
  | cons line rest ih =>
    exact .cons (fun _ later => number_le_of_mem_subjectOnly later) (ih (number + 1))

theorem pairwise_hunksFrom (number : Nat) (reference subject : List Bytes) :
    (hunksFrom number reference subject).Pairwise (·.number < ·.number) := by
  fun_induction hunksFrom number reference subject with
  | case1 number subject => exact pairwise_subjectOnly number subject
  | case2 number r rs ih => exact .cons (fun _ later => number_le_of_mem_hunksFrom later) ih
  | case3 number rs line ss ih => exact ih
  | case4 number r rs s ss different ih =>
    exact .cons (fun _ later => number_le_of_mem_hunksFrom later) ih

/-! ## The number of the first hunk

Each feed in the common start ends a line that both payloads have. The first lines behind them
differ, except when one payload ends where the other has a feed: then the line there is the same,
empty in both, and only the next one is missing. -/

/-- The line numbers of the hunks of two payloads whose first lines have the given number. -/
def numbers (number : Nat) (a b : Bytes) : List Nat :=
  (hunksFrom number (lines a) (lines b)).map Hunk.number

/-- A line feed that both payloads begin with moves the hunks on by a line. -/
theorem numbers_cons_feed (number : Nat) (a b : Bytes) :
    numbers number (0x0a :: a) (0x0a :: b) = numbers (number + 1) a b := by
  rw [numbers, lines_cons_feed, lines_cons_feed, hunksFrom, if_pos rfl, numbers]

/-- Any other byte that both payloads begin with changes no number. -/
theorem numbers_cons_of_ne {byte : UInt8} (other : byte ≠ 0x0a) (number : Nat) (a b : Bytes) :
    numbers number (byte :: a) (byte :: b) = numbers number a b := by
  obtain ⟨line, more, lines_a⟩ := List.exists_cons_of_ne_nil (lines_ne_nil a)
  obtain ⟨line', more', lines_b⟩ := List.exists_cons_of_ne_nil (lines_ne_nil b)
  rw [numbers, numbers, lines_cons_of_ne other lines_a, lines_cons_of_ne other lines_b, lines_a,
    lines_b]
  by_cases same : line = line'
  · simp [hunksFrom, same]
  · simp [hunksFrom, same]

theorem numbers_append (common : Bytes) (number : Nat) (x y : Bytes) :
    numbers number (common ++ x) (common ++ y) = numbers (number + common.count 0x0a) x y := by
  induction common generalizing number with
  | nil => rfl
  | cons byte common ih =>
    by_cases feed : byte = 0x0a
    · rw [feed, List.cons_append, List.cons_append, numbers_cons_feed, ih, List.count_cons_self,
        Nat.add_right_comm, Nat.add_assoc]
    · rw [List.cons_append, List.cons_append, numbers_cons_of_ne feed, ih,
        List.count_cons_of_ne feed]

theorem numbers_comm (number : Nat) (a b : Bytes) : numbers number b a = numbers number a b := by
  rw [numbers, hunksFrom_swap, List.map_map, numbers]
  rfl

/-- The first line begins as the payload does, unless it is empty. -/
theorem head?_lines (bytes : Bytes) :
    ∃ line more, lines bytes = line :: more ∧ line.head? = bytes.head?.filter (· ≠ 0x0a) := by
  cases bytes with
  | nil => exact ⟨[], [], rfl, rfl⟩
  | cons b rest =>
    by_cases feed : b = 0x0a
    · subst feed
      exact ⟨[], lines rest, lines_cons_feed rest, rfl⟩
    · obtain ⟨line, more, later⟩ := List.exists_cons_of_ne_nil (lines_ne_nil rest)
      exact ⟨b :: line, more, lines_cons_of_ne feed later, by simp [Option.filter, feed]⟩

/-- A payload has ended where the other one goes on with a line feed. -/
def EndsAtFeed (common a b : Bytes) : Prop :=
  a = common ∧ common ++ [0x0a] <+: b

instance (common a b : Bytes) : Decidable (EndsAtFeed common a b) :=
  inferInstanceAs (Decidable (_ ∧ _))

theorem endsAtFeed_append_iff {common x y : Bytes} :
    EndsAtFeed common (common ++ x) (common ++ y) ↔ EndsAtFeed [] x y := by
  rw [EndsAtFeed, EndsAtFeed, List.append_right_eq_self, List.prefix_append_right_inj,
    List.nil_append]

theorem head?_numbers_of_endsAtFeed {x y : Bytes} (ends : EndsAtFeed [] x y) (number : Nat) :
    (numbers number x y).head? = some (number + 1) := by
  obtain ⟨rfl, rest, rfl⟩ := ends
  obtain ⟨line, more, later⟩ := List.exists_cons_of_ne_nil (lines_ne_nil rest)
  rw [numbers, List.nil_append, List.singleton_append, lines_cons_feed, later]
  rfl

/-- Payloads that begin differently have first lines that begin differently, unless one of them has
ended and the other goes on with a line feed. -/
theorem head?_filter_ne_of_parted {x y : Bytes} (parted : Parted x y)
    (goesOn : ¬(EndsAtFeed [] x y ∨ EndsAtFeed [] y x)) :
    x.head?.filter (· ≠ 0x0a) ≠ y.head?.filter (· ≠ 0x0a) := by
  intro same
  cases x with
  | nil =>
    cases y with
    | nil => exact parted rfl
    | cons b rest =>
      -- The other payload goes on with a feed, which is the case that was left out.
      have feed : b = 0x0a := by simpa [Option.filter] using same
      exact goesOn (.inl ⟨rfl, rest, by rw [feed]; rfl⟩)
  | cons a rest =>
    cases y with
    | nil =>
      have feed : a = 0x0a := by simpa [Option.filter] using same
      exact goesOn (.inr ⟨rfl, rest, by rw [feed]; rfl⟩)
    | cons b other =>
      have different : a ≠ b := by simpa [Parted] using parted
      by_cases feed_a : a = 0x0a
      · have feed_b : b = 0x0a := by simpa [Option.filter, feed_a] using same
        exact different (feed_a.trans feed_b.symm)
      · by_cases feed_b : b = 0x0a
        · exact feed_a (by simpa [Option.filter, feed_b] using same)
        · exact different (by simpa [Option.filter, feed_a, feed_b] using same)

theorem head?_numbers_of_parted {x y : Bytes} (parted : Parted x y) (number : Nat) :
    (numbers number x y).head? =
      some (number + if EndsAtFeed [] x y ∨ EndsAtFeed [] y x then 1 else 0) := by
  split_ifs with ends
  · obtain ends | ends := ends
    · exact head?_numbers_of_endsAtFeed ends number
    · rw [numbers_comm]
      exact head?_numbers_of_endsAtFeed ends number
  · obtain ⟨line, more, lines_x, first_x⟩ := head?_lines x
    obtain ⟨line', more', lines_y, first_y⟩ := head?_lines y
    have different : line ≠ line' := by
      -- Equal first lines would begin with the same byte or would both be empty.
      rintro rfl
      exact head?_filter_ne_of_parted parted ends (first_x.symm.trans first_y)
    rw [numbers, lines_x, lines_y, hunksFrom, if_neg different]
    rfl

/-! ## Where a diff points -/

theorem splitOn_render {reference subject : Bytes} (different : reference ≠ subject) :
    (render reference subject).toList.splitOn '\n' = rows reference subject ++ [[]] := by
  rw [toList_render_of_ne different, differing_eq_unrows, splitOn_unrows_rows]

/-- The diff of two payloads points at the place where they part. Its rows are those of its hunks
and the row with the offset, which is the length of the longest common start. There is one hunk for
every line that is not the same on both sides, and for no other, and their numbers increase. The
first number is that of the line in which the common start ends, or the next one when one payload
ends there and the other goes on with a line feed. -/
theorem render_points_at_parting {reference subject : Bytes} (different : reference ≠ subject) :
    ∃ common first more,
      LongestCommonPrefix common reference subject ∧
      firstDifference? reference subject = some common.length ∧
      (render reference subject).toList.splitOn '\n' =
        "--- reference".toList :: "+++ subject".toList ::
          ((first :: more).flatMap Hunk.rows ++ [offsetRow common.length, []]) ∧
      (first :: more).Pairwise (·.number < ·.number) ∧
      (∀ h, h ∈ first :: more ↔
        Differs 1 (reference.splitOn 0x0a) (subject.splitOn 0x0a) h) ∧
      first.number = 1 + common.count 0x0a +
        if EndsAtFeed common reference subject ∨ EndsAtFeed common subject reference then 1
        else 0 := by
  obtain ⟨first, more, shown⟩ :=
    List.exists_cons_of_ne_nil fun none => different (hunks_eq_nil_iff.1 none)
  have offset := firstDifference?_of_ne different
  have text := splitOn_render different
  have ordered := pairwise_hunksFrom 1 (lines reference) (lines subject)
  -- Only the number of the first hunk needs the payloads in parts.
  obtain ⟨common, x, y, rfl, rfl, parted, length⟩ := exists_parting different
  have number : (numbers 1 (common ++ x) (common ++ y)).head? = some first.number := by
    rw [numbers, ← hunks, shown]
    rfl
  rw [numbers_append, head?_numbers_of_parted parted, Option.some.injEq] at number
  refine ⟨common, first, more, longestCommonPrefix_of_parted parted common, ?_, ?_, ?_, ?_, ?_⟩
  · rw [offset, length]
  · rw [text, rows, shown, length]
    simp
  · rw [← hunks, shown] at ordered
    exact ordered
  · intro h
    rw [← shown, hunks, mem_hunksFrom_iff, lines_eq_splitOn, lines_eq_splitOn]
  · simp only [endsAtFeed_append_iff]
    exact number.symm

/-- The reference ends behind one byte, where the subject goes on with a line feed: the first lines
are the same, and the first hunk is about the second one. -/
theorem render_points_at_parting_behind_feed :
    ∃ first more,
      (render [0x61] [0x61, 0x0a, 0x62]).toList.splitOn '\n' =
        "--- reference".toList :: "+++ subject".toList ::
          ((first :: more).flatMap Hunk.rows ++ [offsetRow 1, []]) ∧
      first.number = 2 := by
  have different : ([0x61] : Bytes) ≠ [0x61, 0x0a, 0x62] := by decide
  obtain ⟨common, first, more, parting, offset, text, -, -, number⟩ :=
    render_points_at_parting different
  have length : 1 = common.length := Option.some.inj offset
  have whole : common = [0x61] := parting.left.eq_of_length length.symm
  subst whole
  exact ⟨first, more, text, number⟩

end FormatConformance.Diff
