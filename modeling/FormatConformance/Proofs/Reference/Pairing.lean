import FormatConformance.Proofs.Diff
import FormatConformance.Scripted.Worker

/-!
# Pairing requests with lines

The worker answers on a pipe in which lines may wait, so a line that is skipped or read twice would
pair every later case with the answer to another one. What the worker does over a session is told by
its reactions (`Session.reactions`), up to the one with which it ends, and the lines of all that it
wrote are cut by `Diff.lines`, which knows nothing of sessions. The step lemma is
`Session.exchange_of_feed`: an exchange takes the first line. The run lemma is
`Session.exchanges_of_alive`: as long as every reaction brings a line feed, the exchanges take the
lines in order and leave the rest in the pipe. `Session.exchanges_paired` adds the session that
starts with nothing in the pipe, replies of one line each, and the calls after the end.
-/

namespace FormatConformance.Reference.Session

variable {π : Type}

/-! ## One exchange -/

/-- A line with its end. -/
def terminated (line : Bytes) : Bytes :=
  line ++ [0x0a]

theorem firstLine_append_feed {line : Bytes} (whole : 0x0a ∉ line) (rest : Bytes) :
    firstLine (line ++ 0x0a :: rest) = (terminated line, rest) := by
  induction line with
  | nil => simp [firstLine, terminated]
  | cons b line ih =>
    rw [List.mem_cons, not_or] at whole
    rw [List.cons_append, firstLine, if_neg (Ne.symm whole.1), ih whole.2]
    rfl

theorem exchange_of_ended {w : Worker π} {s : Session π} (ended : s.ended = true) (c : Case) :
    (exchange w c).run s = (.error (.pipe .brokenPipe), s) := by
  show (if s.ended then _ else _) = _
  rw [if_pos ended]

theorem exchange_run {w : Worker π} {s : Session π} {c : Case} {reaction : Reaction} {next : π}
    (alive : s.ended = false) (reacts : w.react (Request.ofCase c) s.worker = (reaction, next)) :
    (exchange w c).run s =
      (decode (firstLine (s.unread ++ reaction.bytes)).1,
        ⟨next, (firstLine (s.unread ++ reaction.bytes)).2, reaction.ends⟩) := by
  have asked : s.afterRequest w (Request.ofCase c) =
      ⟨next, s.unread ++ reaction.bytes, reaction.ends⟩ := by
    rw [afterRequest, reacts]
  show (if s.ended then _ else _) = _
  rw [alive, asked]
  rfl

/-- An exchange with a worker that is alive takes the first line of what is in the pipe once the
worker has reacted. -/
theorem exchange_of_feed {w : Worker π} {s : Session π} {c : Case} {reaction : Reaction} {next : π}
    (alive : s.ended = false) (reacts : w.react (Request.ofCase c) s.worker = (reaction, next))
    {line rest : Bytes} (whole : 0x0a ∉ line)
    (pipe : s.unread ++ reaction.bytes = line ++ 0x0a :: rest) :
    (exchange w c).run s = (decode (terminated line), ⟨next, rest, reaction.ends⟩) := by
  rw [exchange_run alive reacts, pipe, firstLine_append_feed whole]

/-! ## A run of exchanges -/

/-- The answers to cases that are asked one after the other. -/
def exchanges (w : Worker π) (cases : List Case) :
    StateM (Session π) (List (Except ReferenceFault Answer)) :=
  cases.mapM (exchange w)

/-- The reactions of a worker to the requests for cases, up to the one with which it ends. -/
def reactions (w : Worker π) : π → List Case → List Reaction
  | _, [] => []
  | worker, c :: later =>
    let (reaction, next) := w.react (Request.ofCase c) worker
    reaction :: if reaction.ends then [] else reactions w next later

/-- All that a worker writes on the requests for cases, up to its end. -/
def written (w : Worker π) (worker : π) (cases : List Case) : Bytes :=
  (reactions w worker cases).flatMap Reaction.bytes

/-- The answers to a number of calls after the end. -/
def refusals (number : Nat) : List (Except ReferenceFault Answer) :=
  List.replicate number (.error (.pipe .brokenPipe))

theorem exchanges_nil (w : Worker π) (s : Session π) : (exchanges w []).run s = ([], s) := rfl

theorem exchanges_cons {w : Worker π} {c : Case} {later : List Case} {s t u : Session π}
    {answer : Except ReferenceFault Answer} {answers : List (Except ReferenceFault Answer)}
    (first : (exchange w c).run s = (answer, t)) (rest : (exchanges w later).run t = (answers, u)) :
    (exchanges w (c :: later)).run s = (answer :: answers, u) := by
  rw [exchanges, List.mapM_cons, StateT.run_bind, first]
  show ((exchanges w later >>= fun answers => pure (answer :: answers)).run t) = _
  rw [StateT.run_bind, rest]
  rfl

theorem reactions_cons {w : Worker π} {worker next : π} {c : Case} {reaction : Reaction}
    (reacts : w.react (Request.ofCase c) worker = (reaction, next)) (later : List Case) :
    reactions w worker (c :: later) =
      reaction :: if reaction.ends then [] else reactions w next later := by
  rw [reactions, reacts]

/-- Once the worker has ended, every call is refused. -/
theorem exchanges_of_ended {w : Worker π} {s : Session π} (ended : s.ended = true)
    (cases : List Case) : (exchanges w cases).run s = (refusals cases.length, s) := by
  induction cases with
  | nil => exact exchanges_nil w s
  | cons c later ih => exact exchanges_cons (exchange_of_ended ended c) ih

/-- As long as every reaction brings a line feed, the exchanges take the lines in order, one each,
and leave the rest in the pipe. -/
theorem exchanges_of_alive {w : Worker π} {cases : List Case} {s : Session π}
    (alive : s.ended = false) (complete : ∀ r ∈ reactions w s.worker cases, 0x0a ∈ r.bytes) :
    ∃ lines t,
      (exchanges w cases).run s = (lines.map (fun line => decode (terminated line))
        ++ refusals (cases.length - (reactions w s.worker cases).length), t) ∧
      lines.length = (reactions w s.worker cases).length ∧
      lines <+: Diff.lines (s.unread ++ written w s.worker cases) ∧
      s.unread ++ written w s.worker cases = lines.flatMap terminated ++ t.unread := by
  induction cases generalizing s with
  | nil => exact ⟨[], s, rfl, rfl, List.nil_prefix, List.append_nil _⟩
  | cons c later ih =>
    obtain ⟨reaction, next, reacts⟩ :
        ∃ reaction next, w.react (Request.ofCase c) s.worker = (reaction, next) := ⟨_, _, rfl⟩
    rw [reactions_cons reacts] at complete
    rw [written, reactions_cons reacts]
    -- The reaction has a feed, so a line can be taken off, be it of this reaction or of an earlier
    -- one.
    have feed : 0x0a ∈ s.unread ++ reaction.bytes :=
      List.mem_append_right _ (complete reaction List.mem_cons_self)
    obtain ⟨line, rest, pipe, whole⟩ := List.eq_append_cons_of_mem feed
    have first := exchange_of_feed alive reacts whole pipe
    have all (more : Bytes) :
        s.unread ++ (reaction.bytes ++ more) = line ++ 0x0a :: (rest ++ more) := by
      rw [← List.append_assoc, pipe, List.append_assoc, List.cons_append]
    simp only [List.flatMap_cons, List.length_cons, Nat.add_sub_add_right, all,
      Diff.lines_append_feed whole]
    cases ends : reaction.ends with
    | true =>
      -- Behind the end of the worker every case is refused, and nothing is read any more.
      have refused := exchanges_of_ended (w := w) (s := ⟨next, rest, reaction.ends⟩) ends later
      refine ⟨[line], _, exchanges_cons first refused, rfl, ?_, ?_⟩
      · exact (List.cons_prefix_cons).2 ⟨rfl, List.nil_prefix⟩
      · simp [terminated]
    | false =>
      rw [ends] at complete
      obtain ⟨lines, t, answered, counted, cut, accounted⟩ :=
        ih (s := ⟨next, rest, reaction.ends⟩) ends
          fun r mem => complete r (List.mem_cons_of_mem _ mem)
      refine ⟨line :: lines, t, exchanges_cons first answered, ?_, ?_, ?_⟩
      · rw [List.length_cons, counted]
        rfl
      · exact (List.cons_prefix_cons).2 ⟨rfl, cut⟩
      · -- The bytes behind the line are those that the next exchanges find unread.
        have left : rest ++ (reactions w next later).flatMap Reaction.bytes = _ := accounted
        show line ++ 0x0a :: (rest ++ (reactions w next later).flatMap Reaction.bytes) = _
        rw [left, List.flatMap_cons, terminated, List.append_assoc, List.append_assoc]
        rfl

/-- Whatever the worker writes, a call behind the reaction with which it ends is refused. -/
theorem exchanges_behind_end (w : Worker π) (cases : List Case) {s : Session π}
    (alive : s.ended = false) :
    ((exchanges w cases).run s).1.drop (reactions w s.worker cases).length =
      refusals (cases.length - (reactions w s.worker cases).length) := by
  induction cases generalizing s with
  | nil => rfl
  | cons c later ih =>
    obtain ⟨reaction, next, reacts⟩ :
        ∃ reaction next, w.react (Request.ofCase c) s.worker = (reaction, next) := ⟨_, _, rfl⟩
    have first := exchange_run alive reacts
    rw [reactions_cons reacts]
    cases ends : reaction.ends with
    | true =>
      rw [ends] at first
      rw [exchanges_cons first (exchanges_of_ended rfl later)]
      rfl
    | false =>
      rw [ends] at first
      -- The session goes on with whatever was left unread.
      have refused := ih (s := ⟨next, (firstLine (s.unread ++ reaction.bytes)).2, false⟩) rfl
      rcases rest : (exchanges w later).run
        ⟨next, (firstLine (s.unread ++ reaction.bytes)).2, false⟩ with ⟨answers, t⟩
      rw [rest] at refused
      rw [exchanges_cons first rest]
      simpa using refused

/-! ## Replies of one line -/

theorem lines_flatMap_terminated {lines : List Bytes} (whole : ∀ line ∈ lines, 0x0a ∉ line)
    (rest : Bytes) : Diff.lines (lines.flatMap terminated ++ rest) = lines ++ Diff.lines rest := by
  induction lines with
  | nil => rfl
  | cons line lines ih =>
    rw [List.flatMap_cons, terminated, List.append_assoc, List.append_assoc, List.singleton_append,
      Diff.lines_append_feed (whole line List.mem_cons_self),
      ih fun l mem => whole l (List.mem_cons_of_mem _ mem)]
    rfl

/-- When every reaction is one line, the lines of all that was written are the reactions. -/
theorem map_decode_of_single {replies : List Reaction} {lines : List Bytes}
    (single : ∀ r ∈ replies, ∃ line, 0x0a ∉ line ∧ r.bytes = terminated line)
    (counted : lines.length = replies.length)
    (first : lines <+: Diff.lines (replies.flatMap Reaction.bytes)) :
    lines.map (fun line => decode (terminated line)) = replies.map fun r => decode r.bytes := by
  have body (r : Reaction) (mem : r ∈ replies) :
      0x0a ∉ r.bytes.dropLast ∧ terminated r.bytes.dropLast = r.bytes := by
    obtain ⟨line, whole, bytes⟩ := single r mem
    rw [bytes, terminated, List.dropLast_concat]
    exact ⟨whole, rfl⟩
  have all : replies.flatMap Reaction.bytes =
      (replies.map fun r => r.bytes.dropLast).flatMap terminated ++ [] := by
    rw [List.append_nil, List.flatMap_map]
    exact List.flatMap_congr fun r mem => (body r mem).2.symm
  -- As many lines as there are replies, and each reply is one line.
  have same : lines = replies.map fun r => r.bytes.dropLast := by
    rw [all, lines_flatMap_terminated (by simpa using fun r mem => (body r mem).1)] at first
    have bodies : replies.map (fun r => r.bytes.dropLast) <+:
        replies.map (fun r => r.bytes.dropLast) ++ Diff.lines [] := List.prefix_append _ _
    exact (List.prefix_of_prefix_length_le first bodies (by simp [counted])).eq_of_length
      (by simp [counted])
  rw [same, List.map_map]
  exact List.map_congr_left fun r mem => congrArg decode (body r mem).2

/-! ## Whole sessions -/

/-- What comes of a session with a fresh worker. As long as the worker lives and every reaction has
a line feed, the answers are those in the first lines that it wrote, one line for each call in
order, whatever was in the earlier ones, and what is left in the pipe are the bytes behind these
lines. When every reaction is one line, each answer is that in its own reaction. Once the worker has
ended there are only faults. -/
theorem exchanges_paired (w : Worker π) (worker : π) (cases : List Case) :
    ∃ answers session, (exchanges w cases).run (start worker) = (answers, session) ∧
      ((∀ r ∈ reactions w worker cases, 0x0a ∈ r.bytes) →
        ∃ lines : List Bytes, lines.length = (reactions w worker cases).length ∧
          lines <+: Diff.lines (written w worker cases) ∧
          written w worker cases = lines.flatMap terminated ++ session.unread ∧
          answers = lines.map (fun line => decode (terminated line))
            ++ refusals (cases.length - (reactions w worker cases).length)) ∧
      ((∀ r ∈ reactions w worker cases, ∃ line, 0x0a ∉ line ∧ r.bytes = terminated line) →
        answers = (reactions w worker cases).map (fun r => decode r.bytes)
          ++ refusals (cases.length - (reactions w worker cases).length)) ∧
      answers.drop (reactions w worker cases).length =
        refusals (cases.length - (reactions w worker cases).length) := by
  have paired (complete : ∀ r ∈ reactions w worker cases, 0x0a ∈ r.bytes) :=
    exchanges_of_alive (w := w) (s := start worker) rfl complete
  refine ⟨((exchanges w cases).run (start worker)).1,
    ((exchanges w cases).run (start worker)).2, rfl, fun complete => ?_, fun single => ?_,
    exchanges_behind_end w cases (s := start worker) rfl⟩
  · obtain ⟨lines, session, ran, counted, first, accounted⟩ := paired complete
    rw [ran]
    exact ⟨lines, counted, first, accounted, rfl⟩
  · -- A reply that is one line has a feed, so it is paired as any other.
    have complete (r : Reaction) (mem : r ∈ reactions w worker cases) : 0x0a ∈ r.bytes := by
      obtain ⟨line, -, bytes⟩ := single r mem
      simp [bytes, terminated]
    obtain ⟨lines, session, ran, counted, first, -⟩ := paired complete
    rw [ran, map_decode_of_single single counted first]
    rfl

/-- A worker that answers with two lines at once, then with a line that is no text, and then with a
line behind which it ends. -/
def untidy : Worker Nat :=
  Scripted.worker ⟨⟨.bytes (Scripted.lineBytes "no answer" ++ Scripted.lineBytes "late"), false⟩,
    [⟨.bytes [0xff, 0x0a], false⟩, ⟨.bytes (Scripted.lineBytes "last"), true⟩]⟩

/-- A number of requests for the empty template. -/
def emptyCases (number : Nat) : List Case :=
  List.replicate number (.ofTemplate "")

theorem exchanges_paired_untidy :
    (∀ r ∈ reactions untidy 0 (emptyCases 4), 0x0a ∈ r.bytes) ∧
    ∃ answers session, (exchanges untidy (emptyCases 4)).run (start 0) = (answers, session) ∧
      answers = [decode (Scripted.lineBytes "no answer"), decode (Scripted.lineBytes "late"),
        decode [0xff, 0x0a], .error (.pipe .brokenPipe)] := by
  have complete : ∀ r ∈ reactions untidy 0 (emptyCases 4), 0x0a ∈ r.bytes := by decide +kernel
  have alive : (reactions untidy 0 (emptyCases 4)).length = 3 := rfl
  obtain ⟨answers, session, ran, paired, -, -⟩ := exchanges_paired untidy 0 (emptyCases 4)
  obtain ⟨lines, counted, first, -, answered⟩ := paired complete
  -- The first reply has two lines, and the second one is taken for the answer to the next case.
  have cut : (Diff.lines (written untidy 0 (emptyCases 4))).take 3 =
      [Text.bytesOf "no answer", Text.bytesOf "late", [0xff]] := by decide +kernel
  have read : lines = [Text.bytesOf "no answer", Text.bytesOf "late", [0xff]] := by
    rw [List.prefix_iff_eq_take.1 first, counted, alive, cut]
  refine ⟨complete, answers, session, ran, ?_⟩
  rw [answered, alive, read]
  rfl

end FormatConformance.Reference.Session
