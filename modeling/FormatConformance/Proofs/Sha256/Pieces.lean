import FormatConformance.Sha256
import Mathlib.Data.List.Basic

/-!
# Hashing in pieces

A hasher is at any time where it would be if it had taken all of the message at once
(`update_after`): its chain has absorbed the whole blocks so far and the bytes behind them are
pending. Absorbing can stop anywhere for the same reason, as what is left over is absorbed again in
front of what comes next (`absorb_append`). So only the bytes count and not where they were cut, and
the padding falls where it would fall behind the message as a whole (`digestPieces_eq`).
-/

namespace FormatConformance.Sha256

/-! ## Whole blocks -/

theorem absorb_of_lt {bytes : Bytes} (short : bytes.length < 64) (chain : Chain) :
    absorb chain bytes = (chain, bytes) := by
  have none : bytes.drop 63 = [] := List.drop_eq_nil_of_le (Nat.le_of_lt_succ short)
  rw [absorb]
  split
  · rfl
  · next more => rw [none] at more; cases more

theorem absorb_block {block : Bytes} (whole : block.length = 64) (rest : Bytes) (chain : Chain) :
    absorb chain (block ++ rest) = absorb (compress chain block) rest := by
  rw [absorb]
  split
  · next none =>
    have few := List.drop_eq_nil_iff.1 none
    rw [List.length_append] at few
    omega
  · -- There are at least as many bytes as a block has, and the block is the front of them.
    next last behind more =>
    have behind_eq : behind = (block ++ rest).drop 64 := by
      rw [← List.drop_drop (i := 1) (j := 63), more, List.drop_one, List.tail_cons]
    rw [behind_eq, List.drop_left' whole, List.take_left' whole]

/-- A byte string is less than a block, or a block and a byte string behind it. -/
theorem blocks_induction {P : Bytes → Prop} (short : ∀ bytes, bytes.length < 64 → P bytes)
    (block : ∀ block rest, block.length = 64 → P rest → P (block ++ rest)) (bytes : Bytes) :
    P bytes := by
  induction length : bytes.length using Nat.strongRecOn generalizing bytes with
  | ind n ih =>
    by_cases few : bytes.length < 64
    · exact short bytes few
    · rw [← List.take_append_drop 64 bytes]
      refine block _ _ (List.length_take_of_le (by omega)) (ih (bytes.drop 64).length ?_ _ rfl)
      rw [List.length_drop]
      omega

theorem length_absorb (bytes : Bytes) (chain : Chain) :
    (absorb chain bytes).2.length = bytes.length % 64 := by
  induction bytes using blocks_induction generalizing chain with
  | short bytes few => rw [absorb_of_lt few, Nat.mod_eq_of_lt few]
  | block block rest whole ih =>
    rw [absorb_block whole, ih, List.length_append, whole, Nat.add_mod_left]

theorem absorb_append (front back : Bytes) (chain : Chain) :
    absorb chain (front ++ back) =
      absorb (absorb chain front).1 ((absorb chain front).2 ++ back) := by
  induction front using blocks_induction generalizing chain with
  | short front few => rw [absorb_of_lt few]
  | block block rest whole ih =>
    rw [List.append_assoc, absorb_block whole, absorb_block whole, ih]

/-! ## Pieces -/

namespace Hasher

/-- The hasher that has taken a message. -/
def after (message : Bytes) : Hasher :=
  ⟨(absorb Chain.initial message).1, (absorb Chain.initial message).2, message.length⟩

theorem after_nil : after [] = empty := by
  rw [after, absorb_of_lt (by decide)]
  rfl

/-- The step: a piece comes behind the message so far. -/
theorem update_after (message piece : Bytes) :
    (after message).update piece = after (message ++ piece) := by
  simp only [update, after]
  rw [absorb_append message piece, List.length_append]

/-- The run: the pieces come behind each other. -/
theorem foldl_update_after (pieces : List Bytes) (message : Bytes) :
    pieces.foldl update (after message) = after (message ++ pieces.flatten) := by
  induction pieces generalizing message with
  | nil => rw [List.foldl_nil, List.flatten_nil, List.append_nil]
  | cons piece pieces ih =>
    rw [List.foldl_cons, update_after, ih, List.flatten_cons, List.append_assoc]

theorem finish_after (message : Bytes) : (after message).finish = digest message := by
  simp only [finish, after]
  rw [digest, absorb_append message]

/-- A message has the same hash however it is cut. -/
theorem digestPieces_eq (pieces : List Bytes) : digestPieces pieces = digest pieces.flatten := by
  rw [digestPieces, ← after_nil, foldl_update_after, finish_after, List.nil_append]

end Hasher

end FormatConformance.Sha256
