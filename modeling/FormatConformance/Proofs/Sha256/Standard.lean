import FormatConformance.Proofs.Sha256.Pieces
import Mathlib.Analysis.SpecialFunctions.Pow.NthRootLemmas
import Mathlib.Data.Nat.Digits.Defs
import Mathlib.Data.Nat.Prime.Nth

/-!
# The hash as it is defined

The hash is defined on numbers: its constants are bits of the roots of prime numbers, its message
schedule is a recurrence over all rounds, the padding is the least one that fills the last block,
and the result is a number of 256 bits. `Standard` says this without a window, a hasher, a table or
a shift in place of a rotation.

Each part of the library is then that part of the definition: the tables hold the bits of the roots
(`roundConstants_eq`, `initial_eq`), the window of a round holds the sixteen words of the
schedule that come next (`foldl_round`), and a byte string of whole blocks is absorbed as the
definition goes through them (`absorb_blocks`). The digest is the hash, written in bytes
(`number_digest`).
-/

namespace FormatConformance.Sha256

namespace Standard

/-! ## The definition -/

/-- The number that bytes write, the most significant byte first. -/
def number (bytes : Bytes) : Nat :=
  Nat.ofDigits 256 (bytes.reverse.map UInt8.toNat)

/-- The last bytes of a number, the most significant one first. -/
def bigEndian (width n : Nat) : Bytes :=
  (List.range width).map fun i => UInt8.ofNat (n / 256 ^ (width - 1 - i))

/-- The first 32 bits behind the point in a root of the prime number at a place. -/
noncomputable def rootBits (degree place : Nat) : UInt32 :=
  UInt32.ofNat (Nat.nthRoot degree (Nat.nth Nat.Prime place * 2 ^ (32 * degree)))

/-- The chaining value before the first block is made of square roots. -/
noncomputable def initial : Chain :=
  ⟨rootBits 2 0, rootBits 2 1, rootBits 2 2, rootBits 2 3, rootBits 2 4, rootBits 2 5, rootBits 2 6,
    rootBits 2 7⟩

/-- A word with its bits moved to the right; those that fall out come in again on the left. -/
def rotr (n : Nat) (w : UInt32) : UInt32 :=
  ⟨w.toBitVec.rotateRight n⟩

def bigSigma0 (w : UInt32) : UInt32 :=
  rotr 2 w ^^^ rotr 13 w ^^^ rotr 22 w

def bigSigma1 (w : UInt32) : UInt32 :=
  rotr 6 w ^^^ rotr 11 w ^^^ rotr 25 w

def smallSigma0 (w : UInt32) : UInt32 :=
  rotr 7 w ^^^ rotr 18 w ^^^ w >>> 3

def smallSigma1 (w : UInt32) : UInt32 :=
  rotr 17 w ^^^ rotr 19 w ^^^ w >>> 10

/-- Each bit of the first word chooses a bit of one of the others. -/
def choose (x y z : UInt32) : UInt32 :=
  (x &&& y) ^^^ (~~~x &&& z)

/-- Each bit is the one that most of the words have. -/
def majority (x y z : UInt32) : UInt32 :=
  (x &&& y) ^^^ (x &&& z) ^^^ (y &&& z)

/-- The word of a block at a place. -/
def wordAt (block : Bytes) (t : Nat) : UInt32 :=
  UInt32.ofNat (number ((block.drop (4 * t)).take 4))

/-- The message schedule of a block: first its sixteen words, and then sums of the words before. -/
def schedule (block : Bytes) (t : Nat) : UInt32 :=
  if t < 16 then wordAt block t
  else smallSigma1 (schedule block (t - 2)) + schedule block (t - 7) +
    smallSigma0 (schedule block (t - 15)) + schedule block (t - 16)
termination_by t

/-- A round with its constant and its word of the schedule. -/
def step (constant word : UInt32) (s : Chain) : Chain :=
  let first := s.h + bigSigma1 s.e + choose s.e s.f s.g + constant + word
  let second := bigSigma0 s.a + majority s.a s.b s.c
  ⟨first + second, s.a, s.b, s.c, s.d + first, s.e, s.f, s.g⟩

/-- The working words of a block after some rounds. The constants of the rounds are made of cube
roots. -/
noncomputable def rounds (chain : Chain) (block : Bytes) : Nat → Chain
  | 0 => chain
  | t + 1 => step (rootBits 3 t) (schedule block t) (rounds chain block t)

/-- The chaining value after some blocks of a byte string. -/
noncomputable def chainAfter (bytes : Bytes) : Nat → Chain
  | 0 => initial
  | i + 1 =>
    let chain := chainAfter bytes i
    chain.add (rounds chain ((bytes.drop (64 * i)).take 64) 64)

theorem exists_zeros (length : Nat) : ∃ zeros, 64 ∣ length + 1 + zeros + 8 :=
  ⟨(119 - length % 64) % 64, by omega⟩

/-- A message, a set bit, as few zeros as fill the last block, and the length in bits, of which the
last 64 bits are written. -/
def padded (message : Bytes) : Bytes :=
  message ++ 0x80 :: (List.replicate (Nat.find (exists_zeros message.length)) 0 ++
    bigEndian 8 (8 * message.length))

/-- The hash of a message: the words of the last chaining value as one number. -/
noncomputable def hash (message : Bytes) : Nat :=
  let bytes := padded message
  Nat.ofDigits (2 ^ 32) ((chainAfter bytes (bytes.length / 64)).words.reverse.map UInt32.toNat)

end Standard

open Standard

/-! ## Constants -/

theorem filter_range_eq (p : Nat → Prop) [DecidablePred p] (n : Nat) :
    (List.range n).filter p = (List.range (Nat.count p n)).map (Nat.nth p) := by
  induction n with
  | zero => rfl
  | succ n ih =>
    rw [List.range_succ, List.filter_append, ih, Nat.count_succ]
    by_cases holds : p n
    · simp [holds, List.range_succ, Nat.nth_count holds]
    · simp [holds]

/-- A word holds the first bits behind the point in a root: behind the whole part that belongs to
it, the power is at most the number, and with the last bit one higher it is beyond. -/
def Approximates (degree n : Nat) (bits : UInt32) : Prop :=
  ∃ whole < 8, (whole * 2 ^ 32 + bits.toNat) ^ degree ≤ n * 2 ^ (32 * degree) ∧
    n * 2 ^ (32 * degree) < (whole * 2 ^ 32 + bits.toNat + 1) ^ degree

instance (degree n : Nat) (bits : UInt32) : Decidable (Approximates degree n bits) :=
  inferInstanceAs (Decidable (∃ whole < 8, _ ∧ _))

theorem Approximates.eq {degree n : Nat} {bits : UInt32} (h : Approximates degree n bits) :
    UInt32.ofNat (Nat.nthRoot degree (n * 2 ^ (32 * degree))) = bits := by
  obtain ⟨whole, -, low, high⟩ := h
  rw [Nat.nthRoot_eq_of_le_of_lt low high, ← UInt32.toNat_inj, UInt32.toNat_ofNat']
  have := bits.toNat_lt
  omega

/-- A table of roots of the first prime numbers. -/
theorem map_rootBits {degree bound : Nat} {primes : List Nat} {table : List UInt32}
    (first : (List.range bound).filter Nat.Prime = primes)
    (roots : List.Forall₂ (Approximates degree) primes table) :
    (List.range primes.length).map (rootBits degree) = table := by
  have places : Nat.count Nat.Prime bound = primes.length := by
    rw [← first, filter_range_eq, List.length_map, List.length_range]
  rw [← first, filter_range_eq, places, List.forall₂_map_left_iff] at roots
  have each := roots.imp fun _ _ approximates => approximates.eq
  rwa [← List.forall₂_map_left_iff, List.forall₂_eq_eq_eq] at each

/-- No number below the square of 18 needs a larger divisor to be found out. -/
theorem prime_iff_of_lt {n : Nat} (small : n < 18 ^ 2) :
    n.Prime ↔ 2 ≤ n ∧ ∀ d < 18, 2 ≤ d → d ∣ n → d = n := by
  constructor
  · intro prime
    refine ⟨prime.two_le, fun d _ two divides => ?_⟩
    exact (prime.eq_one_or_self_of_dvd d divides).resolve_left (by omega)
  · rintro ⟨two, alone⟩
    by_contra composite
    -- The least factor of a composite number is at most its root, so it is one of those tried.
    have square : n.minFac ^ 2 < 18 ^ 2 :=
      (Nat.minFac_sq_le_self (by omega) composite).trans_lt small
    have self : n.minFac = n :=
      alone n.minFac (lt_of_pow_lt_pow_left₀ 2 (by decide) square)
        (Nat.minFac_prime (by omega)).two_le n.minFac_dvd
    exact composite (Nat.prime_def_minFac.2 ⟨two, self⟩)

/-- The prime numbers below a bound of at most the square of 18, by trial. -/
theorem filter_prime {bound : Nat} (small : bound ≤ 18 ^ 2) :
    (List.range bound).filter Nat.Prime =
      (List.range bound).filter fun n => 2 ≤ n ∧ ∀ d < 18, 2 ≤ d → d ∣ n → d = n := by
  refine List.filter_congr fun n mem => ?_
  have below : n < 18 ^ 2 := (List.mem_range.1 mem).trans_le small
  simp only [prime_iff_of_lt below]

/-- The prime numbers that the constants of the rounds are made of. -/
def primes : List Nat :=
  [2, 3, 5, 7, 11, 13, 17, 19, 23, 29, 31, 37, 41, 43, 47, 53, 59, 61, 67, 71, 73, 79, 83, 89, 97,
    101, 103, 107, 109, 113, 127, 131, 137, 139, 149, 151, 157, 163, 167, 173, 179, 181, 191, 193,
    197, 199, 211, 223, 227, 229, 233, 239, 241, 251, 257, 263, 269, 271, 277, 281, 283, 293, 307,
    311]

theorem roundConstants_eq : roundConstants = (List.range 64).map (rootBits 3) := by
  have first : (List.range 312).filter Nat.Prime = primes :=
    (filter_prime (by decide)).trans (by decide +kernel)
  have roots : List.Forall₂ (Approximates 3) primes roundConstants := by decide +kernel
  exact (map_rootBits first roots).symm

theorem Chain.words_injective : Function.Injective Chain.words := by
  rintro ⟨⟩ ⟨⟩ same
  simpa only [words, List.cons.injEq, and_true, Chain.mk.injEq] using same

theorem initial_eq : Chain.initial = initial := by
  have first : (List.range 20).filter Nat.Prime = primes.take 8 :=
    (filter_prime (by decide)).trans (by decide +kernel)
  have roots : List.Forall₂ (Approximates 2) (primes.take 8) Chain.initial.words := by
    decide +kernel
  exact Chain.words_injective (map_rootBits first roots).symm

/-! ## Words -/

theorem rotate_eq {w n : UInt32} (positive : 0 < n.toNat) (small : n.toNat < 32) :
    rotate w n = rotr n.toNat w := by
  have left : (32 - n).toNat = 32 - n.toNat := by
    refine UInt32.toNat_sub_of_le _ _ (UInt32.le_iff_toNat_le.2 ?_)
    exact small.le
  have width : BitVec.toNat (32 : BitVec 32) = 32 := rfl
  apply UInt32.toBitVec_inj.1
  rw [rotr, BitVec.rotateRight_def, rotate, UInt32.toBitVec_or, UInt32.toBitVec_shiftRight,
    UInt32.toBitVec_shiftLeft, BitVec.ushiftRight_eq', BitVec.shiftLeft_eq']
  simp only [BitVec.toNat_umod, UInt32.toNat_toBitVec, left, width]
  rw [Nat.mod_eq_of_lt small, Nat.mod_eq_of_lt (show 32 - n.toNat < 32 by omega)]

theorem number_append (front back : Bytes) :
    number (front ++ back) = number front * 256 ^ back.length + number back := by
  rw [number, List.reverse_append, List.map_append, Nat.ofDigits_append, List.length_map,
    List.length_reverse, Nat.add_comm, Nat.mul_comm]
  rfl

theorem number_nil : number [] = 0 :=
  rfl

theorem number_singleton (b : UInt8) : number [b] = b.toNat :=
  Nat.ofDigits_singleton

theorem number_cons (b : UInt8) (rest : Bytes) :
    number (b :: rest) = b.toNat * 256 ^ rest.length + number rest := by
  rw [← List.singleton_append, number_append, number_singleton]

/-- Bits that are pushed to the left of a smaller number are added to it. -/
theorem toNat_or_shiftLeft {high low : UInt32} {n : UInt32} (small : n.toNat < 32)
    (fits : high.toNat * 2 ^ n.toNat < 2 ^ 32) (below : low.toNat < 2 ^ n.toNat) :
    (high <<< n ||| low).toNat = high.toNat * 2 ^ n.toNat + low.toNat := by
  rw [UInt32.toNat_or, UInt32.toNat_shiftLeft, Nat.mod_eq_of_lt small, Nat.shiftLeft_eq,
    Nat.mod_eq_of_lt fits, Nat.mul_comm, Nat.two_pow_add_eq_or_of_lt below]

theorem wordOf_eq (p q r s : UInt8) : wordOf p q r s = UInt32.ofNat (number [p, q, r, s]) := by
  have hp := p.toNat_lt
  have hq := q.toNat_lt
  have hr := r.toNat_lt
  have hs := s.toNat_lt
  -- The bytes are put together from the right, each above those that are there.
  have low : (r.toUInt32 <<< 8 ||| s.toUInt32).toNat = r.toNat * 256 + s.toNat :=
    toNat_or_shiftLeft (n := 8) (by decide) (by simp; omega) (by simpa using hs)
  have middle : (q.toUInt32 <<< 16 ||| (r.toUInt32 <<< 8 ||| s.toUInt32)).toNat =
      q.toNat * 65536 + (r.toNat * 256 + s.toNat) := by
    rw [toNat_or_shiftLeft (by decide) (by simp; omega) (by simp [low]; omega), low]
    rfl
  have whole : (wordOf p q r s).toNat =
      p.toNat * 16777216 + (q.toNat * 65536 + (r.toNat * 256 + s.toNat)) := by
    rw [wordOf, UInt32.or_assoc, UInt32.or_assoc, toNat_or_shiftLeft (by decide) (by simp; omega)
      (by simp [middle]; omega), middle]
    rfl
  apply UInt32.toNat_inj.1
  rw [whole, UInt32.toNat_ofNat']
  simp only [number_cons, number_nil, List.length_cons, List.length_nil, Nat.reduceAdd,
    Nat.reducePow]
  omega

theorem wordsOf_eq (block : Bytes) :
    wordsOf block = (List.range (block.length / 4)).map (wordAt block) := by
  fun_induction wordsOf block with
  | case1 p q r s rest ih =>
    have quarter : (p :: q :: r :: s :: rest).length / 4 = rest.length / 4 + 1 := by
      simp only [List.length_cons]
      omega
    have first : wordAt (p :: q :: r :: s :: rest) 0 = wordOf p q r s := (wordOf_eq p q r s).symm
    rw [quarter, List.range_succ_eq_map, List.map_cons, List.map_map, first, ih]
    rfl
  -- Less than four bytes make no word.
  | case2 bytes few =>
    have short : bytes.length < 4 := by
      match bytes, few with
      | [], _ | [_], _ | [_, _], _ | [_, _, _], _ => simp
      | p :: q :: r :: s :: rest, few => exact absurd rfl (few p q r s rest)
    rw [Nat.div_eq_of_lt short, List.range_zero, List.map_nil]

/-! ## Rounds

The program keeps the last sixteen words of the schedule in a window and moves it on with every
round. The definition has a schedule of all words, and the window is a part of it. -/

theorem bigSigma0_eq (w : UInt32) : rotate w 2 ^^^ rotate w 13 ^^^ rotate w 22 = bigSigma0 w := by
  rw [rotate_eq (by decide) (by decide), rotate_eq (by decide) (by decide),
    rotate_eq (by decide) (by decide)]
  rfl

theorem bigSigma1_eq (w : UInt32) : rotate w 6 ^^^ rotate w 11 ^^^ rotate w 25 = bigSigma1 w := by
  rw [rotate_eq (by decide) (by decide), rotate_eq (by decide) (by decide),
    rotate_eq (by decide) (by decide)]
  rfl

theorem smallSigma0_eq (w : UInt32) : rotate w 7 ^^^ rotate w 18 ^^^ w >>> 3 = smallSigma0 w := by
  rw [rotate_eq (by decide) (by decide), rotate_eq (by decide) (by decide)]
  rfl

theorem smallSigma1_eq (w : UInt32) : rotate w 17 ^^^ rotate w 19 ^^^ w >>> 10 = smallSigma1 w := by
  rw [rotate_eq (by decide) (by decide), rotate_eq (by decide) (by decide)]
  rfl

/-- The sixteen words of the schedule from a round on. -/
def window (block : Bytes) (t : Nat) : List UInt32 :=
  (List.range 16).map fun i => schedule block (t + i)

theorem getD_window {i : Nat} (small : i < 16) (block : Bytes) (t : Nat) :
    (window block t).getD i 0 = schedule block (t + i) := by
  simp [window, List.getD, small]

theorem nextWord_window (block : Bytes) (t : Nat) :
    nextWord (window block t) = schedule block (t + 16) := by
  rw [schedule, if_neg (by omega), ← smallSigma0_eq, ← smallSigma1_eq]
  simp only [nextWord, getD_window, Nat.reduceLT, Nat.reduceSubDiff, Nat.add_zero,
    Nat.add_sub_cancel]

theorem window_succ (block : Bytes) (t : Nat) :
    (window block t).drop 1 ++ [schedule block (t + 16)] = window block (t + 1) := by
  have later : (window block t).drop 1 =
      (List.range 15).map fun i => schedule block (t + 1 + i) := by
    rw [window, List.range_succ_eq_map, List.map_cons, List.drop_one, List.tail_cons, List.map_map]
    exact List.map_congr_left fun i _ => congrArg (schedule block) (by omega)
  rw [later, window, List.range_succ (n := 15), List.map_append]
  rfl

/-- The words of a block are those that the schedule starts with. -/
theorem window_zero {block : Bytes} (whole : block.length = 64) :
    window block 0 = wordsOf block := by
  rw [wordsOf_eq, whole]
  refine List.map_congr_left fun t mem => ?_
  rw [Nat.zero_add, schedule, if_pos (List.mem_range.1 mem)]

/-- The step: a round takes the first word of the window and brings in the one that follows. -/
theorem round_window (chain : Chain) (block : Bytes) (constant : UInt32) (t : Nat) :
    round (chain, window block t) constant =
      (step constant (schedule block t) chain, window block (t + 1)) := by
  simp only [round, nextWord_window, window_succ, getD_window, bigSigma0_eq, bigSigma1_eq,
    Nat.reduceLT, Nat.add_zero]
  rfl

/-- The run: after some rounds the window has moved by as many words. -/
theorem foldl_round (chain : Chain) (block : Bytes) (n : Nat) :
    ((List.range n).map (rootBits 3)).foldl round (chain, window block 0) =
      (rounds chain block n, window block n) := by
  induction n with
  | zero => rfl
  | succ n ih =>
    rw [List.range_succ, List.map_append, List.foldl_append, ih]
    exact round_window (rounds chain block n) block (rootBits 3 n) n

theorem compress_eq {block : Bytes} (whole : block.length = 64) (chain : Chain) :
    compress chain block = chain.add (rounds chain block 64) := by
  rw [compress, ← window_zero whole, roundConstants_eq, foldl_round]

/-! ## Blocks -/

/-- Only the blocks that were taken count. -/
theorem chainAfter_append {front : Bytes} {n : Nat} (whole : 64 * n ≤ front.length) (back : Bytes) :
    chainAfter (front ++ back) n = chainAfter front n := by
  induction n with
  | zero => rfl
  | succ n ih =>
    have block : ((front ++ back).drop (64 * n)).take 64 = (front.drop (64 * n)).take 64 := by
      rw [List.drop_append_of_le_length (by omega), List.take_append_of_le_length]
      rw [List.length_drop]
      omega
    rw [chainAfter, chainAfter, ih (by omega), block]

/-- A byte string of whole blocks is absorbed block by block. -/
theorem absorb_blocks {n : Nat} (bytes : Bytes) (whole : bytes.length = 64 * n) :
    (absorb Chain.initial bytes).1 = chainAfter bytes n := by
  induction n generalizing bytes with
  | zero => rw [absorb_of_lt (by omega), initial_eq, chainAfter]
  | succ n ih =>
    obtain ⟨front, block, rfl, front_length⟩ :
        ∃ front block, front ++ block = bytes ∧ front.length = 64 * n :=
      ⟨_, _, List.take_append_drop (64 * n) bytes, List.length_take_of_le (by omega)⟩
    have block_length : block.length = 64 := by
      rw [List.length_append] at whole
      omega
    -- The blocks before leave nothing pending, so the last one is absorbed by itself.
    have nothing : (absorb Chain.initial front).2 = [] := by
      rw [List.eq_nil_iff_length_eq_zero, length_absorb, front_length, Nat.mul_mod_right]
    rw [absorb_append, nothing, ih front front_length, List.nil_append, chainAfter,
      chainAfter_append front_length.ge, List.drop_left' front_length,
      List.take_of_length_le block_length.le, ← compress_eq block_length]
    rw [← List.append_nil block, absorb_block block_length, absorb_of_lt (by decide),
      List.append_nil]

/-! ## Padding

The number of zeros behind a message is the least that fills up the last block. The program computes
it, and the definition asks for it. -/

theorem bytesOfLength_eq (n : Nat) : bytesOfLength n = bigEndian 8 n := by
  simp [bytesOfLength, bigEndian, List.range_succ, Nat.shiftRight_eq_div_pow]

theorem find_zeros (length : Nat) : Nat.find (exists_zeros length) = (119 - length % 64) % 64 := by
  refine (Nat.find_eq_iff _).2 ⟨by omega, fun fewer less => ?_⟩
  omega

theorem append_padding (message : Bytes) : message ++ padding message.length = padded message := by
  rw [padding, bytesOfLength_eq, padded, find_zeros]

/-- The padding fills the last block. -/
theorem length_padded (message : Bytes) :
    (padded message).length = 64 * ((padded message).length / 64) := by
  have filled := Nat.find_spec (exists_zeros message.length)
  have length : (padded message).length =
      message.length + 1 + Nat.find (exists_zeros message.length) + 8 := by
    simp only [padded, bigEndian, List.length_append, List.length_cons, List.length_replicate,
      List.length_map, List.length_range]
    omega
  rw [← length] at filled
  exact (Nat.mul_div_cancel' filled).symm

/-! ## Digest -/

theorem number_bytesOfWord (w : UInt32) : number (bytesOfWord w) = w.toNat := by
  have := w.toNat_lt
  simp only [bytesOfWord, number_cons, number_nil, List.length_cons, List.length_nil,
    Nat.reduceAdd, Nat.reducePow]
  simp
  omega

theorem length_flatMap_bytesOfWord (words : List UInt32) :
    (words.flatMap bytesOfWord).length = 4 * words.length := by
  induction words with
  | nil => rfl
  | cons w words ih =>
    rw [List.flatMap_cons, List.length_append, ih, List.length_cons, Nat.mul_succ, Nat.add_comm]
    rfl

theorem number_flatMap (words : List UInt32) :
    number (words.flatMap bytesOfWord) =
      Nat.ofDigits (2 ^ 32) (words.reverse.map UInt32.toNat) := by
  induction words with
  | nil => rfl
  | cons w words ih =>
    rw [List.flatMap_cons, number_append, ih, number_bytesOfWord, length_flatMap_bytesOfWord,
      List.reverse_cons, List.map_append, Nat.ofDigits_append, List.length_map, List.length_reverse,
      pow_mul, Nat.add_comm, Nat.mul_comm]
    rfl

theorem length_digest (message : Bytes) : (digest message).length = 32 :=
  rfl

/-- The digest is the hash. -/
theorem number_digest (message : Bytes) : number (digest message) = Standard.hash message := by
  rw [digest, append_padding, absorb_blocks _ (length_padded message), Chain.bytes, number_flatMap]
  rfl

end FormatConformance.Sha256
