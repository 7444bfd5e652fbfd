import FormatConformance.Proofs.Text.Utf8
import FormatConformance.Proofs.TokenFolding

/-!
# Which payloads folding takes for the same

Where the tokens of a payload are is said without a scan: a token is taken at a place where one is
spelled and that no token taken before reaches (`TokenAt`). Letters count in either case, so the
places depend on the payload in lower case only (`tokenAt_congr`). What folding does at every place
follows, outside the tokens (`getElem?_foldTokens_of_not_inToken`) and inside them
(`getElem?_foldTokens_of_tokenAt`), and `foldTokens_eq_iff` says from it which payloads are folded
to the same one.
-/

namespace FormatConformance.Payload

/-! ## Letters in lower case -/

/-- A payload with its ASCII letters in lower case. -/
def lowered (payload : Bytes) : Bytes :=
  payload.map UInt8.toAsciiLower

theorem toAsciiLower_eq_iff :
    ∀ b : UInt8, (b.toAsciiLower = 0x6e ↔ isLetter 'n' b = true) ∧
      (b.toAsciiLower = 0x61 ↔ isLetter 'a' b = true) :=
  Text.forall_byte (by decide +kernel)

theorem lowered_canonicalToken : lowered canonicalToken = [0x6e, 0x61, 0x6e] := by decide

/-- Three bytes are a token when they are the canonical one but for the case of their letters. -/
theorem lowered_eq_iff_isToken {a b c : UInt8} :
    lowered [a, b, c] = lowered canonicalToken ↔ isToken a b c = true := by
  rw [lowered_canonicalToken, isToken_iff, ← (toAsciiLower_eq_iff a).1, ← (toAsciiLower_eq_iff b).2,
    ← (toAsciiLower_eq_iff c).1]
  simp [lowered]

theorem lowered_append (x y : Bytes) : lowered (x ++ y) = lowered x ++ lowered y :=
  List.map_append

@[simp] theorem length_lowered (payload : Bytes) : (lowered payload).length = payload.length :=
  List.length_map _

/-- Folding changes nothing but the case of letters. -/
theorem lowered_foldTokens (payload : Bytes) : lowered (foldTokens payload) = lowered payload := by
  fun_induction foldTokens payload with
  | case1 a b c rest token ih =>
    show _ = lowered ([a, b, c] ++ rest)
    rw [lowered_append, lowered_append, ih, lowered_eq_iff_isToken.2 token]
  | case2 a b c rest token ih => exact congrArg (a.toAsciiLower :: ·) ih
  | case3 short => rfl

theorem length_foldTokens (payload : Bytes) : (foldTokens payload).length = payload.length := by
  rw [← length_lowered, lowered_foldTokens, length_lowered]

/-! ## Places of tokens -/

/-- A token is spelled from a place on, in any case. -/
def SpelledAt (payload : Bytes) (place : Nat) : Prop :=
  lowered canonicalToken <+: (lowered payload).drop place

/-- A token is taken at a place: one is spelled there and none taken before reaches the place. -/
def TokenAt (payload : Bytes) (place : Nat) : Prop :=
  SpelledAt payload place ∧ ∀ before, before < place → TokenAt payload before → before + 3 ≤ place
termination_by place

/-- A place lies inside a token that is taken. -/
def InToken (payload : Bytes) (place : Nat) : Prop :=
  ∃ start, TokenAt payload start ∧ start ≤ place ∧ place < start + 3

theorem tokenAt_iff {payload : Bytes} {place : Nat} :
    TokenAt payload place ↔ SpelledAt payload place ∧
      ∀ before < place, TokenAt payload before → before + 3 ≤ place := by
  rw [TokenAt]

/-- The places of tokens are the same in all cases of the letters. -/
theorem tokenAt_congr {a b : Bytes} (same : lowered a = lowered b) (place : Nat) :
    TokenAt a place ↔ TokenAt b place := by
  induction place using Nat.strong_induction_on with
  | h place ih =>
    -- Whether a token is taken depends on the places before it, which the induction has settled.
    have spelled : SpelledAt a place ↔ SpelledAt b place := by rw [SpelledAt, SpelledAt, same]
    rw [tokenAt_iff, tokenAt_iff, spelled]
    refine and_congr_right fun _ => forall₂_congr fun before earlier => ?_
    rw [ih before earlier]

theorem inToken_congr {a b : Bytes} (same : lowered a = lowered b) (place : Nat) :
    InToken a place ↔ InToken b place :=
  exists_congr fun start => and_congr_left fun _ => tokenAt_congr same start

/-! ### The first byte and the rest

Folding works from the front. These are the equations by which the places of tokens follow it, one
for a byte at which no token is spelled and one for a whole token. -/

theorem spelledAt_zero_iff {a b c : UInt8} {rest : Bytes} :
    SpelledAt (a :: b :: c :: rest) 0 ↔ isToken a b c = true := by
  have front : (lowered (a :: b :: c :: rest)).take 3 = lowered [a, b, c] := rfl
  rw [SpelledAt, List.drop_zero, List.prefix_iff_eq_take, length_lowered,
    show canonicalToken.length = 3 from rfl, front, eq_comm, lowered_eq_iff_isToken]

theorem length_of_spelledAt {payload : Bytes} {place : Nat} (spelled : SpelledAt payload place) :
    place + 3 ≤ payload.length := by
  have fits : (lowered canonicalToken).length ≤ _ := spelled.length_le
  rw [lowered_canonicalToken, List.length_drop, length_lowered] at fits
  simp only [List.length_cons, List.length_nil] at fits
  omega

theorem tokenAt_zero_iff {payload : Bytes} : TokenAt payload 0 ↔ SpelledAt payload 0 := by
  rw [tokenAt_iff]
  exact and_iff_left fun before earlier => absurd earlier (Nat.not_lt_zero before)

/-- In front of a byte at which no token is spelled nothing counts for the places behind it. -/
theorem tokenAt_succ_iff {x : UInt8} {rest : Bytes} (first : ¬SpelledAt (x :: rest) 0)
    (place : Nat) : TokenAt (x :: rest) (place + 1) ↔ TokenAt rest place := by
  induction place using Nat.strong_induction_on with
  | h place ih =>
    rw [tokenAt_iff, tokenAt_iff]
    -- What is spelled moves by one place, and so do the tokens before, of which none is at the
    -- front.
    refine and_congr Iff.rfl ⟨?_, ?_⟩
    · intro apart before earlier taken
      have reached := apart (before + 1) (by omega) ((ih before earlier).2 taken)
      omega
    · intro apart before earlier taken
      cases before with
      | zero => exact absurd (tokenAt_zero_iff.1 taken) first
      | succ before =>
        have reached := apart before (by omega) ((ih before (by omega)).1 taken)
        omega

theorem inToken_succ_iff {x : UInt8} {rest : Bytes} (first : ¬SpelledAt (x :: rest) 0)
    (place : Nat) : InToken (x :: rest) (place + 1) ↔ InToken rest place := by
  constructor
  · rintro ⟨start, taken, before, reaches⟩
    cases start with
    | zero => exact absurd (tokenAt_zero_iff.1 taken) first
    | succ start => exact ⟨start, (tokenAt_succ_iff first start).1 taken, by omega, by omega⟩
  · rintro ⟨start, taken, before, reaches⟩
    exact ⟨start + 1, (tokenAt_succ_iff first start).2 taken, by omega, by omega⟩

section Behind

variable {a b c : UInt8} {rest : Bytes} (token : isToken a b c = true)

include token

theorem tokenAt_of_isToken : TokenAt (a :: b :: c :: rest) 0 :=
  tokenAt_zero_iff.2 (spelledAt_zero_iff.2 token)

/-- No other token starts inside a token. -/
theorem eq_zero_of_tokenAt {place : Nat} (inside : place < 3)
    (taken : TokenAt (a :: b :: c :: rest) place) : place = 0 := by
  by_contra positive
  have reached := (tokenAt_iff.1 taken).2 0 (by omega) (tokenAt_of_isToken token)
  omega

/-- Behind a token the places start anew. -/
theorem tokenAt_behind_iff (place : Nat) :
    TokenAt (a :: b :: c :: rest) (place + 3) ↔ TokenAt rest place := by
  induction place using Nat.strong_induction_on with
  | h place ih =>
    rw [tokenAt_iff, tokenAt_iff]
    refine and_congr Iff.rfl ⟨?_, ?_⟩
    · intro apart before earlier taken
      have reached := apart (before + 3) (by omega) ((ih before earlier).2 taken)
      omega
    · intro apart before earlier taken
      -- A token before is either the one at the front or one of the rest.
      by_cases inside : before < 3
      · obtain rfl := eq_zero_of_tokenAt token inside taken
        omega
      · obtain ⟨behind, rfl⟩ := Nat.exists_eq_add_of_le' (not_lt.1 inside)
        have reached := apart behind (by omega) ((ih behind (by omega)).1 taken)
        omega

theorem inToken_behind_iff (place : Nat) :
    InToken (a :: b :: c :: rest) (place + 3) ↔ InToken rest place := by
  constructor
  · rintro ⟨start, taken, before, reaches⟩
    by_cases inside : start < 3
    · obtain rfl := eq_zero_of_tokenAt token inside taken
      omega
    · obtain ⟨behind, rfl⟩ := Nat.exists_eq_add_of_le' (not_lt.1 inside)
      exact ⟨behind, (tokenAt_behind_iff token behind).1 taken, by omega, by omega⟩
  · rintro ⟨start, taken, before, reaches⟩
    exact ⟨start + 3, (tokenAt_behind_iff token start).2 taken, by omega, by omega⟩

end Behind

/-! ## What folding does at a place -/

/-- Outside the tokens folding changes nothing. -/
theorem getElem?_foldTokens_of_not_inToken {payload : Bytes} {place : Nat}
    (outside : ¬InToken payload place) : (foldTokens payload)[place]? = payload[place]? := by
  fun_induction foldTokens payload generalizing place with
  | case1 a b c rest token ih =>
    -- Folding goes on behind a token or behind one byte, and so do the places of the tokens.
    by_cases inside : place < 3
    · exact absurd ⟨0, tokenAt_of_isToken token, Nat.zero_le _, by omega⟩ outside
    · obtain ⟨behind, rfl⟩ := Nat.exists_eq_add_of_le' (not_lt.1 inside)
      exact ih fun taken => outside ((inToken_behind_iff token behind).2 taken)
  | case2 a b c rest token ih =>
    have first : ¬SpelledAt (a :: b :: c :: rest) 0 := fun spelled =>
      token (spelledAt_zero_iff.1 spelled)
    cases place with
    | zero => rfl
    | succ place => exact ih fun taken => outside ((inToken_succ_iff first place).2 taken)
  | case3 short => rfl

/-- Inside a token folding gives the canonical spelling. -/
theorem getElem?_foldTokens_of_tokenAt {payload : Bytes} {start : Nat}
    (taken : TokenAt payload start) {k : Nat} (inside : k < 3) :
    (foldTokens payload)[start + k]? = canonicalToken[k]? := by
  fun_induction foldTokens payload generalizing start with
  | case1 a b c rest token ih =>
    -- The token at the front is the one that is asked for, or it is among those of the rest.
    by_cases first : start < 3
    · obtain rfl := eq_zero_of_tokenAt token first taken
      rw [Nat.zero_add]
      exact List.getElem?_append_left inside
    · obtain ⟨behind, rfl⟩ := Nat.exists_eq_add_of_le' (not_lt.1 first)
      have same := ih ((tokenAt_behind_iff token behind).1 taken)
      rwa [Nat.add_right_comm]
  | case2 a b c rest token ih =>
    have first : ¬SpelledAt (a :: b :: c :: rest) 0 := fun spelled =>
      token (spelledAt_zero_iff.1 spelled)
    cases start with
    | zero => exact absurd (tokenAt_zero_iff.1 taken) first
    | succ start =>
      have same := ih ((tokenAt_succ_iff first start).1 taken)
      rwa [Nat.add_right_comm]
  | case3 short none_left =>
    -- Nothing that is too short for a token has a place for one.
    have fits := length_of_spelledAt (tokenAt_iff.1 taken).1
    match short with
    | [] => simp at fits
    | [_] => simp at fits
    | [_, _] => simp at fits
    | a :: b :: c :: rest => exact absurd rfl (none_left a b c rest)

/-! ## Payloads folded to the same one -/

/-- The second payload is the first with some letters inside its tokens in the other case. -/
structure RespelledInTokens (a b : Bytes) : Prop where
  length_eq : a.length = b.length
  lowered_eq : lowered a = lowered b
  inToken_of_ne : ∀ place, a[place]? ≠ b[place]? → InToken a place

theorem respelledInTokens_of_foldTokens_eq {a b : Bytes} (same : foldTokens a = foldTokens b) :
    RespelledInTokens a b := by
  have letters : lowered a = lowered b := by
    rw [← lowered_foldTokens a, same, lowered_foldTokens]
  refine ⟨?_, letters, fun place differ => ?_⟩
  · rw [← length_foldTokens a, same, length_foldTokens]
  · by_contra outside
    have elsewhere : ¬InToken b place := by rwa [← inToken_congr letters]
    apply differ
    calc a[place]? = (foldTokens a)[place]? := (getElem?_foldTokens_of_not_inToken outside).symm
      _ = (foldTokens b)[place]? := by rw [same]
      _ = b[place]? := getElem?_foldTokens_of_not_inToken elsewhere

theorem foldTokens_eq_of_respelledInTokens {a b : Bytes} (respelled : RespelledInTokens a b) :
    foldTokens a = foldTokens b := by
  refine List.ext_getElem? fun place => ?_
  -- Place by place: inside a token both are canonical, and elsewhere nothing is changed.
  by_cases inside : InToken a place
  · obtain ⟨start, taken, before, reaches⟩ := inside
    have taken_too : TokenAt b start := (tokenAt_congr respelled.lowered_eq start).1 taken
    obtain ⟨k, rfl⟩ := Nat.exists_eq_add_of_le before
    rw [getElem?_foldTokens_of_tokenAt taken (by omega),
      getElem?_foldTokens_of_tokenAt taken_too (by omega)]
  · have elsewhere : ¬InToken b place := fun taken =>
      inside ((inToken_congr respelled.lowered_eq place).2 taken)
    rw [getElem?_foldTokens_of_not_inToken inside, getElem?_foldTokens_of_not_inToken elsewhere]
    by_contra differ
    exact inside (respelled.inToken_of_ne place differ)

theorem foldTokens_eq_iff {a b : Bytes} : foldTokens a = foldTokens b ↔ RespelledInTokens a b :=
  ⟨respelledInTokens_of_foldTokens_eq, foldTokens_eq_of_respelledInTokens⟩

theorem foldTokens_idempotent (payload : Bytes) :
    foldTokens (foldTokens payload) = foldTokens payload := by
  refine foldTokens_eq_iff.2 ⟨length_foldTokens payload, lowered_foldTokens payload, ?_⟩
  intro place differ
  by_contra outside
  rw [inToken_congr (lowered_foldTokens payload)] at outside
  exact differ (getElem?_foldTokens_of_not_inToken outside)

/-- How much two payloads may differ and still count as equal. Folding identifies a payload with
those that spell its tokens in another case and with no other; it keeps the length, does nothing a
second time and nothing outside the tokens. Only where the value is not a number are payloads
folded; for every other case equal means the same bytes. -/
theorem foldTokens_identifies_respelled (a b : Bytes) :
    (foldTokens a = foldTokens b ↔ RespelledInTokens a b) ∧
    (foldTokens a).length = a.length ∧
    foldTokens (foldTokens a) = foldTokens a ∧
    (∀ place, ¬InToken a place → (foldTokens a)[place]? = a[place]?) ∧
    ∀ c : Case,
      (c.argument.isNan = true → (equivalent c a b = true ↔ RespelledInTokens a b)) ∧
      (c.argument.isNan = false → (equivalent c a b = true ↔ a = b)) := by
  refine ⟨foldTokens_eq_iff, length_foldTokens a, foldTokens_idempotent a,
    fun place => getElem?_foldTokens_of_not_inToken, fun c => ⟨?_, ?_⟩⟩
  · intro notNumber
    rw [equivalent, decide_eq_true_iff, normalized, normalized, if_pos notNumber, if_pos notNumber,
      foldTokens_eq_iff]
  · intro number
    simp [equivalent, normalized, number]

/-- Of two tokens that overlap the first is taken, and a letter of the other one counts. -/
theorem foldTokens_identifies_respelled_overlapping :
    RespelledInTokens (Text.bytesOf "NaNaN") (Text.bytesOf "nAnaN") ∧
    ¬RespelledInTokens (Text.bytesOf "NaNaN") (Text.bytesOf "NaNan") ∧
    equivalent ⟨"", "", "", .single 0x7fc00000⟩ (Text.bytesOf "NaNaN") (Text.bytesOf "nAnaN") =
      true ∧
    equivalent (Case.ofTemplate "") (Text.bytesOf "NaNaN") (Text.bytesOf "nAnaN") = false := by
  obtain ⟨same_iff, -, -, -, cases⟩ :=
    foldTokens_identifies_respelled (Text.bytesOf "NaNaN") (Text.bytesOf "nAnaN")
  have other_iff :=
    (foldTokens_identifies_respelled (Text.bytesOf "NaNaN") (Text.bytesOf "NaNan")).1
  have respelled : RespelledInTokens (Text.bytesOf "NaNaN") (Text.bytesOf "nAnaN") :=
    same_iff.1 (by decide +kernel)
  refine ⟨respelled, ?_, ?_, ?_⟩
  · rw [← other_iff]
    decide +kernel
  · exact ((cases ⟨"", "", "", .single 0x7fc00000⟩).1 (by decide +kernel)).2 respelled
  · rw [← Bool.not_eq_true, (cases (Case.ofTemplate "")).2 rfl]
    decide +kernel

end FormatConformance.Payload
