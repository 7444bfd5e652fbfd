import FormatConformance.Proofs.BridgeAgreement

/-!
# Folding the spelling of what is not a number

Before payloads of a case without a number are compared, every token is put into its canonical
spelling. Tokens are found from left to right without overlap, so whether the token of the rendered
value is found depends on what stands before it: a text that leaves the first two letters of a token
open (`endsOpen`) takes the first letter of the value for itself, and the other two then stand as
they are (`foldTokens_of_open`). Behind any other text the token is found (`foldTokens_of_closed`).
`equivalent_respelled_iff` says on which side of this line two spellings of one value count as the
same payload, and `mismatch_of_respelling` is a case beyond it.
-/

namespace FormatConformance.Payload

/-! ## Letters and tokens -/

theorem isLetter_iff {lower : Char} {b : UInt8} :
    isLetter lower b = true ↔ b.toNat = lower.toNat ∨ b.toNat + 32 = lower.toNat := by
  simp [isLetter]

theorem isToken_iff {a b c : UInt8} :
    isToken a b c = true ↔
      isLetter 'n' a = true ∧ isLetter 'a' b = true ∧ isLetter 'n' c = true := by
  simp [isToken, and_assoc]

/-- No byte is both letters of a token. -/
theorem not_isLetter_and_isLetter (b : UInt8) :
    ¬(isLetter 'n' b = true ∧ isLetter 'a' b = true) := by
  rw [isLetter_iff, isLetter_iff]
  show ¬((b.toNat = 110 ∨ b.toNat + 32 = 110) ∧ (b.toNat = 97 ∨ b.toNat + 32 = 97))
  omega

theorem foldTokens_token {a b c : UInt8} (h : isToken a b c = true) (rest : Bytes) :
    foldTokens (a :: b :: c :: rest) = canonicalToken ++ foldTokens rest := by
  rw [foldTokens, if_pos h]

theorem foldTokens_cons {a b c : UInt8} (h : isToken a b c = false) (rest : Bytes) :
    foldTokens (a :: b :: c :: rest) = a :: foldTokens (b :: c :: rest) := by
  rw [foldTokens, h]
  rfl

/-- Only the first letter of a token can start one. -/
theorem foldTokens_cons_of_not_isLetter {a : UInt8} (h : isLetter 'n' a = false) (rest : Bytes) :
    foldTokens (a :: rest) = a :: foldTokens rest := by
  match rest with
  | [] => rfl
  | [_] => rfl
  | b :: c :: rest => exact foldTokens_cons (by simp [isToken, h]) rest

/-! ## What a text leaves open -/

/-- Whether a text ends in two letters of a token behind the last token that is found in it. -/
def endsOpen : Bytes → Bool
  | a :: b :: c :: rest => if isToken a b c then endsOpen rest else endsOpen (b :: c :: rest)
  | [a, b] => isLetter 'n' a && isLetter 'a' b
  | _ => false

/-- Whether a text starts with the last two letters of a token. -/
def continuesToken : Bytes → Bool
  | b :: c :: _ => isLetter 'a' b && isLetter 'n' c
  | _ => false

/-- Behind a text that leaves nothing open, a token is found. -/
theorem foldTokens_of_closed {p : Bytes} (closed : endsOpen p = false) {x y z : UInt8}
    (token : isToken x y z = true) (rest : Bytes) :
    foldTokens (p ++ x :: y :: z :: rest) =
      foldTokens p ++ (canonicalToken ++ foldTokens rest) := by
  have first : isLetter 'a' x = false :=
    Bool.eq_false_iff.2 fun second => not_isLetter_and_isLetter x ⟨(isToken_iff.1 token).1, second⟩
  -- The induction follows the scan for tokens through `p`. It matters at its end alone, where one
  -- or two bytes of `p` could still become a token with the first bytes of the one behind `p`.
  fun_induction endsOpen p with
  | case1 a b c p found ih =>
    show foldTokens (a :: b :: c :: (p ++ x :: y :: z :: rest)) = foldTokens (a :: b :: c :: p) ++ _
    rw [foldTokens_token found, foldTokens_token found, ih closed, List.append_assoc]
  | case2 a b c p found ih =>
    have found : isToken a b c = false := by simpa using found
    show foldTokens (a :: b :: c :: (p ++ x :: y :: z :: rest)) = foldTokens (a :: b :: c :: p) ++ _
    rw [foldTokens_cons found, foldTokens_cons found, List.cons_append]
    exact congrArg (a :: ·) (ih closed)
  | case3 a b =>
    -- Not with both of the last bytes, as they are not open, and not with one, as `x` is no `a`.
    have before : isToken a b x = false := by simp [isToken, closed]
    have after : isToken b x y = false := by simp [isToken, first]
    show foldTokens (a :: b :: x :: y :: z :: rest) = [a, b] ++ _
    rw [foldTokens_cons before, foldTokens_cons after, foldTokens_token token]
    rfl
  | case4 p short none_open =>
    match p with
    | [] => exact foldTokens_token token rest
    | [a] =>
      have before : isToken a x y = false := by simp [isToken, first]
      show foldTokens (a :: x :: y :: z :: rest) = [a] ++ _
      rw [foldTokens_cons before, foldTokens_token token]
      rfl
    | [a, b] => exact absurd rfl (none_open a b)
    | a :: b :: c :: p => exact absurd rfl (short a b c p)

/-- What a text leaves open takes the next letter, however it is spelled. -/
theorem foldTokens_of_open {p : Bytes} (opened : endsOpen p = true) {x : UInt8}
    (letter : isLetter 'n' x = true) (rest : Bytes) :
    foldTokens (p ++ x :: rest) = foldTokens (p ++ [0x4e]) ++ foldTokens rest := by
  fun_induction endsOpen p with
  | case1 a b c p found ih =>
    show foldTokens (a :: b :: c :: (p ++ x :: rest)) =
      foldTokens (a :: b :: c :: (p ++ [0x4e])) ++ _
    rw [foldTokens_token found, foldTokens_token found, ih opened, List.append_assoc]
  | case2 a b c p found ih =>
    have found : isToken a b c = false := by simpa using found
    show foldTokens (a :: b :: c :: (p ++ x :: rest)) =
      foldTokens (a :: b :: c :: (p ++ [0x4e])) ++ _
    rw [foldTokens_cons found, foldTokens_cons found, List.cons_append]
    exact congrArg (a :: ·) (ih opened)
  | case3 a b =>
    -- The open letters and the first letter of the value are the token that is found.
    have letters : isLetter 'n' a = true ∧ isLetter 'a' b = true := by simpa using opened
    have here : isToken a b x = true := isToken_iff.2 ⟨letters.1, letters.2, letter⟩
    have canonical : isToken a b 0x4e = true := isToken_iff.2 ⟨letters.1, letters.2, rfl⟩
    show foldTokens (a :: b :: x :: rest) = foldTokens [a, b, 0x4e] ++ _
    rw [foldTokens_token here, foldTokens_token canonical]
    rfl
  | case4 p short none_open => cases opened

/-- Of two spellings of a letter that may start a token nothing is left when it does start one. -/
theorem foldTokens_cons_eq_iff {z z' : UInt8} (letter : isLetter 'n' z = true)
    (letter' : isLetter 'n' z' = true) (rest : Bytes) :
    foldTokens (z :: rest) = foldTokens (z' :: rest) ↔ z = z' ∨ continuesToken rest = true := by
  match rest with
  | [] => simp [foldTokens, continuesToken]
  | [b] => simp [foldTokens, continuesToken]
  | b :: c :: rest =>
    cases continues : continuesToken (b :: c :: rest) with
    | true =>
      have letters : isLetter 'a' b = true ∧ isLetter 'n' c = true := by
        simpa [continuesToken] using continues
      rw [foldTokens_token (isToken_iff.2 ⟨letter, letters⟩),
        foldTokens_token (isToken_iff.2 ⟨letter', letters⟩)]
      simp
    | false =>
      have none_here (a : UInt8) : isToken a b c = false := by
        rw [continuesToken] at continues
        rw [isToken, Bool.and_assoc, continues, Bool.and_false]
      rw [foldTokens_cons (none_here z), foldTokens_cons (none_here z')]
      simp

theorem foldTokens_respelled_iff {x y z x' y' z' : UInt8} (token : isToken x y z = true)
    (token' : isToken x' y' z' = true) (p s : Bytes) :
    foldTokens (p ++ [x, y, z] ++ s) = foldTokens (p ++ [x', y', z'] ++ s) ↔
      (endsOpen p = true → y = y' ∧ (z = z' ∨ continuesToken s = true)) := by
  simp only [List.append_assoc, List.cons_append, List.nil_append]
  cases opened : endsOpen p with
  | false => simp [foldTokens_of_closed opened token, foldTokens_of_closed opened token']
  -- The open token takes `x`; then `y` can start nothing, and `z` may start the next token.
  | true =>
    obtain ⟨first, second, third⟩ := isToken_iff.1 token
    obtain ⟨first', second', third'⟩ := isToken_iff.1 token'
    have middle {b : UInt8} (h : isLetter 'a' b = true) : isLetter 'n' b = false :=
      Bool.eq_false_iff.2 fun first => not_isLetter_and_isLetter b ⟨first, h⟩
    rw [foldTokens_of_open opened first, foldTokens_of_open opened first',
      foldTokens_cons_of_not_isLetter (middle second),
      foldTokens_cons_of_not_isLetter (middle second'), List.append_cancel_left_eq,
      List.cons.injEq, foldTokens_cons_eq_iff third third']
    simp

/-! ## Two spellings of one value -/

/-- Between two texts two spellings of a token are not told apart. Their first letters never are.
Behind an open token the second ones are, and the third ones unless the text behind goes on as a
token. -/
def HidesSpelling (p s : Bytes) (y z y' z' : UInt8) : Prop :=
  endsOpen p = true → y = y' ∧ (z = z' ∨ continuesToken s = true)

theorem find?_eq_none_of_success {answer : Reference.Answer} {payload : Bytes}
    (rendered : answer.outcome = .success payload) : CarveOut.find? answer = none := by
  simp [CarveOut.find?, CarveOut.all, CarveOut.covers, rendered]

/-- When both sides render a payload, the payloads decide. -/
theorem adjudicate_of_payloads {σ : Type} {sides : Sides σ} {c : Case} {s t u : σ}
    {answer : Reference.Answer} {expected actual : Bytes}
    (asked : (sides.format c).run s = (.ok answer, t))
    (rendered : answer.outcome = .success expected)
    (invoked : (sides.invoke c).run t = (.ok (.success actual), u)) :
    ∃ o, (adjudicate sides c).run s = (.ok o, u) ∧
      (o.verdict = .agree ↔ equivalent c expected actual = true) := by
  have askSubject_run : (sides.askSubject c).run t = (.ok (.success actual), u) := by
    show (((sides.invoke c).run t).1.mapError Fault.marshal, ((sides.invoke c).run t).2) = _
    rw [invoked]
    rfl
  -- A payload is never carved out, and it does not matter here what the payloads are.
  refine ⟨⟨answer, .success actual, .of c answer.outcome (.success actual)
    (payloadMismatch? c expected (.success actual))⟩, ?_,
    of_eq_agree_iff.trans payloadMismatch?_eq_none_iff⟩
  rw [adjudicate_run asked (find?_eq_none_of_success rendered)]
  simp only [rendered]
  exact Check.run_bind_of_ok askSubject_run

/-- Two payloads that differ only in how they spell what is not a number count as equal, and a
subject that renders the one agrees with a reference that renders the other, exactly where the texts
around it hide the spelling: behind every text that leaves no token open. -/
theorem equivalent_respelled_iff {c : Case} (notNumber : c.argument.isNan = true)
    {x y z x' y' z' : UInt8} (token : isToken x y z = true) (token' : isToken x' y' z' = true)
    (p s : Bytes) :
    (equivalent c (p ++ [x, y, z] ++ s) (p ++ [x', y', z'] ++ s) = true ↔
      HidesSpelling p s y z y' z') ∧
    ∀ {σ : Type} (sides : Sides σ) {before between after : σ} {answer : Reference.Answer},
      (sides.format c).run before = (.ok answer, between) →
      answer.outcome = .success (p ++ [x, y, z] ++ s) →
      (sides.invoke c).run between = (.ok (.success (p ++ [x', y', z'] ++ s)), after) →
      ∃ o, (adjudicate sides c).run before = (.ok o, after) ∧
        (o.verdict = .agree ↔ HidesSpelling p s y z y' z') := by
  have same : equivalent c (p ++ [x, y, z] ++ s) (p ++ [x', y', z'] ++ s) = true ↔
      HidesSpelling p s y z y' z' := by
    rw [equivalent, decide_eq_true_iff, normalized, normalized, if_pos notNumber, if_pos notNumber]
    exact foldTokens_respelled_iff token token' p s
  refine ⟨same, fun sides _ _ _ _ asked rendered invoked => ?_⟩
  obtain ⟨o, ran, agree_iff⟩ := adjudicate_of_payloads asked rendered invoked
  exact ⟨o, ran, agree_iff.trans same⟩

/-- A case with an open token in the template before its value. -/
def openCase (after : String) : Case :=
  ⟨"na", "1.1f", after, .double 0x7ff8000000000000⟩

/-- Sides that render every case to the same two payloads. -/
def rendering (reference subject : Bytes) : Sides Unit where
  format _ := pure (.ok (.success reference))
  invoke _ := pure (.ok (.success subject))
  probe _ := pure (.ok false)

theorem equivalent_respelled_iff_continued :
    endsOpen (Text.bytesOf "na") = true ∧ continuesToken (Text.bytesOf "an") = true ∧
    ∃ o, (adjudicate (rendering (Text.bytesOf "na" ++ [0x6e, 0x61, 0x6e] ++ Text.bytesOf "an")
        (Text.bytesOf "na" ++ [0x6e, 0x61, 0x4e] ++ Text.bytesOf "an")) (openCase "an")).run () =
      (.ok o, ()) ∧ o.verdict = .agree := by
  have opened : endsOpen (Text.bytesOf "na") = true := by decide +kernel
  have continues : continuesToken (Text.bytesOf "an") = true := by decide +kernel
  have notNumber : (openCase "an").argument.isNan = true := by decide +kernel
  have token : isToken 0x6e 0x61 0x6e = true := rfl
  have token' : isToken 0x6e 0x61 0x4e = true := rfl
  obtain ⟨o, ran, agree_iff⟩ :=
    (equivalent_respelled_iff notNumber token token' (Text.bytesOf "na") (Text.bytesOf "an")).2
      (rendering _ _) rfl rfl rfl
  exact ⟨opened, continues, o, ran, agree_iff.2 fun _ => ⟨rfl, .inr continues⟩⟩

/-- Behind an open token the spelling of the value shows: the payloads are reported as different
although they differ in nothing else. -/
theorem mismatch_of_respelling :
    (openCase "").argument.isNan = true ∧
    isToken 0x6e 0x61 0x6e = true ∧ isToken 0x4e 0x61 0x4e = true ∧
    equivalent (openCase "") (Text.bytesOf "na" ++ [0x6e, 0x61, 0x6e] ++ [])
      (Text.bytesOf "na" ++ [0x4e, 0x61, 0x4e] ++ []) = false ∧
    ∃ o, (adjudicate (rendering (Text.bytesOf "nanan") (Text.bytesOf "naNaN"))
        (openCase "")).run () = (.ok o, ()) ∧
      o.verdict = .mismatch ⟨.payloadDiffers, openCase "", .success (Text.bytesOf "nanan"),
        .success (Text.bytesOf "naNaN")⟩ := by
  refine ⟨by decide +kernel, rfl, rfl, by decide +kernel, _, rfl, ?_⟩
  decide +kernel

end FormatConformance.Payload
