import FormatConformance.Proofs.Text.Utf8

/-!
# Text read back from its bytes

The first byte of a character says how many bytes follow, and between which bounds each of them
lies. `Fits` says that bytes lie between such bounds; then they are all read, and they add six bits
each to the code point (`follow_of_fits`). The bounds differ from one first byte to the next only
for the byte that follows at once, where they keep out longer forms than needed, surrogates, and
code points beyond the last one. A character never comes near them (`piece_utf8EncodeChar`), so the
pieces of the bytes of a text are its characters (`pieces_utf8`) and a lossy reading loses nothing.
-/

namespace FormatConformance.Text

namespace Utf8

/-! ## Bytes that follow -/

/-- Bytes between the bounds for them, one after the other. -/
def Fits (bounds : List (Nat × Nat)) (bytes : Bytes) : Prop :=
  List.Forall₂ (fun bound b => bound.1 ≤ b.toNat ∧ b.toNat ≤ bound.2) bounds bytes

/-- The code point with the bits of the bytes behind it. -/
def gathered (code : Nat) (bytes : Bytes) : Nat :=
  bytes.foldl (fun code b => code * 64 + (b.toNat - 0x80)) code

theorem follow_of_fits {bounds : List (Nat × Nat)} {bytes : Bytes} (fits : Fits bounds bytes)
    (code : Nat) (rest : Bytes) :
    follow code bounds (bytes ++ rest) = (some (gathered code bytes), rest) := by
  induction fits generalizing code with
  | nil => rfl
  | cons within _ ih => rw [List.cons_append, follow, if_pos within, ih, gathered, gathered,
      List.foldl_cons]

/-- An opening with the bytes that it announces is a piece. -/
theorem piece_of_fits {b : UInt8} {bits n : Nat} {bounds : List (Nat × Nat)} {bytes : Bytes}
    (opens : opening b.toNat = some ⟨bits, bounds⟩) (fits : Fits bounds bytes)
    (value : gathered bits bytes = n) (rest : Bytes) :
    piece b (bytes ++ rest) = (some (Char.ofNat n), rest) := by
  rw [piece, opens]
  simp only [follow_of_fits fits, value, Option.map_some]

/-! ## Openings

The table of openings has four bytes with bounds of their own. The lemmas on openings of three and
four bytes give the bound as a condition, so that no later proof meets these bytes. -/

theorem opening_of_ascii {b : Nat} (small : b < 0x80) : opening b = some ⟨b, []⟩ :=
  if_pos small

theorem opening_of_two {b : Nat} (low : 0xc2 ≤ b) (high : b ≤ 0xdf) :
    opening b = some ⟨b - 0xc0, [(0x80, 0xbf)]⟩ := by
  have beyond : ¬b < 0x80 := by omega
  rw [opening, if_neg beyond, if_pos ⟨low, high⟩]

/-- Behind the first of the openings of three bytes there are no forms that two bytes would do for,
and behind one of them no surrogates. -/
theorem opening_of_three {b : Nat} (low : 0xe0 ≤ b) (high : b ≤ 0xef) :
    ∃ bound, opening b = some ⟨b - 0xe0, [bound, (0x80, 0xbf)]⟩ ∧
      ∀ n, 0x80 ≤ n → n ≤ 0xbf → (b = 0xe0 → 0xa0 ≤ n) → (b = 0xed → n ≤ 0x9f) →
        bound.1 ≤ n ∧ n ≤ bound.2 := by
  -- Two of the openings have narrower bounds for the byte that follows at once, all others the
  -- same.
  rcases eq_or_ne b 0xe0 with rfl | long
  · exact ⟨(0xa0, 0xbf), rfl, fun n _ most least _ => ⟨least rfl, most⟩⟩
  rcases eq_or_ne b 0xed with rfl | surrogate
  · exact ⟨(0x80, 0x9f), rfl, fun n least _ _ most => ⟨least, most rfl⟩⟩
  refine ⟨(0x80, 0xbf), ?_, fun n least most _ _ => ⟨least, most⟩⟩
  have beyond : ¬b < 0x80 ∧ ¬(0xc2 ≤ b ∧ b ≤ 0xdf) ∧ 0xe1 ≤ b := by omega
  rw [opening, if_neg beyond.1, if_neg beyond.2.1, if_neg long, if_neg surrogate,
    if_pos ⟨beyond.2.2, high⟩]

/-- Behind the first of the openings of four bytes there are no forms that three bytes would do for,
and behind the last one nothing beyond the last code point. -/
theorem opening_of_four {b : Nat} (low : 0xf0 ≤ b) (high : b ≤ 0xf4) :
    ∃ bound, opening b = some ⟨b - 0xf0, [bound, (0x80, 0xbf), (0x80, 0xbf)]⟩ ∧
      ∀ n, 0x80 ≤ n → n ≤ 0xbf → (b = 0xf0 → 0x90 ≤ n) → (b = 0xf4 → n ≤ 0x8f) →
        bound.1 ≤ n ∧ n ≤ bound.2 := by
  rcases eq_or_ne b 0xf0 with rfl | long
  · exact ⟨(0x90, 0xbf), rfl, fun n _ most least _ => ⟨least rfl, most⟩⟩
  rcases eq_or_ne b 0xf4 with rfl | last
  · exact ⟨(0x80, 0x8f), rfl, fun n least _ _ most => ⟨least, most rfl⟩⟩
  refine ⟨(0x80, 0xbf), ?_, fun n least most _ _ => ⟨least, most⟩⟩
  have beyond : ¬b < 0x80 ∧ ¬(0xc2 ≤ b ∧ b ≤ 0xdf) ∧ ¬b = 0xe0 ∧ ¬b = 0xed ∧
      ¬(0xe1 ≤ b ∧ b ≤ 0xef) ∧ 0xf1 ≤ b ∧ b ≤ 0xf3 := by omega
  rw [opening, if_neg beyond.1, if_neg beyond.2.1, if_neg beyond.2.2.1, if_neg beyond.2.2.2.1,
    if_neg beyond.2.2.2.2.1, if_neg long, if_pos beyond.2.2.2.2.2]

/-! ## Characters -/

/-- The six bits of a code point that stand in a byte behind the first one. -/
theorem toNat_following (n : Nat) : (UInt8.ofNat (n % 0x40 + 0x80)).toNat = n % 0x40 + 0x80 := by
  rw [UInt8.toNat_ofNat']
  omega

theorem within_following (n : Nat) :
    0x80 ≤ (UInt8.ofNat (n % 0x40 + 0x80)).toNat ∧
      (UInt8.ofNat (n % 0x40 + 0x80)).toNat ≤ 0xbf := by
  rw [toNat_following]
  omega

section

variable {n : Nat}

theorem piece_of_one (high : n ≤ 0x7f) (rest : Bytes) :
    piece (UInt8.ofNat n) rest = (some (Char.ofNat n), rest) := by
  have first : (UInt8.ofNat n).toNat = n := by
    rw [UInt8.toNat_ofNat']
    omega
  refine piece_of_fits (opening_of_ascii ?_) .nil first rest
  omega

theorem piece_of_two (low : 0x7f < n) (high : n ≤ 0x7ff) (rest : Bytes) :
    piece (UInt8.ofNat (n / 64 % 0x20 + 0xc0)) (UInt8.ofNat (n % 0x40 + 0x80) :: rest) =
      (some (Char.ofNat n), rest) := by
  have first : (UInt8.ofNat (n / 64 % 0x20 + 0xc0)).toNat = n / 64 + 0xc0 := by
    rw [UInt8.toNat_ofNat']
    omega
  have opens := opening_of_two (b := n / 64 + 0xc0) (by omega) (by omega)
  rw [← first] at opens
  refine piece_of_fits opens (.cons (within_following n) .nil) ?_ rest
  simp only [gathered, List.foldl_cons, List.foldl_nil, first, toNat_following]
  omega

theorem piece_of_three (low : 0x7ff < n) (high : n ≤ 0xffff) (scalar : n < 0xd800 ∨ 0xdfff < n)
    (rest : Bytes) :
    piece (UInt8.ofNat (n / 4096 % 0x10 + 0xe0))
        (UInt8.ofNat (n / 64 % 0x40 + 0x80) :: UInt8.ofNat (n % 0x40 + 0x80) :: rest) =
      (some (Char.ofNat n), rest) := by
  have first : (UInt8.ofNat (n / 4096 % 0x10 + 0xe0)).toNat = n / 4096 + 0xe0 := by
    rw [UInt8.toNat_ofNat']
    omega
  obtain ⟨bound, opens, within⟩ :=
    opening_of_three (b := n / 4096 + 0xe0) (by omega) (by omega)
  rw [← first] at opens
  -- The long forms start below `0x800`, and the surrogates at `0xd800`.
  have second : bound.1 ≤ (UInt8.ofNat (n / 64 % 0x40 + 0x80)).toNat ∧
      (UInt8.ofNat (n / 64 % 0x40 + 0x80)).toNat ≤ bound.2 := by
    rw [toNat_following]
    exact within _ (by omega) (by omega) (by omega) (by omega)
  refine piece_of_fits opens (.cons second (.cons (within_following n) .nil)) ?_ rest
  simp only [gathered, List.foldl_cons, List.foldl_nil, first, toNat_following]
  omega

theorem piece_of_four (low : 0xffff < n) (high : n < 0x110000) (rest : Bytes) :
    piece (UInt8.ofNat (n / 262144 % 0x08 + 0xf0))
        (UInt8.ofNat (n / 4096 % 0x40 + 0x80) :: UInt8.ofNat (n / 64 % 0x40 + 0x80) ::
          UInt8.ofNat (n % 0x40 + 0x80) :: rest) =
      (some (Char.ofNat n), rest) := by
  have first : (UInt8.ofNat (n / 262144 % 0x08 + 0xf0)).toNat = n / 262144 + 0xf0 := by
    rw [UInt8.toNat_ofNat']
    omega
  obtain ⟨bound, opens, within⟩ :=
    opening_of_four (b := n / 262144 + 0xf0) (by omega) (by omega)
  rw [← first] at opens
  -- The long forms start below `0x10000`, and behind `0x10ffff` there is nothing.
  have second : bound.1 ≤ (UInt8.ofNat (n / 4096 % 0x40 + 0x80)).toNat ∧
      (UInt8.ofNat (n / 4096 % 0x40 + 0x80)).toNat ≤ bound.2 := by
    rw [toNat_following]
    exact within _ (by omega) (by omega) (by omega) (by omega)
  refine piece_of_fits opens (.cons second
    (.cons (within_following (n / 64)) (.cons (within_following n) .nil))) ?_ rest
  simp only [gathered, List.foldl_cons, List.foldl_nil, first, toNat_following]
  omega

end

/-- The bytes of a character are one piece, whatever stands behind them. -/
theorem piece_utf8EncodeChar (c : Char) (rest : Bytes) :
    ∃ b bytes, String.utf8EncodeChar c = b :: bytes ∧ piece b (bytes ++ rest) = (some c, rest) := by
  have valid : c.val.toNat < 0xd800 ∨ 0xdfff < c.val.toNat ∧ c.val.toNat < 0x110000 :=
    isValidChar_iff.1 c.valid
  have same : Char.ofNat c.val.toNat = c := Char.ofNat_toNat c
  rw [String.utf8EncodeChar]
  -- A character has the shortest form that its code point fits in, so in each case the shorter ones
  -- are ruled out.
  split_ifs with one two three
  · exact ⟨_, _, rfl, by rw [List.nil_append, piece_of_one one, same]⟩
  · exact ⟨_, _, rfl, by
      rw [List.cons_append, List.nil_append, piece_of_two (by omega) two, same]⟩
  · exact ⟨_, _, rfl, by
      simp only [List.cons_append, List.nil_append]
      rw [piece_of_three (by omega) three (by omega), same]⟩
  · exact ⟨_, _, rfl, by
      simp only [List.cons_append, List.nil_append]
      rw [piece_of_four (by omega) (by omega), same]⟩

/-- The pieces of the bytes of a text are its characters. -/
theorem pieces_utf8 (text : List Char) : pieces (utf8 text) = text.map some := by
  induction text with
  | nil => exact pieces.eq_1
  | cons c text ih =>
    obtain ⟨b, bytes, encoded, read⟩ := piece_utf8EncodeChar c (utf8 text)
    rw [utf8_cons, encoded, List.cons_append, pieces, read, List.map_cons, ih]

end Utf8

/-- A lossy reading of the bytes of a text loses nothing. -/
theorem ofUtf8Lossy_utf8 (text : List Char) : ofUtf8Lossy (utf8 text) = text := by
  rw [ofUtf8Lossy, Utf8.pieces_utf8, List.map_map]
  exact List.map_id text

end FormatConformance.Text
