import FormatConformance.Proofs.Numeral
import FormatConformance.Text.Quoted

/-!
# Quoted text is unambiguous

`Escaped` says once what becomes of a character between double quotes: it stands for itself, is
named by a letter behind a backslash, or is given by its code point. Each of these can be told from
what stands behind it (`scan?_escaped`), and none begins with a double quote, so a quoted text says
where it ends and what it quotes, whatever text follows (`quote_append_inj`).
-/

namespace FormatConformance.Text.Quoted

open Numeral (digitChar digits forall_mem_digits maxWord32 readMagnitude readMagnitude_digits)

/-- The character that a letter behind a backslash stands for. -/
def named? : Char → Option Char
  | '0' => some '\x00'
  | 't' => some '\t'
  | 'n' => some '\n'
  | 'r' => some '\r'
  | '\\' => some '\\'
  | '"' => some '"'
  | '\'' => some '\''
  | _ => none

/-- The texts that stand for a character between double quotes. -/
inductive Escaped (c : Char) : List Char → Prop
  | plain (quote : c ≠ '"') (backslash : c ≠ '\\') : Escaped c [c]
  | letter (l : Char) (named : named? l = some c) : Escaped c ['\\', l]
  | code : Escaped c (codePoint c)

theorem escaped_escapeChar {style : Style} (between : style.doubleQuote = true) (c : Char) :
    Escaped c (escapeChar style c) := by
  unfold escapeChar
  split_ifs with nul tab line carriage backslash double single extends_last printable
  · exact .letter '0' (by rw [nul]; rfl)
  · exact .letter 't' (by rw [tab]; rfl)
  · exact .letter 'n' (by rw [line]; rfl)
  · exact .letter 'r' (by rw [carriage]; rfl)
  · exact .letter '\\' (by rw [backslash]; rfl)
  · exact .letter '"' (by rw [double.1]; rfl)
  · exact .letter '\'' (by rw [single.1]; rfl)
  · exact .code
  · -- Only in this style the quote that could end the text is escaped, which is what `between` is
    -- for.
    have quote : c ≠ '"' := fun same => double ⟨same, between⟩
    exact .plain quote backslash
  · exact .code

/-- All characters of a text leave a mark of their own. -/
def Marked (text : List Char) : Prop :=
  ∀ c ∈ text, isPrintable c = true

instance (text : List Char) : Decidable (Marked text) :=
  List.decidableBAll _ text

theorem Marked.append {a b : List Char} (first : Marked a) (second : Marked b) : Marked (a ++ b) :=
  List.forall_mem_append.2 ⟨first, second⟩

theorem marked_codePoint (c : Char) : Marked (codePoint c) := by
  have table : ∀ d < 16, isPrintable (digitChar d) = true := by decide
  have digits : Marked (digits 16 c.toNat) := forall_mem_digits (by decide) table c.toNat
  have opening : Marked ['\\', 'u', '\x7b'] := by decide
  exact opening.append (digits.append (by decide))

/-- Whatever becomes of a character leaves a mark. -/
theorem marked_escapeChar (style : Style) (c : Char) : Marked (escapeChar style c) := by
  unfold escapeChar
  refine iteInduction (fun _ => by decide) fun nul => ?_
  refine iteInduction (fun _ => by decide) fun tab => ?_
  refine iteInduction (fun _ => by decide) fun line => ?_
  refine iteInduction (fun _ => by decide) fun carriage => ?_
  refine iteInduction (fun _ => by decide) fun backslash => ?_
  refine iteInduction (fun _ => by decide) fun double => ?_
  refine iteInduction (fun _ => by decide) fun single => ?_
  refine iteInduction (fun _ => marked_codePoint c) fun extends_last => ?_
  refine iteInduction (fun printable => ?_) fun _ => marked_codePoint c
  exact List.forall_mem_singleton.2 printable

/-- The character that a text between double quotes begins with, and what stands behind it. -/
def scan? : List Char → Option (Char × List Char)
  | '"' :: _ => none
  | '\\' :: 'u' :: '\x7b' :: rest =>
    let code := readMagnitude 16 maxWord32 .tooLarge 0 (rest.takeWhile (· ≠ '\x7d'))
    code.toOption.map fun n => (Char.ofNat n, (rest.dropWhile (· ≠ '\x7d')).tail)
  | '\\' :: l :: rest => (named? l).map (·, rest)
  | c :: rest => some (c, rest)
  | [] => none

theorem scan?_codePoint (c : Char) (rest : List Char) :
    scan? (codePoint c ++ rest) = some (c, rest) := by
  have fits : c.toNat ≤ maxWord32 := Nat.le_of_lt_succ c.val.toNat_lt
  -- No digit is a closing brace, so the first brace is the one behind the digits.
  have inside : ∀ x ∈ digits 16 c.toNat, decide (x ≠ '\x7d') = true := by
    have other : ∀ d < 16, decide (digitChar d ≠ '\x7d') = true := by decide
    exact forall_mem_digits (by decide) other c.toNat
  have run : (digits 16 c.toNat ++ '\x7d' :: rest).takeWhile (· ≠ '\x7d') = digits 16 c.toNat ∧
      (digits 16 c.toNat ++ '\x7d' :: rest).dropWhile (· ≠ '\x7d') = '\x7d' :: rest := by
    rw [List.takeWhile_append_of_pos inside, List.dropWhile_append_of_pos inside]
    simp
  have text : codePoint c ++ rest =
      '\\' :: 'u' :: '\x7b' :: (digits 16 c.toNat ++ '\x7d' :: rest) := by
    simp [codePoint]
  rw [text, scan?, run.1, run.2, readMagnitude_digits (by decide) (by decide) fits]
  show some (Char.ofNat c.toNat, rest) = _
  rw [Char.ofNat_toNat]

theorem scan?_escaped {c : Char} {text : List Char} (escaped : Escaped c text)
    (rest : List Char) : scan? (text ++ rest) = some (c, rest) := by
  cases escaped with
  | plain quote backslash =>
    rw [List.singleton_append, scan?]
    · exact quote
    · exact fun _ same => absurd same backslash
    · exact fun _ _ same => absurd same backslash
  | letter l named =>
    have other : l ≠ 'u' := by
      rintro rfl
      simp [named?] at named
    show scan? ('\\' :: l :: rest) = _
    rw [scan?, named]
    · rfl
    · exact fun _ same => absurd same other
  | code => exact scan?_codePoint c rest

/-! ## The end of a quoted text -/

theorem body_cons (c : Char) (text : List Char) :
    body (c :: text) = escapeChar literal c ++ body text :=
  List.flatMap_cons

theorem body_append_inj {a b x y : List Char} (same : body a ++ '"' :: x = body b ++ '"' :: y) :
    a = b ∧ x = y := by
  have ends (rest : List Char) : scan? ('"' :: rest) = none := by rw [scan?]
  have begins (c : Char) (text rest : List Char) :
      scan? (body (c :: text) ++ '"' :: rest) = some (c, body text ++ '"' :: rest) := by
    rw [body_cons, List.append_assoc]
    exact scan?_escaped (escaped_escapeChar rfl c) _
  -- Both texts are scanned side by side: a double quote ends them, and nothing else begins with
  -- one.
  induction a generalizing b with
  | nil =>
    cases b with
    | nil => exact ⟨rfl, (List.cons.inj same).2⟩
    | cons d b =>
      have scanned := begins d b y
      rw [← same] at scanned
      exact absurd ((ends x).symm.trans scanned) (by simp)
  | cons c a ih =>
    have scanned := begins c a x
    cases b with
    | nil =>
      rw [same] at scanned
      exact absurd ((ends y).symm.trans scanned) (by simp)
    | cons d b =>
      rw [same, begins d b y] at scanned
      obtain ⟨rfl, behind⟩ := Prod.mk.inj (Option.some.inj scanned)
      obtain ⟨rfl, rest⟩ := ih behind.symm
      exact ⟨rfl, rest⟩

/-- A quoted text says what it quotes and where it ends. -/
theorem quote_append_inj {a b x y : List Char} (same : quote a ++ x = quote b ++ y) :
    a = b ∧ x = y := by
  have inside : body a ++ '"' :: x = body b ++ '"' :: y := by
    simpa [quote] using same
  exact body_append_inj inside

theorem quote_injective : Function.Injective quote := by
  intro a b same
  have whole : quote a ++ [] = quote b ++ [] := by rw [same]
  exact (quote_append_inj whole).1

end FormatConformance.Text.Quoted
