import FormatConformance.Case

/-!
# Comparing payloads

Payloads are equal when their bytes are. Only for a case whose argument is not a number may the two
sides spell that word differently: every `nan`, found from left to right without overlap and in any
ASCII case, counts as `NaN`.
-/

namespace FormatConformance.Payload

/-- Whether a byte is a letter given in lower case, in either case. -/
def isLetter (lower : Char) (b : UInt8) : Bool :=
  b.toNat = lower.toNat || b.toNat + 32 = lower.toNat

/-- Whether three bytes spell `nan` in some case. -/
def isToken (a b c : UInt8) : Bool :=
  isLetter 'n' a && isLetter 'a' b && isLetter 'n' c

/-- The bytes of the canonical spelling. -/
def canonicalToken : Bytes :=
  [0x4e, 0x61, 0x4e]

/-- The payload with every token in its canonical spelling. -/
def foldTokens : Bytes → Bytes
  | a :: b :: c :: rest =>
    if isToken a b c then canonicalToken ++ foldTokens rest else a :: foldTokens (b :: c :: rest)
  | short => short

/-- The payload as it is compared for a case. -/
def normalized (c : Case) (payload : Bytes) : Bytes :=
  if c.argument.isNan then foldTokens payload else payload

/-- Whether two payloads count as equal for a case. -/
def equivalent (c : Case) (a b : Bytes) : Bool :=
  normalized c a = normalized c b

end FormatConformance.Payload
