import MacroInvest.Library.NearestRounding

/-! # Fields of a fixed width

A number is written with a fixed number of decimal digits and read back by taking as many
characters. What the width cannot hold is cut off at the front. A fraction is rounded to as
many decimals, ties to even, and written with a point. A text in quotes has its characters that
cannot be printed by the hexadecimal digits of their codes.
-/
namespace MacroInvest.FixedWidth

/-- The last `w` decimal digits of `n`, the most significant first. -/
def fixedDigits : ℕ → ℕ → List Char
  | 0, _ => []
  | w + 1, n => Nat.digitChar (n / 10 ^ w % 10) :: fixedDigits w n

def readDigit (c : Char) : Option ℕ :=
  if 48 ≤ c.toNat ∧ c.toNat ≤ 57 then some (c.toNat - 48) else none

/-- The number of the next `w` digits, put after the digits of `n`, and what follows them. -/
def readDigits : ℕ → ℕ → List Char → Option (ℕ × List Char)
  | 0, n, cs => some (n,cs)
  | _ + 1, _, [] => none
  | w + 1, n, c :: cs =>
    match readDigit c with
    | none => none
    | some d => readDigits w (n * 10 + d) cs

theorem readDigit_digitChar {d : ℕ} (h : d < 10) : readDigit (Nat.digitChar d) = some d := by
  interval_cases d <;> rfl

/-- Reading continues the number by its last digits. -/
theorem readDigits_fixedDigits (w n m : ℕ) (rest : List Char) :
    readDigits w m (fixedDigits w n ++ rest) = some (m * 10 ^ w + n % 10 ^ w,rest) := by
  induction w generalizing m with
  | zero => simp [readDigits,fixedDigits,Nat.mod_one]
  | succ w ih =>
    have hvalue : (m * 10 + n / 10 ^ w % 10) * 10 ^ w + n % 10 ^ w =
        m * 10 ^ (w + 1) + n % 10 ^ (w + 1) := by
      rw [Nat.mod_pow_succ]
      ring
    simp only [fixedDigits,List.cons_append,readDigits,readDigit_digitChar (Nat.mod_lt _ (by decide)),
      ih,hvalue]

/-- A field that holds the number gives it back. -/
theorem readDigits_zero_fixedDigits {w n : ℕ} (h : n < 10 ^ w) (rest : List Char) :
    readDigits w 0 (fixedDigits w n ++ rest) = some (n,rest) := by
  rw [readDigits_fixedDigits,Nat.mod_eq_of_lt h,Nat.zero_mul,Nat.zero_add]

/-- The digits of `x` with a fixed number of decimals. -/
def formatFixed (decimals : ℕ) (x : ℚ) : String :=
  let n := (Rounding.halfEven.toInt (x * 10 ^ decimals)).natAbs
  (if x < 0 then "-" else "") ++ toString (n / 10 ^ decimals) ++ "." ++
    String.ofList (fixedDigits decimals n)

example : formatFixed 1 (-61 / 4) = "-15.2" := by decide +kernel

def hexDigit (n : ℕ) : Char := Char.ofNat (if n < 10 then 48 + n else 87 + n)

/-- The last `w` hexadecimal digits of `n`, the most significant first. -/
def fixedHex : ℕ → ℕ → List Char
  | 0, _ => []
  | w + 1, n => hexDigit (n / 16 ^ w % 16) :: fixedHex w n

/-- Controls, separators but the blank, formats, and the codes from a place on that have no
character. Single codes without a character between others are not listed. -/
def unprintable : List (ℕ × ℕ) :=
  [(0,0x1f),(0x7f,0xa0),(0xad,0xad),(0x600,0x605),(0x61c,0x61c),(0x6dd,0x6dd),(0x70f,0x70f),
    (0x890,0x891),(0x8e2,0x8e2),(0x1680,0x1680),(0x180e,0x180e),(0x2000,0x200f),(0x2028,0x202f),
    (0x205f,0x206f),(0x3000,0x3000),(0xe000,0xf8ff),(0xfdd0,0xfdef),(0xfeff,0xfeff),
    (0xfff0,0xfffb),(0xfffe,0xffff),(0x110bd,0x110bd),(0x110cd,0x110cd),(0x13430,0x1343f),
    (0x1bca0,0x1bca3),(0x1d173,0x1d17a),(0x323b0,0xe00ff),(0xe01f0,0x10ffff)]

def isPrintable (c : Char) : Bool := unprintable.all (fun r => c.toNat < r.1 ∨ r.2 < c.toNat)

def reprChar (quote c : Char) : List Char :=
  let backslash := Char.ofNat 92
  if c = quote ∨ c = backslash then [backslash,c]
  else if c.toNat = 9 then [backslash,'t']
  else if c.toNat = 10 then [backslash,'n']
  else if c.toNat = 13 then [backslash,'r']
  else if isPrintable c then [c]
  else if c.toNat < 0x100 then backslash :: 'x' :: fixedHex 2 c.toNat
  else if c.toNat < 0x10000 then backslash :: 'u' :: fixedHex 4 c.toNat
  else backslash :: 'U' :: fixedHex 8 c.toNat

/-- `repr` of a text in Python. -/
def pyRepr (text : String) : String :=
  let single := Char.ofNat 39
  let double := Char.ofNat 34
  let quote := if single ∈ text.toList ∧ double ∉ text.toList then double else single
  String.ofList (quote :: text.toList.flatMap (reprChar quote) ++ [quote])

/-- `repr` of a list of texts. -/
def pyReprList (texts : List String) : String := "[" ++ ", ".intercalate (texts.map pyRepr) ++ "]"

example : pyReprList ["it's","\u00a0\u2028é"] = "[\"it's\", '\\xa0\\u2028é']" := by decide +kernel

end MacroInvest.FixedWidth
