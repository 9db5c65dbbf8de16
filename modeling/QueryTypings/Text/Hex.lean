/-
  Hexadecimal digits.

  `hexPad n k` writes at least `n` lower-case digits, `readHex` reads digits of either case back.
-/

namespace QueryTypings.Text

/-- The digit of a value below 16, in lower case. -/
def hexDigit (n : Nat) : Char := if n < 10 then Char.ofNat (48 + n) else Char.ofNat (87 + n)

/-- The digit of a value below 16, in upper case. -/
def upperHexDigit (n : Nat) : Char := if n < 10 then Char.ofNat (48 + n) else Char.ofNat (55 + n)

/-- The last `n` digits of a number, most significant first. -/
def hexFixed : Nat → Nat → List Char
  | 0, _ => []
  | n + 1, k => hexFixed n (k / 16) ++ [hexDigit (k % 16)]

/-- The last `n` digits of a number in upper case, most significant first. -/
def upperHexFixed : Nat → Nat → List Char
  | 0, _ => []
  | n + 1, k => upperHexFixed n (k / 16) ++ [upperHexDigit (k % 16)]

/-- The value of a hexadecimal digit. -/
def hexValue? (c : Char) : Option Nat :=
  let n := c.toNat
  if 48 ≤ n && n ≤ 57 then some (n - 48)
  else if 65 ≤ n && n ≤ 70 then some (n - 55)
  else if 97 ≤ n && n ≤ 102 then some (n - 87)
  else none

/-- The number written by hexadecimal digits, in front of which `acc` has been read. -/
def readHex (acc : Nat) : List Char → Option Nat
  | [] => some acc
  | c :: r => (hexValue? c).bind fun d => readHex (acc * 16 + d) r

theorem hexValue_hexDigit {n : Nat} (h : n < 16) : hexValue? (hexDigit n) = some n := by
  have all : ∀ m : Fin 16, hexValue? (hexDigit m.val) = some m.val := by decide
  exact all ⟨n, h⟩

theorem length_hexFixed (n k : Nat) : (hexFixed n k).length = n := by
  induction n generalizing k with
  | zero => rfl
  | succ n ih => simp [hexFixed, ih]

theorem readHex_append (acc : Nat) (a b : List Char) :
    readHex acc (a ++ b) = (readHex acc a).bind fun n => readHex n b := by
  induction a generalizing acc with
  | nil => rfl
  | cons c r ih =>
      rw [List.cons_append, readHex, readHex]
      cases hexValue? c with
      | none => rfl
      | some d => exact ih _

/-- Reading fixed-width digits gives the number back, if it fits. -/
theorem readHex_hexFixed (n : Nat) :
    ∀ k : Nat, k < Nat.pow 16 n → readHex 0 (hexFixed n k) = some k := by
  induction n with
  | zero =>
      intro k hk
      obtain rfl : k = 0 := Nat.lt_one_iff.mp hk
      rfl
  | succ n ih =>
      intro k hk
      have hdiv : k / 16 < Nat.pow 16 n := by
        have hsucc : Nat.pow 16 (n + 1) = Nat.pow 16 n * 16 := rfl
        exact Nat.div_lt_of_lt_mul (by omega)
      have hd := hexValue_hexDigit (Nat.mod_lt k (show 0 < 16 by omega))
      rw [hexFixed, readHex_append, ih _ hdiv]
      simp only [Option.bind_some, readHex, hd]
      congr 1
      omega

end QueryTypings.Text
