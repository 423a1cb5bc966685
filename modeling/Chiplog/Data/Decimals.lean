import Chiplog.Data.JsonReading

namespace Chiplog.Data

/-! Decimal digits of texts.

`str.isdecimal` and `int` know the decimal digits of every script; `str` of a number writes
those of one script only. -/

/-- The zeros of the other scripts with decimal digits; nine digits follow each. -/
def scriptZeros : List Nat :=
  [0x660, 0x6f0, 0x7c0, 0x966, 0x9e6, 0xa66, 0xae6, 0xb66, 0xbe6, 0xc66, 0xce6, 0xd66, 0xde6,
    0xe50, 0xed0, 0xf20, 0x1040, 0x1090, 0x17e0, 0x1810, 0x1946, 0x19d0, 0x1a80, 0x1a90, 0x1b50,
    0x1bb0, 0x1c40, 0x1c50, 0xa620, 0xa8d0, 0xa900, 0xa9d0, 0xa9f0, 0xaa50, 0xabf0, 0xff10, 0x104a0,
    0x10d30, 0x10d40, 0x11066, 0x110f0, 0x11136, 0x111d0, 0x112f0, 0x11450, 0x114d0, 0x11650,
    0x116c0, 0x116d0, 0x116da, 0x11730, 0x118e0, 0x11950, 0x11bf0, 0x11c50, 0x11d50, 0x11da0,
    0x11f50, 0x16130, 0x16a60, 0x16ac0, 0x16b50, 0x16d70, 0x1ccf0, 0x1d7ce, 0x1d7d8, 0x1d7e2,
    0x1d7ec, 0x1d7f6, 0x1e140, 0x1e2f0, 0x1e4f0, 0x1e5f1, 0x1e950, 0x1fbf0]

def decimal? (char : Char) : Option Nat :=
  (('0'.toNat :: scriptZeros).find?
    (fun first => first ≤ char.toNat ∧ char.toNat < first + 10)).map (char.toNat - ·)

/-- `str.isdecimal`. -/
def isdecimal (chars : List Char) : Bool :=
  chars ≠ [] && chars.all (fun char => (decimal? char).isSome)

/-- `int` of a text that `isdecimal`. -/
def int (chars : List Char) : Nat :=
  chars.foldl (fun value char => 10 * value + (decimal? char).getD 0) 0

theorem decimal?_digit {char : Char} (digit : char.isDigit) :
    decimal? char = some (char.toNat - '0'.toNat) := by
  have low : '0'.toNat ≤ char.toNat ∧ char.toNat < '0'.toNat + 10 := by
    simp only [Char.isDigit, Bool.and_eq_true, decide_eq_true_eq] at digit
    obtain ⟨above, below⟩ := digit
    have above : 48 ≤ char.toNat := above
    have below : char.toNat ≤ 57 := below
    exact ⟨above, Nat.lt_succ_of_le below⟩
  have first : ('0'.toNat :: scriptZeros).find?
      (fun first => first ≤ char.toNat ∧ char.toNat < first + 10) = some '0'.toNat := by
    rw [List.find?_cons_of_pos]
    exact decide_eq_true low
  rw [decimal?, first, Option.map_some]

theorem isdecimal_repr (value : Nat) : isdecimal value.repr.toList = true := by
  simp only [isdecimal, Bool.and_eq_true, List.all_eq_true]
  refine ⟨decide_eq_true (Json.repr_ne_nil value), ?_⟩
  intro char member
  rw [decimal?_digit (Json.repr_digits value char member)]
  rfl

theorem int_repr (value : Nat) : int value.repr.toList = value := by
  have digits : ∀ chars : List Char, (∀ char ∈ chars, char.isDigit) → ∀ start,
      chars.foldl (fun value char => 10 * value + (decimal? char).getD 0) start =
        Nat.ofDigitChars 10 chars start := by
    intro chars
    induction chars with
    | nil =>
        intro _ start
        rw [List.foldl_nil, Nat.ofDigitChars_nil]
    | cons char rest ih =>
        intro all start
        rw [List.foldl_cons, decimal?_digit (all char List.mem_cons_self), Option.getD_some,
          ih (fun other member => all other (List.mem_cons_of_mem _ member)),
          Nat.ofDigitChars_cons]
  rw [int, digits _ (Json.repr_digits value), Nat.toList_repr, Nat.ofDigitChars_ten_toDigits]

/-- The digits hold no separator. -/
theorem repr_not_mem {value : Nat} {char : Char} (other : char.isDigit = false) :
    char ∉ value.repr.toList := by
  intro member
  rw [Json.repr_digits value char member] at other
  cases other

end Chiplog.Data
