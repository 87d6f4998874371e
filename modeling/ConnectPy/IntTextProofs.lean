import ConnectPy.Utf8Proofs
import Mathlib.Algebra.GroupWithZero.Nat

/-! # Integers as text — what `int` takes, and what the digit tests leave to it

    `int(text)` is permissive: blanks around the number, a sign, underscores
    between the digits, and every decimal digit that Unicode has.  `str.isdigit`
    is permissive in another way: it holds of superscripts, which `int` refuses.

    Behind `text.isascii() and text.isdigit()` neither matters.  Such a text is
    one of ASCII digits (`isAscii_isDigit_iff`), and `int` gives its decimal value
    (`int_digits`) as long as it is short enough to be converted at all.  In the
    other direction the digits of a number are such a text (`digits_toDigits`). -/

namespace IntText

/-- What Unicode says about characters, as far as `str.isdigit` and `int` ask. -/
structure Unicode where
  /-- The character is a digit, of whatever kind. -/
  isDigit : Char → Bool
  /-- The value of a decimal digit. -/
  decimal : Char → Option Nat
  /-- The character may stand around a number. -/
  isBlank : Char → Bool
  isDigit_ascii : ∀ c, Utf8.isAscii c = true → isDigit c = c.isDigit
  decimal_digit : ∀ c, c.isDigit = true → decimal c = some (c.toNat - '0'.toNat)
  isBlank_digit : ∀ c, c.isDigit = true → isBlank c = false

namespace Unicode

/-- The ASCII digits, those of the Arabic script, and a superscript. -/
def basic : Unicode where
  isDigit c := c.isDigit || (0x660 ≤ c.toNat && c.toNat ≤ 0x669) || c.toNat = 0xB2
  decimal c :=
    if c.isDigit then some (c.toNat - '0'.toNat)
    else if 0x660 ≤ c.toNat ∧ c.toNat ≤ 0x669 then some (c.toNat - 0x660)
    else none
  isBlank c := c == ' '
  isDigit_ascii := by
    intro c hc
    have hlt : c.toNat < 128 := of_decide_eq_true hc
    have harabic : decide (0x660 ≤ c.toNat) = false := decide_eq_false (by omega)
    have hsuper : decide (c.toNat = 0xB2) = false := decide_eq_false (by omega)
    rw [harabic, hsuper, Bool.false_and, Bool.or_false, Bool.or_false]
  decimal_digit := by
    intro c hc
    exact if_pos hc
  isBlank_digit := by
    intro c hc
    rw [beq_eq_false_iff_ne]
    rintro rfl
    exact absurd hc (by decide)

/-- The characters of a header: the ASCII digits count, the superscripts are digits
    without a value, and two blanks lie beyond ASCII. -/
def latin1 : Unicode where
  isDigit c := c.isDigit || c.toNat ∈ [0xB2, 0xB3, 0xB9]
  decimal c := if c.isDigit then some (c.toNat - '0'.toNat) else none
  isBlank c := c.toNat ∈ [0x09, 0x0A, 0x0B, 0x0C, 0x0D, 0x20, 0x85, 0xA0]
  isDigit_ascii := by
    intro c hc
    have hlt : c.toNat < 128 := of_decide_eq_true hc
    have hsuper : decide (c.toNat ∈ [0xB2, 0xB3, 0xB9]) = false := by
      simp only [List.mem_cons, List.not_mem_nil, or_false, decide_eq_false_iff_not]
      omega
    rw [hsuper, Bool.or_false]
  decimal_digit := by
    intro c hc
    exact if_pos hc
  isBlank_digit := by
    intro c hc
    have hrange := Char.isDigit_iff_toNat.mp hc
    have hzero : '0'.toNat = 48 := rfl
    have hnine : '9'.toNat = 57 := rfl
    simp only [List.mem_cons, List.not_mem_nil, or_false, decide_eq_false_iff_not]
    omega

end Unicode

variable (u : Unicode)

/-! ## The tests -/

/-- `str.isascii`. -/
def isAscii (text : List Char) : Bool := text.all Utf8.isAscii

/-- `str.isdigit`. -/
def isDigit (text : List Char) : Bool := !text.isEmpty && text.all u.isDigit

/-- One ASCII digit or more. -/
def Digits (text : List Char) : Prop := text ≠ [] ∧ ∀ c ∈ text, c.isDigit = true

theorem isAscii_of_isDigit {c : Char} (h : c.isDigit = true) : Utf8.isAscii c = true := by
  have hrange := Char.isDigit_iff_toNat.mp h
  have hnine : '9'.toNat = 57 := rfl
  exact decide_eq_true (by omega)

/-- **The two tests together** leave the ASCII digits. -/
theorem isAscii_isDigit_iff (text : List Char) :
    (isAscii text && isDigit u text) = true ↔ Digits text := by
  rw [Bool.and_eq_true, isAscii, isDigit, Bool.and_eq_true, Bool.not_eq_true',
    List.isEmpty_eq_false_iff, List.all_eq_true, List.all_eq_true]
  constructor
  · rintro ⟨hascii, hne, hdigit⟩
    refine ⟨hne, fun c hc => ?_⟩
    rw [← u.isDigit_ascii c (hascii c hc)]
    exact hdigit c hc
  · rintro ⟨hne, hdigit⟩
    refine ⟨fun c hc => isAscii_of_isDigit (hdigit c hc), hne, fun c hc => ?_⟩
    rw [u.isDigit_ascii c (isAscii_of_isDigit (hdigit c hc))]
    exact hdigit c hc

/-! ## `int` -/

/-- The digits of a literal, where single underscores may stand between them. -/
def literalDigits : List Char → Option (List Nat)
  | [] => none
  | [c] => (u.decimal c).map fun d => [d]
  | c :: '_' :: rest =>
      match u.decimal c, literalDigits rest with
      | some d, some ds => some (d :: ds)
      | _, _ => none
  | c :: rest =>
      match u.decimal c, literalDigits rest with
      | some d, some ds => some (d :: ds)
      | _, _ => none

/-- A sign in front of the digits, if any: whether it is a minus, and the digits. -/
def signedDigits : List Char → Option (Bool × List Nat)
  | '-' :: rest => (literalDigits u rest).map fun ds => (true, ds)
  | '+' :: rest => (literalDigits u rest).map fun ds => (false, ds)
  | rest => (literalDigits u rest).map fun ds => (false, ds)

/-- A text without the blanks around it. -/
def trim (text : List Char) : List Char :=
  ((text.dropWhile u.isBlank).reverse.dropWhile u.isBlank).reverse

/-- `sys.get_int_max_str_digits()`, as it is unless an application changes it. -/
def maxStrDigits : Nat := 4300

/-- `int(text)`, or the text of its `ValueError`. -/
def int (text : List Char) : Except String Int :=
  match signedDigits u (trim u text) with
  | none => .error s!"invalid literal for int() with base 10: '{String.ofList text}'"
  | some (negative, ds) =>
      if maxStrDigits < ds.length then
        .error (s!"Exceeds the limit ({maxStrDigits} digits) for integer string conversion: value "
          ++ s!"has {ds.length} digits; use sys.set_int_max_str_digits() to increase the limit")
      else
        let n : Nat := ds.foldl (fun n d => 10 * n + d) 0
        .ok (if negative then -n else n)

/-- `int` takes what `isdigit` refuses, and the other way round. -/
example : int .basic " -1_0 ".toList = .ok (-10) ∧ isDigit .basic " -1_0 ".toList = false
    ∧ int .basic [Char.ofNat 0x661] = .ok 1
    ∧ isDigit .basic [Char.ofNat 0xB2] = true ∧ signedDigits .basic [Char.ofNat 0xB2] = none := by
  decide +kernel

/-! ## `int` of ASCII digits -/

theorem ne_of_isDigit {c d : Char} (h : c.isDigit = true) (hd : d.isDigit = false) : c ≠ d := by
  rintro rfl
  exact absurd h (by rw [hd]; exact Bool.false_ne_true)

theorem literalDigits_digits : ∀ {text : List Char}, Digits text →
    literalDigits u text = some (text.map fun c => c.toNat - '0'.toNat)
  | [], h => absurd rfl h.1
  | [c], h => by
      rw [literalDigits, u.decimal_digit c (h.2 c (by simp))]
      rfl
  | c :: d :: rest, h => by
      have hrest : Digits (d :: rest) :=
        ⟨List.cons_ne_nil _ _, fun e he => h.2 e (List.mem_cons_of_mem _ he)⟩
      have hne : d ≠ '_' := ne_of_isDigit (h.2 d (by simp)) (by decide)
      rw [literalDigits.eq_4 u c (d :: rest) (by simp) (by simpa using hne),
        u.decimal_digit c (h.2 c (by simp)), literalDigits_digits hrest]
      rfl

theorem signedDigits_digits {text : List Char} (h : Digits text) :
    signedDigits u text = some (false, text.map fun c => c.toNat - '0'.toNat) := by
  cases text with
  | nil => exact absurd rfl h.1
  | cons c rest =>
      have hminus : c ≠ '-' := ne_of_isDigit (h.2 c (by simp)) (by decide)
      have hplus : c ≠ '+' := ne_of_isDigit (h.2 c (by simp)) (by decide)
      rw [signedDigits, literalDigits_digits u h]
      · rfl
      · rintro _ ⟨⟩
        exact hminus rfl
      · rintro _ ⟨⟩
        exact hplus rfl

theorem dropWhile_digits {text : List Char} (h : ∀ c ∈ text, c.isDigit = true) :
    text.dropWhile u.isBlank = text := by
  cases text with
  | nil => rfl
  | cons c rest =>
      rw [List.dropWhile_cons, u.isBlank_digit c (h c (by simp)), if_neg Bool.false_ne_true]

theorem trim_digits {text : List Char} (h : Digits text) : trim u text = text := by
  rw [trim, dropWhile_digits u h.2, dropWhile_digits u (fun c hc => h.2 c (List.mem_reverse.mp hc)),
    List.reverse_reverse]

/-- **`int` of ASCII digits** is their decimal value. -/
theorem int_digits {text : List Char} (h : Digits text) (hlen : text.length ≤ maxStrDigits) :
    int u text = .ok (Nat.ofDigitChars 10 text 0) := by
  rw [int, trim_digits u h, signedDigits_digits u h]
  dsimp only
  rw [List.length_map, if_neg (Nat.not_lt_of_le hlen), List.foldl_map,
    Nat.ofDigitChars_eq_foldl, if_neg Bool.false_ne_true]

/-- And refuses more of them than it converts. -/
theorem int_digits_long {text : List Char} (h : Digits text) (hlen : maxStrDigits < text.length) :
    ∃ e, int u text = .error e := by
  rw [int, trim_digits u h, signedDigits_digits u h]
  dsimp only
  rw [List.length_map, if_pos hlen]
  exact ⟨_, rfl⟩

/-- So what it makes of ASCII digits is their value. -/
theorem int_digits_ok {text : List Char} (h : Digits text) {n : Int} (hn : int u text = .ok n) :
    n = Nat.ofDigitChars 10 text 0 := by
  by_cases hlen : text.length ≤ maxStrDigits
  · rw [int_digits u h hlen] at hn
    exact (Except.ok.inj hn).symm
  · obtain ⟨e, he⟩ := int_digits_long u h (Nat.lt_of_not_le hlen)
    exact nomatch he.symm.trans hn

/-! ## The digits of a number -/

/-- The text of a number is one of digits. -/
theorem digits_toDigits (n : Nat) : Digits (Nat.toDigits 10 n) :=
  ⟨Nat.toDigits_ne_nil, fun _ hc => Nat.isDigit_of_mem_toDigits (by decide) (by decide) hc⟩

/-- The text of a natural number, as an integer. -/
theorem toList_toString (n : Nat) : (toString (n : Int)).toList = Nat.toDigits 10 n := by
  show (Int.repr (n : Int)).toList = _
  exact Nat.toList_repr

/-- The digits of a number below a power of ten. -/
theorem length_toDigits_le {n k : Nat} (hk : 0 < k) :
    (Nat.toDigits 10 n).length ≤ k ↔ n < 10 ^ k :=
  Nat.length_toDigits_le_iff (by decide) hk

end IntText
