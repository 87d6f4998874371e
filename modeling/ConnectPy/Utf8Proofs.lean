import Mathlib.Data.List.SplitBy

/-! # UTF-8 text as bytes — encoding, decoding, ASCII separators

    A string is encoded to the list of its UTF-8 bytes and decoded strictly
    (`decode`) or with replacement characters (`decodeReplace`).  ASCII bytes
    occur in an encoding only as the ASCII characters themselves
    (`ascii_mem_encodeChar`), which is what makes splitting encoded text at
    ASCII separators safe: `splitCrLf` cuts at every CR LF and `splitFirst` at
    the first occurrence of one byte. -/

namespace Utf8

abbrev Bytes := List UInt8

/-! ## Encoding and strict decoding -/

/-- `s.encode()`. -/
def encode (s : String) : Bytes := s.toList.flatMap String.utf8EncodeChar

/-- `b.decode()`, none where Python raises `UnicodeDecodeError`. -/
def decode (b : Bytes) : Option String :=
  b.toByteArray.utf8Decode?.map fun cs => String.ofList cs.toList

@[simp] theorem encode_empty : encode "" = [] := rfl

@[simp] theorem encode_append (s t : String) : encode (s ++ t) = encode s ++ encode t := by
  rw [encode, String.toList_append, List.flatMap_append]
  rfl

theorem encode_toByteArray (s : String) :
    (encode s).toByteArray = s.toList.utf8Encode := rfl

/-- **Strict decoding undoes encoding.** -/
@[simp] theorem decode_encode (s : String) : decode (encode s) = some s := by
  rw [decode, encode_toByteArray, List.utf8Decode?_utf8Encode]
  simp

theorem encode_injective : Function.Injective encode := by
  intro s t h
  have hdecode := congrArg decode h
  rw [decode_encode, decode_encode] at hdecode
  exact Option.some.inj hdecode

/-! ## ASCII bytes inside an encoding -/

/-- An ASCII character is its own byte. -/
theorem encodeChar_ascii {c : Char} (h : c.toNat < 128) :
    String.utf8EncodeChar c = [UInt8.ofNat c.toNat] := by
  rw [String.utf8EncodeChar]
  exact if_pos (Nat.le_of_lt_succ h)

/-- The bytes of a character beyond ASCII all have their high bit set. -/
theorem encodeChar_high {c : Char} (h : 128 ≤ c.toNat) :
    ∀ b ∈ String.utf8EncodeChar c, 128 ≤ b.toNat := by
  intro b hb
  rw [String.utf8EncodeChar] at hb
  have hv : c.val.toNat = c.toNat := rfl
  simp only [hv] at hb
  rw [if_neg (by omega)] at hb
  split at hb
  · simp only [List.mem_cons, List.not_mem_nil, or_false] at hb
    rcases hb with rfl | rfl <;> rw [UInt8.toNat_ofNat'] <;> omega
  · split at hb
    · simp only [List.mem_cons, List.not_mem_nil, or_false] at hb
      rcases hb with rfl | rfl | rfl <;> rw [UInt8.toNat_ofNat'] <;> omega
    · simp only [List.mem_cons, List.not_mem_nil, or_false] at hb
      rcases hb with rfl | rfl | rfl | rfl <;> rw [UInt8.toNat_ofNat'] <;> omega

/-- An ASCII byte in the encoding of a character is that character. -/
theorem ascii_mem_encodeChar {c : Char} {b : UInt8} (hb : b.toNat < 128)
    (h : b ∈ String.utf8EncodeChar c) : c.toNat = b.toNat := by
  by_cases hc : c.toNat < 128
  · rw [encodeChar_ascii hc] at h
    have hb' : b = UInt8.ofNat c.toNat := by simpa using h
    rw [hb', UInt8.toNat_ofNat']
    omega
  · have := encodeChar_high (by omega) b h
    omega

/-- An ASCII byte occurs in an encoding only if its character is in the text. -/
theorem ascii_notMem_encode {s : String} {b : UInt8} (hb : b.toNat < 128)
    (h : ∀ c ∈ s.toList, c.toNat ≠ b.toNat) : b ∉ encode s := by
  intro hm
  obtain ⟨c, hc, hbc⟩ := List.mem_flatMap.mp hm
  exact h c hc (ascii_mem_encodeChar hb hbc)

/-! ## Splitting at ASCII separators -/

/-- `data.split(b"\r\n")`. -/
def splitCrLf : Bytes → List Bytes
  | [] => [[]]
  | 13 :: 10 :: rest => [] :: splitCrLf rest
  | b :: rest =>
      match splitCrLf rest with
      | [] => [[b]]
      | line :: lines => (b :: line) :: lines

/-- `line.split(sep, 1)` when the separator occurs. -/
def splitFirst (sep : UInt8) : Bytes → Option (Bytes × Bytes)
  | [] => none
  | b :: rest =>
      if b = sep then some ([], rest)
      else (splitFirst sep rest).map fun p => (b :: p.1, p.2)

theorem splitCrLf_ne_nil (b : Bytes) : splitCrLf b ≠ [] := by
  fun_cases splitCrLf b <;> simp

theorem splitCrLf_cons_other {b : UInt8} {rest : Bytes} (h : b ≠ 13) :
    splitCrLf (b :: rest) =
      (b :: (splitCrLf rest).headD []) :: (splitCrLf rest).tail := by
  rw [splitCrLf]
  · cases hs : splitCrLf rest with
    | nil => exact absurd hs (splitCrLf_ne_nil rest)
    | cons line lines => rfl
  · rintro rest' rfl _
    exact h rfl

/-- A line without CR, ended by CR LF, is split off whole. -/
theorem splitCrLf_line (line rest : Bytes) (h : 13 ∉ line) :
    splitCrLf (line ++ 13 :: 10 :: rest) = line :: splitCrLf rest := by
  induction line with
  | nil => rfl
  | cons b line ih =>
      have hb : b ≠ 13 := fun he => h (by simp [he])
      have hline : 13 ∉ line := fun hm => h (List.mem_cons_of_mem _ hm)
      rw [List.cons_append, splitCrLf_cons_other hb, ih hline]
      rfl

/-- Lines without CR, each ended by CR LF, are the pieces before a last empty one. -/
theorem splitCrLf_lines (lines : List Bytes) (h : ∀ line ∈ lines, 13 ∉ line) :
    splitCrLf (lines.flatMap fun line => line ++ [13, 10]) = lines ++ [[]] := by
  induction lines with
  | nil => rfl
  | cons line lines ih =>
      rw [List.flatMap_cons, List.append_assoc]
      show splitCrLf (line ++ 13 :: 10 :: lines.flatMap fun l => l ++ [13, 10]) = _
      rw [splitCrLf_line line _ (h line (by simp)),
        ih fun l hl => h l (List.mem_cons_of_mem _ hl)]
      rfl

theorem splitFirst_append {sep : UInt8} (left right : Bytes) (h : sep ∉ left) :
    splitFirst sep (left ++ sep :: right) = some (left, right) := by
  induction left with
  | nil => exact if_pos rfl
  | cons b left ih =>
      have hb : b ≠ sep := fun he => h (by simp [he])
      have hleft : sep ∉ left := fun hm => h (List.mem_cons_of_mem _ hm)
      rw [List.cons_append, splitFirst, if_neg hb, ih hleft]
      rfl

/-! ## Surrounding white space -/

/-- `str.isspace` of one character. -/
def isSpace (c : Char) : Bool :=
  c.toNat ∈ [0x09, 0x0A, 0x0B, 0x0C, 0x0D, 0x1C, 0x1D, 0x1E, 0x1F, 0x20, 0x85, 0xA0, 0x1680,
    0x2000, 0x2001, 0x2002, 0x2003, 0x2004, 0x2005, 0x2006, 0x2007, 0x2008, 0x2009, 0x200A,
    0x2028, 0x2029, 0x202F, 0x205F, 0x3000]

/-- Remove white space from both ends of a list of characters. -/
def stripChars (l : List Char) : List Char :=
  ((l.dropWhile isSpace).reverse.dropWhile isSpace).reverse

/-- `s.strip()`. -/
def strip (s : String) : String := String.ofList (stripChars s.toList)

/-- No white space at either end. -/
def Stripped (s : String) : Prop :=
  (∀ c ∈ s.toList.head?, isSpace c = false) ∧ (∀ c ∈ s.toList.getLast?, isSpace c = false)

instance (s : String) : Decidable (Stripped s) :=
  decidable_of_iff (s.toList.head?.all (fun c => !isSpace c) = true
      ∧ s.toList.getLast?.all (fun c => !isSpace c) = true) (by
    rw [Stripped, Option.all_eq_true, Option.all_eq_true]
    simp only [Bool.not_eq_true', Option.mem_def])

theorem dropWhile_of_head? {α : Type} (p : α → Bool) (l : List α)
    (h : ∀ c ∈ l.head?, p c = false) : l.dropWhile p = l := by
  cases l with
  | nil => rfl
  | cons a l => exact List.dropWhile_cons_of_neg (by simp [h a rfl])

theorem stripChars_of_stripped {l : List Char}
    (hh : ∀ c ∈ l.head?, isSpace c = false) (hl : ∀ c ∈ l.getLast?, isSpace c = false) :
    stripChars l = l := by
  rw [stripChars, dropWhile_of_head? isSpace l hh,
    dropWhile_of_head? isSpace l.reverse (by rw [List.head?_reverse]; exact hl),
    List.reverse_reverse]

/-- Stripping keeps no character that was not there. -/
theorem mem_strip {s : String} {c : Char} (h : c ∈ (strip s).toList) : c ∈ s.toList := by
  rw [strip, String.toList_ofList, stripChars, List.mem_reverse] at h
  have h1 := (List.dropWhile_sublist _).subset h
  exact (List.dropWhile_sublist _).subset (List.mem_reverse.mp h1)

theorem strip_of_stripped {s : String} (h : Stripped s) : strip s = s := by
  rw [strip, stripChars_of_stripped h.1 h.2, String.ofList_toList]

/-- One space in front is stripped away. -/
theorem strip_space_append {s : String} (h : Stripped s) : strip (" " ++ s) = s := by
  have hs : isSpace ' ' = true := by decide
  have hd : (" " ++ s).toList.dropWhile isSpace = s.toList.dropWhile isSpace := by
    rw [String.toList_append]
    exact List.dropWhile_cons_of_pos hs
  rw [strip, stripChars, hd, ← stripChars, stripChars_of_stripped h.1 h.2,
    String.ofList_toList]

/-! ## Decoding with replacement characters -/

/-- The length of the malformed prefix that `errors="replace"` turns into one
    replacement character: the longest prefix that could have begun a character. -/
def malformedLength : Bytes → Nat
  | [] => 0
  | [_] => 1
  | a :: b :: rest =>
      let x := a.toNat
      let y := b.toNat
      let lo := if x = 0xE0 then 0xA0 else if x = 0xF0 then 0x90 else 0x80
      let hi := if x = 0xED then 0x9F else if x = 0xF4 then 0x8F else 0xBF
      if 0xE0 ≤ x ∧ x ≤ 0xF4 ∧ lo ≤ y ∧ y ≤ hi then
        match rest with
        | c :: _ => if 0xF0 ≤ x ∧ 0x80 ≤ c.toNat ∧ c.toNat ≤ 0xBF then 3 else 2
        | [] => 2
      else 1

/-- `b.decode("utf-8", "replace")`, as characters; `fuel` bounds the length. -/
def decodeReplaceChars : Nat → Bytes → List Char
  | 0, _ => []
  | _, [] => []
  | fuel + 1, b :: rest =>
      match (b :: rest).toByteArray.utf8DecodeChar? 0 with
      | some c => c :: decodeReplaceChars fuel ((b :: rest).drop c.utf8Size)
      | none => Char.ofNat 0xFFFD
          :: decodeReplaceChars fuel ((b :: rest).drop (malformedLength (b :: rest)))

/-- `b.decode("utf-8", "replace")`. -/
def decodeReplace (b : Bytes) : List Char := decodeReplaceChars b.length b

theorem decodeReplaceChars_encode (cs : List Char) :
    ∀ fuel, cs.length ≤ fuel →
      decodeReplaceChars fuel (cs.flatMap String.utf8EncodeChar) = cs := by
  induction cs with
  | nil => intro fuel _; cases fuel <;> rfl
  | cons c cs ih =>
      intro fuel hf
      cases fuel with
      | zero => exact absurd hf (by simp)
      | succ fuel =>
          rw [List.flatMap_cons]
          have hdec : (String.utf8EncodeChar c
              ++ cs.flatMap String.utf8EncodeChar).toByteArray.utf8DecodeChar? 0 = some c := by
            rw [List.toByteArray_append]
            exact ByteArray.utf8DecodeChar?_utf8EncodeChar_append
          have hdrop : (String.utf8EncodeChar c
              ++ cs.flatMap String.utf8EncodeChar).drop c.utf8Size
              = cs.flatMap String.utf8EncodeChar := by
            rw [← String.length_utf8EncodeChar c, List.drop_left]
          cases hl : String.utf8EncodeChar c ++ cs.flatMap String.utf8EncodeChar with
          | nil =>
              rw [List.append_eq_nil_iff] at hl
              exact absurd hl.1 String.utf8EncodeChar_ne_nil
          | cons b rest =>
              rw [hl] at hdec hdrop
              have hlen : cs.length ≤ fuel := by simpa using hf
              rw [decodeReplaceChars, hdec]
              show c :: decodeReplaceChars fuel ((b :: rest).drop c.utf8Size) = c :: cs
              rw [hdrop, ih fuel hlen]

theorem length_le_flatMap_encodeChar (cs : List Char) :
    cs.length ≤ (cs.flatMap String.utf8EncodeChar).length := by
  induction cs with
  | nil => exact Nat.le_refl 0
  | cons c cs ih =>
      have := c.utf8Size_pos
      rw [List.flatMap_cons, List.length_append, String.length_utf8EncodeChar, List.length_cons]
      omega

/-- **Well-formed bytes are never replaced.** -/
theorem decodeReplace_encode (s : String) : decodeReplace (encode s) = s.toList :=
  decodeReplaceChars_encode s.toList _ (length_le_flatMap_encodeChar s.toList)

/-! ## Percent-encoding -/

/-- The characters `urllib.parse.quote` never quotes. -/
def alwaysSafe (b : UInt8) : Bool :=
  (0x41 ≤ b.toNat && b.toNat ≤ 0x5A) || (0x61 ≤ b.toNat && b.toNat ≤ 0x7A)
    || (0x30 ≤ b.toNat && b.toNat ≤ 0x39) || b == 0x5F || b == 0x2E || b == 0x2D || b == 0x7E

/-- The uppercase hexadecimal digit of a number below sixteen. -/
def hexDigit (n : Nat) : Char := Char.ofNat (if n < 10 then 0x30 + n else 0x37 + n)

/-- The value of a hexadecimal digit, in either case. -/
def hexValue (c : Char) : Option Nat :=
  if 0x30 ≤ c.toNat ∧ c.toNat ≤ 0x39 then some (c.toNat - 0x30)
  else if 0x41 ≤ c.toNat ∧ c.toNat ≤ 0x46 then some (c.toNat - 0x37)
  else if 0x61 ≤ c.toNat ∧ c.toNat ≤ 0x66 then some (c.toNat - 0x57)
  else none

/-- One byte, quoted unless it is always safe. -/
def quoteByte (b : UInt8) : List Char :=
  if alwaysSafe b then [Char.ofNat b.toNat]
  else ['%', hexDigit (b.toNat / 16), hexDigit (b.toNat % 16)]

/-- `urllib.parse.quote(s, safe="")`. -/
def quote (s : String) : String := String.ofList ((encode s).flatMap quoteByte)

/-- `urllib.parse.unquote_to_bytes` on ASCII characters. -/
def unquoteToBytes : List Char → Bytes
  | [] => []
  | c :: rest =>
      if c = '%' then
        match rest with
        | h :: l :: rest' =>
            match hexValue h, hexValue l with
            | some x, some y => UInt8.ofNat (16 * x + y) :: unquoteToBytes rest'
            | _, _ => 0x25 :: unquoteToBytes (h :: l :: rest')
        | rest' => 0x25 :: unquoteToBytes rest'
      else UInt8.ofNat c.toNat :: unquoteToBytes rest
termination_by l => l.length

def isAscii (c : Char) : Bool := c.toNat < 128

/-- `urllib.parse.unquote(s)`: the ASCII runs are unquoted and decoded, the rest
    of the text is kept. -/
def unquote (s : String) : String :=
  if '%' ∈ s.toList then
    String.ofList ((s.toList.splitBy fun a b => isAscii a == isAscii b).flatMap fun run =>
      if run.all isAscii then decodeReplace (unquoteToBytes run) else run)
  else s

theorem unquoteToBytes_cons_ne {c : Char} (h : c ≠ '%') (rest : List Char) :
    unquoteToBytes (c :: rest) = UInt8.ofNat c.toNat :: unquoteToBytes rest := by
  rw [unquoteToBytes.eq_def]
  exact if_neg h

theorem hexValue_hexDigit : ∀ n < 16, hexValue (hexDigit n) = some n := by decide

theorem quoteByte_ascii : ∀ b : UInt8, (quoteByte b).all isAscii = true := by
  intro b
  have h := UInt8.toNat_lt b
  suffices H : ∀ n < 256, (quoteByte (UInt8.ofNat n)).all isAscii = true by
    have := H b.toNat h
    rwa [UInt8.ofNat_toNat] at this
  decide +kernel

theorem unquoteToBytes_quoteByte (b : UInt8) (rest : List Char) :
    unquoteToBytes (quoteByte b ++ rest) = b :: unquoteToBytes rest := by
  have hb := UInt8.toNat_lt b
  rw [quoteByte]
  by_cases h : alwaysSafe b = true
  · rw [if_pos h]
    have hne : Char.ofNat b.toNat ≠ '%' ∧ (Char.ofNat b.toNat).toNat = b.toNat := by
      suffices H : ∀ n < 256, alwaysSafe (UInt8.ofNat n) = true →
          Char.ofNat n ≠ '%' ∧ (Char.ofNat n).toNat = n by
        exact H b.toNat hb (by rw [UInt8.ofNat_toNat]; exact h)
      decide +kernel
    rw [List.singleton_append, unquoteToBytes_cons_ne hne.1, hne.2, UInt8.ofNat_toNat]
  · rw [if_neg h]
    show unquoteToBytes ('%' :: hexDigit (b.toNat / 16) :: hexDigit (b.toNat % 16) :: rest) = _
    rw [unquoteToBytes, if_pos rfl]
    simp only [hexValue_hexDigit (b.toNat / 16) (by omega),
      hexValue_hexDigit (b.toNat % 16) (by omega)]
    rw [Nat.div_add_mod, UInt8.ofNat_toNat]

theorem unquoteToBytes_quote (b : Bytes) : unquoteToBytes (b.flatMap quoteByte) = b := by
  induction b with
  | nil => rw [List.flatMap_nil, unquoteToBytes]
  | cons a b ih => rw [List.flatMap_cons, unquoteToBytes_quoteByte, ih]

theorem flatMap_quoteByte_ascii (b : Bytes) : (b.flatMap quoteByte).all isAscii = true := by
  rw [List.all_flatMap]
  exact List.all_eq_true.mpr fun a _ => quoteByte_ascii a

/-- A nonempty ASCII text is a single run. -/
theorem splitBy_ascii {l : List Char} (hne : l ≠ []) (h : l.all isAscii = true) :
    (l.splitBy fun a b => isAscii a == isAscii b) = [l] := by
  rw [List.all_eq_true] at h
  refine List.splitBy_of_isChain hne (List.isChain_iff_getElem.mpr ?_)
  intro i hi
  rw [h _ (List.getElem_mem _), h _ (List.getElem_mem _)]
  rfl

/-- Without a percent sign the unquoted bytes are the encoding of the text. -/
theorem unquoteToBytes_plain {l : List Char} (h : l.all isAscii = true) (hp : '%' ∉ l) :
    unquoteToBytes l = l.flatMap String.utf8EncodeChar := by
  induction l with
  | nil => rw [List.flatMap_nil, unquoteToBytes]
  | cons c l ih =>
      rw [List.all_cons, Bool.and_eq_true] at h
      have hc : c ≠ '%' := fun he => hp (by simp [he])
      have hl : '%' ∉ l := fun hm => hp (List.mem_cons_of_mem _ hm)
      have hascii : c.toNat < 128 := by simpa [isAscii] using h.1
      rw [unquoteToBytes_cons_ne hc, ih h.2 hl, List.flatMap_cons, encodeChar_ascii hascii]
      rfl

/-- Unquoting an ASCII text decodes its unquoted bytes. -/
theorem unquote_ascii {l : List Char} (h : l.all isAscii = true) :
    unquote (String.ofList l) = String.ofList (decodeReplace (unquoteToBytes l)) := by
  rw [unquote, String.toList_ofList]
  by_cases hp : '%' ∈ l
  · rw [if_pos hp, splitBy_ascii (List.ne_nil_of_mem hp) h]
    rw [List.flatMap_singleton, if_pos h]
  · rw [if_neg hp, unquoteToBytes_plain h hp]
    have henc : l.flatMap String.utf8EncodeChar = encode (String.ofList l) := by
      rw [encode, String.toList_ofList]
    rw [henc, decodeReplace_encode, String.toList_ofList]

/-- **Unquoting undoes quoting.** -/
theorem unquote_quote (s : String) : unquote (quote s) = s := by
  rw [quote, unquote_ascii (flatMap_quoteByte_ascii _), unquoteToBytes_quote,
    decodeReplace_encode, String.ofList_toList]

example : quote "é %" = "%C3%A9%20%25" := by decide +kernel

end Utf8
