import ConnectPy.Utf8Proofs

/-! # Base64 — encoding and the lenient decoder

    `encode` is the standard alphabet with padding.  `decode` follows the
    decoder behind Python's `b64decode` in its default mode: characters outside
    the alphabet are skipped, a complete pad ends the input, and only the number
    of data characters decides whether the input is an error.

    The decoder is a fold over `Decoder` states, so its behaviour on a
    concatenation is determined piece by piece (`feedAll_append`).  There are two
    round trips on the wire: padding removed by the sender
    (`decode_strip_encode`), or left in place (`decode_encode_pads`); three pad
    characters are always added by the receiver. -/

namespace Base64

open Utf8 (Bytes)

/-! ## The alphabet -/

/-- The character of a sextet. -/
def alphabet (n : Nat) : Char :=
  Char.ofNat
    (if n < 26 then 0x41 + n
    else if n < 52 then 0x47 + n
    else if n < 62 then n - 4
    else if n = 62 then 0x2B
    else 0x2F)

/-- The sextet of a character, none outside the alphabet. -/
def sextet? (c : Char) : Option Nat :=
  if 0x41 ≤ c.toNat ∧ c.toNat ≤ 0x5A then some (c.toNat - 0x41)
  else if 0x61 ≤ c.toNat ∧ c.toNat ≤ 0x7A then some (c.toNat - 0x47)
  else if 0x30 ≤ c.toNat ∧ c.toNat ≤ 0x39 then some (c.toNat + 4)
  else if c = '+' then some 62
  else if c = '/' then some 63
  else none

/-- A letter of the alphabet stands for its place in it. -/
theorem sextet?_alphabet : ∀ n < 64, sextet? (alphabet n) = some n := by decide

/-- The padding is no letter. -/
theorem alphabet_ne_pad : ∀ n < 64, alphabet n ≠ '=' := by decide

/-- The letters are ASCII. -/
theorem alphabet_ascii : ∀ n < 64, (alphabet n).toNat < 128 := by decide

/-! ## Encoding -/

/-- The data characters of an encoding, without padding. -/
def encodeData : Bytes → List Char
  | [] => []
  | [a] => [alphabet (a.toNat / 4), alphabet (a.toNat % 4 * 16)]
  | [a, b] =>
      [alphabet (a.toNat / 4), alphabet (a.toNat % 4 * 16 + b.toNat / 16),
        alphabet (b.toNat % 16 * 4)]
  | a :: b :: c :: rest =>
      alphabet (a.toNat / 4) :: alphabet (a.toNat % 4 * 16 + b.toNat / 16)
        :: alphabet (b.toNat % 16 * 4 + c.toNat / 64) :: alphabet (c.toNat % 64)
        :: encodeData rest

/-- The pad characters that complete the last group. -/
def padding (n : Nat) : List Char :=
  if n % 3 = 1 then ['=', '='] else if n % 3 = 2 then ['='] else []

/-- `b64encode(data).decode()`. -/
def encode (data : Bytes) : String := String.ofList (encodeData data ++ padding data.length)

/-- `s.rstrip("=")`. -/
def rstripPad (s : String) : String :=
  String.ofList (s.toList.reverse.dropWhile fun c => c == '=').reverse

/-- Data are written in letters of the alphabet only. -/
theorem encodeData_alphabet (data : Bytes) :
    ∀ c ∈ encodeData data, ∃ n < 64, c = alphabet n := by
  fun_induction encodeData data with
  | case1 => intro c hc; exact nomatch hc
  | case2 a =>
      have ha := UInt8.toNat_lt a
      intro c hc
      simp only [List.mem_cons, List.not_mem_nil, or_false] at hc
      rcases hc with rfl | rfl
      · exact ⟨_, by omega, rfl⟩
      · exact ⟨_, by omega, rfl⟩
  | case3 a b =>
      have ha := UInt8.toNat_lt a
      have hb := UInt8.toNat_lt b
      intro c hc
      simp only [List.mem_cons, List.not_mem_nil, or_false] at hc
      rcases hc with rfl | rfl | rfl
      · exact ⟨_, by omega, rfl⟩
      · exact ⟨_, by omega, rfl⟩
      · exact ⟨_, by omega, rfl⟩
  | case4 a b d rest ih =>
      have ha := UInt8.toNat_lt a
      have hb := UInt8.toNat_lt b
      have hd := UInt8.toNat_lt d
      intro c hc
      simp only [List.mem_cons] at hc
      rcases hc with rfl | rfl | rfl | rfl | hc
      · exact ⟨_, by omega, rfl⟩
      · exact ⟨_, by omega, rfl⟩
      · exact ⟨_, by omega, rfl⟩
      · exact ⟨_, by omega, rfl⟩
      · exact ih c hc

/-- And the rest is padding. -/
theorem padding_all_pad (n : Nat) : ∀ c ∈ padding n, c = '=' := by
  intro c hc
  rw [padding] at hc
  split at hc
  · simpa using hc
  · split at hc
    · simpa using hc
    · exact nomatch hc

/-- Stripping the padding leaves the data characters. -/
theorem rstripPad_encode (data : Bytes) :
    rstripPad (encode data) = String.ofList (encodeData data) := by
  rw [rstripPad, encode, String.toList_ofList, List.reverse_append,
    List.dropWhile_append_of_pos]
  · have hd : (encodeData data).reverse.dropWhile (fun c => c == '=')
        = (encodeData data).reverse := by
      refine Utf8.dropWhile_of_head? _ _ ?_
      intro c hc
      have hm : c ∈ encodeData data := List.mem_reverse.mp (List.mem_of_mem_head? hc)
      obtain ⟨n, hn, rfl⟩ := encodeData_alphabet data c hm
      simpa using alphabet_ne_pad n hn
    rw [hd, List.reverse_reverse]
  · intro c hc
    simpa using padding_all_pad _ c (List.mem_reverse.mp hc)

/-! ## Decoding -/

/-- The state of the decoder between two characters. -/
structure Decoder where
  quad : Nat        -- data characters seen in the current group of four
  left : Nat        -- bits left over from the previous data character
  pads : Nat        -- pad characters since the last data character
  out  : Bytes      -- bytes put out so far
  done : Bool       -- a complete pad ended the input
  deriving DecidableEq, Repr

def Decoder.start : Decoder := ⟨0, 0, 0, [], false⟩

/-- One character. -/
def Decoder.feed (d : Decoder) (c : Char) : Decoder :=
  if d.done then d
  else if c = '=' then
    if 2 ≤ d.quad then
      { d with pads := d.pads + 1, done := decide (4 ≤ d.quad + (d.pads + 1)) }
    else d
  else
    match sextet? c with
    | none => d
    | some v =>
        match d.quad with
        | 0 => { d with quad := 1, left := v, pads := 0 }
        | 1 => { d with
            quad := 2, left := v % 16, pads := 0
            out := d.out ++ [UInt8.ofNat (d.left * 4 + v / 16)] }
        | 2 => { d with
            quad := 3, left := v % 4, pads := 0
            out := d.out ++ [UInt8.ofNat (d.left * 16 + v / 4)] }
        | _ => { d with
            quad := 0, left := 0, pads := 0
            out := d.out ++ [UInt8.ofNat (d.left * 64 + v)] }

def Decoder.feedAll (d : Decoder) (cs : List Char) : Decoder := cs.foldl Decoder.feed d

/-- Why a decoding fails. -/
inductive DecodeError where
  | notAscii                      -- the text has a character beyond ASCII
  | dataCharacters (count : Nat)  -- one data character more than a multiple of four
  | padding                       -- the last group is short of padding
  deriving DecidableEq, Repr

/-- What the decoder makes of the end of the input. -/
def Decoder.finish (d : Decoder) : Except DecodeError Bytes :=
  if d.done then .ok d.out
  else if d.quad = 0 then .ok d.out
  else if d.quad = 1 then .error (.dataCharacters (d.out.length / 3 * 4 + 1))
  else .error .padding

/-- `b64decode(s)` of a string. -/
def decode (s : String) : Except DecodeError Bytes :=
  if s.toList.all Utf8.isAscii then (Decoder.start.feedAll s.toList).finish
  else .error .notAscii

@[simp] theorem Decoder.feedAll_nil (d : Decoder) : d.feedAll [] = d := rfl

@[simp] theorem Decoder.feedAll_cons (d : Decoder) (c : Char) (cs : List Char) :
    d.feedAll (c :: cs) = (d.feed c).feedAll cs := rfl

/-- The first data character of a group is kept whole. -/
theorem Decoder.feed_first {n : Nat} (hn : n < 64) (left pads : Nat) (out : Bytes) :
    (Decoder.mk 0 left pads out false).feed (alphabet n) = ⟨1, n, 0, out, false⟩ := by
  rw [Decoder.feed]
  simp only [Bool.false_eq_true, if_false, alphabet_ne_pad n hn, sextet?_alphabet n hn]

/-- The second completes a byte. -/
theorem Decoder.feed_second {n : Nat} (hn : n < 64) (left pads : Nat) (out : Bytes) :
    (Decoder.mk 1 left pads out false).feed (alphabet n)
      = ⟨2, n % 16, 0, out ++ [UInt8.ofNat (left * 4 + n / 16)], false⟩ := by
  rw [Decoder.feed]
  simp only [Bool.false_eq_true, if_false, alphabet_ne_pad n hn, sextet?_alphabet n hn]

/-- So does the third. -/
theorem Decoder.feed_third {n : Nat} (hn : n < 64) (left pads : Nat) (out : Bytes) :
    (Decoder.mk 2 left pads out false).feed (alphabet n)
      = ⟨3, n % 4, 0, out ++ [UInt8.ofNat (left * 16 + n / 4)], false⟩ := by
  rw [Decoder.feed]
  simp only [Bool.false_eq_true, if_false, alphabet_ne_pad n hn, sextet?_alphabet n hn]

/-- And the fourth, which ends the group. -/
theorem Decoder.feed_fourth {n : Nat} (hn : n < 64) (left pads : Nat) (out : Bytes) :
    (Decoder.mk 3 left pads out false).feed (alphabet n)
      = ⟨0, 0, 0, out ++ [UInt8.ofNat (left * 64 + n)], false⟩ := by
  rw [Decoder.feed]
  simp only [Bool.false_eq_true, if_false, alphabet_ne_pad n hn, sextet?_alphabet n hn]

/-- The first byte of a group from its letters. -/
theorem ofNat_div_four_mul (a : UInt8) (x : Nat) (hx : x < 16) :
    UInt8.ofNat (a.toNat / 4 * 4 + (a.toNat % 4 * 16 + x) / 16) = a := by
  have h : a.toNat / 4 * 4 + (a.toNat % 4 * 16 + x) / 16 = a.toNat := by omega
  rw [h, UInt8.ofNat_toNat]

/-- The second byte of a group from its letters. -/
theorem ofNat_div_sixteen_mul (a b : UInt8) (x : Nat) (hx : x < 4) :
    UInt8.ofNat ((a.toNat % 4 * 16 + b.toNat / 16) % 16 * 16 + (b.toNat % 16 * 4 + x) / 4) = b := by
  have hb := UInt8.toNat_lt b
  have h : (a.toNat % 4 * 16 + b.toNat / 16) % 16 * 16 + (b.toNat % 16 * 4 + x) / 4
      = b.toNat := by omega
  rw [h, UInt8.ofNat_toNat]

/-- The third byte of a group from its letters. -/
theorem ofNat_mod_sixtyfour (b c : UInt8) :
    UInt8.ofNat ((b.toNat % 16 * 4 + c.toNat / 64) % 4 * 64 + c.toNat % 64) = c := by
  have hc := UInt8.toNat_lt c
  have h : (b.toNat % 16 * 4 + c.toNat / 64) % 4 * 64 + c.toNat % 64 = c.toNat := by omega
  rw [h, UInt8.ofNat_toNat]

/-- The bytes behind unpadded data followed by the three pad characters: whole
    groups leave the decoder at a group boundary, and a short last group is
    completed by the first pads. -/
theorem Decoder.finish_encodeData (data : Bytes) :
    ∀ out : Bytes,
      ((Decoder.mk 0 0 0 out false).feedAll (encodeData data ++ ['=', '=', '='])).finish
        = .ok (out ++ data) := by
  fun_induction encodeData data with
  | case1 =>
      intro out
      rw [List.append_nil]
      rfl
  | case2 a =>
      intro out
      -- Two characters: the first two pads close the group.
      have ha := UInt8.toNat_lt a
      have hx := ofNat_div_four_mul a 0 (by omega)
      rw [Nat.add_zero] at hx
      simp only [List.cons_append, List.nil_append, Decoder.feedAll_cons]
      rw [Decoder.feed_first (by omega), Decoder.feed_second (by omega), hx]
      rfl
  | case3 a b =>
      intro out
      -- Three characters: the first pad closes the group.
      have ha := UInt8.toNat_lt a
      have hb := UInt8.toNat_lt b
      have hx := ofNat_div_sixteen_mul a b 0 (by omega)
      rw [Nat.add_zero] at hx
      simp only [List.cons_append, List.nil_append, Decoder.feedAll_cons]
      rw [Decoder.feed_first (by omega), Decoder.feed_second (by omega),
        Decoder.feed_third (by omega), ofNat_div_four_mul a (b.toNat / 16) (by omega), hx]
      simp only [List.append_assoc, List.singleton_append]
      rfl
  | case4 a b c rest ih =>
      intro out
      -- A whole group: the decoder is at a boundary again, with three bytes more.
      have ha := UInt8.toNat_lt a
      have hb := UInt8.toNat_lt b
      have hc := UInt8.toNat_lt c
      simp only [List.cons_append, Decoder.feedAll_cons]
      rw [Decoder.feed_first (by omega), Decoder.feed_second (by omega),
        Decoder.feed_third (by omega), Decoder.feed_fourth (by omega),
        ofNat_div_four_mul a (b.toNat / 16) (by omega),
        ofNat_div_sixteen_mul a b (c.toNat / 64) (by omega), ofNat_mod_sixtyfour b c, ih]
      simp

/-- Encoded data are ASCII text. -/
theorem encodeData_ascii (data : Bytes) : (encodeData data).all Utf8.isAscii = true := by
  refine List.all_eq_true.mpr ?_
  intro c hc
  obtain ⟨n, hn, rfl⟩ := encodeData_alphabet data c hc
  simpa [Utf8.isAscii] using alphabet_ascii n hn

/-- **Round trip on the wire**: unpadded by the sender, over-padded by the
    receiver, for data of every length. -/
theorem decode_strip_encode (data : Bytes) :
    decode (rstripPad (encode data) ++ "===") = .ok data := by
  have hl : (rstripPad (encode data) ++ "===").toList = encodeData data ++ ['=', '=', '='] := by
    rw [rstripPad_encode, String.toList_append, String.toList_ofList]
    rfl
  rw [decode, hl, if_pos, Decoder.start, Decoder.finish_encodeData]
  · rfl
  · rw [List.all_append, encodeData_ascii]
    rfl

/-- Once the decoder has everything, a further pad changes nothing. -/
theorem Decoder.finish_feed_pad {d : Decoder} {out : Bytes} (h : d.finish = .ok out) :
    (d.feed '=').finish = .ok out := by
  rw [Decoder.feed]
  by_cases hdone : d.done = true
  · rw [if_pos hdone]
    exact h
  · have hquad : d.quad = 0 := by
      by_contra hne
      rw [Decoder.finish, if_neg hdone, if_neg hne] at h
      split at h
      · exact nomatch h
      · exact nomatch h
    rw [if_neg hdone, if_pos rfl, if_neg (by omega)]
    exact h

/-- Any padding after complete data changes nothing. -/
theorem Decoder.finish_feedAll_pads (n : Nat) {d : Decoder} {out : Bytes}
    (h : d.finish = .ok out) : (d.feedAll (List.replicate n '=')).finish = .ok out := by
  induction n generalizing d with
  | zero => exact h
  | succ n ih => exact ih (Decoder.finish_feed_pad h)

/-- A text is fed in parts. -/
theorem Decoder.feedAll_append (d : Decoder) (cs cs' : List Char) :
    d.feedAll (cs ++ cs') = (d.feedAll cs).feedAll cs' := List.foldl_append

/-- The padding is a number of `=`. -/
theorem padding_eq_replicate (n : Nat) : ∃ k, padding n = List.replicate k '=' := by
  rw [padding]
  split
  · exact ⟨2, rfl⟩
  · split
    · exact ⟨1, rfl⟩
    · exact ⟨0, rfl⟩

/-- **Padded twice.**  The receiver adds three pad characters to an encoding that has
    its padding. -/
theorem decode_encode_pads (data : Bytes) : decode (encode data ++ "===") = .ok data := by
  obtain ⟨k, hk⟩ := padding_eq_replicate data.length
  have hl : (encode data ++ "===").toList
      = encodeData data ++ ['=', '=', '='] ++ List.replicate k '=' := by
    have hcomm : List.replicate k '=' ++ List.replicate 3 '='
        = List.replicate 3 '=' ++ List.replicate k '=' := by
      rw [List.replicate_append_replicate, List.replicate_append_replicate, Nat.add_comm]
    rw [encode, hk, String.toList_append, String.toList_ofList, List.append_assoc,
      List.append_assoc]
    exact congrArg _ hcomm
  have hpads : (List.replicate k '=').all Utf8.isAscii = true := by
    rw [List.all_eq_true]
    intro c hc
    rw [List.eq_of_mem_replicate hc]
    rfl
  have hascii : (encodeData data ++ ['=', '=', '='] ++ List.replicate k '=').all Utf8.isAscii
      = true := by
    rw [List.all_append, List.all_append, encodeData_ascii, hpads]
    rfl
  rw [decode, hl, if_pos hascii, Decoder.start, Decoder.feedAll_append]
  exact Decoder.finish_feedAll_pads k (Decoder.finish_encodeData data [])

/-! ## Texts that are base64

    The decoder takes nearly every text.  `decodeStrict` takes those that are
    base64: characters of the alphabet in groups of four, the last of which may be
    short, without padding or with all of it. -/

/-- The bytes of a list of sextets. -/
def decodeGroups : List Nat → Option Bytes
  | [] => some []
  | [_] => none
  | [a, b] => some [UInt8.ofNat (a * 4 + b / 16)]
  | [a, b, c] => some [UInt8.ofNat (a * 4 + b / 16), UInt8.ofNat (b % 16 * 16 + c / 4)]
  | a :: b :: c :: d :: rest => (decodeGroups rest).map fun out =>
      UInt8.ofNat (a * 4 + b / 16) :: UInt8.ofNat (b % 16 * 16 + c / 4)
        :: UInt8.ofNat (c % 4 * 64 + d) :: out

/-- The sextets of some characters, all of them in the alphabet. -/
def sextets? : List Char → Option (List Nat)
  | [] => some []
  | c :: cs =>
      match sextet? c, sextets? cs with
      | some n, some ns => some (n :: ns)
      | _, _ => none

/-- No padding, or what completes the last group. -/
def padded (data pads : List Char) : Bool :=
  pads.isEmpty || (pads == ['='] || pads == ['=', '=']) && (data.length + pads.length) % 4 == 0

/-- The bytes of a text that is base64, none for any other text. -/
def decodeStrict (s : String) : Option Bytes :=
  let data := s.toList.takeWhile fun c => c != '='
  let pads := s.toList.dropWhile fun c => c != '='
  if padded data pads then (sextets? data).bind decodeGroups else none

/-- A character that stands for a number is its letter. -/
theorem alphabet_of_sextet? {c : Char} {n : Nat} (h : sextet? c = some n) :
    n < 64 ∧ c = alphabet n := by
  have hchar : ∀ {k : Nat}, c.toNat = k → c = Char.ofNat k := by
    rintro k rfl
    exact (Char.ofNat_toNat c).symm
  rw [sextet?] at h
  split at h
  · next hupper =>
      obtain rfl := Option.some.inj h
      refine ⟨by omega, hchar ?_⟩
      rw [if_pos (by omega)]
      omega
  · split at h
    · next hlower =>
        obtain rfl := Option.some.inj h
        refine ⟨by omega, hchar ?_⟩
        rw [if_neg (by omega), if_pos (by omega)]
        omega
    · split at h
      · next hdigit =>
          obtain rfl := Option.some.inj h
          refine ⟨by omega, hchar ?_⟩
          rw [if_neg (by omega), if_neg (by omega), if_pos (by omega)]
          omega
      · split at h
        · next hplus =>
            obtain rfl := Option.some.inj h
            exact ⟨by decide, hplus⟩
        · split at h
          · next hslash =>
              obtain rfl := Option.some.inj h
              exact ⟨by decide, hslash⟩
          · exact nomatch h

/-- And a text of them is the text of their letters. -/
theorem map_alphabet_of_sextets? {cs : List Char} {ns : List Nat} (h : sextets? cs = some ns) :
    (∀ n ∈ ns, n < 64) ∧ cs = ns.map alphabet := by
  induction cs generalizing ns with
  | nil =>
      obtain rfl := Option.some.inj h
      exact ⟨nofun, rfl⟩
  | cons c cs ih =>
      rw [sextets?] at h
      split at h
      · next n ns' hn hns =>
          obtain rfl := Option.some.inj h
          obtain ⟨hlt, rfl⟩ := alphabet_of_sextet? hn
          obtain ⟨hall, rfl⟩ := ih hns
          refine ⟨fun m hm => ?_, rfl⟩
          rcases List.mem_cons.mp hm with rfl | hm
          · exact hlt
          · exact hall m hm
      · exact nomatch h

/-- The groups behind the three pad characters of the receiver. -/
theorem Decoder.finish_groups {ns : List Nat} (hns : ∀ n ∈ ns, n < 64) {b : Bytes}
    (hb : decodeGroups ns = some b) (out : Bytes) :
    ((Decoder.mk 0 0 0 out false).feedAll (ns.map alphabet ++ ['=', '=', '='])).finish
      = .ok (out ++ b) := by
  fun_induction decodeGroups ns generalizing b out with
  | case1 =>
      obtain rfl := Option.some.inj hb
      rw [List.append_nil]
      rfl
  | case2 => exact nomatch hb
  | case3 x y =>
      obtain rfl := Option.some.inj hb
      simp only [List.map_cons, List.map_nil, List.cons_append, List.nil_append,
        Decoder.feedAll_cons]
      rw [Decoder.feed_first (hns x (by simp)), Decoder.feed_second (hns y (by simp))]
      rfl
  | case4 x y z =>
      obtain rfl := Option.some.inj hb
      simp only [List.map_cons, List.map_nil, List.cons_append, List.nil_append,
        Decoder.feedAll_cons]
      rw [Decoder.feed_first (hns x (by simp)), Decoder.feed_second (hns y (by simp)),
        Decoder.feed_third (hns z (by simp))]
      simp only [List.append_assoc, List.singleton_append]
      rfl
  | case5 x y z w rest ih =>
      obtain ⟨tail, htail, rfl⟩ := Option.map_eq_some_iff.mp hb
      simp only [List.map_cons, List.cons_append, Decoder.feedAll_cons]
      rw [Decoder.feed_first (hns x (by simp)), Decoder.feed_second (hns y (by simp)),
        Decoder.feed_third (hns z (by simp)), Decoder.feed_fourth (hns w (by simp)),
        ih (fun n hn => hns n (by simp [hn])) htail]
      simp

/-- Pads behind the groups end up behind the three. -/
theorem decode_groups_pads {ns : List Nat} (hns : ∀ n ∈ ns, n < 64) {b : Bytes}
    (hb : decodeGroups ns = some b) (k : Nat) {s : String}
    (hs : s.toList = ns.map alphabet ++ List.replicate k '=') : decode (s ++ "===") = .ok b := by
  have hl : (s ++ "===").toList
      = ns.map alphabet ++ ['=', '=', '='] ++ List.replicate k '=' := by
    have hcomm : List.replicate k '=' ++ List.replicate 3 '='
        = List.replicate 3 '=' ++ List.replicate k '=' := by
      rw [List.replicate_append_replicate, List.replicate_append_replicate, Nat.add_comm]
    rw [String.toList_append, hs, List.append_assoc, List.append_assoc]
    exact congrArg _ hcomm
  have hascii : (ns.map alphabet ++ ['=', '=', '='] ++ List.replicate k '=').all Utf8.isAscii
      = true := by
    rw [List.all_eq_true]
    intro c hc
    simp only [List.mem_append, List.mem_map, List.mem_cons, List.not_mem_nil, or_false,
      List.mem_replicate] at hc
    rcases hc with (⟨n, hn, rfl⟩ | rfl | rfl | rfl) | ⟨-, rfl⟩
    · exact decide_eq_true (alphabet_ascii n (hns n hn))
    · rfl
    · rfl
    · rfl
    · rfl
  rw [decode, hl, if_pos hascii, Decoder.start, Decoder.feedAll_append]
  exact Decoder.finish_feedAll_pads k (Decoder.finish_groups hns hb [])

/-- **The lenient decoder on base64**, to which the receiver adds pad characters. -/
theorem decode_of_decodeStrict {s : String} {b : Bytes} (h : decodeStrict s = some b) :
    decode (s ++ "===") = .ok b := by
  rw [decodeStrict] at h
  split at h
  · next hpadded =>
      obtain ⟨ns, hns, hb⟩ := Option.bind_eq_some_iff.mp h
      obtain ⟨hlt, hdata⟩ := map_alphabet_of_sextets? hns
      obtain ⟨k, hk⟩ : ∃ k, s.toList.dropWhile (fun c => c != '=') = List.replicate k '=' := by
        rw [padded, Bool.or_eq_true, Bool.and_eq_true, Bool.or_eq_true, beq_iff_eq, beq_iff_eq,
          List.isEmpty_iff] at hpadded
        rcases hpadded with hp | ⟨hp | hp, -⟩
        · exact ⟨0, hp⟩
        · exact ⟨1, hp⟩
        · exact ⟨2, hp⟩
      refine decode_groups_pads hlt hb k ?_
      rw [← hdata, ← hk, List.takeWhile_append_dropWhile]
  · exact nomatch h

/-- The lenient decoder makes something of a text that is not base64. -/
example : decodeStrict "Zg==" = some [102] ∧ decodeStrict "Zg" = some [102]
    ∧ decodeStrict "Z!g" = none ∧ decode ("Z!g" ++ "===") = .ok [102] := by
  decide +kernel

/-! ## What the decoder refuses

    Behind the pads that are added only a group of one data character is an error, and
    not even that when a group before it was completed by a pad: the decoder stops
    there. -/

/-- The character is in the alphabet. -/
def isData (c : Char) : Bool := (sextet? c).isSome

/-- The data characters of the last group. -/
def groupData (cs : List Char) : Nat := cs.countP isData % 4

/-- The pad characters behind the last data character. -/
def openPads (cs : List Char) : Nat := (cs.reverse.takeWhile fun c => !isData c).count '='

/-- Some pad character completes a group. -/
def Completes (cs : List Char) : Prop :=
  ∃ p, p ++ ['='] <+: cs ∧ 2 ≤ groupData p ∧ 4 ≤ groupData p + (openPads p + 1)

section Snoc

variable {cs : List Char} {c : Char}

theorem groupData_lt (cs : List Char) : groupData cs < 4 := Nat.mod_lt _ (by decide)

/-- A letter more in the group. -/
theorem groupData_snoc (h : isData c = true) :
    groupData (cs ++ [c]) = (groupData cs + 1) % 4 := by
  rw [groupData, groupData, List.countP_append, List.countP_cons_of_pos h, List.countP_nil]
  omega

/-- Any other character adds nothing to the group. -/
theorem groupData_snoc_other (h : isData c = false) : groupData (cs ++ [c]) = groupData cs := by
  rw [groupData, groupData, List.countP_append, List.countP_cons_of_neg (by simp [h]),
    List.countP_nil, Nat.add_zero]

/-- A letter starts the count of the padding anew. -/
theorem openPads_snoc (h : isData c = true) : openPads (cs ++ [c]) = 0 := by
  simp [openPads, h]

/-- A `=` counts one more. -/
theorem openPads_snoc_pad : openPads (cs ++ ['=']) = openPads cs + 1 := by
  have hpad : isData '=' = false := by decide
  simp [openPads, hpad]

/-- Characters that are skipped leave the count. -/
theorem openPads_snoc_other (h : isData c = false) (hpad : c ≠ '=') :
    openPads (cs ++ [c]) = openPads cs := by
  simp [openPads, h, List.count_cons_of_ne hpad]

/-- Padding completes a text at its last character, or did so before. -/
theorem completes_snoc : Completes (cs ++ [c])
    ↔ Completes cs ∨ c = '=' ∧ 2 ≤ groupData cs ∧ 4 ≤ groupData cs + (openPads cs + 1) := by
  constructor
  · rintro ⟨p, hp, hgroup⟩
    rcases List.prefix_concat_iff.mp hp with heq | hp
    · obtain ⟨rfl, hc⟩ := List.append_inj' heq rfl
      exact Or.inr ⟨(List.singleton_inj.mp hc).symm, hgroup⟩
    · exact Or.inl ⟨p, hp, hgroup⟩
  · rintro (⟨p, hp, hgroup⟩ | ⟨rfl, hgroup⟩)
    · exact ⟨p, hp.trans (List.prefix_append _ _), hgroup⟩
    · exact ⟨cs, List.prefix_refl _, hgroup⟩

end Snoc

/-- What the decoder knows of the characters it was fed. -/
structure Decoder.Knows (d : Decoder) (cs : List Char) : Prop where
  done : d.done = true ↔ Completes cs
  quad : d.done = false → d.quad = groupData cs
  pads : d.done = false → 2 ≤ d.quad → d.pads = openPads cs

/-- What follows complete padding is ignored. -/
theorem Decoder.feed_done {d : Decoder} (h : d.done = true) (c : Char) : d.feed c = d := by
  rw [Decoder.feed, if_pos h]

/-- A data character opens the group further, or begins one. -/
theorem Decoder.feed_data {d : Decoder} (hdone : d.done = false) (hquad : d.quad < 4) {c : Char}
    (h : isData c = true) :
    (d.feed c).done = false ∧ (d.feed c).quad = (d.quad + 1) % 4 ∧ (d.feed c).pads = 0 := by
  obtain ⟨v, hv⟩ := Option.isSome_iff_exists.mp h
  have hpad : c ≠ '=' := by
    rintro rfl
    exact absurd h (by decide)
  obtain ⟨quad, left, pads, out, done⟩ := d
  dsimp only at hdone hquad
  subst hdone
  rw [Decoder.feed, if_neg Bool.false_ne_true, if_neg hpad, hv]
  match quad, hquad with
  | 0, _ => exact ⟨rfl, rfl, rfl⟩
  | 1, _ => exact ⟨rfl, rfl, rfl⟩
  | 2, _ => exact ⟨rfl, rfl, rfl⟩
  | 3, _ => exact ⟨rfl, by simp, rfl⟩

/-- What is neither a letter nor padding is skipped. -/
theorem Decoder.feed_other {d : Decoder} {c : Char} (h : isData c = false) (hpad : c ≠ '=') :
    d.feed c = d := by
  have hnone : sextet? c = none := by
    rw [isData, Option.isSome_eq_false_iff, Option.isNone_iff_eq_none] at h
    exact h
  rw [Decoder.feed, if_neg hpad, hnone, ite_self]

/-- The step: one character more. -/
theorem Decoder.Knows.feed {d : Decoder} {cs : List Char} (h : d.Knows cs) (c : Char) :
    (d.feed c).Knows (cs ++ [c]) := by
  cases hdone : d.done with
  | true =>
      -- The text was complete before, and stays so.
      rw [Decoder.feed_done hdone]
      refine ⟨⟨fun _ => completes_snoc.mpr (Or.inl (h.done.mp hdone)), fun _ => hdone⟩, ?_, ?_⟩
      · intro hfalse
        exact absurd (hdone.symm.trans hfalse) (by decide)
      · intro hfalse
        exact absurd (hdone.symm.trans hfalse) (by decide)
  | false =>
      have hopen : ¬ Completes cs := by
        rw [← h.done, hdone]
        exact Bool.false_ne_true
      -- Open: how far the group is decides what the character does.
      have hquad := h.quad hdone
      have hlt := groupData_lt cs
      by_cases hc : isData c = true
      · obtain ⟨hdone', hquad', hpads'⟩ := Decoder.feed_data hdone (hquad ▸ hlt) hc
        have hpad : c ≠ '=' := by
          rintro rfl
          exact absurd hc (by decide)
        refine ⟨?_, fun _ => ?_, fun _ _ => ?_⟩
        · rw [hdone', completes_snoc]
          simp [hopen, hpad]
        · rw [hquad', hquad, groupData_snoc hc]
        · rw [hpads', openPads_snoc hc]
      · have hc : isData c = false := Bool.eq_false_iff.mpr hc
        by_cases hpad : c = '='
        · subst hpad
          -- Padding: it counts from the second letter of a group on.
          rw [Decoder.feed, hdone, if_neg Bool.false_ne_true, if_pos rfl]
          split
          · next htwo =>
              have hpads := h.pads hdone htwo
              refine ⟨?_, fun _ => ?_, fun _ _ => ?_⟩
              · rw [decide_eq_true_iff, completes_snoc, hquad, hpads]
                constructor
                · exact fun hfour => Or.inr ⟨rfl, hquad ▸ htwo, hfour⟩
                · rintro (hcomplete | ⟨-, -, hfour⟩)
                  · exact absurd hcomplete hopen
                  · exact hfour
              · rw [groupData_snoc_other hc]
                exact hquad
              · rw [openPads_snoc_pad, ← hpads]
          · next htwo =>
              refine ⟨?_, fun _ => ?_, fun _ htwo' => absurd htwo' htwo⟩
              · rw [completes_snoc, hdone]
                constructor
                · exact fun hfalse => absurd hfalse Bool.false_ne_true
                · rintro (hcomplete | ⟨-, htwo', -⟩)
                  · exact absurd hcomplete hopen
                  · exact absurd (hquad ▸ htwo') htwo
              · rw [groupData_snoc_other hc]
                exact hquad
        · rw [Decoder.feed_other hc hpad]
          refine ⟨?_, fun _ => ?_, fun _ htwo => ?_⟩
          · rw [completes_snoc, h.done]
            simp [hpad]
          · rw [groupData_snoc_other hc]
            exact hquad
          · rw [openPads_snoc_other hc hpad]
            exact h.pads hdone htwo

/-- The run, over any text. -/
theorem Decoder.knows_feedAll (cs : List Char) : (Decoder.start.feedAll cs).Knows cs := by
  induction cs using List.reverseRecOn with
  | nil =>
      refine ⟨⟨fun h => absurd h Bool.false_ne_true, ?_⟩, fun _ => rfl, fun _ _ => rfl⟩
      rintro ⟨p, hp, -⟩
      exact absurd (List.prefix_nil.mp hp) (by simp)
  | append_singleton cs c ih =>
      rw [Decoder.feedAll_append, Decoder.feedAll_cons, Decoder.feedAll_nil]
      exact ih.feed c

/-- Three pads complete every group but one of a single character. -/
theorem Decoder.finish_three_pads {d : Decoder} (hquad : d.done = false → d.quad < 4) :
    (∃ e, (d.feedAll ['=', '=', '=']).finish = .error e) ↔ d.done = false ∧ d.quad = 1 := by
  obtain ⟨quad, left, pads, out, done⟩ := d
  cases done with
  | true => simp [Decoder.feed, Decoder.finish]
  | false =>
      match quad, hquad rfl with
      | 0, _ => simp [Decoder.feed, Decoder.finish]
      | 1, _ => simp [Decoder.feed, Decoder.finish]
      | 2, _ =>
          by_cases hpads : 1 ≤ pads
          · simp [Decoder.feed, Decoder.finish, show 4 ≤ 2 + (pads + 1) by omega]
          · simp [Decoder.feed, Decoder.finish, show ¬ 4 ≤ 2 + (pads + 1) by omega,
              show 4 ≤ 2 + (pads + 1 + 1) by omega]
      | 3, _ => simp [Decoder.feed, Decoder.finish, show 4 ≤ 3 + (pads + 1) by omega]

/-- **What is refused**: text beyond ASCII, and a last group of one data character that
    no completed group stands before. -/
theorem decode_error_iff (s : String) :
    (∃ e, decode (s ++ "===") = .error e)
      ↔ s.toList.all Utf8.isAscii = false ∨ ¬ Completes s.toList ∧ groupData s.toList = 1 := by
  have hl : (s ++ "===").toList = s.toList ++ ['=', '=', '='] := by
    rw [String.toList_append]
    rfl
  have hall : (s.toList ++ ['=', '=', '=']).all Utf8.isAscii = s.toList.all Utf8.isAscii := by
    rw [List.all_append]
    exact Bool.and_true _
  rw [decode, hl, hall]
  cases hascii : s.toList.all Utf8.isAscii with
  | false => simp
  | true =>
      have hknows := Decoder.knows_feedAll s.toList
      rw [if_pos rfl, Decoder.feedAll_append, Decoder.finish_three_pads]
      · rw [← hknows.done, Bool.not_eq_true]
        constructor
        · rintro ⟨hdone, hquad⟩
          exact Or.inr ⟨hdone, hknows.quad hdone ▸ hquad⟩
        · rintro (hfalse | ⟨hdone, hquad⟩)
          · exact absurd hfalse (by decide)
          · exact ⟨hdone, (hknows.quad hdone).trans hquad⟩
      · intro hdone
        rw [hknows.quad hdone]
        exact groupData_lt _

/-! ## The alphabet for URLs -/

/-- `urlsafe_b64encode(data).decode("ascii")`. -/
def urlsafeEncode (data : Bytes) : String :=
  String.ofList ((encode data).toList.map fun c =>
    if c = '+' then '-' else if c = '/' then '_' else c)

/-- The two characters that differ come back. -/
theorem map_urlsafeEncode (data : Bytes) :
    String.ofList ((urlsafeEncode data).toList.map fun c =>
      if c = '-' then '+' else if c = '_' then '/' else c) = encode data := by
  have halphabet : ∀ n < 64, (fun c : Char => if c = '-' then '+' else if c = '_' then '/' else c)
      (if alphabet n = '+' then '-' else if alphabet n = '/' then '_' else alphabet n)
        = alphabet n := by decide
  rw [urlsafeEncode, String.toList_ofList, List.map_map, encode, String.toList_ofList]
  refine congrArg String.ofList ?_
  rw [List.map_congr_left (g := id), List.map_id]
  intro c hc
  rcases List.mem_append.mp hc with hdata | hpad
  · obtain ⟨n, hn, rfl⟩ := encodeData_alphabet data c hdata
    exact halphabet n hn
  · rw [padding_all_pad _ c hpad]
    rfl

/-- The character of the standard alphabet. -/
def fromUrlsafe (c : Char) : Char := if c = '-' then '+' else if c = '_' then '/' else c

/-- The character of a sextet, in the alphabet for URLs. -/
def urlsafeAlphabet (n : Nat) : Char :=
  if n = 62 then '-' else if n = 63 then '_' else alphabet n

/-- The two alphabets agree place by place. -/
theorem fromUrlsafe_urlsafeAlphabet : ∀ n < 64, fromUrlsafe (urlsafeAlphabet n) = alphabet n := by
  decide

/-- Translation keeps ASCII, and makes none. -/
theorem isAscii_fromUrlsafe (c : Char) : Utf8.isAscii (fromUrlsafe c) = Utf8.isAscii c := by
  rw [fromUrlsafe]
  split
  · next h => rw [h]; rfl
  · split
    · next h => rw [h]; rfl
    · rfl

/-- A text in the alphabet for URLs, with correct padding or with none, and its bytes. -/
def IsUrlsafe (s : String) (b : Bytes) : Prop :=
  ∃ ns k, (∀ n ∈ ns, n < 64) ∧ decodeGroups ns = some b
    ∧ s.toList = ns.map urlsafeAlphabet ++ List.replicate k '='
    ∧ (k = 0 ∨ k ≤ 2 ∧ (ns.length + k) % 4 = 0)

/-- The decoder takes it for what it is. -/
theorem IsUrlsafe.decode {s : String} {b : Bytes} (h : IsUrlsafe s b) :
    decode (String.ofList (s.toList.map fromUrlsafe) ++ "===") = .ok b := by
  obtain ⟨ns, k, hns, hb, hs, -⟩ := h
  refine decode_groups_pads hns hb k ?_
  have hdata : (ns.map urlsafeAlphabet).map fromUrlsafe = ns.map alphabet := by
    rw [List.map_map]
    exact List.map_congr_left fun n hn => fromUrlsafe_urlsafeAlphabet n (hns n hn)
  have hpad : fromUrlsafe '=' = '=' := by decide
  rw [String.toList_ofList, hs, List.map_append, hdata, List.map_replicate, hpad]

/-- So its bytes are the only ones. -/
theorem IsUrlsafe.unique {s : String} {b b' : Bytes} (h : IsUrlsafe s b) (h' : IsUrlsafe s b') :
    b = b' := Except.ok.inj (h.decode.symm.trans h'.decode)

/-- Stripped base64 is empty only for empty data. -/
theorem rstripPad_encode_eq_empty_iff (data : Bytes) :
    rstripPad (encode data) = "" ↔ data = [] := by
  constructor
  · intro h
    have hd := decode_strip_encode data
    rw [h] at hd
    exact (Except.ok.inj hd).symm
  · rintro rfl
    rfl

example : encode [102, 111, 111, 98] = "Zm9vYg==" := by decide +kernel

end Base64
