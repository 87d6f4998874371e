import ConnectPy.Utf8Proofs

/-! # Length-prefixed frames — a flag byte, a length, a payload

    A frame is written as one flag byte, the length of the payload in four bytes
    (big-endian), and the payload.  The bound on the payload is a field of
    `Frame`, so every frame has bytes.

    Writing and reading meet in two facts: the prefix of written bytes shows the
    flag and the length (`flagOf_bytes`, `lengthOf_bytes`), and bytes that hold
    as many symbols as their prefix promises begin with a frame
    (`exists_frame`). -/

namespace Framing

open Utf8 (Bytes)

/-! ## Four bytes, big-endian -/

/-- The big-endian bytes of a number below 2^32. -/
def be32 (n : Nat) : Bytes :=
  [UInt8.ofNat (n / 0x1000000), UInt8.ofNat (n / 0x10000), UInt8.ofNat (n / 0x100),
    UInt8.ofNat n]

/-- `int.from_bytes(b, "big")`. -/
def fromBytesBig (b : Bytes) : Nat := b.foldl (fun n x => n * 0x100 + x.toNat) 0

/-- A length field has four bytes. -/
@[simp] theorem be32_length (n : Nat) : (be32 n).length = 4 := rfl

/-- A length below 2^32 is read back from its field. -/
theorem fromBytesBig_be32 {n : Nat} (h : n < 0x100000000) : fromBytesBig (be32 n) = n := by
  show (((0 * 0x100 + (UInt8.ofNat (n / 0x1000000)).toNat) * 0x100
    + (UInt8.ofNat (n / 0x10000)).toNat) * 0x100 + (UInt8.ofNat (n / 0x100)).toNat) * 0x100
    + (UInt8.ofNat n).toNat = n
  simp only [UInt8.toNat_ofNat']
  omega

/-- The value of a length field, written out. -/
theorem fromBytesBig_four (a b c d : UInt8) :
    fromBytesBig [a, b, c, d]
      = ((a.toNat * 0x100 + b.toNat) * 0x100 + c.toNat) * 0x100 + d.toNat := by
  show (((0 * 0x100 + a.toNat) * 0x100 + b.toNat) * 0x100 + c.toNat) * 0x100 + d.toNat = _
  rw [Nat.zero_mul, Nat.zero_add]

/-- A length field holds less than 2^32. -/
theorem fromBytesBig_four_lt (a b c d : UInt8) : fromBytesBig [a, b, c, d] < 0x100000000 := by
  have ha := UInt8.toNat_lt a
  have hb := UInt8.toNat_lt b
  have hc := UInt8.toNat_lt c
  have hd := UInt8.toNat_lt d
  rw [fromBytesBig_four]
  omega

/-- A length field is the one of the length it holds. -/
theorem be32_fromBytesBig (a b c d : UInt8) : be32 (fromBytesBig [a, b, c, d]) = [a, b, c, d] := by
  have ha := UInt8.toNat_lt a
  have hb := UInt8.toNat_lt b
  have hc := UInt8.toNat_lt c
  have hd := UInt8.toNat_lt d
  -- Each byte is the number modulo 256 after the lower bytes are cut off.
  have byte : ∀ (x : UInt8) (n : Nat), n % 0x100 = x.toNat → UInt8.ofNat n = x := by
    intro x n h
    refine UInt8.toNat_inj.mp ?_
    rw [UInt8.toNat_ofNat']
    exact h
  rw [fromBytesBig_four, be32, byte a _ (by omega), byte b _ (by omega), byte c _ (by omega),
    byte d _ (by omega)]

/-! ## Frames -/

/-- A flag byte and a payload whose length fits into four bytes. -/
structure Frame where
  flags   : UInt8
  payload : Bytes
  small   : payload.length < 0x100000000

/-- The prefix of a frame: flag and length. -/
def framePrefix (flags : UInt8) (length : Nat) : Bytes := flags :: be32 length

/-- The bytes of a frame. -/
def Frame.bytes (f : Frame) : Bytes := framePrefix f.flags f.payload.length ++ f.payload

/-- The flag byte at the front of a buffer. -/
def flagOf (b : Bytes) : UInt8 := b.headD 0

/-- The length that the prefix at the front of a buffer promises. -/
def lengthOf (b : Bytes) : Nat := fromBytesBig ((b.drop 1).take 4)

/-- The proof that the payload fits tells no two frames apart. -/
theorem Frame.ext {f g : Frame} (hf : f.flags = g.flags) (hp : f.payload = g.payload) :
    f = g := by
  cases f; cases g; cases hf; cases hp; rfl

/-- A prefix has five bytes. -/
@[simp] theorem framePrefix_length (flags : UInt8) (n : Nat) :
    (framePrefix flags n).length = 5 := rfl

/-- A frame is its prefix and its payload. -/
theorem Frame.bytes_length (f : Frame) : f.bytes.length = f.payload.length + 5 := by
  rw [Frame.bytes, List.length_append, framePrefix_length, Nat.add_comm]

/-- No frame is empty, so a reader of frames makes progress. -/
theorem Frame.bytes_ne_nil (f : Frame) : f.bytes ≠ [] := by
  intro h
  exact nomatch h

/-- The flags of the first frame. -/
@[simp] theorem flagOf_bytes (f : Frame) (rest : Bytes) : flagOf (f.bytes ++ rest) = f.flags := rfl

/-- The length of the first frame. -/
@[simp] theorem lengthOf_bytes (f : Frame) (rest : Bytes) :
    lengthOf (f.bytes ++ rest) = f.payload.length :=
  fromBytesBig_be32 f.small

/-- The payload is what stands between the prefix and the rest. -/
theorem payload_bytes (f : Frame) (rest : Bytes) :
    ((f.bytes ++ rest).drop 5).take f.payload.length = f.payload := by
  show (f.payload ++ rest).take f.payload.length = f.payload
  exact List.take_left

/-- What comes after the first frame. -/
theorem drop_bytes (f : Frame) (rest : Bytes) :
    (f.bytes ++ rest).drop (5 + f.payload.length) = rest := by
  rw [← List.drop_drop]
  show (f.payload ++ rest).drop f.payload.length = rest
  exact List.drop_left

/-- The prefix does not change when more bytes stand behind it. -/
theorem flagOf_append {b : Bytes} (h : b ≠ []) (x : Bytes) : flagOf (b ++ x) = flagOf b := by
  cases b with
  | nil => exact absurd rfl h
  | cons a b => rfl

/-- The length, too, needs only the prefix. -/
theorem lengthOf_append {b : Bytes} (h : 5 ≤ b.length) (x : Bytes) :
    lengthOf (b ++ x) = lengthOf b := by
  rw [lengthOf, lengthOf, List.drop_append_of_le_length (by omega),
    List.take_append_of_le_length (by rw [List.length_drop]; omega)]

/-- The first five bytes of a buffer that has them. -/
theorem exists_prefix {b : Bytes} (h : 5 ≤ b.length) :
    lengthOf b < 0x100000000 ∧ b = framePrefix (flagOf b) (lengthOf b) ++ b.drop 5 := by
  match b, h with
  | f :: w :: x :: y :: z :: rest, _ =>
      refine ⟨fromBytesBig_four_lt w x y z, ?_⟩
      show _ = f :: (be32 (fromBytesBig [w, x, y, z]) ++ rest)
      rw [be32_fromBytesBig]
      rfl

/-- **Reading a frame.**  A buffer with as many bytes as its prefix promises is
    a frame followed by the rest. -/
theorem exists_frame {b : Bytes} (h : 5 ≤ b.length) (hlen : lengthOf b + 5 ≤ b.length) :
    ∃ f : Frame, ∃ rest : Bytes, b = f.bytes ++ rest ∧ f.flags = flagOf b
      ∧ f.payload.length = lengthOf b := by
  obtain ⟨hlt, hb⟩ := exists_prefix h
  have hpay : ((b.drop 5).take (lengthOf b)).length = lengthOf b := by
    rw [List.length_take, List.length_drop]
    omega
  refine ⟨⟨flagOf b, (b.drop 5).take (lengthOf b), by rw [hpay]; exact hlt⟩,
    (b.drop 5).drop (lengthOf b), ?_, rfl, hpay⟩
  rw [Frame.bytes]
  simp only [hpay]
  rw [List.append_assoc, List.take_append_drop]
  exact hb

/-- **Frames are read in one way.** -/
theorem frame_unique {f g : Frame} {r s : Bytes} (h : f.bytes ++ r = g.bytes ++ s) :
    f = g ∧ r = s := by
  have hflags : f.flags = g.flags := by
    rw [← flagOf_bytes f r, h, flagOf_bytes]
  have hlen : f.payload.length = g.payload.length := by
    rw [← lengthOf_bytes f r, h, lengthOf_bytes]
  have hpay : f.payload = g.payload := by
    rw [← payload_bytes f r, h, hlen, payload_bytes]
  have hfg : f = g := Frame.ext hflags hpay
  refine ⟨hfg, ?_⟩
  subst hfg
  exact List.append_cancel_left h

end Framing
