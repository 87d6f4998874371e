import ConnectPy.EnvelopeWriterProofs

/-! # Gzip with a limit — members, cuts and the budget

    `GzipCompression.decompress` hands `zlib` one byte more than the limit leaves, so
    that what is too large shows.  A call that returns fewer bytes than it was allowed
    has come to the end of the member or of the input; this tells the four ways to go
    on apart.

    `round` is one turn of the loop.  It keeps the budget (`round_sound`) for whatever
    bytes, and its input gets shorter, so the loop ends (`rounds_ends`).  On a member it
    takes the content or finds it too large (`round_member`, `round_large`), and behind
    a cut it raises (`round_cut`). -/

namespace ConnectGzip

open Utf8 (Bytes)
open ConnectErrors ConnectPlatform

variable {δ : Type}

/-! ## The library behind it -/

/-- `zlib.decompressobj(wbits=31)` with its `decompress` and its attributes, and the
    functions of the `gzip` module. -/
structure Zlib (δ : Type) where
  decompressobj  : δ
  decompress     : δ → Bytes → Int → Except Exc (Bytes × δ)
  eof            : δ → Bool
  unusedData     : δ → Bytes
  unconsumedTail : δ → Bytes
  gzipCompress   : Bytes → Bytes
  gzipDecompress : Bytes → Except Exc Bytes

/-- What is documented of a call with a limit, on any input.  That an end takes input is
    asked of a new object only; one that has ended keeps all it is given. -/
structure Limited (z : Zlib δ) : Prop where
  atMost : ∀ {d input k out d'}, 1 ≤ k → z.decompress d input k = .ok (out, d') →
    (out.length : Int) ≤ k
  fewer : ∀ {d input k out d'}, 1 ≤ k → z.decompress d input k = .ok (out, d') →
    (out.length : Int) < k → z.eof d' = true ∨ z.unconsumedTail d' = []
  consumes : ∀ {input k out d'}, 1 ≤ k → z.decompress z.decompressobj input k = .ok (out, d') →
    z.eof d' = true → (z.unusedData d').length < input.length

/-- And on an input that starts with a complete member, or is a part of one.
    `IsMember` relates the bytes of a member to its content. -/
structure Inflates (z : Zlib δ) (IsMember : Bytes → Bytes → Prop) : Prop extends Limited z where
  content : ∀ {m content rest k}, IsMember m content → 1 ≤ k →
    ∃ out d', z.decompress z.decompressobj (m ++ rest) k = .ok (out, d') ∧ out <+: content
      ∧ (z.eof d' = true → out = content ∧ z.unusedData d' = rest)
      ∧ (z.unconsumedTail d' = [] → z.eof d' = true)
  cut : ∀ {m content c k out d'}, IsMember m content → c <+: m → c ≠ m → 1 ≤ k →
    z.decompress z.decompressobj c k = .ok (out, d') → z.eof d' = false

/-! ## The loop -/

/-- The variables of the loop, and the limits that it has asked for. -/
structure Loop (δ : Type) where
  decompressor   : δ
  remainingInput : Bytes
  parts          : List Bytes
  total          : Nat
  asked          : List Int

/-- Before the first turn. -/
def Loop.start (z : Zlib δ) (data : Bytes) : Loop δ := ⟨z.decompressobj, data, [], 0, []⟩

/-- The exception of a file that ends too early. -/
def eofError : Exc :=
  .exception (.other "EOFError") "Compressed file ended before the end-of-stream marker was reached"

def noProgress : Exc := .exception (.other "zlib.error") "decompressor made no progress"

/-- What a call that was allowed `limit` bytes put out. -/
def Loop.took (l : Loop δ) (limit : Int) (out : Bytes) (d : δ) : Loop δ where
  decompressor := d
  remainingInput := l.remainingInput
  parts := l.parts ++ [out]
  total := l.total + out.length
  asked := l.asked ++ [limit]

@[simp] theorem Loop.took_total (l : Loop δ) (limit : Int) (out : Bytes) (d : δ) :
    (l.took limit out d).total = l.total + out.length := rfl

/-- One turn, and the result if it is the last. -/
def round (z : Zlib δ) (readMaxBytes : Int) (l : Loop δ) : Loop δ × Option (Except Exc Bytes) :=
  let limit := readMaxBytes + 1 - l.total
  match z.decompress l.decompressor l.remainingInput limit with
  | .error e => ({ l with asked := l.asked ++ [limit] }, some (.error e))
  | .ok (out, d) =>
      let l' := l.took limit out d
      if readMaxBytes < l'.total then (l', some (.error (messageTooLargeError readMaxBytes)))
      else if z.eof d then
        let unused := z.unusedData d
        if unused = [] then ({ l' with remainingInput := unused }, some (.ok l'.parts.flatten))
        else ({ l' with remainingInput := unused, decompressor := z.decompressobj }, none)
      else
        let tail := z.unconsumedTail d
        if tail = [] then (l', some (.error eofError))
        else if out = [] ∧ tail.length = l.remainingInput.length then
          (l', some (.error noProgress))
        else ({ l' with remainingInput := tail }, none)

/-- At most so many turns. -/
def rounds (z : Zlib δ) (readMaxBytes : Int) : Nat → Loop δ → Loop δ × Option (Except Exc Bytes)
  | 0, l => (l, none)
  | n + 1, l =>
      match round z readMaxBytes l with
      | (l, some r) => (l, some r)
      | (l, none) => rounds z readMaxBytes n l

theorem rounds_last {z : Zlib δ} {readMaxBytes : Int} {l : Loop δ} {r : Except Exc Bytes}
    (n : Nat) (h : (round z readMaxBytes l).2 = some r) :
    (rounds z readMaxBytes (n + 1) l).2 = some r := by
  rw [rounds]
  cases hr : round z readMaxBytes l with
  | mk l' r' =>
      rw [hr] at h
      dsimp only at h
      subst h
      rfl

theorem rounds_again {z : Zlib δ} {readMaxBytes : Int} {l l' : Loop δ} (n : Nat)
    (h : round z readMaxBytes l = (l', none)) :
    rounds z readMaxBytes (n + 1) l = rounds z readMaxBytes n l' := by
  rw [rounds, h]

/-- `GzipCompression.decompress`, with at most so many turns of its loop. -/
def decompress (z : Zlib δ) (turns : Nat) (data : Bytes) :
    Option Int → Option (Except Exc Bytes)
  | none => some (z.gzipDecompress data)
  | some readMaxBytes =>
      if data = [] then some (.ok [])
      else (rounds z readMaxBytes turns (.start z data)).2

/-! ## The budget -/

/-- Within the budget: what was produced is within the limit, or one byte beyond it. -/
structure Within (bound : Int) (l : Loop δ) : Prop where
  asked    : ∀ k ∈ l.asked, 1 ≤ k
  total    : (l.total : Int) ≤ bound
  produced : l.total = l.parts.flatten.length

theorem within_start (z : Zlib δ) (data : Bytes) {readMaxBytes : Int} (h : 0 ≤ readMaxBytes) :
    Within readMaxBytes (.start z data) where
  asked := by intro k hk; exact nomatch hk
  total := h
  produced := rfl

theorem Within.took {readMaxBytes : Int} {l : Loop δ} (h : Within readMaxBytes l) {out : Bytes}
    (hout : (out.length : Int) ≤ readMaxBytes + 1 - l.total) (d : δ) :
    Within (readMaxBytes + 1) (l.took (readMaxBytes + 1 - l.total) out d) where
  asked := by
    have hbudget := h.total
    intro k hk
    rcases List.mem_append.mp hk with hk | hk
    · exact h.asked k hk
    · rw [List.mem_singleton.mp hk]
      omega
  total := by
    show ((l.total + out.length : Nat) : Int) ≤ readMaxBytes + 1
    omega
  produced := by
    show l.total + out.length = (l.parts ++ [out]).flatten.length
    rw [List.flatten_append, List.length_append, h.produced, List.flatten_singleton]

/-- The input and the decompressor are not counted. -/
theorem Within.rest {bound : Int} {l : Loop δ} (h : Within bound l) (d : δ) (input : Bytes) :
    Within bound { l with decompressor := d, remainingInput := input } :=
  ⟨h.asked, h.total, h.produced⟩

/-- A turn asks for a byte at least, and produces no more than it asked for.  What is
    left for the next one is shorter, and is given to a new decompressor. -/
theorem round_sound {z : Zlib δ} (hz : Limited z) {readMaxBytes : Int} {l : Loop δ}
    (h : Within readMaxBytes l) (hnew : l.decompressor = z.decompressobj) :
    Within (readMaxBytes + 1) (round z readMaxBytes l).1
      ∧ ((round z readMaxBytes l).2 = none → Within readMaxBytes (round z readMaxBytes l).1
        ∧ (round z readMaxBytes l).1.decompressor = z.decompressobj
        ∧ (round z readMaxBytes l).1.remainingInput.length < l.remainingInput.length) := by
  have hbudget := h.total
  have hk : 1 ≤ readMaxBytes + 1 - l.total := by omega
  rw [round]
  cases hd : z.decompress l.decompressor l.remainingInput (readMaxBytes + 1 - l.total) with
  | error e =>
      have hnothing : ((([] : Bytes).length : Nat) : Int) ≤ readMaxBytes + 1 - l.total := by
        rw [List.length_nil]
        omega
      exact ⟨⟨(h.took hnothing l.decompressor).asked, by dsimp only; omega, h.produced⟩, nofun⟩
  | ok r =>
      obtain ⟨out, d⟩ := r
      have hatMost := hz.atMost hk hd
      have htook := h.took hatMost d
      dsimp only
      by_cases hlarge : readMaxBytes < (l.took (readMaxBytes + 1 - l.total) out d).total
      · rw [if_pos hlarge]
        exact ⟨htook, nofun⟩
      · rw [if_neg hlarge]
        have hsmall : Within readMaxBytes (l.took (readMaxBytes + 1 - l.total) out d) :=
          { htook with total := Int.not_lt.mp hlarge }
        by_cases heof : z.eof d = true
        · rw [if_pos heof]
          by_cases hunused : z.unusedData d = []
          · rw [if_pos hunused]
            exact ⟨htook.rest _ _, nofun⟩
          · rw [if_neg hunused]
            rw [hnew] at hd
            exact ⟨htook.rest _ _, fun _ => ⟨hsmall.rest _ _, rfl, hz.consumes hk hd heof⟩⟩
        · rw [if_neg heof]
          -- Fewer bytes than were asked for, and no end: the input is used up.
          have hfewer : (out.length : Int) < readMaxBytes + 1 - l.total := by
            have htotal : ((l.total + out.length : Nat) : Int) ≤ readMaxBytes :=
              Int.not_lt.mp hlarge
            omega
          rw [if_pos ((hz.fewer hk hd hfewer).resolve_left heof)]
          exact ⟨htook, nofun⟩

/-- **The loop ends**, within the budget. -/
theorem rounds_ends {z : Zlib δ} (hz : Limited z) {readMaxBytes : Int} (turns : Nat) :
    ∀ l : Loop δ, Within readMaxBytes l → l.decompressor = z.decompressobj →
      Within (readMaxBytes + 1) (rounds z readMaxBytes turns l).1
        ∧ (l.remainingInput.length < turns → (rounds z readMaxBytes turns l).2.isSome = true) := by
  induction turns with
  | zero =>
      intro l h hnew
      have htotal := h.total
      exact ⟨⟨h.asked, Int.le_add_one htotal, h.produced⟩,
        fun hlt => absurd hlt (Nat.not_lt_zero _)⟩
  | succ n ih =>
      intro l h hnew
      obtain ⟨hwithin, hagain⟩ := round_sound hz h hnew
      rw [rounds]
      cases hr : round z readMaxBytes l with
      | mk l' r =>
          rw [hr] at hwithin hagain
          cases r with
          | some r => exact ⟨hwithin, fun _ => rfl⟩
          | none =>
              obtain ⟨hnext, hnew', hshorter⟩ := hagain rfl
              obtain ⟨hbound, hends⟩ := ih l' hnext hnew'
              have hless : l'.remainingInput.length < l.remainingInput.length := hshorter
              exact ⟨hbound, fun hlt => hends (by omega)⟩

/-! ## Members -/

section Members

variable {z : Zlib δ} {IsMember : Bytes → Bytes → Prop} (hz : Inflates z IsMember)
  {readMaxBytes : Int} {l : Loop δ} {m content : Bytes}

include hz

/-- A call on a member: all of it if there is room, and else as much as was allowed. -/
theorem decompress_member (hm : IsMember m content) (rest : Bytes) {k : Int} (hk : 1 ≤ k) :
    ∃ out d, z.decompress z.decompressobj (m ++ rest) k = .ok (out, d)
      ∧ (((content.length : Int) < k ∧ out = content ∧ z.eof d = true ∧ z.unusedData d = rest)
        ∨ (k ≤ content.length ∧ (out.length : Int) = k)) := by
  obtain ⟨out, d, hd, hpre, hended, hconsumed⟩ := hz.content hm hk
  have hatMost := hz.atMost hk hd
  have hle := hpre.length_le
  refine ⟨out, d, hd, ?_⟩
  by_cases hfewer : (out.length : Int) < k
  · have heof : z.eof d = true := (hz.fewer hk hd hfewer).elim id hconsumed
    obtain ⟨rfl, hunused⟩ := hended heof
    exact Or.inl ⟨hfewer, rfl, heof, hunused⟩
  · exact Or.inr ⟨by omega, by omega⟩

/-- A member is not empty. -/
theorem member_ne_nil (hm : IsMember m content) : m ≠ [] := by
  rintro rfl
  have hk : (1 : Int) ≤ content.length + 1 := by omega
  obtain ⟨out, d, hd, ⟨-, -, heof, hunused⟩ | ⟨hle, -⟩⟩ := decompress_member hz hm [] hk
  · have hless := hz.consumes hk hd heof
    rw [hunused] at hless
    exact absurd hless (lt_irrefl _)
  · omega

/-- **A member within the limit** is taken, and the loop goes on behind it. -/
theorem round_member (hm : IsMember m content) (hd : l.decompressor = z.decompressobj)
    {rest : Bytes} (hinput : l.remainingInput = m ++ rest)
    (hfits : ((l.total + content.length : Nat) : Int) ≤ readMaxBytes) :
    ∃ l', l'.decompressor = z.decompressobj ∧ l'.remainingInput = rest
      ∧ l'.parts.flatten = l.parts.flatten ++ content
      ∧ (rest = [] → (round z readMaxBytes l).2 = some (.ok l'.parts.flatten))
      ∧ (rest ≠ [] → round z readMaxBytes l = (l', none)) := by
  have hk : 1 ≤ readMaxBytes + 1 - l.total := by omega
  obtain ⟨out, d, hcall, ⟨-, rfl, heof, hunused⟩ | ⟨hle, -⟩⟩ := decompress_member hz hm rest hk
  · refine ⟨{ l.took (readMaxBytes + 1 - l.total) out d with
      remainingInput := rest, decompressor := z.decompressobj }, rfl, rfl, ?_, ?_, ?_⟩
    · show (l.parts ++ [out]).flatten = _
      rw [List.flatten_append, List.flatten_singleton]
    · rintro rfl
      rw [round, hd, hinput, hcall]
      dsimp only
      rw [Loop.took_total, if_neg (Int.not_lt.mpr hfits), if_pos heof, if_pos hunused]
    · intro hrest
      rw [round, hd, hinput, hcall]
      dsimp only
      rw [Loop.took_total, if_neg (Int.not_lt.mpr hfits), if_pos heof, hunused, if_neg hrest]
  · omega

/-- **A member beyond the limit** is refused. -/
theorem round_large (hm : IsMember m content) (hd : l.decompressor = z.decompressobj)
    {rest : Bytes} (hinput : l.remainingInput = m ++ rest)
    (hbudget : (l.total : Int) ≤ readMaxBytes)
    (hlarge : readMaxBytes < ((l.total + content.length : Nat) : Int)) :
    (round z readMaxBytes l).2 = some (.error (messageTooLargeError readMaxBytes)) := by
  have hk : 1 ≤ readMaxBytes + 1 - l.total := by omega
  obtain ⟨out, d, hcall, ⟨hless, -⟩ | ⟨-, hlength⟩⟩ := decompress_member hz hm rest hk
  · omega
  · have htotal : readMaxBytes < ((l.total + out.length : Nat) : Int) := by omega
    rw [round, hd, hinput, hcall]
    dsimp only
    rw [Loop.took_total, if_pos htotal]

/-- **Behind a cut** the loop raises. -/
theorem round_cut (hm : IsMember m content) (hd : l.decompressor = z.decompressobj)
    (hpre : l.remainingInput <+: m) (hne : l.remainingInput ≠ m)
    (hbudget : (l.total : Int) ≤ readMaxBytes) :
    ∃ e, (round z readMaxBytes l).2 = some (.error e) := by
  have hk : 1 ≤ readMaxBytes + 1 - l.total := by omega
  rw [round, hd]
  cases hcall : z.decompress z.decompressobj l.remainingInput (readMaxBytes + 1 - l.total) with
  | error e => exact ⟨e, rfl⟩
  | ok r =>
      obtain ⟨out, d⟩ := r
      have heof := hz.cut hm hpre hne hk hcall
      have hnot : ¬ z.eof d = true := by
        rw [heof]
        exact Bool.false_ne_true
      have hatMost := hz.atMost hk hcall
      dsimp only
      rw [Loop.took_total]
      by_cases hlarge : readMaxBytes < ((l.total + out.length : Nat) : Int)
      · rw [if_pos hlarge]
        exact ⟨_, rfl⟩
      · have hfewer : (out.length : Int) < readMaxBytes + 1 - l.total := by omega
        rw [if_neg hlarge, if_neg hnot, if_pos ((hz.fewer hk hcall hfewer).resolve_left hnot)]
        exact ⟨_, rfl⟩

/-- What a limit makes of some contents. -/
def limited (readMaxBytes : Int) (contents : Bytes) : Except Exc Bytes :=
  if (contents.length : Int) ≤ readMaxBytes then .ok contents
  else .error (messageTooLargeError readMaxBytes)

/-- **Members up to the end of the data.** -/
theorem rounds_members {members contents : List Bytes}
    (hms : List.Forall₂ IsMember members contents) (hne : members ≠ []) :
    ∀ (l : Loop δ) (turns : Nat), l.decompressor = z.decompressobj →
      l.remainingInput = members.flatten → Within readMaxBytes l →
      members.flatten.length < turns →
      (rounds z readMaxBytes turns l).2
        = some (limited readMaxBytes (l.parts.flatten ++ contents.flatten)) := by
  induction hms with
  | nil => exact absurd rfl hne
  | @cons m content members contents hm hrest ih =>
      intro l turns hd hinput hwithin hturns
      have hproduced := hwithin.produced
      have hpositive := List.length_pos_of_ne_nil (member_ne_nil hz hm)
      rw [List.flatten_cons] at hinput hturns
      rw [List.length_append] at hturns
      obtain ⟨n, rfl⟩ : ∃ n, turns = n + 1 := ⟨turns - 1, by omega⟩
      by_cases hfits : ((l.total + content.length : Nat) : Int) ≤ readMaxBytes
      · obtain ⟨l', hd', hinput', hparts, hlast, hmore⟩ := round_member hz hm hd hinput hfits
        rw [List.flatten_cons, ← List.append_assoc, ← hparts]
        cases hrest with
        | nil =>
            -- The last member fits, and with it everything.
            have hfits' : (l'.parts.flatten.length : Int) ≤ readMaxBytes := by
              rw [hparts, List.length_append, ← hproduced]
              exact hfits
            rw [rounds_last n (hlast rfl), List.flatten_nil, List.append_nil, limited,
              if_pos hfits']
        | @cons m' content' members contents hm' hrest =>
            have hnonempty : (m' :: members).flatten ≠ [] := by
              rw [List.flatten_cons]
              exact List.append_ne_nil_of_left_ne_nil (member_ne_nil hz hm') _
            -- Another round, with what is left of the data.
            have hround := hmore hnonempty
            have hnext := (round_sound hz.toLimited hwithin hd).2 (by rw [hround])
            rw [hround] at hnext
            rw [rounds_again n hround]
            exact ih (List.cons_ne_nil _ _) l' n hd' hinput' hnext.1 (by omega)
      -- A member that is too large, and so is the whole.
      · have hlarge := Int.not_le.mp hfits
        have hnot : ¬ ((l.parts.flatten ++ (content :: contents).flatten).length : Int)
            ≤ readMaxBytes := by
          rw [List.flatten_cons, List.length_append, List.length_append, ← hproduced]
          omega
        rw [rounds_last n (round_large hz hm hd hinput hwithin.total hlarge), limited,
          if_neg hnot]

/-- **Members up to a cut.** -/
theorem rounds_cut {members contents : List Bytes} (hms : List.Forall₂ IsMember members contents)
    (hm : IsMember m content) {c : Bytes} (hpre : c <+: m) (hcut : c ≠ m) (hne : c ≠ []) :
    ∀ (l : Loop δ) (turns : Nat), l.decompressor = z.decompressobj →
      l.remainingInput = members.flatten ++ c → Within readMaxBytes l →
      (members.flatten ++ c).length < turns →
      ∃ e, (rounds z readMaxBytes turns l).2 = some (.error e) := by
  induction hms with
  | nil =>
      intro l turns hd hinput hwithin hturns
      obtain ⟨n, rfl⟩ : ∃ n, turns = n + 1 := ⟨turns - 1, by omega⟩
      have hinput' : l.remainingInput = c := hinput
      obtain ⟨e, he⟩ := round_cut hz hm hd (hinput' ▸ hpre) (hinput' ▸ hcut) hwithin.total
      exact ⟨e, rounds_last n he⟩
  | @cons m' content' members contents hm' _ ih =>
      intro l turns hd hinput hwithin hturns
      have hpositive := List.length_pos_of_ne_nil (member_ne_nil hz hm')
      rw [List.flatten_cons, List.append_assoc] at hinput hturns
      rw [List.length_append] at hturns
      obtain ⟨n, rfl⟩ : ∃ n, turns = n + 1 := ⟨turns - 1, by omega⟩
      by_cases hfits : ((l.total + content'.length : Nat) : Int) ≤ readMaxBytes
      · obtain ⟨l', hd', hinput', -, -, hmore⟩ := round_member hz hm' hd hinput hfits
        have hround := hmore (List.append_ne_nil_of_right_ne_nil _ hne)
        have hnext := (round_sound hz.toLimited hwithin hd).2 (by rw [hround])
        rw [hround] at hnext
        rw [rounds_again n hround]
        exact ih l' n hd' hinput' hnext.1 (by omega)
      · exact ⟨_, rounds_last n
          (round_large hz hm' hd hinput hwithin.total (Int.not_le.mp hfits))⟩

end Members

/-! ## Decompression -/

/-- With a limit, the loop over what is not empty. -/
theorem decompress_eq (z : Zlib δ) (turns : Nat) {data : Bytes} (hdata : data ≠ [])
    (readMaxBytes : Int) :
    decompress z turns data (some readMaxBytes)
      = (rounds z readMaxBytes turns (.start z data)).2 := if_neg hdata

theorem decompress_members {z : Zlib δ} {IsMember : Bytes → Bytes → Prop}
    (hz : Inflates z IsMember) {readMaxBytes : Int} (hlimit : 0 ≤ readMaxBytes)
    {members contents : List Bytes} (hms : List.Forall₂ IsMember members contents)
    (hne : members ≠ []) {turns : Nat} (hturns : members.flatten.length < turns) :
    decompress z turns members.flatten (some readMaxBytes)
      = some (limited readMaxBytes contents.flatten) := by
  have hdata : members.flatten ≠ [] := by
    cases hms with
    | nil => exact absurd rfl hne
    | cons hm _ =>
        rw [List.flatten_cons]
        exact List.append_ne_nil_of_left_ne_nil (member_ne_nil hz hm) _
  rw [decompress_eq z turns hdata]
  exact rounds_members hz hms hne (.start z members.flatten) turns rfl rfl
    (within_start z _ hlimit) hturns

/-- **BOUNDED DECOMPRESSION.**  Complete members are decompressed to their contents, or
    refused if these are larger than the limit; after a cut within a member an exception
    is raised.  And for any data, the limit given to `zlib` is never zero, no more than
    one byte beyond the limit is produced, and the loop ends. -/
theorem gzip_bounded {z : Zlib δ} {IsMember : Bytes → Bytes → Prop} (hz : Inflates z IsMember)
    {readMaxBytes : Int} (hlimit : 0 ≤ readMaxBytes) :
    (∀ members contents : List Bytes, List.Forall₂ IsMember members contents → members ≠ [] →
      ∀ turns, members.flatten.length < turns →
        decompress z turns members.flatten (some readMaxBytes)
          = some (limited readMaxBytes contents.flatten))
    ∧ (∀ (members contents : List Bytes) (m content c : Bytes),
      List.Forall₂ IsMember members contents → IsMember m content → c <+: m → c ≠ m → c ≠ [] →
      ∀ turns, (members.flatten ++ c).length < turns →
        ∃ e, decompress z turns (members.flatten ++ c) (some readMaxBytes) = some (.error e))
    ∧ ∀ (data : Bytes) (turns : Nat),
      Within (readMaxBytes + 1) (rounds z readMaxBytes turns (.start z data)).1
      ∧ (data.length < turns →
        (decompress z turns data (some readMaxBytes)).isSome = true) := by
  refine ⟨fun members contents hms hne turns hturns =>
    decompress_members hz hlimit hms hne hturns, ?_, fun data turns => ?_⟩
  · intro members contents m content c hms hm hpre hcut hne turns hturns
    rw [decompress_eq z turns (List.append_ne_nil_of_right_ne_nil _ hne)]
    exact rounds_cut hz hms hm hpre hcut hne (.start z _) turns rfl rfl
      (within_start z _ hlimit) hturns
  · obtain ⟨hwithin, hends⟩ := rounds_ends hz.toLimited turns _ (within_start z data hlimit) rfl
    refine ⟨hwithin, fun hturns => ?_⟩
    by_cases hdata : data = []
    · rw [decompress, if_pos hdata]
      rfl
    · rw [decompress_eq z turns hdata]
      exact hends hturns

/-- The member that `gzip.compress(b"a")` is. -/
def aMember : Bytes :=
  [0x1F, 0x8B, 0x08, 0, 0, 0, 0, 0, 0x02, 0xFF, 0x4B, 0x04, 0, 0x43, 0xBE, 0xB7, 0xE8, 1, 0, 0, 0]

/-- The attributes of a decompressor. -/
structure Attributes where
  eof            : Bool
  unusedData     : Bytes
  unconsumedTail : Bytes

/-- What `zlib` does on that member, alone or not, and on parts of it. -/
def zlibOfA : Zlib Attributes where
  decompressobj := ⟨false, [], []⟩
  decompress := fun _ input k =>
    if aMember <+: input then
      .ok ([0x61], if 1 < k then ⟨true, input.drop aMember.length, []⟩
        else ⟨false, [], input.drop 13⟩)
    else if input <+: aMember then
      .ok (if 13 ≤ input.length then [0x61] else [], ⟨false, [], []⟩)
    else .error (.exception (.other "zlib.error")
      "Error -3 while decompressing data: incorrect header check")
  eof := Attributes.eof
  unusedData := Attributes.unusedData
  unconsumedTail := Attributes.unconsumedTail
  gzipCompress := fun _ => aMember
  gzipDecompress := fun _ => .ok [0x61]

theorem zlibOfA_member (d : Attributes) (rest : Bytes) (k : Int) :
    zlibOfA.decompress d (aMember ++ rest) k
      = .ok ([0x61], if 1 < k then ⟨true, rest, []⟩
        else ⟨false, [], (aMember ++ rest).drop 13⟩) := by
  dsimp only [zlibOfA]
  rw [if_pos (List.prefix_append _ _), List.drop_left]

theorem zlibOfA_cases {d d' : Attributes} {input out : Bytes} {k : Int}
    (h : zlibOfA.decompress d input k = .ok (out, d')) :
    (∃ rest, input = aMember ++ rest ∧ out = [0x61]
      ∧ d' = if 1 < k then ⟨true, rest, []⟩ else ⟨false, [], (aMember ++ rest).drop 13⟩)
    ∨ (¬ aMember <+: input ∧ out.length ≤ 1 ∧ d' = ⟨false, [], []⟩) := by
  by_cases hmember : aMember <+: input
  · obtain ⟨rest, rfl⟩ := hmember
    rw [zlibOfA_member] at h
    injection h with h
    injection h with hout hd
    exact Or.inl ⟨rest, rfl, hout.symm, hd.symm⟩
  · dsimp only [zlibOfA] at h
    rw [if_neg hmember] at h
    by_cases hpre : input <+: aMember
    · rw [if_pos hpre] at h
      injection h with h
      injection h with hout hd
      refine Or.inr ⟨hmember, ?_, hd.symm⟩
      rw [← hout]
      split
      · exact Nat.le_refl 1
      · exact Nat.zero_le 1
    · rw [if_neg hpre] at h
      exact nomatch h

theorem zlibOfA_inflates :
    Inflates zlibOfA fun m content => m = aMember ∧ content = [0x61] where
  atMost := by
    intro d input k out d' hk h
    rcases zlibOfA_cases h with ⟨rest, -, rfl, -⟩ | ⟨-, hout, -⟩
    · exact hk
    · omega
  fewer := by
    intro d input k out d' hk h hfewer
    rcases zlibOfA_cases h with ⟨rest, -, rfl, rfl⟩ | ⟨-, -, rfl⟩
    · have hroom : 1 < k := hfewer
      rw [if_pos hroom]
      exact Or.inl rfl
    · exact Or.inr rfl
  consumes := by
    intro input k out d' hk h heof
    rcases zlibOfA_cases h with ⟨rest, rfl, -, rfl⟩ | ⟨-, -, rfl⟩
    · by_cases hroom : 1 < k
      · rw [if_pos hroom, List.length_append]
        exact Nat.lt_add_of_pos_left (by decide)
      · rw [if_neg hroom] at heof
        exact nomatch heof
    · exact nomatch heof
  content := by
    rintro m content rest k ⟨rfl, rfl⟩ hk
    refine ⟨_, _, zlibOfA_member _ rest k, List.prefix_refl _, fun heof => ?_, fun htail => ?_⟩
    · by_cases hroom : 1 < k
      · rw [if_pos hroom]
        exact ⟨rfl, rfl⟩
      · rw [if_neg hroom] at heof
        exact nomatch heof
    · by_cases hroom : 1 < k
      · rw [if_pos hroom]
        rfl
      · rw [if_neg hroom] at htail
        exact nomatch htail
  cut := by
    rintro m content c k out d' ⟨rfl, -⟩ hpre hne hk h
    rcases zlibOfA_cases h with ⟨rest, rfl, -, -⟩ | ⟨-, -, rfl⟩
    · have hlength := hpre.length_le
      rw [List.length_append] at hlength
      have hrest : rest = [] := List.length_eq_zero_iff.mp (by omega)
      rw [hrest, List.append_nil] at hne
      exact absurd rfl hne
    · rfl

theorem gzip_bounded_two :
    decompress zlibOfA 43 (aMember ++ aMember) (some 2) = some (.ok [0x61, 0x61]) :=
  (gzip_bounded zlibOfA_inflates (by decide)).1 [aMember, aMember] [[0x61], [0x61]]
    (.cons ⟨rfl, rfl⟩ (.cons ⟨rfl, rfl⟩ .nil)) (List.cons_ne_nil _ _) 43 (by decide)

/-! ## The compression -/

/-- `GzipCompression`; as many turns as the data has bytes, and one, are enough. -/
def gzipCompression (z : Zlib δ) : Compression :=
  .custom
    { name := "gzip"
      compress := fun data => .ok (z.gzipCompress data)
      decompress := fun data readMaxBytes =>
        (decompress z (data.length + 1) data readMaxBytes).getD (.error noProgress) }

/-- What gzip compresses it decompresses, within any limit that the data is within. -/
theorem lossless_gzip {z : Zlib δ} {IsMember : Bytes → Bytes → Prop} (hz : Inflates z IsMember)
    (hcompress : ∀ data, IsMember (z.gzipCompress data) data)
    (hdecompress : ∀ data, z.gzipDecompress (z.gzipCompress data) = .ok data) :
    ConnectWriter.Lossless (gzipCompression z) := by
  intro data
  refine ⟨z.gzipCompress data, rfl, fun _ => member_ne_nil hz (hcompress data), ?_⟩
  intro limit hlimit
  cases limit with
  | none =>
      exact hdecompress data
  | some readMaxBytes =>
      have hfits : (data.length : Int) ≤ readMaxBytes := Int.not_lt.mp (of_decide_eq_false hlimit)
      have hmembers := decompress_members hz (Int.le_trans (Int.natCast_nonneg _) hfits)
        (.cons (hcompress data) .nil) (List.cons_ne_nil _ _)
        (show [z.gzipCompress data].flatten.length < (z.gzipCompress data).length + 1 by
          rw [List.flatten_singleton]
          exact Nat.lt_succ_self _)
      rw [List.flatten_singleton, List.flatten_singleton, limited, if_pos hfits] at hmembers
      show (decompress z _ (z.gzipCompress data) (some readMaxBytes)).getD (.error noProgress) = _
      rw [hmembers]
      rfl

end ConnectGzip
