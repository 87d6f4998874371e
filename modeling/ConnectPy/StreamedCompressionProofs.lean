import ConnectPy.GzipProofs

/-! # Brotli and Zstandard with a limit — pieces of one content

    Both take their data whole and get the content in pieces, and ask each time for one
    byte more than the limit leaves.  `BrotliCompression` asks the decompressor after
    every piece whether it is done or starved; `ZstdCompression` reads until nothing
    comes any more.

    For both the invariant is that the parts so far, the piece in hand and what is still
    to come are the content (`brotliLoop_content`, `zstdLoop_content`).  What is read of
    Zstandard stays within one byte beyond the limit.  A piece of Brotli may be longer
    than was asked for, since the limit only keeps its buffer from growing further: but
    another piece is asked for only within the limit.  The loops end because a piece is
    never empty. -/

namespace ConnectStreamed

open Utf8 (Bytes)
open ConnectErrors ConnectPlatform
open ConnectGzip (limited)

variable {δ ρ : Type}

/-! ## Brotli -/

/-- `brotli.Decompressor` with its methods, and the functions of the `brotli` module. -/
structure Brotli (δ : Type) where
  decompressor      : δ
  process           : δ → Bytes → Int → Except Exc (Bytes × δ)
  isFinished        : δ → Bool
  canAcceptMoreData : δ → Bool
  compress          : Bytes → Bytes
  decompress        : Bytes → Except Exc Bytes

def truncatedError : Exc :=
  .exception (.other "brotli.error")
    "compressed stream ended before the end-of-stream marker was reached"

def stalledError : Exc := .exception (.other "brotli.error") "decompressor made no progress"

/-- A piece that is not empty leaves less of the budget. -/
theorem budget_lt {budget : Int} {total : Nat} {out next : Bytes}
    (hroom : ¬ budget < ((total + out.length : Nat) : Int)) (hnext : next ≠ []) :
    (budget + 1 - ((total + out.length + next.length : Nat) : Int)).toNat
      < (budget + 1 - ((total + out.length : Nat) : Int)).toNat := by
  have hpositive := List.length_pos_of_ne_nil hnext
  omega

/-- The loop with a piece in hand: the parts in the end, and the result. -/
def brotliLoop (b : Brotli δ) (readMaxBytes : Int) (parts : List Bytes) (total : Nat)
    (out : Bytes) (d : δ) : List Bytes × Except Exc Bytes :=
  if readMaxBytes < ((total + out.length : Nat) : Int) then
    (parts ++ [out], .error (messageTooLargeError readMaxBytes))
  else if b.isFinished d then (parts ++ [out], .ok (parts ++ [out]).flatten)
  else if b.canAcceptMoreData d then (parts ++ [out], .error truncatedError)
  else
    match b.process d [] (readMaxBytes + 1 - ((total + out.length : Nat) : Int)) with
    | .error e => (parts ++ [out], .error e)
    | .ok (next, d) =>
        if next = [] then (parts ++ [out], .error stalledError)
        else brotliLoop b readMaxBytes (parts ++ [out]) (total + out.length) next d
termination_by (readMaxBytes + 1 - ((total + out.length : Nat) : Int)).toNat
decreasing_by exact budget_lt ‹_› ‹_›

/-- `BrotliCompression.decompress`: the parts, and the result. -/
def brotliDecompress (b : Brotli δ) (data : Bytes) : Option Int → List Bytes × Except Exc Bytes
  | none => ([], b.decompress data)
  | some readMaxBytes =>
      match b.process b.decompressor data (readMaxBytes + 1) with
      | .error e => ([], .error e)
      | .ok (out, d) => brotliLoop b readMaxBytes [] 0 out d

/-- What a decompressor reports that the limit did not stop: that it is done, or that it
    takes no data before it has put out the rest. -/
structure Brotli.Reports (b : Brotli δ) (d : δ) (rest : Bytes) : Prop where
  done : rest = [] → b.isFinished d = true
  full : rest ≠ [] → b.canAcceptMoreData d = false

/-- What is documented of the decompressor.  `IsStream` relates the bytes of a stream to
    its content; `Holds` a decompressor that has been given all of a stream to what it
    will still put out; `Starved` is one that has been given a part. -/
structure Inflates (b : Brotli δ) where
  IsStream : Bytes → Bytes → Prop
  Holds    : δ → Bytes → Prop
  Starved  : δ → Prop
  fed : ∀ {data content k}, IsStream data content → 1 ≤ k →
    ∃ out d rest, b.process b.decompressor data k = .ok (out, d) ∧ content = out ++ rest
      ∧ Holds d rest ∧ ((out.length : Int) < k → b.Reports d rest)
  finished : ∀ {d rest}, Holds d rest → b.isFinished d = true → rest = []
  more : ∀ {d rest k}, Holds d rest → rest ≠ [] → 1 ≤ k →
    ∃ out d' rest', b.process d [] k = .ok (out, d') ∧ out ≠ [] ∧ rest = out ++ rest'
      ∧ Holds d' rest' ∧ ((out.length : Int) < k → b.Reports d' rest')
  cut : ∀ {data content c k out d}, IsStream data content → c <+: data → c ≠ data → 1 ≤ k →
    b.process b.decompressor c k = .ok (out, d) → Starved d
  starved : ∀ {d}, Starved d → b.isFinished d = false
  stays : ∀ {d k out d'}, Starved d → 1 ≤ k → b.process d [] k = .ok (out, d') → Starved d'

section Loop

variable {b : Brotli δ} {readMaxBytes : Int} {parts : List Bytes} {total : Nat} {out : Bytes}
  {d : δ}

theorem brotliLoop_large (h : readMaxBytes < ((total + out.length : Nat) : Int)) :
    brotliLoop b readMaxBytes parts total out d
      = (parts ++ [out], .error (messageTooLargeError readMaxBytes)) := by
  rw [brotliLoop, if_pos h]

theorem brotliLoop_finished (h : ¬ readMaxBytes < ((total + out.length : Nat) : Int))
    (hd : b.isFinished d = true) :
    brotliLoop b readMaxBytes parts total out d
      = (parts ++ [out], .ok (parts ++ [out]).flatten) := by
  rw [brotliLoop, if_neg h, if_pos hd]

theorem brotliLoop_again (h : ¬ readMaxBytes < ((total + out.length : Nat) : Int))
    (hd : b.isFinished d = false) (hmore : b.canAcceptMoreData d = false) {next : Bytes} {d' : δ}
    (hnext : b.process d [] (readMaxBytes + 1 - ((total + out.length : Nat) : Int))
      = .ok (next, d')) (hne : next ≠ []) :
    brotliLoop b readMaxBytes parts total out d
      = brotliLoop b readMaxBytes (parts ++ [out]) (total + out.length) next d' := by
  rw [brotliLoop, if_neg h, hd, if_neg Bool.false_ne_true, hmore, if_neg Bool.false_ne_true, hnext]
  dsimp only
  rw [if_neg hne]

/-- The parts with a piece more. -/
theorem length_parts (parts : List Bytes) (out : Bytes) :
    (parts ++ [out]).flatten.length = parts.flatten.length + out.length := by
  rw [List.flatten_append, List.length_append, List.flatten_singleton]

/-- **The parts, the piece and what is to come are the content.** -/
theorem brotliLoop_content (doc : Inflates b) {content rest : Bytes}
    (htotal : total = parts.flatten.length) (hcontent : content = parts.flatten ++ (out ++ rest))
    (hd : doc.Holds d rest)
    (hreports : ((total + out.length : Nat) : Int) ≤ readMaxBytes → b.Reports d rest) :
    (brotliLoop b readMaxBytes parts total out d).2 = limited readMaxBytes content := by
  induction parts, total, out, d using brotliLoop.induct b readMaxBytes generalizing rest with
  | case1 parts total out d hlarge =>
      have hnot : ¬ (content.length : Int) ≤ readMaxBytes := by
        rw [hcontent, List.length_append, List.length_append, ← htotal]
        omega
      rw [brotliLoop_large hlarge, limited, if_neg hnot]
  | case2 parts total out d hroom hfinished =>
      obtain rfl := doc.finished hd hfinished
      rw [List.append_nil] at hcontent
      have hfits : (content.length : Int) ≤ readMaxBytes := by
        rw [hcontent, List.length_append, ← htotal]
        exact Int.not_lt.mp hroom
      rw [brotliLoop_finished hroom hfinished, limited, if_pos hfits, hcontent,
        List.flatten_append, List.flatten_singleton]
  | case3 parts total out d hroom hfinished haccepts =>
      -- Not done within the limit, so it still has something and takes no data.
      have hsaid := hreports (Int.not_lt.mp hroom)
      have hrest : rest ≠ [] := fun h => hfinished (hsaid.done h)
      rw [hsaid.full hrest] at haccepts
      cases haccepts
  | case4 parts total out d hroom hfinished haccepts e hfailed =>
      have hrest : rest ≠ [] := fun h => hfinished ((hreports (Int.not_lt.mp hroom)).done h)
      -- With something left, asking for it does not fail.
      obtain ⟨next, d', rest', hnext, -⟩ :=
        doc.more hd hrest (k := readMaxBytes + 1 - ((total + out.length : Nat) : Int)) (by omega)
      cases hnext.symm.trans hfailed
  | case5 parts total out d hroom hfinished haccepts d' hnext =>
      have hrest : rest ≠ [] := fun h => hfinished ((hreports (Int.not_lt.mp hroom)).done h)
      -- Nor does it give nothing.
      obtain ⟨next, d'', rest', hnext', hne, -⟩ :=
        doc.more hd hrest (k := readMaxBytes + 1 - ((total + out.length : Nat) : Int)) (by omega)
      cases hnext.symm.trans hnext'
      exact absurd rfl hne
  | case6 parts total out d hroom hfinished haccepts next d' hnext hne ih =>
      have hrest : rest ≠ [] := fun h => hfinished ((hreports (Int.not_lt.mp hroom)).done h)
      obtain ⟨next', d'', rest', hnext', -, hsplit, hholds, hnextReports⟩ :=
        doc.more hd hrest (k := readMaxBytes + 1 - ((total + out.length : Nat) : Int)) (by omega)
      cases hnext.symm.trans hnext'
      rw [brotliLoop_again hroom (Bool.eq_false_iff.mpr hfinished)
        (Bool.eq_false_iff.mpr haccepts) hnext hne]
      refine ih ?_ ?_ hholds fun hle => hnextReports ?_
      · rw [htotal, length_parts]
      · rw [hcontent, hsplit, List.flatten_append, List.flatten_singleton, List.append_assoc]
      · omega

/-- A part of a stream is never taken for a stream. -/
theorem brotliLoop_starved (doc : Inflates b) (hd : doc.Starved d) :
    ∃ e, (brotliLoop b readMaxBytes parts total out d).2 = .error e := by
  induction parts, total, out, d using brotliLoop.induct b readMaxBytes with
  | case1 parts total out d hlarge => exact ⟨_, by rw [brotliLoop_large hlarge]⟩
  | case2 parts total out d hroom hfinished =>
      rw [doc.starved hd] at hfinished
      cases hfinished
  | case3 parts total out d hroom hfinished haccepts =>
      exact ⟨_, by rw [brotliLoop, if_neg hroom, if_neg hfinished, if_pos haccepts]⟩
  | case4 parts total out d hroom hfinished haccepts e hfailed =>
      exact ⟨e, by rw [brotliLoop, if_neg hroom, if_neg hfinished, if_neg haccepts, hfailed]⟩
  | case5 parts total out d hroom hfinished haccepts d' hnext =>
      exact ⟨_, by
        rw [brotliLoop, if_neg hroom, if_neg hfinished, if_neg haccepts, hnext]
        dsimp only
        rw [if_pos rfl]⟩
  | case6 parts total out d hroom hfinished haccepts next d' hnext hne ih =>
      rw [brotliLoop_again hroom (Bool.eq_false_iff.mpr hfinished)
        (Bool.eq_false_iff.mpr haccepts) hnext hne]
      exact ih (doc.stays hd (by omega) hnext)

/-- What a piece too many leads to, and what was held when it was asked for. -/
def Asked (readMaxBytes : Int) (r : List Bytes × Except Exc Bytes) : Prop :=
  (r.1.dropLast.flatten.length : Int) ≤ readMaxBytes
    ∧ (readMaxBytes < (r.1.flatten.length : Int) →
        r.2 = .error (messageTooLargeError readMaxBytes))

theorem asked_concat {e : Except Exc Bytes} (hparts : (parts.flatten.length : Int) ≤ readMaxBytes)
    (he : readMaxBytes < ((parts.flatten.length + out.length : Nat) : Int) →
      e = .error (messageTooLargeError readMaxBytes)) :
    Asked readMaxBytes (parts ++ [out], e) := by
  refine ⟨?_, fun hlarge => he ?_⟩
  · simpa using hparts
  · rwa [length_parts] at hlarge

/-- **Another piece is asked for only within the limit.** -/
theorem brotliLoop_asked (htotal : total = parts.flatten.length)
    (hparts : (parts.flatten.length : Int) ≤ readMaxBytes) :
    Asked readMaxBytes (brotliLoop b readMaxBytes parts total out d) := by
  induction parts, total, out, d using brotliLoop.induct b readMaxBytes with
  | case1 parts total out d hlarge =>
      rw [brotliLoop_large hlarge]
      exact asked_concat hparts fun _ => rfl
  | case2 parts total out d hroom hfinished =>
      rw [brotliLoop_finished hroom hfinished]
      exact asked_concat hparts fun hlarge => absurd (htotal ▸ hlarge) hroom
  | case3 parts total out d hroom hfinished haccepts =>
      rw [brotliLoop, if_neg hroom, if_neg hfinished, if_pos haccepts]
      exact asked_concat hparts fun hlarge => absurd (htotal ▸ hlarge) hroom
  | case4 parts total out d hroom hfinished haccepts e hfailed =>
      rw [brotliLoop, if_neg hroom, if_neg hfinished, if_neg haccepts, hfailed]
      exact asked_concat hparts fun hlarge => absurd (htotal ▸ hlarge) hroom
  | case5 parts total out d hroom hfinished haccepts d' hnext =>
      rw [brotliLoop, if_neg hroom, if_neg hfinished, if_neg haccepts, hnext]
      dsimp only
      rw [if_pos rfl]
      exact asked_concat hparts fun hlarge => absurd (htotal ▸ hlarge) hroom
  | case6 parts total out d hroom hfinished haccepts next d' hnext hne ih =>
      have htotal' : total + out.length = (parts ++ [out]).flatten.length := by
        rw [htotal, length_parts]
      rw [brotliLoop_again hroom (Bool.eq_false_iff.mpr hfinished)
        (Bool.eq_false_iff.mpr haccepts) hnext hne]
      exact ih htotal' (htotal' ▸ Int.not_lt.mp hroom)

/-- A decompressor whose pieces are at most so much longer than was asked for. -/
def Brotli.Exceeds (b : Brotli δ) (excess : Nat) : Prop :=
  ∀ {d input k out d'}, 1 ≤ k → b.process d input k = .ok (out, d') →
    (out.length : Int) ≤ k + excess

/-- No more than one byte beyond the limit is ever held, and what a piece has too much. -/
theorem brotliLoop_parts {excess : Nat} (hexcess : b.Exceeds excess)
    (htotal : total = parts.flatten.length)
    (hout : ((total + out.length : Nat) : Int) ≤ readMaxBytes + 1 + excess) :
    ((brotliLoop b readMaxBytes parts total out d).1.flatten.length : Int)
      ≤ readMaxBytes + 1 + excess := by
  have hparts : ((parts ++ [out]).flatten.length : Int) ≤ readMaxBytes + 1 + excess := by
    rw [length_parts, ← htotal]
    exact hout
  induction parts, total, out, d using brotliLoop.induct b readMaxBytes with
  | case1 parts total out d hlarge => rwa [brotliLoop_large hlarge]
  | case2 parts total out d hroom hfinished => rwa [brotliLoop_finished hroom hfinished]
  | case3 parts total out d hroom hfinished haccepts =>
      rwa [brotliLoop, if_neg hroom, if_neg hfinished, if_pos haccepts]
  | case4 parts total out d hroom hfinished haccepts e hfailed =>
      rwa [brotliLoop, if_neg hroom, if_neg hfinished, if_neg haccepts, hfailed]
  | case5 parts total out d hroom hfinished haccepts d' hnext =>
      rw [brotliLoop, if_neg hroom, if_neg hfinished, if_neg haccepts, hnext]
      dsimp only
      rwa [if_pos rfl]
  | case6 parts total out d hroom hfinished haccepts next d' hnext hne ih =>
      have hatMost := hexcess (by omega) hnext
      have hnextTotal : total + out.length = (parts ++ [out]).flatten.length := by
        rw [htotal, length_parts]
      have hroom' :
          ((total + out.length + next.length : Nat) : Int) ≤ readMaxBytes + 1 + excess := by
        omega
      rw [brotliLoop_again hroom (Bool.eq_false_iff.mpr hfinished)
        (Bool.eq_false_iff.mpr haccepts) hnext hne]
      refine ih hnextTotal hroom' ?_
      rw [length_parts, ← hnextTotal]
      exact hroom'

end Loop

/-- What a limit makes of a stream, of a part of one, and of anything else. -/
structure BrotliBounded (b : Brotli δ) (IsStream : Bytes → Bytes → Prop) (readMaxBytes : Int) :
    Prop where
  stream : ∀ data content, IsStream data content →
    (brotliDecompress b data (some readMaxBytes)).2 = limited readMaxBytes content
  cut : ∀ data content c, IsStream data content → c <+: data → c ≠ data →
    ∃ e, (brotliDecompress b c (some readMaxBytes)).2 = .error e
  asked : ∀ data, Asked readMaxBytes (brotliDecompress b data (some readMaxBytes))
  held : ∀ excess, b.Exceeds excess → ∀ data,
    ((brotliDecompress b data (some readMaxBytes)).1.flatten.length : Int)
      ≤ readMaxBytes + 1 + excess

theorem brotliBounded {b : Brotli δ} (doc : Inflates b) {readMaxBytes : Int}
    (hlimit : 0 ≤ readMaxBytes) : BrotliBounded b doc.IsStream readMaxBytes where
  stream := by
    intro data content hdata
    obtain ⟨out, d, rest, hout, hsplit, hholds, hreports⟩ :=
      doc.fed (k := readMaxBytes + 1) hdata (by omega)
    rw [brotliDecompress, hout]
    exact brotliLoop_content doc rfl hsplit hholds fun hle => hreports (by omega)
  cut := by
    intro data content c hdata hpre hne
    rw [brotliDecompress]
    cases hout : b.process b.decompressor c (readMaxBytes + 1) with
    | error e => exact ⟨e, rfl⟩
    | ok r => exact brotliLoop_starved doc (doc.cut hdata hpre hne (by omega) hout)
  asked := by
    intro data
    rw [brotliDecompress]
    cases b.process b.decompressor data (readMaxBytes + 1) with
    | error e => exact ⟨hlimit, fun hlarge => absurd hlimit (Int.not_le.mpr hlarge)⟩
    | ok r => exact brotliLoop_asked rfl hlimit
  held := by
    intro excess hexcess data
    rw [brotliDecompress]
    cases hout : b.process b.decompressor data (readMaxBytes + 1) with
    | error e =>
        show (0 : Int) ≤ readMaxBytes + 1 + excess
        omega
    | ok r =>
        have hatMost := hexcess (by omega) hout
        refine brotliLoop_parts hexcess rfl ?_
        omega

/-! ## Zstandard -/

/-- `zstandard`: the reader of a stream with its `read`, with a size and without. -/
structure Zstd (ρ : Type) where
  streamReader : Bytes → ρ
  read         : ρ → Int → Except Exc (Bytes × ρ)
  readAll      : ρ → Except Exc Bytes
  compress     : Bytes → Bytes

/-- What is documented of the two: a read with a size gives a beginning of what is left,
    and nothing only at the end. -/
structure Reads (z : Zstd ρ) : Prop where
  atMost : ∀ {r k out r'}, 1 ≤ k → z.read r k = .ok (out, r') → (out.length : Int) ≤ k
  ended : ∀ {r k r'}, 1 ≤ k → z.read r k = .ok ([], r') → z.readAll r = .ok []
  some : ∀ {r k out r'}, 1 ≤ k → z.read r k = .ok (out, r') →
    z.readAll r = (z.readAll r').map (out ++ ·)
  failed : ∀ {r k e}, 1 ≤ k → z.read r k = .error e → ∃ e', z.readAll r = .error e'

/-- The loop: the parts in the end, and the result. -/
def zstdLoop (z : Zstd ρ) (readMaxBytes : Int) (parts : List Bytes) (remaining : Int) (r : ρ) :
    List Bytes × Except Exc Bytes :=
  if 0 < remaining then
    match z.read r remaining with
    | .error e => (parts, .error e)
    | .ok (out, r) =>
        if out = [] then (parts, .ok parts.flatten)
        else zstdLoop z readMaxBytes (parts ++ [out]) (remaining - out.length) r
  else (parts, .error (messageTooLargeError readMaxBytes))
termination_by remaining.toNat
decreasing_by
  have hpositive := List.length_pos_of_ne_nil ‹_›
  omega

/-- `ZstdCompression.decompress`: the parts, and the result. -/
def zstdDecompress (z : Zstd ρ) (data : Bytes) : Option Int → List Bytes × Except Exc Bytes
  | none => ([], z.readAll (z.streamReader data))
  | some readMaxBytes => zstdLoop z readMaxBytes [] (readMaxBytes + 1) (z.streamReader data)

section Loop

variable {z : Zstd ρ} {readMaxBytes : Int} {parts : List Bytes} {remaining : Int} {r : ρ}

theorem zstdLoop_large (h : ¬ 0 < remaining) :
    zstdLoop z readMaxBytes parts remaining r
      = (parts, .error (messageTooLargeError readMaxBytes)) := by
  rw [zstdLoop, if_neg h]

theorem zstdLoop_ended (h : 0 < remaining) {r' : ρ} (hr : z.read r remaining = .ok ([], r')) :
    zstdLoop z readMaxBytes parts remaining r = (parts, .ok parts.flatten) := by
  rw [zstdLoop, if_pos h, hr]
  dsimp only
  rw [if_pos rfl]

theorem zstdLoop_failed (h : 0 < remaining) {e : Exc} (hr : z.read r remaining = .error e) :
    zstdLoop z readMaxBytes parts remaining r = (parts, .error e) := by
  rw [zstdLoop, if_pos h, hr]

theorem zstdLoop_again (h : 0 < remaining) {out : Bytes} {r' : ρ}
    (hr : z.read r remaining = .ok (out, r')) (hne : out ≠ []) :
    zstdLoop z readMaxBytes parts remaining r
      = zstdLoop z readMaxBytes (parts ++ [out]) (remaining - out.length) r' := by
  rw [zstdLoop, if_pos h, hr]
  dsimp only
  rw [if_neg hne]

/-- The budget after a piece. -/
theorem remaining_parts (h : remaining = readMaxBytes + 1 - parts.flatten.length) (out : Bytes) :
    remaining - out.length = readMaxBytes + 1 - (parts ++ [out]).flatten.length := by
  rw [h, length_parts]
  omega

/-- **The parts and what is left are the content.** -/
theorem zstdLoop_content (hz : Reads z)
    (hremaining : remaining = readMaxBytes + 1 - parts.flatten.length) {rest : Bytes}
    (hrest : z.readAll r = .ok rest) :
    (zstdLoop z readMaxBytes parts remaining r).2
      = limited readMaxBytes (parts.flatten ++ rest) := by
  induction parts, remaining, r using zstdLoop.induct z generalizing rest with
  | case1 parts remaining r hpos e hfailed =>
      obtain ⟨e', he'⟩ := hz.failed (by omega) hfailed
      cases hrest.symm.trans he'
  | case2 parts remaining r hpos r' hended =>
      cases hrest.symm.trans (hz.ended (by omega) hended)
      have hfits : (parts.flatten.length : Int) ≤ readMaxBytes := by omega
      rw [zstdLoop_ended hpos hended, List.append_nil, limited, if_pos hfits]
  | case3 parts remaining r hpos out r' hread hne ih =>
      have hmap := hrest.symm.trans (hz.some (by omega) hread)
      cases hleft : z.readAll r' with
      | error e =>
          rw [hleft] at hmap
          cases hmap
      | ok rest' =>
          rw [hleft] at hmap
          obtain rfl := Except.ok.inj hmap
          rw [zstdLoop_again hpos hread hne, ih (remaining_parts hremaining out) hleft,
            List.flatten_append, List.flatten_singleton, List.append_assoc]
  | case4 parts remaining r hnot =>
      have hlarge : ¬ ((parts.flatten ++ rest).length : Int) ≤ readMaxBytes := by
        rw [List.length_append]
        omega
      rw [zstdLoop_large hnot, limited, if_neg hlarge]

/-- What cannot be read to the end is not taken. -/
theorem zstdLoop_error (hz : Reads z) {e : Exc} (hrest : z.readAll r = .error e) :
    ∃ e', (zstdLoop z readMaxBytes parts remaining r).2 = .error e' := by
  induction parts, remaining, r using zstdLoop.induct z with
  | case1 parts remaining r hpos e' hfailed => exact ⟨e', by rw [zstdLoop_failed hpos hfailed]⟩
  | case2 parts remaining r hpos r' hended =>
      cases hrest.symm.trans (hz.ended (by omega) hended)
  | case3 parts remaining r hpos out r' hread hne ih =>
      have hmap := hrest.symm.trans (hz.some (by omega) hread)
      cases hleft : z.readAll r' with
      | error e' =>
          rw [hleft] at hmap
          obtain rfl := Except.error.inj hmap
          rw [zstdLoop_again hpos hread hne]
          exact ih hleft
      | ok rest' =>
          rw [hleft] at hmap
          cases hmap
  | case4 parts remaining r hnot => exact ⟨_, by rw [zstdLoop_large hnot]⟩

theorem zstdLoop_parts (hz : Reads z) (hlimit : 0 ≤ remaining)
    (hremaining : remaining = readMaxBytes + 1 - parts.flatten.length) :
    ((zstdLoop z readMaxBytes parts remaining r).1.flatten.length : Int) ≤ readMaxBytes + 1 := by
  induction parts, remaining, r using zstdLoop.induct z with
  | case1 parts remaining r hpos e' hfailed =>
      rw [zstdLoop_failed hpos hfailed]
      show (parts.flatten.length : Int) ≤ readMaxBytes + 1
      omega
  | case2 parts remaining r hpos r' hended =>
      rw [zstdLoop_ended hpos hended]
      show (parts.flatten.length : Int) ≤ readMaxBytes + 1
      omega
  | case3 parts remaining r hpos out r' hread hne ih =>
      have hatMost := hz.atMost (by omega) hread
      rw [zstdLoop_again hpos hread hne]
      exact ih (by omega) (remaining_parts hremaining out)
  | case4 parts remaining r hnot =>
      rw [zstdLoop_large hnot]
      show (parts.flatten.length : Int) ≤ readMaxBytes + 1
      omega

end Loop

/-- What a limit makes of what can be read to the end, and of what cannot. -/
structure ZstdBounded (z : Zstd ρ) (readMaxBytes : Int) : Prop where
  content : ∀ data content, zstdDecompress z data none = ([], .ok content) →
    (zstdDecompress z data (some readMaxBytes)).2 = limited readMaxBytes content
  failed : ∀ data e, zstdDecompress z data none = ([], .error e) →
    ∃ e', (zstdDecompress z data (some readMaxBytes)).2 = .error e'
  held : ∀ data,
    ((zstdDecompress z data (some readMaxBytes)).1.flatten.length : Int) ≤ readMaxBytes + 1

theorem zstdBounded {z : Zstd ρ} (hz : Reads z) {readMaxBytes : Int} (hlimit : 0 ≤ readMaxBytes) :
    ZstdBounded z readMaxBytes where
  content := by
    intro data content hdata
    refine zstdLoop_content hz ?_ (congrArg Prod.snd hdata)
    rw [List.flatten_nil, List.length_nil]
    omega
  failed := by
    intro data e hdata
    exact zstdLoop_error hz (congrArg Prod.snd hdata)
  held := by
    intro data
    refine zstdLoop_parts hz (by omega) ?_
    rw [List.flatten_nil, List.length_nil]
    omega

/-! ## Both -/

/-- **Decompression stays within its limit.** -/
theorem decompression_bounded {b : Brotli δ} (doc : Inflates b) {z : Zstd ρ} (hz : Reads z)
    {readMaxBytes : Int} (hlimit : 0 ≤ readMaxBytes) :
    BrotliBounded b doc.IsStream readMaxBytes ∧ ZstdBounded z readMaxBytes :=
  ⟨brotliBounded doc hlimit, zstdBounded hz hlimit⟩

/-! ## A byte in both formats -/

/-- What `brotli.compress(b"a")` is. -/
def aStream : Bytes := [0x0B, 0x00, 0x80, 0x61, 0x03]

/-- A decompressor that is new, done, full or starved. -/
inductive Progress
  | new
  | done
  | full
  | starved
  deriving DecidableEq

/-- What `brotli` does with that stream, and with parts of it. -/
def brotliOfA : Brotli Progress where
  decompressor := .new
  process := fun d input k =>
    if d = .new ∧ input = aStream then .ok ([0x61], if 1 < k then .done else .full)
    else if (d = .new ∧ input <+: aStream) ∨ (d = .starved ∧ input = []) then .ok ([], .starved)
    else .error (.exception (.other "brotli.error") "brotli: decoder process called with data")
  isFinished := fun d => d = .done
  canAcceptMoreData := fun d => d = .starved
  compress := fun _ => aStream
  decompress := fun _ => .ok [0x61]

theorem brotliOfA_stream (k : Int) :
    brotliOfA.process .new aStream k = .ok ([0x61], if 1 < k then .done else .full) := by
  dsimp only [brotliOfA]
  rw [if_pos ⟨rfl, rfl⟩]

theorem brotliOfA_cases {d d' : Progress} {input out : Bytes} {k : Int}
    (h : brotliOfA.process d input k = .ok (out, d')) :
    ((d = .new ∧ input = aStream) ∧ out = [0x61]) ∨ (out = [] ∧ d' = .starved) := by
  dsimp only [brotliOfA] at h
  split at h
  · next hstream =>
      obtain ⟨hout, -⟩ := Prod.mk.inj (Except.ok.inj h)
      exact Or.inl ⟨hstream, hout.symm⟩
  · split at h
    · obtain ⟨hout, hd⟩ := Prod.mk.inj (Except.ok.inj h)
      exact Or.inr ⟨hout.symm, hd.symm⟩
    · cases h

def brotliOfA_inflates : Inflates brotliOfA where
  IsStream data content := data = aStream ∧ content = [0x61]
  Holds d rest := rest = []
  Starved d := d = .starved
  fed := by
    rintro data content k ⟨rfl, rfl⟩ hk
    refine ⟨_, _, [], brotliOfA_stream k, rfl, rfl, fun hless => ?_⟩
    have hroom : 1 < k := hless
    rw [if_pos hroom]
    exact ⟨fun _ => rfl, fun h => absurd rfl h⟩
  finished := fun h _ => h
  more := fun h hne => absurd h hne
  cut := by
    rintro data content c k out d ⟨rfl, -⟩ - hne hk h
    rcases brotliOfA_cases h with ⟨⟨-, hc⟩, -⟩ | ⟨-, hd⟩
    · exact absurd hc hne
    · exact hd
  starved := by
    rintro d rfl
    rfl
  stays := by
    rintro d k out d' rfl hk h
    rcases brotliOfA_cases h with ⟨⟨hd, -⟩, -⟩ | ⟨-, hd⟩
    · cases hd
    · exact hd

/-- What `zstandard` compresses it to. -/
def aFrame : Bytes := [0x28, 0xB5, 0x2F, 0xFD, 0x20, 0x01, 0x09, 0x00, 0x00, 0x61]

/-- A reader of that frame, which is what is left of its content. -/
def zstdOfA : Zstd Bytes where
  streamReader := fun data => if data = aFrame then [0x61] else []
  read := fun r k => .ok (r.take k.toNat, r.drop k.toNat)
  readAll := fun r => .ok r
  compress := fun _ => aFrame

theorem zstdOfA_reads : Reads zstdOfA where
  atMost := by
    intro r k out r' hk h
    obtain ⟨rfl, -⟩ := Prod.mk.inj (Except.ok.inj h)
    have hle := List.length_take_le k.toNat r
    omega
  ended := by
    intro r k r' hk h
    obtain ⟨hnil, -⟩ := Prod.mk.inj (Except.ok.inj h)
    rcases List.take_eq_nil_iff.mp hnil with hk' | hr
    · omega
    · exact congrArg Except.ok hr
  some := by
    intro r k out r' hk h
    obtain ⟨rfl, rfl⟩ := Prod.mk.inj (Except.ok.inj h)
    exact congrArg Except.ok (List.take_append_drop k.toNat r).symm
  failed := by
    intro r k e hk h
    cases h

/-- Within a limit of one byte both come back, and with a limit of zero neither. -/
theorem decompression_bounded_a :
    (brotliDecompress brotliOfA aStream (some 1)).2 = .ok [0x61]
      ∧ (zstdDecompress zstdOfA aFrame (some 1)).2 = .ok [0x61]
      ∧ (brotliDecompress brotliOfA aStream (some 0)).2 = .error (messageTooLargeError 0)
      ∧ (zstdDecompress zstdOfA aFrame (some 0)).2 = .error (messageTooLargeError 0) := by
  obtain ⟨hbrotli, hzstd⟩ :=
    decompression_bounded brotliOfA_inflates zstdOfA_reads (by decide : (0 : Int) ≤ 1)
  obtain ⟨hbrotli', hzstd'⟩ :=
    decompression_bounded brotliOfA_inflates zstdOfA_reads (by decide : (0 : Int) ≤ 0)
  exact ⟨hbrotli.stream _ _ ⟨rfl, rfl⟩, hzstd.content _ _ rfl,
    hbrotli'.stream _ _ ⟨rfl, rfl⟩, hzstd'.content _ _ rfl⟩

/-! ## The compressions -/

/-- `BrotliCompression`. -/
def brotliCompression (b : Brotli δ) : Compression :=
  .custom
    { name := "br"
      compress := fun data => .ok (b.compress data)
      decompress := fun data readMaxBytes => (brotliDecompress b data readMaxBytes).2 }

/-- `ZstdCompression`. -/
def zstdCompression (z : Zstd ρ) : Compression :=
  .custom
    { name := "zstd"
      compress := fun data => .ok (z.compress data)
      decompress := fun data readMaxBytes => (zstdDecompress z data readMaxBytes).2 }

theorem limited_exceeds {data : Bytes} {readMaxBytes : Int}
    (h : exceeds data.length (some readMaxBytes) = false) :
    0 ≤ readMaxBytes ∧ limited readMaxBytes data = .ok data := by
  have hfits : (data.length : Int) ≤ readMaxBytes := Int.not_lt.mp (of_decide_eq_false h)
  exact ⟨by omega, by rw [limited, if_pos hfits]⟩

/-- What brotli compresses it decompresses, within any limit that the data is within. -/
theorem lossless_brotli {b : Brotli δ} (doc : Inflates b)
    (hcompress : ∀ data, doc.IsStream (b.compress data) data ∧ b.compress data ≠ [])
    (hdecompress : ∀ data, b.decompress (b.compress data) = .ok data) :
    ConnectWriter.Lossless (brotliCompression b) := by
  intro data
  obtain ⟨hstream, hne⟩ := hcompress data
  refine ⟨b.compress data, rfl, fun _ => hne, ?_⟩
  intro limit hlimit
  cases limit with
  | none => exact hdecompress data
  | some readMaxBytes =>
      obtain ⟨hnonneg, hdata⟩ := limited_exceeds hlimit
      exact ((brotliBounded doc hnonneg).stream _ _ hstream).trans hdata

/-- And so does Zstandard. -/
theorem lossless_zstd {z : Zstd ρ} (hz : Reads z)
    (hcompress : ∀ data, z.readAll (z.streamReader (z.compress data)) = .ok data
      ∧ z.compress data ≠ []) :
    ConnectWriter.Lossless (zstdCompression z) := by
  intro data
  obtain ⟨hread, hne⟩ := hcompress data
  refine ⟨z.compress data, rfl, fun _ => hne, ?_⟩
  intro limit hlimit
  cases limit with
  | none => exact hread
  | some readMaxBytes =>
      obtain ⟨hnonneg, hdata⟩ := limited_exceeds hlimit
      exact ((zstdBounded hz hnonneg).content _ _ (congrArg (Prod.mk []) hread)).trans hdata

end ConnectStreamed
