import HttpCloak.Http.Reader

/-!
# Reading a well-formed head back

`HeaderBlock.toBytes` is a message head as it goes on the wire: the first line and each
header line ended by `\r\n`, then the blank line. `readHeaderBlock_toBytes` reads it back:
over every connection whose bytes are such a head followed by any `B`, however they are cut
into segments, `textproto`'s reading through a `bufio.Reader` returns the block, and what the
reader leaves, its buffer and then the connection, is `B`. The head is well formed when its
first line holds no `\n` and every header line has no space or tab at either end and passes
the checks `textproto` makes as it reads (`validHeaderLine`).
`readHeaderBlock_trimmed` is the same for any head whose header lines start fields: they come
back trimmed, as a client reads the lines of a response the proxy relays.

The proof follows the reader's calls one by one over `BufReader.rest`, the bytes still to be
read: `fill` never changes them, and each call takes off what it returns. Every loop needs
no more fuel than `BufReader.measure`, the bytes and segments left.
-/
namespace HttpCloak

/-- `\r\n`. -/
def crlf : List Byte := [13, 10]

/-- A line that starts a header field: it is not empty and does not start with a space or a
tab, which would make it a continuation line. -/
def Textproto.startsField : List Byte → Bool
  | c :: _ => !Textproto.isSpaceOrTab c
  | [] => false

namespace HeaderBlock

/-- The head `textproto` reads as `blk`: its lines, each ended by `\r\n`, then the blank
line. -/
def toBytes (blk : HeaderBlock) : List Byte :=
  blk.firstLine ++ crlf ++ (blk.lines.map (· ++ crlf)).flatten ++ crlf

/-- No line holds `\n`, and each header line starts a field and, trimmed, passes
`textproto`'s checks. -/
def Fields (blk : HeaderBlock) : Prop :=
  10 ∉ blk.firstLine ∧
    ∀ l ∈ blk.lines, 10 ∉ l ∧ Textproto.startsField l ∧ Textproto.validHeaderLine (Textproto.trim l)

instance (blk : HeaderBlock) : Decidable blk.Fields :=
  inferInstanceAs (Decidable (10 ∉ blk.firstLine ∧ ∀ l ∈ blk.lines,
    10 ∉ l ∧ Textproto.startsField l ∧ Textproto.validHeaderLine (Textproto.trim l)))

/-- The block with its header lines trimmed of spaces and tabs, as `textproto` returns them. -/
def trimmed (blk : HeaderBlock) : HeaderBlock := ⟨blk.firstLine, blk.lines.map Textproto.trim⟩

/-- The first line holds no `\n`, and every header line has no space or tab at either end and
passes `textproto`'s checks. -/
def WellFormed (blk : HeaderBlock) : Prop :=
  10 ∉ blk.firstLine ∧ ∀ l ∈ blk.lines, Textproto.trim l = l ∧ Textproto.validHeaderLine l

instance (blk : HeaderBlock) : Decidable blk.WellFormed :=
  inferInstanceAs (Decidable (10 ∉ blk.firstLine ∧
    ∀ l ∈ blk.lines, Textproto.trim l = l ∧ Textproto.validHeaderLine l))

end HeaderBlock

namespace BufReader

/-- The bytes still to be read: the buffered ones, then the connection's. -/
def rest (b : BufReader) : List Byte := b.buf ++ b.conn.pending

/-- What is left to read: its bytes, and the connection's segments. -/
def measure (b : BufReader) : Nat := b.rest.length + b.conn.inbound.length

/-- `b'` is `b` after some reads: the connection's writes are the same, it has no more
segments, and the buffer holds at most `defaultBufSize` bytes. -/
structure Follows (b b' : BufReader) : Prop where
  written : b'.conn.written = b.conn.written
  inbound : b'.conn.inbound.length ≤ b.conn.inbound.length
  fits : b'.buf.length ≤ defaultBufSize

theorem Follows.trans {b b' b'' : BufReader} (h : Follows b b') (h' : Follows b' b'') :
    Follows b b'' :=
  ⟨h'.written.trans h.written, h'.inbound.trans h.inbound, h'.fits⟩

/-- Taking `k` bytes off the rest lowers the measure by `k`. -/
theorem Follows.measure_le {b b' : BufReader} (h : Follows b b') {k : Nat}
    (hk : b'.rest.length + k ≤ b.rest.length) : b'.measure + k ≤ b.measure := by
  have := h.inbound
  unfold measure; omega

theorem size_le_measure (b : BufReader) : b.conn.size ≤ b.measure := by
  simp only [measure, rest, Conn.size_eq, List.length_append]; omega

/-- A reader whose connection has no segment left has nothing pending. -/
theorem rest_of_size_zero {b : BufReader} (h : b.conn.size = 0) : b.rest = b.buf := by
  have : b.conn.pending.length = 0 := by rw [Conn.size_eq] at h; omega
  simp [rest, List.eq_nil_of_length_eq_zero this]

theorem fill_rest (b : BufReader) : b.fill.2.rest = b.rest := by
  simp only [fill, rest, List.append_assoc, Conn.read_pending]

theorem fill_follows {b : BufReader} (h : b.buf.length ≤ defaultBufSize) : Follows b b.fill.2 := by
  refine ⟨Conn.read_written _ _, Conn.read_inbound_length _ _, ?_⟩
  have := Conn.read_length_le b.conn (defaultBufSize - b.buf.length)
  simp only [fill, List.length_append]; omega

/-- A failed fill found the connection exhausted. -/
theorem rest_of_fill_error {b : BufReader} {e : ConnError} (h : b.fill.1 = some e) :
    b.rest = b.buf := by
  have hin := (Conn.read_error b.conn (defaultBufSize - b.buf.length) h).2.1
  simp [rest, Conn.pending, hin]

theorem fill_size_lt {b : BufReader} (hb : b.buf.length < defaultBufSize) (h : b.fill.1 = none) :
    b.fill.2.conn.size < b.conn.size :=
  Conn.size_read_lt b.conn (by omega) h

/-- A reader with bytes beyond its buffer has fuel for one more fill, and the fill succeeds. -/
theorem fill_ok {b : BufReader} {fuel : Nat} (hmore : b.rest ≠ b.buf) (hfuel : b.conn.size ≤ fuel) :
    ∃ k, fuel = k + 1 ∧ b.fill.1 = none := by
  obtain _ | k := fuel
  · exact absurd (rest_of_size_zero (by omega)) hmore
  · cases hf : b.fill.1 with
    | some e => exact absurd (rest_of_fill_error hf) hmore
    | none => exact ⟨k, rfl, rfl⟩

theorem fill_eq {b : BufReader} (hf : b.fill.1 = none) : b.fill = (none, b.fill.2) :=
  Prod.ext hf rfl

end BufReader

/-- Where `ReadSlice` finds the first `\n` of a buffer that is a prefix of
`pre ++ \n :: post`, with no `\n` in `pre`. -/
theorem findIdx?_newline {pre post : List Byte} (hpre : 10 ∉ pre) :
    ∀ {buf : List Byte} (i : Nat), buf <+: pre ++ 10 :: post →
      buf.findIdx? (· = 10) i = if pre.length < buf.length then some (i + pre.length) else none := by
  induction pre with
  | nil =>
    intro buf i h
    rcases List.prefix_cons_iff.1 h with rfl | ⟨t, rfl, -⟩ <;> simp [List.findIdx?_cons]
  | cons c pre ih =>
    intro buf i h
    have hc : c ≠ 10 := fun hc => hpre (hc ▸ List.mem_cons_self _ _)
    rcases List.prefix_cons_iff.1 h with rfl | ⟨t, rfl, ht⟩
    · simp
    · rw [List.findIdx?_cons, if_neg (by simpa using hc),
        ih (fun h => hpre (List.mem_cons_of_mem _ h)) (i + 1) ht]
      simp only [List.length_cons, Nat.add_lt_add_iff_right]
      split_ifs <;> simp only [Option.some.injEq]; omega

namespace BufReader

section Slice
variable {pre post : List Byte} (hpre : 10 ∉ pre) {b : BufReader}
  (hs : b.rest = pre ++ 10 :: post)
include hpre hs

theorem findIdx?_buf :
    b.buf.findIdx? (· = 10) = if pre.length < b.buf.length then some pre.length else none := by
  simpa using findIdx?_newline hpre 0
    (show b.buf <+: pre ++ 10 :: post by rw [← hs]; exact List.prefix_append _ _)

/-- The line is in the buffer: `ReadSlice` returns it without reading. -/
theorem readSlice_found (hin : pre.length < b.buf.length) (fuel : Nat) :
    readSlice fuel b = some ((pre ++ [10], none), { b with buf := b.buf.drop (pre.length + 1) }) ∧
      ({ b with buf := b.buf.drop (pre.length + 1) } : BufReader).rest = post := by
  have htake : b.buf.take (pre.length + 1) = pre ++ [10] := by
    have := congrArg (List.take (pre.length + 1)) hs
    rw [rest, List.take_append_of_le_length (by omega)] at this
    simpa [List.take_append_eq_append_take, List.take_of_length_le (Nat.le_succ pre.length)]
      using this
  refine ⟨?_, ?_⟩
  · cases fuel <;> simp only [readSlice, findIdx?_buf hpre hs, if_pos hin, htake]
  · show b.buf.drop (pre.length + 1) ++ b.conn.pending = post
    have := congrArg (List.drop (pre.length + 1)) hs
    rw [rest, List.drop_append_of_le_length (by omega)] at this
    simpa [List.drop_append_eq_append_drop, List.drop_of_length_le (Nat.le_succ pre.length)]
      using this

/-- The buffer is full and holds no `\n`: `ReadSlice` returns all of it with
`ErrBufferFull`. -/
theorem readSlice_full (hin : ¬ pre.length < b.buf.length) (hfull : defaultBufSize ≤ b.buf.length)
    (fuel : Nat) : readSlice fuel b = some ((b.buf, some .bufferFull), { b with buf := [] }) := by
  cases fuel <;> simp only [readSlice, findIdx?_buf hpre hs, if_neg hin, if_pos hfull]

/-- Neither: `ReadSlice` fills the buffer once, which succeeds since a `\n` is still to come,
and goes on. -/
theorem readSlice_fill (hin : ¬ pre.length < b.buf.length) (hfull : ¬ defaultBufSize ≤ b.buf.length)
    {fuel : Nat} (hfuel : b.conn.size ≤ fuel) :
    ∃ k, fuel = k + 1 ∧ b.fill.1 = none ∧ readSlice fuel b = readSlice k b.fill.2 := by
  have hlong : pre.length < b.rest.length := by rw [hs]; simp
  obtain ⟨k, rfl, hf⟩ := fill_ok (fun h => hin (h ▸ hlong)) hfuel
  refine ⟨k, rfl, hf, ?_⟩
  simp only [readSlice, findIdx?_buf hpre hs, if_neg hin, if_neg hfull]
  rw [fill_eq hf]

end Slice

/-- `ReadSlice('\n')` on a stream whose first `\n` ends `pre ++ [\n]`: that line when it
fits in the buffer, and otherwise the buffer's first `defaultBufSize` bytes with
`ErrBufferFull`. -/
theorem readSlice_spec {pre post : List Byte} (hpre : 10 ∉ pre) (fuel : Nat) (b : BufReader)
    (hs : b.rest = pre ++ 10 :: post) (hbuf : b.buf.length ≤ defaultBufSize)
    (hfuel : b.conn.size ≤ fuel) :
    ∃ b', Follows b b' ∧
      if pre.length < defaultBufSize then
        readSlice fuel b = some ((pre ++ [10], none), b') ∧ b'.rest = post
      else
        readSlice fuel b = some ((b.rest.take defaultBufSize, some .bufferFull), b') ∧
          b'.buf = [] ∧ b'.rest = b.rest.drop defaultBufSize := by
  by_cases hin : pre.length < b.buf.length
  · refine ⟨{ b with buf := b.buf.drop (pre.length + 1) }, ⟨rfl, le_rfl, ?_⟩, ?_⟩
    · show (b.buf.drop _).length ≤ _; simp only [List.length_drop]; omega
    · rw [if_pos (by omega)]; exact readSlice_found hpre hs hin fuel
  · by_cases hfull : defaultBufSize ≤ b.buf.length
    · have hlen : b.buf.length = defaultBufSize := by omega
      refine ⟨{ b with buf := [] }, ⟨rfl, le_rfl, Nat.zero_le _⟩, ?_⟩
      rw [if_neg (by omega)]
      have htake : b.rest.take defaultBufSize = b.buf := by simp [rest, ← hlen]
      refine ⟨htake ▸ readSlice_full hpre hs hin hfull fuel, rfl, ?_⟩
      simp [rest, ← hlen]
    · obtain ⟨k, rfl, hf, hread⟩ := readSlice_fill hpre hs hin hfull hfuel
      obtain ⟨b', hb', hspec⟩ := readSlice_spec hpre k b.fill.2 (by rw [fill_rest]; exact hs)
        (fill_follows hbuf).fits (by have := fill_size_lt (by omega) hf; omega)
      refine ⟨b', (fill_follows hbuf).trans hb', ?_⟩
      rw [hread, ← fill_rest b]
      exact hspec
termination_by fuel

theorem dropLineEnd_crlf (l : List Byte) : dropLineEnd (l ++ crlf) = l := by
  simp [dropLineEnd, crlf]

/-- `ReadLine` on a stream that starts with `line ++ \r\n`: the whole line when it fits in the
buffer; otherwise a first part of it, of at least `defaultBufSize - 1` bytes, that goes on. -/
theorem readLine_spec {line post : List Byte} (hline : 10 ∉ line) (fuel : Nat) (b : BufReader)
    (hs : b.rest = line ++ crlf ++ post) (hbuf : b.buf.length ≤ defaultBufSize)
    (hfuel : b.conn.size ≤ fuel) :
    ∃ b', Follows b b' ∧
      ((readLine fuel b = some (.ok (line, false), b') ∧ b'.rest = post) ∨
        ∃ part, readLine fuel b = some (.ok (part, true), b') ∧ part <+: line ∧
          defaultBufSize - 1 ≤ part.length ∧ part ++ b'.rest = b.rest) := by
  have hs' : b.rest = (line ++ [13]) ++ 10 :: post := by simp [hs, crlf]
  have hpre : 10 ∉ line ++ [13] := by simp [hline]
  obtain ⟨b', hb', hspec⟩ := readSlice_spec hpre fuel b hs' hbuf hfuel
  split_ifs at hspec with hfit
  · obtain ⟨hr, hrest⟩ := hspec
    refine ⟨b', hb', .inl ⟨?_, hrest⟩⟩
    simp only [readLine, hr, Option.map_some', List.append_assoc, List.singleton_append]
    rw [if_neg (by simp), show line ++ [13, 10] = line ++ crlf from rfl, dropLineEnd_crlf]
  · obtain ⟨hr, hbuf', hrest⟩ := hspec
    have hlen : (b.rest.take defaultBufSize).length = defaultBufSize := by
      rw [List.length_take, hs']; simp only [List.length_append, List.length_cons] at hfit ⊢; omega
    have hc : b.rest.take defaultBufSize <+: line ++ [13] := by
      rw [hs', List.take_append_of_le_length (by omega)]; exact List.take_prefix _ _
    have hsplit := List.take_append_drop defaultBufSize b.rest
    simp only [readLine, hr, Option.map_some']
    split_ifs with hl
    · -- the buffer ends in `\r`, which goes back into it
      have hc' := List.dropLast_append_getLast? 13 (Option.mem_def.2 hl)
      refine ⟨{ b' with buf := 13 :: b'.buf }, ⟨hb'.written, hb'.inbound, by simp [hbuf', defaultBufSize]⟩,
        .inr ⟨_, rfl, ?_, ?_, ?_⟩⟩
      · rw [← hc'] at hc
        rcases List.prefix_concat_iff.1 hc with h | h
        · rw [List.append_cancel_right h]
        · exact (List.prefix_append _ _).trans h
      · rw [List.length_dropLast, hlen]
      · show _ ++ ((13 :: b'.buf) ++ b'.conn.pending) = _
        rw [List.cons_append, ← List.singleton_append, ← List.append_assoc, hc',
          show b'.buf ++ b'.conn.pending = b'.rest from rfl, hrest, hsplit]
    · refine ⟨b', hb', .inr ⟨_, rfl, ?_, by omega, by rw [hrest, hsplit]⟩⟩
      rcases List.prefix_concat_iff.1 hc with h | h
      · simp [h] at hl
      · exact h

/-- `ReadByte` on a stream that starts with `c`: `c`, with room left in the buffer to put it
back. -/
theorem readByte_spec {c : Byte} {t : List Byte} (fuel : Nat) (b : BufReader)
    (hs : b.rest = c :: t) (hbuf : b.buf.length ≤ defaultBufSize) (hfuel : b.conn.size ≤ fuel) :
    ∃ b', Follows b b' ∧ readByte fuel b = some (.ok c, b') ∧ b'.rest = t ∧
      b'.buf.length < defaultBufSize := by
  cases hb : b.buf with
  | cons d r =>
    have hd : d = c ∧ r ++ b.conn.pending = t := by simpa [rest, hb] using hs
    have hr : r.length < defaultBufSize := by rw [hb, List.length_cons] at hbuf; omega
    refine ⟨{ b with buf := r }, ⟨rfl, le_rfl, hr.le⟩, ?_, hd.2, hr⟩
    cases fuel <;> simp [readByte, hb, hd.1]
  | nil =>
    obtain ⟨k, rfl, hf⟩ := fill_ok (by rw [hs, hb]; simp) hfuel
    obtain ⟨b', hb', hr, hrest, hlen⟩ := readByte_spec k b.fill.2 (by rw [fill_rest]; exact hs)
      (fill_follows hbuf).fits (by have := fill_size_lt (by simp [hb, defaultBufSize]) hf; omega)
    refine ⟨b', (fill_follows hbuf).trans hb', ?_, hrest, hlen⟩
    simp only [readByte, hb]
    rw [fill_eq hf]
    exact hr
termination_by fuel

/-- `Peek(1)` on a stream that starts with `c`: `[c]`, with nothing taken off. -/
theorem peek_spec {c : Byte} {t : List Byte} (fuel : Nat) (b : BufReader)
    (hs : b.rest = c :: t) (hbuf : b.buf.length ≤ defaultBufSize) (hfuel : b.conn.size ≤ fuel) :
    ∃ b', Follows b b' ∧ peek fuel b 1 = some ([c], b') ∧ b'.rest = b.rest := by
  cases hb : b.buf with
  | cons d r =>
    have hd : d = c := by simpa [rest, hb] using congrArg List.head? hs
    refine ⟨b, ⟨rfl, le_rfl, hbuf⟩, ?_, rfl⟩
    cases fuel <;> simp [peek, hb, hd]
  | nil =>
    obtain ⟨k, rfl, hf⟩ := fill_ok (by rw [hs, hb]; simp) hfuel
    obtain ⟨b', hb', hr, hrest⟩ := peek_spec k b.fill.2 (by rw [fill_rest]; exact hs)
      (fill_follows hbuf).fits (by have := fill_size_lt (by simp [hb, defaultBufSize]) hf; omega)
    refine ⟨b', (fill_follows hbuf).trans hb', ?_, hrest.trans (fill_rest b)⟩
    simp only [peek, hb, List.length_nil, Nat.not_succ_le_zero, if_false]
    rw [fill_eq hf]
    exact hr
termination_by fuel

end BufReader

namespace Textproto

open BufReader

/-- `readLineSlice` on a stream that starts with `line ++ \r\n`: it returns `acc ++ line` and
leaves the rest, however many buffers the line fills. -/
theorem readLineSlice_spec (line post : List Byte) (hline : 10 ∉ line) (fuel : Nat) (b : BufReader)
    (acc : List Byte) (hs : b.rest = line ++ crlf ++ post) (hbuf : b.buf.length ≤ defaultBufSize)
    (hfuel : b.measure ≤ fuel) :
    ∃ b', Follows b b' ∧ readLineSlice fuel b acc = some (.ok (acc ++ line), b') ∧
      b'.rest = post := by
  obtain ⟨b', hb', ⟨hr, hrest⟩ | ⟨part, hr, ⟨tail, htail⟩, hlen, happ⟩⟩ :=
    readLine_spec hline fuel b hs hbuf ((size_le_measure b).trans hfuel)
  · exact ⟨b', hb', by rw [readLineSlice, hr]; rfl, hrest⟩
  · -- the line goes on past the buffer: read its tail with the next call
    have hpart : 1 ≤ part.length := by simp only [defaultBufSize] at hlen; omega
    have hs' : b'.rest = tail ++ crlf ++ post := by
      rw [hs, ← htail] at happ; simpa using happ
    have hm := hb'.measure_le (k := part.length) (by rw [← happ, List.length_append]; omega)
    obtain _ | k := fuel
    · omega
    obtain ⟨b'', hb'', hr', hrest'⟩ := readLineSlice_spec tail post
      (fun h => hline (htail ▸ List.mem_append_right _ h)) k b' (acc ++ part) hs' hb'.fits (by omega)
    refine ⟨b'', hb'.trans hb'', ?_, hrest'⟩
    rw [readLineSlice, hr, ← htail]
    simpa using hr'
termination_by line.length
decreasing_by rw [← htail, List.length_append]; omega

/-- `continuation` before a byte that is not a space or tab: it reads that byte, puts it back,
and adds no line. -/
theorem continuation_spec {c : Byte} {t : List Byte} (hc : isSpaceOrTab c = false) (fuel : Nat)
    (b : BufReader) (acc : List Byte) (hs : b.rest = c :: t) (hbuf : b.buf.length ≤ defaultBufSize)
    (hfuel : b.conn.size ≤ fuel) :
    ∃ b', Follows b b' ∧ continuation fuel b acc = some (acc, b') ∧ b'.rest = b.rest := by
  obtain ⟨b', hb', hr, hrest, hlen⟩ := readByte_spec fuel b hs hbuf hfuel
  refine ⟨{ b' with buf := c :: b'.buf }, ⟨hb'.written, hb'.inbound, by simp; omega⟩, ?_, ?_⟩
  · rw [continuation, skipSpace, hr]; simp [hc]
  · show (c :: b'.buf) ++ b'.conn.pending = _
    rw [hs, ← hrest]; rfl

/-- A line that is its own trim and not empty starts a field. -/
theorem startsField_of_trim {l : List Byte} (hl : l ≠ []) (htrim : trim l = l) : startsField l := by
  obtain ⟨c, t, rfl⟩ := List.exists_cons_of_ne_nil hl
  by_contra hc
  have hlen := congrArg List.length htrim
  rw [trim, List.length_reverse, List.dropWhile_cons_of_pos (by simpa [startsField] using hc)] at hlen
  have h1 := (@List.dropWhile_suffix _ (t.dropWhile isSpaceOrTab).reverse isSpaceOrTab).length_le
  have h2 := (@List.dropWhile_suffix _ t isSpaceOrTab).length_le
  rw [List.length_reverse] at h1
  simp only [List.length_cons] at hlen
  omega

/-- Trimming a line that starts a field leaves its first byte. -/
theorem trim_ne_nil {l : List Byte} (h : startsField l) : trim l ≠ [] := by
  obtain _ | ⟨c, t⟩ := l
  · simp [startsField] at h
  · have hc : isSpaceOrTab c = false := by simpa [startsField] using h
    rw [trim, List.dropWhile_cons_of_neg (by simp [hc]), Ne, List.reverse_eq_nil_iff,
      List.dropWhile_eq_nil_iff]
    exact fun hall => by simpa [hc] using hall c (by simp)

/-- A line with no space or tab at either end is its own trim. -/
theorem trim_eq_self {l : List Byte} (hh : ∀ c ∈ l.head?, isSpaceOrTab c = false)
    (hl : ∀ c ∈ l.getLast?, isSpaceOrTab c = false) : trim l = l := by
  have hdrop : ∀ {m : List Byte}, (∀ c ∈ m.head?, isSpaceOrTab c = false) →
      m.dropWhile isSpaceOrTab = m := by
    intro m hm
    cases m with
    | nil => rfl
    | cons c t => exact List.dropWhile_cons_of_neg (by simpa using hm c rfl)
  rw [trim, hdrop hh, hdrop (by rwa [List.head?_reverse]), List.reverse_reverse]

/-! ## The checks of a header line -/

/-- `bytes.Cut` splits at the first separator. -/
theorem cut_eq_some {sep : Byte} : ∀ {s k v : List Byte}, cut sep s = some (k, v) →
    s = k ++ sep :: v ∧ sep ∉ k
  | [], _, _, h => by simp [cut] at h
  | c :: cs, k, v, h => by
    unfold cut at h
    split_ifs at h with hc
    · cases h; exact ⟨by rw [hc]; rfl, List.not_mem_nil _⟩
    · obtain ⟨⟨k', v'⟩, hkv, h'⟩ := Option.map_eq_some'.mp h
      cases h'
      obtain ⟨rfl, hk⟩ := cut_eq_some hkv
      exact ⟨rfl, by simp [Ne.symm hc, hk]⟩

theorem cut_append {sep : Byte} {v : List Byte} :
    ∀ {k : List Byte}, sep ∉ k → cut sep (k ++ sep :: v) = some (k, v)
  | [], _ => by simp [cut]
  | c :: k, hk => by
    have hc : c ≠ sep := fun h => hk (h ▸ List.mem_cons_self _ _)
    simp [cut, hc, cut_append (fun h => hk (List.mem_cons_of_mem _ h))]

/-- A key, a colon and a value pass the checks exactly when the key and the value do. -/
theorem validHeaderLine_append {k v : List Byte} (hk : 58 ∉ k) :
    validHeaderLine (k ++ 58 :: v) = (validHeaderKey k && v.all validHeaderValueByte) := by
  rw [validHeaderLine, cut_append hk]

/-- A line the checks accept holds a colon and no `\n`. -/
theorem validHeaderLine_mem {kv : List Byte} (h : validHeaderLine kv) : 10 ∉ kv ∧ 58 ∈ kv := by
  unfold validHeaderLine at h
  split at h
  · rename_i k v hcut
    obtain ⟨rfl, -⟩ := cut_eq_some hcut
    simp only [validHeaderKey, Bool.and_eq_true, List.all_eq_true, decide_eq_true_eq] at h
    refine ⟨fun h10 => ?_, by simp⟩
    simp only [List.mem_append, List.mem_cons] at h10
    rcases h10 with hk | h' | hv
    · exact absurd (h.1.2 _ hk) (by decide)
    · cases h'
    · exact absurd (h.2 _ hv) (by decide)
  · cases h

theorem mem_of_mem_trim {l : List Byte} {x : Byte} (h : x ∈ trim l) : x ∈ l := by
  unfold trim at h
  rw [List.mem_reverse] at h
  exact (List.dropWhile_suffix _).subset
    (List.mem_reverse.1 ((List.dropWhile_suffix _).subset h))

theorem wellFormed_fields {blk : HeaderBlock} (h : blk.WellFormed) : blk.Fields := by
  refine ⟨h.1, fun l hl => ?_⟩
  obtain ⟨htrim, hv⟩ := h.2 l hl
  have hmem := validHeaderLine_mem hv
  exact ⟨hmem.1, startsField_of_trim (List.ne_nil_of_mem hmem.2) htrim, by rw [htrim]; exact hv⟩

theorem wellFormed_trimmed {blk : HeaderBlock} (h : blk.WellFormed) : blk.trimmed = blk := by
  obtain ⟨first, lines⟩ := blk
  simp only [HeaderBlock.trimmed, HeaderBlock.mk.injEq, true_and]
  exact (List.map_congr_left fun l hl => (h.2 l hl).1).trans (List.map_id _)

section Lines
variable (fuel : Nat) (b : BufReader) (hbuf : b.buf.length ≤ defaultBufSize)
  (hfuel : b.measure ≤ fuel)
include hbuf hfuel

/-- `readContinuedLineSlice` on a header line followed by a byte that is not a space or tab:
the trimmed line, with no continuation. -/
theorem readContinuedLineSlice_line {l post : List Byte} (hl10 : 10 ∉ l) (hl : startsField l)
    (hcolon : 58 ∈ l) {c : Byte} {t : List Byte} (hpost : post = c :: t)
    (hc : isSpaceOrTab c = false) (hs : b.rest = l ++ crlf ++ post) :
    ∃ b', Follows b b' ∧ readContinuedLineSlice fuel b = some (.ok (trim l), b') ∧
      b'.rest = post := by
  obtain ⟨b1, hb1, hr, hrest⟩ := readLineSlice_spec l post hl10 fuel b [] hs hbuf hfuel
  have hm := hb1.measure_le (k := 0) (by rw [hrest, hs]; simp; omega)
  have hne : l ≠ [] := by rintro rfl; simp [startsField] at hl
  unfold readContinuedLineSlice
  simp only [hr, List.nil_append, if_neg hne, hcolon, not_true_eq_false, if_false]
  split
  · exact ⟨b1, hb1, rfl, hrest⟩
  · obtain ⟨b2, hb2, hr2, hrest2⟩ := continuation_spec hc fuel b1 (trim l) (hrest.trans hpost)
      hb1.fits (by have := size_le_measure b1; omega)
    exact ⟨b2, hb1.trans hb2, by rw [hr2]; rfl, hrest2.trans hrest⟩

/-- `readContinuedLineSlice` on the blank line: the empty line. -/
theorem readContinuedLineSlice_blank {post : List Byte} (hs : b.rest = crlf ++ post) :
    ∃ b', Follows b b' ∧ readContinuedLineSlice fuel b = some (.ok [], b') ∧ b'.rest = post := by
  obtain ⟨b1, hb1, hr, hrest⟩ := readLineSlice_spec [] post (List.not_mem_nil _) fuel b []
    (by simpa using hs) hbuf hfuel
  exact ⟨b1, hb1, by rw [readContinuedLineSlice, hr]; rfl, hrest⟩

end Lines

/-- After a header line comes a byte that is not a space or tab: the next header line's
first, or the blank line's `\r`. -/
theorem exists_cons_lines {lines : List (List Byte)}
    (hw : ∀ l ∈ lines, 10 ∉ l ∧ startsField l) (B : List Byte) :
    ∃ c t, (lines.map (· ++ crlf)).flatten ++ crlf ++ B = c :: t ∧ isSpaceOrTab c = false := by
  cases lines with
  | nil => exact ⟨13, 10 :: B, rfl, rfl⟩
  | cons l ls =>
    obtain _ | ⟨c, t⟩ := l
    · simpa [startsField] using (hw [] (List.mem_cons_self _ _)).2
    · exact ⟨c, t ++ (crlf ++ ((ls.map (· ++ crlf)).flatten ++ (crlf ++ B))), by simp,
        by simpa [startsField] using (hw _ (List.mem_cons_self _ _)).2⟩

/-- `readHeaderLines` reads the header lines of a head, trimmed, up to the blank line. -/
theorem readHeaderLines_spec (B : List Byte) :
    ∀ (lines : List (List Byte)) (fuel : Nat) (b : BufReader) (acc : List (List Byte)),
      (∀ l ∈ lines, 10 ∉ l ∧ startsField l ∧ validHeaderLine (trim l)) →
      b.rest = (lines.map (· ++ crlf)).flatten ++ crlf ++ B → b.buf.length ≤ defaultBufSize →
      b.measure ≤ fuel →
      ∃ b', Follows b b' ∧ readHeaderLines fuel b acc = some (.ok (acc ++ lines.map trim), b') ∧
        b'.rest = B
  | [], fuel, b, acc, _, hs, hbuf, hfuel => by
    obtain ⟨b', hb', hr, hrest⟩ :=
      readContinuedLineSlice_blank fuel b hbuf hfuel (by simpa using hs)
    exact ⟨b', hb', by rw [readHeaderLines, hr]; simp, hrest⟩
  | l :: ls, fuel, b, acc, hw, hs, hbuf, hfuel => by
    have hl := hw l (List.mem_cons_self _ _)
    have hw' := fun l h => hw l (List.mem_cons_of_mem _ h)
    obtain ⟨c, t, hct, hc⟩ := exists_cons_lines (fun l h => ⟨(hw' l h).1, (hw' l h).2.1⟩) B
    obtain ⟨b1, hb1, hr, hrest⟩ := readContinuedLineSlice_line fuel b hbuf hfuel hl.1 hl.2.1
      (mem_of_mem_trim (validHeaderLine_mem hl.2.2).2) hct hc (by simpa [List.append_assoc] using hs)
    have hm := hb1.measure_le (k := l.length + 2) (by rw [hrest, hs]; simp [crlf]; omega)
    obtain ⟨x, xs, hx⟩ := List.exists_cons_of_ne_nil (trim_ne_nil hl.2.1)
    obtain _ | k := fuel
    · omega
    obtain ⟨b2, hb2, hr2, hrest2⟩ :=
      readHeaderLines_spec B ls k b1 (acc ++ [trim l]) hw' hrest hb1.fits (by omega)
    refine ⟨b2, hb1.trans hb2, ?_, hrest2⟩
    rw [readHeaderLines, hr, hx]
    simp only [← hx, hl.2.2, Bool.not_true, Bool.false_eq_true, if_false]
    simpa [hx] using hr2

/-- `ReadMIMEHeader` on the header lines of a head, each starting a field. -/
theorem readMIMEHeader_spec {lines : List (List Byte)}
    (hw : ∀ l ∈ lines, 10 ∉ l ∧ startsField l ∧ validHeaderLine (trim l)) (B : List Byte)
    (fuel : Nat) (b : BufReader) (hs : b.rest = (lines.map (· ++ crlf)).flatten ++ crlf ++ B)
    (hbuf : b.buf.length ≤ defaultBufSize) (hfuel : b.measure ≤ fuel) :
    ∃ b', Follows b b' ∧ readMIMEHeader fuel b = some (.ok (lines.map trim), b') ∧ b'.rest = B := by
  obtain ⟨c, t, hct, hc⟩ := exists_cons_lines (fun l h => ⟨(hw l h).1, (hw l h).2.1⟩) B
  obtain ⟨b1, hb1, hp, hrest⟩ :=
    peek_spec fuel b (hs.trans hct) hbuf ((size_le_measure b).trans hfuel)
  have hm := hb1.measure_le (k := 0) (by rw [hrest]; omega)
  obtain ⟨b2, hb2, hr, hrest2⟩ :=
    readHeaderLines_spec B lines fuel b1 [] hw (hrest.trans hs) hb1.fits (by omega)
  exact ⟨b2, hb1.trans hb2, by rw [readMIMEHeader, hp]; simpa [hc] using hr, hrest2⟩

/-- A head reads back with its header lines trimmed. On every reader whose bytes still to
read are the head of `blk` and then `B`, however the connection cuts them into segments, and
with fuel for their bytes and segments, `textproto` returns `blk.trimmed` and leaves exactly
`B`. -/
theorem readHeaderBlock_trimmed (blk : HeaderBlock) (hw : blk.Fields) (B : List Byte)
    (fuel : Nat) (b : BufReader) (hs : b.rest = blk.toBytes ++ B)
    (hbuf : b.buf.length ≤ defaultBufSize) (hfuel : b.measure ≤ fuel) :
    ∃ b', Follows b b' ∧ readHeaderBlock fuel b = some (.ok blk.trimmed, b') ∧ b'.rest = B := by
  obtain ⟨b1, hb1, hr, hrest⟩ := readLineSlice_spec blk.firstLine
    ((blk.lines.map (· ++ crlf)).flatten ++ crlf ++ B) hw.1 fuel b []
    (by rw [hs, HeaderBlock.toBytes]; simp only [List.append_assoc]) hbuf hfuel
  have hm := hb1.measure_le (k := 0) (by rw [hrest, hs, HeaderBlock.toBytes]; simp; omega)
  obtain ⟨b2, hb2, hr2, hrest2⟩ := readMIMEHeader_spec hw.2 B fuel b1 hrest hb1.fits (by omega)
  exact ⟨b2, hb1.trans hb2, by rw [readHeaderBlock, hr]; simp [hr2, Except.map,
    HeaderBlock.trimmed], hrest2⟩

/-- A well-formed head reads back. On every reader whose bytes still to read are the head
of `blk` and then `B`, however the connection cuts them into segments, and with fuel for
their bytes and segments, `textproto` returns `blk` and leaves exactly `B`. -/
theorem readHeaderBlock_toBytes (blk : HeaderBlock) (hw : blk.WellFormed) (B : List Byte)
    (fuel : Nat) (b : BufReader) (hs : b.rest = blk.toBytes ++ B)
    (hbuf : b.buf.length ≤ defaultBufSize) (hfuel : b.measure ≤ fuel) :
    ∃ b', Follows b b' ∧ readHeaderBlock fuel b = some (.ok blk, b') ∧ b'.rest = B := by
  simpa only [wellFormed_trimmed hw] using
    readHeaderBlock_trimmed blk (wellFormed_fields hw) B fuel b hs hbuf hfuel

/-- A header line without a colon: the reader stops after it, with the lines behind it
unread. -/
example : readHeaderBlock 40 (BufReader.new ⟨[bytesOf "HTTP/1.1 200 OK\r\nbad\r\nX: y\r\n\r\n"], []⟩) =
    some (.error (.missingColon (bytesOf "bad")), ⟨⟨[], []⟩, bytesOf "X: y\r\n\r\n"⟩) := by
  rfl

end Textproto

end HttpCloak
