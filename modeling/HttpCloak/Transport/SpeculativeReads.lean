import HttpCloak.Transport.SpeculativeStream

/-!
# How many reads `readAndStripHTTPResponse` makes

`readAndStripHTTPResponse` reads up to 8192 bytes into `headerBuffer` and calls itself again
while the head is incomplete and `headerBuffer` holds at most 16384 bytes; when the head is
accepted with nothing behind it, it makes one more underlying read, `c.Conn.Read(b)`, and
returns that. On a connection whose every read returns at least one byte or an error
(`Conn.Progressing`), each recursive call finds `headerBuffer` longer by a byte at least, so
`16385 - min headerBuffer.Len() 16384` falls at each one.

`readAndStripCounted` is `readAndStripHTTPResponse` with two ghost counters, its own
invocations (the recursion depth) and its underlying reads; `readAndStripCounted_fst` says
its result is the function's. The bound holds whatever `headerBuffer` held before the call,
as earlier failed `Read`s leave it. A connection that answers `(0, nil)` is an empty segment:
`readAndStripCounted_empty_segments` gives one more read for each.
-/

namespace HttpCloak.Transport
namespace SpeculativeConn

/-- What one call of `readAndStripHTTPResponse` did: how many times it was invoked, the call
itself included, and how many underlying reads it made. -/
structure Cost where
  calls : Nat
  reads : Nat
  deriving DecidableEq, Repr

/-- The underlying reads of `finishResponse`: one, `c.Conn.Read(b)`, when the head is accepted
with nothing behind it. -/
def finishReads (rr : ReadResponse) (c : SpeculativeConn) (headerEnd : Nat) : Nat :=
  match rr (c.headerBuffer.take (headerEnd + 4)) with
  | .error _ => 0
  | .ok resp =>
    if resp.statusCode ≠ 200 then 0
    else if 0 < (c.headerBuffer.drop (headerEnd + 4)).length then 0
    else 1

/-- `readAndStripHTTPResponse` counting its invocations and its underlying reads. -/
def readAndStripCounted (rr : ReadResponse) (n : Nat) (c : SpeculativeConn) :
    ((List Byte × Option Error) × SpeculativeConn) × Cost :=
  let r := c.conn.read 8192
  match h : r.1.2 with
  | some e => ((([], some (.speculative ⟨"read", 0, e.text⟩)), { c with conn := r.2 }), ⟨1, 1⟩)
  | none =>
    let c' := { c with conn := r.2, headerBuffer := c.headerBuffer ++ r.1.1 }
    match bytesIndex crlfcrlf c'.headerBuffer with
    | none =>
      if 16384 < c'.headerBuffer.length then
        ((([], some (.speculative ⟨"parse", 0, "HTTP response headers exceed 16KB limit"⟩)), c'),
          ⟨1, 1⟩)
      else
        let r := readAndStripCounted rr n c'
        (r.1, ⟨r.2.calls + 1, r.2.reads + 1⟩)
    | some headerEnd => (finishResponse rr n c' headerEnd, ⟨1, 1 + finishReads rr c' headerEnd⟩)
termination_by c.conn.size
decreasing_by exact Conn.size_read_lt c.conn (by decide) h

/-! ## The branches -/

section Branches
variable (rr : ReadResponse) (n : Nat) (c : SpeculativeConn)

theorem counted_of_error {e : ConnError} (h : (c.conn.read 8192).1.2 = some e) :
    readAndStripCounted rr n c =
      ((([], some (.speculative ⟨"read", 0, e.text⟩)), { c with conn := (c.conn.read 8192).2 }),
        ⟨1, 1⟩) := by
  rw [readAndStripCounted]
  split <;> simp_all

theorem counted_of_more (h : (c.conn.read 8192).1.2 = none)
    (hi : bytesIndex crlfcrlf (absorbed c).headerBuffer = none)
    (hl : (absorbed c).headerBuffer.length ≤ 16384) :
    readAndStripCounted rr n c =
      ((readAndStripCounted rr n (absorbed c)).1,
        ⟨(readAndStripCounted rr n (absorbed c)).2.calls + 1,
          (readAndStripCounted rr n (absorbed c)).2.reads + 1⟩) := by
  rw [readAndStripCounted]
  split
  · simp_all
  · simp only [absorbed] at hi hl
    simp only [hi, absorbed, if_neg (Nat.not_lt.2 hl)]

theorem counted_of_long (h : (c.conn.read 8192).1.2 = none)
    (hi : bytesIndex crlfcrlf (absorbed c).headerBuffer = none)
    (hl : 16384 < (absorbed c).headerBuffer.length) :
    readAndStripCounted rr n c =
      ((([], some (.speculative ⟨"parse", 0, "HTTP response headers exceed 16KB limit"⟩)),
        absorbed c), ⟨1, 1⟩) := by
  rw [readAndStripCounted]
  split
  · simp_all
  · simp only [absorbed] at hi hl
    simp only [hi, absorbed, if_pos hl]

theorem counted_of_found (h : (c.conn.read 8192).1.2 = none) {k : Nat}
    (hi : bytesIndex crlfcrlf (absorbed c).headerBuffer = some k) :
    readAndStripCounted rr n c =
      (finishResponse rr n (absorbed c) k, ⟨1, 1 + finishReads rr (absorbed c) k⟩) := by
  rw [readAndStripCounted]
  split
  · simp_all
  · simp only [absorbed] at hi
    simp only [hi, absorbed]

end Branches

/-- The counters do not change what `readAndStripHTTPResponse` returns. -/
theorem readAndStripCounted_fst (rr : ReadResponse) (n : Nat) (c : SpeculativeConn) :
    (readAndStripCounted rr n c).1 = readAndStripHTTPResponse rr n c := by
  cases h : (c.conn.read 8192).1.2 with
  | some e => rw [counted_of_error rr n c h, readAndStrip_of_error rr n c h]
  | none =>
    cases hi : bytesIndex crlfcrlf (absorbed c).headerBuffer with
    | none =>
      by_cases hl : (absorbed c).headerBuffer.length ≤ 16384
      · rw [counted_of_more rr n c h hi hl, readAndStrip_of_more rr n c h hi hl]
        exact readAndStripCounted_fst rr n (absorbed c)
      · rw [counted_of_long rr n c h hi (by omega), readAndStrip_of_long rr n c h hi (by omega)]
    | some k => rw [counted_of_found rr n c h hi, readAndStrip_of_found rr n c h hi]
termination_by c.conn.size
decreasing_by exact Conn.size_read_lt c.conn (by decide) h

/-! ## The bound -/

/-- On a progressing connection, a read that reports no error adds a byte at least to
`headerBuffer`. -/
theorem length_lt_absorbed {c : SpeculativeConn} (hc : c.conn.Progressing)
    (h : (c.conn.read 8192).1.2 = none) :
    c.headerBuffer.length < (absorbed c).headerBuffer.length := by
  have hpos := List.length_pos.2 (hc.read_ne_nil (by decide) h)
  simp only [absorbed, List.length_append]
  omega

theorem finishReads_le_one (rr : ReadResponse) (c : SpeculativeConn) (k : Nat) :
    finishReads rr c k ≤ 1 := by
  unfold finishReads
  split
  · omega
  · split_ifs <;> omega

/-- The invocations of one call number at most `16385 - min headerBuffer.Len() 16384`, since
each recursive call finds `headerBuffer` longer and still within 16384 bytes; and every
underlying read but a last one opens an invocation. -/
theorem counted_le (rr : ReadResponse) (n : Nat) (c : SpeculativeConn) (hc : c.conn.Progressing) :
    (readAndStripCounted rr n c).2.calls ≤ 16385 - min c.headerBuffer.length 16384 ∧
      (readAndStripCounted rr n c).2.reads ≤ (readAndStripCounted rr n c).2.calls + 1 := by
  cases h : (c.conn.read 8192).1.2 with
  | some e => rw [counted_of_error rr n c h]; dsimp only; omega
  | none =>
    cases hi : bytesIndex crlfcrlf (absorbed c).headerBuffer with
    | none =>
      by_cases hl : (absorbed c).headerBuffer.length ≤ 16384
      · have ih := counted_le rr n (absorbed c) (hc.read 8192)
        have hlt := length_lt_absorbed hc h
        rw [counted_of_more rr n c h hi hl]
        dsimp only
        omega
      · rw [counted_of_long rr n c h hi (by omega)]; dsimp only; omega
    | some k =>
      have := finishReads_le_one rr (absorbed c) k
      rw [counted_of_found rr n c h hi]
      dsimp only
      omega
termination_by c.conn.size
decreasing_by exact Conn.size_read_lt c.conn (by decide) h

/-- **The reads of one call.** On every connection whose every read returns a byte or an
error, and whatever `headerBuffer` holds, one call of `readAndStripHTTPResponse` gives its
result after at most 16385 invocations and 16386 underlying reads. -/
theorem readAndStrip_reads_bounded (rr : ReadResponse) (n : Nat) (c : SpeculativeConn)
    (hc : c.conn.Progressing) :
    (readAndStripCounted rr n c).1 = readAndStripHTTPResponse rr n c ∧
      (readAndStripCounted rr n c).2.calls ≤ 16385 ∧
      (readAndStripCounted rr n c).2.reads ≤ 16386 := by
  obtain ⟨hcalls, hreads⟩ := counted_le rr n c hc
  exact ⟨readAndStripCounted_fst rr n c, by omega, by omega⟩

/-- The connection of the byte-at-a-time test: the proxy's answer one byte per read, then two
bytes of TLS. -/
def bytewiseConn : Conn := ⟨(bytesOf "HTTP/1.1 200 OK\r\n\r\n").map ([·]) ++ [[22, 3]], []⟩

theorem readAndStrip_reads_bounded_bytewise :
    (newSpeculativeConn bytewiseConn []).conn.Progressing ∧
      (readAndStripCounted (fun _ => .ok ⟨200, "200 OK"⟩) 1024
          (newSpeculativeConn bytewiseConn [])).1 =
        readAndStripHTTPResponse (fun _ => .ok ⟨200, "200 OK"⟩) 1024
          (newSpeculativeConn bytewiseConn []) ∧
      (readAndStripCounted (fun _ => .ok ⟨200, "200 OK"⟩) 1024
          (newSpeculativeConn bytewiseConn [])).2.calls ≤ 16385 ∧
      (readAndStripCounted (fun _ => .ok ⟨200, "200 OK"⟩) 1024
          (newSpeculativeConn bytewiseConn [])).2.reads ≤ 16386 :=
  ⟨by decide, readAndStrip_reads_bounded _ _ _ (by decide)⟩

/-! ## Reads that return nothing -/

/-- Reads that return `(0, nil)` are not bounded: with `k` of them before the end of the
stream, and `headerBuffer` incomplete and within the limit, the call makes `k + 1` reads. -/
theorem readAndStripCounted_empty_segments (rr : ReadResponse) (n : Nat) :
    ∀ (k : Nat) (c : SpeculativeConn), c.conn.inbound = List.replicate k [] →
      bytesIndex crlfcrlf c.headerBuffer = none → c.headerBuffer.length ≤ 16384 →
      (readAndStripCounted rr n c).2.reads = k + 1
  | 0, c, hin, _, _ => by
    have h : (c.conn.read 8192).1.2 = some .eof := by simp [Conn.read, hin]
    rw [counted_of_error rr n c h]
  | k + 1, c, hin, hi, hl => by
    have h : (c.conn.read 8192).1.2 = none := by simp [Conn.read, hin, List.replicate_succ]
    have habs : absorbed c = { c with conn := ⟨List.replicate k [], c.conn.written⟩ } := by
      simp [absorbed, Conn.read, hin, List.replicate_succ]
    rw [counted_of_more rr n c h (by rwa [habs]) (by rwa [habs]), habs]
    exact congrArg (· + 1) (readAndStripCounted_empty_segments rr n k _ rfl hi hl)

end SpeculativeConn
end HttpCloak.Transport
