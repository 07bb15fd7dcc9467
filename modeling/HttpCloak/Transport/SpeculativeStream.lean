import HttpCloak.Transport.SpeculativeConn

/-!
# The wrapper hides the proxy from the TLS layer

A `SpeculativeConn` over a proxy that answers with a head `H` and then relays `T` must look,
to the TLS client above it, like a connection that carries exactly `T`, and it must put
exactly `connectRequest ++ b₁ ++ ⋯ ++ bₖ` on the wire for writes `b₁ … bₖ`.

The read side rests on two states of the wrapper:

* `Reading H T`: the head is not complete; `headerBuffer` holds a part of `H` with no
  `\r\n\r\n` in it, and the rest of `H ++ T` is still in the connection;
* `Streaming T δ`: the head is gone; the bytes the caller has received (`δ`), then
  `readBuffer`, then the connection's pending bytes, are `T`.

`readAndStrip_eq_finish` shows that from `Reading` the recursion of
`readAndStripHTTPResponse` always ends in `finishResponse` with `H` complete at the front of
`headerBuffer`, whatever the segments; `read_inv` is the step lemma of the read side, and
`run_read_inv` and `run_read_progress` its run lemmas: the delivered bytes stay a prefix of
`T`, and every read into a non-empty buffer adds a byte until `T` is exhausted, so no byte is
lost. `speculativeConn_transparent` puts the write side, the status-200 stream and the
rejection of other statuses together.
-/

namespace HttpCloak.Transport
namespace SpeculativeConn

/-- `H` is a complete response head: its first `\r\n\r\n` is its last four bytes. -/
def IsHead (H : List Byte) : Prop := bytesIndex crlfcrlf H = some (H.length - 4)

instance : DecidablePred IsHead := fun _ => inferInstanceAs (Decidable (_ = _))

theorem IsHead.four_le {H : List Byte} (h : IsHead H) : 4 ≤ H.length := by
  have := bytesIndex_add_length_le h
  simp only [crlfcrlf, List.length_cons, List.length_nil] at this
  omega

/-- The first `Read` of a fresh wrapper goes to `readAndStripHTTPResponse`. -/
theorem read_fresh (rr : ReadResponse) (conn : Conn) (connectRequest : List Byte) (n : Nat) :
    (newSpeculativeConn conn connectRequest).read rr n =
      readAndStripHTTPResponse rr n (newSpeculativeConn conn connectRequest) := rfl

/-! ## The branches of `readAndStripHTTPResponse` -/

/-- The wrapper after `readAndStripHTTPResponse` read a chunk into `headerBuffer`. -/
def absorbed (c : SpeculativeConn) : SpeculativeConn :=
  { c with conn := (c.conn.read 8192).2, headerBuffer := c.headerBuffer ++ (c.conn.read 8192).1.1 }

section Branches
variable (rr : ReadResponse) (n : Nat) (c : SpeculativeConn)

theorem readAndStrip_of_error {e : ConnError} (h : (c.conn.read 8192).1.2 = some e) :
    readAndStripHTTPResponse rr n c =
      (([], some (.speculative ⟨"read", 0, e.text⟩)), { c with conn := (c.conn.read 8192).2 }) := by
  rw [readAndStripHTTPResponse]
  split <;> simp_all

theorem readAndStrip_of_more (h : (c.conn.read 8192).1.2 = none)
    (hi : bytesIndex crlfcrlf (absorbed c).headerBuffer = none)
    (hl : (absorbed c).headerBuffer.length ≤ 16384) :
    readAndStripHTTPResponse rr n c = readAndStripHTTPResponse rr n (absorbed c) := by
  rw [readAndStripHTTPResponse]
  split
  · simp_all
  · simp only [absorbed] at hi hl
    simp only [hi, absorbed]
    rw [if_neg (by omega)]

theorem readAndStrip_of_long (h : (c.conn.read 8192).1.2 = none)
    (hi : bytesIndex crlfcrlf (absorbed c).headerBuffer = none)
    (hl : 16384 < (absorbed c).headerBuffer.length) :
    readAndStripHTTPResponse rr n c =
      (([], some (.speculative ⟨"parse", 0, "HTTP response headers exceed 16KB limit"⟩)),
        absorbed c) := by
  rw [readAndStripHTTPResponse]
  split
  · simp_all
  · simp only [absorbed] at hi hl
    simp only [hi, absorbed]
    rw [if_pos hl]

theorem readAndStrip_of_found (h : (c.conn.read 8192).1.2 = none) {k : Nat}
    (hi : bytesIndex crlfcrlf (absorbed c).headerBuffer = some k) :
    readAndStripHTTPResponse rr n c = finishResponse rr n (absorbed c) k := by
  rw [readAndStripHTTPResponse]
  split
  · simp_all
  · simp only [absorbed] at hi
    simp only [hi, absorbed]

end Branches

/-! ## Reading the head -/

/-- The head is not complete yet. -/
structure Reading (H T : List Byte) (c : SpeculativeConn) : Prop where
  notDone : c.httpResponseDone = false
  unbuffered : c.readBuffer = []
  stream : c.headerBuffer ++ c.conn.pending = H ++ T
  short : c.headerBuffer.length < H.length

/-- The head is complete at the front of `headerBuffer`, and not yet checked. -/
structure Headed (H T : List Byte) (c : SpeculativeConn) : Prop where
  notDone : c.httpResponseDone = false
  unbuffered : c.readBuffer = []
  head : c.headerBuffer.take H.length = H
  rest : c.headerBuffer.drop H.length ++ c.conn.pending = T

theorem absorbed_stream (c : SpeculativeConn) :
    (absorbed c).headerBuffer ++ (absorbed c).conn.pending = c.headerBuffer ++ c.conn.pending := by
  simp only [absorbed, List.append_assoc, Conn.read_pending]

/-- While the head is incomplete the stream is not exhausted, so the read succeeds. -/
theorem Reading.read_ok {H T : List Byte} {c : SpeculativeConn} (h : Reading H T c) (n : Nat) :
    (c.conn.read n).1.2 = none := by
  cases he : (c.conn.read n).1.2 with
  | none => rfl
  | some e =>
    have hin := (Conn.read_error c.conn n he).2.1
    have := congrArg List.length h.stream
    simp only [Conn.pending, hin, List.flatten_nil, List.append_nil, List.length_append] at this
    have := h.short
    omega

/-- One chunk read while the head is incomplete: the head is still incomplete, or it is now
complete and `\r\n\r\n` is found where `H` ends. -/
theorem Reading.after_chunk {H T : List Byte} {c : SpeculativeConn} (hH : IsHead H)
    (h : Reading H T c) :
    (bytesIndex crlfcrlf (absorbed c).headerBuffer = none ∧ Reading H T (absorbed c)) ∨
      (bytesIndex crlfcrlf (absorbed c).headerBuffer = some (H.length - 4) ∧
        Headed H T (absorbed c)) := by
  have hs : (absorbed c).headerBuffer ++ (absorbed c).conn.pending = H ++ T :=
    (absorbed_stream c).trans h.stream
  rcases bytesIndex_of_prefix_append hH ⟨_, hs⟩ with ⟨hi, hl⟩ | ⟨hi, ⟨X, hX⟩⟩
  · exact .inl ⟨hi, h.notDone, h.unbuffered, hs, hl⟩
  · refine .inr ⟨hi, h.notDone, h.unbuffered, by rw [← hX]; simp, ?_⟩
    rw [← hX, List.append_assoc] at hs
    rw [← hX, List.drop_left]
    exact List.append_cancel_left hs

/-- From `Reading`, however the connection cuts the stream, `readAndStripHTTPResponse` reads
until the head is complete and then does what `finishResponse` does with it. -/
theorem readAndStrip_eq_finish (rr : ReadResponse) (n : Nat) {H T : List Byte} (hH : IsHead H)
    (hlen : H.length ≤ 16384) (c : SpeculativeConn) (h : Reading H T c) :
    ∃ c', readAndStripHTTPResponse rr n c = finishResponse rr n c' (H.length - 4) ∧
      Headed H T c' ∧ c'.connectRequest = c.connectRequest ∧ c'.firstWrite = c.firstWrite ∧
        c'.conn.written = c.conn.written ∧ (c.conn.Progressing → c'.conn.Progressing) := by
  induction c using readAndStripHTTPResponse.induct rr n with
  | case1 c r e he => simp [r, h.read_ok] at he
  | case2 c r _ c₁ hi hl =>
    rcases h.after_chunk hH with ⟨-, hr⟩ | ⟨hi', -⟩
    · have := hr.short; simp only [absorbed] at this; simp only [c₁, r] at hl; omega
    · simp only [absorbed] at hi'; simp [hi'] at hi
  | case3 c r hok c₁ hi hl ih =>
    rcases h.after_chunk hH with ⟨hi, hr⟩ | ⟨hi', -⟩
    · obtain ⟨c', hc', hd, h1, h2, h3, h4⟩ := ih hr
      exact ⟨c', (readAndStrip_of_more rr n c hok hi (by have := hr.short; omega)).trans hc',
        hd, h1, h2, by simpa [c₁, r] using h3, fun hp => h4 (hp.read 8192)⟩
    · simp only [absorbed] at hi'; simp [hi'] at hi
  | case4 c _ hok _ k hk =>
    rcases h.after_chunk hH with ⟨hi, -⟩ | ⟨hi, hd⟩
    · simp only [absorbed] at hi; simp [hi] at hk
    · exact ⟨absorbed c, readAndStrip_of_found rr n c hok hi, hd, rfl, rfl, by simp [absorbed],
        fun hp => hp.read 8192⟩

/-! ## After the head -/

theorem take_ne_nil {l : List Byte} {n : Nat} (hn : 0 < n) (hl : 0 < l.length) : l.take n ≠ [] := by
  simp only [ne_eq, List.take_eq_nil_iff, not_or]
  exact ⟨by omega, List.ne_nil_of_length_pos hl⟩

theorem take_append_drop_min (l : List Byte) (n : Nat) :
    l.take n ++ l.drop (min n l.length) = l := by
  rcases Nat.le_total n l.length with h | h
  · rw [Nat.min_eq_left h, List.take_append_drop]
  · rw [Nat.min_eq_right h, List.drop_length, List.take_of_length_le h, List.append_nil]

/-- The head is gone: received bytes, buffered bytes and pending bytes make up `T`. -/
structure Streaming (T δ : List Byte) (c : SpeculativeConn) : Prop where
  done : c.httpResponseDone = true
  stream : δ ++ c.readBuffer ++ c.conn.pending = T

/-- The read side of a wrapper over `H ++ T`, after the caller received `δ`. -/
def ReadInv (H T δ : List Byte) (c : SpeculativeConn) : Prop :=
  (δ = [] ∧ Reading H T c) ∨ Streaming T δ c

/-- A read that fails on a streaming wrapper reports the connection's `io.EOF`, returns
nothing, and the caller has already received all of `T`. -/
def EndsAt (T δ : List Byte) (r : (List Byte × Option Error) × SpeculativeConn) : Prop :=
  r.1.2 ≠ none → r.1.2 = some (.conn .eof) ∧ r.1.1 = [] ∧ δ = T

/-- A read on a connection with no empty segment leaves one, and when its buffer is not
empty and it does not fail it returns a byte at least. -/
def Advances (n : Nat) (c : SpeculativeConn) (r : (List Byte × Option Error) × SpeculativeConn) :
    Prop :=
  c.conn.Progressing → r.2.conn.Progressing ∧ (0 < n → r.1.2 = none → r.1.1 ≠ [])

theorem connRead_advances (c : SpeculativeConn) (n : Nat) : Advances n c (c.connRead n) :=
  fun hp => ⟨hp.read n, fun hn he => hp.read_ne_nil hn (by simpa [connRead] using he)⟩

theorem connRead_streaming {T δ : List Byte} {c : SpeculativeConn} (h : Streaming T δ c)
    (hb : c.readBuffer = []) (n : Nat) :
    Streaming T (δ ++ (c.connRead n).1.1) (c.connRead n).2 ∧ EndsAt T δ (c.connRead n) := by
  have hp := Conn.read_pending c.conn n
  refine ⟨⟨h.done, ?_⟩, fun he => ?_⟩
  · simp only [connRead, hb, List.append_nil, List.append_assoc, hp]
    simpa [hb] using h.stream
  · simp only [connRead, ne_eq, Option.map_eq_none', Option.map_eq_some'] at he ⊢
    obtain ⟨e, he'⟩ := Option.ne_none_iff_exists'.mp he
    obtain ⟨rfl, hin, hd, -⟩ := Conn.read_error c.conn n he'
    have := h.stream
    simp only [hb, Conn.pending, hin, List.flatten_nil, List.append_nil] at this
    exact ⟨⟨.eof, he', rfl⟩, hd, by simpa [hd] using this⟩

/-- `finishResponse` on a complete head that parses with status 200. -/
theorem finish_ok (rr : ReadResponse) (n : Nat) {H T : List Byte} {resp : Response}
    (hH : IsHead H) (hr : rr H = .ok resp) (h200 : resp.statusCode = 200) {c : SpeculativeConn}
    (h : Headed H T c) :
    Streaming T (finishResponse rr n c (H.length - 4)).1.1 (finishResponse rr n c (H.length - 4)).2 ∧
      EndsAt T [] (finishResponse rr n c (H.length - 4)) ∧
        Advances n c (finishResponse rr n c (H.length - 4)) := by
  have h4 : H.length - 4 + 4 = H.length := by have := hH.four_le; omega
  have hrest := h.rest
  unfold finishResponse
  simp only [h4, h.head, hr, h200, ne_eq, not_true_eq_false, if_false]
  split
  · rename_i hpos
    refine ⟨⟨by split <;> rfl, ?_⟩, by simp [EndsAt],
      fun hp => ⟨by split <;> exact hp, fun hn _ => take_ne_nil hn hpos⟩⟩
    split
    · simp only [h.unbuffered, List.nil_append, ← List.append_assoc, take_append_drop_min, hrest]
    · rw [List.take_of_length_le (by omega)]
      simpa [h.unbuffered] using hrest
  · rename_i hpos
    have hnil : c.headerBuffer.drop H.length = [] := List.eq_nil_of_length_eq_zero (by omega)
    have hs : Streaming T [] { c with httpResponseDone := true, headerBuffer := [] } :=
      ⟨rfl, by simpa [hnil, h.unbuffered] using hrest⟩
    exact ⟨(connRead_streaming hs h.unbuffered n).1, (connRead_streaming hs h.unbuffered n).2,
      connRead_advances _ n⟩

/-- `finishResponse` on a complete head that parses with another status. -/
theorem finish_status (rr : ReadResponse) (n : Nat) {H T : List Byte} {resp : Response}
    (hH : IsHead H) (hr : rr H = .ok resp) (hst : resp.statusCode ≠ 200) {c : SpeculativeConn}
    (h : Headed H T c) :
    finishResponse rr n c (H.length - 4) =
      (([], some (.speculative ⟨"status", resp.statusCode, resp.status⟩)), c) := by
  have h4 : H.length - 4 + 4 = H.length := by have := hH.four_le; omega
  unfold finishResponse
  simp only [h4, h.head, hr, hst, ne_eq, not_false_eq_true, if_true]

/-! ## The read side of a run -/

/-- A write leaves the read side alone. -/
theorem write_readSide (c : SpeculativeConn) (b : List Byte) (f : Option Nat) :
    (c.write b f).2.httpResponseDone = c.httpResponseDone ∧
      (c.write b f).2.readBuffer = c.readBuffer ∧
        (c.write b f).2.headerBuffer = c.headerBuffer ∧
          (c.write b f).2.conn.pending = c.conn.pending := by
  unfold write
  cases f <;> split <;> simp [Conn.write, Conn.pending]

/-- A write leaves the segments still to read alone. -/
theorem write_inbound (c : SpeculativeConn) (b : List Byte) (f : Option Nat) :
    (c.write b f).2.conn.inbound = c.conn.inbound := by
  unfold write
  cases f <;> split <;> simp [Conn.write]

theorem progressing_write (c : SpeculativeConn) (b : List Byte) (f : Option Nat)
    (h : c.conn.Progressing) : (c.write b f).2.conn.Progressing :=
  fun seg hs => h seg (by rwa [write_inbound] at hs)

theorem Reading.write {H T : List Byte} {c : SpeculativeConn} (h : Reading H T c)
    (b : List Byte) (f : Option Nat) : Reading H T (c.write b f).2 := by
  obtain ⟨h1, h2, h3, h4⟩ := write_readSide c b f
  exact ⟨h1.trans h.notDone, h2.trans h.unbuffered, by rw [h3, h4]; exact h.stream,
    by rw [h3]; exact h.short⟩

theorem ReadInv.write {H T δ : List Byte} {c : SpeculativeConn} (h : ReadInv H T δ c)
    (b : List Byte) (f : Option Nat) : ReadInv H T δ (c.write b f).2 := by
  rcases h with ⟨rfl, hR⟩ | hS
  · exact .inl ⟨rfl, hR.write b f⟩
  · obtain ⟨h1, h2, -, h4⟩ := write_readSide c b f
    exact .inr ⟨h1.trans hS.done, by rw [h2, h4]; exact hS.stream⟩

section Status200
variable (rr : ReadResponse) {H T : List Byte} {resp : Response} (hH : IsHead H)
  (hlen : H.length ≤ 16384) (hr : rr H = .ok resp) (h200 : resp.statusCode = 200)
include hH hlen hr h200

/-- The step lemma of the read side: one `Read` keeps the invariant, fails only with
`io.EOF` once all of `T` has been delivered, and otherwise returns a byte when it can. -/
theorem read_inv (n : Nat) {δ : List Byte} {c : SpeculativeConn} (h : ReadInv H T δ c) :
    ReadInv H T (δ ++ (c.read rr n).1.1) (c.read rr n).2 ∧ EndsAt T δ (c.read rr n) ∧
      Advances n c (c.read rr n) := by
  rcases h with ⟨rfl, hR⟩ | hS
  · have hread : c.read rr n = readAndStripHTTPResponse rr n c := by
      simp [read, hR.unbuffered, hR.notDone]
    obtain ⟨c', hc', hd, -, -, -, hp⟩ := readAndStrip_eq_finish rr n hH hlen c hR
    rw [hread, hc']
    obtain ⟨hs, he, ha⟩ := finish_ok rr n hH hr h200 hd
    exact ⟨.inr (by simpa using hs), he, fun hc => ha (hp hc)⟩
  · by_cases hb : 0 < c.readBuffer.length
    · have hread : c.read rr n =
          ((c.readBuffer.take n, none), { c with readBuffer := c.readBuffer.drop n }) := by
        simp [read, hb]
      rw [hread]
      refine ⟨.inr ⟨hS.done, ?_⟩, by simp [EndsAt], fun hp => ⟨hp, fun hn _ => take_ne_nil hn hb⟩⟩
      show δ ++ c.readBuffer.take n ++ c.readBuffer.drop n ++ c.conn.pending = T
      rw [List.append_assoc δ, List.take_append_drop]
      exact hS.stream
    · have hb' : c.readBuffer = [] := List.eq_nil_of_length_eq_zero (by omega)
      have hread : c.read rr n = c.connRead n := by simp [read, hb', hS.done]
      rw [hread]
      obtain ⟨hs, he⟩ := connRead_streaming hS hb' n
      exact ⟨.inr hs, he, connRead_advances c n⟩

/-- The run lemma of the read side: the delivered bytes stay a prefix of `T`, and once a
read has reported `io.EOF` they are all of `T`. -/
theorem run_read_inv : ∀ (calls : List Call) (δ : List Byte) (c : SpeculativeConn),
    ReadInv H T δ c →
      δ ++ delivered (run rr c calls).1 <+: T ∧
        (Outcome.read [] (some (.conn .eof)) ∈ (run rr c calls).1 →
          δ ++ delivered (run rr c calls).1 = T)
  | [], δ, c, h => by
    refine ⟨?_, by simp [run]⟩
    rcases h with ⟨rfl, -⟩ | hS
    · simp [run, delivered]
    · simp [run, delivered, ← hS.stream]
  | .read n :: calls, δ, c, h => by
    obtain ⟨hinv, hend, -⟩ := read_inv rr hH hlen hr h200 n h
    obtain ⟨ih1, ih2⟩ := run_read_inv calls _ _ hinv
    simp only [run, step, delivered, List.mem_cons, ← List.append_assoc]
    refine ⟨ih1, ?_⟩
    rintro (he | he)
    · -- the failed read delivered the rest of T, so the later reads delivered nothing
      have hT := (hend (by simp [← (Outcome.read.inj he).2])).2.2
      exact ih1.eq_of_length_le (by rw [← hT]; simp)
    · exact ih2 he
  | .write b f :: calls, δ, c, h => by
    obtain ⟨ih1, ih2⟩ := run_read_inv calls _ _ (h.write b f)
    simp only [run, step, delivered, List.mem_cons, reduceCtorEq, false_or]
    exact ⟨ih1, ih2⟩

/-- The progress run lemma of the read side: over segments none of which is empty, every
read into a non-empty buffer adds a byte to what the caller has received, until that is all
of `T`. -/
theorem run_read_progress : ∀ (calls : List Call) (δ : List Byte) (c : SpeculativeConn),
    ReadInv H T δ c → c.conn.Progressing →
      min T.length (δ.length + nonEmptyReads calls) ≤ (δ ++ delivered (run rr c calls).1).length
  | [], δ, c, _, _ => by simp [run, delivered, nonEmptyReads]
  | .read n :: calls, δ, c, h, hp => by
    obtain ⟨hinv, hend, hadv⟩ := read_inv rr hH hlen hr h200 n h
    have ih := run_read_progress calls _ _ hinv (hadv hp).1
    simp only [run, step, delivered, nonEmptyReads, ← List.append_assoc]
    simp only [List.length_append] at ih ⊢
    split_ifs with hn
    · cases he : (c.read rr n).1.2 with
      | none => have := List.length_pos.2 ((hadv hp).2 hn he); omega
      | some e =>
        have hT := (hend (by simp [he])).2.2
        subst hT
        omega
    · omega
  | .write b f :: calls, δ, c, h, hp => by
    simpa [run, step, delivered, nonEmptyReads] using
      run_read_progress calls δ _ (h.write b f) (progressing_write c b f hp)

end Status200

/-- `Outcome.read` or not. -/
def Outcome.isRead : Outcome → Bool
  | .read _ _ => true
  | .write _ _ => false

/-- With any other status, the first `Read` of a run fails with the `"status"` error. -/
theorem run_status (rr : ReadResponse) {H T : List Byte} {resp : Response} (hH : IsHead H)
    (hlen : H.length ≤ 16384) (hr : rr H = .ok resp) (hst : resp.statusCode ≠ 200) :
    ∀ (calls : List Call) (c : SpeculativeConn), Reading H T c →
      (run rr c calls).1.find? Outcome.isRead = none ∨
        (run rr c calls).1.find? Outcome.isRead =
          some (.read [] (some (.speculative ⟨"status", resp.statusCode, resp.status⟩)))
  | [], _, _ => by simp [run]
  | .read n :: _, c, h => by
    have hread : c.read rr n = readAndStripHTTPResponse rr n c := by
      simp [read, h.unbuffered, h.notDone]
    obtain ⟨c', hc', hd, -⟩ := readAndStrip_eq_finish rr n hH hlen c h
    simp [run, step, Outcome.isRead, hread, hc', finish_status rr n hH hr hst hd]
  | .write b f :: calls, c, h => by
    simpa [run, step, Outcome.isRead] using run_status rr hH hlen hr hst calls _ (h.write b f)

/-! ## The write side of a run -/

/-- What the proxy has been sent after the successful writes `ws`: nothing before the first,
then the `CONNECT` request and the writes' bytes. -/
def sentBytes (connectRequest : List Byte) (ws : List (List Byte)) : List Byte :=
  if ws = [] then [] else connectRequest ++ ws.flatten

/-- The write side after the successful writes `ws`. -/
structure WriteInv (req : List Byte) (ws : List (List Byte)) (c : SpeculativeConn) : Prop where
  request : c.connectRequest = req
  first : c.firstWrite = true ↔ ws ≠ []
  sent : c.conn.written = sentBytes req ws

/-- The fields of the wrapper that reads never touch. -/
def writeSide (c : SpeculativeConn) : List Byte × Bool × List Byte :=
  (c.connectRequest, c.firstWrite, c.conn.written)

theorem writeSide_connRead (c : SpeculativeConn) (n : Nat) :
    writeSide (c.connRead n).2 = writeSide c := by
  simp [connRead, writeSide]

theorem writeSide_finish (rr : ReadResponse) (n : Nat) (c : SpeculativeConn) (k : Nat) :
    writeSide (finishResponse rr n c k).2 = writeSide c := by
  unfold finishResponse
  dsimp only
  split
  · rfl
  · split
    · rfl
    · split
      · split <;> rfl
      · exact writeSide_connRead _ n

theorem writeSide_readAndStrip (rr : ReadResponse) (n : Nat) (c : SpeculativeConn) :
    writeSide (readAndStripHTTPResponse rr n c).2 = writeSide c := by
  induction c using readAndStripHTTPResponse.induct rr n with
  | case1 c _ e he => rw [readAndStrip_of_error rr n c he]; simp [writeSide]
  | case2 c _ hok _ hi hl => rw [readAndStrip_of_long rr n c hok hi hl]; simp [writeSide, absorbed]
  | case3 c r hok c₁ hi hl ih =>
    rw [readAndStrip_of_more rr n c hok hi (by simp only [c₁, r] at hl; simp only [absorbed]; omega)]
    exact ih.trans (by simp [writeSide, c₁, r])
  | case4 c _ hok _ k hk =>
    rw [readAndStrip_of_found rr n c hok hk, writeSide_finish]
    simp [writeSide, absorbed]

theorem writeSide_read (rr : ReadResponse) (c : SpeculativeConn) (n : Nat) :
    writeSide (c.read rr n).2 = writeSide c := by
  unfold read
  split
  · rfl
  · split
    · exact writeSide_readAndStrip rr n c
    · exact writeSide_connRead c n

/-- A successful `Write` reports `len(b)` and puts the `CONNECT` request in front of the
first one only. -/
theorem WriteInv.write {req : List Byte} {ws : List (List Byte)} {c : SpeculativeConn}
    (h : WriteInv req ws c) (b : List Byte) :
    (c.write b none).1 = (b.length, none) ∧ WriteInv req (ws ++ [b]) (c.write b none).2 := by
  unfold SpeculativeConn.write
  by_cases hf : c.firstWrite = true
  · have hws := h.first.mp hf
    simp only [hf, Bool.not_true, Bool.false_eq_true, if_false, Conn.write, Option.map_none']
    refine ⟨trivial, h.request, by simp [hf], ?_⟩
    simp [h.sent, sentBytes, hws]
  · have hws : ws = [] := by simpa using mt h.first.mpr hf
    subst hws
    simp only [hf, Bool.not_false, if_true, Conn.write]
    refine ⟨trivial, h.request, by simp, ?_⟩
    simp [h.sent, sentBytes, ← h.request]

/-- A read leaves the write side alone. -/
theorem WriteInv.read {req : List Byte} {ws : List (List Byte)} {c : SpeculativeConn}
    (h : WriteInv req ws c) (rr : ReadResponse) (n : Nat) : WriteInv req ws (c.read rr n).2 := by
  have := writeSide_read rr c n
  simp only [writeSide, Prod.mk.injEq] at this
  exact ⟨this.1.trans h.request, by rw [this.2.1]; exact h.first, by rw [this.2.2]; exact h.sent⟩

/-- The run lemma of the write side. -/
theorem run_write_inv (rr : ReadResponse) {req : List Byte} :
    ∀ (calls : List Call) (ws : List (List Byte)) (c : SpeculativeConn), WriteInv req ws c →
      (∀ b f, Call.write b f ∈ calls → f = none) →
      WriteInv req (ws ++ writesOf calls) (run rr c calls).2 ∧
        ∀ p ∈ calls.zip (run rr c calls).1, ∀ b f, p.1 = .write b f → p.2 = .write b.length none
  | [], ws, c, h, _ => by simpa [run, writesOf] using h
  | .read n :: calls, ws, c, h, hw => by
    obtain ⟨ih1, ih2⟩ := run_write_inv rr calls ws _ (h.read rr n) (fun b f hm => hw b f (by simp [hm]))
    simp only [run, step, writesOf, List.zip_cons_cons, List.forall_mem_cons]
    exact ⟨ih1, (fun _ _ h => nomatch h), ih2⟩
  | .write b f :: calls, ws, c, h, hw => by
    obtain rfl := hw b f (by simp)
    obtain ⟨ho, h'⟩ := h.write b
    obtain ⟨ih1, ih2⟩ := run_write_inv rr calls _ _ h' (fun b f hm => hw b f (by simp [hm]))
    simp only [run, step, writesOf, List.zip_cons_cons, List.forall_mem_cons]
    refine ⟨by simpa using ih1, ?_, ih2⟩
    rintro _ _ ⟨⟩
    simp [ho]

/-! ## Transparency -/

/-- **The wrapper is transparent.** Over a proxy whose stream is a complete head `H` of at
most 16384 bytes and then `T`, cut into any segments, and for any calls with any buffer
sizes: successful writes put `connectRequest ++ b₁ ++ ⋯ ++ bₖ` on the wire and report
`len(bᵢ)`; if `H` has status 200 the reads deliver a prefix of `T`, all of it once a read
reports `io.EOF`, and when no segment is empty each read into a non-empty buffer adds a byte
until all of `T` is delivered; with another status the first read fails with the `"status"`
error. -/
theorem speculativeConn_transparent (rr : ReadResponse) (connectRequest H T : List Byte)
    (segs : List (List Byte)) (resp : Response) (calls : List Call)
    (hs : segs.flatten = H ++ T) (hH : IsHead H) (hlen : H.length ≤ 16384)
    (hr : rr H = .ok resp) :
    ((∀ b f, Call.write b f ∈ calls → f = none) →
      (run rr (newSpeculativeConn ⟨segs, []⟩ connectRequest) calls).2.conn.written =
          sentBytes connectRequest (writesOf calls) ∧
        ∀ p ∈ calls.zip (run rr (newSpeculativeConn ⟨segs, []⟩ connectRequest) calls).1,
          ∀ b f, p.1 = .write b f → p.2 = .write b.length none) ∧
    (resp.statusCode = 200 →
      delivered (run rr (newSpeculativeConn ⟨segs, []⟩ connectRequest) calls).1 <+: T ∧
        (Outcome.read [] (some (.conn .eof)) ∈
            (run rr (newSpeculativeConn ⟨segs, []⟩ connectRequest) calls).1 →
          delivered (run rr (newSpeculativeConn ⟨segs, []⟩ connectRequest) calls).1 = T) ∧
        ((∀ seg ∈ segs, seg ≠ []) →
          min T.length (nonEmptyReads calls) ≤
            (delivered (run rr (newSpeculativeConn ⟨segs, []⟩ connectRequest) calls).1).length)) ∧
    (resp.statusCode ≠ 200 →
      (run rr (newSpeculativeConn ⟨segs, []⟩ connectRequest) calls).1.find? Outcome.isRead = none ∨
        (run rr (newSpeculativeConn ⟨segs, []⟩ connectRequest) calls).1.find? Outcome.isRead =
          some (.read [] (some (.speculative ⟨"status", resp.statusCode, resp.status⟩)))) := by
  have h₀ : Reading H T (newSpeculativeConn ⟨segs, []⟩ connectRequest) :=
    ⟨rfl, rfl, by simpa [newSpeculativeConn, Conn.pending] using hs,
      by have := hH.four_le; simp [newSpeculativeConn]; omega⟩
  refine ⟨fun hw => ?_, fun h200 => ?_, fun hst => run_status rr hH hlen hr hst calls _ h₀⟩
  · have hw₀ : WriteInv connectRequest [] (newSpeculativeConn ⟨segs, []⟩ connectRequest) :=
      ⟨rfl, by simp [newSpeculativeConn], by simp [newSpeculativeConn, sentBytes]⟩
    obtain ⟨h1, h2⟩ := run_write_inv rr calls [] _ hw₀ hw
    exact ⟨by simpa using h1.sent, h2⟩
  · obtain ⟨h1, h2⟩ := run_read_inv rr hH hlen hr h200 calls [] _ (.inl ⟨rfl, h₀⟩)
    refine ⟨by simpa using h1, by simpa using h2, fun hseg => ?_⟩
    simpa using run_read_progress rr hH hlen hr h200 calls [] _ (.inl ⟨rfl, h₀⟩) hseg

/-- A proxy that answers `200 Connection established` and relays three bytes, read through
three buffers of two bytes after the ClientHello was written: all three bytes arrive. -/
theorem speculativeConn_transparent_established :
    delivered (run (fun _ => .ok ⟨200, "200 Connection established"⟩)
        (newSpeculativeConn
          ⟨[bytesOf "HTTP/1.1 200 Connection established\r\n\r\n" ++ [22, 3, 3]], []⟩
          (bytesOf "CONNECT example.com:443 HTTP/1.1\r\n\r\n"))
        [.write [22, 3, 1] none, .read 2, .read 2, .read 2]).1 <+: [22, 3, 3] ∧
      min 3 (nonEmptyReads [.write [22, 3, 1] none, .read 2, .read 2, .read 2]) ≤
        (delivered (run (fun _ => .ok ⟨200, "200 Connection established"⟩)
          (newSpeculativeConn
            ⟨[bytesOf "HTTP/1.1 200 Connection established\r\n\r\n" ++ [22, 3, 3]], []⟩
            (bytesOf "CONNECT example.com:443 HTTP/1.1\r\n\r\n"))
          [.write [22, 3, 1] none, .read 2, .read 2, .read 2]).1).length := by
  obtain ⟨h1, -, h3⟩ := (speculativeConn_transparent (fun _ => .ok ⟨200, "200 Connection established"⟩)
    (bytesOf "CONNECT example.com:443 HTTP/1.1\r\n\r\n")
    (bytesOf "HTTP/1.1 200 Connection established\r\n\r\n") [22, 3, 3]
    [bytesOf "HTTP/1.1 200 Connection established\r\n\r\n" ++ [22, 3, 3]]
    ⟨200, "200 Connection established"⟩ [.write [22, 3, 1] none, .read 2, .read 2, .read 2]
    (List.flatten_singleton _) (by decide) (by decide) rfl).2.1 rfl
  exact ⟨h1, h3 (by decide)⟩

end SpeculativeConn
end HttpCloak.Transport
