import HttpCloak.Transport.SpeculativeStream

/-!
# The 16 KiB limit on the proxy's response head

`readAndStripHTTPResponse` looks at the size of `headerBuffer` only after a read that did not
complete the head. A head longer than 16384 bytes is refused when some read ends inside it
past byte 16384, and accepted for size when the read that completes it starts at or below
byte 16384. Reads return up to 8192 bytes, so which of the two happens depends on where the
connection cuts the stream.

`readAndStrip_whole_more`, `readAndStrip_whole_long` and `readAndStrip_whole_found` are the
branches of `readAndStripHTTPResponse` for a first segment the read takes whole;
`headerLimit_depends_on_chunking` runs both chunkings of one 16390-byte head through them.
-/

namespace HttpCloak.Transport
namespace SpeculativeConn

/-- Bytes that cannot start `\r\n\r\n` in front of a stream shift its first occurrence. -/
theorem bytesIndex_replicate_append {b : Byte} (hb : b ≠ 13) (t : List Byte) :
    ∀ k, bytesIndex crlfcrlf (List.replicate k b ++ t) = (bytesIndex crlfcrlf t).map (· + k)
  | 0 => by simp
  | k + 1 => by
    have hp : crlfcrlf.isPrefixOf (b :: (List.replicate k b ++ t)) = false := by
      simp [crlfcrlf, List.isPrefixOf_cons₂, Ne.symm hb]
    rw [List.replicate_succ, List.cons_append, bytesIndex, hp, if_neg (by simp),
      bytesIndex_replicate_append hb t k, Option.map_map]
    rfl

/-! ## Reads of whole segments -/

section Whole
variable (rr : ReadResponse) (n : Nat) {written req rb hb seg : List Byte} {fw done : Bool}
  {rest : List (List Byte)} (hseg : seg.length ≤ 8192)
include hseg

theorem absorbed_whole :
    absorbed ⟨⟨seg :: rest, written⟩, req, fw, done, rb, hb⟩ =
      ⟨⟨rest, written⟩, req, fw, done, rb, hb ++ seg⟩ := by
  simp [absorbed, Conn.read_whole hseg]

theorem readAndStrip_whole_more (hi : bytesIndex crlfcrlf (hb ++ seg) = none)
    (hl : (hb ++ seg).length ≤ 16384) :
    readAndStripHTTPResponse rr n ⟨⟨seg :: rest, written⟩, req, fw, done, rb, hb⟩ =
      readAndStripHTTPResponse rr n ⟨⟨rest, written⟩, req, fw, done, rb, hb ++ seg⟩ := by
  rw [readAndStrip_of_more rr n _ (by simp [Conn.read_whole hseg])
    (by rwa [absorbed_whole hseg]) (by rwa [absorbed_whole hseg]), absorbed_whole hseg]

theorem readAndStrip_whole_long (hi : bytesIndex crlfcrlf (hb ++ seg) = none)
    (hl : 16384 < (hb ++ seg).length) :
    (readAndStripHTTPResponse rr n ⟨⟨seg :: rest, written⟩, req, fw, done, rb, hb⟩).1.2 =
      some (.speculative ⟨"parse", 0, "HTTP response headers exceed 16KB limit"⟩) := by
  rw [readAndStrip_of_long rr n _ (by simp [Conn.read_whole hseg])
    (by rwa [absorbed_whole hseg]) (by rwa [absorbed_whole hseg])]

theorem readAndStrip_whole_found {k : Nat} (hi : bytesIndex crlfcrlf (hb ++ seg) = some k) :
    readAndStripHTTPResponse rr n ⟨⟨seg :: rest, written⟩, req, fw, done, rb, hb⟩ =
      finishResponse rr n ⟨⟨rest, written⟩, req, fw, done, rb, hb ++ seg⟩ k := by
  rw [readAndStrip_of_found rr n _ (by simp [Conn.read_whole hseg])
    (by rwa [absorbed_whole hseg]), absorbed_whole hseg]

end Whole

theorem bytesIndex_eq_none_of_append {sep a b : List Byte} (h : bytesIndex sep (a ++ b) = none) :
    bytesIndex sep a = none := by
  cases ha : bytesIndex sep a with
  | none => rfl
  | some i => rw [bytesIndex_append_of_eq_some ha b] at h; cases h

/-- Segments read whole that leave the head incomplete and within 16384 bytes are absorbed one
after another. -/
theorem readAndStrip_whole_segments (rr : ReadResponse) (n : Nat) {written req rb : List Byte}
    {fw done : Bool} {rest : List (List Byte)} :
    ∀ (segs : List (List Byte)) (hb : List Byte), (∀ s ∈ segs, s.length ≤ 8192) →
      bytesIndex crlfcrlf (hb ++ segs.flatten) = none → (hb ++ segs.flatten).length ≤ 16384 →
      readAndStripHTTPResponse rr n ⟨⟨segs ++ rest, written⟩, req, fw, done, rb, hb⟩ =
        readAndStripHTTPResponse rr n ⟨⟨rest, written⟩, req, fw, done, rb, hb ++ segs.flatten⟩
  | [], hb, _, _, _ => by simp
  | seg :: segs, hb, hs, hi, hl => by
    rw [List.flatten_cons, ← List.append_assoc] at hi hl
    rw [List.cons_append, readAndStrip_whole_more rr n (hs seg (List.mem_cons_self _ _))
      (bytesIndex_eq_none_of_append hi) (le_trans (by simp) hl),
      readAndStrip_whole_segments rr n segs (hb ++ seg)
        (fun s h => hs s (List.mem_cons_of_mem _ h)) hi hl,
      List.flatten_cons, List.append_assoc]

/-! ## Two chunkings of one head -/

/-- A run of letters `A` holds no `\r\n\r\n`. -/
theorem bytesIndex_replicate_A (k : Nat) : bytesIndex crlfcrlf (List.replicate k 65) = none := by
  simpa [bytesIndex] using bytesIndex_replicate_append (b := 65) (by decide) [] k

/-- After `k` letters `A`, the head ends at `k`. -/
theorem bytesIndex_replicate_A_crlfcrlf (k : Nat) :
    bytesIndex crlfcrlf (List.replicate k 65 ++ crlfcrlf) = some k := by
  rw [bytesIndex_replicate_append (b := 65) (by decide) crlfcrlf k,
    show bytesIndex crlfcrlf crlfcrlf = some 0 by decide]
  simp

/-- One stream whose head is 16390 bytes long (16386 letters `A`, then `\r\n\r\n`), cut in
two ways into reads of at most 8192 bytes. Cut as 8192 + 8192 + 6 bytes, the first `Read`
hands the whole head to `http.ReadResponse`; cut as 1 + 8192 + 8192 + 5 bytes, it fails with
the header-size error. -/
theorem headerLimit_depends_on_chunking (rr : ReadResponse) (connectRequest : List Byte) (n : Nat) :
    [List.replicate 8192 65, List.replicate 8192 65, [65, 65] ++ crlfcrlf].flatten =
        List.replicate 16386 65 ++ crlfcrlf ∧
      [[65], List.replicate 8192 65, List.replicate 8192 65, [65] ++ crlfcrlf].flatten =
        List.replicate 16386 65 ++ crlfcrlf ∧
      (newSpeculativeConn ⟨[List.replicate 8192 65, List.replicate 8192 65, [65, 65] ++ crlfcrlf], []⟩
          connectRequest).read rr n =
        finishResponse rr n
          { newSpeculativeConn ⟨[], []⟩ connectRequest with
            headerBuffer := List.replicate 16386 65 ++ crlfcrlf } 16386 ∧
      ((newSpeculativeConn ⟨[[65], List.replicate 8192 65, List.replicate 8192 65, [65] ++ crlfcrlf], []⟩
          connectRequest).read rr n).1.2 =
        some (.speculative ⟨"parse", 0, "HTTP response headers exceed 16KB limit"⟩) := by
  have hone : ([65] : List Byte) = List.replicate 1 65 := rfl
  have hA2 : [List.replicate 8192 (65 : Byte), List.replicate 8192 65].flatten =
      List.replicate 16384 65 := by
    rw [List.flatten_cons, List.flatten_cons, List.flatten_nil, List.append_nil,
      List.append_replicate_replicate]
  have hA3 : [[65], List.replicate 8192 (65 : Byte)].flatten = List.replicate 8193 65 := by
    rw [List.flatten_cons, List.flatten_cons, List.flatten_nil, List.append_nil, hone,
      List.append_replicate_replicate]
  have hcut : List.replicate 16384 (65 : Byte) ++ ([65, 65] ++ crlfcrlf) =
      List.replicate 16386 65 ++ crlfcrlf := by
    rw [show ([65, 65] : List Byte) = List.replicate 2 65 from rfl, ← List.append_assoc,
      List.append_replicate_replicate]
  refine ⟨?_, ?_, ?_, ?_⟩
  · show List.replicate 8192 65 ++ (List.replicate 8192 65 ++ (([65, 65] ++ crlfcrlf) ++ [])) = _
    rw [List.append_nil, ← List.append_assoc, List.append_replicate_replicate, hcut]
  · show [65] ++ (List.replicate 8192 65 ++ (List.replicate 8192 65 ++ (([65] ++ crlfcrlf) ++ []))) = _
    rw [List.append_nil, hone, ← List.append_assoc, List.append_replicate_replicate,
      ← List.append_assoc, List.append_replicate_replicate, ← List.append_assoc,
      List.append_replicate_replicate]
  · rw [read_fresh, newSpeculativeConn]
    refine (readAndStrip_whole_segments rr n [List.replicate 8192 65, List.replicate 8192 65] []
      (by simp only [List.forall_mem_cons, List.length_replicate, List.forall_mem_nil]; decide)
      (by rw [List.nil_append, hA2]; exact bytesIndex_replicate_A _)
      (by rw [List.nil_append, hA2, List.length_replicate])).trans ?_
    rw [List.nil_append, hA2, readAndStrip_whole_found rr n (by decide) (by rw [hcut]; exact bytesIndex_replicate_A_crlfcrlf _),
      hcut]
    rfl
  · rw [read_fresh, newSpeculativeConn]
    refine (congrArg (fun r => r.1.2) (readAndStrip_whole_segments rr n
      [[65], List.replicate 8192 65] []
      (by simp only [List.forall_mem_cons, List.length_replicate, List.length_singleton,
        List.forall_mem_nil]; decide)
      (by rw [List.nil_append, hA3]; exact bytesIndex_replicate_A _)
      (by rw [List.nil_append, hA3, List.length_replicate]; decide))).trans ?_
    exact readAndStrip_whole_long rr n (List.length_replicate _ _).le
      (by rw [List.nil_append, hA3, List.append_replicate_replicate]; exact bytesIndex_replicate_A _)
      (by rw [List.nil_append, hA3, List.append_replicate_replicate, List.length_replicate]; decide)

end SpeculativeConn
end HttpCloak.Transport
