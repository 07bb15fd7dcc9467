import HttpCloak.Transport.SpeculativeStream

/-!
# A refused tunnel delivers nothing

When the proxy's head does not parse, or its status is not 200, `finishResponse` returns the
error and leaves the wrapper as it was: `httpResponseDone` stays false and the head stays in
`headerBuffer`. The next `Read` goes through `readAndStripHTTPResponse` again, appends what
the connection still holds, finds the same `\r\n\r\n` and refuses the same head. So after a
refusal no byte the proxy sends, its error body included, ever reaches the TLS layer:
`run_refused` shows every `Read` of every run returns no byte, with the refusal or, once the
connection is exhausted, the `"read"` error wrapping `io.EOF`.
-/

namespace HttpCloak.Transport
namespace SpeculativeConn

/-- The error `finishResponse` returns for the head `H`: the parse error, or the status error
for a status other than 200; `none` when `H` is accepted. -/
def refusal (rr : ReadResponse) (H : List Byte) : Option Error :=
  match rr H with
  | .error e => some (.speculative ⟨"parse", 0, e⟩)
  | .ok resp =>
    if resp.statusCode ≠ 200 then some (.speculative ⟨"status", resp.statusCode, resp.status⟩)
    else none

/-- The `"read"` error of `readAndStripHTTPResponse` on an exhausted connection. -/
def readEOF : Error := .speculative ⟨"read", 0, ConnError.eof.text⟩

/-- `finishResponse` on a complete head it refuses: no byte, the error, the wrapper as it
was. -/
theorem finish_refused (rr : ReadResponse) (n : Nat) {H T : List Byte} (hH : IsHead H)
    (hrefuse : (refusal rr H).isSome) {c : SpeculativeConn} (h : Headed H T c) :
    finishResponse rr n c (H.length - 4) = (([], refusal rr H), c) := by
  have h4 : H.length - 4 + 4 = H.length := by have := hH.four_le; omega
  unfold finishResponse
  unfold refusal at hrefuse ⊢
  simp only [h4, h.head]
  rcases hr : rr H with e | resp <;> simp only [hr] at hrefuse ⊢
  by_cases hs : resp.statusCode = 200
  · simp [hs] at hrefuse
  · simp [hs]

/-- Reading on past a complete head keeps it at the front of `headerBuffer`, where
`bytesIndex` finds it again. -/
theorem Headed.read_on {H T : List Byte} (hH : IsHead H) {c : SpeculativeConn}
    (h : Headed H T c) :
    Headed H T (absorbed c) ∧ bytesIndex crlfcrlf (absorbed c).headerBuffer = some (H.length - 4) := by
  have hlen : H.length ≤ c.headerBuffer.length := by
    have := congrArg List.length h.head
    rw [List.length_take] at this; omega
  have hsplit : (absorbed c).headerBuffer = H ++ ((absorbed c).headerBuffer.drop H.length) := by
    conv_lhs => rw [← List.take_append_drop H.length (absorbed c).headerBuffer]
    simp only [absorbed, List.take_append_of_le_length hlen, h.head]
  refine ⟨⟨h.notDone, h.unbuffered, ?_, ?_⟩, ?_⟩
  · simp only [absorbed, List.take_append_of_le_length hlen, h.head]
  · have hc : c.headerBuffer = H ++ c.headerBuffer.drop H.length := by
      conv_lhs => rw [← List.take_append_drop H.length c.headerBuffer]
      rw [h.head]
    have hs := absorbed_stream c
    rw [hsplit, List.append_assoc, hc, List.append_assoc, h.rest] at hs
    exact List.append_cancel_left hs
  · rw [hsplit]; exact bytesIndex_append_of_eq_some hH _

theorem Headed.write {H T : List Byte} {c : SpeculativeConn} (h : Headed H T c)
    (b : List Byte) (f : Option Nat) : Headed H T (c.write b f).2 := by
  obtain ⟨h1, h2, h3, h4⟩ := write_readSide c b f
  exact ⟨h1.trans h.notDone, h2.trans h.unbuffered, by rw [h3]; exact h.head,
    by rw [h3, h4]; exact h.rest⟩

section Refused
variable (rr : ReadResponse) {H T : List Byte} (hH : IsHead H) (hlen : H.length ≤ 16384)
  (hrefuse : (refusal rr H).isSome)
include hH hlen hrefuse

/-- The step lemma: from `Reading` or `Headed`, a `Read` returns no byte, with the refusal or
the `"read"` error, and leaves the head complete in `headerBuffer`. -/
theorem read_refused (n : Nat) {c : SpeculativeConn} (h : Reading H T c ∨ Headed H T c) :
    Headed H T (c.read rr n).2 ∧
      ((c.read rr n).1 = ([], refusal rr H) ∨ (c.read rr n).1 = ([], some readEOF)) := by
  have hread : ∀ {c : SpeculativeConn}, c.readBuffer = [] → c.httpResponseDone = false →
      c.read rr n = readAndStripHTTPResponse rr n c := fun hb hd => by simp [read, hb, hd]
  rcases h with hR | hD
  · obtain ⟨c', hc', hd, -⟩ := readAndStrip_eq_finish rr n hH hlen c hR
    rw [hread hR.unbuffered hR.notDone, hc', finish_refused rr n hH hrefuse hd]
    exact ⟨hd, .inl rfl⟩
  · rw [hread hD.unbuffered hD.notDone]
    cases he : (c.conn.read 8192).1.2 with
    | some e =>
      obtain ⟨rfl, -, -, hc⟩ := Conn.read_error c.conn 8192 he
      rw [readAndStrip_of_error rr n c he, hc]
      exact ⟨hD, .inr rfl⟩
    | none =>
      obtain ⟨hD', hi⟩ := hD.read_on hH
      rw [readAndStrip_of_found rr n c he hi, finish_refused rr n hH hrefuse hD']
      exact ⟨hD', .inl rfl⟩

/-- The run lemma: every call of every run is a write, or a `Read` that returns no byte with
the refusal or the `"read"` error. -/
theorem run_refused : ∀ (calls : List Call) (c : SpeculativeConn), Reading H T c ∨ Headed H T c →
    ∀ o ∈ (run rr c calls).1, (∃ k e, o = .write k e) ∨ o = .read [] (refusal rr H) ∨
      o = .read [] (some readEOF)
  | [], _, _ => by simp [run]
  | .read n :: calls, c, h => by
    obtain ⟨hD, hout⟩ := read_refused rr hH hlen hrefuse n h
    simp only [run, step, List.mem_cons, forall_eq_or_imp]
    refine ⟨?_, run_refused calls _ (.inr hD)⟩
    rcases hout with hout | hout <;> simp [hout]
  | .write b f :: calls, c, h => by
    simp only [run, step, List.mem_cons, forall_eq_or_imp]
    exact ⟨.inl ⟨_, _, rfl⟩, run_refused calls _
      (h.elim (fun hR => .inl (hR.write b f)) (fun hD => .inr (hD.write b f)))⟩

end Refused

/-- Outcomes whose reads all returned nothing deliver nothing. -/
theorem delivered_eq_nil : ∀ (outs : List Outcome),
    (∀ o ∈ outs, (∃ k e, o = .write k e) ∨ ∃ e, o = .read [] e) → delivered outs = []
  | [], _ => rfl
  | o :: outs, h => by
    have ih := delivered_eq_nil outs fun o' ho' => h o' (List.mem_cons_of_mem _ ho')
    rcases h o (List.mem_cons_self _ _) with ⟨k, e, rfl⟩ | ⟨e, rfl⟩ <;> simpa [delivered] using ih

/-- **A refused tunnel delivers nothing.** Over a proxy whose stream is a complete head `H` of
at most 16384 bytes and then any `T`, cut into any segments, and for any calls with any
buffer sizes: if `H` does not parse or its status is not 200, every `Read` returns no byte,
with the refusal or, once the connection is exhausted, the `"read"` error, and the caller
receives nothing of `T`. -/
theorem speculativeConn_refused (rr : ReadResponse) (connectRequest H T : List Byte)
    (segs : List (List Byte)) (calls : List Call) (hs : segs.flatten = H ++ T) (hH : IsHead H)
    (hlen : H.length ≤ 16384) (hrefuse : (refusal rr H).isSome) :
    (∀ o ∈ (run rr (newSpeculativeConn ⟨segs, []⟩ connectRequest) calls).1,
      (∃ k e, o = .write k e) ∨ o = .read [] (refusal rr H) ∨ o = .read [] (some readEOF)) ∧
    delivered (run rr (newSpeculativeConn ⟨segs, []⟩ connectRequest) calls).1 = [] := by
  have h₀ : Reading H T (newSpeculativeConn ⟨segs, []⟩ connectRequest) :=
    ⟨rfl, rfl, by simpa [newSpeculativeConn, Conn.pending] using hs,
      by have := hH.four_le; simp [newSpeculativeConn]; omega⟩
  have hall := run_refused rr hH hlen hrefuse calls _ (.inl h₀)
  refine ⟨hall, delivered_eq_nil _ fun o ho => ?_⟩
  rcases hall o ho with h | h | h
  · exact .inl h
  · exact .inr ⟨_, h⟩
  · exact .inr ⟨_, h⟩

/-- A proxy that asks for credentials with `407` and a body, read after the ClientHello was
written. -/
theorem speculativeConn_refused_407 :
    IsHead (bytesOf "HTTP/1.1 407 Proxy Authentication Required\r\n\r\n") ∧
      (∀ o ∈ (run (fun _ => .ok ⟨407, "407 Proxy Authentication Required"⟩)
          (newSpeculativeConn
            ⟨[bytesOf "HTTP/1.1 407 Proxy Authentication Required\r\n\r\n" ++ bytesOf "denied"], []⟩
            (bytesOf "CONNECT example.com:443 HTTP/1.1\r\n\r\n"))
          [.write [22, 3, 1] none, .read 16, .read 16]).1,
        (∃ k e, o = .write k e) ∨
          o = .read [] (refusal (fun _ => .ok ⟨407, "407 Proxy Authentication Required"⟩)
            (bytesOf "HTTP/1.1 407 Proxy Authentication Required\r\n\r\n")) ∨
          o = .read [] (some readEOF)) ∧
      delivered (run (fun _ => .ok ⟨407, "407 Proxy Authentication Required"⟩)
          (newSpeculativeConn
            ⟨[bytesOf "HTTP/1.1 407 Proxy Authentication Required\r\n\r\n" ++ bytesOf "denied"], []⟩
            (bytesOf "CONNECT example.com:443 HTTP/1.1\r\n\r\n"))
          [.write [22, 3, 1] none, .read 16, .read 16]).1 = [] :=
  ⟨by decide, speculativeConn_refused _ _ _ (bytesOf "denied") _ _ rfl (by decide) (by decide) rfl⟩

end SpeculativeConn
end HttpCloak.Transport
