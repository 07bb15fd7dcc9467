import HttpCloak.Http.ReadHead
import HttpCloak.LocalProxy.Tunnel
import HttpCloak.LocalProxy.Forward

/-!
# What a client reads from the proxy's answers

`local_proxy.go` answers a client in two ways. `sendError` formats a whole response with one
`fmt.Sprintf`: the status line, `Content-Type`, a `Content-Length` of the message's length,
`Connection: close`, the blank line and the message. `handleHTTPWithSession` and
`handleHTTPDirect`, once the upstream has answered, write through a `bufio.Writer` the status
line `HTTP/1.1 %d %s`, one line `%s: %s` for each value of each header that is not hop-by-hop,
and the blank line, and then copy the body.

A client reads either back with `textproto`'s reader, over any cutting of the stream into
segments:

* `sendError_read`: it reads the status line and the three headers, and the bytes behind the
  head are the message, as many as `Content-Length` says;
* `relayResponse_read`: it reads the status line and, trimmed, the lines `relayedLines`
  lists (`key: value` for each value of each header that is not hop-by-hop, in the map's
  order), and the bytes behind the head are the body.
-/

namespace HttpCloak.Respond

open Tunnel Forward Textproto

/-! ## Lines without a line feed -/

theorem newline_not_mem_toString (n : Nat) : 10 ∉ bytesOf (toString n) := fun h => by
  have := (bytesOf_toString n).2 _ h
  revert this; decide

theorem newline_not_mem_statusText (status : Nat) : 10 ∉ bytesOf (statusText status) := by
  have htexts : ∀ p ∈ statusTexts, 10 ∉ bytesOf p.2 := by decide
  unfold statusText
  cases h : statusTexts.find? (·.1 = status) with
  | none => decide
  | some p => exact htexts p (List.mem_of_find?_eq_some h)

/-- `"HTTP/1.1 %d %s"` holds no `\n` when its reason holds none. -/
theorem newline_not_mem_statusLine (statusCode : Nat) {reason : String}
    (h : 10 ∉ bytesOf reason) : 10 ∉ bytesOf ("HTTP/1.1 " ++ toString statusCode ++ " " ++ reason) := by
  simp only [bytesOf_append, List.mem_append, not_or]
  exact ⟨⟨⟨by decide, newline_not_mem_toString statusCode⟩, by decide⟩, h⟩

/-- A byte of a header name is neither `\n` nor a space or a tab. -/
theorem validHeaderFieldByte_field {c : Byte} (h : validHeaderFieldByte c) :
    c ≠ 10 ∧ isSpaceOrTab c = false := by
  refine ⟨by rintro rfl; exact absurd h (by decide), ?_⟩
  cases hs : isSpaceOrTab c
  · rfl
  · have : c = 32 ∨ c = 9 := by simpa [isSpaceOrTab] using hs
    rcases this with rfl | rfl <;> exact absurd h (by decide)

theorem bytesOf_crlf : bytesOf "\r\n" = crlf := rfl

/-! ## `sendError` -/

/-- The head `sendError` writes for `status` and `message`. -/
def errorHead (status : Nat) (message : String) : HeaderBlock :=
  ⟨bytesOf ("HTTP/1.1 " ++ toString status ++ " " ++ statusText status),
    [bytesOf "Content-Type: text/plain",
      bytesOf ("Content-Length: " ++ toString (bytesOf message).length),
      bytesOf "Connection: close"]⟩

/-- `sendError` writes its head and then the message. -/
theorem sendError_written (conn : Conn) (status : Nat) (message : String) :
    (sendError conn status message).written =
      conn.written ++ (errorHead status message).toBytes ++ bytesOf message := by
  have h1 : bytesOf "\r\nContent-Type: text/plain\r\nContent-Length: " =
      crlf ++ bytesOf "Content-Type: text/plain" ++ crlf ++ bytesOf "Content-Length: " := rfl
  have h2 : bytesOf "\r\nConnection: close\r\n\r\n" =
      crlf ++ bytesOf "Connection: close" ++ crlf ++ crlf := rfl
  simp only [sendError, Conn.write, errorHead, HeaderBlock.toBytes, bytesOf_append, h1, h2,
    List.map_cons, List.map_nil, List.flatten_cons, List.flatten_nil, List.append_nil,
    List.append_assoc]

/-- The `Content-Length` line is its own trim: it starts with a letter and ends with a
digit. -/
theorem trim_contentLength (n : Nat) :
    trim (bytesOf ("Content-Length: " ++ toString n)) = bytesOf ("Content-Length: " ++ toString n) := by
  obtain ⟨hne, hdig⟩ := bytesOf_toString n
  rw [bytesOf_append]
  apply trim_eq_self
  · rw [List.head?_append_of_ne_nil _ (by decide)]; decide
  · rw [List.getLast?_append_of_ne_nil _ hne]
    have hsp : ∀ c ∈ bytesOf "0123456789", isSpaceOrTab c = false := by decide
    exact fun c hc => hsp c (hdig c (List.mem_of_getLast?_eq_some hc))

/-- The `Content-Length` line passes `textproto`'s checks: a token key, then a space and
digits. -/
theorem validHeaderLine_contentLength (n : Nat) :
    validHeaderLine (bytesOf ("Content-Length: " ++ toString n)) := by
  have hdig : ∀ c ∈ bytesOf "0123456789", validHeaderValueByte c := by decide
  have hsplit : bytesOf ("Content-Length: " ++ toString n) =
      bytesOf "Content-Length" ++ 58 :: (32 :: bytesOf (toString n)) := by
    rw [bytesOf_append, show bytesOf "Content-Length: " = bytesOf "Content-Length" ++ [58, 32] from rfl]
    simp
  rw [hsplit, validHeaderLine_append (by decide)]
  simp only [Bool.and_eq_true, List.all_eq_true, List.mem_cons, forall_eq_or_imp]
  exact ⟨by decide, by decide, fun c hc => hdig c ((bytesOf_toString n).2 c hc)⟩

theorem errorHead_wellFormed (status : Nat) (message : String) :
    (errorHead status message).WellFormed := by
  refine ⟨newline_not_mem_statusLine status (newline_not_mem_statusText status), ?_⟩
  simp only [errorHead, List.mem_cons, List.mem_singleton, List.not_mem_nil, or_false]
  rintro l (rfl | rfl | rfl)
  · decide
  · exact ⟨trim_contentLength _, validHeaderLine_contentLength _⟩
  · decide

/-- **A client reads `sendError`'s answer.** Whatever the status and the message, a client
that has read what the connection held before reads, over any cutting of the stream into
segments, the status line and the three headers, and what follows the head is the message,
as many bytes as its `Content-Length` line says. -/
theorem sendError_read (conn : Conn) (status : Nat) (message : String) (B : List Byte)
    (fuel : Nat) (b : BufReader)
    (hs : conn.written ++ b.rest = (sendError conn status message).written ++ B)
    (hbuf : b.buf.length ≤ defaultBufSize) (hfuel : b.measure ≤ fuel) :
    ∃ b', BufReader.Follows b b' ∧
      readHeaderBlock fuel b = some (.ok (errorHead status message), b') ∧
      b'.rest = bytesOf message ++ B := by
  have hw := errorHead_wellFormed status message
  rw [sendError_written, List.append_assoc, List.append_assoc] at hs
  have := readHeaderBlock_trimmed _ (wellFormed_fields hw) _ fuel b
    (List.append_cancel_left hs) hbuf hfuel
  rwa [wellFormed_trimmed hw] at this

/-- The `403` answer to a `CONNECT` to a refused port, in two segments. -/
theorem sendError_read_port :
    ∃ b', BufReader.Follows
        (BufReader.new ⟨[((sendError ⟨[], []⟩ 403 "Port not allowed").written.take 20),
          ((sendError ⟨[], []⟩ 403 "Port not allowed").written.drop 20)], []⟩) b' ∧
      readHeaderBlock 200
          (BufReader.new ⟨[((sendError ⟨[], []⟩ 403 "Port not allowed").written.take 20),
            ((sendError ⟨[], []⟩ 403 "Port not allowed").written.drop 20)], []⟩) =
        some (.ok (errorHead 403 "Port not allowed"), b') ∧
      b'.rest = bytesOf "Port not allowed" ++ [] :=
  sendError_read ⟨[], []⟩ 403 "Port not allowed" [] 200 _
    (by simp [BufReader.rest, BufReader.new, Conn.pending]) (Nat.zero_le _) (by decide)

/-! ## The relayed response -/

/-- `fmt.Fprintf(bufWriter, "%s: %s\r\n", key, value)` for each value of each header that is
not hop-by-hop, in the map's order, behind what `out` holds. -/
def writeHeaders (out : List Byte) (headers : Header) : List Byte :=
  headers.foldl (fun out e =>
    if isHopByHopHeader e.1 then out
    else e.2.foldl (fun out value => out ++ e.1 ++ bytesOf ": " ++ value ++ bytesOf "\r\n") out)
    out

/-- The end of `handleHTTPWithSession` and of `handleHTTPDirect` once the upstream has
answered: the status line with `reason` (`http.StatusText(resp.StatusCode)` in the first,
`resp.Status` in the second), the header lines and the blank line go into `bufWriter`,
`Flush` sends them, and `io.CopyBuffer` sends `body`, the bytes the response yields. The
results of the writes are ignored; the network takes every byte. -/
def relayResponse (clientConn : Conn) (statusCode : Nat) (reason : String) (headers : Header)
    (body : List Byte) : Conn :=
  let head := writeHeaders (bytesOf ("HTTP/1.1 " ++ toString statusCode ++ " " ++ reason ++ "\r\n"))
    headers ++ bytesOf "\r\n"
  ((clientConn.write head none).2.write body none).2

/-- The header lines a client should read for `headers`: `key: value` for each value of each
name that is not hop-by-hop, in the map's order. -/
def relayedLines (headers : Header) : List (List Byte) :=
  (headers.filter fun e => !isHopByHopHeader e.1).flatMap fun e =>
    e.2.map fun value => e.1 ++ bytesOf ": " ++ value

/-- Headers whose lines a client reads back: every name that is not hop-by-hop is a
non-empty token, and every value of it is made of field-value bytes. -/
def Relayable (headers : Header) : Prop :=
  ∀ e ∈ headers, isHopByHopHeader e.1 = false →
    (e.1 ≠ [] ∧ ∀ c ∈ e.1, validHeaderFieldByte c) ∧ ∀ v ∈ e.2, ∀ c ∈ v, validHeaderValueByte c

instance (headers : Header) : Decidable (Relayable headers) :=
  inferInstanceAs (Decidable (∀ e ∈ headers, isHopByHopHeader e.1 = false →
    (e.1 ≠ [] ∧ ∀ c ∈ e.1, validHeaderFieldByte c) ∧
      ∀ v ∈ e.2, ∀ c ∈ v, validHeaderValueByte c))

/-- The inner loop writes the lines of one name's values. -/
theorem foldl_values (key : List Byte) : ∀ (values : List (List Byte)) (out : List Byte),
    values.foldl (fun out value => out ++ key ++ bytesOf ": " ++ value ++ bytesOf "\r\n") out =
      out ++ ((values.map fun value => key ++ bytesOf ": " ++ value).map (· ++ crlf)).flatten
  | [], out => by simp
  | v :: vs, out => by
    rw [List.foldl_cons, foldl_values key vs]
    simp only [List.map_cons, List.flatten_cons, bytesOf_crlf, List.append_assoc]

theorem relayedLines_cons (e : List Byte × List (List Byte)) (es : Header) :
    relayedLines (e :: es) =
      (if isHopByHopHeader e.1 then [] else e.2.map fun value => e.1 ++ bytesOf ": " ++ value) ++
        relayedLines es := by
  by_cases hop : isHopByHopHeader e.1 <;> simp [relayedLines, List.filter_cons, hop]

/-- The loop writes the lines `relayedLines` lists, each ended by `\r\n`. -/
theorem writeHeaders_eq (out : List Byte) (headers : Header) :
    writeHeaders out headers = out ++ ((relayedLines headers).map (· ++ crlf)).flatten := by
  induction headers generalizing out with
  | nil => simp [writeHeaders, relayedLines]
  | cons e es ih =>
    rw [writeHeaders, List.foldl_cons, ← writeHeaders, ih, relayedLines_cons]
    by_cases hop : isHopByHopHeader e.1
    · simp [hop]
    · rw [if_neg hop, if_neg hop, foldl_values]
      simp only [List.map_append, List.flatten_append, List.append_assoc]

/-- Trimming a line that starts with a key keeps the key and the colon, and cuts trailing
spaces and tabs off what follows. -/
theorem trim_key_colon {k r : List Byte} (hk : ∀ c ∈ k.head?, isSpaceOrTab c = false) :
    trim (k ++ 58 :: r) = k ++ 58 :: (r.reverse.dropWhile isSpaceOrTab).reverse := by
  have hfront : (k ++ 58 :: r).dropWhile isSpaceOrTab = k ++ 58 :: r := by
    cases k with
    | nil => rfl
    | cons c t => exact List.dropWhile_cons_of_neg (by simpa using hk c rfl)
  have hback : (r.reverse ++ 58 :: k.reverse).dropWhile isSpaceOrTab =
      r.reverse.dropWhile isSpaceOrTab ++ 58 :: k.reverse := by
    rw [List.dropWhile_append]
    split
    · rename_i h
      rw [List.isEmpty_iff.1 h, List.dropWhile_cons_of_neg (by decide)]; rfl
    · rfl
  rw [trim, hfront, List.reverse_append, List.reverse_cons, List.append_assoc,
    List.singleton_append, hback]
  simp

/-- Every relayed line holds no `\n`, starts a field, and passes `textproto`'s checks once
trimmed. -/
theorem relayedLines_fields {headers : Header} (hh : Relayable headers) :
    ∀ l ∈ relayedLines headers, 10 ∉ l ∧ startsField l ∧ validHeaderLine (trim l) := by
  intro l hl
  obtain ⟨e, he, hl⟩ := List.mem_flatMap.1 hl
  obtain ⟨he, hop⟩ := List.mem_filter.1 he
  obtain ⟨v, hv, rfl⟩ := List.mem_map.1 hl
  obtain ⟨⟨hne, hkey⟩, hval⟩ := hh e he (by simpa using hop)
  obtain ⟨c, t, hct⟩ := List.exists_cons_of_ne_nil hne
  have hc := validHeaderFieldByte_field (hkey c (by simp [hct]))
  have hline : e.1 ++ bytesOf ": " ++ v = e.1 ++ 58 :: (32 :: v) := by
    rw [show bytesOf ": " = [58, 32] from rfl]; simp
  refine ⟨?_, by simp [hct, startsField, hc.2], ?_⟩
  · simp only [List.mem_append, not_or]
    exact ⟨⟨fun h => (validHeaderFieldByte_field (hkey _ h)).1 rfl, by decide⟩,
      fun h => absurd (hval v hv 10 h) (by decide)⟩
  · rw [hline, trim_key_colon (by simp [hct, hc.2]),
      validHeaderLine_append (fun h => absurd (hkey 58 h) (by decide))]
    simp only [validHeaderKey, Bool.and_eq_true, List.all_eq_true, Bool.or_eq_true,
      decide_eq_true_eq]
    refine ⟨⟨hne, fun c hc => .inl (hkey c hc)⟩, fun x hx => ?_⟩
    have hx' := (List.dropWhile_suffix _).subset (List.mem_reverse.1 hx)
    rcases List.mem_cons.1 (List.mem_reverse.1 hx') with rfl | hx''
    · decide
    · exact hval v hv x hx''

/-- The relay writes the status line, the relayed lines, the blank line and the body. -/
theorem relayResponse_written (clientConn : Conn) (statusCode : Nat) (reason : String)
    (headers : Header) (body : List Byte) :
    (relayResponse clientConn statusCode reason headers body).written =
      clientConn.written ++ HeaderBlock.toBytes
        ⟨bytesOf ("HTTP/1.1 " ++ toString statusCode ++ " " ++ reason), relayedLines headers⟩ ++
        body := by
  simp only [relayResponse, Conn.write, writeHeaders_eq, HeaderBlock.toBytes, bytesOf_append _ "\r\n",
    bytesOf_crlf, List.append_assoc]

/-- **A client reads the relayed response.** For every status code, every reason without
`\n`, every header map whose relayed names are tokens and whose values hold no `\n`, and
every body: a client that has read what the connection held before reads, over any cutting
of the stream into segments, the status line and, trimmed, `key: value` for each value of each
header that is not hop-by-hop, in the map's order; no hop-by-hop header reaches it, and what
follows the head is the body. -/
theorem relayResponse_read (clientConn : Conn) (statusCode : Nat) (reason : String)
    (headers : Header) (body : List Byte) (hreason : 10 ∉ bytesOf reason)
    (hh : Relayable headers) (B : List Byte) (fuel : Nat) (b : BufReader)
    (hs : clientConn.written ++ b.rest =
      (relayResponse clientConn statusCode reason headers body).written ++ B)
    (hbuf : b.buf.length ≤ defaultBufSize) (hfuel : b.measure ≤ fuel) :
    ∃ b', BufReader.Follows b b' ∧
      readHeaderBlock fuel b = some (.ok
        ⟨bytesOf ("HTTP/1.1 " ++ toString statusCode ++ " " ++ reason),
          (relayedLines headers).map trim⟩, b') ∧
      b'.rest = body ++ B := by
  rw [relayResponse_written, List.append_assoc, List.append_assoc] at hs
  exact readHeaderBlock_trimmed _
    ⟨newline_not_mem_statusLine statusCode hreason, relayedLines_fields hh⟩ _ fuel b
    (List.append_cancel_left hs) hbuf hfuel

/-- A `200` whose headers include the hop-by-hop `Connection`, relayed in one segment. -/
theorem relayResponse_read_hop :
    ∃ b', BufReader.Follows (BufReader.new ⟨[(relayResponse ⟨[], []⟩ 200 "OK"
        [(bytesOf "Content-Type", [bytesOf "text/plain"]), (bytesOf "Connection", [bytesOf "close"])]
        [60]).written], []⟩) b' ∧
      readHeaderBlock 100 (BufReader.new ⟨[(relayResponse ⟨[], []⟩ 200 "OK"
          [(bytesOf "Content-Type", [bytesOf "text/plain"]), (bytesOf "Connection", [bytesOf "close"])]
          [60]).written], []⟩) = some (.ok
        ⟨bytesOf ("HTTP/1.1 " ++ toString 200 ++ " " ++ "OK"),
          (relayedLines [(bytesOf "Content-Type", [bytesOf "text/plain"]),
            (bytesOf "Connection", [bytesOf "close"])]).map trim⟩, b') ∧
      b'.rest = [60] ++ [] :=
  relayResponse_read ⟨[], []⟩ 200 "OK" _ [60] (by decide) (by decide) [] 100 _
    (by simp [BufReader.rest, BufReader.new, Conn.pending]) (Nat.zero_le _) (by decide)

end HttpCloak.Respond
