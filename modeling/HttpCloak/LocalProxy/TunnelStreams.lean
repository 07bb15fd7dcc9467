import HttpCloak.Http.ReadHead
import HttpCloak.LocalProxy.Tunnel

/-!
# What the CONNECT paths forward, for every segmentation

`readMessage_toBytes` reads a head back over any cutting of the stream: when its header lines
pass `textproto`'s checks and the parser accepts it, `http.ReadRequest` and
`http.ReadResponse` return the parse and leave exactly the bytes behind the head, split
between the `bufio.Reader`'s buffer and the connection. The CONNECT paths of
`local_proxy.go` then hand on the connection and drop the reader, so what they forward is the
stream behind the head without the buffered bytes:

* `handleConnection_forwards`: the target of a client's tunnel receives the client's bytes
  after its request head, less a first part of at most `defaultBufSize` bytes;
* `dialThroughHTTPProxy_forwards`: the connection `dialThroughHTTPProxy` returns holds the
  upstream proxy's bytes after its `200` answer, less such a first part, and the client of a
  tunnel through it receives `200 Connection Established` and then those bytes. The answer
  has no `Content-Length` and no `Transfer-Encoding` line (`NoFramedBody`): on such a head
  `resp.Body.Close()`, which the model leaves out, reads nothing.
-/
namespace HttpCloak.Tunnel

open Textproto

/-- A fresh reader's bytes still to read are the connection's. -/
theorem new_rest (conn : Conn) : (BufReader.new conn).rest = conn.pending := rfl

theorem new_measure (conn : Conn) :
    (BufReader.new conn).measure = conn.pending.length + conn.inbound.length := rfl

/-- **A head the parser accepts reads back.** For every head whose header lines pass
`textproto`'s checks, on every reader whose bytes still to read are the head and then `B`,
however the connection cuts them into segments: `http.ReadRequest` with a parser that
accepts the head returns the parsed request, `http.ReadResponse` with one that accepts it
returns the parsed response, and each leaves exactly `B`, in the reader's buffer and then the
connection. -/
theorem readMessage_toBytes (blk : HeaderBlock) (hw : blk.WellFormed) (B : List Byte)
    (fuel : Nat) (b : BufReader) (hs : b.rest = blk.toBytes ++ B)
    (hbuf : b.buf.length ≤ defaultBufSize) (hfuel : b.measure ≤ fuel) :
    (∀ (parse : ParseRequest) (req : Request), parse blk = .ok req →
      ∃ b', BufReader.Follows b b' ∧ readRequest parse fuel b = some (.ok req, b') ∧
        b'.rest = B) ∧
    (∀ (parse : ParseResponse) (resp : Response), parse blk = .ok resp →
      ∃ b', BufReader.Follows b b' ∧ readResponse parse fuel b = some (.ok resp, b') ∧
        b'.rest = B) := by
  obtain ⟨b', hb', hr, hrest⟩ := readHeaderBlock_toBytes blk hw B fuel b hs hbuf hfuel
  exact ⟨fun parse req hp => ⟨b', hb', by simp [readRequest, hr, hp], hrest⟩,
    fun parse resp hp => ⟨b', hb', by simp [readResponse, hr, hp], hrest⟩⟩

/-- A response head cut after its tenth byte, with one byte behind it, read by parsers that
accept it. -/
theorem readMessage_toBytes_cut :
    HeaderBlock.WellFormed ⟨bytesOf "HTTP/1.1 200 OK", [bytesOf "Server: x"]⟩ ∧
      ((∀ (parse : ParseRequest) (req : Request),
        parse ⟨bytesOf "HTTP/1.1 200 OK", [bytesOf "Server: x"]⟩ = .ok req →
        ∃ b', BufReader.Follows (BufReader.new ⟨[(HeaderBlock.toBytes ⟨bytesOf "HTTP/1.1 200 OK",
            [bytesOf "Server: x"]⟩).take 10, (HeaderBlock.toBytes ⟨bytesOf "HTTP/1.1 200 OK",
            [bytesOf "Server: x"]⟩).drop 10 ++ [22]], []⟩) b' ∧
          readRequest parse 40 (BufReader.new ⟨[(HeaderBlock.toBytes ⟨bytesOf "HTTP/1.1 200 OK",
            [bytesOf "Server: x"]⟩).take 10, (HeaderBlock.toBytes ⟨bytesOf "HTTP/1.1 200 OK",
            [bytesOf "Server: x"]⟩).drop 10 ++ [22]], []⟩) = some (.ok req, b') ∧ b'.rest = [22]) ∧
      (∀ (parse : ParseResponse) (resp : Response),
        parse ⟨bytesOf "HTTP/1.1 200 OK", [bytesOf "Server: x"]⟩ = .ok resp →
        ∃ b', BufReader.Follows (BufReader.new ⟨[(HeaderBlock.toBytes ⟨bytesOf "HTTP/1.1 200 OK",
            [bytesOf "Server: x"]⟩).take 10, (HeaderBlock.toBytes ⟨bytesOf "HTTP/1.1 200 OK",
            [bytesOf "Server: x"]⟩).drop 10 ++ [22]], []⟩) b' ∧
          readResponse parse 40 (BufReader.new ⟨[(HeaderBlock.toBytes ⟨bytesOf "HTTP/1.1 200 OK",
            [bytesOf "Server: x"]⟩).take 10, (HeaderBlock.toBytes ⟨bytesOf "HTTP/1.1 200 OK",
            [bytesOf "Server: x"]⟩).drop 10 ++ [22]], []⟩) = some (.ok resp, b') ∧
          b'.rest = [22])) :=
  ⟨by decide, readMessage_toBytes _ (by decide) [22] 40 _ (by decide) (by decide) (by decide)⟩

/-- Reading a well-formed head from a fresh reader over any segments: the block, and the
bytes behind it split into the buffered ones, at most `defaultBufSize`, and the pending ones. -/
theorem readHeaderBlock_new (blk : HeaderBlock) (hw : blk.WellFormed) (B : List Byte)
    (conn : Conn) (hs : conn.pending = blk.toBytes ++ B) (fuel : Nat)
    (hfuel : conn.pending.length + conn.inbound.length ≤ fuel) :
    ∃ b, readHeaderBlock fuel (BufReader.new conn) = some (.ok blk, b) ∧
      b.buf ++ b.conn.pending = B ∧ b.buf.length ≤ defaultBufSize ∧
      b.conn.written = conn.written := by
  obtain ⟨b, hb, hr, hrest⟩ := readHeaderBlock_toBytes blk hw B fuel (BufReader.new conn)
    (by rw [new_rest, hs]) (Nat.zero_le _) (by rw [new_measure]; exact hfuel)
  exact ⟨b, hr, hrest, hb.fits, hb.written⟩

/-- `handleCONNECT` once the target is dialled: the client receives the `200` answer, then the
target's pending bytes, and the target the client connection's pending bytes. -/
theorem handleCONNECT_dialed (dialTarget : String → String → Except String Conn)
    (clientConn target : Conn) (req : Request) (host port : String)
    (hsplit : let targetHost := if req.host = "" then req.urlHost else req.host
      (splitHostPort targetHost).getD (targetHost, "443") = (host, port))
    (hport : isPortAllowed port) (hdial : dialTarget host port = .ok target) :
    handleCONNECT dialTarget clientConn req =
      .tunneled ⟨[], clientConn.written ++ established ++ target.pending⟩
        ⟨[], target.written ++ clientConn.pending⟩ := by
  simp only at hsplit
  simp [handleCONNECT, hsplit, hport, hdial, tunnel, Conn.write, Conn.pending]

/-- **What the tunnel forwards.** For every client stream that is a well-formed request head
and then `P`, cut into any segments: when the parser reads a `CONNECT` to an allowed port and
the target is dialled, the client receives `200 Connection Established` and then the target's
bytes, and the target receives `P` less a first part, the bytes the `bufio.Reader` read past
the head, at most `defaultBufSize` of them. -/
theorem handleConnection_forwards (parse : ParseRequest)
    (dialTarget : String → String → Except String Conn) (blk : HeaderBlock)
    (hw : blk.WellFormed) (P : List Byte) (conn : Conn) (hs : conn.pending = blk.toBytes ++ P)
    (fuel : Nat) (hfuel : conn.pending.length + conn.inbound.length ≤ fuel) (req : Request)
    (hparse : parse blk = .ok req) (hconnect : req.method = "CONNECT") (host port : String)
    (hsplit : let targetHost := if req.host = "" then req.urlHost else req.host
      (splitHostPort targetHost).getD (targetHost, "443") = (host, port))
    (hport : isPortAllowed port) (target : Conn) (hdial : dialTarget host port = .ok target) :
    ∃ buffered forwarded, buffered ++ forwarded = P ∧ buffered.length ≤ defaultBufSize ∧
      handleConnection parse dialTarget fuel conn =
        some (.tunneled ⟨[], conn.written ++ established ++ target.pending⟩
          ⟨[], target.written ++ forwarded⟩) := by
  obtain ⟨b, hr, hrest, hfits, hwritten⟩ := readHeaderBlock_new blk hw P conn hs fuel hfuel
  refine ⟨b.buf, b.conn.pending, hrest, hfits, ?_⟩
  simp only [handleConnection, readRequest, hr, Option.map_some', hparse, hconnect, if_true]
  rw [handleCONNECT_dialed dialTarget b.conn target req host port hsplit hport hdial, hwritten]

/-- The client's head and the first bytes of its TLS record in one segment. -/
theorem handleConnection_forwards_tls :
    HeaderBlock.WellFormed ⟨bytesOf "CONNECT example.com:443 HTTP/1.1",
        [bytesOf "Host: example.com:443"]⟩ ∧
      ∃ buffered forwarded, buffered ++ forwarded = [22, 3, 1] ∧
        buffered.length ≤ defaultBufSize ∧
        handleConnection (fun _ => .ok ⟨"CONNECT", "example.com:443", "example.com:443"⟩)
            (fun _ _ => .ok ⟨[], []⟩) 100 ⟨[connectHead ++ [22, 3, 1]], []⟩ =
          some (.tunneled ⟨[], [] ++ established ++ Conn.pending ⟨[], []⟩⟩
            ⟨[], [] ++ forwarded⟩) :=
  ⟨by decide, handleConnection_forwards _ _
    ⟨bytesOf "CONNECT example.com:443 HTTP/1.1", [bytesOf "Host: example.com:443"]⟩ (by decide)
    [22, 3, 1] _ (by decide) 100 (by decide) _ rfl rfl "example.com" "443" (by decide) (by decide)
    _ rfl⟩

/-- A response head with no `Content-Length` and no `Transfer-Encoding` line: `http.ReadResponse`
gives it a body that runs until the connection closes, or none, and `resp.Body.Close()`
reads nothing of it. -/
def NoFramedBody (blk : HeaderBlock) : Prop :=
  ∀ l ∈ blk.lines, equalFold (l.takeWhile (· ≠ 58)) (bytesOf "Content-Length") = false ∧
    equalFold (l.takeWhile (· ≠ 58)) (bytesOf "Transfer-Encoding") = false

instance (blk : HeaderBlock) : Decidable (NoFramedBody blk) :=
  inferInstanceAs (Decidable (∀ l ∈ blk.lines,
    equalFold (l.takeWhile (· ≠ 58)) (bytesOf "Content-Length") = false ∧
      equalFold (l.takeWhile (· ≠ 58)) (bytesOf "Transfer-Encoding") = false))

/-- **What `dialThroughHTTPProxy` hands on.** For every upstream stream that is a well-formed
response head with no framed body and then `U`, cut into any segments, once the `CONNECT`
request is written: the call answers as the parsed head says (`failed to read proxy
response` on a parse error, `proxy CONNECT failed` on a status other than 200), and on 200 it
returns a connection with the request written that holds `U` less a first part of at most
`defaultBufSize` bytes. -/
theorem dialThroughHTTPProxy_forwards (parse : ParseResponse) (blk : HeaderBlock)
    (hw : blk.WellFormed) (_hbody : NoFramedBody blk) (U : List Byte) (conn : Conn)
    (hs : conn.pending = blk.toBytes ++ U)
    (fuel : Nat) (hfuel : conn.pending.length + conn.inbound.length ≤ fuel) (targetAddr : String)
    (basicAuth : Option String) :
    let connectReq := "CONNECT " ++ targetAddr ++ " HTTP/1.1\r\nHost: " ++ targetAddr ++ "\r\n" ++
      (match basicAuth with
        | some auth => "Proxy-Authorization: Basic " ++ auth ++ "\r\n"
        | none => "") ++ "\r\n"
    ∃ buffered proxyConn, buffered ++ proxyConn.pending = U ∧ buffered.length ≤ defaultBufSize ∧
      proxyConn.written = conn.written ++ bytesOf connectReq ∧
      dialThroughHTTPProxy parse fuel conn targetAddr basicAuth none =
        some (match parse blk with
          | .error err => .error ("failed to read proxy response: " ++ err)
          | .ok resp =>
            if resp.statusCode ≠ 200 then .error ("proxy CONNECT failed: " ++ resp.status)
            else .ok proxyConn) := by
  intro connectReq
  obtain ⟨b, hr, hrest, hfits, hwritten⟩ := readHeaderBlock_new blk hw U
    ⟨conn.inbound, conn.written ++ bytesOf connectReq⟩ hs fuel hfuel
  refine ⟨b.buf, b.conn, hrest, hfits, hwritten, ?_⟩
  simp only [dialThroughHTTPProxy, Conn.write, readResponse]
  erw [hr]
  rfl

/-- The upstream proxy's `200` answer and the target's first bytes in one segment. -/
theorem dialThroughHTTPProxy_forwards_tls :
    HeaderBlock.WellFormed ⟨bytesOf "HTTP/1.1 200 Connection established", []⟩ ∧
      NoFramedBody ⟨bytesOf "HTTP/1.1 200 Connection established", []⟩ ∧
      ∃ buffered proxyConn, buffered ++ proxyConn.pending = [22, 3, 3] ∧
        buffered.length ≤ defaultBufSize ∧
        proxyConn.written = [] ++ bytesOf ("CONNECT " ++ "example.com:443" ++
          " HTTP/1.1\r\nHost: " ++ "example.com:443" ++ "\r\n" ++ "" ++ "\r\n") ∧
        dialThroughHTTPProxy (fun _ => .ok ⟨200, "200 Connection established"⟩) 100
            ⟨[proxyHead ++ [22, 3, 3]], []⟩ "example.com:443" none none =
          some (.ok proxyConn) :=
  ⟨by decide, by decide, dialThroughHTTPProxy_forwards _
    ⟨bytesOf "HTTP/1.1 200 Connection established", []⟩ (by decide) (by decide) [22, 3, 3]
    ⟨[proxyHead ++ [22, 3, 3]], []⟩ (by decide) 100 (by decide) "example.com:443" none⟩

end HttpCloak.Tunnel
