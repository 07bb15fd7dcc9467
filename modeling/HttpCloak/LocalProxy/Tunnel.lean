import HttpCloak.Http.Reader

/-!
# The CONNECT tunnel of `LocalProxy`

`local_proxy.go`. `handleConnection` wraps the client connection in a `bufio.Reader` and
reads the request with `http.ReadRequest`; for a `CONNECT` it calls `handleCONNECT` with the
connection, not the reader. `handleCONNECT` checks the port, dials the target (directly, or
through an upstream proxy with `dialThroughHTTPProxy`), answers
`HTTP/1.1 200 Connection Established`, and `tunnel` copies each connection into the other
until EOF. `dialThroughHTTPProxy` reads the upstream proxy's answer through its own
`bufio.Reader` and returns the connection, not the reader.

`handleCONNECT_tunneled` shows the tunnel passes on everything the two connections still
hold; `connect_tunnel_drops_buffered_bytes` runs both reads on streams where a byte follows
the head in the same segment, and the byte is in neither connection when the tunnel starts.
-/

namespace HttpCloak.Tunnel

open Textproto

/-- `http.ReadRequest(b)`; `io.EOF` after the first line becomes `io.ErrUnexpectedEOF`. -/
def readRequest (parse : ParseRequest) (fuel : Nat) (b : BufReader) :
    Option (Except String Request × BufReader) :=
  (readHeaderBlock fuel b).map fun (r, b) =>
    (match r with
      | .ok block => parse block
      | .error (.conn true e) => .error e.text
      | .error (.conn false .eof) => .error "unexpected EOF"
      | .error (.conn false e) => .error e.text
      | .error (.malformedInitialLine _) => .error "malformed MIME header initial line"
      | .error (.missingColon _) => .error "malformed MIME header: missing colon"
      | .error (.malformedLine _) => .error "malformed MIME header line", b)

/-- `http.ReadResponse(b, nil)`; `io.EOF` becomes `io.ErrUnexpectedEOF`. -/
def readResponse (parse : ParseResponse) (fuel : Nat) (b : BufReader) :
    Option (Except String Response × BufReader) :=
  (readHeaderBlock fuel b).map fun (r, b) =>
    (match r with
      | .ok block => parse block
      | .error (.conn _ .eof) => .error "unexpected EOF"
      | .error (.conn _ e) => .error e.text
      | .error (.malformedInitialLine _) => .error "malformed MIME header initial line"
      | .error (.missingColon _) => .error "malformed MIME header: missing colon"
      | .error (.malformedLine _) => .error "malformed MIME header line", b)

/-- The codes and texts of `http.StatusText`. -/
def statusTexts : List (Nat × String) :=
  [(100, "Continue"), (101, "Switching Protocols"), (102, "Processing"), (103, "Early Hints"),
    (200, "OK"), (201, "Created"), (202, "Accepted"), (203, "Non-Authoritative Information"),
    (204, "No Content"), (205, "Reset Content"), (206, "Partial Content"),
    (207, "Multi-Status"), (208, "Already Reported"), (226, "IM Used"),
    (300, "Multiple Choices"), (301, "Moved Permanently"), (302, "Found"), (303, "See Other"),
    (304, "Not Modified"), (305, "Use Proxy"), (307, "Temporary Redirect"),
    (308, "Permanent Redirect"),
    (400, "Bad Request"), (401, "Unauthorized"), (402, "Payment Required"), (403, "Forbidden"),
    (404, "Not Found"), (405, "Method Not Allowed"), (406, "Not Acceptable"),
    (407, "Proxy Authentication Required"), (408, "Request Timeout"), (409, "Conflict"),
    (410, "Gone"), (411, "Length Required"), (412, "Precondition Failed"),
    (413, "Request Entity Too Large"), (414, "Request URI Too Long"),
    (415, "Unsupported Media Type"), (416, "Requested Range Not Satisfiable"),
    (417, "Expectation Failed"), (418, "I\x27m a teapot"), (421, "Misdirected Request"),
    (422, "Unprocessable Entity"), (423, "Locked"), (424, "Failed Dependency"),
    (425, "Too Early"), (426, "Upgrade Required"), (428, "Precondition Required"),
    (429, "Too Many Requests"), (431, "Request Header Fields Too Large"),
    (451, "Unavailable For Legal Reasons"),
    (500, "Internal Server Error"), (501, "Not Implemented"), (502, "Bad Gateway"),
    (503, "Service Unavailable"), (504, "Gateway Timeout"), (505, "HTTP Version Not Supported"),
    (506, "Variant Also Negotiates"), (507, "Insufficient Storage"), (508, "Loop Detected"),
    (510, "Not Extended"), (511, "Network Authentication Required")]

/-- `http.StatusText(code)`: the code's text, `""` for a code not in the table. -/
def statusText (code : Nat) : String :=
  ((statusTexts.find? (·.1 = code)).map (·.2)).getD ""

/-- `p.sendError(conn, status, message)`; the write's result is ignored. -/
def sendError (conn : Conn) (status : Nat) (message : String) : Conn :=
  (conn.write (bytesOf ("HTTP/1.1 " ++ toString status ++ " " ++ statusText status ++
    "\r\nContent-Type: text/plain\r\nContent-Length: " ++ toString (bytesOf message).length ++
    "\r\nConnection: close\r\n\r\n" ++ message)) none).2

/-- The position of the last `c`. -/
def lastIdx (c : Char) (s : List Char) : Option Nat :=
  (s.reverse.findIdx? (· = c)).map (s.length - 1 - ·)

/-- `net.SplitHostPort(hostport)`, `none` for each of its errors. -/
def splitHostPort (hostport : String) : Option (String × String) :=
  let s := hostport.toList
  match lastIdx ':' s with
  | none => none
  | some i =>
    let hostjk : Option (List Char × Nat × Nat) :=
      if s.head? = some '[' then
        match s.findIdx? (· = ']') with
        | none => none
        | some e => if e + 1 = i then some ((s.take e).drop 1, 1, e + 1) else none
      else if ':' ∈ s.take i then none
      else some (s.take i, 0, 0)
    match hostjk with
    | none => none
    | some (host, j, k) =>
      if '[' ∈ s.drop j || ']' ∈ s.drop k then none
      else some (String.mk host, String.mk (s.drop (i + 1)))

/-- `p.isPortAllowed(port)`. -/
def isPortAllowed (port : String) : Bool := !(["25", "465", "587", "23"].contains port)

/-- `"HTTP/1.1 200 Connection Established\r\n\r\n"`. -/
def established : List Byte := bytesOf "HTTP/1.1 200 Connection Established\r\n\r\n"

/-- `p.tunnel(client, target)`: each direction copies its source until EOF. -/
def tunnel (client target : Conn) : Conn × Conn :=
  (⟨[], client.written ++ target.pending⟩, ⟨[], target.written ++ client.pending⟩)

/-- How a connection ends: refused with an error response, tunnelled, or handed to
`handleHTTP`, which this file does not follow. -/
inductive Handled where
  | refused (client : Conn)
  | tunneled (client target : Conn)
  | http
  deriving DecidableEq, Repr

/-- `p.handleCONNECT(clientConn, req)`, with `dialTarget`'s result for a host and port; the
write of the `200` answer succeeds. -/
def handleCONNECT (dialTarget : String → String → Except String Conn) (clientConn : Conn)
    (req : Request) : Handled :=
  let targetHost := if req.host = "" then req.urlHost else req.host
  let (host, port) := (splitHostPort targetHost).getD (targetHost, "443")
  if !isPortAllowed port then .refused (sendError clientConn 403 "Port not allowed")
  else
    match dialTarget host port with
    | .error err => .refused (sendError clientConn 502 ("Failed to connect: " ++ err))
    | .ok targetConn =>
      let (client, target) := tunnel (clientConn.write established none).2 targetConn
      .tunneled client target

/-- `p.handleConnection(conn)`: `http.ReadRequest` through a fresh `bufio.Reader`, then the
`CONNECT` branch with the connection itself. -/
def handleConnection (parse : ParseRequest) (dialTarget : String → String → Except String Conn)
    (fuel : Nat) (conn : Conn) : Option Handled :=
  (readRequest parse fuel (BufReader.new conn)).map fun (r, reader) =>
    match r with
    | .error _ => .refused (sendError reader.conn 400 "Bad Request")
    | .ok req => if req.method = "CONNECT" then handleCONNECT dialTarget reader.conn req else .http

/-- `p.dialThroughHTTPProxy(ctx, proxyURL, targetAddr)` once the connection to the proxy is
dialed: the `CONNECT` request (with `basicAuth`, the base64 of the URL's user and password),
the write's outcome, and the proxy's answer read through a fresh `bufio.Reader`. -/
def dialThroughHTTPProxy (parse : ParseResponse) (fuel : Nat) (conn : Conn) (targetAddr : String)
    (basicAuth : Option String) (fail : Option Nat) : Option (Except String Conn) :=
  let connectReq := "CONNECT " ++ targetAddr ++ " HTTP/1.1\r\nHost: " ++ targetAddr ++ "\r\n" ++
    (match basicAuth with
      | some auth => "Proxy-Authorization: Basic " ++ auth ++ "\r\n"
      | none => "") ++ "\r\n"
  let w := conn.write (bytesOf connectReq) fail
  match w.1.2 with
  | some e => some (.error ("failed to send CONNECT: " ++ e.text))
  | none =>
    (readResponse parse fuel (BufReader.new w.2)).map fun (r, reader) =>
      match r with
      | .error err => .error ("failed to read proxy response: " ++ err)
      | .ok resp =>
        if resp.statusCode ≠ 200 then .error ("proxy CONNECT failed: " ++ resp.status)
        else .ok reader.conn

/-! ## The tunnel -/

/-- Once the target is dialed, the client receives the `200` answer and then everything the
target connection holds, and the target everything the client connection holds. -/
theorem handleCONNECT_tunneled (dialTarget : String → String → Except String Conn)
    (clientConn targetConn : Conn) (req : Request) (host port : String)
    (hsplit : splitHostPort (if req.host = "" then req.urlHost else req.host) = some (host, port))
    (hport : isPortAllowed port) (hdial : dialTarget host port = .ok targetConn) :
    handleCONNECT dialTarget clientConn req =
      .tunneled ⟨[], clientConn.written ++ established ++ targetConn.pending⟩
        ⟨[], targetConn.written ++ clientConn.pending⟩ := by
  simp [handleCONNECT, hsplit, hport, hdial, tunnel, Conn.write, Conn.pending]

/-! ## Two streams with a byte behind the head -/

/-- A client's `CONNECT` request head. -/
def connectHead : List Byte := bytesOf "CONNECT example.com:443 HTTP/1.1\r\nHost: example.com:443\r\n\r\n"

/-- An upstream proxy's `200` answer. -/
def proxyHead : List Byte := bytesOf "HTTP/1.1 200 Connection established\r\n\r\n"

/-- The client's head and the first bytes of its TLS record arrive in one segment;
`ReadRequest` returns the head and leaves those bytes in the `bufio.Reader`. -/
theorem readHeaderBlock_connect :
    readHeaderBlock 8 (BufReader.new ⟨[connectHead ++ [22, 3, 1]], []⟩) =
      some (.ok ⟨bytesOf "CONNECT example.com:443 HTTP/1.1", [bytesOf "Host: example.com:443"]⟩,
        ⟨⟨[], []⟩, [22, 3, 1]⟩) := by
  rfl

/-- The request `dialThroughHTTPProxy` sends for `example.com:443` without credentials. -/
def connectRequest : List Byte :=
  bytesOf "CONNECT example.com:443 HTTP/1.1\r\nHost: example.com:443\r\n\r\n"

/-- The proxy's answer and the target's first bytes arrive in one segment; `ReadResponse`
returns the head and leaves those bytes in the `bufio.Reader`. -/
theorem readHeaderBlock_proxy :
    readHeaderBlock 8 (BufReader.new ⟨[proxyHead ++ [22, 3, 3]], connectRequest⟩) =
      some (.ok ⟨bytesOf "HTTP/1.1 200 Connection established", []⟩,
        ⟨⟨[], connectRequest⟩, [22, 3, 3]⟩) := by
  rfl

/-- **Bytes behind a head are dropped.** (1) A client sends its `CONNECT` head and the first
bytes of its TLS record in one segment: the proxy tunnels to the target, which receives none
of them. (2) An upstream proxy sends its `200` answer and the target's first bytes in one
segment: `dialThroughHTTPProxy` returns a connection that holds none of them, so the client
of a tunnel through it receives the `200 Connection Established` answer and nothing else. -/
theorem connect_tunnel_drops_buffered_bytes (parseReq : ParseRequest) (parseResp : ParseResponse)
    (hreq : parseReq ⟨bytesOf "CONNECT example.com:443 HTTP/1.1", [bytesOf "Host: example.com:443"]⟩ =
      .ok ⟨"CONNECT", "example.com:443", "example.com:443"⟩)
    (hresp : parseResp ⟨bytesOf "HTTP/1.1 200 Connection established", []⟩ =
      .ok ⟨200, "200 Connection established"⟩) :
    handleConnection parseReq (fun _ _ => .ok ⟨[], []⟩) 8 ⟨[connectHead ++ [22, 3, 1]], []⟩ =
        some (.tunneled ⟨[], established⟩ ⟨[], []⟩) ∧
      dialThroughHTTPProxy parseResp 8 ⟨[proxyHead ++ [22, 3, 3]], []⟩ "example.com:443" none none =
        some (.ok ⟨[], connectRequest⟩) ∧
      handleConnection parseReq (fun _ _ => .ok ⟨[], connectRequest⟩) 8 ⟨[connectHead], []⟩ =
        some (.tunneled ⟨[], established⟩ ⟨[], connectRequest⟩) := by
  have hrun : ∀ (P : List Byte) (t : Conn), readHeaderBlock 8 (BufReader.new ⟨[connectHead ++ P], []⟩) =
      some (.ok ⟨bytesOf "CONNECT example.com:443 HTTP/1.1", [bytesOf "Host: example.com:443"]⟩,
        ⟨⟨[], []⟩, P⟩) →
      handleConnection parseReq (fun _ _ => .ok t) 8 ⟨[connectHead ++ P], []⟩ =
        some (.tunneled ⟨[], established ++ t.pending⟩ ⟨[], t.written⟩) := by
    intro P t h
    simp only [handleConnection, readRequest, h, Option.map_some', hreq, if_true]
    rw [handleCONNECT_tunneled _ ⟨[], []⟩ t ⟨"CONNECT", "example.com:443", "example.com:443"⟩
      "example.com" "443" (by decide) (by decide) rfl]
    simp [Conn.pending]
  refine ⟨?_, ?_, ?_⟩
  · simpa [Conn.pending] using hrun [22, 3, 1] ⟨[], []⟩ readHeaderBlock_connect
  · simp only [dialThroughHTTPProxy, Conn.write, readResponse]
    rw [show bytesOf ("CONNECT " ++ "example.com:443" ++ " HTTP/1.1\r\nHost: " ++ "example.com:443" ++
      "\r\n" ++ "" ++ "\r\n") = connectRequest from rfl, List.nil_append, readHeaderBlock_proxy]
    simp [hresp]
  · simpa [Conn.pending] using hrun [] ⟨[], connectRequest⟩ (by rw [List.append_nil]; rfl)

/-- The same runs with parsers that accept the two heads as `net/http` does. -/
theorem connect_tunnel_drops_buffered_bytes_parsed :
    handleConnection (fun _ => .ok ⟨"CONNECT", "example.com:443", "example.com:443"⟩)
        (fun _ _ => .ok ⟨[], []⟩) 8 ⟨[connectHead ++ [22, 3, 1]], []⟩ =
        some (.tunneled ⟨[], established⟩ ⟨[], []⟩) ∧
      dialThroughHTTPProxy (fun _ => .ok ⟨200, "200 Connection established"⟩) 8
          ⟨[proxyHead ++ [22, 3, 3]], []⟩ "example.com:443" none none =
        some (.ok ⟨[], connectRequest⟩) ∧
      handleConnection (fun _ => .ok ⟨"CONNECT", "example.com:443", "example.com:443"⟩)
          (fun _ _ => .ok ⟨[], connectRequest⟩) 8 ⟨[connectHead], []⟩ =
        some (.tunneled ⟨[], established⟩ ⟨[], connectRequest⟩) :=
  connect_tunnel_drops_buffered_bytes _ _ rfl rfl

end HttpCloak.Tunnel
