import HttpCloak.Http.Reader

/-!
# `SpeculativeConn`: speculative TLS over an HTTP CONNECT proxy

`transport/speculative_conn.go`. The wrapper sends the proxy's `CONNECT` request in front
of the first `Write` (the TLS ClientHello), and on the first `Read` consumes the proxy's
response head, checks its status, and hands the bytes behind it to the caller.

The underlying `net.Conn` is a `Conn` (`Net.Conn`): every way a real connection can cut
the proxy's stream into read results is one list of segments.

`http.ReadResponse` belongs to the `http` library, not to this repository; the model takes
it as a parameter `ReadResponse`, applied to the complete head the code hands it.

The mutex `mu` serialises the calls; this file models the calls one after another (see
`SpeculativeLock` for the lock itself).
-/

namespace HttpCloak.Transport

/-- `SpeculativeTLSError`: the operation that failed ("write", "read", "parse" or
"status"), the proxy's status code (`0` when there is none) and the wrapped error's text. -/
structure SpeculativeTLSError where
  op : String
  statusCode : Nat
  err : String
  deriving DecidableEq, Repr

/-- The error a call returns: the underlying connection's own, passed through, or a
`*SpeculativeTLSError`. -/
inductive Error where
  | conn (e : ConnError)
  | speculative (e : SpeculativeTLSError)
  deriving DecidableEq, Repr

/-- `http.ReadResponse` on a complete response head: the response, or the parse error's
text. -/
abbrev ReadResponse := List Byte → Except String Response

/-- The fields of `SpeculativeConn` besides its mutex. -/
structure SpeculativeConn where
  conn : Conn
  connectRequest : List Byte
  firstWrite : Bool
  httpResponseDone : Bool
  readBuffer : List Byte
  headerBuffer : List Byte
  deriving DecidableEq, Repr

namespace SpeculativeConn

/-- `NewSpeculativeConn(conn, connectRequest)`. -/
def newSpeculativeConn (conn : Conn) (connectRequest : List Byte) : SpeculativeConn :=
  ⟨conn, connectRequest, false, false, [], []⟩

/-- `Write(b)`: the first call sends `connectRequest ++ b` in one underlying write and
reports `len(b)`; later calls write through. -/
def write (c : SpeculativeConn) (b : List Byte) (fail : Option Nat) :
    (Nat × Option Error) × SpeculativeConn :=
  if !c.firstWrite then
    let r := c.conn.write (c.connectRequest ++ b) fail
    match r.1.2 with
    | some e => ((0, some (.speculative ⟨"write", 0, e.text⟩)), { c with conn := r.2 })
    | none => ((b.length, none), { c with conn := r.2, firstWrite := true })
  else
    let r := c.conn.write b fail
    ((r.1.1, r.1.2.map .conn), { c with conn := r.2 })

/-- `return c.Conn.Read(b)`. -/
def connRead (c : SpeculativeConn) (n : Nat) : (List Byte × Option Error) × SpeculativeConn :=
  let r := c.conn.read n
  ((r.1.1, r.1.2.map .conn), { c with conn := r.2 })

/-- The part of `readAndStripHTTPResponse` after `\r\n\r\n` was found at `headerEnd` of
`headerBuffer`: parse and check the head, then deliver the bytes behind it. -/
def finishResponse (rr : ReadResponse) (n : Nat) (c : SpeculativeConn) (headerEnd : Nat) :
    (List Byte × Option Error) × SpeculativeConn :=
  let data := c.headerBuffer
  match rr (data.take (headerEnd + 4)) with
  | .error e => (([], some (.speculative ⟨"parse", 0, e⟩)), c)
  | .ok resp =>
    if resp.statusCode ≠ 200 then
      (([], some (.speculative ⟨"status", resp.statusCode, resp.status⟩)), c)
    else
      let c := { c with httpResponseDone := true, headerBuffer := [] }
      let tlsData := data.drop (headerEnd + 4)
      if 0 < tlsData.length then
        let copied := min n tlsData.length
        ((tlsData.take n, none),
          if copied < tlsData.length then { c with readBuffer := c.readBuffer ++ tlsData.drop copied }
          else c)
      else
        c.connRead n

/-- `readAndStripHTTPResponse(b)` with `len(b) = n`: read up to 8192 bytes into
`headerBuffer`; without a `\r\n\r\n` in it, fail past 16384 bytes and otherwise call itself
again. -/
def readAndStripHTTPResponse (rr : ReadResponse) (n : Nat) (c : SpeculativeConn) :
    (List Byte × Option Error) × SpeculativeConn :=
  let r := c.conn.read 8192
  match h : r.1.2 with
  | some e => (([], some (.speculative ⟨"read", 0, e.text⟩)), { c with conn := r.2 })
  | none =>
    let c' := { c with conn := r.2, headerBuffer := c.headerBuffer ++ r.1.1 }
    match bytesIndex crlfcrlf c'.headerBuffer with
    | none =>
      if 16384 < c'.headerBuffer.length then
        (([], some (.speculative ⟨"parse", 0, "HTTP response headers exceed 16KB limit"⟩)), c')
      else
        readAndStripHTTPResponse rr n c'
    | some headerEnd => finishResponse rr n c' headerEnd
termination_by c.conn.size
decreasing_by exact Conn.size_read_lt c.conn (by decide) h

/-- `Read(b)` with `len(b) = n`: buffered TLS bytes first, then the proxy's response while
it is not done, then the underlying connection. -/
def read (rr : ReadResponse) (c : SpeculativeConn) (n : Nat) :
    (List Byte × Option Error) × SpeculativeConn :=
  if 0 < c.readBuffer.length then
    ((c.readBuffer.take n, none), { c with readBuffer := c.readBuffer.drop n })
  else if !c.httpResponseDone then
    readAndStripHTTPResponse rr n c
  else
    c.connRead n

/-! ## Runs of calls -/

/-- A call on the wrapper: `Read` into a buffer of `n` bytes, or `Write(b)` with the
outcome of the underlying write. -/
inductive Call where
  | read (n : Nat)
  | write (b : List Byte) (fail : Option Nat)
  deriving DecidableEq, Repr

/-- What a call returned: the bytes placed in the caller's buffer, or the count written,
with the error. -/
inductive Outcome where
  | read (data : List Byte) (err : Option Error)
  | write (n : Nat) (err : Option Error)
  deriving DecidableEq, Repr

/-- One call. -/
def step (rr : ReadResponse) (c : SpeculativeConn) : Call → Outcome × SpeculativeConn
  | .read n => let r := c.read rr n; (.read r.1.1 r.1.2, r.2)
  | .write b fail => let r := c.write b fail; (.write r.1.1 r.1.2, r.2)

/-- Calls one after another. -/
def run (rr : ReadResponse) : SpeculativeConn → List Call → List Outcome × SpeculativeConn
  | c, [] => ([], c)
  | c, call :: calls =>
    let r := step rr c call
    let rest := run rr r.2 calls
    (r.1 :: rest.1, rest.2)

/-- The bytes a caller received from its reads, in order. -/
def delivered : List Outcome → List Byte
  | [] => []
  | .read data _ :: outs => data ++ delivered outs
  | .write _ _ :: outs => delivered outs

/-- The reads among the calls into a buffer that can hold a byte. -/
def nonEmptyReads : List Call → Nat
  | [] => 0
  | .read n :: calls => nonEmptyReads calls + if 0 < n then 1 else 0
  | .write _ _ :: calls => nonEmptyReads calls

/-- The payloads of the writes among the calls. -/
def writesOf : List Call → List (List Byte)
  | [] => []
  | .read _ :: calls => writesOf calls
  | .write b _ :: calls => b :: writesOf calls

end SpeculativeConn

end HttpCloak.Transport
