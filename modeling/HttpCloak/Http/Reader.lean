import HttpCloak.Net.Conn
import HttpCloak.Http.Header

/-!
# Reading a message head through `bufio` and `textproto`

`http.ReadRequest(b)` and `http.ReadResponse(b, nil)` read a message head from a
`*bufio.Reader`: the first line, then the header lines up to the blank line
(`textproto.Reader.ReadMIMEHeader`). They read line by line with `ReadSlice('\n')`, and look
one or two bytes ahead after a header line to find continuation lines. The `bufio.Reader`
reads from its connection whenever it needs a byte it does not hold, and each read takes
whatever the connection returns, up to the free room of its 4096-byte buffer. When the head
is complete, the bytes it has read beyond the blank line stay in its buffer.

This file follows those functions with their loops and their read-ahead, and with the
checks `textproto` makes on each header line as it reads it: the line's first physical line
must hold a colon (`mustHaveFieldNameColon`), the key before the first colon must be a
non-empty token, spaces allowed (`canonicalMIMEHeaderKey`'s `ok`), and every byte after it
must be a field-value byte (`validHeaderValueByte`). Reading stops at the first line that
fails, with the bytes behind it unread. `HeaderBlock` is what the reader hands to the parsing
proper (the request line or status line, and the header lines), which is a parameter
(`ParseRequest`, `ParseResponse`).

Each loop takes a `fuel` argument and answers `none` when it runs out; no Go function
here has such a bound.
-/

namespace HttpCloak

/-- `StatusCode` and `Status` of a parsed response. -/
structure Response where
  statusCode : Nat
  status : String
  deriving DecidableEq, Repr

/-- The fields of a parsed request the proxy reads: `Method`, `Host` and `URL.Host`. -/
structure Request where
  method : String
  host : String
  urlHost : String
  deriving DecidableEq, Repr

/-- The lines `textproto` reads: the first line and the header lines, without line ends,
each continuation joined to its line by a space. -/
structure HeaderBlock where
  firstLine : List Byte
  lines : List (List Byte)
  deriving DecidableEq, Repr

/-- The parsing `http.ReadRequest` does on the lines it read. -/
abbrev ParseRequest := HeaderBlock → Except String Request

/-- The parsing `http.ReadResponse` does on the lines it read. -/
abbrev ParseResponse := HeaderBlock → Except String Response

/-- `bufio`'s `defaultBufSize`. -/
def defaultBufSize : Nat := 4096

/-- A `bufio.Reader` over a connection: the connection, and the bytes read from it that no
call has returned yet (`b.buf[b.r:b.w]`). -/
structure BufReader where
  conn : Conn
  buf : List Byte
  deriving DecidableEq, Repr

namespace BufReader

/-- `bufio.NewReader(conn)`. -/
def new (conn : Conn) : BufReader := ⟨conn, []⟩

/-- `b.fill()`: one `Read` into the free room of the buffer. -/
def fill (b : BufReader) : Option ConnError × BufReader :=
  let r := b.conn.read (defaultBufSize - b.buf.length)
  (r.1.2, ⟨r.2, b.buf ++ r.1.1⟩)

/-- The errors of `ReadSlice`. -/
inductive SliceError where
  | bufferFull
  | conn (e : ConnError)
  deriving DecidableEq, Repr

/-- `b.ReadSlice('\n')`: the bytes through the first newline; every buffered byte with
`ErrBufferFull` when the buffer is full without one; or every buffered byte with the read
error. -/
def readSlice : Nat → BufReader → Option ((List Byte × Option SliceError) × BufReader)
  | fuel, b =>
    match b.buf.findIdx? (· = 10) with
    | some i => some ((b.buf.take (i + 1), none), { b with buf := b.buf.drop (i + 1) })
    | none =>
      if defaultBufSize ≤ b.buf.length then some ((b.buf, some .bufferFull), { b with buf := [] })
      else
        match fuel with
        | 0 => none
        | fuel + 1 =>
          match b.fill with
          | (some e, b) => some ((b.buf, some (.conn e)), { b with buf := [] })
          | (none, b) => readSlice fuel b

/-- The line without its `\n` or `\r\n`. -/
def dropLineEnd (line : List Byte) : List Byte :=
  match line.reverse with
  | 10 :: 13 :: rest => rest.reverse
  | 10 :: rest => rest.reverse
  | _ => line

/-- `b.ReadLine()`: a line without its end and whether it goes on (`isPrefix`), or the read
error when nothing was buffered. A full buffer that ends in `\r` keeps the `\r` for the next
call. -/
def readLine (fuel : Nat) (b : BufReader) : Option (Except ConnError (List Byte × Bool) × BufReader) :=
  (readSlice fuel b).map fun ((line, err), b) =>
    match err with
    | some .bufferFull =>
      if line.getLast? = some 13 then (.ok (line.dropLast, true), { b with buf := 13 :: b.buf })
      else (.ok (line, true), b)
    | err =>
      if line = [] then
        match err with
        | some (.conn e) => (.error e, b)
        | _ => (.ok ([], false), b)
      else (.ok (dropLineEnd line, false), b)

/-- `b.Peek(n)`: reads until `n` bytes are buffered or a read fails, and returns at most `n`
buffered bytes. -/
def peek : Nat → BufReader → Nat → Option (List Byte × BufReader)
  | fuel, b, n =>
    if n ≤ b.buf.length then some (b.buf.take n, b)
    else
      match fuel with
      | 0 => none
      | fuel + 1 =>
        match b.fill with
        | (some _, b) => some (b.buf, b)
        | (none, b) => peek fuel b n

/-- `b.ReadByte()`. -/
def readByte : Nat → BufReader → Option (Except ConnError Byte × BufReader)
  | fuel, b =>
    match b.buf with
    | c :: rest => some (.ok c, { b with buf := rest })
    | [] =>
      match fuel with
      | 0 => none
      | fuel + 1 =>
        match b.fill with
        | (some e, b) => some (.error e, b)
        | (none, b) => readByte fuel b

end BufReader

namespace Textproto

open BufReader

/-- `readLineSlice`: one whole line, however many `ReadLine` calls it takes. -/
def readLineSlice : Nat → BufReader → List Byte → Option (Except ConnError (List Byte) × BufReader)
  | fuel, b, acc =>
    match readLine fuel b with
    | none => none
    | some (.error e, b) => some (.error e, b)
    | some (.ok (l, more), b) =>
      if more then
        match fuel with
        | 0 => none
        | fuel + 1 => readLineSlice fuel b (acc ++ l)
      else some (.ok (acc ++ l), b)

/-- A space or a tab. -/
def isSpaceOrTab (c : Byte) : Bool := c = 32 || c = 9

/-- `trim`: without leading and trailing spaces and tabs. -/
def trim (s : List Byte) : List Byte :=
  ((s.dropWhile isSpaceOrTab).reverse.dropWhile isSpaceOrTab).reverse

/-- `skipSpace`: consumes spaces and tabs and counts them. -/
def skipSpace : Nat → BufReader → Nat → Option (Nat × BufReader)
  | fuel, b, n =>
    match readByte fuel b with
    | none => none
    | some (.error _, b) => some (n, b)
    | some (.ok c, b) =>
      if !isSpaceOrTab c then some (n, { b with buf := c :: b.buf })
      else
        match fuel with
        | 0 => none
        | fuel + 1 => skipSpace fuel b (n + 1)

/-- The continuation lines of `readContinuedLineSlice`, each joined by a space. -/
def continuation : Nat → BufReader → List Byte → Option (List Byte × BufReader)
  | fuel, b, acc =>
    match skipSpace fuel b 0 with
    | none => none
    | some (0, b) => some (acc, b)
    | some (_ + 1, b) =>
      match readLineSlice fuel b [] with
      | none => none
      | some (.error _, b) => some (acc, b)
      | some (.ok line, b) =>
        match fuel with
        | 0 => none
        | fuel + 1 => continuation fuel b (acc ++ [32] ++ trim line)

/-- Whether two peeked bytes start a new header line or the blank line: a letter, `\n`, or
`\r\n`. -/
def startsLine (peek : List Byte) : Bool :=
  match peek with
  | c :: rest =>
    (65 ≤ c && c ≤ 90) || (97 ≤ c && c ≤ 122) || c = 10 || (c = 13 && rest = [10])
  | [] => false

/-- The error of reading a head: a read error, with whether it came on the first line; a
header block whose first header line starts with a space; a header line with no colon in its
first physical line; or a header line whose key or value `readMIMEHeader` refuses. -/
inductive HeadError where
  | conn (onFirstLine : Bool) (e : ConnError)
  | malformedInitialLine (line : List Byte)
  | missingColon (line : List Byte)
  | malformedLine (line : List Byte)
  deriving DecidableEq, Repr

/-- `readContinuedLineSlice(lim, mustHaveFieldNameColon)`: a header line with its continuation
lines, or the empty line; a first line without a colon is refused. -/
def readContinuedLineSlice (fuel : Nat) (b : BufReader) :
    Option (Except HeadError (List Byte) × BufReader) :=
  match readLineSlice fuel b [] with
  | none => none
  | some (.error e, b) => some (.error (.conn false e), b)
  | some (.ok line, b) =>
    if line = [] then some (.ok [], b)
    else if 58 ∉ line then some (.error (.missingColon line), b)
    else if 1 < b.buf.length && startsLine (b.buf.take 2) then some (.ok (trim line), b)
    else (continuation fuel b (trim line)).map fun (line, b) => (.ok line, b)

/-- `bytes.Cut(s, []byte{sep})`: the bytes before the first `sep` and those after it. -/
def cut (sep : Byte) : List Byte → Option (List Byte × List Byte)
  | [] => none
  | c :: cs => if c = sep then some ([], cs) else (cut sep cs).map fun (k, v) => (c :: k, v)

/-- `validHeaderValueByte(c)`: a visible ASCII character, a space, a tab, or a byte from
`0x80` on. -/
def validHeaderValueByte (c : Byte) : Bool := c = 9 || (32 ≤ c && c ≠ 127)

/-- The `ok` of `canonicalMIMEHeaderKey(k)`: a non-empty key of token bytes, where a space
is let through uncanonicalized. -/
def validHeaderKey (k : List Byte) : Bool :=
  k ≠ [] && k.all fun c => validHeaderFieldByte c || c = 32

/-- The checks `readMIMEHeader` makes on a header line `kv`: a colon, a valid key before the
first one, and only field-value bytes after it. -/
def validHeaderLine (kv : List Byte) : Bool :=
  match cut 58 kv with
  | some (k, v) => validHeaderKey k && v.all validHeaderValueByte
  | none => false

/-- The loop of `readMIMEHeader`: header lines up to the empty one, each checked before the
next is read. -/
def readHeaderLines : Nat → BufReader → List (List Byte) →
    Option (Except HeadError (List (List Byte)) × BufReader)
  | fuel, b, acc =>
    match readContinuedLineSlice fuel b with
    | none => none
    | some (.error e, b) => some (.error e, b)
    | some (.ok [], b) => some (.ok acc, b)
    | some (.ok line, b) =>
      if !validHeaderLine line then some (.error (.malformedLine line), b)
      else
        match fuel with
        | 0 => none
        | fuel + 1 => readHeaderLines fuel b (acc ++ [line])

/-- `ReadMIMEHeader`: refuses a first header line that starts with a space, then reads the
header lines. -/
def readMIMEHeader (fuel : Nat) (b : BufReader) :
    Option (Except HeadError (List (List Byte)) × BufReader) :=
  match peek fuel b 1 with
  | none => none
  | some (p, b) =>
    if p.length = 1 && isSpaceOrTab (p.headD 0) then
      match readLineSlice fuel b [] with
      | none => none
      | some (.error e, b) => some (.error (.conn false e), b)
      | some (.ok line, b) => some (.error (.malformedInitialLine line), b)
    else readHeaderLines fuel b []

/-- The first line, then `ReadMIMEHeader`. -/
def readHeaderBlock (fuel : Nat) (b : BufReader) : Option (Except HeadError HeaderBlock × BufReader) :=
  match readLineSlice fuel b [] with
  | none => none
  | some (.error e, b) => some (.error (.conn true e), b)
  | some (.ok first, b) =>
    (readMIMEHeader fuel b).map fun (r, b) => (r.map (HeaderBlock.mk first), b)

end Textproto

end HttpCloak
