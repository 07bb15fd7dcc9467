import HttpCloak.Bytes
import HttpCloak.Map
import HttpCloak.Net.Conn
import HttpCloak.Http.Header
import HttpCloak.Http.Reader
import HttpCloak.Http.ReadHead
import HttpCloak.Net.URL
import HttpCloak.Transport.SpeculativeConn
import HttpCloak.Transport.SpeculativeStream
import HttpCloak.Transport.SpeculativeLimit
import HttpCloak.Transport.SpeculativeReads
import HttpCloak.Transport.SpeculativeRefused
import HttpCloak.Transport.SpeculativeLock
import HttpCloak.Transport.KeyLog
import HttpCloak.LocalProxy.AcceptLoop
import HttpCloak.LocalProxy.Registry
import HttpCloak.LocalProxy.Forward
import HttpCloak.LocalProxy.Tunnel
import HttpCloak.LocalProxy.TunnelStreams
import HttpCloak.LocalProxy.Respond
import HttpCloak.LocalProxy.Route
import HttpCloak.Fingerprint.Coherence
import HttpCloak.Fingerprint.FetchSite
import HttpCloak.Fingerprint.Generate
