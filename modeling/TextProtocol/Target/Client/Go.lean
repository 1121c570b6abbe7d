import TextProtocol.Target.Call.Go
import TextProtocol.Target.Comment

/-!
# Go clients

The file with the client of a protocol and its errors.
-/

namespace TextProtocol.Target.Go

def clientHead (p : Package) : List String :=
  let settings := p.settings.holes (fun b ↦ literal (Value.ofBool? b)) (·.elim "nil" bytesLiteral)
  "" :: indented (settings ++ packageNames p) r#"
|// Code generated by wirecraft. DO NOT EDIT.
|
|package ⟨package⟩
|
|import (
|    "bytes"
|    "context"
|    "errors"
|    "fmt"
|    "io"
|    "net"
|    "strconv"
|    "sync"
|    "time"
|)
|
|const (
|    // DefaultPort is the well-known ⟨name⟩ port.
|    DefaultPort = ⟨port⟩
|    // DefaultTimeout bounds connecting and each exchange.
|    DefaultTimeout = ⟨timeout⟩ * time.Millisecond
|
|    keepAlive      = ⟨keepAlive⟩
|    readUntilClose = ⟨readUntilClose⟩
|    retryAttempts  = ⟨retryAttempts⟩
|    retryDelay     = ⟨retryDelay⟩ * time.Millisecond
|)
|
|var (
|    handshakeSend   []byte = ⟨handshakeSend⟩
|    handshakeExpect []byte = ⟨handshakeExpect⟩
|    goodbye         []byte = ⟨goodbye⟩
|)
  "#

def clientShared (p : Package) : List String :=
  indented (packageNames p) r#"
|
|// Codes carried by ⟨baseError⟩.
|const (
|    CodeConnectionFailed = "CONNECTION_FAILED"
|    CodeTimeout          = "TIMEOUT"
|    CodeHandshakeFailed  = "HANDSHAKE_FAILED"
|    CodeInvalidMessage   = "INVALID_MESSAGE"
|)
|
|// ⟨baseError⟩ is returned by ⟨client⟩ methods. Code classifies the failure
|// and Err holds the underlying cause.
|type ⟨baseError⟩ struct {
|    Code    string
|    Message string
|    Err     error
|}
|
|func (e *⟨baseError⟩) Error() string {
|    if e.Err != nil {
|        return fmt.Sprintf("%s: %s: %v", e.Code, e.Message, e.Err)
|    }
|    return fmt.Sprintf("%s: %s", e.Code, e.Message)
|}
|
|func (e *⟨baseError⟩) Unwrap() error {
|    return e.Err
|}
|
|// connectionPool holds idle connections, at most one per host and port.
|// A connection is removed while a request uses it.
|type connectionPool struct {
|    mu   sync.Mutex
|    idle map[string]net.Conn
|}
|
|var sharedPool = &connectionPool{idle: make(map[string]net.Conn)}
|
|func (p *connectionPool) take(key string) net.Conn {
|    p.mu.Lock()
|    conn, ok := p.idle[key]
|    delete(p.idle, key)
|    p.mu.Unlock()
|    if !ok {
|        return nil
|    }
|    if !alive(conn) {
|        conn.Close()
|        return nil
|    }
|    return conn
|}
|
|func (p *connectionPool) put(key string, conn net.Conn) {
|    p.mu.Lock()
|    defer p.mu.Unlock()
|    if _, taken := p.idle[key]; taken {
|        conn.Close()
|        return
|    }
|    p.idle[key] = conn
|}
|
|// alive reports whether an idle connection is still usable: the peer has
|// not closed it and has sent nothing unsolicited.
|func alive(conn net.Conn) bool {
|    if err := conn.SetReadDeadline(time.Now().Add(time.Millisecond)); err != nil {
|        return false
|    }
|    var one [1]byte
|    _, err := conn.Read(one[:])
|    conn.SetReadDeadline(time.Time{})
|    var netErr net.Error
|    return errors.As(err, &netErr) && netErr.Timeout()
|}
|
|// readUntil collects bytes until complete accepts them or the peer closes.
|func readUntil(conn net.Conn, complete func([]byte) bool, untilClose bool) ([]byte, error) {
|    var buf []byte
|    chunk := make([]byte, 4096)
|    for {
|        n, err := conn.Read(chunk)
|        buf = append(buf, chunk[:n]...)
|        if !untilClose && n > 0 && complete(buf) {
|            return buf, nil
|        }
|        if errors.Is(err, io.EOF) {
|            if len(buf) == 0 {
|                return nil, io.ErrUnexpectedEOF
|            }
|            return buf, nil
|        }
|        if err != nil {
|            return nil, err
|        }
|    }
|}
|
  "#

def completeFunction (p : Package) : List String :=
  if p.responses.isEmpty then indented [] r#"
|// No response types: a reply ends when the server closes the connection.
|func responseComplete([]byte) bool {
|    return false
|}
  "#
  else [r"func responseComplete(buf []byte) bool {"] ++
    p.responses.flatMap (fun m ↦ indented (m.names profile) r#"
|    if _, _, err := ⟨parse⟩(buf, 0); err == nil {
|        return true
|    }
  "#) ++ ["\treturn false", r"}"]

def sendMethod (p : Package) (m : Message) : List String :=
  indented (packageNames p ++ m.names profile) r#"
|
|// ⟨send⟩ validates and sends m, returning the raw response.
|func (c *⟨client⟩) ⟨send⟩(ctx context.Context, m ⟨type⟩) ([]byte, error) {
|    payload, err := ⟨serialize⟩(m)
|    if err != nil {
|        return nil, &⟨baseError⟩{Code: CodeInvalidMessage, Message: "⟨type⟩ failed validation", Err: err}
|    }
|    return c.request(ctx, payload)
|}
  "#

def clientStruct (p : Package) : List String :=
  let doc := p.description?.elim "" (" " ++ commentText ·)
  ["", fill (packageNames p) "// ⟨client⟩ talks to a ⟨name⟩ server." ++ doc] ++
  indented (packageNames p) r#"
|type ⟨client⟩ struct {
|    Host    string
|    Port    int
|    Timeout time.Duration
|    pool    *connectionPool
|}
|
|// New⟨client⟩ returns a client for host. A zero port selects DefaultPort.
|func New⟨client⟩(host string, port int) *⟨client⟩ {
|    if port == 0 {
|        port = DefaultPort
|    }
|    return &⟨client⟩{Host: host, Port: port, Timeout: DefaultTimeout, pool: sharedPool}
|}
|
|func (c *⟨client⟩) key() string {
|    return net.JoinHostPort(c.Host, strconv.Itoa(c.Port))
|}
|
|func (c *⟨client⟩) deadline(ctx context.Context) time.Time {
|    deadline := time.Now().Add(c.Timeout)
|    if d, ok := ctx.Deadline(); ok && d.Before(deadline) {
|        return d
|    }
|    return deadline
|}
|
|func (c *⟨client⟩) wrap(err error, op string) error {
|    code := CodeConnectionFailed
|    var netErr net.Error
|    if errors.Is(err, context.DeadlineExceeded) || (errors.As(err, &netErr) && netErr.Timeout()) {
|        code = CodeTimeout
|    }
|    return &⟨baseError⟩{Code: code, Message: op + " " + c.key(), Err: err}
|}
|
|// Connect opens the pooled connection ahead of the first request, running
|// the handshake if the protocol has one.
|func (c *⟨client⟩) Connect(ctx context.Context) error {
|    conn, err := c.acquire(ctx)
|    if err != nil {
|        return err
|    }
|    c.pool.put(c.key(), conn)
|    return nil
|}
|
|// Close says goodbye if the protocol has one and closes the pooled connection.
|func (c *⟨client⟩) Close() error {
|    conn := c.pool.take(c.key())
|    if conn == nil {
|        return nil
|    }
|    if goodbye != nil {
|        conn.SetWriteDeadline(time.Now().Add(c.Timeout))
|        conn.Write(goodbye)
|    }
|    return conn.Close()
|}
  "# ++
  p.requests.flatMap (sendMethod p) ++ indented (packageNames p) r#"
|
|func (c *⟨client⟩) request(ctx context.Context, payload []byte) ([]byte, error) {
|    var lastErr error
|    for attempt := 0; attempt <= retryAttempts; attempt++ {
|        if attempt > 0 {
|            select {
|            case <-ctx.Done():
|                return nil, c.wrap(ctx.Err(), "retry")
|            case <-time.After(retryDelay):
|            }
|        }
|        response, err := c.exchange(ctx, payload)
|        if err == nil {
|            return response, nil
|        }
|        lastErr = err
|        var pe *⟨baseError⟩
|        if !errors.As(err, &pe) || (pe.Code != CodeConnectionFailed && pe.Code != CodeTimeout) {
|            return nil, err
|        }
|    }
|    return nil, lastErr
|}
|
|func (c *⟨client⟩) acquire(ctx context.Context) (net.Conn, error) {
|    if conn := c.pool.take(c.key()); conn != nil {
|        return conn, nil
|    }
|    dialer := net.Dialer{Deadline: c.deadline(ctx)}
|    conn, err := dialer.DialContext(ctx, "tcp", c.key())
|    if err != nil {
|        return nil, c.wrap(err, "connect to")
|    }
|    if err := c.handshake(ctx, conn); err != nil {
|        conn.Close()
|        return nil, err
|    }
|    return conn, nil
|}
|
|func (c *⟨client⟩) handshake(ctx context.Context, conn net.Conn) error {
|    if handshakeSend == nil && handshakeExpect == nil {
|        return nil
|    }
|    conn.SetDeadline(c.deadline(ctx))
|    defer conn.SetDeadline(time.Time{})
|    if handshakeSend != nil {
|        if _, err := conn.Write(handshakeSend); err != nil {
|            return &⟨baseError⟩{Code: CodeHandshakeFailed, Message: "send handshake", Err: err}
|        }
|    }
|    if handshakeExpect == nil {
|        return nil
|    }
|    reply, err := readUntil(conn, func(buf []byte) bool { return bytes.Contains(buf, handshakeExpect) }, false)
|    if err != nil {
|        return &⟨baseError⟩{Code: CodeHandshakeFailed, Message: "read handshake reply", Err: err}
|    }
|    if !bytes.Contains(reply, handshakeExpect) {
|        return &⟨baseError⟩{Code: CodeHandshakeFailed, Message: fmt.Sprintf("unexpected handshake reply %q", reply)}
|    }
|    return nil
|}
|
|func (c *⟨client⟩) exchange(ctx context.Context, payload []byte) ([]byte, error) {
|    conn, err := c.acquire(ctx)
|    if err != nil {
|        return nil, err
|    }
|    // Cancelling ctx closes the connection so blocked I/O returns
|    stop := context.AfterFunc(ctx, func() { conn.Close() })
|    defer stop()
|
|    if err := conn.SetDeadline(c.deadline(ctx)); err != nil {
|        conn.Close()
|        return nil, c.wrap(err, "exchange with")
|    }
|    if _, err := conn.Write(payload); err != nil {
|        conn.Close()
|        return nil, c.wrap(err, "write to")
|    }
|    response, err := readUntil(conn, responseComplete, readUntilClose)
|    if err != nil {
|        conn.Close()
|        if ctx.Err() != nil {
|            err = ctx.Err()
|        }
|        return nil, c.wrap(err, "read from")
|    }
|    if stop() && keepAlive && !readUntilClose {
|        conn.SetDeadline(time.Time{})
|        c.pool.put(c.key(), conn)
|    } else {
|        conn.Close()
|    }
|    return response, nil
|}
  "#

def clientFile (p : Package) : String :=
  fileText (clientHead p ++ clientShared p ++ completeFunction p ++ clientStruct p)

end TextProtocol.Target.Go
