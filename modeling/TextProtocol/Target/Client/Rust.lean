import TextProtocol.Target.Call.Rust
import TextProtocol.Target.Comment

/-!
# Rust clients

The module with the client of a protocol and its errors.
-/

namespace TextProtocol.Target.Rust

def clientHead (p : Package) : List String :=
  let truth (b : Option Bool) : String := if b == some true then "true" else "false"
  let phrase (text : Option String) : String :=
    text.elim "None" fun t ↦ s!"Some({bytesLiteral t}.as_slice())"
  "" :: filled (p.settings.holes truth phrase ++ packageNames p) r#"
|//! Async client for the ⟨name⟩ protocol.
|//!
|//! Generated by wirecraft. Do not edit.
|#![allow(dead_code, unused_imports, unused_comparisons)]
|
|use std::collections::HashMap;
|use std::fmt;
|use std::io;
|use std::sync::{Arc, Mutex, OnceLock};
|use std::time::Duration;
|
|use tokio::io::{AsyncReadExt, AsyncWriteExt};
|use tokio::net::TcpStream;
|use tokio::time::{sleep, timeout};
|
|use super::⟨parser⟩::*;
|use super::⟨serializer⟩::*;
|
|/// The well-known ⟨name⟩ port.
|pub const DEFAULT_PORT: u16 = ⟨port⟩;
|/// Bounds connecting and each exchange.
|pub const DEFAULT_TIMEOUT: Duration = Duration::from_millis(⟨timeout⟩);
|
|const KEEP_ALIVE: bool = ⟨keepAlive⟩;
|const READ_UNTIL_CLOSE: bool = ⟨readUntilClose⟩;
|const RETRY_ATTEMPTS: u32 = ⟨retryAttempts⟩;
|const RETRY_DELAY: Duration = Duration::from_millis(⟨retryDelay⟩);
|const HANDSHAKE_SEND: Option<&[u8]> = ⟨handshakeSend⟩;
|const HANDSHAKE_EXPECT: Option<&[u8]> = ⟨handshakeExpect⟩;
|const GOODBYE: Option<&[u8]> = ⟨goodbye⟩;
  "#

def clientShared (p : Package) : List String :=
  filled (packageNames p) r#"
|
|/// Failures reported by [`⟨client⟩`].
|#[derive(Debug)]
|pub enum ⟨baseError⟩ {
|    Connection(io::Error),
|    Timeout(String),
|    Handshake(String),
|    Validation(SerializeError),
|}
|
|impl ⟨baseError⟩ {
|    pub fn code(&self) -> &'static str {
|        match self {
|            ⟨baseError⟩::Connection(_) => "CONNECTION_FAILED",
|            ⟨baseError⟩::Timeout(_) => "TIMEOUT",
|            ⟨baseError⟩::Handshake(_) => "HANDSHAKE_FAILED",
|            ⟨baseError⟩::Validation(_) => "INVALID_MESSAGE",
|        }
|    }
|}
|
|impl fmt::Display for ⟨baseError⟩ {
|    fn fmt(&self, f: &mut fmt::Formatter<'_>) -> fmt::Result {
|        match self {
|            ⟨baseError⟩::Connection(err) => write!(f, "{}: {}", self.code(), err),
|            ⟨baseError⟩::Timeout(detail) | ⟨baseError⟩::Handshake(detail) => write!(f, "{}: {}", self.code(), detail),
|            ⟨baseError⟩::Validation(err) => write!(f, "{}: {}", self.code(), err),
|        }
|    }
|}
|
|impl std::error::Error for ⟨baseError⟩ {
|    fn source(&self) -> Option<&(dyn std::error::Error + 'static)> {
|        match self {
|            ⟨baseError⟩::Connection(err) => Some(err),
|            ⟨baseError⟩::Validation(err) => Some(err),
|            _ => None,
|        }
|    }
|}
|
|impl From<SerializeError> for ⟨baseError⟩ {
|    fn from(err: SerializeError) -> Self {
|        ⟨baseError⟩::Validation(err)
|    }
|}
|
|/// Idle streams, at most one per host and port. A stream is removed while
|/// a request uses it.
|type Pool = Arc<Mutex<HashMap<String, TcpStream>>>;
|
|fn shared_pool() -> Pool {
|    static POOL: OnceLock<Pool> = OnceLock::new();
|    POOL.get_or_init(Pool::default).clone()
|}
|
|/// An idle stream is usable while the peer has neither closed it nor sent
|/// anything unsolicited.
|fn alive(stream: &TcpStream) -> bool {
|    let mut one = [0u8; 1];
|    matches!(stream.try_read(&mut one), Err(ref err) if err.kind() == io::ErrorKind::WouldBlock)
|}
|
|/// Collect bytes until `complete` accepts them or the peer closes.
|async fn read_until(
|    stream: &mut TcpStream,
|    complete: impl Fn(&[u8]) -> bool,
|    until_close: bool,
|) -> io::Result<Vec<u8>> {
|    let mut buf = Vec::new();
|    let mut chunk = [0u8; 4096];
|    loop {
|        let n = stream.read(&mut chunk).await?;
|        if n == 0 {
|            if buf.is_empty() {
|                return Err(io::Error::new(io::ErrorKind::UnexpectedEof, "connection closed without a response"));
|            }
|            return Ok(buf);
|        }
|        buf.extend_from_slice(&chunk[..n]);
|        if !until_close && complete(&buf) {
|            return Ok(buf);
|        }
|    }
|}
|
  "#

def completeFunction (p : Package) : List String :=
  if p.responses.isEmpty then block r#"
|// No response types: a reply ends when the server closes the connection.
|fn response_complete(_buf: &[u8]) -> bool {
|    false
|}
  "#
  else [r"fn response_complete(buf: &[u8]) -> bool {"] ++
    p.responses.flatMap (fun m ↦ filled (m.names profile) r#"
|    if ⟨parse⟩(buf, 0).is_ok() {
|        return true;
|    }
  "#) ++ ["    false", r"}"]

def sendMethod (p : Package) (m : Message) : List String :=
  filled (packageNames p ++ m.names profile) r#"
|
|    /// Validate and send a `⟨type⟩`, returning the raw response.
|    pub async fn ⟨send⟩(
|        &self,
|        message: &⟨type⟩,
|        limit: Option<Duration>,
|    ) -> Result<Vec<u8>, ⟨baseError⟩> {
|        let payload = ⟨serialize⟩(message)?;
|        self.request(&payload, limit.unwrap_or(self.timeout)).await
|    }
  "#

def clientStruct (p : Package) : List String :=
  let doc := p.description?.elim "" (" " ++ commentText ·)
  ["", s!"/// Talks to a {p.name} server.{doc}"] ++ filled (packageNames p) r#"
|#[derive(Debug, Clone)]
|pub struct ⟨client⟩ {
|    pub host: String,
|    pub port: u16,
|    pub timeout: Duration,
|    pool: Pool,
|}
|
|impl ⟨client⟩ {
|    pub fn new(host: impl Into<String>) -> Self {
|        ⟨client⟩ {
|            host: host.into(),
|            port: DEFAULT_PORT,
|            timeout: DEFAULT_TIMEOUT,
|            pool: shared_pool(),
|        }
|    }
|
|    pub fn with_port(mut self, port: u16) -> Self {
|        self.port = port;
|        self
|    }
|
|    pub fn with_timeout(mut self, limit: Duration) -> Self {
|        self.timeout = limit;
|        self
|    }
|
|    fn key(&self) -> String {
|        format!("{}:{}", self.host, self.port)
|    }
|
|    fn take(&self) -> Option<TcpStream> {
|        let stream = self.pool.lock().expect("pool lock").remove(&self.key())?;
|        alive(&stream).then_some(stream)
|    }
|
|    /// Return a stream to the pool. If another request already returned
|    /// one for this host, this stream is dropped and closed.
|    fn put(&self, stream: TcpStream) {
|        self.pool.lock().expect("pool lock").entry(self.key()).or_insert(stream);
|    }
|
|    /// Open the pooled connection ahead of the first request, running the
|    /// handshake if the protocol has one.
|    pub async fn connect(&self) -> Result<(), ⟨baseError⟩> {
|        let stream = self.acquire(self.timeout).await?;
|        self.put(stream);
|        Ok(())
|    }
|
|    /// Say goodbye if the protocol has one and close the pooled connection.
|    pub async fn disconnect(&self) {
|        if let Some(mut stream) = self.take() {
|            if let Some(goodbye) = GOODBYE {
|                let _ = timeout(self.timeout, stream.write_all(goodbye)).await;
|            }
|            let _ = stream.shutdown().await;
|        }
|    }
  "# ++
  p.requests.flatMap (sendMethod p) ++ filled (packageNames p) r#"
|
|    async fn request(&self, payload: &[u8], limit: Duration) -> Result<Vec<u8>, ⟨baseError⟩> {
|        let mut attempt = 0;
|        loop {
|            match self.exchange(payload, limit).await {
|                Err(⟨baseError⟩::Connection(_) | ⟨baseError⟩::Timeout(_)) if attempt < RETRY_ATTEMPTS => {
|                    attempt += 1;
|                    sleep(RETRY_DELAY).await;
|                }
|                result => return result,
|            }
|        }
|    }
|
|    async fn acquire(&self, limit: Duration) -> Result<TcpStream, ⟨baseError⟩> {
|        if let Some(stream) = self.take() {
|            return Ok(stream);
|        }
|        let mut stream = match timeout(limit, TcpStream::connect(self.key())).await {
|            Ok(Ok(stream)) => stream,
|            Ok(Err(err)) => return Err(⟨baseError⟩::Connection(err)),
|            Err(_) => return Err(⟨baseError⟩::Timeout(format!("connecting to {}", self.key()))),
|        };
|        self.handshake(&mut stream, limit).await?;
|        Ok(stream)
|    }
|
|    async fn handshake(&self, stream: &mut TcpStream, limit: Duration) -> Result<(), ⟨baseError⟩> {
|        if let Some(send) = HANDSHAKE_SEND {
|            stream
|                .write_all(send)
|                .await
|                .map_err(|err| ⟨baseError⟩::Handshake(format!("send handshake: {}", err)))?;
|        }
|        if let Some(expect) = HANDSHAKE_EXPECT {
|            let reply = timeout(limit, read_until(stream, |buf| find(buf, expect, 0).is_some(), false))
|                .await
|                .map_err(|_| ⟨baseError⟩::Timeout("waiting for the handshake reply".to_string()))?
|                .map_err(|err| ⟨baseError⟩::Handshake(format!("read handshake reply: {}", err)))?;
|            if find(&reply, expect, 0).is_none() {
|                return Err(⟨baseError⟩::Handshake(format!(
|                    "unexpected handshake reply {:?}",
|                    String::from_utf8_lossy(&reply)
|                )));
|            }
|        }
|        Ok(())
|    }
|
|    async fn exchange(&self, payload: &[u8], limit: Duration) -> Result<Vec<u8>, ⟨baseError⟩> {
|        let mut stream = self.acquire(limit).await?;
|        let response = timeout(limit, async {
|            stream.write_all(payload).await?;
|            read_until(&mut stream, response_complete, READ_UNTIL_CLOSE).await
|        })
|        .await
|        .map_err(|_| ⟨baseError⟩::Timeout(format!("no response from {} within {:?}", self.key(), limit)))?
|        .map_err(⟨baseError⟩::Connection)?;
|        if KEEP_ALIVE && !READ_UNTIL_CLOSE {
|            self.put(stream);
|        }
|        Ok(response)
|    }
|}
  "#

def clientModule (p : Package) : String :=
  fileText (clientHead p ++ clientShared p ++ completeFunction p ++ clientStruct p)

end TextProtocol.Target.Rust
