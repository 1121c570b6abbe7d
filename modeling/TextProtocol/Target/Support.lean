import TextProtocol.Target.Package
import TextProtocol.Target.Text

/-!
# Code that generated Python shares

The files of the package that generated Python imports: checks, results, errors, connections and the
class that clients extend.
-/

namespace TextProtocol.Target.Support

def packageModule : List String :=
  block r#"
|"""Runtime support imported by generated Python protocol code.
|
|This package has no third-party dependencies so that ``wirecraft runtime``
|can copy it next to generated code.
|"""
|
|from .checks import (
|    PREVIEW_LENGTH,
|    Invalid,
|    check_boolean,
|    check_bytes,
|    check_enum,
|    check_number,
|    check_string,
|    coerce_boolean,
|    coerce_bytes,
|    coerce_enum,
|    coerce_number,
|    coerce_string,
|    decode_text,
|    encode_value,
|    fail,
|    find_stop,
|    parse_boolean,
|    parse_integer,
|    preview,
|)
|from .client import ProtocolClient
|from .errors import (
|    ConnectionFailedError,
|    HandshakeError,
|    InvalidMessageError,
|    ProtocolError,
|    RequestTimeoutError,
|)
|from .pool import Connection, ConnectionPool, open_connection
|from .results import (
|    FieldError,
|    ParseFailure,
|    ParseResult,
|    ParseSuccess,
|    SerializeFailure,
|    SerializeResult,
|    SerializeSuccess,
|)
|
|__all__ = [
|    "PREVIEW_LENGTH",
|    "Connection",
|    "ConnectionFailedError",
|    "ConnectionPool",
|    "FieldError",
|    "HandshakeError",
|    "Invalid",
|    "InvalidMessageError",
|    "ParseFailure",
|    "ParseResult",
|    "ParseSuccess",
|    "ProtocolClient",
|    "ProtocolError",
|    "RequestTimeoutError",
|    "SerializeFailure",
|    "SerializeResult",
|    "SerializeSuccess",
|    "check_boolean",
|    "check_bytes",
|    "check_enum",
|    "check_number",
|    "check_string",
|    "coerce_boolean",
|    "coerce_bytes",
|    "coerce_enum",
|    "coerce_number",
|    "coerce_string",
|    "decode_text",
|    "encode_value",
|    "fail",
|    "find_stop",
|    "open_connection",
|    "parse_boolean",
|    "parse_integer",
|    "preview",
|]
  "#

def checksModule : List String :=
  block r#"
|"""Value checks and coercions shared by generated parsers and serializers.
|
|``check_*`` functions validate a message value and return every violation.
|``coerce_*`` functions turn raw field bytes into a typed value, or an
|Invalid describing what was expected instead.
|"""
|
|import re
|from dataclasses import dataclass
|from typing import Any
|
|from .results import FieldError, ParseFailure
|
|PREVIEW_LENGTH = 50
|
|_INTEGER = re.compile(r"-?[0-9]+")
|
|
|@dataclass(frozen=True)
|class Invalid:
|    expected: str
|
|
|def preview(data: bytes, offset: int) -> str:
|    """Decode up to PREVIEW_LENGTH bytes from offset for error reports."""
|    chunk = data[offset : offset + PREVIEW_LENGTH]
|    text = chunk.decode("utf-8", errors="replace")
|    if len(data) - offset > PREVIEW_LENGTH:
|        text += "..."
|    return text
|
|
|def fail(state: str, data: bytes, offset: int, expected: str) -> ParseFailure:
|    actual = preview(data, offset)
|    return ParseFailure(
|        state=state,
|        offset=offset,
|        expected=expected,
|        actual=actual,
|        message=f"{state}: expected {expected!r} at offset {offset}, found {actual!r}",
|    )
|
|
|def find_stop(data: bytes, start: int, stops: tuple[bytes, ...]) -> int:
|    """Return the index of the earliest stop at or after start, or -1."""
|    best = -1
|    for stop in stops:
|        index = data.find(stop, start)
|        if index != -1 and (best == -1 or index < best):
|            best = index
|    return best
|
|
|def decode_text(raw: bytes) -> str | None:
|    try:
|        return raw.decode("utf-8")
|    except UnicodeDecodeError:
|        return None
|
|
|def parse_integer(text: str) -> int | None:
|    if not _INTEGER.fullmatch(text):
|        return None
|    return int(text)
|
|
|def parse_boolean(text: str) -> bool | None:
|    if text == "true":
|        return True
|    if text == "false":
|        return False
|    return None
|
|
|def encode_value(value: Any) -> bytes:
|    """Render a field value to its wire form."""
|    if isinstance(value, bool):
|        return b"true" if value else b"false"
|    if isinstance(value, int):
|        return str(value).encode("ascii")
|    if isinstance(value, bytes | bytearray):
|        return bytes(value)
|    return str(value).encode("utf-8")
|
|
|def _contains_stop(raw: bytes, stops: tuple[bytes, ...]) -> bytes | None:
|    for stop in stops:
|        if (raw + stop).find(stop) < len(raw):
|            return stop
|    return None
|
|
|def _presence(name: str, value: Any, required: bool) -> list[FieldError] | None:
|    if value is not None:
|        return None
|    if required:
|        return [FieldError(name, "required", f"{name} is required", "a value")]
|    return []
|
|
|def _empty_errors(name: str, value: Any, required: bool) -> list[FieldError]:
|    """An optional value that renders to nothing would parse back as absent."""
|    if required or encode_value(value):
|        return []
|    return [FieldError(name, "empty", f"{name} must be omitted rather than empty", "a non-empty value")]
|
|
|def _stop_errors(name: str, value: Any, stops: tuple[bytes, ...]) -> list[FieldError]:
|    stop = _contains_stop(encode_value(value), stops)
|    if stop is None:
|        return []
|    return [
|        FieldError(
|            name,
|            "contains_stop",
|            f"{name} must not contain the separator {stop.decode('utf-8', 'replace')!r}",
|            f"no {stop.decode('utf-8', 'replace')!r}",
|        )
|    ]
|
|
|def check_string(
|    name: str,
|    value: Any,
|    *,
|    required: bool = True,
|    min_length: int | None = None,
|    max_length: int | None = None,
|    pattern: str | None = None,
|    stops: tuple[bytes, ...] = (),
|) -> list[FieldError]:
|    missing = _presence(name, value, required)
|    if missing is not None:
|        return missing
|    if not isinstance(value, str):
|        return [FieldError(name, "type", f"{name} must be a string", "a string")]
|
|    errors: list[FieldError] = _empty_errors(name, value, required)
|    if min_length is not None and len(value) < min_length:
|        errors.append(
|            FieldError(
|                name,
|                "min_length",
|                f"{name} must be at least {min_length} characters",
|                f"at least {min_length} characters",
|            )
|        )
|    if max_length is not None and len(value) > max_length:
|        errors.append(
|            FieldError(
|                name,
|                "max_length",
|                f"{name} must be at most {max_length} characters",
|                f"at most {max_length} characters",
|            )
|        )
|    if pattern is not None and not re.search(pattern, value):
|        errors.append(
|            FieldError(name, "pattern", f"{name} must match {pattern!r}", f"text matching {pattern!r}")
|        )
|    errors.extend(_stop_errors(name, value, stops))
|    return errors
|
|
|def check_number(
|    name: str,
|    value: Any,
|    *,
|    required: bool = True,
|    minimum: int | None = None,
|    maximum: int | None = None,
|    stops: tuple[bytes, ...] = (),
|) -> list[FieldError]:
|    missing = _presence(name, value, required)
|    if missing is not None:
|        return missing
|    if not isinstance(value, int) or isinstance(value, bool):
|        return [FieldError(name, "type", f"{name} must be an integer", "an integer")]
|
|    errors: list[FieldError] = []
|    if minimum is not None and value < minimum:
|        errors.append(FieldError(name, "minimum", f"{name} must be >= {minimum}", f"a number >= {minimum}"))
|    if maximum is not None and value > maximum:
|        errors.append(FieldError(name, "maximum", f"{name} must be <= {maximum}", f"a number <= {maximum}"))
|    errors.extend(_stop_errors(name, value, stops))
|    return errors
|
|
|def check_boolean(
|    name: str, value: Any, *, required: bool = True, stops: tuple[bytes, ...] = ()
|) -> list[FieldError]:
|    missing = _presence(name, value, required)
|    if missing is not None:
|        return missing
|    if not isinstance(value, bool):
|        return [FieldError(name, "type", f"{name} must be a boolean", "true or false")]
|    return _stop_errors(name, value, stops)
|
|
|def check_enum(
|    name: str,
|    value: Any,
|    values: tuple[str, ...],
|    *,
|    required: bool = True,
|    stops: tuple[bytes, ...] = (),
|) -> list[FieldError]:
|    missing = _presence(name, value, required)
|    if missing is not None:
|        return missing
|    if value not in values:
|        allowed = ", ".join(values)
|        return [FieldError(name, "enum", f"{name} must be one of: {allowed}", f"one of: {allowed}")]
|    return _empty_errors(name, value, required) + _stop_errors(name, value, stops)
|
|
|def check_bytes(
|    name: str,
|    value: Any,
|    *,
|    required: bool = True,
|    length: int | None = None,
|    stops: tuple[bytes, ...] = (),
|) -> list[FieldError]:
|    missing = _presence(name, value, required)
|    if missing is not None:
|        return missing
|    if not isinstance(value, bytes | bytearray):
|        return [FieldError(name, "type", f"{name} must be bytes", "bytes")]
|    if length is not None and len(value) != length:
|        return [FieldError(name, "length", f"{name} must be exactly {length} bytes", f"{length} bytes")]
|    return _empty_errors(name, value, required) + _stop_errors(name, value, stops)
|
|
|def _first(errors: list[FieldError]) -> Invalid | None:
|    if errors:
|        return Invalid(errors[0].expected or errors[0].constraint)
|    return None
|
|
|def coerce_string(
|    raw: bytes,
|    *,
|    min_length: int | None = None,
|    max_length: int | None = None,
|    pattern: str | None = None,
|) -> str | Invalid:
|    text = decode_text(raw)
|    if text is None:
|        return Invalid("UTF-8 text")
|    problem = _first(
|        check_string("", text, min_length=min_length, max_length=max_length, pattern=pattern)
|    )
|    return problem or text
|
|
|def coerce_number(raw: bytes, *, minimum: int | None = None, maximum: int | None = None) -> int | Invalid:
|    text = decode_text(raw)
|    number = parse_integer(text) if text is not None else None
|    if number is None:
|        return Invalid("an integer")
|    problem = _first(check_number("", number, minimum=minimum, maximum=maximum))
|    return problem or number
|
|
|def coerce_boolean(raw: bytes) -> bool | Invalid:
|    text = decode_text(raw)
|    flag = parse_boolean(text) if text is not None else None
|    if flag is None:
|        return Invalid("true or false")
|    return flag
|
|
|def coerce_enum(raw: bytes, values: tuple[str, ...]) -> str | Invalid:
|    text = decode_text(raw)
|    if text is None or text not in values:
|        return Invalid("one of: " + ", ".join(values))
|    return text
|
|
|def coerce_bytes(raw: bytes, *, length: int | None = None) -> bytes | Invalid:
|    if length is not None and len(raw) != length:
|        return Invalid(f"{length} bytes")
|    return bytes(raw)
  "#

def clientBase : List String :=
  block r#"
|"""Base class for generated asyncio protocol clients."""
|
|import asyncio
|import contextlib
|from typing import ClassVar
|
|from .errors import ConnectionFailedError, HandshakeError, RequestTimeoutError
|from .pool import Connection, ConnectionPool
|
|READ_CHUNK = 4096
|
|
|class ProtocolClient:
|    """Request/response client over a pooled TCP connection.
|
|    Generated subclasses fill in the class attributes from the protocol's
|    connection and error-handling settings and override
|    ``_response_complete`` to recognise the end of a response.
|    """
|
|    default_port: ClassVar[int] = 0
|    default_timeout: ClassVar[float | None] = None
|    keep_alive: ClassVar[bool] = False
|    read_until_close: ClassVar[bool] = False
|    retry_attempts: ClassVar[int] = 0
|    retry_delay: ClassVar[float] = 0.0
|    handshake_send: ClassVar[bytes | None] = None
|    handshake_expect: ClassVar[bytes | None] = None
|    goodbye: ClassVar[bytes | None] = None
|
|    connection_error: ClassVar[type[ConnectionFailedError]] = ConnectionFailedError
|    timeout_error: ClassVar[type[RequestTimeoutError]] = RequestTimeoutError
|    handshake_error: ClassVar[type[HandshakeError]] = HandshakeError
|
|    def __init__(
|        self,
|        host: str,
|        port: int | None = None,
|        *,
|        timeout: float | None = None,
|        pool: ConnectionPool | None = None,
|    ) -> None:
|        self.host = host
|        self.port = port if port is not None else self.default_port
|        self.timeout = timeout if timeout is not None else self.default_timeout
|        self._pool = pool if pool is not None else ConnectionPool()
|
|    async def __aenter__(self):
|        await self.connect()
|        return self
|
|    async def __aexit__(self, *exc_info) -> None:
|        await self.disconnect()
|
|    async def connect(self) -> None:
|        """Open (or reuse) the pooled connection and run the handshake."""
|        await self._connection(self.timeout)
|
|    async def disconnect(self) -> None:
|        connection = self._pool.get(self.host, self.port)
|        if connection is None:
|            return
|        if self.goodbye and isinstance(connection, Connection):
|            with contextlib.suppress(OSError):
|                connection.writer.write(self.goodbye)
|                await connection.writer.drain()
|        self._pool.discard(self.host, self.port, connection)
|
|    async def _connection(self, timeout: float | None) -> Connection:
|        connection = None
|        try:
|            async with asyncio.timeout(timeout):
|                connection = await self._pool.acquire(self.host, self.port)
|                if isinstance(connection, Connection) and not connection.ready:
|                    async with connection.lock:
|                        if not connection.ready:
|                            await self._handshake(connection)
|                            connection.ready = True
|        except TimeoutError as exc:
|            self._release_unready(connection)
|            raise self.timeout_error(
|                f"Timed out connecting to {self.host}:{self.port} after {timeout}s"
|            ) from exc
|        except OSError as exc:
|            self._release_unready(connection)
|            raise self.connection_error(f"Cannot connect to {self.host}:{self.port}: {exc}") from exc
|        except asyncio.CancelledError:
|            self._release_unready(connection)
|            raise
|        return connection
|
|    def _release_unready(self, connection: Connection | None) -> None:
|        """Close a connection whose handshake did not finish, so it is never reused."""
|        if isinstance(connection, Connection) and not connection.ready:
|            self._pool.discard(self.host, self.port, connection)
|
|    async def _handshake(self, connection: Connection) -> None:
|        if self.handshake_send is None:
|            return
|        connection.writer.write(self.handshake_send)
|        await connection.writer.drain()
|        if self.handshake_expect is None:
|            return
|
|        received = bytearray()
|        while self.handshake_expect not in received:
|            chunk = await connection.reader.read(READ_CHUNK)
|            if not chunk:
|                self._pool.discard(self.host, self.port, connection)
|                raise self.handshake_error(
|                    f"Connection closed before handshake reply {self.handshake_expect!r}"
|                )
|            received += chunk
|
|    async def request(self, payload: bytes, *, timeout: float | None = None) -> bytes:
|        """Send a payload and return the raw response bytes.
|
|        Connection failures and timeouts are retried ``retry_attempts`` times.
|        """
|        limit = timeout if timeout is not None else self.timeout
|        attempt = 0
|        while True:
|            try:
|                return await self._exchange(payload, limit)
|            except (ConnectionFailedError, RequestTimeoutError):
|                if attempt >= self.retry_attempts:
|                    raise
|                attempt += 1
|                await asyncio.sleep(self.retry_delay)
|
|    async def _exchange(self, payload: bytes, timeout: float | None) -> bytes:
|        connection = await self._connection(timeout)
|        try:
|            async with asyncio.timeout(timeout):
|                async with connection.lock:
|                    connection.writer.write(payload)
|                    await connection.writer.drain()
|                    response = await self._read_response(connection)
|        except TimeoutError as exc:
|            self._pool.discard(self.host, self.port, connection)
|            raise self.timeout_error(f"No response from {self.host}:{self.port} within {timeout}s") from exc
|        except OSError as exc:
|            self._pool.discard(self.host, self.port, connection)
|            raise self.connection_error(f"Connection to {self.host}:{self.port} failed: {exc}") from exc
|        except ConnectionFailedError:
|            self._pool.discard(self.host, self.port, connection)
|            raise
|        except asyncio.CancelledError:
|            self._pool.discard(self.host, self.port, connection)
|            raise
|
|        if not self.keep_alive or self.read_until_close:
|            self._pool.discard(self.host, self.port, connection)
|        return response
|
|    async def _read_response(self, connection: Connection) -> bytes:
|        buffer = bytearray()
|        while True:
|            chunk = await connection.reader.read(READ_CHUNK)
|            if not chunk:
|                if buffer:
|                    return bytes(buffer)
|                raise self.connection_error(
|                    f"{self.host}:{self.port} closed the connection without responding"
|                )
|            buffer += chunk
|            if not self.read_until_close and self._response_complete(bytes(buffer)):
|                return bytes(buffer)
|
|    def _response_complete(self, buffer: bytes) -> bool:
|        """Return True once buffer holds a whole response."""
|        return False
  "#

def errorsModule : List String :=
  block r#"
|"""Errors raised by generated clients."""
|
|from typing import ClassVar
|
|from .results import FieldError
|
|
|class ProtocolError(RuntimeError):
|    """Base class for protocol client failures; ``code`` is machine readable."""
|
|    code: ClassVar[str] = "PROTOCOL_ERROR"
|
|
|class ConnectionFailedError(ProtocolError):
|    code = "CONNECTION_FAILED"
|
|
|class RequestTimeoutError(ProtocolError):
|    code = "TIMEOUT"
|
|
|class HandshakeError(ProtocolError):
|    code = "HANDSHAKE_FAILED"
|
|
|class InvalidMessageError(ProtocolError):
|    """Raised when a message fails validation before it is sent."""
|
|    code = "INVALID_MESSAGE"
|
|    def __init__(self, errors: tuple[FieldError, ...] | list[FieldError]):
|        self.errors = tuple(errors)
|        super().__init__("; ".join(str(e) for e in self.errors))
  "#

def poolModule : List String :=
  block r#"
|"""Connection pool keyed by host:port."""
|
|import asyncio
|from collections.abc import Awaitable, Callable
|from typing import Protocol
|
|
|class PooledConnection(Protocol):
|    @property
|    def closed(self) -> bool: ...
|
|    def close(self) -> None: ...
|
|
|class Connection:
|    """A TCP stream pair plus a lock that serializes request/response exchanges."""
|
|    def __init__(self, reader: asyncio.StreamReader, writer: asyncio.StreamWriter) -> None:
|        self.reader = reader
|        self.writer = writer
|        self.lock = asyncio.Lock()
|        self.ready = False
|
|    @property
|    def closed(self) -> bool:
|        return self.writer.is_closing() or self.reader.at_eof()
|
|    def close(self) -> None:
|        self.writer.close()
|
|
|async def open_connection(host: str, port: int) -> Connection:
|    reader, writer = await asyncio.open_connection(host, port)
|    return Connection(reader, writer)
|
|
|class ConnectionPool:
|    """Holds at most one live connection per host:port.
|
|    A connection the peer has closed is treated as absent. When concurrent
|    callers race to populate the same key, the first stored connection wins
|    and the others are closed.
|    """
|
|    def __init__(
|        self, connect: Callable[[str, int], Awaitable[PooledConnection]] = open_connection
|    ) -> None:
|        self._connect = connect
|        self._connections: dict[str, PooledConnection] = {}
|
|    @staticmethod
|    def key(host: str, port: int) -> str:
|        return f"{host}:{port}"
|
|    def __len__(self) -> int:
|        return len(self._connections)
|
|    def __contains__(self, key: object) -> bool:
|        return key in self._connections
|
|    def get(self, host: str, port: int) -> PooledConnection | None:
|        """Return the live pooled connection for host:port without connecting."""
|        return self._live(self.key(host, port))
|
|    def _live(self, key: str) -> PooledConnection | None:
|        existing = self._connections.get(key)
|        if existing is None:
|            return None
|        if existing.closed:
|            del self._connections[key]
|            existing.close()
|            return None
|        return existing
|
|    async def acquire(self, host: str, port: int) -> PooledConnection:
|        key = self.key(host, port)
|        existing = self._live(key)
|        if existing is not None:
|            return existing
|
|        connection = await self._connect(host, port)
|
|        winner = self._live(key)
|        if winner is not None:
|            connection.close()
|            return winner
|        self._connections[key] = connection
|        return connection
|
|    def discard(self, host: str, port: int, connection: PooledConnection | None = None) -> None:
|        """Close a connection and forget it, if it is still the pooled one."""
|        key = self.key(host, port)
|        current = self._connections.get(key)
|        if connection is None or current is connection:
|            self._connections.pop(key, None)
|        if connection is not None:
|            connection.close()
|        elif current is not None:
|            current.close()
|
|    def close_all(self) -> None:
|        connections = list(self._connections.values())
|        self._connections.clear()
|        for connection in connections:
|            connection.close()
  "#

def resultsModule : List String :=
  block r#"
|"""Result types returned by generated parsers and serializers."""
|
|from dataclasses import dataclass
|from typing import Generic, TypeVar, Union
|
|T = TypeVar("T")
|
|
|@dataclass(frozen=True)
|class FieldError:
|    """One violated constraint on one field."""
|
|    field: str
|    constraint: str
|    message: str
|    expected: str | None = None
|
|    def __str__(self) -> str:
|        return self.message
|
|
|@dataclass(frozen=True)
|class ParseSuccess(Generic[T]):
|    message: T
|    bytes_consumed: int
|
|    @property
|    def ok(self) -> bool:
|        return True
|
|
|@dataclass(frozen=True)
|class ParseFailure:
|    """A failed parse. Nothing is consumed, whatever state failed."""
|
|    state: str
|    offset: int
|    expected: str
|    actual: str
|    message: str
|    bytes_consumed: int = 0
|
|    @property
|    def ok(self) -> bool:
|        return False
|
|
|@dataclass(frozen=True)
|class SerializeSuccess:
|    data: bytes
|
|    @property
|    def ok(self) -> bool:
|        return True
|
|
|@dataclass(frozen=True)
|class SerializeFailure:
|    """Every violation found while validating the message."""
|
|    errors: tuple[FieldError, ...]
|
|    @property
|    def ok(self) -> bool:
|        return False
|
|    @property
|    def message(self) -> str:
|        return "; ".join(str(e) for e in self.errors)
|
|
|ParseResult = Union[ParseSuccess[T], ParseFailure]
|SerializeResult = Union[SerializeSuccess, SerializeFailure]
  "#

end TextProtocol.Target.Support

namespace TextProtocol.Target

def supportFiles : List SourceFile :=
  [⟨"__init__.py", fileText Support.packageModule⟩,
    ⟨"checks.py", fileText Support.checksModule⟩,
    ⟨"client.py", fileText Support.clientBase⟩,
    ⟨"errors.py", fileText Support.errorsModule⟩,
    ⟨"pool.py", fileText Support.poolModule⟩,
    ⟨"results.py", fileText Support.resultsModule⟩]

end TextProtocol.Target
