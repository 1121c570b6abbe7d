import TextProtocol.Target.Call.TypeScript
import TextProtocol.Target.Comment

/-!
# TypeScript clients

The module with the client of a protocol and its errors.
-/

namespace TextProtocol.Target.TypeScript

def clientHead (p : Package) : List String :=
  "" :: filled (packageNames p) r#"
|// Promise-based client for the ⟨name⟩ protocol.
|// Generated by wirecraft. Do not edit.
|
|import * as net from 'node:net';
|
|import {
|  indexOf,
  "# ++
  p.messages.map (fun m ↦ fill (m.names profile) "  type ⟨type⟩,") ++
  p.responses.map (fun m ↦ fill (m.names profile) "  ⟨parse⟩,") ++ filled (packageNames p) r#"
|} from './⟨parser⟩';
|import {
|  type FieldError,
  "# ++
  p.requests.map (fun m ↦ fill (m.names profile) "  ⟨serialize⟩,") ++ filled (packageNames p) r#"
|} from './⟨serializer⟩';
|
  "#

def settingLines (s : ClientSettings) : List String :=
  filled (s.holes (fun b ↦ literal (Value.ofBool? b)) (·.elim "undefined" bytesLiteral)) r#"
|const DEFAULT_PORT = ⟨port⟩;
|const DEFAULT_TIMEOUT = ⟨timeout⟩;
|const KEEP_ALIVE: boolean = ⟨keepAlive⟩;
|const READ_UNTIL_CLOSE: boolean = ⟨readUntilClose⟩;
|const RETRY_ATTEMPTS: number = ⟨retryAttempts⟩;
|const RETRY_DELAY = ⟨retryDelay⟩;
|const HANDSHAKE_SEND: Uint8Array | undefined = ⟨handshakeSend⟩;
|const HANDSHAKE_EXPECT: Uint8Array | undefined = ⟨handshakeExpect⟩;
|const GOODBYE: Uint8Array | undefined = ⟨goodbye⟩;
  "#

/-- The classes of errors, the pool and the functions that clients share. -/
def clientShared (p : Package) : List String :=
  filled (packageNames p) r#"
|
|export class ⟨baseError⟩ extends Error {
|  readonly code: string;
|
|  constructor(message: string, code = 'PROTOCOL_ERROR', options?: ErrorOptions) {
|    super(message, options);
|    this.name = new.target.name;
|    this.code = code;
|  }
|}
|
|/** The ⟨name⟩ server could not be reached or dropped the connection. */
|export class ⟨connectionError⟩ extends ⟨baseError⟩ {
|  constructor(message: string, options?: ErrorOptions) {
|    super(message, 'CONNECTION_FAILED', options);
|  }
|}
|
|/** No complete ⟨name⟩ response arrived in time. */
|export class ⟨timeoutError⟩ extends ⟨baseError⟩ {
|  constructor(message: string, options?: ErrorOptions) {
|    super(message, 'TIMEOUT', options);
|  }
|}
|
|/** The ⟨name⟩ handshake did not complete. */
|export class ⟨handshakeError⟩ extends ⟨baseError⟩ {
|  constructor(message: string, options?: ErrorOptions) {
|    super(message, 'HANDSHAKE_FAILED', options);
|  }
|}
|
|/** A message failed validation and was not sent. */
|export class ⟨validationError⟩ extends ⟨baseError⟩ {
|  readonly errors: FieldError[];
|
|  constructor(errors: FieldError[]) {
|    super(errors.map((error) => error.message).join('; '), 'INVALID_MESSAGE');
|    this.errors = errors;
|  }
|}
|
|export interface ⟨client⟩Options {
|  host: string;
|  port?: number;
|  /** Milliseconds allowed for connecting and for each response. */
|  timeout?: number;
|}
|
|interface Idle {
|  socket: net.Socket;
|  drop: () => void;
|}
|
|/**
| * Idle connections keyed by host and port, at most one per key.
| *
| * A connection is checked out while a request uses it. An idle connection
| * that the peer closes, or that receives unsolicited bytes, is dropped.
| */
|export class ConnectionPool {
|  private readonly idle = new Map<string, Idle>();
|
|  take(key: string): net.Socket | undefined {
|    const entry = this.idle.get(key);
|    if (entry === undefined) return undefined;
|    this.idle.delete(key);
|    const { socket, drop } = entry;
|    socket.off('data', drop);
|    socket.off('end', drop);
|    socket.off('error', drop);
|    socket.pause();
|    if (socket.destroyed || !socket.writable) return undefined;
|    return socket;
|  }
|
|  release(key: string, socket: net.Socket): void {
|    if (socket.destroyed) return;
|    if (this.idle.has(key)) {
|      socket.destroy();
|      return;
|    }
|    const drop = (): void => {
|      socket.destroy();
|      if (this.idle.get(key)?.socket === socket) this.idle.delete(key);
|    };
|    socket.once('data', drop);
|    socket.once('end', drop);
|    socket.once('error', drop);
|    socket.resume();
|    this.idle.set(key, { socket, drop });
|  }
|
|  get size(): number {
|    return this.idle.size;
|  }
|
|  closeAll(): void {
|    for (const { socket } of this.idle.values()) socket.destroy();
|    this.idle.clear();
|  }
|}
|
|const sharedPool = new ConnectionPool();
|
|function sleep(ms: number): Promise<void> {
|  return new Promise((resolve) => setTimeout(resolve, ms));
|}
|
|function connect(host: string, port: number, timeout: number): Promise<net.Socket> {
|  return new Promise((resolve, reject) => {
|    const socket = net.createConnection({ host, port });
|    const timer = setTimeout(() => {
|      socket.destroy();
|      reject(new ⟨timeoutError⟩(`connecting to ${host}:${port} timed out after ${timeout} ms`));
|    }, timeout);
|    socket.once('connect', () => {
|      clearTimeout(timer);
|      socket.removeAllListeners('error');
|      resolve(socket);
|    });
|    socket.once('error', (error) => {
|      clearTimeout(timer);
|      reject(new ⟨connectionError⟩(`cannot connect to ${host}:${port}: ${error.message}`, { cause: error }));
|    });
|  });
|}
|
|/** Write payload, then collect bytes until complete() accepts them or the peer closes. */
|function exchange(
|  socket: net.Socket,
|  payload: Uint8Array | undefined,
|  timeout: number,
|  complete: (buffer: Uint8Array) => boolean,
|  untilClose: boolean,
|): Promise<Uint8Array> {
|  return new Promise((resolve, reject) => {
|    const chunks: Buffer[] = [];
|    const finish = (error?: Error): void => {
|      clearTimeout(timer);
|      socket.off('data', onData);
|      socket.off('end', onEnd);
|      socket.off('error', onError);
|      socket.pause();
|      if (error) reject(error);
|      else resolve(new Uint8Array(Buffer.concat(chunks)));
|    };
|    const onData = (chunk: Buffer): void => {
|      chunks.push(chunk);
|      if (!untilClose && complete(Buffer.concat(chunks))) finish();
|    };
|    const onEnd = (): void => {
|      if (chunks.length === 0) finish(new ⟨connectionError⟩('connection closed before a response arrived'));
|      else finish();
|    };
|    const onError = (error: Error): void => finish(new ⟨connectionError⟩(error.message, { cause: error }));
|    const timer = setTimeout(() => finish(new ⟨timeoutError⟩(`no response within ${timeout} ms`)), timeout);
|    socket.on('data', onData);
|    socket.once('end', onEnd);
|    socket.once('error', onError);
|    if (payload !== undefined) socket.write(payload);
|  });
|}
|
  "#

def completeFunction (p : Package) : List String :=
  if p.responses.isEmpty then block r#"
|// No response types: a reply ends when the server closes the connection
|function responseComplete(_buffer: Uint8Array): boolean {
|  return false;
|}
  "#
  else block r#"
|function responseComplete(buffer: Uint8Array): boolean {
|  const parsers = [
  "# ++
  p.responses.map (fun m ↦ fill (m.names profile) "    ⟨parse⟩,") ++ block r#"
|  ];
|  return parsers.some((parse) => parse(buffer).ok);
|}
  "#

def sendMethod (p : Package) (m : Message) : List String :=
  filled (packageNames p ++ m.names profile) r#"
|
|  /** Send a ⟨type⟩ and resolve with the raw response. */
|  async ⟨send⟩(message: ⟨type⟩, options: { timeout?: number } = {}): Promise<Uint8Array> {
|    const result = ⟨serialize⟩(message);
|    if (!result.ok) throw new ⟨validationError⟩(result.errors);
|    return this.request(result.data, options.timeout ?? this.timeout);
|  }
  "#

def clientClass (p : Package) : List String :=
  let doc := match p.description? with
    | some d => commentText d
    | none => s!"Client for the {p.name} protocol."
  ["", s!"/** {doc} */"] ++ filled (packageNames p) r#"
|export class ⟨client⟩ {
|  readonly host: string;
|  readonly port: number;
|  readonly timeout: number;
|  private readonly pool: ConnectionPool;
|
|  constructor(options: ⟨client⟩Options, pool: ConnectionPool = sharedPool) {
|    this.host = options.host;
|    this.port = options.port ?? DEFAULT_PORT;
|    this.timeout = options.timeout ?? DEFAULT_TIMEOUT;
|    this.pool = pool;
|  }
|
|  private get key(): string {
|    return `${this.host}:${this.port}`;
|  }
|
|  /** Open (or reuse) the pooled connection, running the handshake if one is configured. */
|  async connect(): Promise<void> {
|    this.pool.release(this.key, await this.acquire(this.timeout));
|  }
|
|  /** Say goodbye if the protocol has one and close the pooled connection. */
|  async disconnect(): Promise<void> {
|    const socket = this.pool.take(this.key);
|    if (socket === undefined) return;
|    await new Promise<void>((resolve) => {
|      if (GOODBYE !== undefined) socket.write(GOODBYE);
|      socket.end(() => resolve());
|    });
|    socket.destroy();
|  }
  "# ++
  p.requests.flatMap (sendMethod p) ++ filled (packageNames p) r#"
|
|  private async request(payload: Uint8Array, timeout: number): Promise<Uint8Array> {
|    for (let attempt = 0; ; attempt++) {
|      try {
|        return await this.exchangeOnce(payload, timeout);
|      } catch (error) {
|        const retryable = error instanceof ⟨connectionError⟩ || error instanceof ⟨timeoutError⟩;
|        if (!retryable || attempt >= RETRY_ATTEMPTS) throw error;
|        await sleep(RETRY_DELAY);
|      }
|    }
|  }
|
|  private async acquire(timeout: number): Promise<net.Socket> {
|    const pooled = this.pool.take(this.key);
|    if (pooled !== undefined) return pooled;
|    const socket = await connect(this.host, this.port, timeout);
|    try {
|      await this.handshake(socket, timeout);
|    } catch (error) {
|      socket.destroy();
|      throw error;
|    }
|    return socket;
|  }
|
|  private async handshake(socket: net.Socket, timeout: number): Promise<void> {
|    if (HANDSHAKE_SEND === undefined && HANDSHAKE_EXPECT === undefined) return;
|    if (HANDSHAKE_EXPECT === undefined) {
|      socket.write(HANDSHAKE_SEND!);
|      return;
|    }
|    const expect = HANDSHAKE_EXPECT;
|    let reply: Uint8Array;
|    try {
|      reply = await exchange(socket, HANDSHAKE_SEND, timeout, (buffer) => indexOf(buffer, expect, 0) >= 0, false);
|    } catch (error) {
|      throw new ⟨handshakeError⟩(`handshake failed: ${(error as Error).message}`, { cause: error });
|    }
|    if (indexOf(reply, expect, 0) < 0) {
|      throw new ⟨handshakeError⟩('server did not send the expected handshake reply');
|    }
|  }
|
|  private async exchangeOnce(payload: Uint8Array, timeout: number): Promise<Uint8Array> {
|    const socket = await this.acquire(timeout);
|    let response: Uint8Array;
|    try {
|      response = await exchange(socket, payload, timeout, responseComplete, READ_UNTIL_CLOSE);
|    } catch (error) {
|      socket.destroy();
|      throw error;
|    }
|    if (KEEP_ALIVE && !READ_UNTIL_CLOSE) this.pool.release(this.key, socket);
|    else socket.destroy();
|    return response;
|  }
|}
  "#

def clientModule (p : Package) : String :=
  fileText (clientHead p ++ settingLines p.settings ++ clientShared p ++ completeFunction p ++
    clientClass p)

end TextProtocol.Target.TypeScript
