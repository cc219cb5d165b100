/-!
# The pipe client of the overlay

`IpcClientBase` writes one request and reads one response at a time.  `Connect` opens the pipe and
sends a handshake through `SendBlocking`; `SendBlocking` connects when the pipe is closed, and
reconnects and sends again when the pipe breaks, so the two call each other.

The driver answers each request message of a connection with one response message, in order.
Windows and the driver are an `Environment`: what each API call answers, by its number, and the
bytes of each response.  A client carries a log of what happened on its pipe, which no function
reads.

* `sendBlocking`, `connect` — the two functions, by the depth of their nesting.
* `drain_eq` — the loop that reads the rest of an oversized response.
-/

set_option autoImplicit false

namespace WKPairDriver.Ipc

/-- `protocol::Version`. -/
def Version : Nat := 26

def RequestHandshake : Nat := 1
def ResponseHandshake : Nat := 1

def ERROR_INVALID_HANDLE : Nat := 6
def ERROR_BROKEN_PIPE : Nat := 109
def ERROR_NO_DATA : Nat := 232
def ERROR_PIPE_NOT_CONNECTED : Nat := 233
def ERROR_MORE_DATA : Nat := 234

/-- `IsBrokenPipeError`. -/
def isBrokenPipeError (code : Nat) : Bool :=
  code == ERROR_BROKEN_PIPE || code == ERROR_PIPE_NOT_CONNECTED || code == ERROR_NO_DATA

/-- The error of a read that transfers nothing: `ERROR_MORE_DATA` is not one of them, it comes with
    the beginning of a message that is longer than the buffer. -/
def ReadError : Type := { code : Nat // code ≠ ERROR_MORE_DATA }

/-- The two messages as they are compiled: their sizes, and how `response.type` and
    `response.protocol.version` are read from the bytes of a response. -/
structure Layout where
  sizeofRequest : Nat
  sizeofResponse : Nat
  responseType : List UInt8 → Nat
  protocolVersion : List UInt8 → Nat

structure Request where
  type : Nat
  payload : List UInt8
  deriving DecidableEq, Repr

/-- `protocol::Request(protocol::RequestHandshake)`. -/
def handshake : Request := ⟨RequestHandshake, []⟩

/-- A response of the driver on its way: the write it answers, by its place in the log, the bytes
    the driver wrote, and those of them that no read has taken yet. -/
structure Message where
  request : Nat
  whole : List UInt8
  unread : List UInt8
  deriving DecidableEq, Repr

/-- A response that was just written. -/
def Message.fresh (request : Nat) (answer : List UInt8) : Message := ⟨request, answer, answer⟩

/-- Who calls `SendBlocking`; the environment may tell the two apart. -/
inductive Caller where
  | overlay
  | connect
  deriving DecidableEq, Repr

/-- What `WriteFile` returns. -/
inductive WriteResult where
  | failed (error : Nat)
  | wrote (bytesWritten : Nat)
  deriving DecidableEq, Repr

/-- What `ReadFile` returns. -/
inductive ReadResult where
  | failed (error : Nat)
  | moreData
  | read (message : Message)
  deriving DecidableEq, Repr

/-- Windows and the driver during one call of the overlay. The first argument of each field is the
    number of the API call. -/
structure Environment where
  createFile : Nat → Option Nat
  setNamedPipeHandleState : Nat → Option Nat
  writeFile : Nat → WriteResult
  /-- The response of the driver to the request of this write. -/
  answer : Nat → Caller → Request → List UInt8
  /-- The first read of a response. -/
  readFile : Nat → Option ReadError
  /-- The reads that drain an oversized response. -/
  drainRead : Nat → Option ReadError
  formatWin32Error : Nat → String

/-- `IpcClientConnectOptions`. -/
structure IpcClientConnectOptions where
  pipeUnavailable : Option (Nat → String → String) := none
  pipeModeFailed : Option (Nat → String → String) := none
  versionMismatch : Option (Nat → Nat → String) := none
  reconnectFailurePrefix : String := "IPC reconnect failed after broken pipe: "
  writeFailurePrefix : String := "Error writing IPC request"
  readFailurePrefix : String := "Error reading IPC response"
  oversizedResponseMessage : String := "Invalid IPC response. Message larger than expected "
  sizeMismatchMessagePrefix : String := "Invalid IPC response"

inductive MismatchState where
  | matching
  | overlayNewer
  | driverNewer
  deriving DecidableEq, Repr

/-- What happened on the pipe, for the properties only. -/
inductive Event where
  | opened
  /-- `WriteFile` was called; the driver answers if the whole request was written. -/
  | write (request : Request) (answer : Option (List UInt8))
  /-- `Receive` returned the unread bytes of this message. -/
  | received (message : Message)
  /-- `Connect` has thrown; `IsConnected()` then. -/
  | connectThrew (connected : Bool)
  /-- `SendBlocking` has returned to the overlay. -/
  | returned (request : Request) (response : List UInt8)
  deriving DecidableEq, Repr

/-- `IpcClientBase`; an open pipe is the responses that are not wholly read yet. -/
structure Client where
  pipe_ : Option (List Message)
  pipeName_ : String
  options_ : IpcClientConnectOptions
  connectionGeneration_ : Nat
  reconnecting_ : Bool
  mismatchState_ : MismatchState
  driverVersion_ : Nat
  /-- The API calls since the overlay called. -/
  clock : Nat
  /-- The events so far, the newest first. -/
  log : List Event

/-- A client that was never connected. -/
def Client.new : Client where
  pipe_ := none
  pipeName_ := ""
  options_ := {}
  connectionGeneration_ := 0
  reconnecting_ := false
  mismatchState_ := .matching
  driverVersion_ := 0
  clock := 0
  log := []

/-- `BrokenPipeException` and the plain `std::runtime_error`. -/
inductive IpcError where
  | brokenPipe (message : String) (errorCode : Nat)
  | runtime (message : String)
  deriving DecidableEq, Repr

/-- `what()`. -/
def IpcError.what : IpcError → String
  | .brokenPipe message _ => message
  | .runtime message => message

/-- A function of the client: it may throw, and what it did before stays done. -/
abbrev ClientM (T : Type) := ExceptT IpcError (StateM Client) T

/-! ## The API calls -/

/-- An event of the log. -/
def record (e : Event) : ClientM Unit := modify fun s => { s with log := e :: s.log }

/-- The number of the next API call. -/
def nextCall : ClientM Nat := do
  let s ← get
  set { s with clock := s.clock + 1 }
  return s.clock

/-- `Close`. -/
def close : ClientM Unit := modify fun s => { s with pipe_ := none }

/-- `WriteFile` on the open pipe. -/
def writeFile (layout : Layout) (env : Environment) (caller : Caller) (request : Request) :
    ClientM WriteResult := do
  let n ← nextCall
  let s ← get
  match env.writeFile n with
  | .failed error =>
    set { s with log := .write request none :: s.log }
    return .failed error
  | .wrote bytesWritten =>
    if bytesWritten = layout.sizeofRequest then
      set { s with
        log := .write request (some (env.answer n caller request)) :: s.log
        pipe_ := s.pipe_.map (· ++ [Message.fresh s.log.length (env.answer n caller request)]) }
    else
      set { s with log := .write request none :: s.log }
    return .wrote bytesWritten

/-- `ReadFile` on the open pipe in message mode: the next bytes of the next message.  With nothing
    outstanding the driver writes nothing more, and the call returns only when the pipe breaks. -/
def readFile (fault : Option ReadError) (size : Nat) : ClientM ReadResult := do
  let s ← get
  match fault, s.pipe_ with
  | some error, _ => return .failed error.val
  | none, some (message :: messages) =>
    if message.unread.length ≤ size then
      set { s with pipe_ := some messages }
      return .read message
    else
      set { s with pipe_ := some ({ message with unread := message.unread.drop size } :: messages) }
      return .moreData
  | none, some [] => return .failed ERROR_BROKEN_PIPE
  | none, none => return .failed ERROR_INVALID_HANDLE

/-! ## Send and Receive -/

variable (layout : Layout) (env : Environment)

/-- `Send`. -/
def send (caller : Caller) (request : Request) : ClientM Unit := do
  let s ← get
  if s.pipe_.isNone then
    throw (.runtime "IPC pipe is not connected.")
  else
    match ← writeFile layout env caller request with
    | .failed error =>
      close
      let message := s!"{s.options_.writeFailurePrefix}. Error {error}: " ++
        env.formatWin32Error error
      if isBrokenPipeError error then throw (.brokenPipe message error)
      else throw (.runtime message)
    | .wrote bytesWritten =>
      if bytesWritten ≠ layout.sizeofRequest then
        close
        throw (.runtime (s!"IPC write truncated: wrote {bytesWritten}" ++
          s!" of {layout.sizeofRequest} bytes"))
      else pure ()

/-- How the loop over the rest of an oversized response ends. -/
inductive Drained where
  | finished
  | broken (error : Nat)
  | failed
  deriving DecidableEq, Repr

/-- The size of `drainBuffer`. -/
def drainBufferSize : Nat := 1024

/-- The loop of `Receive` over the rest of an oversized response, for at most so many reads. -/
def drain : Nat → ClientM Drained
  | 0 => return .finished
  | reads + 1 => do
    let n ← nextCall
    match ← readFile (env.drainRead n) drainBufferSize with
    | .read _ => return .finished
    | .moreData => drain reads
    | .failed error => if isBrokenPipeError error then return .broken error else return .failed

/-- The bytes of the message that is read next: every read of the loop takes some of them. -/
def outstanding (s : Client) : Nat :=
  match s.pipe_ with
  | some (message :: _) => message.unread.length
  | _ => 0

/-- `Receive`. -/
def receive : ClientM (List UInt8) := do
  let s ← get
  if s.pipe_.isNone then
    throw (.runtime "IPC pipe is not connected.")
  else
    let n ← nextCall
    match ← readFile (env.readFile n) layout.sizeofResponse with
    | .moreData =>
      match ← drain env (outstanding (← get)) with
      | .broken error =>
        close
        throw (.brokenPipe "Pipe broken while draining oversized IPC response" error)
      | .finished | .failed =>
        throw (.runtime (s!"{s.options_.oversizedResponseMessage}{layout.sizeofResponse}" ++
          " bytes."))
    | .failed error =>
      close
      let message := s!"{s.options_.readFailurePrefix}. Error {error}: " ++
        env.formatWin32Error error
      if isBrokenPipeError error then throw (.brokenPipe message error)
      else throw (.runtime message)
    | .read message =>
      if message.unread.length ≠ layout.sizeofResponse then
        close
        throw (.runtime (s!"{s.options_.sizeMismatchMessagePrefix}: got " ++
          s!"{message.unread.length} bytes, expected {layout.sizeofResponse}"))
      else
        record (.received message)
        return message.unread

/-! ## Connect and SendBlocking -/

/-- `FormatUnavailable`, and `FormatModeFailure` with its own formatter. -/
def formatFailure (formatter : Option (Nat → String → String)) (what : String) (error : Nat) :
    String :=
  match formatter with
  | some f => f error (env.formatWin32Error error)
  | none => s!"{what}. Error {error}: " ++ env.formatWin32Error error

/-- `FormatVersionMismatch`. -/
def formatVersionMismatch (options : IpcClientConnectOptions) (expected driver : Nat) : String :=
  match options.versionMismatch with
  | some f => f expected driver
  | none => s!"Driver protocol version mismatch. (Overlay: {expected}, driver: {driver})"

/-- The answer to a handshake that `Connect` is content with. -/
def Accepted (response : List UInt8) : Prop :=
  layout.responseType response = ResponseHandshake ∧ layout.protocolVersion response = Version

instance : DecidablePred (Accepted layout) := fun _ => inferInstanceAs (Decidable (_ ∧ _))

/-- `Connect` up to the handshake. -/
def openPipe (pipeName : String) (options : IpcClientConnectOptions) : ClientM Unit := do
  close
  modify fun s => { s with options_ := options, pipeName_ := pipeName }
  let n ← nextCall
  match env.createFile n with
  | some error =>
    throw (.runtime (formatFailure env options.pipeUnavailable "IPC pipe unavailable" error))
  | none =>
    modify fun s => { s with pipe_ := some [], log := .opened :: s.log }
    let m ← nextCall
    match env.setNamedPipeHandleState m with
    | some error =>
      close
      throw (.runtime (formatFailure env options.pipeModeFailed "IPC pipe mode failed" error))
    | none => pure ()

/-- `Connect` behind the handshake. -/
def checkHandshake (options : IpcClientConnectOptions) (response : List UInt8) : ClientM Unit := do
  if Accepted layout response then
    modify fun s => { s with
      mismatchState_ := .matching, connectionGeneration_ := s.connectionGeneration_ + 1 }
  else
    modify fun s => { s with
      driverVersion_ := layout.protocolVersion response
      mismatchState_ :=
        if layout.protocolVersion response < Version then .overlayNewer else .driverNewer }
    close
    throw (.runtime (formatVersionMismatch options Version (layout.protocolVersion response)))

/-- `Connect` around the `SendBlocking` of its handshake. -/
def connectBody (sendBlocking : Request → ClientM (List UInt8)) (pipeName : String)
    (options : IpcClientConnectOptions) : ClientM Unit := do
  openPipe env pipeName options
  let response ← sendBlocking handshake
  checkHandshake layout options response

/-- `Connect`, with its exceptions in the log. -/
def connectWith (sendBlocking : Request → ClientM (List UInt8)) (pipeName : String)
    (options : IpcClientConnectOptions) : ClientM Unit :=
  tryCatch (connectBody layout env sendBlocking pipeName options) fun e => do
    let s ← get
    record (.connectThrew s.pipe_.isSome)
    throw e

/-- The first lines of `SendBlocking`. -/
def connectIfClosed (connect : String → IpcClientConnectOptions → ClientM Unit) :
    ClientM Unit := do
  let s ← get
  if s.pipe_.isNone then
    if s.pipeName_ = "" then throw (.runtime "IPC pipe is not connected.")
    else connect s.pipeName_ s.options_
  else pure ()

/-- One request and its response. -/
def exchange (caller : Caller) (request : Request) : ClientM (List UInt8) := do
  send layout env caller request
  receive layout env

/-- What `SendBlocking` does about a broken pipe before it sends again. -/
def reconnect (connect : String → IpcClientConnectOptions → ClientM Unit) : ClientM Unit := do
  close
  modify fun s => { s with reconnecting_ := true }
  let s ← get
  tryCatch (do
    connect s.pipeName_ s.options_
    modify fun s => { s with reconnecting_ := false }) fun reconnectError => do
    modify fun s => { s with reconnecting_ := false }
    throw (.runtime (s.options_.reconnectFailurePrefix ++ reconnectError.what))

/-- `SendBlocking` around `Connect`. -/
def sendBlockingWith (connect : String → IpcClientConnectOptions → ClientM Unit) (caller : Caller)
    (request : Request) : ClientM (List UInt8) := do
  connectIfClosed connect
  tryCatch (exchange layout env caller request) fun e => do
    match e with
    | .runtime message => throw (.runtime message)
    | .brokenPipe message error =>
      let s ← get
      if s.reconnecting_ = true ∨ s.pipeName_ = "" then throw (.brokenPipe message error)
      else
        reconnect connect
        exchange layout env caller request

/-- `SendBlocking`, to a depth of nested calls. -/
def sendBlocking : Nat → Caller → Request → ClientM (List UInt8)
  | 0, _, _ => do
    -- no call nests as deep as that (`sendBlocking_depth`)
    close
    throw (.runtime "")
  | depth + 1, caller, request =>
    sendBlockingWith layout env (connectWith layout env (sendBlocking depth .connect)) caller
      request

/-- `Connect`, to a depth of nested calls. -/
def connect (depth : Nat) (pipeName : String) (options : IpcClientConnectOptions) : ClientM Unit :=
  connectWith layout env (sendBlocking layout env depth .connect) pipeName options

end WKPairDriver.Ipc
