import Lading.Algorithm.UnixDatagram
import Lading.Model.PeekableReceiver

/-! `Child::spin` of the datagram generator as a transition system over the child's locals,
with the block cache thread's sends and the environment's answers as actions. -/

namespace Lading.Generator.UnixDatagram

/-- The capacity of `mpsc::channel(1024)`. -/
def channelCapacity : Nat := 1024

/-- What `socket.send(&blk.bytes)` answers. -/
inductive SendResult where
  | ok (bytes : Nat)
  | err (msg : String)
deriving DecidableEq, Repr

/-- A call the loop makes on a collaborator: a granted `throttle.wait_for`, a block returned
by `rcv.next()`, or a `socket.send` with its answer. -/
inductive Event where
  | waitFor (amount : Nat)
  | next (blk : Block)
  | send (bytes : List UInt8) (result : SendResult)
deriving DecidableEq, Repr

/-- Where `Child::spin` is: before the send loop, at its top, inside its `select!` with the
peeked block's `total_bytes`, or returned. -/
inductive Phase where
  | starting
  | binding
  | connecting
  | spawning
  | peeking
  | selecting (totalBytes : NonZeroU32)
  | returned (result : Ret Error Unit)
deriving DecidableEq, Repr

/-- The phases in which the block cache thread is running. -/
def Phase.running : Phase → Bool
  | .peeking => true
  | .selecting _ => true
  | _ => false

/-- The state of `Child::spin`: its locals, the number of blocks the cache thread has sent,
what it has added to the metrics, and the calls made so far. Every child registers
`bytes_written` and `packets_sent` under the generator's labels, so those two are its share of
counters all children increment. -/
structure SpinState where
  phase : Phase
  rcv : PeekableReceiver Block
  produced : Nat
  maxDetectedBytes : Nat
  bytesWritten : Nat
  packetsSent : Nat
  requestFailure : List String
  connectionFailure : List String
  maxDatagramSize : Option Nat
  log : List Event
deriving DecidableEq, Repr

/-- The state when `Child::spin` is entered. -/
def init : SpinState :=
  ⟨.starting, .new, 0, usizeMax, 0, 0, [], [], none, []⟩

/-- A step of the child or of its environment. -/
inductive Action where
  /-- `startup_receiver.recv().await?` -/
  | startup (result : Except String Unit)
  /-- `net::UnixDatagram::unbound()?` -/
  | unbound (result : Except String Unit)
  /-- one `socket.connect(&self.path)` of the connect loop -/
  | connect (result : Except String Unit)
  /-- `thread::Builder::new().spawn(..)?` -/
  | spawn (result : Except String Unit)
  /-- the block cache thread sends its next block -/
  | produce
  /-- `rcv.peek().await` resolves -/
  | peek
  /-- `throttle.wait_for` wins the `select!`; `socket.send` answers `result` -/
  | granted (result : SendResult)
  /-- `shutdown.recv()` wins the `select!` -/
  | shutdown

section Steps

variable (s : SpinState)

/-- A call made once and checked with `?`: at phase `here`, success moves to `next` and an
error returns, wrapped by `wrap`. -/
def callStep (here next : Phase) (wrap : String → Error) (r : Except String Unit) :
    Option SpinState :=
  if s.phase = here then
    some { s with phase := match r with
      | .ok _ => next
      | .error m => .returned (.err (wrap m)) }
  else none

/-- One pass of the connect loop: success leaves it, failure counts a
`connection_failure` labelled with the error and retries. -/
def connectStep (r : Except String Unit) : Option SpinState :=
  if s.phase = .connecting then
    some (match r with
      | .ok _ => { s with phase := .spawning }
      | .error m => { s with connectionFailure := s.connectionFailure ++ [m] })
  else none

/-- The block cache thread sends block number `produced` of its emission order, waiting
while the channel is full. -/
def produceStep (emit : Nat → Block) : Option SpinState :=
  if s.phase.running ∧ s.rcv.closed = false ∧ s.rcv.buffer.length < channelCapacity then
    some { s with rcv := s.rcv.push (emit s.produced), produced := s.produced + 1 }
  else none

/-- The message of the `expect` on `rcv.peek()`. -/
def blockCacheEmpty : String := "block cache should never be empty"

/-- The top of the send loop: peek, then skip a block over the ceiling by taking it with
`rcv.next()`, or enter the `select!` with its `total_bytes`. On a closed, drained channel
the peek resolves to `None` and the `expect` panics. -/
def peekStep : Option SpinState :=
  match s.phase, s.rcv.peek with
  | .peeking, some (blk, rcv) =>
    if blk.totalBytes.get > s.maxDetectedBytes then
      (rcv.next).map fun (taken, rcv) => { s with rcv := rcv, log := s.log ++ [.next taken] }
    else some { s with rcv := rcv, phase := .selecting blk.totalBytes }
  | .peeking, none =>
    if s.rcv.closed then some { s with phase := .returned (.panic blockCacheEmpty) } else none
  | _, _ => none

/-- The counters and ceiling after `socket.send` answered for `blk`. -/
def afterSend (blk : Block) : SendResult → SpinState
  | .ok n => { s with bytesWritten := s.bytesWritten + n, packetsSent := s.packetsSent + 1 }
  | .err m =>
    { s with maxDetectedBytes := blk.bytes.length - 1,
             maxDatagramSize := some (blk.bytes.length - 1),
             requestFailure := s.requestFailure ++ [m] }

/-- The throttle branch of the `select!`: `wait_for(total_bytes)` was granted, the block is
taken with `rcv.next()` and sent. -/
def grantedStep (r : SendResult) : Option SpinState :=
  match s.phase, s.rcv.next with
  | .selecting totalBytes, some (blk, rcv) =>
    some (afterSend { s with
      phase := .peeking, rcv := rcv,
      log := s.log ++ [.waitFor totalBytes.get, .next blk, .send blk.bytes r] } blk r)
  | _, _ => none

/-- The shutdown branch of the `select!`: return `Ok(())`. -/
def shutdownStep : Option SpinState :=
  match s.phase with
  | .selecting _ => some { s with phase := .returned (.ok ()) }
  | _ => none

end Steps

/-- The block cache thread ends while the child runs, its producer having panicked, and
drops the sending half. -/
def cacheEnd (s : SpinState) : Option SpinState :=
  if s.phase.running ∧ s.rcv.closed = false then some { s with rcv := s.rcv.close } else none

/-- One transition of `Child::spin`, for the block cache's emission order `emit`. -/
def step (emit : Nat → Block) (s : SpinState) : Action → Option SpinState
  | .startup r => callStep s .starting .binding .startupWait r
  | .unbound r => callStep s .binding .connecting .io r
  | .connect r => connectStep s r
  | .spawn r => callStep s .spawning .peeking .io r
  | .produce => produceStep s emit
  | .peek => peekStep s
  | .granted r => grantedStep s r
  | .shutdown => shutdownStep s

/-- Some action takes `s` to `t`. -/
def Next (emit : Nat → Block) (s t : SpinState) : Prop := ∃ a, step emit s a = some t

/-- The states `Child::spin` can reach while its block cache thread runs. -/
def Reachable (emit : Nat → Block) (s : SpinState) : Prop :=
  Relation.ReflTransGen (Next emit) init s

/-- A step of the child, or the end of its block cache thread. -/
def CacheNext (emit : Nat → Block) (s t : SpinState) : Prop := Next emit s t ∨ cacheEnd s = some t

/-- The states `Child::spin` can reach when its block cache thread may end. -/
def CacheReachable (emit : Nat → Block) (s : SpinState) : Prop :=
  Relation.ReflTransGen (CacheNext emit) init s

/-- A run of actions from `s`; `none` when one of them is not enabled. -/
def run (emit : Nat → Block) : SpinState → List Action → Option SpinState
  | s, [] => some s
  | s, a :: as => (step emit s a).bind (run emit · as)

theorem run_reachable {emit : Nat → Block} {s t : SpinState} (as : List Action)
    (hs : Reachable emit s) (h : run emit s as = some t) : Reachable emit t := by
  induction as generalizing s with
  | nil => cases h; exact hs
  | cons a as ih =>
    obtain ⟨s', hs', ht⟩ := Option.bind_eq_some.mp h
    exact ih (hs.tail ⟨a, hs'⟩) ht

end Lading.Generator.UnixDatagram
