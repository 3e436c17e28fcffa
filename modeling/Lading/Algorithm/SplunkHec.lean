import Lading.Model.Serde

/-! The Splunk HEC blackhole: `srv`, `SplunkHec::run` as a transition system, and the process
whose blackholes share the static `ACK_ID`. -/

namespace Lading.Blackhole.SplunkHec

/-- `tokio::sync::Semaphore::MAX_PERMITS`, `usize::MAX >> 3`. -/
def maxPermits : Nat := usizeMax / 8

/-- `splunk_hec::Error`: `Hyper` for a body that could not be collected, `Io` for a failed
bind. `SerdeJson` cannot arise, since writing either response cannot fail. -/
inductive Error where
  | hyper (msg : String)
  | io (msg : String)
deriving DecidableEq, Repr

/-- An HTTP request as `srv` reads it. -/
structure Request where
  method : String
  path : String
  contentEncoding : Option String
  /-- the body as `collect().await` ends: its bytes, or the `hyper::Error` -/
  body : Except String (List UInt8)

/-- A response: its status, its `Content-Type` header and its body. -/
structure Response where
  status : Nat
  contentType : Option String
  body : List UInt8
deriving DecidableEq, Repr

/-- The collaborators of `srv` that are not among the sources. -/
structure Deps where
  /-- `crate::codec::decode`: the decoded body, or the response to send in its place -/
  decode : Option String → List UInt8 → Except Response (List UInt8)
  /-- `serde_json::from_slice::<HecAckRequest>`: the `acks`, or none on any error -/
  parseAckRequest : List UInt8 → Option (List Nat)
  /-- the bucket `FxHasher` puts a `u64` key in -/
  bucket : Nat → Nat

/-! ## `srv` -/

/-- The paths answered with an ack id. -/
def eventPaths : List String :=
  ["/services/collector/event", "/services/collector/event/1.0", "/services/collector/raw",
    "/services/collector/raw/1.0"]

/-- The path for querying indexer acknowledgements. -/
def ackPath : String := "/services/collector/ack"

/-- `HecResponse { text: "Success", code: 0, ack_id }` as `serde_json::to_vec` writes it,
with `ack_id` renamed `ackId`. -/
def hecResponse (ackId : Nat) : List UInt8 :=
  Serde.Json.struct [(ascii "text", Serde.Json.str (ascii "Success")),
    (ascii "code", Serde.Json.int 0), (ascii "ackId", Serde.Json.int ackId)]

/-- `HecAckResponse::from`: the requested ids collected into an `FxHashMap<u64, bool>`, each
mapped to `true`, a repeated id once; listed in the order of the hasher's buckets. -/
def ackEntries (bucket : Nat → Nat) (acks : List Nat) : List (Nat × Bool) :=
  (acks.dedup.map fun id => (id, true)).insertionSort fun a b => bucket a.1 ≤ bucket b.1

/-- `HecAckResponse` as `serde_json::to_vec` writes it: integer keys are quoted. -/
def hecAckResponse (entries : List (Nat × Bool)) : List UInt8 :=
  Serde.Json.struct [(ascii "acks",
    Serde.Json.map (entries.map fun e => (Serde.Json.intKey e.1, Serde.Json.bool e.2)))]

/-- A call of `srv` that has returned: its request, what `ACK_ID.fetch_add(1)` returned if it
made that call, and its result. -/
structure Answer where
  request : Request
  ackId : Option Nat
  result : Ret Error Response

/-- `srv` from the `collect().await` of the body on, with `ACK_ID` holding `ackId`. Nothing
after that await yields, so the rest of the call is one step. The metrics counters it
increments are not modelled: nothing reads them. -/
def srv (deps : Deps) (ackId : Nat) (req : Request) : Answer :=
  match req.body with
  | .error e => ⟨req, none, .err (.hyper e)⟩
  | .ok bytes =>
    match deps.decode req.contentEncoding bytes with
    | .error response => ⟨req, none, .ok response⟩
    | .ok body =>
      let okay : Response := ⟨200, some "application/json", []⟩
      if req.method = "POST" ∧ req.path ∈ eventPaths then
        ⟨req, some ackId, .ok { okay with body := hecResponse ackId }⟩
      else if req.method = "POST" ∧ req.path = ackPath then
        match deps.parseAckRequest body with
        | some acks =>
          ⟨req, none, .ok { okay with body := hecAckResponse (ackEntries deps.bucket acks) }⟩
        | none => ⟨req, none, .ok { okay with status := 400 }⟩
      else ⟨req, none, .ok okay⟩

/-! ## `SplunkHec::run` -/

/-- Where a connection task spawned by the accept loop is. -/
inductive Task where
  /-- at `sem.acquire_owned().await` -/
  | waiting
  /-- holding a permit and serving its connection, with the requests handed to `srv` whose
  bodies are still being collected -/
  | serving (inflight : List Request)
  /-- returned, its permit dropped -/
  | finished

def Task.isServing : Task → Bool
  | .waiting => false
  | .serving _ => true
  | .finished => false

def Task.isFinished : Task → Bool
  | .waiting => false
  | .serving _ => false
  | .finished => true

/-- Where `SplunkHec::run` is. -/
inductive RunPhase where
  | binding
  /-- in the accept loop -/
  | looping
  /-- at `while join_set.join_next().await.is_some() {}` -/
  | draining
  | returned (result : Ret Error Unit)
deriving DecidableEq, Repr

/-- The state of one `SplunkHec::run`: where it is, the free permits of its semaphore, its
tasks in spawn order, and the answers `srv` has returned, in the order of their `fetch_add`. -/
structure HecState where
  phase : RunPhase
  permits : Nat
  tasks : List Task
  answers : List Answer

def HecState.init : HecState := ⟨.binding, 0, [], []⟩

/-- A step of `run`, of a task, or of a client. -/
inductive HecAction where
  /-- `TcpListener::bind(..).await?` -/
  | bind (result : Except String Unit)
  /-- the shutdown branch of the `select!` -/
  | shutdown
  /-- `listener.accept()` wins the `select!` -/
  | accept (result : Except String Unit)
  /-- task `i`'s `acquire_owned()` resolves -/
  | acquire (i : Nat)
  /-- connection `i` hands a request to `srv`, which collects its body -/
  | receive (i : Nat) (req : Request)
  /-- `srv` returns for in-flight request `j` of connection `i` -/
  | respond (i j : Nat)
  /-- connection `i`'s `serve_future` completes, dropping its in-flight requests, and the
  permit is dropped -/
  | close (i : Nat)
  /-- `join_next()` returns `None`: every task has finished -/
  | join

/-- The panic of `Semaphore::new` over `MAX_PERMITS`. -/
def semaphorePanic : String :=
  "a semaphore may not have more than MAX_PERMITS permits (" ++ toString maxPermits ++ ")"

/-- One transition of `SplunkHec::run` with `concurrent_requests_max = limit`, in a process
where `ACK_ID.fetch_add` has been called `acks` times (`ACK_ID` holds that number modulo
`2^64`): the count after it, and the new state. -/
def hecStep (deps : Deps) (limit acks : Nat) (s : HecState) :
    HecAction → Option (Nat × HecState)
  | .bind r =>
    if s.phase = .binding then
      some (acks, match r with
        | .error m => { s with phase := .returned (.err (.io m)) }
        | .ok _ =>
          if limit ≤ maxPermits then { s with phase := .looping, permits := limit }
          else { s with phase := .returned (.panic semaphorePanic) })
    else none
  | .shutdown => if s.phase = .looping then some (acks, { s with phase := .draining }) else none
  | .accept r =>
    if s.phase = .looping then
      some (acks, match r with
        | .ok _ => { s with tasks := s.tasks ++ [.waiting] }
        | .error _ => s)
    else none
  | .acquire i =>
    match s.tasks[i]? with
    | some .waiting =>
      if 0 < s.permits then
        some (acks, { s with permits := s.permits - 1, tasks := s.tasks.set i (.serving []) })
      else none
    | _ => none
  | .receive i req =>
    match s.tasks[i]? with
    | some (.serving inflight) =>
      some (acks, { s with tasks := s.tasks.set i (.serving (inflight ++ [req])) })
    | _ => none
  | .respond i j =>
    match s.tasks[i]? with
    | some (.serving inflight) =>
      match inflight[j]? with
      | some req =>
        let answer := srv deps (acks % 2 ^ 64) req
        some (acks + answer.ackId.toList.length, { s with
          tasks := s.tasks.set i (.serving (inflight.eraseIdx j)),
          answers := s.answers ++ [answer] })
      | none => none
    | _ => none
  | .close i =>
    match s.tasks[i]? with
    | some (.serving _) =>
      some (acks, { s with tasks := s.tasks.set i .finished, permits := s.permits + 1 })
    | _ => none
  | .join =>
    if s.phase = .draining ∧ s.tasks.all (·.isFinished) then
      some (acks, { s with phase := .returned (.ok ()) })
    else none

/-- Some transition takes `s` to `s'`, at whatever count `ACK_ID` is: the other blackholes of
the process move it too. -/
def HecNext (deps : Deps) (limit : Nat) (s s' : HecState) : Prop :=
  ∃ acks acks' a, hecStep deps limit acks s a = some (acks', s')

/-- The states `run` can reach with `concurrent_requests_max = limit`. -/
def HecReachable (deps : Deps) (limit : Nat) (s : HecState) : Prop :=
  Relation.ReflTransGen (HecNext deps limit) HecState.init s

/-- A run of transitions from `ACK_ID`'s count and `s`; `none` when one of them is not
enabled. -/
def hecRun (deps : Deps) (limit : Nat) : Nat × HecState → List HecAction → Option (Nat × HecState)
  | p, [] => some p
  | p, a :: as => (hecStep deps limit p.1 p.2 a).bind (hecRun deps limit · as)

theorem hecRun_reachable {deps : Deps} {limit : Nat} {p p' : Nat × HecState}
    (as : List HecAction) (hs : HecReachable deps limit p.2)
    (h : hecRun deps limit p as = some p') :
    HecReachable deps limit p'.2 := by
  induction as generalizing p with
  | nil => cases h; exact hs
  | cons a as ih =>
    obtain ⟨p₁, h₁, h'⟩ := Option.bind_eq_some.mp h
    exact ih (hs.tail ⟨p.1, p₁.1, a, h₁⟩) h'

/-! ## The process -/

/-- A process running Splunk HEC blackholes, one for each `concurrent_requests_max` of the
configuration: the number of `ACK_ID.fetch_add` calls so far, and each blackhole's `run`. -/
structure HecProcess where
  acks : Nat
  runs : List HecState

/-- The process at its start, every blackhole about to bind. -/
def HecProcess.init (limits : List Nat) : HecProcess :=
  ⟨0, List.replicate limits.length HecState.init⟩

/-- Blackhole `b` takes a step. -/
def processStep (deps : Deps) (limits : List Nat) (p : HecProcess) (b : Nat) (a : HecAction) :
    Option HecProcess :=
  match p.runs[b]?, limits[b]? with
  | some s, some limit =>
    (hecStep deps limit p.acks s a).map fun r => ⟨r.1, p.runs.set b r.2⟩
  | _, _ => none

/-- Some blackhole takes `p` to `p'`. -/
def ProcessNext (deps : Deps) (limits : List Nat) (p p' : HecProcess) : Prop :=
  ∃ b a, processStep deps limits p b a = some p'

/-- The states the process can reach. -/
def ProcessReachable (deps : Deps) (limits : List Nat) (p : HecProcess) : Prop :=
  Relation.ReflTransGen (ProcessNext deps limits) (HecProcess.init limits) p

/-- A run of steps, each of a blackhole, from `p`; `none` when one of them is not enabled. -/
def processRun (deps : Deps) (limits : List Nat) :
    HecProcess → List (Nat × HecAction) → Option HecProcess
  | p, [] => some p
  | p, ba :: bas => (processStep deps limits p ba.1 ba.2).bind (processRun deps limits · bas)

theorem processRun_reachable {deps : Deps} {limits : List Nat} {p p' : HecProcess}
    (bas : List (Nat × HecAction)) (hp : ProcessReachable deps limits p)
    (h : processRun deps limits p bas = some p') : ProcessReachable deps limits p' := by
  induction bas generalizing p with
  | nil => cases h; exact hp
  | cons ba bas ih =>
    obtain ⟨p₁, h₁, h'⟩ := Option.bind_eq_some.mp h
    exact ih (hp.tail ⟨ba.1, ba.2, h₁⟩) h'

end Lading.Blackhole.SplunkHec
