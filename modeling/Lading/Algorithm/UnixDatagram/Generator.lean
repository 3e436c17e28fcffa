import Lading.Algorithm.UnixDatagram.Spin

/-! `UnixDatagram::spin` and the children it joins as one transition system, in which the
steps of the parent, of each child and of each block cache thread interleave freely. -/

namespace Lading.Generator.UnixDatagram

/-- `unix_datagram::Error` as `UnixDatagram::spin` returns it: its own `StartupSend`, its own
`Child` for a child task that failed (a `JoinError`, by its message), or the error a child
returned, unchanged. -/
inductive SpinError where
  | startupSend
  | child (joinError : String)
  | returned (e : Error)
deriving DecidableEq, Repr

/-- Where `UnixDatagram::spin` is. -/
inductive ParentPhase where
  /-- before `self.startup.send(())?` -/
  | starting
  /-- at `self.shutdown.recv().await` -/
  | waiting
  /-- at `join_all(self.handles.drain(..)).await` -/
  | joining
  | returned (result : Ret SpinError Unit)
deriving DecidableEq, Repr

/-- A datagram generator: the parent, whether the startup broadcast has been sent, whether
the shutdown signal has fired, and the children in spawn order. -/
structure GeneratorState where
  parent : ParentPhase
  startupSent : Bool
  shutdown : Bool
  children : List SpinState
deriving DecidableEq, Repr

/-- The `bytes_written` counter, which every child increments under the generator's labels. -/
def GeneratorState.bytesWritten (g : GeneratorState) : Nat :=
  (g.children.map (·.bytesWritten)).sum

/-- The `packets_sent` counter, which every child increments under the generator's labels. -/
def GeneratorState.packetsSent (g : GeneratorState) : Nat :=
  (g.children.map (·.packetsSent)).sum

/-- The generator as `UnixDatagram::new` leaves it with `n` children spawned and not yet
polled. -/
def GeneratorState.init (n : Nat) : GeneratorState :=
  ⟨.starting, false, false, List.replicate n UnixDatagram.init⟩

/-- A step of the parent, of the process driver, or of one child. -/
inductive GeneratorAction where
  /-- `self.startup.send(())?` -/
  | sendStartup
  /-- the process driver signals shutdown -/
  | signal
  /-- the parent's `self.shutdown.recv().await` resolves -/
  | wake
  /-- `join_all` resolves, every child having returned -/
  | join
  /-- child `i`, or its environment, takes action `a` -/
  | child (i : Nat) (a : Action)
  /-- child `i`'s block cache thread ends -/
  | cacheEnds (i : Nat)

/-- Whether the child action `a` can happen. The startup receiver's `recv()` returns `Ok(())`
once the single value is sent: one value in a channel of capacity one never lags, and the
sender lives in the parent until every child has returned. The child's `shutdown.recv()`
resolves once the signal has fired. -/
def GeneratorState.admits (g : GeneratorState) : Action → Bool
  | .startup (.ok _) => g.startupSent
  | .startup (.error _) => false
  | .shutdown => g.shutdown
  | _ => true

/-- A child that has returned has dropped its startup receiver. -/
def Phase.isReturned : Phase → Bool
  | .returned _ => true
  | _ => false

/-- `join_all`: the children's results in spawn order, once every child has returned. -/
def joinAll : List SpinState → Option (List (Ret Error Unit))
  | [] => some []
  | c :: cs => match c.phase with
    | .returned r => (joinAll cs).map (r :: ·)
    | _ => none

/-- The `for res in join_all(..)` loop of `UnixDatagram::spin`: the first result, in spawn
order, other than `Ok(Ok(()))` is returned. -/
def joinResults : List (Ret Error Unit) → Ret SpinError Unit
  | [] => .ok ()
  | .ok () :: rs => joinResults rs
  | .err e :: _ => .err (.returned e)
  | .panic m :: _ => .err (.child m)

/-- One transition of the generator, for the emission order `emit i` of child `i`'s block
cache. `startup.send` fails when no receiver is left: `UnixDatagram::new` drops its own
`_startup_rx`, and each child holds its receiver until it returns. -/
def generatorStep (emit : Nat → Nat → Block) (g : GeneratorState) :
    GeneratorAction → Option GeneratorState
  | .sendStartup =>
    if g.parent = .starting then
      some (if g.children.all (·.phase.isReturned) then
          { g with parent := .returned (.err .startupSend) }
        else { g with parent := .waiting, startupSent := true })
    else none
  | .signal => some { g with shutdown := true }
  | .wake => if g.parent = .waiting ∧ g.shutdown then some { g with parent := .joining } else none
  | .join =>
    if g.parent = .joining then
      (joinAll g.children).map fun rs => { g with parent := .returned (joinResults rs) }
    else none
  | .child i a =>
    if g.admits a then
      match g.children[i]? with
      | some c => (step (emit i) c a).map fun c' => { g with children := g.children.set i c' }
      | none => none
    else none
  | .cacheEnds i =>
    match g.children[i]? with
    | some c => (cacheEnd c).map fun c' => { g with children := g.children.set i c' }
    | none => none

/-- Some transition takes `g` to `g'`. -/
def GeneratorNext (emit : Nat → Nat → Block) (g g' : GeneratorState) : Prop :=
  ∃ a, generatorStep emit g a = some g'

/-- The states a generator with `n` children can reach. -/
def GeneratorReachable (emit : Nat → Nat → Block) (n : Nat) (g : GeneratorState) : Prop :=
  Relation.ReflTransGen (GeneratorNext emit) (GeneratorState.init n) g

/-- A run of transitions from `g`; `none` when one of them is not enabled. -/
def generatorRun (emit : Nat → Nat → Block) :
    GeneratorState → List GeneratorAction → Option GeneratorState
  | g, [] => some g
  | g, a :: as => (generatorStep emit g a).bind (generatorRun emit · as)

theorem generatorRun_reachable {emit : Nat → Nat → Block} {n : Nat} {g g' : GeneratorState}
    (as : List GeneratorAction) (hg : GeneratorReachable emit n g)
    (h : generatorRun emit g as = some g') : GeneratorReachable emit n g' := by
  induction as generalizing g with
  | nil => cases h; exact hg
  | cons a as ih =>
    obtain ⟨g₁, h₁, h'⟩ := Option.bind_eq_some.mp h
    exact ih (hg.tail ⟨a, h₁⟩) h'

end Lading.Generator.UnixDatagram
