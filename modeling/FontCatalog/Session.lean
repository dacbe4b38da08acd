import FontCatalog.Walk

/-!
# Several walks at once

A session opens walks and moves them on in any order. Walks are known by the order in which they
were opened. They share one document, or each reads its own from a file. Every walk has its own
settings and its own view of which files are available.
-/

namespace FontCatalog

/-- Where the walks of a session get their document from. -/
inductive Source where
  | shared (d : Document)
  | file (files : Files.Tree)

structure Session where
  source : Source
  /-- The settings of walks that are opened without settings of their own. -/
  config : Config
  /-- The walks in the order in which they were opened. Closed ones have left their place empty. -/
  walks : List (Option Walk)

namespace Session

inductive Action where
  | open
  | openWith (config : Config)
  /-- Ask how many walks hold the shared document. -/
  | holders
  | next (walk : Nat)
  | nth (walk n : Nat)
  | drain (walk : Nat)
  | exhausted (walk : Nat)
  | close (walk : Nat)
  deriving DecidableEq, Repr

inductive Answer where
  | opened (walk : Nat) (log : List Log.Entry)
  | holders (count : Nat)
  | stepped (record : Option Record) (checked : List Path) (log : List Log.Entry)
  | drained (records : List Record) (checked : List Path) (log : List Log.Entry)
  | exhausted (b : Bool)
  | closed
  /-- There is no such walk, or it has been closed. -/
  | unknownWalk
  /-- The document of a new walk broke reading down, which ends the session. -/
  | broken (b : Document.Breakdown)

def start (source : Source) (config : Config) : Session := ⟨source, config, []⟩

-- A new walk with the log of opening it.
def newWalk (s : Session) (c : Config) : Except Document.Breakdown (Walk × List Log.Entry) :=
  match s.source with
  | .shared d => .ok (Walk.ofDocument d c, [])
  | .file files => Walk.start files c

-- The session with one more walk.
def openWalk (s : Session) (c : Config) : Session × Answer :=
  match s.newWalk c with
  | .ok (w, log) => ({ s with walks := s.walks ++ [some w] }, .opened s.walks.length log)
  | .error b => (s, .broken b)

-- The number of walks that hold the shared document.
def holderCount (s : Session) : Nat :=
  match s.source with
  | .shared _ => s.walks.countP fun w => w.any (·.document.isSome)
  | .file _ => 0

-- A walk that is open.
def walk? (s : Session) (i : Nat) : Option Walk := (s.walks[i]?).join

def setWalk (s : Session) (i : Nat) (w : Option Walk) : Session :=
  { s with walks := s.walks.set i w }

-- The walk after some steps, the first of which begins at `w`.
def lastWalk (w : Walk) (steps : List Step) : Walk := (steps.getLast?).elim w (·.walk)

-- One action on a session. `available i` is the view of the walk `i`.
def act (available : Nat → Path → Bool) (s : Session) : Action → Session × Answer
  | .open => s.openWalk s.config
  | .openWith c => s.openWalk c
  | .holders => (s, .holders s.holderCount)
  | .next i =>
    match s.walk? i with
    | none => (s, .unknownWalk)
    | some w =>
      let step := w.next (available i)
      (s.setWalk i (some step.walk), .stepped step.record step.checked step.log)
  | .nth i n =>
    match s.walk? i with
    | none => (s, .unknownWalk)
    | some w =>
      let step := w.nth (available i) n
      (s.setWalk i (some step.walk), .stepped step.record step.checked step.log)
  | .drain i =>
    match s.walk? i with
    | none => (s, .unknownWalk)
    | some w =>
      let steps := w.steps (available i)
      (s.setWalk i (some (lastWalk w steps)),
        .drained (steps.filterMap (·.record)) (steps.flatMap (·.checked)) (steps.flatMap (·.log)))
  | .exhausted i =>
    match s.walk? i with
    | none => (s, .unknownWalk)
    | some w => (s, .exhausted w.isExhausted)
  | .close i =>
    match s.walk? i with
    | none => (s, .unknownWalk)
    | some _ => (s.setWalk i none, .closed)

-- Actions in turn, with their answers, up to one that ends the session.
def runEach (available : Nat → Path → Bool) : Session → List Action → Session × List Answer
  | s, [] => (s, [])
  | s, a :: rest =>
    match s.act available a with
    | (s, .broken b) => (s, [.broken b])
    | (s, answer) =>
      let (s, answers) := runEach available s rest
      (s, answer :: answers)

-- Actions in turn, where all walks have the same view.
def run (available : Path → Bool) : Session → List Action → Session × List Answer :=
  runEach fun _ => available

end Session

end FontCatalog
