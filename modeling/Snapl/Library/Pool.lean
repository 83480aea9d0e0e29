import Snapl.Library.Script
import Snapl.Library.Transition

/-!
# Clients of one server

Several commands are under way at once.  Each is a script of requests; the
server takes one request at a time, of whichever client comes next, and things
happen to its state between requests.  A client remembers the requests it made,
each with the state it met.
-/

namespace Snapl.Library

/-- A command under way: the requests it made, and the script that is left. -/
structure Client
    (Command State Request : Type) (Answer : Request → Type) (Failure Result : Type) where
  command : Command
  asked : List (State × Request)
  script : Script Request Answer Failure Result

/-- Clients that share a server. -/
structure Pool
    (Command State Request : Type) (Answer : Request → Type) (Failure Result : Type) where
  state : State
  clients : List (Client Command State Request Answer Failure Result)

/-- What comes next: a client's request, or something that happens. -/
inductive Move (Happening : Type) where
  | client (index : Nat)
  | happens (happening : Happening)

/-- How requests are served, and what happenings do. -/
structure Server (State Request : Type) (Answer : Request → Type) (Happening : Type) where
  serve : (request : Request) → State → Answer request × State
  happen : Happening → State → State

variable {Command State Request Happening : Type} {Answer : Request → Type}
variable {Failure Result : Type}

namespace Client

variable (client : Client Command State Request Answer Failure Result)

/-- The client has its request served. -/
def served
    (server : Server State Request Answer Happening) (state : State) (request : Request)
    (next : Answer request → Script Request Answer Failure Result) :
    Client Command State Request Answer Failure Result where
  command := client.command
  asked := client.asked ++ [(state, request)]
  script := next (server.serve request state).1

/-- The result of a client that has ended without a failure. -/
def result? : Option Result :=
  match client.script with
  | .ends (.ok result) => some result
  | _ => none

end Client

namespace Pool

/-- Commands none of which has made a request. -/
def start
    (script : Command → Script Request Answer Failure Result) (state : State)
    (commands : List Command) : Pool Command State Request Answer Failure Result where
  state := state
  clients := commands.map fun command => ⟨command, [], script command⟩

/-- Serve the next request of one client, or let something happen. -/
def step (server : Server State Request Answer Happening) :
    Transition (Pool Command State Request Answer Failure Result) (Move Happening)
  | pool, .happens happening => some { pool with state := server.happen happening pool.state }
  | pool, .client index =>
      match pool.clients[index]? with
      | none => none
      | some client =>
          match client.script with
          | .ends _ => none
          | .asks request next => some {
              state := (server.serve request pool.state).2
              clients := pool.clients.set index
                (client.served server pool.state request next) }

variable {server : Server State Request Answer Happening}
variable {pool next : Pool Command State Request Answer Failure Result}

/-- A step of a pool: what happens, or the request of a client. -/
inductive Steps
    (server : Server State Request Answer Happening)
    (pool : Pool Command State Request Answer Failure Result) :
    Move Happening → Pool Command State Request Answer Failure Result → Prop
  | happens (happening : Happening) :
      Steps server pool (.happens happening)
        { pool with state := server.happen happening pool.state }
  | client {index : Nat} {client : Client Command State Request Answer Failure Result}
      {request : Request} {rest : Answer request → Script Request Answer Failure Result}
      (found : pool.clients[index]? = some client) (asks : client.script = .asks request rest) :
      Steps server pool (.client index) {
        state := (server.serve request pool.state).2
        clients := pool.clients.set index (client.served server pool.state request rest) }

theorem steps_of_step
    {move : Move Happening} (moves : step server pool move = some next) :
    Steps server pool move next := by
  cases move with
  | happens happening =>
      cases moves
      exact .happens happening
  | client index =>
      rw [step] at moves
      rcases found : pool.clients[index]? with _ | client
      · simp only [found] at moves
        cases moves
      · rcases asks : client.script with ending | ⟨request, rest⟩
        · simp only [found, asks] at moves
          cases moves
        · simp only [found, asks] at moves
          cases moves
          exact .client found asks

/-- A move of another leaves a client as it is. -/
theorem client_kept
    {move : Move Happening} {index : Nat} (moves : step server pool move = some next)
    (other : move ≠ .client index) : next.clients[index]? = pool.clients[index]? := by
  cases steps_of_step moves with
  | happens happening => rfl
  | @client moved client request rest found asks =>
      refine List.getElem?_set_ne ?_
      rintro rfl
      exact other rfl

/-- A move of a client has its next request served. -/
theorem client_moved
    {index : Nat} {client : Client Command State Request Answer Failure Result}
    (found : pool.clients[index]? = some client)
    (moves : step server pool (.client index) = some next) :
    ∃ request rest, client.script = .asks request rest ∧
      next.state = (server.serve request pool.state).2 ∧
      next.clients[index]? = some (client.served server pool.state request rest) := by
  cases steps_of_step moves with
  | @client _ moved request rest located asks =>
      cases located.symm.trans found
      refine ⟨request, rest, asks, rfl, ?_⟩
      obtain ⟨bound, -⟩ := List.getElem?_eq_some_iff.1 found
      exact List.getElem?_set_self bound

def commands (pool : Pool Command State Request Answer Failure Result) : List Command :=
  pool.clients.map Client.command

/-- A step keeps the commands. -/
theorem commands_step
    {move : Move Happening} (moves : step server pool move = some next) :
    next.commands = pool.commands := by
  cases steps_of_step moves with
  | happens happening => rfl
  | @client index client request rest found asks =>
      obtain ⟨bound, same⟩ := List.getElem?_eq_some_iff.1
        (show (pool.clients.map Client.command)[index]? = some client.command by
          rw [List.getElem?_map, found]
          rfl)
      rw [commands, commands, List.map_set]
      show (pool.clients.map Client.command).set index client.command = _
      rw [← same]
      exact List.set_getElem_self bound

theorem commands_reached
    (pool : Pool Command State Request Answer Failure Result) (moves : List (Move Happening)) :
    ((step server).reached pool moves).commands = pool.commands := by
  induction moves generalizing pool with
  | nil => rfl
  | cons move rest inductionHypothesis =>
      rw [Transition.reached]
      rcases taken : step server pool move with _ | next
      · rfl
      · exact (inductionHypothesis next).trans (commands_step taken)

theorem commands_start
    (script : Command → Script Request Answer Failure Result) (state : State)
    (commands : List Command) : (start script state commands).commands = commands := by
  simp [start, Pool.commands, Function.comp_def]

end Pool

end Snapl.Library
