import Mathlib.Data.List.Basic
import Mathlib.Data.List.Perm.Basic
import Snapl.Library.Interleaving
import Snapl.Library.Pool

/-!
# Serial orders of interleaved commands

Each command has an effect on what is seen of the server's state.  It takes
effect at one request: at a write, or at a read that finds nothing to change.
A command that replaces what it read takes effect only if nobody wrote between
its read and its write.

A pool in which nobody writes while another client is about to replace what it
read leaves what some serial order of its commands leaves.
-/

namespace Snapl.Library

variable {Command State View Request Happening : Type} {Answer : Request → Type}
variable {Failure Result Next : Type}

/-- A server, what is seen of its state, and which requests change that. -/
structure ViewedServer
    (State View Request : Type) (Answer : Request → Type) (Happening : Type)
    extends Server State Request Answer Happening where
  view : State → View
  /-- The request, answered so, may have changed what is seen. -/
  writes : (request : Request) → Answer request → Bool
  /-- The request replaces what was read before. -/
  replaces : Request → Bool
  /-- What is seen when there is nothing left to replace. -/
  gone : View → Bool
  view_happen : ∀ happening state, view (happen happening state) = view state

/-! ## How far a command has come -/

/-- How far a command has come. -/
inductive Phase (View : Type) where
  | fresh
  /-- It read this, and is about to replace it. -/
  | held (seen : View)
  /-- It read this, and has nothing to change. -/
  | settled (seen : View)
  | written

/-- How a request takes a command further, by what is seen before and after it. -/
inductive Phase.Moves (effect : View → View) : Phase View → View → View → Bool → Phase View → Prop
  | reads (view : View) : Moves effect .fresh view view false .fresh
  | holds (view : View) : Moves effect .fresh view view false (.held view)
  | settles {view : View} (fixed : effect view = view) :
      Moves effect .fresh view view false (.settled view)
  | writes (view : View) : Moves effect .fresh view (effect view) true .written
  | replaces (view : View) : Moves effect (.held view) view (effect view) true .written
  | refused (seen view : View) : Moves effect (.held seen) view view false .fresh
  | rests (seen view : View) : Moves effect (.settled seen) view view false (.settled seen)
  | written (view : View) : Moves effect .written view view false .written

/-- A request writes, finds nothing to change, comes before that, or comes after a write. -/
theorem Phase.Moves.inversion
    {effect : View → View} {phase later : Phase View} {before after : View} {wrote : Bool}
    (moves : phase.Moves effect before after wrote later) :
    (wrote = true ∧ after = effect before ∧ later = .written ∧
        (phase = .fresh ∨ phase = .held before)) ∨
      (wrote = false ∧ after = before ∧ ∃ seen, later = .settled seen ∧
        (phase = .settled seen ∨ phase = .fresh ∧ seen = before ∧ effect seen = seen)) ∨
      (wrote = false ∧ after = before ∧ (phase = .fresh ∨ ∃ seen, phase = .held seen) ∧
        (later = .fresh ∨ later = .held before)) ∨
      (wrote = false ∧ after = before ∧ phase = .written ∧ later = .written) := by
  cases moves with
  | reads => exact Or.inr (Or.inr (Or.inl ⟨rfl, rfl, Or.inl rfl, Or.inl rfl⟩))
  | holds => exact Or.inr (Or.inr (Or.inl ⟨rfl, rfl, Or.inl rfl, Or.inr rfl⟩))
  | settles fixed => exact Or.inr (Or.inl ⟨rfl, rfl, before, rfl, Or.inr ⟨rfl, rfl, fixed⟩⟩)
  | writes => exact Or.inl ⟨rfl, rfl, rfl, Or.inl rfl⟩
  | replaces => exact Or.inl ⟨rfl, rfl, rfl, Or.inr rfl⟩
  | refused seen => exact Or.inr (Or.inr (Or.inl ⟨rfl, rfl, Or.inr ⟨seen, rfl⟩, Or.inl rfl⟩))
  | rests seen => exact Or.inr (Or.inl ⟨rfl, rfl, seen, rfl, Or.inl rfl⟩)
  | written => exact Or.inr (Or.inr (Or.inr ⟨rfl, rfl, rfl, rfl⟩))

/-- A command that has not taken effect ends in a failure. -/
def Phase.Ends (phase : Phase View) (ending : Except Failure Result) : Prop :=
  match phase with
  | .fresh | .held _ => ∃ failure, ending = .error failure
  | .settled _ | .written => True

/-- What is seen while a command is in this phase, if nobody interferes. -/
def Phase.Undisturbed (gone : View → Bool) (phase : Phase View) (view : View) : Prop :=
  match phase with
  | .held seen => view = seen ∨ gone view = true
  | _ => True

section Follows

variable (server : ViewedServer State View Request Answer Happening)

/-- A request takes a command from one phase to another. -/
def Phase.Goes
    (effect : View → View) (phase : Phase View) (state : State) (request : Request)
    (later : Phase View) : Prop :=
  (∀ seen, phase = .held seen → server.replaces request = true) ∧
    phase.Moves effect (server.view state) (server.view (server.serve request state).2)
      (server.writes request (server.serve request state).1) later

/-- From this phase on, a script takes this effect at one of its requests. -/
def Follows
    (effect : View → View) (post : Phase View → Except Failure Result → Prop)
    (script : Script Request Answer Failure Result) (phase : Phase View) : Prop :=
  script.Obeys server.serve (fun phase state => phase.Undisturbed server.gone (server.view state))
    (Phase.Goes server effect) post phase

variable {server} {effect : View → View}

/-- A script that has read nothing yet asks a request. -/
theorem follows_asks
    {post : Phase View → Except Failure Result → Prop} {request : Request}
    {next : Answer request → Script Request Answer Failure Result}
    (answers : ∀ state, ∃ later,
      Phase.Moves effect .fresh (server.view state) (server.view (server.serve request state).2)
          (server.writes request (server.serve request state).1) later ∧
        Follows server effect post (next (server.serve request state).1) later) :
    Follows server effect post (.asks request next) .fresh := by
  intro state _
  obtain ⟨later, moves, follows⟩ := answers state
  exact ⟨later, ⟨nofun, moves⟩, follows⟩

/-- A script that holds what it read asks to replace it. -/
theorem follows_replaces
    {post : Phase View → Except Failure Result → Prop} {request : Request} {seen : View}
    {next : Answer request → Script Request Answer Failure Result}
    (replaces : server.replaces request = true)
    (answers : ∀ state, server.view state = seen ∨ server.gone (server.view state) = true →
      ∃ later,
      Phase.Moves effect (.held seen) (server.view state)
          (server.view (server.serve request state).2)
          (server.writes request (server.serve request state).1) later ∧
        Follows server effect post (next (server.serve request state).1) later) :
    Follows server effect post (.asks request next) (.held seen) := by
  intro state undisturbed
  obtain ⟨later, moves, follows⟩ := answers state undisturbed
  exact ⟨later, ⟨fun _ _ => replaces, moves⟩, follows⟩

/-- A request changes nothing that is seen. -/
def Quiet (server : ViewedServer State View Request Answer Happening) (request : Request) : Prop :=
  ∀ state, server.view (server.serve request state).2 = server.view state ∧
    server.writes request (server.serve request state).1 = false

/-- A command that took effect may go on with quiet requests. -/
theorem follows_of_quiet
    {script : Script Request Answer Failure Result} (quiet : script.Asks (Quiet server))
    {phase : Phase View} (effective : phase = .written ∨ ∃ seen, phase = .settled seen) :
    Follows server effect (fun later ending => later.Ends ending) script phase := by
  refine Script.Obeys.of_asks quiet ?_ ?_
  · intro state request silent _
    obtain ⟨same, unwritten⟩ := silent state
    rw [Phase.Goes, same, unwritten]
    rcases effective with rfl | ⟨seen, rfl⟩
    · exact ⟨nofun, .written _⟩
    · exact ⟨nofun, .rests seen _⟩
  · rcases effective with rfl | ⟨seen, rfl⟩
    · exact fun _ => trivial
    · exact fun _ => trivial

/-- A command without effect is settled by its first request. -/
theorem follows_of_idle
    {request : Request} {next : Answer request → Script Request Answer Failure Result}
    (idle : ∀ view, effect view = view)
    (quiet : (Script.asks request next).Asks (Quiet server)) :
    Follows server effect (fun later ending => later.Ends ending) (.asks request next) .fresh := by
  refine follows_asks fun state => ?_
  obtain ⟨same, silent⟩ := quiet.1 state
  rw [same, silent]
  exact ⟨.settled _, .settles (idle _), follows_of_quiet (quiet.2 _) (Or.inr ⟨_, rfl⟩)⟩

end Follows

/-! ## Orders -/

section Orders

variable (effect : Command → View → View) (initial : View)

/-- What a serial order of commands leaves. -/
def outcome (order : List Command) : View :=
  order.foldl (fun view command => effect command view) initial

/-- What is seen at some point of a serial order. -/
def Visited (order : List Command) (view : View) : Prop :=
  ∃ before after, order = before ++ after ∧ outcome effect initial before = view

variable {effect initial}

theorem outcome_append (first second : List Command) :
    outcome effect initial (first ++ second) =
      outcome effect (outcome effect initial first) second := List.foldl_append

theorem outcome_concat (order : List Command) (command : Command) :
    outcome effect initial (order ++ [command]) =
      effect command (outcome effect initial order) := by
  simp [outcome]

theorem visited_end (order : List Command) :
    Visited effect initial order (outcome effect initial order) :=
  ⟨order, [], by simp, rfl⟩

theorem Visited.concat
    {order : List Command} {view : View} (visited : Visited effect initial order view)
    (command : Command) : Visited effect initial (order ++ [command]) view := by
  obtain ⟨before, after, rfl, met⟩ := visited
  exact ⟨before, after ++ [command], by simp, met⟩

/-- A command without effect on what was visited may be put there. -/
theorem exists_insert
    {order : List Command} {seen : View} {command : Command}
    (visited : Visited effect initial order seen) (fixed : effect command seen = seen) :
    ∃ longer, List.Perm longer (command :: order) ∧
      outcome effect initial longer = outcome effect initial order ∧
      ∀ view, Visited effect initial order view → Visited effect initial longer view := by
  obtain ⟨before, after, rfl, met⟩ := visited
  have idle : ∀ rest, outcome effect initial (before ++ command :: rest) =
      outcome effect initial (before ++ rest) := by
    intro rest
    rw [outcome_append, outcome_append, met]
    show outcome effect (effect command seen) rest = outcome effect seen rest
    rw [fixed]
  refine ⟨before ++ command :: after, List.perm_middle, idle after, ?_⟩
  · rintro view ⟨first, rest, split, rfl⟩
    rcases List.append_eq_append_iff.1 split with ⟨middle, rfl, rfl⟩ | ⟨middle, rfl, rfl⟩
    · refine ⟨before ++ command :: middle, rest, by simp, ?_⟩
      exact idle middle
    · exact ⟨first, middle ++ command :: after, by simp, rfl⟩

end Orders

/-! ## Pools -/

section Pools

variable (server : ViewedServer State View Request Answer Happening)
variable (effect : Command → View → View) (initial : View)

/-- The client made a write that was accepted. -/
def Client.wrote (client : Client Command State Request Answer Failure Result) : Bool :=
  client.asked.any fun request => server.writes request.2 (server.serve request.2 request.1).1

/-- The command of a client that wrote, or ended without a failure. -/
def Client.effective?
    (client : Client Command State Request Answer Failure Result) : Option Command :=
  if client.wrote server = true ∨ client.result?.isSome = true then some client.command else none

/-- The client is about to replace what it read. -/
def Client.replaces (client : Client Command State Request Answer Failure Result) : Bool :=
  match client.script with
  | .ends _ => false
  | .asks request _ => server.replaces request

/-- The commands that took effect. -/
def Pool.effective
    (pool : Pool Command State Request Answer Failure Result) : List Command :=
  pool.clients.filterMap (Client.effective? server)

/--
Nobody writes while another client is about to replace what it read, unless
nothing is left to replace.
-/
def Pool.calm
    (pool : Pool Command State Request Answer Failure Result) : Move Happening → Bool
  | .happens _ => true
  | .client index =>
      match pool.clients[index]? with
      | none => true
      | some client =>
          match client.script with
          | .ends _ => true
          | .asks request _ =>
              !server.writes request (server.serve request pool.state).1 ||
                server.gone (server.view (server.serve request pool.state).2) ||
                (pool.clients.eraseIdx index).all fun other => !other.replaces server

/-- What a client's phase says of the serial order so far, and of what is seen. -/
structure Stands
    (order : List Command) (state : State)
    (client : Client Command State Request Answer Failure Result) (phase : Phase View) : Prop where
  follows : Follows server (effect client.command)
    (fun later ending => later.Ends ending) client.script phase
  wrote : client.wrote server = true ↔ phase = .written
  undisturbed : phase.Undisturbed server.gone (server.view state)
  settled : ∀ seen, phase = .settled seen →
    effect client.command seen = seen ∧ Visited effect initial order seen

/-- The commands that took effect have a serial order that leaves what is seen. -/
structure Linearized
    (pool : Pool Command State Request Answer Failure Result) (order : List Command) : Prop where
  perm : order.Perm (pool.effective server)
  leaves : outcome effect initial order = server.view pool.state
  stands : ∀ (index : Nat) client, pool.clients[index]? = some client →
    ∃ phase, Stands server effect initial order pool.state client phase

end Pools

/-! ## Steps -/

section Lists

variable {Item Image : Type} {image : Item → Option Image} {items : List Item} {index : Nat}
variable {item later : Item}

theorem filterMap_set_same
    (found : items[index]? = some item) (same : image later = image item) :
    (items.set index later).filterMap image = items.filterMap image := by
  induction items generalizing index with
  | nil => rfl
  | cons first rest inductionHypothesis =>
      rcases index with _ | index
      · cases found
        simp only [List.set_cons_zero, List.filterMap_cons, same]
      · simp only [List.set_cons_succ, List.filterMap_cons, inductionHypothesis found]

theorem filterMap_set_append
    {value : Image} (found : items[index]? = some item) (before : image item = none)
    (after : image later = some value) :
    ((items.set index later).filterMap image).Perm (items.filterMap image ++ [value]) := by
  have added : ((items.set index later).filterMap image).Perm
      (items.filterMap image ++ (image later).toList) := filterMap_set_perm image found before
  rwa [after] at added

end Lists

section Steps

variable {server : ViewedServer State View Request Answer Happening}
variable {effect : Command → View → View} {initial : View}
variable {pool : Pool Command State Request Answer Failure Result} {order : List Command}
variable {client : Client Command State Request Answer Failure Result} {phase : Phase View}

/-- A client that is not served stands as well after another one's step. -/
theorem Stands.later
    {state after : State} {longer : List Command}
    (stands : Stands server effect initial order state client phase)
    (visited : ∀ seen, Visited effect initial order seen → Visited effect initial longer seen)
    (calm : server.view after = server.view state ∨ server.gone (server.view after) = true ∨
      client.replaces server = false) :
    ∃ later, Stands server effect initial longer after client later := by
  cases phase with
  | fresh => exact ⟨.fresh, stands.follows, stands.wrote, trivial, nofun⟩
  | written => exact ⟨.written, stands.follows, stands.wrote, trivial, nofun⟩
  | settled seen =>
      refine ⟨.settled seen, stands.follows, stands.wrote, trivial, ?_⟩
      intro other same
      obtain ⟨fixed, met⟩ := stands.settled other same
      exact ⟨fixed, visited other met⟩
  | held seen =>
      rcases calm with unchanged | left | idle
      · refine ⟨.held seen, stands.follows, stands.wrote, ?_, nofun⟩
        rw [unchanged]
        exact stands.undisturbed
      · exact ⟨.held seen, stands.follows, stands.wrote, Or.inr left, nofun⟩
      · have follows := stands.follows
        rcases script : client.script with ending | ⟨request, next⟩
        · -- a script that ended in a failure replaces nothing any more
          rw [script] at follows
          refine ⟨.fresh, ?_, ?_, trivial, nofun⟩
          · rw [script]
            exact follows
          · simpa using stands.wrote
        · rw [script] at follows
          obtain ⟨-, ⟨replaces, -⟩, -⟩ := follows state stands.undisturbed
          rw [Client.replaces, script] at idle
          exact absurd (replaces seen rfl) (by simp [idle])

theorem wrote_served
    (state : State) (request : Request)
    (next : Answer request → Script Request Answer Failure Result) :
    (client.served server.toServer state request next).wrote server =
      (client.wrote server || server.writes request (server.serve request state).1) := by
  simp [Client.wrote, Client.served]

theorem effective?_of_wrote (wrote : client.wrote server = true) :
    client.effective? server = some client.command := if_pos (Or.inl wrote)

/-- A client that has a request to make has not ended. -/
theorem effective?_of_asks
    {request : Request} {next : Answer request → Script Request Answer Failure Result}
    (asks : client.script = .asks request next) (silent : client.wrote server = false) :
    client.effective? server = none := by
  refine if_neg ?_
  simp [silent, Client.result?, asks]

/-- A command that has not taken effect is not counted. -/
theorem effective?_of_ineffective
    {state : State} (stands : Stands server effect initial order state client phase)
    (ineffective : phase = .fresh ∨ ∃ seen, phase = .held seen) :
    client.effective? server = none := by
  have silent : client.wrote server = false := by
    rw [← Bool.not_eq_true, stands.wrote]
    rcases ineffective with rfl | ⟨seen, rfl⟩
    · nofun
    · nofun
  have follows := stands.follows
  rcases script : client.script with ending | ⟨request, next⟩
  · rw [script] at follows
    have failed : ∃ failure, ending = .error failure := by
      rcases ineffective with rfl | ⟨seen, rfl⟩
      · exact follows
      · exact follows
    obtain ⟨failure, rfl⟩ := failed
    refine if_neg ?_
    simp [silent, Client.result?, script]
  · exact effective?_of_asks script silent

/-- A write that is calm leaves nothing to replace, or meets nobody about to replace. -/
theorem others_of_calm
    {index : Nat} {request : Request}
    {rest : Answer request → Script Request Answer Failure Result}
    (found : pool.clients[index]? = some client) (asks : client.script = .asks request rest)
    (calm : pool.calm server (.client index) = true)
    (writes : server.writes request (server.serve request pool.state).1 = true) :
    server.gone (server.view (server.serve request pool.state).2) = true ∨
      ∀ (other : Nat) otherClient, other ≠ index → pool.clients[other]? = some otherClient →
        otherClient.replaces server = false := by
  simp only [Pool.calm, found, asks, writes, Bool.not_true, Bool.false_or, Bool.or_eq_true,
    List.all_eq_true, Bool.not_eq_true'] at calm
  refine calm.imp_right fun idle => ?_
  intro other otherClient different met
  exact idle otherClient (List.mem_eraseIdx_iff_getElem?.2 ⟨other, different, met⟩)

/-- Serving a client, when the rest is known of the served one. -/
theorem Linearized.of_served
    {index : Nat} {request : Request}
    {rest : Answer request → Script Request Answer Failure Result} {longer : List Command}
    {later : Phase View}
    (linearized : Linearized server effect initial pool order)
    (found : pool.clients[index]? = some client)
    (perm : longer.Perm ((pool.clients.set index
      (client.served server.toServer pool.state request rest)).filterMap
        (Client.effective? server)))
    (leaves : outcome effect initial longer =
      server.view (server.serve request pool.state).2)
    (visited : ∀ seen, Visited effect initial order seen → Visited effect initial longer seen)
    (stands : Stands server effect initial longer (server.serve request pool.state).2
      (client.served server.toServer pool.state request rest) later)
    (calm : server.view (server.serve request pool.state).2 = server.view pool.state ∨
      server.gone (server.view (server.serve request pool.state).2) = true ∨
      ∀ (other : Nat) otherClient, other ≠ index → pool.clients[other]? = some otherClient →
        otherClient.replaces server = false) :
    Linearized server effect initial
      ⟨(server.serve request pool.state).2,
        pool.clients.set index (client.served server.toServer pool.state request rest)⟩ longer where
  perm := perm
  leaves := leaves
  stands := by
    intro other otherClient met
    by_cases same : other = index
    · subst same
      rw [List.getElem?_set_self (List.getElem?_eq_some_iff.1 found).1] at met
      cases met
      exact ⟨later, stands⟩
    · rw [List.getElem?_set_ne (Ne.symm same)] at met
      obtain ⟨otherPhase, otherStands⟩ := linearized.stands other otherClient met
      refine otherStands.later visited ?_
      rcases calm with unchanged | left | idle
      · exact Or.inl unchanged
      · exact Or.inr (Or.inl left)
      · exact Or.inr (Or.inr (idle other otherClient same met))

section Served

variable {index : Nat} {request : Request} {later : Phase View}
variable {rest : Answer request → Script Request Answer Failure Result}
variable (linearized : Linearized server effect initial pool order)
variable (found : pool.clients[index]? = some client) (asks : client.script = .asks request rest)
variable
  (follows : Follows server (effect client.command) (fun later ending => later.Ends ending)
    (rest (server.serve request pool.state).1) later)

include linearized found follows

/-- A command writes: it comes last in the order. -/
theorem Linearized.write
    (silent : client.wrote server = false) (asks : client.script = .asks request rest)
    (wrote : server.writes request (server.serve request pool.state).1 = true)
    (changed : server.view (server.serve request pool.state).2 =
      effect client.command (server.view pool.state))
    (calm : server.gone (server.view (server.serve request pool.state).2) = true ∨
      ∀ (other : Nat) otherClient, other ≠ index → pool.clients[other]? = some otherClient →
        otherClient.replaces server = false) (last : later = .written) :
    Linearized server effect initial
      ⟨(server.serve request pool.state).2,
        pool.clients.set index (client.served server.toServer pool.state request rest)⟩
      (order ++ [client.command]) := by
  subst last
  have nowWrote : (client.served server.toServer pool.state request rest).wrote server = true := by
    rw [wrote_served, wrote, Bool.or_true]
  refine linearized.of_served found ?_ ?_ (fun _ visited => visited.concat _)
    ⟨follows, iff_of_true nowWrote rfl, trivial, nofun⟩ (Or.inr calm)
  · refine (linearized.perm.append_right _).trans ?_
    exact (filterMap_set_append found (effective?_of_asks asks silent)
      (effective?_of_wrote nowWrote)).symm
  · rw [outcome_concat, linearized.leaves, changed]

variable (unchanged : server.view (server.serve request pool.state).2 = server.view pool.state)

include unchanged

/-- A request after which the command counts as much as before it. -/
theorem Linearized.wait
    (same : (client.served server.toServer pool.state request rest).effective? server =
      client.effective? server)
    (wrote : (client.served server.toServer pool.state request rest).wrote server = true ↔
      later = .written)
    (undisturbed : later.Undisturbed server.gone (server.view pool.state))
    (settled : ∀ seen, later = .settled seen →
      effect client.command seen = seen ∧ Visited effect initial order seen) :
    Linearized server effect initial
      ⟨(server.serve request pool.state).2,
        pool.clients.set index (client.served server.toServer pool.state request rest)⟩
      order := by
  refine linearized.of_served found ?_ ?_ (fun _ visited => visited)
    ⟨follows, wrote, ?_, settled⟩ (Or.inl unchanged)
  · rw [filterMap_set_same found same]
    exact linearized.perm
  · rw [linearized.leaves, unchanged]
  · rwa [unchanged]

/-- A command has nothing to change: once it ends, it goes where it saw that. -/
theorem Linearized.settle
    {seen : View} (silent : (client.served server.toServer pool.state request rest).wrote server =
      false) (asks : client.script = .asks request rest) (last : later = .settled seen)
    (fixed : effect client.command seen = seen) (visited : Visited effect initial order seen) :
    ∃ longer, Linearized server effect initial
      ⟨(server.serve request pool.state).2,
        pool.clients.set index (client.served server.toServer pool.state request rest)⟩
      longer := by
  subst last
  have wasSilent : client.wrote server = false := by
    rw [wrote_served, Bool.or_eq_false_iff] at silent
    exact silent.1
  have before := effective?_of_asks asks wasSilent
  have wrote : (client.served server.toServer pool.state request rest).wrote server = true ↔
      (.settled seen : Phase View) = .written := by simp [silent]
  by_cases ended :
      (client.served server.toServer pool.state request rest).result?.isSome = true
  · obtain ⟨longer, perm, leaves, keeps⟩ := exists_insert visited fixed
    have after : (client.served server.toServer pool.state request rest).effective? server =
        some client.command := if_pos (Or.inr ended)
    refine ⟨longer, linearized.of_served found ?_ ?_ keeps
      ⟨follows, wrote, trivial, ?_⟩ (Or.inl unchanged)⟩
    · refine perm.trans ((linearized.perm.cons _).trans ?_)
      refine (List.perm_append_singleton _ _).symm.trans ?_
      exact (filterMap_set_append found before after).symm
    · rw [leaves, linearized.leaves, unchanged]
    · rintro other same
      cases same
      exact ⟨fixed, keeps _ visited⟩
  · refine ⟨order, linearized.wait found follows unchanged ?_ wrote trivial ?_⟩
    · rw [before]
      refine if_neg ?_
      simp [silent, ended]
    · rintro other same
      cases same
      exact ⟨fixed, visited⟩

end Served

/-- A calm step keeps a serial order. -/
theorem Linearized.step
    {next : Pool Command State Request Answer Failure Result} {move : Move Happening}
    (linearized : Linearized server effect initial pool order)
    (calm : pool.calm server move = true)
    (moves : Pool.step server.toServer pool move = some next) :
    ∃ longer, Linearized server effect initial next longer := by
  cases Pool.steps_of_step moves with
  | happens happening =>
      refine ⟨order, linearized.perm, ?_, ?_⟩
      · rw [linearized.leaves, server.view_happen]
      · intro index client found
        obtain ⟨phase, stands⟩ := linearized.stands index client found
        exact stands.later (fun _ visited => visited) (Or.inl (server.view_happen _ _))
  | @client index client request rest found asks =>
      obtain ⟨phase, stands⟩ := linearized.stands index client found
      have follows := stands.follows
      rw [asks] at follows
      obtain ⟨later, ⟨-, taken⟩, follows⟩ := follows pool.state stands.undisturbed
      have wrote : (client.served server.toServer pool.state request rest).wrote server =
          (client.wrote server || server.writes request (server.serve request pool.state).1) :=
        wrote_served pool.state request rest
      rcases taken.inversion with ⟨writes, changed, last, before⟩ |
        ⟨silent, unchanged, seen, last, before⟩ | ⟨silent, unchanged, before, last⟩ |
        ⟨silent, unchanged, before, last⟩
      · have wasSilent : client.wrote server = false := by
          rw [← Bool.not_eq_true, stands.wrote]
          rcases before with rfl | rfl
          · nofun
          · nofun
        refine ⟨_, linearized.write found follows wasSilent asks writes changed ?_ last⟩
        exact others_of_calm found asks calm writes
      · have wasSilent : client.wrote server = false := by
          rw [← Bool.not_eq_true, stands.wrote]
          rcases before with rfl | ⟨rfl, -⟩
          · nofun
          · nofun
        rw [wasSilent, silent, Bool.or_false] at wrote
        have settled : effect client.command seen = seen ∧ Visited effect initial order seen := by
          rcases before with rfl | ⟨-, rfl, fixed⟩
          · exact stands.settled seen rfl
          · refine ⟨fixed, ?_⟩
            rw [← linearized.leaves]
            exact visited_end order
        exact linearized.settle found follows unchanged wrote asks last settled.1 settled.2
      · have wasSilent : client.wrote server = false := by
          rw [← Bool.not_eq_true, stands.wrote]
          rcases before with rfl | ⟨seen, rfl⟩
          · nofun
          · nofun
        rw [wasSilent, silent, Bool.or_false] at wrote
        have undisturbed : later.Undisturbed server.gone (server.view pool.state) := by
          rcases last with rfl | rfl
          · trivial
          · exact Or.inl rfl
        have settled : ∀ seen, later = .settled seen →
            effect client.command seen = seen ∧ Visited effect initial order seen := by
          rcases last with rfl | rfl
          · nofun
          · nofun
        have nowSilent : (client.served server.toServer pool.state request rest).wrote server =
            true ↔ later = .written := by
          rcases last with rfl | rfl
          · simp [wrote]
          · simp [wrote]
        have ineffective : later = .fresh ∨ ∃ seen, later = .held seen :=
          last.imp_right fun held => ⟨_, held⟩
        have nowStands : Stands server effect initial order pool.state
            (client.served server.toServer pool.state request rest) later :=
          ⟨follows, nowSilent, undisturbed, settled⟩
        refine ⟨order, linearized.wait found follows unchanged ?_ nowSilent undisturbed settled⟩
        rw [effective?_of_ineffective nowStands ineffective,
          effective?_of_ineffective stands before]
      · have wasWrote : client.wrote server = true := stands.wrote.2 before
        rw [wasWrote, Bool.true_or] at wrote
        refine ⟨order, linearized.wait found follows unchanged ?_ (iff_of_true wrote last) ?_ ?_⟩
        · rw [effective?_of_wrote wrote, effective?_of_wrote wasWrote]
          rfl
        · subst last
          trivial
        · subst last
          nofun

/-- Commands that have made no request have an empty order. -/
theorem linearized_start
    {script : Command → Script Request Answer Failure Result} {state : State}
    {commands : List Command}
    (follows : ∀ command ∈ commands, Follows server (effect command)
      (fun later ending => later.Ends ending) (script command) .fresh) :
    Linearized server effect (server.view state) (Pool.start script state commands) [] := by
  have stands : ∀ (index : Nat) client,
      (Pool.start script state commands).clients[index]? = some client →
        Stands server effect (server.view state) [] state client .fresh := by
    intro index client found
    rw [Pool.start, List.getElem?_map, Option.map_eq_some_iff] at found
    obtain ⟨command, member, rfl⟩ := found
    refine ⟨follows command (List.mem_of_getElem? member), ?_, trivial, ?_⟩
    · simp [Client.wrote]
    · intro ending ended
      cases ended
  refine ⟨?_, rfl, fun index client found => ⟨.fresh, stands index client found⟩⟩
  have none : (Pool.start script state commands).effective server = [] := by
    rw [Pool.effective, List.filterMap_eq_nil_iff]
    intro client member
    obtain ⟨index, found⟩ := List.mem_iff_getElem?.1 member
    exact effective?_of_ineffective (stands index client found) (Or.inl rfl)
  rw [none]

/--
A run of calm steps leaves what some serial order of the commands that took
effect leaves.
-/
theorem exists_serial_order
    {script : Command → Script Request Answer Failure Result} {state : State}
    {commands : List Command} {moves : List (Move Happening)}
    (follows : ∀ command ∈ commands, Follows server (effect command)
      (fun later ending => later.Ends ending) (script command) .fresh)
    (calm : ∀ entry ∈ (Pool.step server.toServer).steps (Pool.start script state commands) moves,
      entry.1.calm server entry.2 = true) :
    ∃ order,
      order.Perm (((Pool.step server.toServer).reached (Pool.start script state commands)
        moves).effective server) ∧
      outcome effect (server.view state) order =
        server.view ((Pool.step server.toServer).reached (Pool.start script state commands)
          moves).state := by
  have preserved : ∀ {pool next : Pool Command State Request Answer Failure Result}
      {move : Move Happening},
      (∃ order, Linearized server effect (server.view state) pool order) →
      pool.calm server move = true → Pool.step server.toServer pool move = some next →
      ∃ order, Linearized server effect (server.view state) next order :=
    fun ⟨_, linearized⟩ calm moves => linearized.step calm moves
  obtain ⟨-, order, linearized⟩ :=
    Transition.invariant_of_allowed preserved ⟨[], linearized_start follows⟩ calm
  exact ⟨order, linearized.perm, linearized.leaves⟩

end Steps

end Snapl.Library
