import Snapl.Library.Script

/-!
# Histories

A course of a script lists what it asked and what it was answered.  Nothing is
assumed of the answers: the server may be anything, and may change in between.
A rule says what may be asked after which history; a script that keeps to a
rule does so at every point of every course, also of one that is cut off.
-/

namespace Snapl.Library

variable {Request : Type} {Answer : Request → Type}
variable {Failure Result Next : Type}

/-- A request and its answer. -/
structure Turn (Request : Type) (Answer : Request → Type) where
  request : Request
  answer : Answer request

namespace Script

/-- The script may exchange these, and end like this. -/
inductive Course :
    Script Request Answer Failure Result → List (Turn Request Answer) →
      Except Failure Result → Prop
  | ends (ending : Except Failure Result) : Course (.ends ending) [] ending
  | asks
      {request : Request} {next : Answer request → Script Request Answer Failure Result}
      {answer : Answer request} {exchanges : List (Turn Request Answer)}
      {ending : Except Failure Result} (rest : Course (next answer) exchanges ending) :
      Course (.asks request next) (⟨request, answer⟩ :: exchanges) ending

/-- What is exchanged, and how the script ends, when the server never changes. -/
def follow (answers : (request : Request) → Answer request) :
    Script Request Answer Failure Result →
      List (Turn Request Answer) × Except Failure Result
  | .ends ending => ([], ending)
  | .asks request next =>
      let rest := (next (answers request)).follow answers
      (⟨request, answers request⟩ :: rest.1, rest.2)

variable {script : Script Request Answer Failure Result}

theorem course_follow (answers : (request : Request) → Answer request) :
    Course script (script.follow answers).1 (script.follow answers).2 := by
  induction script with
  | ends ending => exact .ends ending
  | asks request next inductionHypothesis => exact .asks (inductionHypothesis _)

section Follow

variable {answers : (request : Request) → Answer request}
variable {next : Result → Script Request Answer Failure Next}
variable {turns : List (Turn Request Answer)}

theorem follow_bind_of_ok
    {result : Result} (followed : script.follow answers = (turns, .ok result)) :
    (script >>= next).follow answers =
      (turns ++ ((next result).follow answers).1, ((next result).follow answers).2) := by
  induction script generalizing turns with
  | ends ending =>
      cases followed
      rfl
  | asks request rest inductionHypothesis =>
      obtain ⟨rfl, ended⟩ := Prod.mk.inj followed
      have others := inductionHypothesis (answers request) (Prod.ext rfl ended)
      change (_ :: ((rest (answers request) >>= next).follow answers).1,
        ((rest (answers request) >>= next).follow answers).2) = _
      rw [others]
      rfl

theorem follow_bind_of_error
    {failure : Failure} (followed : script.follow answers = (turns, .error failure)) :
    (script >>= next).follow answers = (turns, .error failure) := by
  induction script generalizing turns with
  | ends ending =>
      cases followed
      rfl
  | asks request rest inductionHypothesis =>
      obtain ⟨rfl, ended⟩ := Prod.mk.inj followed
      have others := inductionHypothesis (answers request) (Prod.ext rfl ended)
      change (_ :: ((rest (answers request) >>= next).follow answers).1,
        ((rest (answers request) >>= next).follow answers).2) = _
      rw [others]

/-- How a sequence ends depends on its first part only through its ending. -/
theorem follow_bind_snd (next : Result → Script Request Answer Failure Next) :
    ((script >>= next).follow answers).2 =
      (script.follow answers).2 >>= fun result => ((next result).follow answers).2 := by
  rcases followed : script.follow answers with ⟨turns, failure | result⟩
  · rw [follow_bind_of_error followed]
    rfl
  · rw [follow_bind_of_ok followed]
    rfl

theorem follow_ask_bind
    (request : Request) (next : Answer request → Script Request Answer Failure Result) :
    (ask request >>= next).follow answers =
      (⟨request, answers request⟩ :: ((next (answers request)).follow answers).1,
        ((next (answers request)).follow answers).2) := rfl

end Follow

section Keeps

variable (may : List (Turn Request Answer) → Request → Prop)

/-- After this history the script asks what it may, and ends as it may. -/
def Keeps (post : List (Turn Request Answer) → Except Failure Result → Prop) :
    Script Request Answer Failure Result → List (Turn Request Answer) → Prop
  | .ends ending, past => post past ending
  | .asks request next, past =>
      may past request ∧ ∀ answer, (next answer).Keeps post (past ++ [⟨request, answer⟩])

variable {may}

namespace Keeps

variable {past exchanges : List (Turn Request Answer)} {ending : Except Failure Result}
variable {post : List (Turn Request Answer) → Except Failure Result → Prop}

/-- A course ends as the script may end. -/
theorem ending_of_course
    (keeps : script.Keeps may post past) (course : script.Course exchanges ending) :
    post (past ++ exchanges) ending := by
  induction course generalizing past with
  | ends ending =>
      rw [List.append_nil]
      exact keeps
  | asks rest inductionHypothesis =>
      have ended := inductionHypothesis (keeps.2 _)
      rwa [List.append_assoc] at ended

/-- At every point of a course the script asks what it may ask there. -/
theorem request_of_course
    (keeps : script.Keeps may post past) (course : script.Course exchanges ending)
    {before after : List (Turn Request Answer)} {exchange : Turn Request Answer}
    (split : exchanges = before ++ exchange :: after) :
    may (past ++ before) exchange.request := by
  induction course generalizing past before with
  | ends ending => simp at split
  | @asks request next answer exchanges ending rest inductionHypothesis =>
      rcases before with _ | ⟨first, before⟩
      · obtain ⟨rfl, -⟩ := List.cons.inj split
        rw [List.append_nil]
        exact keeps.1
      · obtain ⟨rfl, tails⟩ := List.cons.inj split
        have asked := inductionHypothesis (keeps.2 _) tails
        rwa [List.append_assoc] at asked

/-- A weaker account of the ending. -/
theorem mono
    {weaker : List (Turn Request Answer) → Except Failure Result → Prop}
    (keeps : script.Keeps may post past)
    (weakens : ∀ later ending, post later ending → weaker later ending) :
    script.Keeps may weaker past := by
  induction script generalizing past with
  | ends ending => exact weakens past ending keeps
  | asks request next inductionHypothesis =>
      exact ⟨keeps.1, fun answer => inductionHypothesis answer (keeps.2 answer)⟩

/-- A sequence: the second part starts on the history the first one ended on. -/
theorem bind
    {middle : List (Turn Request Answer) → Except Failure Result → Prop}
    {post : List (Turn Request Answer) → Except Failure Next → Prop}
    {next : Result → Script Request Answer Failure Next}
    (first : script.Keeps may middle past)
    (onOk : ∀ later result, middle later (.ok result) → (next result).Keeps may post later)
    (onError : ∀ later failure, middle later (.error failure) → post later (.error failure)) :
    (script >>= next).Keeps may post past := by
  induction script generalizing past with
  | ends ending =>
      rcases ending with failure | result
      · exact onError past failure first
      · exact onOk past result first
  | asks request rest inductionHypothesis =>
      exact ⟨first.1, fun answer => inductionHypothesis answer (first.2 answer)⟩

/-- A request, and what follows on each answer. -/
theorem ask_bind
    {request : Request} {next : Answer request → Script Request Answer Failure Result}
    (asked : may past request)
    (rest : ∀ answer, (next answer).Keeps may post (past ++ [⟨request, answer⟩])) :
    (ask request >>= next).Keeps may post past := ⟨asked, rest⟩

/-- A computed value, and what follows if it is one. -/
theorem ofExcept_bind
    {post : List (Turn Request Answer) → Except Failure Next → Prop}
    {value : Except Failure Result} {next : Result → Script Request Answer Failure Next}
    (onOk : ∀ result, value = .ok result → (next result).Keeps may post past)
    (onError : ∀ failure, value = .error failure → post past (.error failure)) :
    (ofExcept value >>= next).Keeps may post past := by
  rcases value with failure | result
  · exact onError failure rfl
  · exact onOk result rfl

end Keeps

end Keeps

end Script

end Snapl.Library
