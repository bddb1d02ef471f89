import Filtergraph.Proofs.Session.Indifference

/-!
# Lookups and simple actions

What operations look up first changes nothing.  What they do besides, other than making contexts and
asking for the default one, is inert.
-/

namespace Filtergraph
namespace SessionAction

open World

variable {action : SessionAction α}
variable {next : α -> SessionAction β}
variable {session : Session}

/-! ## Lookups -/

/-- In a session with any default context, an action comes to an outcome and changes nothing. -/
def Reads (action : SessionAction α) (session : Session) (outcome : Except Failure α) : Prop :=
  ∀ usual, action.perform (session.withDefault usual) = (outcome, session.withDefault usual)

namespace Reads

variable {outcome : Except Failure α}

/-- In the session as it is, too. -/
theorem perform_eq (reads : Reads action session outcome) :
    action.perform session = (outcome, session) :=
  reads session.world.defaultContext

/-- After a lookup that succeeds, the session is the same. -/
theorem perform_bind_ok
    {a : α}
    (reads : Reads action session outcome)
    (succeeds : outcome = .ok a) :
    (action >>= next).perform session = (next a).perform session := by
  rw [perform_bind, reads.perform_eq, succeeds]

/-- A lookup that fails is all that is done. -/
theorem perform_bind_error
    {failure : Failure}
    (reads : Reads action session outcome)
    (fails : outcome = .error failure) :
    (action >>= next).perform session = (.error failure, session) := by
  rw [perform_bind, reads.perform_eq, fails]

/-- Lookups are inert. -/
protected theorem inert (reads : Reads action session outcome) : Inert action session := by
  refine ⟨?_, ?_⟩
  · rw [reads.perform_eq]
    exact .refl _
  · intro usual
    rw [reads usual, reads.perform_eq]

/-- The session is the same for what follows. -/
theorem bind_inert_of_ok
    (reads : Reads action session outcome)
    (rest : ∀ a, outcome = .ok a -> Inert (next a) session) :
    Inert (action >>= next) session := by
  refine reads.inert.bind ?_
  intro a after performed
  rw [reads.perform_eq] at performed
  obtain ⟨succeeds, rfl⟩ := Prod.mk.inj performed
  exact rest a succeeds

theorem bind_inert
    (reads : Reads action session outcome)
    (rest : ∀ a, Inert (next a) session) :
    Inert (action >>= next) session :=
  reads.bind_inert_of_ok fun a _ => rest a

/-- A function of what is looked up is looked up as well. -/
theorem map
    (reads : Reads action session outcome)
    (f : α -> β) :
    Reads (action >>= fun a => pure (f a)) session (outcome.map f) := by
  intro usual
  rw [perform_bind, reads usual]
  cases outcome <;> rfl

end Reads

/-- What looking up a name comes to. -/
def lookedUp (found : Option α) (name : String) : Except Failure α :=
  match found with
  | some a => .ok a
  | none => .error (.unknownName name)

/-- A name is known if it stands for something. -/
theorem lookedUp_eq_ok_iff
    {found : Option α}
    {name : String}
    {a : α} :
    lookedUp found name = .ok a ↔ found = some a := by
  cases found <;> simp [lookedUp]

/-- Finding what a name stands for is a lookup, if the names do not depend on the default context.
-/
theorem reads_find
    {names : Session -> Names α}
    (same : ∀ usual, names (session.withDefault usual) = names session)
    (name : String) :
    Reads (find names name) session (lookedUp ((names session).lookup name) name) := by
  intro usual
  rw [find, perform_bind]
  change (match (names (session.withDefault usual)).lookup name with
    | some a => (pure a : SessionAction α)
    | none => throw (Failure.unknownName name)).perform (session.withDefault usual) = _
  rw [same]
  cases (names session).lookup name <;> rfl

/-- A name that stands for something is found. -/
theorem reads_find_of_stands
    {names : Session -> Names α}
    {name : String}
    {a : α}
    (same : ∀ usual, names (session.withDefault usual) = names session)
    (stands : (names session).lookup name = some a) :
    Reads (find names name) session (.ok a) :=
  lookedUp_eq_ok_iff.mpr stands ▸ reads_find same name

/-- What looking up a name comes to, where there may be none. -/
def lookedUpOption (names : Names α) : Option String -> Except Failure (Option α)
  | none => .ok none
  | some name => (lookedUp (names.lookup name) name).map some

/-- Where no name is given, nothing is looked up. -/
theorem reads_findOption
    {names : Session -> Names α}
    (same : ∀ usual, names (session.withDefault usual) = names session)
    (name : Option String) :
    Reads (findOption names name) session (lookedUpOption (names session) name) := by
  cases name with
  | none => exact fun _ => rfl
  | some name => exact (reads_find same name).map some

/-- A name that is given is found, or nothing follows. -/
theorem inert_findOption_bind
    {names : Session -> Names α}
    {next : Option α -> SessionAction β}
    (same : ∀ usual, names (session.withDefault usual) = names session)
    (name : String)
    (rest : ∀ a, Inert (next (some a)) session) :
    Inert (findOption names (some name) >>= next) session := by
  refine (reads_findOption same (some name)).bind_inert_of_ok ?_
  intro found succeeds
  rw [lookedUpOption] at succeeds
  cases looked : lookedUp ((names session).lookup name) name with
  | error failure =>
      rw [looked] at succeeds
      cases succeeds
  | ok a =>
      rw [looked] at succeeds
      obtain rfl := Except.ok.inj succeeds
      exact rest a

/-- An outcome that is known beforehand is a lookup of that outcome. -/
theorem reads_ofExcept (outcome : Except Failure α) (session : Session) :
    Reads (act (.ofExcept outcome)) session outcome :=
  fun _ => rfl

theorem reads_value (draft : Draft) (session : Session) :
    Reads (value draft) session draft.resolve :=
  reads_ofExcept _ _

/-- The value of a draft is the same in all sessions, and so is what stands for an absent one. -/
theorem reads_valueOr (absent : Value) (draft : Option Draft) (session : Session) :
    Reads (valueOr absent draft) session (Draft.resolveOption draft absent) :=
  reads_ofExcept _ _

theorem reads_word (draft : Draft) (session : Session) :
    Reads (word draft) session draft.word :=
  reads_ofExcept _ _

theorem reads_wordOr (absent : Word) (draft : Option Draft) (session : Session) :
    Reads (wordOr absent draft) session (Draft.wordOption draft absent) :=
  reads_ofExcept _ _

/-- A draft counts as true or not, and only its value tells. -/
theorem reads_flag (draft : Option Draft) (session : Session) :
    Reads (flag draft) session ((Draft.resolveOption draft (.bool false)).map Value.isTrue) :=
  (reads_valueOr _ draft session).map Value.isTrue

/-- What checks releases looks up the release and whether the check is strict. -/
theorem inert_checking
    {check : Value -> Bool -> SessionAction α}
    (tool strict : Option Draft)
    (session : Session)
    (checks : ∀ tool strict, Inert (check tool strict) session) :
    Inert
      (do
        let tool ← valueOr .null tool
        let strict ← flag strict
        check tool strict)
      session := by
  refine (reads_valueOr .null tool session).bind_inert ?_
  intro tool
  refine (reads_flag strict session).bind_inert ?_
  intro strict
  exact checks tool strict

theorem reads_format (request : Option FormatRequest) (session : Session) :
    Reads (format request) session (FormatRequest.resolveOption request) :=
  reads_ofExcept _ _

/-- What is asked for as a source is resolved and opened. -/
theorem reads_openSource (request : SourceRequest) (session : Session) :
    Reads (openSource request) session (request.resolve.map Subject.toSource) :=
  (reads_ofExcept _ session).map Subject.toSource

theorem inert_argumentsOf (draft : Draft) (session : Session) :
    Inert (argumentsOf draft) session :=
  (reads_value draft session).bind_inert fun _ => (reads_ofExcept _ session).inert

/-- The names of a context are read, and no context is made for them. -/
theorem inert_namesOf (context : ContextId) (session : Session) :
    Inert (namesOf context) session :=
  .get_bind (.pure _ _) fun _ => rfl

theorem inert_describe (context : ContextId) (session : Session) :
    Inert (describe context) session := by
  refine (inert_namesOf context session).bind ?_
  intro names after _
  exact .get_bind (.pure _ _) fun _ => rfl

theorem inert_filterNames (pipeline : PipelineId) (session : Session) :
    Inert (filterNames pipeline) session :=
  .get_bind (.pure _ _) fun _ => rfl

/-- A filter is found by its name. -/
theorem inert_findFilter (name : String) (session : Session) :
    Inert (findFilter name) session :=
  (reads_find (fun _ => rfl) name).bind_inert fun _ => .get_bind (.pure _ _) fun _ => rfl

/-! ## Actions on the world -/

/-- A change of the world is inert if it makes no context and is not recorded. -/
theorem inert_change
    {change : World -> World}
    (session : Session)
    (continues : Continues session.world (change session.world))
    (same : ∀ usual, change (session.world.withDefault usual) =
      (change session.world).withDefault usual) :
    Inert (act (modify change)) session :=
  .act continues fun usual => congrArg (Except.ok PUnit.unit, ·) (same usual)

/-- The files are no part of what has to do with contexts. -/
theorem inert_changeFiles
    (change : FileTree -> Except PathError Unit × FileTree)
    (session : Session) :
    Inert (changeFiles change) session := by
  refine .get_bind ?_ fun _ => rfl
  refine (inert_change session ⟨rfl, [], .of_eq rfl rfl⟩ fun _ => rfl).bind ?_
  intro _ after _
  exact (reads_ofExcept _ after).inert

/-- A report leaves its notes. -/
theorem inert_ofReport (logger : String) (report : Report α) (session : Session) :
    Inert (act (.ofReport logger report)) session :=
  .act (continues_afterNotes _ logger report.notes) fun _ => rfl

theorem inert_tell (logger : String) (level : Level) (message : String) (session : Session) :
    Inert (act (.tell logger level message)) session :=
  .act (continues_afterNotes _ logger [⟨level, message⟩]) fun _ => rfl

/-- A call takes an outcome from the script and is recorded. -/
theorem inert_call (call : Call) (session : Session) :
    Inert (act (.call call)) session :=
  .act (continues_afterCall _ call) fun _ => rfl

/-- A pipeline is made without asking for its context. -/
theorem inert_createPipeline (context : Option ContextId) (session : Session) :
    Inert (act (Pipeline.create context)) session :=
  .act ⟨rfl, [], .of_eq rfl rfl⟩ fun _ => rfl

theorem inert_add (pipeline : PipelineId) (filter : FilterId) (session : Session) :
    Inert (act (Pipeline.add pipeline filter)) session :=
  inert_change session ⟨rfl, [], .of_eq rfl rfl⟩ fun _ => rfl

/-- Compiling leaves the notes of the check, and binds nothing. -/
theorem inert_compile
    (pipeline : PipelineId)
    (format : Option Format)
    (tool : Value)
    (strict : Bool)
    (session : Session) :
    Inert (act (Pipeline.compile pipeline format tool strict)) session :=
  .act (continues_afterNotes _ _ _) fun _ => rfl

/-- A context is asked for its release by a call, and keeps what it is told; the default context has
no part in it. -/
theorem inert_askRelease (context : ContextId) (session : Session) :
    Inert (act (Context.askRelease context)) session := by
  refine .act (continues_askRelease context session.world) ?_
  intro usual
  have sameContext : (session.world.withDefault usual).context = session.world.context := rfl
  rw [Context.perform_askRelease, Context.perform_askRelease, sameContext]
  dsimp only
  cases (session.world.context context).release with
  | some release => rfl
  | none =>
      have sameOutcome : (session.world.withDefault usual).nextOutcome =
          session.world.nextOutcome := rfl
      rw [sameOutcome]
      rcases Context.heard session.world.nextOutcome with _ | _ | release <;> rfl

/-- Running a command takes one call and leaves notes. -/
theorem inert_runCommand (runner : Runner) (arguments : List Argument) (session : Session) :
    Inert (act (runner.run arguments)) session := by
  rw [Runner.run, act_bind]
  refine (reads_ofExcept _ session).bind_inert ?_
  intro line
  rw [act_bind]
  refine (inert_tell _ _ _ session).bind ?_
  intro _ noted _
  rw [act_bind]
  refine (inert_call _ noted).bind ?_
  intro outcome called _
  refine .act ?_ ?_
  · rw [Runner.perform_conclude]
    exact continues_afterNotes _ _ _
  · intro usual
    rw [Runner.perform_conclude, Runner.perform_conclude]
    rfl

theorem inert_probeInVain (logger message : String) (path : Word) (session : Session) :
    Inert (act (Context.probeInVain logger message path)) session := by
  rw [Context.probeInVain, act_bind]
  refine (inert_tell logger _ _ session).bind ?_
  intro _ noted _
  exact (reads_ofExcept _ noted).inert

/-- What the probing tool prints is read, or a warning says that it cannot be. -/
theorem inert_readProbe
    (depthLimit : Nat)
    (logger : String)
    (path : Word)
    (output : Option String)
    (session : Session) :
    Inert (act (Context.readProbe depthLimit logger path output)) session := by
  cases output with
  | none => exact .throw _ _
  | some output =>
      rw [Context.readProbe]
      split
      · exact (reads_ofExcept _ session).inert
      · exact inert_probeInVain _ _ _ _
      · exact .throw _ _
      · exact .throw _ _

/-- Probing a file takes one call and leaves at most a warning. -/
theorem inert_probe (context : ContextId) (path : Word) (session : Session) :
    Inert (act (Context.probe context path)) session := by
  rw [Context.probe, act_get]
  refine .get_bind ?_ fun _ => rfl
  rw [act_bind]
  refine (inert_call _ session).bind ?_
  intro outcome called _
  cases outcome with
  | finished status output errors =>
      dsimp only
      split
      · exact inert_readProbe _ _ _ _ _
      · exact inert_probeInVain _ _ _ _
  | expired => exact inert_probeInVain _ _ _ _
  | missing reason => exact .throw _ _
  | refused refusal message => exact .throw _ _
  | malformed message => exact .throw _ _

end SessionAction
end Filtergraph
