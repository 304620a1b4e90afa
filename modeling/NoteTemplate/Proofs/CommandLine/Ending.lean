import NoteTemplate.CommandLine.Console
import NoteTemplate.Proofs.Disk.Refusing
import NoteTemplate.Proofs.Terminal.Words

/-!
# How the work of a command ends

The work of a command ends with a result or stops, and either way it leaves a console.  What
stops an action is handled on the console that the action left, so what was done stays done.
-/

namespace NoteTemplate

/-- The console when it has taken more messages. -/
def Console.taking (console : Console) (messages : List Message) : Console :=
  { console with output := console.output ++ messages }

@[simp]
theorem Console.session_taking (console : Console) (messages : List Message) :
    (console.taking messages).session = console.session := rfl

theorem Console.taking_taking (console : Console) (messages more : List Message) :
    (console.taking messages).taking more = console.taking (messages ++ more) := by
  rw [taking, taking, taking, List.append_assoc]

namespace CommandAction

variable {α β : Type} {action : CommandAction α} {next : α → CommandAction β}
  {handler : Stop → CommandAction α} {before middle after : Console} {value : α} {stop : Stop}
  {markup : Text} {message : Message}

/-- The action ends this way and leaves this console. -/
def Ends (action : CommandAction α) (before : Console) (result : Except Stop α)
    (after : Console) : Prop :=
  action.run.run before = (result, after)

/-- An action that can be run on a console leaves what it leaves. -/
theorem exists_ends_of_run {result : Except Stop α} {output : List Message}
    (h : Prod.map id Console.output (action.run.run before) = (result, output)) :
    ∃ after, action.Ends before result after ∧ after.output = output := by
  obtain ⟨rfl, rfl⟩ := Prod.mk.inj h
  exact ⟨_, rfl, rfl⟩

theorem ends_pure (value : α) (before : Console) :
    (pure value : CommandAction α).Ends before (.ok value) before := rfl

theorem ends_throw (stop : Stop) (before : Console) :
    (throw stop : CommandAction α).Ends before (.error stop) before := rfl

theorem Ends.bind {result : Except Stop β} (h : action.Ends before (.ok value) middle)
    (hnext : (next value).Ends middle result after) :
    (action >>= next).Ends before result after := by
  have hrun : action.run.run before = (.ok value, middle) := h
  rw [Ends, ExceptT.run_bind, StateT.run_bind, hrun]
  exact hnext

/-- What stops an action stops what it is a part of. -/
theorem Ends.bind_stop (h : action.Ends before (.error stop) after) (next : α → CommandAction β) :
    (action >>= next).Ends before (.error stop) after := by
  have hrun : action.run.run before = (.error stop, after) := h
  rw [Ends, ExceptT.run_bind, StateT.run_bind, hrun]
  rfl

theorem run_tryCatch (action : CommandAction α) (handler : Stop → CommandAction α)
    (before : Console) :
    (tryCatch action handler).run.run before =
      match action.run.run before with
      | (.ok value, middle) => (.ok value, middle)
      | (.error stop, middle) => (handler stop).run.run middle := by
  simp only [tryCatch, tryCatchThe, MonadExceptOf.tryCatch]
  rw [ExceptT.tryCatch, ExceptT.run_mk, StateT.run_bind]
  unfold ExceptT.run
  cases StateT.run action before with
  | mk result middle => cases result <;> rfl

theorem Ends.tryCatch_ok (h : action.Ends before (.ok value) after)
    (handler : Stop → CommandAction α) :
    (tryCatch action handler).Ends before (.ok value) after := by
  have hrun : action.run.run before = (.ok value, after) := h
  rw [Ends, run_tryCatch, hrun]

theorem Ends.tryCatch_stop {result : Except Stop α} (h : action.Ends before (.error stop) middle)
    (hhandler : (handler stop).Ends middle result after) :
    (tryCatch action handler).Ends before result after := by
  have hrun : action.run.run before = (.error stop, middle) := h
  rw [Ends, run_tryCatch, hrun]
  exact hhandler

/-! ### Work on the session -/

theorem run_onSession (action : Action α) (before : Console) :
    (onSession action).run.run before =
      ((action.run before.session).1.mapError Stop.failure,
        { before with session := (action.run before.session).2 }) := rfl

theorem ends_onSession_of_gives {action : Action α} {session : Session}
    (h : action.Gives before.session value session) :
    (onSession action).Ends before (.ok value) { before with session := session } := by
  have hrun : action.run before.session = (.ok value, session) := h
  rw [Ends, run_onSession, hrun]
  rfl

theorem ends_onSession_of_fails {action : Action α} {session : Session} {failure : Failure}
    (h : action.Fails before.session failure session) :
    (onSession action).Ends before (.error (.failure failure))
      { before with session := session } := by
  have hrun : action.run before.session = (.error failure, session) := h
  rw [Ends, run_onSession, hrun]
  rfl

/-! ### Messages -/

section

variable [Styling]

theorem ends_say (h : message.refusal? = none) (before : Console) :
    (say message).Ends before (.ok ()) (before.taking [message]) := by
  rw [say, h]
  rfl

/-- A message that is refused stops the command. -/
theorem ends_say_of_refused {reason : Text} (h : message.refusal? = some reason)
    (before : Console) :
    (say message).Ends before (.error (.failure (.unprintable reason))) before := by
  rw [say, h]
  rfl

theorem ends_printLine (h : Styling.refusal? markup = none) (before : Console) :
    (printLine markup).Ends before (.ok ()) (before.taking [.line markup]) := by
  have hline : (Message.line markup).refusal? = none := h
  exact ends_say hline before

end

end CommandAction

end NoteTemplate
