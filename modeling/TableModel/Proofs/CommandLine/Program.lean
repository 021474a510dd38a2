import TableModel.CommandLine.Program
import TableModel.Proofs.Files.Host

/-!
# The program on a file tree

The outcome of a command line is what the program leaves behind when a file tree is its host. So whatever is said of
outcomes is said of the very loops that run on a machine, as far as the machine answers like a tree.
-/

namespace TableModel

open Outcome

/-- A run goes on with what another one has come to. -/
def Session.after (session : Session) (outcome : Outcome) : Session :=
  { session with
    tree := outcome.tree
    printed := session.printed ++ outcome.stdout
    told := session.told ++ outcome.events }

theorem Session.after_fail (session : Session) (outcome : Outcome) (failure : Failure) :
    session.after (outcome.fail failure) =
      { session.after outcome with told := (session.after outcome).told ++ failureEvents failure } := by
  rw [after, after, fail, List.append_assoc]

theorem Session.after_unchanged (session : Session) : session.after { tree := session.tree } = session := by
  show { session with printed := session.printed ++ [], told := session.told ++ [] } = session
  rw [List.append_nil, List.append_nil]

namespace Host

theorem takeInput_onTree (input : InputArguments) (session : Session) :
    onTree.takeInput input session = (Outcome.readInput input session.input session.tree, session) := by
  rw [takeInput, Outcome.readInput]
  cases input.path with
  | none => rfl
  | some path =>
    show ((session.tree.readFile path).mapError (Failure.file path), session) = _
    dsimp only
    cases session.tree.readFile path with
    | error cause => rfl
    | ok text => rfl

theorem forM_tell_onTree (events : List Event) (session : Session) :
    (events.forM onTree.tell) session = ((), { session with told := session.told ++ events }) := by
  induction events generalizing session with
  | nil =>
    rw [List.append_nil]
    rfl
  | cons event events ih =>
    rw [List.forM, bind_apply, ih]
    show (_, { session with told := (session.told ++ [event]) ++ events }) = _
    rw [List.append_assoc, List.singleton_append]

/-- A failure is told behind everything else, and gives the exit code. -/
theorem report_onTree (failure : Failure) (session : Session) (outcome : Outcome) :
    onTree.report (some failure) (session.after outcome) =
      ((outcome.fail failure).code, session.after (outcome.fail failure)) := by
  rw [report, bind_apply, forM_tell_onTree, Session.after_fail]
  rfl

theorem generate_onTree (options : Options) (directory text : Text) (session : Session) :
    (onTree.writeChunks options directory 0 (chunks text) >>= onTree.report) session =
      ((ofGenerate options directory text session.tree).code,
        session.after (ofGenerate options directory text session.tree)) := by
  rw [bind_apply, writeChunks_onTree, ofGenerate]
  generalize TableModel.writeChunks options directory (chunks text) session.tree = run
  have hafter (events : List Event) : { session with tree := run.tree, told := session.told ++ events } =
      session.after { events, tree := run.tree } := by
    show _ = { session with tree := run.tree, printed := session.printed ++ [], told := session.told ++ events }
    rw [List.append_nil]
  dsimp only
  rw [hafter, Written.finish]
  cases run.failure with
  | none =>
    dsimp only
    rw [Nat.zero_add]
    rfl
  | some failure =>
    dsimp only
    rw [List.append_nil, report_onTree]
    rfl

/-- A file tree as the host of the program gives the outcome of the command line: its exit code, its tree, what is
printed, and what is told in the order in which it happens. -/
theorem run_onTree (arguments : List Text) (session : Session) :
    let outcome := ofArguments arguments session.input session.tree
    onTree.run arguments session = (outcome.code, session.after outcome) := by
  have hprint (t : Text) : { session with printed := session.printed ++ t } =
      session.after { stdout := t, tree := session.tree } := by
    show _ = { session with printed := session.printed ++ t, told := session.told ++ [] }
    rw [List.append_nil]
  have hreport (failure : Failure) : onTree.report (some failure) session =
      ((({ tree := session.tree } : Outcome).fail failure).code,
        session.after (({ tree := session.tree } : Outcome).fail failure)) := by
    rw [← report_onTree, session.after_unchanged]
  rw [run, ofArguments]
  cases Command.ofArguments? arguments with
  | none =>
    show (2, session) = (2, session.after { tree := session.tree })
    rw [session.after_unchanged]
  | some command =>
    dsimp only
    cases command with
    | help => exact congrArg (Prod.mk 0) (hprint Outcome.usageText)
    | version => exact congrArg (Prod.mk 0) (hprint Outcome.versionText)
    | generate input directory =>
      rw [bind_apply, perform, bind_apply, takeInput_onTree, ofCommand]
      dsimp only
      cases Outcome.readInput input session.input session.tree with
      | error failure => exact hreport failure
      | ok text => exact generate_onTree input.options directory text session
    | render input =>
      rw [bind_apply, perform, bind_apply, takeInput_onTree, ofCommand]
      dsimp only
      cases Outcome.readInput input session.input session.tree with
      | error failure => exact hreport failure
      | ok text =>
        dsimp only [ofRender]
        rcases showChunks input.options (chunks text) with ⟨shown, _ | failure⟩
        · exact congrArg (Prod.mk 0) (hprint shown)
        · have hfailed := report_onTree failure session { stdout := shown, tree := session.tree }
          rwa [← hprint] at hfailed

end Host

end TableModel
