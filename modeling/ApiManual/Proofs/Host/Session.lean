import ApiManual.Host.Session

/-!
# Tasks that end in a session

What a task did is taken apart along its steps: a task of two steps ended because the first ended, and
the second after it. What single steps did to the workspace is told by the operations of workspaces.
-/

namespace ApiManual

namespace Task

variable {α β : Type} {session after : Session}

/-- The task ends without a failure, with a result, and leaves the session behind. -/
def Ends (task : Task SessionM α) (session : Session) (result : α) (after : Session) : Prop :=
  task.run session = (.ok result, after)

theorem exists_ends {task : Task SessionM α} (hok : (task.run session).1.isOk = true) :
    ∃ result after, task.Ends session result after := by
  rcases hrun : task.run session with ⟨ended, after⟩
  rw [hrun] at hok
  cases ended with
  | error failure => cases hok
  | ok result => exact ⟨result, after, hrun⟩

theorem ends_pure_iff {value result : α} :
    Ends (pure value) session result after ↔ value = result ∧ session = after := by
  constructor
  · intro hends
    cases hends
    exact ⟨rfl, rfl⟩
  · rintro ⟨rfl, rfl⟩
    rfl

/-- The second of two steps goes on with the state that the first has left, unless the first failed. -/
theorem run_bind {σ α β : Type} (first : Task (StateM σ) α) (next : α → Task (StateM σ) β)
    (state : σ) :
    (first >>= next).run state =
      match first.run state with
      | (.ok value, between) => (next value).run between
      | (.error failure, between) => (.error failure, between) := by
  rw [ExceptT.run_bind]
  simp only [bind, StateT.bind]
  rcases first.run state with ⟨ended | ended, between⟩ <;> rfl

theorem ends_bind_iff {task : Task SessionM α} {next : α → Task SessionM β} {result : β} :
    Ends (task >>= next) session result after ↔
      ∃ value between, task.Ends session value between ∧ (next value).Ends between result after := by
  rw [Ends, run_bind]
  constructor
  · intro hends
    split at hends
    · next value between htask => exact ⟨value, between, htask, hends⟩
    · cases hends
  · rintro ⟨value, between, htask, hnext⟩
    rw [htask]
    exact hnext

theorem run_change {operation : Workspace → Except IoFault Workspace} {workspace : Workspace}
    (hoperation : operation session.workspace = .ok workspace) :
    (ofHost (Session.change operation)).run session = (.ok (), { session with workspace }) := by
  simp only [ofHost, Session.change, ExceptT.run_mk, bind, StateT.bind, hoperation]
  rfl

theorem run_change_of_error {operation : Workspace → Except IoFault Workspace} {fault : IoFault}
    (hoperation : operation session.workspace = .error fault) :
    (ofHost (Session.change operation)).run session = (.error (.io fault), session) := by
  simp only [ofHost, Session.change, ExceptT.run_mk, bind, StateT.bind, hoperation]
  rfl

theorem ends_change_iff {operation : Workspace → Except IoFault Workspace} {result : Unit} :
    Ends (ofHost (Session.change operation)) session result after ↔
      ∃ workspace, operation session.workspace = .ok workspace ∧
        after = { session with workspace } := by
  constructor
  · intro hends
    cases hoperation : operation session.workspace with
    | ok workspace =>
      rw [Ends, run_change hoperation] at hends
      cases hends
      exact ⟨workspace, rfl, rfl⟩
    | error fault =>
      rw [Ends, run_change_of_error hoperation] at hends
      cases hends
  · rintro ⟨workspace, hoperation, rfl⟩
    exact run_change hoperation

theorem ends_writeText_iff {path text : String} {result : Unit} :
    Ends (writeText path text) session result after ↔
      ∃ workspace, session.workspace.write path text.toUTF8 = .ok workspace ∧
        after = { session with workspace } :=
  ends_change_iff

theorem ends_makeFolders_iff {path : String} {result : Unit} :
    Ends (ofHost (Host.makeFolders path)) session result after ↔
      ∃ workspace, session.workspace.makeFolders path = .ok workspace ∧
        after = { session with workspace } :=
  ends_change_iff

theorem removeTree_of_ends {path : String} {result : Unit}
    (hends : Ends (ofHost (Host.removeTree path)) session result after) :
    session.workspace.removeTree path = (.ok (), after.workspace) := by
  have hrun : (ofHost (Host.removeTree path) : Task SessionM Unit).run session =
      ((session.workspace.removeTree path).1.mapError .io,
        { session with workspace := (session.workspace.removeTree path).2 }) := rfl
  rw [Ends, hrun] at hends
  generalize session.workspace.removeTree path = removal at hends ⊢
  obtain ⟨removed, workspace⟩ := removal
  cases removed with
  | error fault => cases hends
  | ok _ =>
    cases hends
    rfl

end Task

end ApiManual
