import StagedTables.Proofs.Program.Silence
import StagedTables.Proofs.Session.Building
import StagedTables.Proofs.Table.Creating

/-! # Sessions report cancellation

An operation that begins when its token is cancelled is compared with what it would do had nobody
told it.  If it would call the service, it reports the cancellation instead; if not, it does just
the same. -/
set_option autoImplicit false
namespace StagedTables

/-! ## Reads and selections -/

section Sessions

variable {α σ : Type} {answers : Program.Answers σ} {token : Token} {cancelled : σ → Bool}
  {session : Session}

section Cancels

variable (cancels : Cancels answers token cancelled) {zone : Calendar.LocalZone}
include cancels

namespace Provisioning

theorem reports_createTable (provisioning : Provisioning) (account : Account) (name : String)
    (more before : Nat) :
    (provisioning.createTable account name (some token) more before).Reports answers token cancelled
      (.error (.cancelled operation)) fun _ => False := by
  rw [createTable_eq]
  exact Action.reports_raiseIfCancelled cancels operation
    (Action.calls_send (.createTable account name) trivial _)

theorem reports_resolve (provisioning : Provisioning) (account : Account) (name : String) :
    (provisioning.resolve account name (some token)).Reports answers token cancelled
      (.error (.cancelled operation)) fun _ => True := by
  unfold resolve
  cases TableName.fault? name with
  | some fault => exact (Action.keeps_throw _).reports
  | none =>
    refine (Action.keeps_unaware (.cached _) id nofun).before cancels fun kept _ => ?_
    cases kept with
    | some table => exact (Action.keeps_pure trivial).reports
    | none =>
      exact (reports_createTable cancels ..).bind cancels (fun _ impossible => impossible.elim)
        fun _ => rfl

end Provisioning

namespace Session

theorem reports_selectOn (holds : session.token = token) (target : AccountTable)
    (account : Account) (name : String) :
    (session.selectOn target account name).Reports answers token cancelled
      (.error (.cancelled Provisioning.operation)) fun _ => True := by
  unfold selectOn
  rw [holds]
  exact (Provisioning.reports_resolve cancels ..).bind cancels
    (fun _ _ => (Action.keeps_pure trivial).reports) fun _ => rfl

theorem reports_select (holds : session.token = token) (name : String) :
    (session.select name).Reports answers token cancelled
      (.error (.cancelled Provisioning.operation)) fun _ => True := by
  unfold select
  refine (Action.keeps_liftM _).before cancels fun storage _ => ?_
  split
  · exact (Action.keeps_throw _).reports
  · refine (reports_selectOn cancels holds ..).bind cancels (fun prod _ => ?_) fun _ => rfl
    split
    · exact (Action.keeps_pure trivial).reports
    · split
      · exact (Action.keeps_throw _).reports
      · exact (reports_selectOn cancels holds ..).bind cancels
          (fun dev _ => (Action.keeps_pure trivial).reports) fun _ => rfl

theorem reports_receive (holds : session.token = token) (read : Entity → Reaction α) :
    (session.receive read).Reports answers token cancelled (.error (.cancelled "receive"))
      fun _ => False := by
  unfold receive
  rw [holds]
  refine (keeps_readTable_any session).before cancels fun table _ => ?_
  split
  · exact (Action.keeps_throw _).reports
  · exact Action.reports_raiseIfCancelled cancels _ (Action.calls_send (.getEntity ..) trivial _)

theorem reports_fetch (holds : session.token = token) (table : TableClient) :
    (session.fetch zone table).Reports answers token cancelled (.error (.cancelled queryOperation))
      fun _ => False := by
  unfold fetch
  rw [holds]
  refine (Action.keeps_liftM _).before cancels fun filter _ => ?_
  refine Action.reports_raiseIfCancelled cancels _ ?_
  cases filter with
  | none => exact Action.calls_send (.startQuery _) trivial _
  | some text =>
    exact Action.calls_after (.log _) fun _ => Action.calls_send (.startQuery _) trivial _

theorem reports_fetchAndRead (holds : session.token = token) (table : TableClient)
    (read : Entity → Reaction α) :
    (session.fetchAndRead zone table read).Reports answers token cancelled
      (.error (.cancelled queryOperation)) fun _ => False :=
  (reports_fetch cancels holds table).bind cancels (fun _ impossible => impossible.elim)
    fun _ => rfl

theorem reports_execute (holds : session.token = token) (read : Entity → Reaction α) :
    (session.execute zone read).Reports answers token cancelled
      (.ok (.error (.cancelled queryOperation))) fun result => ∀ values, result ≠ .ok values := by
  unfold execute
  refine (keeps_readTable_any session).before cancels fun table _ => ?_
  refine (reports_fetchAndRead cancels holds table read).capture.bind cancels
    (fun result fails => ?_) fun _ => rfl
  cases result with
  | ok values => exact (fails values rfl).elim
  | error failure =>
    exact ((Action.keeps_log_unaware ..).bind fun _ _ => Action.keeps_pure nofun).reports

theorem reports_executeDirect (holds : session.token = token) (read : Entity → Reaction α) :
    (session.executeDirect zone read).Reports answers token cancelled
      (.error (.query (.cancelled queryOperation))) fun _ => False := by
  unfold executeDirect
  refine (keeps_readTable_any session).before cancels fun table _ => ?_
  refine (reports_fetchAndRead cancels holds table read).capture.bind cancels
    (fun result fails => ?_) fun _ => rfl
  cases result with
  | ok values => exact (fails values rfl).elim
  | error failure => exact (Action.keeps_throw _).reports

end Session
end Cancels

/-! ## Writes -/

namespace WriteCall

def access : WriteCall → AccessKind
  | insert _ _ _ => .write
  | delete _ _ => .delete
  | batch kind _ _ => kind.access

def operation : WriteCall → String
  | insert _ _ _ => "insert"
  | delete _ _ => "delete"
  | batch kind _ _ => s!"{kind.access.name}_batch"

def IsEmpty : WriteCall → Prop
  | batch _ items _ => items = []
  | _ => False

/-- There is no table to write to, or nothing to write. -/
def IsIdle (session : Session) (call : WriteCall) : Prop :=
  ∃ route, session.route call.access = .ok route ∧ (route = .skipped ∨ call.IsEmpty)

end WriteCall

namespace Session

theorem keeps_target?_route (session : Session) (kind : AccessKind) :
    Action.Keeps .unaware (fun found => ∃ route, session.route kind = .ok route ∧
      found = route.table?) (session.target? kind) := by
  unfold target? route
  refine (Action.keeps_liftM _).bind fun storage connected => ?_
  refine (Action.keeps_liftM _).bind fun route leads => ?_
  have routed : (session.requireStorage >>= fun storage => storage.route kind) = .ok route := by
    rw [connected]
    exact leads
  cases route.note? kind with
  | none => exact Action.keeps_pure ⟨route, routed, rfl⟩
  | some note =>
    exact (Action.keeps_log_unaware ..).bind fun _ _ => Action.keeps_pure ⟨route, routed, rfl⟩

theorem reports_write (cancels : Cancels answers token cancelled) (session : Session)
    (kind : AccessKind) (title : String) {write : TableClient → Action Unit} {failure : Failure}
    {empty : Prop} (reports : ∀ table, (write table).Reports answers token cancelled
      (.error failure) fun _ => empty) :
    Action.Reports answers token cancelled (.ok (.error failure))
      (fun result => result = .ok () →
        ∃ route, session.route kind = .ok route ∧ (route = .skipped ∨ empty)) (do
        match ← session.target? kind with
        | none => return .ok ()
        | some table => attempt title (write table)) := by
  refine (keeps_target?_route session kind).before cancels fun found leads => ?_
  obtain ⟨route, leads, rfl⟩ := leads
  cases taken : route.table? with
  | none =>
    have skipped : route = .skipped := by
      cases route with
      | skipped => rfl
      | straight table | diverted table => cases taken
    exact (Action.keeps_pure fun _ => ⟨route, leads, .inl skipped⟩).reports
  | some table =>
    refine (reports table).capture.bind cancels (fun result done => ?_) fun _ => rfl
    cases result with
    | ok value => exact (Action.keeps_pure fun _ => ⟨route, leads, .inr (done value rfl)⟩).reports
    | error failure =>
      exact ((Action.keeps_log_unaware ..).bind fun _ _ => Action.keeps_pure nofun).reports

theorem reports_submit {ι : Type} (cancels : Cancels answers token cancelled)
    (holds : session.token = token) (table : TableClient) (kind : BatchKind) (items : List ι)
    (build : ι → Reaction Payload) :
    (session.submit table kind items build).Reports answers token cancelled
      (.error (.cancelled s!"{kind.access.name}_batch")) fun _ => items = [] := by
  have built : ∀ item ∈ items, Action.Keeps .unaware (fun _ => True) (do
      return kind.action (← (build item).perform token).toEntity) := fun item _ =>
    (Action.keeps_perform_unaware ..).bind fun _ _ => Action.keeps_pure trivial
  unfold submit
  rw [holds]
  refine (Action.keeps_mapM built).before cancels fun actions each => ?_
  split
  · next none =>
    rw [List.isEmpty_iff.mp none] at each
    have empty : items = [] := List.forall₂_nil_right_iff.mp each
    exact ((Action.keeps_log_unaware ..).mono fun _ _ => empty).reports
  · exact Action.reports_raiseIfCancelled cancels _ (Action.calls_send (.transact ..) trivial _)

end Session

theorem WriteCall.reports_perform (cancels : Cancels answers token cancelled)
    (holds : session.token = token) (call : WriteCall) :
    (call.perform session).Reports answers token cancelled
      (.ok (.error (.cancelled call.operation)))
      fun result => result = .ok () → call.IsIdle session := by
  cases call with
  | insert partitionKey rowKey build =>
    refine session.reports_write cancels .write _ fun table => ?_
    rw [holds]
    refine (Action.keeps_perform_unaware ..).before cancels fun _ _ => ?_
    exact Action.reports_raiseIfCancelled cancels _ (Action.calls_send (.upsert ..) trivial _)
  | delete partitionKey rowKey =>
    refine session.reports_write cancels .delete _ fun table => ?_
    rw [holds]
    exact Action.reports_raiseIfCancelled cancels _ (Action.calls_send (.delete ..) trivial _)
  | batch kind items build =>
    exact session.reports_write cancels kind.access _ fun table =>
      Session.reports_submit cancels holds table kind items build

theorem Session.run_skipped {kind : AccessKind} (skipped : session.route kind = .ok .skipped)
    (title : String) (write : TableClient → Action Unit) (answers : Program.Answers σ) (state : σ) :
    ((do
      match ← session.target? kind with
      | none => return .ok ()
      | some table => attempt title (write table) :
        Action (Except Failure Unit)).run.run answers state).1 = .ok (.ok ()) := by
  rw [Action.run_bind, Session.run_target? skipped]
  rfl

theorem WriteCall.run_idle {call : WriteCall} (idle : call.IsIdle session)
    (answers : Program.Answers σ) (state : σ) :
    ((call.perform session).run.run answers state).1 = .ok (.ok ()) := by
  obtain ⟨route, leads, idle⟩ := idle
  cases call with
  | insert partitionKey rowKey build =>
    obtain rfl | impossible := idle
    · exact Session.run_skipped leads _ _ answers state
    · exact impossible.elim
  | delete partitionKey rowKey =>
    obtain rfl | impossible := idle
    · exact Session.run_skipped leads _ _ answers state
    · exact impossible.elim
  | batch kind items build =>
    obtain rfl | empty := idle
    · exact Session.run_skipped leads _ _ answers state
    · cases empty
      have found : ((session.target? kind.access).run.run answers state).1 = .ok route.table? :=
        Session.run_target? leads answers state
      unfold perform Session.batch
      rw [Action.run_bind, found]
      cases route.table? <;> rfl

end Sessions
end StagedTables
