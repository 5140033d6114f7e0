import Mathlib.Data.List.Forall2
import QueryBench.Proofs.Drawing

/- Two databases are measured on the same workload: filled side by side from equal fleets, they draw
   the same windows and hosts, fail together, and leave equal fleets behind after every query. -/
namespace QueryBench

def Shows (text part : String) : Prop := ∃ before behind, text = before ++ part ++ behind

theorem shows_self (text : String) : Shows text text := ⟨"", "", by simp⟩

theorem shows_front {text part : String} (shown : Shows text part) (more : String) :
    Shows (text ++ more) part := by
  obtain ⟨before, behind, rfl⟩ := shown
  exact ⟨before, behind ++ more, by simp only [String.append_assoc]⟩

theorem shows_back {text part : String} (shown : Shows text part) (more : String) :
    Shows (more ++ text) part := by
  obtain ⟨before, behind, rfl⟩ := shown
  exact ⟨more ++ before, behind, by simp only [String.append_assoc]⟩

def Request.window? : Request → Option Interval
  | .singleGroupby _ _ window | .maxAll _ window | .doubleGroupby _ window | .highCpu _ window
  | .orderByLimit window => some window
  | .lastPoint => none

namespace Timescale

theorem statement_shows_window {b : Buckets} {request : Request} {window : Interval}
    (asked : request.window? = some window) (bounded : ∀ w, request ≠ .orderByLimit w) :
    Shows (statement b request) (timeClause window) := by
  have shown := shows_self (timeClause window)
  cases request with
  | singleGroupby metrics hosts w | maxAll hosts w | highCpu hosts w =>
    cases asked
    unfold statement
    exact shows_front (shows_back shown _) _
  | doubleGroupby metrics w =>
    cases asked
    unfold statement
    exact shows_front (shows_front (shows_front (shows_back shown _) _) _) _
  | lastPoint => simp [Request.window?] at asked
  | orderByLimit w => exact absurd rfl (bounded w)

theorem statement_shows_hosts {b : Buckets} {request : Request} (hosted : request.hosts ≠ []) :
    Shows (statement b request) (hostClause request.hosts) := by
  have shown := shows_self (hostClause request.hosts)
  cases request with
  | singleGroupby metrics hosts window | maxAll hosts window =>
    rw [Request.hosts] at shown ⊢
    unfold statement
    exact shows_front (shows_front (shows_front (shows_back shown _) _) _) _
  | highCpu hosts window =>
    rw [Request.hosts] at hosted shown ⊢
    unfold statement
    simp only [if_neg hosted]
    exact shows_back (shows_back shown _) _
  | doubleGroupby metrics window | lastPoint | orderByLimit window => exact absurd rfl hosted

end Timescale

namespace Siri

theorem statement_shows_window {request : Request} {window : Interval}
    (asked : request.window? = some window) (bounded : ∀ w, request ≠ .orderByLimit w) :
    Shows (statement request) (timeClause window) := by
  have shown := shows_self (timeClause window)
  cases request with
  | singleGroupby metrics hosts w | maxAll hosts w | doubleGroupby metrics w | highCpu hosts w =>
    cases asked
    unfold statement
    exact shows_back shown _
  | lastPoint => simp [Request.window?] at asked
  | orderByLimit w => exact absurd rfl (bounded w)

theorem statement_shows_hosts {request : Request} (hosted : request.hosts ≠ []) :
    Shows (statement request) (union request.hosts) := by
  have shown := shows_self (union request.hosts)
  cases request with
  | singleGroupby metrics hosts window | maxAll hosts window =>
    unfold statement
    exact shows_front (shows_back shown _) _
  | highCpu hosts window =>
    rw [Request.hosts] at hosted shown ⊢
    unfold statement
    simp only [if_neg hosted]
    exact shows_front (shows_back (shows_back shown _) _) _
  | doubleGroupby metrics window | lastPoint | orderByLimit window => exact absurd rfl hosted

end Siri

theorem Kind.label_title (kind : Kind) : ∃ rest, ∀ title, kind.label title = title ++ rest := by
  cases kind with
  | singleGroupby metrics hosts hours =>
    refine ⟨" " ++ (toString metrics ++ (" cpu metric(s), random " ++
      (Text.padLeft 4 ' ' (toString hosts) ++ (" hosts, random " ++
        ((Duration.ofHours hours).toText ++ " by 1m"))))), ?_⟩
    intro title
    unfold label
    simp only [String.append_assoc]
  | maxAll hosts =>
    refine ⟨" max of all CPU metrics, random " ++ (Text.padLeft 4 ' ' (toString hosts) ++
      (" hosts, random " ++ (maxAllWindow.toText ++ " by 1h"))), ?_⟩
    intro title
    unfold label
    simp only [String.append_assoc]
  | doubleGroupby metrics =>
    refine ⟨" mean of " ++ (toString metrics ++ (" metrics, all hosts, random " ++
      (doubleGroupbyWindow.toText ++ " by 1h"))), ?_⟩
    intro title
    unfold label
    simp only [String.append_assoc]
  | highCpu hosts =>
    cases hosts with
    | zero => exact ⟨_, fun _ => rfl⟩
    | succ more =>
      refine ⟨" CPU over threshold, " ++ (toString (more + 1) ++ " host(s)"), ?_⟩
      intro title
      unfold label
      simp only [String.append_assoc]
  | lastPoint => exact ⟨_, fun _ => rfl⟩
  | orderByLimit => exact ⟨_, fun _ => rfl⟩

/-- One fill of a query: the fleet before it, what came of it, and the fleet behind it. -/
structure Fill where
  kind : Kind
  before : Fleet
  result : Except Workload.Error Query
  after : Fleet

/-- Fills one query after the other from a fleet, also behind one that failed. -/
def Database.fillEach (d : Database) : List (Kind × Query) → Fleet → List Fill
  | [], _ => []
  | (kind, q) :: rest, fleet =>
      let (result, after) := d.generate kind q fleet
      ⟨kind, fleet, result, after⟩ :: d.fillEach rest after

/-- Two texts that differ in the name of the database they begin with. -/
def Renamed (ours theirs : String) : Prop :=
  ∃ rest, ours = Timescale.title ++ rest ∧ theirs = Siri.title ++ rest

/-- A query of each database for one request. -/
structure Alike (b : Timescale.Buckets) (request : Request) (ours theirs : Query) : Prop where
  affinity : ours.affinity = theirs.affinity
  label : Renamed ours.label theirs.label
  description : Renamed ours.description theirs.description
  payload : ours.payload = .sql "cpu" (Timescale.statement b request)
  payload' : theirs.payload = .siri (Siri.statement request)
  window : ∀ window, request.window? = some window →
    Shows (Timescale.statement b request) (Timescale.timeClause window) ∧
      Shows (Siri.statement request) (Siri.timeClause window)
  hosts : request.hosts ≠ [] →
    Shows (Timescale.statement b request) (Timescale.hostClause request.hosts) ∧
      Shows (Siri.statement request) (Siri.union request.hosts)

/-- Two fills from one fleet that lead to one fleet, through the same failure or the same request. -/
inductive InStep (b : Timescale.Buckets) : Fill → Fill → Prop where
  | failed {kind : Kind} {before after : Fleet} {e : Workload.Error}
      (ours : Timescale.draw kind before = (.error e, after))
      (theirs : Siri.draw kind before = (.error e, after)) :
      InStep b ⟨kind, before, .error e, after⟩ ⟨kind, before, .error e, after⟩
  | filled {kind : Kind} {before after : Fleet} {request : Request} {p q : Query}
      (ours : Timescale.draw kind before = (.ok request, after))
      (theirs : Siri.draw kind before = (.ok request, after)) (alike : Alike b request p q) :
      InStep b ⟨kind, before, .ok p, after⟩ ⟨kind, before, .ok q, after⟩

theorem renamed_label (kind : Kind) :
    Renamed (kind.label Timescale.title) (kind.label Siri.title) := by
  obtain ⟨rest, spelled⟩ := kind.label_title
  exact ⟨rest, spelled _, spelled _⟩

theorem renamed_append {ours theirs : String} (renamed : Renamed ours theirs) (more : String) :
    Renamed (ours ++ more) (theirs ++ more) := by
  obtain ⟨rest, rfl, rfl⟩ := renamed
  exact ⟨rest ++ more, String.append_assoc, String.append_assoc⟩

theorem filled_alike (useTimeBucket : Bool) (kind : Kind) {request : Request}
    (bounded : ∀ w, request ≠ .orderByLimit w) (p q : Query) :
    Alike (Timescale.buckets useTimeBucket) request
      ((Timescale.database useTimeBucket).fill kind request p)
      (Siri.database.fill kind request q) where
  affinity := rfl
  label := renamed_label kind
  description := by
    show Renamed (Database.fillWith Timescale.title _ kind request p).description
      (Database.fillWith Siri.title _ kind request q).description
    cases shown : request.timeText? with
    | some time =>
      rw [Database.fillWith_timed shown, Database.fillWith_timed shown]
      exact renamed_append (renamed_append (renamed_label kind) _) _
    | none =>
      rw [Database.fillWith_untimed shown, Database.fillWith_untimed shown]
      exact renamed_label kind
  payload := rfl
  payload' := rfl
  window _ asked := ⟨Timescale.statement_shows_window asked bounded,
    Siri.statement_shows_window asked bounded⟩
  hosts hosted := ⟨Timescale.statement_shows_hosts hosted, Siri.statement_shows_hosts hosted⟩

theorem drawn_bounded {kind : Kind} (supported : Siri.supports kind = true)
    {before after : Fleet} {request : Request}
    (drawn : Timescale.draw kind before = (.ok request, after)) :
    ∀ w, request ≠ .orderByLimit w := by
  intro w open_
  subst request
  cases Timescale.draw_asked drawn with
  | orderByLimit placed => cases supported

theorem generate_in_step (useTimeBucket : Bool) {kind : Kind}
    (supported : Siri.supports kind = true) (p q : Query) (fleet : Fleet) :
    ∃ ours theirs after,
      (Timescale.database useTimeBucket).generate kind p fleet = (ours, after) ∧
      Siri.database.generate kind q fleet = (theirs, after) ∧
      InStep (Timescale.buckets useTimeBucket) ⟨kind, fleet, ours, after⟩
        ⟨kind, fleet, theirs, after⟩ := by
  have same : Siri.draw kind fleet = Timescale.draw kind fleet :=
    congrFun (Siri.draw_eq supported) fleet
  cases drawn : Timescale.draw kind fleet with
  | mk result after =>
    rw [drawn] at same
    cases result with
    | error e =>
      exact ⟨_, _, after, Database.generate_failed rfl drawn p,
        Database.generate_failed supported same q, .failed drawn same⟩
    | ok request =>
      exact ⟨_, _, after, Database.generate_filled rfl drawn p,
        Database.generate_filled supported same q, .filled drawn same
          (filled_alike useTimeBucket kind (drawn_bounded supported drawn) p q)⟩

/-- However many queries are filled, and whichever of them fail, both databases are asked for the same
requests, fail on the same draws, and go on from equal fleets. -/
theorem databases_stay_in_step (useTimeBucket : Bool) (fleet : Fleet)
    (fills : List (Kind × Query × Query))
    (supported : ∀ fill ∈ fills, Siri.supports fill.1 = true) :
    List.Forall₂ (InStep (Timescale.buckets useTimeBucket))
      ((Timescale.database useTimeBucket).fillEach (fills.map fun f => (f.1, f.2.1)) fleet)
      (Siri.database.fillEach (fills.map fun f => (f.1, f.2.2)) fleet) := by
  induction fills generalizing fleet with
  | nil => exact .nil
  | cons fill fills ih =>
    obtain ⟨kind, p, q⟩ := fill
    obtain ⟨ours, theirs, after, first, second, step⟩ :=
      generate_in_step useTimeBucket (supported _ List.mem_cons_self) p q fleet
    rw [List.map_cons, List.map_cons, Database.fillEach, Database.fillEach, first, second]
    exact .cons step (ih after fun f member => supported f (by simp [member]))

def mixed : List (Kind × Query × Query) :=
  [(.singleGroupby 5 1 12, {}, {}), (.maxAll 8, {}, {}), (.singleGroupby 0 1 1, {}, {}),
    (.highCpu 2, {}, {}), (.lastPoint, {}, {})]

def day : Interval := ⟨0, 86400000000000, by decide, by decide, by decide⟩

theorem mixed_fills_stay_in_step :
    (∀ fill ∈ mixed, Siri.supports fill.1 = true) ∧
      List.Forall₂ (InStep (Timescale.buckets true))
        ((Timescale.database true).fillEach (mixed.map fun f => (f.1, f.2.1)) ⟨day, .ofSeed 3 7⟩)
        (Siri.database.fillEach (mixed.map fun f => (f.1, f.2.2)) ⟨day, .ofSeed 3 7⟩) :=
  ⟨by decide, databases_stay_in_step true ⟨day, .ofSeed 3 7⟩ mixed (by decide)⟩

end QueryBench
