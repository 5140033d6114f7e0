import QueryBench.Proofs.Sample
import QueryBench.Workload.Format

/- What a database draws for a query: the parts of a request come from the range and the hosts of its
   fleet, and drawing moves nothing of the fleet but its word stream. -/
namespace QueryBench
open Workload

namespace Workload

theorem bind_apply {α β : Type} (m : Drawing α) (f : α → Drawing β) (fleet : Fleet) :
    (m >>= f) fleet =
      match m fleet with
      | (.ok a, after) => f a after
      | (.error e, after) => (.error e, after) := by
  show StateT.bind m (ExceptT.bindCont f) fleet = _
  simp only [StateT.bind]
  cases drawn : m fleet with
  | mk result after =>
    cases result with
    | ok a => rfl
    | error e => rfl

theorem bind_ok {α β : Type} {m : Drawing α} {f : α → Drawing β} {fleet after : Fleet} {b : β}
    (done : (m >>= f) fleet = (.ok b, after)) :
    ∃ a between, m fleet = (.ok a, between) ∧ f a between = (.ok b, after) := by
  rw [bind_apply] at done
  cases drawn : m fleet with
  | mk result between =>
    rw [drawn] at done
    cases result with
    | ok a => exact ⟨a, between, rfl, done⟩
    | error e => cases done

theorem pure_ok {α : Type} {a b : α} {fleet after : Fleet}
    (done : (pure a : Drawing α) fleet = (.ok b, after)) : a = b ∧ fleet = after := by
  cases done
  exact ⟨rfl, rfl⟩

/-- Drawing leaves the range and the number of hosts as they are. -/
def Steady {α : Type} (m : Drawing α) : Prop :=
  ∀ fleet, (m fleet).2.interval = fleet.interval ∧
    (m fleet).2.population.scale = fleet.population.scale

theorem steady_pure {α : Type} (a : α) : Steady (pure a) := fun _ => ⟨rfl, rfl⟩

theorem steady_bind {α β : Type} {m : Drawing α} {f : α → Drawing β} (first : Steady m)
    (second : ∀ a, Steady (f a)) : Steady (m >>= f) := by
  intro fleet
  have kept := first fleet
  rw [bind_apply]
  cases drawn : m fleet with
  | mk result between =>
    rw [drawn] at kept
    cases result with
    | ok a =>
      have more := second a between
      exact ⟨more.1.trans kept.1, more.2.trans kept.2⟩
    | error e => exact kept

theorem steady_window (length : Duration) : Steady (drawWindow length) := fun _ => ⟨rfl, rfl⟩

theorem steady_hosts (count : Nat) : Steady (drawHosts count) := fun _ => ⟨rfl, rfl⟩

theorem steady_someHosts (count : Nat) :
    Steady (if count = 0 then pure [] else drawHosts count) := by
  split
  · exact steady_pure _
  · exact steady_hosts _

theorem steady_metrics (count : Nat) : Steady (metrics count) := fun _ => ⟨rfl, rfl⟩

/-- A window of some length that a stream picks out of a range. -/
def PickedWindow (range : Interval) (length : Duration) (window : Interval) : Prop :=
  ∃ k k', range.randomWindow length k = (.ok window, k')

/-- Names of hosts that a stream picks out of so many. -/
def PickedHosts (scale count : Nat) (hosts : List String) : Prop :=
  ∃ k k', Sample.names "hosts" count scale "host" k = (.ok hosts, k')

theorem pickedHosts_named {scale count : Nat} {names : List String}
    (picked : PickedHosts scale count names) :
    ∃ numbers, Sample.Distinct count scale numbers ∧
      names = numbers.map (Sample.nameOf "host") := by
  obtain ⟨k, k', taken⟩ := picked
  simp only [Sample.names, Sample.checked] at taken
  split at taken
  · cases taken
  · split at taken
    · cases taken
    · rename_i positive enough
      cases taken
      exact ⟨_, Sample.indices_distinct (Nat.le_of_not_lt enough) k, rfl⟩

theorem mapError_ok {ε δ α : Type} {f : ε → δ} {result : Except ε α} {a : α}
    (mapped : result.mapError f = .ok a) : result = .ok a := by
  cases result with
  | ok b =>
    cases mapped
    rfl
  | error e => cases mapped

theorem drawWindow_ok {length : Duration} {fleet after : Fleet} {window : Interval}
    (drawn : drawWindow length fleet = (.ok window, after)) :
    PickedWindow fleet.interval length window ∧ after.interval = fleet.interval ∧
      after.population.scale = fleet.population.scale := by
  have kept := steady_window length fleet
  rw [drawn] at kept
  have found := mapError_ok (congrArg Prod.fst drawn)
  exact ⟨⟨fleet.population.random, _, Prod.ext found rfl⟩, kept⟩

theorem drawHosts_ok {count : Nat} {fleet after : Fleet} {names : List String}
    (drawn : drawHosts count fleet = (.ok names, after)) :
    PickedHosts fleet.population.scale count names ∧ after.interval = fleet.interval ∧
      after.population.scale = fleet.population.scale := by
  have kept := steady_hosts count fleet
  rw [drawn] at kept
  have found := mapError_ok (congrArg Prod.fst drawn)
  exact ⟨⟨fleet.population.random, _, Prod.ext found rfl⟩, kept⟩

theorem metrics_ok {count : Nat} {fleet after : Fleet} {names : List String}
    (drawn : metrics count fleet = (.ok names, after)) :
    Metric.first count = .ok names ∧ after = fleet :=
  ⟨mapError_ok (congrArg Prod.fst drawn), (congrArg Prod.snd drawn).symm⟩

end Workload

/-- The requests that a kind can lead to in a range of time with so many hosts. -/
inductive Request.Asked (range : Interval) (scale : Nat) : Kind → Request → Prop where
  | singleGroupby {count hosts hours : Nat} {metrics names : List String} {window : Interval}
      (first : Metric.first count = .ok metrics) (picked : PickedHosts scale hosts names)
      (placed : PickedWindow range (.ofHours hours) window) :
      Asked range scale (.singleGroupby count hosts hours) (.singleGroupby metrics names window)
  | maxAll {hosts : Nat} {names : List String} {window : Interval}
      (picked : PickedHosts scale hosts names)
      (placed : PickedWindow range Kind.maxAllWindow window) :
      Asked range scale (.maxAll hosts) (.maxAll names window)
  | doubleGroupby {count : Nat} {metrics : List String} {window : Interval}
      (first : Metric.first count = .ok metrics)
      (placed : PickedWindow range Kind.doubleGroupbyWindow window) :
      Asked range scale (.doubleGroupby count) (.doubleGroupby metrics window)
  | highCpuAll {window : Interval} (placed : PickedWindow range Kind.highCpuWindow window) :
      Asked range scale (.highCpu 0) (.highCpu [] window)
  | highCpu {hosts : Nat} {names : List String} {window : Interval} (hosted : hosts ≠ 0)
      (picked : PickedHosts scale hosts names)
      (placed : PickedWindow range Kind.highCpuWindow window) :
      Asked range scale (.highCpu hosts) (.highCpu names window)
  | lastPoint : Asked range scale .lastPoint .lastPoint
  | orderByLimit {window : Interval} (placed : PickedWindow range Kind.orderByLimitWindow window) :
      Asked range scale .orderByLimit (.orderByLimit window)

namespace Timescale

theorem draw_highCpu (hosts : Nat) :
    draw (.highCpu hosts) = drawWindow Kind.highCpuWindow >>= fun window =>
      (if hosts = 0 then pure [] else drawHosts hosts) >>= fun names =>
        pure (.highCpu names window) := by
  by_cases all : hosts = 0
  · subst hosts
    rfl
  · simp only [draw, if_neg all]

theorem draw_steady (kind : Kind) : Steady (draw kind) := by
  cases kind with
  | singleGroupby count hosts hours =>
    exact steady_bind (steady_window _) fun _ => steady_bind (steady_metrics _) fun _ =>
      steady_bind (steady_hosts _) fun _ => steady_pure _
  | maxAll hosts =>
    exact steady_bind (steady_window _) fun _ => steady_bind (steady_hosts _) fun _ => steady_pure _
  | doubleGroupby count =>
    exact steady_bind (steady_metrics _) fun _ => steady_bind (steady_window _) fun _ =>
      steady_pure _
  | highCpu hosts =>
    rw [draw_highCpu]
    exact steady_bind (steady_window _) fun _ => steady_bind (steady_someHosts _) fun _ =>
      steady_pure _
  | lastPoint => exact steady_pure _
  | orderByLimit => exact steady_bind (steady_window _) fun _ => steady_pure _

theorem draw_asked {kind : Kind} {fleet after : Fleet} {request : Request}
    (drawn : draw kind fleet = (.ok request, after)) :
    request.Asked fleet.interval fleet.population.scale kind := by
  cases kind with
  | singleGroupby count hosts hours =>
    obtain ⟨window, f, taken, drawn⟩ := bind_ok drawn
    obtain ⟨all, g, named, drawn⟩ := bind_ok drawn
    obtain ⟨names, h, hosted, drawn⟩ := bind_ok drawn
    obtain ⟨rfl, -⟩ := pure_ok drawn
    obtain ⟨placed, range, scale⟩ := drawWindow_ok taken
    obtain ⟨known, rfl⟩ := metrics_ok named
    obtain ⟨picked, -, -⟩ := drawHosts_ok hosted
    rw [scale] at picked
    exact .singleGroupby known picked placed
  | maxAll hosts =>
    obtain ⟨window, f, taken, drawn⟩ := bind_ok drawn
    obtain ⟨names, g, hosted, drawn⟩ := bind_ok drawn
    obtain ⟨rfl, -⟩ := pure_ok drawn
    obtain ⟨placed, range, scale⟩ := drawWindow_ok taken
    obtain ⟨picked, -, -⟩ := drawHosts_ok hosted
    rw [scale] at picked
    exact .maxAll picked placed
  | doubleGroupby count =>
    obtain ⟨all, f, named, drawn⟩ := bind_ok drawn
    obtain ⟨window, g, taken, drawn⟩ := bind_ok drawn
    obtain ⟨rfl, -⟩ := pure_ok drawn
    obtain ⟨known, rfl⟩ := metrics_ok named
    exact .doubleGroupby known (drawWindow_ok taken).1
  | highCpu hosts =>
    rw [draw_highCpu] at drawn
    obtain ⟨window, f, taken, drawn⟩ := bind_ok drawn
    obtain ⟨names, g, hosted, drawn⟩ := bind_ok drawn
    obtain ⟨rfl, -⟩ := pure_ok drawn
    obtain ⟨placed, range, scale⟩ := drawWindow_ok taken
    by_cases all : hosts = 0
    · subst hosts
      obtain ⟨rfl, -⟩ := pure_ok hosted
      exact .highCpuAll placed
    · rw [if_neg all] at hosted
      obtain ⟨picked, -, -⟩ := drawHosts_ok hosted
      rw [scale] at picked
      exact .highCpu all picked placed
  | lastPoint =>
    obtain ⟨rfl, -⟩ := pure_ok drawn
    exact .lastPoint
  | orderByLimit =>
    obtain ⟨window, f, taken, drawn⟩ := bind_ok drawn
    obtain ⟨rfl, -⟩ := pure_ok drawn
    exact .orderByLimit (drawWindow_ok taken).1

end Timescale

namespace Siri

/-- The two databases make the same choices in the same order, kind by kind. -/
theorem draw_eq {kind : Kind} (supported : supports kind = true) :
    draw kind = Timescale.draw kind := by
  cases kind with
  | orderByLimit => cases supported
  | singleGroupby metrics hosts hours => rfl
  | maxAll hosts => rfl
  | doubleGroupby metrics => rfl
  | highCpu hosts => rfl
  | lastPoint => rfl

end Siri

namespace Database

variable {d : Database} {kind : Kind} {before after : Fleet}

theorem generate_ok (supported : d.supports kind = true) {q filled : Query}
    (done : d.generate kind q before = (.ok filled, after)) :
    ∃ request, d.draw kind before = (.ok request, after) ∧ filled = d.fill kind request q := by
  rw [generate, if_pos supported] at done
  obtain ⟨request, between, drawn, done⟩ := bind_ok done
  obtain ⟨rfl, rfl⟩ := pure_ok done
  exact ⟨request, drawn, rfl⟩

theorem generate_filled (supported : d.supports kind = true) {request : Request}
    (drawn : d.draw kind before = (.ok request, after)) (q : Query) :
    d.generate kind q before = (.ok (d.fill kind request q), after) := by
  rw [generate, if_pos supported, bind_apply, drawn]
  rfl

theorem generate_failed (supported : d.supports kind = true) {e : Workload.Error}
    (drawn : d.draw kind before = (.error e, after)) (q : Query) :
    d.generate kind q before = (.error e, after) := by
  rw [generate, if_pos supported, bind_apply, drawn]

section Fill
variable {title : String} {render : Request → Payload} {request : Request} {q : Query}

theorem fillWith_timed {time : String} (shown : request.timeText? = some time) :
    (fillWith title render kind request q).description = kind.label title ++ ": " ++ time := by
  simp only [fillWith, shown]

theorem fillWith_untimed (shown : request.timeText? = none) :
    (fillWith title render kind request q).description = kind.label title := by
  simp only [fillWith, shown]

end Fill

end Database

namespace Format

theorem database_draw (format : Format) (useTimeBucket : Bool) {kind : Kind}
    (supported : (format.database useTimeBucket).supports kind = true) :
    (format.database useTimeBucket).draw kind = Timescale.draw kind := by
  cases format with
  | timescale => rfl
  | siri => exact Siri.draw_eq supported

end Format

end QueryBench
