import QueryBench.Latency.Collector
import QueryBench.Proofs.Table

/- What a collector has counted after so many batches, each of them the answer to one query. The
   first batches are burn-in; every later one adds a value to a group for each call. -/
namespace QueryBench.Latency

def Groups.held (gs : Groups) (label : String) : Nat := ((gs.find? label).map Group.count).getD 0

def RunSummary.held (r : RunSummary) (label : String) : Nat :=
  ((Table.find? label r.groups).map Group.Summary.count).getD 0

/-- A label that none of the groups of the collector itself has. -/
def Plain (label : String) : Prop :=
  label ≠ allQueries ∧ label ≠ coldQueries ∧ label ≠ warmQueries

instance (label : String) : Decidable (Plain label) := inferInstanceAs (Decidable (_ ∧ _))

def Settings.perQuery (s : Settings) : Nat := if s.prewarm then 2 else 1

/-- What a summary says of `n` queries, each of them answered in full. -/
structure RunSummary.Tallies (s : Settings) (n : Nat) (r : RunSummary) : Prop where
  queries : r.queries = n
  burnedIn : r.burnedIn = min s.burnIn n
  all : r.held allQueries = (n - min s.burnIn n) * s.perQuery
  cold : s.prewarm = true → r.held coldQueries = n - min s.burnIn n
  warm : s.prewarm = true → r.held warmQueries = n - min s.burnIn n

theorem record_sorted {gs : Groups} (sorted : gs.Sorted) (label : String) (value : Float) :
    (record label value gs).Sorted := Table.sorted_alter sorted _ _

theorem record_held {gs : Groups} (sorted : gs.Sorted) (label other : String) (value : Float) :
    (record label value gs).held other = gs.held other + if other = label then 1 else 0 := by
  rw [Groups.held, record, Table.find?_alter sorted]
  by_cases same : other = label
  · rw [if_pos same, if_pos same, same, Groups.held]
    cases gs.find? label with
    | none => rfl
    | some g => rfl
  · rw [if_neg same, if_neg same]
    rfl

theorem observe_sorted {gs : Groups} (sorted : gs.Sorted) (prewarm : Bool) (o : Observation) :
    (observe prewarm o gs).Sorted := by
  have twice := record_sorted (record_sorted sorted o.label o.value) allQueries o.value
  cases prewarm with
  | false => exact twice
  | true => exact record_sorted twice _ _

theorem observe_held {gs : Groups} (sorted : gs.Sorted) (prewarm : Bool) {o : Observation}
    (plain : Plain o.label) :
    (observe prewarm o gs).held allQueries = gs.held allQueries + 1 ∧
      (observe true o gs).held coldQueries = gs.held coldQueries + (if o.warm then 0 else 1) ∧
      (observe true o gs).held warmQueries = gs.held warmQueries + (if o.warm then 1 else 0) := by
  have first := record_sorted sorted o.label o.value
  have second := record_sorted first allQueries o.value
  obtain ⟨all, cold, warm⟩ := plain
  have kinds : allQueries ≠ coldQueries ∧ allQueries ≠ warmQueries ∧ coldQueries ≠ warmQueries := by
    decide
  obtain ⟨allCold, allWarm, coldWarm⟩ := kinds
  refine ⟨?_, ?_, ?_⟩
  · cases prewarm with
    | false => simp [observe, record_held first, record_held sorted, all.symm]
    | true =>
      cases called : o.warm with
      | false =>
        simp [observe, called, record_held second, record_held first, record_held sorted, all.symm,
          allCold]
      | true =>
        simp [observe, called, record_held second, record_held first, record_held sorted, all.symm,
          allWarm]
  · cases called : o.warm with
    | false =>
      simp [observe, called, record_held second, record_held first, record_held sorted, cold.symm,
        allCold.symm]
    | true =>
      simp [observe, called, record_held second, record_held first, record_held sorted, cold.symm,
        allCold.symm, coldWarm]
  · cases called : o.warm with
    | false =>
      simp [observe, called, record_held second, record_held first, record_held sorted, warm.symm,
        allWarm.symm, coldWarm.symm]
    | true =>
      simp [observe, called, record_held second, record_held first, record_held sorted, warm.symm,
        allWarm.symm]

/-- The answer to a query, as a worker sends it: one value for each call. -/
inductive Answer (prewarm : Bool) : List Observation → Prop where
  | once {o : Observation} (single : prewarm = false) (plain : Plain o.label)
      (full : o.partialResult = false) (cold : o.warm = false) : Answer prewarm [o]
  | twice {o p : Observation} (double : prewarm = true) (plain : Plain o.label)
      (full : o.partialResult = false) (cold : o.warm = false) (plain' : Plain p.label)
      (warm : p.warm = true) : Answer prewarm [o, p]

theorem counted_cons (o : Observation) (rest : List Observation) :
    counted (o :: rest) = counted [o] + counted rest := by
  show ([o] ++ rest).countP _ = _
  exact List.countP_append

theorem answer_counted {prewarm : Bool} {batch : List Observation} (answer : Answer prewarm batch) :
    counted batch = 1 := by
  cases answer with
  | once single plain full cold => simp [counted, Observation.counted, full, cold]
  | twice double plain full cold plain' warm =>
    simp [counted, Observation.counted, full, cold, warm]

namespace Collector

/-- Nothing that a summary is about has changed. -/
structure Kept (c c' : Collector) : Prop where
  settings : c'.settings = c.settings
  groups : c'.groups = c.groups
  queries : c'.queries = c.queries
  burnedIn : c'.burnedIn = c.burnedIn

theorem interim_kept (c : Collector) (now : Nat) (sink : Sink) : Kept c (c.interim now sink).2.1 := by
  unfold interim
  split
  · exact ⟨rfl, rfl, rfl, rfl⟩
  · exact ⟨rfl, rfl, rfl, rfl⟩

theorem tick_kept (c : Collector) (now : Nat) (sink : Sink) : Kept c (c.tick now sink).2.1 := by
  unfold tick
  split
  · exact interim_kept c now sink
  · exact ⟨rfl, rfl, rfl, rfl⟩

theorem take_kept (c : Collector) (now : Nat) (o : Observation) (sink : Sink) :
    Kept { c with
        groups := observe c.settings.prewarm o c.groups
        queries := c.queries + counted [o] }
      (c.take now o sink).2.1 := by
  simp only [take]
  cases full : o.counted with
  | false => exact ⟨rfl, rfl, by simp [counted, full], rfl⟩
  | true =>
    have one : counted [o] = 1 := by simp [counted, full]
    rw [one, if_pos rfl]
    split
    · exact interim_kept _ now sink
    · exact ⟨rfl, rfl, rfl, rfl⟩

theorem takeAll_kept {c c' : Collector} {now : Nat} {sink sink' : Sink} {batch : List Observation}
    (done : c.takeAll now sink batch = (.ok (), c', sink')) :
    Kept { c with
        groups := batch.foldl (fun gs o => observe c.settings.prewarm o gs) c.groups
        queries := c.queries + counted batch } c' := by
  induction batch generalizing c sink with
  | nil =>
    cases done
    exact ⟨rfl, rfl, rfl, rfl⟩
  | cons o rest ih =>
    have first := take_kept c now o sink
    rw [takeAll] at done
    cases taken : c.take now o sink with
    | mk result after =>
      obtain ⟨between, sink₁⟩ := after
      rw [taken] at first done
      cases result with
      | error e => cases done
      | ok u =>
        have more := ih done
        obtain ⟨settings, groups, queries, burnedIn⟩ := first
        refine ⟨more.settings.trans settings, ?_, ?_, more.burnedIn.trans burnedIn⟩
        · rw [more.groups]
          simp only at settings groups ⊢
          rw [settings, groups, List.foldl_cons]
        · rw [more.queries]
          simp only at queries ⊢
          rw [queries, counted_cons o rest, Nat.add_assoc]

theorem burn_kept (c : Collector) (now : Nat) (batch : List Observation) (sink : Sink) :
    Kept { c with
        burnedIn := c.burnedIn + counted batch
        queries := c.queries + counted batch } (c.burn now batch sink).2.1 := by
  simp only [burn]
  split
  · exact ⟨rfl, rfl, rfl, rfl⟩
  · split
    · exact ⟨rfl, rfl, rfl, rfl⟩
    · exact ⟨rfl, rfl, rfl, rfl⟩

/-- What a collector knows after the answers to `n` queries. -/
structure Counts (s : Settings) (n : Nat) (c : Collector) : Prop where
  settings : c.settings = s
  queries : c.queries = n
  burnedIn : c.burnedIn = min s.burnIn n
  sorted : c.groups.Sorted
  all : c.groups.held allQueries = (n - min s.burnIn n) * s.perQuery
  cold : s.prewarm = true → c.groups.held coldQueries = n - min s.burnIn n
  warm : s.prewarm = true → c.groups.held warmQueries = n - min s.burnIn n

theorem counts_start (s : Settings) (now : Nat) : Counts s 0 (start { settings := s } now) where
  settings := rfl
  queries := rfl
  burnedIn := (Nat.min_zero _).symm
  sorted := Table.sorted_nil
  all := by simp [start, Groups.held, Table.find?]
  cold _ := by simp [start, Groups.held, Table.find?]
  warm _ := by simp [start, Groups.held, Table.find?]

variable {s : Settings} {n : Nat} {c c' : Collector}

theorem counts_kept (counts : c.Counts s n) (kept : Kept c c') : c'.Counts s n where
  settings := kept.settings.trans counts.settings
  queries := kept.queries.trans counts.queries
  burnedIn := kept.burnedIn.trans counts.burnedIn
  sorted := kept.groups ▸ counts.sorted
  all := kept.groups ▸ counts.all
  cold := kept.groups ▸ counts.cold
  warm := kept.groups ▸ counts.warm

theorem counts_burned (counts : c.Counts s n) (burning : n < s.burnIn) :
    Counts s (n + 1) { c with burnedIn := c.burnedIn + 1, queries := c.queries + 1 } := by
  have before : min s.burnIn n = n := Nat.min_eq_right (Nat.le_of_lt burning)
  have after : min s.burnIn (n + 1) = n + 1 := Nat.min_eq_right burning
  obtain ⟨settings, queries, burnedIn, sorted, all, cold, warm⟩ := counts
  rw [before, Nat.sub_self] at all cold warm
  refine ⟨settings, by rw [queries], by rw [burnedIn, before, after], sorted, ?_, ?_, ?_⟩
  · rw [after, Nat.sub_self, Nat.zero_mul]
    rwa [Nat.zero_mul] at all
  · rwa [after, Nat.sub_self]
  · rwa [after, Nat.sub_self]

theorem counts_taken (counts : c.Counts s n) (burned : s.burnIn ≤ n) {batch : List Observation}
    (answer : Answer s.prewarm batch) :
    Counts s (n + 1) { c with
      groups := batch.foldl (fun gs o => observe c.settings.prewarm o gs) c.groups
      queries := c.queries + 1 } := by
  have before : min s.burnIn n = s.burnIn := Nat.min_eq_left burned
  have after : min s.burnIn (n + 1) = s.burnIn := Nat.min_eq_left (by omega)
  have grown : n + 1 - s.burnIn = n - s.burnIn + 1 := Nat.sub_add_comm burned
  obtain ⟨settings, queries, burnedIn, sorted, all, cold, warm⟩ := counts
  rw [before] at burnedIn all cold warm
  cases answer with
  | @once o single plain full called =>
    obtain ⟨everything, -, -⟩ := observe_held sorted c.settings.prewarm plain
    refine ⟨settings, by rw [queries], by rw [burnedIn, after], observe_sorted sorted _ o, ?_, ?_, ?_⟩
    · rw [after, grown]
      simp only [Settings.perQuery, single, Bool.false_eq_true, if_false, Nat.mul_one] at all ⊢
      rw [← all]
      exact everything
    · intro double
      rw [single] at double
      cases double
    · intro double
      rw [single] at double
      cases double
  | @twice o p double plain full called plain' again =>
    have between := observe_sorted sorted true o
    obtain ⟨everything, colds, warms⟩ := observe_held sorted true plain
    obtain ⟨everything', colds', warms'⟩ := observe_held between true plain'
    rw [called] at colds warms
    rw [again] at colds' warms'
    have both : c.settings.prewarm = true := settings ▸ double
    simp only [both, List.foldl_cons, List.foldl_nil]
    refine ⟨settings, by simp only [queries], by simp only [burnedIn, after],
      observe_sorted between true p, ?_, ?_, ?_⟩
    · simp only [Settings.perQuery, double, if_true] at all ⊢
      rw [everything', everything, all, after, grown]
      omega
    · intro _
      simp only [colds', colds, cold double, after, grown]
      rfl
    · intro _
      simp only [warms', warms, warm double, after, grown]
      rfl

theorem receive_counts (counts : c.Counts s n) {now : Nat} {batch : List Observation}
    {sink sink' : Sink} (answer : Answer s.prewarm batch)
    (done : c.receive now batch sink = (.ok (), c', sink')) : c'.Counts s (n + 1) := by
  have one := answer_counted answer
  rw [receive] at done
  by_cases burning : n < s.burnIn
  · have still : c.burningIn = true := by
      rw [burningIn, counts.settings, counts.burnedIn]
      simp [burning, Nat.min_eq_right (Nat.le_of_lt burning)]
    rw [if_pos still] at done
    have kept := burn_kept c now batch sink
    rw [done, one] at kept
    exact counts_kept (counts_burned counts burning) kept
  · have measuring : ¬ c.burningIn = true := by
      rw [burningIn, counts.settings, counts.burnedIn]
      simp [Nat.min_eq_left (Nat.le_of_not_lt burning)]
    rw [if_neg measuring] at done
    have kept := takeAll_kept done
    rw [one] at kept
    exact counts_kept (counts_taken counts (Nat.le_of_not_lt burning) answer) kept

theorem finish_kept (c : Collector) (now : Nat) (sink : Sink) (d : Directory) :
    Kept c (c.finish now sink d).2.1 := by
  simp only [finish]
  split
  · exact ⟨rfl, rfl, rfl, rfl⟩
  · split
    · exact ⟨rfl, rfl, rfl, rfl⟩
    · exact ⟨rfl, rfl, rfl, rfl⟩

theorem summary_held (c : Collector) (now : Nat) (label : String) :
    (c.summary now).held label = c.groups.held label := by
  have found := Table.find?_map label (fun g => g.summary c.settings.percentiles) c.groups
  rw [RunSummary.held, Groups.held, summary, found, Option.map_map]
  rfl

theorem finish_summary {now : Nat} {sink sink' : Sink} {d d' : Directory} {r : RunSummary}
    (done : c.finish now sink d = (.ok r, c', sink', d')) : r = c.summary now := by
  simp only [finish] at done
  split at done
  · cases done
  · split at done
    · cases done
    · cases done
      rfl

theorem finish_tallies (counts : c.Counts s n) {now : Nat} {sink sink' : Sink} {d d' : Directory}
    {r : RunSummary} (done : c.finish now sink d = (.ok r, c', sink', d')) : r.Tallies s n := by
  obtain rfl := finish_summary done
  refine ⟨counts.queries, counts.burnedIn, ?_, ?_, ?_⟩
  · rw [summary_held]
    exact counts.all
  · intro double
    rw [summary_held]
    exact counts.cold double
  · intro double
    rw [summary_held]
    exact counts.warm double

end Collector

end QueryBench.Latency
