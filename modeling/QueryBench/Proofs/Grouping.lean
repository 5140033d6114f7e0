import Mathlib.Data.List.Basic
import Mathlib.Data.List.Induction
import QueryBench.Proofs.Arrivals

/- Where an observation goes: into the group of its label, into that of all queries and, where queries
   are called twice, into that of its call. So a group is made of the observations that go into it, in
   the order in which they came, and it is there as soon as there is one. -/
namespace QueryBench.Latency

/-- The group of so many values, pushed in their order. Without any there is none. -/
def Group.ofValues? : List Float → Option Group
  | [] => none
  | v :: vs => some ((v :: vs).foldl push {})

theorem Group.ofValues?_push (vs : List Float) (v : Float) :
    ofValues? (vs ++ [v]) = some (((ofValues? vs).getD {}).push v) := by
  cases vs with
  | nil => rfl
  | cons first rest => simp [ofValues?, List.foldl_append]

theorem Group.count_foldl_push (vs : List Float) (g : Group) :
    (vs.foldl push g).count = g.count + vs.length := by
  induction vs generalizing g with
  | nil => rfl
  | cons v vs ih =>
    have one : (g.push v).count = g.count + 1 := rfl
    rw [List.foldl_cons, ih, one, List.length_cons]
    omega

theorem Group.count_ofValues? (vs : List Float) :
    ((ofValues? vs).map count).getD 0 = vs.length := by
  cases vs with
  | nil => rfl
  | cons first rest =>
    have counted := count_foldl_push (first :: rest) {}
    have none_ : ({} : Group).count = 0 := rfl
    rw [none_, Nat.zero_add] at counted
    exact counted

def callLabel (o : Observation) : String := if o.warm then warmQueries else coldQueries

/-- An observation goes into the group of a label. -/
def Joins (prewarm : Bool) (label : String) (o : Observation) : Prop :=
  label = o.label ∨ label = allQueries ∨ prewarm = true ∧ label = callLabel o

instance (prewarm : Bool) (label : String) (o : Observation) : Decidable (Joins prewarm label o) :=
  inferInstanceAs (Decidable (_ ∨ _))

theorem reserved_distinct :
    allQueries ≠ coldQueries ∧ allQueries ≠ warmQueries ∧ coldQueries ≠ warmQueries := by decide

theorem callLabel_reserved {o : Observation} (plain : Plain o.label) :
    callLabel o ≠ o.label ∧ callLabel o ≠ allQueries := by
  obtain ⟨-, cold, warm⟩ := plain
  obtain ⟨allCold, allWarm, -⟩ := reserved_distinct
  unfold callLabel
  split
  · exact ⟨warm.symm, allWarm.symm⟩
  · exact ⟨cold.symm, allCold.symm⟩

theorem record_find? {gs : Groups} (sorted : gs.Sorted) (label other : String) (value : Float) :
    (record label value gs).find? other =
      if other = label then some (((gs.find? label).getD {}).push value) else gs.find? other :=
  Table.find?_alter sorted label other _

/-- No group takes an observation twice. -/
theorem observe_find? {gs : Groups} (sorted : gs.Sorted) (prewarm : Bool) {o : Observation}
    (plain : Plain o.label) (label : String) :
    (observe prewarm o gs).find? label =
      if Joins prewarm label o then some (((gs.find? label).getD {}).push o.value)
      else gs.find? label := by
  have first := record_sorted sorted o.label o.value
  have second := record_sorted first allQueries o.value
  obtain ⟨notOwn, notAll⟩ := callLabel_reserved plain
  have twice : ∀ label, (record allQueries o.value (record o.label o.value gs)).find? label =
      if label = o.label ∨ label = allQueries then some (((gs.find? label).getD {}).push o.value)
      else gs.find? label := by
    intro label
    rw [record_find? first, record_find? sorted, record_find? sorted, if_neg plain.1.symm]
    by_cases all : label = allQueries
    · simp [all]
    · by_cases own : label = o.label
      · simp [own, plain.1]
      · simp [all, own]
  -- the group of the call is neither of these two, so it is still as it was
  cases prewarm with
  | false => simpa [observe, Joins] using twice label
  | true =>
    have last := record_find? second (callLabel o) label o.value
    rw [twice, twice, if_neg (not_or.mpr ⟨notOwn, notAll⟩)] at last
    rw [observe, if_pos rfl]
    refine last.trans ?_
    by_cases call : label = callLabel o
    · simp [Joins, call]
    · simp [Joins, call]

theorem observeAll_sorted {gs : Groups} (sorted : gs.Sorted) (prewarm : Bool)
    (os : List Observation) : (observeAll prewarm os gs).Sorted := by
  induction os generalizing gs with
  | nil => exact sorted
  | cons o rest ih => exact ih (observe_sorted sorted prewarm o)

theorem observeAll_find? (prewarm : Bool) {os : List Observation} (plain : ∀ o ∈ os, Plain o.label)
    (label : String) :
    (observeAll prewarm os []).find? label =
      Group.ofValues? ((os.filter (Joins prewarm label ·)).map (·.value)) := by
  induction os using List.reverseRecOn with
  | nil => rfl
  | append_singleton os o ih =>
    have before := ih fun p member => plain p (List.mem_append_left _ member)
    have sorted := observeAll_sorted Table.sorted_nil prewarm os
    rw [observeAll_append]
    refine (observe_find? sorted prewarm (plain o (by simp)) label).trans ?_
    rw [before, List.filter_append, List.map_append]
    by_cases joins : Joins prewarm label o
    · simp [joins, Group.ofValues?_push]
    · simp [joins]

theorem observeAll_joined (prewarm : Bool) {os : List Observation}
    (plain : ∀ o ∈ os, Plain o.label) {label : String} {g : Group}
    (found : (observeAll prewarm os []).find? label = some g) :
    ∃ o ∈ os, Joins prewarm label o := by
  rw [observeAll_find? prewarm plain] at found
  cases joining : os.filter (Joins prewarm label ·) with
  | nil =>
    rw [joining] at found
    cases found
  | cons o rest =>
    have member : o ∈ os.filter (Joins prewarm label ·) := by
      rw [joining]
      exact List.mem_cons_self
    obtain ⟨inside, joins⟩ := List.mem_filter.mp member
    exact ⟨o, inside, of_decide_eq_true joins⟩

/-- Every group there is, by the observations that it is made of. -/
structure Groups.Gathered (prewarm : Bool) (os : List Observation) (gs : Groups) : Prop where
  own : ∀ label, Plain label →
    gs.find? label = Group.ofValues? ((os.filter (·.label = label)).map (·.value))
  all : gs.find? allQueries = Group.ofValues? (os.map (·.value))
  cold : gs.find? coldQueries =
    if prewarm then Group.ofValues? ((os.filter fun o => !o.warm).map (·.value)) else none
  warm : gs.find? warmQueries =
    if prewarm then Group.ofValues? ((os.filter fun o => o.warm).map (·.value)) else none

theorem joins_own {label : String} (free : Plain label) (prewarm : Bool) (o : Observation) :
    Joins prewarm label o ↔ o.label = label := by
  obtain ⟨all, cold, warm⟩ := free
  constructor
  · rintro (own | every | ⟨-, call⟩)
    · exact own.symm
    · exact absurd every all
    · unfold callLabel at call
      split at call
      · exact absurd call warm
      · exact absurd call cold
  · intro own
    exact .inl own.symm

theorem joins_cold {o : Observation} (plain : Plain o.label) (prewarm : Bool) :
    Joins prewarm coldQueries o ↔ prewarm = true ∧ o.warm = false := by
  obtain ⟨-, cold, -⟩ := plain
  obtain ⟨allCold, -, coldWarm⟩ := reserved_distinct
  cases called : o.warm <;> simp [Joins, callLabel, called, cold.symm, allCold.symm, coldWarm]

theorem joins_warm {o : Observation} (plain : Plain o.label) (prewarm : Bool) :
    Joins prewarm warmQueries o ↔ prewarm = true ∧ o.warm = true := by
  obtain ⟨-, -, warm⟩ := plain
  obtain ⟨-, allWarm, coldWarm⟩ := reserved_distinct
  cases called : o.warm <;> simp [Joins, callLabel, called, warm.symm, allWarm.symm, coldWarm.symm]

theorem observeAll_gathered (prewarm : Bool) {os : List Observation}
    (plain : ∀ o ∈ os, Plain o.label) : (observeAll prewarm os []).Gathered prewarm os := by
  have found := observeAll_find? prewarm plain
  constructor
  · intro label free
    rw [found]
    simp only [joins_own free]
  · have every : os.filter (Joins prewarm allQueries ·) = os :=
      List.filter_eq_self.mpr fun o _ => decide_eq_true (.inr (.inl rfl))
    rw [found, every]
  · have calls : os.filter (Joins prewarm coldQueries ·) =
        os.filter fun o => prewarm && !o.warm := by
      apply List.filter_congr
      intro o member
      simp [joins_cold (plain o member)]
    rw [found, calls]
    cases prewarm with
    | true => simp
    | false => simp [List.filter_false, Group.ofValues?]
  · have calls : os.filter (Joins prewarm warmQueries ·) = os.filter fun o => prewarm && o.warm := by
      apply List.filter_congr
      intro o member
      simp [joins_warm (plain o member)]
    rw [found, calls]
    cases prewarm with
    | true => simp
    | false => simp [List.filter_false, Group.ofValues?]

def Groups.heldByLabels (gs : Groups) : Nat :=
  gs.weigh fun e => if Plain e.1 then e.2.count else 0

theorem record_heldByLabels (label : String) (value : Float) (gs : Groups) :
    (record label value gs).heldByLabels = gs.heldByLabels + if Plain label then 1 else 0 := by
  apply Table.weigh_alter
  · rfl
  · intro g
    by_cases free : Plain label
    · simp only [if_pos free]
      rfl
    · simp only [if_neg free]

theorem observe_heldByLabels (prewarm : Bool) {o : Observation} (plain : Plain o.label)
    (gs : Groups) : (observe prewarm o gs).heldByLabels = gs.heldByLabels + 1 := by
  have all : ¬ Plain allQueries := by decide
  have call : ¬ Plain (callLabel o) := by
    unfold callLabel
    split <;> decide
  have twice : (record allQueries o.value (record o.label o.value gs)).heldByLabels =
      gs.heldByLabels + 1 := by
    rw [record_heldByLabels, record_heldByLabels, if_neg all, if_pos plain]
  cases prewarm with
  | false => exact twice
  | true =>
    have last := record_heldByLabels (callLabel o) o.value
      (record allQueries o.value (record o.label o.value gs))
    rw [if_neg call, twice] at last
    exact last

theorem observeAll_heldByLabels (prewarm : Bool) {os : List Observation}
    (plain : ∀ o ∈ os, Plain o.label) (gs : Groups) :
    (observeAll prewarm os gs).heldByLabels = gs.heldByLabels + os.length := by
  induction os generalizing gs with
  | nil => rfl
  | cons o rest ih =>
    have more := ih (fun p member => plain p (List.mem_cons_of_mem _ member)) (observe prewarm o gs)
    rw [observe_heldByLabels prewarm (plain o (by simp))] at more
    rw [List.length_cons]
    refine more.trans ?_
    omega

theorem gathered_held_all {prewarm : Bool} {os : List Observation} {gs : Groups}
    (gathered : gs.Gathered prewarm os) : gs.held allQueries = os.length := by
  rw [Groups.held, gathered.all, Group.count_ofValues?, List.length_map]

theorem gathered_held_calls {os : List Observation} {gs : Groups} (gathered : gs.Gathered true os) :
    gs.held coldQueries + gs.held warmQueries = os.length := by
  rw [Groups.held, Groups.held, gathered.cold, gathered.warm, if_pos rfl, if_pos rfl,
    Group.count_ofValues?, Group.count_ofValues?, List.length_map, List.length_map]
  have parts := os.length_eq_length_filter_add fun o => o.warm
  omega

namespace Collector

/-- Without burn-in every group is made of the observations that belong to it, in the order of their
arrival and whatever is reported in between. The groups of the labels have taken as many values as
the group of all queries, and so have those of the two calls. -/
theorem groups_gather_arrivals (s : Settings) (measured : s.burnIn = 0) (phase : Phase)
    (began : Nat) (arrivals : List (Nat × Arrival))
    (plain : ∀ o ∈ received arrivals, Plain o.label) (sink : Sink) (free : sink.Unfailing) :
    ∃ c texts, (fresh s phase began).handleEach sink arrivals = (.ok (), c, sink.took texts) ∧
      c.groups.Gathered s.prewarm (received arrivals) ∧
      (∀ label g, (label, g) ∈ c.groups ↔ c.groups.find? label = some g) ∧
      c.groups.heldByLabels = c.groups.held allQueries ∧
      (s.prewarm = true →
        c.groups.held coldQueries + c.groups.held warmQueries = c.groups.held allQueries) := by
  have measuring : (fresh s phase began).settings.burnIn ≤ (fresh s phase began).burnedIn :=
    Nat.le_of_eq measured
  obtain ⟨c, texts, ran, kept, -⟩ := handleEach_measuring free measuring arrivals
  have groups : c.groups = observeAll s.prewarm (received arrivals) [] := kept.groups
  have gathered := observeAll_gathered s.prewarm plain
  have sorted := observeAll_sorted Table.sorted_nil s.prewarm (received arrivals)
  have byLabels := observeAll_heldByLabels s.prewarm plain []
  rw [← groups] at gathered sorted byLabels
  have all := gathered_held_all gathered
  refine ⟨c, texts, ran, gathered, Table.mem_iff_find? sorted, ?_, ?_⟩
  · rw [all, byLabels]
    exact Nat.zero_add _
  · intro twice
    rw [twice] at gathered
    rw [gathered_held_calls gathered, all]

def calledTwice : Settings := { prewarm := true, printInterval := 1 }

def visits : List (Nat × Arrival) :=
  [(1, .batch [{ label := "a", value := 2 }, { label := "a", value := 1, warm := true }]), (2, .tick),
    (3, .batch []), (4, .batch [{ label := "b", value := 5, partialResult := true },
      { label := "b", value := 3 }, { label := "b", value := 4, warm := true }])]

theorem visits_gathered :
    (calledTwice.burnIn = 0 ∧ (∀ o ∈ received visits, Plain o.label) ∧ ({} : Sink).Unfailing) ∧
      ∃ c texts, (fresh calledTwice .idle 0).handleEach {} visits =
          (.ok (), c, ({} : Sink).took texts) ∧
        c.groups.Gathered calledTwice.prewarm (received visits) ∧
        (∀ label g, (label, g) ∈ c.groups ↔ c.groups.find? label = some g) ∧
        c.groups.heldByLabels = c.groups.held allQueries ∧
        (calledTwice.prewarm = true →
          c.groups.held coldQueries + c.groups.held warmQueries = c.groups.held allQueries) := by
  have plain : ∀ o ∈ received visits, Plain o.label := by decide
  have free : ({} : Sink).Unfailing := ⟨rfl, rfl⟩
  exact ⟨⟨rfl, plain, free⟩, groups_gather_arrivals calledTwice rfl .idle 0 visits plain {} free⟩

end Collector

end QueryBench.Latency
