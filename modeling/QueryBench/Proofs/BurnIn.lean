import QueryBench.Proofs.Arrivals

/- Burn-in takes the shortest front of the arrivals that holds enough queries. What comes behind it is
   grouped as if nothing had come before. -/
namespace QueryBench.Latency.Collector

/-- The length of the shortest front that holds so many queries, if all arrivals together do. -/
def frontHolding? (need : Nat) (arrivals : List (Nat × Arrival)) : Option Nat :=
  (List.range (arrivals.length + 1)).find? fun k => need ≤ counted (received (arrivals.take k))

/-- How many arrivals burn-in takes: all of them, if it is never complete. -/
def burnInLength (need : Nat) (arrivals : List (Nat × Arrival)) : Nat :=
  (frontHolding? need arrivals).getD arrivals.length

section Front
variable {need k : Nat} {arrivals : List (Nat × Arrival)}

theorem frontHolding?_some (found : frontHolding? need arrivals = some k) :
    k ≤ arrivals.length ∧ need ≤ counted (received (arrivals.take k)) ∧
      ∀ j < k, counted (received (arrivals.take j)) < need := by
  obtain ⟨holds, inside, fewer⟩ := List.find?_range_eq_some.mp found
  refine ⟨?_, by simpa using holds, ?_⟩
  · have below := List.mem_range.mp inside
    omega
  · intro j before
    simpa using fewer j before

theorem frontHolding?_none (missing : frontHolding? need arrivals = none) :
    counted (received arrivals) < need := by
  have all := List.find?_range_eq_none.mp missing arrivals.length (Nat.lt_succ_self _)
  rw [List.take_length] at all
  simpa using all

theorem burnIn_enough_or_all (need : Nat) (arrivals : List (Nat × Arrival)) :
    need ≤ counted (received (arrivals.take (burnInLength need arrivals))) ∨
      arrivals.drop (burnInLength need arrivals) = [] := by
  cases found : frontHolding? need arrivals with
  | none =>
    right
    rw [burnInLength, found, Option.getD_none, List.drop_length]
  | some k =>
    left
    rw [burnInLength, found, Option.getD_some]
    exact (frontHolding?_some found).2.1

theorem counted_singles (single : ∀ a ∈ arrivals, counted a.2.observations = 1) :
    counted (received arrivals) = arrivals.length := by
  induction arrivals with
  | nil => rfl
  | cons a rest ih =>
    have more := ih fun b member => single b (List.mem_cons_of_mem _ member)
    rw [received_cons, counted_append, single a (by simp), more, List.length_cons]
    omega

theorem counted_take_singles (single : ∀ a ∈ arrivals, counted a.2.observations = 1) (j : Nat) :
    counted (received (arrivals.take j)) = min j arrivals.length := by
  rw [counted_singles fun a member => single a (List.mem_of_mem_take member), List.length_take]

theorem take_succ_split (inside : k < arrivals.length) :
    ∃ now a, arrivals.take (k + 1) = arrivals.take k ++ [(now, a)] ∧
      counted (received (arrivals.take (k + 1))) =
        counted (received (arrivals.take k)) + counted a.observations := by
  obtain ⟨⟨now, a⟩, here⟩ : ∃ a, arrivals[k]? = some a := ⟨_, List.getElem?_eq_getElem inside⟩
  have split : arrivals.take (k + 1) = arrivals.take k ++ [(now, a)] := by
    rw [List.take_add_one, here, Option.toList_some]
  refine ⟨now, a, split, ?_⟩
  rw [split, received_append, counted_append]
  simp [received]

theorem burnInLength_singles (need : Nat) (arrivals : List (Nat × Arrival))
    (single : ∀ a ∈ arrivals, counted a.2.observations = 1) :
    burnInLength need arrivals = min need arrivals.length := by
  cases found : frontHolding? need arrivals with
  | none =>
    have few := frontHolding?_none found
    rw [counted_singles single] at few
    rw [burnInLength, found, Option.getD_none]
    omega
  | some k =>
    obtain ⟨inside, holds, fewer⟩ := frontHolding?_some found
    rw [counted_take_singles single] at holds
    have least : k ≤ need := by
      apply Nat.le_of_not_lt
      intro beyond
      have few := fewer need beyond
      rw [counted_take_singles single] at few
      omega
    rw [burnInLength, found, Option.getD_some]
    omega

end Front

section Burning
variable {c : Collector}

def burned (c : Collector) (queries : Nat) : Collector :=
  { c with burnedIn := c.burnedIn + queries, queries := c.queries + queries }

theorem burned_burned (c : Collector) (queries more : Nat) :
    (c.burned queries).burned more = c.burned (queries + more) := by
  simp only [burned, Nat.add_assoc]

theorem handle_burning (now : Nat) (a : Arrival) (sink : Sink)
    (still : c.burnedIn + counted a.observations < c.settings.burnIn) :
    c.handle now a sink = (.ok (), c.burned (counted a.observations), sink) := by
  have burning : c.burningIn = true := by
    rw [burningIn_iff]
    omega
  cases a with
  | tick => simp [handle, tick, hasNews, burning, burned, Arrival.observations, counted]
  | batch batch =>
    have after : (c.burned (counted batch)).burningIn = true := (burningIn_iff _).mpr still
    simp only [handle, receive, burning, if_true, burn]
    exact if_pos after

theorem handleEach_burning (sink : Sink) (arrivals : List (Nat × Arrival))
    (still : c.burnedIn + counted (received arrivals) < c.settings.burnIn) :
    c.handleEach sink arrivals = (.ok (), c.burned (counted (received arrivals)), sink) := by
  induction arrivals generalizing c with
  | nil => rfl
  | cons first rest ih =>
    obtain ⟨now, a⟩ := first
    rw [received_cons, counted_append] at still ⊢
    simp only at still
    have one := handle_burning (c := c) now a sink (by omega)
    have more := ih (c := c.burned (counted a.observations)) (by
      simp only [burned]
      omega)
    rw [handleEach, one]
    simp only [more, burned_burned]

theorem handle_completing {sink : Sink} (free : sink.Unfailing) (now : Nat) (a : Arrival)
    (burning : c.burnedIn < c.settings.burnIn)
    (enough : c.settings.burnIn ≤ c.burnedIn + counted a.observations) :
    ∃ c', Kept (c.burned (counted a.observations)) c' ∧
      c.handle now a sink = (.ok (), c', sink.took [Report.burnInComplete c.settings c'.burnedIn]) := by
  have before : c.burningIn = true := (burningIn_iff c).mpr burning
  cases a with
  | tick =>
    simp only [Arrival.observations, counted, List.countP_nil, Nat.add_zero] at enough
    omega
  | batch batch =>
    have after : ¬ (c.burned (counted batch)).burningIn = true := by
      rw [burningIn_iff]
      exact Nat.not_lt.mpr enough
    let c' : Collector :=
      { c.burned (counted batch) with
        lastReport := now
        lastReportQueries := c.queries + counted batch }
    refine ⟨c', ⟨rfl, rfl, rfl, rfl⟩, ?_⟩
    simp only [handle, receive, before, if_true, burn]
    refine (if_neg after).trans ?_
    rw [Sink.writeText_unfailing free]
    rfl

end Burning

/-- The line at the end of burn-in, if there is a burn-in and it ends. -/
def burnInLines (s : Settings) (arrivals : List (Nat × Arrival)) : List String :=
  if 0 < s.burnIn ∧ (frontHolding? s.burnIn arrivals).isSome then
    [Report.burnInComplete s
      (counted (received (arrivals.take (burnInLength s.burnIn arrivals))))]
  else []

/-- Burn-in counts its queries, keeps no group, and writes its line and nothing else. -/
theorem handleEach_front {sink : Sink} (free : sink.Unfailing) (s : Settings) (phase : Phase)
    (began : Nat) (arrivals : List (Nat × Arrival)) :
    ∃ c, (fresh s phase began).handleEach sink
        (arrivals.take (burnInLength s.burnIn arrivals)) =
          (.ok (), c, sink.took (burnInLines s arrivals)) ∧
      Kept ((fresh s phase began).burned
        (counted (received (arrivals.take (burnInLength s.burnIn arrivals))))) c := by
  unfold burnInLines
  cases found : frontHolding? s.burnIn arrivals with
  | none =>
    -- burn-in takes every arrival and never ends
    have few := frontHolding?_none found
    have whole : burnInLength s.burnIn arrivals = arrivals.length := by
      rw [burnInLength, found, Option.getD_none]
    have burning := handleEach_burning (c := fresh s phase began) sink arrivals
      (by simpa [fresh] using few)
    rw [whole, List.take_length, if_neg (by simp), Sink.took_nil]
    exact ⟨_, burning, ⟨rfl, rfl, rfl, rfl⟩⟩
  | some k =>
    obtain ⟨inside, holds, fewer⟩ := frontHolding?_some found
    have length : burnInLength s.burnIn arrivals = k := by
      rw [burnInLength, found, Option.getD_some]
    rw [length]
    cases k with
    | zero =>
      -- the empty front holds enough only where nothing is to be burnt
      have none_ : ¬ (0 < s.burnIn ∧ (some 0).isSome = true) := by
        rintro ⟨some_, -⟩
        simp only [List.take_zero, received, List.flatMap_nil, counted, List.countP_nil] at holds
        omega
      rw [if_neg none_, Sink.took_nil, List.take_zero, handleEach]
      exact ⟨_, rfl, ⟨rfl, rfl, rfl, rfl⟩⟩
    | succ k =>
      -- the front without its last arrival is too short, so that arrival completes burn-in
      have few := fewer k (Nat.lt_succ_self k)
      obtain ⟨now, a, split, both⟩ := take_succ_split inside
      rw [both] at holds ⊢
      have burning := handleEach_burning (c := fresh s phase began) sink (arrivals.take k)
        (by simpa [fresh] using few)
      obtain ⟨c, kept, completed⟩ := handle_completing
        (c := (fresh s phase began).burned (counted (received (arrivals.take k)))) free now a
        (by simpa [fresh, burned] using few) (by simpa [fresh, burned] using holds)
      rw [burned_burned] at kept
      have told : c.burnedIn = counted (received (arrivals.take k)) + counted a.observations := by
        rw [kept.burnedIn]
        exact Nat.zero_add _
      rw [told] at completed
      have some_ : 0 < s.burnIn ∧ (some (k + 1)).isSome = true := ⟨by omega, rfl⟩
      refine ⟨c, ?_, kept⟩
      rw [if_pos some_, split, handleEach_append burning, handleEach, completed]
      rfl

/-- Burn-in leaves out the shortest front that holds enough queries. The groups are those of a
collector without burn-in that only what comes behind sees; all queries are counted; and its line is
written once, before any report, if it is ever complete. -/
theorem burn_in_is_left_out (s : Settings) (phase phase' : Phase) (began began' : Nat)
    (arrivals : List (Nat × Arrival)) (sink sink' : Sink) (free : sink.Unfailing)
    (free' : sink'.Unfailing) :
    ∃ c reports,
      (fresh s phase began).handleEach sink arrivals =
        (.ok (), c, sink.took (burnInLines s arrivals ++ reports)) ∧
      (∀ text ∈ reports, Report.IsInterim s text ∧
        ∀ queries, text ≠ Report.burnInComplete s queries) ∧
      (∃ c' texts, (fresh { s with burnIn := 0 } phase' began').handleEach sink'
          (arrivals.drop (burnInLength s.burnIn arrivals)) = (.ok (), c', sink'.took texts) ∧
        c.groups = c'.groups) ∧
      c.burnedIn = counted (received (arrivals.take (burnInLength s.burnIn arrivals))) ∧
      c.queries = counted (received arrivals) ∧
      ((∀ a ∈ arrivals, counted a.2.observations = 1) →
        burnInLength s.burnIn arrivals = min s.burnIn arrivals.length ∧
          c.burnedIn = min s.burnIn arrivals.length) := by
  obtain ⟨middle, burning, kept⟩ := handleEach_front free s phase began arrivals
  have ends := burnIn_enough_or_all s.burnIn arrivals
  have length := burnInLength_singles s.burnIn arrivals
  generalize burnInLength s.burnIn arrivals = k at *
  have settings : middle.settings = s := kept.settings
  have burnedIn : middle.burnedIn = counted (received (arrivals.take k)) := by
    rw [kept.burnedIn]
    exact Nat.zero_add _
  -- behind the front the collector measures, unless nothing is left to come
  have still := Sink.took_unfailing free (burnInLines s arrivals)
  obtain ⟨c, reports, ran, keptBack, interims⟩ :
      ∃ c reports, middle.handleEach (sink.took (burnInLines s arrivals)) (arrivals.drop k) =
          (.ok (), c, (sink.took (burnInLines s arrivals)).took reports) ∧
        Kept (middle.gathered (received (arrivals.drop k))) c ∧
        ∀ text ∈ reports, Report.IsInterim middle.settings text := by
    rcases ends with enough | nothing
    · apply handleEach_measuring still
      rw [settings, burnedIn]
      exact enough
    · rw [nothing]
      exact ⟨middle, [], by rw [Sink.took_nil, handleEach], ⟨rfl, rfl, rfl, rfl⟩, by simp⟩
  obtain ⟨c', texts, ran', kept', -⟩ := handleEach_measuring
    (c := fresh { s with burnIn := 0 } phase' began') free' (Nat.le_refl 0) (arrivals.drop k)
  have left : c.burnedIn = counted (received (arrivals.take k)) := keptBack.burnedIn.trans burnedIn
  refine ⟨c, reports, ?_, ?_, ⟨c', texts, ran', ?_⟩, left, ?_, ?_⟩
  · have both := handleEach_append burning (arrivals.drop k)
    rw [List.take_append_drop, ran, Sink.took_took] at both
    exact both
  · intro text member
    have told := interims text member
    rw [settings] at told
    exact ⟨told, Report.interim_not_burnInComplete told⟩
  · rw [keptBack.groups, kept'.groups]
    simp only [gathered, settings, kept.groups]
    rfl
  · have seen : middle.queries = counted (received (arrivals.take k)) := by
      rw [kept.queries]
      exact Nat.zero_add _
    rw [keptBack.queries]
    simp only [gathered, seen]
    rw [← counted_append, ← received_append, List.take_append_drop]
  · intro single
    rw [left, counted_take_singles single, length single]
    omega

def warmUp : List (Nat × Arrival) :=
  [(1, .batch [{ label := "a", value := 2 }, { label := "a", value := 1, warm := true }]), (2, .tick),
    (3, .batch [{ label := "b", value := 3 }]),
    (4, .batch [{ label := "a", value := 5 }, { label := "b", value := 4, partialResult := true },
      { label := "b", value := 4 }]), (5, .batch [{ label := "a", value := 6 }]), (6, .tick)]

theorem warmUp_is_left_out :
    (({} : Sink).Unfailing ∧ burnInLength 3 warmUp = 4) ∧
      ∃ c reports,
        (fresh { burnIn := 3, prewarm := true } .idle 0).handleEach {} warmUp =
          (.ok (), c, ({} : Sink).took
            (burnInLines { burnIn := 3, prewarm := true } warmUp ++ reports)) ∧
        (∀ text ∈ reports, Report.IsInterim { burnIn := 3, prewarm := true } text ∧
          ∀ queries, text ≠ Report.burnInComplete { burnIn := 3, prewarm := true } queries) ∧
        (∃ c' texts, (fresh { prewarm := true } .idle 0).handleEach {} (warmUp.drop 4) =
            (.ok (), c', ({} : Sink).took texts) ∧ c.groups = c'.groups) ∧
        c.burnedIn = 4 ∧ c.queries = 5 := by
  have free : ({} : Sink).Unfailing := ⟨rfl, rfl⟩
  have length : burnInLength 3 warmUp = 4 := by decide
  obtain ⟨c, reports, ran, told, alike, burnedIn, queries, -⟩ := burn_in_is_left_out
    { burnIn := 3, prewarm := true } .idle .idle 0 0 warmUp {} {} free free
  simp only [length] at alike burnedIn
  exact ⟨⟨free, length⟩, c, reports, ran, told, alike, burnedIn, queries⟩

end QueryBench.Latency.Collector
