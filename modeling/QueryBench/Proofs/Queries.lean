import QueryBench.Proofs.Source
import QueryBench.Stream.Reader

/- The queries that a reader has before the end or the first error, call by call, whatever its source
   does. A query takes some bytes, so there is an end to them. -/
namespace QueryBench

namespace Source

/-- However a reading goes, it takes the front of the content. -/
theorem read_front_of_content (s : Source) (count : Nat) :
    content (s.read count).2.deliveries = (content s.deliveries).drop count ∧
      ∀ bs, (s.read count).1 = .ok bs → bs = (content s.deliveries).take count := by
  obtain ⟨taken, left⟩ := gather_content count s.deliveries
  unfold read
  cases s.failure? with
  | none =>
    refine ⟨left, ?_⟩
    rintro bs ⟨⟩
    exact taken
  | some fault =>
    simp only
    split
    · exact ⟨left, nofun⟩
    · refine ⟨left, ?_⟩
      rintro bs ⟨⟩
      exact taken

end Source

namespace Stream.Reader
open Source

theorem body_content {r r' : Reader} {length checksum : Nat}
    {given : Except Error (Option Query)} (done : r.body length checksum = (given, r')) :
    content r'.source.deliveries = (content r.source.deliveries).drop length := by
  have left := (read_front_of_content r.source length).1
  unfold body at done
  split at done
  · rename_i reading
    cases done
    rwa [reading] at left
  · rename_i reading
    rw [reading] at left
    split at done
    · cases done
      exact left
    · split at done
      · cases done
        exact left
      · cases done
        exact left

theorem next_query_takes {r r' : Reader} {q : Query} (given : r.next = (.ok (some q), r')) :
    (content r'.source.deliveries).length < (content r.source.deliveries).length := by
  obtain ⟨left, taken⟩ := read_front_of_content r.source headerSize
  unfold next at given
  split at given
  · cases given
  · rename_i bs source reading
    rw [reading] at left taken
    split at given
    · cases given
    · rename_i some_
      split at given
      · cases given
      · simp only at given
        split at given
        · cases given
        · have behind := body_content given
          have head := congrArg List.length (taken bs rfl)
          have more := List.length_pos_iff.mpr some_
          simp only at left
          rw [behind, left, List.length_drop, List.length_drop]
          rw [List.length_take] at head
          have size : headerSize = 8 := rfl
          omega

theorem queriesWithin_dry {r : Reader} (dry : content r.source.deliveries = []) (calls : Nat) :
    r.queriesWithin calls = [] := by
  cases calls with
  | zero => rfl
  | succ calls =>
    rw [queriesWithin]
    split
    · rename_i given
      have less := next_query_takes given
      rw [dry] at less
      cases less
    · rfl

theorem queriesWithin_enough {calls more : Nat} {r : Reader}
    (enough : (content r.source.deliveries).length ≤ calls)
    (enough' : (content r.source.deliveries).length ≤ more) :
    r.queriesWithin calls = r.queriesWithin more := by
  induction calls generalizing more r with
  | zero =>
    have dry := List.length_eq_zero_iff.mp (Nat.le_zero.mp enough)
    rw [queriesWithin_dry dry, queriesWithin_dry dry]
  | succ calls ih =>
    cases more with
    | zero =>
      have dry := List.length_eq_zero_iff.mp (Nat.le_zero.mp enough')
      rw [queriesWithin_dry dry, queriesWithin_dry dry]
    | succ more =>
      rw [queriesWithin, queriesWithin]
      split
      · rename_i given
        have less := next_query_takes given
        exact congrArg (_ :: ·) (ih (by omega) (by omega))
      · rfl

theorem queries_query {r r' : Reader} {q : Query} (given : r.next = (.ok (some q), r')) :
    r.queries = q :: r'.queries := by
  have less := next_query_takes given
  have rest := queriesWithin_enough (Nat.le_of_lt less) (Nat.le_refl _)
  rw [queries, queriesWithin_enough (Nat.le_refl _) (Nat.le_succ _), queriesWithin, given]
  exact congrArg (q :: ·) rest

theorem queries_end {r r' : Reader} (given : r.next = (.ok none, r')) : r.queries = [] := by
  rw [queries, queriesWithin_enough (Nat.le_refl _) (Nat.le_succ _), queriesWithin, given]

end Stream.Reader

end QueryBench
