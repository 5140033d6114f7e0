import QueryBench.Bytes.Source

/- However a source cuts its bytes into deliveries, and however often it is interrupted, reading
   gives the bytes in their order. -/
namespace QueryBench.Source

/-- A source that ends without a failure once these bytes are read. -/
structure Holds (s : Source) (bs : List UInt8) : Prop where
  clean : s.failure? = none
  content : content s.deliveries = bs

theorem content_runOf (bs : List UInt8) : content (runOf bs) = bs := by
  cases bs with
  | nil => rfl
  | cons b bs => simp [runOf, content]

theorem content_append (ds es : List Delivery) : content (ds ++ es) = content ds ++ content es := by
  induction ds with
  | nil => rfl
  | cons d ds ih =>
    cases d with
    | run b bs => simp [content, ih]
    | interrupted => simp [content, ih]

theorem ofBytes_holds (bs : List UInt8) : (ofBytes bs).Holds bs := ⟨rfl, content_runOf bs⟩

theorem gather_content (count : Nat) (ds : List Delivery) :
    (gather count ds).1 = (content ds).take count ∧
      content (gather count ds).2 = (content ds).drop count := by
  induction ds generalizing count with
  | nil => cases count <;> simp [gather, content]
  | cons d ds ih =>
    cases count with
    | zero => simp [gather]
    | succ count =>
      cases d with
      | interrupted => simpa [gather, content] using ih (count + 1)
      | run b bs =>
        -- either the whole run is wanted and more behind it, or it is cut
        rw [gather]
        split
        · rename_i all
          have short : bs.length ≤ count := List.drop_eq_nil_iff.mp all
          obtain ⟨taken, left⟩ := ih (count - bs.length)
          simp [content, taken, left, List.take_append, List.drop_append,
            List.take_of_length_le short, all]
        · rename_i left cut
          have long : count < bs.length := by
            apply Nat.lt_of_not_le
            intro short
            exact cut (List.drop_eq_nil_iff.mpr short)
          have none : count - bs.length = 0 := by omega
          simp [content, content_append, content_runOf, List.take_append, List.drop_append, none]

theorem read_holds {s : Source} {bs : List UInt8} (holds : s.Holds bs) (count : Nat) :
    ∃ rest, s.read count = (.ok (bs.take count), rest) ∧ rest.Holds (bs.drop count) := by
  obtain ⟨clean, rfl⟩ := holds
  obtain ⟨taken, left⟩ := gather_content count s.deliveries
  refine ⟨{ s with deliveries := (gather count s.deliveries).2 }, ?_, clean, left⟩
  simp [read, clean, taken]

/-- A source of these bytes, with the end or a failure behind them. -/
structure Has (s : Source) (bs : List UInt8) (failure? : Option Fault) : Prop where
  failure : s.failure? = failure?
  content : content s.deliveries = bs

theorem holds_has {s : Source} {bs : List UInt8} (holds : s.Holds bs) : s.Has bs none :=
  ⟨holds.clean, holds.content⟩

theorem has_holds {s : Source} {bs : List UInt8} (has : s.Has bs none) : s.Holds bs :=
  ⟨has.failure, has.content⟩

theorem read_has {s : Source} {front back : List UInt8} {failure? : Option Fault}
    (has : s.Has (front ++ back) failure?) :
    ∃ rest, s.read front.length = (.ok front, rest) ∧ rest.Has back failure? := by
  obtain ⟨rfl, whole⟩ := has
  obtain ⟨taken, left⟩ := gather_content front.length s.deliveries
  rw [whole, List.take_left] at taken
  rw [whole, List.drop_left] at left
  refine ⟨{ s with deliveries := (gather front.length s.deliveries).2 }, ?_, rfl, left⟩
  cases behind : s.failure? with
  | none => simp [read, behind, taken]
  | some fault => simp [read, behind, taken]

theorem read_front {s : Source} {front back : List UInt8} (holds : s.Holds (front ++ back)) :
    ∃ rest, s.read front.length = (.ok front, rest) ∧ rest.Holds back := by
  obtain ⟨rest, read, left⟩ := read_has (holds_has holds)
  exact ⟨rest, read, has_holds left⟩

theorem read_nothing {s : Source} (holds : s.Holds []) (count : Nat) :
    ∃ rest, s.read count = (.ok [], rest) ∧ rest.Holds [] := by
  simpa using read_holds holds count

end QueryBench.Source
