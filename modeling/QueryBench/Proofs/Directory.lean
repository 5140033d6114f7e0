import QueryBench.Bytes.Directory
import QueryBench.Proofs.Table

/- Writing to a path touches the file that it leads to and nothing else. -/
namespace QueryBench.Directory

/-- Two paths that lead to one file. -/
def SameFile (d : Directory) (path other : String) : Prop :=
  ∃ place, d.resolve path = .ok (some place) ∧ d.resolve other = .ok (some place)

theorem resolve_file {d : Directory} {path place : String} :
    d.resolve path = .ok (some place) ↔
      path ≠ "" ∧ (steps path).getLast? = some place ∧ d.blocked? (steps path).dropLast = none ∧
        ¬ d.folders.contains place = true ∧ ¬ path.endsWith "/" = true := by
  unfold resolve
  split
  · rename_i empty
    simp [empty]
  · rename_i some_
    split
    · rename_i last
      simp [last]
    · rename_i other last
      rw [last, Option.some.injEq]
      split
      · rename_i fault blocked
        simp [blocked]
      · rename_i free
        rw [free]
        by_cases folder : d.folders.contains other = true
        · rw [if_pos folder]
          constructor
          · intro same
            cases same
          · rintro ⟨-, rfl, -, file, -⟩
            exact absurd folder file
        · rw [if_neg folder]
          by_cases slash : path.endsWith "/" = true
          · rw [if_neg (Decidable.not_not.mpr slash)]
            constructor
            · intro same
              split at same <;> cases same
            · rintro ⟨-, -, -, -, plain⟩
              exact absurd slash plain
          · rw [if_pos slash]
            constructor
            · rintro ⟨rfl⟩
              exact ⟨some_, rfl, rfl, folder, slash⟩
            · rintro ⟨-, rfl, -⟩
              rfl

theorem put_resolve (d : Directory) (place : String) (content : List UInt8) (path other : String) :
    (d.put place content).resolve path = .ok (some other) ↔ d.resolve path = .ok (some other) := by
  have free : (d.put place content).blocked? (steps path).dropLast = none ↔
      d.blocked? (steps path).dropLast = none := by
    rw [blocked?, blocked?, Option.map_eq_none_iff, Option.map_eq_none_iff]
    rfl
  rw [resolve_file, resolve_file, free]
  rfl

theorem file?_eq (d : Directory) {path place : String}
    (leads : d.resolve path = .ok (some place)) : d.file? path = d.content? place := by
  rw [file?, leads]

theorem file?_none {d : Directory} {path : String}
    (nowhere : ∀ place, d.resolve path ≠ .ok (some place)) : d.file? path = none := by
  rw [file?]
  split
  · rename_i place leads
    exact absurd leads (nowhere place)
  · rfl

theorem put_file? (d : Directory) (place : String) (content : List UInt8) (path : String) :
    (d.put place content).file? path = d.file? path ∨
      d.resolve path = .ok (some place) ∧ (d.put place content).file? path = some content := by
  by_cases leads : ∃ other, d.resolve path = .ok (some other)
  · obtain ⟨other, leads⟩ := leads
    have still := (put_resolve d place content path other).mpr leads
    have found := Table.find?_alter_const d.files place other content
    rw [file?_eq _ still, file?_eq _ leads, leads]
    by_cases same : other = place
    · rw [if_pos same] at found
      exact .inr ⟨same ▸ rfl, found⟩
    · rw [if_neg same] at found
      exact .inl found
  · have nowhere := not_exists.mp leads
    left
    rw [file?_none nowhere, file?_none]
    intro other found
    exact nowhere other ((put_resolve d place content path other).mp found)

/-- A file is as it was, unless the path that was written to leads to it. -/
theorem write_file? (d : Directory) (path : String) (content : List UInt8) (other : String) :
    (d.write path content).2.file? other = d.file? other ∨
      d.SameFile path other ∧ (d.write path content).2.file? other = some content := by
  unfold write
  cases leads : d.resolve path with
  | error fault => exact .inl rfl
  | ok place? =>
    cases place? with
    | none => exact .inl rfl
    | some place =>
      rcases put_file? d place content other with same | ⟨here, found⟩
      · exact .inl same
      · exact .inr ⟨⟨place, leads, here⟩, found⟩

theorem write_ok_file? {d d' : Directory} {path : String} {content : List UInt8}
    (wrote : d.write path content = (.ok (), d')) : d'.file? path = some content := by
  unfold write at wrote
  split at wrote
  · cases wrote
  · cases wrote
  · rename_i place leads
    cases wrote
    rw [file?_eq _ ((put_resolve d place content path place).mpr leads)]
    exact (Table.find?_alter_const d.files place place content).trans (if_pos rfl)

end QueryBench.Directory
