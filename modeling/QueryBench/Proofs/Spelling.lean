import QueryBench.Text.Pad

/- Texts that are put together from parts, and taken apart again. A number ends where no digit follows,
   blanks in front of it are no digits, and a list ends at its separators, so whoever knows the text
   knows the parts. -/
namespace QueryBench.Text

/-- Behind a number this text does not go on with a digit. -/
def Stops (s : String) : Prop := s.toList.head?.any Char.isDigit = false

instance (s : String) : Decidable (Stops s) := inferInstanceAs (Decidable (_ = false))

theorem stops_append {s : String} (stops : Stops s) (some_ : s ≠ "") (t : String) :
    Stops (s ++ t) := by
  unfold Stops at stops ⊢
  rw [String.toList_append]
  cases spelled : s.toList with
  | nil => exact absurd (String.toList_eq_nil_iff.mp spelled) some_
  | cons c rest =>
    rw [spelled] at stops
    exact stops

theorem number_digits (n : Nat) : ∀ c ∈ (toString n).toList, c.isDigit = true := by
  intro c member
  rw [Nat.toString_eq_repr, Nat.toList_repr] at member
  exact Nat.isDigit_of_mem_toDigits (by decide) (by decide) member

theorem number_nonempty (n : Nat) : (toString n).toList ≠ [] := by
  rw [Nat.toString_eq_repr, Nat.toList_repr]
  exact Nat.toDigits_ne_nil

theorem number_front (n : Nat) {s : String} (stops : Stops s) :
    (toString n ++ s).toList.takeWhile Char.isDigit = (toString n).toList := by
  have behind : s.toList.takeWhile Char.isDigit = [] := by
    cases spelled : s.toList with
    | nil => rfl
    | cons c rest =>
      have other : c.isDigit = false := by
        rw [Stops, spelled] at stops
        exact stops
      rw [List.takeWhile_cons_of_neg]
      simp [other]
  rw [String.toList_append, List.takeWhile_append_of_pos (number_digits n), behind, List.append_nil]

theorem number_append {m n : Nat} {s t : String} (stops : Stops s) (stops' : Stops t)
    (same : toString m ++ s = toString n ++ t) : m = n ∧ s = t := by
  have digits : (toString m).toList = (toString n).toList := by
    rw [← number_front m stops, ← number_front n stops', same]
  have number : m = n := by
    rw [Nat.toString_eq_repr, Nat.toString_eq_repr, Nat.toList_repr, Nat.toList_repr] at digits
    simpa using congrArg (Nat.ofDigitChars 10 · 0) digits
  subst number
  exact ⟨rfl, (String.append_right_inj _).mp same⟩

theorem padding_front (width n : Nat) (s : String) :
    (padLeft width ' ' (toString n) ++ s).toList.dropWhile (· = ' ') = (toString n ++ s).toList := by
  have blanks : ∀ c ∈ List.replicate (width - (toString n).length) ' ', decide (c = ' ') = true := by
    intro c member
    rw [List.eq_of_mem_replicate member]
    rfl
  rw [padLeft, String.toList_append, String.toList_append, String.toList_ofList, List.append_assoc,
    List.dropWhile_append_of_pos blanks, String.toList_append]
  cases spelled : (toString n).toList with
  | nil => exact absurd spelled (number_nonempty n)
  | cons c rest =>
    have digit := number_digits n c (by rw [spelled]; exact List.mem_cons_self)
    rw [List.cons_append, List.dropWhile_cons_of_neg]
    rintro blank
    rw [of_decide_eq_true blank] at digit
    cases digit

theorem field_append {width m n : Nat} {s t : String} (stops : Stops s) (stops' : Stops t)
    (same : padLeft width ' ' (toString m) ++ s = padLeft width ' ' (toString n) ++ t) :
    m = n ∧ s = t := by
  apply number_append stops stops'
  rw [← String.toList_inj, ← padding_front width m s, ← padding_front width n t, same]

theorem intercalate_injective {separator : String} {c : Char} (single : separator.toList = [c])
    {ws vs : List String} (free : ∀ w ∈ ws, c ∉ w.toList) (free' : ∀ v ∈ vs, c ∉ v.toList)
    (some_ : ws ≠ []) (some_' : vs ≠ [])
    (same : String.intercalate separator ws = String.intercalate separator vs) : ws = vs := by
  have split : ∀ us : List String, (∀ u ∈ us, c ∉ u.toList) → us ≠ [] →
      (String.intercalate separator us).toList.splitOn c = us.map String.toList := by
    intro us free some_
    rw [String.toList_intercalate, single]
    refine List.splitOn_intercalate c ?_ ?_
    · intro cs member
      obtain ⟨u, inside, rfl⟩ := List.mem_map.mp member
      exact free u inside
    · simpa using some_
  have parts : ws.map String.toList = vs.map String.toList := by
    rw [← split ws free some_, ← split vs free' some_', same]
  exact (List.map_inj_right fun _ _ => String.toList_inj.mp).mp parts

end QueryBench.Text
