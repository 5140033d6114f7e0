import QueryBench.Table

/- Tables look like maps as long as their keys stay in order, and altering keeps them so. -/
namespace QueryBench.Table
variable {κ α : Type} [Ord κ]

theorem find?_map {β : Type} (key : κ) (f : α → β) (t : Table κ α) :
    find? key (t.map fun (k, a) => (k, f a)) = (t.find? key).map f := by
  induction t with
  | nil => rfl
  | cons first rest ih =>
    rw [List.map_cons, find?, find?]
    split
    · rfl
    · exact ih

def Sorted (t : Table κ α) : Prop := t.Pairwise fun a b => compare a.1 b.1 = .lt

theorem sorted_nil : Sorted ([] : Table κ α) := .nil

theorem mem_alter {key : κ} {f : Option α → α} {t : Table κ α} {entry : κ × α}
    (member : entry ∈ t.alter key f) : entry.1 = key ∨ ∃ old ∈ t, old.1 = entry.1 := by
  induction t with
  | nil =>
    rw [alter, List.mem_singleton] at member
    exact .inl (congrArg Prod.fst member)
  | cons first rest ih =>
    obtain ⟨k, a⟩ := first
    rw [alter] at member
    split at member
    · rcases List.mem_cons.mp member with rfl | member
      · exact .inl rfl
      · exact .inr ⟨entry, member, rfl⟩
    · rcases List.mem_cons.mp member with rfl | member
      · exact .inr ⟨(k, a), List.mem_cons_self, rfl⟩
      · exact .inr ⟨entry, List.mem_cons_of_mem _ member, rfl⟩
    · rcases List.mem_cons.mp member with rfl | member
      · exact .inr ⟨(k, a), List.mem_cons_self, rfl⟩
      · rcases ih member with same | ⟨old, inside, same⟩
        · exact .inl same
        · exact .inr ⟨old, List.mem_cons_of_mem _ inside, same⟩

theorem sorted_map {β : Type} {t : Table κ α} (sorted : t.Sorted) (f : α → β) :
    Sorted (t.map fun (k, a) => (k, f a)) :=
  List.pairwise_map.mpr sorted

theorem find?_below {t : Table κ α} {key : κ} (below : ∀ entry ∈ t, compare key entry.1 = .lt) :
    t.find? key = none := by
  induction t with
  | nil => rfl
  | cons first rest ih =>
    have front := below first List.mem_cons_self
    rw [find?, front, if_neg (by decide)]
    exact ih fun entry member => below entry (List.mem_cons_of_mem _ member)

theorem sorted_alter [Std.TransOrd κ] {t : Table κ α} (sorted : t.Sorted) (key : κ) (f : Option α → α) :
    (t.alter key f).Sorted := by
  induction t with
  | nil => exact List.pairwise_singleton _ _
  | cons first rest ih =>
    obtain ⟨k, a⟩ := first
    obtain ⟨front, tail⟩ := List.pairwise_cons.mp sorted
    rw [alter]
    split
    · rename_i before
      refine List.pairwise_cons.mpr ⟨?_, sorted⟩
      intro entry member
      rcases List.mem_cons.mp member with rfl | member
      · exact before
      · exact Std.TransCmp.lt_trans before (front entry member)
    · exact List.pairwise_cons.mpr ⟨front, tail⟩
    · rename_i behind
      refine List.pairwise_cons.mpr ⟨?_, ih tail⟩
      intro entry member
      rcases mem_alter member with same | ⟨old, inside, same⟩
      · rw [same]
        exact Std.OrientedCmp.gt_iff_lt.mp behind
      · rw [← same]
        exact front old inside

theorem find?_cons [Std.LawfulEqOrd κ] [DecidableEq κ] (key k : κ) (a : α) (rest : Table κ α) :
    find? key ((k, a) :: rest) = if key = k then some a else find? key rest := by
  rw [find?]
  by_cases same : key = k
  · rw [if_pos same, if_pos (same ▸ Std.ReflCmp.compare_self)]
  · rw [if_neg same, if_neg fun equal => same (Std.LawfulEqCmp.eq_of_compare equal)]

theorem find?_alter [Std.TransOrd κ] [Std.LawfulEqOrd κ] [DecidableEq κ] {t : Table κ α}
    (sorted : t.Sorted) (key other : κ) (f : Option α → α) :
    (t.alter key f).find? other = if other = key then some (f (t.find? key)) else t.find? other := by
  induction t with
  | nil => exact find?_cons other key (f none) []
  | cons first rest ih =>
    obtain ⟨k, a⟩ := first
    obtain ⟨front, tail⟩ := List.pairwise_cons.mp sorted
    rw [alter]
    split
    · rename_i before
      have absent : find? key ((k, a) :: rest) = none := by
        apply find?_below
        intro entry member
        rcases List.mem_cons.mp member with rfl | member
        · exact before
        · exact Std.TransCmp.lt_trans before (front entry member)
      rw [absent, find?_cons]
    · rename_i equal
      obtain rfl := Std.LawfulEqCmp.eq_of_compare equal
      rw [find?_cons, find?_cons, find?_cons, if_pos rfl]
      by_cases same : other = key
      · rw [if_pos same, if_pos same]
      · rw [if_neg same, if_neg same, if_neg same]
    · rename_i behind
      have differ : key ≠ k := by
        rintro rfl
        have equal : compare key key = .eq := Std.ReflCmp.compare_self
        rw [equal] at behind
        cases behind
      rw [find?_cons, ih tail, find?_cons, find?_cons, if_neg differ]
      by_cases front : other = k
      · rw [if_pos front, if_pos front, if_neg (front ▸ differ.symm)]
      · rw [if_neg front, if_neg front]

theorem find?_alter_const [Std.LawfulEqOrd κ] [DecidableEq κ] (t : Table κ α) (key other : κ)
    (a : α) : (t.alter key fun _ => a).find? other = if other = key then some a else t.find? other := by
  induction t with
  | nil => exact find?_cons other key a []
  | cons first rest ih =>
    obtain ⟨k, b⟩ := first
    rw [alter]
    split
    · exact find?_cons other key a _
    · rename_i equal
      obtain rfl := Std.LawfulEqCmp.eq_of_compare equal
      rw [find?_cons, find?_cons]
      by_cases same : other = key
      · rw [if_pos same, if_pos same]
      · rw [if_neg same, if_neg same, if_neg same]
    · rename_i behind
      have differ : key ≠ k := by
        rintro rfl
        have equal : compare key key = .eq := Std.ReflCmp.compare_self
        rw [equal] at behind
        cases behind
      rw [find?_cons, ih, find?_cons]
      by_cases front : other = k
      · rw [if_pos front, if_pos front, if_neg (front ▸ differ.symm)]
      · rw [if_neg front, if_neg front]

theorem alter_below [Std.TransOrd κ] [Std.LawfulEqOrd κ] {key other : κ}
    (below : compare key other = .lt) (f g : Option α → α) (t : Table κ α) :
    (t.alter key f).alter other g = (t.alter other g).alter key f := by
  have above : compare other key = .gt := Std.OrientedCmp.gt_iff_lt.mpr below
  induction t with
  | nil => simp [alter, below, above]
  | cons first rest ih =>
    obtain ⟨k, a⟩ := first
    cases place : compare key k with
    | lt => cases second : compare other k <;> simp [alter, place, second, below, above]
    | eq =>
      obtain rfl := Std.LawfulEqCmp.eq_of_compare place
      simp [alter, above]
    | gt =>
      have behind : compare other k = .gt := by
        rw [Std.OrientedCmp.gt_iff_lt] at place ⊢
        exact Std.TransCmp.lt_trans place below
      simp [alter, place, behind, ih]

theorem alter_comm [Std.TransOrd κ] [Std.LawfulEqOrd κ] {key other : κ} (apart : key ≠ other)
    (f g : Option α → α) (t : Table κ α) :
    (t.alter key f).alter other g = (t.alter other g).alter key f := by
  cases place : compare key other with
  | lt => exact alter_below place f g t
  | eq => exact absurd (Std.LawfulEqCmp.eq_of_compare place) apart
  | gt => exact (alter_below (Std.OrientedCmp.gt_iff_lt.mp place) g f t).symm

theorem alter_alter [Std.TransOrd κ] (key : κ) (f g : Option α → α) (t : Table κ α) :
    (t.alter key f).alter key g = t.alter key fun old => g (some (f old)) := by
  induction t with
  | nil => simp [alter]
  | cons first rest ih =>
    obtain ⟨k, a⟩ := first
    cases place : compare key k <;> simp [alter, place, ih]

theorem map_alter {β : Type} {φ : α → β} {f : Option α → α} {g : Option β → β}
    (follows : ∀ old, φ (f old) = g (old.map φ)) (key : κ) (t : Table κ α) :
    (t.alter key f).map (fun (k, a) => (k, φ a)) = alter key g (t.map fun (k, a) => (k, φ a)) := by
  induction t with
  | nil => simp [alter, follows]
  | cons first rest ih =>
    obtain ⟨k, a⟩ := first
    cases place : compare key k with
    | lt => simp [alter, place, follows]
    | eq => simp [alter, place, follows]
    | gt =>
      simp only [alter, place, List.map_cons]
      exact congrArg _ ih

def weigh (weight : κ × α → Nat) : Table κ α → Nat
  | [] => 0
  | e :: t => weight e + weigh weight t

theorem weigh_alter [Std.LawfulEqOrd κ] {weight : κ × α → Nat} {key : κ} {f : Option α → α} {n : Nat}
    (new : weight (key, f none) = n) (old : ∀ a, weight (key, f (some a)) = weight (key, a) + n)
    (t : Table κ α) : (t.alter key f).weigh weight = t.weigh weight + n := by
  induction t with
  | nil => simp [alter, weigh, new]
  | cons first rest ih =>
    obtain ⟨k, a⟩ := first
    rw [alter]
    split
    · simp only [weigh, new]
      omega
    · rename_i equal
      obtain rfl := Std.LawfulEqCmp.eq_of_compare equal
      simp only [weigh, old]
      omega
    · simp only [weigh, ih]
      omega

theorem mem_iff_find? [Std.TransOrd κ] [Std.LawfulEqOrd κ] [DecidableEq κ] {t : Table κ α}
    (sorted : t.Sorted) (key : κ) (a : α) : (key, a) ∈ t ↔ t.find? key = some a := by
  induction t with
  | nil => simp [find?]
  | cons first rest ih =>
    obtain ⟨k, b⟩ := first
    obtain ⟨front, tail⟩ := List.pairwise_cons.mp sorted
    rw [find?_cons, List.mem_cons]
    by_cases same : key = k
    · subst key
      have absent : (k, a) ∉ rest := by
        intro member
        have below := front (k, a) member
        have equal : compare k k = .eq := Std.ReflCmp.compare_self
        rw [equal] at below
        cases below
      rw [if_pos rfl, or_iff_left absent, Option.some.injEq, Prod.mk.injEq]
      constructor
      · rintro ⟨-, equal⟩
        exact equal.symm
      · intro equal
        exact ⟨rfl, equal.symm⟩
    · rw [if_neg same, ← ih tail]
      constructor
      · rintro (here | there)
        · exact absurd (congrArg Prod.fst here) same
        · exact there
      · exact .inr

end QueryBench.Table
