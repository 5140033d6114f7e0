import Mathlib.Algebra.Group.Nat.Defs
import QueryBench.Proofs.Spelling

/- Texts that end where they can be seen to end: whatever stands behind such a text, it is known
   what the text says and what stands behind it. So are numbers of a fixed width, and lists of a
   fixed length if their elements are. -/
namespace QueryBench.Text

/-- Of two such texts with something behind them, equal as a whole, both parts are equal. -/
def Delimited {α : Type} (P : α → Prop) (f : α → String) : Prop :=
  ∀ a b, P a → P b → ∀ s t, f a ++ s = f b ++ t → a = b ∧ s = t

section Delimited
variable {α : Type} {P : α → Prop} {f : α → String}

theorem delimited_injective (delimited : Delimited P f) {a b : α} (known : P a) (known' : P b)
    (same : f a = f b) : a = b :=
  (delimited a b known known' "" "" (congrArg (· ++ "") same)).1

theorem delimited_between (delimited : Delimited P f) (before behind : String) :
    Delimited P fun a => before ++ f a ++ behind := by
  intro a b known known' s t same
  simp only [String.append_assoc, String.append_right_inj] at same
  obtain ⟨equal, rest⟩ := delimited a b known known' _ _ same
  exact ⟨equal, (String.append_right_inj _).mp rest⟩

theorem delimited_list (delimited : Delimited P f) (separator : String) (count : Nat) :
    Delimited (fun l : List α => l.length = count ∧ ∀ a ∈ l, P a)
      fun l : List α => String.intercalate separator (l.map f) := by
  intro l m known known' s t same
  induction count generalizing l m with
  | zero =>
    obtain rfl := List.length_eq_zero_iff.mp known.1
    obtain rfl := List.length_eq_zero_iff.mp known'.1
    exact ⟨rfl, (String.append_right_inj _).mp same⟩
  | succ count ih =>
    obtain ⟨a, l, rfl⟩ := List.exists_cons_of_length_eq_add_one known.1
    obtain ⟨b, m, rfl⟩ := List.exists_cons_of_length_eq_add_one known'.1
    obtain ⟨first, others⟩ := List.forall_mem_cons.mp known.2
    obtain ⟨first', others'⟩ := List.forall_mem_cons.mp known'.2
    have length : l.length = count := Nat.succ.inj known.1
    have length' : m.length = count := Nat.succ.inj known'.1
    simp only [List.map_cons] at same
    by_cases last : count = 0
    · subst last
      obtain rfl := List.length_eq_zero_iff.mp length
      obtain rfl := List.length_eq_zero_iff.mp length'
      obtain ⟨rfl, rest⟩ := delimited a b first first' s t same
      exact ⟨rfl, rest⟩
    · have more : l.map f ≠ [] := by
        rw [← List.length_pos_iff, List.length_map]
        omega
      have more' : m.map f ≠ [] := by
        rw [← List.length_pos_iff, List.length_map]
        omega
      rw [String.intercalate_cons_of_ne_nil more, String.intercalate_cons_of_ne_nil more'] at same
      simp only [String.append_assoc] at same
      obtain ⟨rfl, rest⟩ := delimited a b first first' _ _ same
      obtain ⟨rfl, behind⟩ := ih l m ⟨length, others⟩ ⟨length', others'⟩
        ((String.append_right_inj _).mp rest)
      exact ⟨rfl, behind⟩

end Delimited

theorem delimited_number {text : String} (stops : Stops text) (some_ : text ≠ "") :
    Delimited (fun _ => True) fun n : Nat => toString n ++ text := by
  intro m n _ _ s t same
  simp only [String.append_assoc] at same
  obtain ⟨equal, rest⟩ :=
    number_append (stops_append stops some_ s) (stops_append stops some_ t) same
  exact ⟨equal, (String.append_right_inj _).mp rest⟩

/-- The last `width` decimal digits of a number, the highest first. -/
def decimals : Nat → Nat → List Nat
  | 0, _ => []
  | width + 1, n => n / 10 ^ width % 10 :: decimals width n

theorem decimals_snoc (width n : Nat) :
    decimals (width + 1) n = decimals width (n / 10) ++ [n % 10] := by
  induction width with
  | zero => simp [decimals]
  | succ width ih =>
    rw [decimals, ih, decimals, Nat.div_div_eq_div_mul, Nat.pow_succ']
    rfl

theorem decimals_lt {width n : Nat} : ∀ d ∈ decimals width n, d < 10 := by
  induction width with
  | zero => simp [decimals]
  | succ width ih =>
    intro d member
    rcases List.mem_cons.mp member with rfl | later
    · exact Nat.mod_lt _ (by decide)
    · exact ih d later

theorem length_decimals (width n : Nat) : (decimals width n).length = width := by
  induction width with
  | zero => rfl
  | succ width ih => rw [decimals, List.length_cons, ih]

theorem decimals_zero (width : Nat) : decimals width 0 = List.replicate width 0 := by
  induction width with
  | zero => rfl
  | succ width ih => rw [decimals, ih, Nat.zero_div, Nat.zero_mod, List.replicate_succ]

theorem digits_toList {width n : Nat} (positive : 0 < width) (fits : n < 10 ^ width) :
    (digits width n).toList = (decimals width n).map Nat.digitChar := by
  rw [digits, padLeft, String.toList_append, String.toList_ofList, ← String.length_toList,
    Nat.toString_eq_repr, Nat.toList_repr]
  induction width generalizing n with
  | zero => cases positive
  | succ width ih =>
    rw [decimals_snoc, List.map_append]
    by_cases single : n < 10
    · rw [Nat.toDigits_of_lt_base single, Nat.div_eq_of_lt single, Nat.mod_eq_of_lt single,
        decimals_zero, List.map_replicate]
      rfl
    · have more : 0 < width := by
        rcases Nat.eq_zero_or_pos width with rfl | more
        · omega
        · exact more
      have rest : n / 10 < 10 ^ width := by
        rw [Nat.pow_succ] at fits
        omega
      rw [Nat.toDigits_of_base_le (by decide) (Nat.le_of_not_lt single), ← ih more rest,
        List.length_append, List.length_singleton, Nat.add_sub_add_right, List.append_assoc]
      rfl

theorem digitChar_injective {d e : Nat} (below : d < 10) (below' : e < 10)
    (same : Nat.digitChar d = Nat.digitChar e) : d = e :=
  (show ∀ d < 10, ∀ e < 10, Nat.digitChar d = Nat.digitChar e → d = e by decide) d below e below'
    same

theorem decimals_mod {width m n : Nat}
    (same : (decimals width m).map Nat.digitChar = (decimals width n).map Nat.digitChar) :
    m % 10 ^ width = n % 10 ^ width := by
  induction width with
  | zero => rw [Nat.pow_zero, Nat.mod_one, Nat.mod_one]
  | succ width ih =>
    obtain ⟨first, rest⟩ := List.cons.inj same
    have digit := digitChar_injective (Nat.mod_lt _ (by decide)) (Nat.mod_lt _ (by decide)) first
    rw [Nat.pow_succ, Nat.mod_mul, Nat.mod_mul, digit, ih rest]

theorem length_digits {width n : Nat} (positive : 0 < width) (fits : n < 10 ^ width) :
    (digits width n).toList.length = width := by
  rw [digits_toList positive fits, List.length_map, length_decimals]

theorem delimited_digits {width : Nat} (positive : 0 < width) :
    Delimited (· < 10 ^ width) (digits width) := by
  intro m n fits fits' s t same
  have whole := congrArg String.toList same
  rw [String.toList_append, String.toList_append] at whole
  have lengths := (length_digits positive fits).trans (length_digits positive fits').symm
  obtain ⟨texts, rest⟩ := List.append_inj whole lengths
  refine ⟨?_, String.toList_inj.mp rest⟩
  rw [digits_toList positive fits, digits_toList positive fits'] at texts
  rw [← Nat.mod_eq_of_lt fits, decimals_mod texts, Nat.mod_eq_of_lt fits']

end QueryBench.Text
