import FleetSearch.Proofs.Pattern.Leading

/-! How deep expressions reach. Any number of characters in front of a pattern or behind it adds two
levels at most. -/

namespace FleetSearch.Pattern

variable {plain headed : DeepRegex} {done : Option DeepRegex} {parts : Parts}

/-- How deep the parts of a row reach, without the row itself. -/
def Parts.deepest (parts : Parts) : Nat :=
  parts.foldl (fun depth part => max depth ((part.map DeepRegex.depth).getD 0)) 0

theorem Parts.depth_eq (parts : Parts) :
    parts.depth = if parts.length ≤ 1 then parts.deepest else parts.deepest + 1 :=
  rfl

theorem Parts.foldl_depth (parts : Parts) (depth : Nat) :
    parts.foldl (fun depth part => max depth ((part.map DeepRegex.depth).getD 0)) depth =
      max depth parts.deepest := by
  unfold deepest
  induction parts generalizing depth with
  | nil => simp
  | cons part parts ih =>
    rw [List.foldl_cons, List.foldl_cons, ih, ih (max 0 _)]
    omega

theorem Parts.deepest_cons (part : Option DeepRegex) (parts : Parts) :
    Parts.deepest (part :: parts) = max ((part.map DeepRegex.depth).getD 0) parts.deepest := by
  rw [deepest, List.foldl_cons, foldl_depth, Nat.zero_max]

theorem Parts.deepest_append (parts more : Parts) :
    Parts.deepest (parts ++ more) = max parts.deepest more.deepest := by
  rw [deepest, List.foldl_append, foldl_depth]
  rfl

/-- Whether an expression is as deep as another one, and deeper by at most so much. -/
structure Grown (levels : Nat) (plain grown : DeepRegex) : Prop where
  depth_ge : plain.depth ≤ grown.depth
  depth_le : grown.depth ≤ plain.depth + levels

namespace Grown

variable {levels : Nat} {grown : DeepRegex}

theorem refl (found : DeepRegex) : Grown levels found found :=
  ⟨Nat.le_refl _, Nat.le_add_right _ _⟩

theorem trans {more : Nat} {further : DeepRegex} (first : Grown levels plain grown)
    (second : Grown more grown further) : Grown (levels + more) plain further := by
  obtain ⟨_, _⟩ := first
  obtain ⟨_, _⟩ := second
  constructor <;> omega

theorem nested (inner : Grown levels plain grown) : Grown levels plain.nested grown.nested :=
  ⟨Nat.succ_le_succ inner.depth_ge,
    (Nat.succ_le_succ inner.depth_le).trans_eq (Nat.succ_add _ _).symm⟩

theorem beside (inner : Grown levels plain grown) (last : DeepRegex) :
    Grown levels (.besides (some plain) last) (.besides (some grown) last) := by
  obtain ⟨_, _⟩ := inner
  constructor <;> simp only [DeepRegex.besides] <;> omega

theorem besides (left : DeepRegex) {last more : DeepRegex} (inner : Grown levels last more) :
    Grown levels (.besides (some left) last) (.besides (some left) more) := by
  obtain ⟨_, _⟩ := inner
  constructor <;> simp only [DeepRegex.besides] <;> omega

end Grown

/-- A row with any number of characters more in it, whatever place they have. -/
theorem grown_row {parts more : Parts} (deepest : more.deepest = max parts.deepest 1)
    (longer : parts.length < more.length) : Grown 2 parts.row more.row := by
  have before : parts.row.depth = parts.depth := rfl
  have behind : more.row.depth = more.depth := rfl
  rw [Parts.depth_eq] at before behind
  have short : parts.length = 0 → parts.deepest = 0 := fun none =>
    List.eq_nil_of_length_eq_zero none ▸ rfl
  constructor <;> split at before <;> split at behind <;> omega

theorem grown_row_front (set : Charset) (parts : Parts) :
    Grown 2 parts.row (Parts.row (parts ++ [some (anyNumber set), none])) := by
  refine grown_row ?_ ?_
  · rw [Parts.deepest_append]
    rfl
  · simp

theorem grown_row_behind (set : Charset) (parts : Parts) :
    Grown 2 parts.row (Parts.row (some (anyNumber set) :: parts)) := by
  refine grown_row ?_ ?_
  · rw [Parts.deepest_cons, Nat.max_comm]
    rfl
  · simp

theorem Headed.grown {set : Charset} (same : Headed (anyNumber set) plain headed) :
    Grown 2 plain headed := by
  induction same with
  | row parts => exact grown_row_front set parts
  | beside _ last ih => exact ih.beside last
  | nested _ ih => exact ih.nested

theorem grown_stretched (set : Charset) (done : Option DeepRegex) (parts : Parts) :
    Grown 2 (finished done parts) (finished done (some (anyNumber set) :: parts)) := by
  cases done with
  | none => exact grown_row_behind set parts
  | some left => exact ((grown_row_behind set parts).besides left).nested

end FleetSearch.Pattern
