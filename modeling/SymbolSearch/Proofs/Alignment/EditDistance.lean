set_option autoImplicit false

namespace SymbolSearch.Alignment

def mismatch (p c : Char) : Nat :=
  if p = c then 0 else 1

def editDistance : List Char → List Char → Nat
  | [], field => field.length
  | pattern, [] => pattern.length
  | p :: pattern, c :: field =>
    min (editDistance pattern field + mismatch p c)
      (min (editDistance pattern (c :: field) + 1) (editDistance (p :: pattern) field + 1))

-- The ways to align a pattern with a field, each with the number of its edits.
inductive Edits : List Char → List Char → Nat → Prop where
  | nil : Edits [] [] 0
  | replace {pattern field : List Char} {count : Nat} (p c : Char)
      (rest : Edits pattern field count) :
      Edits (p :: pattern) (c :: field) (count + mismatch p c)
  | skipPattern {pattern field : List Char} {count : Nat} (p : Char)
      (rest : Edits pattern field count) : Edits (p :: pattern) field (count + 1)
  | skipField {pattern field : List Char} {count : Nat} (c : Char)
      (rest : Edits pattern field count) : Edits pattern (c :: field) (count + 1)

@[simp] theorem editDistance_nil_left (field : List Char) :
    editDistance [] field = field.length := by
  simp [editDistance]

@[simp] theorem editDistance_nil_right (pattern : List Char) :
    editDistance pattern [] = pattern.length := by
  cases pattern <;> simp [editDistance]

theorem Edits.skipAllPattern (pattern : List Char) : Edits pattern [] pattern.length := by
  induction pattern with
  | nil => exact .nil
  | cons p pattern ih => exact .skipPattern p ih

theorem Edits.skipAllField (field : List Char) : Edits [] field field.length := by
  induction field with
  | nil => exact .nil
  | cons c field ih => exact .skipField c ih

theorem Edits.least {pattern field : List Char} {left right : Nat}
    (first : Edits pattern field left) (second : Edits pattern field right) :
    Edits pattern field (min left right) := by
  rw [Nat.min_def]
  split
  · exact first
  · exact second

theorem edits_editDistance (pattern field : List Char) :
    Edits pattern field (editDistance pattern field) := by
  fun_induction editDistance pattern field with
  | case1 field => exact .skipAllField field
  | case2 pattern _ => exact .skipAllPattern pattern
  | case3 p pattern c field replaced skippedPattern skippedField =>
    exact (Edits.replace p c replaced).least
      ((Edits.skipPattern p skippedPattern).least (Edits.skipField c skippedField))

theorem editDistance_le {pattern field : List Char} {count : Nat}
    (edits : Edits pattern field count) : editDistance pattern field ≤ count := by
  induction edits with
  | nil => simp
  | replace p c _ ih =>
    rw [editDistance]
    omega
  | @skipPattern _ field _ p _ ih =>
    cases field with
    | nil => simpa using ih
    | cons c field =>
      rw [editDistance]
      omega
  | @skipField pattern _ _ c _ ih =>
    cases pattern with
    | nil => simpa using ih
    | cons p pattern =>
      rw [editDistance]
      omega

theorem Edits.append {left right left' right' : List Char} {count count' : Nat}
    (first : Edits left right count) (second : Edits left' right' count') :
    Edits (left ++ left') (right ++ right') (count + count') := by
  induction first with
  | nil => simpa using second
  | replace p c _ ih =>
    rw [Nat.add_right_comm]
    exact .replace p c ih
  | skipPattern p _ ih =>
    rw [Nat.add_right_comm]
    exact .skipPattern p ih
  | skipField c _ ih =>
    rw [Nat.add_right_comm]
    exact .skipField c ih

theorem Edits.replaceOne (p c : Char) : Edits [p] [c] (mismatch p c) := by
  simpa using Edits.replace p c .nil

theorem Edits.reverse {pattern field : List Char} {count : Nat}
    (edits : Edits pattern field count) : Edits pattern.reverse field.reverse count := by
  induction edits with
  | nil => exact .nil
  | replace p c _ ih => simpa using ih.append (.replaceOne p c)
  | skipPattern p _ ih => simpa using ih.append (.skipPattern p .nil)
  | skipField c _ ih => simpa using ih.append (.skipField c .nil)

theorem Edits.lengths {pattern field : List Char} {count : Nat} (edits : Edits pattern field count) :
    pattern.length ≤ field.length + count ∧ field.length ≤ pattern.length + count := by
  induction edits with
  | nil => simp
  | replace p c _ ih =>
    simp only [List.length_cons]
    omega
  | skipPattern p _ ih =>
    simp only [List.length_cons]
    omega
  | skipField c _ ih =>
    simp only [List.length_cons]
    omega

theorem editDistance_append_le (left right left' right' : List Char) :
    editDistance (left ++ left') (right ++ right') ≤
      editDistance left right + editDistance left' right' :=
  editDistance_le ((edits_editDistance left right).append (edits_editDistance left' right'))

theorem editDistance_reverse_le (pattern field : List Char) :
    editDistance pattern.reverse field.reverse ≤ editDistance pattern field :=
  editDistance_le (edits_editDistance pattern field).reverse

theorem editDistance_reverse (pattern field : List Char) :
    editDistance pattern.reverse field.reverse = editDistance pattern field := by
  apply Nat.le_antisymm (editDistance_reverse_le pattern field)
  simpa using editDistance_reverse_le pattern.reverse field.reverse

theorem editDistance_eq_zero {pattern field : List Char} :
    editDistance pattern field = 0 ↔ pattern = field := by
  fun_induction editDistance pattern field with
  | case1 field => simp [eq_comm]
  | case2 pattern _ => simp
  | case3 p pattern c field replaced _ _ =>
    rw [List.cons.injEq, ← replaced]
    unfold mismatch
    split <;> simp_all

theorem editDistance_concat (pattern field : List Char) (p c : Char) :
    editDistance (pattern ++ [p]) (field ++ [c]) =
      min (editDistance pattern field + mismatch p c)
        (min (editDistance pattern (field ++ [c]) + 1)
          (editDistance (pattern ++ [p]) field + 1)) := by
  rw [← editDistance_reverse (pattern ++ [p]), ← editDistance_reverse pattern field,
    ← editDistance_reverse pattern (field ++ [c]), ← editDistance_reverse (pattern ++ [p]) field]
  simp only [List.reverse_append, List.reverse_singleton, List.singleton_append]
  rw [editDistance]

theorem editDistance_concat_left_le (pattern field : List Char) (p : Char) :
    editDistance (pattern ++ [p]) field ≤ editDistance pattern field + 1 := by
  simpa using editDistance_append_le pattern field [p] []

theorem editDistance_concat_right_le (pattern field : List Char) (c : Char) :
    editDistance pattern (field ++ [c]) ≤ editDistance pattern field + 1 := by
  simpa using editDistance_append_le pattern field [] [c]

example : editDistance "usr".toList "user".toList = 1 := by
  simp [editDistance, mismatch]

end SymbolSearch.Alignment
