import Bazaar.Text.Lines

/-!
Texts as lines, characters and bytes. Main statement: lines without control characters are read as
they were written (`lines_unlines`).
-/

namespace Bazaar.Text

/-- A text is read back from its bytes. -/
theorem fromUTF8?_toByteArray (s : String) : String.fromUTF8? s.toByteArray = some s := by
  rw [String.fromUTF8?, dif_pos s.isValidUTF8]
  rfl

/-! ### Where texts are divided -/

theorem linesFrom_append_newline (line cs ds : List Char) :
    linesFrom line (cs ++ '\n' :: ds) = linesFrom line (cs ++ ['\n']) ++ linesFrom [] ds := by
  induction cs generalizing line with
  | nil => rfl
  | cons c cs ih =>
    simp only [List.cons_append, linesFrom]
    split
    · rw [ih, List.cons_append]
    · exact ih _

/-- Characters without a newline are read into the line. -/
theorem linesFrom_append {cs : List Char} (h : '\n' ∉ cs) (line ds : List Char) :
    linesFrom line (cs ++ ds) = linesFrom (cs.reverse ++ line) ds := by
  induction cs generalizing line with
  | nil => rfl
  | cons c cs ih =>
    rw [List.mem_cons, not_or] at h
    rw [List.cons_append, linesFrom, if_neg (Ne.symm h.1), ih h.2, List.reverse_cons,
      List.append_assoc, List.singleton_append]

/-- **A text is divided at any newline.** -/
theorem lines_append_newline (s t : String) :
    lines (s ++ "\n" ++ t) = lines (s ++ "\n") ++ lines t := by
  simp only [lines, String.toList_append, List.append_assoc]
  exact linesFrom_append_newline [] s.toList t.toList

/-- The line that a text with a newline behind it is. -/
def chomp (l : String) : String := String.ofList (dropReturn l.toList.reverse).reverse

theorem lines_newline {l : String} (h : '\n' ∉ l.toList) : lines (l ++ "\n") = [chomp l] := by
  rw [lines, String.toList_append, linesFrom_append h, List.append_nil]
  rfl

/-- A text that is no more than a line. -/
theorem lines_of_not_mem {l : String} (h : '\n' ∉ l.toList) : lines l = [] ∨ lines l = [l] := by
  have hlines := linesFrom_append h [] []
  rw [List.append_nil, List.append_nil, linesFrom, List.reverse_reverse, String.ofList_toList]
    at hlines
  rw [lines, hlines]
  split
  · exact .inl rfl
  · exact .inr rfl

/-! ### Texts that stand on a line -/

/-- A text that stands on a line: it has no control character. -/
def IsLine (s : String) : Prop := ∀ c ∈ s.toList, 32 ≤ c.toNat

theorem all_eq_true_iff_isLine {s : String} : s.toList.all (32 ≤ ·.toNat) ↔ IsLine s := by
  rw [List.all_eq_true]
  exact forall₂_congr fun _ _ => decide_eq_true_iff

instance (s : String) : Decidable (IsLine s) := decidable_of_iff _ all_eq_true_iff_isLine

theorem isLine_ofList {cs : List Char} :
    IsLine (String.ofList cs) ↔ ∀ c ∈ cs, 32 ≤ c.toNat := by
  rw [IsLine, String.toList_ofList]

namespace IsLine

theorem append {s t : String} (hs : IsLine s) (ht : IsLine t) : IsLine (s ++ t) := by
  intro c hc
  rw [String.toList_append, List.mem_append] at hc
  exact hc.elim (hs c) (ht c)

theorem intercalate {s : String} (hs : IsLine s) :
    ∀ {ts : List String}, (∀ t ∈ ts, IsLine t) → IsLine (s.intercalate ts)
  | [], _ => by
    rw [String.intercalate_nil]
    exact fun _ hc => absurd hc List.not_mem_nil
  | [t], ht => by
    rw [String.intercalate_singleton]
    exact ht t List.mem_cons_self
  | t :: u :: ts, ht => by
    rw [String.intercalate_cons_cons]
    have hrest := intercalate hs fun v hv => ht v (List.mem_cons_of_mem _ hv)
    exact ((ht t List.mem_cons_self).append hs).append hrest

theorem ne_control {s : String} (h : IsLine s) {c d : Char} (hc : c ∈ s.toList)
    (hd : d.toNat < 32) : c ≠ d := by
  rintro rfl
  exact Nat.not_lt.2 (h c hc) hd

theorem newline_not_mem {l : String} (h : IsLine l) : '\n' ∉ l.toList :=
  fun hc => h.ne_control hc (by decide) rfl

theorem chomp_eq {l : String} (h : IsLine l) : chomp l = l := by
  have hlast : dropReturn l.toList.reverse = l.toList.reverse := by
    cases hl : l.toList.reverse with
    | nil => rfl
    | cons c cs =>
      have hc : c ∈ l.toList := List.mem_reverse.1 (hl ▸ List.mem_cons_self)
      exact if_neg (h.ne_control hc (by decide))
  rw [chomp, hlast, List.reverse_reverse, String.ofList_toList]

end IsLine

/-- **Lines are read as they were written.** -/
theorem lines_unlines {ls : List String} (h : ∀ l ∈ ls, IsLine l) : lines (unlines ls) = ls := by
  induction ls with
  | nil => rfl
  | cons l ls ih =>
    have hl := h l List.mem_cons_self
    rw [unlines, List.map_cons, String.join_cons, lines_append_newline,
      lines_newline hl.newline_not_mem, hl.chomp_eq, List.singleton_append]
    exact congrArg (l :: ·) (ih fun k hk => h k (List.mem_cons_of_mem _ hk))

end Bazaar.Text
