import Bazaar.Double.Layout
import Bazaar.Json.Token
import Bazaar.Proofs.Text

/-!
The words of a JSON text. Main statements: the text of a double is one word (`isWord_render`), and
an integer in the range of 64 bits is read back from the word it is written as (`word?_toString`).
-/

namespace Bazaar

open Text

namespace Json

/-! ### Characters of words -/

theorem toNat_of_isAlpha {c : Char} (h : c.isAlpha) : 65 ≤ c.toNat ∧ c.toNat ≤ 122 := by
  rcases Bool.or_eq_true_iff.1 h with h | h
  · obtain ⟨hlow, hhigh⟩ := of_decide_eq_true h
    exact ⟨UInt32.le_iff_toNat_le.1 hlow, Nat.le_trans (UInt32.le_iff_toNat_le.1 hhigh) (by decide)⟩
  · obtain ⟨hlow, hhigh⟩ := Bool.and_eq_true_iff.1 h
    have hlow := UInt32.le_iff_toNat_le.1 (of_decide_eq_true hlow)
    exact ⟨Nat.le_trans (by decide) hlow, UInt32.le_iff_toNat_le.1 (of_decide_eq_true hhigh)⟩

theorem Token.toNat_of_isWord {c : Char} (h : Token.isWord c) : 43 ≤ c.toNat ∧ c.toNat ≤ 122 := by
  simp only [Token.isWord, Bool.or_eq_true, beq_iff_eq] at h
  rcases h with ((h | rfl) | rfl) | rfl
  · rcases Bool.or_eq_true_iff.1 h with h | h
    · have := toNat_of_isAlpha h
      omega
    · obtain ⟨hlow, hhigh⟩ := Char.isDigit_iff_toNat.1 h
      exact ⟨Nat.le_trans (by decide) hlow, Nat.le_trans hhigh (by decide)⟩
  all_goals decide

theorem Token.isWord_of_isDigit {c : Char} (h : c.isDigit = true) : Token.isWord c = true := by
  simp [Token.isWord, Char.isAlphanum, h]

/-- A text that has only characters of numbers and names. -/
def IsWord (s : String) : Prop := ∀ c ∈ s.toList, Token.isWord c = true

instance (s : String) : Decidable (IsWord s) :=
  decidable_of_iff (s.toList.all Token.isWord) List.all_eq_true

theorem isWord_ofList {cs : List Char} :
    IsWord (String.ofList cs) ↔ ∀ c ∈ cs, Token.isWord c = true := by
  rw [IsWord, String.toList_ofList]

theorem IsWord.append {s t : String} (hs : IsWord s) (ht : IsWord t) : IsWord (s ++ t) := by
  intro c hc
  rw [String.toList_append, List.mem_append] at hc
  exact hc.elim (hs c) (ht c)

theorem IsWord.isLine {s : String} (h : IsWord s) : IsLine s :=
  fun c hc => Nat.le_trans (by decide) (Token.toNat_of_isWord (h c hc)).1

theorem isWord_of_mem_toDigits {n : Nat} {c : Char} (h : c ∈ Nat.toDigits 10 n) :
    Token.isWord c = true :=
  Token.isWord_of_isDigit (Nat.isDigit_of_mem_toDigits (by decide) (by decide) h)

theorem isWord_natRepr (n : Nat) : IsWord n.repr := by
  intro c hc
  rw [Nat.toList_repr] at hc
  exact isWord_of_mem_toDigits hc

theorem isWord_intRepr (n : Int) : IsWord (toString n) := by
  rw [Int.toString_eq_repr, Int.repr_eq_if]
  split
  · exact isWord_natRepr _
  · exact IsWord.append (by decide) (isWord_natRepr _)

end Json

/-! ### Integers -/

namespace Json

namespace Number

theorem takeWhile_isDigit {ds : List Char} (h : ∀ c ∈ ds, c.isDigit = true) :
    ds.takeWhile Char.isDigit = ds := by
  have happend : (ds ++ []).takeWhile Char.isDigit = ds ++ [].takeWhile Char.isDigit :=
    List.takeWhile_append_of_pos h
  rwa [List.append_nil, List.takeWhile_nil, List.append_nil] at happend

theorem dropWhile_isDigit {ds : List Char} (h : ∀ c ∈ ds, c.isDigit = true) :
    ds.dropWhile Char.isDigit = [] := by
  have happend : (ds ++ []).dropWhile Char.isDigit = [].dropWhile Char.isDigit :=
    List.dropWhile_append_of_pos h
  rwa [List.append_nil, List.dropWhile_nil] at happend

theorem isDigit_of_mem_toDigits {n : Nat} : ∀ c ∈ Nat.toDigits 10 n, c.isDigit = true :=
  fun _ => Nat.isDigit_of_mem_toDigits (by decide) (by decide)

/-- Only zero is written with a zero in front. -/
theorem head?_toDigits_ne {n : Nat} (h : n ≠ 0) : (Nat.toDigits 10 n).head? ≠ some '0' := by
  induction n using Nat.strongRecOn with
  | ind n ih =>
    by_cases hn : n < 10
    · rw [Nat.toDigits_of_lt_base hn]
      have hdigit : ∀ k < 10, k ≠ 0 → [Nat.digitChar k].head? ≠ some '0' := by decide
      exact hdigit n hn h
    · have hfront := ih (n / 10) (by omega) (by omega)
      obtain ⟨c, cs, hc⟩ := List.exists_cons_of_ne_nil (Nat.toDigits_ne_nil (n := n / 10) (b := 10))
      rw [Nat.toDigits_of_base_le (by decide) (Nat.le_of_not_lt hn), hc]
      rwa [hc] at hfront

theorem digits?_of_isDigit {ds : List Char} (hne : ds ≠ []) (h : ∀ c ∈ ds, c.isDigit = true) :
    digits? ds = some (ds, []) := by
  rw [digits?, takeWhile_isDigit h, dropWhile_isDigit h]
  cases ds with
  | nil => exact absurd rfl hne
  | cons c ds => rfl

theorem whole?_toDigits (n : Nat) : whole? (Nat.toDigits 10 n) = some (Nat.toDigits 10 n, []) := by
  rw [whole?, digits?_of_isDigit Nat.toDigits_ne_nil isDigit_of_mem_toDigits]
  refine if_neg fun hzero => ?_
  by_cases hn : n = 0
  · rw [hn] at hzero
    exact hzero.2 rfl
  · exact head?_toDigits_ne hn hzero.1

theorem literal?_toDigits (n : Nat) :
    literal? (Nat.toDigits 10 n) = some ⟨false, Nat.toDigits 10 n, none, none⟩ := by
  have hsign : '-' ∉ Nat.toDigits 10 n := fun h => by
    have hdigit := isDigit_of_mem_toDigits _ h
    exact absurd hdigit (by decide)
  unfold literal?
  split
  rename_i hcs
  split at hcs
  · rename_i hdigits
    rw [hdigits] at hsign
    exact absurd List.mem_cons_self hsign
  · cases hcs
    rw [whole?_toDigits]
    rfl

theorem literal?_neg_toDigits (n : Nat) :
    literal? ('-' :: Nat.toDigits 10 n) = some ⟨true, Nat.toDigits 10 n, none, none⟩ := by
  simp only [literal?, whole?_toDigits]
  rfl

theorem natural_toDigits (n : Nat) : natural (Nat.toDigits 10 n) = n :=
  Nat.ofDigitChars_toDigits (by decide) (by decide)

/-- What has neither point nor exponent is an integer, if it is in range. -/
theorem value?_toDigits (negative : Bool) {n : Nat} {i : Int}
    (hi : (if negative then -(n : Int) else n) = i) (h : IntRange i)
    (hzero : negative = true → i ≠ 0) :
    (Literal.mk negative (Nat.toDigits 10 n) none none).value? = some (.int i) := by
  simp only [Literal.value?, natural_toDigits, hi]
  exact if_pos ⟨trivial, trivial, h, hzero⟩

end Number

/-- A number is no name. -/
theorem Token.word?_of_literal? {cs : List Char} {l : Number.Literal}
    (h : Number.literal? cs = some l) : word? cs = some (l.value?.getD .invalid) := by
  rw [word?, if_neg, if_neg, if_neg, h, Option.map_some]
  all_goals
    rintro rfl
    cases h

/-- **An integer is read back** from the word that it is written as. -/
theorem word?_toString {n : Int} (h : IntRange n) :
    Token.word? (toString n).toList = some (.int n) := by
  rw [Int.toString_eq_repr, Int.repr_eq_if]
  split
  · rename_i hn
    have hvalue := Number.value?_toDigits false (Int.toNat_of_nonneg hn) h
      fun hfalse => absurd hfalse Bool.false_ne_true
    rw [Nat.toList_repr, Token.word?_of_literal? (Number.literal?_toDigits _), hvalue]
    rfl
  · rename_i hn
    have hminus : -((-n).toNat : Int) = n := by omega
    have hvalue := Number.value?_toDigits true hminus h fun _ => by omega
    rw [String.toList_append, Nat.toList_repr]
    change Token.word? ('-' :: Nat.toDigits 10 (-n).toNat) = _
    rw [Token.word?_of_literal? (Number.literal?_neg_toDigits _), hvalue]
    rfl

end Json

/-! ### Texts of doubles -/

namespace Double.Layout

open Json

theorem isWord_zeros (n : Nat) : IsWord (zeros n) := by
  refine isWord_ofList.2 fun c hc => ?_
  rw [List.eq_of_mem_replicate hc]
  decide

variable {l : Layout} {digits : List Char}

theorem isWord_take (h : ∀ c ∈ digits, Token.isWord c = true) (n : Nat) :
    IsWord (String.ofList (digits.take n)) :=
  isWord_ofList.2 fun c hc => h c (List.mem_of_mem_take hc)

theorem isWord_drop (h : ∀ c ∈ digits, Token.isWord c = true) (n : Nat) :
    IsWord (String.ofList (digits.drop n)) :=
  isWord_ofList.2 fun c hc => h c (List.mem_of_mem_drop hc)

theorem isWord_point (hl : IsWord l.wholeSuffix) (h : ∀ c ∈ digits, Token.isWord c = true)
    (place : Int) : IsWord (l.point digits place) := by
  unfold point
  split
  · exact (IsWord.append (by decide) (isWord_zeros _)).append (isWord_ofList.2 h)
  · simp only
    split
    · exact ((isWord_ofList.2 h).append (isWord_zeros _)).append hl
    · exact ((isWord_take h _).append (by decide)).append (isWord_drop h _)

theorem isWord_scientific (h : ∀ c ∈ digits, Token.isWord c = true) (place : Int) :
    IsWord (scientific digits place) := by
  have hfraction : IsWord (if (digits.drop 1).isEmpty then ""
      else "." ++ String.ofList (digits.drop 1)) := by
    split
    · decide
    · exact IsWord.append (by decide) (isWord_drop h 1)
  have hsign : IsWord (if place - 1 < 0 then "-" else "+") := by
    split <;> decide
  exact ((((isWord_take h 1).append hfraction).append (by decide)).append hsign).append
    (isWord_natRepr _)

theorem isWord_decimal (hl : IsWord l.wholeSuffix) (x : Decimal) : IsWord (l.decimal x) := by
  have hdigits : ∀ c ∈ Nat.toDigits 10 x.digits, Token.isWord c = true :=
    fun c => isWord_of_mem_toDigits
  unfold decimal
  simp only
  split
  · exact isWord_point hl hdigits _
  · split
    · exact isWord_point hl hdigits _
    · exact isWord_scientific hdigits _

/-- **The text of a double is one word.** -/
theorem isWord_render (hl : IsWord l.wholeSuffix) (d : Double) : IsWord (l.render d) := by
  have hsign : IsWord (if d.isNegative then "-" else "") := by
    split <;> decide
  unfold render
  split
  · decide
  · simp only
    split
    · exact (hsign.append (by decide)).append hl
    · split
      · exact hsign.append (isWord_decimal hl _)
      · exact hsign.append (by decide)

end Double.Layout

end Bazaar
