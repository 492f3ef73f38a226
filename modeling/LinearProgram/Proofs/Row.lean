import Mathlib.Algebra.BigOperators.Field
import Mathlib.Algebra.Order.Field.Rat
import Mathlib.Tactic.Linarith
import Mathlib.Tactic.Ring
import LinearProgram.Tableau.Canonical

namespace LinearProgram

open Finset

@[simp] lemma isNegligible_zero {x : Rat} : Scalar.isNegligible 0 x = true ↔ x = 0 := by
  simp only [Scalar.isNegligible, Bool.and_eq_true, decide_eq_true_eq, neg_zero]
  constructor
  · rintro ⟨h, h'⟩
    exact le_antisymm h' h
  · rintro rfl
    exact ⟨le_refl _, le_refl _⟩

lemma dot_cons (a x : Rat) (as xs : List Rat) : dot (a :: as) (x :: xs) = a * x + dot as xs := by
  simp [dot]

lemma dot_map {names : List String} (hn : names.Nodup) {as : List Rat}
    (h : as.length = names.length) (x : String → Rat) :
    dot as (names.map x) = ∑ n ∈ names.toFinset, as.getD (names.idxOf n) 0 * x n := by
  have hz : List.zipWith (· * ·) as (names.map x) =
      names.map fun n => as.getD (names.idxOf n) 0 * x n := by
    apply List.ext_getElem
    · simp [h]
    · intro k h₁ h₂
      have hk : k < names.length := by simpa using h₂
      simp [hn.idxOf_getElem k hk, h, hk]
  rw [List.sum_toFinset _ hn, ← hz]
  rfl

namespace Row

@[simp] lemma entry_divide (r : Row Rat) (a : Rat) (k : Nat) :
    (r.divide a).entry k = r.entry k / a := by
  simp only [entry, divide, List.getD_eq_getElem?_getD, List.getElem?_map]
  cases r.entries[k]? <;> simp

@[simp] lemma z_divide (r : Row Rat) (a : Rat) : (r.divide a).z = r.z / a := rfl

@[simp] lemma rhs_divide (r : Row Rat) (a : Rat) : (r.divide a).rhs = r.rhs / a := rfl

lemma entry_of_getElem? {r : Row Rat} {j : Nat} {x : Rat} (h : r.entries[j]? = some x) :
    r.entry j = x := by
  rw [entry, List.getD_eq_getElem?_getD, h]
  rfl

lemma clear_of_entry_eq_zero {r : Row Rat} (p : Row Rat) {j : Nat} (h : r.entry j = 0) :
    r.clear p j = r := by
  simp [clear, eliminate, h]

@[simp] lemma z_clear (r p : Row Rat) (j : Nat) : (r.clear p j).z = r.z - r.entry j * p.z := by
  rw [clear, eliminate]
  split
  · rename_i h
    simp [eq_of_beq h]
  · rfl

@[simp] lemma rhs_clear (r p : Row Rat) (j : Nat) :
    (r.clear p j).rhs = r.rhs - r.entry j * p.rhs := by
  rw [clear, eliminate]
  split
  · rename_i h
    simp [eq_of_beq h]
  · rfl

lemma entry_clear {r p : Row Rat} (j k : Nat) (h : p.entries.length = r.entries.length) :
    (r.clear p j).entry k = r.entry k - r.entry j * p.entry k := by
  rw [clear, eliminate]
  split
  · rename_i hf
    simp [eq_of_beq hf]
  · simp only [entry, List.getD_eq_getElem?_getD, List.getElem?_zipWith]
    by_cases hk : k < r.entries.length
    · simp [hk, h]
    · simp [hk, h]

def sumAt (r : Row Rat) (names : List String) (x : String → Rat) : Rat :=
  ∑ n ∈ names.toFinset, r.entry (names.idxOf n) * x n

lemma holds_iff {r : Row Rat} {names : List String} (hn : names.Nodup)
    (h : r.entries.length = names.length) (z : Rat) (x : String → Rat) :
    r.Holds z (names.map x) ↔ r.z * z + r.sumAt names x = r.rhs := by
  rw [Holds, dot_map hn h]
  rfl

lemma sumAt_divide (r : Row Rat) (a : Rat) (names : List String) (x : String → Rat) :
    (r.divide a).sumAt names x = r.sumAt names x / a := by
  simp only [sumAt, entry_divide, sum_div]
  exact sum_congr rfl fun n _ => by ring

lemma sumAt_clear {r p : Row Rat} (j : Nat) (h : p.entries.length = r.entries.length)
    (names : List String) (x : String → Rat) :
    (r.clear p j).sumAt names x = r.sumAt names x - r.entry j * p.sumAt names x := by
  simp only [sumAt, entry_clear j _ h, mul_sum, ← sum_sub_distrib]
  exact sum_congr rfl fun n _ => by ring

lemma holds_divide_iff {r : Row Rat} {a : Rat} (ha : a ≠ 0) {names : List String}
    (hn : names.Nodup) (h : r.entries.length = names.length) (z : Rat) (x : String → Rat) :
    (r.divide a).Holds z (names.map x) ↔ r.Holds z (names.map x) := by
  rw [holds_iff hn (by rw [length_divide, h]), holds_iff hn h, sumAt_divide, z_divide, rhs_divide,
    div_mul_eq_mul_div, ← add_div, div_left_inj' ha]

lemma holds_clear_iff {r p : Row Rat} (j : Nat) {names : List String} (hn : names.Nodup)
    (hr : r.entries.length = names.length) (hp : p.entries.length = names.length) {z : Rat}
    {x : String → Rat} (h : p.Holds z (names.map x)) :
    (r.clear p j).Holds z (names.map x) ↔ r.Holds z (names.map x) := by
  have hl : p.entries.length = r.entries.length := hp.trans hr.symm
  rw [holds_iff hn hp] at h
  rw [holds_iff hn (by rw [length_clear j hl, hr]), holds_iff hn hr, sumAt_clear j hl, z_clear,
    rhs_clear, ← h]
  constructor <;> intro he <;> linarith

end Row

end LinearProgram
