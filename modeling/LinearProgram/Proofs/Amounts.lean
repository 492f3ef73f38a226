import LinearProgram.Proofs.Places
import LinearProgram.Report.Amount

/-!
Amounts are numerals of thousandths: the nearest one to the exact value, written without a digit that
is not needed. Two finite doubles are written alike just where they have the same nearest thousandth.
-/

namespace LinearProgram

lemma Unicode.dropTrailing_append_cons {p : Char → Bool} {c : Char} (hc : p c = false)
    (cs ds : List Char) : dropTrailing p (cs ++ c :: ds) = cs ++ c :: dropTrailing p ds := by
  induction ds using List.reverseRecOn with
  | nil => exact List.rdropWhile_concat_neg p cs c (by simp [hc])
  | append_singleton ds d ih =>
    rw [← List.cons_append, ← List.append_assoc]
    by_cases hd : p d = true
    · have hleft : dropTrailing p (cs ++ c :: ds ++ [d]) = dropTrailing p (cs ++ c :: ds) :=
        List.rdropWhile_concat_pos p _ d hd
      have hright : dropTrailing p (ds ++ [d]) = dropTrailing p ds :=
        List.rdropWhile_concat_pos p _ d hd
      rw [hleft, hright, ih]
    · have hleft : dropTrailing p (cs ++ c :: ds ++ [d]) = cs ++ c :: ds ++ [d] :=
        List.rdropWhile_concat_neg p _ d hd
      have hright : dropTrailing p (ds ++ [d]) = ds ++ [d] :=
        List.rdropWhile_concat_neg p _ d hd
      rw [hleft, hright, List.append_assoc, List.cons_append]

lemma head?_toDigits_eq_zero {n : Nat} (h : (Nat.toDigits 10 n).head? = some '0') :
    Nat.toDigits 10 n = ['0'] := by
  induction n using Nat.strongRecOn with
  | ind n ih =>
    rw [Nat.toDigits_eq_if (by norm_num)] at h ⊢
    split at h
    next hn =>
      rw [if_pos hn]
      simpa using h
    next hn =>
      rw [List.head?_append_of_ne_nil _ Nat.toDigits_ne_nil] at h
      have hzero : n / 10 = 0 := by
        rw [← Decimal.ofDigits_toDigits (n / 10), ih (n / 10) (by omega) h]
        rfl
      omega

namespace Report

open Unicode

def pointed (fraction : List Char) : List Char :=
  if fraction = [] then [] else '.' :: fraction

structure Thousandths (k : ℤ) (whole fraction : List Char) : Prop where
  whole_ne_nil : whole ≠ []
  whole_eq_zero : whole.head? = some '0' → whole = ['0']
  isDigit : ∀ c ∈ whole ++ fraction, c.isDigit = true
  length_fraction : fraction.length ≤ 3
  getLast?_fraction : fraction.getLast? ≠ some '0'
  toRat_eq : (Decimal.mk (Decimal.ofDigits (whole ++ fraction)) fraction.length).toRat =
    |(k : ℚ)| / 1000

def IsThousandths (k : ℤ) (cs : List Char) : Prop :=
  ∃ whole fraction, Thousandths k whole fraction ∧
    cs = (if k < 0 then ['-'] else []) ++ (whole ++ pointed fraction)

variable {k l : ℤ} {cs ds fs : List Char} {x : Float}

lemma ofLiteral_pointed (h : ∀ c ∈ ds ++ fs, c.isDigit = true) :
    Decimal.ofLiteral (ds ++ pointed fs) =
      ⟨Decimal.ofDigits (ds ++ fs), fs.length⟩ := by
  have hds := (List.forall_mem_append.1 h).1
  rw [pointed]
  split
  next hnil =>
    subst hnil
    rw [List.append_nil, Decimal.ofLiteral_whole hds, List.length_nil]
  next => exact Decimal.ofLiteral_fraction fs hds

lemma Thousandths.head?_ne (h : Thousandths k ds fs) :
    (ds ++ pointed fs).head? ≠ some '-' := by
  obtain ⟨c, cs, rfl⟩ := List.exists_cons_of_ne_nil h.whole_ne_nil
  have hdigit := h.isDigit c List.mem_cons_self
  rintro heq
  obtain rfl : c = '-' := by simpa using heq
  cases hdigit

lemma IsThousandths.unique (hk : IsThousandths k cs) (hl : IsThousandths l cs) : k = l := by
  obtain ⟨ds, fs, hk, rfl⟩ := hk
  obtain ⟨ds', fs', hl, heq⟩ := hl
  have hsame : (k < 0 ↔ l < 0) ∧ ds ++ pointed fs = ds' ++ pointed fs' := by
    by_cases hkneg : k < 0
    · rw [if_pos hkneg] at heq
      by_cases hlneg : l < 0
      · rw [if_pos hlneg] at heq
        exact ⟨iff_of_true hkneg hlneg, List.tail_eq_of_cons_eq heq⟩
      · rw [if_neg hlneg] at heq
        exact absurd (congrArg List.head? heq).symm hl.head?_ne
    · rw [if_neg hkneg] at heq
      by_cases hlneg : l < 0
      · rw [if_pos hlneg] at heq
        exact absurd (congrArg List.head? heq) hk.head?_ne
      · rw [if_neg hlneg] at heq
        exact ⟨iff_of_false hkneg hlneg, heq⟩
  have habs : |(k : ℚ)| / 1000 = |(l : ℚ)| / 1000 := by
    rw [← hk.toRat_eq, ← hl.toRat_eq, ← ofLiteral_pointed hk.isDigit, ← ofLiteral_pointed hl.isDigit,
      hsame.2]
  have habs : |k| = |l| := by exact_mod_cast (div_left_inj' (by norm_num)).1 habs
  rcases abs_eq_abs.1 habs with h | h
  · exact h
  · omega

def fraction (n : Nat) : List Char :=
  dropTrailing (· == '0') (Places.fraction 3 n)

lemma exists_fraction_append (n : Nat) :
    ∃ j, Places.fraction 3 n = fraction n ++ List.replicate j '0' ∧ (fraction n).length + j = 3 := by
  have hsplit : fraction n ++ (Places.fraction 3 n).rtakeWhile (· == '0') = Places.fraction 3 n :=
    List.rdropWhile_append_rtakeWhile
  refine ⟨((Places.fraction 3 n).rtakeWhile (· == '0')).length, ?_, ?_⟩
  · conv_lhs => rw [← hsplit]
    congr 1
    exact List.eq_replicate_of_mem fun c hc => by simpa using List.mem_rtakeWhile_imp hc
  · rw [← List.length_append, hsplit, Places.length_fraction three_pos]

lemma toRat_digits (n : Nat) :
    (Decimal.mk (Decimal.ofDigits (Nat.toDigits 10 (n / 1000) ++ fraction n))
      (fraction n).length).toRat = n / 1000 := by
  obtain ⟨j, hfraction, hlength⟩ := exists_fraction_append n
  have hvalue : Decimal.ofDigits (Nat.toDigits 10 (n / 1000) ++ fraction n) * 10 ^ j = n := by
    have hall := Places.ofDigits_whole_fraction three_pos n
    rwa [hfraction, ← List.append_assoc, Decimal.ofDigits_append_zeros] at hall
  have hcast : (n : ℚ) =
      Decimal.ofDigits (Nat.toDigits 10 (n / 1000) ++ fraction n) * 10 ^ j := by
    exact_mod_cast hvalue.symm
  have hthousand : (1000 : ℚ) = 10 ^ (fraction n).length * 10 ^ j := by
    rw [← pow_add, hlength]
    norm_num
  rw [Decimal.toRat, hcast, hthousand, mul_div_mul_right _ _ (by positivity), Nat.pow_eq]
  push_cast
  rfl

lemma thousandths_natAbs (k : ℤ) :
    Thousandths k (Nat.toDigits 10 (k.natAbs / 1000)) (fraction k.natAbs) := by
  obtain ⟨j, hfraction, hlength⟩ := exists_fraction_append k.natAbs
  have hdigits : ∀ c ∈ fraction k.natAbs ++ List.replicate j '0', c.isDigit = true := by
    rw [← hfraction]
    exact Places.isDigit_fraction _
  refine ⟨Nat.toDigits_ne_nil, head?_toDigits_eq_zero, ?_, by omega, fun hlast => ?_, ?_⟩
  · exact List.forall_mem_append.2
      ⟨Layout.isDigit_toDigits _, (List.forall_mem_append.1 hdigits).1⟩
  · have hne : fraction k.natAbs ≠ [] := by
      rintro hnil
      rw [hnil] at hlast
      cases hlast
    have hnot := List.rdropWhile_last_not (· == '0') (Places.fraction 3 k.natAbs) hne
    rw [List.getLast?_eq_some_getLast hne, Option.some_inj] at hlast
    exact hnot (beq_iff_eq.2 hlast)
  · rw [toRat_digits, Nat.cast_natAbs, Int.cast_abs]

def numeral (k : ℤ) : List Char :=
  (if k < 0 then ['-'] else []) ++ (Nat.toDigits 10 (k.natAbs / 1000) ++ pointed (fraction k.natAbs))

lemma isThousandths_numeral (k : ℤ) : IsThousandths k (numeral k) :=
  ⟨_, _, thousandths_natAbs k, rfl⟩

lemma numeral_whole (n : ℤ) : numeral (1000 * n) = (toString n).toList := by
  have hwhole : (1000 * n).natAbs = 1000 * n.natAbs := Int.natAbs_mul _ _
  have hfraction : fraction (1000 * n.natAbs) = [] := by
    have hmod : 1000 * n.natAbs % 10 ^ 3 = 0 := Nat.mul_mod_right 1000 _
    rw [fraction, Places.fraction, hmod]
    rfl
  have htext : (toString n).toList = (if n < 0 then ['-'] else []) ++ Nat.toDigits 10 n.natAbs := by
    cases n with
    | ofNat n =>
      rw [if_neg (by simp)]
      exact Nat.toList_repr
    | negSucc n =>
      have hminus : toString (Int.negSucc n) = "-" ++ (n + 1).repr := rfl
      rw [if_pos (Int.negSucc_lt_zero n), hminus, String.toList_append, Nat.toList_repr]
      rfl
  rw [numeral, hwhole, hfraction, Nat.mul_div_cancel_left _ (by norm_num), htext,
    if_congr (by omega : 1000 * n < 0 ↔ n < 0) rfl rfl, pointed, if_pos rfl, List.append_nil]

lemma IsThousandths.ne_nil (h : IsThousandths k cs) : cs ≠ [] := by
  obtain ⟨ds, fs, h, rfl⟩ := h
  exact List.append_ne_nil_of_right_ne_nil _ (List.append_ne_nil_of_left_ne_nil h.whole_ne_nil _)

lemma IsThousandths.ne_minus_zero (h : IsThousandths k cs) : cs ≠ ['-', '0'] := by
  rintro rfl
  obtain ⟨ds, fs, h, heq⟩ := h
  by_cases hk : k < 0
  · rw [if_pos hk] at heq
    have hbody : ['0'] = ds ++ pointed fs := List.tail_eq_of_cons_eq heq
    have hvalue := h.toRat_eq
    rw [← ofLiteral_pointed h.isDigit, ← hbody] at hvalue
    have hzero : (Decimal.ofLiteral ['0']).toRat = 0 := by decide +kernel
    rw [hzero] at hvalue
    have : (k : ℚ) = 0 := by simpa using hvalue.symm
    exact hk.ne (by exact_mod_cast this)
  · rw [if_neg hk] at heq
    exact h.head?_ne (congrArg List.head? heq).symm

lemma IsThousandths.eq_or_isDigit (h : IsThousandths k cs) :
    ∀ c ∈ cs, c = '-' ∨ c = '.' ∨ c.isDigit = true := by
  obtain ⟨ds, fs, h, rfl⟩ := h
  obtain ⟨hds, hfs⟩ := List.forall_mem_append.1 h.isDigit
  refine List.forall_mem_append.2 ⟨?_, List.forall_mem_append.2 ⟨?_, ?_⟩⟩
  · split <;> simp
  · exact fun c hc => .inr (.inr (hds c hc))
  · rw [pointed]
    split
    · simp
    · exact List.forall_mem_cons.2 ⟨.inr (.inl rfl), fun c hc => .inr (.inr (hfs c hc))⟩

lemma toList_cutZeros {text : String} (h : text.toList = ds ++ '.' :: fs)
    (hds : ds.getLast? ≠ some '.') (hfs : ∀ c ∈ fs, c.isDigit = true) :
    (cutZeros text).toList = ds ++ pointed (dropTrailing (· == '0') fs) := by
  have hkept : dropTrailing (· == '0') fs <+: fs := List.rdropWhile_prefix _ _
  rw [cutZeros, String.toList_ofList, h, dropTrailing_append_cons rfl, pointed]
  split
  next hnil =>
    -- the point is bare, and what stands before it ends in no point
    have hpoint : dropTrailing (· == '.') (ds ++ ['.']) = dropTrailing (· == '.') ds :=
      List.rdropWhile_concat_pos _ _ _ rfl
    rw [hnil, hpoint, List.append_nil]
    refine List.rdropWhile_eq_self_iff.2 fun hne hlast => hds ?_
    rw [List.getLast?_eq_some_getLast hne, eq_of_beq hlast]
  next hne =>
    refine List.rdropWhile_eq_self_iff.2 fun hne' hlast => ?_
    rw [List.getLast_append_of_ne_nil hne' (List.cons_ne_nil _ _), List.getLast_cons hne] at hlast
    have hdigit := hfs _ (hkept.subset (List.getLast_mem hne))
    rw [eq_of_beq hlast] at hdigit
    cases hdigit

lemma toList_cutZeros_write {sign : List Char} {n : Nat} (h : (Places.write 3 x).toList =
    sign ++ (Nat.toDigits 10 (n / 10 ^ 3) ++ '.' :: Places.fraction 3 n)) :
    (cutZeros (Places.write 3 x)).toList =
      sign ++ (Nat.toDigits 10 (n / 1000) ++ pointed (fraction n)) := by
  have hlast : (sign ++ Nat.toDigits 10 (n / 1000)).getLast? ≠ some '.' := by
    have hne : Nat.toDigits 10 (n / 1000) ≠ [] := Nat.toDigits_ne_nil
    rw [List.getLast?_append_of_ne_nil _ hne, List.getLast?_eq_some_getLast hne]
    intro hpoint
    have hdigit := Layout.isDigit_toDigits _ _ (List.getLast_mem hne)
    rw [Option.some_inj.1 hpoint] at hdigit
    cases hdigit
  rw [toList_cutZeros (h.trans (List.append_assoc _ _ _).symm) hlast (Places.isDigit_fraction n),
    List.append_assoc]
  rfl

theorem exists_toList_amount (h : x.isFinite = true) :
    ∃ k : ℤ, Double.NearestInteger k (1000 * Double.exact x) ∧ (amount x).toList = numeral k := by
  obtain ⟨k, hnear, hneg, hpos, htext⟩ := Places.exists_write_eq three_pos h
  have hcut := toList_cutZeros_write htext
  have hthousand : (10 ^ 3 : ℚ) = 1000 := by norm_num
  refine ⟨k, hthousand ▸ hnear, ?_⟩
  rcases eq_or_ne k 0 with rfl | hk
  · -- the sign that zero may have is dropped
    have hbody : Nat.toDigits 10 ((0 : ℤ).natAbs / 1000) ++ pointed (fraction (0 : ℤ).natAbs) =
        ['0'] := by decide +kernel
    have hzero : numeral 0 = "0".toList := by decide +kernel
    rw [hbody] at hcut
    rw [hzero, amount]
    cases hminus : Binary.isNegative x with
    | true =>
      have htext : cutZeros (Places.write 3 x) = "-0" :=
        String.toList_inj.1 (hcut.trans (by rw [hminus]; rfl))
      rw [if_pos (.inl htext)]
    | false =>
      have htext : cutZeros (Places.write 3 x) = "0" :=
        String.toList_inj.1 (hcut.trans (by rw [hminus]; rfl))
      rw [htext, if_neg (by decide)]
  · have hsign : Binary.isNegative x = true ↔ k < 0 := by
      refine ⟨fun h => ?_, hneg⟩
      by_contra hk'
      rw [hpos (by omega)] at h
      cases h
    rw [if_congr hsign rfl rfl] at hcut
    have hnumeral : (cutZeros (Places.write 3 x)).toList = numeral k := hcut
    have hthousandths := isThousandths_numeral k
    rw [amount, if_neg, hnumeral]
    rintro (htext | htext) <;> rw [htext] at hnumeral
    · exact hthousandths.ne_minus_zero hnumeral.symm
    · exact hthousandths.ne_nil hnumeral.symm

lemma amount_of_not_isFinite (h : x.isFinite = false) :
    amount x = if x.isNaN then "NaN" else if x < 0 then "-inf" else "inf" := by
  have hinfinite : x.toModel.unpack.isFinite = false := h
  have hnan : x.isNaN = x.toModel.unpack.isNaN := rfl
  have hnegative : x < 0 ↔ x < 0.0 := by rw [show (0 : Float) = 0.0 by decide +kernel]
  rw [if_congr hnegative rfl rfl, if_congr Double.neg_iff rfl rfl, hnan, amount]
  cases hu : x.toModel.unpack with
  | notANumber =>
    rw [Places.write_of_unpack_eq_notANumber hu]
    decide
  | infinity s =>
    have hsign : Double.HasSign s x.toModel.unpack := by
      rw [hu]
      exact rfl
    have hminus := Double.isNegative_iff_of_hasSign hsign
    rw [Places.write_of_unpack_eq_infinity hu]
    cases s with
    | positive =>
      rw [if_neg fun h => nomatch hminus.1 h]
      decide
    | negative =>
      rw [if_pos (hminus.2 rfl)]
      decide
  | zero s =>
    rw [hu] at hinfinite
    cases hinfinite
  | finite s m e hm =>
    rw [hu] at hinfinite
    cases hinfinite

/-- A finite double is written as the numeral of the nearest thousandth, zero without a sign and whole
numbers with all their zeros, and the text tells the thousandth. -/
theorem amount_eq_numeral (x : Float) :
    (x.isFinite = true → ∃ k : ℤ, Double.NearestInteger k (1000 * Double.exact x) ∧
      (∀ l, Double.NearestInteger l (1000 * Double.exact x) → l = k) ∧
      IsThousandths k (amount x).toList ∧ (k = 0 → amount x = "0") ∧
      (∀ n : ℤ, Double.exact x = n ∨ k = 1000 * n → amount x = toString n) ∧
      ∀ y l, y.isFinite = true → Double.NearestInteger l (1000 * Double.exact y) →
        (amount y = amount x ↔ l = k)) ∧
    (x.isFinite = false → amount x = if x.isNaN then "NaN" else if x < 0 then "-inf" else "inf") := by
  refine ⟨fun h => ?_, amount_of_not_isFinite⟩
  obtain ⟨k, hk, htext⟩ := exists_toList_amount h
  have hwhole (n : ℤ) (hn : k = 1000 * n) : amount x = toString n := by
    rw [← String.toList_inj, htext, hn, numeral_whole]
  refine ⟨k, hk, fun l hl => hl.unique hk, htext ▸ isThousandths_numeral k, fun hzero => hwhole 0 hzero,
    fun n hn => ?_, fun y l hy hl => ?_⟩
  · rcases hn with hn | hn
    · refine hwhole n (hk.unique ?_)
      rw [hn]
      exact_mod_cast Double.nearestInteger_self (1000 * n)
    · exact hwhole n hn
  · obtain ⟨l', hl', htext'⟩ := exists_toList_amount hy
    obtain rfl := hl'.unique hl
    rw [← String.toList_inj, htext, htext']
    exact ⟨fun heq => (isThousandths_numeral l').unique (heq ▸ isThousandths_numeral k),
      fun heq => heq ▸ rfl⟩

theorem amount_eq_numeral_of_tie :
    (Float.isFinite 0.0625 = true ∧ Double.exact 0.0625 = 1 / 16 ∧
      IsThousandths 62 (amount 0.0625).toList) ∧
    (Float.isFinite 0.06201171875 = true ∧ Double.exact 0.06201171875 = 127 / 2048 ∧
      amount 0.06201171875 = amount 0.0625) ∧
    (Float.isFinite (-0.00048828125) = true ∧ Double.exact (-0.00048828125) = -1 / 2048 ∧
      amount (-0.00048828125) = "0") ∧
    (Float.isFinite 2e22 = true ∧ Double.exact 2e22 = (20000000000000000000000 : ℤ) ∧
      amount 2e22 = "20000000000000000000000") ∧
    Float.isFinite (-1 / 0) = false ∧ amount (-1 / 0) = "-inf" := by
  have htie : Double.exact 0.0625 = 1 / 16 := by decide +kernel
  have hnear : Double.exact 0.06201171875 = 127 / 2048 := by decide +kernel
  have hsmall : Double.exact (-0.00048828125) = -1 / 2048 := by decide +kernel
  have hlarge : Double.exact 2e22 = (20000000000000000000000 : ℤ) := by decide +kernel
  have hfinite : Float.isFinite 0.0625 = true ∧ Float.isFinite 0.06201171875 = true ∧
      Float.isFinite (-0.00048828125) = true ∧ Float.isFinite 2e22 = true ∧
        Float.isFinite (-1 / 0) = false := by decide +kernel
  obtain ⟨hf₁, hf₂, hf₃, hf₄, hf₅⟩ := hfinite
  have heven : Double.NearestInteger 62 (1000 * Double.exact 0.0625) := by
    rw [htie]
    exact ⟨by norm_num, fun _ => by decide⟩
  have hbelow : Double.NearestInteger 62 (1000 * Double.exact 0.06201171875) := by
    rw [hnear]
    exact ⟨by norm_num, fun _ => by decide⟩
  have hzero : Double.NearestInteger 0 (1000 * Double.exact (-0.00048828125)) := by
    rw [hsmall]
    exact ⟨by norm_num, fun _ => by decide⟩
  obtain ⟨k, -, hunique, htext, -, -, hsame⟩ := (amount_eq_numeral 0.0625).1 hf₁
  obtain rfl := hunique 62 heven
  obtain ⟨k, -, hunique', -, hnone, -⟩ := (amount_eq_numeral (-0.00048828125)).1 hf₃
  obtain ⟨k', -, -, -, -, hwhole, -⟩ := (amount_eq_numeral 2e22).1 hf₄
  exact ⟨⟨hf₁, htie, htext⟩, ⟨hf₂, hnear, (hsame _ 62 hf₂ hbelow).2 rfl⟩,
    ⟨hf₃, hsmall, hnone (hunique' 0 hzero).symm⟩, ⟨hf₄, hlarge, hwhole _ (.inl hlarge)⟩, hf₅,
    ((amount_eq_numeral (-1 / 0)).2 hf₅).trans (by decide +kernel)⟩

end Report

end LinearProgram
