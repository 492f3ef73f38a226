import Mathlib.Data.List.TakeWhile
import Mathlib.Tactic.SplitIfs
import LinearProgram.Proofs.Scanning

namespace LinearProgram

open Unicode

namespace Lexeme

inductive Shape (c : Char) : Prop
  | comment : (∀ r, continuation c r = (.comment, r)) → Shape c
  | single {kind : TokenKind} : (∀ r, continuation c r = (kind, [])) → Shape c
  | equal : (∀ r, continuation c r = (.equal, equals r)) → Shape c
  | bound {kind : TokenKind} :
      (∀ r, continuation c r = if equals r = [] then (.unknown, []) else (kind, equals r)) → Shape c
  | point : (∀ r, continuation c r =
      if r.head?.any Char.isDigit then (.number, r.takeWhile Char.isDigit) else (.unknown, [])) →
      Shape c
  | digit : (∀ r, continuation c r = (.number, number r)) → Shape c
  | name : (∀ r, continuation c r = (.name, r.takeWhile isNamePart)) → Shape c

lemma shape (c : Char) : Shape c := by
  by_cases h : c ∈ ['#', '+', '-', '*', ':', '=', '<', '>', '.']
  · simp only [List.mem_cons, List.not_mem_nil, or_false] at h
    rcases h with rfl | rfl | rfl | rfl | rfl | rfl | rfl | rfl | rfl
    · exact .comment fun r => rfl
    · exact .single fun r => rfl
    · exact .single fun r => rfl
    · exact .single fun r => rfl
    · exact .single fun r => rfl
    · exact .equal fun r => rfl
    · exact .bound fun r => rfl
    · exact .bound fun r => rfl
    · refine .point fun r => ?_
      by_cases hr : r.head?.any Char.isDigit = true <;> simp [continuation, fraction, hr]
  · simp only [List.mem_cons, List.not_mem_nil, or_false, not_or] at h
    by_cases hd : c.isDigit = true
    · exact .digit (continuation_of_isDigit hd)
    · by_cases hn : isNameStart c = true
      · exact .name fun r => by simp [continuation, h, hd, hn]
      · exact @Shape.single _ .unknown fun r => by simp [continuation, h, hd, hn]

lemma fraction_cases (r : List Char) : fraction r = [] ∨
    ∃ t, r = '.' :: t ∧ t.head?.any Char.isDigit = true ∧
      fraction r = '.' :: t.takeWhile Char.isDigit := by
  unfold fraction
  split
  · rename_i t
    split
    · exact .inr ⟨t, rfl, ‹_›, rfl⟩
    · exact .inl rfl
  · exact .inl rfl

lemma fraction_prefix_self (r : List Char) : fraction r <+: r := by
  rcases fraction_cases r with h | ⟨t, rfl, -, h⟩
  · exact h ▸ List.nil_prefix
  · rw [h, List.prefix_cons_inj]
    exact List.takeWhile_prefix _

lemma number_prefix_self (r : List Char) : number r <+: r := by
  have h : r.takeWhile Char.isDigit ++ r.dropWhile Char.isDigit = r :=
    List.takeWhile_append_dropWhile
  conv_rhs => rw [← h]
  exact (List.prefix_append_right_inj _).2 (fraction_prefix_self _)

lemma equals_prefix_self (r : List Char) : equals r <+: r := by
  unfold equals
  split
  · simp
  · exact List.nil_prefix

lemma continuation_prefix_self (c : Char) (r : List Char) : (continuation c r).2 <+: r := by
  cases shape c with
  | comment h => simp [h]
  | single h => simp [h]
  | equal h => simpa [h] using equals_prefix_self r
  | bound h =>
    rw [h]
    split
    · exact List.nil_prefix
    · exact equals_prefix_self r
  | point h =>
    rw [h]
    split
    · exact List.takeWhile_prefix _
    · exact List.nil_prefix
  | digit h => simpa [h] using number_prefix_self r
  | name h => simpa [h] using List.takeWhile_prefix _

lemma continuation_append (c : Char) (r : List Char) :
    (continuation c r).2 ++ r.drop (continuation c r).2.length = r :=
  List.prefix_iff_eq_append.1 (continuation_prefix_self c r)

lemma eq_nil_of_comment {c : Char} {k s : List Char}
    (h : continuation c (k ++ s) = (.comment, k)) : s = [] := by
  have hall : (continuation c (k ++ s)).1 = .comment → (continuation c (k ++ s)).2 = k ++ s := by
    fun_cases continuation c (k ++ s) <;> simp
  rw [h] at hall
  exact List.append_right_eq_self.1 (hall rfl).symm

/-- Nothing at the head of `s'` could belong to a lexeme that ends before `s`. -/
structure NoMore (s s' : List Char) : Prop where
  digit : s.head?.any Char.isDigit = false → s'.head?.any Char.isDigit = false
  namePart : s.head?.any isNamePart = false → s'.head?.any isNamePart = false
  equals : equals s = [] → equals s' = []
  fraction : fraction s = [] → fraction s' = []

variable {c : Char} {k s s' : List Char} {kind : TokenKind}

lemma equals_eq_nil (h : s.head? ≠ some '=') : Lexeme.equals s = [] := by
  unfold Lexeme.equals
  split
  · simp at h
  · rfl

lemma fraction_point_eq_nil_iff :
    Lexeme.fraction ('.' :: s) = [] ↔ s.head?.any Char.isDigit = false := by
  simp [Lexeme.fraction]

lemma noMore_blank (hc : isBlank c = true) (s r : List Char) : NoMore s (c :: r) := by
  have hpart : isNamePart c = false := by
    by_contra h
    have := isBlank_of_isNamePart (by simpa using h)
    simp_all
  have hdigit : c.isDigit = false := by
    by_contra h
    have := isBlank_of_isDigit (by simpa using h)
    simp_all
  refine ⟨fun _ => hdigit, fun _ => hpart, fun _ => equals_eq_nil ?_, fun _ => fraction_eq_nil ?_⟩
  · rintro ⟨⟩
    exact absurd hc (by decide)
  · rintro ⟨⟩
    exact absurd hc (by decide)

lemma noMore_cons {x : Char} {t t' : List Char}
    (h : t.head?.any Char.isDigit = false → t'.head?.any Char.isDigit = false) :
    NoMore (x :: t) (x :: t') := by
  refine ⟨id, id, fun hs => ?_, fun hs => ?_⟩
  · exact equals_eq_nil fun hx => by cases hx; cases hs
  by_cases hx : x = '.'
  · subst hx
    rw [fraction_point_eq_nil_iff] at hs ⊢
    exact h hs
  · exact fraction_eq_nil (by simpa using hx)

lemma noMore_of_prefix (h : s' <+: s) : NoMore s s' := by
  cases s' with
  | nil => exact ⟨fun _ => rfl, fun _ => rfl, fun _ => rfl, fun _ => rfl⟩
  | cons x t' =>
    obtain ⟨t, rfl⟩ := h
    refine noMore_cons fun ht => ?_
    cases t' with
    | nil => rfl
    | cons y t' => exact ht

lemma takeWhile_append_eq_iff {p : Char → Bool} :
    (k ++ s).takeWhile p = k ↔ (∀ x ∈ k, p x = true) ∧ s.head?.any p = false := by
  constructor
  · intro h
    have hk : ∀ x ∈ k, p x = true := fun x hx => List.mem_takeWhile_imp (h.symm ▸ hx)
    rw [List.takeWhile_append_of_pos hk, List.append_right_eq_self] at h
    refine ⟨hk, ?_⟩
    cases s with
    | nil => rfl
    | cons x s => simpa using h
  · rintro ⟨hk, hs⟩
    exact takeWhile_append_of_stop hk hs

lemma number_append_iff : number (k ++ s) = k ↔ s.head?.any Char.isDigit = false ∧
    ((∀ x ∈ k, x.isDigit = true) ∧ Lexeme.fraction s = [] ∨
      ∃ ds fs, k = ds ++ '.' :: fs ∧ (∀ x ∈ ds, x.isDigit = true) ∧ fs ≠ [] ∧
        ∀ x ∈ fs, x.isDigit = true) := by
  constructor
  · intro h
    have hsplit : (k ++ s).takeWhile Char.isDigit ++ (k ++ s).dropWhile Char.isDigit = k ++ s :=
      List.takeWhile_append_dropWhile
    have hdigits : ∀ x ∈ (k ++ s).takeWhile Char.isDigit, x.isDigit = true :=
      fun x hx => List.mem_takeWhile_imp hx
    have hstop := head?_dropWhile_any Char.isDigit (k ++ s)
    rw [number] at h
    generalize (k ++ s).takeWhile Char.isDigit = ds at h hsplit hdigits
    generalize (k ++ s).dropWhile Char.isDigit = e at h hsplit hstop
    subst h
    rw [List.append_assoc, List.append_cancel_left_eq] at hsplit
    rcases fraction_cases e with hnone | ⟨t, rfl, hfirst, hfraction⟩
    · rw [hnone, List.nil_append] at hsplit
      subst hsplit
      exact ⟨hstop, .inl ⟨by simpa [hnone] using hdigits, hnone⟩⟩
    · rw [hfraction, List.cons_append, List.cons.injEq] at hsplit
      have hs : s = t.dropWhile Char.isDigit := by
        have h : t.takeWhile Char.isDigit ++ t.dropWhile Char.isDigit = t :=
          List.takeWhile_append_dropWhile
        exact List.append_cancel_left (hsplit.2.symm.trans h.symm)
      refine ⟨hs ▸ head?_dropWhile_any _ _, .inr ⟨ds, _, by rw [hfraction], hdigits, ?_, ?_⟩⟩
      · cases t with
        | nil => cases hfirst
        | cons d t =>
          have hd : d.isDigit = true := hfirst
          rw [List.takeWhile_cons_of_pos hd]
          exact List.cons_ne_nil _ _
      · exact fun x hx => List.mem_takeWhile_imp hx
  · rintro ⟨hs, ⟨hk, hfraction⟩ | ⟨ds, fs, rfl, hds, hne, hfs⟩⟩
    · exact number_whole hk hs hfraction
    · exact number_fraction hds hne hfs hs

lemma equals_append (h : Lexeme.equals (k ++ s) = k) (hs : NoMore s s') :
    Lexeme.equals (k ++ s') = k := by
  cases k with
  | nil => exact hs.equals h
  | cons x k =>
    by_cases hx : x = '='
    · subst hx
      exact h
    · rw [equals_eq_nil (by simpa using hx)] at h
      cases h

theorem continuation_of_noMore (h : continuation c (k ++ s) = (kind, k)) (hs : NoMore s s')
    (hcomment : kind = .comment → s' = []) : continuation c (k ++ s') = (kind, k) := by
  cases shape c with
  | comment hc =>
    rw [hc, Prod.mk.injEq] at h
    rw [hc, hcomment h.1.symm, List.append_nil, h.1]
  | single hc => simp_all
  | equal hc =>
    rw [hc, Prod.mk.injEq] at h ⊢
    exact ⟨h.1, equals_append h.2 hs⟩
  | bound hc =>
    rw [hc] at h ⊢
    split at h
    · rename_i hnone
      cases h
      exact if_pos (hs.equals hnone)
    · rename_i hsome
      obtain ⟨rfl, hk⟩ := Prod.mk.inj h
      rw [equals_append hk hs, if_neg (hk ▸ hsome)]
  | point hc =>
    rw [hc] at h ⊢
    split at h
    · rename_i hfirst
      obtain ⟨rfl, hk⟩ := Prod.mk.inj h
      obtain ⟨hdigits, hstop⟩ := takeWhile_append_eq_iff.1 hk
      have hfirst' : (k ++ s').head?.any Char.isDigit = true := by
        cases k with
        | nil => simp_all
        | cons x k => exact hfirst
      rw [if_pos hfirst', takeWhile_append_of_stop hdigits (hs.digit hstop)]
    · rename_i hfirst
      cases h
      have hfirst' : s'.head?.any Char.isDigit = false := hs.digit (by simpa using hfirst)
      rw [List.nil_append, if_neg (by simp [hfirst'])]
  | digit hc =>
    rw [hc, Prod.mk.injEq, number_append_iff] at h ⊢
    obtain ⟨hk, hstop, hcases⟩ := h
    exact ⟨hk, hs.digit hstop, hcases.imp_left fun h => ⟨h.1, hs.fraction h.2⟩⟩
  | name hc =>
    rw [hc, Prod.mk.injEq, takeWhile_append_eq_iff] at h ⊢
    exact ⟨h.1, h.2.1, hs.namePart h.2.2⟩

end Lexeme

end LinearProgram
