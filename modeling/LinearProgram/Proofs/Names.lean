import Mathlib.Data.List.Induction
import Mathlib.Data.List.Nodup
import LinearProgram.Problem

namespace LinearProgram

lemma Decimal.ofDigits_toDigits (n : Nat) : ofDigits (Nat.toDigits 10 n) = n :=
  Nat.ofDigitChars_ten_toDigits

namespace SlackName

lemma ofNumber_injective {k l : Nat} (h : ofNumber k = ofNumber l) : k = l := by
  have hd : Nat.toDigits 10 k = Nat.toDigits 10 l := by
    simpa [ofNumber] using congrArg String.toList h
  rw [← Decimal.ofDigits_toDigits k, hd, Decimal.ofDigits_toDigits]

lemma le_search (taken : List String) (k : Nat) : k ≤ search taken k := by
  fun_induction search taken k with
  | case1 taken k h ih => omega
  | case2 taken k => exact Nat.le_refl k

theorem ofNumber_search_notMem (taken : List String) (k : Nat) :
    ofNumber (search taken k) ∉ taken := by
  fun_induction search taken k with
  | case1 taken k h ih =>
    intro hmem
    have hne : ofNumber (search (taken.erase (ofNumber k)) (k + 1)) ≠ ofNumber k := by
      intro he
      have := le_search (taken.erase (ofNumber k)) (k + 1)
      have := ofNumber_injective he
      omega
    exact ih ((List.mem_erase_of_ne hne).2 hmem)
  | case2 taken k h => exact h

lemma next_notMem (names : List String) : next names ∉ names :=
  ofNumber_search_notMem names _

lemma trailingDigits_ofNumber (k : Nat) : trailingDigits (ofNumber k) = Nat.toDigits 10 k := by
  have hd : ∀ c ∈ (Nat.toDigits 10 k).reverse, c.isDigit = true := by
    intro c hc
    exact Nat.isDigit_of_mem_toDigits (by decide) (by decide) (List.mem_reverse.1 hc)
  have hl : (ofNumber k).toList = 's' :: Nat.toDigits 10 k := by simp [ofNumber]
  rw [trailingDigits, hl, List.reverse_cons, List.takeWhile_append_of_pos hd]
  simp

lemma trailingNumber?_ofNumber {k : Nat} (h : k < Decimal.wordLimit) :
    trailingNumber? (ofNumber k) = some k := by
  simp only [trailingNumber?, trailingDigits_ofNumber, Decimal.ofDigits_toDigits]
  simp [h, Nat.toDigits_ne_nil]

lemma start_concat_ofNumber (names : List String) {k : Nat} (h : k < Decimal.wordLimit) :
    start (names ++ [ofNumber k]) = k + 1 := by
  simp [start, trailingNumber?_ofNumber h]

end SlackName

namespace Problem

lemma mem_foldl_insertName {name : String} (names acc : List String) :
    name ∈ names.foldl insertName acc ↔ name ∈ acc ∨ name ∈ names := by
  induction names generalizing acc with
  | nil => simp
  | cons a names ih =>
    rw [List.foldl_cons, ih, insertName]
    split
    · rename_i h
      constructor
      · rintro (hn | hn)
        · exact .inl hn
        · exact .inr (List.mem_cons_of_mem _ hn)
      · rintro (hn | hn)
        · exact .inl hn
        · rcases List.mem_cons.1 hn with rfl | hn
          · exact .inl h
          · exact .inr hn
    · simp [or_assoc]

lemma nodup_foldl_insertName (names : List String) {acc : List String} (h : acc.Nodup) :
    (names.foldl insertName acc).Nodup := by
  induction names generalizing acc with
  | nil => exact h
  | cons a names ih =>
    rw [List.foldl_cons]
    apply ih
    rw [insertName]
    split
    · exact h
    · rename_i ha
      exact List.nodup_append.2 ⟨h, List.nodup_singleton a, by
        rintro b hb c hc rfl
        rw [List.mem_singleton] at hc
        exact ha (hc ▸ hb)⟩

lemma mem_unknowns {name : String} {o : Objective} {cs : List Constraint} :
    name ∈ unknowns o cs ↔
      (∃ t ∈ o.terms, t.name = name) ∨ ∃ c ∈ cs, ∃ t ∈ c.terms, t.name = name := by
  simp only [unknowns, firstOccurrences, mem_foldl_insertName, List.not_mem_nil, false_or,
    List.mem_map, List.mem_append, List.mem_flatMap]
  constructor
  · rintro ⟨t, ht | ⟨c, hc, ht⟩, rfl⟩
    · exact .inl ⟨t, ht, rfl⟩
    · exact .inr ⟨c, hc, t, ht, rfl⟩
  · rintro (⟨t, ht, rfl⟩ | ⟨c, hc, t, ht, rfl⟩)
    · exact ⟨t, .inl ht, rfl⟩
    · exact ⟨t, .inr ⟨c, hc, ht⟩, rfl⟩

lemma nodup_unknowns (o : Objective) (cs : List Constraint) : (unknowns o cs).Nodup :=
  nodup_foldl_insertName _ List.nodup_nil

lemma mem_firstOccurrences {name : String} {names : List String} :
    name ∈ firstOccurrences names ↔ name ∈ names := by
  rw [firstOccurrences, mem_foldl_insertName]
  simp

lemma firstOccurrences_concat (names : List String) (name : String) :
    firstOccurrences (names ++ [name]) = insertName (firstOccurrences names) name := by
  simp [firstOccurrences]

theorem pairwise_idxOf_firstOccurrences (names : List String) :
    (firstOccurrences names).Pairwise fun a b => names.idxOf a < names.idxOf b := by
  induction names using List.reverseRecOn with
  | nil => exact List.Pairwise.nil
  | append_singleton names name ih =>
    have hold (a : String) (ha : a ∈ firstOccurrences names) :
        (names ++ [name]).idxOf a = names.idxOf a :=
      List.idxOf_append_of_mem (mem_firstOccurrences.1 ha)
    have hpast : (firstOccurrences names).Pairwise fun a b =>
        (names ++ [name]).idxOf a < (names ++ [name]).idxOf b := by
      refine ih.imp_of_mem fun ha hb hlt => ?_
      rwa [hold _ ha, hold _ hb]
    rw [firstOccurrences_concat, insertName]
    split
    · exact hpast
    · rename_i hname
      rw [mem_firstOccurrences] at hname
      refine List.pairwise_append.2 ⟨hpast, List.pairwise_singleton _ _, fun a ha b hb => ?_⟩
      obtain rfl := List.mem_singleton.1 hb
      rw [hold a ha, List.idxOf_append_of_notMem hname]
      have := List.idxOf_lt_length_iff.2 (mem_firstOccurrences.1 ha)
      omega

section Added

variable (α : Type) [Scalar α]

def addedNames (added : List (Option AddedVariable)) : List String :=
  added.filterMap fun v => v.map AddedVariable.name

lemma map_kind_addVariables (names : List String) (cs : List Constraint) :
    (addVariables α names cs).map (Option.map AddedVariable.kind) = cs.map (addedKind α) := by
  induction cs generalizing names with
  | nil => rfl
  | cons c cs ih =>
    rw [addVariables]
    split
    · rename_i hk
      rw [List.map_cons, List.map_cons, ih, hk]
      rfl
    · rename_i hk
      rw [List.map_cons, List.map_cons, ih, hk]
      rfl

lemma length_addVariables (names : List String) (cs : List Constraint) :
    (addVariables α names cs).length = cs.length := by
  simpa using congrArg List.length (map_kind_addVariables α names cs)

theorem nodup_addedNames {names : List String} (h : names.Nodup) (cs : List Constraint) :
    (names ++ addedNames (addVariables α names cs)).Nodup := by
  induction cs generalizing names with
  | nil => simpa [addVariables, addedNames] using h
  | cons c cs ih =>
    rw [addVariables]
    split
    · simpa [addedNames] using ih h
    · have hs : (names ++ [SlackName.next names]).Nodup := by
        rw [List.nodup_append]
        refine ⟨h, List.nodup_singleton _, ?_⟩
        rintro a ha b hb rfl
        rw [List.mem_singleton] at hb
        exact SlackName.next_notMem names (hb ▸ ha)
      simpa [addedNames] using ih hs

theorem exists_numbers (names : List String) (cs : List Constraint) :
    ∃ ks : List Nat, addedNames (addVariables α names cs) = ks.map SlackName.ofNumber ∧
      ((∀ k ∈ ks, k < Decimal.wordLimit) →
        ks.Pairwise (· < ·) ∧ ∀ k ∈ ks, SlackName.start names ≤ k) := by
  induction cs generalizing names with
  | nil => exact ⟨[], rfl, fun _ => ⟨List.Pairwise.nil, nofun⟩⟩
  | cons c cs ih =>
    rw [addVariables]
    split
    · exact ih names
    · let k := SlackName.search names (SlackName.start names)
      obtain ⟨ks, hks, hlt⟩ := ih (names ++ [SlackName.ofNumber k])
      refine ⟨k :: ks, congrArg (SlackName.ofNumber k :: ·) hks, fun hlimit => ?_⟩
      obtain ⟨hk, hrest⟩ := List.forall_mem_cons.1 hlimit
      obtain ⟨hpairs, hfrom⟩ := hlt hrest
      -- the search for the next number starts above this one, as long as this one fits a word
      rw [SlackName.start_concat_ofNumber names hk] at hfrom
      have hstart : SlackName.start names ≤ k := SlackName.le_search names _
      refine ⟨List.pairwise_cons.2 ⟨hfrom, hpairs⟩, List.forall_mem_cons.2 ⟨hstart, ?_⟩⟩
      intro l hl
      exact Nat.le_trans hstart (Nat.le_of_succ_le (hfrom l hl))

end Added

end Problem

end LinearProgram
