import LinearProgram.Proofs.Numerals

/-!
Names of added variables. The number of the next one is the least that no variable has yet, from a
start on that the last name and the count of names decide. The search for it passes over no more
numbers than there are names, and in words of 64 bits it gives the same name if its number fits a word.
So does the naming of all variables that constraints add.
-/

namespace LinearProgram

namespace Decimal

end Decimal

namespace SlackName

variable {name : String} {names taken : List String} {k l n : Nat}

section Start

end Start

section Search

lemma mem_of_lt_search (hk : k ≤ l) (hl : l < search taken k) : ofNumber l ∈ taken := by
  fun_induction search taken k with
  | case1 taken k h ih =>
    rcases hk.eq_or_lt with rfl | hlt
    · exact h
    · exact List.mem_of_mem_erase (ih hlt hl)
  | case2 taken k h => omega

theorem isLeast_search (taken : List String) (k : Nat) :
    IsLeast {l | k ≤ l ∧ ofNumber l ∉ taken} (search taken k) := by
  refine ⟨⟨le_search taken k, ofNumber_search_notMem taken k⟩, ?_⟩
  rintro l ⟨hk, hl⟩
  exact not_lt.1 fun hlt => hl (mem_of_lt_search hk hlt)

lemma search_of_mem (h : ofNumber k ∈ taken) : search taken k = search taken (k + 1) := by
  -- the search on the left strikes the name off, which no later number has
  refine (isLeast_search taken k).unique ?_
  obtain ⟨⟨hle, hfree⟩, hleast⟩ := isLeast_search taken (k + 1)
  refine ⟨⟨Nat.le_of_succ_le hle, hfree⟩, ?_⟩
  rintro l ⟨hk, hl⟩
  refine hleast ⟨Nat.lt_of_le_of_ne hk ?_, hl⟩
  rintro rfl
  exact hl h

lemma search_of_notMem (h : ofNumber k ∉ taken) : search taken k = k := by
  rw [search, if_neg h]

end Search

section Words

def checkedStart (names : List String) : Option Nat :=
  let before := (names.getLast?.bind trailingNumber?).getD names.length
  if before + 1 < Decimal.wordLimit then some (before + 1) else none

/-- The search in words of 64 bits, in which nothing is struck off. There is no result where the
number to try next does not fit a word. -/
def checkedSearch (taken : List String) (k : Nat) : Option Nat :=
  if ofNumber k ∈ taken then
    if k + 1 < Decimal.wordLimit then checkedSearch taken (k + 1) else none
  else some k
termination_by Decimal.wordLimit - k

def checkedNext (names : List String) : Option String := do
  let first ← checkedStart names
  let k ← checkedSearch names first
  return ofNumber k

lemma checkedStart_eq (names : List String) : checkedStart names =
    if start names < Decimal.wordLimit then some (start names) else none := by
  have hstart : (names.getLast?.bind trailingNumber?).getD names.length + 1 = start names := by
    rw [start]
    cases names.getLast?.bind trailingNumber? <;> rfl
  simp only [checkedStart, hstart]

lemma checkedSearch_eq (hk : k < Decimal.wordLimit) : checkedSearch taken k =
    if search taken k < Decimal.wordLimit then some (search taken k) else none := by
  fun_induction checkedSearch taken k with
  | case1 k h hlt ih => rw [ih hlt, search_of_mem h]
  | case2 k h hlt =>
    have := le_search taken (k + 1)
    rw [search_of_mem h, if_neg (by omega)]
  | case3 k h => rw [search_of_notMem h, if_pos hk]

theorem checkedNext_eq (names : List String) : checkedNext names =
    if search names (start names) < Decimal.wordLimit then some (next names) else none := by
  have hle := le_search names (start names)
  rw [checkedNext, checkedStart_eq]
  by_cases hstart : start names < Decimal.wordLimit
  · rw [if_pos hstart, Option.bind_eq_bind, Option.bind_some, checkedSearch_eq hstart]
    split <;> rfl
  · rw [if_neg hstart, if_neg (by omega)]
    rfl

end Words

example : next ["s8", "s10", "x007"] = "s9" ∧ next ["s2", "x99999999999999999999"] = "s3" := by
  decide +kernel

end SlackName

namespace Problem

variable (α : Type) [Scalar α]

def checkedVariables (names : List String) :
    List Constraint → Option (List (Option AddedVariable))
  | [] => some []
  | c :: cs =>
    match addedKind α c with
    | none => (checkedVariables names cs).map (none :: ·)
    | some kind => do
      let name ← SlackName.checkedNext names
      let added ← checkedVariables (names ++ [name]) cs
      return some ⟨name, kind⟩ :: added

theorem checkedVariables_eq (names : List String) (cs : List Constraint) : ∃ ks : List Nat,
    addedNames (addVariables α names cs) = ks.map SlackName.ofNumber ∧
    checkedVariables α names cs =
      if ∀ k ∈ ks, k < Decimal.wordLimit then some (addVariables α names cs) else none := by
  induction cs generalizing names with
  | nil => exact ⟨[], rfl, (if_pos nofun).symm⟩
  | cons c cs ih =>
    rw [addVariables, checkedVariables]
    cases addedKind α c with
    | none =>
      obtain ⟨ks, hks, hchecked⟩ := ih names
      refine ⟨ks, hks, ?_⟩
      simp only [hchecked]
      split <;> rfl
    | some kind =>
      obtain ⟨ks, hks, hchecked⟩ := ih (names ++ [SlackName.next names])
      refine ⟨SlackName.search names (SlackName.start names) :: ks,
        congrArg (SlackName.next names :: ·) hks, ?_⟩
      simp only [SlackName.checkedNext_eq, List.forall_mem_cons]
      by_cases hk : SlackName.search names (SlackName.start names) < Decimal.wordLimit
      · simp only [hk, if_true, true_and, Option.bind_eq_bind, Option.bind_some, hchecked]
        split <;> rfl
      · rw [if_neg hk, if_neg fun h => hk h.1]
        rfl

end Problem

end LinearProgram
