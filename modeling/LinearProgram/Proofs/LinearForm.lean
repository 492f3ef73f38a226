import LinearProgram.Proofs.Row

namespace LinearProgram

lemma dot_modify {as xs : List Rat} {k : Nat} {x : Rat} (h : as.length = xs.length)
    (hx : xs[k]? = some x) (c : Rat) : dot (as.modify k (· + c)) xs = dot as xs + c * x := by
  induction as generalizing xs k with
  | nil =>
    cases xs with
    | nil => cases hx
    | cons => cases h
  | cons a as ih =>
    cases xs with
    | nil => cases h
    | cons y ys =>
      rw [dot_cons]
      cases k with
      | zero =>
        cases hx
        rw [List.modify_zero_cons, dot_cons]
        ring
      | succ k =>
        rw [List.modify_succ_cons, dot_cons, ih (by simpa using h) (by simpa using hx)]
        ring

lemma dot_map_neg (as xs : List Rat) : dot (as.map fun c => -c) xs = -dot as xs := by
  induction as generalizing xs with
  | nil => simp [dot]
  | cons a as ih =>
    cases xs with
    | nil => simp [dot]
    | cons y ys =>
      rw [List.map_cons, dot_cons, dot_cons, ih]
      ring

lemma dot_replicate_zero (n : Nat) (xs : List Rat) : dot (List.replicate n 0) xs = 0 := by
  induction n generalizing xs with
  | zero => simp [dot]
  | succ n ih =>
    cases xs with
    | nil => simp [dot]
    | cons y ys => rw [List.replicate_succ, dot_cons, ih, zero_mul, zero_add]

lemma dot_append {as bs xs ys : List Rat} (h : as.length = xs.length) :
    dot (as ++ bs) (xs ++ ys) = dot as xs + dot bs ys := by
  simp only [dot]
  rw [List.zipWith_append h, List.sum_append]

namespace LinearForm

variable {columns : List String}

section Coefficients

variable {α : Type} [Scalar α] {name : String}

lemma length_foldl_addTerm (ts : List (α × String)) (dense : List α) :
    (ts.foldl (fun dense t => addTerm columns dense t.1 t.2) dense).length = dense.length := by
  induction ts generalizing dense with
  | nil => rfl
  | cons t ts ih => rw [List.foldl_cons, ih, addTerm, List.length_modify]

@[simp] lemma length_densify (ts : List (α × String)) :
    (densify columns ts).length = columns.length := by
  rw [densify, length_foldl_addTerm, List.length_replicate]

lemma getElem?_addTerm (hname : name ∈ columns) (dense : List α) (t : α × String) :
    (addTerm columns dense t.1 t.2)[columns.idxOf name]? =
      dense[columns.idxOf name]?.map fun x => if t.2 = name then x + t.1 else x := by
  rw [addTerm, List.getElem?_modify]
  by_cases ht : t.2 = name
  · simp [ht]
  · have hne : columns.idxOf t.2 ≠ columns.idxOf name := fun hi =>
      ht ((List.idxOf_inj hname).1 hi.symm).symm
    simp [ht, hne]

lemma getElem?_foldl_addTerm (hname : name ∈ columns) (ts : List (α × String)) (dense : List α) :
    (ts.foldl (fun dense t => addTerm columns dense t.1 t.2) dense)[columns.idxOf name]? =
      dense[columns.idxOf name]?.map
        (((ts.filter fun t => t.2 = name).map Prod.fst).foldl (· + ·)) := by
  induction ts generalizing dense with
  | nil => simp
  | cons t ts ih =>
    rw [List.foldl_cons, ih, getElem?_addTerm hname, Option.map_map]
    congr 1
    funext x
    by_cases ht : t.2 = name <;> simp [ht]

theorem getElem?_densify (hname : name ∈ columns) (ts : List (α × String)) :
    (densify columns ts)[columns.idxOf name]? =
      some (((ts.filter fun t => t.2 = name).map Prod.fst).foldl (· + ·) 0) := by
  have hlt : columns.idxOf name < columns.length := List.idxOf_lt_length_iff.2 hname
  rw [densify, getElem?_foldl_addTerm hname, List.getElem?_replicate, if_pos hlt]
  rfl

end Coefficients

lemma dot_foldl_addTerm (x : String → Rat) {ts : List (Rat × String)} {dense : List Rat}
    (hd : dense.length = columns.length) (h : ∀ t ∈ ts, t.2 ∈ columns) :
    dot (ts.foldl (fun dense t => addTerm columns dense t.1 t.2) dense) (columns.map x) =
      dot dense (columns.map x) + (ts.map fun t => t.1 * x t.2).sum := by
  induction ts generalizing dense with
  | nil => simp
  | cons t ts ih =>
    have hx : (columns.map x)[columns.idxOf t.2]? = some (x t.2) := by
      rw [List.getElem?_map, List.getElem?_idxOf (h t List.mem_cons_self)]
      rfl
    rw [List.foldl_cons, ih (by rw [addTerm, List.length_modify, hd])
      fun u hu => h u (List.mem_cons_of_mem _ hu), addTerm, dot_modify (by simp [hd]) hx,
      List.map_cons, List.sum_cons, add_assoc]

theorem dot_densify (x : String → Rat) {ts : List (Rat × String)} (h : ∀ t ∈ ts, t.2 ∈ columns) :
    dot (densify columns ts) (columns.map x) = (ts.map fun t => t.1 * x t.2).sum := by
  rw [densify, dot_foldl_addTerm x (by simp) h, dot_replicate_zero, zero_add]

lemma holds_negated (f : LinearForm Rat) (x : String → Rat) :
    f.negated.Holds columns x ↔ f.Holds columns x := by
  rw [Holds, negated, dot_map_neg]
  exact neg_inj

end LinearForm

end LinearProgram
