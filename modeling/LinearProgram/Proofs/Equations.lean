import LinearProgram.Proofs.Solve

/-!
A run keeps the equations: every tableau that a solution shows has the solutions of the first one,
and the values shown with it are a basic solution of the standard form. This holds of all outcomes,
also of runs that have left the feasible region.
-/

namespace LinearProgram

structure StandardForm.BasicSolution (p : StandardForm Rat) (basis : List String)
    (values : List Rat) (z : Rat) : Prop where
  length_eq : values.length = p.names.length
  equation : ∀ r ∈ p.rows, dot r.equation.coefficients values = r.rhs
  nonbasic : ∀ (k : Nat) (name : String), p.names[k]? = some name → name ∉ basis →
    values[k]? = some 0
  objective_eq : z = dot p.objective (values.take p.decisionCount)

namespace Tableau

variable {t t' : Tableau Rat} {m n : Nat}

theorem Represents.holds_iff (h : t.Represents t' m n) {xs : List Rat}
    (hxs : xs.length = t.names.length) (z : Rat) : t'.Holds z xs ↔ t.Holds z xs := by
  have hn : t.names.Nodup := by
    rw [← h.names_eq]
    exact h.names_nodup
  have hsat := h.satisfies_iff z (assign t.names xs)
  rw [Satisfies, Satisfies, h.names_eq, map_assign hn hxs] at hsat
  exact hsat

theorem Proper.basicSolution {p : StandardForm Rat} (h : t.Proper m n) (hn : t.names = p.names)
    (hz : t.objectiveValue = p.objectiveAt t.reading) (hp : p.Holds t.reading) :
    p.BasicSolution t.basis t.basicValues t.objectiveValue where
  length_eq := by rw [length_basicValues, hn]
  equation := by
    intro r hr
    have := hp r hr
    rwa [LinearForm.Holds, ← hn, h.map_reading] at this
  nonbasic := by
    intro k name hname hb
    rw [← hn] at hname
    rw [← h.map_reading, List.getElem?_map, hname, Option.map_some, h.reading_of_notMem_basis hb]
  objective_eq := by
    rw [hz, StandardForm.objectiveAt, StandardForm.decisionVariables, List.map_take, ← hn,
      h.map_reading]

end Tableau

namespace Problem

variable {lines : List String} {p : Problem Rat} {t t' : Tableau Rat} {settings : Settings Rat}
  {d : Direction} {count : Nat} {values : List Rat} {z : Rat}

theorem basicSolution_of_represents (hp : p.standard = standardForm Rat p.objective p.constraints)
    (ht : Tableau.Started p.standard t)
    (h : t.Represents t' p.standard.rows.length p.standard.names.length) :
    p.standard.BasicSolution t'.basis t'.basicValues t'.objectiveValue := by
  have hsat := (h.satisfies_iff _ _).1 h.satisfies_reading
  rw [satisfies_iff_of_started hp ht] at hsat
  exact h.basicSolution (h.names_eq.trans ht.names_eq) hsat.1 hsat.2

theorem basicSolution_of_shows (hp : ofLines lines = .ok p) (ht : Tableau.start p.standard = .ok t)
    (htol : 0 ≤ settings.tolerance) (h : (t.solve settings d count).Shows t' values z) :
    (∀ (w : Rat) (xs : List Rat), xs.length = p.standard.names.length →
      (t'.Holds w xs ↔ t.Holds w xs)) ∧
    p.standard.BasicSolution t'.basis values z := by
  have hrep := represents_of_shows hp ht htol h
  have hstarted := Tableau.started_of_start ht
  have hnames := hstarted.names_eq
  obtain ⟨-, -, -, hvalues, hz⟩ := Tableau.exists_of_shows h
  constructor
  · intro w xs hxs
    exact hrep.holds_iff (by rw [hxs, hnames]) w
  · rw [← hvalues, ← hz]
    exact basicSolution_of_represents (standard_of_ofLines hp) hstarted hrep

theorem basicSolution_of_infeasible :
    ∃ p t, ofLines ["Maximize: z = x1 + x2", "x1 + x2 <= 0", "x1 + 2x2 <= 4"] = .ok p ∧
      Tableau.start p.standard = .ok t ∧
      (t.solve ⟨10000, 0, true⟩ .maximize 2).values = [4, 0, -4, 0] ∧
      p.standard.BasicSolution (t.solve ⟨10000, 0, true⟩ .maximize 2).tableau.basis
        [4, 0, -4, 0] 4 ∧
      ∀ step ∈ (t.solve ⟨10000, 0, true⟩ .maximize 2).steps,
        p.standard.BasicSolution step.tableau.basis step.values step.objectiveValue := by
  have h : ((outcome? ["Maximize: z = x1 + x2", "x1 + x2 <= 0", "x1 + 2x2 <= 4"]
      ⟨10000, 0, true⟩).map fun o => (o.2.values, o.2.objectiveValue, o.1.standard.direction,
        o.1.standard.decisionCount)) = some ([4, 0, -4, 0], 4, .maximize, 2) := by decide +kernel
  obtain ⟨⟨p, s⟩, ho, hr⟩ := Option.map_eq_some_iff.1 h
  obtain ⟨t, hp, ht, hsolve⟩ := exists_start_of_outcome? ho
  simp only [Prod.mk.injEq] at hr
  obtain ⟨hvalues, hz, hd, hcount⟩ := hr
  rw [hd, hcount] at hsolve
  subst hsolve
  have hshows := @Solution.Shows.last _ (t.solve ⟨10000, 0, true⟩ .maximize 2)
  have hlast := (basicSolution_of_shows hp ht le_rfl hshows).2
  rw [hvalues, hz] at hlast
  exact ⟨p, t, hp, ht, hvalues, hlast, fun step hstep =>
    (basicSolution_of_shows hp ht le_rfl (.step hstep)).2⟩

end Problem

end LinearProgram
