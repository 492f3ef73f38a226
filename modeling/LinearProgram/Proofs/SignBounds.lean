import LinearProgram.Batch
import LinearProgram.Proofs.WrittenProblem

/-!
Lines that only say of an unknown that it is not negative can be put in anywhere below the objective,
once the unknown has occurred: the standard form stays the same.
-/

namespace LinearProgram

variable (α : Type) [Scalar α]

structure Constraint.BoundsSign (c : Constraint) (name : String) : Prop where
  relation_eq : c.relation = .atLeast
  bound_eq : (c.bound.value α == 0) = true
  exists_term : ∃ t, c.terms = [t] ∧ 0 < t.coefficient.value α ∧ t.name = name

variable {α}

namespace Constraint.BoundsSign

variable {c : Constraint} {name : String}

lemma isSignBound (h : c.BoundsSign α name) : c.isSignBound α = true := by
  obtain ⟨t, hterms, hpos, -⟩ := h.exists_term
  simp [Constraint.isSignBound, h.relation_eq, h.bound_eq, hterms, hpos]

lemma map_name (h : c.BoundsSign α name) : c.terms.map Term.name = [name] := by
  obtain ⟨t, hterms, -, rfl⟩ := h.exists_term
  simp [hterms]

end Constraint.BoundsSign

namespace Problem

variable (α) in
/-- The second list is the first with bounds put in, each on one of the unknowns `names` or on one
that a line above it has. -/
inductive WithBounds : List String → List String → List String → Prop
  | nil {names : List String} : WithBounds names [] []
  | line {names lines lines' : List String} {line : String} {c : Constraint} :
      Constraint.read line = .ok c → WithBounds (names ++ c.terms.map Term.name) lines lines' →
      WithBounds names (line :: lines) (line :: lines')
  | bound {names lines lines' : List String} {line name : String} {c : Constraint} :
      Constraint.read line = .ok c → c.BoundsSign α name → name ∈ names →
      WithBounds names lines lines' → WithBounds names lines (line :: lines')

variable {names lines lines' : List String} {o : Objective} {cs cs' : List Constraint}

def collect (acc : List String) (cs : List Constraint) : List String :=
  ((cs.flatMap Constraint.terms).map Term.name).foldl insertName acc

lemma collect_cons (acc : List String) (c : Constraint) (cs : List Constraint) :
    collect acc (c :: cs) = collect ((c.terms.map Term.name).foldl insertName acc) cs := by
  simp [collect]

lemma unknowns_eq_collect (o : Objective) (cs : List Constraint) :
    unknowns o cs = collect (firstOccurrences (o.terms.map Term.name)) cs := by
  simp [unknowns, collect, firstOccurrences]

variable (α) in
structure AlikeBeside (names : List String) (cs cs' : List Constraint) : Prop where
  kept_eq : kept α cs' = kept α cs
  collect_eq : ∀ acc, names ⊆ acc → collect acc cs' = collect acc cs

theorem WithBounds.exists_readConstraints (h : WithBounds α names lines lines')
    (hcs : readConstraints lines = .ok cs) : ∃ cs', readConstraints lines' = .ok cs' ∧
      AlikeBeside α names cs cs' := by
  induction h generalizing cs with
  | nil =>
    cases hcs
    exact ⟨[], rfl, rfl, fun _ _ => rfl⟩
  | line hc _ ih =>
    -- both lists have the line, so its names are known to both behind it
    obtain ⟨d, rest, hd, hrest, rfl⟩ := readConstraints_cons_eq_ok.1 hcs
    obtain rfl := Except.ok.inj (hc.symm.trans hd)
    obtain ⟨rest', hrest', halike⟩ := ih hrest
    refine ⟨_ :: rest', readConstraints_cons_eq_ok.2 ⟨_, rest', hc, hrest', rfl⟩, ?_, ?_⟩
    · have hkept := halike.kept_eq
      rw [kept, kept] at hkept
      simp only [kept, List.filter_cons, hkept]
    · intro acc hacc
      rw [collect_cons, collect_cons]
      refine halike.collect_eq _ fun n hn => ?_
      rw [mem_foldl_insertName]
      exact (List.mem_append.1 hn).imp_left fun hn => hacc hn
  | bound hc hbound hname _ ih =>
    obtain ⟨cs', hcs', halike⟩ := ih hcs
    refine ⟨_ :: cs', readConstraints_cons_eq_ok.2 ⟨_, cs', hc, hcs', rfl⟩, ?_, fun acc hacc => ?_⟩
    · rw [← halike.kept_eq, kept, List.filter_cons_of_neg (by simp [hbound.isSignBound])]
      rfl
    · -- the bound is dropped, and its name has a place already
      have hinsert : insertName acc _ = acc := if_pos (hacc hname)
      rw [collect_cons, hbound.map_name, List.foldl_cons, List.foldl_nil, hinsert,
        halike.collect_eq acc hacc]

lemma standardForm_congr (hunknowns : unknowns o cs' = unknowns o cs)
    (hkept : kept α cs' = kept α cs) : standardForm α o cs' = standardForm α o cs := by
  simp only [standardForm, variableNames, addedVariables, hunknowns, hkept]

/-- The bounds stay among the constraints of the problem, but neither its standard form nor what comes
of solving it shows them. -/
theorem ofLines_withBounds {first : String} {p : Problem α} (hp : ofLines (first :: lines) = .ok p)
    (h : WithBounds α (p.objective.terms.map Term.name) lines lines') :
    (∃ q : Problem α, ofLines (first :: lines') = .ok q ∧ q.objective = p.objective ∧
      q.standard = p.standard) ∧
    ∀ (settings : Settings α) (index line : Nat),
      ((Block.mk index line (first :: lines')).solve settings).map Prod.snd =
        ((Block.mk index line (first :: lines)).solve settings).map Prod.snd := by
  obtain ⟨ho, hcs, hstandard⟩ := ofLines_cons_eq_ok.1 hp
  obtain ⟨cs', hcs', halike⟩ := h.exists_readConstraints hcs
  have hunknowns : unknowns p.objective cs' = unknowns p.objective p.constraints := by
    rw [unknowns_eq_collect, unknowns_eq_collect]
    exact halike.collect_eq _ fun n hn => mem_firstOccurrences.2 hn
  have hsame : standardForm α p.objective cs' = p.standard := by
    rw [hstandard, standardForm_congr hunknowns halike.kept_eq]
  let q : Problem α := ⟨p.objective, cs', p.standard⟩
  have hq : ofLines (first :: lines') = .ok q := ofLines_cons_eq_ok.2 ⟨ho, hcs', hsame.symm⟩
  refine ⟨⟨q, hq, rfl, rfl⟩, fun settings index line => ?_⟩
  have hread : (Block.mk index line (first :: lines)).read α = .ok p := mapError_eq_ok.2 hp
  have hread' : (Block.mk index line (first :: lines')).read α = .ok q := mapError_eq_ok.2 hq
  rw [Block.solve, Block.solve, hread, hread']
  cases hsolve : p.standard.solve settings <;>
    simp [bind, Except.bind, pure, Except.pure, Except.map, Except.mapError, q, hsolve]

theorem ofLines_withBounds_of_late_unknowns :
    ∃ p q : Problem Float,
      ofLines ["max: z = x + y", "x + w <= 4", "v >= 0", "y - x >= -3"] = .ok p ∧
      ofLines ["max: z = x + y", "3*x >= 0", "x + w <= 4", "w>=-0.0", "v >= 0", "+.5 v >= + 0 # v",
        "y - x >= -3"] = .ok q ∧
      p.standard.names = ["x", "y", "w", "v", "s5", "s6"] ∧ q.standard = p.standard ∧
      q.constraints.length = 6 := by
  have hp : ((ofLines ["max: z = x + y", "x + w <= 4", "v >= 0", "y - x >= -3"]).toOption.map
      fun p : Problem Float => (p.standard.names, p.objective.terms.map Term.name)) =
        some (["x", "y", "w", "v", "s5", "s6"], ["x", "y"]) := by decide +kernel
  have hq : ((ofLines ["max: z = x + y", "3*x >= 0", "x + w <= 4", "w>=-0.0", "v >= 0",
      "+.5 v >= + 0 # v", "y - x >= -3"]).toOption.map
        fun q : Problem Float => q.constraints.length) = some 6 := by decide +kernel
  have hx : ∃ c, Constraint.read "3*x >= 0" = .ok c ∧ c.BoundsSign Float "x" :=
    ⟨⟨⟨0, 8⟩, "3*x >= 0", [⟨⟨0, 3⟩, ⟨false, 3, 0⟩, "x"⟩], .atLeast, ⟨false, 0, 0⟩⟩,
      by decide +kernel, rfl, by decide, _, rfl, by decide +kernel, rfl⟩
  have hw : ∃ c, Constraint.read "w>=-0.0" = .ok c ∧ c.BoundsSign Float "w" :=
    ⟨⟨⟨0, 7⟩, "w>=-0.0", [⟨⟨0, 1⟩, ⟨false, 1, 0⟩, "w"⟩], .atLeast, ⟨true, 0, 1⟩⟩,
      by decide +kernel, rfl, by decide, _, rfl, by decide +kernel, rfl⟩
  have hv : ∃ c, Constraint.read "+.5 v >= + 0 # v" = .ok c ∧ c.BoundsSign Float "v" :=
    ⟨⟨⟨0, 12⟩, "+.5 v >= + 0 # v", [⟨⟨0, 5⟩, ⟨false, 5, 1⟩, "v"⟩], .atLeast, ⟨false, 0, 0⟩⟩,
      by decide +kernel, rfl, by decide, _, rfl, by decide +kernel, rfl⟩
  have hxw : Constraint.read "x + w <= 4" = .ok ⟨⟨0, 10⟩, "x + w <= 4",
      [⟨⟨0, 1⟩, ⟨false, 1, 0⟩, "x"⟩, ⟨⟨2, 5⟩, ⟨false, 1, 0⟩, "w"⟩], .atMost, ⟨false, 4, 0⟩⟩ := by
    decide +kernel
  have hv' : Constraint.read "v >= 0" = .ok ⟨⟨0, 6⟩, "v >= 0",
      [⟨⟨0, 1⟩, ⟨false, 1, 0⟩, "v"⟩], .atLeast, ⟨false, 0, 0⟩⟩ := by decide +kernel
  have hyx : Constraint.read "y - x >= -3" = .ok ⟨⟨0, 11⟩, "y - x >= -3",
      [⟨⟨0, 1⟩, ⟨false, 1, 0⟩, "y"⟩, ⟨⟨2, 5⟩, ⟨true, 1, 0⟩, "x"⟩], .atLeast, ⟨true, 3, 0⟩⟩ := by
    decide +kernel
  obtain ⟨p, hok, hnames⟩ := exists_eq_ok_of_map hp
  obtain ⟨hnames, hobjective⟩ := Prod.mk.inj hnames
  obtain ⟨q, hok', hlength⟩ := exists_eq_ok_of_map hq
  have hbounds : WithBounds Float ["x", "y"] ["x + w <= 4", "v >= 0", "y - x >= -3"]
      ["3*x >= 0", "x + w <= 4", "w>=-0.0", "v >= 0", "+.5 v >= + 0 # v", "y - x >= -3"] := by
    obtain ⟨_, hx, hboundx⟩ := hx
    obtain ⟨_, hw, hboundw⟩ := hw
    obtain ⟨_, hv, hboundv⟩ := hv
    refine .bound hx hboundx (by simp) (.line hxw ?_)
    refine .bound hw hboundw (by simp) (.line hv' ?_)
    exact .bound hv hboundv (by simp) (.line hyx .nil)
  obtain ⟨⟨q', hq', -, hstandard⟩, -⟩ := ofLines_withBounds hok (hobjective.symm ▸ hbounds)
  obtain rfl := Except.ok.inj (hok'.symm.trans hq')
  exact ⟨p, q, hok, hok', hnames, hstandard, hlength⟩

end Problem

end LinearProgram
