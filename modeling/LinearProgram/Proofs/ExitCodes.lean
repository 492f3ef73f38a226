import LinearProgram.Proofs.Batches
import LinearProgram.Proofs.Decimals

namespace LinearProgram

namespace Block

def Malformed (b : Block) : Prop :=
  ∃ e, (Problem.ofLines b.lines : Except Problem.Error (Problem Float)) = .error e

def Unstartable (b : Block) : Prop :=
  ∃ p : Problem Float, Problem.ofLines b.lines = .ok p ∧
    ∃ c ∈ Problem.kept Float p.constraints, c.Unstartable Float

end Block

namespace Problem

variable {α : Type} [Scalar α] [OrderedSigns α]

lemma exists_solve_error_iff {lines : List String} {p : Problem α} (h : ofLines lines = .ok p)
    (settings : Settings α) :
    (∃ e, p.standard.solve settings = .error e) ↔
      ∃ c ∈ kept α p.constraints, c.Unstartable α := by
  simp only [solve_eq_error_iff h settings]
  constructor
  · rintro ⟨e, before, c, after, hkept, -, hc, -⟩
    exact ⟨c, by simp [hkept], hc⟩
  · -- the first such constraint is the one that is reported
    rintro ⟨c, hc, hbad⟩
    have hsome : ((kept α p.constraints).find? fun c => c.Unstartable α).isSome :=
      List.find?_isSome.2 ⟨c, hc, decide_eq_true hbad⟩
    obtain ⟨first, hfirst⟩ := Option.isSome_iff_exists.1 hsome
    obtain ⟨hbad, before, after, hkept, hbefore⟩ := List.find?_eq_some_iff_append.1 hfirst
    refine ⟨_, before, first, after, hkept, fun b hb => ?_, of_decide_eq_true hbad, rfl⟩
    simpa using hbefore b hb

end Problem

namespace Block

variable {b : Block}

lemma exists_read_error_iff : (∃ e, b.read Float = .error e) ↔ b.Malformed := by
  rw [Malformed, Block.read]
  cases (Problem.ofLines b.lines : Except Problem.Error (Problem Float)) <;> simp [Except.mapError]

lemma exists_solve_error_iff (settings : Settings Float) :
    (∃ e, b.solve settings = .error e) ↔ b.Malformed ∨ b.Unstartable := by
  rw [Malformed, Unstartable, Block.solve, Block.read]
  cases hb : (Problem.ofLines b.lines : Except Problem.Error (Problem Float)) with
  | error e => simp [Except.mapError, bind, Except.bind]
  | ok p =>
    have := Problem.exists_solve_error_iff hb settings
    simp only [Except.mapError, bind, Except.bind]
    cases hs : p.standard.solve settings with
    | error e => simp_all
    | ok s => simp_all [pure, Except.pure]

end Block

namespace Command

lemma isEmpty_errors_solveInWords (steps : Bool) (settings : Settings Float) (b : Block) :
    (solveInWords steps settings b).errors.isEmpty = (b.solve settings).isOk := by
  rw [solveInWords]
  cases b.solve settings <;> rfl

lemma isEmpty_errors_checkInWords (b : Block) :
    (checkInWords b).errors.isEmpty = (b.read Float).isOk := by
  rw [checkInWords]
  cases b.read Float <;> rfl

lemma codeOf_any_eq_one_iff {β ε γ : Type} {xs : List β} {p : β → Bool} (f : β → Except ε γ)
    (h : ∀ x, p x = !(f x).isOk) :
    codeOf (xs.any p) = 1 ↔ ∃ x ∈ xs, ∃ e, f x = .error e := by
  have hfailed : ∀ x, p x = true ↔ ∃ e, f x = .error e := by
    intro x
    rw [h]
    cases f x <;> simp [Except.isOk, Except.toBool]
  rw [codeOf_eq_one_iff, List.any_eq_true]
  simp only [hfailed]

variable (file source : String)

lemma exitCode_solve_eq_one_iff (steps : Bool) (format : Format) (settings : Settings Float) :
    ((Request.solve file steps format settings).run (.ok source)).exitCode = 1 ↔
      ∃ b ∈ Block.ofText source, b.Malformed ∨ b.Unstartable := by
  simp only [← Block.exists_solve_error_iff settings]
  cases format with
  | words =>
    simp only [Request.run, Request.answer, Outcome.ofPrinted, List.any_map]
    refine codeOf_any_eq_one_iff (Block.solve settings) fun b => ?_
    rw [Function.comp_apply, isEmpty_errors_solveInWords]
  | document =>
    simp only [run_document, solvesAll, List.not_all_eq_any_not]
    exact codeOf_any_eq_one_iff (Block.solve settings) fun b => rfl

lemma exitCode_check_eq_one_iff :
    ((Request.check file).run (.ok source)).exitCode = 1 ↔
      ∃ b ∈ Block.ofText source, b.Malformed := by
  simp only [← Block.exists_read_error_iff]
  simp only [Request.run, Request.answer, Outcome.ofPrinted, List.any_map]
  refine codeOf_any_eq_one_iff (Block.read Float) fun b => ?_
  rw [Function.comp_apply, isEmpty_errors_checkInWords]

lemma codeOf_le_one (failed : Bool) : codeOf failed ≤ 1 := by
  cases failed <;> decide

lemma exitCode_run_le_one (request : Request) (content : Except FileError String) :
    (request.run content).exitCode ≤ 1 := by
  cases content with
  | error e => simp only [Request.run, Nat.le_refl]
  | ok source =>
    rw [Request.run]
    cases request with
    | solve file steps format settings =>
      cases format with
      | words => simp only [Request.answer, Outcome.ofPrinted, codeOf_le_one]
      | document => simp only [Request.answer, codeOf_le_one]
    | check file => simp only [Request.answer, Outcome.ofPrinted, codeOf_le_one]

theorem exitCode_eq_two_iff (arguments : List String)
    (content : String → Except FileError String) :
    (run arguments content).exitCode = 2 ↔
      ∃ e, Request.ofArguments arguments = .error (.usage e) := by
  rw [run]
  cases Request.ofArguments arguments with
  | error stop => cases stop <;> simp [Stop.outcome]
  | ok request =>
    have hle := exitCode_run_le_one request (content request.file)
    simp only [reduceCtorEq, exists_false, iff_false]
    omega

theorem exitCode_eq_one_iff :
    (∀ (lines : List String) (p : Problem Float), Problem.ofLines lines = .ok p →
      ∀ settings : Settings Float,
        ((∃ e, p.standard.solve settings = .error e) ↔
          ∃ c ∈ Problem.kept Float p.constraints, c.Unstartable Float) ∧
        ∀ e, p.standard.solve settings = .error e ↔
          ∃ before c after, Problem.kept Float p.constraints = before ++ c :: after ∧
            (∀ b ∈ before, ¬ b.Unstartable Float) ∧ c.Unstartable Float ∧
            e = c.startError (before.length + 1)) ∧
    ∀ (arguments : List String) (content : String → Except FileError String)
      (file source : String), content file = .ok source →
        (∀ steps format settings,
          Request.ofArguments arguments = .ok (.solve file steps format settings) →
          ((run arguments content).exitCode = 1 ↔
            ∃ b ∈ Block.ofText source, b.Malformed ∨ b.Unstartable)) ∧
        (Request.ofArguments arguments = .ok (.check file) →
          ((run arguments content).exitCode = 1 ↔ ∃ b ∈ Block.ofText source, b.Malformed)) := by
  refine ⟨fun lines p h settings => ?_, fun arguments content file source hfile => ⟨?_, ?_⟩⟩
  · exact ⟨Problem.exists_solve_error_iff h settings, Problem.solve_eq_error_iff h settings⟩
  · intro steps format settings hrequest
    have hrun : run arguments content =
        (Request.solve file steps format settings).run (.ok source) := by
      simp only [run, hrequest, Request.file, hfile]
    rw [hrun]
    exact exitCode_solve_eq_one_iff file source steps format settings
  · intro hrequest
    have hrun : run arguments content = (Request.check file).run (.ok source) := by
      simp only [run, hrequest, Request.file, hfile]
    rw [hrun]
    exact exitCode_check_eq_one_iff file source

theorem exitCode_eq_one_of_unstartable :
    (∃ p : Problem Float, Problem.ofLines ["max: z = x", "x >= 0", "x >= 2", "x <= 4"] = .ok p ∧
      ∀ settings, p.standard.solve settings = .error (.missingBasicVariable 1 "x >= 2")) ∧
    (run ["solve", "--format", "json", "p.lpp"] fun _ =>
      .ok "max: z = x\nx >= 0\nx >= 2\nx <= 4").exitCode = 1 ∧
    (run ["check", "p.lpp"] fun _ => .ok "max: z = x\nx >= 0\nx >= 2\nx <= 4").exitCode ≠ 1 := by
  obtain ⟨hsolve, hrun⟩ := exitCode_eq_one_iff
  have hrun := fun arguments => hrun arguments
    (fun _ => .ok "max: z = x\nx >= 0\nx >= 2\nx <= 4") "p.lpp" _ rfl
  have htext : Block.ofText "max: z = x\nx >= 0\nx >= 2\nx <= 4" =
      [⟨1, 1, ["max: z = x", "x >= 0", "x >= 2", "x <= 4"]⟩] := by decide +kernel
  have hfirst : ((Problem.ofLines ["max: z = x", "x >= 0", "x >= 2",
      "x <= 4"]).toOption.map fun p : Problem Float =>
        (Problem.kept Float p.constraints).head?.map fun c =>
          (c.startError 1, decide (c.Unstartable Float))) =
      some (some (Tableau.Error.missingBasicVariable 1 "x >= 2", true)) := by decide +kernel
  obtain ⟨p, hp, hhead⟩ := Option.map_eq_some_iff.1 hfirst
  obtain ⟨c, hc, hbad⟩ := Option.map_eq_some_iff.1 hhead
  obtain ⟨herror, hbad⟩ := Prod.ext_iff.1 hbad
  obtain ⟨after, hkept⟩ := List.head?_eq_some_iff.1 hc
  have hok : Problem.ofLines _ = .ok p := eq_ok_of_toOption hp
  refine ⟨⟨p, hok, fun settings => ?_⟩, ?_, ?_⟩
  · exact ((hsolve _ p hok settings).2 _).2
      ⟨[], c, after, hkept, nofun, of_decide_eq_true hbad, herror.symm⟩
  · have hrequest : ∃ settings, Request.ofArguments ["solve", "--format", "json", "p.lpp"] =
        .ok (.solve "p.lpp" false .document settings) := ⟨_, rfl⟩
    obtain ⟨settings, hrequest⟩ := hrequest
    refine ((hrun _).1 _ _ _ hrequest).2 ⟨_, htext ▸ List.mem_cons_self, .inr ?_⟩
    exact ⟨p, hok, c, hkept ▸ List.mem_cons_self, of_decide_eq_true hbad⟩
  · have hrequest : Request.ofArguments ["check", "p.lpp"] = .ok (.check "p.lpp") := rfl
    rw [Ne, (hrun _).2 hrequest, htext]
    rintro ⟨b, hb, e, he⟩
    obtain rfl := List.mem_singleton.1 hb
    exact nomatch he.symm.trans hok

end Command

end LinearProgram
