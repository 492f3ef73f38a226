import Mathlib.Data.List.Forall2
import LinearProgram.Command
import LinearProgram.Proofs.Blocks

/-!
The problems of a text do not depend on each other: what is reported of each is the same whatever
stands before it, but for the place that the report gives.
-/

namespace LinearProgram

def Json.field? (key : String) : Json → Option Json
  | .object fields => fields.lookup key
  | _ => none

namespace Report

def laterField (blocks lines : Nat) : String × Json → String × Json
  | ("index", .count n) => ("index", .count (n + blocks))
  | ("line", .count n) => ("line", .count (n + lines))
  | field => field

def laterDocument (blocks lines : Nat) : Json → Json
  | .object fields => .object (fields.map (laterField blocks lines))
  | j => j

variable (settings : Settings Float)

def documents (source : String) : List Json :=
  (Block.ofText source).map (blockDocument settings)

/-- A report says which problem it is on, and of one that failed also in which line it starts. -/
structure Placed (b : Block) (document : Json) : Prop where
  index_eq : document.field? "index" = some (.count b.index)
  line_eq : document.field? "line" =
    match b.solve settings with
    | .ok _ => none
    | .error _ => some (.count b.line)

lemma placed_blockDocument (b : Block) : Placed settings b (blockDocument settings b) := by
  rw [blockDocument]
  cases hb : b.solve settings with
  | ok outcome => exact ⟨rfl, by rw [hb]; rfl⟩
  | error cause => exact ⟨rfl, by rw [hb]; rfl⟩

lemma placed_documents (source : String) :
    List.Forall₂ (Placed settings) (Block.ofText source) (documents settings source) := by
  rw [documents, List.forall₂_map_right_iff, List.forall₂_same]
  exact fun b _ => placed_blockDocument settings b

lemma solve_later (blocks lines : Nat) (b : Block) :
    (b.later blocks lines).solve settings = b.solve settings := rfl

lemma blockDocument_later (blocks lines : Nat) (b : Block) :
    blockDocument settings (b.later blocks lines) =
      laterDocument blocks lines (blockDocument settings b) := by
  rw [blockDocument, solve_later, blockDocument]
  cases b.solve settings <;> rfl

theorem documents_append (a b : String) :
    documents settings (a ++ "\n\n" ++ b) = documents settings a ++
      (documents settings b).map
        (laterDocument (Block.ofText a).length (a.toList.count '\n' + 2)) := by
  rw [documents, Block.ofText_append, List.map_append, List.map_map, documents, documents,
    List.map_map]
  refine congrArg (_ ++ ·) (List.map_congr_left fun block _ => ?_)
  exact blockDocument_later settings _ _ block

end Report

namespace Command

variable (settings : Settings Float)

lemma solvesAll_append (a b : String) :
    solvesAll settings (Block.ofText (a ++ "\n\n" ++ b)) =
      (solvesAll settings (Block.ofText a) && solvesAll settings (Block.ofText b)) := by
  rw [Block.ofText_append, solvesAll, List.all_append, List.all_map]
  rfl

lemma codeOf_eq_one_iff {failed : Bool} : codeOf failed = 1 ↔ failed = true := by
  cases failed <;> simp [codeOf]

lemma run_document (file : String) (steps : Bool) (source : String) :
    (Request.solve file steps .document settings).run (.ok source) =
      ⟨codeOf (!solvesAll settings (Block.ofText source)),
        unlines [(Json.list (Report.documents settings source)).write], ""⟩ := rfl

end Command

theorem Block.batch_append (a b : String) :
    ofText (a ++ "\n\n" ++ b) =
      ofText a ++ (ofText b).map (later (ofText a).length (a.toList.count '\n' + 2)) ∧
    ∀ (file : String) (steps : Bool) (settings : Settings Float),
      let request := Command.Request.solve file steps .document settings
      (∀ source, (request.run (.ok source)).output =
        Command.unlines [(Json.list (Report.documents settings source)).write] ∧
        List.Forall₂ (Report.Placed settings) (ofText source) (Report.documents settings source)) ∧
      Report.documents settings (a ++ "\n\n" ++ b) = Report.documents settings a ++
        (Report.documents settings b).map
          (Report.laterDocument (ofText a).length (a.toList.count '\n' + 2)) ∧
      ((request.run (.ok (a ++ "\n\n" ++ b))).exitCode = 1 ↔
        (request.run (.ok a)).exitCode = 1 ∨ (request.run (.ok b)).exitCode = 1) := by
  refine ⟨ofText_append a b, fun file steps settings => ?_⟩
  refine ⟨fun source => ⟨by rw [Command.run_document], Report.placed_documents settings source⟩,
    Report.documents_append settings a b, ?_⟩
  rw [Command.run_document, Command.run_document, Command.run_document]
  simp only [Command.codeOf_eq_one_iff, Command.solvesAll_append]
  cases Command.solvesAll settings (ofText a) <;> simp

end LinearProgram
