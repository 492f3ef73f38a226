import LinearProgram.Batch
import LinearProgram.Json

namespace LinearProgram

namespace Report

def scalars (xs : List Float) : Json :=
  Json.ofList .number xs

def names (xs : List String) : Json :=
  Json.ofList .text xs

def statusName : Status → String
  | .optimal => "Optimal"
  | .alternateOptima => "AlternateOptima"
  | .unbounded => "Unbounded"
  | .degenerate => "Degenerate"
  | .nonConvergent => "NonConvergent"

def tableauDocument (t : Tableau Float) : Json :=
  .object [
    ("data", Json.ofList (fun r => scalars r.toList) t.allRows),
    ("variables", names t.names),
    ("basis", names t.basis)]

def stepDocument (s : Step Float) : Json :=
  .object [
    ("iteration", .count s.iteration),
    ("tableau", tableauDocument s.tableau),
    ("objective_value", .number s.objectiveValue),
    ("values", scalars s.values),
    ("entering", Json.ofOption .text s.entering),
    ("leaving", Json.ofOption .text s.leaving),
    ("ratios", Json.ofList (Json.ofOption .number) s.ratios),
    ("pivot", Json.ofOption .number s.pivot)]

def solutionDocument (s : Solution Float) : Json :=
  .object [
    ("status", .text (statusName s.status)),
    ("direction", .text s.direction.text),
    ("variables", names s.names),
    ("decision_count", .count s.decisionCount),
    ("values", scalars s.values),
    ("alternate_values", Json.ofOption scalars s.alternateValues),
    ("objective_value", .number s.objectiveValue),
    ("iterations", .count s.iterations),
    ("history", scalars s.history),
    ("tableau", tableauDocument s.tableau),
    ("steps", Json.ofList stepDocument s.steps)]

def blockDocument (settings : Settings Float) (b : Block) : Json :=
  match b.solve settings with
  | .ok (p, s) =>
    .object [
      ("index", .count b.index),
      ("problem", .text p.write),
      ("solution", solutionDocument s)]
  | .error e =>
    .object [
      ("index", .count b.index),
      ("line", .count b.line),
      ("error", .text e.message)]

def batchDocument (settings : Settings Float) (bs : List Block) : Json :=
  Json.ofList (blockDocument settings) bs

end Report

end LinearProgram
