import LinearProgram.Line
import LinearProgram.Token.Scan

/-!
The grammar of lines, as relations between tokens and what they stand for. It says nothing about the
order in which tokens are looked at.
-/

namespace LinearProgram.Grammar

structure Signs (negative : Bool) (ts : List Token) : Prop where
  isSign : ∀ t ∈ ts, t.isSign
  negative_iff : negative = true ↔ ts.countP (fun t => t.kind = .minus) % 2 = 1

inductive Factor : Decimal → List Token → Prop
  | absent : Factor .one []
  | number {t : Token} : t.kind = .number → Factor (Decimal.ofLiteral t.text.toList) [t]
  | starred {t star : Token} : t.kind = .number → star.kind = .star →
      Factor (Decimal.ofLiteral t.text.toList) [t, star]

inductive IsTerm : SignedDecimal × String → List Token → Prop
  | mk {negative : Bool} {magnitude : Decimal} {signs factor : List Token} {name : Token} :
      Signs negative signs → Factor magnitude factor → name.kind = .name →
      IsTerm (⟨negative, magnitude⟩, name.text) (signs ++ factor ++ [name])

inductive FurtherTerms : List (SignedDecimal × String) → List Token → Prop
  | nil : FurtherTerms [] []
  | cons {a : SignedDecimal × String} {as : List (SignedDecimal × String)} {ts us : List Token} :
      IsTerm a ts → ts.head?.any Token.isSign = true → FurtherTerms as us →
      FurtherTerms (a :: as) (ts ++ us)

inductive Terms : List (SignedDecimal × String) → List Token → Prop
  | mk {a : SignedDecimal × String} {as : List (SignedDecimal × String)} {ts us : List Token} :
      IsTerm a ts → FurtherTerms as us → Terms (a :: as) (ts ++ us)

inductive IsDirection : Direction → Token → Prop
  | maximize {t : Token} : t.kind = .name →
      t.text.toList.map Char.toLower ∈ ["max".toList, "maximize".toList] → IsDirection .maximize t
  | minimize {t : Token} : t.kind = .name →
      t.text.toList.map Char.toLower ∈ ["min".toList, "minimize".toList] → IsDirection .minimize t

inductive IsObjective : Direction → String → List (SignedDecimal × String) → List Token → Prop
  | mk {d : Direction} {as : List (SignedDecimal × String)} {word colon name eq : Token}
      {ts : List Token} :
      IsDirection d word → colon.kind = .colon → name.kind = .name → eq.kind = .equal →
      Terms as ts → IsObjective d name.text as (word :: colon :: name :: eq :: ts)

inductive IsRelation : Relation → Token → Prop
  | atMost {t : Token} : t.kind = .atMost → IsRelation .atMost t
  | atLeast {t : Token} : t.kind = .atLeast → IsRelation .atLeast t
  | equal {t : Token} : t.kind = .equal → IsRelation .equal t

inductive IsConstraint :
    List (SignedDecimal × String) → Relation → SignedDecimal → List Token → Prop
  | mk {as : List (SignedDecimal × String)} {r : Relation} {negative : Bool} {rel number : Token}
      {ts signs : List Token} :
      Terms as ts → IsRelation r rel → Signs negative signs → number.kind = .number →
      IsConstraint as r ⟨negative, Decimal.ofLiteral number.text.toList⟩
        (ts ++ rel :: (signs ++ [number]))

end LinearProgram.Grammar
