import Mathlib.Data.List.Basic
import LinearProgram.Token.Scan

namespace LinearProgram

lemma Lexeme.kind_ne_finish (c : Char) (r : List Char) : (continuation c r).1 ≠ .finish := by
  fun_cases continuation c r <;> exact nofun

namespace Token

def isWord (t : Token) : Bool :=
  t.kind != .comment && t.kind != .finish

def words (source : String) : List Token :=
  (scan source).filter isWord

lemma kind_of_mem_words {source : String} {t : Token} (h : t ∈ words source) :
    t.kind ≠ .comment ∧ t.kind ≠ .finish := by
  simpa [isWord] using (List.mem_filter.1 h).2

lemma scanFrom_eq (pos : Nat) (cs : List Char) : ∃ ts fin, scanFrom pos cs = ts ++ [fin] ∧
    fin.kind = .finish ∧ ∀ t ∈ ts, t.kind ≠ .finish := by
  fun_induction scanFrom pos cs with
  | case1 pos => exact ⟨[], _, rfl, rfl, nofun⟩
  | case2 pos c r h ih => exact ih
  | case3 pos c r h text stop ih =>
    obtain ⟨ts, fin, hs, hfin, hts⟩ := ih
    refine ⟨_ :: ts, fin, by rw [hs]; rfl, hfin, List.forall_mem_cons.2 ⟨?_, hts⟩⟩
    exact Lexeme.kind_ne_finish c r

theorem significant_eq (source : String) :
    ∃ fin, significant source = words source ++ [fin] ∧ fin.kind = .finish := by
  obtain ⟨ts, fin, hs, hfin, hts⟩ := scanFrom_eq 0 source.toList
  refine ⟨fin, ?_, hfin⟩
  have hword : ts.filter (fun t => t.kind != .comment) = ts.filter isWord := by
    refine List.filter_congr fun t ht => ?_
    simp [isWord, hts t ht]
  rw [significant, words, scan, hs, List.filter_append, List.filter_append, hword]
  simp [hfin, isWord]

end Token

end LinearProgram
