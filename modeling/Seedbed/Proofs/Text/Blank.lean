import Mathlib.Data.List.TakeWhile
import Seedbed.Text.Blank

/-!
# Blanks at the two ends of a text

A text is blanks, what is left of it when it is trimmed, and blanks again (`exists_append_trim`), and where no character of a text is a
blank, it is left of every text that has it between blanks (`trim_append`).
-/

namespace Seedbed.Text

/-- Whether a text consists of blanks. -/
def AllBlank (cs : List Char) : Prop := ∀ c ∈ cs, isBlank c = true

/-- A text that is trimmed loses blanks in front and behind, and nothing else. -/
theorem exists_append_trim (cs : List Char) : ∃ front back, cs = front ++ trim cs ++ back ∧ AllBlank front ∧ AllBlank back := by
  have hfront : cs.takeWhile isBlank ++ cs.dropWhile isBlank = cs := List.takeWhile_append_dropWhile
  have hback : (cs.dropWhile isBlank).reverse.takeWhile isBlank ++ (cs.dropWhile isBlank).reverse.dropWhile isBlank =
      (cs.dropWhile isBlank).reverse := List.takeWhile_append_dropWhile
  refine ⟨cs.takeWhile isBlank, ((cs.dropWhile isBlank).reverse.takeWhile isBlank).reverse, ?_, ?_, ?_⟩
  · rw [trim, List.append_assoc, ← List.reverse_append, hback, List.reverse_reverse, hfront]
  · exact fun c hc => List.mem_takeWhile_imp hc
  · exact fun c hc => List.mem_takeWhile_imp (List.mem_reverse.1 hc)

/-- A text without blanks in it is what is left of it between blanks. -/
theorem trim_append {front body back : List Char} (hfront : AllBlank front) (hbody : ∀ c ∈ body, isBlank c = false)
    (hback : AllBlank back) : trim (front ++ body ++ back) = body := by
  rw [trim, List.append_assoc, List.dropWhile_append_of_pos hfront]
  cases body with
  | nil =>
    have hnil : back.dropWhile isBlank = [] := List.dropWhile_eq_nil_iff.2 hback
    rw [List.nil_append, hnil]
    rfl
  | cons c rest =>
    have hfirst : ((c :: rest) ++ back).dropWhile isBlank = (c :: rest) ++ back := by
      rw [List.cons_append, List.dropWhile_cons_of_neg (Bool.eq_false_iff.1 (hbody c List.mem_cons_self))]
    have hlast : (c :: rest).reverse.dropWhile isBlank = (c :: rest).reverse := by
      obtain ⟨last, others, hreverse⟩ := List.exists_cons_of_ne_nil (mt List.reverse_eq_nil_iff.1 (List.cons_ne_nil c rest))
      have hmem : last ∈ c :: rest := List.mem_reverse.1 (hreverse ▸ List.mem_cons_self)
      rw [hreverse, List.dropWhile_cons_of_neg (Bool.eq_false_iff.1 (hbody last hmem))]
    rw [hfirst, List.reverse_append, List.dropWhile_append_of_pos (fun c hc => hback c (List.mem_reverse.1 hc)), hlast,
      List.reverse_reverse]

end Seedbed.Text
