import Stackwright.Text.Blank

/-!
Trimming: what is left of a text when the characters of one kind are cut off both of its ends.
-/

namespace Stackwright

variable {p : Char → Bool} {cs inner run rest : List Char}

/-- The whole text is the inner one with characters of `p` around it, and the inner one neither
begins nor ends with such a character. -/
structure TrimsTo (p : Char → Bool) (cs inner : List Char) : Prop where
  around : ∃ before after, cs = before ++ (inner ++ after) ∧ (∀ c ∈ before, p c) ∧
    ∀ c ∈ after, p c
  first : ∀ c, inner.head? = some c → p c = false
  last : ∀ c, inner.getLast? = some c → p c = false

theorem takeWhile_run (ofRun : ∀ c ∈ run, p c) (stops : ∀ c, rest.head? = some c → p c = false) :
    (run ++ rest).takeWhile p = run := by
  rw [List.takeWhile_append_of_pos ofRun]
  cases rest with
  | nil => simp
  | cons c rest => simp [stops c rfl]

theorem dropWhile_run (ofRun : ∀ c ∈ run, p c) (stops : ∀ c, rest.head? = some c → p c = false) :
    (run ++ rest).dropWhile p = rest := by
  rw [List.dropWhile_append_of_pos ofRun]
  cases rest with
  | nil => rfl
  | cons c rest => simp [stops c rfl]

theorem getLast?_dropEnd (p : Char → Bool) (cs : List Char) {c : Char}
    (last : (dropEnd p cs).getLast? = some c) : p c = false := by
  rw [dropEnd, List.getLast?_reverse] at last
  have first := List.head?_dropWhile_not p cs.reverse
  rw [last] at first
  exact first

theorem head?_dropEnd {c : Char} (first : (dropEnd p cs).head? = some c) : cs.head? = some c := by
  obtain ⟨run, parted, _⟩ := dropEnd_append_run p cs
  rw [parted, List.head?_append, first]
  rfl

theorem dropEnd_run (ofRun : ∀ c ∈ run, p c)
    (stops : ∀ c, inner.getLast? = some c → p c = false) : dropEnd p (inner ++ run) = inner := by
  rw [dropEnd, List.reverse_append, dropWhile_run, List.reverse_reverse]
  · exact fun c member => ofRun c (List.mem_reverse.mp member)
  · intro c isFirst
    rw [List.head?_reverse] at isFirst
    exact stops c isFirst

theorem dropEnds_trimsTo (p : Char → Bool) (cs : List Char) : TrimsTo p cs (dropEnds p cs) where
  around := by
    obtain ⟨after, parted, ofEnd⟩ := dropEnd_append_run p (cs.dropWhile p)
    refine ⟨cs.takeWhile p, after, ?_, ?_, ofEnd⟩
    · rw [dropEnds, ← parted, List.takeWhile_append_dropWhile]
    · exact List.all_eq_true.mp List.all_takeWhile
  first := by
    intro c isFirst
    have notDropped := List.head?_dropWhile_not p cs
    rw [head?_dropEnd isFirst] at notDropped
    exact notDropped
  last := fun _ => getLast?_dropEnd p _

/-- Trimming finds the one inner text that there is. -/
theorem dropEnds_eq_iff : dropEnds p cs = inner ↔ TrimsTo p cs inner := by
  constructor
  · rintro rfl
    exact dropEnds_trimsTo p cs
  · rintro ⟨⟨before, after, rfl, ofStart, ofEnd⟩, first, last⟩
    cases inner with
    | nil =>
        -- all is of one run, and the search from the start ends behind it
        have oneRun : ∀ c ∈ before ++ after, p c := List.forall_mem_append.mpr ⟨ofStart, ofEnd⟩
        have noneLeft : (before ++ after).dropWhile p = [] := by
          rw [← List.append_nil (before ++ after)]
          exact dropWhile_run oneRun (by simp)
        rw [dropEnds, List.nil_append, noneLeft, dropEnd_nil]
    | cons c rest =>
        have stops : ∀ d, (c :: rest ++ after).head? = some d → p d = false := by
          intro d isFirst
          exact first d isFirst
        rw [dropEnds, dropWhile_run ofStart stops, dropEnd_run ofEnd last]

theorem dropEnds_of_none (kept : ∀ c ∈ cs, p c = false) : dropEnds p cs = cs := by
  refine dropEnds_eq_iff.mpr ⟨⟨[], [], by simp, by simp, by simp⟩, ?_, ?_⟩
  · exact fun c isFirst => kept c (List.mem_of_mem_head? isFirst)
  · exact fun c isLast => kept c (List.mem_of_mem_getLast? isLast)

end Stackwright
