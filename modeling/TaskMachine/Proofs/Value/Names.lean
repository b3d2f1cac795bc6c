import Mathlib
import TaskMachine.Value.Ident

/-!
# Reading a name back from its written form

A name is written with each segment after a `/`, and as `/` alone when it has none; it is
read by splitting the text at every `/` and dropping the empty pieces. Reading loses exactly
what writing cannot carry: an empty segment, which leaves two slashes side by side, and a
segment holding a `/`, which reads back as two.

Everything rests on the pieces of a character list (`pieces`, the list form of
`Name.parse`) and three facts about them: a `/` cuts the pieces in two
(`pieces_append_slash`), a non-empty piece without a `/` stands alone
(`pieces_of_readable`), and no piece is empty or holds a `/` (`readable_of_mem_pieces`).

Main statements: `parse_display_of_readable`, `readable_of_mem_parse` and
`written_form_reads_back`: the written form of a name read from any text reads back as that
name, and a name reads back from its written form exactly when each of its segments is
non-empty and free of `/`, also after `Name.append`.
-/

set_option autoImplicit false

namespace TaskMachine.Name

/-- A segment that survives writing and reading: not empty and without a `/`. -/
def Readable (segment : List Char) : Prop :=
  segment ≠ [] ∧ '/' ∉ segment

/-- The pieces of a text between its slashes, the empty ones dropped. -/
def pieces (text : List Char) : List (List Char) :=
  (text.splitOn '/').filter (!·.isEmpty)

def slashed (segments : List (List Char)) : List Char :=
  (segments.map ('/' :: ·)).flatten

theorem parse_eq_pieces (s : String) : parse s = ⟨(pieces s.toList).map String.ofList⟩ := rfl

@[simp]
theorem pieces_nil : pieces [] = [] := rfl

theorem pieces_append_slash (x y : List Char) :
    pieces (x ++ '/' :: y) = pieces x ++ pieces y := by
  simp only [pieces, List.splitOn_append_cons_self, List.filter_append]

theorem pieces_of_readable {x : List Char} (readable : Readable x) : pieces x = [x] := by
  simp [pieces, List.splitOn_eq_singleton readable.2, readable.1]

theorem pieces_append_slashed (x : List Char) {segments : List (List Char)}
    (readable : ∀ segment ∈ segments, Readable segment) :
    pieces (x ++ slashed segments) = pieces x ++ segments := by
  induction segments generalizing x with
  | nil => simp [slashed]
  | cons segment rest ih =>
    have hrest : ∀ s ∈ rest, Readable s := fun s hs => readable s (List.mem_cons_of_mem _ hs)
    calc pieces (x ++ slashed (segment :: rest))
        = pieces (x ++ '/' :: (segment ++ slashed rest)) := by simp [slashed]
      _ = pieces x ++ (pieces segment ++ rest) := by rw [pieces_append_slash, ih segment hrest]
      _ = pieces x ++ segment :: rest := by
        rw [pieces_of_readable (readable segment List.mem_cons_self)]
        rfl

theorem pieces_slashed {segments : List (List Char)}
    (readable : ∀ segment ∈ segments, Readable segment) : pieces (slashed segments) = segments := by
  simpa using pieces_append_slashed [] readable

theorem slash_not_mem_of_mem_splitOn {text piece : List Char} (member : piece ∈ text.splitOn '/') :
    '/' ∉ piece := by
  induction text generalizing piece with
  | nil =>
    rw [List.splitOn_nil, List.mem_singleton] at member
    simp [member]
  | cons c rest ih =>
    rw [List.splitOn_cons_eq_if_modifyHead] at member
    split at member
    · rcases List.mem_cons.1 member with rfl | member
      · simp
      · exact ih member
    · rename_i hc
      rw [beq_iff_eq] at hc
      obtain ⟨first, others, hsplit⟩ := List.exists_cons_of_ne_nil (List.splitOn_ne_nil '/' rest)
      rw [hsplit, List.modifyHead_cons] at member
      have hfirst : '/' ∉ first := ih (hsplit ▸ List.mem_cons_self)
      rcases List.mem_cons.1 member with rfl | member
      · simp only [List.mem_cons, not_or]
        exact ⟨fun e => hc e.symm, hfirst⟩
      · exact ih (hsplit ▸ List.mem_cons_of_mem _ member)

theorem readable_of_mem_pieces {text piece : List Char} (member : piece ∈ pieces text) :
    Readable piece := by
  obtain ⟨hsplit, hne⟩ := List.mem_filter.1 member
  exact ⟨by simpa using hne, slash_not_mem_of_mem_splitOn hsplit⟩

theorem readable_iff (segment : String) :
    Readable segment.toList ↔ segment ≠ "" ∧ '/' ∉ segment.toList := by
  simp [Readable]

theorem readable_of_mem_parse (s : String) :
    ∀ segment ∈ (parse s).segments, segment ≠ "" ∧ '/' ∉ segment.toList := by
  intro segment hseg
  rw [parse_eq_pieces, List.mem_map] at hseg
  obtain ⟨piece, hpiece, rfl⟩ := hseg
  simpa [Readable] using readable_of_mem_pieces hpiece

theorem toList_display {n : Name} (nonempty : n.segments ≠ []) :
    n.display.toList = slashed (n.segments.map String.toList) := by
  have hslash : "/".toList = ['/'] := by decide
  simp [display, nonempty, slashed, List.flatMap_def, Function.comp_def, hslash]

theorem parse_display_of_readable {n : Name}
    (readable : ∀ segment ∈ n.segments, segment ≠ "" ∧ '/' ∉ segment.toList) :
    parse n.display = n := by
  by_cases hnil : n.segments = []
  · obtain ⟨segments⟩ := n
    subst hnil
    decide
  · have hread : ∀ piece ∈ n.segments.map String.toList, Readable piece := by
      simp only [List.mem_map]
      rintro _ ⟨segment, hseg, rfl⟩
      exact (readable_iff segment).2 (readable segment hseg)
    rw [parse_eq_pieces, toList_display hnil, pieces_slashed hread]
    simp

theorem parse_display_iff (n : Name) :
    parse n.display = n ↔ ∀ segment ∈ n.segments, segment ≠ "" ∧ '/' ∉ segment.toList := by
  constructor
  · intro h
    rw [← h]
    exact readable_of_mem_parse n.display
  · exact parse_display_of_readable

example : parse (root.append "b/c").display = ⟨["b", "c"]⟩ := by decide

theorem written_form_reads_back :
    (∀ s : String, parse (parse s).display = parse s) ∧
    (∀ n : Name,
      parse n.display = n ↔ ∀ segment ∈ n.segments, segment ≠ "" ∧ '/' ∉ segment.toList) ∧
    (∀ (n : Name) (segment : String),
      parse (n.append segment).display = n.append segment ↔
        parse n.display = n ∧ segment ≠ "" ∧ '/' ∉ segment.toList) := by
  refine ⟨fun s => parse_display_of_readable (readable_of_mem_parse s), parse_display_iff, ?_⟩
  intro n segment
  simp only [parse_display_iff, append, List.forall_mem_append, List.forall_mem_singleton]

end TaskMachine.Name
