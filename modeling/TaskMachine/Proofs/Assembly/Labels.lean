import Mathlib
import TaskMachine.Assembly.Assemble

/-! # The first pass: labels and instruction lines

`collectLines` reads the lines of a source once, numbering the instruction lines and giving
each label the address of the instruction after it.  Its answer is described here in terms
of the source alone.  When it succeeds, the lines it hands to the second pass carry the
tokens of the source's instruction lines in order (`collectLines_tokens`), and the label
table finds a name exactly at the address one past the instruction lines before the
name's definition (`lookup_collectLines_of_label`, `collectLines_lookup`).  It succeeds
whenever no label is defined twice (`collectLines_ok`). -/

set_option autoImplicit false

namespace TaskMachine.Assembly

def SourceLine.tokens? : SourceLine → Option (List String)
  | .instruction tokens => some tokens
  | _ => none

def SourceLine.label? : SourceLine → Option String
  | .label name => some name
  | _ => none

abbrev readLine (raw : String) : SourceLine :=
  classify (tokenize raw)

def instructionTokens (ls : List String) : List (List String) :=
  ls.filterMap fun raw => (readLine raw).tokens?

def labelNames (ls : List String) : List String :=
  ls.filterMap fun raw => (readLine raw).label?

/-- `name` is defined on a line of `source`, and so stands for `address`, one past the
instruction lines before that line: the position of the first instruction after it. -/
def LabelAt (source name : String) (address : Nat) : Prop :=
  ∃ pre raw post, sourceLines source = pre ++ raw :: post ∧ readLine raw = .label name ∧
    address = (instructionTokens pre).length + 1

theorem instructionTokens_cons (raw : String) (rest : List String) :
    instructionTokens (raw :: rest) =
      ((readLine raw).tokens?.map fun tokens => [tokens]).getD [] ++ instructionTokens rest := by
  simp only [instructionTokens, List.filterMap_cons]
  cases (readLine raw).tokens? <;> rfl

theorem labelNames_cons (raw : String) (rest : List String) :
    labelNames (raw :: rest) =
      ((readLine raw).label?.map fun name => [name]).getD [] ++ labelNames rest := by
  simp only [labelNames, List.filterMap_cons]
  cases (readLine raw).label? <;> rfl

theorem instructionTokens_append (pre post : List String) :
    instructionTokens (pre ++ post) = instructionTokens pre ++ instructionTokens post :=
  List.filterMap_append

theorem labelNames_append (pre post : List String) :
    labelNames (pre ++ post) = labelNames pre ++ labelNames post :=
  List.filterMap_append

theorem LabelAt.pos {source name : String} {address : Nat} (labelAt : LabelAt source name address) :
    1 ≤ address := by
  obtain ⟨-, -, -, -, -, rfl⟩ := labelAt
  omega

theorem instructionTokens_replicate {raw : String} {tokens : List String}
    (instruction : readLine raw = .instruction tokens) (n : Nat) :
    instructionTokens (List.replicate n raw) = List.replicate n tokens :=
  List.filterMap_replicate_of_some (by simp [instruction, SourceLine.tokens?])

theorem labelNames_replicate {raw : String} {tokens : List String}
    (instruction : readLine raw = .instruction tokens) (n : Nat) :
    labelNames (List.replicate n raw) = [] :=
  List.filterMap_replicate_of_none (by simp [instruction, SourceLine.label?])

theorem LabelAt.le_length {source name : String} {address : Nat}
    (labelAt : LabelAt source name address) :
    address ≤ (instructionTokens (sourceLines source)).length + 1 := by
  obtain ⟨pre, raw, post, hlines, -, rfl⟩ := labelAt
  rw [hlines, instructionTokens_append]
  simp only [List.length_append]
  omega

/-! ## One line of the first pass -/

section Step

variable {raw : String} {rest : List String} {line : Nat} {labels : Labels}
  {found : List (Nat × List String)}

theorem collectLines_blank (blank : readLine raw = .blank) :
    collectLines (raw :: rest) line labels found = collectLines rest (line + 1) labels found := by
  simp only [collectLines, blank]

theorem collectLines_label {name : String} (label : readLine raw = .label name) :
    collectLines (raw :: rest) line labels found =
      if (labels.lookup name).isSome then .error (.duplicateLabel line name)
      else collectLines rest (line + 1) ((name, found.length + 1) :: labels) found := by
  simp only [collectLines, label]

theorem collectLines_instruction {tokens : List String} (instruction : readLine raw = .instruction tokens) :
    collectLines (raw :: rest) line labels found =
      collectLines rest (line + 1) labels ((line, tokens) :: found) := by
  simp only [collectLines, instruction]

end Step

/-! ## What the first pass answers -/

theorem collectLines_tokens {ls : List String} {line : Nat} {labels labels' : Labels}
    {found lines : List (Nat × List String)}
    (collected : collectLines ls line labels found = .ok (labels', lines)) :
    lines.map Prod.snd = found.reverse.map Prod.snd ++ instructionTokens ls := by
  induction ls generalizing line labels found with
  | nil =>
    simp only [collectLines, Except.ok.injEq, Prod.mk.injEq] at collected
    simp [← collected.2, instructionTokens]
  | cons raw rest ih =>
    rw [instructionTokens_cons]
    rcases hraw : readLine raw with _ | name | tokens
    · rw [collectLines_blank hraw] at collected
      simpa [SourceLine.tokens?] using ih collected
    · rw [collectLines_label hraw] at collected
      split at collected
      · cases collected
      · simpa [SourceLine.tokens?] using ih collected
    · rw [collectLines_instruction hraw] at collected
      simpa [SourceLine.tokens?] using ih collected

theorem collectLines_lookup_mono {ls : List String} {line : Nat} {labels labels' : Labels}
    {found lines : List (Nat × List String)} {name : String} {address : Nat}
    (collected : collectLines ls line labels found = .ok (labels', lines))
    (labelled : labels.lookup name = some address) : labels'.lookup name = some address := by
  induction ls generalizing line labels found with
  | nil =>
    simp only [collectLines, Except.ok.injEq, Prod.mk.injEq] at collected
    rw [← collected.1]
    exact labelled
  | cons raw rest ih =>
    rcases hraw : readLine raw with _ | defined | tokens
    · exact ih (by rwa [collectLines_blank hraw] at collected) labelled
    · rw [collectLines_label hraw] at collected
      split at collected
      · cases collected
      · next hfresh =>
        -- the new entry is for another name, since `name` was already there
        refine ih collected ?_
        have hne : name ≠ defined := by
          rintro rfl
          simp [labelled] at hfresh
        simp [List.lookup, beq_false_of_ne hne, labelled]
    · exact ih (by rwa [collectLines_instruction hraw] at collected) labelled

theorem collectLines_lookup {ls : List String} {line : Nat} {labels labels' : Labels}
    {found lines : List (Nat × List String)} {name : String} {address : Nat}
    (collected : collectLines ls line labels found = .ok (labels', lines))
    (labelled : labels'.lookup name = some address) :
    labels.lookup name = some address ∨
      ∃ pre raw post, ls = pre ++ raw :: post ∧ readLine raw = .label name ∧
        address = found.length + (instructionTokens pre).length + 1 := by
  induction ls generalizing line labels found with
  | nil =>
    simp only [collectLines, Except.ok.injEq, Prod.mk.injEq] at collected
    rw [collected.1]
    exact .inl labelled
  | cons raw rest ih =>
    have later : ∀ extra, (∃ pre raw' post, rest = pre ++ raw' :: post ∧
        readLine raw' = .label name ∧
        address = found.length + extra + (instructionTokens pre).length + 1) →
        (instructionTokens [raw]).length = extra →
        ∃ pre raw' post, raw :: rest = pre ++ raw' :: post ∧ readLine raw' = .label name ∧
          address = found.length + (instructionTokens pre).length + 1 := by
      rintro extra ⟨pre, raw', post, rfl, hdef, rfl⟩ hextra
      refine ⟨raw :: pre, raw', post, rfl, hdef, ?_⟩
      rw [show raw :: pre = [raw] ++ pre from rfl, instructionTokens_append,
        List.length_append, hextra]
      omega
    rcases hraw : readLine raw with _ | defined | tokens
    · rw [collectLines_blank hraw] at collected
      rcases ih collected with hold | hnew
      · exact .inl hold
      · exact .inr (later 0 (by simpa using hnew)
          (by simp [instructionTokens, hraw, SourceLine.tokens?]))
    · rw [collectLines_label hraw] at collected
      split at collected
      · cases collected
      rcases ih collected with hold | hnew
      · by_cases hdef : name = defined
        · subst hdef
          simp only [List.lookup, beq_self_eq_true, Option.some.injEq] at hold
          exact .inr ⟨[], raw, rest, rfl, hraw, by simp [hold, instructionTokens]⟩
        · simp only [List.lookup, beq_false_of_ne hdef] at hold
          exact .inl hold
      · exact .inr (later 0 (by simpa using hnew)
          (by simp [instructionTokens, hraw, SourceLine.tokens?]))
    · rw [collectLines_instruction hraw] at collected
      rcases ih collected with hold | hnew
      · exact .inl hold
      · refine .inr (later 1 ?_ (by simp [instructionTokens, hraw, SourceLine.tokens?]))
        simpa [Nat.add_right_comm] using hnew

theorem lookup_collectLines_of_label {pre post : List String} {raw name : String}
    {line : Nat} {labels labels' : Labels} {found lines : List (Nat × List String)}
    (collected : collectLines (pre ++ raw :: post) line labels found = .ok (labels', lines))
    (label : readLine raw = .label name) :
    labels'.lookup name = some (found.length + (instructionTokens pre).length + 1) := by
  induction pre generalizing line labels found with
  | nil =>
    rw [List.nil_append, collectLines_label label] at collected
    split at collected
    · cases collected
    · refine collectLines_lookup_mono collected ?_
      simp [List.lookup, instructionTokens]
  | cons p pre ih =>
    rw [List.cons_append] at collected
    rcases hp : readLine p with _ | defined | tokens
    · rw [collectLines_blank hp] at collected
      simpa [instructionTokens_cons, hp, SourceLine.tokens?] using ih collected
    · rw [collectLines_label hp] at collected
      split at collected
      · cases collected
      · simpa [instructionTokens_cons, hp, SourceLine.tokens?] using ih collected
    · rw [collectLines_instruction hp] at collected
      have hnext := ih collected
      simp only [instructionTokens_cons, hp, SourceLine.tokens?, Option.map_some,
        Option.getD_some, List.singleton_append, List.length_cons] at hnext ⊢
      rw [hnext]
      congr 1
      omega

theorem collectLines_ok {ls : List String} (line : Nat) {labels : Labels}
    (found : List (Nat × List String)) (distinct : (labelNames ls).Nodup)
    (fresh : ∀ name ∈ labelNames ls, labels.lookup name = none) :
    ∃ labels' lines, collectLines ls line labels found = .ok (labels', lines) := by
  induction ls generalizing line labels found with
  | nil => exact ⟨_, _, rfl⟩
  | cons raw rest ih =>
    rw [labelNames_cons] at distinct fresh
    rcases hraw : readLine raw with _ | name | tokens
    · simp only [hraw, SourceLine.label?, Option.map_none, Option.getD_none,
        List.nil_append] at distinct fresh
      rw [collectLines_blank hraw]
      exact ih _ _ distinct fresh
    · simp only [hraw, SourceLine.label?, Option.map_some, Option.getD_some,
        List.singleton_append, List.nodup_cons, List.mem_cons] at distinct fresh
      rw [collectLines_label hraw, if_neg (by simp [fresh name (.inl rfl)])]
      refine ih _ _ distinct.2 fun n hn => ?_
      have hne : n ≠ name := fun heq => distinct.1 (heq ▸ hn)
      simp [List.lookup, beq_false_of_ne hne, fresh n (.inr hn)]
    · simp only [hraw, SourceLine.label?, Option.map_none, Option.getD_none,
        List.nil_append] at distinct fresh
      rw [collectLines_instruction hraw]
      exact ih _ _ distinct fresh

theorem lookup_iff_labelAt {source : String} {labels : Labels}
    {lines : List (Nat × List String)}
    (collected : collectLines (sourceLines source) 1 [] [] = .ok (labels, lines)) (name : String)
    (address : Nat) : labels.lookup name = some address ↔ LabelAt source name address := by
  constructor
  · intro hname
    rcases collectLines_lookup collected hname with hnil | ⟨pre, raw, post, hlines, hraw, rfl⟩
    · simp at hnil
    · exact ⟨pre, raw, post, hlines, hraw, by simp⟩
  · rintro ⟨pre, raw, post, hlines, hraw, rfl⟩
    rw [hlines] at collected
    simpa using lookup_collectLines_of_label collected hraw

end TaskMachine.Assembly
